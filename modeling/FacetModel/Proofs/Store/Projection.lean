import FacetModel.Proofs.Json.Equality
import FacetModel.Store.Evaluation

/-!
# What a projection keeps

A projection makes a member of each of its fields, with the whole path as its name. A path is read
name by name, though, so in a projected row it leads through the member of its first name
(`Json.atPath_project`), and to null if that is no field. A path is kept, on some rows, if its first
name is a field or if it leads to null in all of them anyway (`Keeps`). Fields without dots are kept
on all rows (`keeps_of_forall_notMem`).

Predicates that read kept paths only are true of a projected row if they are true of the row itself,
so they can be moved across the projection, and these are all paths for which this is so
(`evaluate_project_iff`).
-/

namespace FacetModel

/-! ### Paths in projected rows -/

/-- The first of the names in a path. -/
def firstName (path : String) : String := String.ofList (path.toList.takeWhile (· ≠ '.'))

/-- A path begins with its first name, whatever comes after it. -/
theorem split_eq_firstName_cons (path : String) :
    ∃ rest, Text.split '.' path = firstName path :: rest := by
  obtain ⟨rest, h⟩ := Text.splitAfter_eq_cons '.' [] path.toList
  exact ⟨rest.map String.ofList, by rw [Text.split, h]; rfl⟩

/-- The first name of a path has no dot in it, so as a path it is one name. -/
theorem split_firstName (path : String) : Text.split '.' (firstName path) = [firstName path] := by
  have hdot : '.' ∉ path.toList.takeWhile (· ≠ '.') := fun h => by
    simpa using List.all_eq_true.1 List.all_takeWhile '.' h
  rw [Text.split, firstName, String.toList_ofList, Text.splitAfter_of_notMem hdot]
  rfl

/-- A path without a dot is its own first name. -/
theorem firstName_of_notMem {path : String} (h : '.' ∉ path.toList) : firstName path = path := by
  obtain ⟨rest, hsplit⟩ := Text.splitAfter_eq_cons '.' [] path.toList
  rw [Text.splitAfter_of_notMem h] at hsplit
  have hall : path.toList.takeWhile (· ≠ '.') = path.toList := (List.cons.inj hsplit).1.symm
  rw [firstName, hall, String.ofList_toList]

namespace Members

/-- Members that are set to what a function gives for their names have these values. -/
theorem get?_setAll_map {σ : Type} (ms : Members σ) (names : List String) (value : String → Tree σ)
    (name : String) :
    (ms.setAll (names.map fun n => (n, value n))).get? name =
      if name ∈ names then some (value name) else ms.get? name := by
  induction names generalizing ms with
  | nil => rfl
  | cons n names ih =>
    have hstep : ms.setAll ((n :: names).map fun n => (n, value n)) =
        (ms.set n (value n)).setAll (names.map fun n => (n, value n)) := rfl
    rw [hstep, ih, get?_set]
    by_cases hmem : name ∈ names
    · rw [if_pos hmem, if_pos (List.mem_cons_of_mem n hmem)]
    · by_cases heq : name = n
      · rw [if_neg hmem, if_pos heq, if_pos (heq ▸ List.mem_cons_self), heq]
      · rw [if_neg hmem, if_neg heq, if_neg (List.not_mem_cons_of_ne_of_not_mem heq hmem)]

end Members

namespace Json

variable {fields : List String} {row : Json}

/-- A projected row has the fields as members, each with what its path leads to. -/
theorem get?_project (fields : List String) (row : Json) (name : String) :
    (project fields row).get? name = if name ∈ fields then some (row.atPath name) else none :=
  Members.get?_setAll_map [] fields row.atPath name

/-- Two rows have the same projection exactly if they have the same values at its fields. -/
theorem project_eq_project_iff {other : Json} :
    project fields row = project fields other ↔
      ∀ path ∈ fields, row.atPath path = other.atPath path := by
  constructor
  · intro h path hpath
    have hget := get?_project fields row path
    rw [h, get?_project, if_pos hpath, if_pos hpath] at hget
    exact (Option.some.inj hget).symm
  · intro h
    rw [project, project]
    congr 2
    exact List.map_congr_left fun path hpath => by rw [h path hpath]

theorem follow_null (names : List String) : follow .null names = .null := by
  induction names with
  | nil => rfl
  | cons name names ih => exact ih

/-- A path leads through the member of its first name. -/
theorem atPath_project (fields : List String) (row : Json) (path : String) :
    (project fields row).atPath path =
      if firstName path ∈ fields then row.atPath path else .null := by
  obtain ⟨rest, hsplit⟩ := split_eq_firstName_cons path
  have hfollow (j : Json) : j.atPath path = (j.member (firstName path)).follow rest := by
    rw [atPath, hsplit]
    rfl
  have hmember : row.atPath (firstName path) = row.member (firstName path) := by
    rw [atPath, split_firstName]
    rfl
  rw [hfollow, hfollow, member, get?_project, hmember]
  split
  · rfl
  · exact follow_null rest

/-- A path leads to the same after a projection if its first name is kept or if it led to null
anyway. -/
theorem atPath_project_eq_iff {path : String} :
    (project fields row).atPath path = row.atPath path ↔
      firstName path ∈ fields ∨ row.atPath path = .null := by
  rw [atPath_project]
  -- a first name that is no field leads to null in the projected row
  by_cases h : firstName path ∈ fields
  · simp [h]
  · simp [h, eq_comm]

end Json

/-! ### Predicates -/

/-- The paths that an expression reads. -/
def ScalarExpr.paths : ScalarExpr → List String
  | .property path => [path]
  | .literal _ => []
  | .compare _ left right => left.paths ++ right.paths
  | .and left right => left.paths ++ right.paths
  | .or left right => left.paths ++ right.paths
  | .not inner => inner.paths

namespace ScalarExpr

/-- The value of an expression depends on the values at its paths only. -/
theorem value_congr {e : ScalarExpr} {row other : Json}
    (h : ∀ path ∈ e.paths, row.atPath path = other.atPath path) : e.value row = e.value other := by
  induction e with
  | property path => exact h path (List.mem_singleton_self path)
  | literal v => rfl
  | compare op left right ihl ihr =>
    obtain ⟨hl, hr⟩ := List.forall_mem_append.1 h
    rw [value, value, ihl hl, ihr hr]
  | and left right ihl ihr =>
    obtain ⟨hl, hr⟩ := List.forall_mem_append.1 h
    rw [value, value, ihl hl, ihr hr]
  | or left right ihl ihr =>
    obtain ⟨hl, hr⟩ := List.forall_mem_append.1 h
    rw [value, value, ihl hl, ihr hr]
  | not inner ih => rw [value, value, ih h]

/-- Whether there is nothing at a path. -/
def isNull (path : String) : ScalarExpr := propertyEq path .null

/-- The test for null accepts the rows in which the path leads to null. -/
theorem accepts_isNull {path : String} {row : Json} :
    (isNull path).accepts row ↔ row.atPath path = .null := by
  -- only null is the same as null
  have hcompare (j : Json) : CompareOp.eq.holds (j.compare? .null) = true ↔ j = .null := by
    cases j with
    | scalar value =>
      cases value <;> simp [Json.compare?, Json.same, Json.Scalar.same, CompareOp.holds]
    | list items => simp [Json.compare?, Json.same, CompareOp.holds]
    | object members => simp [Json.compare?, Json.same, CompareOp.holds]
  exact hcompare (row.atPath path)

end ScalarExpr

/-! ### Kept paths -/

/-- On some rows, each of some paths has a field of a projection as its first name or leads to
null. -/
def Keeps (fields : List String) (rows : List Json) (paths : List String) : Prop :=
  ∀ path ∈ paths, firstName path ∈ fields ∨ ∀ row ∈ rows, row.atPath path = .null

/-- Fields without dots are kept by their own projection. -/
theorem keeps_of_forall_notMem {fields : List String} (h : ∀ path ∈ fields, '.' ∉ path.toList)
    (rows : List Json) : Keeps fields rows fields :=
  fun path hpath => .inl (by rwa [firstName_of_notMem (h path hpath)])

namespace Query

variable {database : String} {collections : Collections} {q : Query} {rows : List Json}

theorem evaluate_project (h : q.evaluate database collections = .ok rows) (fields : List String) :
    (q.project fields).evaluate database collections =
      .ok (rows.map (Json.project fields)) := by
  rw [evaluate, h]
  rfl

theorem evaluate_filter (h : q.evaluate database collections = .ok rows) (p : ScalarExpr) :
    (q.filter p).evaluate database collections = .ok (rows.filter p.accepts) := by
  rw [evaluate, h]
  rfl

/-- Projecting again changes nothing exactly if the projection keeps its own fields. -/
theorem project_project_iff (h : q.evaluate database collections = .ok rows)
    (fields : List String) :
    ((q.project fields).project fields).evaluate database collections =
        (q.project fields).evaluate database collections ↔ Keeps fields rows fields := by
  have hproject := evaluate_project h fields
  rw [evaluate_project hproject, hproject, Except.ok.injEq, List.map_map, List.map_inj_left]
  simp only [Function.comp_apply, Json.project_eq_project_iff, Json.atPath_project_eq_iff, Keeps]
  constructor
  · intro hrows path hpath
    -- whether the first name is a field does not depend on the row
    by_cases hfirst : firstName path ∈ fields
    · exact .inl hfirst
    · exact .inr fun row hrow => (hrows row hrow path hpath).resolve_left hfirst
  · intro hkeeps row hrow path hpath
    exact (hkeeps path hpath).imp_right fun hnull => hnull row hrow

/-- The two orders of filtering and projecting differ only in which rows are accepted. -/
theorem filter_project_eq_iff (h : q.evaluate database collections = .ok rows)
    (fields : List String) (p : ScalarExpr) :
    ((q.project fields).filter p).evaluate database collections =
        ((q.filter p).project fields).evaluate database collections ↔
      (rows.filter fun row => p.accepts (row.project fields)).map (Json.project fields) =
        (rows.filter p.accepts).map (Json.project fields) := by
  rw [evaluate_filter (evaluate_project h fields), evaluate_project (evaluate_filter h p),
    Except.ok.injEq, List.filter_map]
  rfl

/-- They do not differ if the projection keeps what the filter looks at. -/
theorem filter_project_eq (h : q.evaluate database collections = .ok rows) {fields : List String}
    {p : ScalarExpr} (hkeeps : Keeps fields rows p.paths) :
    ((q.project fields).filter p).evaluate database collections =
      ((q.filter p).project fields).evaluate database collections := by
  have hsame : ∀ row ∈ rows, p.accepts (row.project fields) = p.accepts row := by
    intro row hrow
    have hpaths : ∀ path ∈ p.paths, (row.project fields).atPath path = row.atPath path := by
      intro path hpath
      rw [Json.atPath_project_eq_iff]
      exact (hkeeps path hpath).imp_right fun hnull => hnull row hrow
    rw [ScalarExpr.accepts, ScalarExpr.accepts, ScalarExpr.value_congr hpaths]
  rw [filter_project_eq_iff h, List.filter_congr hsame]

/-- A path that is not kept leads to null in all projected rows, but not in all rows. -/
theorem forall_atPath_eq_null (h : q.evaluate database collections = .ok rows)
    {fields : List String} {path : String} (hfirst : firstName path ∉ fields)
    (heq : ((q.project fields).filter (.isNull path)).evaluate database collections =
      ((q.filter (.isNull path)).project fields).evaluate database collections) :
    ∀ row ∈ rows, row.atPath path = .null := by
  have hprojected : ∀ row ∈ rows, (ScalarExpr.isNull path).accepts (row.project fields) := by
    intro row _
    rw [ScalarExpr.accepts_isNull, Json.atPath_project, if_neg hfirst]
  have hrows := (filter_project_eq_iff h fields _).1 heq
  rw [List.filter_eq_self.2 hprojected] at hrows
  -- no row is lost, so each of them is accepted
  have hlength := congrArg List.length hrows
  rw [List.length_map, List.length_map] at hlength
  intro row hrow
  have haccepted := List.length_filter_eq_length_iff.1 hlength.symm row hrow
  exact ScalarExpr.accepts_isNull.1 haccepted

/-- **What a projection keeps.** Projecting twice to some fields gives the same rows as projecting
once exactly if the fields are kept. Predicates that read some paths only can be moved across the
projection exactly if these paths are kept. -/
theorem evaluate_project_iff (h : q.evaluate database collections = .ok rows)
    (fields : List String) :
    (((q.project fields).project fields).evaluate database collections =
        (q.project fields).evaluate database collections ↔ Keeps fields rows fields) ∧
      ∀ paths : List String,
        (∀ p : ScalarExpr, p.paths ⊆ paths →
          ((q.project fields).filter p).evaluate database collections =
            ((q.filter p).project fields).evaluate database collections) ↔
        Keeps fields rows paths := by
  refine ⟨project_project_iff h fields, ?_⟩
  intro paths
  constructor
  · intro hmoved path hpath
    by_cases hfirst : firstName path ∈ fields
    · exact .inl hfirst
    · have hread : (ScalarExpr.isNull path).paths ⊆ paths :=
        List.cons_subset.2 ⟨hpath, List.nil_subset paths⟩
      exact .inr (forall_atPath_eq_null h hfirst (hmoved (.isNull path) hread))
  · intro hkeeps p hread
    have hkept : Keeps fields rows p.paths := fun path hpath => hkeeps path (hread hpath)
    exact filter_project_eq h hkept

/-! ### Rows with addresses -/

/-- A person with an address. -/
def ann : Json :=
  .record [("Name", .str "Ann"), ("Address", .record [("City", .str "Oslo")])]

/-- A person without an address. -/
def bob : Json := .record [("Name", .str "Bob")]

/-- Persons by name. -/
def peopleCollections : Collections := .ofList [("People", [ann, bob])]

/-- All persons. -/
def people : Query := .source (.openCollection "db" "People" "Person")

/-- Whether somebody lives in Oslo. -/
def livesInOslo : ScalarExpr := .propertyEq "Address.City" (.str "Oslo")

/-- Addresses keep their cities. -/
theorem evaluate_project_people :
    people.evaluate "db" peopleCollections = .ok [ann, bob] ∧
      ((people.project ["Name", "Address"]).project ["Name", "Address"]).evaluate "db"
          peopleCollections =
        (people.project ["Name", "Address"]).evaluate "db" peopleCollections ∧
      ((people.project ["Name", "Address"]).filter livesInOslo).evaluate "db" peopleCollections =
        ((people.filter livesInOslo).project ["Name", "Address"]).evaluate "db"
          peopleCollections := by
  have hpeople : people.evaluate "db" peopleCollections = .ok [ann, bob] := rfl
  have hcity : firstName "Address.City" = "Address" := by decide +kernel
  obtain ⟨htwice, hmoved⟩ := evaluate_project_iff hpeople ["Name", "Address"]
  refine ⟨hpeople, htwice.2 (keeps_of_forall_notMem (by decide) _),
    (hmoved ["Address.City"]).2 ?_ livesInOslo ?_⟩
  · simp [Keeps, hcity]
  · simp [livesInOslo, ScalarExpr.propertyEq, ScalarExpr.paths]

/-- A city without its address is lost when it is projected again, and no predicate finds it. -/
theorem not_keeps_city :
    people.evaluate "db" peopleCollections = .ok [ann, bob] ∧
      ((people.project ["Address.City"]).project ["Address.City"]).evaluate "db"
          peopleCollections ≠
        (people.project ["Address.City"]).evaluate "db" peopleCollections ∧
      livesInOslo.paths = ["Address.City"] ∧
      ((people.project ["Address.City"]).filter livesInOslo).evaluate "db" peopleCollections ≠
        ((people.filter livesInOslo).project ["Address.City"]).evaluate "db"
          peopleCollections := by
  have honce : (people.project ["Address.City"]).evaluate "db" peopleCollections =
      .ok [.record [("Address.City", .str "Oslo")], .record [("Address.City", .null)]] := rfl
  have htwice : ((people.project ["Address.City"]).project ["Address.City"]).evaluate "db"
        peopleCollections =
      .ok [.record [("Address.City", .null)], .record [("Address.City", .null)]] := rfl
  have hafter : ((people.project ["Address.City"]).filter livesInOslo).evaluate "db"
      peopleCollections = .ok [] := rfl
  have hbefore : ((people.filter livesInOslo).project ["Address.City"]).evaluate "db"
      peopleCollections = .ok [.record [("Address.City", .str "Oslo")]] := rfl
  refine ⟨rfl, ?_, rfl, ?_⟩
  · rw [honce, htwice]
    simp
  · rw [hafter, hbefore]
    simp

end Query

end FacetModel
