import FacetModel.Proofs.Model.References
import Mathlib.Data.Fintype.EquivFin

/-!
# Walks along base types

A walk ends if some number of rounds suffices for it (`Model.EndsWith`). What it finds is told by
the lineage of a type (`Model.lineage`), which keeps in mind the types that it has met and lists
each of them once: a walk that ends has found the first thing along the lineage. As no more types
are listed than the model has, that many rounds suffice for every walk that ends, and `Model.walk`
has a result exactly then (`walk_eq_some_iff`).

If no base types lead from a type back to it, all walks end (`Model.Acyclic`,
`EndsWith.of_acyclic`). From a type on a circle a walk never ends, unless it finds what it looks for
(`climb?_eq_none`). Some navigation property is always missing; so the models without circles are
just those where all such walks end (`acyclic_iff_walksEnd`).
-/

namespace FacetModel

namespace Model

variable {m : Model} {α : Type} {found : ModelType → Option α} {name : String}

/-- No base types lead from a type back to it. -/
def Acyclic (m : Model) : Prop := ∀ name, ¬ Relation.TransGen m.HasBase name name

/-- The walk from a type ends with what it found, or with nothing. -/
def EndsWith (m : Model) (found : ModelType → Option α) (name : String) (result : Option α) :
    Prop :=
  ∃ steps, m.climb? found steps (m.findType? name) = some result

/-- Walks end with what is found along the lineage: those for navigation properties, whatever the
type and the name, and those for keys. -/
structure WalksEnd (m : Model) : Prop where
  navigation : ∀ type property,
    m.EndsWith (·.navigation? property) type (m.findNavigation? type property)
  keys : ∀ type, ∃ keys?,
    m.EndsWith ModelType.ownKeys? type keys? ∧ keys?.getD [] = m.keyProperties type

/-! ### Rounds of a walk -/

/-- Rounds that suffice for a walk are not made insufficient by more of them. -/
theorem climb?_mono {steps more : Nat} (h : steps ≤ more) {t? : Option ModelType}
    {result : Option α} (hend : m.climb? found steps t? = some result) :
    m.climb? found more t? = some result := by
  induction steps, t? using climb?.induct m found generalizing more with
  | case1 steps => rwa [climb?] at hend ⊢
  | case2 t => cases hend
  | case3 steps t a hfound =>
    obtain ⟨more, rfl⟩ := Nat.exists_eq_add_of_le' (Nat.one_le_of_lt h)
    rwa [climb?, hfound] at hend ⊢
  | case4 steps t hfound ih =>
    obtain ⟨more, rfl⟩ := Nat.exists_eq_add_of_le' (Nat.one_le_of_lt h)
    rw [climb?, hfound] at hend ⊢
    exact ih (Nat.le_of_succ_le_succ h) hend

/-- Nothing is found on a type, so that a walk goes on with its base type. -/
def PassesTo (m : Model) (found : ModelType → Option α) (name base : String) : Prop :=
  ∃ t, m.findType? name = some t ∧ found t = none ∧ t.baseType = some base

/-- Among types from which it is always passed on to one of them, a walk does not end. -/
theorem climb?_eq_none_of_passesTo {within : String → Prop}
    (hpass : ∀ n, within n → ∃ base, m.PassesTo found n base ∧ within base) (hname : within name)
    (steps : Nat) : m.climb? found steps (m.findType? name) = none := by
  induction steps generalizing name with
  | zero =>
    obtain ⟨_, ⟨t, ht, -⟩, -⟩ := hpass name hname
    rw [ht, climb?]
  | succ steps ih =>
    obtain ⟨base, ⟨t, ht, hfound, hbase⟩, hwithin⟩ := hpass name hname
    rw [ht, climb?, hfound, baseOf?, hbase]
    exact ih hwithin

/-! ### Lineages -/

/-- The types of a model whose names are not in a list. -/
def unmet (m : Model) (met : List String) : List ModelType := m.types.filter (·.name ∉ met)

theorem name_of_findType? {t : ModelType} (ht : m.findType? name = some t) : t.name = name := by
  simpa using List.find?_some ht

/-- Meeting a type leaves fewer that were not met, so lineages are finite. -/
theorem unmet_lt {m : Model} {name : String} {t : ModelType} {met : List String}
    (ht : m.findType? name = some t) (hm : name ∉ met) :
    (m.unmet (name :: met)).length < (m.unmet met).length := by
  have hname : t.name = name := name_of_findType? ht
  exact length_filter_lt (a := t) (by simp) (List.mem_of_find?_eq_some ht)
    (by simpa [hname] using hm) (by simp [hname])

/-- The types from a name along the base types, without those whose names were met before. -/
def lineageFrom (m : Model) (met : List String) (name : String) : List ModelType :=
  if _hm : name ∈ met then []
  else
    match _ht : m.findType? name with
    | none => []
    | some t =>
      match t.baseType with
      | none => [t]
      | some base => t :: lineageFrom m (name :: met) base
termination_by (m.unmet met).length
decreasing_by exact unmet_lt _ht _hm

/-- A type and its base types, nearest first. Each type is listed once, also where the base types
lead back to it. -/
def lineage (m : Model) (typeName : String) : List ModelType := m.lineageFrom [] typeName

/-- The base type of a type that is found is a base type of its name. -/
theorem hasBase_of_findType? {t : ModelType} {base : String} (ht : m.findType? name = some t)
    (hbase : t.baseType = some base) : m.HasBase name base :=
  ⟨t, List.mem_of_find?_eq_some ht, name_of_findType? ht, hbase⟩

theorem lineageFrom_of_mem {met : List String} (h : name ∈ met) : m.lineageFrom met name = [] := by
  rw [lineageFrom, dif_pos h]

theorem lineageFrom_of_none {met : List String} (hmem : name ∉ met) (ht : m.findType? name = none) :
    m.lineageFrom met name = [] := by
  rw [lineageFrom, dif_neg hmem]
  split
  · rfl
  · rename_i hsome
    cases ht.symm.trans hsome

/-- A type comes first, and the lineage of its base type after it. -/
theorem lineageFrom_of_some {met : List String} (hmem : name ∉ met) {t : ModelType}
    (ht : m.findType? name = some t) :
    m.lineageFrom met name =
      t :: (t.baseType.map (m.lineageFrom (name :: met))).getD [] := by
  rw [lineageFrom, dif_neg hmem]
  split
  · rename_i hnone
    cases hnone.symm.trans ht
  · rename_i hsome
    cases ht.symm.trans hsome
    split
    · rename_i hbase
      rw [hbase]
      rfl
    · rename_i base hbase
      rw [hbase]
      rfl

/-- No more types are listed than there are that were not met. -/
theorem length_lineageFrom_le (m : Model) (met : List String) (name : String) :
    (m.lineageFrom met name).length ≤ (m.unmet met).length := by
  induction met, name using lineageFrom.induct m with
  | case1 met name hmem =>
    rw [lineageFrom_of_mem hmem]
    exact Nat.zero_le _
  | case2 met name hmem ht =>
    rw [lineageFrom_of_none hmem ht]
    exact Nat.zero_le _
  | case3 met name hmem t ht hbase =>
    rw [lineageFrom_of_some hmem ht, hbase]
    exact Nat.one_le_of_lt (unmet_lt ht hmem)
  | case4 met name hmem t ht base hbase ih =>
    rw [lineageFrom_of_some hmem ht, hbase]
    exact Nat.succ_le_of_lt (ih.trans_lt (unmet_lt ht hmem))

/-- What is found first along some types is what the nearest one has, or else what is found along
the others. -/
theorem findSome?_cons_eq_or (found : ModelType → Option α) (t : ModelType)
    (rest : List ModelType) :
    (t :: rest).findSome? found = (found t).or (rest.findSome? found) := by
  rw [List.findSome?_cons]
  cases found t <;> rfl

/-! ### What walks find -/

/-- A walk ends if that from the base type ends, where there is one. -/
theorem EndsWith.of_findType? {t : ModelType} {rest : Option α} (ht : m.findType? name = some t)
    (hrest : ∃ steps, m.climb? found steps (m.baseOf? t) = some rest) :
    m.EndsWith found name ((found t).or rest) := by
  obtain ⟨steps, hsteps⟩ := hrest
  refine ⟨steps + 1, ?_⟩
  rw [ht, climb?]
  cases found t with
  | some a => rfl
  | none => exact hsteps

/-- A walk that finds something along the lineage ends with it. -/
theorem EndsWith.of_findSome? {met : List String} {a : α}
    (h : (m.lineageFrom met name).findSome? found = some a) : m.EndsWith found name (some a) := by
  induction met, name using lineageFrom.induct m with
  | case1 met name hmem =>
    rw [lineageFrom_of_mem hmem] at h
    cases h
  | case2 met name hmem ht =>
    rw [lineageFrom_of_none hmem ht] at h
    cases h
  | case3 met name hmem t ht hbase =>
    rw [lineageFrom_of_some hmem ht, findSome?_cons_eq_or, hbase] at h
    rw [← h]
    exact .of_findType? ht ⟨0, by rw [baseOf?, hbase]; rfl⟩
  | case4 met name hmem t ht base hbase ih =>
    rw [lineageFrom_of_some hmem ht, findSome?_cons_eq_or, hbase] at h
    cases hfound : found t with
    | some first =>
      rw [hfound] at h
      exact ⟨1, by rw [ht, climb?, hfound]; exact congrArg some h⟩
    | none =>
      rw [hfound] at h
      obtain ⟨steps, hsteps⟩ := ih h
      exact ⟨steps + 1, by rw [ht, climb?, hfound, baseOf?, hbase]; exact hsteps⟩

/-- Where there is no type, a walk ends without having found anything. -/
theorem EndsWith.eq_none {result : Option α} (h : m.EndsWith found name result)
    (ht : m.findType? name = none) : result = none := by
  obtain ⟨steps, hsteps⟩ := h
  rw [ht, climb?] at hsteps
  exact (Option.some.inj hsteps).symm

/-- A walk that ends has found something on the first type, or ends from its base type. -/
theorem EndsWith.cases_of_findType? {result : Option α} (h : m.EndsWith found name result)
    {t : ModelType} (ht : m.findType? name = some t) :
    (found t).isSome ∧ result = found t ∨
      found t = none ∧ ∃ steps, m.climb? found steps (m.baseOf? t) = some result := by
  obtain ⟨_ | steps, hsteps⟩ := h
  · rw [ht] at hsteps
    cases hsteps
  · rw [ht, climb?] at hsteps
    cases hfound : found t with
    | some a =>
      rw [hfound] at hsteps
      exact .inl ⟨rfl, (Option.some.inj hsteps).symm⟩
    | none =>
      rw [hfound] at hsteps
      exact .inr ⟨rfl, steps, hsteps⟩

/-- A walk that ends has found the first thing along the lineage, within as many rounds as that is
long. The types that were met before led the walk here, each by its base type, so it would not end
if it came back to one of them. -/
theorem EndsWith.along_lineageFrom {met : List String} {result : Option α}
    (h : m.EndsWith found name result)
    (hmet : ∀ n ∈ met, ∃ base, m.PassesTo found n base ∧ (base ∈ met ∨ base = name)) :
    m.climb? found (m.lineageFrom met name).length (m.findType? name) = some result ∧
      (m.lineageFrom met name).findSome? found = result := by
  induction met, name using lineageFrom.induct m with
  | case1 met name hmem =>
    -- the walk is back at a type that it has met, and would go round for ever
    have hpass : ∀ n, n ∈ met → ∃ base, m.PassesTo found n base ∧ base ∈ met := by
      intro n hn
      obtain ⟨base, hbase, hnext⟩ := hmet n hn
      exact ⟨base, hbase, hnext.elim id fun heq => heq ▸ hmem⟩
    obtain ⟨steps, hsteps⟩ := h
    cases (climb?_eq_none_of_passesTo hpass hmem steps).symm.trans hsteps
  | case2 met name hmem ht =>
    rw [h.eq_none ht, lineageFrom_of_none hmem ht, ht]
    exact ⟨rfl, rfl⟩
  | case3 met name hmem t ht hbase =>
    rw [lineageFrom_of_some hmem ht, findSome?_cons_eq_or, hbase, ht, List.length_cons, climb?]
    obtain ⟨hsome, rfl⟩ | ⟨hfound, steps, hsteps⟩ := h.cases_of_findType? ht
    · obtain ⟨a, ha⟩ := Option.isSome_iff_exists.1 hsome
      rw [ha]
      exact ⟨rfl, rfl⟩
    · rw [baseOf?, hbase, Option.bind_none, climb?] at hsteps
      rw [hfound, baseOf?, hbase, ← Option.some.inj hsteps]
      exact ⟨rfl, rfl⟩
  | case4 met name hmem t ht base hbase ih =>
    rw [lineageFrom_of_some hmem ht, findSome?_cons_eq_or, hbase, ht, List.length_cons, climb?]
    obtain ⟨hsome, rfl⟩ | ⟨hfound, hend⟩ := h.cases_of_findType? ht
    · obtain ⟨a, ha⟩ := Option.isSome_iff_exists.1 hsome
      rw [ha]
      exact ⟨rfl, rfl⟩
    · rw [baseOf?, hbase, Option.bind_some] at hend
      rw [hfound, baseOf?, hbase]
      -- nothing was found on this type either, so it joins those that led the walk on
      refine ih hend fun n hn => ?_
      rcases List.mem_cons.1 hn with rfl | hn
      · exact ⟨base, ⟨t, ht, hfound, hbase⟩, .inr rfl⟩
      · obtain ⟨next, hnext, hmem⟩ := hmet n hn
        exact ⟨next, hnext, .inl (List.mem_cons.2 hmem.symm)⟩

/-- **A walk has a result exactly if it ends.** As many rounds as the model has types suffice for
each walk that ends, so no result after that many rounds means that there is none at all. -/
theorem walk_eq_some_iff {result : Option α} :
    m.walk found name = some result ↔ m.EndsWith found name result := by
  refine ⟨fun h => ⟨m.types.length, h⟩, fun h => ?_⟩
  have hlength : (m.lineageFrom [] name).length ≤ m.types.length :=
    (m.length_lineageFrom_le [] name).trans (List.length_filter_le _ _)
  exact climb?_mono hlength (h.along_lineageFrom (List.forall_mem_nil _)).1

/-- A walk without a result goes on for ever: no number of rounds suffices for it. -/
theorem walk_eq_none_iff :
    m.walk found name = none ↔ ∀ steps, m.climb? found steps (m.findType? name) = none := by
  rw [Option.eq_none_iff_forall_ne_some]
  constructor
  · intro h steps
    refine Option.eq_none_iff_forall_ne_some.2 fun result hend => ?_
    exact h result (walk_eq_some_iff.2 ⟨steps, hend⟩)
  · intro h result hend
    obtain ⟨steps, hsteps⟩ := walk_eq_some_iff.1 hend
    cases (h steps).symm.trans hsteps

/-- **What a walk finds** is what is found first along the lineage. Where the walk does not end,
nothing is found there either. -/
theorem join_walk (found : ModelType → Option α) (name : String) :
    (m.walk found name).join = (m.lineage name).findSome? found := by
  cases hwalk : m.walk found name with
  | some result =>
    exact ((walk_eq_some_iff.1 hwalk).along_lineageFrom (List.forall_mem_nil _)).2.symm
  | none =>
    cases hfound : (m.lineage name).findSome? found with
    | none => rfl
    | some a => cases hwalk.symm.trans (walk_eq_some_iff.2 (.of_findSome? hfound))

/-- A navigation property is the first one of its name along the lineage. -/
theorem findNavigation?_eq (m : Model) (name property : String) :
    m.findNavigation? name property = (m.lineage name).findSome? (·.navigation? property) :=
  join_walk _ name

/-- The key of a type is the first list of keys along the lineage that is not empty. -/
theorem keyProperties_eq (m : Model) (name : String) :
    m.keyProperties name = ((m.lineage name).findSome? ModelType.ownKeys?).getD [] := by
  rw [← join_walk, keyProperties, keysWalk]
  cases m.walk ModelType.ownKeys? name <;> rfl

/-! ### Walks that end -/

/-- Without circles, a walk does not come to a type that it has met. -/
theorem EndsWith.lineageFrom (h : m.Acyclic) {met : List String}
    (hmet : ∀ n ∈ met, Relation.TransGen m.HasBase n name) :
    m.EndsWith found name ((m.lineageFrom met name).findSome? found) := by
  induction met, name using lineageFrom.induct m with
  | case1 met name hmem => exact absurd (hmet name hmem) (h name)
  | case2 met name hmem ht =>
    rw [lineageFrom_of_none hmem ht]
    exact ⟨0, by rw [ht]; rfl⟩
  | case3 met name hmem t ht hbase =>
    rw [lineageFrom_of_some hmem ht, findSome?_cons_eq_or, hbase]
    exact .of_findType? ht ⟨0, by rw [baseOf?, hbase]; rfl⟩
  | case4 met name hmem t ht base hbase ih =>
    rw [lineageFrom_of_some hmem ht, findSome?_cons_eq_or, hbase]
    have hstep : m.HasBase name base := hasBase_of_findType? ht hbase
    -- every type that was met leads to this one, and so to its base type
    have hend := ih fun n hn => by
      rcases List.mem_cons.1 hn with rfl | hn
      · exact .single hstep
      · exact (hmet n hn).tail hstep
    refine .of_findType? ht ?_
    rw [baseOf?, hbase]
    exact hend

/-- **Without circles, all walks end**, with what the lineage says. -/
theorem EndsWith.of_acyclic (h : m.Acyclic) (found : ModelType → Option α) (name : String) :
    m.EndsWith found name ((m.lineage name).findSome? found) :=
  .lineageFrom h (List.forall_mem_nil _)

/-- Without circles, every walk for a navigation property has a result. -/
theorem Acyclic.isSome_navigationWalk (h : m.Acyclic) (name property : String) :
    (m.navigationWalk name property).isSome := by
  rw [navigationWalk, walk_eq_some_iff.2 (.of_acyclic h _ name)]
  rfl

theorem Acyclic.isSome_keysWalk (h : m.Acyclic) (name : String) : (m.keysWalk name).isSome := by
  rw [keysWalk, walk_eq_some_iff.2 (.of_acyclic h _ name)]
  rfl

/-! ### Walks that do not end -/

/-- A type on a circle has a base type on a circle. -/
theorem exists_hasBase_of_transGen (h : Relation.TransGen m.HasBase name name) :
    ∃ base, m.HasBase name base ∧ Relation.TransGen m.HasBase base base := by
  obtain ⟨base, hbase, hback⟩ := Relation.TransGen.head'_iff.1 h
  exact ⟨base, hbase, .tail' hback hbase⟩

/-- **On a circle a walk that finds nothing does not end.** -/
theorem climb?_eq_none (hnames : (m.types.map (·.name)).Nodup)
    (hfound : ∀ t ∈ m.types, found t = none) (h : Relation.TransGen m.HasBase name name)
    (steps : Nat) : m.climb? found steps (m.findType? name) = none := by
  let onCircle (n : String) : Prop := Relation.TransGen m.HasBase n n
  have hpass : ∀ n, onCircle n → ∃ base, m.PassesTo found n base ∧ onCircle base := by
    intro n hcircle
    obtain ⟨base, ⟨t, ht, rfl, hbase⟩, hback⟩ := exists_hasBase_of_transGen hcircle
    exact ⟨base, ⟨t, find?_of_nodup ModelType.name hnames ht, hfound t ht, hbase⟩, hback⟩
  exact climb?_eq_none_of_passesTo hpass h steps

/-- A model in which nodes are their own base type and have neither keys nor properties. -/
def nodesModel : Model where
  namespaceName := "Sample"
  containerName := "Container"
  types := [⟨"Node", "Sample", .entity, some "Node", [], [], []⟩]
  entitySets := [⟨"Nodes", "Node", .registered⟩]

example : nodesModel.navigationWalk "Node" "Next" = none ∧ nodesModel.keysWalk "Node" = none := by
  decide

/-- Some name is not that of a navigation property. -/
theorem exists_navigation?_eq_none (m : Model) :
    ∃ property, ∀ t ∈ m.types, t.navigation? property = none := by
  let names := m.types.flatMap fun t => t.navigationProperties.map (·.name)
  obtain ⟨property, hfresh⟩ := Infinite.exists_notMem_finset names.toFinset
  refine ⟨property, fun t ht => List.find?_eq_none.2 fun n hn heq => hfresh ?_⟩
  rw [List.mem_toFinset, List.mem_flatMap]
  exact ⟨t, ht, List.mem_map.2 ⟨n, hn, eq_of_beq heq⟩⟩

/-- **Models without circles** are those where all walks end. -/
theorem acyclic_iff_walksEnd (hnames : (m.types.map (·.name)).Nodup) : m.Acyclic ↔ m.WalksEnd := by
  constructor
  · intro h
    refine ⟨fun type property => ?_, fun type => ⟨_, .of_acyclic h ModelType.ownKeys? type, ?_⟩⟩
    · rw [findNavigation?_eq]
      exact .of_acyclic h _ type
    · rw [keyProperties_eq]
  · intro h name hcircle
    -- on a circle, a property that no type declares is looked for in vain
    obtain ⟨property, hfresh⟩ := m.exists_navigation?_eq_none
    obtain ⟨steps, hend⟩ := h.navigation name property
    cases (climb?_eq_none hnames hfresh hcircle steps).symm.trans hend

end Model

end FacetModel
