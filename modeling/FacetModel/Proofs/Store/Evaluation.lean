import FacetModel.Store.Evaluation
import Mathlib

/-!
# Evaluation row by row

A query passes the rows of its leaf from node to node (`Query.rowsOver`), and none of its nodes can
fail. So it has rows exactly if its leaf supplies some, and otherwise it fails with what the leaf
lacks (`Query.Supplies`, `Query.Lacks`).

Every node looks at one row at a time, and keeps, changes, drops or multiplies it. So the rows of a
query over some rows are those over the first of them, followed by those over the others
(`Query.rowsOver_append`). What a query gives is therefore told by what it gives for single rows,
which can be asked for with constant sequences in the place of its leaf (`Query.evaluate_rowwise`).
-/

namespace FacetModel

namespace Query

variable {database : String} {collections : Collections} {q : Query}

/-! ### Leaves -/

/-- The query with something else in the place of its leaf. -/
def withLeaf : Query → Query → Query
  | .stub _, leaf => leaf
  | .source _, leaf => leaf
  | .filter input predicate, leaf => .filter (input.withLeaf leaf) predicate
  | .project input fields, leaf => .project (input.withLeaf leaf) fields
  | .navigate input property, leaf => .navigate (input.withLeaf leaf) property

/-- The query with a constant sequence in the place of its leaf. -/
def onRows (q : Query) (type : String) (rows : List Json) : Query :=
  q.withLeaf (.source (.constant type rows))

/-- A leaf has some rows: the values of a constant sequence, or the documents of a collection of the
database. -/
inductive Supplies (database : String) (collections : Collections) : Query → List Json → Prop
  | constant (type : String) (values : List Json) :
      Supplies database collections (.source (.constant type values)) values
  | collection {name type : String} {documents : List Json}
      (h : collections.get? name = some documents) :
      Supplies database collections (.source (.openCollection database name type)) documents

/-- A leaf has no rows, for some reason: it is a stub, or it opens another database or a collection
that is missing. -/
inductive Lacks (database : String) (collections : Collections) : Query → StoreError → Prop
  | stub (name : String) : Lacks database collections (.stub name) (.unresolvedStub name)
  | database {target name type : String} (h : target ≠ database) :
      Lacks database collections (.source (.openCollection target name type))
        (.foreignDatabase target)
  | collection {name type : String} (h : collections.get? name = none) :
      Lacks database collections (.source (.openCollection database name type))
        (.unknownCollection name)

/-- A query is itself with its own leaf. -/
theorem withLeaf_leaf (q : Query) : q.withLeaf q.leaf = q := by
  induction q with
  | stub name => rfl
  | source s => rfl
  | filter input predicate ih => rw [leaf, withLeaf, ih]
  | project input fields ih => rw [leaf, withLeaf, ih]
  | navigate input property ih => rw [leaf, withLeaf, ih]

/-- A leaf that supplies rows is evaluated to them. -/
theorem evaluate_of_supplies {leaf : Query} {rows : List Json}
    (h : leaf.Supplies database collections rows) :
    leaf.evaluate database collections = .ok rows := by
  cases h with
  | constant type values => rfl
  | collection h => rw [evaluate, Source.evaluate, if_neg (not_not_intro rfl), h]

/-- A leaf that lacks rows is an error, and says why. -/
theorem evaluate_of_lacks {leaf : Query} {e : StoreError}
    (h : leaf.Lacks database collections e) : leaf.evaluate database collections = .error e := by
  cases h with
  | stub name => rfl
  | database h => rw [evaluate, Source.evaluate, if_pos h]
  | collection h => rw [evaluate, Source.evaluate, if_neg (not_not_intro rfl), h]

/-- A leaf has rows, or there is a reason why it has none. -/
theorem supplies_or_lacks (q : Query) (database : String) (collections : Collections) :
    (∃ rows, q.leaf.Supplies database collections rows) ∨
      ∃ e, q.leaf.Lacks database collections e := by
  induction q with
  | stub name => exact .inr ⟨_, .stub name⟩
  | source s =>
    cases s with
    | constant type values => exact .inl ⟨values, .constant type values⟩
    | openCollection target name type =>
      by_cases htarget : target = database
      · subst htarget
        cases hget : collections.get? name with
        | some documents => exact .inl ⟨documents, .collection hget⟩
        | none => exact .inr ⟨_, .collection hget⟩
      · exact .inr ⟨_, .database htarget⟩
  | filter input predicate ih => exact ih
  | project input fields ih => exact ih
  | navigate input property ih => exact ih

/-! ### From row to row -/

/-- The rows of a query whose source has some rows. -/
def rowsOver (rows : List Json) : Query → List Json
  | .stub _ => rows
  | .source _ => rows
  | .filter input predicate => (input.rowsOver rows).filter predicate.accepts
  | .project input fields => (input.rowsOver rows).map (Json.project fields)
  | .navigate input property => (input.rowsOver rows).flatMap (Json.related property)

/-- Without rows of the leaf there are no rows. -/
theorem rowsOver_nil (q : Query) : q.rowsOver [] = [] := by
  induction q with
  | stub name => rfl
  | source s => rfl
  | filter input predicate ih => rw [rowsOver, ih, List.filter_nil]
  | project input fields ih => rw [rowsOver, ih, List.map_nil]
  | navigate input property ih => rw [rowsOver, ih, List.flatMap_nil]

/-- **No row has an influence on what becomes of another one.** -/
theorem rowsOver_append (before after : List Json) (q : Query) :
    q.rowsOver (before ++ after) = q.rowsOver before ++ q.rowsOver after := by
  induction q with
  | stub name => rfl
  | source s => rfl
  | filter input predicate ih => simp only [rowsOver, ih, List.filter_append]
  | project input fields ih => simp only [rowsOver, ih, List.map_append]
  | navigate input property ih => simp only [rowsOver, ih, List.flatMap_append]

/-- The rows of a query are those over the single rows of its source, in their order. -/
theorem rowsOver_eq_flatten (rows : List Json) (q : Query) :
    q.rowsOver rows = (rows.map fun row => q.rowsOver [row]).flatten := by
  induction rows with
  | nil => exact rowsOver_nil q
  | cons row rest ih => rw [← List.singleton_append, rowsOver_append, ih]; rfl

/-- **A query fails only at its leaf**, whatever stands there. -/
theorem evaluate_withLeaf (q leaf : Query) (database : String) (collections : Collections) :
    (q.withLeaf leaf).evaluate database collections =
      (leaf.evaluate database collections).map fun rows => q.rowsOver rows := by
  induction q with
  | stub name => cases h : leaf.evaluate database collections <;> exact h
  | source s => cases h : leaf.evaluate database collections <;> exact h
  | filter input predicate ih =>
    rw [withLeaf, evaluate, ih]
    cases leaf.evaluate database collections <;> rfl
  | project input fields ih =>
    rw [withLeaf, evaluate, ih]
    cases leaf.evaluate database collections <;> rfl
  | navigate input property ih =>
    rw [withLeaf, evaluate, ih]
    cases leaf.evaluate database collections <;> rfl

/-- A query is evaluated from its leaf on: only this can fail, and the wrappers above it work on its
rows. -/
theorem evaluate_eq (q : Query) (database : String) (collections : Collections) :
    q.evaluate database collections =
      (q.leaf.evaluate database collections).map fun rows => q.rowsOver rows := by
  rw [← evaluate_withLeaf, withLeaf_leaf]

/-- A query has the rows over what any leaf put into it supplies. -/
theorem evaluate_withLeaf_of_supplies {leaf : Query} {rows : List Json}
    (h : leaf.Supplies database collections rows) :
    (q.withLeaf leaf).evaluate database collections = .ok (q.rowsOver rows) := by
  rw [evaluate_withLeaf, evaluate_of_supplies h]
  rfl

theorem evaluate_onRows (q : Query) (type : String) (rows : List Json) :
    (q.onRows type rows).evaluate database collections = .ok (q.rowsOver rows) :=
  evaluate_withLeaf_of_supplies (.constant type rows)

/-- The rows of a query whose leaf has some rows. -/
theorem evaluate_of_leaf {rows : List Json} (h : q.leaf.Supplies database collections rows) :
    q.evaluate database collections = .ok (q.rowsOver rows) := by
  rw [evaluate_eq, evaluate_of_supplies h]
  rfl

/-! ### Row by row -/

/-- A query fails exactly as its leaf does. -/
theorem evaluate_eq_error_iff {e : StoreError} :
    q.evaluate database collections = .error e ↔ q.leaf.Lacks database collections e := by
  constructor
  · intro h
    obtain ⟨rows, hrows⟩ | ⟨reason, hreason⟩ := supplies_or_lacks q database collections
    · cases h.symm.trans (evaluate_of_leaf hrows)
    · rw [evaluate_eq, evaluate_of_lacks hreason] at h
      cases h
      exact hreason
  · intro h
    rw [evaluate_eq, evaluate_of_lacks h]
    rfl

/-- A query has rows exactly if its leaf has. -/
theorem evaluate_eq_ok_iff {result : List Json} :
    q.evaluate database collections = .ok result ↔
      ∃ rows, q.leaf.Supplies database collections rows ∧ result = q.rowsOver rows := by
  constructor
  · intro h
    obtain ⟨rows, hrows⟩ | ⟨reason, hreason⟩ := supplies_or_lacks q database collections
    · rw [evaluate_of_leaf hrows] at h
      cases h
      exact ⟨rows, hrows, rfl⟩
    · cases h.symm.trans (evaluate_eq_error_iff.2 hreason)
  · rintro ⟨rows, hrows, rfl⟩
    exact evaluate_of_leaf hrows

/-- Some answers are those for single rows, one after the other. -/
def AnswersEach (q : Query) (database : String) (collections : Collections) (type : String)
    (rows : List Json) (answers : List (List Json)) : Prop :=
  List.Forall₂ (fun row answer =>
    (q.onRows type [row]).evaluate database collections = .ok answer) rows answers

/-- Answering rows one at a time has one list of answers, since a query on given rows never fails.
-/
theorem answersEach_iff {type : String} {rows : List Json} {answers : List (List Json)} :
    q.AnswersEach database collections type rows answers ↔
      answers = rows.map fun row => q.rowsOver [row] := by
  have hmap : q.AnswersEach database collections type rows answers ↔
      List.Forall₂ (· = ·) (rows.map fun row => q.rowsOver [row]) answers := by
    simp only [AnswersEach, evaluate_onRows, Except.ok.injEq, List.forall₂_map_left_iff]
  -- lists that are equal row by row are equal
  rw [hmap, List.forall₂_eq_eq_eq, eq_comm]

/-- A query reads no other collection than the one that it opens. -/
theorem evaluate_congr {other : Collections}
    (h : ∀ name type, q.leaf = .source (.openCollection database name type) →
      other.get? name = collections.get? name) :
    q.evaluate database other = q.evaluate database collections := by
  rcases supplies_or_lacks q database collections with ⟨rows, hrows⟩ | ⟨e, he⟩
  · refine (evaluate_of_leaf ?_).trans (evaluate_of_leaf hrows).symm
    generalize q.leaf = leaf at h hrows
    cases hrows with
    | constant type => exact .constant type rows
    | collection hget => exact .collection ((h _ _ rfl).trans hget)
  · refine (evaluate_eq_error_iff.2 ?_).trans (evaluate_eq_error_iff.2 he).symm
    generalize q.leaf = leaf at h he
    cases he with
    | stub name => exact .stub name
    | database htarget => exact .database htarget
    | collection hget => exact .collection ((h _ _ rfl).trans hget)

/-- **Queries are evaluated row by row.** A query fails exactly if its leaf lacks rows, and for that
reason. Otherwise its rows are those that it has over the single rows of its leaf, in their order.
So the rows over two parts of a source, wherever these stand, make up those over the whole, and no
collection matters but the one that is opened. -/
theorem evaluate_rowwise (q : Query) (database : String) (collections : Collections) :
    (∀ e, q.evaluate database collections = .error e ↔ q.leaf.Lacks database collections e) ∧
      (∀ type result, q.evaluate database collections = .ok result ↔
        ∃ rows answers, q.leaf.Supplies database collections rows ∧
          q.AnswersEach database collections type rows answers ∧ result = answers.flatten) ∧
      (∀ (first second : Query) (collections₁ collections₂ : Collections)
          (before after : List Json),
        first.Supplies database collections₁ before →
        second.Supplies database collections₂ after →
        q.leaf.Supplies database collections (before ++ after) →
        ∃ rows₁ rows₂, (q.withLeaf first).evaluate database collections₁ = .ok rows₁ ∧
          (q.withLeaf second).evaluate database collections₂ = .ok rows₂ ∧
          q.evaluate database collections = .ok (rows₁ ++ rows₂)) ∧
      ∀ other : Collections,
        (∀ name type, q.leaf = .source (.openCollection database name type) →
          other.get? name = collections.get? name) →
        q.evaluate database other = q.evaluate database collections := by
  refine ⟨fun e => evaluate_eq_error_iff, fun type result => ?_, ?_,
    fun other => evaluate_congr⟩
  · rw [evaluate_eq_ok_iff]
    refine exists_congr fun rows => ?_
    -- there is one list of answers, and put together they are the rows over all of the leaf
    simp only [answersEach_iff, exists_and_left, exists_eq_left, ← rowsOver_eq_flatten]
  · intro first second collections₁ collections₂ before after hfirst hsecond hwhole
    refine ⟨_, _, evaluate_withLeaf_of_supplies hfirst, evaluate_withLeaf_of_supplies hsecond, ?_⟩
    rw [← rowsOver_append]
    exact evaluate_of_leaf hwhole

/-! ### Friends -/

/-- Ann has two friends, Bob has one and Eve has none; the last document is no person. -/
def circle : List Json :=
  [.record [("Name", .str "Ann"), ("Friends", .list [Json.str "Bob", Json.str "Eve"])],
    .record [("Name", .str "Bob"), ("Friends", .str "Ann")],
    .record [("Name", .str "Eve"), ("Friends", .list [])],
    .str "Dan"]

/-- The circle as a collection beside another one. -/
def circleCollections : Collections := .ofList [("People", circle), ("Pets", [.str "Rex"])]

/-- The friends of everybody but Bob. -/
def friends : Query :=
  .navigate
    (.filter (.source (.openCollection "db" "People" "Person"))
      (.not (.propertyEq "Name" (.str "Bob"))))
    "Friends"

/-- Ann's friends are found, and nothing in the other rows, from the whole as from two parts, and
whatever becomes of the pets. -/
theorem evaluate_rowwise_friends :
    friends.evaluate "db" circleCollections = .ok [.str "Bob", .str "Eve"] ∧
      (∃ rows₁ rows₂,
        (friends.onRows "Person" (circle.take 1)).evaluate "db" .empty = .ok rows₁ ∧
        friends.evaluate "db" (.ofList [("People", circle.drop 1)]) = .ok rows₂ ∧
        friends.evaluate "db" circleCollections = .ok (rows₁ ++ rows₂)) ∧
      friends.evaluate "db" (.ofList [("People", circle)]) =
        friends.evaluate "db" circleCollections := by
  obtain ⟨-, hrows, hparts, hother⟩ := evaluate_rowwise friends "db" circleCollections
  have hsupplies : friends.leaf.Supplies "db" circleCollections circle := .collection rfl
  refine ⟨(hrows "Person" _).2 ⟨circle, [[.str "Bob", .str "Eve"], [], [], []], hsupplies, ?_, rfl⟩,
    ?_, hother _ fun name type h => ?_⟩
  · exact answersEach_iff.2 (by cbv)
  · exact hparts (.source (.constant "Person" (circle.take 1))) friends.leaf _ _ _ _
      (.constant _ _) (.collection rfl) hsupplies
  · cases h
    rfl

end Query

end FacetModel
