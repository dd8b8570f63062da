import FacetModel.Proofs.Json.Equality
import FacetModel.Store

/-!
# What submissions do to a store

A submission hands its changes to the store if it is valid before and after it is initialized
(`Submission.handed`), and the store takes all of them or none (`DocumentStore.after_eq`). So what
becomes of a store in a run of submissions depends on the changes that are handed to it and on
nothing else.

These changes carry the whole key of their entity set (`Submission.hasKey_of_mem_handed`), and
every change that does can be submitted as it is (`Submission.handed_single`).
-/

namespace FacetModel

/-! ### Complete keys -/

/-- Only the sets of a model have key properties. -/
theorem Model.isSome_of_keysOfSet {m : Model} {set : String} (h : m.keysOfSet set ≠ []) :
    (m.findEntitySet? set).isSome := by
  rw [keysOfSet] at h
  cases hfind : m.findEntitySet? set with
  | none =>
    rw [hfind] at h
    exact absurd rfl h
  | some s => rfl

/-- A change has a value for each of some key properties in its key. -/
def Change.HasKey (keys : List String) (c : Change) : Prop := ∀ k ∈ keys, c.key.contains k

namespace Change

/-- A key property is taken from the values if the key does not have it. -/
theorem get?_addKey (values key : Members Json.Scalar) (property name : String) :
    (addKey values key property).get? name
      = (key.get? name).or (if name = property then values.get? name else none) := by
  rw [addKey]
  by_cases heq : name = property
  · subst heq
    rw [if_pos rfl]
    cases hvalue : values.get? name with
    | none => rw [Option.or_none]
    | some value =>
      cases hkey : key.get? name with
      | none => simp [Members.contains, hkey, Members.get?_append, Members.get?_cons]
      | some old => simp [Members.contains, hkey]
  · rw [if_neg heq, Option.or_none]
    split
    case h_1 value _ =>
      split
      · rfl
      · rw [Members.get?_append, Members.get?_cons, if_neg heq]
        exact Option.or_none
    case h_2 => rfl

/-- The values that complete a key are those of the key properties it has none for. -/
theorem get?_foldl_addKey (values key : Members Json.Scalar) (properties : List String)
    (name : String) :
    (properties.foldl (addKey values) key).get? name
      = (key.get? name).or (if name ∈ properties then values.get? name else none) := by
  induction properties generalizing key with
  | nil => rw [List.foldl_nil, if_neg List.not_mem_nil, Option.or_none]
  | cons property rest ih =>
    rw [List.foldl_cons, ih, get?_addKey, Option.or_assoc]
    congr 1
    -- a property that is listed again adds nothing to its first value
    by_cases heq : name = property
    · rw [if_pos heq, if_pos (List.mem_cons.2 (.inl heq))]
      split
      · exact Option.or_self
      · exact Option.or_none
    · rw [if_neg heq, Option.none_or]
      simp [heq]

/-- A key that has all key properties is complete. -/
theorem foldl_addKey_of_contains {values key : Members Json.Scalar} {properties : List String}
    (h : ∀ k ∈ properties, key.contains k) : properties.foldl (addKey values) key = key := by
  induction properties with
  | nil => rfl
  | cons property rest ih =>
    have hadd : addKey values key property = key := by
      rw [addKey]
      split
      · rw [if_pos (h property List.mem_cons_self)]
      · rfl
    rw [List.foldl_cons, hadd]
    exact ih fun k hk => h k (List.mem_cons_of_mem _ hk)

theorem entitySet_assignKey (m : Model) (c : Change) :
    (c.assignKey m).entitySet = c.entitySet := by
  rw [assignKey]
  split <;> rfl

/-- A key that is whole is not completed any further. -/
theorem assignKey_of_hasKey {m : Model} {c : Change} (h : c.HasKey (m.keysOfSet c.entitySet)) :
    c.assignKey m = c := by
  rw [assignKey]
  split
  · rw [foldl_addKey_of_contains h]
  · rfl

/-- A change that carries the key properties has them in its key once that is completed. -/
theorem hasKey_assignKey {m : Model} {c : Change}
    (h : ∀ k ∈ m.keysOfSet c.entitySet, c.carries k) :
    (c.assignKey m).HasKey (m.keysOfSet (c.assignKey m).entitySet) := by
  rw [entitySet_assignKey]
  intro k hk
  have hcarries := h k hk
  rw [carries, Bool.or_eq_true, Bool.and_eq_true, beq_iff_eq] at hcarries
  rw [assignKey]
  split
  case isTrue hinsert =>
    refine Members.contains_iff.2 ?_
    rw [get?_foldl_addKey, if_pos hk]
    rcases hcarries with hkey | ⟨-, hvalues⟩
    · obtain ⟨t, ht⟩ := Members.contains_iff.1 hkey
      exact ⟨t, by rw [ht, Option.some_or]⟩
    · obtain ⟨t, ht⟩ := Members.contains_iff.1 hvalues
      cases hkey : c.key.get? k with
      | none => exact ⟨t, by rw [ht, Option.none_or]⟩
      | some old => exact ⟨old, Option.some_or⟩
  case isFalse hother => exact hcarries.resolve_right fun h => hother h.1

/-! ### Valid changes -/

/-- A change is valid if the model has its set and it carries every key property. -/
theorem validate_eq_ok_iff {m : Model} {c : Change} :
    c.validate m = .ok () ↔
      (m.findEntitySet? c.entitySet).isSome ∧ ∀ k ∈ m.keysOfSet c.entitySet, c.carries k := by
  rw [validate, Model.keysOfSet]
  cases m.findEntitySet? c.entitySet with
  | none => simp
  | some s =>
    simp only [Option.isSome_some, Option.map_some, Option.getD_some, true_and]
    cases hfind : (m.keyProperties s.elementType).find? (!c.carries ·) with
    | none => simpa using hfind
    | some k =>
      have hmissing := List.find?_some hfind
      have hmem := List.mem_of_find?_eq_some hfind
      refine ⟨fun h => (by cases h), fun h => ?_⟩
      rw [h k hmem] at hmissing
      cases hmissing

/-! ### Changes that are made -/

/-- A change replaces the documents of its set and no others. -/
theorem apply_eq_ok_iff {c : Change} {before after : Collections} :
    c.apply before = .ok after ↔
      ∃ changed, c.applyTo (before.get? c.entitySet) = .ok changed ∧
        after = before.insert c.entitySet changed := by
  rw [apply]
  cases c.applyTo (before.get? c.entitySet) with
  | error e => simp [Except.map]
  | ok changed => simp [Except.map, eq_comm]

/-- The first of some changes is made before the others. -/
theorem applyAll_cons_eq_ok_iff {c : Change} {rest : List Change} {before after : Collections} :
    applyAll before (c :: rest) = .ok after ↔
      ∃ between, c.apply before = .ok between ∧ applyAll between rest = .ok after := by
  rw [applyAll]
  cases c.apply before with
  | error e => simp
  | ok between => simp

/-- An insertion adds its document at the end, unless there is one with its key. -/
theorem applyTo_eq_ok_iff_of_insert {c : Change} (hop : c.operation = .insert)
    {documents : Option (List Json)} {changed : List Json} :
    c.applyTo documents = .ok changed ↔
      (∀ d ∈ documents.getD [], ¬ Json.matchesKey c.key d) ∧
        changed = documents.getD [] ++ [c.document] := by
  have hfree : (∀ d ∈ documents.getD [], ¬ Json.matchesKey c.key d) ↔
      ¬ (documents.getD []).any (Json.matchesKey c.key) := by simp
  rw [hfree]
  simp only [applyTo, hop]
  split
  case isTrue h => simp [h]
  case isFalse h => simp [h, eq_comm]

end Change

/-- Changes are valid if each of them is. -/
theorem ChangeSet.validate_eq_ok_iff {m : Model} {cs : ChangeSet} :
    cs.validate m = .ok () ↔ ∀ c ∈ cs.changes, c.validate m = .ok () := by
  rw [ChangeSet.validate]
  induction cs.changes with
  | nil => simp [ChangeSet.validateAll]
  | cons c rest ih =>
    rw [ChangeSet.validateAll, List.forall_mem_cons]
    cases c.validate m with
    | error e => simp
    | ok => simpa using ih

/-! ### Submissions -/

/-- A submission to a store, for a model that all submissions of a run share. -/
structure Submission where
  changeSet : ChangeSet
  /-- The hook that initializes the change set. -/
  initializer? : Option (ChangeSet → DocumentStore.Initialization) := none
  /-- Whether it is cancelled before it begins. -/
  cancelled : Bool := false

namespace Submission

/-- The change set as it is initialized, unless that fails or cancels the submission. -/
def initialized? (call : Submission) : Option ChangeSet :=
  match call.initializer? with
  | none => some call.changeSet
  | some prepare =>
    let answer := prepare call.changeSet
    if answer.cancels then none else answer.result.toOption

/-- The changes that a submission hands to the store: none, unless it is valid before and after it
is initialized. -/
def handed (m : Model) (call : Submission) : List Change :=
  if call.cancelled || !(call.changeSet.validate m).isOk then []
  else
    match call.initialized? with
    | none => []
    | some cs => if (cs.validate m).isOk then (cs.assignInsertKeys m).changes else []

/-- What reaches the store carries the whole key of its entity set. -/
theorem hasKey_of_mem_handed {m : Model} {call : Submission} {c : Change}
    (h : c ∈ call.handed m) : c.HasKey (m.keysOfSet c.entitySet) := by
  rw [handed] at h
  split at h
  · cases h
  · split at h
    · cases h
    · rename_i cs _
      split at h
      · rename_i hvalid
        obtain ⟨d, hd, rfl⟩ := List.mem_map.1 h
        cases hresult : cs.validate m with
        | error e =>
          rw [hresult] at hvalid
          cases hvalid
        | ok =>
          have hchanges := ChangeSet.validate_eq_ok_iff.1 hresult
          exact Change.hasKey_assignKey (Change.validate_eq_ok_iff.1 (hchanges d hd)).2
      · cases h

/-- A change with its whole key reaches the store as it is, if it is submitted alone. -/
theorem handed_single {m : Model} {c : Change} (hset : (m.findEntitySet? c.entitySet).isSome)
    (hkey : c.HasKey (m.keysOfSet c.entitySet)) : handed m { changeSet := ⟨[c]⟩ } = [c] := by
  have hvalid : (⟨[c]⟩ : ChangeSet).validate m = .ok () := by
    rw [ChangeSet.validate_eq_ok_iff]
    intro d hd
    rw [List.mem_singleton.1 hd, Change.validate_eq_ok_iff]
    refine ⟨hset, fun k hk => ?_⟩
    rw [Change.carries, hkey k hk, Bool.true_or]
  rw [handed, initialized?]
  simp only [hvalid, Except.isOk, Except.toBool, ChangeSet.assignInsertKeys, List.map_cons,
    List.map_nil, Change.assignKey_of_hasKey hkey]
  rfl

end Submission

namespace DocumentStore

/-- The store after a submission. -/
def after (s : DocumentStore) (m : Model) (call : Submission) : DocumentStore :=
  (s.submit m call.changeSet call.initializer? call.cancelled).2

/-- The store after some submissions, one after the other. -/
def afterAll (s : DocumentStore) (m : Model) (calls : List Submission) : DocumentStore :=
  calls.foldl (fun s call => s.after m call) s

/-- The store with all of some changes, or without them if one of them cannot be made. -/
def taking (s : DocumentStore) (changes : List Change) : DocumentStore :=
  match Change.applyAll s.collections changes with
  | .ok collections => { s with collections }
  | .error _ => s

theorem documents?_withCollection (s : DocumentStore) (name : String) (documents : List Json) :
    (s.withCollection name documents).documents? name = some documents :=
  NameMap.get?_insert_self s.collections name documents

/-- Taking one change is making it. -/
theorem taking_single {s : DocumentStore} {c : Change} {changed : List Json}
    (h : c.applyTo (s.documents? c.entitySet) = .ok changed) :
    s.taking [c] = s.withCollection c.entitySet changed := by
  rw [documents?] at h
  rw [taking, Change.applyAll, Change.apply, h]
  rfl

/-- A store that executes changes takes them, or stays as it is if one fails. -/
theorem execute_snd (s : DocumentStore) (cs : ChangeSet) :
    (s.execute cs false).2 = s.taking cs.changes := by
  rw [execute, taking]
  cases Change.applyAll s.collections cs.changes <;> rfl

/-- **All or nothing**: a store takes the changes that a submission hands to it. -/
theorem after_eq (s : DocumentStore) (m : Model) (call : Submission) :
    s.after m call = s.taking (call.handed m) := by
  unfold after submit Submission.handed Submission.initialized?
  cases call.cancelled with
  | true => rfl
  | false =>
    cases hvalid : call.changeSet.validate m with
    | error e => rfl
    | ok =>
      cases call.initializer? with
      | none =>
        dsimp only
        rw [hvalid]
        exact execute_snd s _
      | some prepare =>
        dsimp only
        cases (prepare call.changeSet).result with
        | error e => cases (prepare call.changeSet).cancels <;> rfl
        | ok cs =>
          -- the hook may have cancelled, and what it returns is checked again
          cases (prepare call.changeSet).cancels with
          | true => cases hagain : cs.validate m <;> simp only [hagain] <;> rfl
          | false =>
            simp only [Except.toOption, Bool.false_eq_true, if_false]
            cases hagain : cs.validate m with
            | error e => rfl
            | ok => exact execute_snd s _

end DocumentStore

end FacetModel
