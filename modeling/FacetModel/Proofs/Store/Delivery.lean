import FacetModel.Proofs.Store.Atomicity
import FacetModel.Proofs.Store.Keys
import Mathlib

/-!
# What a submission delivers

Before a submission comes to the store that executes it, its changes have been checked, initialized
and checked again, and the keys of insertions have been completed (`Submission.delivery`). A valid
insertion may have left some key properties to its values, and initialization may have made anything
of the changes; what is delivered has full keys all the same.

`Change.Completes` says what becomes of a change on the way, and `Submission.completes_delivery`
that this is so for each change that is delivered.
-/

namespace FacetModel

namespace Change

/-! ### Keys that are completed -/

/-- A key property is appended, or the key stays as it is. -/
theorem addKey_cases (values key : Members Json.Scalar) (property : String) :
    addKey values key property = key ∨
      ∃ value, key.get? property = none ∧ values.get? property = some value ∧
        addKey values key property = key ++ [(property, value)] := by
  rw [addKey]
  cases hvalue : values.get? property with
  | none => exact .inl rfl
  | some value =>
    cases hkey : key.get? property with
    | none => exact .inr ⟨value, rfl, rfl, by simp [Members.contains, hkey]⟩
    | some old => exact .inl (by simp [Members.contains, hkey])

/-- What is added to a key are key properties that it had no values for, with values that are to be
written. -/
theorem exists_foldl_addKey_eq (values key : Members Json.Scalar) (properties : List String) :
    ∃ added, properties.foldl (addKey values) key = key ++ added ∧
      ∀ p ∈ added, p.1 ∈ properties ∧ key.get? p.1 = none ∧ values.get? p.1 = some p.2 := by
  induction properties generalizing key with
  | nil => exact ⟨[], (List.append_nil key).symm, List.forall_mem_nil _⟩
  | cons property rest ih =>
    rw [List.foldl_cons]
    rcases addKey_cases values key property with hsame | ⟨value, hkey, hvalue, hmore⟩
    · obtain ⟨added, hadded, hall⟩ := ih key
      rw [hsame]
      exact ⟨added, hadded, fun p hp => ⟨List.mem_cons_of_mem _ (hall p hp).1, (hall p hp).2⟩⟩
    · obtain ⟨added, hadded, hall⟩ := ih (key ++ [(property, value)])
      refine ⟨(property, value) :: added, by simp [hmore, hadded], ?_⟩
      refine List.forall_mem_cons.2 ⟨⟨List.mem_cons_self, hkey, hvalue⟩, fun p hp => ?_⟩
      obtain ⟨hproperty, hnone, hget⟩ := hall p hp
      rw [Members.get?_append, Option.or_eq_none_iff] at hnone
      exact ⟨List.mem_cons_of_mem _ hproperty, hnone.1, hget⟩

/-- No key property is appended twice, since it is only appended where the key lacks it. -/
theorem nodup_foldl_addKey {key : Members Json.Scalar} (h : (key.map (·.1)).Nodup)
    (values : Members Json.Scalar) (properties : List String) :
    ((properties.foldl (addKey values) key).map (·.1)).Nodup := by
  induction properties generalizing key with
  | nil => exact h
  | cons property rest ih =>
    rw [List.foldl_cons]
    rcases addKey_cases values key property with hsame | ⟨value, hkey, -, hmore⟩
    · rw [hsame]
      exact ih h
    · rw [hmore]
      refine ih ?_
      rw [List.map_append, List.map_singleton, ← List.concat_eq_append]
      exact h.concat (Members.get?_eq_none_iff.1 hkey)

/-! ### From the change that is left to the one that is delivered -/

/-- A change that is delivered, for the one that initialization left. -/
structure Completes (m : Model) (left c : Change) : Prop where
  entitySet : c.entitySet = left.entitySet
  operation : c.operation = left.operation
  values : c.values = left.values
  /-- The set is one of the model. -/
  known : (m.findEntitySet? c.entitySet).isSome
  /-- The key has a value for each key property of the set. -/
  hasKey : c.HasKey (m.keysOfSet c.entitySet)
  /-- Only the key of an insertion changes, and it only gets key properties that it did not have. -/
  key : ∃ added, c.key = left.key ++ added ∧
    ∀ p ∈ added, c.operation = .insert ∧ p.1 ∈ m.keysOfSet c.entitySet ∧ left.key.get? p.1 = none
  /-- The key properties of an insertion have the values from its key, or else those from its
  values. -/
  get?_key : c.operation = .insert → ∀ k ∈ m.keysOfSet c.entitySet,
    c.key.get? k = (left.key.get? k).or (left.values.get? k)
  /-- What an insertion adds to the documents of its set has just these values. -/
  inserted : c.operation = .insert → ∀ documents changed, c.applyTo documents = .ok changed →
    ∃ document, changed = documents.getD [] ++ [document] ∧
      ∀ k ∈ m.keysOfSet c.entitySet, document.get? k = c.key.get? k

variable {m : Model} {c : Change}

theorem operation_assignKey (m : Model) (c : Change) :
    (c.assignKey m).operation = c.operation := by
  rw [assignKey]
  split <;> rfl

theorem values_assignKey (m : Model) (c : Change) : (c.assignKey m).values = c.values := by
  rw [assignKey]
  split <;> rfl

/-- The key of an insertion is gone through for each key property of its set. -/
theorem key_assignKey_of_insert (hop : c.operation = .insert) :
    (c.assignKey m).key = (m.keysOfSet c.entitySet).foldl (addKey c.values) c.key := by
  rw [assignKey, if_pos hop]

theorem key_assignKey_of_ne (hop : c.operation ≠ .insert) : (c.assignKey m).key = c.key := by
  rw [assignKey, if_neg hop]

/-- Completing a key repeats no name in it. -/
theorem NamesDistinct.assignKey (h : c.NamesDistinct) (m : Model) :
    (c.assignKey m).NamesDistinct where
  key := by
    by_cases hop : c.operation = .insert
    · rw [key_assignKey_of_insert hop]
      exact nodup_foldl_addKey h.key c.values _
    · rw [key_assignKey_of_ne hop]
      exact h.key
  values := by
    rw [values_assignKey]
    exact h.values

/-- Where the values of an insertion contradict its key, the document goes by the key. -/
theorem get?_document_of_hasKey {keys : List String} (hnames : c.NamesDistinct)
    (hkey : c.HasKey keys) {k : String} (hk : k ∈ keys) : c.document.get? k = c.key.get? k := by
  obtain ⟨w, hw⟩ := Members.contains_iff.1 (hkey k hk)
  rw [get?_document hnames, hw, Option.some_or]

/-- A valid change is delivered with its full key. -/
theorem completes_assignKey (hvalid : c.validate m = .ok ()) (hnames : c.NamesDistinct) :
    Completes m c (c.assignKey m) := by
  obtain ⟨hknown, hcarries⟩ := validate_eq_ok_iff.1 hvalid
  have hset : (c.assignKey m).entitySet = c.entitySet := entitySet_assignKey m c
  have hop : (c.assignKey m).operation = c.operation := operation_assignKey m c
  have hkey : (c.assignKey m).HasKey (m.keysOfSet (c.assignKey m).entitySet) :=
    hasKey_assignKey hcarries
  refine ⟨hset, hop, values_assignKey m c, by rwa [hset], hkey, ?_, ?_, ?_⟩
  · by_cases hinsert : c.operation = .insert
    · obtain ⟨added, hadded, hall⟩ :=
        exists_foldl_addKey_eq c.values c.key (m.keysOfSet c.entitySet)
      rw [key_assignKey_of_insert hinsert, hset]
      exact ⟨added, hadded, fun p hp => ⟨hop.trans hinsert, (hall p hp).1, (hall p hp).2.1⟩⟩
    · rw [key_assignKey_of_ne hinsert]
      -- the key of an update or a deletion is not completed
      exact ⟨[], (List.append_nil c.key).symm, List.forall_mem_nil _⟩
  · intro hinsert k hk
    rw [key_assignKey_of_insert (hop.symm.trans hinsert), get?_foldl_addKey, if_pos (hset ▸ hk)]
  · intro hinsert documents changed h
    refine ⟨_, ((applyTo_eq_ok_iff_of_insert hinsert).1 h).2, fun k hk => ?_⟩
    exact get?_document_of_hasKey (hnames.assignKey m) hkey hk

end Change

/-! ### Deliveries -/

namespace Submission

/-- The change set that a submission delivers to what executes it, or the error by which it stops
before. -/
def delivery (m : Model) (call : Submission) : Except SubmitError ChangeSet :=
  if call.cancelled then .error .cancelled
  else
    match call.changeSet.validate m with
    | .error e => .error e
    | .ok () =>
      match call.prepared with
      | .error e => .error e
      | .ok cs =>
        match cs.validate m with
        | .error e => .error e
        | .ok () => if call.cancelledLater then .error .cancelled else .ok (cs.assignInsertKeys m)

variable {m : Model} {call : Submission}

/-- A store executes what is delivered to it, and stays as it is if nothing is. -/
theorem submit_eq_delivery (s : DocumentStore) (m : Model) (call : Submission) :
    s.submit m call.changeSet call.initializer? call.cancelled =
      match call.delivery m with
      | .error e => (.error e, s)
      | .ok cs => s.execute cs false := by
  rw [DocumentStore.submit_eq, delivery]
  cases call.cancelled with
  | true => rfl
  | false =>
    cases call.changeSet.validate m with
    | error e => rfl
    | ok =>
      cases call.prepared with
      | error e => rfl
      | ok left =>
        cases hvalid : left.validate m with
        | error e => simp [hvalid]
        -- what is cancelled late comes to the store, which then makes no change
        | ok => cases call.cancelledLater <;> simp [hvalid, DocumentStore.execute]

/-- What is delivered was left valid by initialization. -/
theorem exists_of_delivery {cs : ChangeSet} (h : call.delivery m = .ok cs) :
    ∃ left, call.prepared = .ok left ∧ left.validate m = .ok () ∧ left.assignInsertKeys m = cs := by
  rw [delivery] at h
  split at h
  · cases h
  · split at h
    · cases h
    · split at h
      · cases h
      · rename_i left hprepared
        split at h
        · cases h
        · rename_i hvalid
          split at h
          · cases h
          · exact ⟨left, hprepared, hvalid, Except.ok.inj h⟩

/-- **What is executed carries full keys.** If a submission comes to what executes it, then each
change that is delivered is one that initialization left, in its place, with the key completed: it
goes to an entity set of the model and has all its key properties. The store is handed just these
changes. -/
theorem completes_delivery {cs : ChangeSet} (h : call.delivery m = .ok cs)
    (hnames : ∀ left, call.prepared = .ok left → ∀ c ∈ left.changes, c.NamesDistinct) :
    (∃ left, call.prepared = .ok left ∧
      List.Forall₂ (Change.Completes m) left.changes cs.changes) ∧
    ∀ s : DocumentStore, s.submit m call.changeSet call.initializer? call.cancelled =
      s.execute cs false := by
  refine ⟨?_, fun s => by rw [submit_eq_delivery, h]⟩
  obtain ⟨left, hprepared, hvalid, rfl⟩ := exists_of_delivery h
  refine ⟨left, hprepared, ?_⟩
  have heach := ChangeSet.validate_eq_ok_iff.1 hvalid
  have hdistinct := hnames left hprepared
  rw [ChangeSet.assignInsertKeys, List.forall₂_map_right_iff, List.forall₂_same]
  exact fun c hc => Change.completes_assignKey (heach c hc) (hdistinct c hc)

/-! ### Employees -/

/-- A model in which employees have the key of persons. -/
def employeeModel : Model where
  namespaceName := "Sample"
  containerName := "Container"
  types := [⟨"Person", "Sample", .entity, none, ["Id"], [], []⟩,
    ⟨"Employee", "Sample", .entity, some "Person", [], [], []⟩]
  entitySets := [⟨"Staff", "Employee", .staticProperty⟩]

/-- One employee with the key among the values, one whose values contradict the key, and one who
leaves. Before all of them the hook puts one more. -/
def hiring : Submission where
  changeSet :=
    ⟨[⟨"Staff", .insert, [], [("Id", Json.ofNat 7), ("Name", Json.str "Ann")]⟩,
      ⟨"Staff", .insert, [("Id", Json.ofNat 3)], [("Id", Json.ofNat 4)]⟩,
      ⟨"Staff", .delete, [("Id", Json.ofNat 1)], []⟩]⟩
  initializer? := some fun cs =>
    { result := .ok ⟨⟨"Staff", .insert, [], [("Id", Json.ofNat 8)]⟩ :: cs.changes⟩ }

/-- The keys are completed where they were not there. -/
def hired : ChangeSet :=
  ⟨[⟨"Staff", .insert, [("Id", Json.ofNat 8)], [("Id", Json.ofNat 8)]⟩,
    ⟨"Staff", .insert, [("Id", Json.ofNat 7)], [("Id", Json.ofNat 7), ("Name", Json.str "Ann")]⟩,
    ⟨"Staff", .insert, [("Id", Json.ofNat 3)], [("Id", Json.ofNat 4)]⟩,
    ⟨"Staff", .delete, [("Id", Json.ofNat 1)], []⟩]⟩

/-- All four changes are delivered in their order, with the key that employees have as persons. -/
theorem completes_delivery_hiring :
    hiring.delivery employeeModel = .ok hired ∧
      (∀ left, hiring.prepared = .ok left → ∀ c ∈ left.changes, c.NamesDistinct) ∧
      (∃ left, hiring.prepared = .ok left ∧
        List.Forall₂ (Change.Completes employeeModel) left.changes hired.changes) ∧
      ∀ s : DocumentStore,
        s.submit employeeModel hiring.changeSet hiring.initializer? false =
          s.execute hired false := by
  have hdelivery : hiring.delivery employeeModel = .ok hired := by cbv
  have hnames : ∀ left, hiring.prepared = .ok left → ∀ c ∈ left.changes, c.NamesDistinct := by
    intro left hleft
    cases hleft
    decide +kernel
  exact ⟨hdelivery, hnames, completes_delivery hdelivery hnames⟩

end Submission

end FacetModel
