import FacetModel.Proofs.Store.Submission
import Mathlib.Data.List.Perm.Basic

/-!
# Changes to different entity sets

A change reads the documents of its own entity set and writes nothing else. So a run of changes
falls apart into one run for each entity set, over the changes that go to it
(`Change.applyAll_eq_ok_iff_runOn`): the changes can be made together exactly if those of each set
can be made by themselves, and then every set has the documents that its own run leaves.

Change sets with the same changes to each entity set, in the same order, therefore do the same to
every store (`DocumentStore.execute_reordered`), however the changes to different sets are mixed.
-/

namespace FacetModel

namespace Change

/-! ### The changes to one entity set -/

/-- The changes to an entity set among some changes, in their order. -/
def toSet (set : String) (changes : List Change) : List Change :=
  changes.filter fun c => c.entitySet == set

theorem toSet_cons_self (c : Change) (rest : List Change) :
    toSet c.entitySet (c :: rest) = c :: toSet c.entitySet rest :=
  List.filter_cons_of_pos (beq_self_eq_true c.entitySet)

theorem toSet_cons_of_ne {set : String} {c : Change} (h : set ≠ c.entitySet) (rest : List Change) :
    toSet set (c :: rest) = toSet set rest := by
  have hskip : ¬ (c.entitySet == set) = true := fun heq => h (eq_of_beq heq).symm
  exact List.filter_cons_of_neg hskip

/-- The documents of one entity set after some changes to it; a set may have none yet. -/
def runOn (documents : Option (List Json)) :
    List Change → Except SubmitError (Option (List Json))
  | [] => .ok documents
  | c :: rest =>
    match c.applyTo documents with
    | .error e => .error e
    | .ok changed => runOn (some changed) rest

/-- The documents of a set go through its changes one after the other. -/
theorem runOn_cons {c : Change} {rest : List Change} {documents after : Option (List Json)} :
    runOn documents (c :: rest) = .ok after ↔
      ∃ changed, c.applyTo documents = .ok changed ∧ runOn (some changed) rest = .ok after := by
  rw [runOn]
  cases c.applyTo documents with
  | error e => simp
  | ok changed => simp

/-- The first of some changes leaves the collections with the new documents of its set. -/
theorem applyAll_cons {c : Change} {rest : List Change} {before after : Collections} :
    applyAll before (c :: rest) = .ok after ↔
      ∃ changed, c.applyTo (before.get? c.entitySet) = .ok changed ∧
        applyAll (before.insert c.entitySet changed) rest = .ok after := by
  rw [applyAll_cons_eq_ok_iff]
  simp only [apply_eq_ok_iff]
  constructor
  · rintro ⟨_, ⟨changed, hchanged, rfl⟩, hrest⟩
    exact ⟨changed, hchanged, hrest⟩
  · rintro ⟨changed, hchanged, hrest⟩
    exact ⟨_, ⟨changed, hchanged, rfl⟩, hrest⟩

/-! ### Runs set by set -/

/-- **A run of changes is one run for each entity set**, over the changes that go to it. -/
theorem applyAll_eq_ok_iff_runOn {changes : List Change} {before after : Collections} :
    applyAll before changes = .ok after ↔
      ∀ set, runOn (before.get? set) (toSet set changes) = .ok (after.get? set) := by
  induction changes generalizing before with
  | nil =>
    constructor
    · intro h set
      rw [← Except.ok.inj h]
      rfl
    · intro h
      have hget : ∀ set, before.get? set = after.get? set := fun set => Except.ok.inj (h set)
      exact congrArg Except.ok (NameMap.ext_get? hget)
  | cons c rest ih =>
    rw [applyAll_cons]
    constructor
    · rintro ⟨changed, happly, hrest⟩ set
      have hset := ih.1 hrest set
      by_cases heq : set = c.entitySet
      · subst heq
        rw [NameMap.get?_insert_self] at hset
        rw [toSet_cons_self, runOn_cons]
        exact ⟨changed, happly, hset⟩
      · rw [NameMap.get?_insert_of_ne before changed heq] at hset
        rw [toSet_cons_of_ne heq]
        exact hset
    · intro h
      -- the run of its own set says that the first change can be made, and what it leaves
      have hown := h c.entitySet
      rw [toSet_cons_self, runOn_cons] at hown
      obtain ⟨changed, happly, hrest⟩ := hown
      refine ⟨changed, happly, ih.2 fun set => ?_⟩
      by_cases heq : set = c.entitySet
      · subst heq
        rw [NameMap.get?_insert_self]
        exact hrest
      · have hset := h set
        rw [toSet_cons_of_ne heq] at hset
        rw [NameMap.get?_insert_of_ne before changed heq]
        exact hset

end Change

/-! ### Reorderings -/

/-- Two change sets have the same changes to each entity set, in the same order. -/
def ChangeSet.Reordered (cs cs' : ChangeSet) : Prop :=
  ∀ set, Change.toSet set cs.changes = Change.toSet set cs'.changes

variable {cs cs' : ChangeSet}

/-- Such change sets have the same changes. -/
theorem ChangeSet.Reordered.perm (h : cs.Reordered cs') : cs.changes.Perm cs'.changes := by
  classical
  refine List.perm_iff_count.2 fun c => ?_
  -- a change is counted among those to its own set
  have hcount : ∀ changes : List Change,
      (Change.toSet c.entitySet changes).count c = changes.count c := by
    intro changes
    exact List.count_filter (p := fun d : Change => d.entitySet == c.entitySet)
      (beq_self_eq_true c.entitySet)
  rw [← hcount, ← hcount cs'.changes, h c.entitySet]

/-- Reordered changes lead to the same collections, as every set has the same run. -/
theorem ChangeSet.Reordered.applyAll (h : cs.Reordered cs') {before after : Collections} :
    Change.applyAll before cs.changes = .ok after ↔
      Change.applyAll before cs'.changes = .ok after := by
  rw [Change.applyAll_eq_ok_iff_runOn, Change.applyAll_eq_ok_iff_runOn]
  exact forall_congr' fun set => by rw [h set]

namespace DocumentStore

theorem taking_of_ok {s : DocumentStore} {changes : List Change} {after : Collections}
    (h : Change.applyAll s.collections changes = .ok after) :
    s.taking changes = { s with collections := after } := by
  rw [taking, h]

/-- A store that cannot take some changes stays as it is. -/
theorem taking_of_not_ok {s : DocumentStore} {changes : List Change}
    (h : ∀ after, Change.applyAll s.collections changes ≠ .ok after) : s.taking changes = s := by
  rw [taking]
  cases hrun : Change.applyAll s.collections changes with
  | error e => rfl
  | ok after => exact absurd hrun (h after)

/-- An execution counts all changes if they can be made, and is an error else. -/
theorem execute_fst_eq_ok_iff {s : DocumentStore} {applied : Nat} :
    (s.execute cs false).1 = .ok applied ↔
      cs.changes.length = applied ∧
        ∃ after, Change.applyAll s.collections cs.changes = .ok after := by
  rw [execute]
  cases Change.applyAll s.collections cs.changes with
  | error e => simp
  | ok after => simp

/-- **Changes to different entity sets commute.** If two change sets have the same changes to each
entity set in the same order, then one of them can be made exactly if the other can, with as many
changes, and both leave the same store: every collection with the same documents in the same
order. -/
theorem execute_reordered (s : DocumentStore) (h : cs.Reordered cs') :
    (∀ applied, (s.execute cs false).1 = .ok applied ↔ (s.execute cs' false).1 = .ok applied) ∧
      (s.execute cs false).2 = (s.execute cs' false).2 ∧
      ∀ collection,
        (s.execute cs false).2.documents? collection
          = (s.execute cs' false).2.documents? collection := by
  have hsame : s.taking cs.changes = s.taking cs'.changes := by
    by_cases hrun : ∃ after, Change.applyAll s.collections cs.changes = .ok after
    · obtain ⟨after, hafter⟩ := hrun
      rw [taking_of_ok hafter, taking_of_ok (h.applyAll.1 hafter)]
    · have hnone := not_exists.1 hrun
      have hother : ∀ after, Change.applyAll s.collections cs'.changes ≠ .ok after :=
        fun after hafter => hnone after (h.applyAll.2 hafter)
      rw [taking_of_not_ok hnone, taking_of_not_ok hother]
  have hstore : (s.execute cs false).2 = (s.execute cs' false).2 := by
    rw [execute_snd, execute_snd, hsame]
  refine ⟨fun applied => ?_, hstore, fun collection => by rw [hstore]⟩
  rw [execute_fst_eq_ok_iff, execute_fst_eq_ok_iff, h.perm.length_eq]
  exact and_congr_right fun _ => exists_congr fun after => h.applyAll

/-- Changes to people mixed with changes to pets. The set of the pets is made by the first of these,
and empty after the last. -/
def mixedChanges : ChangeSet where
  changes :=
    [⟨"People", .insert, [("Id", Json.ofNat 3)], [("Name", Json.str "Ann")]⟩,
     ⟨"Pets", .insert, [("Id", Json.ofNat 1)], []⟩,
     ⟨"People", .update, [("Id", Json.ofNat 3)], [("Name", Json.str "Eve")]⟩,
     ⟨"Pets", .delete, [("Id", Json.ofNat 1)], []⟩]

/-- The same changes, those to the pets first. -/
def sortedChanges : ChangeSet where
  changes :=
    [⟨"Pets", .insert, [("Id", Json.ofNat 1)], []⟩,
     ⟨"Pets", .delete, [("Id", Json.ofNat 1)], []⟩,
     ⟨"People", .insert, [("Id", Json.ofNat 3)], [("Name", Json.str "Ann")]⟩,
     ⟨"People", .update, [("Id", Json.ofNat 3)], [("Name", Json.str "Eve")]⟩]

/-- Both orders can be made on a store without collections, and leave the same. -/
theorem execute_mixedChanges :
    mixedChanges.Reordered sortedChanges ∧
      (execute { database := "db" } mixedChanges false).1 = .ok 4 ∧
      (execute { database := "db" } sortedChanges false).1 = .ok 4 ∧
      (execute { database := "db" } mixedChanges false).2
        = (execute { database := "db" } sortedChanges false).2 := by
  have hreordered : mixedChanges.Reordered sortedChanges := by
    intro set
    by_cases hpeople : set = "People"
    · subst hpeople
      rfl
    · by_cases hpets : set = "Pets"
      · subst hpets
        rfl
      · have hothers : "People" ≠ set ∧ "Pets" ≠ set := ⟨Ne.symm hpeople, Ne.symm hpets⟩
        simp [mixedChanges, sortedChanges, Change.toSet, hothers]
  have hmixed : (execute { database := "db" } mixedChanges false).1 = .ok 4 := by decide +kernel
  obtain ⟨hresult, hstore, -⟩ := execute_reordered { database := "db" } hreordered
  exact ⟨hreordered, hmixed, (hresult 4).1 hmixed, hstore⟩

end DocumentStore

end FacetModel
