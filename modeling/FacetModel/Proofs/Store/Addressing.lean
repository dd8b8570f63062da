import FacetModel.Proofs.Store.Keys
import Mathlib

/-!
# Updates and deletions address one entity

An update changes the first document that matches its key, and a deletion removes all of them. For
a valid change this is the same: it carries all key properties of its set, and where entities differ
in these, at most one of them matches (`Change.exists_addressed`).

So an update or a deletion fails exactly if no document agrees with its key. Otherwise it makes what
it should of the one that does (`Change.Leaves`), and nothing else happens: not to the other members
of an updated entity (`Members.Written`), nor to other documents or collections
(`Change.apply_addressed`). As in every object, no name stands twice in the key of a change or among
its values (`Change.NamesDistinct`).
-/

namespace FacetModel

/-! ### Members that are written -/

namespace Members

variable {σ : Type} {p : String → Bool}

/-- Members after some values are written: these are there, and the other members are the same as
before, in the same order. -/
structure Written (values old new : Members σ) : Prop where
  written : ∀ m ∈ values, new.get? m.1 = some m.2
  others : (new.filter fun m => !values.contains m.1) = old.filter fun m => !values.contains m.1

/-- Setting a member that does not count leaves those that do as they were. -/
theorem filter_set (ms : Members σ) {name : String} (h : ¬ p name) (value : Tree σ) :
    ((ms.set name value).filter fun m => p m.1) = ms.filter fun m => p m.1 := by
  induction ms with
  | nil => simp [set, h]
  | cons m rest ih =>
    obtain ⟨key, old⟩ := m
    rw [set]
    split
    case isTrue heq => simp [← heq, h]
    case isFalse => simp only [List.filter_cons, ih]

/-- So does setting some of them. -/
theorem filter_setAll (ms : Members σ) {changes : Members σ} (h : ∀ m ∈ changes, ¬ p m.1) :
    ((ms.setAll changes).filter fun m => p m.1) = ms.filter fun m => p m.1 := by
  induction changes generalizing ms with
  | nil => rfl
  | cons m rest ih =>
    obtain ⟨hm, hrest⟩ := List.forall_mem_cons.1 h
    exact (ih (ms.set m.1 m.2) hrest).trans (filter_set ms hm m.2)

/-- Setting values writes them and leaves the other members in their order. -/
theorem written_setAll {values : Members σ} (h : (values.map (·.1)).Nodup) (old : Members σ) :
    Written values old (old.setAll values) where
  written m hm := by rw [get?_setAll old h, get?_of_mem h hm, Option.some_or]
  others := by
    refine filter_setAll (p := fun name => !values.contains name) old fun m hm => ?_
    have hcontains : values.contains m.1 := contains_iff.2 ⟨m.2, get?_of_mem h hm⟩
    simp [hcontains]

end Members

/-! ### Documents that a key addresses -/

namespace Json

variable {keys : List String} {key : Members Scalar} {d e : Json}

/-- A document agrees with every member of a key. -/
def AgreesWith (key : Members Scalar) (d : Json) : Prop :=
  ∀ m ∈ key, ∃ v, d.get? m.1 = some v ∧ v.same m.2

/-- A document matches a key that is not empty if it agrees with it. No document matches an empty
one. -/
theorem matchesKey_iff_agreesWith (h : key ≠ []) : matchesKey key d ↔ d.AgreesWith key := by
  rw [matchesKey_iff]
  exact and_iff_right h

/-- Only objects match a key. -/
theorem exists_object_of_matchesKey (h : matchesKey key d) : ∃ members, d = .record members := by
  obtain ⟨hne, hvalues⟩ := matchesKey_iff.1 h
  obtain ⟨m, hm⟩ := List.exists_mem_of_ne_nil key hne
  obtain ⟨v, hv, -⟩ := hvalues m hm
  cases d with
  | scalar value => cases hv
  | list items => cases hv
  | object members => exact ⟨members, rfl⟩

/-- Documents that match a key with some properties agree on these. -/
theorem agreesOn_of_matchesKey (hkey : ∀ k ∈ keys, key.contains k) (hd : matchesKey key d)
    (he : matchesKey key e) : agreesOn keys d e := by
  rw [agreesOn_iff]
  intro k hk
  obtain ⟨w, hw⟩ := Members.contains_iff.1 (hkey k hk)
  obtain ⟨v, hv, hvw⟩ := get?_of_matchesKey hd hw
  obtain ⟨v', hv', hvw'⟩ := get?_of_matchesKey he hw
  exact ⟨v, v', hv, hv', same_trans hvw (same_symm hvw')⟩

end Json

/-- An update that finds a document changes the first one. -/
theorem updateFirst?_append {p : Json → Bool} {f : Json → Json} {before after : List Json}
    {d : Json} (hbefore : ∀ e ∈ before, ¬ p e) (hd : p d) :
    updateFirst? p f (before ++ d :: after) = some (before ++ f d :: after) := by
  induction before with
  | nil => rw [List.nil_append, updateFirst?, if_pos hd]; rfl
  | cons e rest ih =>
    obtain ⟨he, hrest⟩ := List.forall_mem_cons.1 hbefore
    rw [List.cons_append, updateFirst?, if_neg he, ih hrest]
    rfl

/-- Where no document passes the test, none is updated. -/
theorem updateFirst?_eq_none {p : Json → Bool} {f : Json → Json} {documents : List Json}
    (h : ∀ d ∈ documents, ¬ p d) : updateFirst? p f documents = none := by
  induction documents with
  | nil => rfl
  | cons d rest ih =>
    obtain ⟨hd, hrest⟩ := List.forall_mem_cons.1 h
    rw [updateFirst?, if_neg hd, ih hrest]
    rfl

/-! ### What becomes of the addressed document -/

namespace Change

variable {c : Change}

/-- What a change leaves in the place of the entity that it addresses: an update writes its values,
and a deletion leaves nothing. -/
def Leaves (c : Change) (members : Members Json.Scalar) (left : List Json) : Prop :=
  match c.operation with
  | .insert => False
  | .update => ∃ written, left = [.record written] ∧ Members.Written c.values members written
  | .delete => left = []

/-- An update or a deletion whose key nothing matches fails. -/
theorem applyTo_of_forall_not (hop : c.operation ≠ .insert) {documents : Option (List Json)}
    (h : ∀ d ∈ documents.getD [], ¬ Json.matchesKey c.key d) :
    c.applyTo documents = .error c.notFound := by
  unfold applyTo
  cases hc : c.operation with
  | insert => exact absurd hc hop
  | update =>
    have hnone : documents.bind
        (updateFirst? (Json.matchesKey c.key) (Json.overlay c.values)) = none := by
      cases documents with
      | none => rfl
      | some documents => exact updateFirst?_eq_none h
    simp only [hnone]
  | delete =>
    cases documents with
    | none => rfl
    | some documents =>
      have hany : ¬ documents.any (Json.matchesKey c.key) := by simpa using h
      exact if_neg hany

/-- An update or a deletion acts on the one document that matches its key. -/
theorem applyTo_of_matchesKey (hop : c.operation ≠ .insert) (hnames : c.NamesDistinct)
    {before after : List Json} {members : Members Json.Scalar}
    (hmatch : Json.matchesKey c.key (.record members))
    (hothers : ∀ d ∈ before ++ after, ¬ Json.matchesKey c.key d) :
    ∃ left, c.Leaves members left ∧
      c.applyTo (some (before ++ .record members :: after)) = .ok (before ++ left ++ after) := by
  obtain ⟨hbefore, hafter⟩ := List.forall_mem_append.1 hothers
  unfold Leaves applyTo
  cases hc : c.operation with
  | insert => exact absurd hc hop
  | update =>
    refine ⟨[.record (members.setAll c.values)],
      ⟨_, rfl, Members.written_setAll hnames.values members⟩, ?_⟩
    simp only [Option.bind_some, updateFirst?_append hbefore hmatch, Json.overlay,
      List.append_assoc, List.singleton_append]
  | delete =>
    refine ⟨[], rfl, ?_⟩
    have hany : (before ++ .record members :: after).any (Json.matchesKey c.key) :=
      List.any_eq_true.2 ⟨_, List.mem_append_right _ List.mem_cons_self, hmatch⟩
    have hkeep : ∀ l : List Json, (∀ d ∈ l, ¬ Json.matchesKey c.key d) →
        (l.filter fun d => !Json.matchesKey c.key d) = l :=
      fun l hl => List.filter_eq_self.2 fun d hd => by simpa using hl d hd
    simp only [hany, if_true, List.filter_append, List.filter_cons, hmatch, Bool.not_true,
      Bool.false_eq_true, if_false, hkeep before hbefore, hkeep after hafter, List.append_nil]

/-! ### Valid changes to entities with unique keys -/

/-- A valid update or deletion carries the whole key of its set. -/
theorem hasKey_of_validate {m : Model} {cs : ChangeSet} (hvalid : cs.validate m = .ok ())
    (hc : c ∈ cs.changes) (hop : c.operation ≠ .insert) :
    c.HasKey (m.keysOfSet c.entitySet) := by
  intro k hk
  have hcarries := (validate_eq_ok_iff.1 (ChangeSet.validate_eq_ok_iff.1 hvalid c hc)).2 k hk
  rw [carries, Bool.or_eq_true, Bool.and_eq_true, beq_iff_eq] at hcarries
  -- only an insertion may carry a key property among its values
  exact hcarries.resolve_right fun h => hop h.1

/-- **At most one document matches** a key with all properties in which the documents differ, and it
is an object. -/
theorem exists_addressed {keys : List String} (hkey : c.HasKey keys)
    {documents : Option (List Json)} (hunique : Json.UniqueOn keys (documents.getD [])) {d : Json}
    (hd : d ∈ documents.getD []) (hmatch : Json.matchesKey c.key d) :
    ∃ before members after, documents = some (before ++ .record members :: after) ∧
      Json.matchesKey c.key (.record members) ∧
      ∀ e ∈ before ++ after, ¬ Json.matchesKey c.key e := by
  cases documents with
  | none => cases hd
  | some documents =>
    rw [Option.getD_some] at hunique hd
    obtain ⟨before, after, rfl⟩ := List.append_of_mem hd
    obtain ⟨members, rfl⟩ := Json.exists_object_of_matchesKey hmatch
    -- another document that matches would agree with this one on the whole key
    refine ⟨before, members, after, rfl, hmatch, fun e he hother => ?_⟩
    exact (Json.uniqueOn_middle.1 hunique).1 e he (Json.agreesOn_of_matchesKey hkey hmatch hother)

/-- **Updates and deletions address one entity.** A valid update or deletion in a set whose entities
differ in their key fails exactly if no document agrees with its key, and then says so. Otherwise
just one document agrees, which is an object; the change makes of it what it should, and leaves all
other documents and all other collections as they are. -/
theorem apply_addressed {m : Model} {cs : ChangeSet} (hvalid : cs.validate m = .ok ())
    (hc : c ∈ cs.changes) (hop : c.operation ≠ .insert) (hnames : c.NamesDistinct)
    (hkeys : m.keysOfSet c.entitySet ≠ []) {s : DocumentStore}
    (hunique : s.KeysUnique c.entitySet (m.keysOfSet c.entitySet)) :
    (∀ e, c.apply s.collections = .error e ↔
        e = c.notFound ∧ ∀ d ∈ (s.documents? c.entitySet).getD [], ¬ d.AgreesWith c.key) ∧
      ∀ next, c.apply s.collections = .ok next →
        ∃ before members after left,
          s.documents? c.entitySet = some (before ++ .record members :: after) ∧
          (Json.record members).AgreesWith c.key ∧
          (∀ d ∈ before ++ after, ¬ d.AgreesWith c.key) ∧
          c.Leaves members left ∧
          next.get? c.entitySet = some (before ++ left ++ after) ∧
          ∀ name ≠ c.entitySet, next.get? name = s.documents? name := by
  have hkey : c.HasKey (m.keysOfSet c.entitySet) := hasKey_of_validate hvalid hc hop
  have hne : c.key ≠ [] := key_ne_nil hkeys hkey
  simp only [← Json.matchesKey_iff_agreesWith hne]
  have happly : c.apply s.collections =
    (c.applyTo (s.documents? c.entitySet)).map (s.collections.insert c.entitySet) := rfl
  -- either no document matches the key, or one does and is the only one
  by_cases hnone : ∀ d ∈ (s.documents? c.entitySet).getD [], ¬ Json.matchesKey c.key d
  · rw [happly, applyTo_of_forall_not hop hnone]
    refine ⟨fun e => ⟨fun h => ?_, fun h => ?_⟩, fun next h => ?_⟩
    · cases h
      exact ⟨rfl, hnone⟩
    · rw [h.1]
      rfl
    · cases h
  · have hsome := hnone
    push Not at hsome
    obtain ⟨d, hd, hmatch⟩ := hsome
    obtain ⟨before, members, after, hdocuments, hobject, hothers⟩ :=
      exists_addressed hkey hunique hd hmatch
    obtain ⟨left, hleaves, hleft⟩ := applyTo_of_matchesKey hop hnames hobject hothers
    rw [happly, hdocuments, hleft]
    refine ⟨fun e => ⟨fun h => ?_, fun h => ?_⟩, fun next h => ?_⟩
    · cases h
    · exact absurd hobject (h.2 _ (List.mem_append_right _ List.mem_cons_self))
    · cases h
      exact ⟨before, members, after, left, rfl, hobject, hothers, hleaves,
        NameMap.get?_insert_self .., fun name => NameMap.get?_insert_of_ne s.collections _⟩

/-! ### A person who is renamed -/

/-- People with a note between them. -/
def annotatedStore : DocumentStore :=
  DocumentStore.withCollection { database := "db" } "People"
    [.record [("Id", Json.ofNat 1)], .str "note",
      .record [("Id", Json.ofNat 2), ("Name", Json.str "Ann")]]

/-- Person 2 gets another name and an age. -/
def renameTwo : Change :=
  ⟨"People", .update, [("Id", Json.ofNat 2)], [("Name", Json.str "Eve"), ("Age", Json.ofNat 30)]⟩

/-- Person 3 leaves, who never came. -/
def removeThree : Change := ⟨"People", .delete, [("Id", Json.ofNat 3)], []⟩

/-- Just person 2 is renamed, behind the note, and nobody leaves. -/
theorem apply_addressed_people :
    (⟨[renameTwo, removeThree]⟩ : ChangeSet).validate DocumentStore.peopleModel = .ok () ∧
      annotatedStore.KeysUnique "People" (DocumentStore.peopleModel.keysOfSet "People") ∧
      removeThree.apply annotatedStore.collections = .error removeThree.notFound ∧
      ∃ next before members after left,
        renameTwo.apply annotatedStore.collections = .ok next ∧
        annotatedStore.documents? "People" = some (before ++ .record members :: after) ∧
        (Json.record members).AgreesWith renameTwo.key ∧ renameTwo.Leaves members left ∧
        next.get? "People" = some (before ++ left ++ after) ∧
        next.get? "People" = some
          [.record [("Id", Json.ofNat 1)], .str "note",
            .record [("Id", Json.ofNat 2), ("Name", Json.str "Eve"), ("Age", Json.ofNat 30)]] := by
  have hvalid :
      (⟨[renameTwo, removeThree]⟩ : ChangeSet).validate DocumentStore.peopleModel = .ok () := by
    cbv
  have hkeys : DocumentStore.peopleModel.keysOfSet "People" ≠ [] := by
    rw [DocumentStore.keysOfSet_peopleModel]
    decide
  have hunique : annotatedStore.KeysUnique "People"
      (DocumentStore.peopleModel.keysOfSet "People") := by
    rw [DocumentStore.keysOfSet_peopleModel]
    decide +kernel
  have hnames : ∀ c ∈ [renameTwo, removeThree], c.NamesDistinct := by decide +kernel
  refine ⟨hvalid, hunique, ?_, ?_⟩
  · have hleave := apply_addressed hvalid (c := removeThree) (by simp) (by decide)
      (hnames _ (by simp)) hkeys hunique
    have hmissing : ∀ d ∈ (annotatedStore.documents? "People").getD [],
        ¬ Json.matchesKey removeThree.key d := by decide +kernel
    refine (hleave.1 _).2 ⟨rfl, fun d hd hagrees => hmissing d hd ?_⟩
    exact (Json.matchesKey_iff_agreesWith (List.cons_ne_nil _ _)).2 hagrees
  · have hrename := apply_addressed hvalid (c := renameTwo) (by simp) (by decide)
      (hnames _ (by simp)) hkeys hunique
    obtain ⟨before, members, after, left, hbefore, hagrees, -, hleaves, hafter, -⟩ :=
      hrename.2 _ rfl
    exact ⟨_, before, members, after, left, rfl, hbefore, hagrees, hleaves, hafter, by cbv⟩

end Change

end FacetModel
