import FacetModel.Proofs.Store.Submission
import Mathlib

/-!
# Unique keys in runs of submissions

Entities of a set are meant to differ in their key properties. A run of submissions keeps it so for
the changes of some kind exactly if each of them keeps keys
(`DocumentStore.keysUnique_afterAll_iff`, `Change.KeepsKeys`):

* an insertion has nothing but key properties in its key, since an entity only stands in its way if
  it has all that is in this key;
* an update writes no other values to key properties, since nothing is looked up for these.

Deletions always keep keys. For a change that does not, there is a store with unique keys which
loses them when the change is submitted alone (`DocumentStore.exists_not_keysUnique`).
-/

namespace FacetModel

/-! ### Agreement on key properties -/

namespace Json

variable {keys : List String} {d e : Json}

/-- Whether two documents have values for some properties, and the same ones. -/
def agreesOn (keys : List String) (d e : Json) : Bool :=
  keys.all fun k => (d.get? k).any fun v => (e.get? k).any v.same

/-- No two of some documents have the same values for some properties. -/
def UniqueOn (keys : List String) (documents : List Json) : Prop :=
  documents.Pairwise fun d e => ¬ agreesOn keys d e

instance (keys : List String) (documents : List Json) : Decidable (UniqueOn keys documents) :=
  inferInstanceAs (Decidable (documents.Pairwise _))

/-- Two documents agree if each has a value for every key property, the same in both. -/
theorem agreesOn_iff :
    agreesOn keys d e ↔ ∀ k ∈ keys, ∃ v w, d.get? k = some v ∧ e.get? k = some w ∧ v.same w := by
  simp only [agreesOn, List.all_eq_true, Option.any_eq_true]
  constructor
  · intro h k hk
    obtain ⟨v, hv, w, hw, hsame⟩ := h k hk
    exact ⟨v, w, hv, hw, hsame⟩
  · intro h k hk
    obtain ⟨v, w, hv, hw, hsame⟩ := h k hk
    exact ⟨v, hv, w, hw, hsame⟩

theorem agreesOn_symm (h : agreesOn keys d e) : agreesOn keys e d := by
  rw [agreesOn_iff] at h ⊢
  intro k hk
  obtain ⟨v, w, hv, hw, hsame⟩ := h k hk
  exact ⟨w, v, hw, hv, same_symm hsame⟩

/-- A document with values for all the properties agrees with itself. -/
theorem agreesOn_self (h : ∀ k ∈ keys, ∃ v, d.get? k = some v) : agreesOn keys d d := by
  rw [agreesOn_iff]
  intro k hk
  obtain ⟨v, hv⟩ := h k hk
  exact ⟨v, v, hv, hv, same_refl v⟩

theorem uniqueOn_pair : UniqueOn keys [d, e] ↔ ¬ agreesOn keys d e := List.pairwise_pair

/-- Documents with the values of a key are those that match it. -/
theorem matchesKey_iff {key : Members Scalar} :
    matchesKey key d ↔ key ≠ [] ∧ ∀ k ∈ key, ∃ v, d.get? k.1 = some v ∧ v.same k.2 := by
  simp only [matchesKey, Bool.and_eq_true, Bool.not_eq_true', List.isEmpty_eq_false_iff,
    List.all_eq_true, Option.any_eq_true, ne_eq]

/-- A document that matches a key has the values of the key, up to equality of values. -/
theorem get?_of_matchesKey {key : Members Scalar} (h : matchesKey key d) {k : String} {w : Json}
    (hw : key.get? k = some w) : ∃ v, d.get? k = some v ∧ v.same w :=
  (matchesKey_iff.1 h).2 (k, w) (Members.mem_of_get? hw)

/-- Of the new values and the old ones, the new ones are found first. -/
theorem get?_overlay {values : Members Scalar} (hvalues : (values.map (·.1)).Nodup) {k : String}
    {v : Json} (h : d.get? k = some v) :
    (overlay values d).get? k = (values.get? k).or (some v) := by
  cases d with
  | scalar value => cases h
  | list items => cases h
  | object members =>
    have hget : (overlay values (.object members)).get? k = (Members.setAll members values).get? k :=
      rfl
    have hold : Members.get? members k = some v := h
    rw [hget, Members.get?_setAll _ hvalues, hold]

/-- Documents around one that changes are unique exactly if it agrees with none of the others. -/
theorem uniqueOn_middle {before after : List Json} :
    UniqueOn keys (before ++ d :: after) ↔
      (∀ e ∈ before ++ after, ¬ agreesOn keys d e) ∧ UniqueOn keys (before ++ after) := by
  rw [UniqueOn, List.pairwise_middle fun h hagree => h (agreesOn_symm hagree), List.pairwise_cons]
  rfl

end Json

/-- An update changes the first document that passes its test. -/
theorem updateFirst?_eq_some {p : Json → Bool} {f : Json → Json} {documents changed : List Json}
    (h : updateFirst? p f documents = some changed) :
    ∃ before d after, documents = before ++ d :: after ∧ p d ∧ changed = before ++ f d :: after := by
  induction documents generalizing changed with
  | nil => cases h
  | cons d rest ih =>
    rw [updateFirst?] at h
    split at h
    case isTrue hp => exact ⟨[], d, rest, rfl, hp, (Option.some.inj h).symm⟩
    case isFalse =>
      obtain ⟨tail, htail, rfl⟩ := Option.map_eq_some_iff.1 h
      obtain ⟨before, e, after, rfl, hp, rfl⟩ := ih htail
      exact ⟨d :: before, e, after, rfl, hp, rfl⟩

/-! ### Changes that keep keys -/

namespace Change

/-- Each name stands once in the key of a change, and once among its values. -/
structure NamesDistinct (c : Change) : Prop where
  key : (c.key.map (·.1)).Nodup
  values : (c.values.map (·.1)).Nodup

instance (c : Change) : Decidable c.NamesDistinct :=
  decidable_of_iff ((c.key.map (·.1)).Nodup ∧ (c.values.map (·.1)).Nodup)
    ⟨fun h => ⟨h.1, h.2⟩, fun h => ⟨h.key, h.values⟩⟩

/-- An insertion has nothing but key properties in its key, and an update gives them the values that
they have in its key. -/
def KeepsKeys (keys : List String) (c : Change) : Prop :=
  match c.operation with
  | .insert => ∀ m ∈ c.key, m.1 ∈ keys
  | .update => ∀ k ∈ keys, ∀ v ∈ c.values.get? k, ∃ w ∈ c.key.get? k, Json.same v w
  | .delete => True

instance (keys : List String) (c : Change) : Decidable (c.KeepsKeys keys) :=
  match h : c.operation with
  | .insert => decidable_of_iff (∀ m ∈ c.key, m.1 ∈ keys) (by rw [KeepsKeys, h])
  | .update =>
    decidable_of_iff (∀ k ∈ keys, ∀ v ∈ c.values.get? k, ∃ w ∈ c.key.get? k, Json.same v w)
      (by rw [KeepsKeys, h])
  | .delete => .isTrue (by rw [KeepsKeys, h]; trivial)

variable {keys : List String} {c : Change}

/-- A change with a whole key has some key property. -/
theorem key_ne_nil (hkeys : keys ≠ []) (hkey : c.HasKey keys) : c.key ≠ [] := by
  obtain ⟨k, hk⟩ := List.exists_mem_of_ne_nil keys hkeys
  intro hnil
  have hcontains := hkey k hk
  rw [hnil] at hcontains
  cases hcontains

/-- In the document of an insertion the key comes before the values. -/
theorem get?_document (hnames : c.NamesDistinct) (k : String) :
    c.document.get? k = (c.key.get? k).or (c.values.get? k) :=
  Members.get?_setAll c.values hnames.key k

/-- What an insertion adds agrees with no document that does not match its key. -/
theorem not_agreesOn_document (hkeys : keys ≠ []) (hnames : c.NamesDistinct) (hkey : c.HasKey keys)
    (hkeeps : ∀ m ∈ c.key, m.1 ∈ keys) {d : Json} (hmatch : ¬ Json.matchesKey c.key d) :
    ¬ Json.agreesOn keys c.document d := by
  intro hagree
  refine hmatch (Json.matchesKey_iff.2 ⟨key_ne_nil hkeys hkey, fun m hm => ?_⟩)
  have hget : c.key.get? m.1 = some m.2 := Members.get?_of_mem hnames.key hm
  obtain ⟨v, w, hv, hw, hsame⟩ := Json.agreesOn_iff.1 hagree m.1 (hkeeps m hm)
  -- the new document has the value of its key there
  rw [get?_document hnames, hget, Option.some_or] at hv
  rw [Option.some.inj hv]
  exact ⟨w, hw, Json.same_symm hsame⟩

/-- What an update makes of a document agrees only with what the document agreed with. -/
theorem agreesOn_of_overlay (hnames : c.NamesDistinct) (hkey : c.HasKey keys)
    (hkeeps : ∀ k ∈ keys, ∀ v ∈ c.values.get? k, ∃ w ∈ c.key.get? k, Json.same v w)
    {d e : Json} (hmatch : Json.matchesKey c.key d)
    (hagree : Json.agreesOn keys (Json.overlay c.values d) e) : Json.agreesOn keys d e := by
  rw [Json.agreesOn_iff] at hagree ⊢
  intro k hk
  obtain ⟨w, hw⟩ := Members.contains_iff.1 (hkey k hk)
  obtain ⟨old, hold, hsame⟩ := Json.get?_of_matchesKey hmatch hw
  obtain ⟨new, other, hnew, hother, hagrees⟩ := hagree k hk
  refine ⟨old, other, hold, hother, ?_⟩
  rw [Json.get?_overlay hnames.values hold] at hnew
  cases hvalue : c.values.get? k with
  | none =>
    rw [hvalue, Option.none_or] at hnew
    rw [Option.some.inj hnew]
    exact hagrees
  | some v =>
    -- the old value and the new one are both that of the key
    obtain ⟨w', hw', hvw⟩ := hkeeps k hk v hvalue
    cases hw.symm.trans hw'
    rw [hvalue, Option.some_or] at hnew
    cases hnew
    exact Json.same_trans (Json.same_trans hsame (Json.same_symm hvw)) hagrees

/-- A change that keeps keys leaves documents unique. -/
theorem uniqueOn_applyTo (hkeys : keys ≠ []) (hnames : c.NamesDistinct) (hkey : c.HasKey keys)
    (hkeeps : c.KeepsKeys keys) {documents : Option (List Json)} {changed : List Json}
    (hunique : Json.UniqueOn keys (documents.getD []))
    (h : c.applyTo documents = .ok changed) : Json.UniqueOn keys changed := by
  rw [KeepsKeys] at hkeeps
  cases hop : c.operation with
  | insert =>
    rw [hop] at hkeeps
    obtain ⟨hfree, rfl⟩ := (applyTo_eq_ok_iff_of_insert hop).1 h
    rw [Json.uniqueOn_middle, List.append_nil]
    -- a document that agrees with the new one would have been in its way
    exact ⟨fun e he => not_agreesOn_document hkeys hnames hkey hkeeps (hfree e he), hunique⟩
  | update =>
    rw [hop] at hkeeps
    simp only [applyTo, hop] at h
    split at h
    · rename_i updated hupdated
      cases h
      obtain ⟨old, rfl, hfirst⟩ := Option.bind_eq_some_iff.1 hupdated
      obtain ⟨before, d, after, rfl, hmatch, rfl⟩ := updateFirst?_eq_some hfirst
      rw [Option.getD_some, Json.uniqueOn_middle] at hunique
      rw [Json.uniqueOn_middle]
      refine ⟨fun e he hagree => ?_, hunique.2⟩
      exact hunique.1 e he (agreesOn_of_overlay hnames hkey hkeeps hmatch hagree)
    · cases h
  | delete =>
    simp only [applyTo, hop] at h
    split at h
    · cases h
    · split at h
      · cases h
        -- a deletion leaves some of the documents
        exact hunique.sublist List.filter_sublist
      · cases h

/-! ### Changes that lose keys -/

/-- An insertion with more than key properties in its key adds a second entity beside one that has
only these. -/
theorem exists_not_uniqueOn_insert (hnames : c.NamesDistinct) (hkey : c.HasKey keys)
    (hop : c.operation = .insert) {m : String × Json} (hm : m ∈ c.key) (hmore : m.1 ∉ keys) :
    ∃ documents changed, Json.UniqueOn keys documents ∧
      c.applyTo (some documents) = .ok changed ∧ ¬ Json.UniqueOn keys changed := by
  -- an entity that the new one agrees with, but that lacks what else is in its key
  let d : Json := .record (c.key.filter fun m => keys.contains m.1)
  have hget : ∀ k, d.get? k = if keys.contains k then c.key.get? k else none :=
    Members.get?_filter keys.contains c.key
  have hmatch : ¬ Json.matchesKey c.key d := by
    intro h
    obtain ⟨v, hv, -⟩ := (Json.matchesKey_iff.1 h).2 m hm
    rw [hget, if_neg (by simpa using hmore)] at hv
    cases hv
  refine ⟨[d], [d, c.document], List.pairwise_singleton _ d, ?_, ?_⟩
  · simp [applyTo, hop, hmatch]
  · rw [Json.uniqueOn_pair, not_not, Json.agreesOn_iff]
    intro k hk
    obtain ⟨w, hw⟩ := Members.contains_iff.1 (hkey k hk)
    refine ⟨w, w, ?_, ?_, Json.same_refl w⟩
    · rw [hget, if_pos (by simpa using hk), hw]
    · rw [get?_document hnames, hw, Option.some_or]

/-- An update that gives a key property another value than its key makes an entity like one that has
the other value already. -/
theorem exists_not_uniqueOn_update (hnames : c.NamesDistinct) (hkey : c.HasKey keys)
    (hop : c.operation = .update) {k : String} (hk : k ∈ keys) {v : Json}
    (hv : c.values.get? k = some v) (hother : ∀ w ∈ c.key.get? k, ¬ Json.same v w) :
    ∃ documents changed, Json.UniqueOn keys documents ∧
      c.applyTo (some documents) = .ok changed ∧ ¬ Json.UniqueOn keys changed := by
  -- the first entity has the key, the second is what the update makes of the first
  let d : Json := .record c.key
  let e : Json := Json.overlay c.values d
  have hoverlay : ∀ {k w}, c.key.get? k = some w → e.get? k = (c.values.get? k).or (some w) :=
    fun hw => Json.get?_overlay hnames.values hw
  have hmatch : Json.matchesKey c.key d := by
    refine Json.matchesKey_iff.2 ⟨key_ne_nil (List.ne_nil_of_mem hk) hkey, fun m hm => ?_⟩
    exact ⟨m.2, Members.get?_of_mem hnames.key hm, Json.same_refl m.2⟩
  refine ⟨[d, e], [e, e], ?_, ?_, ?_⟩
  · rw [Json.uniqueOn_pair]
    intro hagree
    obtain ⟨w, v', hw, hv', hsame⟩ := Json.agreesOn_iff.1 hagree k hk
    rw [hoverlay hw, hv, Option.some_or] at hv'
    cases hv'
    exact hother w hw (Json.same_symm hsame)
  · simp [applyTo, hop, updateFirst?, hmatch, e]
  · rw [Json.uniqueOn_pair, not_not]
    refine Json.agreesOn_self fun k' hk' => ?_
    obtain ⟨w, hw⟩ := Members.contains_iff.1 (hkey k' hk')
    rw [hoverlay hw]
    cases c.values.get? k' with
    | none => exact ⟨w, rfl⟩
    | some v' => exact ⟨v', rfl⟩

/-- For a change that does not keep keys there are unique documents which it leaves with two that
agree. -/
theorem exists_not_uniqueOn (hnames : c.NamesDistinct) (hkey : c.HasKey keys)
    (hloses : ¬ c.KeepsKeys keys) :
    ∃ documents changed, Json.UniqueOn keys documents ∧
      c.applyTo (some documents) = .ok changed ∧ ¬ Json.UniqueOn keys changed := by
  rw [KeepsKeys] at hloses
  cases hop : c.operation with
  | insert =>
    rw [hop] at hloses
    dsimp only at hloses
    push Not at hloses
    obtain ⟨m, hm, hmore⟩ := hloses
    exact exists_not_uniqueOn_insert hnames hkey hop hm hmore
  | update =>
    rw [hop] at hloses
    dsimp only at hloses
    push Not at hloses
    obtain ⟨k, hk, v, hv, hother⟩ := hloses
    exact exists_not_uniqueOn_update hnames hkey hop hk hv hother
  | delete =>
    rw [hop] at hloses
    exact absurd trivial hloses

end Change

/-! ### Runs -/

namespace DocumentStore

/-- No two documents of a collection have the same values for some properties. -/
def KeysUnique (s : DocumentStore) (set : String) (keys : List String) : Prop :=
  Json.UniqueOn keys ((s.documents? set).getD [])

instance (s : DocumentStore) (set : String) (keys : List String) :
    Decidable (s.KeysUnique set keys) :=
  inferInstanceAs (Decidable (Json.UniqueOn keys _))

variable {set : String} {keys : List String}

/-- Changes that keep the keys of a set leave its documents unique, whatever the changes to other
sets are. -/
theorem uniqueOn_applyAll (hkeys : keys ≠ []) {changes : List Change}
    (h : ∀ c ∈ changes, c.entitySet = set → c.NamesDistinct ∧ c.HasKey keys ∧ c.KeepsKeys keys)
    {collections next : Collections} (hunique : Json.UniqueOn keys ((collections.get? set).getD []))
    (hnext : Change.applyAll collections changes = .ok next) :
    Json.UniqueOn keys ((next.get? set).getD []) := by
  induction changes generalizing collections with
  | nil =>
    cases hnext
    exact hunique
  | cons c rest ih =>
    obtain ⟨middle, hfirst, hlast⟩ := Change.applyAll_cons_eq_ok_iff.1 hnext
    obtain ⟨changed, hchanged, rfl⟩ := Change.apply_eq_ok_iff.1 hfirst
    refine ih (fun d hd => h d (List.mem_cons_of_mem _ hd)) ?_ hlast
    rw [NameMap.get?_insert]
    -- a change to another set leaves the documents of this one as they are
    by_cases heq : set = c.entitySet
    · obtain ⟨hnames, hkey, hkeeps⟩ := h c List.mem_cons_self heq.symm
      rw [if_pos heq, Option.getD_some]
      rw [← heq] at hchanged
      exact Change.uniqueOn_applyTo hkeys hnames hkey hkeeps hunique hchanged
    · rw [if_neg heq]
      exact hunique

/-- Changes that keep keys leave a store with unique ones, whether they are made or fail. -/
theorem keysUnique_taking {s : DocumentStore} (hkeys : keys ≠ []) {changes : List Change}
    (h : ∀ c ∈ changes, c.entitySet = set → c.NamesDistinct ∧ c.HasKey keys ∧ c.KeepsKeys keys)
    (hunique : s.KeysUnique set keys) : (s.taking changes).KeysUnique set keys := by
  rw [taking]
  split
  case h_1 collections hnext => exact uniqueOn_applyAll hkeys h hunique hnext
  case h_2 => exact hunique

/-- One submission leaves keys unique if what it hands to the store keeps them. -/
theorem keysUnique_after {s : DocumentStore} {m : Model} (hkeys : m.keysOfSet set ≠ [])
    {call : Submission}
    (h : ∀ c ∈ call.handed m, c.entitySet = set →
      c.NamesDistinct ∧ (c.HasKey (m.keysOfSet set) → c.KeepsKeys (m.keysOfSet set)))
    (hunique : s.KeysUnique set (m.keysOfSet set)) :
    (s.after m call).KeysUnique set (m.keysOfSet set) := by
  rw [after_eq]
  refine keysUnique_taking hkeys (fun c hc hset => ?_) hunique
  obtain ⟨hnames, hkeeps⟩ := h c hc hset
  have hkey : c.HasKey (m.keysOfSet set) := hset ▸ Submission.hasKey_of_mem_handed hc
  exact ⟨hnames, hkey, hkeeps hkey⟩

/-- Keys that are unique stay so in a run if what reaches the store keeps them. -/
theorem keysUnique_afterAll {m : Model} (hkeys : m.keysOfSet set ≠ []) {calls : List Submission}
    (h : ∀ call ∈ calls, ∀ c ∈ call.handed m, c.entitySet = set →
      c.NamesDistinct ∧ (c.HasKey (m.keysOfSet set) → c.KeepsKeys (m.keysOfSet set)))
    {s : DocumentStore} (hunique : s.KeysUnique set (m.keysOfSet set)) :
    (s.afterAll m calls).KeysUnique set (m.keysOfSet set) := by
  induction calls generalizing s with
  | nil => exact hunique
  | cons call rest ih =>
    have hstep := keysUnique_after hkeys (h call List.mem_cons_self) hunique
    exact ih (fun d hd => h d (List.mem_cons_of_mem _ hd)) hstep

/-- A change that carries the whole key but does not keep keys: there is a store with unique keys
that loses them when this change alone is submitted. -/
theorem exists_not_keysUnique {m : Model} {c : Change} (hkeys : m.keysOfSet c.entitySet ≠ [])
    (hnames : c.NamesDistinct) (hkey : c.HasKey (m.keysOfSet c.entitySet))
    (hloses : ¬ c.KeepsKeys (m.keysOfSet c.entitySet)) :
    Submission.handed m { changeSet := ⟨[c]⟩ } = [c] ∧
      ∃ s : DocumentStore, s.KeysUnique c.entitySet (m.keysOfSet c.entitySet) ∧
        ¬ (s.after m { changeSet := ⟨[c]⟩ }).KeysUnique c.entitySet (m.keysOfSet c.entitySet) := by
  have hhanded : Submission.handed m { changeSet := ⟨[c]⟩ } = [c] :=
    Submission.handed_single (Model.isSome_of_keysOfSet hkeys) hkey
  obtain ⟨documents, changed, hunique, happly, hlost⟩ :=
    Change.exists_not_uniqueOn hnames hkey hloses
  let s : DocumentStore := withCollection { database := "" } c.entitySet documents
  have hdocuments : s.documents? c.entitySet = some documents := documents?_withCollection ..
  refine ⟨hhanded, s, by rwa [KeysUnique, hdocuments], ?_⟩
  have hafter : s.taking [c] = s.withCollection c.entitySet changed :=
    taking_single (by rw [hdocuments, happly])
  rw [after_eq, hhanded, hafter, KeysUnique, documents?_withCollection]
  exact hlost

/-- **When keys stay unique**: in all runs of submissions whose changes are of some kind, exactly if
every such change that carries the whole key keeps keys. -/
theorem keysUnique_afterAll_iff (m : Model) {set : String} (hkeys : m.keysOfSet set ≠ [])
    (kind : Change → Prop) :
    (∀ (s : DocumentStore) (calls : List Submission), s.KeysUnique set (m.keysOfSet set) →
        (∀ call ∈ calls, ∀ c ∈ call.handed m, c.NamesDistinct ∧ kind c) →
        (s.afterAll m calls).KeysUnique set (m.keysOfSet set)) ↔
      ∀ c, c.NamesDistinct → kind c → c.entitySet = set → c.HasKey (m.keysOfSet set) →
        c.KeepsKeys (m.keysOfSet set) := by
  constructor
  · intro h c hnames hkind hset hkey
    subst hset
    by_contra hloses
    obtain ⟨hhanded, s, hunique, hlost⟩ := exists_not_keysUnique hkeys hnames hkey hloses
    -- the run that consists of this change
    refine hlost (h s [{ changeSet := ⟨[c]⟩ }] hunique fun call hcall d hd => ?_)
    rw [List.mem_singleton.1 hcall, hhanded, List.mem_singleton] at hd
    rw [hd]
    exact ⟨hnames, hkind⟩
  · intro h s calls hunique hcalls
    refine keysUnique_afterAll hkeys (fun call hcall c hc hset => ?_) hunique
    obtain ⟨hnames, hkind⟩ := hcalls call hcall c hc
    exact ⟨hnames, h c hnames hkind hset⟩

/-- A model with one entity set, in which people differ in their `Id`. -/
def peopleModel : Model where
  namespaceName := "Sample"
  containerName := "Container"
  types := [⟨"Person", "Sample", .entity, none, ["Id"], [], []⟩]
  entitySets := [⟨"People", "Person", .staticProperty⟩]

theorem keysOfSet_peopleModel : peopleModel.keysOfSet "People" = ["Id"] := by cbv

/-- A store with the people 1 and 2. -/
def peopleStore : DocumentStore :=
  withCollection { database := "db" } "People"
    [.record [("Id", Json.ofNat 1)], .record [("Id", Json.ofNat 2)]]

/-- An insertion, an update and a deletion that keep keys. -/
def peopleChanges : List Change :=
  [⟨"People", .insert, [("Id", Json.ofNat 3)], [("Name", Json.str "Ann")]⟩,
    ⟨"People", .update, [("Id", Json.ofNat 1)], [("Id", Json.ofNat 1), ("Name", Json.str "Ben")]⟩,
    ⟨"People", .delete, [("Id", Json.ofNat 2)], []⟩]

/-- The equivalence at these changes, made together: afterwards the people are 1 and 3. -/
theorem keysUnique_peopleChanges :
    peopleModel.keysOfSet "People" ≠ [] ∧
      (peopleStore.afterAll peopleModel [{ changeSet := ⟨peopleChanges⟩ }]).KeysUnique "People"
        (peopleModel.keysOfSet "People") := by
  have hkeys : peopleModel.keysOfSet "People" ≠ [] := by rw [keysOfSet_peopleModel]; decide
  refine ⟨hkeys, (keysUnique_afterAll_iff peopleModel hkeys (· ∈ peopleChanges)).2 ?_ _ _ ?_ ?_⟩
  · rw [keysOfSet_peopleModel]
    have hkeeps : ∀ c ∈ peopleChanges, c.KeepsKeys ["Id"] := by decide +kernel
    exact fun c _ hc _ _ => hkeeps c hc
  · rw [keysOfSet_peopleModel]
    decide +kernel
  · have hhanded :
        Submission.handed peopleModel { changeSet := ⟨peopleChanges⟩ } = peopleChanges := by
      cbv
    have hnames : ∀ c ∈ peopleChanges, c.NamesDistinct := by decide +kernel
    intro call hcall c hc
    rw [List.mem_singleton.1 hcall, hhanded] at hc
    exact ⟨hnames c hc, hc⟩

/-- Keys that are lost: the update makes person 1 another person 2, and the insertion adds another
person 1, for which no person has the tag that is in its key. -/
theorem not_keysUnique_people :
    peopleStore.KeysUnique "People" (peopleModel.keysOfSet "People") ∧
      ¬ (peopleStore.afterAll peopleModel
        [{ changeSet :=
            ChangeSet.update {} "People" [("Id", Json.ofNat 1)] [("Id", Json.ofNat 2)] }]).KeysUnique
          "People" (peopleModel.keysOfSet "People") ∧
      ¬ (peopleStore.afterAll peopleModel
        [{ changeSet :=
            ⟨[⟨"People", .insert, [("Id", Json.ofNat 1), ("Tag", Json.str "x")], []⟩]⟩ }]).KeysUnique
          "People" (peopleModel.keysOfSet "People") := by
  rw [keysOfSet_peopleModel]
  decide +kernel

end DocumentStore

end FacetModel
