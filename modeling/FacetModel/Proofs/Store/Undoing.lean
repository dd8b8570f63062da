import FacetModel.Proofs.Store.Addressing
import Mathlib

/-!
# Deletions that undo insertions

An insertion is made only if no document matches its key, and what it adds does match it, even if
the values to be written contradict the key (`Change.matchesKey_document`). So a deletion with that
key removes just the document that was added (`Change.Undoes.applyTo`), and the documents are the
former ones again, whatever these are (`Change.exists_apply_of_undoes`).

A collection that the insertion made remains, without documents. Apart from such collections
(`Change.Restores`), a run of insertions is undone by deletions in the opposite order
(`Change.applyAll_undo`).
-/

namespace FacetModel

/-! ### Equal keys -/

namespace Json

variable {key other : Members Scalar} {d : Json}

/-- Equal keys have values for the same properties, so what matches one of them matches the
other. -/
theorem matchesKey_of_same (hnames : (other.map (·.1)).Nodup)
    (hsame : (Json.record key).same (.record other)) (h : matchesKey key d) :
    matchesKey other d := by
  obtain ⟨others, heq, hvalues, hback⟩ := same_object_iff.1 hsame
  cases heq
  obtain ⟨hne, hmatch⟩ := matchesKey_iff.1 h
  refine matchesKey_iff.2 ⟨?_, fun m hm => ?_⟩
  · obtain ⟨⟨name, x⟩, rest, rfl⟩ := List.exists_cons_of_ne_nil hne
    obtain ⟨y, hy, -⟩ := hvalues name x (by rw [Members.get?_cons, if_pos rfl])
    exact List.ne_nil_of_mem (Members.mem_of_get? hy)
  · have hget : other.get? m.1 = some m.2 := Members.get?_of_mem hnames hm
    obtain ⟨x, hx⟩ := hback m.1 m.2 hget
    obtain ⟨y, hy, hxy⟩ := hvalues m.1 x hx
    cases hget.symm.trans hy
    obtain ⟨v, hv, hvx⟩ := hmatch (m.1, x) (Members.mem_of_get? hx)
    exact ⟨v, hv, same_trans hvx hxy⟩

end Json

namespace Change

variable {c d : Change}

/-! ### The inserted document -/

/-- What an insertion adds matches its key, whatever its values are. -/
theorem matchesKey_document (hnames : c.NamesDistinct) (hne : c.key ≠ []) :
    Json.matchesKey c.key c.document := by
  refine Json.matchesKey_iff.2 ⟨hne, fun m hm => ⟨m.2, ?_, Json.same_refl m.2⟩⟩
  rw [get?_document hnames, Members.get?_of_mem hnames.key hm, Option.some_or]

/-! ### Undoing one insertion -/

/-- A deletion undoes an insertion: it goes to the same entity set and has the same key. -/
structure Undoes (d c : Change) : Prop where
  operation : d.operation = .delete
  entitySet : d.entitySet = c.entitySet
  key : (Json.record d.key).same (.record c.key)

/-- The documents after the insertion and the deletion are those before. -/
theorem Undoes.applyTo (h : d.Undoes c) (hop : c.operation = .insert) (hne : c.key ≠ [])
    (hc : c.NamesDistinct) (hd : d.NamesDistinct) {documents : Option (List Json)}
    {changed : List Json} (hinsert : c.applyTo documents = .ok changed) :
    d.applyTo (some changed) = .ok (documents.getD []) := by
  have hmatch : ∀ e, Json.matchesKey d.key e ↔ Json.matchesKey c.key e := fun e =>
    ⟨Json.matchesKey_of_same hc.key h.key,
      Json.matchesKey_of_same hd.key (Json.same_symm h.key)⟩
  obtain ⟨hfree, rfl⟩ := (applyTo_eq_ok_iff_of_insert hop).1 hinsert
  -- the new document is the one that the deletion addresses
  have hothers : ∀ e ∈ documents.getD [] ++ [], ¬ Json.matchesKey d.key e := by
    rw [List.append_nil]
    exact fun e he hother => hfree e he ((hmatch e).1 hother)
  have hown : Json.matchesKey d.key c.document := (hmatch _).2 (matchesKey_document hc hne)
  obtain ⟨left, hleft, happly⟩ := applyTo_of_matchesKey (by simp [h.operation]) hd hown hothers
  have hnone : left = [] := by rwa [Leaves, h.operation] at hleft
  rw [hnone, List.append_nil, List.append_nil] at happly
  exact happly

/-- In collections where the set is as the insertion left it, undoing brings its former documents
back and touches no other set. -/
theorem Undoes.apply (h : d.Undoes c) (hop : c.operation = .insert) (hne : c.key ≠ [])
    (hc : c.NamesDistinct) (hd : d.NamesDistinct) {before between later : Collections}
    (hinsert : c.apply before = .ok between)
    (hlater : later.get? c.entitySet = between.get? c.entitySet) :
    d.apply later = .ok (later.insert c.entitySet ((before.get? c.entitySet).getD [])) := by
  obtain ⟨changed, hchanged, rfl⟩ := apply_eq_ok_iff.1 hinsert
  rw [NameMap.get?_insert_self] at hlater
  refine apply_eq_ok_iff.2 ⟨_, ?_, by rw [h.entitySet]⟩
  rw [h.entitySet, hlater]
  exact h.applyTo hop hne hc hd hchanged

/-- **A deletion undoes an insertion.** After an insertion with some key, the deletion with the same
key from the same entity set succeeds. Then every collection has its former documents in their
former order, and no other collection is there but one that the insertion made, without
documents. -/
theorem exists_apply_of_undoes (h : d.Undoes c) (hop : c.operation = .insert) (hne : c.key ≠ [])
    (hc : c.NamesDistinct) (hd : d.NamesDistinct) {before between : Collections}
    (hinsert : c.apply before = .ok between) :
    ∃ after, d.apply between = .ok after ∧
      (∀ name documents, before.get? name = some documents → after.get? name = some documents) ∧
      ∀ name, before.get? name = none →
        after.get? name = if name = c.entitySet then some [] else none := by
  have hdelete := h.apply hop hne hc hd hinsert rfl
  obtain ⟨changed, -, rfl⟩ := apply_eq_ok_iff.1 hinsert
  have hafter : ∀ name, ((before.insert c.entitySet changed).insert c.entitySet
      ((before.get? c.entitySet).getD [])).get? name =
        if name = c.entitySet then some ((before.get? c.entitySet).getD [])
        else before.get? name := by
    intro name
    rw [NameMap.get?_insert]
    split
    case isTrue => rfl
    case isFalse hother => rw [NameMap.get?_insert_of_ne before changed hother]
  refine ⟨_, hdelete, fun name documents hname => ?_, fun name hname => ?_⟩
  · rw [hafter]
    split
    case isTrue heq => rw [← heq, hname, Option.getD_some]
    case isFalse => exact hname
  · rw [hafter, hname]
    split
    case isTrue heq => rw [← heq, hname, Option.getD_none]
    case isFalse => rfl

/-- A person whose values contradict the key. -/
def arrival : Change :=
  ⟨"People", .insert, [("Id", Json.ofNat 2), ("Tag", Json.str "x")],
    [("Id", Json.ofNat 9), ("Name", Json.str "Ann")]⟩

/-- The key of the arrival in another order. -/
def departure : Change :=
  ⟨"People", .delete, [("Tag", Json.str "x"), ("Id", Json.ofNat 2)], []⟩

/-- Two people and a note. The first one has the number of the arrival, but another tag. -/
def crowd : Collections :=
  .ofList [("People", [.record [("Id", Json.ofNat 2), ("Tag", Json.str "y")], .str "note",
    .record [("Id", Json.ofNat 9)]])]

/-- The arrival is undone, among others as in a collection of its own. -/
theorem exists_apply_of_undoes_arrival :
    departure.Undoes arrival ∧
      (∃ between after, arrival.apply crowd = .ok between ∧ departure.apply between = .ok after ∧
        after.get? "People" = crowd.get? "People") ∧
      ∃ between after, arrival.apply .empty = .ok between ∧ departure.apply between = .ok after ∧
        after.get? "People" = some [] := by
  have hundoes : departure.Undoes arrival := ⟨rfl, rfl, by decide +kernel⟩
  have hnames : arrival.NamesDistinct ∧ departure.NamesDistinct := by decide +kernel
  refine ⟨hundoes, ?_, ?_⟩
  · obtain ⟨between, hbetween⟩ : ∃ between, arrival.apply crowd = .ok between := ⟨_, rfl⟩
    obtain ⟨after, hafter, hsame, -⟩ := exists_apply_of_undoes hundoes rfl (List.cons_ne_nil _ _)
      hnames.1 hnames.2 hbetween
    exact ⟨between, after, hbetween, hafter, hsame "People" _ rfl⟩
  · obtain ⟨between, hbetween⟩ : ∃ between, arrival.apply .empty = .ok between := ⟨_, rfl⟩
    obtain ⟨after, hafter, -, hmade⟩ := exists_apply_of_undoes hundoes rfl (List.cons_ne_nil _ _)
      hnames.1 hnames.2 hbetween
    exact ⟨between, after, hbetween, hafter, hmade "People" rfl⟩

/-! ### Undoing a run of insertions -/

/-- The deletion that undoes an insertion. -/
def undo (c : Change) : Change := { entitySet := c.entitySet, operation := .delete, key := c.key }

/-- A change is undone by the deletion that has its key. -/
theorem undoes_undo (c : Change) : c.undo.Undoes c := ⟨rfl, rfl, Json.same_refl _⟩

theorem NamesDistinct.undo (h : c.NamesDistinct) : c.undo.NamesDistinct := ⟨h.key, List.nodup_nil⟩

/-- Collections have their former documents, and there may be further ones without documents. -/
def Restores (before after : Collections) : Prop :=
  ∀ name, after.get? name = before.get? name ∨ before.get? name = none ∧ after.get? name = some []

/-- A collection that was there is restored with its documents. -/
theorem Restores.get?_eq {before after : Collections} (h : Restores before after) {name : String}
    {documents : List Json} (hname : before.get? name = some documents) :
    after.get? name = some documents := by
  rcases h name with hsame | ⟨hnone, -⟩
  · rw [hsame, hname]
  · cases hname.symm.trans hnone

/-- Giving a collection its former documents back restores what the others restore. -/
theorem Restores.insert {before later : Collections} {set : String} {changed : List Json}
    (h : Restores (before.insert set changed) later) :
    Restores before (later.insert set ((before.get? set).getD [])) := by
  intro name
  rw [NameMap.get?_insert]
  split
  case isTrue heq =>
    subst heq
    cases before.get? name with
    | none => exact .inr ⟨rfl, rfl⟩
    | some documents => exact .inl rfl
  case isFalse hother =>
    have hname := h name
    rwa [NameMap.get?_insert_of_ne before changed hother] at hname

/-- Later changes are made on what the earlier ones leave. -/
theorem applyAll_append {changes later : List Change} {before between : Collections}
    (h : applyAll before changes = .ok between) :
    applyAll before (changes ++ later) = applyAll between later := by
  induction changes generalizing before with
  | nil =>
    cases h
    rfl
  | cons c rest ih =>
    obtain ⟨middle, hfirst, hrest⟩ := applyAll_cons_eq_ok_iff.1 h
    rw [List.cons_append, applyAll, hfirst]
    exact ih hrest

/-- **Insertions are undone in the opposite order.** After some insertions with keys, the deletions
of what they added succeed in the opposite order, and restore the collections. -/
theorem applyAll_undo {insertions : List Change}
    (hinsertions : ∀ c ∈ insertions, c.operation = .insert ∧ c.key ≠ [] ∧ c.NamesDistinct)
    {before between : Collections} (h : applyAll before insertions = .ok between) :
    ∃ after, applyAll between (insertions.reverse.map undo) = .ok after ∧
      Restores before after := by
  induction insertions generalizing before with
  | nil =>
    cases h
    exact ⟨between, rfl, fun name => .inl rfl⟩
  | cons c rest ih =>
    obtain ⟨⟨hop, hne, hc⟩, hrest⟩ := List.forall_mem_cons.1 hinsertions
    obtain ⟨middle, hfirst, hlast⟩ := applyAll_cons_eq_ok_iff.1 h
    obtain ⟨later, hlater, hrestores⟩ := ih hrest hlast
    obtain ⟨changed, -, hmiddle⟩ := apply_eq_ok_iff.1 hfirst
    -- the deletions of the others leave the documents that the first insertion left
    have hset : middle.get? c.entitySet = some changed := by
      rw [hmiddle, NameMap.get?_insert_self]
    have hundo := (undoes_undo c).apply hop hne hc hc.undo hfirst
      ((hrestores.get?_eq hset).trans hset.symm)
    refine ⟨later.insert c.entitySet ((before.get? c.entitySet).getD []), ?_, ?_⟩
    · rw [List.reverse_cons, List.map_append, applyAll_append hlater]
      exact applyAll_cons_eq_ok_iff.2 ⟨_, hundo, rfl⟩
    · exact (hmiddle ▸ hrestores : Restores (before.insert c.entitySet changed) later).insert

end Change

end FacetModel
