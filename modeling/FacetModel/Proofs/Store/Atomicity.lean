import FacetModel.Proofs.Model.Lineage
import FacetModel.Proofs.Store.Submission

/-!
# Submissions are made as a whole

A submission goes through stages: it begins, its changes are checked, the hook initializes them,
they are checked again, their keys are completed, and they are made one after the other.

To check a change, a walk along base types looks for the keys of its set. The walk need not end, and
then the submission does not either. So `DocumentStore.submit?` has an outcome only if all walks end
that a submission asks for, and then it is that of `DocumentStore.submit`.

* `Submission.Passes` says that all stages before the last one are passed, and with which changes;
  `Change.Sequence` says that changes can be made one after the other, and where they lead.
* `Submission.StoppedBy` lists the stages at which a submission can stop, each with the error that
  is met there first; `Submission.Endless` lists those that it may not come to the end of.

`DocumentStore.submit_atomic` says that a submission has no other outcome, and that the store it
stops at is the store it began with.
-/

namespace FacetModel

/-! ### Checks in a row -/

/-- Every element of a list before some element passes a check, and that one does not: it fails for
some reason, or its check does not end. -/
def FirstFault {α ε : Type} (check : α → Option (Except ε Unit)) (l : List α)
    (fault : Option (Except ε Unit)) : Prop :=
  ∃ before a after, l = before ++ a :: after ∧ (∀ b ∈ before, check b = some (.ok ())) ∧
    check a = fault

theorem firstFault_nil {α ε : Type} {check : α → Option (Except ε Unit)}
    {fault : Option (Except ε Unit)} : ¬ FirstFault check [] fault := by
  rintro ⟨before, a, after, hl, -⟩
  cases before <;> cases hl

/-- The first fault is that of the first element, or that of the others if it has none. -/
theorem firstFault_cons {α ε : Type} {check : α → Option (Except ε Unit)} {a : α} {l : List α}
    {fault : Option (Except ε Unit)} :
    FirstFault check (a :: l) fault ↔
      check a = fault ∨ check a = some (.ok ()) ∧ FirstFault check l fault := by
  constructor
  · rintro ⟨before, b, after, hl, hbefore, hb⟩
    cases before with
    | nil =>
      cases hl
      exact .inl hb
    | cons c before =>
      cases hl
      exact .inr ⟨hbefore a List.mem_cons_self, before, b, after, rfl,
        fun d hd => hbefore d (List.mem_cons_of_mem _ hd), hb⟩
  · rintro (ha | ⟨ha, before, b, after, rfl, hbefore, hb⟩)
    · exact ⟨[], a, l, rfl, fun b hb => absurd hb List.not_mem_nil, ha⟩
    · exact ⟨a :: before, b, after, rfl, List.forall_mem_cons.2 ⟨ha, hbefore⟩, hb⟩

/-! ### Checks that need not end -/

variable {m : Model}

/-- The check of a change, if the walk for the keys of its set ends. Where the model does not have
the set, nothing is looked for. -/
def Change.validate? (m : Model) (c : Change) : Option (Except SubmitError Unit) :=
  match m.findEntitySet? c.entitySet with
  | none => some (.error (.unknownEntitySet c.entitySet))
  | some s =>
    (m.keysWalk s.elementType).map fun keys =>
      match keys.find? (!c.carries ·) with
      | some key => .error (.missingKey c.entitySet key)
      | none => .ok ()

/-- A change with its key completed, if the walk for the keys of its set ends. Only insertions ask
for these. -/
def Change.assignKey? (m : Model) (c : Change) : Option Change :=
  if c.operation = .insert then
    match m.findEntitySet? c.entitySet with
    | none => some c
    | some s =>
      (m.keysWalk s.elementType).map fun keys => { c with key := keys.foldl (addKey c.values) c.key }
  else some c

namespace ChangeSet

/-- The check of changes one after the other, up to the first one that fails or does not end. -/
def validateAll? (m : Model) : List Change → Option (Except SubmitError Unit)
  | [] => some (.ok ())
  | c :: rest =>
    match c.validate? m with
    | some (.ok ()) => validateAll? m rest
    | fault => fault

/-- The check of all changes, if it ends. -/
def validate? (m : Model) (cs : ChangeSet) : Option (Except SubmitError Unit) :=
  validateAll? m cs.changes

/-- The changes with their keys completed, if that ends for all of them. -/
def assignInsertKeys? (m : Model) (cs : ChangeSet) : Option ChangeSet :=
  (cs.changes.mapM (Change.assignKey? m)).map ChangeSet.mk

end ChangeSet

/-- A check that ends is the check. -/
theorem Change.validate_of_validate? {c : Change} {r : Except SubmitError Unit}
    (h : c.validate? m = some r) : c.validate m = r := by
  rw [validate?] at h
  rw [validate]
  cases hset : m.findEntitySet? c.entitySet with
  | none =>
    rw [hset] at h
    exact Option.some.inj h
  | some s =>
    simp only [hset, Option.map_eq_some_iff] at h
    obtain ⟨keys, hkeys, hr⟩ := h
    simp only [Model.keyProperties, hkeys, Option.getD_some]
    exact hr

/-- Once a change is checked, the walk for its key ends again. -/
theorem Change.assignKey?_of_validate? {c : Change} {r : Except SubmitError Unit}
    (h : c.validate? m = some r) : c.assignKey? m = some (c.assignKey m) := by
  rw [assignKey?, assignKey]
  split
  case isTrue =>
    rw [validate?] at h
    cases hset : m.findEntitySet? c.entitySet with
    | none => simp only [Model.keysOfSet, hset, Option.map_none, Option.getD_none, List.foldl_nil]
    | some s =>
      simp only [hset, Option.map_eq_some_iff] at h
      obtain ⟨keys, hkeys, -⟩ := h
      simp only [Model.keysOfSet, hset, Model.keyProperties, hkeys, Option.map_some,
        Option.getD_some]
  case isFalse => rfl

namespace ChangeSet

variable {cs : ChangeSet}

/-- Changes are valid exactly if each of them is. -/
theorem validate?_eq_ok_iff :
    cs.validate? m = some (.ok ()) ↔ ∀ c ∈ cs.changes, c.validate? m = some (.ok ()) := by
  rw [validate?]
  induction cs.changes with
  | nil => simp [validateAll?]
  | cons c rest ih =>
    rw [validateAll?, List.forall_mem_cons, ← ih]
    split
    case h_1 h => simp [h]
    case h_2 h =>
      have hfault : c.validate? m ≠ some (.ok ()) := h
      simp [hfault]

/-- A check that fails or does not end has come to the first change of which the check does so. -/
theorem validate?_eq_iff_firstFault {fault : Option (Except SubmitError Unit)}
    (hfault : fault ≠ some (.ok ())) :
    cs.validate? m = fault ↔ FirstFault (Change.validate? m) cs.changes fault := by
  rw [validate?]
  induction cs.changes with
  | nil => simp [validateAll?, firstFault_nil, hfault.symm]
  | cons c rest ih =>
    rw [validateAll?, firstFault_cons, ← ih]
    split
    case h_1 h => simp [h, hfault.symm]
    case h_2 h =>
      have hstops : c.validate? m ≠ some (.ok ()) := h
      simp [hstops]

/-- Changes that are checked up to an end have the outcome of the check. -/
theorem validate_of_validate? {r : Except SubmitError Unit} (h : cs.validate? m = some r) :
    cs.validate m = r := by
  obtain ⟨changes⟩ := cs
  rw [validate?] at h
  rw [validate]
  induction changes with
  | nil => exact Option.some.inj h
  | cons c rest ih =>
    rw [validateAll?] at h
    rw [validateAll]
    split at h
    case h_1 hc =>
      rw [Change.validate_of_validate? hc]
      exact ih h
    case h_2 hok =>
      rw [Change.validate_of_validate? h]
      cases r with
      | error e => rfl
      | ok => exact absurd h hok

/-- Without circles of base types, every check ends. -/
theorem isSome_validate? (h : m.Acyclic) (cs : ChangeSet) : (cs.validate? m).isSome := by
  -- each check is one walk for keys at most
  have heach (c : Change) : (c.validate? m).isSome := by
    rw [Change.validate?]
    cases m.findEntitySet? c.entitySet with
    | none => rfl
    | some s => simpa using h.isSome_keysWalk s.elementType
  rw [validate?]
  induction cs.changes with
  | nil => rfl
  | cons c rest ih =>
    rw [validateAll?]
    split
    · exact ih
    · exact heach c

/-- Valid changes have their keys completed. -/
theorem assignInsertKeys?_of_validate? (h : cs.validate? m = some (.ok ())) :
    cs.assignInsertKeys? m = some (cs.assignInsertKeys m) := by
  obtain ⟨changes⟩ := cs
  have hall : changes.mapM (Change.assignKey? m) = some (changes.map (Change.assignKey m)) := by
    -- the check has come to every change, so the walk for each key has ended
    rw [validate?_eq_ok_iff] at h
    induction changes with
    | nil => rfl
    | cons c rest ih =>
      obtain ⟨hc, hrest⟩ := List.forall_mem_cons.1 h
      rw [List.mapM_cons, Change.assignKey?_of_validate? hc, ih hrest]
      rfl
  rw [assignInsertKeys?, hall]
  rfl

end ChangeSet

/-! ### Changes in a row -/

namespace Change

/-- Changes can be made one after the other, each on the collections that those before it leave. -/
inductive Sequence : Collections → List Change → Collections → Prop
  | done (collections : Collections) : Sequence collections [] collections
  | step {c : Change} {rest : List Change} {before between after : Collections}
      (hmade : c.apply before = .ok between) (hrest : Sequence between rest after) :
      Sequence before (c :: rest) after

/-- The changes up to one of them can be made, and that one cannot. -/
def Blocked (before : Collections) (changes : List Change) (e : SubmitError) : Prop :=
  ∃ made c after between, changes = made ++ c :: after ∧ Sequence before made between ∧
    c.apply between = .error e

theorem sequence_nil {before after : Collections} : Sequence before [] after ↔ before = after := by
  constructor
  · rintro ⟨⟩
    rfl
  · rintro rfl
    exact .done _

/-- A first change is made before the others. -/
theorem sequence_cons {c : Change} {rest : List Change} {before after : Collections} :
    Sequence before (c :: rest) after ↔
      ∃ between, c.apply before = .ok between ∧ Sequence between rest after := by
  constructor
  · rintro ⟨⟩
    exact ⟨_, ‹_›, ‹_›⟩
  · rintro ⟨between, hmade, hrest⟩
    exact .step hmade hrest

theorem blocked_nil {before : Collections} {e : SubmitError} : ¬ Blocked before [] e := by
  rintro ⟨made, c, after, between, hchanges, -⟩
  cases made <;> cases hchanges

/-- Changes are blocked at the first one or, once that is made, at one of the others. -/
theorem blocked_cons {c : Change} {rest : List Change} {before : Collections} {e : SubmitError} :
    Blocked before (c :: rest) e ↔
      c.apply before = .error e ∨
        ∃ between, c.apply before = .ok between ∧ Blocked between rest e := by
  constructor
  · rintro ⟨made, d, after, between, hchanges, hmade, hd⟩
    cases made with
    | nil =>
      cases hchanges
      cases hmade
      exact .inl hd
    | cons a made =>
      cases hchanges
      obtain ⟨next, ha, hrest⟩ := sequence_cons.1 hmade
      exact .inr ⟨next, ha, made, d, after, between, rfl, hrest, hd⟩
  · rintro (hc | ⟨next, hc, made, d, after, between, rfl, hmade, hd⟩)
    · exact ⟨[], c, rest, before, rfl, .done before, hc⟩
    · exact ⟨c :: made, d, after, between, rfl, .step hc hmade, hd⟩

/-- The store makes changes exactly if they can be made one after the other. -/
theorem applyAll_eq_ok_iff {changes : List Change} {before after : Collections} :
    applyAll before changes = .ok after ↔ Sequence before changes after := by
  induction changes generalizing before with
  | nil => rw [applyAll, sequence_nil, Except.ok.injEq]
  | cons c rest ih =>
    rw [applyAll_cons_eq_ok_iff, sequence_cons]
    exact exists_congr fun between => and_congr_right fun _ => ih

/-- Making changes fails exactly if it is blocked at one of them, with the error of that one. -/
theorem applyAll_eq_error_iff {changes : List Change} {before : Collections} {e : SubmitError} :
    applyAll before changes = .error e ↔ Blocked before changes e := by
  induction changes generalizing before with
  | nil => simp [applyAll, blocked_nil]
  | cons c rest ih =>
    rw [applyAll, blocked_cons]
    cases c.apply before with
    | error e => simp
    | ok between => simp [ih]

end Change

/-! ### Stages of a submission -/

namespace Submission

/-- What the hook makes of the change set; without a hook it stays as it is. -/
def prepared (call : Submission) : Except SubmitError ChangeSet :=
  match call.initializer? with
  | none => .ok call.changeSet
  | some prepare => (prepare call.changeSet).result

/-- Whether the submission is cancelled by the time the hook is done. -/
def cancelledLater (call : Submission) : Bool :=
  call.cancelled || call.initializer?.any fun prepare => (prepare call.changeSet).cancels

/-- A submission begins with valid changes. -/
structure Begins (m : Model) (call : Submission) : Prop where
  live : call.cancelled = false
  valid : call.changeSet.validate? m = some (.ok ())

/-- A submission comes to its last stage with a change set, whose keys are to be completed. -/
structure Passes (m : Model) (call : Submission) (cs : ChangeSet) : Prop extends Begins m call where
  prepared_eq : call.prepared = .ok cs
  validLater : cs.validate? m = some (.ok ())
  liveLater : call.cancelledLater = false

/-- The errors by which a submission stops, stage by stage. -/
inductive StoppedBy (collections : Collections) (m : Model) (call : Submission) : SubmitError → Prop
  | cancelled (h : call.cancelled = true) : StoppedBy collections m call .cancelled
  | invalid {e : SubmitError} (hlive : call.cancelled = false)
      (h : FirstFault (Change.validate? m) call.changeSet.changes (some (.error e))) :
      StoppedBy collections m call e
  | unprepared {e : SubmitError} (hbegins : call.Begins m) (h : call.prepared = .error e) :
      StoppedBy collections m call e
  | invalidLater {e : SubmitError} {cs : ChangeSet} (hbegins : call.Begins m)
      (hprepared : call.prepared = .ok cs)
      (h : FirstFault (Change.validate? m) cs.changes (some (.error e))) :
      StoppedBy collections m call e
  | cancelledLater {cs : ChangeSet} (hbegins : call.Begins m) (hprepared : call.prepared = .ok cs)
      (hvalid : cs.validate? m = some (.ok ())) (h : call.cancelledLater = true) :
      StoppedBy collections m call .cancelled
  | blocked {e : SubmitError} {cs : ChangeSet} (hpasses : call.Passes m cs)
      (h : Change.Blocked collections (cs.assignInsertKeys m).changes e) :
      StoppedBy collections m call e

/-- The stages that a submission may not come to the end of: a check comes to a change to a set of
the model for which the walk for keys does not end. -/
inductive Endless (m : Model) (call : Submission) : Prop
  | check (hlive : call.cancelled = false)
      (h : FirstFault (Change.validate? m) call.changeSet.changes none)
  | checkLater {cs : ChangeSet} (hbegins : call.Begins m) (hprepared : call.prepared = .ok cs)
      (h : FirstFault (Change.validate? m) cs.changes none)

end Submission

/-! ### Outcomes -/

namespace DocumentStore

/-- The outcome of a submission, and the store after it, if all walks end that the submission asks
for. -/
def submit? (s : DocumentStore) (m : Model) (call : Submission) :
    Option (Except SubmitError Nat × DocumentStore) :=
  if call.cancelled then some (.error .cancelled, s)
  else
    match call.changeSet.validate? m with
    | none => none
    | some (.error e) => some (.error e, s)
    | some (.ok ()) =>
      match call.initializer? with
      | none => (call.changeSet.assignInsertKeys? m).map (s.execute · false)
      | some prepare =>
        let answer := prepare call.changeSet
        match answer.result with
        | .error e => some (.error e, s)
        | .ok cs =>
          match cs.validate? m with
          | none => none
          | some (.error e) => some (.error e, s)
          | some (.ok ()) => (cs.assignInsertKeys? m).map (s.execute · answer.cancels)

variable {s : DocumentStore} {call : Submission}

/-- What a submission does at each stage. Without a hook it checks the same changes twice. -/
theorem submit_eq (s : DocumentStore) (m : Model) (call : Submission) :
    s.submit m call.changeSet call.initializer? call.cancelled =
      if call.cancelled then (.error .cancelled, s)
      else
        match call.changeSet.validate m with
        | .error e => (.error e, s)
        | .ok () =>
          match call.prepared with
          | .error e => (.error e, s)
          | .ok cs =>
            match cs.validate m with
            | .error e => (.error e, s)
            | .ok () => s.execute (cs.assignInsertKeys m) call.cancelledLater := by
  unfold submit Submission.prepared Submission.cancelledLater
  cases call.cancelled with
  | true => rfl
  | false =>
    cases hvalid : call.changeSet.validate m with
    | error e => rfl
    | ok =>
      cases call.initializer? with
      | none => simp [hvalid]
      | some prepare => rfl

/-- The stages with checks that need not end. Keys can be completed once the check has ended. -/
theorem submit?_eq (s : DocumentStore) (m : Model) (call : Submission) :
    s.submit? m call =
      if call.cancelled then some (.error .cancelled, s)
      else
        match call.changeSet.validate? m with
        | none => none
        | some (.error e) => some (.error e, s)
        | some (.ok ()) =>
          match call.prepared with
          | .error e => some (.error e, s)
          | .ok cs =>
            match cs.validate? m with
            | none => none
            | some (.error e) => some (.error e, s)
            | some (.ok ()) => some (s.execute (cs.assignInsertKeys m) call.cancelledLater) := by
  unfold submit? Submission.prepared Submission.cancelledLater
  cases call.cancelled with
  | true => rfl
  | false =>
    simp only [Bool.false_eq_true, if_false, Bool.false_or]
    split
    case h_1 => rfl
    case h_2 => rfl
    case h_3 hvalid =>
      cases call.initializer? with
      | none =>
        -- without a hook, the second check is the first one again
        simp [hvalid, ChangeSet.assignInsertKeys?_of_validate? hvalid]
      | some prepare =>
        dsimp only
        split
        · rfl
        · split
          case h_1 => rfl
          case h_2 => rfl
          case h_3 hlater =>
            rw [ChangeSet.assignInsertKeys?_of_validate? hlater]
            rfl

/-- A submission that ends has the outcome of the submission. -/
theorem submit_of_submit? {outcome : Except SubmitError Nat × DocumentStore}
    (h : s.submit? m call = some outcome) :
    s.submit m call.changeSet call.initializer? call.cancelled = outcome := by
  rw [submit?_eq] at h
  rw [submit_eq]
  split at h
  case isTrue hcancelled =>
    rw [if_pos hcancelled]
    exact Option.some.inj h
  case isFalse hlive =>
    rw [if_neg hlive]
    split at h
    case h_1 => cases h
    case h_2 hvalid =>
      rw [ChangeSet.validate_of_validate? hvalid]
      exact Option.some.inj h
    case h_3 hvalid =>
      rw [ChangeSet.validate_of_validate? hvalid]
      dsimp only
      split at h
      case h_1 => exact Option.some.inj h
      case h_2 cs _ =>
        split at h
        case h_1 => cases h
        case h_2 hlater =>
          simp only [ChangeSet.validate_of_validate? hlater]
          exact Option.some.inj h
        case h_3 hlater =>
          simp only [ChangeSet.validate_of_validate? hlater]
          exact Option.some.inj h

/-- A submission that passes all stages comes to its changes. -/
theorem submit?_of_passes {cs : ChangeSet} (h : call.Passes m cs) :
    s.submit? m call = some (s.execute (cs.assignInsertKeys m) false) := by
  rw [submit?_eq, h.live, h.valid, h.prepared_eq]
  simp only [h.validLater, h.liveLater, Bool.false_eq_true, if_false]

/-- Changes that can be made one after the other are made. -/
theorem submit?_of_sequence {cs : ChangeSet} {collections : Collections} (h : call.Passes m cs)
    (hsequence : Change.Sequence s.collections (cs.assignInsertKeys m).changes collections) :
    s.submit? m call = some (.ok cs.changes.length, { s with collections }) := by
  rw [submit?_of_passes h, execute, Change.applyAll_eq_ok_iff.2 hsequence]
  -- completing keys leaves the number of changes as it is
  simp [ChangeSet.assignInsertKeys]

/-- A submission that stops leaves the store as it was. -/
theorem submit?_of_stoppedBy {e : SubmitError} (h : call.StoppedBy s.collections m e) :
    s.submit? m call = some (.error e, s) := by
  cases h with
  | cancelled h => rw [submit?_eq, if_pos h]
  | invalid hlive h =>
    rw [submit?_eq, hlive, (ChangeSet.validate?_eq_iff_firstFault (by simp)).2 h]
    rfl
  | unprepared hbegins h =>
    rw [submit?_eq, hbegins.live, hbegins.valid, h]
    rfl
  | invalidLater hbegins hprepared h =>
    rw [submit?_eq, hbegins.live, hbegins.valid, hprepared]
    simp only [(ChangeSet.validate?_eq_iff_firstFault (by simp)).2 h, Bool.false_eq_true, if_false]
  | cancelledLater hbegins hprepared hvalid h =>
    rw [submit?_eq, hbegins.live, hbegins.valid, hprepared]
    simp only [hvalid, h, execute, Bool.false_eq_true, if_true, if_false]
  | blocked hpasses h =>
    rw [submit?_of_passes hpasses, execute, Change.applyAll_eq_error_iff.2 h]
    rfl

/-- A check that does not end leaves the submission without an outcome. -/
theorem submit?_of_endless (h : call.Endless m) : s.submit? m call = none := by
  cases h with
  | check hlive h =>
    rw [submit?_eq, hlive, (ChangeSet.validate?_eq_iff_firstFault (by simp)).2 h]
    rfl
  | checkLater hbegins hprepared h =>
    rw [submit?_eq, hbegins.live, hbegins.valid, hprepared]
    simp only [(ChangeSet.validate?_eq_iff_firstFault (by simp)).2 h, Bool.false_eq_true, if_false]

/-- Every submission makes all its changes, stops at some stage, or comes to a check that does not
end. -/
theorem sequence_or_stoppedBy_or_endless (s : DocumentStore) (m : Model) (call : Submission) :
    (∃ cs collections, call.Passes m cs ∧
        Change.Sequence s.collections (cs.assignInsertKeys m).changes collections) ∨
      (∃ e, call.StoppedBy s.collections m e) ∨ call.Endless m := by
  -- a fault of a check in the words of its first change
  have hfirst {cs : ChangeSet} {fault : Option (Except SubmitError Unit)}
      (h : cs.validate? m = fault) (hfault : fault ≠ some (.ok ())) :
      FirstFault (Change.validate? m) cs.changes fault :=
    (ChangeSet.validate?_eq_iff_firstFault hfault).1 h
  cases hlive : call.cancelled with
  | true => exact .inr (.inl ⟨_, .cancelled hlive⟩)
  | false =>
    rcases hvalid : call.changeSet.validate? m with _ | e | _
    · exact .inr (.inr (.check hlive (hfirst hvalid (by simp))))
    · exact .inr (.inl ⟨e, .invalid hlive (hfirst hvalid (by simp))⟩)
    have hbegins : call.Begins m := ⟨hlive, hvalid⟩
    cases hprepared : call.prepared with
    | error e => exact .inr (.inl ⟨e, .unprepared hbegins hprepared⟩)
    | ok cs =>
      rcases hvalidLater : cs.validate? m with _ | e | _
      · exact .inr (.inr (.checkLater hbegins hprepared (hfirst hvalidLater (by simp))))
      · exact .inr (.inl ⟨e, .invalidLater hbegins hprepared (hfirst hvalidLater (by simp))⟩)
      cases hlater : call.cancelledLater with
      | true => exact .inr (.inl ⟨_, .cancelledLater hbegins hprepared hvalidLater hlater⟩)
      | false =>
        have hpasses : call.Passes m cs := ⟨hbegins, hprepared, hvalidLater, hlater⟩
        cases happly : Change.applyAll s.collections (cs.assignInsertKeys m).changes with
        | error e =>
          exact .inr (.inl ⟨e, .blocked hpasses (Change.applyAll_eq_error_iff.1 happly)⟩)
        | ok collections =>
          exact .inl ⟨cs, collections, hpasses, Change.applyAll_eq_ok_iff.1 happly⟩

/-- **Outcomes of submissions**: all changes are made, or the submission stops and leaves the store
as it was, or there is none. -/
theorem submit?_cases (s : DocumentStore) (m : Model) (call : Submission) :
    (∃ cs collections, call.Passes m cs ∧
        Change.Sequence s.collections (cs.assignInsertKeys m).changes collections ∧
        s.submit? m call = some (.ok cs.changes.length, { s with collections })) ∨
      (∃ e, call.StoppedBy s.collections m e ∧ s.submit? m call = some (.error e, s)) ∨
      call.Endless m ∧ s.submit? m call = none := by
  obtain ⟨cs, collections, hpasses, hsequence⟩ | ⟨e, hstopped⟩ | hendless :=
    sequence_or_stoppedBy_or_endless s m call
  · exact .inl ⟨cs, collections, hpasses, hsequence, submit?_of_sequence hpasses hsequence⟩
  · exact .inr (.inl ⟨e, hstopped, submit?_of_stoppedBy hstopped⟩)
  · exact .inr (.inr ⟨hendless, submit?_of_endless hendless⟩)

/-- Without circles of base types, no submission comes to a check that does not end. -/
theorem not_endless_of_acyclic (h : m.Acyclic) : ¬ call.Endless m := by
  have hends {cs : ChangeSet} : ¬ FirstFault (Change.validate? m) cs.changes none := by
    intro hfault
    have hsome := ChangeSet.isSome_validate? h cs
    rw [(ChangeSet.validate?_eq_iff_firstFault (by simp)).2 hfault] at hsome
    cases hsome
  rintro (⟨-, hfault⟩ | ⟨-, -, hfault⟩)
  · exact hends hfault
  · exact hends hfault

/-- **All or nothing**: a submission succeeds exactly if it passes all stages and its changes, with
their keys completed, can be made one after the other; then the store holds what they lead to and
all changes are counted. It fails with exactly the error at which it stops, and then the store is
the one before.

It has one of these outcomes unless a check comes to a change for which the walk for keys does not
end, and such a change there is only where base types lead in a circle. -/
theorem submit_atomic (s : DocumentStore) (m : Model) (call : Submission) :
    (∀ applied after,
        s.submit? m call = some (.ok applied, after) ↔
          ∃ cs collections, call.Passes m cs ∧
            Change.Sequence s.collections (cs.assignInsertKeys m).changes collections ∧
            applied = cs.changes.length ∧ after = { s with collections }) ∧
      (∀ e after,
        s.submit? m call = some (.error e, after) ↔
          call.StoppedBy s.collections m e ∧ after = s) ∧
      (s.submit? m call = none ↔ call.Endless m) ∧
      (∀ outcome, s.submit? m call = some outcome →
        s.submit m call.changeSet call.initializer? call.cancelled = outcome) ∧
      (m.Acyclic → ¬ call.Endless m) := by
  have houtcomes := submit?_cases s m call
  refine ⟨fun applied after => ⟨fun h => ?_, ?_⟩, fun e after => ⟨fun h => ?_, ?_⟩,
    ⟨fun h => ?_, submit?_of_endless⟩, fun outcome => submit_of_submit?, not_endless_of_acyclic⟩
  -- each outcome leaves one of the three cases, as there is only one outcome
  · obtain ⟨cs, collections, hpasses, hsequence, heq⟩ | ⟨e, -, heq⟩ | ⟨-, heq⟩ := houtcomes <;>
      cases heq.symm.trans h
    exact ⟨cs, collections, hpasses, hsequence, rfl, rfl⟩
  · rintro ⟨cs, collections, hpasses, hsequence, rfl, rfl⟩
    exact submit?_of_sequence hpasses hsequence
  · obtain ⟨cs, collections, -, -, heq⟩ | ⟨e, hstopped, heq⟩ | ⟨-, heq⟩ := houtcomes <;>
      cases heq.symm.trans h
    exact ⟨hstopped, rfl⟩
  · rintro ⟨hstopped, rfl⟩
    exact submit?_of_stoppedBy hstopped
  · obtain ⟨cs, collections, -, -, heq⟩ | ⟨e, -, heq⟩ | ⟨hendless, heq⟩ := houtcomes <;>
      cases heq.symm.trans h
    exact hendless

example (s : DocumentStore) (values : Members Json.Scalar) :
    s.submit? .nodesModel { changeSet := ChangeSet.insert {} "Nodes" values } = none := rfl

end DocumentStore

end FacetModel
