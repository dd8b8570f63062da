import FacetModel.Proofs.Pipeline.Sourcing
import FacetModel.Proofs.Pipeline.Steps
import Mathlib

/-!
# Nested expansions

An expansion may be larger than its stub and may contain it again, so no step of a composition makes
the query smaller. The steps end nevertheless, unless a walk along base types does not
(`Pipeline.rewriting_ends`): they lead to the answer of `Pipeline.composeNode` and to the list of
stubs under expansion that they started from. On the way, the list consists of the nested expansions
before the stubs it started with (`Rewriting.Balanced`), and these are different stubs that have an
expansion.
-/

namespace FacetModel

namespace Pipeline

section Nesting

/-- The nested expansions, innermost first. -/
def Rewriting.nested (s : Rewriting) : List String :=
  s.frames.filterMap fun
    | .node _ => none
    | .expansion name => some name

variable {p : Pipeline} {c : QueryContext} {s t : Rewriting}

/-! ### Single steps -/

/-- What entering a node can do to the frames and to the stubs under expansion: nothing, or add the
node, or start an expansion of a stub that is not under expansion. -/
theorem enter_cases (reference : ModelReference) (embedded : Bool) (q : Query)
    (frames : List Frame) (expanding : List String) :
    let t := p.enter c reference embedded q frames expanding
    (t.frames = frames ∧ t.expanding = expanding) ∨
      (t.frames = .node q :: frames ∧ t.expanding = expanding) ∨
      ∃ name expanded, p.expansion? c expanding name = some expanded ∧
        t.frames = .expansion name :: frames ∧ t.expanding = name :: expanding := by
  rw [enter.eq_def]
  split
  · exact .inl ⟨rfl, rfl⟩
  · cases q with
    | stub name =>
      dsimp only
      cases hname : p.expansion? c expanding name with
      | some expanded => exact .inr (.inr ⟨name, expanded, hname, rfl, rfl⟩)
      | none => cases p.sourced? c name embedded <;> exact .inl ⟨rfl, rfl⟩
    | source s => exact .inl ⟨rfl, rfl⟩
    | filter input predicate => exact .inr (.inl ⟨rfl, rfl⟩)
    | project input fields => exact .inr (.inl ⟨rfl, rfl⟩)
    | navigate input property => exact .inr (.inl ⟨rfl, rfl⟩)

/-- **What a step can do** to the frames and to the stubs under expansion: nothing, or add a node,
or start an expansion of a stub that is not under expansion, or leave the innermost frame. -/
theorem step?_cases (h : p.step? c s = some t) :
    (t.frames = s.frames ∧ t.expanding = s.expanding) ∨
      (∃ q, t.frames = .node q :: s.frames ∧ t.expanding = s.expanding) ∨
      (∃ name expanded, p.expansion? c s.expanding name = some expanded ∧
        t.frames = .expansion name :: s.frames ∧ t.expanding = name :: s.expanding) ∨
      ∃ frame, s.frames = frame :: t.frames ∧ t.expanding = frame.release s.expanding := by
  obtain ⟨focus, frames, expanding⟩ := s
  -- entering a node has the first three outcomes
  have henter (reference : ModelReference) (embedded : Bool) (q : Query)
      (ht : t = p.enter c reference embedded q frames expanding) :
      (t.frames = frames ∧ t.expanding = expanding) ∨
        (∃ q, t.frames = .node q :: frames ∧ t.expanding = expanding) ∨
        ∃ name expanded, p.expansion? c expanding name = some expanded ∧
          t.frames = .expansion name :: frames ∧ t.expanding = name :: expanding := by
    rw [ht]
    exact (enter_cases reference embedded q frames expanding).imp_right (.imp_left fun h => ⟨q, h⟩)
  cases focus with
  | visit embedded q =>
    rw [step?, Option.some.injEq] at h
    cases q with
    | navigate input property => exact .inl ⟨by rw [← h]; rfl, by rw [← h]; rfl⟩
    | stub name => exact (henter _ embedded _ h.symm).imp_right (.imp_right .inl)
    | source s => exact (henter _ embedded _ h.symm).imp_right (.imp_right .inl)
    | filter input predicate => exact (henter _ embedded _ h.symm).imp_right (.imp_right .inl)
    | project input fields => exact (henter _ embedded _ h.symm).imp_right (.imp_right .inl)
  | search embedded q search =>
    cases search with
    | climb type? property path => exact .inl ⟨by cases h; rfl, by cases h; rfl⟩
    | done type? => exact (henter _ embedded _ (Option.some.inj h).symm).imp_right (.imp_right .inl)
  | answer r =>
    cases frames with
    | nil => cases h
    | cons frame frames =>
      cases h
      exact .inr (.inr (.inr ⟨frame, rfl, rfl⟩))

/-! ### The stubs under expansion -/

/-- The stubs under expansion are the nested expansions and those from before. The nested ones are
different stubs that have an expansion, and none of them was under expansion before. -/
structure Rewriting.Balanced (expandable : Finset String) (before : List String) (s : Rewriting) :
    Prop where
  expanding : s.expanding = s.nested ++ before
  nodup : s.nested.Nodup
  disjoint : s.nested.Disjoint before
  expandable : ∀ name ∈ s.nested, name ∈ expandable

variable {expandable : Finset String} {before : List String}

/-- A step keeps the two lists in balance: an expansion enters both, an answer leaves both. -/
theorem Rewriting.Balanced.step
    (hexpandable : ∀ name expanded,
      p.expanders.firstAnswer? (fun e => e.expand c name) = some expanded → name ∈ expandable)
    (hs : s.Balanced expandable before) (h : p.step? c s = some t) :
    t.Balanced expandable before := by
  have hsame : t.nested = s.nested → t.expanding = s.expanding → t.Balanced expandable before := by
    intro hnested hexpanding
    exact ⟨by rw [hexpanding, hnested, hs.expanding], hnested ▸ hs.nodup, hnested ▸ hs.disjoint,
      hnested ▸ hs.expandable⟩
  rcases step?_cases h with ⟨hframes, heq⟩ | ⟨q, hframes, heq⟩ |
    ⟨name, expanded, hname, hframes, heq⟩ | ⟨frame, hframes, heq⟩
  · exact hsame (by rw [nested, nested, hframes]) heq
  · exact hsame (by rw [nested, nested, hframes]; rfl) heq
  · have hnested : t.nested = name :: s.nested := by rw [nested, nested, hframes]; rfl
    obtain ⟨hnew, -⟩ := expansion?_eq_some hname
    rw [expansion?_of_not_mem hnew] at hname
    rw [hs.expanding, List.mem_append, not_or] at hnew
    refine ⟨by rw [heq, hnested, hs.expanding]; rfl, ?_, ?_, ?_⟩
    · exact hnested ▸ List.nodup_cons.2 ⟨hnew.1, hs.nodup⟩
    · exact hnested ▸ List.disjoint_cons_left.2 ⟨hnew.2, hs.disjoint⟩
    · exact hnested ▸ List.forall_mem_cons.2 ⟨hexpandable name expanded hname, hs.expandable⟩
  · cases frame with
    | node q => exact hsame (by rw [nested, nested, hframes]; rfl) heq
    | expansion name =>
      have hnested : s.nested = name :: t.nested := by rw [nested, nested, hframes]; rfl
      obtain ⟨hexpanding, hnodup, hdisjoint, hmem⟩ := hs
      rw [hnested] at hexpanding hnodup hdisjoint hmem
      refine ⟨?_, (List.nodup_cons.1 hnodup).2, (List.disjoint_cons_left.1 hdisjoint).2,
        (List.forall_mem_cons.1 hmem).2⟩
      rw [heq, hexpanding]
      rfl

/-- And so do any number of steps. -/
theorem Rewriting.Balanced.run
    (hexpandable : ∀ name expanded,
      p.expanders.firstAnswer? (fun e => e.expand c name) = some expanded → name ∈ expandable)
    {n : Nat} (hs : s.Balanced expandable before) (h : p.run c n s = some t) :
    t.Balanced expandable before := by
  induction n generalizing s with
  | zero =>
    cases h
    exact hs
  | succ n ih =>
    obtain ⟨next, hnext, hrest⟩ := Option.bind_eq_some_iff.1 h
    exact ih (hs.step hexpandable hnext) hrest

end Nesting

end Pipeline

end FacetModel
