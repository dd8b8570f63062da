import FacetModel.Proofs.Pipeline.Sourcing
import Mathlib

/-!
# Stubs in composed queries

Composition is meant to leave no stub behind. `Pipeline.leaves_stub_iff` says exactly when it does
leave one under the conventional sourcers: the visit ends at a stub for which the sourcers hand out
the query that the host has behind it, and that query has another stub as its leaf. A sourcer's
answer is only checked for the stub that was asked for.

With no other expander than that of the conventions this takes host queries that refer to each
other in a circle of at least two (`Pipeline.circle_of_hasStubs`); a host query that refers to its
own entity set is no such circle.
-/

namespace FacetModel

namespace Pipeline

variable {p : Pipeline} {c : QueryContext} {conventions : ConventionCatalog}

/-- A stub in a composed query comes from a host query that the sourcers hand out. -/
theorem handsOut_of_hasStubs (hs : p.SourcesByConvention conventions) {q : Query} {r : Composed}
    (h : p.compose c q = .ok r) (hstubs : r.query.hasStubs) :
    ∃ name answer other, p.terminal c q = .stub name ∧
      p.HandsOut c conventions name (!(p.wrappers c q).isEmpty) answer ∧
      answer.leaf = .stub other ∧ other ≠ name := by
  obtain ⟨other, hother⟩ := Query.hasStubs_iff.1 hstubs
  -- a source has no stub below it, so the visit ended at a stub that was resolved
  rcases leaf_of_compose h with ⟨s, -, hleaf⟩ | ⟨name, answer, hend, hsourced, hleaf⟩
  · rw [hleaf] at hother
    cases hother
  · rw [hleaf] at hother
    have hne : other ≠ name := by
      rintro rfl
      refine not_mem_stubNames_of_sourced? hsourced ?_
      rw [Query.stubNames_of_leaf hother]
      exact List.mem_singleton_self _
    rcases sourced?_eq_some hs hsourced with ⟨_, _, -, -, rfl⟩ | ⟨_, _, -, -, rfl⟩ | hhost
    · cases hother
    · cases hother
    · exact ⟨name, answer, other, hend, hhost, hother, hne⟩

/-- **When composition leaves a stub**: exactly if every visited node is allowed and the last one is
a stub that the sourcers resolve by a host query around another stub. -/
theorem leaves_stub_iff (hs : p.SourcesByConvention conventions) (q : Query) :
    (∃ r, p.compose c q = .ok r ∧ r.query.hasStubs) ↔
      (∀ node ∈ p.visit c q, p.denies c node = false) ∧
        ∃ name answer other, p.terminal c q = .stub name ∧
          p.HandsOut c conventions name (!(p.wrappers c q).isEmpty) answer ∧
          answer.leaf = .stub other ∧ other ≠ name := by
  constructor
  · rintro ⟨r, hr, hstubs⟩
    exact ⟨((p.compose_eq_ok_iff c q r).1 hr).1, handsOut_of_hasStubs hs hr hstubs⟩
  · rintro ⟨hallowed, name, answer, other, hend, hhost, hother, -⟩
    obtain ⟨r, hr, hleaf⟩ := compose_of_sourced? hallowed hend hhost.first
    exact ⟨r, hr, Query.hasStubs_iff.2 ⟨other, hleaf.trans hother⟩⟩

/-- The pipeline that has only the conventions of the two entity sets. -/
def pairPipeline : Pipeline := withConventions {} pairConventions

theorem sourcesByConvention_pairPipeline : pairPipeline.SourcesByConvention pairConventions := by
  intro s hs
  exact .inl (List.mem_singleton.1 hs)

/-- Two entity sets whose host queries are stubs of each other. -/
def mutualContext : QueryContext :=
  pairContext [("People", .stub "Staff"), ("Staff", .stub "People")]

/-- The equivalence at two entity sets that refer to each other: the visit comes back to `People`,
whose host query is the stub of `Staff`. -/
theorem leaves_stub_mutual :
    pairPipeline.SourcesByConvention pairConventions ∧
      ∃ r, pairPipeline.compose mutualContext (.project (.stub "People") ["Id"]) = .ok r ∧
        r.query.hasStubs := by
  refine ⟨sourcesByConvention_pairPipeline, ?_⟩
  rw [leaves_stub_iff sourcesByConvention_pairPipeline]
  refine ⟨fun node _ => ?_, "People", .stub "Staff", "Staff", by cbv, ⟨by cbv, by cbv, by cbv⟩,
    rfl, by decide⟩
  -- there is no authorizer that could deny a node
  rw [denies_eq]
  exact Bool.and_false _

/-- Two entity sets that refer to each other: the stub of the second is left in the place of the
stub of the first. -/
theorem compose_mutual :
    ¬ ∀ r, pairPipeline.compose mutualContext (.stub "People") = .ok r →
      r.query.hasStubs = false := by
  intro h
  have hcompose : pairPipeline.compose mutualContext (.stub "People")
      = .ok { query := .stub "Staff", changed := true } := by cbv
  cases h _ hcompose

/-! ### Circles of host queries -/

/-- The expansion of one stub leads to another. -/
def RefersTo (p : Pipeline) (c : QueryContext) (name other : String) : Prop :=
  ∃ e, p.expanders.firstAnswer? (fun x => x.expand c name) = some e ∧ e.leaf = .stub other

/-- The stub at which a visit ends is reached from the leaf of the query. -/
theorem refersTo_terminal {name : String} (expanding : List String) (q : Query)
    (hend : p.terminalFrom c expanding q = .stub name) :
    ∃ first, q.leaf = .stub first ∧ Relation.ReflTransGen (p.RefersTo c) first name := by
  induction expanding, q using visit_induction p c with
  | source expanding s =>
    rw [terminalFrom_source] at hend
    cases hend
  | below expanding q input hinput ih =>
    rw [terminalFrom_of_input p c expanding hinput] at hend
    rw [Query.leaf_of_input hinput]
    exact ih hend
  | expansion expanding other expanded hother ih =>
    rw [terminalFrom_stub_of_some p c expanding hother] at hend
    obtain ⟨first, hfirst, hreach⟩ := ih hend
    rw [expansion?_of_not_mem (expansion?_eq_some hother).1] at hother
    exact ⟨other, rfl, hreach.head ⟨expanded, hother, hfirst⟩⟩
  | stop expanding other hother =>
    rw [terminalFrom_stub_of_none p c expanding hother] at hend
    cases hend
    exact ⟨name, rfl, .refl⟩

/-- **Only a circle leaves a stub**: where nothing but the conventions expands, a composed query has
a stub only if some host query refers to another entity set from which references lead back. -/
theorem circle_of_hasStubs (hs : p.SourcesByConvention conventions)
    (hx : p.expanders.toList = [.ofConventions conventions]) {q : Query} {r : Composed}
    (h : p.compose c q = .ok r) (hstubs : r.query.hasStubs) :
    ∃ name other, other ≠ name ∧ p.RefersTo c name other ∧
      Relation.ReflTransGen (p.RefersTo c) other name := by
  obtain ⟨name, answer, other, hend, hhost, hother, hne⟩ := handsOut_of_hasStubs hs h hstubs
  have hexpands := hhost.expands hx
  refine ⟨name, other, hne, ⟨answer, hexpands, hother⟩, ?_⟩
  -- the stub had an expansion that was not taken, so it was being expanded: the way from there
  -- leads back
  rcases exists_visit_of_terminal hexpands [] q hend with hmem | ⟨stack, hback, -⟩
  · cases hmem
  · obtain ⟨first, hfirst, hreach⟩ := refersTo_terminal _ _ hback
    rw [hother] at hfirst
    cases hfirst
    exact hreach

end Pipeline

end FacetModel
