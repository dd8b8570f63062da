import FacetModel.Proofs.Pipeline.Sourcing
import Mathlib

/-!
# Denied facets in composed queries

`Authorizer.deny` keeps facets out of the nodes that composition visits. A composed query can also
have nodes that were never visited, those that a sourcer handed out. `Pipeline.opens_denied_iff`
says exactly when a denied facet comes in that way: the sourcers hand out the query that the host
has behind the last stub, and an expander had put another query in the place of that stub, so that
the one of the host was never looked at.

Hence nothing denied is opened where the conventions are the only expander
(`Pipeline.opens_nothing_denied`).
-/

namespace FacetModel

/-- A node that means one of some facets. -/
def Query.MeansOneOf (m : Model) (facets : List String) (node : Query) : Prop :=
  ∃ facet ∈ facets, (ModelReference.classify m node).facetName? = some facet

instance (m : Model) (facets : List String) (node : Query) :
    Decidable (node.MeansOneOf m facets) :=
  inferInstanceAs (Decidable (∃ facet ∈ facets, _))

namespace Pipeline

variable {p : Pipeline} {c : QueryContext} {conventions : ConventionCatalog}
  {facets : List String}

/-- What has the name of a facet is not nothing, so authorizers are asked about it. -/
theorem isNothing_of_facetName? {reference : ModelReference} {facet : String}
    (h : reference.facetName? = some facet) : reference.isNothing = false := by
  cases reference with
  | nothing => cases h
  | stub name other => rfl
  | entitySet name => rfl
  | singleton name => rfl
  | entities typeName => rfl

/-- The authorizer that denies facets denies exactly the nodes that mean one of them. -/
theorem denies_iff_meansOneOf (hd : p.authorizers.toList = [.deny facets]) (node : Query) :
    p.denies c node ↔ node.MeansOneOf c.model facets := by
  rw [denies_eq, hd, List.findSome?_cons, List.findSome?_nil, Query.MeansOneOf, Authorizer.deny]
  cases hname : (ModelReference.classify c.model node).facetName? with
  | none => simp
  | some facet =>
    rw [isNothing_of_facetName? hname]
    by_cases hmem : facet ∈ facets <;> simp [hmem]

/-- A denied node of a composed query comes from a host query that the sourcers hand out and that
no expander has put in the place of the same stub. -/
theorem handsOut_of_meansOneOf (hd : p.authorizers.toList = [.deny facets])
    (hs : p.SourcesByConvention conventions) {q node : Query} {r : Composed}
    (h : p.compose c q = .ok r) (hnode : node ∈ r.query.nodes)
    (hmeans : node.MeansOneOf c.model facets) :
    ∃ name answer, p.terminal c q = .stub name ∧
      p.HandsOut c conventions name (!(p.wrappers c q).isEmpty) answer ∧
      answer.leaf.MeansOneOf c.model facets ∧
      p.expanders.firstAnswer? (fun x => x.expand c name) ≠ some answer := by
  have hvisit : ∀ node ∈ p.visit c q, ¬ node.MeansOneOf c.model facets := by
    intro node hnode hmeans
    rw [← denies_iff_meansOneOf hd, ((p.compose_eq_ok_iff c q r).1 h).1 node hnode] at hmeans
    cases hmeans
  have hend := p.terminalFrom_mem c [] q
  -- wrappers mean no facet, so it is the leaf that is denied
  have hleaf : r.query.leaf.MeansOneOf c.model facets := by
    rcases Query.mem_nodes hnode with rfl | hwrapper
    · exact hmeans
    · obtain ⟨facet, -, hfacet⟩ := hmeans
      rw [ModelReference.facetName?_classify_of_isWrapper hwrapper] at hfacet
      cases hfacet
  rcases leaf_of_compose h with ⟨s, hterminal, hrleaf⟩ | ⟨name, answer, hname, hsourced, hrleaf⟩
  · rw [hrleaf, ← hterminal] at hleaf
    exact absurd hleaf (hvisit _ hend)
  · rw [hrleaf] at hleaf
    rw [← terminal, hname] at hend
    rcases sourced?_eq_some hs hsourced with
      ⟨database, type, hfacet, -, rfl⟩ | ⟨property, value, -, -, rfl⟩ | hhost
    · -- a collection means the facet that its stub means
      refine absurd ?_ (hvisit _ hend)
      obtain ⟨facet, hmem, hmeans⟩ := hleaf
      refine ⟨facet, hmem, ?_⟩
      rw [← hmeans]
      simp only [ModelReference.classify, Query.leaf, hfacet]
      rfl
    · obtain ⟨facet, -, hfacet⟩ := hleaf
      cases hfacet
    · refine ⟨name, answer, hname, hhost, hleaf, fun hexpands => ?_⟩
      exact hvisit _ (nodes_subset_visit_of_terminal hexpands hname _ answer.leaf_mem_nodes) hleaf

/-- **When composition opens a denied facet**: exactly if no visited node is denied, and the last
one is a stub that the sourcers resolve by a host query around a denied leaf, which is not what the
expanders put in the place of that stub. -/
theorem opens_denied_iff (hd : p.authorizers.toList = [.deny facets])
    (hs : p.SourcesByConvention conventions) (q : Query) :
    (∃ r, p.compose c q = .ok r ∧ ∃ node ∈ r.query.nodes, node.MeansOneOf c.model facets) ↔
      (∀ node ∈ p.visit c q, ¬ node.MeansOneOf c.model facets) ∧
        ∃ name answer, p.terminal c q = .stub name ∧
          p.HandsOut c conventions name (!(p.wrappers c q).isEmpty) answer ∧
          answer.leaf.MeansOneOf c.model facets ∧
          p.expanders.firstAnswer? (fun x => x.expand c name) ≠ some answer := by
  have hallowed : (∀ node ∈ p.visit c q, p.denies c node = false)
      ↔ ∀ node ∈ p.visit c q, ¬ node.MeansOneOf c.model facets := by
    simp only [← denies_iff_meansOneOf hd, Bool.not_eq_true]
  constructor
  · rintro ⟨r, hr, node, hnode, hmeans⟩
    exact ⟨hallowed.1 ((p.compose_eq_ok_iff c q r).1 hr).1,
      handsOut_of_meansOneOf hd hs hr hnode hmeans⟩
  · rintro ⟨hvisit, name, answer, hend, hhost, hmeans, -⟩
    obtain ⟨r, hr, hleaf⟩ := compose_of_sourced? (hallowed.2 hvisit) hend hhost.first
    exact ⟨r, hr, r.query.leaf, r.query.leaf_mem_nodes, hleaf ▸ hmeans⟩

/-- The conventions of two entity sets, where `Staff` is denied and `People` is expanded into a
projection of itself. -/
def guardedPipeline : Pipeline where
  authorizers := { handlers := [.deny ["Staff"]] }
  expanders :=
    { handlers := [.ofTable (.ofList [("People", .project (.stub "People") ["Id"])])]
      fallbacks := [.ofConventions pairConventions] }
  sourcers := { fallbacks := [.ofConventions pairConventions] }

theorem sourcesByConvention_guardedPipeline :
    guardedPipeline.SourcesByConvention pairConventions := by
  intro s hs
  exact .inl (List.mem_singleton.1 hs)

/-- The host opens the collection of `Staff` for `People`. -/
def staffContext : QueryContext :=
  pairContext [("People", .source (.openCollection "db" "Staff" "Person"))]

/-- The equivalence where the host opens a denied collection for an allowed entity set. -/
theorem opens_denied_staff :
    guardedPipeline.authorizers.toList = [.deny ["Staff"]] ∧
      guardedPipeline.SourcesByConvention pairConventions ∧
      ∃ r, guardedPipeline.compose staffContext (.stub "People") = .ok r ∧
        ∃ node ∈ r.query.nodes, node.MeansOneOf staffContext.model ["Staff"] := by
  refine ⟨rfl, sourcesByConvention_guardedPipeline, ?_⟩
  rw [opens_denied_iff rfl sourcesByConvention_guardedPipeline]
  have hvisit : guardedPipeline.visit staffContext (.stub "People")
      = [.stub "People", .project (.stub "People") ["Id"], .stub "People"] := by cbv
  refine ⟨?_, "People", _, by cbv, ⟨by cbv, by cbv, by cbv⟩, by decide, ?_⟩
  · rw [hvisit]
    decide
  · intro hexpands
    have hother : guardedPipeline.expanders.firstAnswer? (fun x => x.expand staffContext "People")
        = some (.project (.stub "People") ["Id"]) := by cbv
    rw [hother] at hexpands
    cases hexpands

/-- A projection of `People` lets the denied collection of `Staff` through. -/
theorem compose_guarded :
    ¬ ∀ r, guardedPipeline.compose staffContext (.stub "People") = .ok r →
      ∀ node ∈ r.query.nodes, ¬ node.MeansOneOf staffContext.model ["Staff"] := by
  intro h
  have hcompose : guardedPipeline.compose staffContext (.stub "People")
      = .ok {
          query := .project (.source (.openCollection "db" "Staff" "Person")) ["Id"]
          changed := true } := by cbv
  refine h _ hcompose (.source (.openCollection "db" "Staff" "Person")) ?_
    ⟨"Staff", List.mem_singleton_self _, by cbv⟩
  exact List.mem_cons_of_mem _ (List.mem_singleton_self _)

/-- **The conventions alone open nothing denied.** -/
theorem opens_nothing_denied (hd : p.authorizers.toList = [.deny facets])
    (hs : p.SourcesByConvention conventions)
    (hx : p.expanders.toList = [.ofConventions conventions]) {q node : Query} {r : Composed}
    (h : p.compose c q = .ok r) (hnode : node ∈ r.query.nodes) :
    ¬ node.MeansOneOf c.model facets := by
  intro hmeans
  obtain ⟨name, answer, -, hhost, -, hother⟩ := handsOut_of_meansOneOf hd hs h hnode hmeans
  exact hother (hhost.expands hx)

end Pipeline

end FacetModel
