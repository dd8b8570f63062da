import FacetModel.Proofs.Pipeline.Visit

/-!
# What sourcers put in the place of a stub

A visit that ends at a stub leaves it to the sourcers, and their answer is taken as it is: it is
neither visited nor composed. Under the sourcers of stores and of one convention catalog there are
three kinds of answers (`Pipeline.sourced?_eq_some`): a collection of the name of the stub, the row
of a singleton, or the query that the host has behind the stub (`Pipeline.HandsOut`).

Only the last kind can bring in nodes that no visit has seen. It has been seen if an
expander put the same query in the place of the stub before: the nodes of an expansion of the last
stub have been visited (`Pipeline.nodes_subset_visit_of_terminal`).
-/

namespace FacetModel

/-! ### Leaves and facets -/

namespace Query

variable {q : Query} {name : String}

/-- Every node of a query but its leaf stands around an input. -/
theorem mem_nodes {node : Query} (h : node ∈ q.nodes) : node = q.leaf ∨ node.isWrapper := by
  induction q with
  | stub name => exact .inl (List.mem_singleton.1 h)
  | source s => exact .inl (List.mem_singleton.1 h)
  | filter input predicate ih => exact (List.mem_cons.1 h).elim (fun h => .inr (h ▸ rfl)) ih
  | project input fields ih => exact (List.mem_cons.1 h).elim (fun h => .inr (h ▸ rfl)) ih
  | navigate input property ih => exact (List.mem_cons.1 h).elim (fun h => .inr (h ▸ rfl)) ih

/-- The leaf of a query is one of its nodes. -/
theorem leaf_mem_nodes (q : Query) : q.leaf ∈ q.nodes := by
  induction q with
  | stub name => exact List.mem_singleton_self _
  | source s => exact List.mem_singleton_self _
  | filter input predicate ih => exact List.mem_cons_of_mem _ ih
  | project input fields ih => exact List.mem_cons_of_mem _ ih
  | navigate input property ih => exact List.mem_cons_of_mem _ ih

/-- A query has stubs exactly if its leaf is one. -/
theorem hasStubs_iff : q.hasStubs ↔ ∃ name, q.leaf = .stub name := by
  induction q with
  | stub name => exact ⟨fun _ => ⟨name, rfl⟩, fun _ => rfl⟩
  | source s =>
    constructor
    · intro h
      cases h
    · rintro ⟨name, h⟩
      cases h
  | filter input predicate ih => exact ih
  | project input fields ih => exact ih
  | navigate input property ih => exact ih

/-- A query has at most one stub, its leaf. -/
theorem stubNames_of_leaf (h : q.leaf = .stub name) : q.stubNames = [name] := by
  induction q with
  | stub other => exact congrArg stubNames h
  | source s => cases h
  | filter input predicate ih => exact ih h
  | project input fields ih => exact ih h
  | navigate input property ih => exact ih h

end Query

/-- The facet that a name means has this name. -/
theorem Model.name_of_findFacet? {m : Model} {name : String} {facet : FacetRef}
    (h : m.findFacet? name = some facet) : facet.name = name := by
  unfold findFacet? at h
  split at h
  case isTrue => rw [← Option.some.inj h]; rfl
  -- a singleton, if it is no entity set
  case isFalse =>
    split at h
    case isTrue => rw [← Option.some.inj h]; rfl
    case isFalse => cases h

/-- A node that stands around an input means no facet. -/
theorem ModelReference.facetName?_classify_of_isWrapper {node : Query} (h : node.isWrapper)
    (m : Model) : (classify m node).facetName? = none := by
  cases node with
  | stub name => cases h
  | source s => cases h
  | filter input predicate => rfl
  | project input fields => rfl
  | navigate input property =>
    rw [classify]
    split <;> rfl

/-! ### Answers of sourcers -/

/-- The sourcer of a store answers with a collection of the store that has the name of an entity
set. -/
theorem Sourcer.ofStore_eq_some {database : String} {collections : List String} {c : QueryContext}
    {name : String} {embedded : Bool} {answer : Query}
    (h : Sourcer.ofStore database collections c name embedded = some answer) :
    c.model.findFacet? name = some (.entitySet name) ∧ name ∈ collections ∧
      ∃ type, c.mappers.resolve name = some type ∧
        answer = .source (.openCollection database name type) := by
  unfold ofStore at h
  split at h
  case h_1 other hfacet =>
    have hname : other = name := Model.name_of_findFacet? hfacet
    subst hname
    split at h
    case isTrue hmem =>
      obtain ⟨type, htype, hsource⟩ := Option.map_eq_some_iff.1 h
      exact ⟨hfacet, hmem, type, htype, hsource.symm⟩
    case isFalse => cases h
  case h_2 => cases h

namespace Pipeline

variable {p : Pipeline} {c : QueryContext} {conventions : ConventionCatalog}

/-- All sourcers are those of stores and the one of a convention catalog. -/
def SourcesByConvention (p : Pipeline) (conventions : ConventionCatalog) : Prop :=
  ∀ s ∈ p.sourcers.toList,
    s = .ofConventions conventions ∨ ∃ database collections, s = .ofStore database collections

/-- All expanders are that of a convention catalog. -/
def ExpandsByConvention (p : Pipeline) (conventions : ConventionCatalog) : Prop :=
  ∀ x ∈ p.expanders.toList, x = .ofConventions conventions

/-- The sourcers put the query that the host has behind an entity set in the place of its stub. -/
structure HandsOut (p : Pipeline) (c : QueryContext) (conventions : ConventionCatalog)
    (name : String) (embedded : Bool) (answer : Query) : Prop where
  facet : c.model.findFacet? name = some (.entitySet name)
  host : conventions.hostQuery? c name = some answer
  first : p.sourced? c name embedded = some answer

/-- The conventional answers: a collection of the name of the stub, with the type that the mappers
have for it, the row of a singleton, with the type that the conventions have for it, or the query
that the host has behind the stub. -/
theorem sourced?_eq_some (hs : p.SourcesByConvention conventions) {name : String} {embedded : Bool}
    {answer : Query} (h : p.sourced? c name embedded = some answer) :
    (∃ database type, c.model.findFacet? name = some (.entitySet name) ∧
        c.mappers.resolve name = some type ∧
        answer = .source (.openCollection database name type)) ∨
      (∃ property value, c.model.findFacet? name = some (.singleton name) ∧
        conventions.singletonProperty? name = some property ∧
        answer = .source (.constant property.elementType [value])) ∨
      p.HandsOut c conventions name embedded answer := by
  obtain ⟨s, hmem, hsourced⟩ := List.exists_of_findSome?_eq_some h
  have hanswer : s c name embedded = some answer := (Option.filter_eq_some_iff.1 hsourced).1
  clear hsourced
  rcases hs s hmem with rfl | ⟨database, collections, rfl⟩
  · unfold Sourcer.ofConventions at hanswer
    split at hanswer
    case h_1 other hfacet =>
      have hname : other = name := Model.name_of_findFacet? hfacet
      subst hname
      exact .inr (.inr ⟨hfacet, hanswer, h⟩)
    case h_2 other hfacet =>
      have hname : other = name := Model.name_of_findFacet? hfacet
      subst hname
      -- a singleton is a sequence of the row that the host has for it
      unfold ConventionCatalog.hostRow? at hanswer
      split at hanswer
      case h_1 => cases hanswer
      case h_2 property hproperty =>
        split at hanswer
        case h_1 value hvalue =>
          exact .inr (.inl ⟨property, value, hfacet, hproperty, (Option.some.inj hanswer).symm⟩)
        case h_2 => cases hanswer
    case h_3 => cases hanswer
  · obtain ⟨hfacet, -, type, htype, hsource⟩ := Sourcer.ofStore_eq_some hanswer
    exact .inl ⟨database, type, hfacet, htype, hsource⟩

/-- Where only the conventions expand, what the sourcers hand out is the expansion as well. -/
theorem HandsOut.expands {name : String} {embedded : Bool} {answer : Query}
    (h : p.HandsOut c conventions name embedded answer)
    (hx : p.expanders.toList = [.ofConventions conventions]) :
    p.expanders.firstAnswer? (fun x => x.expand c name) = some answer := by
  have hname : name ∈ (Expander.ofConventions conventions).names := by
    have hhost := h.host
    unfold ConventionCatalog.hostQuery? at hhost
    split at hhost
    case h_1 => cases hhost
    case h_2 property hproperty =>
      have hfacet : property.facet = name := by simpa using List.find?_some hproperty
      exact List.mem_map.2 ⟨property, List.mem_of_find?_eq_some hproperty, hfacet⟩
  have hexpand : (Expander.ofConventions conventions).expand c name = some answer := by
    rw [Expander.expand, if_pos hname]
    simp only [Expander.ofConventions, h.facet]
    exact h.host
  rw [HandlerChain.firstAnswer?, hx, List.findSome?_cons, hexpand]

/-- A sourcer never hands out the stub that it is asked for. -/
theorem not_mem_stubNames_of_sourced? {name : String} {embedded : Bool} {answer : Query}
    (h : p.sourced? c name embedded = some answer) : name ∉ answer.stubNames := by
  obtain ⟨s, -, hanswer⟩ := List.exists_of_findSome?_eq_some h
  simpa using (Option.filter_eq_some_iff.1 hanswer).2

/-- The leaf of a composed query: the source at which the visit ends, or that of the answer to the
stub at which it ends. -/
theorem leaf_of_compose {q : Query} {r : Composed} (h : p.compose c q = .ok r) :
    (∃ s, p.terminal c q = .source s ∧ r.query.leaf = .source s) ∨
      ∃ name answer, p.terminal c q = .stub name ∧
        p.sourced? c name (!(p.wrappers c q).isEmpty) = some answer ∧
        r.query.leaf = answer.leaf := by
  obtain ⟨-, answer, hanswer, rfl⟩ := (p.compose_eq_ok_iff c q r).1 h
  have hleaf : (answer.wrappedIn (p.wrappers c q)).leaf = answer.leaf :=
    Query.leaf_wrappedIn (fun node => p.isWrapper_of_mem_wrappersFrom c [] (q := q)) answer
  rcases p.terminalFrom_cases c [] q with ⟨s, hs⟩ | ⟨name, hname⟩
  · rw [terminal, hs] at hanswer
    refine .inl ⟨s, hs, ?_⟩
    rw [hleaf, ← Except.ok.inj hanswer]
    rfl
  · rw [terminal, hname, resolve] at hanswer
    refine .inr ⟨name, answer, hname, ?_, hleaf⟩
    cases hsourced : p.sourced? c name (!(p.wrappers c q).isEmpty) with
    | none => rw [hsourced] at hanswer; cases hanswer
    | some other => rw [hsourced] at hanswer; rw [← Except.ok.inj hanswer]

/-- What the sourcers have for the stub at which an allowed visit ends is composed as it is. -/
theorem compose_of_sourced? {q : Query} {name : String} {answer : Query}
    (hallowed : ∀ node ∈ p.visit c q, p.denies c node = false) (hend : p.terminal c q = .stub name)
    (hsourced : p.sourced? c name (!(p.wrappers c q).isEmpty) = some answer) :
    ∃ r, p.compose c q = .ok r ∧ r.query.leaf = answer.leaf := by
  have hresolve : p.resolve c (!(p.wrappers c q).isEmpty) (p.terminal c q) = .ok answer := by
    rw [hend, resolve, hsourced]
  refine ⟨_, (p.compose_eq_ok_iff c q _).2 ⟨hallowed, answer, hresolve, rfl⟩, ?_⟩
  exact Query.leaf_wrappedIn (fun node => p.isWrapper_of_mem_wrappersFrom c []) answer

/-! ### What has been seen before -/

theorem expansion?_of_not_mem {expanding : List String} {name : String} (h : name ∉ expanding) :
    p.expansion? c expanding name = p.expanders.firstAnswer? fun x => x.expand c name := by
  rw [expansion?, if_neg h]

/-- Where a visit ends at a stub that has an expansion, the visit went through that expansion and
came back from it to the stub, unless the stub was under expansion from the start. -/
theorem exists_visit_of_terminal {name : String} {e : Query}
    (he : p.expanders.firstAnswer? (fun x => x.expand c name) = some e)
    (expanding : List String) (q : Query) (hend : p.terminalFrom c expanding q = .stub name) :
    name ∈ expanding ∨ ∃ stack, p.terminalFrom c (name :: stack) e = .stub name ∧
      ∀ node ∈ p.visitFrom c (name :: stack) e, node ∈ p.visitFrom c expanding q := by
  induction expanding, q using visit_induction p c with
  | source expanding s =>
    rw [terminalFrom_source] at hend
    cases hend
  | below expanding q input hinput ih =>
    rw [terminalFrom_of_input p c expanding hinput] at hend
    rw [visitFrom_of_input p c expanding hinput]
    refine (ih hend).imp_right ?_
    rintro ⟨stack, hstack, hnodes⟩
    exact ⟨stack, hstack, fun node hnode => List.mem_cons_of_mem _ (hnodes node hnode)⟩
  | expansion expanding other expanded hother ih =>
    rw [terminalFrom_stub_of_some p c expanding hother] at hend
    rw [visitFrom_stub_of_some p c expanding hother]
    rcases ih hend with hmem | ⟨stack, hstack, hnodes⟩
    · rcases List.mem_cons.1 hmem with rfl | hmem
      · -- this is where the stub came under expansion
        rw [expansion?_of_not_mem (expansion?_eq_some hother).1, he] at hother
        cases hother
        exact .inr ⟨expanding, hend, fun node hnode => List.mem_cons_of_mem _ hnode⟩
      · exact .inl hmem
    · exact .inr ⟨stack, hstack, fun node hnode => List.mem_cons_of_mem _ (hnodes node hnode)⟩
  | stop expanding other hother =>
    rw [terminalFrom_stub_of_none p c expanding hother] at hend
    cases hend
    -- the stub has an expansion, so only the stack can have kept it back
    by_cases hmem : name ∈ expanding
    · exact .inl hmem
    · rw [expansion?_of_not_mem hmem, he] at hother
      cases hother

/-- The nodes of an expansion of the last stub have been visited. -/
theorem nodes_subset_visit_of_terminal {name : String} {e q : Query}
    (he : p.expanders.firstAnswer? (fun x => x.expand c name) = some e)
    (hend : p.terminal c q = .stub name) : ∀ node ∈ e.nodes, node ∈ p.visit c q := by
  intro node hnode
  rcases exists_visit_of_terminal he [] q hend with hmem | ⟨stack, -, hnodes⟩
  · cases hmem
  · exact hnodes node (nodes_subset_visitFrom p c _ hnode)

/-! ### Conventions of two entity sets -/

/-- A model with two entity sets of one type. -/
def pairModel : Model where
  namespaceName := "Sample"
  containerName := "Container"
  types := [⟨"Person", "Sample", .entity, none, ["Id"], [], []⟩]
  entitySets := [⟨"People", "Person", .staticProperty⟩, ⟨"Staff", "Person", .staticProperty⟩]

/-- The static host properties behind the two entity sets. -/
def pairConventions : ConventionCatalog where
  hostType := "Api"
  entitySets := [⟨"People", "Person", true⟩, ⟨"Staff", "Person", true⟩]

/-- A context in which the host has queries behind entity sets. -/
def pairContext (queries : List (String × Query)) : QueryContext where
  model := pairModel
  statics := .ofList (queries.map fun entry => (entry.1, .queryable entry.2))

end Pipeline

end FacetModel
