import FacetModel.Proofs.Pipeline.Sourcing
import FacetModel.Proofs.Assembly.Conventions

/-!
# Element types of composed queries

A stub has the type that the model gives to its facet. What composition puts in its place has a type
from elsewhere: the mappers have that of a collection, the convention catalog that of a singleton,
and the query behind an entity set brings its own. Where the catalog describes the model and the
host queries have the types of their facets (`QueryContext.HostTyped`), all of them are the same
(`Pipeline.elementType?_of_expansion?`, `Pipeline.elementType?_of_sourced?`).

So a composed query has the type of the query that it is made from, and each wrapper of that query
stands at its place in the composed one and means what it meant before (`Query.Retains`,
`Pipeline.retains_composeNode`). For assembled models this is `Assembler.compose_elementType`.
-/

namespace FacetModel

/-- Queries of the host have the types of the facets that they stand behind. Only values that are
read for the host type count. -/
def QueryContext.HostTyped (c : QueryContext) (hostType : String) : Prop :=
  ∀ name isStatic query, (c.model.findFacet? name).isSome →
    c.readHostProperty hostType name isStatic = some (.queryable query) →
      query.elementType? c.model = (Query.stub name).elementType? c.model

/-! ### Types of queries -/

namespace Query

variable {m : Model} {q input other : Query}

theorem elementType?_stub {name type : String} {facet : FacetRef}
    (hfacet : m.findFacet? name = some facet) (htype : m.facetType? facet = some type) :
    (stub name).elementType? m = some type := by
  rw [elementType?, hfacet, Option.bind_some, htype]

/-- The type of a wrapper depends on its input by the type of the input only. -/
theorem elementType?_withInput (hq : q.input? = some input)
    (h : other.elementType? m = input.elementType? m) :
    (q.withInput other).elementType? m = q.elementType? m := by
  obtain ⟨_, rfl⟩ | ⟨_, rfl⟩ | ⟨_, rfl⟩ := input?_eq_some hq
  · exact h
  · exact h
  · simp only [withInput, elementType?, h]

/-- What a wrapper means depends on its input by the type of the input only. -/
theorem classify_withInput (hq : q.input? = some input)
    (h : other.elementType? m = input.elementType? m) :
    ModelReference.classify m (q.withInput other) = ModelReference.classify m q := by
  have htype := elementType?_withInput hq h
  obtain ⟨_, rfl⟩ | ⟨_, rfl⟩ | ⟨_, rfl⟩ := input?_eq_some hq
  · rfl
  · rfl
  · rw [withInput] at htype ⊢
    rw [ModelReference.classify, ModelReference.classify, htype]

end Query

namespace Pipeline

variable {p : Pipeline} {c : QueryContext} {conventions : ConventionCatalog}

/-! ### Types of what takes the place of a stub -/

/-- A query behind an entity set stands behind a facet of this name. -/
theorem elementType?_of_hostQuery? (ht : c.HostTyped conventions.hostType) {name : String}
    {query : Query} (hfacet : c.model.findFacet? name = some (.entitySet name))
    (h : conventions.hostQuery? c name = some query) :
    query.elementType? c.model = (Query.stub name).elementType? c.model := by
  unfold ConventionCatalog.hostQuery? at h
  split at h
  · cases h
  · rename_i property hproperty
    have hname : property.facet = name := by simpa using List.find?_some hproperty
    split at h
    · rename_i other hread
      rw [hname] at hread
      rw [← Option.some.inj h]
      exact ht name property.isStatic other (by rw [hfacet]; rfl) hread
    · cases h

/-- The conventions expand an entity set into the query that the host has behind it. -/
theorem expand_ofConventions_eq_some {name : String} {expanded : Query}
    (h : (Expander.ofConventions conventions).expand c name = some expanded) :
    c.model.findFacet? name = some (.entitySet name) ∧
      conventions.hostQuery? c name = some expanded := by
  unfold Expander.expand Expander.ofConventions at h
  split at h
  · dsimp only at h
    split at h
    · rename_i other hfacet
      have hname : other = name := Model.name_of_findFacet? hfacet
      subst hname
      exact ⟨hfacet, h⟩
    · cases h
  · cases h

/-- An expansion has the type of its stub. -/
theorem elementType?_of_expansion? (ht : c.HostTyped conventions.hostType)
    (hx : p.ExpandsByConvention conventions) {expanding : List String} {name : String}
    {expanded : Query} (h : p.expansion? c expanding name = some expanded) :
    expanded.elementType? c.model = (Query.stub name).elementType? c.model := by
  rw [expansion?_of_not_mem (expansion?_eq_some h).1] at h
  obtain ⟨x, hmem, hexpand⟩ := List.exists_of_findSome?_eq_some h
  obtain ⟨hfacet, hhost⟩ := expand_ofConventions_eq_some (hx x hmem ▸ hexpand)
  exact elementType?_of_hostQuery? ht hfacet hhost

/-- What the sourcers have for a stub has the type of the stub. -/
theorem elementType?_of_sourced? (hdescribes : conventions.Describes c.model)
    (hmappers : c.mappers.toList = [.ofConventions conventions])
    (ht : c.HostTyped conventions.hostType) (hs : p.SourcesByConvention conventions)
    {name : String} {embedded : Bool} {answer : Query}
    (h : p.sourced? c name embedded = some answer) :
    answer.elementType? c.model = (Query.stub name).elementType? c.model := by
  rcases sourced?_eq_some hs h with
    ⟨database, type, -, htype, rfl⟩ | ⟨property, value, hfacet, hproperty, rfl⟩ | hhost
  · -- the only mapper is that of the catalog, which has the types of the model
    have hlisted : conventions.elementTypeOf? name = some type := by
      rw [MapperChain.resolve, HandlerChain.firstAnswer?, hmappers] at htype
      simpa [Mapper.ofConventions] using htype
    obtain ⟨facet, hfacet, -, hfacetType⟩ := hdescribes.elementType name type hlisted
    rw [Query.elementType?_stub hfacet hfacetType]
    rfl
  · have hname : property.facet = name := by simpa using List.find?_some hproperty
    have htype := hdescribes.singletons property (List.mem_of_find?_eq_some hproperty)
    rw [hname] at htype
    rw [Query.elementType?_stub hfacet htype]
    rfl
  · exact elementType?_of_hostQuery? ht hhost.facet hhost.host

end Pipeline

/-! ### Types of composed queries -/

/-- A query has the type of another one, and each wrapper of that one stands at its place in it,
around another input, and means what it meant there. -/
structure Query.Retains (m : Model) (q r : Query) : Prop where
  elementType : r.elementType? m = q.elementType? m
  wrappers : ∀ (i : Nat) (node : Query), q.nodes[i]? = some node → node.isWrapper →
    ∃ input, r.nodes[i]? = some (node.withInput input) ∧
      ModelReference.classify m (node.withInput input) = ModelReference.classify m node

namespace Query.Retains

variable {m : Model} {q r input : Query}

/-- A query without wrappers retains nothing but its type. -/
theorem of_nodes_singleton (hnodes : q.nodes = [q]) (hq : q.isWrapper = false)
    (h : r.elementType? m = q.elementType? m) : q.Retains m r where
  elementType := h
  wrappers i node hnode hwrapper := by
    rw [hnodes] at hnode
    obtain rfl : node = q := List.mem_singleton.1 (List.mem_of_getElem? hnode)
    rw [hq] at hwrapper
    cases hwrapper

/-- A wrapper retains what its input retains, and stands for the same as before. -/
theorem withInput (hq : q.input? = some input) (h : input.Retains m r) :
    q.Retains m (q.withInput r) where
  elementType := elementType?_withInput hq h.elementType
  wrappers i node hnode hwrapper := by
    have hr : (q.withInput r).nodes = q.withInput r :: r.nodes :=
      nodes_of_input (input?_withInput (by rw [isWrapper, hq]; rfl) r)
    rw [nodes_of_input hq] at hnode
    cases i with
    | zero =>
      obtain rfl : q = node := Option.some.inj hnode
      exact ⟨r, by rw [hr]; rfl, classify_withInput hq h.elementType⟩
    | succ i =>
      obtain ⟨other, hother, hmeans⟩ := h.wrappers i node hnode hwrapper
      exact ⟨other, by rw [hr]; exact hother, hmeans⟩

end Query.Retains

namespace Pipeline

variable {p : Pipeline} {c : QueryContext} {conventions : ConventionCatalog}

/-- A node with an answer is not denied. -/
theorem allowed_of_composeNode {expanding : List String} {embedded : Bool} {q : Query}
    {r : Composed} (h : p.composeNode c expanding embedded q = .ok r) : p.denies c q = false := by
  cases hdenies : p.denies c q with
  | true =>
    rw [composeNode_of_denies hdenies] at h
    cases h
  | false => rfl

/-- **A composed query retains the type and the meaning of the query that it is made from**,
whatever is under expansion. -/
theorem retains_composeNode (hdescribes : conventions.Describes c.model)
    (hmappers : c.mappers.toList = [.ofConventions conventions])
    (ht : c.HostTyped conventions.hostType) (hx : p.ExpandsByConvention conventions)
    (hs : p.SourcesByConvention conventions) (expanding : List String) (embedded : Bool) (q : Query)
    {r : Composed} (h : p.composeNode c expanding embedded q = .ok r) :
    q.Retains c.model r.query := by
  have hallowed := allowed_of_composeNode h
  induction expanding, q using visit_induction p c generalizing embedded r with
  | source expanding s =>
    rw [composeNode_source s hallowed] at h
    cases h
    exact .of_nodes_singleton rfl rfl rfl
  | below expanding q input hinput ih =>
    rw [composeNode_of_input hinput hallowed] at h
    cases hbelow : p.composeNode c expanding true input with
    | error e =>
      rw [hbelow] at h
      cases h
    | ok below =>
      rw [hbelow] at h
      cases h
      exact (ih true hbelow (allowed_of_composeNode hbelow)).withInput hinput
  | expansion expanding name expanded hname ih =>
    rw [composeNode_stub_of_some hname hallowed] at h
    cases hinner : p.composeNode c (name :: expanding) embedded expanded with
    | error e =>
      rw [hinner] at h
      cases h
    | ok inner =>
      rw [hinner] at h
      cases h
      -- the wrappers of the expansion are new, only its type is that of the stub
      have htype := (ih embedded hinner (allowed_of_composeNode hinner)).elementType
      exact .of_nodes_singleton rfl rfl (htype.trans (elementType?_of_expansion? ht hx hname))
  | stop expanding name hname =>
    rw [composeNode_stub_of_none hname hallowed] at h
    cases hsourced : p.sourced? c name embedded with
    | none =>
      rw [hsourced] at h
      cases h
    | some answer =>
      rw [hsourced] at h
      cases h
      exact .of_nodes_singleton rfl rfl (elementType?_of_sourced? hdescribes hmappers ht hs hsourced)

end Pipeline

/-! ### Assembled models -/

namespace Assembler

variable {a : Assembler} {host : String} {settings : Settings} {r : Assembled} {c : QueryContext}
  {p : Pipeline}

/-- **Composition keeps element types.** Over an assembled model, with the mapper of its conventions
and host queries of the types of their facets, a composed query has the type of the query that it is
made from. Each navigation of that query stands at its place in the composed one and refers to what
it referred to before. -/
theorem compose_elementType (hproviders : a.providers = [])
    (hextenders : ∀ e ∈ a.extenders, e.KeepsReachable) {cancelled : Bool}
    (h : a.assemble host settings cancelled = .ok r) (hmodel : c.model = r.model)
    (hmappers : c.mappers.toList = [.ofConventions r.conventions])
    (ht : c.HostTyped r.conventions.hostType) (hx : p.ExpandsByConvention r.conventions)
    (hs : p.SourcesByConvention r.conventions) {q : Query} {composed : Composed}
    (hcompose : p.compose c q = .ok composed) :
    composed.query.elementType? c.model = q.elementType? c.model ∧
      ∀ (i : Nat) (input : Query) (property : String),
        q.nodes[i]? = some (.navigate input property) →
          ∃ input', composed.query.nodes[i]? = some (.navigate input' property) ∧
            ModelReference.classify c.model (.navigate input' property)
              = ModelReference.classify c.model (.navigate input property) := by
  obtain ⟨t, properties, -, hproperties, hnames, hconventions⟩ :=
    conventions_eq_ofModel hproviders hextenders h
  have hdescribes : r.conventions.Describes c.model := by
    rw [hmodel, hconventions]
    exact ConventionCatalog.describes_ofModel host (Registry.nodup_scanProperties hproperties) hnames
  have hretains := Pipeline.retains_composeNode hdescribes hmappers ht hx hs [] false q hcompose
  refine ⟨hretains.elementType, fun i input property hnode => ?_⟩
  exact hretains.wrappers i (.navigate input property) hnode rfl

/-- A request to the shop. Behind each of its entity sets stands a query of that set itself. -/
def shopContext (r : Assembled) : QueryContext where
  model := r.model
  mappers := MapperChain.withConventions {} r.conventions
  host := some (.ofValues ["Shop"]
    (.ofList [("Orders", .queryable (.filter (.stub "Orders") (.literal (.bool true))))]))
  statics := .ofList [("Customers", .queryable (.project (.stub "Customers") ["Id"]))]

/-- The conventions of the shop, with a store of its customers. -/
def shopPipeline (r : Assembled) : Pipeline :=
  Pipeline.withConventions { sourcers := { handlers := [.ofStore "db" ["Customers"]] } }
    r.conventions

theorem hostTyped_shopContext (r : Assembled) (hostType : String) :
    (shopContext r).HostTyped hostType := by
  have hsingle : ∀ (key name : String) (own query : Query),
      (NameMap.ofList [(key, HostValue.queryable own)]).get? name = some (.queryable query) →
        name = key ∧ query = own := by
    intro key name own query h
    rw [NameMap.ofList, List.foldl_cons, List.foldl_nil, NameMap.get?_insert] at h
    split at h
    · rename_i hname
      cases h
      exact ⟨hname, rfl⟩
    · cases h
  intro name isStatic query _ hread
  cases isStatic with
  | true =>
    obtain ⟨rfl, rfl⟩ := hsingle _ _ _ _ hread
    rfl
  | false =>
    unfold QueryContext.readHostProperty at hread
    rw [if_neg Bool.false_ne_true] at hread
    simp only [shopContext] at hread
    split at hread
    · obtain ⟨rfl, rfl⟩ := hsingle _ _ _ _ hread
      rfl
    · cases hread

/-- The customers come from the store, below the projection of the host, and their orders are
reached as before. -/
theorem compose_elementType_shop :
    ∃ r, shopAssembler.assemble "Shop" {} false = .ok r ∧
      (shopContext r).HostTyped r.conventions.hostType ∧
      ∃ composed, (shopPipeline r).compose (shopContext r) (.navigate (.stub "Customers") "Orders")
          = .ok composed ∧
        composed.query = .navigate
          (.project (.source (.openCollection "db" "Customers" "Customer")) ["Id"]) "Orders" ∧
        composed.query.elementType? r.model = some "Order" := by
  have hrun : (shopAssembler.assemble "Shop" {} false).map (fun r =>
      ((shopPipeline r).compose (shopContext r) (.navigate (.stub "Customers") "Orders"),
        (Query.navigate (.stub "Customers") "Orders").elementType? r.model))
      = .ok (.ok {
          query := .navigate
            (.project (.source (.openCollection "db" "Customers" "Customer")) ["Id"]) "Orders"
          changed := true }, some "Order") := by
    cbv
  cases h : shopAssembler.assemble "Shop" {} false with
  | error e =>
    rw [h] at hrun
    cases hrun
  | ok r =>
    rw [h] at hrun
    obtain ⟨hcompose, htype⟩ := Prod.mk.inj (Except.ok.inj hrun)
    have ht := hostTyped_shopContext r r.conventions.hostType
    have hx : (shopPipeline r).ExpandsByConvention r.conventions :=
      fun x hx => List.mem_singleton.1 hx
    have hs : (shopPipeline r).SourcesByConvention r.conventions := by
      intro s hs
      rcases List.mem_pair.1 hs with rfl | rfl
      · exact .inr ⟨"db", ["Customers"], rfl⟩
      · exact .inl rfl
    have hkept := compose_elementType rfl
      (List.forall_mem_singleton.2 (Extender.keepsReachable_ofRequests _)) h rfl rfl ht hx hs
      hcompose
    exact ⟨r, rfl, ht, _, hcompose, rfl, hkept.1.trans htype⟩

end Assembler

end FacetModel
