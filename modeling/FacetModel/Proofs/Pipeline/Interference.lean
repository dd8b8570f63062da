import FacetModel.Proofs.Pipeline.Denial

/-!
# Host values without influence

Composition reads a host property only to put the query behind a facet in the place of its stub, and
it visits that stub before. So the value behind a denied facet is never read, and neither is any
value of an instance that is not of the host type of the conventions.

`QueryContext.AgreeOutside` relates contexts that may differ in such values, and
`Pipeline.compose_congr` says that they compose every query with the same result. Both ways to a
host value are covered, that of the expander and that of the sourcer, because the reading functions
themselves agree for every facet that is not denied (`AgreeOutside.hostQuery?_eq`,
`AgreeOutside.hostRow?_eq`).
-/

namespace FacetModel

/-! ### Contexts that agree -/

/-- A name is that of a facet of the model, and is listed. -/
def Model.IsListedFacet (m : Model) (facets : List String) (name : String) : Prop :=
  name ∈ facets ∧ (m.findFacet? name).isSome

/-- A stub means the facet of its name, if there is one. -/
theorem Model.meansOneOf_stub_iff {m : Model} {facets : List String} {name : String} :
    (Query.stub name).MeansOneOf m facets ↔ m.IsListedFacet facets name := by
  rw [Query.MeansOneOf, IsListedFacet, ModelReference.classify]
  cases hfacet : m.findFacet? name with
  | none => simp [ModelReference.facetName?]
  | some facet => simp [ModelReference.facetName?, name_of_findFacet? hfacet]

/-- The request is served by an instance of a host type. -/
def QueryContext.HasInstanceOf (c : QueryContext) (hostType : String) : Prop :=
  ∃ host, c.host = some host ∧ host.isInstanceOf hostType = true

/-- Nothing is read from an instance of another host type, or from none. -/
theorem QueryContext.readHostProperty_of_not_hasInstanceOf {c : QueryContext} {hostType : String}
    (h : ¬ c.HasInstanceOf hostType) (name : String) :
    c.readHostProperty hostType name false = none := by
  rw [readHostProperty, if_neg Bool.false_ne_true]
  split
  · rename_i host hhost
    exact if_neg fun hinstance => h ⟨host, hhost, hinstance⟩
  · rfl

/-- Contexts with the same model and mappers, and with the same host values but for two exceptions:
values under the names of listed facets, and all values of instances, if neither context has an
instance of the host type. An instance has the values that are read from it for the host type. -/
structure QueryContext.AgreeOutside (facets : List String) (hostType : String)
    (c c' : QueryContext) : Prop where
  model : c.model = c'.model
  mappers : c.mappers = c'.mappers
  statics : ∀ name, ¬ c.model.IsListedFacet facets name →
    c.statics.get? name = c'.statics.get? name
  instances : (¬ c.HasInstanceOf hostType ∧ ¬ c'.HasInstanceOf hostType) ∨
    ∀ name, ¬ c.model.IsListedFacet facets name →
      c.readHostProperty hostType name false = c'.readHostProperty hostType name false

namespace QueryContext.AgreeOutside

variable {facets : List String} {c c' : QueryContext} {conventions : ConventionCatalog}
  {name : String}

/-- What is behind a facet that is not listed is the same in both contexts, static or not. -/
theorem readHostProperty_eq {hostType : String} (h : AgreeOutside facets hostType c c')
    (hname : ¬ c.model.IsListedFacet facets name) (isStatic : Bool) :
    c.readHostProperty hostType name isStatic = c'.readHostProperty hostType name isStatic := by
  cases isStatic with
  | true => exact h.statics name hname
  | false =>
    -- neither context has an instance of the host type, or both agree on what theirs has
    rcases h.instances with ⟨hleft, hright⟩ | hboth
    · rw [readHostProperty_of_not_hasInstanceOf hleft,
        readHostProperty_of_not_hasInstanceOf hright]
    · exact hboth name hname

/-- Behind an entity set that is not listed stands the same host query. -/
theorem hostQuery?_eq (h : AgreeOutside facets conventions.hostType c c')
    (hname : ¬ c.model.IsListedFacet facets name) :
    conventions.hostQuery? c name = conventions.hostQuery? c' name := by
  rw [ConventionCatalog.hostQuery?, ConventionCatalog.hostQuery?]
  cases hproperty : conventions.entitySetProperty? name with
  | none => rfl
  | some property =>
    have hfacet : property.facet = name := by simpa using List.find?_some hproperty
    dsimp only
    rw [hfacet, h.readHostProperty_eq hname]

/-- Behind a singleton that is not listed stands the same row. -/
theorem hostRow?_eq (h : AgreeOutside facets conventions.hostType c c')
    (hname : ¬ c.model.IsListedFacet facets name) :
    conventions.hostRow? c name = conventions.hostRow? c' name := by
  rw [ConventionCatalog.hostRow?, ConventionCatalog.hostRow?]
  cases hproperty : conventions.singletonProperty? name with
  | none => rfl
  | some property =>
    have hfacet : property.facet = name := by simpa using List.find?_some hproperty
    dsimp only
    rw [hfacet, h.readHostProperty_eq hname]

/-- A facet that is not listed has the same expansion. -/
theorem expand_eq (h : AgreeOutside facets conventions.hostType c c')
    (hname : ¬ c.model.IsListedFacet facets name) :
    (Expander.ofConventions conventions).expand c name
      = (Expander.ofConventions conventions).expand c' name := by
  have hanswer : (Expander.ofConventions conventions).answer c name
      = (Expander.ofConventions conventions).answer c' name := by
    rw [Expander.ofConventions]
    dsimp only
    rw [← h.model]
    cases hfacet : c.model.findFacet? name with
    | none => rfl
    | some facet =>
      obtain rfl : facet.name = name := Model.name_of_findFacet? hfacet
      cases facet with
      | entitySet other => exact h.hostQuery?_eq hname
      | singleton other => rfl
  rw [Expander.expand, Expander.expand, hanswer]

/-- A facet that is not listed has the same source. -/
theorem source_eq (h : AgreeOutside facets conventions.hostType c c')
    (hname : ¬ c.model.IsListedFacet facets name) (embedded : Bool) :
    Sourcer.ofConventions conventions c name embedded
      = Sourcer.ofConventions conventions c' name embedded := by
  rw [Sourcer.ofConventions, Sourcer.ofConventions, ← h.model]
  cases hfacet : c.model.findFacet? name with
  | none => rfl
  | some facet =>
    obtain rfl : facet.name = name := Model.name_of_findFacet? hfacet
    cases facet with
    | entitySet other => exact h.hostQuery?_eq hname
    | singleton other => exact h.hostRow?_eq hname

end QueryContext.AgreeOutside

/-- A chain has the same answer to two questions that all its handlers answer in the same way. -/
theorem HandlerChain.firstAnswer?_congr {α β : Type} (chain : HandlerChain α)
    {ask ask' : α → Option β} (h : ∀ x ∈ chain.toList, ask x = ask' x) :
    chain.firstAnswer? ask = chain.firstAnswer? ask' := by
  rw [firstAnswer?, firstAnswer?]
  -- the hypothesis is about all handlers, and the induction needs it for the rest of them
  revert h
  induction chain.toList with
  | nil => exact fun _ => rfl
  | cons x rest ih =>
    intro h
    obtain ⟨hfirst, hrest⟩ := List.forall_mem_cons.1 h
    rw [List.findSome?_cons, List.findSome?_cons, hfirst, ih hrest]

namespace Pipeline

variable {p : Pipeline} {c c' : QueryContext} {conventions : ConventionCatalog}
  {facets : List String}

/-- A sourcer of a store looks at the model and the mappers only. -/
theorem ofStore_congr (hmodel : c.model = c'.model) (hmappers : c.mappers = c'.mappers)
    (database : String) (collections : List String) :
    Sourcer.ofStore database collections c = Sourcer.ofStore database collections c' := by
  funext name embedded
  rw [Sourcer.ofStore, Sourcer.ofStore, hmodel, hmappers]

theorem denies_congr (hd : p.authorizers.toList = [.deny facets]) (hmodel : c.model = c'.model)
    (node : Query) : p.denies c node = p.denies c' node := by
  rw [Bool.eq_iff_iff, denies_iff_meansOneOf hd, denies_iff_meansOneOf hd, hmodel]

section Agree

variable (h : c.AgreeOutside facets conventions.hostType c') {name : String}
  (hname : ¬ c.model.IsListedFacet facets name)

include h hname

/-- Stubs that are not listed have the same expansions, under the same stack. -/
theorem expansion?_congr (hx : p.ExpandsByConvention conventions) (expanding : List String) :
    p.expansion? c expanding name = p.expansion? c' expanding name := by
  rw [expansion?, expansion?]
  split
  · rfl
  · refine p.expanders.firstAnswer?_congr fun x hmem => ?_
    rw [hx x hmem, h.expand_eq hname]

/-- Stubs that are not listed get the same answers from the conventions, and from stores anyway. -/
theorem sourced?_congr (hs : p.SourcesByConvention conventions) (embedded : Bool) :
    p.sourced? c name embedded = p.sourced? c' name embedded := by
  refine p.sourcers.firstAnswer?_congr fun s hmem => ?_
  rw [sourcedBy?, sourcedBy?]
  rcases hs s hmem with rfl | ⟨database, collections, rfl⟩
  · rw [h.source_eq hname]
  · rw [ofStore_congr h.model h.mappers]

end Agree

/-- Two contexts with one model deny the same nodes, so only allowed ones can make a difference. -/
theorem composeNode_congr_of_allowed (hd : p.authorizers.toList = [.deny facets])
    (hmodel : c.model = c'.model) {expanding : List String} {embedded : Bool} {q : Query}
    (hallowed : p.denies c q = false → p.denies c' q = false →
      p.composeNode c expanding embedded q = p.composeNode c' expanding embedded q) :
    p.composeNode c expanding embedded q = p.composeNode c' expanding embedded q := by
  have hsame : p.denies c q = p.denies c' q := denies_congr hd hmodel q
  cases hdenies : p.denies c q with
  | true =>
    rw [hsame] at hdenies
    rw [composeNode_of_denies (hsame.trans hdenies), composeNode_of_denies hdenies, hmodel]
  | false => exact hallowed hdenies (hsame.symm.trans hdenies)

/-- A stub that is allowed does not name a listed facet. -/
theorem not_isListedFacet_of_allowed (hd : p.authorizers.toList = [.deny facets]) {name : String}
    (hallowed : p.denies c (.stub name) = false) : ¬ c.model.IsListedFacet facets name := by
  rw [← Model.meansOneOf_stub_iff, ← denies_iff_meansOneOf hd, hallowed]
  exact Bool.false_ne_true

/-- Composition agrees whatever is under expansion and whether or not other nodes stand above. -/
theorem composeNode_congr (hd : p.authorizers.toList = [.deny facets])
    (hx : p.ExpandsByConvention conventions) (hs : p.SourcesByConvention conventions)
    (h : c.AgreeOutside facets conventions.hostType c') (expanding : List String)
    (embedded : Bool) (q : Query) :
    p.composeNode c expanding embedded q = p.composeNode c' expanding embedded q := by
  induction expanding, q using visit_induction p c generalizing embedded with
  | source expanding s =>
    refine composeNode_congr_of_allowed hd h.model fun hleft hright => ?_
    rw [composeNode_source s hleft, composeNode_source s hright]
  | below expanding q input hinput ih =>
    refine composeNode_congr_of_allowed hd h.model fun hleft hright => ?_
    rw [composeNode_of_input hinput hleft, composeNode_of_input hinput hright, ih true]
  | expansion expanding name expanded hname ih =>
    refine composeNode_congr_of_allowed hd h.model fun hleft hright => ?_
    -- the stub is allowed, so the contexts have the same query behind it
    have hname' : p.expansion? c' expanding name = some expanded := by
      rw [← expansion?_congr h (not_isListedFacet_of_allowed hd hleft) hx, hname]
    rw [composeNode_stub_of_some hname hleft, composeNode_stub_of_some hname' hright, ih embedded]
  | stop expanding name hname =>
    refine composeNode_congr_of_allowed hd h.model fun hleft hright => ?_
    have hunlisted := not_isListedFacet_of_allowed hd hleft
    have hname' : p.expansion? c' expanding name = none := by
      rw [← expansion?_congr h hunlisted hx, hname]
    rw [composeNode_stub_of_none hname hleft, composeNode_stub_of_none hname' hright,
      sourced?_congr h hunlisted hs]

/-- **What may not be read has no influence**: in contexts that agree outside of the denied facets,
the conventions and the sourcers of stores compose every query with the same result, be it a query
or an error. -/
theorem compose_congr (hd : p.authorizers.toList = [.deny facets])
    (hx : p.ExpandsByConvention conventions) (hs : p.SourcesByConvention conventions)
    (h : c.AgreeOutside facets conventions.hostType c') (q : Query) :
    p.compose c q = p.compose c' q :=
  composeNode_congr hd hx hs h [] false q

/-- The conventions of two entity sets, where `Staff` is denied and a store has `People`. -/
def confinedPipeline : Pipeline :=
  withConventions
    { authorizers := { handlers := [.deny ["Staff"]] }
      sourcers := { handlers := [.ofStore "db" ["People"]] } }
    pairConventions

/-- The host has a projection of `People` behind itself, and some query behind `Staff`. The request
is served by an instance of another type, which has that query behind `People`. -/
def confinedContext (staff : Query) : QueryContext :=
  { pairContext [("People", .project (.stub "People") ["Id"]), ("Staff", staff)] with
    mappers := MapperChain.withConventions {} pairConventions
    host := some (.ofValues ["Other"] (.ofList [("People", .queryable staff)])) }

theorem agreeOutside_confinedContext (staff staff' : Query) :
    (confinedContext staff).AgreeOutside ["Staff"] pairConventions.hostType
      (confinedContext staff') where
  model := rfl
  mappers := rfl
  statics name hname := by
    have hne : name ≠ "Staff" := by
      rintro rfl
      have hfacet : (pairModel.findFacet? "Staff").isSome := by decide
      exact hname ⟨List.mem_singleton_self _, hfacet⟩
    simp only [confinedContext, pairContext, NameMap.ofList, List.map_cons, List.map_nil,
      List.foldl_cons, List.foldl_nil, NameMap.get?_insert_of_ne _ _ hne]
  instances := by
    have hother : ∀ staff, ¬ (confinedContext staff).HasInstanceOf pairConventions.hostType := by
      rintro staff ⟨host, ⟨⟩, hinstance⟩
      have hlineage : ["Other"].contains "Api" = false := by decide
      exact Bool.false_ne_true (hlineage.symm.trans hinstance)
    exact .inl ⟨hother staff, hother staff'⟩

/-- What stands behind `Staff` has no influence on a query of `People`, which the host expands and
the store then opens. -/
theorem compose_congr_confined :
    let c := confinedContext (.source (.constant "Person" []))
    let c' := confinedContext (.stub "People")
    confinedPipeline.authorizers.toList = [.deny ["Staff"]] ∧
      confinedPipeline.ExpandsByConvention pairConventions ∧
      confinedPipeline.SourcesByConvention pairConventions ∧
      c.AgreeOutside ["Staff"] pairConventions.hostType c' ∧
      confinedPipeline.compose c (.stub "People")
        = .ok {
            query := .project (.source (.openCollection "db" "People" "Person")) ["Id"]
            changed := true } ∧
      confinedPipeline.compose c (.stub "People") =
        confinedPipeline.compose c' (.stub "People") := by
  have hx : confinedPipeline.ExpandsByConvention pairConventions :=
    fun x hx => List.mem_singleton.1 hx
  have hs : confinedPipeline.SourcesByConvention pairConventions := by
    intro s hs
    rcases List.mem_pair.1 hs with rfl | rfl
    · exact .inr ⟨"db", ["People"], rfl⟩
    · exact .inl rfl
  have hagree := agreeOutside_confinedContext (.source (.constant "Person" [])) (.stub "People")
  exact ⟨rfl, hx, hs, hagree, by cbv, compose_congr rfl hx hs hagree (.stub "People")⟩

end Pipeline

end FacetModel
