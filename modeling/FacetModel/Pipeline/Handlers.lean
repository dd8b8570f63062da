import FacetModel.Pipeline.Context
import FacetModel.Pipeline.Reference

/-!
# Handlers of queries

Authorizers allow or deny nodes, expanders put queries in the place of stubs, and sourcers resolve
the stubs that are left. By convention, the value of a host property stands for its facet: a query
behind an entity set expands it, and any value of a singleton is a sequence of one row.
-/

namespace FacetModel

/-! ### Authorizers -/

/-- What allows or denies a node of a query, or declines to judge it. -/
abbrev Authorizer := QueryContext → Query → Option Bool

/-- The authorizer that denies some facets. -/
def Authorizer.deny (facets : List String) : Authorizer := fun c node =>
  match (ModelReference.classify c.model node).facetName? with
  | some facet => if facet ∈ facets then some false else none
  | none => none

/-! ### Expanders -/

/-- What puts queries in the place of some stubs. -/
structure Expander where
  /-- The names of the stubs that can have an expansion. -/
  names : List String
  /-- The expansion of a stub. -/
  answer : QueryContext → String → Option Query

/-- The expansion of a stub, which must be one of those that can have one. -/
def Expander.expand (e : Expander) (c : QueryContext) (name : String) : Option Query :=
  if name ∈ e.names then e.answer c name else none

/-- The expander that has a query for each name of a table. -/
def Expander.ofTable (table : NameMap Query) : Expander where
  names := table.names
  answer _ name := table.get? name

/-- The query that the host has behind an entity set. -/
def ConventionCatalog.hostQuery? (conventions : ConventionCatalog) (c : QueryContext)
    (entitySet : String) : Option Query :=
  match conventions.entitySetProperty? entitySet with
  | none => none
  | some property =>
    match c.readHostProperty conventions.hostType property.facet property.isStatic with
    | some (.queryable query) => some query
    | _ => none

/-- The expander of the entity sets that a host property stands behind. -/
def Expander.ofConventions (conventions : ConventionCatalog) : Expander where
  names := conventions.entitySets.map (·.facet)
  answer c name :=
    match c.model.findFacet? name with
    | some (.entitySet name) => conventions.hostQuery? c name
    | _ => none

/-! ### Sourcers -/

/-- What resolves a stub, which may stand below other nodes or alone. -/
abbrev Sourcer := QueryContext → String → Bool → Option Query

/-- The sourcer that has a query for each name of a table. -/
def Sourcer.ofTable (table : NameMap Query) : Sourcer := fun _ name _ => table.get? name

/-- The row that the host has for a singleton. -/
def ConventionCatalog.hostRow? (conventions : ConventionCatalog) (c : QueryContext)
    (singleton : String) : Option Query :=
  match conventions.singletonProperty? singleton with
  | none => none
  | some property =>
    match c.readHostProperty conventions.hostType property.facet property.isStatic with
    | some (.object value) => some (.source (.constant property.elementType [value]))
    | _ => none

/-- The sourcer of the facets that a host property stands behind. -/
def Sourcer.ofConventions (conventions : ConventionCatalog) : Sourcer := fun c name _ =>
  match c.model.findFacet? name with
  | some (.entitySet name) => conventions.hostQuery? c name
  | some (.singleton name) => conventions.hostRow? c name
  | none => none

/-- The sourcer of the entity sets that are collections of a store. It opens a collection with the
type that the mappers have for its name. -/
def Sourcer.ofStore (database : String) (collections : List String) : Sourcer := fun c name _ =>
  match c.model.findFacet? name with
  | some (.entitySet name) =>
    if name ∈ collections then
      (c.mappers.resolve name).map fun type => .source (.openCollection database name type)
    else none
  | _ => none

/-- The sourcer of the collections that a store starts with. -/
def Sourcer.ofDefinition (d : StoreDefinition) : Sourcer := .ofStore d.database d.collections.names

end FacetModel
