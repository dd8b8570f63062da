import FacetModel.DeclaredType
import FacetModel.NameMap
import FacetModel.Query

/-!
# Declarations of a host

A host application declares its types: *host types*, whose members become the facets and the
operations of a model, *structural types*, which are the entities and complex values a model may
contain, and *enum types*. It may also register types, facets and keys ahead of the conventions,
give the values of its properties, and seed a document store.
-/

namespace FacetModel

/-- Who can see a member. -/
inductive Visibility where
  | everyone
  | restricted
deriving DecidableEq, Repr, Inhabited

/-- A property of a host type. -/
structure PropertyDeclaration where
  name : String
  type : DeclaredType
  visibility : Visibility := .everyone
  /-- Whether its value can be read. -/
  readable : Bool := true
  isStatic : Bool := false
deriving DecidableEq, Repr, Inhabited

/-- A parameter of a method. -/
structure ParameterDeclaration where
  name : String
  type : DeclaredType
deriving DecidableEq, Repr, Inhabited

/-- What exposes a method as an operation of the model. -/
structure OperationMarker where
  /-- The name of the operation, if it is not that of the method. -/
  name : Option String := none
  namespaceName : Option String := none
  isBound : Bool := false
  hasSideEffects : Bool := false
  isComposable : Bool := false
  /-- The entity set that the returned entities come from. -/
  entitySet : Option String := none
deriving DecidableEq, Repr, Inhabited

/-- A method of a host type. -/
structure MethodDeclaration where
  name : String
  visibility : Visibility := .everyone
  isStatic : Bool := false
  parameters : List ParameterDeclaration := []
  returns : DeclaredType := .void
  operation : Option OperationMarker := none
deriving DecidableEq, Repr, Inhabited

/-- A host type. -/
structure HostType where
  name : String
  namespaceName : String
  base : Option String := none
  properties : List PropertyDeclaration := []
  methods : List MethodDeclaration := []
deriving DecidableEq, Repr, Inhabited

/-- Whether a structural type has an identity of its own. -/
inductive StructuralKind where
  | entity
  | complex
deriving DecidableEq, Repr, Inhabited

/-- A property of a structural type. -/
structure StructuralProperty where
  name : String
  type : DeclaredType
  /-- Whether navigation leads to a singleton and not into an entity set. -/
  singletonTarget : Bool := false
deriving DecidableEq, Repr, Inhabited

/-- A structural type. -/
structure StructuralType where
  name : String
  namespaceName : String
  kind : StructuralKind := .entity
  base : Option String := none
  keys : List String := []
  properties : List StructuralProperty := []
deriving DecidableEq, Repr, Inhabited

/-- An enum type. -/
structure EnumType where
  name : String
  namespaceName : String
  members : List String := []
deriving DecidableEq, Repr, Inhabited

/-- A facet that the host registers. -/
structure FacetRegistration where
  name : String
  typeName : String
deriving DecidableEq, Repr, Inhabited

/-- What the host registers ahead of the conventions. -/
structure ModelRegistration where
  types : List String := []
  entitySets : List FacetRegistration := []
  singletons : List FacetRegistration := []
  /-- Further key properties by entity type. -/
  keys : NameMap (List String) := .empty
deriving DecidableEq, Repr, Inhabited

/-- The documents that a store starts with. -/
structure StoreDefinition where
  database : String
  collections : NameMap (List Json) := .empty
deriving Inhabited

/-- The value of a host property. -/
inductive HostValue where
  /-- A query behind an entity set. -/
  | queryable (query : Query)
  /-- Any other value, such as that of a singleton. -/
  | object (value : Json)
deriving Inhabited

/-- All that a host declares. -/
structure HostCatalog where
  name : Option String := none
  hostTypes : List HostType := []
  structuralTypes : List StructuralType := []
  enumTypes : List EnumType := []
  registration : ModelRegistration := {}
  /-- The values of host properties by name. -/
  hostValues : NameMap HostValue := .empty
  documentStore : Option StoreDefinition := none
deriving Inhabited

end FacetModel
