import FacetModel.Registry

/-!
# Models

A model is what a service offers: its structural and enum types, a container of facets, which are
entity sets and singletons, operations, and the bindings that tell into which facet a navigation
property leads. `Model.findNavigation?` and `Model.keyProperties` look along the base types of a
type, nearest first. Nothing keeps a model from having base types that lead in a circle, and nothing
keeps such a walk (`Model.walk`) from going round on it for ever: then there is no result.
-/

namespace FacetModel

/-- A property with values of its own. -/
structure ModelProperty where
  name : String
  type : DeclaredType
deriving DecidableEq, Repr, Inhabited

/-- A property that leads to entities. -/
structure NavigationProperty where
  name : String
  /-- The type of the entities. -/
  targetType : String
  isCollection : Bool
  /-- Whether it leads to a singleton and not into an entity set. -/
  singletonTarget : Bool
deriving DecidableEq, Repr, Inhabited

/-- A structural type of a model. -/
structure ModelType where
  name : String
  namespaceName : String
  kind : StructuralKind
  baseType : Option String
  keys : List String
  properties : List ModelProperty
  navigationProperties : List NavigationProperty
deriving DecidableEq, Repr, Inhabited

namespace ModelType

/-- The name of a type with its namespace. -/
def fullName (t : ModelType) : String := t.namespaceName ++ "." ++ t.name

/-- The navigation property of a name that a type declares. -/
def navigation? (t : ModelType) (property : String) : Option NavigationProperty :=
  t.navigationProperties.find? (·.name == property)

/-- The keys that a type has of its own. -/
def ownKeys? (t : ModelType) : Option (List String) :=
  if t.keys.isEmpty then none else some t.keys

end ModelType

/-- Where a facet comes from. -/
inductive FacetOrigin where
  /-- A static host property. -/
  | staticProperty
  /-- A host property of an instance. -/
  | instanceProperty
  /-- A registration. -/
  | registered
deriving DecidableEq, Repr, Inhabited

/-- A facet with any number of entities. -/
structure EntitySet where
  name : String
  elementType : String
  origin : FacetOrigin
deriving DecidableEq, Repr, Inhabited

/-- A facet with one entity. -/
structure SingletonFacet where
  name : String
  typeName : String
  origin : FacetOrigin
deriving DecidableEq, Repr, Inhabited

/-- A facet by its kind and name. -/
inductive FacetRef where
  | entitySet (name : String)
  | singleton (name : String)
deriving DecidableEq, Repr, Inhabited

namespace FacetRef

/-- The name of a facet. -/
def name : FacetRef → String
  | .entitySet name => name
  | .singleton name => name

/-- A facet as messages call it. -/
def text : FacetRef → String
  | .entitySet name => "entity set `" ++ name ++ "`"
  | .singleton name => "singleton `" ++ name ++ "`"

end FacetRef

/-- The facet into which a navigation property leads from another facet. -/
structure NavigationBinding where
  source : FacetRef
  /-- The type that declares the property. -/
  declaringType : String
  property : String
  target : FacetRef
deriving DecidableEq, Repr, Inhabited

/-- Whether an operation changes something. -/
inductive OperationKind where
  | function
  | action
deriving DecidableEq, Repr, Inhabited

/-- What an operation is called on. -/
inductive OperationBinding where
  | unbound
  | entity (typeName : String)
  | entityCollection (typeName : String)
deriving DecidableEq, Repr, Inhabited

/-- A parameter of an operation. -/
structure OperationParameter where
  name : String
  /-- The type of an element for a collection, else the declared type. -/
  type : DeclaredType
  isCollection : Bool
deriving DecidableEq, Repr, Inhabited

/-- What an operation returns. -/
inductive ReturnShape where
  | single (type : DeclaredType)
  | collection (type : DeclaredType)
  | entity (entityType entitySet : String)
  | entityCollection (entityType entitySet : String)
deriving DecidableEq, Repr, Inhabited

/-- An operation of a model. -/
structure Operation where
  name : String
  namespaceName : String
  kind : OperationKind
  binding : OperationBinding
  isComposable : Bool
  parameters : List OperationParameter
  /-- Nothing for an operation without result, or with entities of no known entity set. -/
  returnShape : Option ReturnShape
deriving DecidableEq, Repr, Inhabited

/-- A model. -/
structure Model where
  namespaceName : String
  containerName : String
  types : List ModelType := []
  enumTypes : List EnumType := []
  entitySets : List EntitySet := []
  singletons : List SingletonFacet := []
  operations : List Operation := []
  bindings : List NavigationBinding := []
deriving DecidableEq, Repr, Inhabited

namespace Model

/-- The model without elements. -/
def empty (namespaceName containerName : String) : Model := { namespaceName, containerName }

/-- Whether a model has no types, facets and operations. -/
def isEmpty (m : Model) : Bool :=
  m.types.isEmpty && m.enumTypes.isEmpty && m.entitySets.isEmpty && m.singletons.isEmpty
    && m.operations.isEmpty

/-- The first structural type of a name. -/
def findType? (m : Model) (name : String) : Option ModelType := m.types.find? (·.name == name)

/-- The first enum type of a name. -/
def findEnum? (m : Model) (name : String) : Option EnumType := m.enumTypes.find? (·.name == name)

/-- The first entity set of a name. -/
def findEntitySet? (m : Model) (name : String) : Option EntitySet :=
  m.entitySets.find? (·.name == name)

/-- The first singleton of a name. -/
def findSingleton? (m : Model) (name : String) : Option SingletonFacet :=
  m.singletons.find? (·.name == name)

/-- The operations of a name. -/
def findOperations (m : Model) (name : String) : List Operation :=
  m.operations.filter (·.name == name)

/-- The facet of a name, an entity set before a singleton. -/
def findFacet? (m : Model) (name : String) : Option FacetRef :=
  if (m.findEntitySet? name).isSome then some (.entitySet name)
  else if (m.findSingleton? name).isSome then some (.singleton name)
  else none

/-- The element type of an entity set or the type of a singleton. -/
def facetType? (m : Model) : FacetRef → Option String
  | .entitySet name => (m.findEntitySet? name).map (·.elementType)
  | .singleton name => (m.findSingleton? name).map (·.typeName)

/-- The names of all facets, entity sets first. -/
def facetNames (m : Model) : List String :=
  m.entitySets.map (·.name) ++ m.singletons.map (·.name)

/-- The bindings from one facet. -/
def bindingsFor (m : Model) (source : FacetRef) : List NavigationBinding :=
  m.bindings.filter fun b => b.source = source

/-! ### Inheritance -/

/-- The base type that the model has for a type. -/
def baseOf? (m : Model) (t : ModelType) : Option ModelType := t.baseType.bind m.findType?

/-- What is found on a type or the nearest of its base types, if at most so many types have to be
looked at. The walk takes no note of the types that it has met. -/
def climb? {α : Type} (m : Model) (found : ModelType → Option α) :
    Nat → Option ModelType → Option (Option α)
  | _, none => some none
  | 0, some _ => none
  | steps + 1, some t =>
    match found t with
    | some a => some (some a)
    | none => m.climb? found steps (m.baseOf? t)

/-- What a walk from a type finds, if it ends. A walk that has looked at as many types as the model
has comes back to a type that it has looked at before, and goes round for ever. -/
def walk {α : Type} (m : Model) (found : ModelType → Option α) (typeName : String) :
    Option (Option α) :=
  m.climb? found m.types.length (m.findType? typeName)

/-- The walk from a type for the navigation property of a name, if it ends. -/
def navigationWalk (m : Model) (typeName property : String) : Option (Option NavigationProperty) :=
  m.walk (·.navigation? property) typeName

/-- The walk from a type for keys, if it ends; where no type has any, these are none. -/
def keysWalk (m : Model) (typeName : String) : Option (List String) :=
  (m.walk ModelType.ownKeys? typeName).map (·.getD [])

/-- The navigation property of a name on a type or the nearest of its base types. -/
def findNavigation? (m : Model) (typeName property : String) : Option NavigationProperty :=
  (m.navigationWalk typeName property).join

/-- The key properties of a type: those of the nearest type along the base types that has any. -/
def keyProperties (m : Model) (typeName : String) : List String :=
  (m.keysWalk typeName).getD []

end Model

end FacetModel
