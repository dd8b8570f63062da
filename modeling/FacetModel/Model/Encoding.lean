import FacetModel.Catalog.Encoding
import FacetModel.Model

/-!
# Models as documents

Each part of a model is a record with all its fields. Facets, bindings of operations and results
are alternatives named for their kind.
-/

namespace FacetModel

/-! ### Writing -/

namespace FacetOrigin

/-- The name of an origin. -/
def name : FacetOrigin → String
  | staticProperty => "static"
  | instanceProperty => "instance"
  | registered => "registered"

/-- The origins by name. -/
def choices : List (String × FacetOrigin) :=
  [staticProperty, instanceProperty, registered].map fun o => (o.name, o)

end FacetOrigin

namespace OperationKind

/-- The name of a kind. -/
def name : OperationKind → String
  | function => "Function"
  | action => "Action"

/-- The kinds by name. -/
def choices : List (String × OperationKind) := [function, action].map fun k => (k.name, k)

end OperationKind

/-- A property as a document. -/
def ModelProperty.toDocument (p : ModelProperty) : Document :=
  .record [("name", .text p.name), ("type", .text p.type.text)]

/-- A navigation property as a document. -/
def NavigationProperty.toDocument (p : NavigationProperty) : Document :=
  .record [("name", .text p.name), ("target_type", .text p.targetType),
    ("is_collection", .flag p.isCollection), ("singleton_target", .flag p.singletonTarget)]

/-- A structural type as a document. -/
def ModelType.toDocument (t : ModelType) : Document :=
  .record [("name", .text t.name), ("namespace", .text t.namespaceName),
    ("kind", .text t.kind.name), ("base_type", .textOrNull t.baseType), ("keys", .texts t.keys),
    ("properties", .list (t.properties.map ModelProperty.toDocument)),
    ("navigation_properties",
      .list (t.navigationProperties.map NavigationProperty.toDocument))]

/-- An enum type as a document. -/
def EnumType.toDocument (t : EnumType) : Document :=
  .record [("name", .text t.name), ("namespace", .text t.namespaceName),
    ("members", .texts t.members)]

/-- An entity set as a document. -/
def EntitySet.toDocument (s : EntitySet) : Document :=
  .record [("name", .text s.name), ("element_type", .text s.elementType),
    ("origin", .text s.origin.name)]

/-- A singleton as a document. -/
def SingletonFacet.toDocument (s : SingletonFacet) : Document :=
  .record [("name", .text s.name), ("type_name", .text s.typeName),
    ("origin", .text s.origin.name)]

/-- A facet as a document. -/
def FacetRef.toDocument : FacetRef → Document
  | .entitySet name => .alternative "EntitySet" (.text name)
  | .singleton name => .alternative "Singleton" (.text name)

/-- A navigation binding as a document. -/
def NavigationBinding.toDocument (b : NavigationBinding) : Document :=
  .record [("source", b.source.toDocument), ("declaring_type", .text b.declaringType),
    ("navigation_property", .text b.property), ("target", b.target.toDocument)]

/-- What an operation is called on, as a document. -/
def OperationBinding.toDocument : OperationBinding → Document
  | .unbound => .text "Unbound"
  | .entity name => .alternative "Entity" (.text name)
  | .entityCollection name => .alternative "EntityCollection" (.text name)

/-- A parameter as a document. -/
def OperationParameter.toDocument (p : OperationParameter) : Document :=
  .record [("name", .text p.name), ("type", .text p.type.text),
    ("is_collection", .flag p.isCollection)]

/-- What an operation returns, as a document. -/
def ReturnShape.toDocument : ReturnShape → Document
  | .single type => .alternative "Single" (.text type.text)
  | .collection type => .alternative "Collection" (.text type.text)
  | .entity entityType entitySet =>
    .alternative "Entity"
      (.record [("entity_type", .text entityType), ("entity_set", .text entitySet)])
  | .entityCollection entityType entitySet =>
    .alternative "EntityCollection"
      (.record [("entity_type", .text entityType), ("entity_set", .text entitySet)])

/-- An operation as a document. -/
def Operation.toDocument (o : Operation) : Document :=
  .record [("name", .text o.name), ("namespace", .text o.namespaceName),
    ("kind", .text o.kind.name), ("binding", o.binding.toDocument),
    ("is_composable", .flag o.isComposable),
    ("parameters", .list (o.parameters.map OperationParameter.toDocument)),
    ("return_shape", match o.returnShape with
      | some shape => shape.toDocument
      | none => .null)]

namespace Model

/-- A model as a document. -/
def toDocument (m : Model) : Document :=
  .record [("namespace", .text m.namespaceName), ("container_name", .text m.containerName),
    ("types", .list (m.types.map ModelType.toDocument)),
    ("enum_types", .list (m.enumTypes.map EnumType.toDocument)),
    ("entity_sets", .list (m.entitySets.map EntitySet.toDocument)),
    ("singletons", .list (m.singletons.map SingletonFacet.toDocument)),
    ("operations", .list (m.operations.map Operation.toDocument)),
    ("navigation_bindings", .list (m.bindings.map NavigationBinding.toDocument))]

/-- A model in JSON. -/
def toJson (m : Model) : Json := m.toDocument.toJson

end Model

/-! ### Reading -/

variable {σ : Type} [Script σ]

open FacetModel.Tree in
/-- A property read from a record. -/
def ModelProperty.read (t : Tree σ) : Reading ModelProperty := do
  let fields ← t.readFields ["name", "type"]
  let name ← fields.required "name" readText
  let type ← fields.required "type" readType
  return { name, type }

open FacetModel.Tree in
/-- A navigation property read from a record. -/
def NavigationProperty.read (t : Tree σ) : Reading NavigationProperty := do
  let fields ← t.readFields ["name", "target_type", "is_collection", "singleton_target"]
  let name ← fields.required "name" readText
  let targetType ← fields.required "target_type" readText
  let isCollection ← fields.required "is_collection" readFlag
  let singletonTarget ← fields.required "singleton_target" readFlag
  return { name, targetType, isCollection, singletonTarget }

open FacetModel.Tree in
/-- A structural type read from a record. -/
def ModelType.read (t : Tree σ) : Reading ModelType := do
  let fields ← t.readFields
    ["name", "namespace", "kind", "base_type", "keys", "properties", "navigation_properties"]
  let name ← fields.required "name" readText
  let namespaceName ← fields.required "namespace" readText
  let kind ← fields.required "kind" (readChoice StructuralKind.choices)
  let baseType ← fields.optional "base_type" (readOption readText) none
  let keys ← fields.required "keys" (readList readText)
  let properties ← fields.required "properties" (readList ModelProperty.read)
  let navigationProperties ←
    fields.required "navigation_properties" (readList NavigationProperty.read)
  return { name, namespaceName, kind, baseType, keys, properties, navigationProperties }

open FacetModel.Tree in
/-- An enum type read from a record of a model, which names its namespace. -/
def EnumType.readModel (t : Tree σ) : Reading EnumType := do
  let fields ← t.readFields ["name", "namespace", "members"]
  let name ← fields.required "name" readText
  let namespaceName ← fields.required "namespace" readText
  let members ← fields.required "members" (readList readText)
  return { name, namespaceName, members }

open FacetModel.Tree in
/-- An entity set read from a record. -/
def EntitySet.read (t : Tree σ) : Reading EntitySet := do
  let fields ← t.readFields ["name", "element_type", "origin"]
  let name ← fields.required "name" readText
  let elementType ← fields.required "element_type" readText
  let origin ← fields.required "origin" (readChoice FacetOrigin.choices)
  return { name, elementType, origin }

open FacetModel.Tree in
/-- A singleton read from a record. -/
def SingletonFacet.read (t : Tree σ) : Reading SingletonFacet := do
  let fields ← t.readFields ["name", "type_name", "origin"]
  let name ← fields.required "name" readText
  let typeName ← fields.required "type_name" readText
  let origin ← fields.required "origin" (readChoice FacetOrigin.choices)
  return { name, typeName, origin }

/-- A facet read from an alternative. -/
def FacetRef.read (t : Tree σ) : Reading FacetRef := do
  let (name, content) ← t.readAlternative
  match name, content with
  | "EntitySet", some content => return .entitySet (← content.readText)
  | "Singleton", some content => return .singleton (← content.readText)
  | name, _ => throw (.unknownAlternative name)

open FacetModel.Tree in
/-- A navigation binding read from a record. -/
def NavigationBinding.read (t : Tree σ) : Reading NavigationBinding := do
  let fields ← t.readFields ["source", "declaring_type", "navigation_property", "target"]
  let source ← fields.required "source" FacetRef.read
  let declaringType ← fields.required "declaring_type" readText
  let property ← fields.required "navigation_property" readText
  let target ← fields.required "target" FacetRef.read
  return { source, declaringType, property, target }

/-- What an operation is called on, read from an alternative. -/
def OperationBinding.read (t : Tree σ) : Reading OperationBinding := do
  let (name, content) ← t.readAlternative
  match name, content with
  | "Unbound", none => return .unbound
  | "Unbound", some content =>
    if Script.givesNothing σ && content.isNull then return .unbound
    else throw (.wrongKind "nothing")
  | "Entity", some content => return .entity (← content.readText)
  | "EntityCollection", some content => return .entityCollection (← content.readText)
  | name, _ => throw (.unknownAlternative name)

open FacetModel.Tree in
/-- A parameter read from a record. -/
def OperationParameter.read (t : Tree σ) : Reading OperationParameter := do
  let fields ← t.readFields ["name", "type", "is_collection"]
  let name ← fields.required "name" readText
  let type ← fields.required "type" readType
  let isCollection ← fields.required "is_collection" readFlag
  return { name, type, isCollection }

open FacetModel.Tree in
/-- The entity type and the entity set of a result. -/
def ReturnShape.readEntity (t : Tree σ) : Reading (String × String) := do
  let fields ← t.readContent ["entity_type", "entity_set"]
  let entityType ← fields.required "entity_type" readText
  let entitySet ← fields.required "entity_set" readText
  return (entityType, entitySet)

/-- What an operation returns, read from an alternative. -/
def ReturnShape.read (t : Tree σ) : Reading ReturnShape := do
  let (name, content) ← t.readAlternative
  match name, content with
  | "Single", some content => return .single (← content.readType)
  | "Collection", some content => return .collection (← content.readType)
  | "Entity", some content =>
    let (entityType, entitySet) ← readEntity content
    return .entity entityType entitySet
  | "EntityCollection", some content =>
    let (entityType, entitySet) ← readEntity content
    return .entityCollection entityType entitySet
  | name, _ => throw (.unknownAlternative name)

open FacetModel.Tree in
/-- An operation read from a record. -/
def Operation.read (t : Tree σ) : Reading Operation := do
  let fields ← t.readFields
    ["name", "namespace", "kind", "binding", "is_composable", "parameters", "return_shape"]
  let name ← fields.required "name" readText
  let namespaceName ← fields.required "namespace" readText
  let kind ← fields.required "kind" (readChoice OperationKind.choices)
  let binding ← fields.required "binding" OperationBinding.read
  let isComposable ← fields.required "is_composable" readFlag
  let parameters ← fields.required "parameters" (readList OperationParameter.read)
  let returnShape ← fields.optional "return_shape" (readOption ReturnShape.read) none
  return { name, namespaceName, kind, binding, isComposable, parameters, returnShape }

open FacetModel.Tree in
/-- A model read from a record. -/
def Model.read (t : Tree σ) : Reading Model := do
  let fields ← t.readFields
    ["namespace", "container_name", "types", "enum_types", "entity_sets", "singletons",
      "operations", "navigation_bindings"]
  let namespaceName ← fields.required "namespace" readText
  let containerName ← fields.required "container_name" readText
  let types ← fields.required "types" (readList ModelType.read)
  let enumTypes ← fields.required "enum_types" (readList EnumType.readModel)
  let entitySets ← fields.required "entity_sets" (readList EntitySet.read)
  let singletons ← fields.required "singletons" (readList SingletonFacet.read)
  let operations ← fields.required "operations" (readList Operation.read)
  let bindings ← fields.required "navigation_bindings" (readList NavigationBinding.read)
  return ⟨namespaceName, containerName, types, enumTypes, entitySets, singletons, operations,
    bindings⟩

end FacetModel
