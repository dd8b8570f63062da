import FacetModel.Catalog.Declaration
import FacetModel.Query.Encoding

/-!
# Host catalogs as documents

Each declaration is a record of a host catalog; `toJson` writes all its fields, and `read` reads
it from a document of any notation. A host type, a structural type or an enum type without
namespace has the namespace `Default`, members are public and readable unless they say otherwise,
and methods return nothing unless they say otherwise.
-/

namespace FacetModel

/-- The namespace of a type that names none. -/
def defaultNamespace : String := "Default"

/-- The items of a list in JSON. -/
def Json.ofList {α : Type} (f : α → Json) (l : List α) : Json := .list (l.map f)

/-- A value in JSON, or null where there is none. -/
def Json.ofMaybe {α : Type} (f : α → Json) : Option α → Json
  | some a => f a
  | none => .null

/-- A map in JSON. -/
def Json.ofMap {α : Type} (f : α → Json) (m : NameMap α) : Json :=
  .object (m.entries.map fun e => (e.1, f e.2))

/-- A document read as a map, in which the last value of a name counts. -/
def Tree.readMap {σ α : Type} [Script σ] (read : Tree σ → Reading α) (t : Tree σ) :
    Reading (NameMap α) := do
  let members ← t.readMembers
  let entries ← members.mapM fun m => do return (m.1, ← read m.2)
  return .ofList entries

/-! ### Writing -/

namespace Visibility

/-- The name of a visibility. -/
def name : Visibility → String
  | everyone => "public"
  | restricted => "non_public"

/-- The visibilities by name. -/
def choices : List (String × Visibility) := [everyone, restricted].map fun v => (v.name, v)

end Visibility

namespace StructuralKind

/-- The name of a kind. -/
def name : StructuralKind → String
  | entity => "entity"
  | complex => "complex"

/-- The kinds by name. -/
def choices : List (String × StructuralKind) := [entity, complex].map fun k => (k.name, k)

end StructuralKind

/-- A type as its canonical spelling. -/
def DeclaredType.toJson (t : DeclaredType) : Json := .str t.text

/-- A property in JSON. -/
def PropertyDeclaration.toJson (p : PropertyDeclaration) : Json :=
  .record [("name", .str p.name), ("type", p.type.toJson), ("visibility", .str p.visibility.name),
    ("readable", .bool p.readable), ("static", .bool p.isStatic)]

/-- A parameter in JSON. -/
def ParameterDeclaration.toJson (p : ParameterDeclaration) : Json :=
  .record [("name", .str p.name), ("type", p.type.toJson)]

/-- A marker in JSON. -/
def OperationMarker.toJson (m : OperationMarker) : Json :=
  .record [("name", .ofOption m.name), ("namespace", .ofOption m.namespaceName),
    ("is_bound", .bool m.isBound), ("has_side_effects", .bool m.hasSideEffects),
    ("is_composable", .bool m.isComposable), ("entity_set", .ofOption m.entitySet)]

/-- A method in JSON. -/
def MethodDeclaration.toJson (m : MethodDeclaration) : Json :=
  .record [("name", .str m.name), ("visibility", .str m.visibility.name),
    ("static", .bool m.isStatic),
    ("parameters", Json.ofList ParameterDeclaration.toJson m.parameters),
    ("returns", m.returns.toJson), ("operation", Json.ofMaybe OperationMarker.toJson m.operation)]

/-- A host type in JSON. -/
def HostType.toJson (t : HostType) : Json :=
  .record [("name", .str t.name), ("namespace", .str t.namespaceName), ("base", .ofOption t.base),
    ("properties", Json.ofList PropertyDeclaration.toJson t.properties),
    ("methods", Json.ofList MethodDeclaration.toJson t.methods)]

/-- A property in JSON. -/
def StructuralProperty.toJson (p : StructuralProperty) : Json :=
  .record [("name", .str p.name), ("type", p.type.toJson),
    ("singleton_target", .bool p.singletonTarget)]

/-- A structural type in JSON. -/
def StructuralType.toJson (t : StructuralType) : Json :=
  .record [("name", .str t.name), ("namespace", .str t.namespaceName), ("kind", .str t.kind.name),
    ("base", .ofOption t.base), ("keys", .ofStrings t.keys),
    ("properties", Json.ofList StructuralProperty.toJson t.properties)]

/-- An enum type in JSON. -/
def EnumType.toJson (t : EnumType) : Json :=
  .record [("name", .str t.name), ("namespace", .str t.namespaceName),
    ("members", .ofStrings t.members)]

/-- A registered facet in JSON. -/
def FacetRegistration.toJson (f : FacetRegistration) : Json :=
  .record [("name", .str f.name), ("type", .str f.typeName)]

/-- A registration in JSON. -/
def ModelRegistration.toJson (r : ModelRegistration) : Json :=
  .record [("types", .ofStrings r.types),
    ("entity_sets", Json.ofList FacetRegistration.toJson r.entitySets),
    ("singletons", Json.ofList FacetRegistration.toJson r.singletons),
    ("keys", Json.ofMap Json.ofStrings r.keys)]

/-- The documents of a store in JSON. -/
def StoreDefinition.toJson (d : StoreDefinition) : Json :=
  .record [("database", .str d.database), ("collections", Json.ofMap Tree.list d.collections)]

/-- A host value in JSON. -/
def HostValue.toJson : HostValue → Json
  | .queryable query => .record [("queryable", query.toJson)]
  | .object value => .record [("object", value)]

/-- A host catalog in JSON. -/
def HostCatalog.toJson (c : HostCatalog) : Json :=
  .record [("name", .ofOption c.name), ("host_types", Json.ofList HostType.toJson c.hostTypes),
    ("structural_types", Json.ofList StructuralType.toJson c.structuralTypes),
    ("enum_types", Json.ofList EnumType.toJson c.enumTypes), ("model", c.registration.toJson),
    ("host_values", Json.ofMap HostValue.toJson c.hostValues),
    ("document_store", Json.ofMaybe StoreDefinition.toJson c.documentStore)]

/-! ### Reading -/

variable {σ : Type} [Script σ]

open FacetModel.Tree in
/-- A property read from a record. -/
def PropertyDeclaration.read (t : Tree σ) : Reading PropertyDeclaration := do
  let fields ← t.readFields ["name", "type", "visibility", "readable", "static"]
  let name ← fields.required "name" readText
  let type ← fields.required "type" readType
  let visibility ← fields.optional "visibility" (readChoice Visibility.choices) .everyone
  let readable ← fields.optional "readable" readFlag true
  let isStatic ← fields.optional "static" readFlag false
  return { name, type, visibility, readable, isStatic }

open FacetModel.Tree in
/-- A parameter read from a record. -/
def ParameterDeclaration.read (t : Tree σ) : Reading ParameterDeclaration := do
  let fields ← t.readFields ["name", "type"]
  let name ← fields.required "name" readText
  let type ← fields.required "type" readType
  return { name, type }

open FacetModel.Tree in
/-- A marker read from a record. -/
def OperationMarker.read (t : Tree σ) : Reading OperationMarker := do
  let fields ← t.readFields
    ["name", "namespace", "is_bound", "has_side_effects", "is_composable", "entity_set"]
  let name ← fields.optional "name" (readOption readText) none
  let namespaceName ← fields.optional "namespace" (readOption readText) none
  let isBound ← fields.optional "is_bound" readFlag false
  let hasSideEffects ← fields.optional "has_side_effects" readFlag false
  let isComposable ← fields.optional "is_composable" readFlag false
  let entitySet ← fields.optional "entity_set" (readOption readText) none
  return { name, namespaceName, isBound, hasSideEffects, isComposable, entitySet }

open FacetModel.Tree in
/-- A method read from a record. -/
def MethodDeclaration.read (t : Tree σ) : Reading MethodDeclaration := do
  let fields ← t.readFields
    ["name", "visibility", "static", "parameters", "returns", "operation"]
  let name ← fields.required "name" readText
  let visibility ← fields.optional "visibility" (readChoice Visibility.choices) .everyone
  let isStatic ← fields.optional "static" readFlag false
  let parameters ← fields.optional "parameters" (readList ParameterDeclaration.read) []
  let returns ← fields.optional "returns" readType .void
  let operation ← fields.optional "operation" (readOption OperationMarker.read) none
  return { name, visibility, isStatic, parameters, returns, operation }

open FacetModel.Tree in
/-- A host type read from a record. -/
def HostType.read (t : Tree σ) : Reading HostType := do
  let fields ← t.readFields ["name", "namespace", "base", "properties", "methods"]
  let name ← fields.required "name" readText
  let namespaceName ← fields.optional "namespace" readText defaultNamespace
  let base ← fields.optional "base" (readOption readText) none
  let properties ← fields.optional "properties" (readList PropertyDeclaration.read) []
  let methods ← fields.optional "methods" (readList MethodDeclaration.read) []
  return { name, namespaceName, base, properties, methods }

open FacetModel.Tree in
/-- A property read from a record. -/
def StructuralProperty.read (t : Tree σ) : Reading StructuralProperty := do
  let fields ← t.readFields ["name", "type", "singleton_target"]
  let name ← fields.required "name" readText
  let type ← fields.required "type" readType
  let singletonTarget ← fields.optional "singleton_target" readFlag false
  return { name, type, singletonTarget }

open FacetModel.Tree in
/-- A structural type read from a record. -/
def StructuralType.read (t : Tree σ) : Reading StructuralType := do
  let fields ← t.readFields ["name", "namespace", "kind", "base", "keys", "properties"]
  let name ← fields.required "name" readText
  let namespaceName ← fields.optional "namespace" readText defaultNamespace
  let kind ← fields.optional "kind" (readChoice StructuralKind.choices) .entity
  let base ← fields.optional "base" (readOption readText) none
  let keys ← fields.optional "keys" (readList readText) []
  let properties ← fields.optional "properties" (readList StructuralProperty.read) []
  return { name, namespaceName, kind, base, keys, properties }

open FacetModel.Tree in
/-- An enum type read from a record. -/
def EnumType.read (t : Tree σ) : Reading EnumType := do
  let fields ← t.readFields ["name", "namespace", "members"]
  let name ← fields.required "name" readText
  let namespaceName ← fields.optional "namespace" readText defaultNamespace
  let members ← fields.optional "members" (readList readText) []
  return { name, namespaceName, members }

open FacetModel.Tree in
/-- A registered facet read from a record. -/
def FacetRegistration.read (t : Tree σ) : Reading FacetRegistration := do
  let fields ← t.readFields ["name", "type"]
  let name ← fields.required "name" readText
  let typeName ← fields.required "type" readText
  return { name, typeName }

open FacetModel.Tree in
/-- A registration read from a record. -/
def ModelRegistration.read (t : Tree σ) : Reading ModelRegistration := do
  let fields ← t.readFields ["types", "entity_sets", "singletons", "keys"]
  let types ← fields.optional "types" (readList readText) []
  let entitySets ← fields.optional "entity_sets" (readList FacetRegistration.read) []
  let singletons ← fields.optional "singletons" (readList FacetRegistration.read) []
  let keys ← fields.optional "keys" (readMap (readList readText)) .empty
  return { types, entitySets, singletons, keys }

open FacetModel.Tree in
/-- The documents of a store read from a record. -/
def StoreDefinition.read (t : Tree σ) : Reading StoreDefinition := do
  let fields ← t.readFields ["database", "collections"]
  let database ← fields.required "database" readText
  let collections ← fields.optional "collections" (readMap (readList readJson)) .empty
  return { database, collections }

/-- A host value read from an alternative. -/
def HostValue.read (t : Tree σ) : Reading HostValue := do
  let (name, content) ← t.readAlternative
  match name, content with
  | "queryable", some content => return .queryable (← Query.read content)
  | "object", some content => return .object (← content.readJson)
  | name, _ => throw (.unknownAlternative name)

open FacetModel.Tree in
/-- A host catalog read from a record. -/
def HostCatalog.read (t : Tree σ) : Reading HostCatalog := do
  let fields ← t.readFields
    ["name", "host_types", "structural_types", "enum_types", "model", "host_values",
      "document_store"]
  let name ← fields.optional "name" (readOption readText) none
  let hostTypes ← fields.required "host_types" (readList HostType.read)
  let structuralTypes ← fields.optional "structural_types" (readList StructuralType.read) []
  let enumTypes ← fields.optional "enum_types" (readList EnumType.read) []
  let registration ← fields.optional "model" ModelRegistration.read {}
  let hostValues ← fields.optional "host_values" (readMap HostValue.read) .empty
  let documentStore ← fields.optional "document_store" (readOption StoreDefinition.read) none
  return { name, hostTypes, structuralTypes, enumTypes, registration, hostValues, documentStore }

end FacetModel
