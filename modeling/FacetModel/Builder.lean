import FacetModel.Model

/-!
# Models under construction

A `Builder` gathers the elements of a model over the types of a registry. A structural type comes
with everything it reaches: its base type and the types that its properties refer to
(`Builder.register`). Facets are added only for types that are registered, and under names that
no facet has.

The operations that may refuse give no builder when they do; a refusal changes nothing.
-/

namespace FacetModel

/-- The names of types that the properties of a type refer to, directly or as elements. -/
def StructuralType.references (t : StructuralType) : List String :=
  t.properties.filterMap fun p => p.type.elementOrSelf.referenceName?

/-- A structural type that is registered in a model under construction. -/
structure PendingType where
  namespaceName : String
  kind : StructuralKind
  baseType : Option String
  keys : List String
deriving DecidableEq, Repr, Inhabited

/-- A model under construction. -/
structure Builder where
  /-- The declared types. -/
  registry : Registry
  namespaceName : String
  containerName : String
  /-- The registered structural types by name. -/
  types : NameMap PendingType := .empty
  /-- The registered enum types by name. -/
  enumTypes : NameMap EnumType := .empty
  entitySets : List EntitySet := []
  singletons : List SingletonFacet := []
  operations : List Operation := []
  bindings : List NavigationBinding := []
deriving DecidableEq, Repr, Inhabited

namespace Builder

/-! ### Types -/

/-- Whether a structural type is registered. -/
def isStructuralType (b : Builder) (name : String) : Bool := b.types.contains name

/-- Whether an entity type is registered. -/
def isEntityType (b : Builder) (name : String) : Bool :=
  (b.types.get? name).any (·.kind == .entity)

/-- The base type of a registered type. -/
def baseTypeOf? (b : Builder) (name : String) : Option String :=
  (b.types.get? name).bind (·.baseType)

/-- The builder with an enum type of the registry; one that is registered stays as it is. -/
def addEnumType? (b : Builder) (name : String) : Option Builder :=
  if b.enumTypes.contains name then some b
  else (b.registry.enum? name).map fun t => { b with enumTypes := b.enumTypes.insert name t }

/-- The enum types among some names, added one after the other. -/
def addEnumTypes (b : Builder) (names : List String) : Builder :=
  names.foldl (fun b name => (b.addEnumType? name).getD b) b

/-- Whether a structural type is declared or registered. -/
def knows (b : Builder) (name : String) : Bool :=
  (b.registry.structural? name).isSome || b.isStructuralType name

/-- The builder with one more structural type and the enum types it refers to. Its base type is
kept if that can be registered as well. -/
def insertType (b : Builder) (name : String) (t : StructuralType) : Builder :=
  let pending : PendingType :=
    { namespaceName := t.namespaceName, kind := t.kind, baseType := t.base.filter b.knows,
      keys := t.keys }
  { b with types := b.types.insert name pending }.addEnumTypes t.references

/-- The structural types next to a type: its base type, and the types its properties refer to
that are no enum types. -/
def neighbours (b : Builder) (t : StructuralType) : List String :=
  t.base.toList ++ t.references.filter fun name => (b.registry.enum? name).isNone

/-- How many declared structural types are not registered. -/
def unregistered (b : Builder) : Nat := b.registry.structuralTypes.unseen b.types.names

theorem addEnumTypes_types (b : Builder) (names : List String) :
    (b.addEnumTypes names).types = b.types ∧ (b.addEnumTypes names).registry = b.registry := by
  induction names generalizing b with
  | nil => exact ⟨rfl, rfl⟩
  | cons name rest ih =>
    have h : ((b.addEnumType? name).getD b).types = b.types
        ∧ ((b.addEnumType? name).getD b).registry = b.registry := by
      unfold addEnumType?
      split
      · exact ⟨rfl, rfl⟩
      · cases b.registry.enum? name <;> exact ⟨rfl, rfl⟩
    have := ih ((b.addEnumType? name).getD b)
    exact ⟨this.1.trans h.1, this.2.trans h.2⟩

theorem unregistered_insertType_lt {b : Builder} {name : String} {t : StructuralType}
    (hb : b.isStructuralType name = false) (ht : b.registry.structural? name = some t) :
    (b.insertType name t).unregistered < b.unregistered := by
  have hnone : b.types.get? name = none := by
    simpa [isStructuralType, NameMap.contains] using hb
  unfold unregistered insertType
  rw [(addEnumTypes_types _ _).1, (addEnumTypes_types _ _).2]
  refine length_filter_lt (a := name) (fun a _ ha => ?_) (NameMap.mem_names ht) ?_ ?_
  · simp only [decide_eq_true_eq, NameMap.mem_names_iff, NameMap.get?_insert] at ha ⊢
    intro ⟨v, hv⟩
    exact ha (by split <;> simp [hv])
  · simp [NameMap.mem_names_iff, hnone]
  · simp [NameMap.mem_names_iff]

/-- Registers the declared structural types among some names with all they reach. -/
def register (b : Builder) : List String → Builder
  | [] => b
  | name :: rest =>
    if _hb : b.isStructuralType name then register b rest
    else
      match _ht : b.registry.structural? name with
      | none => register b rest
      | some t => register (b.insertType name t) (b.neighbours t ++ rest)
termination_by names => (b.unregistered, names.length)
decreasing_by
  · exact Prod.Lex.right _ (by simp)
  · exact Prod.Lex.right _ (by simp)
  · exact Prod.Lex.left _ _ (unregistered_insertType_lt (by simpa using _hb) _ht)

/-- The builder with a structural type and all it reaches, if the type is declared. -/
def addStructuralType? (b : Builder) (name : String) : Option Builder :=
  if b.knows name then some (b.register [name]) else none

/-- The builder with one more key of an entity type; a key it has stays where it is. -/
def addKey? (b : Builder) (typeName key : String) : Option Builder :=
  match b.types.get? typeName with
  | some t =>
    if t.kind = .entity then
      if key ∈ t.keys then some b
      else some { b with types := b.types.insert typeName { t with keys := t.keys ++ [key] } }
    else none
  | none => none

/-! ### Facets -/

/-- Whether a facet has a name. -/
def hasFacet (b : Builder) (name : String) : Bool :=
  b.entitySets.any (·.name == name) || b.singletons.any (·.name == name)

/-- The builder with one more entity set. -/
def addEntitySet? (b : Builder) (name elementType : String) (origin : FacetOrigin) :
    Option Builder :=
  if b.hasFacet name then none
  else if b.isStructuralType elementType then
    some { b with entitySets := b.entitySets ++ [{ name, elementType, origin }] }
  else none

/-- The builder with one more singleton. -/
def addSingleton? (b : Builder) (name typeName : String) (origin : FacetOrigin) :
    Option Builder :=
  if b.hasFacet name then none
  else if b.isStructuralType typeName then
    some { b with singletons := b.singletons ++ [{ name, typeName, origin }] }
  else none

/-- The first entity set of a name. -/
def findEntitySet? (b : Builder) (name : String) : Option EntitySet :=
  b.entitySets.find? (·.name == name)

/-! ### Inheritance -/

/-- The base types along a type, without the names met before. -/
def ancestorsFrom (b : Builder) (met : List String) (name : String) : List String :=
  match _h : b.baseTypeOf? name with
  | none => []
  | some base =>
    if _hm : base ∈ met then [] else base :: ancestorsFrom b (base :: met) base
termination_by (b.types.unseen met, if b.isStructuralType name then 1 else 0)
decreasing_by
  cases hbase : b.types.get? base with
  | some t => exact Prod.Lex.left _ _ (NameMap.unseen_cons_lt hbase _hm)
  | none =>
    have hname : b.isStructuralType name = true := by
      unfold baseTypeOf? at _h
      unfold isStructuralType NameMap.contains
      cases hn : b.types.get? name with
      | none => simp [hn] at _h
      | some t => rfl
    have hno : b.isStructuralType base = false := by
      simp [isStructuralType, NameMap.contains, hbase]
    have heq : b.types.unseen (base :: met) = b.types.unseen met := by
      unfold NameMap.unseen
      congr 1
      refine List.filter_congr fun a ha => ?_
      have : a ≠ base := by
        rintro rfl
        obtain ⟨v, hv⟩ := (NameMap.mem_names_iff _ _).1 ha
        simp [hv] at hbase
      simp [this]
    rw [heq, hname, hno]
    exact Prod.Lex.right _ (by simp)

/-- The base types of a type, nearest first. -/
def ancestors (b : Builder) (name : String) : List String := b.ancestorsFrom [name] name

/-- The registered types with a base type, by name. -/
def childrenOf (b : Builder) (base : String) : List String :=
  (b.types.entries.filter fun e => e.2.baseType == some base).map (·.1)

/-- The children of a type that are not found yet. -/
def newChildren (b : Builder) (root parent : String) (found : List String) : List String :=
  (b.childrenOf parent).filter fun child => child ≠ root ∧ child ∉ found

theorem childrenOf_sublist (b : Builder) (base : String) :
    (b.childrenOf base).Sublist b.types.names := List.filter_sublist.map _

theorem unseen_newChildren (b : Builder) (root parent : String) (found : List String) :
    b.types.unseen (found ++ b.newChildren root parent found)
      + (b.newChildren root parent found).length ≤ b.types.unseen found := by
  have hsub : (b.newChildren root parent found).Sublist (b.types.names.filter (· ∉ found)) := by
    have := (b.childrenOf_sublist parent).filter fun child => decide (child ∉ found)
    refine List.Sublist.trans ?_ this
    unfold newChildren
    have heq : (b.childrenOf parent).filter (fun child => decide (child ≠ root ∧ child ∉ found))
        = ((b.childrenOf parent).filter (· ∉ found)).filter (· ≠ root) := by
      rw [List.filter_filter]
      exact List.filter_congr fun a _ => by simp
    rw [heq]
    exact List.filter_sublist
  have hnodup : (b.types.names.filter (· ∉ found)).Nodup :=
    b.types.nodup_names.sublist List.filter_sublist
  have hlen := length_filter_add_sublist hsub hnodup
  have hle : b.types.unseen (found ++ b.newChildren root parent found)
      ≤ ((b.types.names.filter (· ∉ found)).filter (· ∉ b.newChildren root parent found)).length := by
    unfold NameMap.unseen
    rw [List.filter_filter]
    exact length_filter_le fun a _ ha => by simpa [and_comm] using ha
  unfold NameMap.unseen at hle ⊢
  omega

/-- The types found below a queue of types, with those found before. -/
def derivedFrom (b : Builder) (root : String) (found : List String) : List String → List String
  | [] => found
  | parent :: queue =>
    let children := b.newChildren root parent found
    derivedFrom b root (found ++ children) (queue ++ children)
termination_by queue => b.types.unseen found + queue.length
decreasing_by
  have := b.unseen_newChildren root parent found
  simp only [List.length_append, List.length_cons]
  omega

/-- The types below a type, level by level and by name under each parent. -/
def derivedTypes (b : Builder) (name : String) : List String := b.derivedFrom name [] [name]

/-! ### Properties and keys -/

/-- The declaration of a registered type. -/
def definition? (b : Builder) (name : String) : Option StructuralType :=
  if b.isStructuralType name then b.registry.structural? name else none

/-- The properties that a registered type declares. -/
def declaredProperties (b : Builder) (typeName : String) : List StructuralProperty :=
  ((b.definition? typeName).map (·.properties)).getD []

/-- The navigation property that a declared property is, if it leads to a registered entity
type. -/
def navigationOf? (b : Builder) (p : StructuralProperty) : Option NavigationProperty :=
  match p.type.elementOrSelf.referenceName? with
  | some target =>
    if b.isEntityType target then
      some { name := p.name, targetType := target, isCollection := p.type.sequenceElement?.isSome,
             singletonTarget := p.singletonTarget }
    else none
  | none => none

/-- The navigation properties that a registered type declares. -/
def navigationProperties (b : Builder) (typeName : String) : List NavigationProperty :=
  (b.declaredProperties typeName).filterMap b.navigationOf?

/-- Whether a declared property has values of its own: primitive, enum or complex ones. -/
def isStructural (b : Builder) (p : StructuralProperty) : Bool :=
  match p.type.elementOrSelf with
  | .primitive _ => true
  | .reference name =>
    b.enumTypes.contains name || (b.isStructuralType name && !b.isEntityType name)
  | _ => false

/-- The properties with values of their own that a registered type declares. -/
def structuralProperties (b : Builder) (typeName : String) : List ModelProperty :=
  ((b.declaredProperties typeName).filter b.isStructural).map fun p =>
    { name := p.name, type := p.type }

/-- Whether two names are equal apart from the case of their ASCII letters. -/
def equalIgnoringCase (a b : String) : Bool :=
  a.toList.map Char.toLower == b.toList.map Char.toLower

/-- Whether a property is a key by its name: `Id`, or the name of its type followed by `Id`. -/
def isConventionKey (typeName : String) (p : StructuralProperty) : Bool :=
  (match p.type with
    | .primitive _ => true
    | _ => false)
  && (equalIgnoringCase p.name "Id" || equalIgnoringCase p.name (typeName ++ "Id"))

/-- The keys of a registered type. An entity type without keys and without base type has the first
property that is a key by its name. -/
def keysOf (b : Builder) (name : String) (t : PendingType) : List String :=
  if t.kind ≠ .entity ∨ t.keys ≠ [] ∨ t.baseType.isSome then t.keys
  else (((b.declaredProperties name).find? (isConventionKey name)).map (·.name)).toList

/-! ### Operations, bindings, namespaces -/

/-- The builder with one more operation. -/
def addOperation (b : Builder) (o : Operation) : Builder :=
  { b with operations := b.operations ++ [o] }

/-- Whether a navigation property is bound on a facet. -/
def hasBinding (b : Builder) (source : FacetRef) (declaringType property : String) : Bool :=
  b.bindings.any fun n =>
    n.source == source && n.declaringType == declaringType && n.property == property

/-- The builder with one more binding, if the property is not bound on the facet. -/
def addBinding? (b : Builder) (n : NavigationBinding) : Option Builder :=
  if b.hasBinding n.source n.declaringType n.property then none
  else some { b with bindings := b.bindings ++ [n] }

/-- The builder with all its types in one namespace. -/
def overrideNamespace (b : Builder) (namespaceName : String) : Builder :=
  { b with
    namespaceName
    types := b.types.map fun t => { t with namespaceName }
    enumTypes := b.enumTypes.map fun t => { t with namespaceName } }

/-! ### The result -/

/-- The descriptor of a registered type. -/
def describe (b : Builder) (name : String) (t : PendingType) : ModelType :=
  { name
    namespaceName := t.namespaceName
    kind := t.kind
    baseType := t.baseType
    keys := b.keysOf name t
    properties := b.structuralProperties name
    navigationProperties := b.navigationProperties name }

/-- The model. Types are listed by name, all else in the order in which it was added. -/
def build (b : Builder) : Model :=
  { namespaceName := b.namespaceName
    containerName := b.containerName
    types := b.types.entries.map fun e => b.describe e.1 e.2
    enumTypes := b.enumTypes.values
    entitySets := b.entitySets
    singletons := b.singletons
    operations := b.operations
    bindings := b.bindings }

end Builder

end FacetModel
