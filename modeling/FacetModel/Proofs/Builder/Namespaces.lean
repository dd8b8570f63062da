import FacetModel.Proofs.Builder.Hierarchy
import FacetModel.Proofs.Builder.Steps

/-!
# Namespaces under construction

Two things are done about namespaces in a construction. A builder has a namespace of its own, and
all that reads it are operations without one: what is asked of a builder is answered alike in every
namespace (`Builder.meet?_withNamespace`), and so are the conventions (`adoptFacets_withNamespace`).
In the end the namespaces of types may be replaced. They have no influence on what is bound and
built, which then is the same model in another namespace (`Builder.build_bind_moved`).
-/

namespace FacetModel

theorem NameMap.values_map {α β : Type} (f : α → β) (m : NameMap α) :
    (m.map f).values = m.values.map f := by
  rw [values, values, map, List.map_map, List.map_map]
  rfl

/-- An operation in the namespace that its marker gives, or else in another one. -/
def Operation.moved (namespaceName : String) (s : ScannedOperation) (o : Operation) : Operation :=
  { o with namespaceName := s.namespaceName.getD namespaceName }

namespace Builder

/-! ### The namespace of a builder -/

/-- The builder with another namespace of its own. -/
def withNamespace (b : Builder) (namespaceName : String) : Builder := { b with namespaceName }

/-- An enum type is added with its own namespace. -/
theorem addEnumType?_withNamespace (b : Builder) (namespaceName name : String) :
    (b.withNamespace namespaceName).addEnumType? name
      = (b.addEnumType? name).map (·.withNamespace namespaceName) := by
  rw [addEnumType?, addEnumType?, withNamespace]
  dsimp only
  split
  · rfl
  · rw [Option.map_map]
    rfl

/-- So are some of them, one after the other. -/
theorem addEnumTypes_withNamespace (b : Builder) (namespaceName : String) (names : List String) :
    (b.withNamespace namespaceName).addEnumTypes names
      = (b.addEnumTypes names).withNamespace namespaceName := by
  rw [addEnumTypes, addEnumTypes]
  refine List.foldl_hom (fun b : Builder => b.withNamespace namespaceName) fun b name => ?_
  rw [addEnumType?_withNamespace, Option.getD_map]

theorem insertType_withNamespace (b : Builder) (namespaceName name : String) (t : StructuralType) :
    (b.withNamespace namespaceName).insertType name t
      = (b.insertType name t).withNamespace namespaceName := by
  rw [insertType, insertType, ← addEnumTypes_withNamespace]
  rfl

/-- Registration goes the same way whatever the namespace of the builder is. -/
theorem register_withNamespace (b : Builder) (namespaceName : String) (names : List String) :
    (b.withNamespace namespaceName).register names
      = (b.register names).withNamespace namespaceName := by
  -- what is declared and what is registered decides how a name is treated, in both builders
  exact register_comm (·.withNamespace namespaceName) (P := fun _ => True) (fun _ => rfl)
    (fun _ _ => rfl)
    (fun b name t _ _ _ => ⟨trivial, b.insertType_withNamespace namespaceName name t⟩) trivial names

/-- **Requests are met alike in every namespace.** -/
theorem meet?_withNamespace (b : Builder) (namespaceName : String) (request : BuilderRequest) :
    (b.withNamespace namespaceName).meet? request
      = (b.meet? request).map (·.withNamespace namespaceName) := by
  cases request with
  | structuralType name =>
    change (if b.knows name then _ else _) = (if b.knows name then _ else _ : Option Builder).map _
    split
    · exact congrArg some (b.register_withNamespace namespaceName [name])
    · rfl
  | enumType name => exact b.addEnumType?_withNamespace namespaceName name
  | entitySet name elementType origin =>
    rw [meet?, meet?, addEntitySet?, addEntitySet?, withNamespace]
    change (if b.hasFacet name then _ else if b.isStructuralType elementType then _ else _) = _
    split
    · rfl
    · split <;> rfl
  | singleton name typeName origin =>
    rw [meet?, meet?, addSingleton?, addSingleton?, withNamespace]
    change (if b.hasFacet name then _ else if b.isStructuralType typeName then _ else _) = _
    split
    · rfl
    · split <;> rfl
  | key typeName key =>
    rw [meet?, meet?, addKey?, addKey?, withNamespace]
    dsimp only
    split
    · split
      · split <;> rfl
      · rfl
    · rfl

/-- A request makes the same of a builder in every namespace. -/
theorem meet_withNamespace (b : Builder) (namespaceName : String) (request : BuilderRequest) :
    (b.withNamespace namespaceName).meet request
      = (b.meet request).withNamespace namespaceName := by
  rw [meet, meet?_withNamespace, Option.getD_map, meet]

/-- So do some of them. -/
theorem meetAll_withNamespace (b : Builder) (namespaceName : String)
    (requests : List BuilderRequest) :
    (b.withNamespace namespaceName).meetAll requests
      = (b.meetAll requests).withNamespace namespaceName := by
  rw [meetAll, meetAll]
  exact List.foldl_hom (fun b : Builder => b.withNamespace namespaceName) fun b request =>
    b.meet_withNamespace namespaceName request

/-- A host property gets the same facet in every namespace. -/
theorem adoptFacet_withNamespace (b : Builder) (namespaceName : String) (p : ScannedProperty) :
    (b.withNamespace namespaceName).adoptFacet p
      = (b.adoptFacet p).withNamespace namespaceName := by
  rw [adoptFacet, adoptFacet]
  cases p.candidate with
  | none => rfl
  | some candidate =>
    cases candidate with
    | entitySet type => exact b.meet_withNamespace namespaceName (.entitySet p.name type _)
    | singleton type => exact b.meet_withNamespace namespaceName (.singleton p.name type _)

/-- **Host properties are taken in alike in every namespace.** -/
theorem adoptFacets_withNamespace (b : Builder) (namespaceName host : String)
    (scanned : List ScannedProperty) :
    (b.withNamespace namespaceName).adoptFacets host scanned
      = ((b.adoptFacets host scanned).1.withNamespace namespaceName,
          (b.adoptFacets host scanned).2) := by
  rw [adoptFacets, adoptFacets]
  generalize ({ hostType := host } : ConventionCatalog) = c
  induction scanned generalizing b c with
  | nil => rfl
  | cons p rest ih =>
    rw [List.foldl_cons, List.foldl_cons]
    dsimp only
    rw [adoptFacet_withNamespace]
    exact ih (b.adoptFacet p) _

/-- Only here the namespace shows: it is that of operations whose markers give none. -/
theorem operationOf?_withNamespace (b : Builder) (namespaceName : String) (s : ScannedOperation) :
    (b.withNamespace namespaceName).operationOf? s
      = (b.operationOf? s).map (Operation.moved namespaceName s) := by
  rw [operationOf?, operationOf?]
  split
  · cases s.parameters with
    | nil => rfl
    | cons p rest =>
      dsimp only
      rw [Option.map_map]
      rfl
  · rfl

/-! ### The namespaces of types -/

/-- The builder with all its types in one namespace, and with other operations. -/
def moved (b : Builder) (namespaceName : String) (operations : List Operation) : Builder :=
  { b.overrideNamespace namespaceName with operations }

variable (b : Builder) (namespaceName : String) (operations : List Operation)

theorem get?_types_moved (name : String) :
    (b.moved namespaceName operations).types.get? name
      = (b.types.get? name).map fun t => { t with namespaceName } :=
  NameMap.get?_map _ _ _

/-- The same types are registered after a move, with the same kinds and base types. -/
theorem isStructuralType_moved (name : String) :
    (b.moved namespaceName operations).isStructuralType name = b.isStructuralType name :=
  (b.sameTypes_overrideNamespace namespaceName).isStructuralType name

theorem isEntityType_moved (name : String) :
    (b.moved namespaceName operations).isEntityType name = b.isEntityType name := by
  rw [isEntityType, get?_types_moved, Option.any_map]
  rfl

theorem baseTypeOf?_moved (name : String) :
    (b.moved namespaceName operations).baseTypeOf? name = b.baseTypeOf? name := by
  rw [baseTypeOf?, get?_types_moved, Option.bind_map]
  rfl

theorem contains_enumTypes_moved (name : String) :
    (b.moved namespaceName operations).enumTypes.contains name = b.enumTypes.contains name := by
  rw [NameMap.contains, moved, overrideNamespace, NameMap.get?_map, Option.isSome_map]
  rfl

/-- Ancestors are found by base types, which do not move. -/
theorem ancestorsFrom_moved (met : List String) (name : String) :
    (b.moved namespaceName operations).ancestorsFrom met name = b.ancestorsFrom met name := by
  induction met, name using ancestorsFrom.induct b with
  | case1 met name hnone =>
    have hnone' := (b.baseTypeOf?_moved namespaceName operations name).trans hnone
    rw [ancestorsFrom_of_none hnone, ancestorsFrom_of_none hnone']
  | case2 met name base hbase hmet =>
    have hbase' := (b.baseTypeOf?_moved namespaceName operations name).trans hbase
    rw [ancestorsFrom_of_some hbase, ancestorsFrom_of_some hbase', if_pos hmet, if_pos hmet]
  | case3 met name base hbase hmet ih =>
    have hbase' := (b.baseTypeOf?_moved namespaceName operations name).trans hbase
    rw [ancestorsFrom_of_some hbase, ancestorsFrom_of_some hbase', if_neg hmet, if_neg hmet, ih]

theorem childrenOf_moved (base : String) :
    (b.moved namespaceName operations).childrenOf base = b.childrenOf base := by
  rw [childrenOf, moved, overrideNamespace, NameMap.map]
  dsimp only
  rw [List.filter_map, List.map_map]
  rfl

/-- The search for derived types takes the same way after a move. -/
theorem derivedFrom_moved (root : String) (found queue : List String) :
    (b.moved namespaceName operations).derivedFrom root found queue
      = b.derivedFrom root found queue := by
  induction found, queue using derivedFrom.induct b root with
  | case1 found => rw [derivedFrom, derivedFrom]
  | case2 found parent queue children ih =>
    have hchildren : (b.moved namespaceName operations).newChildren root parent found
        = children := by
      rw [newChildren, childrenOf_moved]
      rfl
    rw [derivedFrom, derivedFrom, hchildren]
    exact ih

/-- Properties are declared in the registry, so they are the same. -/
theorem declaredProperties_moved (typeName : String) :
    (b.moved namespaceName operations).declaredProperties typeName
      = b.declaredProperties typeName := by
  rw [declaredProperties, definition?, isStructuralType_moved]
  rfl

/-- Which of them are navigation properties depends on what is registered. -/
theorem navigationProperties_moved (typeName : String) :
    (b.moved namespaceName operations).navigationProperties typeName
      = b.navigationProperties typeName := by
  rw [navigationProperties, declaredProperties_moved]
  refine congrArg (List.filterMap · _) (funext fun p => ?_)
  rw [navigationOf?]
  simp only [isEntityType_moved]
  rfl

/-- And so does which of them are structural. -/
theorem structuralProperties_moved (typeName : String) :
    (b.moved namespaceName operations).structuralProperties typeName
      = b.structuralProperties typeName := by
  rw [structuralProperties, declaredProperties_moved]
  refine congrArg (fun p => List.map _ (List.filter p _)) (funext fun p => ?_)
  rw [isStructural]
  simp only [isEntityType_moved, isStructuralType_moved, contains_enumTypes_moved]
  rfl

/-- A type is described alike but for its namespace. -/
theorem describe_moved (name : String) (t : PendingType) :
    (b.moved namespaceName operations).describe name { t with namespaceName }
      = { b.describe name t with namespaceName } := by
  rw [describe, structuralProperties_moved, navigationProperties_moved, keysOf,
    declaredProperties_moved]
  rfl

end Builder

/-- The model with all its types in one namespace, and with other operations. -/
def Model.moved (m : Model) (namespaceName : String) (operations : List Operation) : Model :=
  { m with
    namespaceName
    types := m.types.map fun t => { t with namespaceName }
    enumTypes := m.enumTypes.map fun t => { t with namespaceName }
    operations }

namespace Builder

variable (b : Builder) (namespaceName : String) (operations : List Operation)

/-- The model of a moved builder is the moved model. -/
theorem build_moved :
    (b.moved namespaceName operations).build = b.build.moved namespaceName operations := by
  have htypes : (b.moved namespaceName operations).types.entries.map
      (fun e => (b.moved namespaceName operations).describe e.1 e.2)
      = (b.types.entries.map fun e => b.describe e.1 e.2).map
        fun t => { t with namespaceName } := by
    rw [moved, overrideNamespace, NameMap.map]
    dsimp only
    rw [List.map_map, List.map_map]
    exact List.map_congr_left fun e _ => b.describe_moved namespaceName operations e.1 e.2
  have henums : (b.moved namespaceName operations).enumTypes.values
      = b.enumTypes.values.map fun t => { t with namespaceName } :=
    NameMap.values_map _ b.enumTypes
  rw [build, htypes, henums]
  rfl

/-- The crossings are found from types, facets and properties, so they are the same. -/
theorem crossings_moved :
    (b.moved namespaceName operations).crossings = b.crossings := by
  rw [crossings, crossings]
  simp only [relatedTypes, ancestors, derivedTypes, ancestorsFrom_moved, derivedFrom_moved,
    navigationProperties_moved]
  rfl

theorem addBinding?_moved (n : NavigationBinding) :
    (b.moved namespaceName operations).addBinding? n
      = (b.addBinding? n).map (·.moved namespaceName operations) := by
  change (if b.hasBinding n.source n.declaringType n.property then none else some _)
    = Option.map _ (if b.hasBinding n.source n.declaringType n.property then none else some _)
  split <;> rfl

/-- Binding a crossing looks at facets and at what is bound already. -/
theorem bindCrossing_moved (c : Crossing) :
    (b.moved namespaceName operations).bindCrossing c
      = (b.bindCrossing c).moved namespaceName operations := by
  have htargets : (b.moved namespaceName operations).targets c.navigation
      = b.targets c.navigation := rfl
  rw [bindCrossing, bindCrossing, htargets]
  split
  · rw [addBinding?_moved, Option.getD_map]
  · rfl

/-- **What is bound does not depend on namespaces.** -/
theorem bind_moved :
    (b.moved namespaceName operations).bind = b.bind.moved namespaceName operations := by
  -- all crossings are found before the first one is bound
  rw [bind, bind, crossings_moved]
  exact List.foldl_hom (fun b : Builder => b.moved namespaceName operations) fun b c =>
    b.bindCrossing_moved namespaceName operations c

end Builder

end FacetModel
