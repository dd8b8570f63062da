import FacetModel.Model.Encoding
import FacetModel.Proofs.Catalog.Encoding

/-!
# Reading back models

A model is read back from its document in JSON if its types are canonical (`Model.read_toJson`): the
types of structural properties, of parameters, and of results that are no entities. All other parts
are texts, truth values, and alternatives that are told apart by their names.
-/

namespace FacetModel

/-! ### The types of a model -/

/-- The types of the properties of a structural type. -/
def ModelType.declaredTypes (t : ModelType) : List DeclaredType := t.properties.map (·.type)

/-- The type of a result, unless that is an entity or a collection of entities. -/
def ReturnShape.declaredTypes : ReturnShape → List DeclaredType
  | .single type => [type]
  | .collection type => [type]
  | .entity _ _ => []
  | .entityCollection _ _ => []

/-- The types an operation speaks of. -/
def Operation.declaredTypes (o : Operation) : List DeclaredType :=
  o.parameters.map (·.type) ++ o.returnShape.toList.flatMap ReturnShape.declaredTypes

/-- The types a model speaks of. -/
def Model.declaredTypes (m : Model) : List DeclaredType :=
  m.types.flatMap ModelType.declaredTypes ++ m.operations.flatMap Operation.declaredTypes

/-! ### Structural types and enum types -/

/-- The type of a property is the only field that is read by parsing. -/
theorem ModelProperty.read_toJson {p : ModelProperty} (h : p.type.Canonical) :
    read p.toDocument.toJson = .ok p := by
  simp [toDocument, read, Tree.readFields_object, Tree.readType_text h]

/-- A navigation property holds plain names, and is read back whatever these are. -/
theorem NavigationProperty.read_toJson (p : NavigationProperty) :
    read p.toDocument.toJson = .ok p := by
  simp [toDocument, read, Tree.readFields_object]

/-- A type is read back if the types of its properties are canonical: its properties and navigation
properties are read back one by one, and its other fields are texts. -/
theorem ModelType.read_toJson {t : ModelType} (h : ∀ ty ∈ t.declaredTypes, ty.Canonical) :
    read t.toDocument.toJson = .ok t := by
  have hproperties : Tree.readList ModelProperty.read
      (.list (t.properties.map fun p => p.toDocument.toJson)) = .ok t.properties :=
    Tree.readList_map fun p hp => p.read_toJson (h _ (List.mem_map_of_mem hp))
  have hnavigation : Tree.readList NavigationProperty.read
      (.list (t.navigationProperties.map fun p => p.toDocument.toJson))
        = .ok t.navigationProperties := Tree.readList_map fun p _ => p.read_toJson
  simp [toDocument, read, Tree.readFields_object, StructuralKind.read_name, Function.comp_def,
    hproperties, hnavigation]

theorem EnumType.readModel_toJson (t : EnumType) : readModel t.toDocument.toJson = .ok t := by
  simp [toDocument, readModel, Tree.readFields_object]

/-! ### Facets and bindings -/

theorem FacetOrigin.read_name (o : FacetOrigin) :
    Tree.readChoice choices (Json.str o.name) = .ok o := by
  cases o <;> rfl

theorem EntitySet.read_toJson (s : EntitySet) : read s.toDocument.toJson = .ok s := by
  simp [toDocument, read, Tree.readFields_object, FacetOrigin.read_name]

theorem SingletonFacet.read_toJson (s : SingletonFacet) : read s.toDocument.toJson = .ok s := by
  simp [toDocument, read, Tree.readFields_object, FacetOrigin.read_name]

/-- Both forms of a facet reference are told apart by the name of the alternative. -/
theorem FacetRef.read_toJson (f : FacetRef) : read f.toDocument.toJson = .ok f := by
  cases f <;> simp [toDocument, read]

theorem NavigationBinding.read_toJson (b : NavigationBinding) :
    read b.toDocument.toJson = .ok b := by
  simp [toDocument, read, Tree.readFields_object, FacetRef.read_toJson]

/-! ### Operations -/

theorem OperationKind.read_name (k : OperationKind) :
    Tree.readChoice choices (Json.str k.name) = .ok k := by
  cases k <;> rfl

/-- An unbound operation is written as a bare text and the two bound forms as alternatives; none is
taken for another. -/
theorem OperationBinding.read_toJson (b : OperationBinding) :
    read b.toDocument.toJson = .ok b := by
  cases b with
  | unbound => rfl
  | entity name => simp [toDocument, read]
  | entityCollection name => simp [toDocument, read]

theorem OperationParameter.read_toJson {p : OperationParameter} (h : p.type.Canonical) :
    read p.toDocument.toJson = .ok p := by
  simp [toDocument, read, Tree.readFields_object, Tree.readType_text h]

/-- A return shape is read back if the types that it names are canonical. Only its first two forms
name any; the forms of entities carry names. -/
theorem ReturnShape.read_toJson {s : ReturnShape} (h : ∀ ty ∈ s.declaredTypes, ty.Canonical) :
    read s.toDocument.toJson = .ok s := by
  cases s with
  | single type => simp [toDocument, read, Tree.readType_text (List.forall_mem_singleton.1 h)]
  | collection type => simp [toDocument, read, Tree.readType_text (List.forall_mem_singleton.1 h)]
  | entity entityType entitySet =>
    simp [toDocument, read, readEntity, Tree.readContent, Tree.checkFields_of_nodup]
  | entityCollection entityType entitySet =>
    simp [toDocument, read, readEntity, Tree.readContent, Tree.checkFields_of_nodup]

/-- No return shape is written as null, so a missing shape is not taken for one that is there. -/
theorem ReturnShape.isNull_toJson (s : ReturnShape) : s.toDocument.toJson.isNull = false := by
  cases s <;> rfl

/-- An operation is read back if the types of its parameters and of its return shape are canonical.
-/
theorem Operation.read_toJson {o : Operation} (h : ∀ ty ∈ o.declaredTypes, ty.Canonical) :
    read o.toDocument.toJson = .ok o := by
  obtain ⟨hparameterTypes, hshapeTypes⟩ := List.forall_mem_append.1 h
  have hparameters : Tree.readList OperationParameter.read
      (.list (o.parameters.map fun p => p.toDocument.toJson)) = .ok o.parameters :=
    Tree.readList_map fun p hp => p.read_toJson (hparameterTypes _ (List.mem_map_of_mem hp))
  obtain ⟨name, namespaceName, kind, binding, isComposable, parameters, returnShape⟩ := o
  cases returnShape with
  | none =>
    simp [toDocument, read, Tree.readFields_object, OperationKind.read_name,
      OperationBinding.read_toJson, Function.comp_def, hparameters]
  | some shape =>
    have hshape : ReturnShape.read shape.toDocument.toJson = .ok shape :=
      shape.read_toJson fun ty hty => hshapeTypes ty (by simpa using hty)
    simp [toDocument, read, Tree.readFields_object, Tree.readOption, shape.isNull_toJson, hshape,
      OperationKind.read_name, OperationBinding.read_toJson, Function.comp_def, hparameters]

/-! ### Models -/

namespace Model

/-- A model with canonical types is read back. -/
theorem read_toJson {m : Model} (h : ∀ ty ∈ m.declaredTypes, ty.Canonical) :
    read m.toJson = .ok m := by
  obtain ⟨htypes, hoperations⟩ := List.forall_mem_append.1 h
  -- each list is read back by its elements, of which only types and operations have types to parse
  have htypesRead : Tree.readList ModelType.read
      (.list (m.types.map fun t => t.toDocument.toJson)) = .ok m.types :=
    Tree.readList_map fun t ht => t.read_toJson fun ty hty =>
      htypes ty (List.mem_flatMap.2 ⟨t, ht, hty⟩)
  have henums : Tree.readList EnumType.readModel
      (.list (m.enumTypes.map fun t => t.toDocument.toJson)) = .ok m.enumTypes :=
    Tree.readList_map fun t _ => t.readModel_toJson
  have hsets : Tree.readList EntitySet.read
      (.list (m.entitySets.map fun s => s.toDocument.toJson)) = .ok m.entitySets :=
    Tree.readList_map fun s _ => s.read_toJson
  have hsingletons : Tree.readList SingletonFacet.read
      (.list (m.singletons.map fun s => s.toDocument.toJson)) = .ok m.singletons :=
    Tree.readList_map fun s _ => s.read_toJson
  have hoperationsRead : Tree.readList Operation.read
      (.list (m.operations.map fun o => o.toDocument.toJson)) = .ok m.operations :=
    Tree.readList_map fun o ho => o.read_toJson fun ty hty =>
      hoperations ty (List.mem_flatMap.2 ⟨o, ho, hty⟩)
  have hbindings : Tree.readList NavigationBinding.read
      (.list (m.bindings.map fun b => b.toDocument.toJson)) = .ok m.bindings :=
    Tree.readList_map fun b _ => b.read_toJson
  simp [toJson, toDocument, read, Tree.readFields_object, Function.comp_def, htypesRead, henums,
    hsets, hsingletons, hoperationsRead, hbindings]

end Model

end FacetModel
