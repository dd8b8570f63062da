import FacetModel.Proofs.Builder.Binding
import FacetModel.Proofs.Model.References
import FacetModel.Proofs.Registry

/-!
# Built models

The model of a reachable builder is well-referenced, if the registry has unique names and the
bindings are those that `Builder.bind` finds (`Reachable.wellReferenced_bind`). Each reference of
the model is one that the builder checked against its registered types; so the first part reads the
types of a model off the registered ones.
-/

namespace FacetModel

namespace Builder

variable {b : Builder} {name : String}

/-! ### Types of the model -/

/-- The types of a model are the registered ones, each as it is described. -/
theorem mem_types_build {t : ModelType} :
    t ∈ b.build.types ↔ ∃ p, b.types.get? t.name = some p ∧ t = b.describe t.name p := by
  simp only [build, List.mem_map, Prod.exists, ← NameMap.get?_eq_some_iff]
  constructor
  · rintro ⟨name, p, hp, rfl⟩
    exact ⟨p, hp, rfl⟩
  · rintro ⟨p, hp, heq⟩
    exact ⟨t.name, p, hp, heq.symm⟩

theorem describe_mem_types_build {p : PendingType} (hp : b.types.get? name = some p) :
    b.describe name p ∈ b.build.types :=
  mem_types_build.2 ⟨p, hp, rfl⟩

theorem exists_type_of_isStructuralType (h : b.isStructuralType name = true) :
    ∃ t ∈ b.build.types, t.name = name := by
  obtain ⟨p, hp⟩ := isStructuralType_iff.1 h
  exact ⟨_, describe_mem_types_build hp, rfl⟩

theorem exists_type_of_isEntityType (h : b.isEntityType name = true) :
    ∃ t ∈ b.build.types, t.name = name ∧ t.kind = .entity := by
  obtain ⟨p, hp, hkind⟩ := (Option.any_eq_true _ _).1 h
  exact ⟨_, describe_mem_types_build hp, rfl, eq_of_beq hkind⟩

/-- A type that is registered and no entity type is a complex type. -/
theorem exists_type_of_not_isEntityType (h : b.isStructuralType name = true)
    (hentity : b.isEntityType name = false) :
    ∃ t ∈ b.build.types, t.name = name ∧ t.kind = .complex := by
  obtain ⟨p, hp⟩ := isStructuralType_iff.1 h
  refine ⟨_, describe_mem_types_build hp, rfl, ?_⟩
  rw [isEntityType, hp, Option.any_some, beq_eq_false_iff_ne] at hentity
  cases hkind : p.kind with
  | entity => exact absurd hkind hentity
  | complex => exact hkind

theorem map_name_types_build (b : Builder) : b.build.types.map (·.name) = b.types.names := by
  rw [build, List.map_map]
  rfl

/-- The types of a model have different names, as they are registered by name. -/
theorem nodup_map_name_types_build (b : Builder) : (b.build.types.map (·.name)).Nodup := by
  rw [map_name_types_build]
  exact b.types.nodup_names

/-- The enum types of a model have the names that they are registered under. -/
theorem map_name_enumTypes_build (h : b.TypesSound []) (hr : b.registry.NamesUnique) :
    b.build.enumTypes.map (·.name) = b.enumTypes.names := by
  rw [build, NameMap.values, NameMap.names, List.map_map]
  refine List.map_congr_left fun e he => ?_
  obtain ⟨d, hd, hname⟩ := h.enum e.1 e.2 ((b.enumTypes.get?_eq_some_iff _ _).2 he)
  exact hname.trans (hr.enums e.1 d hd)

/-- No name is that of two types: a structural type and an enum type are declared as such. -/
theorem nodup_names_build (h : b.TypesSound []) (hr : b.registry.NamesUnique) :
    (b.build.types.map (·.name) ++ b.build.enumTypes.map (·.name)).Nodup := by
  rw [map_name_types_build, map_name_enumTypes_build h hr]
  refine List.nodup_append.2 ⟨b.types.nodup_names, b.enumTypes.nodup_names, ?_⟩
  rintro name htype _ henum rfl
  obtain ⟨p, hp⟩ := (NameMap.mem_names_iff _ _).1 htype
  obtain ⟨e, he⟩ := (NameMap.mem_names_iff _ _).1 henum
  obtain ⟨t, ht, -⟩ := h.declared name p hp
  obtain ⟨d, hd, -⟩ := h.enum name e he
  cases (hr.structural_enum.eq_none ht).symm.trans hd

/-! ### Inheritance, facets, properties -/

theorem hasBase_build {base : String} (h : b.HasBase name base) : b.build.HasBase name base := by
  obtain ⟨p, hp, hbase⟩ := hasBase_iff.1 h
  exact ⟨_, describe_mem_types_build hp, rfl, hbase⟩

theorem isA_build {other : String} (h : b.IsA name other) : b.build.IsA name other :=
  Relation.ReflTransGen.mono (fun _ _ h => hasBase_build h) _ _ h

/-- Each facet is found in the model, with its type. -/
theorem facetType?_build (h : b.FacetsSound) {facet : FacetRef} {type : String}
    (hfacet : (facet, type) ∈ b.facets) : b.build.facetType? facet = some type := by
  rcases List.mem_append.1 hfacet with hset | hsingleton
  · obtain ⟨s, hs, heq⟩ := List.mem_map.1 hset
    cases heq
    exact Model.facetType?_entitySet (m := b.build) h.names hs
  · obtain ⟨s, hs, heq⟩ := List.mem_map.1 hsingleton
    cases heq
    exact Model.facetType?_singleton (m := b.build) h.names hs

/-- Navigation properties are declared by registered types. -/
theorem exists_type_of_mem_navigationProperties {n : NavigationProperty}
    (h : n ∈ b.navigationProperties name) :
    ∃ t ∈ b.build.types, t.name = name ∧ n ∈ t.navigationProperties := by
  cases hname : b.isStructuralType name with
  | true =>
    obtain ⟨p, hp⟩ := isStructuralType_iff.1 hname
    exact ⟨_, describe_mem_types_build hp, rfl, h⟩
  | false => simp [navigationProperties, declaredProperties, definition?, hname] at h

/-- A property is a navigation property only if its target is a registered entity type. -/
theorem isEntityType_of_navigationOf? {p : StructuralProperty} {n : NavigationProperty}
    (h : b.navigationOf? p = some n) : b.isEntityType n.targetType = true := by
  rw [navigationOf?] at h
  split at h
  · split at h
    · rename_i htarget
      cases h
      exact htarget
    · cases h
  · cases h

theorem exists_enumType_of_contains (h : b.TypesSound []) (hr : b.registry.NamesUnique)
    (henum : b.enumTypes.contains name = true) : ∃ e ∈ b.build.enumTypes, e.name = name := by
  rw [← List.mem_map (f := EnumType.name), map_name_enumTypes_build h hr, NameMap.mem_names_iff]
  exact Option.isSome_iff_exists.1 henum

/-- A property with values of its own that refers to a name refers to an enum type or to a complex
type. -/
theorem exists_type_of_isStructural (h : b.TypesSound []) (hr : b.registry.NamesUnique)
    {p : StructuralProperty} (hp : b.isStructural p = true)
    (hname : p.type.elementOrSelf.referenceName? = some name) :
    (∃ e ∈ b.build.enumTypes, e.name = name) ∨
      ∃ t ∈ b.build.types, t.name = name ∧ t.kind = .complex := by
  rw [isStructural] at hp
  split at hp
  · rename_i heq
    rw [heq] at hname
    cases hname
  · rename_i heq
    rw [heq] at hname
    cases hname
    rw [Bool.or_eq_true, Bool.and_eq_true, Bool.not_eq_true'] at hp
    exact hp.imp (exists_enumType_of_contains h hr)
      fun hcomplex => exists_type_of_not_isEntityType hcomplex.1 hcomplex.2
  · cases hp

/-! ### Well-referenced models -/

/-- The model of a reachable builder refers to its own elements only, if its bindings do. -/
theorem Reachable.wellReferenced_build (h : b.Reachable) (hr : b.registry.NamesUnique)
    (hbindings : ∀ n ∈ b.bindings, ∃ sourceType navigation,
      b.build.BindsAs n sourceType navigation) :
    b.build.WellReferenced where
  names := nodup_names_build h.typesSound hr
  base t ht base hbase := by
    obtain ⟨p, hp, heq⟩ := mem_types_build.1 ht
    rw [heq] at hbase
    rcases h.typesSound.base t.name p base hp hbase with hregistered | ⟨hwaits, -⟩
    · exact exists_type_of_isStructuralType hregistered
    · cases hwaits
  navigation t ht n hn := by
    obtain ⟨p, hp, heq⟩ := mem_types_build.1 ht
    rw [heq] at hn
    obtain ⟨declared, -, hnavigation⟩ := List.mem_filterMap.1 hn
    exact exists_type_of_isEntityType (isEntityType_of_navigationOf? hnavigation)
  property t ht p hp name hname := by
    obtain ⟨_, -, heq⟩ := mem_types_build.1 ht
    rw [heq] at hp
    obtain ⟨declared, hdeclared, rfl⟩ := List.mem_map.1 hp
    exact exists_type_of_isStructural h.typesSound hr (List.mem_filter.1 hdeclared).2 hname
  facetNames := h.facetsSound.names
  entitySet s hs := exists_type_of_isStructuralType (h.facetsSound.entitySet s hs)
  singleton s hs := exists_type_of_isStructuralType (h.facetsSound.singleton s hs)
  binding := hbindings

/-- The binding of a crossing to its only target. -/
theorem bindsAs_crossing (h : b.FacetsSound) {c : Crossing} (hc : c ∈ b.crossings)
    {target : FacetRef} (htarget : b.targets c.navigation = [target]) :
    ∃ sourceType, b.build.BindsAs (c.to target) sourceType c.navigation := by
  obtain ⟨type, hsource, hrelated, hnavigation⟩ := mem_crossings_iff.1 hc
  have hmem : target ∈ b.targets c.navigation := htarget ▸ List.mem_singleton_self target
  exact ⟨type,
    { source := facetType?_build h hsource
      related := (mem_relatedTypes_iff.1 hrelated).imp isA_build isA_build
      declared := exists_type_of_mem_navigationProperties hnavigation
      property := rfl
      target := facetType?_build h (mem_targets_iff.1 hmem |>.1) }⟩

/-- **The model of a builder that was bound is well-referenced**, if no other bindings were added.
-/
theorem Reachable.wellReferenced_bind (h : b.Reachable) (hr : b.registry.NamesUnique)
    (hbindings : b.bindings = []) : b.bind.build.WellReferenced := by
  obtain ⟨added, heq, hadded⟩ := b.exists_added_bind
  have hreachable := h.bind
  rw [heq, hbindings, List.nil_append] at hreachable ⊢
  refine hreachable.wellReferenced_build hr fun n hn => ?_
  obtain ⟨c, hc, target, htarget, rfl⟩ := hadded n hn
  obtain ⟨sourceType, hbinds⟩ := bindsAs_crossing h.facetsSound hc htarget
  -- the model has the same types and facets with and without bindings
  exact ⟨sourceType, c.navigation, { hbinds with }⟩

end Builder

end FacetModel
