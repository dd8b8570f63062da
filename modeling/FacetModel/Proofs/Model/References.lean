import FacetModel.Model
import Mathlib.Logic.Relation

/-!
# References of a model

A model refers to its types and facets by name: to base types, to the types of properties and of
facets, and to the facets that bindings lead from and into. In a well-referenced model
(`Model.WellReferenced`) each of these names stands for exactly one thing, and this is of the
wanted kind.
-/

namespace FacetModel

/-- Among elements with different names, an element is found by its name. -/
theorem find?_of_nodup {α : Type} (nameOf : α → String) {l : List α}
    (h : (l.map nameOf).Nodup) {a : α} (ha : a ∈ l) :
    l.find? (nameOf · == nameOf a) = some a := by
  induction l with
  | nil => cases ha
  | cons other rest ih =>
    rw [List.map_cons, List.nodup_cons] at h
    rcases List.mem_cons.1 ha with rfl | ha
    · exact List.find?_cons_of_pos (beq_self_eq_true _)
    · have hne : nameOf other ≠ nameOf a := fun heq =>
        h.1 (heq ▸ List.mem_map_of_mem ha)
      rw [List.find?_cons_of_neg (by simpa using hne)]
      exact ih h.2 ha

namespace Model

variable {m : Model}

/-! ### Inheritance -/

/-- A type of the model has a base type. -/
def HasBase (m : Model) (name base : String) : Prop :=
  ∃ t ∈ m.types, t.name = name ∧ t.baseType = some base

/-- Base types lead from a type to another one, or both are the same. -/
def IsA (m : Model) : String → String → Prop := Relation.ReflTransGen m.HasBase

/-! ### Facets -/

/-- An entity set is found under its name, as no other has it. -/
theorem facetType?_entitySet (h : m.facetNames.Nodup) {s : EntitySet} (hs : s ∈ m.entitySets) :
    m.facetType? (.entitySet s.name) = some s.elementType := by
  have hfind : m.findEntitySet? s.name = some s :=
    find?_of_nodup EntitySet.name (List.nodup_append.1 h).1 hs
  rw [facetType?, hfind]
  rfl

/-- A singleton is found under its name, as no other has it. -/
theorem facetType?_singleton (h : m.facetNames.Nodup) {s : SingletonFacet}
    (hs : s ∈ m.singletons) : m.facetType? (.singleton s.name) = some s.typeName := by
  have hfind : m.findSingleton? s.name = some s :=
    find?_of_nodup SingletonFacet.name (List.nodup_append.1 h).2.1 hs
  rw [facetType?, hfind]
  rfl

/-- A name is looked up among the entity sets first, so an entity set of the name is what it means.
-/
theorem findFacet?_entitySet {name type : String}
    (h : m.facetType? (.entitySet name) = some type) :
    m.findFacet? name = some (.entitySet name) := by
  obtain ⟨s, hs, -⟩ := Option.map_eq_some_iff.1 h
  rw [findFacet?, hs]
  rfl

/-- A singleton is found by its name, since no entity set has that name too. -/
theorem findFacet?_singleton (hnames : m.facetNames.Nodup) {name type : String}
    (h : m.facetType? (.singleton name) = some type) :
    m.findFacet? name = some (.singleton name) := by
  obtain ⟨s, hs, -⟩ := Option.map_eq_some_iff.1 h
  have hname : s.name = name := by simpa using List.find?_some hs
  have hmem : name ∈ m.singletons.map (·.name) :=
    hname ▸ List.mem_map_of_mem (List.mem_of_find?_eq_some hs)
  -- an entity set of the name would be found first
  have hnone : m.findEntitySet? name = none := by
    refine List.find?_eq_none.2 fun set hset heq => ?_
    exact (List.nodup_append.1 hnames).2.2 set.name (List.mem_map_of_mem hset) name hmem
      (eq_of_beq heq)
  rw [findFacet?, hnone, hs]
  rfl

/-! ### Well-referenced models -/

/-- What a binding relies on: a facet with some type is its source, the type that declares the
property is above or below that type and has the property, and the facet it leads into has entities
of the property's target type. -/
structure BindsAs (m : Model) (n : NavigationBinding) (sourceType : String)
    (navigation : NavigationProperty) : Prop where
  source : m.facetType? n.source = some sourceType
  related : m.IsA sourceType n.declaringType ∨ m.IsA n.declaringType sourceType
  declared : ∃ t ∈ m.types, t.name = n.declaringType ∧ navigation ∈ t.navigationProperties
  property : navigation.name = n.property
  target : m.facetType? n.target = some navigation.targetType

/-- Types, facets and bindings refer to what the model has, and no name is ambiguous. -/
structure WellReferenced (m : Model) : Prop where
  /-- Types have different names, of whatever kind they are. -/
  names : (m.types.map (·.name) ++ m.enumTypes.map (·.name)).Nodup
  base : ∀ t ∈ m.types, ∀ base, t.baseType = some base → ∃ s ∈ m.types, s.name = base
  /-- Navigation properties lead to entity types. -/
  navigation : ∀ t ∈ m.types, ∀ n ∈ t.navigationProperties,
    ∃ s ∈ m.types, s.name = n.targetType ∧ s.kind = .entity
  /-- Other properties refer to enum types and complex types. -/
  property : ∀ t ∈ m.types, ∀ p ∈ t.properties, ∀ name,
    p.type.elementOrSelf.referenceName? = some name →
      (∃ e ∈ m.enumTypes, e.name = name) ∨ ∃ s ∈ m.types, s.name = name ∧ s.kind = .complex
  /-- Facets have different names, of whatever kind they are. -/
  facetNames : m.facetNames.Nodup
  entitySet : ∀ s ∈ m.entitySets, ∃ t ∈ m.types, t.name = s.elementType
  singleton : ∀ s ∈ m.singletons, ∃ t ∈ m.types, t.name = s.typeName
  binding : ∀ n ∈ m.bindings, ∃ sourceType navigation, m.BindsAs n sourceType navigation

end Model

end FacetModel
