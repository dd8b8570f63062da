import FacetModel.Proofs.Builder.Keys

/-!
# Lookups in built models

A builder walks along base types (`Builder.ancestors`), and so do the lookups in its model, each in
a way of its own. They come to the same types in the same order (`lineage_build`), whatever the base
types are. So where no base types lead back to a type, a lookup ends with what is found first on the
type or one of its ancestors (`Acyclic.lookups_build`).
-/

namespace FacetModel

namespace Builder

variable {b : Builder} {name : String}

/-! ### Types along the way -/

/-- A lookup in the model describes what the builder has under the name. -/
theorem findType?_build_eq (b : Builder) (name : String) :
    b.build.findType? name = (b.types.get? name).map (b.describe name) := by
  cases hget : b.types.get? name with
  | some p => exact findType?_build hget
  | none =>
    refine List.find?_eq_none.2 fun t ht heq => ?_
    obtain ⟨p, hp, -⟩ := mem_types_build.1 ht
    rw [eq_of_beq heq, hget] at hp
    cases hp

/-- A type of the model has the base type that the builder has for it. -/
theorem baseTypeOf?_eq (b : Builder) (name : String) :
    b.baseTypeOf? name = (b.build.findType? name).bind (·.baseType) := by
  rw [findType?_build_eq, baseTypeOf?, Option.bind_map]
  rfl

/-- The walk in the model and the walk in the builder come to the same types, and end where they
come to a type that was met. -/
theorem lineageFrom_build {met : List String} (hname : name ∉ met) :
    b.build.lineageFrom met name =
      (name :: b.ancestorsFrom (name :: met) name).filterMap b.build.findType? := by
  induction met, name using Model.lineageFrom.induct b.build with
  | case1 met name hmem => exact absurd hmem hname
  | case2 met name hmem ht =>
    have hbase := b.baseTypeOf?_eq name
    rw [ht] at hbase
    rw [Model.lineageFrom_of_none hmem ht, ancestorsFrom_of_none hbase,
      List.filterMap_cons_none ht, List.filterMap_nil]
  | case3 met name hmem t ht hnone =>
    have hbase := b.baseTypeOf?_eq name
    rw [ht, Option.bind_some, hnone] at hbase
    rw [Model.lineageFrom_of_some hmem ht, hnone, ancestorsFrom_of_none hbase,
      List.filterMap_cons_some ht]
    rfl
  | case4 met name hmem t ht base hsome ih =>
    have hbase := b.baseTypeOf?_eq name
    rw [ht, Option.bind_some, hsome] at hbase
    rw [Model.lineageFrom_of_some hmem ht, hsome, ancestorsFrom_of_some hbase,
      List.filterMap_cons_some ht]
    -- at a type that was met, one walk stops before it goes there and the other when it is there
    by_cases hmet : base ∈ name :: met
    · rw [if_pos hmet, Option.map_some, Model.lineageFrom_of_mem hmet]
      rfl
    · rw [if_neg hmet, Option.map_some, ih hmet]
      rfl

/-- **The types along a type** are the same in the model as in the builder. -/
theorem lineage_build (b : Builder) (name : String) :
    b.build.lineage name = (name :: b.ancestors name).filterMap b.build.findType? :=
  lineageFrom_build List.not_mem_nil

/-! ### What is found on a type -/

/-- The keys that a type has in the model, without those of its base types. -/
def builtKeys (b : Builder) (name : String) : List String :=
  ((b.build.findType? name).map (·.keys)).getD []

/-- The navigation properties of a type in the model are those that the builder makes of its
declaration. -/
theorem navigation?_build (b : Builder) (property name : String) :
    (b.build.findType? name).bind (·.navigation? property) =
      (b.navigationProperties name).find? (·.name == property) := by
  rw [findType?_build_eq]
  cases hget : b.types.get? name with
  | some p => rfl
  | none =>
    have hname : b.isStructuralType name = false := isStructuralType_eq_false_iff.2 hget
    simp [navigationProperties, declaredProperties, definition?, hname]

theorem ownKeys?_build (b : Builder) (name : String) :
    (b.build.findType? name).bind ModelType.ownKeys? =
      Option.guard (· ≠ []) (b.builtKeys name) := by
  rw [builtKeys]
  cases b.build.findType? name with
  | none => rfl
  | some t =>
    rw [Option.bind_some, Option.map_some, Option.getD_some, ModelType.ownKeys?]
    cases t.keys <;> rfl

/-- What is found along a type in the model is found first along it in the builder. -/
theorem findSome?_lineage_build {α : Type} {found : ModelType → Option α}
    {there : String → Option α} (h : ∀ t, (b.build.findType? t).bind found = there t)
    (name : String) :
    (b.build.lineage name).findSome? found = (name :: b.ancestors name).findSome? there := by
  rw [lineage_build, ← List.head?_filterMap, List.filterMap_filterMap, List.head?_filterMap,
    funext h]

/-- **Lookups agree with the builder.** Where no base types lead back to a type, the walks in the
model that look for a navigation property or for keys end. They find the first navigation property
of that name that is declared along the type and its ancestors, as the builder lists them, and the
keys of the first of these types that has any. -/
theorem Acyclic.lookups_build (h : b.Acyclic) (name property : String) :
    (b.build.EndsWith (·.navigation? property) name (b.build.findNavigation? name property) ∧
      b.build.findNavigation? name property =
        ((name :: b.ancestors name).flatMap b.navigationProperties).find? (·.name == property)) ∧
    ∃ keys?, b.build.EndsWith ModelType.ownKeys? name keys? ∧
      b.build.keyProperties name = keys?.getD [] ∧
      keys? = ((name :: b.ancestors name).map b.builtKeys).find? (· ≠ []) := by
  rw [Model.findNavigation?_eq, Model.keyProperties_eq]
  refine ⟨⟨.of_acyclic h.build _ name, ?_⟩, _, .of_acyclic h.build ModelType.ownKeys? name, rfl, ?_⟩
  · rw [List.find?_flatMap]
    exact findSome?_lineage_build (b.navigation?_build property) name
  · rw [List.find?_eq_findSome?_guard, List.findSome?_map]
    exact findSome?_lineage_build b.ownKeys?_build name

/-! ### Parties and pilots -/

/-- Pilots are persons, and persons are parties. Parties and pilots have contacts. -/
def partyCatalog : HostCatalog where
  structuralTypes :=
    [{ name := "Party", namespaceName := "Air", keys := ["Id"]
       properties := [{ name := "Contacts", type := .collection (.reference "Party") }] },
     { name := "Person", namespaceName := "Air", base := some "Party"
       properties := [{ name := "Boss", type := .reference "Person" }] },
     { name := "Pilot", namespaceName := "Air", base := some "Person"
       properties := [{ name := "Contacts", type := .collection (.reference "Pilot") }] }]

/-- A builder with pilots. -/
def partyBuilder : Builder :=
  meetAll { registry := partyCatalog.toRegistry.toOption.getD .empty, namespaceName := "Air",
            containerName := "Container" }
    [.structuralType "Pilot"]

/-- Pilots have contacts of their own, the boss of persons, and the key of parties. -/
theorem lookups_build_party :
    partyBuilder.Acyclic ∧ partyBuilder.ancestors "Pilot" = ["Person", "Party"] ∧
      (partyBuilder.build.findNavigation? "Pilot" "Contacts").map (·.targetType) = some "Pilot" ∧
      (partyBuilder.build.findNavigation? "Pilot" "Boss").map (·.targetType) = some "Person" ∧
      partyBuilder.build.keyProperties "Pilot" = ["Id"] := by
  have hpairs : partyBuilder.basePairs = [("Person", "Party"), ("Pilot", "Person")] := by cbv
  have hacyclic : partyBuilder.Acyclic := acyclic_of_lt (by rw [hpairs]; decide)
  obtain ⟨⟨-, hcontacts⟩, keys?, -, hkeys, hfirst⟩ :=
    hacyclic.lookups_build "Pilot" "Contacts"
  have hboss := (hacyclic.lookups_build "Pilot" "Boss").1.2
  refine ⟨hacyclic, by cbv, ?_, ?_, ?_⟩
  · rw [hcontacts]
    cbv
  · rw [hboss]
    cbv
  · rw [hkeys, hfirst]
    cbv

end Builder

end FacetModel
