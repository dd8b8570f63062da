import FacetModel.Proofs.Assembly.Conventions
import FacetModel.Proofs.Assembly.Replies
import FacetModel.Proofs.Scan.Properties

/-!
# The facets that conventions add

Extenders leave a model under construction with some facets. A scanned property gets a facet if its
type asks for one with a registered type of entities and none of these facets has its name
(`Builder.entitySetOf?`, `Builder.singletonOf?`). Facets are added one by one, and each may take the
name of a later one. But scanned properties have different names, so the facet of a property is the
one that it would have gotten alone (`Builder.foldl_adoptFacet_eq`), and the assembled model has the
facets of all properties behind those of the extenders (`Assembler.facets_of_assemble`).
-/

namespace FacetModel

/-! ### The facets of scanned properties -/

/-- The type of the entities that can be queried for. -/
def DeclaredType.queriedType? : DeclaredType → Option String
  | .queryable element => element.referenceName?
  | _ => none

/-- Where the facet of a scanned property comes from. -/
def ScannedProperty.origin (p : ScannedProperty) : FacetOrigin :=
  if p.isStatic then .staticProperty else .instanceProperty

namespace Builder

/-- Whether a facet with entities of some type can be added: the type is registered, and no facet
has the name. -/
def admits (b : Builder) (name type : String) : Bool := b.isStructuralType type && !b.hasFacet name

/-- The entity set that a scanned property gets if it can be queried for entities. -/
def entitySetOf? (b : Builder) (p : ScannedProperty) : Option EntitySet :=
  (p.type.queriedType?.filter (b.admits p.name)).map fun elementType =>
    { name := p.name, elementType, origin := p.origin }

/-- The singleton that a scanned property gets if it is a reference. -/
def singletonOf? (b : Builder) (p : ScannedProperty) : Option SingletonFacet :=
  (p.type.referenceName?.filter (b.admits p.name)).map fun typeName =>
    { name := p.name, typeName, origin := p.origin }

end Builder

/-- The candidate of a property is that of its type. -/
def ScannedProperty.Classified (p : ScannedProperty) : Prop :=
  p.candidate = FacetCandidate.of? p.type

/-- A type suggests an entity set, a singleton or nothing, by its form. -/
theorem FacetCandidate.of?_cases (t : DeclaredType) :
    of? t = none ∧ t.queriedType? = none ∧ t.referenceName? = none ∨
      (∃ type, of? t = some (.entitySet type) ∧ t = .queryable (.reference type)) ∨
      ∃ type, of? t = some (.singleton type) ∧ t = .reference type := by
  cases t with
  | reference name => exact .inr (.inr ⟨name, rfl, rfl⟩)
  | queryable element =>
    cases element with
    | reference name => exact .inr (.inl ⟨name, rfl, rfl⟩)
    | _ => exact .inl ⟨rfl, rfl, rfl⟩
  | _ => exact .inl ⟨rfl, rfl, rfl⟩

namespace Builder

variable {b : Builder} {p : ScannedProperty} {scanned : List ScannedProperty} {name : String}

/-- An entity set is added if its type is registered and its name is free. -/
theorem addEntitySet?_eq (b : Builder) (name elementType : String) (origin : FacetOrigin) :
    b.addEntitySet? name elementType origin =
      if b.admits name elementType then
        some { b with entitySets := b.entitySets ++ [{ name, elementType, origin }] }
      else none := by
  rw [addEntitySet?, admits]
  cases b.hasFacet name <;> simp

/-- So is a singleton, under the same conditions. -/
theorem addSingleton?_eq (b : Builder) (name typeName : String) (origin : FacetOrigin) :
    b.addSingleton? name typeName origin =
      if b.admits name typeName then
        some { b with singletons := b.singletons ++ [{ name, typeName, origin }] }
      else none := by
  rw [addSingleton?, admits]
  cases b.hasFacet name <;> simp

/-- A property gets its facet. -/
theorem adoptFacet_eq (hp : p.Classified) :
    b.adoptFacet p =
      { b with
        entitySets := b.entitySets ++ (b.entitySetOf? p).toList
        singletons := b.singletons ++ (b.singletonOf? p).toList } := by
  rw [adoptFacet, hp, entitySetOf?, singletonOf?]
  rcases FacetCandidate.of?_cases p.type with ⟨hnone, hqueried, hreference⟩ |
    ⟨type, hset, htype⟩ | ⟨type, hsingleton, htype⟩
  · simp [hnone, hqueried, hreference]
  · rw [hset, htype]
    dsimp only
    rw [addEntitySet?_eq]
    cases h : b.admits p.name type <;>
      simp [h, DeclaredType.queriedType?, DeclaredType.referenceName?, Option.filter_some,
        ScannedProperty.origin]
  · rw [hsingleton, htype]
    dsimp only
    rw [addSingleton?_eq]
    cases h : b.admits p.name type <;>
      simp [h, DeclaredType.queriedType?, DeclaredType.referenceName?, Option.filter_some,
        ScannedProperty.origin]

theorem name_of_entitySetOf? {set : EntitySet} (h : b.entitySetOf? p = some set) :
    set.name = p.name := by
  obtain ⟨_, -, rfl⟩ := Option.map_eq_some_iff.1 h
  rfl

theorem name_of_singletonOf? {facet : SingletonFacet} (h : b.singletonOf? p = some facet) :
    facet.name = p.name := by
  obtain ⟨_, -, rfl⟩ := Option.map_eq_some_iff.1 h
  rfl

/-- The facet of a property takes no name but its own. -/
theorem hasFacet_adoptFacet_of_ne (hp : p.Classified) (hne : p.name ≠ name) :
    (b.adoptFacet p).hasFacet name = b.hasFacet name := by
  have hset : (b.entitySetOf? p).toList.any (·.name == name) = false := by
    simpa using fun set hset heq => hne ((name_of_entitySetOf? hset).symm.trans heq)
  have hsingleton : (b.singletonOf? p).toList.any (·.name == name) = false := by
    simpa using fun facet hfacet heq => hne ((name_of_singletonOf? hfacet).symm.trans heq)
  rw [adoptFacet_eq hp, hasFacet, hasFacet, List.any_append, List.any_append, hset, hsingleton,
    Bool.or_false, Bool.or_false]

/-- The facet of one property admits what was admitted under another name. -/
theorem admits_adoptFacet_of_ne (hp : p.Classified) (hne : p.name ≠ name) :
    (b.adoptFacet p).admits name = b.admits name := by
  funext type
  rw [admits, admits, hasFacet_adoptFacet_of_ne hp hne, adoptFacet_eq hp]
  rfl

/-- **Properties get the facets that they would have gotten alone**, as no other one has their name.
-/
theorem foldl_adoptFacet_eq (hscanned : ∀ p ∈ scanned, p.Classified)
    (hnames : (scanned.map (·.name)).Nodup) (b : Builder) :
    scanned.foldl adoptFacet b =
      { b with
        entitySets := b.entitySets ++ scanned.filterMap b.entitySetOf?
        singletons := b.singletons ++ scanned.filterMap b.singletonOf? } := by
  induction scanned generalizing b with
  | nil => simp
  | cons p rest ih =>
    obtain ⟨hp, hrest⟩ := List.forall_mem_cons.1 hscanned
    rw [List.map_cons, List.nodup_cons] at hnames
    -- the first facet takes no name of the others, so they get theirs as from `b` itself
    have hadmits : ∀ q ∈ rest, (b.adoptFacet p).admits q.name = b.admits q.name := fun q hq =>
      admits_adoptFacet_of_ne hp fun heq => hnames.1 (heq ▸ List.mem_map_of_mem hq)
    have hsets : rest.filterMap (b.adoptFacet p).entitySetOf? = rest.filterMap b.entitySetOf? :=
      List.filterMap_congr fun q hq => by rw [entitySetOf?, entitySetOf?, hadmits q hq]
    have hsingletons : rest.filterMap (b.adoptFacet p).singletonOf? =
        rest.filterMap b.singletonOf? :=
      List.filterMap_congr fun q hq => by rw [singletonOf?, singletonOf?, hadmits q hq]
    rw [List.foldl_cons, ih hrest hnames.2, hsets, hsingletons, adoptFacet_eq hp]
    cases hset : b.entitySetOf? p <;> cases hsingleton : b.singletonOf? p <;> simp [hset, hsingleton]

end Builder

/-! ### The facets of assembled models -/

/-- The facets of a name. -/
def Model.facetsNamed (m : Model) (name : String) : List EntitySet × List SingletonFacet :=
  (m.entitySets.filter (·.name == name), m.singletons.filter (·.name == name))

/-- What is scanned is classified by the type that was declared. -/
theorem Registry.classified_of_scanProperties {r : Registry} {host root : String}
    {ignored : List String} {scanned : List ScannedProperty}
    (h : r.scanProperties host root ignored = .ok scanned) : ∀ p ∈ scanned, p.Classified := by
  rw [scanProperties] at h
  split at h
  · cases h
  · cases h
    intro p hp
    obtain ⟨-, t, declared, -, rfl⟩ := ((findsProperties_scan _ ignored).mem_iff p).1 hp
    rfl

section

variable {α : Type} {f : ScannedProperty → Option α} {nameOf : α → String}
  {scanned : List ScannedProperty}

/-- What is made for properties does not have a name that none of them has. -/
theorem filter_filterMap_of_notMem (hf : ∀ {p a}, f p = some a → nameOf a = p.name) {name : String}
    (hname : name ∉ scanned.map (·.name)) :
    (scanned.filterMap f).filter (fun a => nameOf a == name) = [] := by
  refine List.filter_eq_nil_iff.2 fun a ha heq => hname ?_
  obtain ⟨p, hp, hpa⟩ := List.mem_filterMap.1 ha
  exact List.mem_map.2 ⟨p, hp, (hf hpa).symm.trans (eq_of_beq heq)⟩

/-- Of what some properties with different names have, only that of one property has its name. -/
theorem filter_filterMap_of_nodup (hf : ∀ {p a}, f p = some a → nameOf a = p.name)
    (hnames : (scanned.map (·.name)).Nodup) {p : ScannedProperty} (hp : p ∈ scanned) :
    (scanned.filterMap f).filter (fun a => nameOf a == p.name) =
      ([p].filterMap f).filter fun a => nameOf a == p.name := by
  obtain ⟨before, after, rfl⟩ := List.append_of_mem hp
  rw [List.map_append, List.map_cons, List.nodup_middle, List.nodup_cons, List.mem_append,
    not_or] at hnames
  rw [← List.singleton_append, List.filterMap_append, List.filterMap_append, List.filter_append,
    List.filter_append, filter_filterMap_of_notMem hf hnames.1.1,
    filter_filterMap_of_notMem hf hnames.1.2, List.nil_append, List.append_nil]

end

namespace Assembler

open Assembling

variable {a : Assembler} {host : String} {settings : Settings} {r : Assembled}

/-- **The facets of an assembled model** are those that extenders leave, unchanged and in their
order, and behind them those of the scanned properties in the order of the scan. What a property
gets is what it would get if it was the only one. -/
theorem facets_of_assemble (hproviders : a.providers = []) {cancelled : Bool}
    (h : a.assemble host settings cancelled = .ok r) :
    ∃ t prepared extended scanned,
      a.registry.host? host = some t ∧
      resultOfEach a.preparers { registry := a.registry, hostType := host, settings } = .ok prepared ∧
      resultOfEach a.extenders ((a.startOf t settings).meetAll prepared.requests) = .ok extended ∧
      a.registry.scanProperties host settings.rootType settings.ignoredProperties = .ok scanned ∧
      r.model.entitySets = extended.entitySets ++ scanned.filterMap extended.entitySetOf? ∧
      r.model.singletons = extended.singletons ++ scanned.filterMap extended.singletonOf? ∧
      ∀ p ∈ scanned, r.model.facetsNamed p.name =
        (extended.adoptFacets host [p]).1.build.facetsNamed p.name := by
  obtain ⟨t, prepared, extended, scanned, operations, _, _, _, _, ht, hprepared, hextended, hscanned,
    -, rfl⟩ := exists_prepared_of_assemble hproviders h
  have hclassified := Registry.classified_of_scanProperties hscanned
  have hnames := Registry.nodup_scanProperties hscanned
  obtain ⟨hsets, hsingletons⟩ := conclude_facets host settings extended scanned operations
  rw [Builder.adoptFacets_fst, Builder.foldl_adoptFacet_eq hclassified hnames] at hsets hsingletons
  refine ⟨t, prepared, extended, scanned, ht, resultOfEach_of_callEach hprepared,
    resultOfEach_of_callEach hextended, hscanned, hsets, hsingletons, fun p hp => ?_⟩
  rw [Model.facetsNamed, Model.facetsNamed, hsets, hsingletons, Builder.adoptFacets_fst,
    Builder.foldl_adoptFacet_eq (List.forall_mem_singleton.2 (hclassified p hp))
      (List.nodup_singleton _)]
  dsimp only [Builder.build]
  rw [List.filter_append, List.filter_append, List.filter_append, List.filter_append,
    filter_filterMap_of_nodup Builder.name_of_entitySetOf? hnames hp,
    filter_filterMap_of_nodup Builder.name_of_singletonOf? hnames hp]

/-- A fair with stalls and visitors. Two of its properties have the names of registered facets, and
ghosts are no registered type. -/
def fairCatalog : HostCatalog where
  hostTypes :=
    [{ name := "Fair", namespaceName := "Town"
       properties :=
         [{ name := "Stands", type := .queryable (.reference "Visitor") },
          { name := "Visitors", type := .queryable (.reference "Visitor"), isStatic := true },
          { name := "Ghosts", type := .queryable (.reference "Ghost") },
          { name := "Mayor", type := .queryable (.reference "Visitor") },
          { name := "Patron", type := .reference "Ghost" },
          { name := "Organizer", type := .reference "Visitor" },
          { name := "Stalls", type := .queryable (.reference "Stall") },
          { name := "Prices", type := .queryable (.primitive .int32) }] }]
  structuralTypes :=
    [{ name := "Visitor", namespaceName := "Town" }, { name := "Stall", namespaceName := "Town" },
     { name := "Ghost", namespaceName := "Town" }]
  registration :=
    { entitySets := [{ name := "Stands", typeName := "Stall" }]
      singletons := [{ name := "Mayor", typeName := "Visitor" }] }

/-- The registry of the fair. -/
def fairRegistry : Registry := fairCatalog.toRegistry.toOption.getD .empty

/-- The assembler of the fair. A backing store has an archive of stalls. -/
def fairAssembler : Assembler :=
  { ofCatalog fairRegistry fairCatalog with
    preparers :=
      [fun c =>
        { result := .ok { c with entitySetTypes := c.entitySetTypes.insert "Archive" "Stall" } }] }

/-- The facets of the fair are those of the backing store and of the registration, and behind them
those of the properties that neither clash nor lead to ghosts. -/
theorem facets_of_assemble_fair :
    ∃ r, fairAssembler.assemble "Fair" {} false = .ok r ∧
      r.model.entitySets =
        [⟨"Archive", "Stall", .registered⟩, ⟨"Stands", "Stall", .registered⟩,
         ⟨"Visitors", "Visitor", .staticProperty⟩, ⟨"Stalls", "Stall", .instanceProperty⟩] ∧
      r.model.singletons =
        [⟨"Mayor", "Visitor", .registered⟩, ⟨"Organizer", "Visitor", .instanceProperty⟩] ∧
      ∃ (extended : Builder) (scanned : List ScannedProperty),
        fairRegistry.scanProperties "Fair" ({} : Settings).rootType [] = .ok scanned ∧
        r.model.entitySets = extended.entitySets ++ scanned.filterMap extended.entitySetOf? ∧
        r.model.singletons = extended.singletons ++ scanned.filterMap extended.singletonOf? ∧
        ∀ p ∈ scanned, r.model.facetsNamed p.name =
          (extended.adoptFacets "Fair" [p]).1.build.facetsNamed p.name := by
  have hrun : (fairAssembler.assemble "Fair" {} false).map
      (fun r => (r.model.entitySets, r.model.singletons)) = .ok
        ([⟨"Archive", "Stall", .registered⟩, ⟨"Stands", "Stall", .registered⟩,
          ⟨"Visitors", "Visitor", .staticProperty⟩, ⟨"Stalls", "Stall", .instanceProperty⟩],
         [⟨"Mayor", "Visitor", .registered⟩, ⟨"Organizer", "Visitor", .instanceProperty⟩]) := by
    cbv
  cases h : fairAssembler.assemble "Fair" {} false with
  | error e =>
    rw [h] at hrun
    cases hrun
  | ok r =>
    rw [h] at hrun
    obtain ⟨hsets, hsingletons⟩ := Prod.mk.inj (Except.ok.inj hrun)
    obtain ⟨t, prepared, extended, scanned, -, -, -, hscanned, hfacets⟩ := facets_of_assemble rfl h
    exact ⟨r, rfl, hsets, hsingletons, extended, scanned, hscanned, hfacets⟩

end Assembler

end FacetModel
