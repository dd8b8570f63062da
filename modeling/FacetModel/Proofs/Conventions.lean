import FacetModel.Proofs.Builder.Soundness
import FacetModel.Proofs.Model.References
import Mathlib.Data.List.Nodup

/-!
# Two ways to a convention catalog

Scanned properties have different names. So the facet of one property stays what it is when the
others get theirs, and what `Builder.adoptFacets` decides on the way is what the finished builder
shows (`snd_adoptFacets`). Its catalog is then the one that `ConventionCatalog.ofModel` reads off
any model with these facets (`snd_adoptFacets_eq_ofModel`).

What such a catalog lists are facets of the model, each under one name and with its type
(`ConventionCatalog.Describes`).
-/

namespace FacetModel

/-- Scanned properties have different names. -/
theorem Registry.nodup_scanProperties {r : Registry} {host root : String} {ignored : List String}
    {properties : List ScannedProperty}
    (h : r.scanProperties host root ignored = .ok properties) :
    (properties.map (·.name)).Nodup := by
  rw [scanProperties] at h
  split at h
  · cases h
  · cases h
    exact (nodup_firstByNameFrom _ _ _).sublist (List.filter_sublist.map _)

/-! ### Facets that properties get -/

namespace Builder

variable {b : Builder} {name type : String}

/-- The facets of other names stay what they are. -/
theorem adoptFacet_of_ne {p : ScannedProperty} (hne : p.name ≠ name) :
    (b.adoptFacet p).hasEntitySet name type = b.hasEntitySet name type ∧
      (b.adoptFacet p).hasSingleton name type = b.hasSingleton name type := by
  rw [adoptFacet]
  split
  · rename_i other _
    rcases b.addEntitySet?_cases p.name other _ with heq | ⟨-, -, heq⟩ <;> rw [heq]
    · exact ⟨rfl, rfl⟩
    · refine ⟨?_, rfl⟩
      simp [hasEntitySet, findEntitySet?, hne]
  · rename_i other _
    rcases b.addSingleton?_cases p.name other _ with heq | ⟨-, -, heq⟩ <;> rw [heq]
    · exact ⟨rfl, rfl⟩
    · refine ⟨rfl, ?_⟩
      simp [hasSingleton, hne]
  · exact ⟨rfl, rfl⟩

/-- A name that is none of the properties' keeps its facets. -/
theorem foldl_adoptFacet_of_notMem {scanned : List ScannedProperty}
    (hname : name ∉ scanned.map (·.name)) :
    (scanned.foldl adoptFacet b).hasEntitySet name type = b.hasEntitySet name type ∧
      (scanned.foldl adoptFacet b).hasSingleton name type = b.hasSingleton name type := by
  induction scanned generalizing b with
  | nil => exact ⟨rfl, rfl⟩
  | cons p rest ih =>
    rw [List.map_cons, List.mem_cons, not_or] at hname
    have hfirst : (b.adoptFacet p).hasEntitySet name type = b.hasEntitySet name type ∧
        (b.adoptFacet p).hasSingleton name type = b.hasSingleton name type :=
      adoptFacet_of_ne (Ne.symm hname.1)
    have hothers := ih (b := b.adoptFacet p) hname.2
    exact ⟨hothers.1.trans hfirst.1, hothers.2.trans hfirst.2⟩

end Builder

/-! ### Catalogs of scanned properties -/

/-- The type of the entity set that a property suggests. -/
def FacetCandidate.entitySetType? : FacetCandidate → Option String
  | .entitySet type => some type
  | .singleton _ => none

/-- The type of the singleton that a property suggests. -/
def FacetCandidate.singletonType? : FacetCandidate → Option String
  | .entitySet _ => none
  | .singleton type => some type

namespace ConventionCatalog

/-- A property is tested by its name only. -/
theorem addIf_congr {hasEntitySet hasSingleton hasEntitySet' hasSingleton' : String → String → Bool}
    {p : ScannedProperty} (c : ConventionCatalog)
    (hset : ∀ type, hasEntitySet p.name type = hasEntitySet' p.name type)
    (hsingleton : ∀ type, hasSingleton p.name type = hasSingleton' p.name type) :
    c.addIf p hasEntitySet hasSingleton = c.addIf p hasEntitySet' hasSingleton' := by
  rw [addIf, addIf]
  split
  · rw [hset]
  · rw [hsingleton]
  · rfl

/-- The entry of a property whose candidate has a type of the wanted kind, if the model has this
facet. -/
def entryOf? (typeOf? : FacetCandidate → Option String) (hasFacet : String → String → Bool)
    (p : ScannedProperty) : Option FacetProperty :=
  ((p.candidate.bind typeOf?).filter (hasFacet p.name)).map fun type => ⟨p.name, type, p.isStatic⟩

/-- A property adds at most one entry, to the list of its candidate's kind. -/
theorem addIf_eq (c : ConventionCatalog) (p : ScannedProperty)
    (hasEntitySet hasSingleton : String → String → Bool) :
    c.addIf p hasEntitySet hasSingleton =
      { c with
        entitySets := c.entitySets ++ (entryOf? FacetCandidate.entitySetType? hasEntitySet p).toList
        singletons :=
          c.singletons ++ (entryOf? FacetCandidate.singletonType? hasSingleton p).toList } := by
  rw [addIf, entryOf?, entryOf?]
  -- without a candidate nothing is added, and a candidate of one kind leaves the other list alone
  rcases p.candidate with _ | type | type
  · simp
  · by_cases h : hasEntitySet p.name type <;>
      simp [FacetCandidate.entitySetType?, FacetCandidate.singletonType?, Option.filter_some, h]
  · by_cases h : hasSingleton p.name type <;>
      simp [FacetCandidate.entitySetType?, FacetCandidate.singletonType?, Option.filter_some, h]

/-- Going through the properties appends to each list the entries of its kind, in the order of the
properties. -/
theorem foldl_addIf (scanned : List ScannedProperty)
    (hasEntitySet hasSingleton : String → String → Bool) (c : ConventionCatalog) :
    scanned.foldl (fun c p => c.addIf p hasEntitySet hasSingleton) c =
      { c with
        entitySets :=
          c.entitySets ++ scanned.filterMap (entryOf? FacetCandidate.entitySetType? hasEntitySet)
        singletons :=
          c.singletons ++
            scanned.filterMap (entryOf? FacetCandidate.singletonType? hasSingleton) } := by
  induction scanned generalizing c with
  | nil => simp
  | cons p rest ih =>
    rw [List.foldl_cons, ih, addIf_eq]
    cases hset : entryOf? FacetCandidate.entitySetType? hasEntitySet p <;>
      cases hsingleton : entryOf? FacetCandidate.singletonType? hasSingleton p <;>
        simp [hset, hsingleton]

/-- The catalog that is read off a model, as two lists. -/
theorem ofModel_eq (host : String) (scanned : List ScannedProperty) (m : Model) :
    ofModel host scanned m =
      { hostType := host
        entitySets := scanned.filterMap (entryOf? FacetCandidate.entitySetType? m.hasEntitySet)
        singletons := scanned.filterMap (entryOf? FacetCandidate.singletonType? m.hasSingleton) } :=
  foldl_addIf ..

end ConventionCatalog

namespace Builder

/-- **Each property is decided as by the finished builder**, since later ones have other names. -/
theorem snd_adoptFacets (b : Builder) (host : String) {scanned : List ScannedProperty}
    (hnames : (scanned.map (·.name)).Nodup) :
    let finished := (b.adoptFacets host scanned).1
    (b.adoptFacets host scanned).2 =
      scanned.foldl (fun c p => c.addIf p finished.hasEntitySet finished.hasSingleton)
        { hostType := host } := by
  rw [adoptFacets_fst, adoptFacets]
  generalize ({ hostType := host } : ConventionCatalog) = c
  induction scanned generalizing b c with
  | nil => rfl
  | cons p rest ih =>
    obtain ⟨hname, hrest⟩ := List.nodup_cons.1 hnames
    simp only [List.foldl_cons]
    rw [ih (b.adoptFacet p) hrest]
    -- the other properties leave the facets of `p.name` as they are
    congr 1
    refine c.addIf_congr (fun type => ?_) fun type => ?_
    · exact (foldl_adoptFacet_of_notMem hname).1.symm
    · exact (foldl_adoptFacet_of_notMem hname).2.symm

/-- Singletons have different names, so any one of a name is the first one. -/
theorem hasSingleton_eq_of_nodup {b : Builder} {m : Model} (hm : m.singletons = b.singletons)
    (hnames : (b.singletons.map (·.name)).Nodup) : b.hasSingleton = m.hasSingleton := by
  funext name type
  rw [hasSingleton, Model.hasSingleton, Model.findSingleton?, hm, Bool.eq_iff_iff, List.any_eq_true,
    Option.any_eq_true]
  constructor
  · rintro ⟨s, hs, htest⟩
    rw [Bool.and_eq_true] at htest
    obtain ⟨hname, htype⟩ := htest
    rw [← eq_of_beq hname]
    exact ⟨s, find?_of_nodup SingletonFacet.name hnames hs, htype⟩
  · rintro ⟨s, hfind, htype⟩
    have hname : (s.name == name) = true := by simpa using List.find?_some hfind
    exact ⟨s, List.mem_of_find?_eq_some hfind, Bool.and_eq_true_iff.2 ⟨hname, htype⟩⟩

/-- **The two ways agree**: what the builder lists on the way is what is found in a model that has
its facets. -/
theorem snd_adoptFacets_eq_ofModel {b : Builder} (h : b.Reachable) (host : String)
    {scanned : List ScannedProperty} (hnames : (scanned.map (·.name)).Nodup) {m : Model}
    (hsets : m.entitySets = (b.adoptFacets host scanned).1.entitySets)
    (hsingletons : m.singletons = (b.adoptFacets host scanned).1.singletons) :
    (b.adoptFacets host scanned).2 = .ofModel host scanned m := by
  have hfacets := (h.adoptFacets host scanned).facetsSound
  have hset : (b.adoptFacets host scanned).1.hasEntitySet = m.hasEntitySet := by
    funext name type
    rw [hasEntitySet, findEntitySet?, Model.hasEntitySet, Model.findEntitySet?, hsets]
  -- the two differ in how a singleton is looked up: by any one of the name or by the first
  rw [snd_adoptFacets b host hnames, ConventionCatalog.ofModel, hset,
    hasSingleton_eq_of_nodup hsingletons (List.nodup_append.1 hfacets.names).2.1]

end Builder

/-! ### What a catalog lists -/

/-- Entity sets are tested by name and type, as are the types of facets. -/
theorem Model.hasEntitySet_iff {m : Model} {name type : String} :
    m.hasEntitySet name type = true ↔ m.facetType? (.entitySet name) = some type := by
  simp [hasEntitySet, facetType?, Option.any_eq_true]

theorem Model.hasSingleton_iff {m : Model} {name type : String} :
    m.hasSingleton name type = true ↔ m.facetType? (.singleton name) = some type := by
  simp [hasSingleton, facetType?, Option.any_eq_true]

namespace ConventionCatalog

/-- The catalog lists facets of a model, each once and with its type. -/
structure Describes (c : ConventionCatalog) (m : Model) : Prop where
  entitySets : ∀ e ∈ c.entitySets, m.facetType? (.entitySet e.facet) = some e.elementType
  singletons : ∀ e ∈ c.singletons, m.facetType? (.singleton e.facet) = some e.elementType
  names : (c.entitySets.map (·.facet) ++ c.singletons.map (·.facet)).Nodup
  /-- What the catalog has as the type of a name is the type of the facet that the model has. -/
  elementType : ∀ name type, c.elementTypeOf? name = some type →
    ∃ facet, m.findFacet? name = some facet ∧ facet.name = name ∧ m.facetType? facet = some type

variable {scanned : List ScannedProperty} {m : Model}

/-- An entry has the name of its property and the type of its candidate, and the model has the
facet. -/
theorem entryOf?_eq_some {typeOf? : FacetCandidate → Option String}
    {hasFacet : String → String → Bool} {p : ScannedProperty} {e : FacetProperty}
    (h : entryOf? typeOf? hasFacet p = some e) :
    p.name = e.facet ∧ p.candidate.bind typeOf? = some e.elementType ∧
      hasFacet e.facet e.elementType = true := by
  obtain ⟨type, htype, rfl⟩ := Option.map_eq_some_iff.1 h
  obtain ⟨hcandidate, htest⟩ := Option.filter_eq_some_iff.1 htype
  exact ⟨rfl, hcandidate, htest⟩

/-- Entries have the names of properties, in their order. -/
theorem map_facet_filterMap_sublist (typeOf? : FacetCandidate → Option String)
    (hasFacet : String → String → Bool) (scanned : List ScannedProperty) :
    ((scanned.filterMap (entryOf? typeOf? hasFacet)).map (·.facet)).Sublist
      (scanned.map (·.name)) := by
  induction scanned with
  | nil => exact .slnil
  | cons p rest ih =>
    cases hp : entryOf? typeOf? hasFacet p with
    | none =>
      rw [List.filterMap_cons_none hp]
      exact ih.cons p.name
    | some e =>
      rw [List.filterMap_cons_some hp, List.map_cons, List.map_cons, (entryOf?_eq_some hp).1]
      exact ih.cons_cons e.facet

/-- A property is listed at most once: it has one candidate, and no other property has its name. -/
theorem nodup_facets_ofModel (host : String) (hnames : (scanned.map (·.name)).Nodup) (m : Model) :
    ((ofModel host scanned m).entitySets.map (·.facet)
      ++ (ofModel host scanned m).singletons.map (·.facet)).Nodup := by
  rw [ofModel_eq]
  refine List.nodup_append.2 ⟨hnames.sublist (map_facet_filterMap_sublist ..),
    hnames.sublist (map_facet_filterMap_sublist ..), ?_⟩
  intro name hset _ hsingleton heq
  obtain ⟨e, he, rfl⟩ := List.mem_map.1 hset
  obtain ⟨f, hf, rfl⟩ := List.mem_map.1 hsingleton
  obtain ⟨p, hp, hpe⟩ := List.mem_filterMap.1 he
  obtain ⟨q, hq, hqf⟩ := List.mem_filterMap.1 hf
  obtain ⟨hpname, hpcandidate, -⟩ := entryOf?_eq_some hpe
  obtain ⟨hqname, hqcandidate, -⟩ := entryOf?_eq_some hqf
  obtain rfl : p = q :=
    List.inj_on_of_nodup_map hnames hp hq (hpname.trans (heq.trans hqname.symm))
  -- one property would have candidates of both kinds
  obtain ⟨candidate, hcandidate, hset⟩ := Option.bind_eq_some_iff.1 hpcandidate
  rw [hcandidate, Option.bind_some] at hqcandidate
  cases candidate with
  | entitySet type => cases hqcandidate
  | singleton type => cases hset

/-- An entity set that is listed was found in the model, under its name and with its type. -/
theorem facetType?_of_mem_entitySets {host : String} {e : FacetProperty}
    (he : e ∈ (ofModel host scanned m).entitySets) :
    m.facetType? (.entitySet e.facet) = some e.elementType := by
  rw [ofModel_eq] at he
  obtain ⟨p, -, hp⟩ := List.mem_filterMap.1 he
  exact Model.hasEntitySet_iff.1 (entryOf?_eq_some hp).2.2

/-- So was a singleton. -/
theorem facetType?_of_mem_singletons {host : String} {e : FacetProperty}
    (he : e ∈ (ofModel host scanned m).singletons) :
    m.facetType? (.singleton e.facet) = some e.elementType := by
  rw [ofModel_eq] at he
  obtain ⟨p, -, hp⟩ := List.mem_filterMap.1 he
  exact Model.hasSingleton_iff.1 (entryOf?_eq_some hp).2.2

/-- **A catalog describes the model it was read off**, if the model has no two facets of one name.
-/
theorem describes_ofModel (host : String) (hnames : (scanned.map (·.name)).Nodup)
    (hm : m.facetNames.Nodup) : (ofModel host scanned m).Describes m where
  entitySets _ he := facetType?_of_mem_entitySets he
  singletons _ he := facetType?_of_mem_singletons he
  names := nodup_facets_ofModel host hnames m
  elementType name type h := by
    obtain ⟨e, he, rfl⟩ := Option.map_eq_some_iff.1 h
    rw [Option.orElse_eq_orElse, Option.orElse_eq_or, Option.or_eq_some_iff] at he
    -- an entity set of the name comes first, and only then a singleton
    rcases he with hset | ⟨-, hsingleton⟩
    · have hname : e.facet = name := by simpa using List.find?_some hset
      have htype := facetType?_of_mem_entitySets (List.mem_of_find?_eq_some hset)
      rw [hname] at htype
      exact ⟨.entitySet name, Model.findFacet?_entitySet htype, rfl, htype⟩
    · have hname : e.facet = name := by simpa using List.find?_some hsingleton
      have htype := facetType?_of_mem_singletons (List.mem_of_find?_eq_some hsingleton)
      rw [hname] at htype
      exact ⟨.singleton name, Model.findFacet?_singleton hm htype, rfl, htype⟩

end ConventionCatalog

end FacetModel
