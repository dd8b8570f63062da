import FacetModel.Proofs.Registry.HostChain
import FacetModel.Scan.Properties

/-!
# The properties that a scan finds

The host types of a chain declare properties, the most derived type first (`propertyDeclarations`).
Of the declarations of a name, the first one that exposes it to everyone counts, whatever the types
of the others. A scan finds one property for each such name that is not ignored, in the order of
these declarations (`FindsProperties`), and this says all about what it finds
(`FindsProperties.unique`).

To ignore names is to scan a registry whose host types do not have them
(`Registry.scanProperties_withoutProperties`): an ignored name masks no other one.
-/

namespace FacetModel

/-- The declarations of properties on some host types, each with its host type. -/
def propertyDeclarations (chain : List HostType) : List (HostType × PropertyDeclaration) :=
  chain.flatMap fun t => t.properties.map fun p => (t, p)

/-- Whether a declaration exposes the property of a name: everyone can see it, and it can be read.
-/
def exposes (name : String) (d : HostType × PropertyDeclaration) : Bool :=
  (d.2.visibility == .everyone && d.2.readable) && d.2.name == name

/-- The scanned properties are those of a chain of host types without some ignored names. -/
structure FindsProperties (chain : List HostType) (ignored : List String)
    (found : List ScannedProperty) : Prop where
  /-- A property is found as the first declaration that exposes its name has it. -/
  mem_iff : ∀ s, s ∈ found ↔ s.name ∉ ignored ∧
    ∃ t p, (propertyDeclarations chain).find? (exposes s.name) = some (t, p) ∧
      s = .ofDeclaration t.name p
  /-- Properties stand in the order of these declarations. -/
  order : found.Pairwise fun s s' =>
    (propertyDeclarations chain).findIdx (exposes s.name) <
      (propertyDeclarations chain).findIdx (exposes s'.name)

/-- The host type without the properties of some names. -/
def HostType.withoutProperties (names : List String) (t : HostType) : HostType :=
  { t with properties := t.properties.filter fun p => p.name ∉ names }

/-- The registry in which no host type has properties of some names. -/
def Registry.withoutProperties (r : Registry) (names : List String) : Registry :=
  r.mapHosts (HostType.withoutProperties names)

variable {chain : List HostType} {ignored : List String} {found other : List ScannedProperty}

/-! ### What is found is determined -/

/-- What is found is in the strict order of names, so no name comes twice. -/
theorem FindsProperties.nodup (h : FindsProperties chain ignored found) :
    (found.map (·.name)).Nodup := by
  rw [List.Nodup, List.pairwise_map]
  exact h.order.imp fun hlt heq => by rw [heq] at hlt; exact Nat.lt_irrefl _ hlt

/-- There is only one list of all properties in their order. -/
theorem FindsProperties.unique (h : FindsProperties chain ignored found)
    (h' : FindsProperties chain ignored other) : other = found := by
  -- two sorted lists with the same members are equal
  let index (s : ScannedProperty) : Nat := (propertyDeclarations chain).findIdx (exposes s.name)
  have : Std.Irrefl fun s s' => index s < index s' := ⟨fun _ => Nat.lt_irrefl _⟩
  have : Std.Antisymm fun s s' => index s < index s' :=
    ⟨fun _ _ hlt hgt => absurd hgt (Nat.lt_asymm hlt)⟩
  exact h'.order.eq_of_mem_iff h.order fun s => (h'.mem_iff s).trans (h.mem_iff s).symm

/-! ### What a scan finds -/

/-- The first exposed declaration of a name is the first one that exposes it. -/
theorem find?_filter_isExposed (l : List (HostType × PropertyDeclaration)) (name : String) :
    (l.filter (·.2.isExposed)).find? (·.2.name == name) = l.find? (exposes name) := by
  rw [List.find?_filter]
  congr 1
  funext d
  rw [Bool.decide_and, Bool.decide_eq_true, Bool.decide_eq_true]
  rfl

/-- Going through the declarations of a chain finds the exposed ones, each with its declaring type.
-/
theorem flatMap_exposedProperties (chain : List HostType) :
    chain.flatMap HostType.exposedProperties =
      ((propertyDeclarations chain).filter (·.2.isExposed)).map
        fun d => .ofDeclaration d.1.name d.2 := by
  rw [propertyDeclarations, List.filter_flatMap, List.map_flatMap]
  refine List.flatMap_congr fun t _ => ?_
  rw [HostType.exposedProperties, List.filter_map, List.map_map]
  rfl

/-- The properties of a chain that a scan finds. -/
theorem findsProperties_scan (chain : List HostType) (ignored : List String) :
    FindsProperties chain ignored
      ((firstByName (·.name) (chain.flatMap HostType.exposedProperties)).filter
        fun p => p.name ∉ ignored) := by
  -- masking by the names of what is found is masking by those of the declarations
  rw [flatMap_exposedProperties, firstByName, firstByNameFrom_map]
  constructor
  · intro s
    rw [List.mem_filter, decide_eq_true_iff, and_comm]
    refine and_congr_right fun _ => ?_
    simp only [List.mem_map, mem_firstByNameFrom_iff, List.not_mem_nil, not_false_eq_true, true_and]
    constructor
    · rintro ⟨⟨t, p⟩, hfind, rfl⟩
      exact ⟨t, p, (find?_filter_isExposed _ _).symm.trans hfind, rfl⟩
    · rintro ⟨t, p, hfind, rfl⟩
      exact ⟨(t, p), (find?_filter_isExposed _ _).trans hfind, rfl⟩
  · refine List.Pairwise.filter _ (List.pairwise_map.2 ?_)
    exact pairwise_findIdx_firstByNameFrom (·.2.name) (·.2.isExposed) [] (propertyDeclarations chain)

/-! ### Ignored names -/

/-- Leaving declarations out leaves out what they expose. -/
theorem exposedProperties_withoutProperties (names : List String) (t : HostType) :
    (t.withoutProperties names).exposedProperties =
      t.exposedProperties.filter fun s => s.name ∉ names := by
  rw [HostType.exposedProperties, HostType.exposedProperties, HostType.withoutProperties,
    List.filter_map, List.filter_filter, List.filter_filter]
  exact congrArg _ (List.filter_congr fun p _ => Bool.and_comm _ _)

/-- To ignore names is to scan a registry without properties of these names. -/
theorem Registry.scanProperties_withoutProperties (r : Registry) (host root : String)
    (ignored : List String) :
    (r.withoutProperties ignored).scanProperties host root [] =
      r.scanProperties host root ignored := by
  have hchain : (r.withoutProperties ignored).hostChain host root =
      (r.hostChain host root).map (List.map (HostType.withoutProperties ignored)) :=
    hostChain_mapHosts (f := HostType.withoutProperties ignored) (fun _ => rfl) r host root
  rw [scanProperties, scanProperties, hchain]
  -- the chain has the same types, as leaving properties out changes no base type
  cases r.hostChain host root with
  | error e => rfl
  | ok chain =>
    have hexposed : (chain.map (HostType.withoutProperties ignored)).flatMap
        HostType.exposedProperties =
          (chain.flatMap HostType.exposedProperties).filter fun s => s.name ∉ ignored := by
      rw [List.flatMap_map, List.filter_flatMap]
      exact List.flatMap_congr fun t _ => exposedProperties_withoutProperties ignored t
    refine congrArg Except.ok ?_
    rw [hexposed, firstByName, firstByName, filter_firstByNameFrom, filter_firstByNameFrom,
      List.append_nil, firstByNameFrom_append_seen]

/-- **Scanning properties is exact.** Along the chain of a host type, a scan finds one property for
each name that some declaration exposes and that is not ignored, as the first such declaration has
it, in the order of these declarations; no name is found twice. Ignoring names is scanning a
registry without properties of these names. -/
theorem scanProperties_exact {r : Registry} {host root : String}
    (h : r.hostChain host root = .ok chain) (ignored : List String) :
    (∃ found, r.scanProperties host root ignored = .ok found ∧
        (found.map (·.name)).Nodup ∧ ∀ l, FindsProperties chain ignored l ↔ l = found) ∧
      r.scanProperties host root ignored =
        (r.withoutProperties ignored).scanProperties host root [] := by
  have hfound := findsProperties_scan chain ignored
  refine ⟨⟨_, ?_, hfound.nodup, fun l => ⟨hfound.unique, fun heq => heq ▸ hfound⟩⟩,
    (r.scanProperties_withoutProperties host root ignored).symm⟩
  rw [Registry.scanProperties, h]

/-- A gallery has its works in a way of its own. It has no guests that anyone could read, which
leaves those of the museum. -/
def galleryCatalog : HostCatalog where
  hostTypes :=
    [{ name := "Gallery", namespaceName := "Test", base := some "Museum"
       properties :=
        [{ name := "Works", type := .reference "Work" },
         { name := "Guests", type := .primitive .int32, readable := false }] },
     { name := "Museum", namespaceName := "Test", base := some "ApiBase"
       properties :=
        [{ name := "Staff", type := .queryable (.reference "Person"), visibility := .restricted },
         { name := "Works", type := .queryable (.reference "Work") },
         { name := "Guests", type := .queryable (.reference "Person"), isStatic := true }] }]

/-- The registry of the gallery. -/
def galleryRegistry : Registry := galleryCatalog.toRegistry.toOption.getD .empty

/-- A scan finds the works of the gallery and the guests of the museum. Where works are ignored,
those of the museum are not found either. -/
theorem scanProperties_exact_gallery :
    galleryRegistry.hostChain "Gallery" "ApiBase" = .ok galleryCatalog.hostTypes ∧
      (∃ found, galleryRegistry.scanProperties "Gallery" "ApiBase" [] = .ok found ∧
        FindsProperties galleryCatalog.hostTypes [] found ∧
        found.map (fun s => (s.name, s.declaringType)) =
          [("Works", "Gallery"), ("Guests", "Museum")]) ∧
      (galleryRegistry.withoutProperties ["Works"]).scanProperties "Gallery" "ApiBase" [] =
        .ok [{ name := "Guests", type := .queryable (.reference "Person")
               candidate := some (.entitySet "Person"), isStatic := true
               declaringType := "Museum" }] := by
  have hchain : galleryRegistry.hostChain "Gallery" "ApiBase" = .ok galleryCatalog.hostTypes := by
    cbv
  obtain ⟨found, hscan, -, hall⟩ := (scanProperties_exact hchain []).1
  have hnames : (galleryRegistry.scanProperties "Gallery" "ApiBase" []).map
      (fun found => found.map fun s => (s.name, s.declaringType)) =
        .ok [("Works", "Gallery"), ("Guests", "Museum")] := by cbv
  rw [hscan] at hnames
  refine ⟨hchain, ⟨found, hscan, (hall found).2 rfl, Except.ok.inj hnames⟩, ?_⟩
  rw [← (scanProperties_exact hchain ["Works"]).2]
  cbv

end FacetModel
