import FacetModel.Pipeline.Host
import FacetModel.Proofs.Assembly.Conventions
import FacetModel.Proofs.Registry.HostChain

/-!
# Host values behind facets

A context gets the values of a catalog by their names: values under the names of static facets
become statics, all others but the ignored ones become values of the host instance. Who needs the
value behind a facet goes by the entry of the facet instead. The entry says whether the property is
static, and if it is not, the instance must be of the host type.

For an assembled model both come to the same (`QueryContext.ofHostValues_exact`). A facet has one
entry, so the first entry of its name is no other (`ConventionCatalog.isStatic_of_mem`). The entry
was scanned, so its name is not ignored, and the chain of host types in which it was found begins
with the host (`Registry.exists_lineage_of_scanProperties`).
-/

namespace FacetModel

namespace ConventionCatalog

variable {c : ConventionCatalog} {name : String} {p : FacetProperty}

/-- The host properties behind facets, those of entity sets first. -/
def properties (c : ConventionCatalog) : List FacetProperty := c.entitySets ++ c.singletons

/-! ### Static facets -/

/-- A facet is static if the first property listed for it is. -/
theorem isStatic_eq (c : ConventionCatalog) (name : String) :
    c.isStatic name = (c.properties.find? (·.facet == name)).any (·.isStatic) := by
  rw [isStatic, properties, List.find?_append, Option.orElse_eq_orElse, Option.orElse_eq_or]
  rfl

/-- Where facets have one entry each, a facet is static as its entry says. -/
theorem isStatic_of_mem (hnames : (c.properties.map (·.facet)).Nodup) (hp : p ∈ c.properties) :
    c.isStatic p.facet = p.isStatic := by
  rw [isStatic_eq, find?_of_nodup FacetProperty.facet hnames hp]
  rfl

/-- A facet is static if any property listed for it is, since there is one at most. -/
theorem isStatic_iff (hnames : (c.properties.map (·.facet)).Nodup) :
    c.isStatic name = true ↔ ∃ p ∈ c.properties, p.facet = name ∧ p.isStatic = true := by
  constructor
  · intro h
    rw [isStatic_eq, Option.any_eq_true] at h
    obtain ⟨p, hfind, hstatic⟩ := h
    exact ⟨p, List.mem_of_find?_eq_some hfind, by simpa using List.find?_some hfind, hstatic⟩
  · rintro ⟨p, hp, rfl, hstatic⟩
    exact (isStatic_of_mem hnames hp).trans hstatic

theorem isStatic_eq_false_iff (hnames : (c.properties.map (·.facet)).Nodup) :
    c.isStatic name = false ↔ ∀ p ∈ c.properties, p.facet = name → p.isStatic = false := by
  rw [← Bool.not_eq_true, isStatic_iff hnames]
  simp

/-- An entry has the name of a scanned property. -/
theorem mem_names_of_mem_ofModel {host : String} {scanned : List ScannedProperty} {m : Model}
    (hp : p ∈ (ofModel host scanned m).properties) : p.facet ∈ scanned.map (·.name) := by
  rw [properties, ofModel_eq, List.mem_append] at hp
  rcases hp with hp | hp <;>
  · obtain ⟨s, hs, hsp⟩ := List.mem_filterMap.1 hp
    exact List.mem_map.2 ⟨s, hs, (entryOf?_eq_some hsp).1⟩

end ConventionCatalog

/-! ### Scanned hosts -/

namespace Registry

variable {r : Registry} {host root : String}

/-- A chain that is not empty begins with the host type itself. -/
theorem mem_names_of_hostChain (hnamed : r.hostTypes.Named HostType.name) {chain : List HostType}
    (h : r.hostChain host root = .ok chain) (hne : chain ≠ []) : host ∈ chain.map (·.name) := by
  have hends := (r.walk?_size hnamed host root).2
  rw [h] at hends
  cases hends with
  -- only at the root the chain is empty
  | atRoot => exact absurd rfl hne
  | complete _ hpath _ =>
    obtain ⟨t, rest, heq, ht⟩ := hpath.first
    rw [heq, List.map_cons, hnamed host t ht]
    exact List.mem_cons_self

/-- A scan has a lineage to go along. The name of what it finds is not ignored, and if it finds
something, then the lineage has the host in it. -/
theorem exists_lineage_of_scanProperties (hnamed : r.hostTypes.Named HostType.name)
    {ignored : List String} {found : List ScannedProperty}
    (h : r.scanProperties host root ignored = .ok found) :
    ∃ lineage, r.hostLineage host root = .ok lineage ∧
      ∀ name ∈ found.map (·.name), name ∉ ignored ∧ host ∈ lineage := by
  rw [scanProperties] at h
  split at h
  · cases h
  · rename_i chain hchain
    cases h
    refine ⟨chain.map (·.name), by rw [hostLineage, hchain]; rfl, fun name hname => ?_⟩
    obtain ⟨s, hs, rfl⟩ := List.mem_map.1 hname
    obtain ⟨hfirst, hignored⟩ := List.mem_filter.1 hs
    refine ⟨of_decide_eq_true hignored, mem_names_of_hostChain hnamed hchain ?_⟩
    -- along an empty chain nothing is found
    rintro rfl
    cases hfirst

end Registry

/-! ### Reading what a catalog gives -/

namespace QueryContext

variable {values : NameMap HostValue} {settings : Settings} {lineage : List String} {m : Model}
  {conventions : ConventionCatalog} {hostType name : String} {isStatic : Bool} {value : HostValue}

/-- **Where a value is read**: a value of the catalog is found under its name, unless the name is
ignored. It is found among the statics if the name is that of a static facet, and else in the
instance, by its host types. -/
theorem readHostProperty_ofHostValues_iff :
    (ofHostValues values settings lineage m conventions).readHostProperty hostType name isStatic
        = some value ↔
      values.get? name = some value ∧ name ∉ settings.ignoredProperties ∧
        conventions.isStatic name = isStatic ∧ (isStatic = false → hostType ∈ lineage) := by
  have hignored : settings.isIgnored name = false ↔ name ∉ settings.ignoredProperties := by
    rw [Settings.isIgnored, List.contains_eq_mem, decide_eq_false_iff_not]
  rw [← hignored]
  cases isStatic with
  | true =>
    rw [readHostProperty, if_pos rfl]
    simp [ofHostValues, NameMap.get?_filter, Option.filter_eq_some_iff]
  | false =>
    rw [readHostProperty, if_neg Bool.false_ne_true]
    simp only [ofHostValues, HostInstance.ofValues, List.contains_eq_mem, decide_eq_true_eq]
    -- an instance of other host types has no values
    by_cases hlineage : hostType ∈ lineage
    · simp [hlineage, NameMap.get?_filter, Option.filter_eq_some_iff]
    · simp [hlineage]

section

variable (hnames : (conventions.properties.map (·.facet)).Nodup) {p : FacetProperty}
include hnames

/-- A facet that is not ignored has the value of its name, if the instance is of the host type. -/
theorem readHostProperty_of_mem (hp : p ∈ conventions.properties)
    (hignored : p.facet ∉ settings.ignoredProperties) (hinstance : hostType ∈ lineage) :
    (ofHostValues values settings lineage m conventions).readHostProperty hostType p.facet
      p.isStatic = values.get? p.facet := by
  refine Option.ext fun value => readHostProperty_ofHostValues_iff.trans ?_
  exact and_iff_left ⟨hignored, ConventionCatalog.isStatic_of_mem hnames hp, fun _ => hinstance⟩

/-- No value of a static facet is read from an instance, nor one of another facet as static. -/
theorem readHostProperty_not_of_mem (hp : p ∈ conventions.properties) :
    (ofHostValues values settings lineage m conventions).readHostProperty hostType p.facet
      (!p.isStatic) = none := by
  refine Option.eq_none_iff_forall_ne_some.2 fun value hread => ?_
  obtain ⟨-, -, hstatic, -⟩ := readHostProperty_ofHostValues_iff.1 hread
  rw [ConventionCatalog.isStatic_of_mem hnames hp] at hstatic
  exact Bool.not_ne_self p.isStatic hstatic.symm

/-- Where no facet is ignored, the values that are read as static are those of static facets. -/
theorem readHostProperty_true_iff
    (hignored : ∀ p ∈ conventions.properties, p.facet ∉ settings.ignoredProperties) :
    (ofHostValues values settings lineage m conventions).readHostProperty hostType name true
        = some value ↔
      values.get? name = some value ∧
        ∃ p ∈ conventions.properties, p.facet = name ∧ p.isStatic = true := by
  rw [readHostProperty_ofHostValues_iff, ConventionCatalog.isStatic_iff hnames]
  constructor
  · rintro ⟨hvalue, -, hstatic, -⟩
    exact ⟨hvalue, hstatic⟩
  · rintro ⟨hvalue, p, hp, rfl, hstatic⟩
    exact ⟨hvalue, hignored p hp, ⟨p, hp, rfl, hstatic⟩, nofun⟩

/-- The values that are read from the instance are those of all other names but the ignored ones. -/
theorem readHostProperty_false_iff :
    (ofHostValues values settings lineage m conventions).readHostProperty hostType name false
        = some value ↔
      values.get? name = some value ∧ hostType ∈ lineage ∧ name ∉ settings.ignoredProperties ∧
        ∀ p ∈ conventions.properties, p.facet = name → p.isStatic = false := by
  rw [readHostProperty_ofHostValues_iff, ConventionCatalog.isStatic_eq_false_iff hnames]
  constructor
  · rintro ⟨hvalue, hignored, hstatic, hinstance⟩
    exact ⟨hvalue, hinstance rfl, hignored, hstatic⟩
  · rintro ⟨hvalue, hinstance, hignored, hstatic⟩
    exact ⟨hvalue, hignored, hstatic, fun _ => hinstance⟩

end

/-- **Facets read their own host values.** After an assembly of a catalog there is a lineage of the
host, and a context of the catalog in which

* a facet that a host property stands behind has the value that the catalog gives for its name, if
  it gives one, when it is read as its entry says, and no value when it is read the other way;
* what is read as static are the values of the catalog for static facets, and nothing else;
* what is read from the instance, by a host type of the lineage, are the values of the catalog for
  names that are neither ignored nor those of static facets. -/
theorem ofHostValues_exact {c : HostCatalog} {registry : Registry}
    (hregistry : c.toRegistry = .ok registry) {host : String} {settings : Settings}
    {cancelled : Bool} {r : Assembled}
    (h : (Assembler.ofCatalog registry c).assemble host settings cancelled = .ok r) :
    ∃ lineage, registry.hostLineage host settings.rootType = .ok lineage ∧
      let context := ofHostValues c.hostValues settings lineage r.model r.conventions
      (∀ p ∈ r.conventions.properties,
        context.readHostProperty r.conventions.hostType p.facet p.isStatic
            = c.hostValues.get? p.facet ∧
          ∀ hostType, context.readHostProperty hostType p.facet (!p.isStatic) = none) ∧
      (∀ hostType name value, context.readHostProperty hostType name true = some value ↔
        c.hostValues.get? name = some value ∧
          ∃ p ∈ r.conventions.properties, p.facet = name ∧ p.isStatic = true) ∧
      ∀ hostType name value, context.readHostProperty hostType name false = some value ↔
        c.hostValues.get? name = some value ∧ hostType ∈ lineage ∧
          name ∉ settings.ignoredProperties ∧
          ∀ p ∈ r.conventions.properties, p.facet = name → p.isStatic = false := by
  obtain ⟨t, scanned, -, hscanned, -, hconventions⟩ := Assembler.conventions_eq_ofModel rfl
    (List.forall_mem_singleton.2 (Extender.keepsReachable_ofRequests _)) h
  obtain ⟨lineage, hlineage, hfound⟩ := Registry.exists_lineage_of_scanProperties
    (Registry.namesUnique_toRegistry hregistry).hosts hscanned
  have hnames : (r.conventions.properties.map (·.facet)).Nodup := by
    rw [hconventions, ConventionCatalog.properties, List.map_append]
    exact ConventionCatalog.nodup_facets_ofModel host
      (Registry.nodup_scanProperties hscanned) r.model
  have hlisted : ∀ p ∈ r.conventions.properties,
      p.facet ∉ settings.ignoredProperties ∧ r.conventions.hostType ∈ lineage := by
    intro p hp
    rw [hconventions, ConventionCatalog.ofModel_eq]
    rw [hconventions] at hp
    exact hfound p.facet (ConventionCatalog.mem_names_of_mem_ofModel hp)
  refine ⟨lineage, hlineage, fun p hp => ⟨?_, fun hostType => ?_⟩, fun hostType name value => ?_,
    fun hostType name value => ?_⟩
  · exact readHostProperty_of_mem hnames hp (hlisted p hp).1 (hlisted p hp).2
  · exact readHostProperty_not_of_mem hnames hp
  · exact readHostProperty_true_iff hnames fun p hp => (hlisted p hp).1
  · exact readHostProperty_false_iff hnames

/-- A harbor with ships and cargo. Like every place at the coast, it has a master. -/
def harborCatalog : HostCatalog where
  hostTypes :=
    [{ name := "Harbor", namespaceName := "Coast", base := some "Coast"
       properties :=
         [{ name := "Ships", type := .queryable (.reference "Ship"), isStatic := true },
          { name := "Cargo", type := .queryable (.reference "Ship"), isStatic := true }] },
     { name := "Coast", namespaceName := "Coast", base := some "ApiBase"
       properties := [{ name := "Master", type := .reference "Person" }] }]
  structuralTypes :=
    [{ name := "Ship", namespaceName := "Coast"
       properties := [{ name := "Captain", type := .reference "Person" }] },
     { name := "Person", namespaceName := "Coast"
       properties := [{ name := "Id", type := .primitive .int32 }] }]
  registration := { types := ["Ship"] }
  hostValues := .ofList
    [("Ships", .queryable (.stub "ships")), ("Cargo", .queryable (.stub "cargo")),
     ("Master", .object (.object [("Id", Json.null)])), ("Tide", .object Json.null)]

/-- The registry of the harbor. -/
def harborRegistry : Registry := harborCatalog.toRegistry.toOption.getD .empty

/-- The ships are read as static and the master from the instance, also where the instance is taken
for a place at the coast. Nothing is read for cargo that is ignored. -/
theorem ofHostValues_exact_harbor :
    harborCatalog.toRegistry = .ok harborRegistry ∧
      ∃ r, (Assembler.ofCatalog harborRegistry harborCatalog).assemble "Harbor"
          { ignoredProperties := ["Cargo"] } false = .ok r ∧
        harborRegistry.hostLineage "Harbor" "ApiBase" = .ok ["Harbor", "Coast"] ∧
        let context := ofHostValues harborCatalog.hostValues { ignoredProperties := ["Cargo"] }
          ["Harbor", "Coast"] r.model r.conventions
        context.readHostProperty "Harbor" "Ships" true = some (.queryable (.stub "ships")) ∧
          context.readHostProperty "Harbor" "Ships" false = none ∧
          context.readHostProperty "Coast" "Master" false
            = some (.object (.object [("Id", Json.null)])) ∧
          context.readHostProperty "Harbor" "Cargo" true = none := by
  have hregistry : harborCatalog.toRegistry = .ok harborRegistry := by cbv
  have hchain : harborRegistry.hostLineage "Harbor" "ApiBase" = .ok ["Harbor", "Coast"] := by cbv
  have hrun : ((Assembler.ofCatalog harborRegistry harborCatalog).assemble "Harbor"
      { ignoredProperties := ["Cargo"] } false).map (·.conventions) =
        .ok { hostType := "Harbor"
              entitySets := [⟨"Ships", "Ship", true⟩]
              singletons := [⟨"Master", "Person", false⟩] } := by
    cbv
  cases h : (Assembler.ofCatalog harborRegistry harborCatalog).assemble "Harbor"
      { ignoredProperties := ["Cargo"] } false with
  | error e =>
    rw [h] at hrun
    cases hrun
  | ok r =>
    rw [h] at hrun
    have hconventions : r.conventions = _ := Except.ok.inj hrun
    obtain ⟨lineage, hlineage, hentries, hstatics, hinstance⟩ := ofHostValues_exact hregistry h
    obtain rfl : lineage = ["Harbor", "Coast"] := Except.ok.inj (hlineage.symm.trans hchain)
    have hships : ⟨"Ships", "Ship", true⟩ ∈ r.conventions.properties := by
      rw [hconventions]
      exact List.mem_cons_self
    have hhost : r.conventions.hostType = "Harbor" := by rw [hconventions]
    have hgiven : harborCatalog.hostValues.get? "Ships" = some (.queryable (.stub "ships")) := by
      cbv
    obtain ⟨hread, hother⟩ := hentries _ hships
    rw [hhost] at hread
    refine ⟨hregistry, r, rfl, hchain, hread.trans hgiven, hother "Harbor", ?_, ?_⟩
    · refine (hinstance _ _ _).2 ⟨by cbv, by simp, by simp, ?_⟩
      rw [hconventions]
      simp [ConventionCatalog.properties]
    · refine Option.eq_none_iff_forall_ne_some.2 fun value hcargo => ?_
      obtain ⟨-, hentry⟩ := (hstatics _ _ _).1 hcargo
      rw [hconventions] at hentry
      simp [ConventionCatalog.properties] at hentry

end QueryContext

end FacetModel
