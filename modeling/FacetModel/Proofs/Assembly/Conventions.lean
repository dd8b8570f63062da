import FacetModel.Proofs.Assembly.References
import FacetModel.Proofs.Conventions

/-!
# Conventions of assembled models

A model can be constructed, or a provider can have it. Both ways lead to the same convention
catalog, and this describes the facets of the model (`Assembler.assemble_model_of_assemble`).
Extenders may do to the model under construction whatever its operations allow
(`Extender.KeepsReachable`).
-/

namespace FacetModel

/-- What an extender does to a builder are steps of a construction. -/
def Extender.KeepsReachable (e : Extender) : Prop :=
  ∀ b b', b.Reachable → (e b).result = .ok b' → b'.Reachable

theorem Extender.keepsReachable_ofRequests (requests : List BuilderRequest) :
    (Extender.ofRequests requests).KeepsReachable := by
  rintro b _ h ⟨⟩
  exact h.meetAll requests

namespace Assembler

variable {a : Assembler} {host : String} {settings : Settings} {r : Assembled}

/-! ### Facets after the conventions -/

theorem applyNamespace_facets (settings : Settings) (b : Builder) :
    (applyNamespace settings b).entitySets = b.entitySets ∧
      (applyNamespace settings b).singletons = b.singletons := by
  rw [applyNamespace]
  split <;> exact ⟨rfl, rfl⟩

/-- Once the scanned properties have their facets, none is added. -/
theorem conclude_facets (host : String) (settings : Settings) (b : Builder)
    (properties : List ScannedProperty) (operations : List ScannedOperation) :
    (conclude host settings b properties operations).model.entitySets
        = (b.adoptFacets host properties).1.entitySets ∧
      (conclude host settings b properties operations).model.singletons
        = (b.adoptFacets host properties).1.singletons := by
  obtain ⟨hsets, hsingletons⟩ := applyNamespace_facets settings
    ((b.adoptFacets host properties).1.attachOperations operations)
  obtain ⟨added, hbind, -⟩ := (applyNamespace settings
    ((b.adoptFacets host properties).1.attachOperations operations)).exists_added_bind
  rw [conclude]
  dsimp only
  rw [hbind]
  exact ⟨hsets, hsingletons⟩

/-! ### The two ways -/

/-- An assembly without providers: its catalog is read off its model, which has no two facets of one
name. -/
theorem conventions_eq_ofModel (hproviders : a.providers = [])
    (hextenders : ∀ e ∈ a.extenders, e.KeepsReachable) {cancelled : Bool}
    (h : a.assemble host settings cancelled = .ok r) :
    ∃ t properties, a.registry.host? host = some t ∧
      a.registry.scanProperties host settings.rootType settings.ignoredProperties = .ok properties ∧
      r.model.facetNames.Nodup ∧ r.conventions = .ofModel host properties r.model := by
  obtain ⟨t, requests, extended, properties, operations, _, _, ht, hextended, hproperties, rfl⟩ :=
    eq_conclude_of_assemble hproviders h
  have hprepared : ((a.startOf t settings).meetAll requests).Reachable :=
    (Builder.Reachable.start ..).meetAll requests
  have hreachable : extended.Reachable := Assembling.callEach_induction
    (fun e he b b' hresult hb => hextenders e he b b' hb hresult) hextended hprepared
  obtain ⟨hsets, hsingletons⟩ := conclude_facets host settings extended properties operations
  refine ⟨t, properties, ht, hproperties, ?_, ?_⟩
  · rw [Model.facetNames, hsets, hsingletons]
    exact (hreachable.adoptFacets host properties).facetsSound.names
  · exact Builder.snd_adoptFacets_eq_ofModel hreachable host
      (Registry.nodup_scanProperties hproperties) hsets hsingletons

/-- **Construction and provision agree**: if an assembly without providers has a result, then one
whose provider has that model has the same result, convention catalog included. The catalog
describes the model. -/
theorem assemble_model_of_assemble (hproviders : a.providers = [])
    (hextenders : ∀ e ∈ a.extenders, e.KeepsReachable) {cancelled : Bool}
    (h : a.assemble host settings cancelled = .ok r) (hmodel : r.model.isEmpty = false) :
    (∀ (other : Assembler) (provider : Provider) (rest : List Provider),
      other.registry = a.registry → other.providers = provider :: rest →
      (provider { registry := a.registry, hostType := host, settings }).result = .ok (some r.model) →
        other.assemble host settings false = .ok r) ∧
      r.conventions.Describes r.model := by
  obtain ⟨t, properties, ht, hproperties, hnames, hconventions⟩ :=
    conventions_eq_ofModel hproviders hextenders h
  refine ⟨fun other provider rest hregistry hother hprovider => ?_, ?_⟩
  · rw [← hregistry] at ht hproperties hprovider
    rw [assemble_of_model ht hother hprovider hmodel hproperties, ← hconventions]
  · rw [hconventions]
    exact ConventionCatalog.describes_ofModel host (Registry.nodup_scanProperties hproperties) hnames

/-- The shop, constructed and provided. Its property with the name of a registered singleton is not
listed. -/
theorem assemble_model_shop :
    ∃ r, shopAssembler.assemble "Shop" {} false = .ok r ∧
      r.conventions =
        { hostType := "Shop"
          entitySets := [⟨"Customers", "Customer", true⟩, ⟨"Orders", "Order", false⟩] } ∧
      ({ registry := shopRegistry
         providers := [fun _ => { result := .ok (some r.model) }] } : Assembler).assemble "Shop" {}
          false
        = .ok r ∧
      r.conventions.Describes r.model := by
  have hrun : (shopAssembler.assemble "Shop" {} false).map
      (fun r => (r.conventions, r.model.isEmpty)) = .ok
        ({ hostType := "Shop"
           entitySets := [⟨"Customers", "Customer", true⟩, ⟨"Orders", "Order", false⟩] }, false) := by
    cbv
  cases h : shopAssembler.assemble "Shop" {} false with
  | error e =>
    rw [h] at hrun
    cases hrun
  | ok r =>
    rw [h] at hrun
    obtain ⟨hconventions, hmodel⟩ := Prod.mk.inj (Except.ok.inj hrun)
    have hboth := assemble_model_of_assemble rfl
      (List.forall_mem_singleton.2 (Extender.keepsReachable_ofRequests _)) h hmodel
    exact ⟨r, rfl, hconventions, hboth.1 _ _ [] rfl rfl rfl, hboth.2⟩

end Assembler

end FacetModel
