import FacetModel.Proofs.Assembly.Run
import FacetModel.Proofs.Builder.Build
import Mathlib

/-!
# References of assembled models

An assembled model is well-referenced, if its extenders do no more than register types, facets and
keys (`Assembler.wellReferenced_of_assemble`). The builder that they work on is then one that steps
lead to, over the registry of the assembly and without bindings (`Builder.OpenOver`), and all phases
of the assembly keep this until the navigation properties are bound.
-/

namespace FacetModel

/-- Steps lead to the builder, over a registry, and nothing is bound. -/
structure Builder.OpenOver (r : Registry) (b : Builder) : Prop where
  reachable : b.Reachable
  registry : b.registry = r
  bindings : b.bindings = []

namespace Builder.OpenOver

variable {r : Registry} {b : Builder}

/-- Requests change only what is registered, so the builder stays open over its registry. -/
theorem meetAll (h : b.OpenOver r) (requests : List BuilderRequest) :
    (b.meetAll requests).OpenOver r := by
  obtain ⟨types, enumTypes, entitySets, singletons, heq⟩ := b.sameButElements_meetAll requests
  refine ⟨h.reachable.meetAll requests, ?_, ?_⟩
  · rw [heq]
    exact h.registry
  · rw [heq]
    exact h.bindings

theorem adoptFacets (h : b.OpenOver r) (host : String) (scanned : List ScannedProperty) :
    (b.adoptFacets host scanned).1.OpenOver r := by
  obtain ⟨requests, heq⟩ := b.exists_requests_adoptFacets host scanned
  rw [heq]
  exact h.meetAll requests

/-- Attaching operations is a step that touches neither the registry nor bindings. -/
theorem attachOperations (h : b.OpenOver r) (scanned : List ScannedOperation) :
    (b.attachOperations scanned).OpenOver r :=
  ⟨h.reachable.attachOperations scanned, h.registry, h.bindings⟩

/-- Nor does the override of the namespace. -/
theorem applyNamespace (h : b.OpenOver r) (settings : Settings) :
    (Assembler.applyNamespace settings b).OpenOver r := by
  rw [Assembler.applyNamespace]
  split
  · exact ⟨h.reachable.step (.overrideNamespace _), h.registry, h.bindings⟩
  · exact h

end Builder.OpenOver

/-- All that an extender does is to meet requests, for types, enum types, entity sets, singletons
and keys. Which ones may depend on the builder. -/
def Extender.OnlyRequests (e : Extender) : Prop :=
  ∀ b b', (e b).result = .ok b' → ∃ requests, b' = b.meetAll requests

theorem Extender.onlyRequests_ofRequests (requests : List BuilderRequest) :
    (Extender.ofRequests requests).OnlyRequests := by
  rintro b _ ⟨⟩
  exact ⟨requests, rfl⟩

namespace Assembler

variable {a : Assembler} {host : String} {settings : Settings} {r : Assembled}

theorem openOver_startOf (a : Assembler) (t : HostType) (settings : Settings) :
    (a.startOf t settings).OpenOver a.registry :=
  ⟨.start .., rfl, rfl⟩

/-- What is concluded from a builder without bindings refers only to what the model has. -/
theorem wellReferenced_conclude {b : Builder} (h : b.OpenOver a.registry)
    (hr : a.registry.NamesUnique) (host : String) (settings : Settings)
    (properties : List ScannedProperty) (operations : List ScannedOperation) :
    (conclude host settings b properties operations).model.WellReferenced := by
  have hclosed :=
    ((h.adoptFacets host properties).attachOperations operations).applyNamespace settings
  refine hclosed.reachable.wellReferenced_bind ?_ hclosed.bindings
  rw [hclosed.registry]
  exact hr

/-- **No reference of an assembled model is dangling or ambiguous**, whatever the catalog, the host
type, the settings and the preparers are, if no provider has a model and extenders only meet
requests. -/
theorem wellReferenced_of_assemble {c : HostCatalog} (hregistry : c.toRegistry = .ok a.registry)
    (hproviders : a.providers = []) (hextenders : ∀ e ∈ a.extenders, e.OnlyRequests)
    {cancelled : Bool} (h : a.assemble host settings cancelled = .ok r) :
    r.model.WellReferenced := by
  obtain ⟨t, requests, extended, properties, operations, _, _, -, hextended, -, rfl⟩ :=
    eq_conclude_of_assemble hproviders h
  have hprepared : ((a.startOf t settings).meetAll requests).OpenOver a.registry :=
    (a.openOver_startOf t settings).meetAll requests
  have hopen : extended.OpenOver a.registry := by
    refine Assembling.callEach_induction (fun e he b b' hresult hb => ?_) hextended hprepared
    obtain ⟨requests, rfl⟩ := hextenders e he b b' hresult
    exact hb.meetAll requests
  exact wellReferenced_conclude hopen (Registry.namesUnique_toRegistry hregistry) host settings
    properties operations

/-! ### A shop -/

/-- A shop with customers and their orders. A registered singleton has the name of one of its
properties. -/
def shopCatalog : HostCatalog where
  hostTypes :=
    [{ name := "Shop", namespaceName := "Trade"
       properties :=
         [{ name := "Customers", type := .queryable (.reference "Customer"), isStatic := true },
          { name := "Orders", type := .queryable (.reference "Order") },
          { name := "Featured", type := .queryable (.reference "Customer") }] }]
  structuralTypes :=
    [{ name := "Party", namespaceName := "Trade"
       properties := [{ name := "Id", type := .primitive .int32 }] },
     { name := "Customer", namespaceName := "Trade", base := some "Party"
       properties :=
         [{ name := "Level", type := .reference "Level" },
          { name := "Orders", type := .collection (.reference "Order") }] },
     { name := "Order", namespaceName := "Trade"
       properties :=
         [{ name := "OrderId", type := .primitive .int32 },
          { name := "Buyer", type := .reference "Customer" }] }]
  enumTypes := [{ name := "Level", namespaceName := "Trade", members := ["Basic", "Gold"] }]
  registration := { singletons := [{ name := "Featured", typeName := "Customer" }] }

/-- The registry of the shop. -/
def shopRegistry : Registry := shopCatalog.toRegistry.toOption.getD .empty

theorem toRegistry_shopCatalog : shopCatalog.toRegistry = .ok shopRegistry := by cbv

/-- The assembler of the shop. -/
def shopAssembler : Assembler := ofCatalog shopRegistry shopCatalog

/-- The model of the shop is well-referenced, with bindings from its three facets. -/
theorem wellReferenced_shop :
    ∃ r, shopAssembler.assemble "Shop" {} false = .ok r ∧
      r.model.bindings =
        [⟨.entitySet "Customers", "Customer", "Orders", .entitySet "Orders"⟩,
         ⟨.entitySet "Orders", "Order", "Buyer", .entitySet "Customers"⟩,
         ⟨.singleton "Featured", "Customer", "Orders", .entitySet "Orders"⟩] ∧
      r.model.WellReferenced := by
  have hrun : (shopAssembler.assemble "Shop" {} false).map (·.model.bindings) = .ok
      [⟨.entitySet "Customers", "Customer", "Orders", .entitySet "Orders"⟩,
       ⟨.entitySet "Orders", "Order", "Buyer", .entitySet "Customers"⟩,
       ⟨.singleton "Featured", "Customer", "Orders", .entitySet "Orders"⟩] := by cbv
  cases h : shopAssembler.assemble "Shop" {} false with
  | error e =>
    rw [h] at hrun
    cases hrun
  | ok r =>
    rw [h] at hrun
    exact ⟨r, rfl, Except.ok.inj hrun, wellReferenced_of_assemble toRegistry_shopCatalog rfl
      (List.forall_mem_singleton.2 (Extender.onlyRequests_ofRequests _)) h⟩

end Assembler

end FacetModel
