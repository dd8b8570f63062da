import FacetModel.Proofs.Assembly.Cancellation
import Mathlib

/-!
# Failures of an assembly

Elements of a catalog that cannot be resolved are left out of the model. What is left to fail, if no
hook does, is the walk along the bases of the host type: a provider's model and the conventions both
read the properties of the host type, and so fail as this walk does (`SameErrors`).
`Assembler.failure_of_hostChain` says when an assembly fails, and with which error.
-/

namespace FacetModel

/-! ### Results that fail alike -/

section SameErrors

variable {α β γ : Type}

/-- Two results have the same error, or none. -/
def SameErrors (x : Except CatalogError α) (y : Except CatalogError β) : Prop :=
  ∀ e, x = .error e ↔ y = .error e

theorem SameErrors.trans {x : Except CatalogError α} {y : Except CatalogError β}
    {z : Except CatalogError γ} (hxy : SameErrors x y) (hyz : SameErrors y z) : SameErrors x z :=
  fun e => (hxy e).trans (hyz e)

theorem sameErrors_map (x : Except CatalogError α) (f : α → β) : SameErrors (x.map f) x := by
  intro e
  cases x <;> simp [Except.map]

/-- What has the same errors succeeds together. -/
theorem SameErrors.exists_ok_iff {x : Except CatalogError α} {y : Except CatalogError β}
    (h : SameErrors x y) : (∃ a, x = .ok a) ↔ ∃ b, y = .ok b := by
  cases x with
  | error e => simp [(h e).1 rfl]
  | ok a =>
    cases y with
    | error e => cases (h e).2 rfl
    | ok b => simp

end SameErrors

namespace Registry

variable {r : Registry} {host root : String}

/-- A scan of properties fails as the walk along the host types does. -/
theorem sameErrors_scanProperties (r : Registry) (host root : String) (ignored : List String) :
    SameErrors (r.scanProperties host root ignored) (r.hostChain host root) := by
  intro e
  rw [scanProperties]
  cases r.hostChain host root <;> simp

theorem sameErrors_scanOperations (r : Registry) (host root : String) :
    SameErrors (r.scanOperations host root) (r.hostChain host root) := by
  intro e
  rw [scanOperations]
  cases r.hostChain host root <;> simp

/-- Bases that cannot be walked keep a service from starting. -/
theorem isFatal_of_chainFrom {met : List String} {name : String} {e : CatalogError}
    (h : r.chainFrom host root met name = .error e) : e.isFatal = true := by
  fun_induction chainFrom r host root met name with
  | case1 => cases h; rfl
  | case2 => cases h; rfl
  | case3 => cases h; rfl
  | case4 => cases h
  | case5 => cases h
  | case6 => cases h
  | case7 met name hname t ht base hbase hroot other hother ih =>
    cases h
    exact ih hother

/-- No error of this walk is passed over. -/
theorem isFatal_of_hostChain {e : CatalogError} (h : r.hostChain host root = .error e) :
    e.isFatal = true := by
  rw [hostChain] at h
  split at h
  · cases h
  · exact isFatal_of_chainFrom h

end Registry

/-! ### Hooks that succeed -/

/-- A hook has a result, and does not cancel the assembly. -/
structure Response.Succeeds {α : Type} (r : Response α) : Prop where
  live : r.cancels = false
  ok : ∃ a, r.result = .ok a

namespace Assembling

/-- Hooks that succeed have replies that succeed, each on what those before it made. -/
theorem succeeds_repliesOfEach {α : Type} {hooks : List (α → Response α)}
    (h : ∀ hook ∈ hooks, ∀ a, (hook a).Succeeds) (position : Nat → HookPosition) (index : Nat)
    (a : α) : ∀ reply ∈ repliesOfEach position index hooks a, reply.Succeeds := by
  induction hooks generalizing index a with
  | nil => exact nofun
  | cons hook rest ih =>
    obtain ⟨hhook, hrest⟩ := List.forall_mem_cons.1 h
    obtain ⟨b, hb⟩ := (hhook a).ok
    rw [repliesOfEach, hb]
    refine List.forall_mem_cons.2 ⟨⟨(hhook a).live, none, ?_⟩, ih hrest (index + 1) b⟩
    rw [Reply.ofResponse, hb]
    rfl

/-- Providers that succeed have replies that succeed, with or without a model. -/
theorem succeeds_repliesOfProviders {providers : List Provider} {context : AssemblyContext}
    (h : ∀ provider ∈ providers, (provider context).Succeeds) (index : Nat) :
    ∀ reply ∈ repliesOfProviders context index providers, reply.Succeeds := by
  induction providers generalizing index with
  | nil => exact nofun
  | cons provider rest ih =>
    obtain ⟨hprovider, hrest⟩ := List.forall_mem_cons.1 h
    obtain ⟨found, hfound⟩ := hprovider.ok
    rw [repliesOfProviders]
    refine List.forall_mem_cons.2 ⟨⟨hprovider.live, found.filter (!·.isEmpty), ?_⟩,
      ih hrest (index + 1)⟩
    rw [Reply.ofResponse, hfound]
    rfl

end Assembling

namespace Assembler

open Assembling

variable {a : Assembler} {host : String} {settings : Settings}

/-- No hook fails or cancels the assembly, whatever it is called with. -/
structure HooksSucceed (a : Assembler) : Prop where
  providers : ∀ provider ∈ a.providers, ∀ context, (provider context).Succeeds
  preparers : ∀ preparer ∈ a.preparers, ∀ context, (preparer context).Succeeds
  extenders : ∀ extender ∈ a.extenders, ∀ b, (extender b).Succeeds

/-- If all hooks succeed, no reply stops an assembly with an error. -/
theorem HooksSucceed.replies (h : a.HooksSucceed) (host : String) (settings : Settings)
    (t : HostType) : ∀ reply ∈ a.replies host settings t, reply.Succeeds := by
  intro reply hreply
  rw [Assembler.replies, repliesOfConstruct, List.mem_append, List.mem_append] at hreply
  rcases hreply with hreply | hreply | hreply
  · exact succeeds_repliesOfProviders (fun provider hp => h.providers provider hp _) 0 reply hreply
  · exact succeeds_repliesOfEach h.preparers .preparer 0 _ reply hreply
  -- extenders are called only once all preparers have succeeded
  · cases hprepared : resultOfEach a.preparers
      { registry := a.registry, hostType := host, settings } with
    | error e =>
      rw [hprepared] at hreply
      cases hreply
    | ok prepared =>
      rw [hprepared] at hreply
      exact succeeds_repliesOfEach h.extenders .extender 0 _ reply hreply

/-! ### Failures of the parts -/

/-- Adopting a model fails only as the scan of properties does. -/
theorem sameErrors_adopted (a : Assembler) (host : String) (settings : Settings) (model : Model) :
    SameErrors (a.adopted host settings model) (a.registry.hostChain host settings.rootType) :=
  (sameErrors_map _ _).trans (a.registry.sameErrors_scanProperties _ _ _)

/-- The conventions fail as the walk along the bases does, for the properties and the operations. -/
theorem sameErrors_applyConventions (a : Assembler) (host : String) (settings : Settings)
    (b : Builder) {p : Progress} (hp : p.cancelled = false) :
    SameErrors (a.applyConventions host settings b p).1
      (a.registry.hostChain host settings.rootType) := by
  intro e
  cases hchain : a.registry.hostChain host settings.rootType with
  | error other =>
    -- the scan of the properties fails, so operations are not scanned
    have hscan : ofExcept (a.registry.scanProperties host settings.rootType
        settings.ignoredProperties) p = (.error other, p) :=
      congrArg (·, p) ((a.registry.sameErrors_scanProperties _ _ _ other).2 hchain)
    rw [applyConventions, bind_of_ok (a := ()) (step_eq_ok.2 ⟨hp, rfl⟩), bind_of_error hscan]
    simp
  | ok chain =>
    obtain ⟨properties, hproperties⟩ : ∃ properties, a.registry.scanProperties host
        settings.rootType settings.ignoredProperties = .ok properties :=
      (a.registry.sameErrors_scanProperties _ _ _).exists_ok_iff.2 ⟨chain, hchain⟩
    obtain ⟨operations, hoperations⟩ : ∃ operations, a.registry.scanOperations host
        settings.rootType = .ok operations :=
      (a.registry.sameErrors_scanOperations _ _).exists_ok_iff.2 ⟨chain, hchain⟩
    rw [applyConventions_of_ok hp hproperties hoperations]
    simp

/-- An assembly of a declared host type fails as the walk along its bases does, on the way of a
provider's model and on that of the conventions. -/
theorem sameErrors_assemble (h : a.HooksSucceed) {t : HostType}
    (ht : a.registry.host? host = some t) :
    SameErrors (a.assemble host settings false)
      (a.registry.hostChain host settings.rootType) := by
  obtain ⟨b, hobeys⟩ := obeys_assembling settings ht
  rw [assemble]
  cases hfind : (a.replies host settings t).find? Reply.stops with
  | some reply =>
    have hmem : reply ∈ a.replies host settings t := List.mem_of_find?_eq_some hfind
    have hsucceeds : reply.Succeeds := h.replies host settings t reply hmem
    obtain ⟨found, hfound⟩ := hsucceeds.ok
    rw [hobeys.stop _ rfl reply hfind, Reply.outcome, hfound]
    cases found with
    | some model => exact a.sameErrors_adopted host settings model
    | none =>
      -- a reply that succeeds stops the assembly only by a model
      have hgo : reply.stops = false := Reply.stops_eq_false_iff.2 ⟨hsucceeds.live, hfound⟩
      rw [List.find?_some hfind] at hgo
      cases hgo
  | none =>
    rw [hobeys.go _ rfl hfind, Progress.after_of_find?_eq_none hfind]
    exact a.sameErrors_applyConventions host settings b rfl

/-- **Assembly fails only for a broken host chain.** If no hook fails or cancels the assembly, it
has a result exactly if the host type is declared and its bases can be walked up to the root. Else
it fails with the error of this walk, or because the host type is not declared; either error keeps
the service from starting. -/
theorem failure_of_hostChain (h : a.HooksSucceed) (host : String) (settings : Settings) :
    let run := a.assemble host settings false
    let chain := a.registry.hostChain host settings.rootType
    ((∃ r, run = .ok r) ↔ (∃ t, a.registry.host? host = some t) ∧ ∃ types, chain = .ok types) ∧
      (a.registry.host? host = none → run = .error (.hostTypeNotFound host)) ∧
      (∀ t, a.registry.host? host = some t → ∀ e, run = .error e ↔ chain = .error e) ∧
      ∀ e, run = .error e → e.isFatal = true := by
  intro run chain
  cases ht : a.registry.host? host with
  | none =>
    have hrun : run = .error (.hostTypeNotFound host) :=
      congrArg Prod.fst (assembling_of_host?_eq_none ht)
    rw [hrun]
    refine ⟨by simp, fun _ => rfl, nofun, fun e he => ?_⟩
    cases he
    rfl
  | some t =>
    have hsame : SameErrors run chain := sameErrors_assemble h ht
    refine ⟨?_, nofun, fun _ _ => hsame, fun e he => Registry.isFatal_of_hostChain ((hsame e).1 he)⟩
    rw [hsame.exists_ok_iff]
    simp

/-! ### A patchy catalog -/

/-- Facets of undeclared types, types derived from each other, an operation that is called on
nothing, and a base that is missing. -/
def patchyRegistry : Registry where
  hostTypes := NameMap.empty.insert "Shop"
    { name := "Shop", namespaceName := "Trade", base := some "Store"
      properties :=
        [{ name := "Ghosts", type := .queryable (.reference "Ghost") },
         { name := "Orders", type := .queryable (.reference "Order") },
         { name := "Parcels", type := .queryable (.reference "Parcel") }]
      methods :=
        [{ name := "Haunt", returns := .reference "Ghost"
           operation := some { isBound := true } }] }
  structuralTypes :=
    (NameMap.empty.insert "Order"
      { name := "Order", namespaceName := "Trade", base := some "Parcel"
        properties := [{ name := "Parts", type := .collection (.reference "Order") }] }).insert
      "Parcel" { name := "Parcel", namespaceName := "Trade", base := some "Order" }

/-- The assembler of the patchy catalog. Its hooks ask for more that is not there, and for a
singleton of a name that a property has too. -/
def patchyAssembler (found : Option Model) : Assembler where
  registry := patchyRegistry
  providers := [fun _ => { result := .ok found }]
  preparers :=
    [fun c =>
      { result := .ok { c with entitySetTypes := c.entitySetTypes.insert "Phantoms" "Ghost" } }]
  extenders := [.ofRequests [.singleton "Orders" "Order" .registered, .key "Ghost" "Id"]]

theorem hooksSucceed_patchyAssembler (found : Option Model) :
    (patchyAssembler found).HooksSucceed where
  providers := List.forall_mem_singleton.2 fun _ => ⟨rfl, found, rfl⟩
  preparers := List.forall_mem_singleton.2 fun _ => ⟨rfl, _, rfl⟩
  extenders := List.forall_mem_singleton.2 fun _ => ⟨rfl, _, rfl⟩

/-- A model with nothing but an enum type. -/
def levelModel : Model :=
  { namespaceName := "Trade", containerName := "Container"
    enumTypes := [{ name := "Level", namespaceName := "Trade" }] }

/-- Of all that is wrong with the patchy catalog only the missing base makes an assembly fail, and
only if it is not the root; so with a provider's model and without one. -/
theorem failure_patchy :
    (∃ r, (patchyAssembler none).assemble "Shop" { rootType := "Store" } false = .ok r) ∧
      (∃ r, (patchyAssembler (some levelModel)).assemble "Shop" { rootType := "Store" } false
        = .ok r) ∧
      (patchyAssembler none).assemble "Shop" {} false
        = .error (.baseTypeNotFound "Shop" "Store") ∧
      (patchyAssembler (some levelModel)).assemble "Shop" {} false
        = .error (.baseTypeNotFound "Shop" "Store") ∧
      (patchyAssembler none).assemble "Store" {} false = .error (.hostTypeNotFound "Store") := by
  have hwalked : ∃ types, patchyRegistry.hostChain "Shop" "Store" = .ok types := by
    have hok : (patchyRegistry.hostChain "Shop" "Store").isOk = true := by cbv
    cases h : patchyRegistry.hostChain "Shop" "Store" with
    | ok types => exact ⟨types, rfl⟩
    | error e =>
      rw [h] at hok
      cases hok
  have hbroken : patchyRegistry.hostChain "Shop" "ApiBase"
      = .error (.baseTypeNotFound "Shop" "Store") := by cbv
  have hat : ∀ found, _ := fun found =>
    failure_of_hostChain (hooksSucceed_patchyAssembler found) "Shop" { rootType := "Store" }
  have hbelow : ∀ found, _ := fun found =>
    failure_of_hostChain (hooksSucceed_patchyAssembler found) "Shop" {}
  have hundeclared := failure_of_hostChain (hooksSucceed_patchyAssembler none) "Store" {}
  exact ⟨(hat none).1.2 ⟨⟨_, rfl⟩, hwalked⟩, (hat (some levelModel)).1.2 ⟨⟨_, rfl⟩, hwalked⟩,
    ((hbelow none).2.2.1 _ rfl _).2 hbroken, ((hbelow (some levelModel)).2.2.1 _ rfl _).2 hbroken,
    hundeclared.2.1 rfl⟩

end Assembler

end FacetModel
