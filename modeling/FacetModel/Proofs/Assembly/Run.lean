import FacetModel.Assembly

/-!
# Runs of an assembly

A part of an assembly has a result exactly if all its steps have one. For the ways to put parts
together this is said by one equivalence each (`Assembling.bind_eq_ok` and the lemmas after it).
They read a run in both directions: from its result to the results of its steps, and back.

`Assembler.exists_prepared_of_assemble` says what a whole assembly without providers consists of,
and `Assembler.assemble_of_model` what comes of a provider that has a model.
-/

namespace FacetModel

namespace Assembling

variable {α β : Type} {p q : Progress}

/-! ### Parts of an assembly -/

theorem bind_of_ok {first : Assembling α} {next : α → Assembling β} {a : α} {p' : Progress}
    (h : first p = (.ok a, p')) : (first >>= next) p = next a p' := by
  change andThen first next p = _
  rw [andThen, h]

/-- A run succeeds in two parts exactly if both do, one after the other. -/
theorem bind_eq_ok {first : Assembling α} {next : α → Assembling β} {b : β} :
    (first >>= next) p = (.ok b, q) ↔
      ∃ a p', first p = (.ok a, p') ∧ next a p' = (.ok b, q) := by
  constructor
  · intro h
    change andThen first next p = _ at h
    rw [andThen] at h
    split at h
    · rename_i a p' hfirst
      exact ⟨a, p', hfirst, h⟩
    · cases h
  · rintro ⟨a, p', hfirst, h⟩
    rw [bind_of_ok hfirst, h]

theorem pure_eq_ok {a b : α} : (pure a : Assembling α) p = (.ok b, q) ↔ a = b ∧ p = q := by
  change ((Except.ok a : Except CatalogError α), p) = (.ok b, q) ↔ _
  rw [Prod.mk.injEq, Except.ok.injEq]

theorem ofExcept_eq_ok {r : Except CatalogError α} {a : α} :
    ofExcept r p = (.ok a, q) ↔ r = .ok a ∧ p = q := by
  rw [ofExcept, Prod.mk.injEq]

/-- A step checks for cancellation and changes nothing. -/
theorem step_eq_ok {u : Unit} : step p = (.ok u, q) ↔ p.cancelled = false ∧ p = q := by
  rw [step]
  cases p.cancelled with
  | true => simp
  | false => simp

/-- A call succeeds by the result of the hook; it is recorded, and may cancel what follows. -/
theorem call_eq_ok {hook : HookPosition} {r : Response α} {a : α} :
    call hook r p = (.ok a, q) ↔
      r.result = .ok a ∧
        { cancelled := p.cancelled || r.cancels, calls := p.calls ++ [hook] } = q := by
  rw [call, Prod.mk.injEq]

/-! ### Hooks -/

/-- **Induction on the calls of some hooks**: what each of them keeps holds of the result. -/
theorem callEach_induction {position : Nat → HookPosition} {hooks : List (α → Response α)}
    {P : α → Prop}
    (hstep : ∀ hook ∈ hooks, ∀ x y, (hook x).result = .ok y → P x → P y) {index : Nat} {a a' : α}
    (h : callEach position index hooks a p = (.ok a', q)) (ha : P a) : P a' := by
  induction hooks generalizing index a p with
  | nil =>
    obtain ⟨rfl, -⟩ := pure_eq_ok.1 h
    exact ha
  | cons hook rest ih =>
    obtain ⟨-, _, -, h⟩ := bind_eq_ok.1 h
    obtain ⟨next, _, hcall, h⟩ := bind_eq_ok.1 h
    have hresult := (call_eq_ok.1 hcall).1
    exact ih (fun other hother => hstep other (List.mem_cons_of_mem hook hother)) h
      (hstep hook List.mem_cons_self a next hresult ha)

/-- A provider with a model that is not empty is the last one that is asked. -/
theorem askEach_of_model {context : AssemblyContext} {provider : Provider}
    {rest : List Provider} {model : Model} {index : Nat} (hlive : p.cancelled = false)
    (hprovider : (provider context).result = .ok (some model)) (hmodel : model.isEmpty = false) :
    ∃ q, askEach context index (provider :: rest) p = (.ok (some model), q) := by
  rw [askEach, bind_of_ok (a := ()) (step_eq_ok.2 ⟨hlive, rfl⟩),
    bind_of_ok (call_eq_ok.2 ⟨hprovider, rfl⟩)]
  simp only [hmodel, Bool.false_eq_true, if_false]
  exact ⟨_, rfl⟩

end Assembling

/-! ### Whole assemblies -/

namespace Assembler

open Assembling

variable {a : Assembler} {host : String} {settings : Settings} {p q : Progress} {r : Assembled}

/-- What the conventions make of a builder, with the properties and operations that were scanned. -/
def conclude (host : String) (settings : Settings) (b : Builder)
    (properties : List ScannedProperty) (operations : List ScannedOperation) : Assembled :=
  let (adopted, conventions) := b.adoptFacets host properties
  { model := (applyNamespace settings (adopted.attachOperations operations)).bind.build, conventions }

/-- If the conventions are applied with success, then both scans were, and the assembly is concluded
from what they found. -/
theorem eq_conclude_of_applyConventions {b : Builder}
    (h : a.applyConventions host settings b p = (.ok r, q)) :
    ∃ properties operations,
      a.registry.scanProperties host settings.rootType settings.ignoredProperties
        = .ok properties ∧
      a.registry.scanOperations host settings.rootType = .ok operations ∧
      r = conclude host settings b properties operations := by
  -- steps and scans take turns, and the steps have no values
  obtain ⟨-, _, -, h⟩ := bind_eq_ok.1 h
  obtain ⟨properties, _, hproperties, h⟩ := bind_eq_ok.1 h
  obtain ⟨-, _, -, h⟩ := bind_eq_ok.1 h
  obtain ⟨operations, _, hoperations, h⟩ := bind_eq_ok.1 h
  obtain ⟨-, _, -, h⟩ := bind_eq_ok.1 h
  exact ⟨properties, operations, (ofExcept_eq_ok.1 hproperties).1, (ofExcept_eq_ok.1 hoperations).1,
    (pure_eq_ok.1 h).1.symm⟩

/-- Conversely, with both scans and without cancellation the conventions are applied. -/
theorem applyConventions_of_ok {b : Builder} {properties : List ScannedProperty}
    {operations : List ScannedOperation} (hlive : p.cancelled = false)
    (hproperties : a.registry.scanProperties host settings.rootType settings.ignoredProperties
      = .ok properties)
    (hoperations : a.registry.scanOperations host settings.rootType = .ok operations) :
    a.applyConventions host settings b p
      = (.ok (conclude host settings b properties operations), p) := by
  have hstep : step p = (.ok (), p) := step_eq_ok.2 ⟨hlive, rfl⟩
  rw [applyConventions, bind_of_ok hstep, bind_of_ok (ofExcept_eq_ok.2 ⟨hproperties, rfl⟩)]
  dsimp only
  rw [bind_of_ok hstep, bind_of_ok (ofExcept_eq_ok.2 ⟨hoperations, rfl⟩), bind_of_ok hstep]
  rfl

/-- The builder with which an assembly begins. -/
def startOf (a : Assembler) (host : HostType) (settings : Settings) : Builder :=
  { registry := a.registry, namespaceName := namespaceOf settings host,
    containerName := settings.containerName }

/-- The phases of an assembly without providers: preparers are called, extenders work on a builder
that met the requests of what they found, and the conventions conclude with what is scanned. -/
theorem exists_prepared_of_assemble (hproviders : a.providers = []) {cancelled : Bool}
    (h : a.assemble host settings cancelled = .ok r) :
    ∃ t prepared extended properties operations p q p' q',
      a.registry.host? host = some t ∧
      callEach .preparer 0 a.preparers { registry := a.registry, hostType := host, settings } p
        = (.ok prepared, q) ∧
      callEach .extender 0 a.extenders ((a.startOf t settings).meetAll prepared.requests) p'
        = (.ok extended, q') ∧
      a.registry.scanProperties host settings.rootType settings.ignoredProperties
        = .ok properties ∧
      a.registry.scanOperations host settings.rootType = .ok operations ∧
      r = conclude host settings extended properties operations := by
  rw [assemble] at h
  obtain ⟨q, hrun⟩ : ∃ q, a.assembling host settings { cancelled } = (.ok r, q) :=
    ⟨_, Prod.ext h rfl⟩
  rw [assembling] at hrun
  obtain ⟨-, _, -, hrun⟩ := bind_eq_ok.1 hrun
  cases ht : a.registry.host? host with
  | none =>
    simp only [ht] at hrun
    cases (ofExcept_eq_ok.1 hrun).1
  | some t =>
    simp only [ht, hproviders] at hrun
    obtain ⟨found, _, hasked, hrun⟩ := bind_eq_ok.1 hrun
    -- there are no providers to ask, so no model is found
    obtain ⟨rfl, -⟩ := pure_eq_ok.1 hasked
    obtain ⟨prepared, _, hprepared, hrun⟩ := bind_eq_ok.1 hrun
    obtain ⟨extended, _, hextended, hrun⟩ := bind_eq_ok.1 hrun
    obtain ⟨properties, operations, hproperties, hoperations, rfl⟩ :=
      eq_conclude_of_applyConventions hrun
    exact ⟨t, prepared, extended, properties, operations, _, _, _, _, rfl, hprepared, hextended,
      hproperties, hoperations, rfl⟩

/-- The phases of an assembly without providers, whatever preparers found. -/
theorem exists_phases_of_assemble (hproviders : a.providers = []) {cancelled : Bool}
    (h : a.assemble host settings cancelled = .ok r) :
    ∃ t requests extended properties operations p q,
      a.registry.host? host = some t ∧
      callEach .extender 0 a.extenders ((a.startOf t settings).meetAll requests) p
        = (.ok extended, q) ∧
      a.registry.scanProperties host settings.rootType settings.ignoredProperties
        = .ok properties ∧
      a.registry.scanOperations host settings.rootType = .ok operations ∧
      r = conclude host settings extended properties operations := by
  obtain ⟨t, prepared, extended, properties, operations, _, _, p, q, ht, -, hextended, hconclude⟩ :=
    exists_prepared_of_assemble hproviders h
  exact ⟨t, prepared.requests, extended, properties, operations, p, q, ht, hextended, hconclude⟩

/-- **An assembly without providers** is concluded by the conventions, whatever operations are
scanned. -/
theorem eq_conclude_of_assemble (hproviders : a.providers = []) {cancelled : Bool}
    (h : a.assemble host settings cancelled = .ok r) :
    ∃ t requests extended properties operations p q,
      a.registry.host? host = some t ∧
      callEach .extender 0 a.extenders ((a.startOf t settings).meetAll requests) p
        = (.ok extended, q) ∧
      a.registry.scanProperties host settings.rootType settings.ignoredProperties
        = .ok properties ∧
      r = conclude host settings extended properties operations := by
  obtain ⟨t, requests, extended, properties, operations, p, q, ht, hextended, hproperties, -, hr⟩ :=
    exists_phases_of_assemble hproviders h
  exact ⟨t, requests, extended, properties, operations, p, q, ht, hextended, hproperties, hr⟩

/-- **An assembly with a provider that has a model**: this model is the result, with the scanned
properties behind its facets. -/
theorem assemble_of_model {t : HostType} (ht : a.registry.host? host = some t)
    {provider : Provider} {rest : List Provider} (hproviders : a.providers = provider :: rest)
    {model : Model}
    (hprovider : (provider { registry := a.registry, hostType := host, settings }).result
      = .ok (some model))
    (hmodel : model.isEmpty = false) {properties : List ScannedProperty}
    (hproperties : a.registry.scanProperties host settings.rootType settings.ignoredProperties
      = .ok properties) :
    a.assemble host settings false =
      .ok { model, conventions := .ofModel host properties model } := by
  obtain ⟨q, hasked⟩ : ∃ q, askEach { registry := a.registry, hostType := host, settings } 0
      (provider :: rest) { cancelled := false } = (.ok (some model), q) :=
    askEach_of_model rfl hprovider hmodel
  rw [← hproviders] at hasked
  rw [assemble, assembling, bind_of_ok (a := ()) (step_eq_ok.2 ⟨rfl, rfl⟩)]
  simp only [ht]
  rw [bind_of_ok hasked]
  simp only [adopt]
  rw [bind_of_ok (ofExcept_eq_ok.2 ⟨hproperties, rfl⟩)]
  rfl

end Assembler

end FacetModel
