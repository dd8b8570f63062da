import FacetModel.Proofs.Assembly.References
import FacetModel.Proofs.Builder.Namespaces

/-!
# Assemblies in another namespace

Settings may give a namespace in place of that of the host type. Two assemblies that differ in this
run in step (`Assembling.InStep`): they call the same hooks, and fail together. What they work on
are twins (`Builder.Twins`), builders that differ in their own namespace only, until operations are
attached and the namespaces of types replaced. So the models differ in namespaces and in nothing
else (`Assembler.assemble_renamed`).

This takes hooks that do not see the namespace: preparers that ignore the settings, and extenders
that do no more than ask for types, facets and keys (`Extender.OnlyAsks`).
-/

namespace FacetModel

/-! ### Runs in step -/

section InStep

variable {α α' β β' : Type}

/-- Two results are values that are related, or the same error. -/
inductive ResultsAgree (R : α → β → Prop) : Except CatalogError α → Except CatalogError β → Prop
  | ok {a : α} {b : β} (h : R a b) : ResultsAgree R (.ok a) (.ok b)
  | error (e : CatalogError) : ResultsAgree R (.error e) (.error e)

theorem ResultsAgree.imp {R S : α → β → Prop} {x : Except CatalogError α}
    {y : Except CatalogError β} (h : ResultsAgree R x y) (himp : ∀ a b, R a b → S a b) :
    ResultsAgree S x y := by
  cases h with
  | ok h => exact .ok (himp _ _ h)
  | error e => exact .error e

theorem ResultsAgree.exists_of_ok {R : α → β → Prop} {a : α} {y : Except CatalogError β}
    (h : ResultsAgree R (.ok a) y) : ∃ b, y = .ok b ∧ R a b := by
  cases h with
  | ok h => exact ⟨_, rfl, h⟩

/-- Two hooks cancel the assembly alike, and their results agree. -/
structure Response.Agree (R : α → β → Prop) (r : Response α) (r' : Response β) : Prop where
  cancels : r.cancels = r'.cancels
  result : ResultsAgree R r.result r'.result

namespace Assembling

variable {R : α → β → Prop} {S : α' → β' → Prop}

/-- From every progress two parts come to the same progress, and their results agree. -/
def InStep (R : α → β → Prop) (x : Assembling α) (y : Assembling β) : Prop :=
  ∀ p : Progress, (x p).2 = (y p).2 ∧ ResultsAgree R (x p).1 (y p).1

/-- A part of an assembly is in step with itself. -/
theorem inStep_refl (x : Assembling α) : InStep (· = ·) x x := by
  intro p
  refine ⟨rfl, ?_⟩
  cases (x p).1 with
  | error e => exact .error e
  | ok a => exact .ok rfl

theorem InStep.imp {S : α → β → Prop} {x : Assembling α} {y : Assembling β} (h : InStep R x y)
    (himp : ∀ a b, R a b → S a b) : InStep S x y :=
  fun p => ⟨(h p).1, (h p).2.imp himp⟩

theorem inStep_pure {a : α} {b : β} (h : R a b) : InStep R (pure a) (pure b) :=
  fun _ => ⟨rfl, .ok h⟩

/-- A result that both assemblies have is no step, and they go on with the same value. -/
theorem inStep_ofExcept (r : Except CatalogError α) :
    InStep (fun a b => r = .ok a ∧ a = b) (ofExcept r) (ofExcept r) := by
  intro p
  refine ⟨rfl, ?_⟩
  rw [ofExcept]
  cases r with
  | error e => exact .error e
  | ok a => exact .ok ⟨rfl, rfl⟩

/-- Parts in step go on in step. -/
theorem InStep.bind {x : Assembling α} {y : Assembling β} {f : α → Assembling α'}
    {g : β → Assembling β'} (hfirst : InStep R x y) (hnext : ∀ a b, R a b → InStep S (f a) (g b)) :
    InStep S (x >>= f) (y >>= g) := by
  intro p
  obtain ⟨hprogress, hresults⟩ := hfirst p
  change (andThen x f p).2 = (andThen y g p).2 ∧ ResultsAgree S (andThen x f p).1 (andThen y g p).1
  rw [andThen, andThen]
  rcases hx : x p with ⟨rx, q⟩
  rcases hy : y p with ⟨ry, q'⟩
  -- the first parts have left the same progress, and both have results or the same error
  rw [hx, hy] at hprogress hresults
  cases hprogress
  cases hresults with
  | ok h => exact hnext _ _ h q
  | error e => exact ⟨rfl, .error e⟩

/-- Hooks that agree are called in step: they cancel together, and have results that agree. -/
theorem inStep_call (hook : HookPosition) {r : Response α} {r' : Response β} (h : r.Agree R r') :
    InStep R (call hook r) (call hook r') := by
  intro p
  rw [call, call, h.cancels]
  exact ⟨rfl, h.result⟩

/-- Hooks that agree on related values are called in step. -/
theorem inStep_callEach {R : α → α → Prop} (position : Nat → HookPosition)
    {hooks : List (α → Response α)}
    (h : ∀ hook ∈ hooks, ∀ a a', R a a' → (hook a).Agree R (hook a'))
    (index : Nat) {a a' : α} (ha : R a a') :
    InStep R (callEach position index hooks a) (callEach position index hooks a') := by
  induction hooks generalizing index a a' with
  | nil => exact inStep_pure ha
  | cons hook rest ih =>
    obtain ⟨hhook, hrest⟩ := List.forall_mem_cons.1 h
    rw [callEach, callEach]
    refine (inStep_refl step).bind fun _ _ _ => ?_
    exact (inStep_call (position index) (hhook a a' ha)).bind fun _ _ hb => ih hrest (index + 1) hb

end Assembling

end InStep

/-! ### Hooks that do not see the namespace -/

/-- What a preparer does has nothing to do with the settings. -/
def Preparer.IgnoresSettings (prepare : Preparer) : Prop :=
  ∀ (c : AssemblyContext) (settings : Settings),
    (prepare c).Agree (fun d d' => ∃ settings, d' = { d with settings })
      (prepare { c with settings })

/-- How an extender asks for types, facets and keys: what it asks next, and how it ends, may depend
on the answers, which tell whether a request was met. -/
inductive RequestPlan where
  | done (response : Response Unit)
  | ask (request : BuilderRequest) (next : Bool → RequestPlan)

/-- The extender that follows a plan. -/
def RequestPlan.run : RequestPlan → Extender
  | .done response, b => { response with result := response.result.map fun _ => b }
  | .ask request next, b => (next (b.meet? request).isSome).run (b.meet request)

/-- All that an extender does is to ask for types, enum types, entity sets, singletons and keys.
Unlike one that only makes requests (`Extender.OnlyRequests`), it sees nothing of the builder but
its answers. -/
def Extender.OnlyAsks (e : Extender) : Prop := ∃ plan : RequestPlan, e = plan.run

/-- An extender that is a list of requests asks for one after the other, whatever the answers are.
-/
theorem Extender.onlyAsks_ofRequests (requests : List BuilderRequest) :
    (Extender.ofRequests requests).OnlyAsks := by
  refine ⟨requests.foldr (fun request plan => .ask request fun _ => plan)
    (.done { result := .ok () }), funext fun b => ?_⟩
  induction requests generalizing b with
  | nil => rfl
  | cons request rest ih => exact ih (b.meet request)

/-! ### Twins -/

namespace Builder

/-- Two builders without operations that differ in their own namespace only. -/
structure Twins (namespaceName other : String) (b b' : Builder) : Prop where
  namespaceName : b.namespaceName = namespaceName
  operations : b.operations = []
  twin : b' = b.withNamespace other

variable {namespaceName other : String} {b b' : Builder}

/-- Requests make twins of twins. -/
theorem Twins.meetAll (h : b.Twins namespaceName other b') (requests : List BuilderRequest) :
    (b.meetAll requests).Twins namespaceName other (b'.meetAll requests) := by
  obtain ⟨types, enumTypes, entitySets, singletons, heq⟩ := b.sameButElements_meetAll requests
  refine ⟨?_, ?_, ?_⟩
  · rw [heq]
    exact h.namespaceName
  · rw [heq]
    exact h.operations
  · rw [h.twin, meetAll_withNamespace]

/-- Twins answer alike, and what a request makes of them are twins. -/
theorem Twins.meet (h : b.Twins namespaceName other b') (request : BuilderRequest) :
    (b.meet? request).isSome = (b'.meet? request).isSome ∧
      (b.meet request).Twins namespaceName other (b'.meet request) := by
  refine ⟨?_, h.meetAll [request]⟩
  rw [h.twin, meet?_withNamespace, Option.isSome_map]

/-- A plan makes twins of twins, as they give it the same answers. -/
theorem Twins.run (plan : RequestPlan) (h : b.Twins namespaceName other b') :
    (plan.run b).Agree (Twins namespaceName other) (plan.run b') := by
  induction plan generalizing b b' with
  | done response =>
    refine ⟨rfl, ?_⟩
    rw [RequestPlan.run, RequestPlan.run]
    cases response.result with
    | error e => exact .error e
    | ok => exact .ok h
  | ask request next ih =>
    obtain ⟨hanswer, hnext⟩ := h.meet request
    rw [RequestPlan.run, RequestPlan.run, ← hanswer]
    exact ih _ hnext

/-- Twins adopt the same facets and list them in the same conventions. -/
theorem Twins.adoptFacets (h : b.Twins namespaceName other b') (host : String)
    (scanned : List ScannedProperty) :
    (b.adoptFacets host scanned).1.Twins namespaceName other (b'.adoptFacets host scanned).1 ∧
      (b.adoptFacets host scanned).2 = (b'.adoptFacets host scanned).2 := by
  -- what becomes of the builder is the work of requests, so it stays without operations
  obtain ⟨requests, heq⟩ := b.exists_requests_adoptFacets host scanned
  have hrequests := h.meetAll requests
  rw [h.twin, adoptFacets_withNamespace]
  rw [← heq] at hrequests
  exact ⟨⟨hrequests.namespaceName, hrequests.operations, rfl⟩, rfl⟩

end Builder

/-! ### Models of twins -/

namespace Builder

variable {namespaceName other : String} {b b' : Builder}

/-- An operation has the namespace that its marker gives, or else that of the builder. -/
theorem namespaceName_of_operationOf? {s : ScannedOperation} {o : Operation}
    (h : b.operationOf? s = some o) : o.namespaceName = s.namespaceName.getD b.namespaceName := by
  rw [operationOf?] at h
  split at h
  · split at h
    · cases h
    · obtain ⟨binding, -, rfl⟩ := Option.map_eq_some_iff.1 h
      rfl
  · cases h
    rfl

theorem operations_build_bind (b : Builder) : b.bind.build.operations = b.operations := by
  obtain ⟨added, hadded, -⟩ := b.exists_added_bind
  rw [build, hadded]

/-- **Twins have models that differ in namespaces only**, if the types of one of them are moved. -/
theorem Twins.build_bind (h : b.Twins namespaceName other b') (scanned : List ScannedOperation) :
    ((b'.attachOperations scanned).overrideNamespace other).bind.build
      = (b.attachOperations scanned).bind.build.moved other
        (scanned.filterMap fun s => (b.operationOf? s).map (Operation.moved other s)) := by
  have hnone : (b.withNamespace other).operations = [] := h.operations
  have hmoved : (b'.attachOperations scanned).overrideNamespace other
      = (b.attachOperations scanned).moved other
        (scanned.filterMap fun s => (b.operationOf? s).map (Operation.moved other s)) := by
    rw [h.twin, attachOperations, hnone, List.nil_append,
      funext (b.operationOf?_withNamespace other)]
    rfl
  rw [hmoved, bind_moved, build_moved]

end Builder

namespace Assembler

open Assembling

variable {a : Assembler} {host : String} {settings : Settings}

/-- Two assemblies have the same conventions, and models that differ in namespaces and in nothing
else. A builder has operations for marked methods, which in the first model have the namespace of
the model, unless their markers give one. In the second one these, and all types, are in another
namespace. -/
structure Renamed (namespaceName other : String) (scanned : List ScannedOperation)
    (r r' : Assembled) : Prop where
  conventions : r'.conventions = r.conventions
  model : ∃ b : Builder,
    (∀ s o, b.operationOf? s = some o → o.namespaceName = s.namespaceName.getD namespaceName) ∧
    r.model = (b.attachOperations scanned).bind.build ∧
    r.model.operations = scanned.filterMap b.operationOf? ∧
    r'.model = r.model.moved other
      (scanned.filterMap fun s => (b.operationOf? s).map (Operation.moved other s))

/-- The conventions make, of twins, models that differ in namespaces only. -/
theorem inStep_applyConventions (hnone : settings.namespaceName = none)
    {namespaceName other : String} {b b' : Builder} (h : b.Twins namespaceName other b') :
    InStep (fun r r' => ∃ scanned, a.registry.scanOperations host settings.rootType = .ok scanned ∧
        Renamed namespaceName other scanned r r')
      (a.applyConventions host settings b)
      (a.applyConventions host { settings with namespaceName := some other } b') := by
  rw [applyConventions, applyConventions]
  refine (inStep_refl step).bind fun _ _ _ => ?_
  -- scans depend on the root and the ignored names, which the settings have in common
  refine (inStep_ofExcept _).bind fun properties properties' hproperties => ?_
  obtain ⟨-, rfl⟩ := hproperties
  obtain ⟨htwins, hconventions⟩ := h.adoptFacets host properties
  dsimp only
  refine (inStep_refl step).bind fun _ _ _ => ?_
  refine (inStep_ofExcept _).bind fun operations operations' hoperations => ?_
  obtain ⟨hscanned, rfl⟩ := hoperations
  refine (inStep_refl step).bind fun _ _ _ => ?_
  -- only here the one is left as it is, and the other has its types moved
  rw [applyNamespace, applyNamespace, hnone]
  refine inStep_pure ⟨operations, hscanned, hconventions.symm, _, fun s o ho => ?_, rfl, ?_,
    htwins.build_bind operations⟩
  · rw [← htwins.namespaceName]
    exact Builder.namespaceName_of_operationOf? ho
  · rw [Builder.operations_build_bind, Builder.attachOperations, htwins.operations, List.nil_append]

/-- Two assemblies of one host type start with twins. -/
theorem twins_startOf (a : Assembler) (t : HostType) (hnone : settings.namespaceName = none)
    (other : String) :
    (a.startOf t settings).Twins t.namespaceName other
      (a.startOf t { settings with namespaceName := some other }) := by
  refine ⟨?_, rfl, rfl⟩
  rw [startOf, namespaceOf, hnone]
  rfl

/-- Preparers find the same, so extenders and conventions start from twins. -/
theorem inStep_construct (hpreparers : ∀ p ∈ a.preparers, p.IgnoresSettings)
    (hextenders : ∀ e ∈ a.extenders, e.OnlyAsks) (hnone : settings.namespaceName = none)
    (other : String) (host : String) (t : HostType) :
    InStep (fun r r' => ∃ scanned, a.registry.scanOperations host settings.rootType = .ok scanned ∧
        Renamed t.namespaceName other scanned r r')
      (a.construct t { registry := a.registry, hostType := host, settings })
      (a.construct t
        { registry := a.registry, hostType := host
          settings := { settings with namespaceName := some other } }) := by
  rw [construct, construct]
  refine (inStep_callEach .preparer (R := fun c c' => ∃ settings, c' = { c with settings })
    (fun prepare hprepare c c' hc => ?_) 0 ⟨_, rfl⟩).bind fun prepared prepared' hprepared => ?_
  · obtain ⟨settings', rfl⟩ := hc
    exact hpreparers prepare hprepare c settings'
  · obtain ⟨settings', rfl⟩ := hprepared
    -- the requests for what was found are those of the other assembly
    have hstart := (a.twins_startOf t hnone other).meetAll prepared.requests
    refine (inStep_callEach .extender (fun e he b b' hb => ?_) 0 hstart).bind fun b b' hb => ?_
    · obtain ⟨plan, rfl⟩ := hextenders e he
      exact hb.run plan
    · exact inStep_applyConventions hnone hb

/-- Two assemblies without providers that differ in the namespace of their settings run in step. -/
theorem inStep_assembling (hproviders : a.providers = [])
    (hpreparers : ∀ p ∈ a.preparers, p.IgnoresSettings) (hextenders : ∀ e ∈ a.extenders, e.OnlyAsks)
    (hnone : settings.namespaceName = none) (other : String) :
    InStep (fun r r' => ∃ t scanned, a.registry.host? host = some t ∧
        a.registry.scanOperations host settings.rootType = .ok scanned ∧
        Renamed t.namespaceName other scanned r r')
      (a.assembling host settings)
      (a.assembling host { settings with namespaceName := some other }) := by
  rw [assembling, assembling]
  refine (inStep_refl step).bind fun _ _ _ => ?_
  cases ht : a.registry.host? host with
  | none => exact fun p => ⟨rfl, .error _⟩
  | some t =>
    have hconstruct := inStep_construct hpreparers hextenders hnone other host t
    dsimp only
    -- there are no providers that could see the settings
    rw [hproviders, askEach, askEach]
    refine (inStep_pure (R := fun x y => x = none ∧ y = none) ⟨rfl, rfl⟩).bind fun _ _ hfound => ?_
    rw [hfound.1, hfound.2]
    refine hconstruct.imp fun r r' hrenamed => ?_
    obtain ⟨scanned, hscanned, hrenamed⟩ := hrenamed
    exact ⟨t, scanned, rfl, hscanned, hrenamed⟩

/-- **A namespace in the settings changes namespaces and nothing else.** Assemblies with and without
it fail with the same error, or have the same conventions and models that differ in namespaces only:
those of the model, of all types, and of the operations whose markers give none. No provider may
have a model, preparers must ignore the settings, and extenders do no more than ask for types,
facets and keys. -/
theorem assemble_renamed {a : Assembler} (hproviders : a.providers = [])
    (hpreparers : ∀ p ∈ a.preparers, p.IgnoresSettings) (hextenders : ∀ e ∈ a.extenders, e.OnlyAsks)
    (host : String) {settings : Settings} (hnone : settings.namespaceName = none) (other : String)
    (cancelled : Bool) :
    ResultsAgree (fun r r' => ∃ t scanned, a.registry.host? host = some t ∧
        a.registry.scanOperations host settings.rootType = .ok scanned ∧
        Renamed t.namespaceName other scanned r r')
      (a.assemble host settings cancelled)
      (a.assemble host { settings with namespaceName := some other } cancelled) :=
  (inStep_assembling hproviders hpreparers hextenders hnone other { cancelled }).2

/-! ### An office -/

/-- An office with desks, one method whose marker gives a namespace, and one whose marker gives
none. -/
def officeCatalog : HostCatalog where
  hostTypes :=
    [{ name := "Office", namespaceName := "Work"
       properties := [{ name := "Desks", type := .queryable (.reference "Desk") }]
       methods :=
         [{ name := "Count", returns := .primitive .int32, operation := some {} },
          { name := "Clear"
            operation := some { namespaceName := some "Care", hasSideEffects := true } }] }]
  structuralTypes :=
    [{ name := "Desk", namespaceName := "Work", base := some "Furniture"
       properties := [{ name := "Size", type := .reference "Size" }] },
     { name := "Furniture", namespaceName := "Stock"
       properties := [{ name := "Id", type := .primitive .int32 }] }]
  enumTypes := [{ name := "Size", namespaceName := "Stock" }]
  registration := { types := ["Furniture"] }

/-- The extender that registers a facet of desks, if they are declared. -/
def deskPlan : RequestPlan :=
  .ask (.structuralType "Desk") fun declared =>
    if declared then .ask (.singleton "Main" "Desk" .registered) fun _ => .done { result := .ok () }
    else .done { result := .error (.provider "desks" "missing") }

/-- The assembler of the office, with a preparer that has a key, and with an extender for the facet.
-/
def officeAssembler : Assembler :=
  { ofCatalog (officeCatalog.toRegistry.toOption.getD .empty) officeCatalog with
    preparers := [fun c => { result := .ok { c with keys := c.keys.insert "Furniture" ["Id"] } }]
    extenders := [.ofRequests officeCatalog.registration.requests, deskPlan.run] }

/-- Of the operations of the office the one without a namespace of its own is moved, and all types
are. -/
theorem assemble_office_renamed :
    ∃ r r', officeAssembler.assemble "Office" {} false = .ok r ∧
      officeAssembler.assemble "Office" { namespaceName := some "Lab" } false = .ok r' ∧
      r.model.operations.map (·.namespaceName) = ["Work", "Care"] ∧
      r'.model.operations.map (·.namespaceName) = ["Lab", "Care"] ∧
      r'.model = r.model.moved "Lab" r'.model.operations ∧ r'.conventions = r.conventions := by
  have hpreparers : ∀ p ∈ officeAssembler.preparers, p.IgnoresSettings :=
    List.forall_mem_singleton.2 fun c settings => ⟨rfl, .ok ⟨settings, rfl⟩⟩
  have hextenders : ∀ e ∈ officeAssembler.extenders, e.OnlyAsks :=
    List.forall_mem_cons.2
      ⟨Extender.onlyAsks_ofRequests _, List.forall_mem_singleton.2 ⟨deskPlan, rfl⟩⟩
  have hagree : ResultsAgree _ (officeAssembler.assemble "Office" {} false)
      (officeAssembler.assemble "Office" { namespaceName := some "Lab" } false) :=
    assemble_renamed rfl hpreparers hextenders "Office" rfl "Lab" false
  have hrun : (officeAssembler.assemble "Office" {} false).map
      (·.model.operations.map (·.namespaceName)) = .ok ["Work", "Care"] := by cbv
  have hrun' : (officeAssembler.assemble "Office" { namespaceName := some "Lab" } false).map
      (·.model.operations.map (·.namespaceName)) = .ok ["Lab", "Care"] := by cbv
  cases h : officeAssembler.assemble "Office" {} false with
  | error e =>
    rw [h] at hrun
    cases hrun
  | ok r =>
    rw [h] at hagree hrun
    obtain ⟨r', hr', t, scanned, -, -, hconventions, b, -, -, -, hmodel⟩ := hagree.exists_of_ok
    rw [hr'] at hrun'
    refine ⟨r, r', rfl, hr', Except.ok.inj hrun, Except.ok.inj hrun', ?_, hconventions⟩
    rw [hmodel]
    rfl

end Assembler

end FacetModel
