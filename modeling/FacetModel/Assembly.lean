import FacetModel.Builder.Binding
import FacetModel.Builder.Registration
import FacetModel.Conventions
import FacetModel.Scan.Operations
import FacetModel.Settings

/-!
# Assembling models

An assembly makes the model of a host type. Providers are asked for a finished model first. If
none has one, preparers say what a backing store contributes, extenders work on the model under
construction, and then the conventions apply: host properties become facets, marked methods become
operations, and navigation properties are bound.

Every hook may cancel the assembly, which then stops at the next step (`Assembling.step`).
`Progress` tells which hooks were called.
-/

namespace FacetModel

/-! ### Hooks -/

/-- What hooks are told about an assembly. -/
structure AssemblyContext where
  registry : Registry
  hostType : String
  settings : Settings
  /-- Element types of entity sets that a backing store has. -/
  entitySetTypes : NameMap String := .empty
  /-- Key properties of entity types that a backing store has. -/
  keys : NameMap (List String) := .empty

/-- The requests for what preparers found. -/
def AssemblyContext.requests (c : AssemblyContext) : List BuilderRequest :=
  c.entitySetTypes.entries.flatMap (fun e => BuilderRequest.forEntitySet e.1 e.2)
    ++ BuilderRequest.forAllKeys c.keys

/-- What a hook does when it is called. -/
structure Response (α : Type) where
  /-- Whether it cancels the assembly. -/
  cancels : Bool := false
  result : Except CatalogError α

/-- A hook that may have a finished model. -/
abbrev Provider := AssemblyContext → Response (Option Model)

/-- A hook that says what a backing store contributes. -/
abbrev Preparer := AssemblyContext → Response AssemblyContext

/-- A hook that works on the model under construction. -/
abbrev Extender := Builder → Response Builder

/-- The extender that meets some requests. -/
def Extender.ofRequests (requests : List BuilderRequest) : Extender :=
  fun b => { result := .ok (b.meetAll requests) }

/-- A hook by its kind and its position among those of its kind. -/
inductive HookPosition where
  | provider (index : Nat)
  | preparer (index : Nat)
  | extender (index : Nat)
deriving DecidableEq, Repr

/-! ### Steps -/

/-- How far an assembly has come. -/
structure Progress where
  /-- Whether it was cancelled. -/
  cancelled : Bool := false
  /-- The hooks that were called. -/
  calls : List HookPosition := []
deriving DecidableEq, Repr

/-- A part of an assembly. -/
abbrev Assembling (α : Type) := Progress → Except CatalogError α × Progress

namespace Assembling

variable {α β : Type}

/-- The part that is done at once. -/
def done (a : α) : Assembling α := fun p => (.ok a, p)

/-- The part that has a result or fails. -/
def ofExcept (r : Except CatalogError α) : Assembling α := fun p => (r, p)

/-- One part after another, unless the first one fails. -/
def andThen (first : Assembling α) (next : α → Assembling β) : Assembling β := fun p =>
  match first p with
  | (.ok a, q) => next a q
  | (.error e, q) => (.error e, q)

instance : Monad Assembling where
  pure := done
  bind := andThen

/-- Fails if the assembly was cancelled. -/
def step : Assembling Unit := fun p =>
  if p.cancelled then (.error .cancelled, p) else (.ok (), p)

/-- Calls a hook. -/
def call (hook : HookPosition) (r : Response α) : Assembling α := fun p =>
  (r.result, { cancelled := p.cancelled || r.cancels, calls := p.calls ++ [hook] })

/-- Calls hooks one after the other, each with the result of the one before. -/
def callEach (position : Nat → HookPosition) (index : Nat) :
    List (α → Response α) → α → Assembling α
  | [], a => done a
  | hook :: rest, a => do
    step
    let a ← call (position index) (hook a)
    callEach position (index + 1) rest a

/-- The first model of some providers that is not empty. -/
def askEach (context : AssemblyContext) (index : Nat) : List Provider → Assembling (Option Model)
  | [] => done none
  | provider :: rest => do
    step
    match ← call (.provider index) (provider context) with
    | some model => if model.isEmpty then askEach context (index + 1) rest else done (some model)
    | none => askEach context (index + 1) rest

end Assembling

/-! ### Assembly -/

/-- A model with the host properties behind its facets. -/
structure Assembled where
  model : Model
  conventions : ConventionCatalog
deriving DecidableEq, Repr

/-- The declared types and the hooks of an assembly. -/
structure Assembler where
  registry : Registry
  providers : List Provider := []
  preparers : List Preparer := []
  extenders : List Extender := []

namespace Assembler

/-- The assembler of a catalog, which extends models by what the catalog registers. -/
def ofCatalog (registry : Registry) (catalog : HostCatalog) : Assembler where
  registry
  extenders := [.ofRequests catalog.registration.requests]

/-- The namespace of the assembled model: that of the settings, else that of the host type. -/
def namespaceOf (settings : Settings) (host : HostType) : String :=
  settings.namespaceName.getD host.namespaceName

/-- The builder in which all types have the namespace of the settings, if they give one. -/
def applyNamespace (settings : Settings) (b : Builder) : Builder :=
  match settings.namespaceName with
  | some namespaceName => b.overrideNamespace namespaceName
  | none => b

/-- Completes a model under construction by the conventions. -/
def applyConventions (a : Assembler) (host : String) (settings : Settings) (b : Builder) :
    Assembling Assembled := do
  Assembling.step
  let properties ← Assembling.ofExcept
    (a.registry.scanProperties host settings.rootType settings.ignoredProperties)
  let (b, conventions) := b.adoptFacets host properties
  Assembling.step
  let operations ← Assembling.ofExcept (a.registry.scanOperations host settings.rootType)
  let b := applyNamespace settings (b.attachOperations operations)
  Assembling.step
  return { model := b.bind.build, conventions }

/-- Makes a model from the beginning. -/
def construct (a : Assembler) (host : HostType) (context : AssemblyContext) :
    Assembling Assembled := do
  let settings := context.settings
  let prepared ← Assembling.callEach .preparer 0 a.preparers context
  let b : Builder :=
    { registry := a.registry, namespaceName := namespaceOf settings host,
      containerName := settings.containerName }
  let b ← Assembling.callEach .extender 0 a.extenders (b.meetAll prepared.requests)
  a.applyConventions context.hostType settings b

/-- Finds the scanned properties behind the facets of a model that a provider has. -/
def adopt (a : Assembler) (context : AssemblyContext) (model : Model) : Assembling Assembled := do
  let properties ← Assembling.ofExcept (a.registry.scanProperties context.hostType
    context.settings.rootType context.settings.ignoredProperties)
  return { model, conventions := .ofModel context.hostType properties model }

/-- Assembles the model of a host type. -/
def assembling (a : Assembler) (host : String) (settings : Settings) : Assembling Assembled := do
  Assembling.step
  match a.registry.host? host with
  | none => Assembling.ofExcept (.error (.hostTypeNotFound host))
  | some t =>
    let context : AssemblyContext := { registry := a.registry, hostType := host, settings }
    match ← Assembling.askEach context 0 a.providers with
    | some model => a.adopt context model
    | none => a.construct t context

/-- The assembled model of a host type, for an assembly that may be cancelled from the start. -/
def assemble (a : Assembler) (host : String) (settings : Settings) (cancelled : Bool) :
    Except CatalogError Assembled :=
  (a.assembling host settings { cancelled }).1

end Assembler

end FacetModel
