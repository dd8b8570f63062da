import FacetModel.Proofs.Assembly.Replies

/-!
# Hooks that stop an assembly

`Assembler.replies` lists what the hooks would reply one after the other, if only a preparer or an
extender that fails kept them from being called. An assembly cuts this list after the first reply
that stops it (`Assembler.called`). The conventions notice what the last hook did, even if there is
no preparer or no extender; so `Assembler.obeys_assembling` holds of all hooks at once.

`Assembler.stops_at_once` reads off which hooks an assembly calls, and what comes of it.
-/

namespace FacetModel

namespace Assembler

open Assembling

variable (a : Assembler) (host : String) (settings : Settings)

/-- All hooks, in the order in which they are called. -/
def hooks : List HookPosition :=
  (List.range a.providers.length).map .provider ++
    ((List.range a.preparers.length).map .preparer ++ (List.range a.extenders.length).map .extender)

/-- What is made of a model that a provider has. -/
def adopted (model : Model) : Except CatalogError Assembled :=
  (a.registry.scanProperties host settings.rootType settings.ignoredProperties).map
    fun properties => { model, conventions := .ofModel host properties model }

/-- What preparers and then extenders reply. Extenders are reached if no preparer fails. -/
def repliesOfConstruct (t : HostType) (context : AssemblyContext) : List Reply :=
  repliesOfEach .preparer 0 a.preparers context ++
    match resultOfEach a.preparers context with
    | .ok prepared =>
      repliesOfEach .extender 0 a.extenders
        ((a.startOf t context.settings).meetAll prepared.requests)
    | .error _ => []

/-- What the hooks reply when each is called after the one before, until a preparer or an extender
fails. -/
def replies (t : HostType) : List Reply :=
  let context : AssemblyContext := { registry := a.registry, hostType := host, settings }
  repliesOfProviders context 0 a.providers ++ a.repliesOfConstruct t context

/-- The replies of the hooks that an assembly calls. -/
def called (cancelled : Bool) : List Reply :=
  match a.registry.host? host, cancelled with
  | some t, false => Reply.upToStop (a.replies host settings t)
  | _, _ => []

/-! ### Runs -/

variable {t : HostType} {cancelled : Bool}

/-- Adopting a model calls no hook. -/
theorem adopt_eq (context : AssemblyContext) (model : Model) (q : Progress) :
    a.adopt context model q = (a.adopted context.hostType context.settings model, q) := by
  change andThen (Assembling.ofExcept _) _ q = _
  rw [andThen, Assembling.ofExcept, adopted]
  cases a.registry.scanProperties context.hostType context.settings.rootType
    context.settings.ignoredProperties with
  | error e => rfl
  | ok properties => rfl

theorem notices_applyConventions (b : Builder) : Notices (a.applyConventions host settings b) :=
  notices_step _

theorem silent_applyConventions (b : Builder) : Silent (a.applyConventions host settings b) :=
  silent_step.bind fun _ => (silent_ofExcept _).bind fun _ => silent_step.bind fun _ =>
    (silent_ofExcept _).bind fun _ => silent_step.bind fun _ => silent_ofExcept _

/-- With or without extenders, a cancellation is noticed before the conventions are applied. -/
theorem notices_extend (context : AssemblyContext) (b : Builder) :
    Notices (callEach .extender 0 a.extenders b >>=
      a.applyConventions context.hostType context.settings) :=
  notices_callEach .extender (a.notices_applyConventions context.hostType context.settings) 0 _ b

theorem notices_construct (t : HostType) (context : AssemblyContext) :
    Notices (a.construct t context) :=
  notices_callEach .preparer (fun _ => a.notices_extend context _) 0 a.preparers context

/-- Preparers and extenders obey their replies, and the conventions come after them. -/
theorem obeys_construct (adopt : Model → Except CatalogError Assembled) (t : HostType)
    (context : AssemblyContext) :
    ∃ b, Obeys adopt (a.repliesOfConstruct t context) (a.construct t context)
      (a.applyConventions context.hostType context.settings b) := by
  have hconclude := a.notices_applyConventions context.hostType context.settings
  rw [repliesOfConstruct]
  cases hprepared : resultOfEach a.preparers context with
  | error e =>
    -- a preparer stops the assembly, so the builder for the conventions does not matter
    refine ⟨a.startOf t context.settings, ?_⟩
    rw [List.append_nil]
    exact obeys_callEach (fun prepared => a.notices_extend context _) 0 a.preparers context
      fun prepared h => nomatch hprepared.symm.trans h
  | ok prepared =>
    let start := (a.startOf t context.settings).meetAll prepared.requests
    obtain ⟨b, hb⟩ : ∃ b, ∀ b', resultOfEach a.extenders start = .ok b' → b' = b := by
      cases resultOfEach a.extenders start with
      | error e => exact ⟨start, fun b' h => nomatch h⟩
      | ok b => exact ⟨b, fun b' h => (Except.ok.inj h).symm⟩
    refine ⟨b, (obeys_callEach (fun prepared => a.notices_extend context _) 0 a.preparers context
      fun prepared' h => ?_).append (obeys_callEach hconclude 0 a.extenders start fun b' h => ?_)⟩
    · rw [Except.ok.inj (h.symm.trans hprepared)]
      rfl
    · rw [hb b' h]

variable {a host}

/-- An assembly of a declared host type obeys all replies. The conventions come last. -/
theorem obeys_assembling (ht : a.registry.host? host = some t) :
    ∃ b, Obeys (a.adopted host settings) (a.replies host settings t) (a.assembling host settings)
      (a.applyConventions host settings b) := by
  let context : AssemblyContext := { registry := a.registry, hostType := host, settings }
  let next : Option Model → Assembling Assembled := fun found =>
    found.elim (a.construct t context) (a.adopt context)
  obtain ⟨b, hconstruct⟩ := a.obeys_construct (a.adopted host settings) t context
  have hask := obeys_askEach next (a.notices_construct t context) (a.adopt_eq context) context 0
    a.providers
  refine ⟨b, (Obeys.of_eq fun p hp => ?_).append (hask.append hconstruct)⟩
  rw [assembling, bind_of_ok (a := ()) (step_eq_ok.2 ⟨hp, rfl⟩)]
  simp only [ht]
  refine congrArg (fun next => (askEach context 0 a.providers >>= next) p) (funext fun found => ?_)
  cases found <;> rfl

variable {settings}

/-- For a declared host type and without cancellation at the start, the hooks are called that the
replies say. -/
theorem called_of_host (ht : a.registry.host? host = some t) :
    a.called host settings false = Reply.upToStop (a.replies host settings t) := by
  unfold called
  rw [ht]

/-- No hook is called if the assembly was cancelled before, or the host type is not declared. -/
theorem called_eq_nil (h : cancelled = true ∨ a.registry.host? host = none) :
    a.called host settings cancelled = [] := by
  unfold called
  split
  · rename_i ht
    rcases h with h | h
    · cases h
    · cases ht.symm.trans h
  · rfl

/-- No hook is called, or those up to the first reply that stops the assembly. -/
theorem called_eq_nil_or (a : Assembler) (host : String) (settings : Settings) (cancelled : Bool) :
    a.called host settings cancelled = [] ∨
      ∃ t, a.registry.host? host = some t ∧ cancelled = false ∧
        a.called host settings cancelled = Reply.upToStop (a.replies host settings t) := by
  cases ht : a.registry.host? host with
  | none => exact .inl (called_eq_nil (.inr ht))
  | some t =>
    cases cancelled with
    | true => exact .inl (called_eq_nil (.inl rfl))
    | false => exact .inr ⟨t, rfl, rfl, called_of_host ht⟩

theorem assembling_of_cancelled (a : Assembler) (host : String) (settings : Settings) :
    a.assembling host settings { cancelled := true } = (.error .cancelled, { cancelled := true }) :=
  notices_step _ _ rfl

theorem assembling_of_host?_eq_none (ht : a.registry.host? host = none) :
    a.assembling host settings { cancelled := false }
      = (.error (.hostTypeNotFound host), { cancelled := false }) := by
  rw [assembling, bind_of_ok (a := ()) (step_eq_ok.2 ⟨rfl, rfl⟩)]
  simp only [ht, Assembling.ofExcept]

/-- The calls of an assembly, and whether it is cancelled in the end, are those of the replies. -/
theorem progress_assembling (a : Assembler) (host : String) (settings : Settings)
    (cancelled : Bool) :
    (a.assembling host settings { cancelled }).2
      = Progress.after { cancelled } (a.called host settings cancelled) := by
  cases cancelled with
  | true => rw [called_eq_nil (.inl rfl), Progress.after_nil, assembling_of_cancelled]
  | false =>
    cases ht : a.registry.host? host with
    | none => rw [called_eq_nil (.inr ht), Progress.after_nil, assembling_of_host?_eq_none ht]
    | some t =>
      obtain ⟨b, hobeys⟩ := obeys_assembling settings ht
      rw [called_of_host ht]
      cases hfind : (a.replies host settings t).find? Reply.stops with
      | some reply => rw [hobeys.stop _ rfl reply hfind]
      | none =>
        rw [hobeys.go _ rfl hfind, silent_applyConventions, Reply.upToStop_of_find?_eq_none hfind]

/-- A called hook that stops the assembly decides what comes of it. -/
theorem assemble_of_stops {reply : Reply} (hmem : reply ∈ a.called host settings cancelled)
    (hstops : reply.stops = true) :
    a.assemble host settings cancelled = reply.outcome (a.adopted host settings) := by
  rcases called_eq_nil_or a host settings cancelled with hnil | ⟨t, ht, rfl, hcalled⟩
  · rw [hnil] at hmem
    cases hmem
  · obtain ⟨b, hobeys⟩ := obeys_assembling settings ht
    rw [hcalled] at hmem
    rw [assemble, hobeys.stop _ rfl reply ((Reply.mem_upToStop_iff hstops).1 hmem)]

/-- No hook is called after one that stops the assembly. -/
theorem pairwise_called (a : Assembler) (host : String) (settings : Settings) (cancelled : Bool) :
    (a.called host settings cancelled).Pairwise fun earlier _ => earlier.stops = false := by
  rcases called_eq_nil_or a host settings cancelled with hnil | ⟨t, ht, rfl, hcalled⟩
  · rw [hnil]
    exact .nil
  · rw [hcalled]
    exact Reply.pairwise_upToStop _

/-! ### The order of all calls -/

/-- Hooks reply in the order of the phases: providers, preparers, extenders. -/
theorem isPrefix_hooks_replies (t : HostType) :
    (a.replies host settings t).map (·.hook) <+: a.hooks := by
  rw [replies, repliesOfConstruct, hooks, List.map_append, List.map_append, hooks_repliesOfProviders,
    List.range_eq_range', List.range_eq_range', List.range_eq_range']
  refine (List.prefix_append_right_inj _).2 ?_
  -- if the preparers do not all succeed, no extender replies
  cases hprepared : resultOfEach a.preparers
    { registry := a.registry, hostType := host, settings } with
  | error e =>
    rw [List.map_nil, List.append_nil]
    exact (hooks_repliesOfEach .preparer 0 _ _).trans (List.prefix_append _ _)
  | ok prepared =>
    rw [hooks_repliesOfEach_of_ok hprepared]
    exact (List.prefix_append_right_inj _).2 (hooks_repliesOfEach .extender 0 _ _)

/-- All hooks are called if none of them stops the assembly. -/
theorem hooks_replies_of_find?_eq_none (h : (a.replies host settings t).find? Reply.stops = none) :
    (a.replies host settings t).map (·.hook) = a.hooks := by
  rw [replies, repliesOfConstruct, List.find?_append, Option.or_eq_none_iff, List.find?_append,
    Option.or_eq_none_iff] at h
  obtain ⟨-, hpreparers, hextenders⟩ := h
  obtain ⟨prepared, hprepared⟩ := exists_resultOfEach hpreparers
  simp only [hprepared] at hextenders
  obtain ⟨b, hb⟩ := exists_resultOfEach hextenders
  rw [replies, repliesOfConstruct, hooks, List.map_append, List.map_append, hooks_repliesOfProviders,
    hooks_repliesOfEach_of_ok hprepared]
  simp only [hprepared]
  rw [hooks_repliesOfEach_of_ok hb, List.range_eq_range', List.range_eq_range',
    List.range_eq_range']

/-- Hooks are called in their order: providers, preparers, extenders. -/
theorem isPrefix_hooks_called (a : Assembler) (host : String) (settings : Settings)
    (cancelled : Bool) : (a.called host settings cancelled).map (·.hook) <+: a.hooks := by
  rcases called_eq_nil_or a host settings cancelled with hnil | ⟨t, ht, rfl, hcalled⟩
  · rw [hnil]
    exact List.nil_prefix
  · rw [hcalled]
    exact ((Reply.isPrefix_upToStop _).map _).trans (isPrefix_hooks_replies t)

/-- An assembly with a result has it from a provider, or has called all hooks and none of them
cancelled it. -/
theorem adopted_or_progress_of_assemble {r : Assembled}
    (h : a.assemble host settings cancelled = .ok r) :
    (∃ reply ∈ a.called host settings cancelled, ∃ model,
      reply.result = .ok (some model) ∧ a.adopted host settings model = .ok r) ∨
    (a.assembling host settings { cancelled }).2 = { cancelled := false, calls := a.hooks } := by
  cases cancelled with
  | true =>
    rw [assemble, assembling_of_cancelled] at h
    cases h
  | false =>
    cases ht : a.registry.host? host with
    | none =>
      rw [assemble, assembling_of_host?_eq_none ht] at h
      cases h
    | some t =>
      cases hfind : (a.replies host settings t).find? Reply.stops with
      | some reply =>
        have hmem : reply ∈ a.called host settings false := by
          rw [called_of_host ht]
          exact (Reply.mem_upToStop_iff (List.find?_some hfind)).2 hfind
        rw [assemble_of_stops hmem (List.find?_some hfind)] at h
        obtain ⟨model, hresult, hr⟩ := Reply.outcome_eq_ok.1 h
        exact .inl ⟨reply, hmem, model, hresult, hr⟩
      | none =>
        refine .inr ?_
        rw [progress_assembling, called_of_host ht, Reply.upToStop_of_find?_eq_none hfind,
          Progress.after_of_find?_eq_none hfind, hooks_replies_of_find?_eq_none hfind]
        rfl

/-- **Cancellation and failure stop an assembly at once.** Hooks are called in their order, none if
the assembly was cancelled before or the host type is not declared, and none after a hook that
cancels the assembly, fails, or has a model. A called hook with an error or a model decides what
comes of the assembly, also if it cancels it; one that does nothing but cancel it has it fail. So a
model that no provider has is the work of an assembly that called all hooks and was never cancelled.
-/
theorem stops_at_once (a : Assembler) (host : String) (settings : Settings) (cancelled : Bool) :
    let run := a.assembling host settings { cancelled }
    let called := a.called host settings cancelled
    run.2 = Progress.after { cancelled } called ∧
      called.map (·.hook) <+: a.hooks ∧
      (cancelled = true ∨ a.registry.host? host = none → called = []) ∧
      (called.Pairwise fun earlier _ => earlier.cancels = false ∧ earlier.result = .ok none) ∧
      (∀ reply ∈ called,
        (∀ e, reply.result = .error e → run.1 = .error e) ∧
        (∀ model, reply.result = .ok (some model) → run.1 = a.adopted host settings model) ∧
        (reply.cancels = true → reply.result = .ok none → run.1 = .error .cancelled)) ∧
      ∀ r, run.1 = .ok r →
        (∃ reply ∈ called, ∃ model, reply.result = .ok (some model) ∧
          a.adopted host settings model = .ok r) ∨
        run.2 = { cancelled := false, calls := a.hooks } := by
  intro run called
  have hdecides : ∀ reply ∈ called, reply.stops = true →
      run.1 = reply.outcome (a.adopted host settings) :=
    fun reply hmem hstops => assemble_of_stops hmem hstops
  refine ⟨progress_assembling a host settings cancelled,
    isPrefix_hooks_called a host settings cancelled, called_eq_nil, ?_,
    fun reply hmem => ⟨fun e he => ?_, fun model hmodel => ?_, fun hcancels hnone => ?_⟩,
    fun r hr => adopted_or_progress_of_assemble hr⟩
  · exact (pairwise_called a host settings cancelled).imp fun h => Reply.stops_eq_false_iff.1 h
  · rw [hdecides reply hmem (by simp [Reply.stops, he]), Reply.outcome, he]
  · rw [hdecides reply hmem (by simp [Reply.stops, hmodel]), Reply.outcome, hmodel]
  · rw [hdecides reply hmem (by simp [Reply.stops, hcancels]), Reply.outcome, hnone]

end Assembler

end FacetModel
