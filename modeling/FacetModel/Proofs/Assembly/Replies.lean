import FacetModel.Proofs.Assembly.Run

/-!
# Replies of hooks

A hook stops an assembly if it cancels it, if it fails, or if it is a provider with a model that is
not empty (`Reply.stops`). A part of an assembly obeys the replies of some hooks if it ends with the
first one that stops, and goes on with another part if there is none (`Assembling.Obeys`).

Two facts make the calls of hooks obey their replies (`Assembling.obeys_callEach`,
`Assembling.obeys_askEach`):

* a cancellation is noticed at the next step, so what comes after the calls has to begin with one
  (`Assembling.Notices`). If no hook is left, this is a later part of the assembly;
* parts that obey their replies do so one after the other (`Assembling.Obeys.append`).
-/

namespace FacetModel

/-! ### Replies -/

/-- What a hook replies when it is called. The result is a model if the hook is a provider that has
one, and the model is not empty. -/
structure Reply extends Response (Option Model) where
  hook : HookPosition

namespace Reply

/-- The reply of a hook, with the model that is found in its result. -/
def ofResponse {α : Type} (hook : HookPosition) (modelOf : α → Option Model) (r : Response α) :
    Reply where
  cancels := r.cancels
  result := r.result.map modelOf
  hook

@[simp]
theorem hook_ofResponse {α : Type} (hook : HookPosition) (modelOf : α → Option Model)
    (r : Response α) : (ofResponse hook modelOf r).hook = hook := rfl

/-- Whether no hook is called after this reply. -/
def stops (r : Reply) : Bool :=
  r.cancels ||
    match r.result with
    | .ok none => false
    | _ => true

theorem stops_eq_false_iff {r : Reply} :
    r.stops = false ↔ r.cancels = false ∧ r.result = .ok none := by
  rw [stops, Bool.or_eq_false_iff, and_congr_right_iff]
  intro _
  rcases r.result with e | (_ | model) <;> simp

/-- The replies up to the first one that stops the assembly. -/
def upToStop : List Reply → List Reply
  | [] => []
  | r :: rest => if r.stops then [r] else r :: upToStop rest

variable {replies others : List Reply} {reply : Reply}

/-- Nothing is cut before the first reply that stops the assembly. -/
theorem upToStop_append_of_find?_eq_none (h : replies.find? stops = none) :
    upToStop (replies ++ others) = replies ++ upToStop others := by
  induction replies with
  | nil => rfl
  | cons r rest ih =>
    rw [List.find?_eq_none, List.forall_mem_cons] at h
    rw [List.cons_append, upToStop, if_neg h.1, ih (List.find?_eq_none.2 h.2), List.cons_append]

theorem upToStop_of_find?_eq_none (h : replies.find? stops = none) :
    upToStop replies = replies := by
  have happend : upToStop (replies ++ []) = replies ++ upToStop [] :=
    upToStop_append_of_find?_eq_none h
  rwa [upToStop, List.append_nil] at happend

/-- What comes after a reply that stops the assembly does not matter. -/
theorem upToStop_append_of_find?_eq_some (h : replies.find? stops = some reply) :
    upToStop (replies ++ others) = upToStop replies := by
  induction replies with
  | nil => cases h
  | cons r rest ih =>
    rw [List.cons_append, upToStop, upToStop]
    split
    · rfl
    · rename_i hr
      rw [List.find?_cons_of_neg hr] at h
      rw [ih h]

/-- The replies that are given are the first ones. -/
theorem isPrefix_upToStop (replies : List Reply) : upToStop replies <+: replies := by
  induction replies with
  | nil => exact List.prefix_refl []
  | cons r rest ih =>
    rw [upToStop]
    split
    · exact ⟨rest, rfl⟩
    · exact (List.prefix_cons_inj r).2 ih

/-- A reply with another one after it does not stop the assembly. -/
theorem pairwise_upToStop (replies : List Reply) :
    (upToStop replies).Pairwise fun earlier _ => earlier.stops = false := by
  induction replies with
  | nil => exact .nil
  | cons r rest ih =>
    rw [upToStop]
    split
    · exact List.pairwise_singleton _ _
    · rename_i hr
      exact .cons (fun _ _ => Bool.eq_false_iff.2 hr) ih

/-- Of the replies that stop the assembly, the first one is kept, and only that. -/
theorem mem_upToStop_iff (hstops : reply.stops = true) :
    reply ∈ upToStop replies ↔ replies.find? stops = some reply := by
  induction replies with
  | nil => simp [upToStop]
  | cons r rest ih =>
    rw [upToStop]
    split
    · rename_i hr
      rw [List.find?_cons_of_pos hr, List.mem_singleton, Option.some.injEq, eq_comm]
    · rename_i hr
      rw [List.find?_cons_of_neg hr, ← ih, List.mem_cons, or_iff_right]
      rintro rfl
      exact hr hstops

end Reply

/-- A progress after the calls of hooks which gave some replies. -/
def Progress.after (p : Progress) (replies : List Reply) : Progress :=
  { cancelled := p.cancelled || replies.any (·.cancels), calls := p.calls ++ replies.map (·.hook) }

theorem Progress.after_nil (p : Progress) : p.after [] = p := by
  simp [after]

theorem Progress.after_append (p : Progress) (first second : List Reply) :
    p.after (first ++ second) = (p.after first).after second := by
  simp [after, Bool.or_assoc]

/-- Replies that do not stop an assembly do not cancel it. -/
theorem Progress.after_of_find?_eq_none {p : Progress} {replies : List Reply}
    (h : replies.find? Reply.stops = none) :
    p.after replies = { p with calls := p.calls ++ replies.map (·.hook) } := by
  have hcancels : replies.any (·.cancels) = false := by
    rw [List.any_eq_false]
    intro r hr
    have hgo := List.find?_eq_none.1 h r hr
    rw [Bool.not_eq_true, Reply.stops_eq_false_iff] at hgo
    exact Bool.eq_false_iff.1 hgo.1
  rw [after, hcancels, Bool.or_false]

/-- What comes of a reply that stops the assembly: its error, what is made of its model, or the news
of the cancellation. -/
def Reply.outcome {β : Type} (adopt : Model → Except CatalogError β) (r : Reply) :
    Except CatalogError β :=
  match r.result with
  | .error e => .error e
  | .ok (some model) => adopt model
  | .ok none => .error .cancelled

/-- A reply has an outcome without error only by a model that can be adopted. -/
theorem Reply.outcome_eq_ok {β : Type} {adopt : Model → Except CatalogError β} {r : Reply} {b : β} :
    r.outcome adopt = .ok b ↔ ∃ model, r.result = .ok (some model) ∧ adopt model = .ok b := by
  rw [outcome]
  rcases r.result with e | (_ | model) <;> simp

namespace Assembling

variable {α β γ : Type} {p : Progress} {adopt : Model → Except CatalogError β}

/-! ### Parts that fail -/

theorem bind_of_error {first : Assembling α} {next : α → Assembling β} {e : CatalogError}
    {p' : Progress} (h : first p = (.error e, p')) : (first >>= next) p = (.error e, p') := by
  change andThen first next p = _
  rw [andThen, h]

/-- How parts are grouped makes no difference, so that each hook can be taken on its own. -/
theorem bind_assoc (first : Assembling α) (second : α → Assembling β) (third : β → Assembling γ) :
    (first >>= second) >>= third = first >>= fun a => second a >>= third := by
  funext p
  change andThen (andThen first second) third p =
    andThen first (fun a => andThen (second a) third) p
  simp only [andThen]
  rcases first p with ⟨e | a, q⟩ <;> rfl

/-! ### Cancellation is noticed -/

/-- A part that fails at once if the assembly was cancelled. -/
def Notices (x : Assembling β) : Prop :=
  ∀ p : Progress, p.cancelled = true → x p = (.error .cancelled, p)

theorem notices_step (next : Unit → Assembling β) : Notices (step >>= next) := by
  intro p hp
  refine bind_of_error ?_
  rw [step, if_pos hp]

/-- Before each hook there is a step, so hooks notice a cancellation, or what comes after them does
if there are none. -/
theorem notices_callEach (position : Nat → HookPosition) {next : α → Assembling β}
    (hnext : ∀ a, Notices (next a)) (index : Nat) (hooks : List (α → Response α)) (a : α) :
    Notices (callEach position index hooks a >>= next) := by
  cases hooks with
  | nil => exact hnext a
  | cons hook rest =>
    rw [callEach, bind_assoc]
    exact notices_step _

/-- The same for providers. -/
theorem notices_askEach {next : Option Model → Assembling β} (hnext : Notices (next none))
    (context : AssemblyContext) (index : Nat) (providers : List Provider) :
    Notices (askEach context index providers >>= next) := by
  cases providers with
  | nil => exact hnext
  | cons provider rest =>
    rw [askEach, bind_assoc]
    exact notices_step _

/-- A part that calls no hook. -/
def Silent (x : Assembling β) : Prop := ∀ p : Progress, (x p).2 = p

theorem silent_step : Silent step := by
  intro p
  rw [step]
  cases p.cancelled <;> rfl

theorem silent_ofExcept (r : Except CatalogError β) : Silent (ofExcept r) := fun _ => rfl

/-- Parts that call no hook make no progress together. -/
theorem Silent.bind {first : Assembling α} {next : α → Assembling β} (hfirst : Silent first)
    (hnext : ∀ a, Silent (next a)) : Silent (first >>= next) := by
  intro p
  have hp := hfirst p
  change (andThen first next p).2 = p
  rw [andThen]
  rcases hrun : first p with ⟨e | a, q⟩ <;> rw [hrun] at hp
  · exact hp
  · exact (hnext a q).trans hp

/-! ### Replies are obeyed -/

/-- A part calls hooks that give some replies, and obeys them: it ends with the first one that stops
the assembly, and goes on with another part if there is none. -/
structure Obeys (adopt : Model → Except CatalogError β) (replies : List Reply)
    (x next : Assembling β) : Prop where
  stop : ∀ p : Progress, p.cancelled = false → ∀ reply, replies.find? Reply.stops = some reply →
    x p = (reply.outcome adopt, p.after (Reply.upToStop replies))
  go : ∀ p : Progress, p.cancelled = false → replies.find? Reply.stops = none →
    x p = next (p.after replies)

/-- Without replies to obey, a run is what comes next. -/
theorem Obeys.of_eq {x y : Assembling β} (h : ∀ p : Progress, p.cancelled = false → x p = y p) :
    Obeys adopt [] x y where
  stop _ _ reply hreply := by cases hreply
  go p hp _ := by rw [Progress.after_nil, h p hp]

theorem Obeys.nil (x : Assembling β) : Obeys adopt [] x x := .of_eq fun _ _ => rfl

/-- Parts that obey their replies do so one after the other. -/
theorem Obeys.append {first second : List Reply} {x y z : Assembling β}
    (hfirst : Obeys adopt first x y) (hsecond : Obeys adopt second y z) :
    Obeys adopt (first ++ second) x z where
  stop p hp reply h := by
    rw [List.find?_append] at h
    cases hfind : first.find? Reply.stops with
    | some other =>
      rw [hfind, Option.some_or] at h
      cases h
      rw [Reply.upToStop_append_of_find?_eq_some hfind]
      exact hfirst.stop p hp reply hfind
    | none =>
      rw [hfind, Option.none_or] at h
      rw [Reply.upToStop_append_of_find?_eq_none hfind, Progress.after_append,
        hfirst.go p hp hfind]
      refine hsecond.stop _ ?_ reply h
      rw [Progress.after_of_find?_eq_none hfind]
      exact hp
  go p hp h := by
    obtain ⟨hfind, h⟩ := Option.or_eq_none_iff.1 (List.find?_append.symm.trans h)
    rw [Progress.after_append, hfirst.go p hp hfind]
    refine hsecond.go _ ?_ h
    rw [Progress.after_of_find?_eq_none hfind]
    exact hp

/-- The induction step for the calls of some hooks. -/
theorem Obeys.cons {r : Reply} {rest : List Reply} {x y z : Assembling β}
    (hfirst : Obeys adopt [r] x y) (hrest : Obeys adopt rest y z) : Obeys adopt (r :: rest) x z :=
  hfirst.append hrest

/-- A run obeys a reply that stops it if it ends with the outcome of the reply. -/
theorem Obeys.of_stops {r : Reply} {x : Assembling β} (hstops : r.stops = true)
    (h : ∀ p : Progress, p.cancelled = false → x p = (r.outcome adopt, p.after [r]))
    (next : Assembling β) : Obeys adopt [r] x next where
  stop p hp reply hreply := by
    rw [List.find?_cons_of_pos hstops] at hreply
    cases hreply
    rw [Reply.upToStop, if_pos hstops]
    exact h p hp
  go p hp hnone := by
    rw [List.find?_cons_of_pos hstops] at hnone
    cases hnone

/-- A run obeys a reply that does not stop it if it goes on with what comes next. -/
theorem Obeys.of_not_stops {r : Reply} {x next : Assembling β} (hgo : r.stops = false)
    (h : ∀ p : Progress, p.cancelled = false → x p = next (p.after [r])) :
    Obeys adopt [r] x next where
  stop p hp reply hreply := by
    rw [List.find?_cons_of_neg (Bool.eq_false_iff.1 hgo)] at hreply
    cases hreply
  go p hp _ := h p hp

/-! ### Calls of hooks -/

/-- The call of a hook in an assembly that was not cancelled. -/
theorem step_call_of_live (hook : HookPosition) (modelOf : α → Option Model) (r : Response α)
    (next : α → Assembling β) (hp : p.cancelled = false) :
    (step >>= fun _ => call hook r >>= next) p =
      match r.result with
      | .ok a => next a (p.after [.ofResponse hook modelOf r])
      | .error e => (.error e, p.after [.ofResponse hook modelOf r]) := by
  rw [bind_of_ok (a := ()) (step_eq_ok.2 ⟨hp, rfl⟩)]
  cases hresult : r.result with
  | error e =>
    refine bind_of_error ?_
    simp [call, hresult, Progress.after, Reply.ofResponse]
  | ok a =>
    refine bind_of_ok ?_
    simp [call, hresult, Progress.after, Reply.ofResponse]

/-- The call of one hook obeys its reply. What comes after it has to notice a cancellation, and to
turn to the model of the hook if there is one. -/
theorem obeys_call {hook : HookPosition} {modelOf : α → Option Model} {r : Response α}
    {next : α → Assembling β} {z : Assembling β}
    (hnotices : ∀ a, modelOf a = none → Notices (next a))
    (hadopt : ∀ a model, modelOf a = some model → ∀ q, next a q = (adopt model, q))
    (hz : ∀ a, r.result = .ok a → modelOf a = none → next a = z) :
    Obeys adopt [.ofResponse hook modelOf r] (step >>= fun _ => call hook r >>= next) z := by
  have hrun : ∀ p : Progress, p.cancelled = false → _ :=
    fun p hp => step_call_of_live hook modelOf r next hp
  have hreply : (Reply.ofResponse hook modelOf r).result = r.result.map modelOf := rfl
  cases hresult : r.result with
  | error e =>
    rw [hresult] at hreply
    refine .of_stops (by simp [Reply.stops, hreply, Except.map]) (fun p hp => ?_) z
    rw [hrun p hp, hresult, Reply.outcome, hreply]
    rfl
  | ok a =>
    rw [hresult] at hreply
    simp only [hresult] at hrun
    cases hmodel : modelOf a with
    | some model =>
      rw [Except.map, hmodel] at hreply
      refine .of_stops (by simp [Reply.stops, hreply]) (fun p hp => ?_) z
      rw [hrun p hp, Reply.outcome, hreply]
      exact hadopt a model hmodel _
    | none =>
      rw [Except.map, hmodel] at hreply
      cases hcancels : r.cancels with
      | true =>
        -- the hook has a result, so it takes the next step to end the assembly
        have hcancels : (Reply.ofResponse hook modelOf r).cancels = true := hcancels
        refine .of_stops (by rw [Reply.stops, hcancels, Bool.true_or]) (fun p hp => ?_) z
        rw [hrun p hp, Reply.outcome, hreply]
        exact hnotices a hmodel _ (by simp [Progress.after, hcancels])
      | false =>
        refine .of_not_stops (Reply.stops_eq_false_iff.2 ⟨hcancels, hreply⟩) fun p hp => ?_
        rw [hrun p hp, hz a hresult hmodel]

/-! ### Calls of some hooks -/

/-- What hooks reply when each is called with the result of the one before, until one fails. -/
def repliesOfEach (position : Nat → HookPosition) (index : Nat) :
    List (α → Response α) → α → List Reply
  | [], _ => []
  | hook :: rest, a =>
    .ofResponse (position index) (fun _ => none) (hook a) ::
      match (hook a).result with
      | .ok b => repliesOfEach position (index + 1) rest b
      | .error _ => []

/-- The result of hooks when each is called with the result of the one before. -/
def resultOfEach (hooks : List (α → Response α)) (a : α) : Except CatalogError α :=
  hooks.foldlM (fun a hook => (hook a).result) a

/-- If calling hooks one after the other succeeds, then with what they make of each other's results.
-/
theorem resultOfEach_of_callEach {position : Nat → HookPosition} {index : Nat}
    {hooks : List (α → Response α)} {a b : α} {p q : Progress}
    (h : callEach position index hooks a p = (.ok b, q)) : resultOfEach hooks a = .ok b := by
  induction hooks generalizing index a p with
  | nil => rw [resultOfEach, List.foldlM_nil, (pure_eq_ok.1 h).1]; rfl
  | cons hook rest ih =>
    obtain ⟨-, _, -, h⟩ := bind_eq_ok.1 h
    obtain ⟨next, _, hcall, h⟩ := bind_eq_ok.1 h
    rw [resultOfEach, List.foldlM_cons, (call_eq_ok.1 hcall).1]
    exact ih h

/-- What providers reply. -/
def repliesOfProviders (context : AssemblyContext) (index : Nat) : List Provider → List Reply
  | [] => []
  | provider :: rest =>
    .ofResponse (.provider index) (fun found => found.filter (!·.isEmpty)) (provider context) ::
      repliesOfProviders context (index + 1) rest

/-- Hooks that are called with the result of the one before obey their replies. What comes after
them goes on from the last result, if there is one. -/
theorem obeys_callEach {position : Nat → HookPosition} {next : α → Assembling β} {z : Assembling β}
    (hnext : ∀ a, Notices (next a)) (index : Nat) (hooks : List (α → Response α)) (a : α)
    (hz : ∀ b, resultOfEach hooks a = .ok b → next b = z) :
    Obeys adopt (repliesOfEach position index hooks a) (callEach position index hooks a >>= next)
      z := by
  induction hooks generalizing index a with
  | nil =>
    rw [← hz a rfl]
    exact .nil _
  | cons hook rest ih =>
    have hrest := notices_callEach position hnext (index + 1) rest
    rw [callEach, bind_assoc, repliesOfEach]
    simp only [bind_assoc]
    cases hresult : (hook a).result with
    | error e =>
      -- no further reply: the first one stops, whatever comes next
      refine obeys_call (fun b _ => hrest b) (fun _ _ h => nomatch h) fun b hb => ?_
      rw [hresult] at hb
      cases hb
    | ok b =>
      have hfirst : Obeys adopt [.ofResponse (position index) (fun _ => none) (hook a)] _
          (callEach position (index + 1) rest b >>= next) :=
        obeys_call (fun b _ => hrest b) (fun _ _ h => nomatch h) fun c hc _ => by
          rw [Except.ok.inj (hresult.symm.trans hc)]
      refine hfirst.cons (ih (index + 1) b fun c hc => hz c ?_)
      rw [resultOfEach, List.foldlM_cons, hresult]
      exact hc

/-- A provider is passed over if it has no model or an empty one. -/
theorem eq_none_or_isEmpty_of_filter {found : Option Model}
    (h : found.filter (!·.isEmpty) = none) :
    found = none ∨ ∃ model, found = some model ∧ model.isEmpty = true := by
  cases found with
  | none => exact .inl rfl
  | some model => exact .inr ⟨model, rfl, by simpa using h⟩

/-- Providers obey their replies, if a model is turned to as soon as one of them has it. -/
theorem obeys_askEach (next : Option Model → Assembling β) (hnext : Notices (next none))
    (hadopt : ∀ model q, next (some model) q = (adopt model, q)) (context : AssemblyContext)
    (index : Nat) (providers : List Provider) :
    Obeys adopt (repliesOfProviders context index providers)
      (askEach context index providers >>= next) (next none) := by
  induction providers generalizing index with
  | nil => exact .nil _
  | cons provider rest ih =>
    rw [askEach, bind_assoc, repliesOfProviders]
    simp only [bind_assoc]
    refine (obeys_call (fun found hfound => ?_) (fun found model hfound => ?_)
      fun found _ hfound => ?_).cons (ih (index + 1))
    · have hrest := notices_askEach hnext context (index + 1) rest
      rcases eq_none_or_isEmpty_of_filter hfound with rfl | ⟨model, rfl, hmodel⟩
      · exact hrest
      · simpa only [hmodel, if_true] using hrest
    · obtain ⟨rfl, hmodel⟩ := Option.filter_eq_some_iff.1 hfound
      intro q
      dsimp only
      rw [if_neg (by simpa using hmodel)]
      exact hadopt model q
    · rcases eq_none_or_isEmpty_of_filter hfound with rfl | ⟨model, rfl, hmodel⟩
      · rfl
      · simp only [hmodel, if_true]

/-! ### The order of calls -/

/-- Hooks are called in their order. -/
theorem hooks_repliesOfEach (position : Nat → HookPosition) (index : Nat)
    (hooks : List (α → Response α)) (a : α) :
    (repliesOfEach position index hooks a).map (·.hook)
      <+: (List.range' index hooks.length).map position := by
  induction hooks generalizing index a with
  | nil => exact List.prefix_refl []
  | cons hook rest ih =>
    rw [repliesOfEach, List.map_cons, List.length_cons, List.range'_succ, List.map_cons,
      Reply.hook_ofResponse]
    refine (List.prefix_cons_inj _).2 ?_
    cases (hook a).result with
    | error e => exact List.nil_prefix
    | ok b => exact ih (index + 1) b

/-- All hooks are called if none of them fails. -/
theorem hooks_repliesOfEach_of_ok {position : Nat → HookPosition} {index : Nat}
    {hooks : List (α → Response α)} {a b : α} (h : resultOfEach hooks a = .ok b) :
    (repliesOfEach position index hooks a).map (·.hook)
      = (List.range' index hooks.length).map position := by
  induction hooks generalizing index a with
  | nil => rfl
  | cons hook rest ih =>
    rw [resultOfEach, List.foldlM_cons] at h
    rw [repliesOfEach, List.map_cons, List.length_cons, List.range'_succ, List.map_cons,
      Reply.hook_ofResponse]
    cases hresult : (hook a).result with
    | error e =>
      rw [hresult] at h
      cases h
    | ok c =>
      rw [hresult] at h
      exact congrArg _ (ih h)

/-- Providers reply in their order, each of them once. -/
theorem hooks_repliesOfProviders (context : AssemblyContext) (index : Nat)
    (providers : List Provider) :
    (repliesOfProviders context index providers).map (·.hook)
      = (List.range' index providers.length).map .provider := by
  induction providers generalizing index with
  | nil => rfl
  | cons provider rest ih =>
    rw [repliesOfProviders, List.map_cons, List.length_cons, List.range'_succ, List.map_cons,
      Reply.hook_ofResponse, ih (index + 1)]

/-- Hooks that do not stop the assembly have a result. -/
theorem exists_resultOfEach {position : Nat → HookPosition} {index : Nat}
    {hooks : List (α → Response α)} {a : α}
    (h : (repliesOfEach position index hooks a).find? Reply.stops = none) :
    ∃ b, resultOfEach hooks a = .ok b := by
  induction hooks generalizing index a with
  | nil => exact ⟨a, rfl⟩
  | cons hook rest ih =>
    rw [repliesOfEach, List.find?_eq_none, List.forall_mem_cons, ← List.find?_eq_none] at h
    obtain ⟨hgo, h⟩ := h
    rw [resultOfEach, List.foldlM_cons]
    cases hresult : (hook a).result with
    | error e =>
      have hreply := (Reply.stops_eq_false_iff.1 (Bool.eq_false_iff.2 hgo)).2
      rw [Reply.ofResponse, hresult] at hreply
      cases hreply
    | ok b =>
      rw [hresult] at h
      exact ih h

end Assembling

end FacetModel
