import FacetModel.Proofs.Model.Lineage
import FacetModel.Proofs.Pipeline.Visit

/-!
# Composition in single steps

A composition on its way (`Rewriting`) looks at a node, searches for the type of its rows, or has an
answer to a part of the query. It keeps one list of the stubs under expansion: an expansion puts its
stub on the list when it starts, and takes the latest stub off when its answer is there, be that a
query or an error.

What a navigation stands for is told by walks along base types, and each round of such a walk is a
step of its own (`Search`). As the walks need not end, neither do the steps. They lead to the answer
of `Pipeline.composeNode` if the walks end for every node up to the first one that is denied
(`Pipeline.reaches_answer`), and go on for ever otherwise (`Pipeline.endless_visit`). So the steps
that end are those to the flat reading of the query (`Pipeline.composes_iff_flat`).
-/

namespace FacetModel

/-! ### Walks that a query asks for -/

namespace Query

/-- The properties of the navigations above the leaf of a query, the lowest one first. -/
def path : Query → List String
  | .stub _ => []
  | .source _ => []
  | .filter input _ => input.path
  | .project input _ => input.path
  | .navigate input property => input.path ++ [property]

/-- The walks end that tell the type of the rows of a query: one for each navigation from rows of a
known type. -/
def WalksEnd (m : Model) : Query → Prop
  | .stub _ => True
  | .source _ => True
  | .filter input _ => input.WalksEnd m
  | .project input _ => input.WalksEnd m
  | .navigate input property =>
    input.WalksEnd m ∧
      ∀ type, input.elementType? m = some type → (m.navigationWalk type property).isSome

/-- The walks end that tell what a node stands for. Only a navigation asks for any. -/
def Classified (m : Model) : Query → Prop
  | .navigate input property => (navigate input property).WalksEnd m
  | .stub _ | .source _ | .filter _ _ | .project _ _ => True

variable {m : Model}

/-- Without circles of base types, the rows of every query have a type that can be told. -/
theorem walksEnd_of_acyclic (h : m.Acyclic) (q : Query) : q.WalksEnd m := by
  induction q with
  | stub name => trivial
  | source s => trivial
  | filter input predicate ih => exact ih
  | project input fields ih => exact ih
  | navigate input property ih => exact ⟨ih, fun type _ => h.isSome_navigationWalk type property⟩

/-- Without circles, it can be told of every node what it stands for. -/
theorem classified_of_acyclic (h : m.Acyclic) (q : Query) : q.Classified m := by
  cases q with
  | navigate input property => exact walksEnd_of_acyclic h _
  | stub name => trivial
  | source s => trivial
  | filter input predicate => trivial
  | project input fields => trivial

end Query

/-- A search for the type of the rows at the end of a path of navigations. -/
inductive Search where
  /-- A walk along base types is at a type, or past the last one, and looks for the first property
  of the rest of the path. -/
  | climb (type? : Option ModelType) (property : String) (path : List String)
  /-- The search is over, with a type or without one. -/
  | done (type? : Option String)

namespace Search

/-- The search from rows of a type, if that is known, along a path. -/
def follow (m : Model) : Option String → List String → Search
  | some type, property :: path => .climb (m.findType? type) property path
  | type?, _ => .done type?

/-- One round of a walk. -/
def round (m : Model) (type? : Option ModelType) (property : String) (path : List String) :
    Search :=
  match type? with
  | none => .done none
  | some t =>
    match t.navigation? property with
    | some n => follow m (some n.targetType) path
    | none => .climb (m.baseOf? t) property path

/-- Rows of an unknown type have no navigations, so the rest of the path is not looked at. -/
theorem follow_none (m : Model) (path : List String) : follow m none path = .done none := by
  cases path <;> rfl

end Search

/-- What a navigation to rows of a type stands for, if the type is known. -/
def ModelReference.ofElementType : Option String → ModelReference
  | some type => .entities type
  | none => .nothing

/-- A navigation stands for the rows that it leads to. -/
theorem ModelReference.classify_navigate (m : Model) (input : Query) (property : String) :
    classify m (.navigate input property) =
      ofElementType (Query.elementType? m (.navigate input property)) := by
  rw [classify]
  cases Query.elementType? m (.navigate input property) <;> rfl

/-- Something holds of the elements of a list up to the first one that passes a test, and of that
one. -/
def HoldsUpTo {α : Type} (stop : α → Bool) (holds : α → Prop) : List α → Prop
  | [] => True
  | a :: rest => holds a ∧ (stop a = false → HoldsUpTo stop holds rest)

/-- What holds of all elements holds of those up to any one. -/
theorem HoldsUpTo.of_forall {α : Type} {stop : α → Bool} {holds : α → Prop} {l : List α}
    (h : ∀ a ∈ l, holds a) : HoldsUpTo stop holds l := by
  induction l with
  | nil => trivial
  | cons a rest ih =>
    obtain ⟨ha, hrest⟩ := List.forall_mem_cons.1 h
    exact ⟨ha, fun _ => ih hrest⟩

namespace Pipeline

/-! ### Single steps -/

/-- What is left to do with the answer to a part of a query. -/
inductive Frame where
  /-- It takes the place of the input of a node. -/
  | node (q : Query)
  /-- It ends the expansion of a stub. -/
  | expansion (name : String)

/-- What is done with a query that is found. -/
def Frame.finish : Frame → Composed → Composed
  | .node q, r => r.below q.withInput
  | .expansion _, r => { r with changed := true }

/-- The stubs under expansion after an answer: an expansion takes off the latest one. -/
def Frame.release : Frame → List String → List String
  | .node _, expanding => expanding
  | .expansion _, expanding => expanding.tail

/-- What a step looks at. -/
inductive Focus where
  /-- A node that may stand below other nodes. -/
  | visit (embedded : Bool) (q : Query)
  /-- A node of which it is not yet known what it stands for. -/
  | search (embedded : Bool) (q : Query) (search : Search)
  /-- An answer, which may be an error. -/
  | answer (r : Except PipelineError Composed)

/-- A composition on its way. -/
structure Rewriting where
  focus : Focus
  /-- What is left to do, innermost first. -/
  frames : List Frame := []
  /-- The stubs under expansion, latest first. -/
  expanding : List String

section Steps

variable (p : Pipeline) (c : QueryContext)

/-- Whether a node is denied that is known to stand for something. -/
def deniesAs (reference : ModelReference) (node : Query) : Bool :=
  !reference.isNothing
    && p.authorizers.firstAnswer? (fun authorizer => authorizer c node) == some false

/-- The step at a node that is known to stand for something. -/
def enter (reference : ModelReference) (embedded : Bool) (q : Query) (frames : List Frame)
    (expanding : List String) : Rewriting :=
  if p.deniesAs c reference q then ⟨.answer (.error (.accessDenied reference)), frames, expanding⟩
  else
    match q with
    | .stub name =>
      match p.expansion? c expanding name with
      | some expanded => ⟨.visit embedded expanded, .expansion name :: frames, name :: expanding⟩
      | none =>
        match p.sourced? c name embedded with
        | some query => ⟨.answer (.ok { query, changed := true }), frames, expanding⟩
        | none => ⟨.answer (.error (.unresolvedSource name)), frames, expanding⟩
    | .source s => ⟨.answer (.ok { query := .source s, changed := false }), frames, expanding⟩
    | .filter input _ => ⟨.visit true input, .node q :: frames, expanding⟩
    | .project input _ => ⟨.visit true input, .node q :: frames, expanding⟩
    | .navigate input _ => ⟨.visit true input, .node q :: frames, expanding⟩

/-- The step that comes to a node. For a navigation, a search for the type of its rows begins. -/
def meetNode (embedded : Bool) (q : Query) (frames : List Frame) (expanding : List String) :
    Rewriting :=
  match q with
  | .navigate _ _ =>
    ⟨.search embedded q (.follow c.model (q.leaf.elementType? c.model) q.path), frames, expanding⟩
  | _ => p.enter c (.classify c.model q) embedded q frames expanding

/-- The next state, unless nothing is left to do. -/
def step? : Rewriting → Option Rewriting
  | ⟨.visit embedded q, frames, expanding⟩ => some (p.meetNode c embedded q frames expanding)
  | ⟨.search embedded q (.climb type? property path), frames, expanding⟩ =>
    some ⟨.search embedded q (.round c.model type? property path), frames, expanding⟩
  | ⟨.search embedded q (.done type?), frames, expanding⟩ =>
    some (p.enter c (.ofElementType type?) embedded q frames expanding)
  | ⟨.answer r, frame :: frames, expanding⟩ =>
    some ⟨.answer (r.map frame.finish), frames, frame.release expanding⟩
  | ⟨.answer _, [], _⟩ => none

/-- The state after a number of steps, if so many can be made. -/
def run : Nat → Rewriting → Option Rewriting
  | 0, s => some s
  | n + 1, s => (p.step? c s).bind (run n)

/-- Steps lead from one state to another. -/
def Reaches (s t : Rewriting) : Prop := ∃ n, p.run c n s = some t

/-- The steps go on for ever: any number of them can be made. -/
def Endless (s : Rewriting) : Prop := ∀ n, (p.run c n s).isSome

/-- The steps from a query end, with an answer. -/
def Composes (q : Query) (r : Except PipelineError Composed) : Prop :=
  p.Reaches c ⟨.visit false q, [], []⟩ ⟨.answer r, [], []⟩

variable {p c} {s t u : Rewriting}

theorem Reaches.refl (s : Rewriting) : p.Reaches c s s := ⟨0, rfl⟩

theorem Reaches.head (h : p.step? c s = some t) (ht : p.Reaches c t u) : p.Reaches c s u := by
  obtain ⟨n, hn⟩ := ht
  exact ⟨n + 1, by rw [run, h, Option.bind_some, hn]⟩

theorem Reaches.single (h : p.step? c s = some t) : p.Reaches c s t := .head h (.refl t)

/-- Steps may be put one after the other. -/
theorem Reaches.trans (h : p.Reaches c s t) (ht : p.Reaches c t u) : p.Reaches c s u := by
  obtain ⟨n, hn⟩ := h
  induction n generalizing s with
  | zero =>
    cases hn
    exact ht
  | succ n ih =>
    obtain ⟨next, hnext, hrest⟩ := Option.bind_eq_some_iff.1 hn
    exact .head hnext (ih hrest)

/-- The last of some steps can be split off as well as the first. -/
theorem run_succ (n : Nat) (s : Rewriting) :
    p.run c (n + 1) s = (p.run c n s).bind (p.step? c) := by
  induction n generalizing s with
  | zero => exact Option.bind_fun_some (p.step? c s)
  | succ n ih =>
    cases hnext : p.step? c s with
    | none => simp only [run, hnext, Option.bind_none]
    | some next =>
      rw [run, hnext, Option.bind_some, ih next]
      simp only [run, hnext, Option.bind_some]

theorem Endless.head (h : p.step? c s = some t) (ht : p.Endless c t) : p.Endless c s := by
  rintro (_ | n)
  · rfl
  · rw [run, h, Option.bind_some]
    exact ht n

/-- Steps that lead to endless ones are endless. -/
theorem Endless.of_reaches (h : p.Reaches c s t) (ht : p.Endless c t) : p.Endless c s := by
  obtain ⟨n, hn⟩ := h
  induction n generalizing s with
  | zero =>
    cases hn
    exact ht
  | succ n ih =>
    obtain ⟨next, hnext, hrest⟩ := Option.bind_eq_some_iff.1 hn
    exact .head hnext (ih hrest)

/-- Endless steps do not lead to a state without a next one. -/
theorem Endless.step?_ne_none (h : p.Endless c s) (ht : p.Reaches c s t) : p.step? c t ≠ none := by
  obtain ⟨n, hn⟩ := ht
  intro hnone
  have hsome := h (n + 1)
  rw [run_succ, hn, Option.bind_some, hnone] at hsome
  cases hsome

/-- There is one state at most at which steps end. -/
theorem Reaches.eq_of_step?_eq_none (ht : p.Reaches c s t) (hu : p.Reaches c s u)
    (htnone : p.step? c t = none) (hunone : p.step? c u = none) : t = u := by
  obtain ⟨n, hn⟩ := ht
  induction n generalizing s with
  | zero =>
    cases hn
    obtain ⟨_ | k, hk⟩ := hu
    · exact Option.some.inj hk
    · rw [run, htnone] at hk
      cases hk
  | succ n ih =>
    obtain ⟨next, hnext, hrest⟩ := Option.bind_eq_some_iff.1 hn
    obtain ⟨_ | k, hk⟩ := hu
    · cases hk
      cases hunone.symm.trans hnext
    · rw [run, hnext, Option.bind_some] at hk
      exact ih ⟨k, hk⟩ hrest

/-! ### Searches -/

section Searches

variable {embedded : Bool} {q : Query} {frames : List Frame} {expanding : List String}
  {type? : Option ModelType} {property : String} {path : List String}

/-- A walk that ends leads on along the path, from the target of what it found. -/
theorem reaches_of_climb {rounds : Nat} {found : Option NavigationProperty}
    (h : c.model.climb? (·.navigation? property) rounds type? = some found) :
    p.Reaches c ⟨.search embedded q (.climb type? property path), frames, expanding⟩
      ⟨.search embedded q (.follow c.model (found.map (·.targetType)) path), frames,
        expanding⟩ := by
  induction rounds, type? using Model.climb?.induct c.model (·.navigation? property) with
  | case1 rounds =>
    rw [Model.climb?] at h
    cases h
    exact .single (by rw [Option.map_none, Search.follow_none]; rfl)
  | case2 t => cases h
  | case3 rounds t n hfound =>
    rw [Model.climb?, hfound] at h
    cases h
    exact .single (by rw [step?, Search.round, hfound]; rfl)
  | case4 rounds t hfound ih =>
    rw [Model.climb?, hfound] at h
    -- nothing is found on this type, so the next round is the next step
    exact .head (by rw [step?, Search.round, hfound]) (ih h)

/-- A walk for which no number of rounds suffices keeps the search at its rounds. -/
theorem endless_of_climb
    (h : ∀ rounds, c.model.climb? (·.navigation? property) rounds type? = none) :
    p.Endless c ⟨.search embedded q (.climb type? property path), frames, expanding⟩ := by
  intro n
  induction n generalizing type? with
  | zero => rfl
  | succ n ih =>
    cases type? with
    | none => cases h 0
    | some t =>
      -- the first round goes on with the base type, for which no number of rounds suffices either
      have hround (rounds : Nat) := h (rounds + 1)
      simp only [Model.climb?] at hround
      cases hfound : t.navigation? property with
      | some found =>
        simp only [hfound] at hround
        cases hround 0
      | none =>
        simp only [hfound] at hround
        rw [run, step?, Search.round, hfound]
        exact ih hround

/-- **A search comes to the type of the rows of a query**, if the walks end on the way, and goes on
from there. -/
theorem reaches_follow (embedded : Bool) (q : Query) (frames : List Frame)
    (expanding : List String) {part : Query} (h : part.WalksEnd c.model) (path : List String) :
    p.Reaches c
      ⟨.search embedded q (.follow c.model (part.leaf.elementType? c.model) (part.path ++ path)),
        frames, expanding⟩
      ⟨.search embedded q (.follow c.model (part.elementType? c.model) path), frames,
        expanding⟩ := by
  induction part generalizing path with
  | stub name => exact .refl _
  | source s => exact .refl _
  | filter input predicate ih => exact ih h path
  | project input fields ih => exact ih h path
  | navigate input property ih =>
    -- the walks below come first, with this property at the head of the rest of the path
    have hinput := ih h.1 (property :: path)
    rw [Query.leaf, Query.path, List.append_assoc, List.singleton_append]
    refine hinput.trans ?_
    rw [Query.elementType?]
    cases htype : input.elementType? c.model with
    | none =>
      rw [Search.follow_none, Search.follow_none]
      exact .refl _
    | some type =>
      obtain ⟨found, hfound⟩ := Option.isSome_iff_exists.1 (h.2 type htype)
      dsimp only
      rw [Model.findNavigation?, hfound, Option.join_some]
      obtain ⟨rounds, hrounds⟩ := Model.walk_eq_some_iff.1 hfound
      exact reaches_of_climb hrounds

/-- A walk that does not end on the way keeps the search from coming to the type. -/
theorem endless_follow (embedded : Bool) (q : Query) (frames : List Frame)
    (expanding : List String) {part : Query} (h : ¬ part.WalksEnd c.model) (path : List String) :
    p.Endless c
      ⟨.search embedded q (.follow c.model (part.leaf.elementType? c.model) (part.path ++ path)),
        frames, expanding⟩ := by
  induction part generalizing path with
  | stub name => exact absurd trivial h
  | source s => exact absurd trivial h
  | filter input predicate ih => exact ih h path
  | project input fields ih => exact ih h path
  | navigate input property ih =>
    rw [Query.leaf, Query.path, List.append_assoc, List.singleton_append]
    by_cases hinput : input.WalksEnd c.model
    · have hwalk : ¬ ∀ type, input.elementType? c.model = some type →
          (c.model.navigationWalk type property).isSome := fun hall => h ⟨hinput, hall⟩
      -- the walks below end, so the search comes to this one, which is the one that does not
      push Not at hwalk
      obtain ⟨type, htype, hnone⟩ := hwalk
      refine .of_reaches (reaches_follow embedded q frames expanding hinput (property :: path)) ?_
      rw [htype]
      exact endless_of_climb (Model.walk_eq_none_iff.1 (Option.not_isSome_iff_eq_none.1 hnone))
    · exact ih hinput (property :: path)

/-- **A node is entered as what it stands for**, if the walks end that tell it. -/
theorem reaches_enter (h : q.Classified c.model) (embedded : Bool) (frames : List Frame)
    (expanding : List String) :
    p.Reaches c ⟨.visit embedded q, frames, expanding⟩
      (p.enter c (.classify c.model q) embedded q frames expanding) := by
  cases q with
  | stub name => exact .single rfl
  | source s => exact .single rfl
  | filter input predicate => exact .single rfl
  | project input fields => exact .single rfl
  | navigate input property =>
    have hsearch :=
      reaches_follow (p := p) embedded (.navigate input property) frames expanding h []
    rw [List.append_nil] at hsearch
    refine .head rfl (hsearch.trans (.single ?_))
    rw [ModelReference.classify_navigate]
    cases Query.elementType? c.model (.navigate input property) <;> rfl

/-- The search at a navigation goes on for ever if one of its walks does. -/
theorem endless_of_not_classified (h : ¬ q.Classified c.model) :
    p.Endless c ⟨.visit embedded q, frames, expanding⟩ := by
  cases q with
  | stub name => exact absurd trivial h
  | source s => exact absurd trivial h
  | filter input predicate => exact absurd trivial h
  | project input fields => exact absurd trivial h
  | navigate input property =>
    have hsearch :=
      endless_follow (p := p) embedded (.navigate input property) frames expanding h []
    rw [List.append_nil] at hsearch
    exact .head rfl hsearch

end Searches

/-! ### Nodes that are entered -/

section Enter

variable {embedded : Bool} {q input : Query} {frames : List Frame} {expanding : List String}

/-- A node is denied as what it stands for. -/
theorem denies_eq_deniesAs (p : Pipeline) (c : QueryContext) (node : Query) :
    p.denies c node = p.deniesAs c (.classify c.model node) node := by
  rw [denies, verdict?, deniesAs]
  cases (ModelReference.classify c.model node).isNothing <;> rfl

/-- A node that is denied gets its answer without a look below it. -/
theorem enter_of_denies (h : p.denies c q) :
    p.enter c (.classify c.model q) embedded q frames expanding
      = ⟨.answer (.error (.accessDenied (.classify c.model q))), frames, expanding⟩ := by
  rw [denies_eq_deniesAs] at h
  rw [enter.eq_def, if_pos h]

/-- From a wrapper the steps go on to its input. -/
theorem enter_of_input (hq : q.input? = some input) (h : p.denies c q = false) :
    p.enter c (.classify c.model q) embedded q frames expanding
      = ⟨.visit true input, .node q :: frames, expanding⟩ := by
  rw [denies_eq_deniesAs] at h
  rw [enter.eq_def, if_neg (Bool.eq_false_iff.1 h)]
  obtain ⟨_, rfl⟩ | ⟨_, rfl⟩ | ⟨_, rfl⟩ := Query.input?_eq_some hq <;> rfl

theorem enter_source {s : Source} (h : p.denies c (.source s) = false) :
    p.enter c (.classify c.model (.source s)) embedded (.source s) frames expanding
      = ⟨.answer (.ok { query := .source s, changed := false }), frames, expanding⟩ := by
  rw [denies_eq_deniesAs] at h
  rw [enter.eq_def, if_neg (Bool.eq_false_iff.1 h)]

/-- From a stub they go on to its expansion, with the stub on the list. -/
theorem enter_stub_of_some {name : String} {expanded : Query}
    (hname : p.expansion? c expanding name = some expanded) (h : p.denies c (.stub name) = false) :
    p.enter c (.classify c.model (.stub name)) embedded (.stub name) frames expanding
      = ⟨.visit embedded expanded, .expansion name :: frames, name :: expanding⟩ := by
  rw [denies_eq_deniesAs] at h
  rw [enter.eq_def, if_neg (Bool.eq_false_iff.1 h)]
  dsimp only
  rw [hname]

/-- At a stub without expansion they have the sourcers' answer. -/
theorem enter_stub_of_none {name : String} (hname : p.expansion? c expanding name = none)
    (h : p.denies c (.stub name) = false) :
    p.enter c (.classify c.model (.stub name)) embedded (.stub name) frames expanding
      = ⟨.answer (p.composeNode c expanding embedded (.stub name)), frames, expanding⟩ := by
  rw [composeNode_stub_of_none hname h]
  rw [denies_eq_deniesAs] at h
  rw [enter.eq_def, if_neg (Bool.eq_false_iff.1 h)]
  dsimp only
  rw [hname]
  cases p.sourced? c name embedded <;> rfl

/-- A node that is denied is answered at once, once it is known what it stands for. -/
theorem reaches_answer_of_denies (hclassified : q.Classified c.model) (h : p.denies c q) :
    p.Reaches c ⟨.visit embedded q, frames, expanding⟩
      ⟨.answer (p.composeNode c expanding embedded q), frames, expanding⟩ := by
  rw [composeNode_of_denies h, ← enter_of_denies h]
  exact reaches_enter hclassified embedded frames expanding

end Enter

/-! ### Steps and composition -/

section Whole

/-- The walks end that a composition asks for: those of the visited nodes up to the first one that
is denied. -/
def WalksEndFrom (p : Pipeline) (c : QueryContext) (expanding : List String) (q : Query) : Prop :=
  HoldsUpTo (p.denies c) (Query.Classified c.model) (p.visitFrom c expanding q)

/-- The walks end that the composition of a whole query asks for. -/
def WalksEnd (p : Pipeline) (c : QueryContext) (q : Query) : Prop := p.WalksEndFrom c [] q

variable {expanding : List String} {q : Query}

theorem walksEndFrom_of_acyclic (h : c.model.Acyclic) (expanding : List String) (q : Query) :
    p.WalksEndFrom c expanding q :=
  .of_forall fun node _ => Query.classified_of_acyclic h node

/-- Below a wrapper that is denied no walk is asked for. -/
theorem walksEndFrom_of_input {input : Query} (hq : q.input? = some input) :
    p.WalksEndFrom c expanding q ↔
      q.Classified c.model ∧ (p.denies c q = false → p.WalksEndFrom c expanding input) := by
  rw [WalksEndFrom, visitFrom_of_input p c expanding hq, HoldsUpTo, WalksEndFrom]

/-- What a stub stands for is told without walks, so those of its expansion are left. -/
theorem walksEndFrom_stub_of_some {name : String} {expanded : Query}
    (hname : p.expansion? c expanding name = some expanded) :
    p.WalksEndFrom c expanding (.stub name) ↔
      (p.denies c (.stub name) = false → p.WalksEndFrom c (name :: expanding) expanded) := by
  rw [WalksEndFrom, visitFrom_stub_of_some p c expanding hname, HoldsUpTo, WalksEndFrom]
  exact and_iff_right trivial

theorem walksEndFrom_source (s : Source) : p.WalksEndFrom c expanding (.source s) := by
  rw [WalksEndFrom, visitFrom_source]
  exact ⟨trivial, fun _ => trivial⟩

theorem walksEndFrom_stub_of_none {name : String} (hname : p.expansion? c expanding name = none) :
    p.WalksEndFrom c expanding (.stub name) := by
  rw [WalksEndFrom, visitFrom_stub_of_none p c expanding hname]
  exact ⟨trivial, fun _ => trivial⟩

/-- **Steps lead to the answer** of the composition of a node, if all walks end that they ask for,
in the frames and with the stubs under expansion in which the node was met. -/
theorem reaches_answer (h : p.WalksEndFrom c expanding q) (embedded : Bool) (frames : List Frame) :
    p.Reaches c ⟨.visit embedded q, frames, expanding⟩
      ⟨.answer (p.composeNode c expanding embedded q), frames, expanding⟩ := by
  induction expanding, q using visit_induction p c generalizing embedded frames with
  | source expanding s =>
    cases hdenies : p.denies c (.source s) with
    | true => exact reaches_answer_of_denies trivial hdenies
    | false =>
      rw [composeNode_source s hdenies, ← enter_source hdenies]
      exact reaches_enter (c := c) (q := .source s) trivial embedded frames expanding
  | below expanding q input hinput ih =>
    obtain ⟨hclassified, hbelow⟩ := (walksEndFrom_of_input hinput).1 h
    cases hdenies : p.denies c q with
    | true => exact reaches_answer_of_denies hclassified hdenies
    | false =>
      have henter := reaches_enter (p := p) hclassified embedded frames expanding
      rw [enter_of_input hinput hdenies] at henter
      -- the wrapper is put around the answer when its frame is the innermost one again
      refine (henter.trans (ih (hbelow hdenies) true (.node q :: frames))).trans (.single ?_)
      rw [composeNode_of_input hinput hdenies]
      rfl
  | expansion expanding name expanded hname ih =>
    cases hdenies : p.denies c (.stub name) with
    | true => exact reaches_answer_of_denies trivial hdenies
    | false =>
      have henter := reaches_enter (p := p) (c := c) (q := .stub name) trivial embedded frames
        expanding
      rw [enter_stub_of_some hname hdenies] at henter
      have hanswer := ih ((walksEndFrom_stub_of_some hname).1 h hdenies) embedded
        (.expansion name :: frames)
      -- the answer to the expansion takes the stub off the list again
      refine (henter.trans hanswer).trans (.single ?_)
      rw [composeNode_stub_of_some hname hdenies]
      rfl
  | stop expanding name hname =>
    cases hdenies : p.denies c (.stub name) with
    | true => exact reaches_answer_of_denies trivial hdenies
    | false =>
      rw [← enter_stub_of_none hname hdenies]
      exact reaches_enter (c := c) (q := .stub name) trivial embedded frames expanding

/-- **Steps go on for ever** if they come to a node of which it cannot be told what it stands for.
-/
theorem endless_visit (h : ¬ p.WalksEndFrom c expanding q) (embedded : Bool) (frames : List Frame) :
    p.Endless c ⟨.visit embedded q, frames, expanding⟩ := by
  induction expanding, q using visit_induction p c generalizing embedded frames with
  | source expanding s => exact absurd (walksEndFrom_source s) h
  | below expanding q input hinput ih =>
    by_cases hclassified : q.Classified c.model
    -- the walks of this node end, so it is those below that do not, and the node is not denied
    · rw [walksEndFrom_of_input hinput, and_iff_right hclassified, Classical.not_imp] at h
      have henter := reaches_enter (p := p) hclassified embedded frames expanding
      rw [enter_of_input hinput h.1] at henter
      exact .of_reaches henter (ih h.2 true _)
    · exact endless_of_not_classified hclassified
  | expansion expanding name expanded hname ih =>
    rw [walksEndFrom_stub_of_some hname, Classical.not_imp] at h
    have henter :=
      reaches_enter (p := p) (c := c) (q := .stub name) trivial embedded frames expanding
    rw [enter_stub_of_some hname h.1] at henter
    exact .of_reaches henter (ih h.2 embedded _)
  | stop expanding name hname => exact absurd (walksEndFrom_stub_of_none hname) h

/-- **Composition is its flat reading.** The steps from a query end exactly if the walks end for the
visited nodes up to the first one that is denied, and then their answer is the outcome that the list
of visited nodes alone determines. It is that of `Pipeline.compose`. Over models without circles of
base types the steps always end. -/
theorem composes_iff_flat (p : Pipeline) (c : QueryContext) (q : Query) :
    (∀ r, p.Composes c q r ↔ p.WalksEnd c q ∧ r = p.flat c q) ∧
      (∀ r, p.Composes c q r → p.compose c q = r) ∧
      (¬ p.WalksEnd c q → p.Endless c ⟨.visit false q, [], []⟩) ∧
      (c.model.Acyclic → p.WalksEnd c q) := by
  have hiff (r : Except PipelineError Composed) :
      p.Composes c q r ↔ p.WalksEnd c q ∧ r = p.flat c q := by
    rw [← compose_eq_flat]
    constructor
    · intro hr
      by_cases hwalks : p.WalksEnd c q
      · refine ⟨hwalks, ?_⟩
        -- there is one end at most, and the composition of the query is one
        cases hr.eq_of_step?_eq_none (reaches_answer hwalks false []) rfl rfl
        rfl
      · exact absurd rfl ((endless_visit hwalks false []).step?_ne_none hr)
    · rintro ⟨hwalks, rfl⟩
      exact reaches_answer hwalks false []
  refine ⟨hiff, fun r hr => ?_, fun h => endless_visit h false [],
    fun h => walksEndFrom_of_acyclic h [] q⟩
  rw [compose_eq_flat, ((hiff r).1 hr).2]

end Whole

end Steps

end Pipeline

end FacetModel
