import FacetModel.Pipeline.Handlers
import FacetModel.Remaining

/-!
# The query pipeline

A pipeline composes queries from top to bottom (`Pipeline.compose`). Each node that stands for
something in the model must not be denied. A stub takes the first expansion there is, unless it is
under expansion already, and is resolved by the first sourcer otherwise; an answer that contains
the stub itself does not count. `Pipeline.consultations` lists the questions that are asked on the
way.
-/

namespace FacetModel

/-- The handlers of queries. -/
structure Pipeline where
  authorizers : HandlerChain Authorizer := {}
  expanders : HandlerChain Expander := {}
  sourcers : HandlerChain Sourcer := {}

/-- Why a query cannot be composed. -/
inductive PipelineError where
  /-- A node is denied. -/
  | accessDenied (element : ModelReference)
  /-- No sourcer resolves a stub. -/
  | unresolvedSource (name : String)
deriving DecidableEq, Repr

/-- The message of an error. -/
def PipelineError.message : PipelineError → String
  | .accessDenied element => "Access to " ++ element.text ++ " was denied"
  | .unresolvedSource name => "No sourcer could resolve data source `" ++ name ++ "`"

/-- A composed query. -/
structure Composed where
  query : Query
  /-- Whether a stub was replaced. -/
  changed : Bool

/-- A composed query below another node. -/
def Composed.below (r : Composed) (node : Query → Query) : Composed :=
  { r with query := node r.query }

namespace Pipeline

/-- The pipeline with the conventions of a catalog among its fallbacks. -/
def withConventions (p : Pipeline) (conventions : ConventionCatalog) : Pipeline :=
  { p with
    expanders := p.expanders.pushFallback (.ofConventions conventions)
    sourcers := p.sourcers.pushFallback (.ofConventions conventions) }

/-- What the authorizers say about a node. Nodes that stand for nothing are not judged. -/
def verdict? (p : Pipeline) (c : QueryContext) (node : Query) : Option Bool :=
  if (ModelReference.classify c.model node).isNothing then none
  else p.authorizers.firstAnswer? fun authorizer => authorizer c node

/-- Whether a node is denied. -/
def denies (p : Pipeline) (c : QueryContext) (node : Query) : Bool :=
  p.verdict? c node == some false

/-- The expansion of a stub that is not under expansion. -/
def expansion? (p : Pipeline) (c : QueryContext) (expanding : List String) (name : String) :
    Option Query :=
  if name ∈ expanding then none else p.expanders.firstAnswer? fun e => e.expand c name

/-- What a sourcer has for a stub, unless it contains the stub itself. -/
def sourcedBy? (c : QueryContext) (name : String) (embedded : Bool) (s : Sourcer) : Option Query :=
  (s c name embedded).filter fun q => name ∉ q.stubNames

/-- What the sourcers have for a stub. -/
def sourced? (p : Pipeline) (c : QueryContext) (name : String) (embedded : Bool) : Option Query :=
  p.sourcers.firstAnswer? (sourcedBy? c name embedded)

/-! ### Expansion ends -/

/-- The names of all stubs that can have an expansion. -/
def expandable (p : Pipeline) : List String := p.expanders.toList.flatMap (·.names)

/-- How many names of stubs are not under expansion. -/
def unexpanded (p : Pipeline) (expanding : List String) : Nat :=
  (p.expandable.filter (· ∉ expanding)).length

theorem expansion?_eq_some {p : Pipeline} {c : QueryContext} {expanding : List String}
    {name : String} {q : Query} (h : p.expansion? c expanding name = some q) :
    name ∉ expanding ∧ name ∈ p.expandable := by
  unfold expansion? at h
  split at h
  case isTrue => cases h
  case isFalse hn =>
    obtain ⟨e, he, hq⟩ := List.exists_of_findSome?_eq_some h
    refine ⟨hn, List.mem_flatMap.2 ⟨e, he, ?_⟩⟩
    unfold Expander.expand at hq
    split at hq
    case isTrue hm => exact hm
    case isFalse => cases hq

/-- An expansion leaves fewer names to expand. -/
theorem unexpanded_lt {p : Pipeline} {c : QueryContext} {expanding : List String} {name : String}
    {q : Query} (h : p.expansion? c expanding name = some q) :
    p.unexpanded (name :: expanding) < p.unexpanded expanding := by
  obtain ⟨hn, hm⟩ := expansion?_eq_some h
  exact length_filter_lt (a := name) (by simp) hm (by simpa using hn) (by simp)

/-! ### Composition -/

/-- Composes a query below the nodes above it, while some stubs are under expansion. -/
def composeNode (p : Pipeline) (c : QueryContext) (expanding : List String) (embedded : Bool)
    (q : Query) : Except PipelineError Composed :=
  if p.denies c q then .error (.accessDenied (.classify c.model q))
  else
    match q with
    | .stub name =>
      match _h : p.expansion? c expanding name with
      | some expanded =>
        match composeNode p c (name :: expanding) embedded expanded with
        | .ok r => .ok { r with changed := true }
        | .error e => .error e
      | none =>
        match p.sourced? c name embedded with
        | some query => .ok { query, changed := true }
        | none => .error (.unresolvedSource name)
    | .source s => .ok { query := .source s, changed := false }
    | .filter input predicate =>
      (composeNode p c expanding true input).map (·.below (.filter · predicate))
    | .project input fields =>
      (composeNode p c expanding true input).map (·.below (.project · fields))
    | .navigate input property =>
      (composeNode p c expanding true input).map (·.below (.navigate · property))
termination_by (p.unexpanded expanding, q.depth)
decreasing_by
  · exact Prod.Lex.left _ _ (unexpanded_lt _h)
  all_goals exact Prod.Lex.right _ (by simp [Query.depth])

/-- Composes a query. -/
def compose (p : Pipeline) (c : QueryContext) (q : Query) : Except PipelineError Composed :=
  p.composeNode c [] false q

/-! ### Questions to the handlers -/

/-- A question to the handlers of a pipeline. -/
inductive Consultation where
  /-- Whether a node is allowed. -/
  | authorize (node : Query)
  /-- The expansion of a stub. -/
  | expand (name : String)
  /-- The source of a stub, which may stand below other nodes. -/
  | source (name : String) (embedded : Bool)

/-- The questions that are asked when a query is composed below the nodes above it, while some
stubs are under expansion. -/
def consultationsFrom (p : Pipeline) (c : QueryContext) (expanding : List String)
    (embedded : Bool) (q : Query) : List Consultation :=
  let judged : List Consultation :=
    if (ModelReference.classify c.model q).isNothing then [] else [.authorize q]
  if p.denies c q then judged
  else
    judged ++
      match q with
      | .stub name =>
        match _h : p.expansion? c expanding name with
        | some expanded =>
          .expand name :: consultationsFrom p c (name :: expanding) embedded expanded
        | none =>
          (if name ∈ expanding then [] else [.expand name]) ++ [.source name embedded]
      | .source _ => []
      | .filter input _ => consultationsFrom p c expanding true input
      | .project input _ => consultationsFrom p c expanding true input
      | .navigate input _ => consultationsFrom p c expanding true input
termination_by (p.unexpanded expanding, q.depth)
decreasing_by
  · exact Prod.Lex.left _ _ (unexpanded_lt _h)
  all_goals exact Prod.Lex.right _ (by simp [Query.depth])

/-- The questions that are asked when a query is composed. -/
def consultations (p : Pipeline) (c : QueryContext) (q : Query) : List Consultation :=
  p.consultationsFrom c [] false q

end Pipeline

end FacetModel
