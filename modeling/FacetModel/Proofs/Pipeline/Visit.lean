import FacetModel.Pipeline

/-!
# Composition as a walk over visited nodes

`Pipeline.visit` lists the nodes that composition looks at: those of the query from the outermost
one to its leaf, then those of the query that an expander puts in the place of that leaf, and so on.
The list ends where a source is reached, or a stub that is under expansion or has no expansion.

`Pipeline.flat` reads the outcome off that list, without recursion and without a stack:

* the first denied node, if there is one, decides (`accessDenied`);
* otherwise the last node is resolved, by itself if it is a source and by the first acceptable
  answer of a sourcer if it is a stub, and the wrappers of the list are put around the answer.

`Pipeline.composeNode_eq` relates the two for every stack of stubs under expansion, and
`Pipeline.compose_eq_flat` is its case for a whole query. What composition answers at all is read
off the list by `Pipeline.compose_eq_ok_iff`.

All this is about the values of `Pipeline.compose`. They are answers only where the walks along base
types end that they depend on, which is the subject of the module on single steps.
-/

namespace FacetModel

namespace Query

/-! ### Wrappers -/

/-- Whether a node is a stub. -/
def isStub : Query → Bool
  | .stub _ => true
  | .source _ | .filter _ _ | .project _ _ | .navigate _ _ => false

/-- Whether a node stands around an input. -/
def isWrapper (q : Query) : Bool := q.input?.isSome

/-- The node with another input below it. -/
def withInput : Query → Query → Query
  | .stub name, _ => .stub name
  | .source s, _ => .source s
  | .filter _ predicate, input => .filter input predicate
  | .project _ fields, input => .project input fields
  | .navigate _ property, input => .navigate input property

/-- A query with nodes around it, the outermost one first. -/
def wrappedIn (q : Query) (wrappers : List Query) : Query := wrappers.foldr withInput q

variable {q input : Query}

theorem nodes_ne_nil (q : Query) : q.nodes ≠ [] := by cases q <;> simp [nodes]

/-- The three kinds of wrappers. -/
theorem input?_eq_some (h : q.input? = some input) :
    (∃ predicate, q = .filter input predicate) ∨ (∃ fields, q = .project input fields) ∨
      ∃ property, q = .navigate input property := by
  cases q with
  | stub name => cases h
  | source s => cases h
  | filter other predicate => exact .inl ⟨predicate, by rw [Option.some.inj h]⟩
  | project other fields => exact .inr (.inl ⟨fields, by rw [Option.some.inj h]⟩)
  | navigate other property => exact .inr (.inr ⟨property, by rw [Option.some.inj h]⟩)

theorem nodes_of_input (h : q.input? = some input) : q.nodes = q :: input.nodes := by
  obtain ⟨_, rfl⟩ | ⟨_, rfl⟩ | ⟨_, rfl⟩ := input?_eq_some h <;> rfl

theorem leaf_of_input (h : q.input? = some input) : q.leaf = input.leaf := by
  obtain ⟨_, rfl⟩ | ⟨_, rfl⟩ | ⟨_, rfl⟩ := input?_eq_some h <;> rfl

theorem stubNames_of_input (h : q.input? = some input) : q.stubNames = input.stubNames := by
  obtain ⟨_, rfl⟩ | ⟨_, rfl⟩ | ⟨_, rfl⟩ := input?_eq_some h <;> rfl

/-- An input is less deep than its wrapper, for inductions along a visit. -/
theorem depth_lt_of_input (h : q.input? = some input) : input.depth < q.depth := by
  obtain ⟨_, rfl⟩ | ⟨_, rfl⟩ | ⟨_, rfl⟩ := input?_eq_some h <;> exact Nat.lt_succ_self _

/-- Every query is a source, a stub, or a wrapper around another query. -/
theorem eq_leaf_or_input (q : Query) :
    (∃ s, q = .source s) ∨ (∃ name, q = .stub name) ∨ ∃ input, q.input? = some input := by
  cases q with
  | stub name => exact .inr (.inl ⟨name, rfl⟩)
  | source s => exact .inl ⟨s, rfl⟩
  | filter input predicate => exact .inr (.inr ⟨input, rfl⟩)
  | project input fields => exact .inr (.inr ⟨input, rfl⟩)
  | navigate input property => exact .inr (.inr ⟨input, rfl⟩)

theorem input?_withInput (h : q.isWrapper) (other : Query) :
    (q.withInput other).input? = some other := by
  cases q with
  | stub name => cases h
  | source s => cases h
  | filter input predicate => rfl
  | project input fields => rfl
  | navigate input property => rfl

/-- Wrappers put around a query leave its leaf where it is. -/
theorem leaf_wrappedIn {wrappers : List Query} (h : ∀ node ∈ wrappers, node.isWrapper) (q : Query) :
    (q.wrappedIn wrappers).leaf = q.leaf := by
  induction wrappers with
  | nil => rfl
  | cons node rest ih =>
    have hrest := ih fun other hother => h other (List.mem_cons_of_mem _ hother)
    rw [← hrest]
    exact leaf_of_input (input?_withInput (h node List.mem_cons_self) _)

end Query

namespace Pipeline

/-! ### The visited nodes -/

section Visit

variable (p : Pipeline) (c : QueryContext)

/-- The nodes that are visited from a query on, while some stubs are under expansion. -/
def visitFrom (expanding : List String) (q : Query) : List Query :=
  q.nodes ++
    match q.leaf with
    | .stub name =>
      match _h : p.expansion? c expanding name with
      | some expanded => visitFrom (name :: expanding) expanded
      | none => []
    | _ => []
termination_by p.unexpanded expanding
decreasing_by exact unexpanded_lt _h

/-- The nodes that are visited when a query is composed. -/
def visit (q : Query) : List Query := p.visitFrom c [] q

/-- **Induction along a visit**: below a wrapper stands a smaller query, and an expansion leaves
fewer stubs that can be expanded. -/
theorem visit_induction {motive : List String → Query → Prop}
    (source : ∀ expanding s, motive expanding (.source s))
    (below : ∀ expanding q input, q.input? = some input →
      motive expanding input → motive expanding q)
    (expansion : ∀ expanding name expanded, p.expansion? c expanding name = some expanded →
      motive (name :: expanding) expanded → motive expanding (.stub name))
    (stop : ∀ expanding name, p.expansion? c expanding name = none →
      motive expanding (.stub name))
    (expanding : List String) (q : Query) : motive expanding q := by
  rcases q.eq_leaf_or_input with ⟨s, rfl⟩ | ⟨name, rfl⟩ | ⟨input, hinput⟩
  · exact source expanding s
  · cases hname : p.expansion? c expanding name with
    | none => exact stop expanding name hname
    | some expanded =>
      exact expansion expanding name expanded hname
        (visit_induction source below expansion stop (name :: expanding) expanded)
  · exact below expanding q input hinput
      (visit_induction source below expansion stop expanding input)
-- an expansion may be deeper than its stub, so the stubs that can still be expanded count first
termination_by (p.unexpanded expanding, q.depth)
decreasing_by
  · exact Prod.Lex.left _ _ (unexpanded_lt hname)
  · exact Prod.Lex.right _ (Query.depth_lt_of_input hinput)

variable (expanding : List String)

/-- A visit has at least the node that it starts from, so it has a last one. -/
theorem visitFrom_ne_nil (q : Query) : p.visitFrom c expanding q ≠ [] := by
  rw [visitFrom]
  exact List.append_ne_nil_of_left_ne_nil q.nodes_ne_nil _

theorem visit_ne_nil (q : Query) : p.visit c q ≠ [] := p.visitFrom_ne_nil c [] q

theorem visitFrom_source (s : Source) : p.visitFrom c expanding (.source s) = [.source s] := by
  rw [visitFrom]
  rfl

theorem visitFrom_of_input {q input : Query} (h : q.input? = some input) :
    p.visitFrom c expanding q = q :: p.visitFrom c expanding input := by
  rw [visitFrom, visitFrom, Query.nodes_of_input h, Query.leaf_of_input h]
  rfl

/-- A visit goes on with the expansion of a stub, which is then under expansion. -/
theorem visitFrom_stub_of_some {name : String} {expanded : Query}
    (h : p.expansion? c expanding name = some expanded) :
    p.visitFrom c expanding (.stub name)
      = .stub name :: p.visitFrom c (name :: expanding) expanded := by
  rw [visitFrom]
  simp only [Query.nodes, Query.leaf, List.cons_append, List.nil_append]
  congr 1
  split
  case h_1 other hother => rw [Option.some.inj (h.symm.trans hother)]
  case h_2 hnone => rw [h] at hnone; cases hnone

/-- A visit ends at a stub that is under expansion or has none. -/
theorem visitFrom_stub_of_none {name : String} (h : p.expansion? c expanding name = none) :
    p.visitFrom c expanding (.stub name) = [.stub name] := by
  rw [visitFrom]
  simp only [Query.nodes, Query.leaf, List.cons_append, List.nil_append]
  congr 1
  split
  case h_1 other hother => rw [h] at hother; cases hother
  case h_2 => rfl

/-- The node at which a visit ends. -/
def terminalFrom (q : Query) : Query :=
  (p.visitFrom c expanding q).getLast (p.visitFrom_ne_nil c expanding q)

/-- The node at which the visit of a whole query ends. -/
def terminal (q : Query) : Query := p.terminalFrom c [] q

theorem terminalFrom_mem (q : Query) : p.terminalFrom c expanding q ∈ p.visitFrom c expanding q :=
  List.getLast_mem _

theorem terminalFrom_source (s : Source) : p.terminalFrom c expanding (.source s) = .source s := by
  simp only [terminalFrom, visitFrom_source, List.getLast_singleton]

theorem terminalFrom_of_input {q input : Query} (h : q.input? = some input) :
    p.terminalFrom c expanding q = p.terminalFrom c expanding input := by
  simp only [terminalFrom, visitFrom_of_input p c expanding h]
  exact List.getLast_cons _

theorem terminalFrom_stub_of_some {name : String} {expanded : Query}
    (h : p.expansion? c expanding name = some expanded) :
    p.terminalFrom c expanding (.stub name) = p.terminalFrom c (name :: expanding) expanded := by
  simp only [terminalFrom, visitFrom_stub_of_some p c expanding h]
  exact List.getLast_cons _

theorem terminalFrom_stub_of_none {name : String} (h : p.expansion? c expanding name = none) :
    p.terminalFrom c expanding (.stub name) = .stub name := by
  simp only [terminalFrom, visitFrom_stub_of_none p c expanding h, List.getLast_singleton]

/-- A visit ends at a source or at a stub. -/
theorem terminalFrom_cases (q : Query) :
    (∃ s, p.terminalFrom c expanding q = .source s) ∨
      ∃ name, p.terminalFrom c expanding q = .stub name := by
  induction expanding, q using visit_induction p c with
  | source expanding s => exact .inl ⟨s, p.terminalFrom_source c expanding s⟩
  | below expanding q input hinput ih => rwa [p.terminalFrom_of_input c expanding hinput]
  | expansion expanding name expanded hname ih =>
    rwa [p.terminalFrom_stub_of_some c expanding hname]
  | stop expanding name hname => exact .inr ⟨name, p.terminalFrom_stub_of_none c expanding hname⟩

/-- The nodes of a query come first in its visit. -/
theorem nodes_subset_visitFrom {q node : Query} (h : node ∈ q.nodes) :
    node ∈ p.visitFrom c expanding q := by
  rw [visitFrom]
  exact List.mem_append_left _ h

/-- The visited nodes that stand around an input. -/
def wrappersFrom (q : Query) : List Query := (p.visitFrom c expanding q).filter Query.isWrapper

/-- The visited nodes of a whole query that stand around an input. -/
def wrappers (q : Query) : List Query := p.wrappersFrom c [] q

theorem isWrapper_of_mem_wrappersFrom {q node : Query} (h : node ∈ p.wrappersFrom c expanding q) :
    node.isWrapper :=
  (List.mem_filter.1 h).2

end Visit

/-! ### The outcome of a visit -/

section Outcome

variable (p : Pipeline) (c : QueryContext) (expanding : List String) (embedded : Bool)

/-- What takes the place of the last visited node: the first acceptable answer of a sourcer for a
stub, and the node itself otherwise. -/
def resolve : Query → Except PipelineError Query
  | .stub name =>
    match p.sourced? c name embedded with
    | some answer => .ok answer
    | none => .error (.unresolvedSource name)
  | q => .ok q

/-- The outcome of a visit that starts below other nodes, or alone. -/
def outcomeFrom (q : Query) : Except PipelineError Composed :=
  match (p.visitFrom c expanding q).find? (p.denies c) with
  | some node => .error (.accessDenied (.classify c.model node))
  | none =>
    let wrappers := p.wrappersFrom c expanding q
    match p.resolve c (embedded || !wrappers.isEmpty) (p.terminalFrom c expanding q) with
    | .ok answer => .ok { query := answer.wrappedIn wrappers, changed := q.hasStubs }
    | .error e => .error e

variable {p c expanding embedded}

/-- The node that a visit starts from comes first, so if it is denied, it decides. -/
theorem outcomeFrom_of_denies {q : Query} (h : p.denies c q) :
    p.outcomeFrom c expanding embedded q = .error (.accessDenied (.classify c.model q)) := by
  have hfind : (p.visitFrom c expanding q).find? (p.denies c) = some q := by
    rw [visitFrom]
    obtain ⟨rest, hrest⟩ : ∃ rest, q.nodes = q :: rest := by cases q <;> exact ⟨_, rfl⟩
    rw [hrest, List.cons_append, List.find?_cons_of_pos h]
  simp only [outcomeFrom, hfind]

/-- A source that is allowed is its own answer. -/
theorem outcomeFrom_source (s : Source) (h : p.denies c (.source s) = false) :
    p.outcomeFrom c expanding embedded (.source s)
      = .ok { query := .source s, changed := false } := by
  simp only [outcomeFrom, wrappersFrom, visitFrom_source, terminalFrom_source, resolve, h,
    List.find?_cons, List.find?_nil, List.filter_cons, List.filter_nil, Query.isWrapper,
    Query.input?]
  rfl

/-- Around its input, a wrapper that is allowed does not change the outcome but for itself. -/
theorem outcomeFrom_of_input {q input : Query} (hq : q.input? = some input)
    (h : p.denies c q = false) :
    p.outcomeFrom c expanding embedded q
      = (p.outcomeFrom c expanding true input).map (·.below q.withInput) := by
  have hvisit := p.visitFrom_of_input c expanding hq
  have hwrappers : p.wrappersFrom c expanding q = q :: p.wrappersFrom c expanding input := by
    rw [wrappersFrom, hvisit]
    exact List.filter_cons_of_pos (by rw [Query.isWrapper, hq]; rfl)
  have hfind : (p.visitFrom c expanding q).find? (p.denies c)
      = (p.visitFrom c expanding input).find? (p.denies c) := by
    rw [hvisit, List.find?_cons_of_neg (by simp [h])]
  have hchanged : q.hasStubs = input.hasStubs := by
    rw [Query.hasStubs, Query.hasStubs, Query.stubNames_of_input hq]
  simp only [outcomeFrom, hfind, hwrappers, p.terminalFrom_of_input c expanding hq, hchanged,
    List.isEmpty_cons, Bool.not_false, Bool.or_true, Bool.true_or]
  split
  case h_1 => rfl
  case h_2 => split <;> rfl

/-- An expansion has the outcome of its stub, only that the stub counts as a change. -/
theorem outcomeFrom_stub_of_some {name : String} {expanded : Query}
    (hname : p.expansion? c expanding name = some expanded)
    (h : p.denies c (.stub name) = false) :
    p.outcomeFrom c expanding embedded (.stub name)
      = (p.outcomeFrom c (name :: expanding) embedded expanded).map
          fun r => { r with changed := true } := by
  have hvisit := p.visitFrom_stub_of_some c expanding hname
  have hwrappers : p.wrappersFrom c expanding (.stub name)
      = p.wrappersFrom c (name :: expanding) expanded := by
    rw [wrappersFrom, hvisit]
    exact List.filter_cons_of_neg (by simp [Query.isWrapper, Query.input?])
  have hfind : (p.visitFrom c expanding (.stub name)).find? (p.denies c)
      = (p.visitFrom c (name :: expanding) expanded).find? (p.denies c) := by
    rw [hvisit, List.find?_cons_of_neg (by simp [h])]
  simp only [outcomeFrom, hfind, hwrappers, p.terminalFrom_stub_of_some c expanding hname]
  split
  case h_1 => rfl
  case h_2 => split <;> rfl

/-- A stub without expansion that is allowed is left to the sourcers. -/
theorem outcomeFrom_stub_of_none {name : String} (hname : p.expansion? c expanding name = none)
    (h : p.denies c (.stub name) = false) :
    p.outcomeFrom c expanding embedded (.stub name)
      = match p.sourced? c name embedded with
        | some query => .ok { query, changed := true }
        | none => .error (.unresolvedSource name) := by
  have hvisit := p.visitFrom_stub_of_none c expanding hname
  have hwrappers : p.wrappersFrom c expanding (.stub name) = [] := by
    rw [wrappersFrom, hvisit]
    rfl
  have hfind : (p.visitFrom c expanding (.stub name)).find? (p.denies c) = none := by
    rw [hvisit, List.find?_cons_of_neg (by simp [h]), List.find?_nil]
  simp only [outcomeFrom, hfind, hwrappers, p.terminalFrom_stub_of_none c expanding hname, resolve,
    List.isEmpty_nil, Bool.not_true, Bool.or_false]
  cases p.sourced? c name embedded <;> rfl

/-- A node that is denied is not looked into. -/
theorem composeNode_of_denies {q : Query} (h : p.denies c q) :
    p.composeNode c expanding embedded q = .error (.accessDenied (.classify c.model q)) := by
  rw [composeNode.eq_def, if_pos h]

theorem composeNode_source (s : Source) (h : p.denies c (.source s) = false) :
    p.composeNode c expanding embedded (.source s)
      = .ok { query := .source s, changed := false } := by
  rw [composeNode.eq_def, if_neg (by simp [h])]

/-- Of a wrapper, the input is composed and put back below it. -/
theorem composeNode_of_input {q input : Query} (hq : q.input? = some input)
    (h : p.denies c q = false) :
    p.composeNode c expanding embedded q
      = (p.composeNode c expanding true input).map (·.below q.withInput) := by
  rw [composeNode.eq_def, if_neg (by simp [h])]
  obtain ⟨_, rfl⟩ | ⟨_, rfl⟩ | ⟨_, rfl⟩ := Query.input?_eq_some hq <;> rfl

/-- The expansion of a stub is composed with the stub on the stack, and counts as a change. -/
theorem composeNode_stub_of_some {name : String} {expanded : Query}
    (hname : p.expansion? c expanding name = some expanded)
    (h : p.denies c (.stub name) = false) :
    p.composeNode c expanding embedded (.stub name)
      = (p.composeNode c (name :: expanding) embedded expanded).map
          fun r => { r with changed := true } := by
  rw [composeNode.eq_def, if_neg (by simp [h])]
  dsimp only
  split
  case h_1 other hother =>
    rw [Option.some.inj (hname.symm.trans hother)]
    split
    case h_1 r hr => rw [hr]; rfl
    case h_2 e he => rw [he]; rfl
  case h_2 hnone => rw [hname] at hnone; cases hnone

/-- A stub without expansion is answered by the sourcers, or not at all. -/
theorem composeNode_stub_of_none {name : String} (hname : p.expansion? c expanding name = none)
    (h : p.denies c (.stub name) = false) :
    p.composeNode c expanding embedded (.stub name)
      = match p.sourced? c name embedded with
        | some query => .ok { query, changed := true }
        | none => .error (.unresolvedSource name) := by
  rw [composeNode.eq_def, if_neg (by simp [h])]
  dsimp only
  split
  case h_1 other hother => rw [hname] at hother; cases hother
  case h_2 => rfl

/-- Composition has the outcome of its visit, whatever is under expansion and whether or not other
nodes stand above. -/
theorem composeNode_eq (p : Pipeline) (c : QueryContext) (expanding : List String)
    (embedded : Bool) (q : Query) :
    p.composeNode c expanding embedded q = p.outcomeFrom c expanding embedded q := by
  induction expanding, q using visit_induction p c generalizing embedded with
  | source expanding s =>
    cases hdenies : p.denies c (.source s) with
    | true => rw [composeNode_of_denies hdenies, outcomeFrom_of_denies hdenies]
    | false => rw [composeNode_source s hdenies, outcomeFrom_source s hdenies]
  | below expanding q input hinput ih =>
    cases hdenies : p.denies c q with
    | true => rw [composeNode_of_denies hdenies, outcomeFrom_of_denies hdenies]
    | false =>
      -- what is below a wrapper is embedded, whether or not the wrapper itself is
      rw [composeNode_of_input hinput hdenies, outcomeFrom_of_input hinput hdenies, ih true]
  | expansion expanding name expanded hname ih =>
    cases hdenies : p.denies c (.stub name) with
    | true => rw [composeNode_of_denies hdenies, outcomeFrom_of_denies hdenies]
    | false =>
      rw [composeNode_stub_of_some hname hdenies, outcomeFrom_stub_of_some hname hdenies,
        ih embedded]
  | stop expanding name hname =>
    cases hdenies : p.denies c (.stub name) with
    | true => rw [composeNode_of_denies hdenies, outcomeFrom_of_denies hdenies]
    | false => rw [composeNode_stub_of_none hname hdenies, outcomeFrom_stub_of_none hname hdenies]

end Outcome

/-! ### Whole queries -/

section Whole

variable (p : Pipeline) (c : QueryContext)

/-- A visit has met a stub exactly if the query that it starts from has one. -/
theorem any_isStub_visitFrom (expanding : List String) (q : Query) :
    (p.visitFrom c expanding q).any Query.isStub = q.hasStubs := by
  induction q with
  | stub name => rw [visitFrom]; rfl
  | source s => rw [visitFrom_source]; rfl
  | filter input predicate ih => rw [visitFrom_of_input p c expanding rfl]; exact ih
  | project input fields ih => rw [visitFrom_of_input p c expanding rfl]; exact ih
  | navigate input property ih => rw [visitFrom_of_input p c expanding rfl]; exact ih

/-- The outcome of composing a query, read off the visited nodes. A node is denied if it stands for
something in the model and the first authorizer that judges it says no. A sourcer is told whether
wrappers stand above the stub, and an answer that contains the stub itself is passed over. -/
def flat (q : Query) : Except PipelineError Composed :=
  let visited := p.visit c q
  let wrappers := visited.filter Query.isWrapper
  let denied (node : Query) : Bool :=
    !(ModelReference.classify c.model node).isNothing
      && p.authorizers.toList.findSome? (fun authorizer => authorizer c node) == some false
  match visited.find? denied with
  | some node => .error (.accessDenied (.classify c.model node))
  | none =>
    match visited.getLast (p.visit_ne_nil c q) with
    | .stub name =>
      let acceptable (sourcer : Sourcer) : Option Query :=
        (sourcer c name !wrappers.isEmpty).filter fun answer => name ∉ answer.stubNames
      match p.sourcers.toList.findSome? acceptable with
      | some answer => .ok { query := answer.wrappedIn wrappers, changed := true }
      | none => .error (.unresolvedSource name)
    | concrete =>
      .ok { query := concrete.wrappedIn wrappers, changed := visited.any Query.isStub }

/-- A node is denied by the first authorizer that has a verdict on it, if it stands for something.
-/
theorem denies_eq (node : Query) :
    p.denies c node = (!(ModelReference.classify c.model node).isNothing
      && p.authorizers.toList.findSome? (fun authorizer => authorizer c node) == some false) := by
  rw [denies, verdict?, HandlerChain.firstAnswer?]
  cases (ModelReference.classify c.model node).isNothing <;> rfl

/-- A visit that ends at a stub started from a query with a stub. -/
theorem hasStubs_of_terminal {q : Query} {name : String} (h : p.terminal c q = .stub name) :
    q.hasStubs := by
  rw [← p.any_isStub_visitFrom c [] q, List.any_eq_true]
  exact ⟨_, p.terminalFrom_mem c [] q, by rw [← terminal, h]; rfl⟩

/-- **Composition is its flat reading**: the recursive composition of a query has the outcome that
the list of visited nodes alone determines. -/
theorem compose_eq_flat (q : Query) : p.compose c q = p.flat c q := by
  have hdenied : (fun node => !(ModelReference.classify c.model node).isNothing
      && p.authorizers.toList.findSome? (fun authorizer => authorizer c node) == some false)
      = p.denies c := funext fun node => (p.denies_eq c node).symm
  -- the flat reading in the words of the recursion
  have hflat : p.flat c q = match (p.visit c q).find? (p.denies c) with
      | some node => .error (.accessDenied (.classify c.model node))
      | none =>
        match p.terminal c q with
        | .stub name =>
          match p.sourced? c name !(p.wrappers c q).isEmpty with
          | some answer => .ok { query := answer.wrappedIn (p.wrappers c q), changed := true }
          | none => .error (.unresolvedSource name)
        | concrete => .ok { query := concrete.wrappedIn (p.wrappers c q), changed := q.hasStubs } := by
    rw [← p.any_isStub_visitFrom c [] q, ← hdenied]
    rfl
  rw [hflat, compose, composeNode_eq, outcomeFrom, visit]
  cases (p.visitFrom c [] q).find? (p.denies c) with
  | some node => rfl
  | none =>
    dsimp only
    rw [Bool.false_or, ← wrappers, ← terminal]
    cases hend : p.terminal c q with
    | stub name =>
      rw [resolve, p.hasStubs_of_terminal c hend]
      dsimp only
      cases p.sourced? c name !(p.wrappers c q).isEmpty with
      | some answer => rfl
      | none => rfl
    | source s => rfl
    | filter input predicate => rfl
    | project input fields => rfl
    | navigate input property => rfl

/-- Composition answers exactly if no visited node is denied and the last one can be resolved. -/
theorem compose_eq_ok_iff (q : Query) (r : Composed) :
    p.compose c q = .ok r ↔
      (∀ node ∈ p.visit c q, p.denies c node = false) ∧
        ∃ answer, p.resolve c (!(p.wrappers c q).isEmpty) (p.terminal c q) = .ok answer ∧
          r = { query := answer.wrappedIn (p.wrappers c q), changed := q.hasStubs } := by
  rw [compose, composeNode_eq, outcomeFrom, visit]
  cases hfind : (p.visitFrom c [] q).find? (p.denies c) with
  | some node =>
    constructor
    · intro h
      cases h
    · rintro ⟨hall, -⟩
      have hdenies := List.find?_some hfind
      rw [hall node (List.mem_of_find?_eq_some hfind)] at hdenies
      cases hdenies
  | none =>
    have hall : ∀ node ∈ p.visitFrom c [] q, p.denies c node = false := by simpa using hfind
    dsimp only
    rw [Bool.false_or, ← wrappers, ← terminal]
    cases p.resolve c (!(p.wrappers c q).isEmpty) (p.terminal c q) with
    | ok answer =>
      constructor
      · intro h
        exact ⟨hall, answer, rfl, (Except.ok.inj h).symm⟩
      · rintro ⟨-, other, hother, rfl⟩
        rw [Except.ok.inj hother]
    | error e =>
      constructor
      · intro h
        cases h
      · rintro ⟨-, other, hother, -⟩
        cases hother

end Whole

end Pipeline

end FacetModel
