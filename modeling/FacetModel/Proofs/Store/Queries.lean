import FacetModel.Proofs.Pipeline.Sourcing
import FacetModel.Proofs.Store.Evaluation
import FacetModel.Proofs.Store.Submission
import Mathlib

/-!
# Queries to an evolving store

A store and the sourcer of the same definition are set up apart from each other, and the store goes
on to change. It never loses a collection, though: a change replaces the documents of one, and a run
that fails or is cancelled is thrown away (`DocumentStore.Serves`). As a query fails only at its
source (`Query.evaluate_of_leaf`), the store answers every query with one of the collections that
the sourcer hands out (`Pipeline.query_of_compose`).
-/

namespace FacetModel

/-! ### Collections stay -/

namespace Change

variable {collections next : Collections} {name : String}

/-- A change leaves every collection in place, even if it deletes the last document. -/
theorem isSome_get?_apply {c : Change} (h : c.apply collections = .ok next)
    (hname : (collections.get? name).isSome) : (next.get? name).isSome := by
  obtain ⟨changed, -, rfl⟩ := apply_eq_ok_iff.1 h
  rw [NameMap.get?_insert]
  split
  · rfl
  · exact hname

/-- Changes take no collection away. -/
theorem isSome_get?_applyAll {changes : List Change}
    (h : applyAll collections changes = .ok next) (hname : (collections.get? name).isSome) :
    (next.get? name).isSome := by
  induction changes generalizing collections with
  | nil =>
    cases h
    exact hname
  | cons c rest ih =>
    obtain ⟨middle, hfirst, hrest⟩ := applyAll_cons_eq_ok_iff.1 h
    exact ih hrest (isSome_get?_apply hfirst hname)

end Change

namespace DocumentStore

variable {d : StoreDefinition} {s : DocumentStore}

/-- The store after some change sets, one after the other. Each of them may be cancelled. -/
def executeAll (s : DocumentStore) (runs : List (ChangeSet × Bool)) : DocumentStore :=
  runs.foldl (fun s run => (s.execute run.1 run.2).2) s

/-- A store has the database and the collections of a definition, with any documents. -/
structure Serves (s : DocumentStore) (d : StoreDefinition) : Prop where
  database : s.database = d.database
  collections : ∀ name ∈ d.collections.names, (s.documents? name).isSome

theorem serves_ofDefinition (d : StoreDefinition) : (ofDefinition d).Serves d where
  database := rfl
  collections name hname := by
    obtain ⟨documents, hdocuments⟩ := (NameMap.mem_names_iff _ _).1 hname
    exact Option.isSome_of_eq_some hdocuments

/-- Whatever changes are executed, the store goes on serving its definition. -/
theorem Serves.execute (h : s.Serves d) (cs : ChangeSet) (cancelled : Bool) :
    (s.execute cs cancelled).2.Serves d := by
  cases cancelled with
  | true => exact h
  | false =>
    rw [execute_snd, taking]
    cases hchanges : Change.applyAll s.collections cs.changes with
    | error e => exact h
    | ok collections =>
      exact ⟨h.database, fun name hname =>
        Change.isSome_get?_applyAll hchanges (h.collections name hname)⟩

/-- **A store never loses its collections**, whatever change sets it executes. -/
theorem Serves.executeAll (h : s.Serves d) (runs : List (ChangeSet × Bool)) :
    (s.executeAll runs).Serves d := by
  induction runs generalizing s with
  | nil => exact h
  | cons run rest ih => exact ih (h.execute run.1 run.2)

/-- A store answers every query with one of its collections. -/
theorem Serves.query (h : s.Serves d) {q : Query} {name type : String}
    (hleaf : q.leaf = .source (.openCollection d.database name type))
    (hname : name ∈ d.collections.names) :
    ∃ documents, s.documents? name = some documents ∧
      s.query q false = .ok (q.rowsOver documents) := by
  obtain ⟨documents, hdocuments⟩ := Option.isSome_iff_exists.1 (h.collections name hname)
  refine ⟨documents, hdocuments, ?_⟩
  have hsupplies : q.leaf.Supplies s.database s.collections documents := by
    rw [hleaf, ← h.database]
    exact .collection hdocuments
  rw [DocumentStore.query, if_neg Bool.false_ne_true]
  exact Query.evaluate_of_leaf hsupplies

end DocumentStore

/-! ### Queries that the sourcer of a definition answers -/

/-- The first handler that does not decline gives the answer of a chain. -/
theorem HandlerChain.firstAnswer?_of_find? {α β : Type} {chain : HandlerChain α}
    {ask : α → Option β} {handler : α}
    (h : chain.toList.find? (fun handler => (ask handler).isSome) = some handler) :
    chain.firstAnswer? ask = ask handler := by
  obtain ⟨hanswers, before, after, hlist, hbefore⟩ := List.find?_eq_some_iff_append.1 h
  obtain ⟨answer, hanswer⟩ := Option.isSome_iff_exists.1 hanswers
  rw [firstAnswer?, hanswer, List.findSome?_eq_some_iff]
  refine ⟨before, handler, after, hlist, hanswer, fun other hother => ?_⟩
  simpa using hbefore other hother

namespace Pipeline

variable {p : Pipeline} {c : QueryContext} {q : Query} {r : Composed}

/-- The sourcer that answers when a query is composed: the first one that has something for the stub
at which the visit ends. -/
def answerer? (p : Pipeline) (c : QueryContext) (q : Query) : Option Sourcer :=
  match p.terminal c q with
  | .stub name =>
    p.sourcers.toList.find? fun s => (sourcedBy? c name (!(p.wrappers c q).isEmpty) s).isSome
  | _ => none

/-- The leaf of a composed query is that of what the answering sourcer has. -/
theorem leaf_of_answerer? {s : Sourcer} (h : p.compose c q = .ok r)
    (hby : p.answerer? c q = some s) :
    ∃ name embedded answer, s c name embedded = some answer ∧ r.query.leaf = answer.leaf := by
  rw [answerer?] at hby
  -- where a visit ends at a source, no sourcer is asked
  rcases leaf_of_compose h with ⟨source, hend, -⟩ | ⟨name, answer, hend, hsourced, hleaf⟩
  · rw [hend] at hby
    cases hby
  · rw [hend] at hby
    dsimp only at hby
    have hanswer : sourcedBy? c name (!(p.wrappers c q).isEmpty) s = some answer :=
      (HandlerChain.firstAnswer?_of_find? hby).symm.trans hsourced
    exact ⟨name, _, answer, (Option.filter_eq_some_iff.1 hanswer).1, hleaf⟩

/-- **A store answers what its sourcer hands out.** Whatever change sets a store has executed, with
success or without, it has rows for every query that was composed with the answer of the sourcer of
its definition: those that the query has over the documents that are then in the collection. -/
theorem query_of_compose (d : StoreDefinition) (runs : List (ChangeSet × Bool))
    (h : p.compose c q = .ok r) (hby : p.answerer? c q = some (.ofDefinition d)) :
    let s := (DocumentStore.ofDefinition d).executeAll runs
    ∃ name type documents, r.query.leaf = .source (.openCollection d.database name type) ∧
      s.documents? name = some documents ∧
      s.query r.query false = .ok (r.query.rowsOver documents) := by
  intro s
  obtain ⟨name, embedded, answer, hanswer, hleaf⟩ := leaf_of_answerer? h hby
  obtain ⟨-, hname, type, -, rfl⟩ := Sourcer.ofStore_eq_some hanswer
  have hserves : s.Serves d := (DocumentStore.serves_ofDefinition d).executeAll runs
  obtain ⟨documents, hdocuments, hrows⟩ := hserves.query hleaf hname
  exact ⟨name, type, documents, hleaf, hdocuments, hrows⟩

/-! ### People who come and go -/

/-- The definition of a store with one person. -/
def peopleDefinition : StoreDefinition where
  database := "db"
  collections := .ofList [("People", [.record [("Id", .ofNat 1)]])]

/-- A pipeline in which the store comes before the conventions. -/
def peoplePipeline : Pipeline :=
  withConventions { sourcers := { handlers := [.ofDefinition peopleDefinition] } } pairConventions

/-- A context with the types of the conventions. -/
def peopleContext : QueryContext :=
  { pairContext [] with mappers := MapperChain.withConventions {} pairConventions }

/-- The numbers of the people of a name. -/
def namesakes : Query :=
  .project (.filter (.stub "People") (.propertyEq "Name" (.str "Ann"))) ["Id"]

/-- A person comes; a change of a missing one fails, and another change is cancelled; then all
people leave. -/
def peopleRuns : List (ChangeSet × Bool) :=
  [(ChangeSet.insert {} "People" [("Id", Json.ofNat 2), ("Name", Json.str "Ann")], false),
    (ChangeSet.insert (ChangeSet.delete {} "People" [("Id", Json.ofNat 3)]) "Staff" [], false),
    (ChangeSet.delete {} "People" [("Id", Json.ofNat 2)], true),
    (ChangeSet.delete (ChangeSet.delete {} "People" [("Id", Json.ofNat 1)]) "People"
      [("Id", Json.ofNat 2)], false)]

/-- The query has a row for the person who came, and still no error when all people have left. -/
theorem query_namesakes :
    ∃ r, peoplePipeline.compose peopleContext namesakes = .ok r ∧
      ((DocumentStore.ofDefinition peopleDefinition).executeAll (peopleRuns.take 3)).query r.query
        false = .ok [.record [("Id", .ofNat 2)]] ∧
      ((DocumentStore.ofDefinition peopleDefinition).executeAll peopleRuns).query r.query false
        = .ok [] := by
  let composed : Composed :=
    { query := .project (.filter (.source (.openCollection "db" "People" "Person"))
        (.propertyEq "Name" (.str "Ann"))) ["Id"]
      changed := true }
  have hcompose : peoplePipeline.compose peopleContext namesakes = .ok composed := by cbv
  have hby : peoplePipeline.answerer? peopleContext namesakes
      = some (.ofDefinition peopleDefinition) := by cbv
  -- the documents that the theorem speaks of are those of the collection that is opened
  have hrows : ∀ runs, ∃ documents,
      ((DocumentStore.ofDefinition peopleDefinition).executeAll runs).documents? "People"
        = some documents ∧
      ((DocumentStore.ofDefinition peopleDefinition).executeAll runs).query composed.query false
        = .ok (composed.query.rowsOver documents) := by
    intro runs
    obtain ⟨name, type, documents, hleaf, hdocuments, hquery⟩ :=
      query_of_compose peopleDefinition runs hcompose hby
    cases hleaf
    exact ⟨documents, hdocuments, hquery⟩
  obtain ⟨present, hpresent, hanswer⟩ := hrows (peopleRuns.take 3)
  obtain ⟨gone, hgone, hnothing⟩ := hrows peopleRuns
  have hstayed : ((DocumentStore.ofDefinition peopleDefinition).executeAll
      (peopleRuns.take 3)).documents? "People"
      = some [.record [("Id", .ofNat 1)], .record [("Id", .ofNat 2), ("Name", .str "Ann")]] := by
    cbv
  have hleft : ((DocumentStore.ofDefinition peopleDefinition).executeAll peopleRuns).documents?
      "People" = some [] := by cbv
  have hfound : composed.query.rowsOver
      [.record [("Id", .ofNat 1)], .record [("Id", .ofNat 2), ("Name", .str "Ann")]]
      = [.record [("Id", .ofNat 2)]] := by cbv
  rw [hstayed] at hpresent
  rw [hleft] at hgone
  cases hpresent
  cases hgone
  exact ⟨composed, hcompose, hanswer.trans (congrArg _ hfound), hnothing⟩

end Pipeline

end FacetModel
