import FacetModel.ChangeSet
import FacetModel.Store.Evaluation

/-!
# Document stores

A store holds the documents of a database in memory. It executes queries, and it makes changes all
together or not at all (`DocumentStore.execute`): the changes are made one after the other, each
on the collections that the ones before left, and only if all of them can be made the store takes
the result.
-/

namespace FacetModel

/-- The documents of a database. -/
structure DocumentStore where
  database : String
  collections : Collections := .empty
deriving Inhabited

/-! ### Changes to collections -/

/-- Whether a document has every value of a key. No document matches a key without values. -/
def Json.matchesKey (key : Members Json.Scalar) (document : Json) : Bool :=
  !key.isEmpty && key.all fun k => (document.get? k.1).any fun v => v.same k.2

/-- The document with some values set, if it is an object. -/
def Json.overlay (values : Members Json.Scalar) : Json → Json
  | .object members => .object (Members.setAll members values)
  | j => j

/-- The documents with the first one that passes a test changed, if one does. -/
def updateFirst? (p : Json → Bool) (f : Json → Json) : List Json → Option (List Json)
  | [] => none
  | d :: rest => if p d then some (f d :: rest) else (updateFirst? p f rest).map (d :: ·)

namespace Change

/-- The document that an insertion adds: its values, over which the values of its key are set. -/
def document (c : Change) : Json := .record (c.values.setAll c.key)

/-- The error of a change to an entity that is not there. -/
def notFound (c : Change) : SubmitError := .notFound c.entitySet c.keyText

/-- The documents of an entity set after a change; a set may have none yet. -/
def applyTo (c : Change) (documents : Option (List Json)) : Except SubmitError (List Json) :=
  match c.operation with
  | .insert =>
    let documents := documents.getD []
    if documents.any (Json.matchesKey c.key) then .error (.conflict c.entitySet c.keyText)
    else .ok (documents ++ [c.document])
  | .update =>
    match documents.bind (updateFirst? (Json.matchesKey c.key) (Json.overlay c.values)) with
    | some documents => .ok documents
    | none => .error c.notFound
  | .delete =>
    match documents with
    | none => .error c.notFound
    | some documents =>
      if documents.any (Json.matchesKey c.key) then
        .ok (documents.filter fun d => !Json.matchesKey c.key d)
      else .error c.notFound

/-- The collections after a change. -/
def apply (collections : Collections) (c : Change) : Except SubmitError Collections :=
  (c.applyTo (collections.get? c.entitySet)).map (collections.insert c.entitySet)

/-- The collections after some changes, one after the other. -/
def applyAll (collections : Collections) : List Change → Except SubmitError Collections
  | [] => .ok collections
  | c :: rest =>
    match c.apply collections with
    | .error e => .error e
    | .ok next => applyAll next rest

end Change

/-! ### Stores -/

namespace DocumentStore

/-- The store that a catalog describes. -/
def ofDefinition (d : StoreDefinition) : DocumentStore := ⟨d.database, d.collections⟩

/-- The store with the documents of one collection. -/
def withCollection (s : DocumentStore) (name : String) (documents : List Json) : DocumentStore :=
  { s with collections := s.collections.insert name documents }

/-- The documents of a collection. -/
def documents? (s : DocumentStore) (collection : String) : Option (List Json) :=
  s.collections.get? collection

/-- The rows of a query, unless it is cancelled. -/
def query (s : DocumentStore) (q : Query) (cancelled : Bool) : Except StoreError (List Json) :=
  if cancelled then .error .cancelled else q.evaluate s.database s.collections

/-- Makes all changes of a change set, or none of them. -/
def execute (s : DocumentStore) (cs : ChangeSet) (cancelled : Bool) :
    Except SubmitError Nat × DocumentStore :=
  if cancelled then (.error .cancelled, s)
  else
    match Change.applyAll s.collections cs.changes with
    | .ok collections => (.ok cs.changes.length, { s with collections })
    | .error e => (.error e, s)

/-- What a hook does to a change set before it is executed. -/
structure Initialization where
  /-- Whether it cancels the submission. -/
  cancels : Bool := false
  result : Except SubmitError ChangeSet

/-- Submits a change set to a store: it must be valid for the model before and after it is
initialized, and the keys of its insertions are completed. -/
def submit (s : DocumentStore) (m : Model) (cs : ChangeSet)
    (initializer? : Option (ChangeSet → Initialization)) (cancelled : Bool) :
    Except SubmitError Nat × DocumentStore :=
  if cancelled then (.error .cancelled, s)
  else
    match cs.validate m with
    | .error e => (.error e, s)
    | .ok () =>
      match initializer? with
      | none => s.execute (cs.assignInsertKeys m) false
      | some prepare =>
        let answer := prepare cs
        match answer.result with
        | .error e => (.error e, s)
        | .ok cs =>
          match cs.validate m with
          | .error e => (.error e, s)
          | .ok () => s.execute (cs.assignInsertKeys m) answer.cancels

end DocumentStore

end FacetModel
