import FacetModel.Json.Printer
import FacetModel.Model

/-!
# Change sets

A change set is a list of insertions, updates and deletions of entities. It is valid for a model if
every change goes to an entity set and carries the key of its entity; an insertion may carry it
among its values, from where `ChangeSet.assignInsertKeys` completes the key.
-/

namespace FacetModel

/-- What is done to an entity. -/
inductive ChangeOperation where
  | insert
  | update
  | delete
deriving DecidableEq, Repr, Inhabited

/-- A change of one entity. -/
structure Change where
  entitySet : String
  operation : ChangeOperation
  /-- The values of the key properties. -/
  key : Members Json.Scalar := []
  /-- The values to be written. -/
  values : Members Json.Scalar := []
deriving Inhabited

/-- The key of a change as messages call it. -/
def Change.keyText (c : Change) : String := (Json.record c.key).render

/-- Changes in the order in which they are made. -/
structure ChangeSet where
  changes : List Change := []
deriving Inhabited

/-- Why changes are not made. -/
inductive SubmitError where
  /-- The model has no entity set of that name. -/
  | unknownEntitySet (name : String)
  /-- A change does not carry a key property. -/
  | missingKey (entitySet key : String)
  /-- There is no entity with the key of a change. -/
  | notFound (entitySet key : String)
  /-- There is an entity with the key of an insertion. -/
  | conflict (entitySet key : String)
  /-- The submission was cancelled. -/
  | cancelled
deriving DecidableEq, Repr

/-- The message of an error. -/
def SubmitError.message : SubmitError → String
  | .unknownEntitySet name => "Entity set `" ++ name ++ "` does not exist in the model"
  | .missingKey entitySet key =>
    "Change to `" ++ entitySet ++ "` is missing key property `" ++ key ++ "`"
  | .notFound entitySet key => "No entity in `" ++ entitySet ++ "` matches key " ++ key
  | .conflict entitySet key => "An entity in `" ++ entitySet ++ "` already has key " ++ key
  | .cancelled => "Submit was cancelled before commit"

/-- The key properties of the entities in a set; a model without the set has none. -/
def Model.keysOfSet (m : Model) (entitySet : String) : List String :=
  ((m.findEntitySet? entitySet).map fun s => m.keyProperties s.elementType).getD []

/-- Whether a change carries a key property. -/
def Change.carries (c : Change) (key : String) : Bool :=
  c.key.contains key || (c.operation == .insert && c.values.contains key)

/-- Checks a change against a model. -/
def Change.validate (m : Model) (c : Change) : Except SubmitError Unit :=
  match m.findEntitySet? c.entitySet with
  | none => .error (.unknownEntitySet c.entitySet)
  | some s =>
    match (m.keyProperties s.elementType).find? (!c.carries ·) with
    | some key => .error (.missingKey c.entitySet key)
    | none => .ok ()

/-- The key with a further property, unless it has it or there is no value for it. -/
def Change.addKey (values : Members Json.Scalar) (key : Members Json.Scalar) (property : String) :
    Members Json.Scalar :=
  match values.get? property with
  | some value => if key.contains property then key else key ++ [(property, value)]
  | none => key

/-- An insertion with the key properties among its values in its key. -/
def Change.assignKey (m : Model) (c : Change) : Change :=
  if c.operation = .insert then
    { c with key := (m.keysOfSet c.entitySet).foldl (addKey c.values) c.key }
  else c

namespace ChangeSet

/-- The changes with an insertion at the end. -/
def insert (cs : ChangeSet) (entitySet : String) (values : Members Json.Scalar) : ChangeSet :=
  ⟨cs.changes ++ [{ entitySet, operation := .insert, values }]⟩

/-- The changes with an update at the end. -/
def update (cs : ChangeSet) (entitySet : String) (key values : Members Json.Scalar) : ChangeSet :=
  ⟨cs.changes ++ [{ entitySet, operation := .update, key, values }]⟩

/-- The changes with a deletion at the end. -/
def delete (cs : ChangeSet) (entitySet : String) (key : Members Json.Scalar) : ChangeSet :=
  ⟨cs.changes ++ [{ entitySet, operation := .delete, key }]⟩

/-- Checks changes one after the other. -/
def validateAll (m : Model) : List Change → Except SubmitError Unit
  | [] => .ok ()
  | c :: rest =>
    match c.validate m with
    | .error e => .error e
    | .ok () => validateAll m rest

/-- Checks all changes against a model. -/
def validate (m : Model) (cs : ChangeSet) : Except SubmitError Unit := validateAll m cs.changes

/-- The changes in which each insertion has its key as far as its values tell it. -/
def assignInsertKeys (m : Model) (cs : ChangeSet) : ChangeSet :=
  ⟨cs.changes.map (Change.assignKey m)⟩

end ChangeSet

end FacetModel
