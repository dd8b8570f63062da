import FacetModel.ChangeSet
import FacetModel.Tree.Reading

/-!
# Change sets as documents
-/

namespace FacetModel

namespace ChangeOperation

/-- The name of an operation. -/
def name : ChangeOperation → String
  | insert => "insert"
  | update => "update"
  | delete => "delete"

/-- The operations by name. -/
def choices : List (String × ChangeOperation) := [insert, update, delete].map fun o => (o.name, o)

end ChangeOperation

/-- A change in JSON. -/
def Change.toJson (c : Change) : Json :=
  .record [("entity_set", .str c.entitySet), ("operation", .str c.operation.name),
    ("key", .record c.key), ("values", .record c.values)]

/-- A change set in JSON. -/
def ChangeSet.toJson (cs : ChangeSet) : Json :=
  .record [("entries", .list (cs.changes.map Change.toJson))]

/-- The members of a JSON object. -/
def Tree.readObject {σ : Type} [Script σ] (t : Tree σ) : Reading (Members Json.Scalar) :=
  match t.readJson with
  | .ok (.object members) => .ok members
  | .ok _ => .error (.wrongKind "object")
  | .error e => .error e

/-- A change read from a document, in which the key and the values may be missing. -/
def Change.read {σ : Type} [Script σ] (t : Tree σ) : Reading Change := do
  let fields ← t.readFields ["entity_set", "operation", "key", "values"]
  return {
    entitySet := ← fields.required "entity_set" Tree.readText
    operation := ← fields.required "operation" (Tree.readChoice ChangeOperation.choices)
    key := ← fields.optional "key" Tree.readObject []
    values := ← fields.optional "values" Tree.readObject [] }

/-- A change set read from a document. -/
def ChangeSet.read {σ : Type} [Script σ] (t : Tree σ) : Reading ChangeSet := do
  let fields ← t.readFields ["entries"]
  return { changes := ← fields.required "entries" (Tree.readList Change.read) }

end FacetModel
