import FacetModel.Json

/-!
# Documents to be written

`Document` is what a value is written from. Besides values, lists and records it has alternatives
with content, which notations write in different ways: JSON writes them as objects with one
member (`Document.toJson`), YAML as tags.
-/

namespace FacetModel

/-- A document before its notation is chosen. -/
inductive Document where
  /-- A JSON value, written as it is. -/
  | value (j : Json)
  /-- A list. -/
  | list (items : List Document)
  /-- A record with its fields in order. -/
  | record (fields : List (String × Document))
  /-- An alternative with content. -/
  | alternative (name : String) (content : Document)
deriving Inhabited

namespace Document

/-- A text. -/
def text (s : String) : Document := .value (.str s)

/-- A truth value. -/
def flag (b : Bool) : Document := .value (.bool b)

/-- Nothing. -/
def null : Document := .value .null

/-- A text, or nothing. -/
def textOrNull : Option String → Document
  | some s => text s
  | none => null

/-- A list of texts. -/
def texts (l : List String) : Document := .list (l.map text)

mutual

/-- The document in JSON. -/
def toJson : Document → Json
  | .value j => j
  | .list items => .list (toJsonItems items)
  | .record fields => .object (toJsonFields fields)
  | .alternative name content => .object [(name, content.toJson)]

/-- The items of a list in JSON. -/
def toJsonItems : List Document → List Json
  | [] => []
  | d :: rest => d.toJson :: toJsonItems rest

/-- The fields of a record in JSON. -/
def toJsonFields : List (String × Document) → List (String × Json)
  | [] => []
  | (name, d) :: rest => (name, d.toJson) :: toJsonFields rest

end

@[simp] theorem toJsonItems_map {α : Type} (f : α → Document) (l : List α) :
    toJsonItems (l.map f) = l.map fun a => (f a).toJson := by
  induction l with
  | nil => rfl
  | cons a rest ih => simp [toJsonItems, ih]

end Document

end FacetModel
