import FacetModel.Query
import FacetModel.Document
import FacetModel.Json.Text
import FacetModel.Tree.Reading

/-!
# Queries as documents

Every node is an alternative named for what it does, and its parts are the fields of a record:

```text
source_stub: name                    filter: input, predicate
source: open_collection | constant   project: input, fields
                                     navigate: input, property
```

Conjunctions and disjunctions are lists of two expressions, literals any value.
-/

namespace FacetModel

/-! ### Writing -/

/-- A source as a document. -/
def Source.toDocument : Source → Document
  | .openCollection database collection elementType =>
    .alternative "open_collection" (.record [("database", .text database),
      ("collection", .text collection), ("element_type", .text elementType)])
  | .constant elementType values =>
    .alternative "constant" (.record [("element_type", .text elementType),
      ("values", .value (.list values))])

namespace CompareOp

/-- The name of a comparison. -/
def name : CompareOp → String
  | eq => "eq"
  | ne => "ne"
  | lt => "lt"
  | le => "le"
  | gt => "gt"
  | ge => "ge"

/-- The comparisons by name. -/
def choices : List (String × CompareOp) := [eq, ne, lt, le, gt, ge].map fun op => (op.name, op)

end CompareOp

/-- An expression as a document. -/
def ScalarExpr.toDocument : ScalarExpr → Document
  | .property path => .alternative "property" (.text path)
  | .literal value => .alternative "literal" (.value value)
  | .compare op left right =>
    .alternative "compare" (.record [("op", .text op.name), ("left", left.toDocument),
      ("right", right.toDocument)])
  | .and left right => .alternative "and" (.list [left.toDocument, right.toDocument])
  | .or left right => .alternative "or" (.list [left.toDocument, right.toDocument])
  | .not inner => .alternative "not" inner.toDocument

namespace Query

/-- A query as a document. -/
def toDocument : Query → Document
  | .stub name => .alternative "source_stub" (.record [("name", .text name)])
  | .source s => .alternative "source" s.toDocument
  | .filter input predicate =>
    .alternative "filter" (.record [("input", input.toDocument),
      ("predicate", predicate.toDocument)])
  | .project input fields =>
    .alternative "project" (.record [("input", input.toDocument), ("fields", .texts fields)])
  | .navigate input property =>
    .alternative "navigate" (.record [("input", input.toDocument), ("property", .text property)])

/-- A query in JSON. -/
def toJson (q : Query) : Json := q.toDocument.toJson

end Query

/-! ### Reading -/

variable {σ : Type} [Script σ]

/-- The fields of an alternative with the content of a record. -/
def Tree.readContent (names : List String) : Tree σ → Reading (Members σ)
  | .object members => checkFields names members
  | .list items =>
    if Script.listsFields σ then listFields names items else .error (.wrongKind "record")
  | .scalar _ => .error (.wrongKind "record")

/-- A source read from an alternative. -/
def Source.read (t : Tree σ) : Reading Source := do
  let (name, content) ← t.readAlternative
  match name, content with
  | "open_collection", some content =>
    let fields ← content.readContent ["database", "collection", "element_type"]
    return .openCollection (← fields.required "database" Tree.readText)
      (← fields.required "collection" Tree.readText)
      (← fields.required "element_type" Tree.readText)
  | "constant", some content =>
    let fields ← content.readContent ["element_type", "values"]
    return .constant (← fields.required "element_type" Tree.readText)
      (← fields.required "values" (Tree.readList Tree.readJson))
  | name, _ => throw (.unknownAlternative name)

/-- A field that was read together with the other fields of its record. -/
def Members.readField {α : Type} (attempts : List (String × Reading α)) (name : String) :
    Reading α :=
  match attempts.lookup name with
  | some result => result
  | none => .error (.missingField name)

namespace ScalarExpr

/-- An expression read from the fields of a comparison, with what each field is as an
expression. -/
def ofCompareFields (fields : Members σ) (attempts : List (String × Reading ScalarExpr)) :
    Reading ScalarExpr := do
  return .compare (← fields.required "op" (Tree.readChoice CompareOp.choices))
    (← Members.readField attempts "left") (← Members.readField attempts "right")

/-- The fields of a comparison. -/
def compareFields : List String := ["op", "left", "right"]

mutual

/-- An expression read from a document. -/
def read : Tree σ → Reading ScalarExpr
  | .object [(name, .list items)] =>
    match name, readEach items with
    | "literal", _ => return .literal (← Tree.readJson (.list items))
    | "and", [left, right] => return .and (← left) (← right)
    | "or", [left, right] => return .or (← left) (← right)
    | "compare", attempts => do
      if Script.listsFields σ then
        ofCompareFields (← Tree.listFields compareFields items) (compareFields.zip attempts)
      else throw (.wrongKind "record")
    | name, _ => throw (.unknownAlternative name)
  | .object [(name, .object members)] =>
    match name with
    | "literal" => return .literal (← Tree.readJson (.object members))
    | "compare" => do
      ofCompareFields (← Tree.checkFields compareFields members) (readFields members)
    | "not" => return .not (← read (.object members))
    | name => throw (.unknownAlternative name)
  | .object [(name, .scalar s)] =>
    match name with
    | "property" => return .property (← Tree.readText (.scalar s))
    | "literal" => return .literal (← Tree.readJson (.scalar s))
    | name => throw (.unknownAlternative name)
  | _ => throw (.wrongKind "expression")

/-- Each item of a list as an expression. -/
def readEach : List (Tree σ) → List (Reading ScalarExpr)
  | [] => []
  | t :: rest => read t :: readEach rest

/-- Each member of an object as an expression. -/
def readFields : List (String × Tree σ) → List (String × Reading ScalarExpr)
  | [] => []
  | (name, t) :: rest => (name, read t) :: readFields rest

end

end ScalarExpr

namespace Query

/-- The names of the fields of a node. -/
def fieldNames : String → List String
  | "source_stub" => ["name"]
  | "filter" => ["input", "predicate"]
  | "project" => ["input", "fields"]
  | "navigate" => ["input", "property"]
  | _ => []

/-- A query read from the fields of its outermost node, with what each field is as a query. -/
def ofFields (node : String) (fields : Members σ) (attempts : List (String × Reading Query)) :
    Reading Query := do
  match node with
  | "source_stub" => return .stub (← fields.required "name" Tree.readText)
  | "filter" =>
    return .filter (← Members.readField attempts "input")
      (← fields.required "predicate" ScalarExpr.read)
  | "project" =>
    return .project (← Members.readField attempts "input")
      (← fields.required "fields" (Tree.readList Tree.readText))
  | "navigate" =>
    return .navigate (← Members.readField attempts "input")
      (← fields.required "property" Tree.readText)
  | node => throw (.unknownAlternative node)

mutual

/-- A query read from a document. -/
def read : Tree σ → Reading Query
  | .object [(node, .object members)] =>
    match node with
    | "source" => return .source (← Source.read (.object members))
    | node => do
      ofFields node (← Tree.checkFields (fieldNames node) members) (readFields members)
  | .object [(node, .list items)] => do
    if Script.listsFields σ then
      ofFields node (← Tree.listFields (fieldNames node) items)
        ((fieldNames node).zip (readEach items))
    else throw (.wrongKind "record")
  | _ => throw (.wrongKind "query")

/-- Each item of a list as a query. -/
def readEach : List (Tree σ) → List (Reading Query)
  | [] => []
  | t :: rest => read t :: readEach rest

/-- Each member of an object as a query. -/
def readFields : List (String × Tree σ) → List (String × Reading Query)
  | [] => []
  | (name, t) :: rest => (name, read t) :: readFields rest

end

/-- The query of a JSON text. No field of a node may be written twice. -/
def ofText? (text : String) : Option Query := do
  let written ← Json.readWritten? text
  let t : Tree Json.Written ← written.mapScalars? fun s => some ⟨s⟩
  (read t).toOption

end Query

end FacetModel
