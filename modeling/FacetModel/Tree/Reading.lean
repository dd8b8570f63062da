import FacetModel.Json
import FacetModel.DeclaredType.Expression

/-!
# Reading typed values from documents

A `Script` says how the scalars of a notation are read where a text, a truth value or nothing is
wanted, and how a document as a whole is taken as a JSON value. All readers of this library are
written once, over any script:

* a record is an object in which no field of the record is written twice, or the list of its
  first fields; fields that the record does not have are passed over;
* an alternative is its name, or an object with its name as the only member;
* a field that is missing takes its default, if it has one.
-/

namespace FacetModel

/-- How a notation writes the values that readers ask for. -/
class Script (σ : Type) where
  /-- The text a scalar is read as. -/
  text? : σ → Option String
  /-- The truth value a scalar is read as. -/
  flag? : σ → Option Bool
  /-- Whether a scalar stands for nothing. -/
  isNull : σ → Bool
  /-- Whether a scalar may stand for an empty list or an empty object. -/
  isEmpty : σ → Bool
  /-- Whether an alternative without content may be written as an object that gives it nothing. -/
  givesNothing : Bool
  /-- Whether the fields of an alternative may be written as a list. -/
  listsFields : Bool
  /-- The JSON value a document is taken as. -/
  json? : Tree σ → Option Json

/-- Why a document is not read as the wanted value. -/
inductive Mismatch where
  /-- A field without default is missing. -/
  | missingField (name : String)
  /-- A field is written twice. -/
  | repeatedField (name : String)
  /-- A list has more items than the record has fields. -/
  | tooManyItems
  /-- A value of another kind was wanted. -/
  | wrongKind (wanted : String)
  /-- There is no alternative of that name. -/
  | unknownAlternative (name : String)
  /-- A text is no type expression. -/
  | badExpression (error : DeclaredType.ExpressionError)
deriving Repr

/-- The result of reading a document. -/
abbrev Reading (α : Type) := Except Mismatch α

namespace Tree

variable {σ α : Type} [Script σ]

/-- Whether a document stands for nothing. -/
def isNull : Tree σ → Bool
  | .scalar s => Script.isNull s
  | _ => false

/-- A document read as a text. -/
def readText : Tree σ → Reading String
  | .scalar s =>
    match Script.text? s with
    | some text => .ok text
    | none => .error (.wrongKind "text")
  | _ => .error (.wrongKind "text")

/-- A document read as a truth value. -/
def readFlag : Tree σ → Reading Bool
  | .scalar s =>
    match Script.flag? s with
    | some b => .ok b
    | none => .error (.wrongKind "truth value")
  | _ => .error (.wrongKind "truth value")

/-- A document taken as a JSON value. -/
def readJson (t : Tree σ) : Reading Json :=
  match Script.json? t with
  | some j => .ok j
  | none => .error (.wrongKind "value")

/-- A document read as a type expression. -/
def readType (t : Tree σ) : Reading DeclaredType :=
  match t.readText with
  | .error e => .error e
  | .ok text =>
    match DeclaredType.parse text with
    | .ok ty => .ok ty
    | .error e => .error (.badExpression e)

/-- A document that stands for nothing or is read by `read`. -/
def readOption (read : Tree σ → Reading α) (t : Tree σ) : Reading (Option α) :=
  if t.isNull then .ok none
  else match read t with
    | .ok a => .ok (some a)
    | .error e => .error e

/-- The items of a document read as a list. -/
def readItems : Tree σ → Reading (List (Tree σ))
  | .list items => .ok items
  | .scalar s =>
    if Script.isEmpty s then .ok [] else .error (.wrongKind "list")
  | .object _ => .error (.wrongKind "list")

/-- Reads each of some documents. -/
def readAll (read : Tree σ → Reading α) : List (Tree σ) → Reading (List α)
  | [] => .ok []
  | t :: rest =>
    match read t with
    | .error e => .error e
    | .ok a =>
      match readAll read rest with
      | .error e => .error e
      | .ok as => .ok (a :: as)

/-- A document read as a list of values. -/
def readList (read : Tree σ → Reading α) (t : Tree σ) : Reading (List α) :=
  match t.readItems with
  | .error e => .error e
  | .ok items => readAll read items

/-- The members of a document read as an object with any names. -/
def readMembers : Tree σ → Reading (Members σ)
  | .object members => .ok members
  | .scalar s =>
    if Script.isEmpty s then .ok [] else .error (.wrongKind "object")
  | .list _ => .error (.wrongKind "object")

/-- The first of some names that is written twice. -/
def repeated? (names : List String) (ms : Members σ) : Option String :=
  names.find? fun name => 1 < (ms.filter fun m => m.1 == name).length

/-- The members of an object read as a record with some fields. -/
def checkFields (names : List String) (ms : Members σ) : Reading (Members σ) :=
  match repeated? names ms with
  | some name => .error (.repeatedField name)
  | none => .ok ms

/-- The fields of a record that is written as a list. -/
def listFields (names : List String) (items : List (Tree σ)) : Reading (Members σ) :=
  if names.length < items.length then .error .tooManyItems else .ok (names.zip items)

/-- The fields of a document read as a record. -/
def readFields (names : List String) : Tree σ → Reading (Members σ)
  | .object members => checkFields names members
  | .list items => listFields names items
  | .scalar s =>
    if Script.isEmpty s then .ok [] else .error (.wrongKind "record")

/-- The alternative a document names, and its content, if that is written. -/
def readAlternative : Tree σ → Reading (String × Option (Tree σ))
  | .scalar s =>
    match Script.text? s with
    | some name => .ok (name, none)
    | none => .error (.wrongKind "alternative")
  | .object [(name, content)] => .ok (name, some content)
  | _ => .error (.wrongKind "alternative")

/-- A document read as one of some alternatives without content. -/
def readChoice (choices : List (String × α)) (t : Tree σ) : Reading α :=
  match t.readAlternative with
  | .error e => .error e
  | .ok (name, content) =>
    match choices.lookup name, content with
    | some a, none => .ok a
    | some a, some content =>
      if Script.givesNothing σ && content.isNull then .ok a else .error (.wrongKind "nothing")
    | none, _ => .error (.unknownAlternative name)

end Tree

namespace Members

variable {σ α : Type}

/-- The value of a field that has no default. -/
def required (ms : Members σ) (name : String) (read : Tree σ → Reading α) : Reading α :=
  match ms.get? name with
  | some t => read t
  | none => .error (.missingField name)

/-- The value of a field, or its default where it is missing. -/
def optional (ms : Members σ) (name : String) (read : Tree σ → Reading α) (default : α) :
    Reading α :=
  match ms.get? name with
  | some t => read t
  | none => .ok default

end Members

/-! ### JSON -/

instance : Script Json.Scalar where
  text?
    | .str s => some s
    | _ => none
  flag?
    | .bool b => some b
    | _ => none
  isNull
    | .null => true
    | _ => false
  isEmpty _ := false
  givesNothing := true
  listsFields := false
  json? := some

/-- A scalar of a JSON text of which the members are kept as they are written. -/
structure Json.Written where
  /-- The scalar. -/
  scalar : Json.Scalar
deriving Inhabited

instance : Script Json.Written where
  text? w := Script.text? w.scalar
  flag? w := Script.flag? w.scalar
  isNull w := Script.isNull w.scalar
  isEmpty _ := false
  givesNothing := true
  listsFields := true
  json? t := (t.mapScalars? fun w => some w.scalar).map Tree.merged

end FacetModel
