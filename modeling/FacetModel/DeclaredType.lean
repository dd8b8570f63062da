/-!
# Declared types

A declared type is the type of a property, a parameter or a result as a host catalog writes it:
nothing (`void`), a primitive, a reference to a named type, a sequence of elements that is
queryable or held in memory, or any other type with arguments.

`DeclaredType.ofParts` tells what a name with or without arguments stands for, and
`DeclaredType.text` writes each type in its canonical spelling.
-/

namespace FacetModel

/-- A primitive value type. -/
inductive PrimitiveKind where
  | string
  | boolean
  | byte
  | sbyte
  | int16
  | int32
  | int64
  | single
  | double
  | decimal
  | guid
  | binary
  | date
  | dateTimeOffset
  | timeOfDay
  | duration
deriving DecidableEq, Repr, Inhabited

namespace PrimitiveKind

/-- The canonical name of a primitive. -/
def name : PrimitiveKind → String
  | string => "String"
  | boolean => "Boolean"
  | byte => "Byte"
  | sbyte => "SByte"
  | int16 => "Int16"
  | int32 => "Int32"
  | int64 => "Int64"
  | single => "Single"
  | double => "Double"
  | decimal => "Decimal"
  | guid => "Guid"
  | binary => "Binary"
  | date => "Date"
  | dateTimeOffset => "DateTimeOffset"
  | timeOfDay => "TimeOfDay"
  | duration => "Duration"

/-- All primitives. -/
def all : List PrimitiveKind :=
  [string, boolean, byte, sbyte, int16, int32, int64, single, double, decimal, guid, binary, date,
    dateTimeOffset, timeOfDay, duration]

/-- Further names of primitives. -/
def aliases : List (String × PrimitiveKind) :=
  [("string", string), ("bool", boolean), ("byte", byte), ("sbyte", sbyte), ("short", int16),
    ("int", int32), ("long", int64), ("float", single), ("double", double), ("decimal", decimal),
    ("TimeSpan", duration), ("Bytes", binary)]

/-- The names of primitives, canonical ones first. -/
def table : List (String × PrimitiveKind) := all.map (fun k => (k.name, k)) ++ aliases

/-- The primitive of a name, canonical or not. -/
def lookup? (name : String) : Option PrimitiveKind := table.lookup name

end PrimitiveKind

/-- A type as it is declared. -/
inductive DeclaredType where
  /-- No value. -/
  | void
  /-- A primitive value. -/
  | primitive (kind : PrimitiveKind)
  /-- A named type without arguments. -/
  | reference (name : String)
  /-- A sequence that can be queried. -/
  | queryable (element : DeclaredType)
  /-- A sequence held in memory. -/
  | collection (element : DeclaredType)
  /-- Any other type with arguments. -/
  | generic (name : String) (args : List DeclaredType)
deriving Repr, Inhabited

namespace DeclaredType

/-- Spellings of queryable sequences. -/
def queryableNames : List String := ["Queryable", "IQueryable"]

/-- Spellings of sequences held in memory. -/
def collectionNames : List String :=
  ["Collection", "ICollection", "IEnumerable", "IList", "List", "Sequence", "Vec"]

/-- Whether a name is a spelling of `void`, in any letter case. -/
def isVoidName (name : String) : Bool := name.toList.map Char.toLower == ['v', 'o', 'i', 'd']

/-- The type that a name stands for, without arguments or with some. -/
def ofParts (name : String) : Option (List DeclaredType) → DeclaredType
  | none =>
    if isVoidName name then .void
    else match PrimitiveKind.lookup? name with
      | some kind => .primitive kind
      | none => .reference name
  | some [arg] =>
    if name ∈ queryableNames then .queryable arg
    else if name ∈ collectionNames then .collection arg
    else .generic name [arg]
  | some args => .generic name args

mutual

/-- The canonical spelling of a type. -/
def text : DeclaredType → String
  | .void => "void"
  | .primitive kind => kind.name
  | .reference name => name
  | .queryable element => "Queryable<" ++ element.text ++ ">"
  | .collection element => "Collection<" ++ element.text ++ ">"
  | .generic name args => name ++ "<" ++ textAll args ++ ">"

/-- The canonical spellings of arguments, with commas between them. -/
def textAll : List DeclaredType → String
  | [] => ""
  | [t] => t.text
  | t :: rest => t.text ++ ", " ++ textAll rest

end

mutual

/-- Whether two types are the same. -/
def same : DeclaredType → DeclaredType → Bool
  | .void, .void => true
  | .primitive a, .primitive b => a == b
  | .reference a, .reference b => a == b
  | .queryable a, .queryable b => same a b
  | .collection a, .collection b => same a b
  | .generic a as, .generic b bs => a == b && sameAll as bs
  | _, _ => false

/-- Whether two lists of types are the same. -/
def sameAll : List DeclaredType → List DeclaredType → Bool
  | [], [] => true
  | a :: as, b :: bs => same a b && sameAll as bs
  | _, _ => false

end

mutual

theorem same_iff : ∀ {a b : DeclaredType}, same a b = true ↔ a = b
  | .void, b => by cases b <;> simp [same]
  | .primitive _, b => by cases b <;> simp [same]
  | .reference _, b => by cases b <;> simp [same]
  | .queryable a, b => by cases b <;> simp [same, same_iff]
  | .collection a, b => by cases b <;> simp [same, same_iff]
  | .generic _ as, b => by cases b <;> simp [same, sameAll_iff]

theorem sameAll_iff : ∀ {as bs : List DeclaredType}, sameAll as bs = true ↔ as = bs
  | [], bs => by cases bs <;> simp [sameAll]
  | a :: as, bs => by cases bs <;> simp [sameAll, same_iff, sameAll_iff]

end

instance : DecidableEq DeclaredType := fun _ _ => decidable_of_iff _ same_iff

/-- Whether the type has no values. -/
def isVoid : DeclaredType → Bool
  | .void => true
  | _ => false

/-- The element type of a sequence. -/
def sequenceElement? : DeclaredType → Option DeclaredType
  | .queryable element => some element
  | .collection element => some element
  | _ => none

/-- The element type of a sequence that can be queried. -/
def queryableElement? : DeclaredType → Option DeclaredType
  | .queryable element => some element
  | _ => none

/-- The name of a type without arguments. -/
def referenceName? : DeclaredType → Option String
  | .reference name => some name
  | _ => none

/-- The element type of a sequence, and any other type itself. -/
def elementOrSelf (t : DeclaredType) : DeclaredType := t.sequenceElement?.getD t

/-! ### Sequences and references -/

/-- A type is that of sequences with some type of elements. -/
def IsSequenceOf (t element : DeclaredType) : Prop :=
  t = .queryable element ∨ t = .collection element

variable {t element : DeclaredType} {name : String}

theorem sequenceElement?_eq_some_iff :
    t.sequenceElement? = some element ↔ t.IsSequenceOf element := by
  cases t <;> simp [sequenceElement?, IsSequenceOf]

theorem sequenceElement?_eq_none_iff :
    t.sequenceElement? = none ↔ ∀ element, ¬ t.IsSequenceOf element := by
  simp only [← sequenceElement?_eq_some_iff, Option.eq_none_iff_forall_ne_some, ne_eq]

theorem referenceName?_eq_some_iff : t.referenceName? = some name ↔ t = .reference name := by
  cases t <;> simp [referenceName?]

theorem isVoid_iff : t.isVoid = true ↔ t = .void := by
  cases t <;> simp [isVoid]

theorem IsSequenceOf.isVoid (h : t.IsSequenceOf element) : t.isVoid = false := by
  obtain rfl | rfl := h <;> rfl

end DeclaredType

end FacetModel
