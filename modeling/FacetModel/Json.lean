import FacetModel.Number
import FacetModel.Tree

/-!
# JSON values

A JSON value is a tree over nulls, truth values, numbers and strings. `Json.same` is equality of
values: objects are equal when they have the same names and equal values under each, in whatever
order, and numbers are equal when they are of one kind and equal.
-/

namespace FacetModel

/-- A JSON value that is neither a list nor an object. -/
inductive Json.Scalar where
  | null
  | bool (value : Bool)
  | num (value : Number)
  | str (value : String)
deriving DecidableEq, Repr, Inhabited

/-- A JSON value. -/
abbrev Json := Tree Json.Scalar

namespace Json

/-- The value `null`. -/
@[match_pattern] abbrev null : Json := .scalar .null

/-- A truth value. -/
@[match_pattern] abbrev bool (value : Bool) : Json := .scalar (.bool value)

/-- A number. -/
@[match_pattern] abbrev num (value : Number) : Json := .scalar (.num value)

/-- A string. -/
@[match_pattern] abbrev str (value : String) : Json := .scalar (.str value)

/-- An object with some members. -/
@[match_pattern] abbrev record (members : List (String × Json)) : Json := .object members

/-- The number of a natural number. -/
def ofNat (n : Nat) : Json := .num (.int n)

/-- A string, or null where there is none. -/
def ofOption : Option String → Json
  | some s => .str s
  | none => .null

/-- The list of some strings. -/
def ofStrings (l : List String) : Json := .list (l.map Json.str)

/-- The member of a name, in an object. -/
def get? (j : Json) (name : String) : Option Json :=
  match j with
  | .object members => Members.get? members name
  | _ => none

/-- The value, or null where there is none. -/
def orNull (j : Option Json) : Json := j.getD .null

/-! ### Equality -/

/-- Equality of values that are neither lists nor objects. -/
def Scalar.same : Scalar → Scalar → Bool
  | .null, .null => true
  | .bool a, .bool b => a == b
  | .num a, .num b => a.same b
  | .str a, .str b => a == b
  | _, _ => false

mutual

/-- Equality of JSON values. -/
def same : Json → Json → Bool
  | .scalar a, .scalar b => a.same b
  | .list xs, .list ys => sameItems xs ys
  | .object ms, .object ns => sameMembers ms ns [] && ns.all fun n => Members.contains ms n.1
  | _, _ => false

/-- Equality of lists, item by item. -/
def sameItems : List Json → List Json → Bool
  | [], [] => true
  | x :: xs, y :: ys => same x y && sameItems xs ys
  | _, _ => false

/-- Whether the first member of each name, apart from the names seen before, has an equal value
on the other side. -/
def sameMembers : List (String × Json) → List (String × Json) → List String → Bool
  | [], _, _ => true
  | (name, x) :: rest, ns, seen =>
    (seen.contains name ||
      match Members.get? ns name with
      | some y => same x y
      | none => false) && sameMembers rest ns (name :: seen)

end

end Json

end FacetModel
