import FacetModel.Json.Text
import FacetModel.Tree.Reading

/-!
# YAML scalars

A scalar is plain or quoted. Where a text is wanted both are taken as they are; where any value is
wanted a plain scalar stands for nothing, a truth value or a number if it is spelled like one, and
for a text otherwise (`Scalar.json?`).
-/

namespace FacetModel.Yaml

/-- A scalar of a YAML document. -/
inductive Scalar where
  /-- A scalar without quotes, of which the spelling may tell the kind. -/
  | plain (text : String)
  /-- A scalar that is a text by its style. -/
  | quoted (text : String)
deriving DecidableEq, Repr, Inhabited

namespace Scalar

/-- The text of a scalar. -/
def text : Scalar → String
  | plain s => s
  | quoted s => s

/-- The spellings of nothing. -/
def isNullSpelling (s : String) : Bool := s ∈ ["", "~", "null", "Null", "NULL"]

/-- The truth value of a spelling. -/
def flagOf? (s : String) : Option Bool :=
  if s ∈ ["true", "True", "TRUE"] then some true
  else if s ∈ ["false", "False", "FALSE"] then some false
  else none

/-! ### Numbers -/

/-- The number of some digits in a base up to sixteen; there is at least one digit. -/
def digitsIn? (base : Nat) (s : List Char) : Option Nat :=
  if s.isEmpty then none
  else s.foldlM (fun n c => do
    let d ← Json.Token.hexDigit? c
    if d < base then some (n * base + d) else none) 0

/-- Whether a text has several digits of which the first is zero. Such a text is no number. -/
def hasLeadingZero : List Char → Bool
  | '0' :: c :: rest => (c :: rest).all Char.isDigit
  | _ => false

/-- The number of an integer without sign: hexadecimal, octal, binary or decimal. -/
def magnitude? : List Char → Option Nat
  | '0' :: 'x' :: rest => digitsIn? 16 rest
  | '0' :: 'o' :: rest => digitsIn? 8 rest
  | '0' :: 'b' :: rest => digitsIn? 2 rest
  | s => if hasLeadingZero s then none else digitsIn? 10 s

/-- A text without its sign, and whether that is a minus. -/
def splitSign : List Char → Bool × List Char
  | '-' :: rest => (true, rest)
  | '+' :: rest => (false, rest)
  | s => (false, s)

/-- The integer of a spelling. -/
def integer? (s : List Char) : Option Int :=
  let (negative, rest) := splitSign s
  (magnitude? rest).map fun n => if negative then -n else n

/-- The numeral of a spelling: digits with a point among them or not, and an exponent. -/
def numeral? (s : List Char) : Option Numeral :=
  let (negative, s) := splitSign s
  let (whole, s) := Json.Token.digits s
  let (fraction, s) := match s with
    | '.' :: rest =>
      let (digits, rest) := Json.Token.digits rest
      (some digits, rest)
    | s => (none, s)
  if whole.isEmpty && (fraction.getD []).isEmpty then none
  else
    match Json.Token.exponent? s with
    | some (exponent, []) => some ⟨negative, whole, fraction, exponent⟩
    | _ => none

/-- The spellings of doubles that are no numbers. -/
def isSpecialSpelling (s : String) : Bool :=
  s ∈ [".inf", ".Inf", ".INF", "+.inf", "+.Inf", "+.INF", "-.inf", "-.Inf", "-.INF", ".nan",
    ".NaN", ".NAN"]

/-! ### Values -/

/-- The value of a plain scalar that is no integer of at most 64 bits. -/
def doubleOrText (s : String) : Json.Scalar :=
  if isSpecialSpelling s then .null
  else if hasLeadingZero (splitSign s.toList).2 then .str s
  else
    match (numeral? s.toList).bind Numeral.nearest? with
    | some d => .num (.double d)
    | none => .str s

/-- Whether an integer can be kept in some bits, with a sign if it is negative. -/
def hasBits (bits : Nat) (n : Int) : Bool :=
  if n < 0 then n.natAbs ≤ Nat.pow 2 (bits - 1) else n.natAbs < Nat.pow 2 bits

/-- The value of a scalar. An integer that has more than 64 bits but not more than 128 is
refused. -/
def json? : Scalar → Option Json.Scalar
  | quoted s => some (.str s)
  | plain s =>
    if isNullSpelling s then some .null
    else
      match flagOf? s, integer? s.toList with
      | some b, _ => some (.bool b)
      | none, some n =>
        if hasBits 64 n then some (.num (.int n))
        else if hasBits 128 n then none
        else some (doubleOrText s)
      | none, none => some (doubleOrText s)

end Scalar

instance : Script Scalar where
  text? s := some s.text
  flag?
    | .plain s => Scalar.flagOf? s
    | .quoted _ => none
  isNull
    | .plain s => Scalar.isNullSpelling s
    | .quoted _ => false
  isEmpty
    | .plain s => s.isEmpty
    | .quoted _ => false
  givesNothing := false
  listsFields := true
  json? t := (t.mapScalars? Scalar.json?).map Tree.merged

end FacetModel.Yaml
