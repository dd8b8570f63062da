import FacetModel.Number

/-!
# Numerals

A numeral is a number as it is written: a sign, the digits before the point, the digits behind
it, and an exponent. Two readings are defined.

`Numeral.value?` reads integers exactly while they fit into 64 bits, and all else in bounded
precision: it keeps the digits while they fit into 64 bits, takes the nearest double, and
multiplies or divides it by the nearest double of a power of ten.

`Numeral.nearest?` is the double nearest to the written number.
-/

namespace FacetModel

/-- A number as it is written. Digits are below ten. -/
structure Numeral where
  /-- Whether it starts with a minus. -/
  negative : Bool
  /-- The digits before the point. -/
  whole : List Nat
  /-- The digits behind the point, if there is one. -/
  fraction : Option (List Nat)
  /-- Whether the exponent is negative, and its digits, if there is one. -/
  exponent : Option (Bool × List Nat)

namespace Numeral

/-- The greatest number of 64 bits. -/
def wordMax : Nat := Nat.pow 2 64 - 1

/-- The greatest exponent that is kept. -/
def exponentMax : Nat := Nat.pow 2 31 - 1

/-- The number of a list of digits, most significant first. -/
def digitsValue (digits : List Nat) : Nat := digits.foldl (fun n d => n * 10 + d) 0

/-- Appends digits to a significand while it fits into 64 bits; gives also the digits left. -/
def absorb (significand : Nat) : List Nat → Nat × List Nat
  | [] => (significand, [])
  | d :: rest =>
    if wordMax < significand * 10 + d then (significand, d :: rest)
    else absorb (significand * 10 + d) rest

/-- The greatest exponent of a power of ten that is a finite double. -/
def stepPlaces : Nat := 308

/-- A double divided by the greatest power of ten that is a finite double. -/
def shrink? (d : Double) : Option Double := do d.div? (← Double.powerOfTen? stepPlaces)

/-- A double times a power of ten, in steps of at most `stepPlaces`; none if that is infinite. -/
def scale? (d : Double) (e : Int) : Option Double :=
  if e.natAbs ≤ stepPlaces then do
    let power ← Double.powerOfTen? e.natAbs
    if 0 ≤ e then d.mul? power else d.div? power
  else if d.isZero then some d
  else if 0 ≤ e then none
  else (shrink? d).bind fun smaller => scale? smaller (e + stepPlaces)
termination_by e.natAbs
decreasing_by
  have : 0 < stepPlaces := by decide
  omega

/-- A significand times a power of ten with a sign. -/
def assemble? (negative : Bool) (significand : Nat) (e : Int) : Option Number := do
  let d ← scale? (← Double.ofInt? significand) e
  return .double (if negative then d.neg else d)

/-- A significand times a power of ten and the written exponent. An exponent too long to be kept
makes zero of a zero and of a number below one, and nothing of all else. -/
def withExponent? (negative : Bool) (significand : Nat) (e : Int) :
    Option (Bool × List Nat) → Option Number
  | none => assemble? negative significand e
  | some (down, digits) =>
    let power := digitsValue digits
    if exponentMax < power then
      if significand = 0 ∨ down then some (.double (.zero negative)) else none
    else assemble? negative significand (if down then e - power else e + power)

/-- The number a numeral stands for in bounded precision, if it is in range. -/
def value? (n : Numeral) : Option Number :=
  let (significand, dropped) := absorb 0 n.whole
  match n.fraction, n.exponent, dropped with
  | none, none, [] =>
    if !n.negative then some (.int significand)
    else if significand = 0 ∨ Nat.pow 2 63 < significand then assemble? true significand 0
    else some (.int (-significand))
  | none, exponent, dropped => withExponent? n.negative significand dropped.length exponent
  | some digits, exponent, dropped =>
    let (significand, rest) := absorb significand digits
    withExponent? n.negative significand
      (dropped.length - (digits.length - rest.length : Nat)) exponent

/-- The double nearest to the written number, if it is finite. Numbers beyond the range of
doubles are told by their number of digits before any power is computed. -/
def nearest? (n : Numeral) : Option Double :=
  let fraction := n.fraction.getD []
  let significand := digitsValue (n.whole ++ fraction)
  let power : Int := match n.exponent with
    | none => 0
    | some (true, digits) => -digitsValue digits
    | some (false, digits) => digitsValue digits
  let e := power - fraction.length
  let places := (Nat.toDigits 10 significand).length + e
  if significand = 0 ∨ places < -400 then some (.zero n.negative)
  else if 400 < places then none
  else Double.ofRatio? n.negative (significand * Nat.pow 10 e.toNat) (Nat.pow 10 (-e).toNat)

end Numeral

end FacetModel
