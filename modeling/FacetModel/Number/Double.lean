/-!
# Finite doubles

`Double` is a finite binary floating-point number of 64 bits, kept as a sign and the code of its
magnitude: the eleven exponent bits followed by the fifty-two fraction bits, read as one number.
Codes grow with the magnitudes they stand for, so order and equality are those of integers, and
all arithmetic is done exactly in `Nat` and rounded once at the end by `nearestCode`, to the
nearest double and at a tie to the one with an even code.
-/

namespace FacetModel

/-- A significand of which only the first of its fifty-three bits is set. -/
def Double.leadingBit : Nat := Nat.pow 2 52

/-- The code of an infinite magnitude, above the codes of all finite ones. -/
def Double.infinityCode : Nat := 2047 * leadingBit

/-- A finite double. There are two zeros, which differ as values but compare as equal. -/
structure Double where
  /-- Whether the sign is minus. -/
  negative : Bool
  /-- The exponent bits followed by the fraction bits. -/
  magnitude : Nat
  /-- The exponent bits are not all set, as they are for an infinity. -/
  finite : magnitude < Double.infinityCode
deriving DecidableEq, Repr

namespace Double

/-- The integer `m` of the magnitude `m · 2 ^ q`. -/
def significand (d : Double) : Nat :=
  if d.magnitude < leadingBit then d.magnitude else leadingBit + d.magnitude % leadingBit

/-- The exponent `q` of the magnitude `m · 2 ^ q`. -/
def exponent (d : Double) : Int :=
  if d.magnitude < leadingBit then -1074 else (d.magnitude / leadingBit : Nat) - 1075

/-- Zero with a sign. -/
def zero (negative : Bool) : Double := ⟨negative, 0, by decide⟩

instance : Inhabited Double := ⟨zero false⟩

/-- Whether the number is one of the two zeros. -/
def isZero (d : Double) : Bool := d.magnitude == 0

/-- The magnitude as a fraction of two natural numbers. -/
def ratio (d : Double) : Nat × Nat :=
  if 0 ≤ d.exponent then (d.significand * Nat.pow 2 d.exponent.toNat, 1)
  else (d.significand, Nat.pow 2 (-d.exponent).toNat)

/-- The fraction `num / den` divided by `2 ^ q`, again as a fraction. -/
def descale (num den : Nat) (q : Int) : Nat × Nat :=
  if 0 ≤ q then (num, den * Nat.pow 2 q.toNat) else (num * Nat.pow 2 (-q).toNat, den)

/-- The integer nearest to `num / den`, the even one at a tie. -/
def roundHalfEven (num den : Nat) : Nat :=
  let floor := num / den
  let twice := 2 * (num % den)
  if twice < den then floor else if den < twice then floor + 1 else floor + floor % 2

/-- The exponent at which `num / den` has fifty-three significant bits, or the least exponent
there is. -/
def exponentFor (num den : Nat) : Int :=
  let q : Int := max ((num.log2 : Int) - den.log2 - 53) (-1074)
  let (n, d) := descale num den q
  if 2 * leadingBit ≤ n / d then q + 1 else q

/-- The code of the magnitude nearest to `num / den`; at least `infinityCode` when the fraction
is too large for a finite double. -/
def nearestCode (num den : Nat) : Nat :=
  if num = 0 then 0
  else
    let q := exponentFor num den
    let (n, d) := descale num den q
    (q + 1074).toNat * leadingBit + roundHalfEven n d

/-- The double nearest to `num / den` with a sign, if that one is finite. -/
def ofRatio? (negative : Bool) (num den : Nat) : Option Double :=
  let code := nearestCode num den
  if h : code < infinityCode then some ⟨negative, code, h⟩ else none

/-- The double nearest to an integer, if that one is finite. -/
def ofInt? (i : Int) : Option Double := ofRatio? (decide (i < 0)) i.natAbs 1

/-- The product, rounded, if it is finite. -/
def mul? (a b : Double) : Option Double :=
  ofRatio? (a.negative != b.negative) (a.ratio.1 * b.ratio.1) (a.ratio.2 * b.ratio.2)

/-- The quotient by a number that is not zero, rounded, if it is finite. -/
def div? (a b : Double) : Option Double :=
  ofRatio? (a.negative != b.negative) (a.ratio.1 * b.ratio.2) (a.ratio.2 * b.ratio.1)

/-- The number with the other sign. -/
def neg (d : Double) : Double := { d with negative := !d.negative }

/-- The double nearest to a power of ten, if that one is finite. -/
def powerOfTen? (k : Nat) : Option Double := ofRatio? false (Nat.pow 10 k) 1

/-! ### Order -/

/-- The place of a double on the number line: both zeros stand at zero. -/
def key (d : Double) : Int := if d.negative then -d.magnitude else d.magnitude

/-- Doubles are the same number when they stand at the same place. -/
def same (a b : Double) : Bool := a.key == b.key

@[simp] theorem same_iff {a b : Double} : a.same b ↔ a.key = b.key := by simp [same]

/-- How two doubles compare as numbers. -/
def compare (a b : Double) : Ordering := Ord.compare a.key b.key

end Double

end FacetModel
