import FacetModel.Number.Double

/-!
# The shortest decimal text of a double

The text of a double has the fewest significant digits among the decimals that read back as it;
of two such decimals the nearer one is written, and at a tie the even one. All comparisons are
made in exact arithmetic on the interval of numbers that round to the double.

Positional notation is used while the decimal point falls at most five places before the first
digit and at most sixteen places behind it, with `.0` where no fraction is left; all other
numbers are written with an exponent: `0.00001`, `1e-6`, `100000.0`, `1e+16`.
-/

namespace FacetModel.Double

/-- How many decimal digits a natural number has; zero has none. -/
def digitCount (n : Nat) : Nat := if n = 0 then 0 else (Nat.toDigits 10 n).length

/-- The exponent `p` with `10 ^ p ≤ num / den < 10 ^ (p + 1)`, for a positive fraction. -/
def decimalExponent (num den : Nat) : Int :=
  if den ≤ num then (digitCount (num / den) : Int) - 1
  else -(digitCount ((den + num - 1) / num - 1) : Int)

/-- The numbers that round to a double, as multiples of a quarter of its last place: the least,
the greatest, and whether these two count. -/
def interval (d : Double) : Nat × Nat × Bool :=
  let m := 4 * d.significand
  let below := if d.magnitude % leadingBit = 0 ∧ leadingBit < d.magnitude then 1 else 2
  (m - below, m + 2, d.significand % 2 == 0)

/-- Whether `digits · 10 ^ k` rounds to the double. -/
def covers (d : Double) (digits : Nat) (k : Int) : Bool :=
  let (low, high, closed) := d.interval
  let q := d.exponent - 2
  let point := digits * Nat.pow 10 k.toNat * Nat.pow 2 (-q).toNat
  let scale := Nat.pow 10 (-k).toNat * Nat.pow 2 q.toNat
  if closed then low * scale ≤ point && point ≤ high * scale
  else low * scale < point && point < high * scale

/-- Of the two neighbours of `num / den` on the grid of multiples of `10 ^ k`, the nearer one
that rounds to the double. -/
def neighbour? (d : Double) (num den : Nat) (k : Int) : Option Nat :=
  let n := num * Nat.pow 10 (-k).toNat
  let m := den * Nat.pow 10 k.toNat
  let low := n / m
  match d.covers low k, d.covers (low + 1) k with
  | true, true => some (roundHalfEven n m)
  | true, false => some low
  | false, true => some (low + 1)
  | false, false => none

/-- Decimal digits without the zeros at their end, with the exponent that keeps the value. -/
def trimZeros : Nat → Nat → Int → Nat × Int
  | 0, digits, k => (digits, k)
  | fuel + 1, digits, k =>
    if digits ≠ 0 ∧ digits % 10 = 0 then trimZeros fuel (digits / 10) (k + 1) else (digits, k)

/-- The digits and the exponent of the shortest decimal of a double that is not zero. Seventeen
digits always suffice. -/
def shortest (d : Double) : Nat × Int :=
  let (num, den) := d.ratio
  let p := decimalExponent num den
  let found := (List.range 17).findSome? fun (i : Nat) =>
    (d.neighbour? num den (p - i)).map fun digits => trimZeros 17 digits (p - i)
  found.getD (0, 0)

/-- The text of `digits · 10 ^ k`, where `plus` stands before exponents that are not negative. -/
def decimalText (plus : List Char) (digits : Nat) (k : Int) : List Char :=
  let ds := Nat.toDigits 10 digits
  let point : Int := ds.length + k
  if 0 ≤ k ∧ point ≤ 16 then ds ++ List.replicate k.toNat '0' ++ ['.', '0']
  else if 0 < point ∧ point ≤ 16 then
    ds.take point.toNat ++ '.' :: ds.drop point.toNat
  else if -5 < point ∧ point ≤ 0 then
    ['0', '.'] ++ List.replicate (-point).toNat '0' ++ ds
  else
    let e := point - 1
    let sign := if e < 0 then ['-'] else plus
    let mantissa := match ds with
      | [c] => [c]
      | c :: rest => c :: '.' :: rest
      | [] => []
    mantissa ++ 'e' :: sign ++ Nat.toDigits 10 e.natAbs

/-- The text of a double, where `plus` stands before exponents that are not negative. -/
def textWith (plus : List Char) (d : Double) : String :=
  let sign := if d.negative then ['-'] else []
  if d.isZero then String.ofList (sign ++ ['0', '.', '0'])
  else
    let (digits, k) := d.shortest
    String.ofList (sign ++ decimalText plus digits k)

/-- The text of a double with the sign of its exponent always written. -/
def text (d : Double) : String := d.textWith ['+']

/-- The text of a double with only the minus of its exponent written. -/
def briefText (d : Double) : String := d.textWith []

end FacetModel.Double
