import FacetModel.Number.Double
import FacetModel.Number.Shortest

/-!
# Numbers of a document

A number of a document is an integer or a double. The two kinds are told apart, so `1` and `1.0`
are different values, but both have a place on the number line, by which comparisons go.
-/

namespace FacetModel

/-- A number of a document. -/
inductive Number where
  /-- An integer, written without a point and an exponent. -/
  | int (value : Int)
  /-- A double. -/
  | double (value : Double)
deriving DecidableEq, Repr

namespace Number

instance : Inhabited Number := ⟨.int 0⟩

/-- Numbers are the same value when they are of one kind and equal. -/
def same : Number → Number → Bool
  | .int a, .int b => a == b
  | .double a, .double b => a.same b
  | _, _ => false

/-- The double nearest to a number, if that one is finite. -/
def toDouble? : Number → Option Double
  | .int value => Double.ofInt? value
  | .double value => some value

/-- How two numbers compare as doubles. -/
def compare? (a b : Number) : Option Ordering := do
  let x ← a.toDouble?
  let y ← b.toDouble?
  return x.compare y

/-- The text of an integer. -/
def intText (i : Int) : String :=
  String.ofList ((if i < 0 then ['-'] else []) ++ Nat.toDigits 10 i.natAbs)

/-- The text of a number. -/
def text : Number → String
  | .int value => intText value
  | .double value => value.text

theorem same_refl (a : Number) : a.same a := by cases a <;> simp [same]

theorem same_comm (a b : Number) : a.same b = b.same a := by
  cases a <;> cases b <;> simp [same, Double.same, Bool.beq_comm]

theorem same_trans {a b c : Number} (hab : a.same b) (hbc : b.same c) : a.same c := by
  cases a <;> cases b <;> simp only [same, Bool.false_eq_true] at hab
  · cases c <;> simp only [same, Bool.false_eq_true] at hbc
    simp_all [same]
  · cases c <;> simp only [same, Bool.false_eq_true] at hbc
    simp_all [same]

end Number

end FacetModel
