import SearchClient.Numeric.FloatView
import SearchClient.Numeric.Literal

/-!
# Exact quantities

Integers, floats and decimals are compared by the number they stand for. A quantity is a fraction,
an infinity, or not a number; the last is equal to nothing and in no order.
-/

namespace SearchClient.Numeric

/-- The number that a value stands for. A ratio has a positive denominator. -/
inductive Quantity where
  | nan
  | infinite (negative : Bool)
  | ratio (num : Int) (den : Nat)
  deriving DecidableEq, Repr

namespace Quantity

def ofInt (n : Int) : Quantity := ratio n 1

def ofFloat (x : Float) : Quantity :=
  match FloatView.ofFloat x with
  | .nan => nan
  | .infinite negative => infinite negative
  | .finite negative mantissa exponent =>
    let (num, den) := binaryRatio mantissa exponent
    ratio (signed negative num) den

def ofLiteral : RealLiteral → Quantity
  | .nan => nan
  | .infinite negative => infinite negative
  | .finite negative mantissa exponent =>
    ratio (signed negative (mantissa * pow10 exponent.toNat)) (pow10 (-exponent).toNat)

/-- Whether two quantities are one number. -/
def same : Quantity → Quantity → Bool
  | ratio a b, ratio c d => a * d == c * b
  | infinite p, infinite q => p == q
  | _, _ => false

/-- Whether the first number is smaller. -/
def less : Quantity → Quantity → Bool
  | ratio a b, ratio c d => a * d < c * b
  | infinite p, infinite q => p && !q
  | infinite p, ratio _ _ => p
  | ratio _ _, infinite q => !q
  | _, _ => false

/-- Whether the first number is at most the second; not a number is at most nothing. -/
def atMost (a b : Quantity) : Bool := a.less b || a.same b

/-- Whether the quantity is zero. -/
def isZero : Quantity → Bool
  | ratio num _ => num == 0
  | _ => false

/-- Whole part of a number, toward zero. What is no fraction has none. -/
def wholePart? : Quantity → Option Int
  | ratio num den => some (num.tdiv den)
  | _ => none

@[simp] theorem wholePart?_ofInt (n : Int) : (ofInt n).wholePart? = some n := by
  simp [ofInt, wholePart?]

theorem wholePart?_ofFloat {x : Float} {negative : Bool} {mantissa : Nat} {exponent : Int}
    (h : FloatView.ofFloat x = .finite negative mantissa exponent) :
    (ofFloat x).wholePart? = some (truncateBinary negative mantissa exponent) := by
  unfold ofFloat truncateBinary
  rw [h]
  simp only [wholePart?, tdiv_signed]

theorem wholePart?_ofLiteral_finite (negative : Bool) (mantissa : Nat) (exponent : Int) :
    (ofLiteral (.finite negative mantissa exponent)).wholePart? =
      some (signed negative (mantissa * pow10 exponent.toNat / pow10 (-exponent).toNat)) := by
  simp only [ofLiteral, wholePart?, tdiv_signed]

theorem same_ofInt (m n : Int) : (ofInt m).same (ofInt n) = (m == n) := by
  simp [ofInt, same]

theorem less_ofInt (m n : Int) : (ofInt m).less (ofInt n) = decide (m < n) := by
  simp [ofInt, less]

end Quantity

end SearchClient.Numeric
