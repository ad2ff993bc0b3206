import SearchClient.Numeric.Decimal
import SearchClient.Value.Number

/-!
# Computing with values

A value that stands for a number is one in a certain form: a truth value, an integer, a float or a
decimal. Sums and products have the form of their operands: integers stay exact, a float makes the
result a float, decimals stay decimals. Decimals and floats do not mix, but they are compared by
the numbers they stand for.
-/

namespace SearchClient

/-- A number in one of its forms. -/
inductive Numeral where
  | truth (b : Bool)
  | whole (n : Int)
  | real (x : Float)
  | decimal (d : Numeric.Decimal)
  deriving Inhabited

namespace Numeral

/-- The number that a value is. -/
def ofValue? : Value → Option Numeral
  | .bool b => some (truth b)
  | .int n => some (whole n)
  | .float x => some (real x)
  | .decimal text => some (decimal (.read text))
  | _ => none

/-- The number that a value is; anything else is of the wrong kind. -/
def ofValue (v : Value) : Except Failure Numeral :=
  match ofValue? v with
  | some n => .ok n
  | none => .error (.wrongKind "a number is needed")

def toValue : Numeral → Value
  | truth b => .bool b
  | whole n => .int n
  | real x => .float x
  | decimal d => .decimal d.text

/-- An integer or a truth value as an integer. -/
def toInt? : Numeral → Option Int
  | truth b => some b.toInt
  | whole n => some n
  | _ => none

/-- The decimal of a number that is not a float. -/
def toDecimal? : Numeral → Option Numeric.Decimal
  | truth b => some (.ofInt b.toInt)
  | whole n => some (.ofInt n)
  | real _ => none
  | decimal d => some d

/-- Nearest float to a number. -/
def toFloat (n : Numeral) : Except Failure Float := n.toValue.toFloat

/-- The exact number. -/
def quantity : Numeral → Numeric.Quantity
  | truth b => .ofInt b.toInt
  | whole n => .ofInt n
  | real x => .ofFloat x
  | decimal d => d.quantity

private def isDecimal : Numeral → Bool
  | decimal _ => true
  | _ => false

/-- Failure of an operation on decimals. -/
def ofFault : Numeric.DecimalFault → Failure
  | .undefined => .raised .decimal "[<class 'decimal.InvalidOperation'>]" none
  | .tooLarge => .raised .decimalRange "[<class 'decimal.Overflow'>]" none

/-- An operation on two numbers in the form that both can have. -/
private def combine (whole : Int → Int → Int) (real : Float → Float → Float)
    (decimal : Numeric.Decimal → Numeric.Decimal → Except Numeric.DecimalFault Numeric.Decimal)
    (a b : Numeral) : Except Failure Numeral :=
  match a.toInt?, b.toInt? with
  | some m, some n => .ok (.whole (whole m n))
  | _, _ =>
    if a.isDecimal || b.isDecimal then
      match a.toDecimal?, b.toDecimal? with
      | some p, some q =>
        match decimal p q with
        | .ok d => .ok (.decimal d)
        | .error fault => .error (ofFault fault)
      | _, _ => .error (.wrongKind "a decimal and a float do not mix")
    else do
      let x ← a.toFloat
      let y ← b.toFloat
      return .real (real x y)

/-- Sum of two numbers. -/
def add : Numeral → Numeral → Except Failure Numeral := combine (· + ·) (· + ·) Numeric.Decimal.add

/-- Product of two numbers. -/
def mul : Numeral → Numeral → Except Failure Numeral := combine (· * ·) (· * ·) Numeric.Decimal.mul

/-- The number after another one; what cannot be counted on stays. -/
def succ (n : Numeral) : Numeral := (n.add (whole 1)).toOption.getD n

/-- A comparison of two numbers. What is not a number is in no order with a decimal, and asking for
one is refused. -/
private def compare (test : Numeric.Quantity → Numeric.Quantity → Bool) (a b : Numeral) :
    Except Failure Bool :=
  let p := a.quantity
  let q := b.quantity
  if (a.isDecimal || b.isDecimal) && (p == .nan || q == .nan) then .error (ofFault .undefined)
  else .ok (test p q)

/-- Whether the first number is smaller. -/
def less : Numeral → Numeral → Except Failure Bool := compare Numeric.Quantity.less

/-- Whether the first number is at most the second. -/
def atMost : Numeral → Numeral → Except Failure Bool := compare Numeric.Quantity.atMost

theorem atMost_whole (m n : Int) : atMost (whole m) (whole n) = .ok (decide (m ≤ n)) := by
  have : (Numeric.Quantity.ofInt m).atMost (.ofInt n) = decide (m ≤ n) := by
    rw [Numeric.Quantity.atMost, Numeric.Quantity.less_ofInt, Numeric.Quantity.same_ofInt,
      Bool.eq_iff_iff]
    simp only [Bool.or_eq_true, decide_eq_true_eq, beq_iff_eq]
    omega
  simp [atMost, compare, isDecimal, quantity, this]

theorem succ_whole (n : Int) : succ (whole n) = whole (n + 1) := rfl

end Numeral

end SearchClient
