/-!
# What a float stands for

A binary float is not a number, infinite, or a sign with a natural number times a power of two.
Every exact computation on floats starts from this view.
-/

namespace SearchClient.Numeric

/-- Meaning of a float. A finite one is `± mantissa · 2 ^ exponent`. -/
inductive FloatView where
  | nan
  | infinite (negative : Bool)
  | finite (negative : Bool) (mantissa : Nat) (exponent : Int)
  deriving DecidableEq, Repr

/-- A power of two. -/
def pow2 (exponent : Nat) : Nat := Nat.pow 2 exponent

/-- A power of ten. -/
def pow10 (exponent : Nat) : Nat := Nat.pow 10 exponent

/-- Reads the sign, exponent and fraction fields of a float. -/
def FloatView.ofFloat (x : Float) : FloatView :=
  let bits := x.toBits.toNat
  let negative := bits / pow2 63 == 1
  let exponent : Nat := bits / pow2 52 % 2048
  let fraction := bits % pow2 52
  if exponent = 2047 then
    if fraction = 0 then .infinite negative else .nan
  -- The smallest floats have no leading bit besides their fraction.
  else if exponent = 0 then .finite negative fraction (-1074)
  else .finite negative (fraction + pow2 52) ((exponent : Int) - 1075)

/-- Numerator and denominator of `mantissa · 2 ^ exponent`. -/
def binaryRatio (mantissa : Nat) (exponent : Int) : Nat × Nat :=
  (mantissa * pow2 exponent.toNat, pow2 (-exponent).toNat)

/-- Whether `mantissa · 2 ^ exponent` is a whole number. -/
def isWhole (mantissa : Nat) (exponent : Int) : Bool :=
  let (num, den) := binaryRatio mantissa exponent
  num % den == 0

/-- A natural number with a sign. -/
def signed (negative : Bool) (n : Nat) : Int :=
  if negative then -(n : Int) else n

/-- Whole part of `± mantissa · 2 ^ exponent`, toward zero. -/
def truncateBinary (negative : Bool) (mantissa : Nat) (exponent : Int) : Int :=
  let (num, den) := binaryRatio mantissa exponent
  signed negative (num / den)

/-- The whole part of a number with a sign has that sign. -/
theorem tdiv_signed (negative : Bool) (num den : Nat) :
    (signed negative num).tdiv den = signed negative (num / den) := by
  cases negative with
  | false => simp [signed]
  | true => simp [signed, Int.neg_tdiv]

/-- Nearest whole number to `num / den`; a half goes to the even neighbour. -/
def roundHalfEven (num den : Nat) : Nat :=
  let q := num / den
  let r := num % den
  if 2 * r < den then q
  else if 2 * r = den then q + q % 2
  else q + 1

end SearchClient.Numeric
