import SearchClient.Numeric.DecimalText

/-!
# Significant digits

A float with a given number of significant digits: in the exponent form with one digit before the
point, or in the general form, which is positional unless the number is very large or very small
for its digits, and which drops the zeros at the end of the fraction.
-/

namespace SearchClient.Numeric

/-- Power of ten of the first digit of `num / den`, which is not zero. -/
def leadingPower (num den : Nat) : Int :=
  if den ≤ num then (decimalDigits (num / den)).length - 1
  else
    let places := (decimalDigits (den / num)).length
    if den ≤ num * pow10 (places - 1) then 1 - places else -places

/-- The digits of `num / den` to a number of places, as one number, with the power of ten of the
first of them. A half goes to the even digit. -/
def significant (count num den : Nat) : Nat × Int :=
  if num = 0 then (0, 0)
  else
    let power := leadingPower num den
    let shift : Int := count - 1 - power
    let n := roundHalfEven (num * pow10 shift.toNat) (den * pow10 (-shift).toNat)
    -- Rounding up to the next power of ten adds a digit.
    if n = pow10 count then (n / 10, power + 1) else (n, power)

/-- The digits of a number, filled with zeros to a width. -/
def padded (width n : Nat) : List Char :=
  let digits := decimalDigits n
  List.replicate (width - digits.length) '0' ++ digits

/-- A fraction without the zeros at its end; the point goes with the last of them. -/
def trimFraction (cs : List Char) : List Char :=
  if cs.contains '.' then
    let kept := (cs.reverse.dropWhile (· == '0'))
    (match kept with
      | '.' :: rest => rest
      | kept => kept).reverse
  else cs

/-- How many digits are shown, and how. -/
inductive FloatStyle where
  | fixed | exponent | general
  deriving DecidableEq, Repr

/-- An exponent of at least two digits. -/
def exponentText (power : Int) : List Char :=
  'e' :: (if power < 0 then '-' else '+') :: padded 2 power.natAbs

/-- Digits with a point after the first of them, if more follow or if the point is kept. -/
def pointed (keepsPoint : Bool) (digits : List Char) : List Char :=
  match digits with
  | [d] => if keepsPoint then [d, '.'] else [d]
  | d :: rest => d :: '.' :: rest
  | [] => []

/-- Text of `num / den` with a number of places, without a point if there are none. -/
def fixedPlaces (places : Nat) (keepsPoint : Bool) (num den : Nat) : List Char :=
  let n := roundHalfEven (num * pow10 places) den
  if places = 0 then decimalDigits n ++ (if keepsPoint then ['.'] else [])
  else fixedDigits places n

/-- Text of `num / den` in a style. With `keepsPoint` the point and the zeros at the end stay. -/
def styledRatio (style : FloatStyle) (precision : Nat) (keepsPoint : Bool) (num den : Nat) :
    List Char :=
  match style with
  | .fixed => fixedPlaces precision keepsPoint num den
  | .exponent =>
    let (n, power) := significant (precision + 1) num den
    pointed keepsPoint (padded (precision + 1) n) ++ exponentText power
  | .general =>
    let count := max precision 1
    let (n, power) := significant count num den
    let trim (cs : List Char) : List Char := if keepsPoint then cs else trimFraction cs
    if -4 ≤ power ∧ power < count then
      trim (fixedPlaces ((count : Int) - 1 - power).toNat keepsPoint num den)
    else trim (pointed keepsPoint (padded count n)) ++ exponentText power

/-- A float in a style: its sign and its text without the sign. -/
def styled (style : FloatStyle) (precision : Nat) (keepsPoint : Bool) (x : Float) :
    Bool × List Char :=
  match FloatView.ofFloat x with
  | .nan => (false, ['n', 'a', 'n'])
  | .infinite negative => (negative, ['i', 'n', 'f'])
  | .finite negative mantissa exponent =>
    let (num, den) := binaryRatio mantissa exponent
    (negative, styledRatio style precision keepsPoint num den)

example : significant 3 12345 1000 = (123, 1) := by decide
example : significant 2 9999 10000 = (10, 0) := by decide

end SearchClient.Numeric
