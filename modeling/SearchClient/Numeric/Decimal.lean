import SearchClient.Numeric.DecimalText
import SearchClient.Numeric.Quantity

/-!
# Decimals

Decimals keep the digits they are written with, so `1.50` and `1.5` are one number in two forms.
Sums and products keep the digits of both operands up to a precision; beyond it they are rounded,
a half to the even digit.

`Decimal.read` and `Decimal.text` are the two directions of the written form. A decimal is written
positionally unless zeros would have to be added behind its digits or more than five before them.
-/

namespace SearchClient.Numeric

/-- A decimal: `± digits · 10 ^ exponent`, an infinity, or not a number, which is kept as it is
written. -/
inductive Decimal where
  | finite (negative : Bool) (digits : Nat) (exponent : Int)
  | infinite (negative : Bool)
  | nan (text : String)
  deriving DecidableEq, Repr

/-- Why an operation on decimals has no result. -/
inductive DecimalFault where
  | undefined
  | tooLarge
  deriving DecidableEq, Repr

namespace Decimal

/-- Digits that the result of an operation has at most. -/
def precision : Nat := 28

/-- Greatest power of ten of a first digit. -/
def greatestPower : Int := 999999

/-- Least power of ten of a last digit. -/
def leastPower : Int := -1000026

/-- Decimal of its written form. -/
def read (text : String) : Decimal :=
  match RealLiteral.read text.toList with
  | some (.finite negative digits exponent) => finite negative digits exponent
  | some (.infinite negative) => infinite negative
  | _ => nan text

/-- Decimal of an integer. -/
def ofInt (n : Int) : Decimal := finite (n < 0) n.natAbs 0

/-- Whether every use of what is not a number is refused. -/
def isSignaling : Decimal → Bool
  | nan text => text.toList.any (· == 's')
  | _ => false

private def signText (negative : Bool) : String := if negative then "-" else ""

/-- Digits with the point behind a number of them, which may be negative. -/
private def pointed (digits : List Char) (point : Int) : List Char :=
  if point ≤ 0 then '0' :: '.' :: List.replicate (-point).toNat '0' ++ digits
  else if digits.length ≤ point then digits
  else digits.take point.toNat ++ '.' :: digits.drop point.toNat

/-- Written form of a decimal. -/
def text : Decimal → String
  | nan text => text
  | infinite negative => signText negative ++ "Infinity"
  | finite negative n exponent =>
    let digits := decimalDigits n
    let point := digits.length + exponent
    signText negative ++ String.ofList (
      if exponent ≤ 0 ∧ -6 < point then pointed digits point
      else
        let power := point - 1
        pointed digits 1 ++ 'E' :: (if power < 0 then '-' else '+') ::
          decimalDigits power.natAbs)

/-- The number that a decimal stands for. -/
def quantity : Decimal → Quantity
  | nan _ => .nan
  | infinite negative => .infinite negative
  | finite negative digits exponent => .ofLiteral (.finite negative digits exponent)

private def count (n : Nat) : Int := (decimalDigits n).length

/-- A decimal without the lowest digits that exceed the precision or the least power. -/
def round (negative : Bool) (n : Nat) (exponent : Int) : Except DecimalFault Decimal :=
  let excess := max (count n - precision) (leastPower - exponent)
  if n = 0 then .ok (finite negative 0 (max leastPower (min exponent greatestPower)))
  else
    -- Whatever is less than a tenth of the last place that is kept is nothing.
    let (m, exponent) :=
      if excess ≤ 0 then (n, exponent)
      else if count n + 1 < excess then (0, exponent + excess)
      else (roundHalfEven n (pow10 excess.toNat), exponent + excess)
    -- Rounding up to the next power of ten adds a digit.
    let (m, exponent) := if m = pow10 precision then (m / 10, exponent + 1) else (m, exponent)
    if greatestPower < count m + exponent - 1 then .error .tooLarge
    else .ok (finite negative m exponent)

/-- A number far below another one, as small as it need be for the same rounded sum: `±1` two places
below the last digit that counts. -/
private def raised (n : Nat) (exponent : Int) (small : Nat) (low : Int) : Nat × Int :=
  let floor := exponent + min (-1) (count n - precision - 2)
  if count small + low - 1 < floor then (1, floor) else (small, low)

/-- Sum of two finite decimals that are not zero, the first with the higher exponent. -/
private def addAligned (p : Bool) (m : Nat) (e : Int) (q : Bool) (n : Nat) (f : Int) :
    Except DecimalFault Decimal :=
  let (n, f) := raised m e n f
  let total := signed p (m * pow10 (e - f).toNat) + signed q n
  round (total < 0) total.natAbs f

/-- A decimal with zeros added down to a lower exponent, no more than rounding takes away again. -/
private def lowered (p : Bool) (m : Nat) (e low : Int) : Except DecimalFault Decimal :=
  let exponent := max (min e low) (e - precision - 1)
  round p (m * pow10 (e - exponent).toNat) exponent

/-- Sum of two decimals. -/
def add (a b : Decimal) : Except DecimalFault Decimal :=
  if a.isSignaling || b.isSignaling then .error .undefined
  else
    match a, b with
    | nan _, _ => .ok a
    | _, nan _ => .ok b
    | infinite p, infinite q => if p = q then .ok a else .error .undefined
    | infinite _, _ => .ok a
    | _, infinite _ => .ok b
    | finite p m e, finite q n f =>
      if m = 0 ∧ n = 0 then round (p && q) 0 (min e f)
      else if m = 0 then lowered q n f e
      else if n = 0 then lowered p m e f
      else if e < f then addAligned q n f p m e
      else addAligned p m e q n f

/-- Product of two decimals. -/
def mul (a b : Decimal) : Except DecimalFault Decimal :=
  if a.isSignaling || b.isSignaling then .error .undefined
  else
    match a, b with
    | nan _, _ => .ok a
    | _, nan _ => .ok b
    | infinite p, infinite q => .ok (infinite (p != q))
    | infinite p, finite q n _ | finite q n _, infinite p =>
      if n = 0 then .error .undefined else .ok (infinite (p != q))
    | finite p m e, finite q n f => round (p != q) (m * n) (e + f)

example : (read "1.50").text = "1.50" := by decide +kernel
example : (mul (read "1.5") (read "1.10")).toOption.map text = some "1.650" := by decide +kernel
example : (add (read "9999999999999999999999999999") (ofInt 1)).toOption.map text =
    some "1.000000000000000000000000000E+28" := by decide +kernel

end Decimal

end SearchClient.Numeric
