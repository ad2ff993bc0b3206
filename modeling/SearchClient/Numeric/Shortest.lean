import SearchClient.Numeric.FloatView

/-!
# Shortest decimal

The decimal with the fewest digits that still reads back as a given float, and of those the
nearest to it. A decimal reads back when it lies between the midpoints to the two neighbouring
floats; the midpoints themselves belong to the float with the even mantissa.

Fewer digits mean a coarser grid of multiples of a power of ten, so the search goes from coarse
grids to fine ones and stops at the first that has a point between the midpoints.
-/

namespace SearchClient.Numeric

/-- The reals that read back as one float, in units of `2 ^ exponent`. -/
structure ReadingInterval where
  lower : Nat
  value : Nat
  upper : Nat
  closed : Bool
  exponent : Int

/-- Interval of `mantissa · 2 ^ exponent`. Below a power of two the next float is half as far. -/
def ReadingInterval.around (mantissa : Nat) (exponent : Int) : ReadingInterval where
  lower := if mantissa = pow2 52 ∧ exponent ≠ -1074 then 4 * mantissa - 1 else 4 * mantissa - 2
  value := 4 * mantissa
  upper := 4 * mantissa + 2
  closed := mantissa % 2 = 0
  exponent := exponent - 2

/-- Whether `n · 10 ^ grid` lies in the interval. -/
def ReadingInterval.holds (i : ReadingInterval) (grid : Int) (n : Nat) : Bool :=
  let scale := pow2 i.exponent.toNat * pow10 (-grid).toNat
  let point := n * (pow2 (-i.exponent).toNat * pow10 grid.toNat)
  if i.closed then i.lower * scale ≤ point && point ≤ i.upper * scale
  else i.lower * scale < point && point < i.upper * scale

/-- The multiple of `10 ^ grid` nearest to the value that lies in the interval, if one does. -/
def ReadingInterval.nearest? (i : ReadingInterval) (grid : Int) : Option Nat :=
  let num := i.value * (pow2 i.exponent.toNat * pow10 (-grid).toNat)
  let den := pow2 (-i.exponent).toNat * pow10 grid.toNat
  let below := num / den
  let best := roundHalfEven num den
  let other := if best = below then below + 1 else below
  [best, other].find? fun n => n ≠ 0 && i.holds grid n

/-- First grid, from `grid` on toward finer ones, with a point in the interval. -/
def ReadingInterval.search (i : ReadingInterval) : Nat → Int → Nat × Int
  | 0, grid => (0, grid)
  | fuel + 1, grid =>
    match i.nearest? grid with
    | some n => (n, grid)
    | none => i.search fuel (grid - 1)

/-- Digits and power of ten of the shortest decimal for `mantissa · 2 ^ exponent`, which is not
zero. The search starts above the value's own power of ten and needs at most seventeen digits. -/
def shortestDecimal (mantissa : Nat) (exponent : Int) : Nat × Int :=
  let i := ReadingInterval.around mantissa exponent
  -- 0.30103 is the number of decimal digits in a bit, so this grid is coarser than the value.
  let start := Int.fdiv ((Nat.log2 i.upper + i.exponent + 1) * 30103) 100000 + 1
  i.search 24 start

end SearchClient.Numeric
