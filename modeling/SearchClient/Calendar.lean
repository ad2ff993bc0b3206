import SearchClient.Value.Number

/-!
# Calendar

The date and time of a number of seconds since the start of 1970, in the calendar that repeats
every 400 years, and its text. Fractions of a second are rounded to whole microseconds, a half to
the even neighbour; a moment without a fraction shows none.
-/

namespace SearchClient.Calendar

/-- Days of 400 years. -/
def cycleDays : Int := 146097

/-- Day of a year that starts in March, as month and day of the usual year. -/
def monthDay (dayOfYear : Nat) : Nat × Nat :=
  let month := (5 * dayOfYear + 2) / 153
  (if month < 10 then month + 3 else month - 9, dayOfYear - (153 * month + 2) / 5 + 1)

/-- Year of a cycle, and day of that year, for a day of the cycle; years start in March. -/
def yearOfCycle (day : Nat) : Nat × Nat :=
  -- Leap days are taken out first, so that all years are as long.
  let year := (day - day / 1460 + day / 36524 - day / 146096) / 365
  (year, day - (365 * year + year / 4 - year / 100))

/-- Year, month and day of a number of days since the start of 1970. -/
def civil (days : Int) : Int × Nat × Nat :=
  let sinceMarch := days + 719468
  let cycle := Int.fdiv sinceMarch cycleDays
  let (year, day) := yearOfCycle (Int.fmod sinceMarch cycleDays).toNat
  let (month, day) := monthDay day
  (cycle * 400 + year + (if month ≤ 2 then 1 else 0), month, day)

/-- Microseconds in a second. -/
def million : Nat := 1000000

/-- Seconds that a clock can hold. -/
def clockLimit : Int := Numeric.pow2 63

/-- Years that a clock can hold. -/
def yearLimit : Int := Numeric.pow2 31

private def outOfClock : Failure :=
  .raised .overflow "timestamp out of range for platform time_t" none

/-- Nearest whole number to a finite float; zero for any other. -/
def nearestInt (x : Float) : Int :=
  match Numeric.FloatView.ofFloat x with
  | .finite negative mantissa exponent =>
    let (num, den) := Numeric.binaryRatio mantissa exponent
    Numeric.signed negative (Numeric.roundHalfEven num den)
  | _ => 0

/-- Microseconds in a number of seconds. -/
def microseconds (seconds : Value) : Except Failure Int :=
  match seconds with
  | .bool b => .ok (b.toInt * million)
  | .int n =>
    if -clockLimit ≤ n ∧ n < clockLimit then .ok (n * million) else .error outOfClock
  | .float x =>
    match Numeric.FloatView.ofFloat x with
    | .nan => .error (.badValue "Invalid value NaN (not a number)")
    | .infinite _ => .error outOfClock
    | .finite negative mantissa exponent =>
      let whole := Numeric.truncateBinary negative mantissa exponent
      -- The fraction is rounded by itself, as the whole seconds need all digits of a float.
      if -clockLimit ≤ whole ∧ whole < clockLimit then
        .ok (whole * million + nearestInt ((x - Float.ofInt whole) * million.toFloat))
      else .error outOfClock
  | _ => .error (.wrongKind "a moment is a number of seconds")

/-- Text of the moment a number of microseconds after the start of 1970. Years have four digits. -/
def momentText (micros : Int) : Except Failure String :=
  let seconds := Int.fdiv micros million
  let fraction := (Int.fmod micros million).toNat
  let second := (Int.fmod seconds 86400).toNat
  let (year, month, day) := civil (Int.fdiv seconds 86400)
  if 1 ≤ year ∧ year ≤ 9999 then
    .ok (dateText year.toNat month day ++ "T" ++
      timeText (second / 3600) (second / 60 % 60) (second % 60) fraction ++ "+00:00")
  else if year < yearLimit ∧ -yearLimit ≤ year then
    .error (.badValue ("year " ++ toString year ++ " is out of range"))
  else .error (.raised .os "[Errno 75] Value too large for defined data type" none)

/-- Text of the moment a number of seconds after the start of 1970. -/
def stamp (seconds : Value) : Except Failure String := microseconds seconds >>= momentText

example : civil 0 = (1970, 1, 1) := by decide
example : civil 11016 = (2000, 2, 29) := by decide
example : civil (-1) = (1969, 12, 31) := by decide

end SearchClient.Calendar
