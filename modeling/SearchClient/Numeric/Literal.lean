import SearchClient.Numeric.FloatView
import SearchClient.Text.Blank
import SearchClient.Text.DecimalDigit

/-!
# Number literals

Reading numbers from text. An integer is a sign and digits of any script, in groups joined by
single underscores. A real literal is a sign and either `inf`, `infinity` or `nan` in any case, or
digits with an optional point and an optional power of ten.
-/

namespace SearchClient.Numeric

/-- Splits off a leading sign; the first component says whether it was a minus. -/
def splitSign : List Char → Bool × List Char
  | '-' :: rest => (true, rest)
  | '+' :: rest => (false, rest)
  | cs => (false, cs)

/-- Digits after the first one: each may follow one underscore. -/
def digitTail : List Char → Option (List Nat)
  | [] => some []
  | '_' :: c :: rest => do return (← Text.digitValue? c) :: (← digitTail rest)
  | c :: rest => do return (← Text.digitValue? c) :: (← digitTail rest)

/-- At least one digit, with single underscores between digits only. -/
def groupedDigits : List Char → Option (List Nat)
  | [] => none
  | c :: rest => do return (← Text.digitValue? c) :: (← digitTail rest)

/-- Whether a character is one of the digits of ASCII. -/
def isAsciiDigit (c : Char) : Bool := '0' ≤ c && c ≤ '9'

/-- Number written by decimal digits, first the highest. -/
def ofDigits (digits : List Nat) : Nat := digits.foldl (fun n d => 10 * n + d) 0

/-- Blanks that may stand around a number: the four separator controls may not. -/
def isMargin (c : Char) : Bool := Text.isBlank c && !(0x1c ≤ c.toNat && c.toNat ≤ 0x1f)

/-- An integer literal: its sign and its digits. -/
structure IntLiteral where
  negative : Bool
  digits : List Nat

/-- Number that an integer literal stands for. -/
def IntLiteral.value (l : IntLiteral) : Int := signed l.negative (ofDigits l.digits)

/-- Reads an integer literal, blanks around it ignored. -/
def IntLiteral.read (cs : List Char) : Option IntLiteral :=
  let (negative, rest) := splitSign (Text.trimBy isMargin cs)
  (groupedDigits rest).map fun digits => { negative, digits }

/-- A real literal: not a number, infinite, or `± mantissa · 10 ^ exponent`. -/
inductive RealLiteral where
  | nan
  | infinite (negative : Bool)
  | finite (negative : Bool) (mantissa : Nat) (exponent : Int)
  deriving DecidableEq, Repr

private def asciiDigits (cs : List Char) : List Nat := cs.map fun c => c.toNat - '0'.toNat

/-- Power of ten after the digits: nothing, or `e` with a signed number. -/
def readExponent : List Char → Option Int
  | [] => some 0
  | c :: rest =>
    if c = 'e' || c = 'E' then
      let (negative, digits) := splitSign rest
      if digits.isEmpty || !digits.all isAsciiDigit then none
      else some (signed negative (ofDigits (asciiDigits digits)))
    else none

/-- Digits with an optional point, then an optional power of ten. -/
def readFinite (negative : Bool) (cs : List Char) : Option RealLiteral :=
  let whole := cs.takeWhile isAsciiDigit
  let rest := cs.dropWhile isAsciiDigit
  let (fraction, rest) := match rest with
    | '.' :: more => (more.takeWhile isAsciiDigit, more.dropWhile isAsciiDigit)
    | _ => ([], rest)
  if whole.isEmpty && fraction.isEmpty then none
  else (readExponent rest).map fun exponent =>
    .finite negative (ofDigits (asciiDigits (whole ++ fraction))) (exponent - fraction.length)

/-- Reads a real literal that fills the text. -/
def RealLiteral.read (cs : List Char) : Option RealLiteral :=
  let (negative, rest) := splitSign cs
  let word := String.ofList (rest.map Char.toLower)
  if word = "inf" || word = "infinity" then some (.infinite negative)
  else if word = "nan" then some .nan
  else readFinite negative rest

/-- Nearest float to `mantissa · 10 ^ exponent`. Far outside the range of floats the answer is
known without computing the power. -/
def floatOfDecimal (mantissa : Nat) (exponent : Int) : Float :=
  let size := (Nat.toDigits 10 mantissa).length + exponent
  if mantissa = 0 || size < -400 then 0
  else if 400 < size then 1 / 0
  else Float.ofScientific mantissa (exponent < 0) exponent.natAbs

/-- Nearest float to a literal. -/
def RealLiteral.toFloat : RealLiteral → Float
  | .nan => 0 / 0
  | .infinite negative => if negative then -1 / 0 else 1 / 0
  | .finite negative mantissa exponent =>
    let x := floatOfDecimal mantissa exponent
    if negative then -x else x

/-- Removes single underscores between digits; refuses any other underscore. -/
def joinGroups : Option Char → List Char → Option (List Char)
  | previous, [] => if previous = some '_' then none else some []
  | previous, c :: rest =>
    if c = '_' then
      if previous.any isAsciiDigit then joinGroups (some c) rest else none
    else if previous = some '_' && !isAsciiDigit c then none
    else (joinGroups (some c) rest).map (c :: ·)

/-- A digit of any script as the same ASCII digit. -/
def asciiDigit (c : Char) : Char :=
  match Text.digitValue? c with
  | some d => Nat.digitChar d
  | none => c

/-- Float literal, with blanks around it, digits of any script and underscores between digits. -/
def readFloat (cs : List Char) : Option Float :=
  (joinGroups none ((Text.trimBy isMargin cs).map asciiDigit)).bind fun plain =>
    (RealLiteral.read plain).map RealLiteral.toFloat

end SearchClient.Numeric
