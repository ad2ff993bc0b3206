import SearchClient.Failure
import SearchClient.Numeric.Literal

/-!
# Lenient texts

Numbers and truth values in texts, as the fields of records accept them: in ASCII, with blanks
around them and underscores between digits. An integer may have zeros in front of it and a fraction
of zeros behind it; a truth value is one of a few words.
-/

namespace SearchClient.Field

/-- Removes underscores, unless there is none or one leads, ends or doubles. -/
def dropUnderscores? (cs : List Char) : Option (List Char) :=
  let doubled := (cs.zip (cs.drop 1)).any fun p => p.1 == '_' && p.2 == '_'
  if cs.head? == some '_' || cs.getLast? == some '_' || !cs.contains '_' || doubled then none
  else some (cs.filter (· != '_'))

/-- Removes a plus sign, unless a minus sign follows it. -/
def dropPlus : List Char → List Char
  | '+' :: '-' :: rest => '+' :: '-' :: rest
  | '+' :: rest => rest
  | cs => cs

private def opensInt (c : Char) : Bool := c == '-' || ('1' ≤ c && c ≤ '9')

private def isFill (c : Char) : Bool := c == '0' || c == '_'

/-- Removes zeros and underscores in front of an integer; even its sign may follow them. What
stands directly before a point or at the end stays. -/
def dropLeadingZeros : List Char → Option (List Char)
  | '0' :: rest =>
    let last := (rest.takeWhile isFill).getLast?.getD '0'
    match rest.dropWhile isFill with
    | [] => some [last]
    | c :: more =>
      if c == '.' then some (last :: c :: more)
      else if opensInt c then some (c :: more)
      else none
  | c :: rest => if opensInt c then some (c :: rest) else none
  | [] => none

/-- Removes a fraction of zeros after the first point; any other fraction stays. -/
def dropZeroFraction (cs : List Char) : List Char :=
  let fraction := cs.dropWhile (· != '.')
  if !fraction.isEmpty && 1 < fraction.length && (fraction.drop 1).all (· == '0') then
    cs.takeWhile (· != '.')
  else cs

/-- Characters that an integer may have, its sign included. -/
def maxIntLength : Nat := 4300

/-- A minus sign, if any, and digits without leading zeros. -/
def readPlainInt (cs : List Char) : Except Fault Int :=
  let (negative, rest) := match cs with
    | '-' :: rest => (true, rest)
    | cs => (false, cs)
  let digits := rest.takeWhile Numeric.isAsciiDigit
  if digits.isEmpty || (digits.head? == some '0' && 1 < rest.length) then .error .intText
  -- A number that is too long is refused before what follows it is looked at.
  else if maxIntLength < digits.length + negative.toNat then .error .intSize
  else if digits.length < rest.length then .error .intText
  else
    .ok (Numeric.signed negative (Numeric.ofDigits (digits.map fun c => c.toNat - '0'.toNat)))

/-- The integer of a text. -/
def readInt (cs : List Char) : Except Fault Int :=
  match dropLeadingZeros (dropPlus (Text.trimBy Numeric.isMargin cs)) with
  | none => .error .intText
  | some rest =>
    let whole := dropZeroFraction rest
    readPlainInt ((dropUnderscores? whole).getD whole)

/-- The real number of a text. -/
def readFloat (cs : List Char) : Option Float :=
  let plain := Numeric.RealLiteral.read (Text.trimBy Numeric.isMargin cs)
  let joined := (dropUnderscores? cs).bind Numeric.RealLiteral.read
  (plain <|> joined).map (·.toFloat)

/-- Words for a truth value. -/
def wordOfBool (s : String) : Option Bool :=
  let word := String.ofList (s.toList.map Char.toLower)
  if ["1", "t", "y", "on", "yes", "true"].contains word then some true
  else if ["0", "f", "n", "no", "off", "false"].contains word then some false
  else none

example : (readInt " 0__93_06.0 ".toList).toOption = some 9306 := by decide +kernel
example : (readInt "00-5".toList).toOption = some (-5) := by decide +kernel
example : (readInt "-05".toList).toOption = none := by decide +kernel

end SearchClient.Field
