import SearchClient.Numeric.DecimalText
import SearchClient.Text.Quoted
import SearchClient.Value.Basic

/-!
# Text of a value

`Value.text` is how a value stands in a statement or a message. `Value.literal` is how it stands
inside the text of a list or another collection: texts are quoted, so that the members stay
apart.
-/

namespace SearchClient

/-- A number in decimal, filled with zeros to a width. -/
def paddedDigits (width n : Nat) : String :=
  let digits := Numeric.decimalDigits n
  String.ofList (List.replicate (width - digits.length) '0' ++ digits)

/-- Calendar date as year, month and day. -/
def dateText (year month day : Nat) : String :=
  paddedDigits 4 year ++ "-" ++ paddedDigits 2 month ++ "-" ++ paddedDigits 2 day

/-- Time of day to the second; microseconds follow when there are any. -/
def timeText (hour minute second microsecond : Nat) : String :=
  paddedDigits 2 hour ++ ":" ++ paddedDigits 2 minute ++ ":" ++ paddedDigits 2 second ++
    if microsecond = 0 then "" else "." ++ paddedDigits 6 microsecond

namespace Value

/-- Members between brackets, with the comma that marks a tuple of one. -/
private def bracketed (opening closing : String) (parts : List String) : String :=
  opening ++ ", ".intercalate parts ++ closing

private def tupleText : List String → String
  | [part] => "(" ++ part ++ ",)"
  | parts => bracketed "(" ")" parts

private def setText (frozen : Bool) (parts : List String) : String :=
  let body := if parts.isEmpty then "" else bracketed "\x7b" "\x7d" parts
  if frozen then "frozenset(" ++ body ++ ")"
  else if parts.isEmpty then "set()" else body

private def dropTrailingZeros (parts : List Nat) : List Nat :=
  (parts.reverse.dropWhile (· == 0)).reverse

/-- Date and time with its leading parts; seconds and microseconds only when not zero. -/
private def momentText (year month day hour minute second microsecond : Nat) : String :=
  let parts := [year, month, day, hour, minute] ++ dropTrailingZeros [second, microsecond]
  bracketed "datetime.datetime(" ")" (parts.map toString)

mutual

/-- A value as a member of a collection's text. -/
def literal : Value → String
  | null => "None"
  | bool b => if b then "True" else "False"
  | int n => toString n
  | float x => Numeric.floatText x
  | str s => Text.quoted s
  | bytes bs => Text.quotedBytes bs
  | list items => bracketed "[" "]" (literals items)
  | tuple items => tupleText (literals items)
  | set frozen items => setText frozen (literals items)
  | mapping entries => bracketed "\x7b" "\x7d" (entryLiterals entries)
  | decimal text => "Decimal(" ++ Text.quoted text ++ ")"
  | date year month day =>
    bracketed "datetime.date(" ")" ([year, month, day].map toString)
  | datetime year month day hour minute second microsecond =>
    momentText year month day hour minute second microsecond
  | keyword k => "<" ++ k.path ++ ": " ++ Text.quoted k.text ++ ">"
  | unset => "UNSET"
  | failure _ _ shown => shown

/-- Members of a collection, each as a literal. -/
def literals : List Value → List String
  | [] => []
  | v :: rest => literal v :: literals rest

/-- Entries of a mapping, each as a key and a value. -/
def entryLiterals : List (Value × Value) → List String
  | [] => []
  | (key, value) :: rest => (literal key ++ ": " ++ literal value) :: entryLiterals rest

end

/-- A value as it stands by itself. -/
def text : Value → String
  | str s => s
  | decimal s => s
  | date year month day => dateText year month day
  | datetime year month day hour minute second microsecond =>
    dateText year month day ++ " " ++ timeText hour minute second microsecond
  | keyword k => k.path
  | failure _ s _ => s
  | v => literal v

end Value

end SearchClient
