import SearchClient.Record.Field
import SearchClient.Value.Text

/-!
# Plain form of a value

A value reduced to nothing, truth values, numbers, texts, lists and mappings whose keys are texts:
members of closed sets become their texts, collections become lists, dates and decimals are written
out, bytes are decoded, and a float that is no finite number is dropped. Marks and failures have no
plain form, and neither have bytes that encode no text.
-/

namespace SearchClient.Value

/-- Date and time in one text, with a `T` between them. -/
def isoMoment (year month day hour minute second microsecond : Nat) : String :=
  dateText year month day ++ "T" ++ timeText hour minute second microsecond

private def isFinite (x : Float) : Bool :=
  match Numeric.FloatView.ofFloat x with
  | .finite _ _ _ => true
  | _ => false

/-- Number of leading bytes that encode a text. -/
def decodable (bs : List UInt8) : Nat :=
  ((List.range (bs.length + 1)).reverse.find? fun n =>
    (Field.decodeUtf8? (bs.take n)).isSome).getD 0

/-- The text that bytes encode; the first byte that belongs to none is reported with its place. -/
def decoded (bs : List UInt8) : Except Failure String :=
  match Field.decodeUtf8? bs with
  | some s => .ok s
  | none =>
    let place := decodable bs
    let byte := (bs[place]?.getD 0).toNat
    .error (.raised .encoding ("'utf-8' codec can't decode byte 0x" ++
      String.ofList (Text.hexDigits 2 byte) ++ " in position " ++ toString place ++
      ": invalid utf-8") none)

/-- How messages show the class of a value that has no plain form. -/
def classText : Value → String
  | unset => "sphinxql.query.query._Unset"
  | v => v.kindName

/-- Refusal of a value that has no plain form. -/
def noPlainForm (v : Value) : Failure :=
  .raised .serialization ("Unable to serialize unknown type: <class '" ++ v.classText ++ "'>") none

mutual

/-- Text of a key of a mapping; the parts of a tuple are joined by commas. -/
def plainKey : Value → Except Failure String
  | null => .ok "None"
  | bool b => .ok (if b then "true" else "false")
  | float x => .ok (if isFinite x then Numeric.floatText x else "None")
  | bytes bs => decoded bs
  | datetime year month day hour minute second microsecond =>
    .ok (isoMoment year month day hour minute second microsecond)
  | keyword k => .ok k.text
  | tuple items => (plainKeys items).map (",".intercalate ·)
  | list _ | set _ _ | mapping _ => .error (.wrongKind "a collection without an order is no key")
  | v@unset | v@(failure _ _ _) => .error v.noPlainForm
  | v => .ok v.text

def plainKeys : List Value → Except Failure (List String)
  | [] => .ok []
  | v :: rest => do return (← plainKey v) :: (← plainKeys rest)

end

mutual

/-- Reduces a value and everything in it. -/
def plain : Value → Except Failure Value
  | float x => .ok (if isFinite x then float x else null)
  | bytes bs => (decoded bs).map str
  | list items | tuple items | set _ items => (plainMembers items).map list
  | mapping entries => (plainEntries entries).map ofEntries
  | decimal text => .ok (str text)
  | date year month day => .ok (str (dateText year month day))
  | datetime year month day hour minute second microsecond =>
    .ok (str (isoMoment year month day hour minute second microsecond))
  | keyword k => .ok (str k.text)
  | v@unset | v@(failure _ _ _) => .error v.noPlainForm
  | v => .ok v

def plainMembers : List Value → Except Failure (List Value)
  | [] => .ok []
  | v :: rest => do return (← plain v) :: (← plainMembers rest)

def plainEntries : List (Value × Value) → Except Failure (List (Value × Value))
  | [] => .ok []
  | (key, value) :: rest => do
    let name ← plainKey key
    return (str name, ← plain value) :: (← plainEntries rest)

end

end SearchClient.Value
