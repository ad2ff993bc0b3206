import SearchClient.Keyword

/-!
# Values

The values that cross the client's boundary: arguments of conditions and options, the columns of
result rows, fields of log records. They come from callers and from the engine, so their kind is
only known when they are used.
-/

namespace SearchClient

/-- A value of any kind. -/
inductive Value where
  | null
  | bool (b : Bool)
  | int (n : Int)
  | float (x : Float)
  | str (s : String)
  | bytes (bs : List UInt8)
  | list (items : List Value)
  | tuple (items : List Value)
  /-- A set without order; `frozen` marks one that cannot change. -/
  | set (frozen : Bool) (items : List Value)
  /-- Entries in the order in which their keys were first written. -/
  | mapping (entries : List (Value × Value))
  /-- An exact decimal, kept as it is written. -/
  | decimal (text : String)
  | date (year month day : Nat)
  | datetime (year month day hour minute second microsecond : Nat)
  | keyword (k : Keyword)
  /-- The mark of an argument that was not given. -/
  | unset
  /-- A failure that is kept as a value: the name of its class, its text, and how a list shows
  it. -/
  | failure (kind text shown : String)
  deriving Inhabited

instance : Coe String Value := ⟨Value.str⟩

/-- Named values in order, as in a result row. -/
abbrev Row := List (String × Value)

/-- Value of a name in a row. -/
def Row.get? (row : Row) (name : String) : Option Value :=
  (row.find? (·.1 == name)).map (·.2)

/-- Writes a name: in place if it is present, at the end otherwise. -/
def Row.put : Row → String → Value → Row
  | [], name, value => [(name, value)]
  | (n, v) :: rest, name, value =>
    if n == name then (n, value) :: rest else (n, v) :: Row.put rest name value

/-- Writes several names from left to right. -/
def Row.putAll (row : Row) (entries : List (String × Value)) : Row :=
  entries.foldl (fun acc e => Row.put acc e.1 e.2) row

/-- Row of entries written from left to right. -/
def Row.ofEntries (entries : List (String × Value)) : Row := Row.putAll [] entries

/-- Row without a name. -/
def Row.erase (row : Row) (name : String) : Row := row.filter (·.1 != name)

theorem Row.putAll_append (row : Row) (first second : List (String × Value)) :
    Row.putAll row (first ++ second) = Row.putAll (Row.putAll row first) second := by
  simp [Row.putAll, List.foldl_append]

theorem Row.get?_put_self (row : Row) (name : String) (value : Value) :
    Row.get? (Row.put row name value) name = some value := by
  induction row with
  | nil => simp [Row.put, Row.get?]
  | cons e rest ih =>
    obtain ⟨n, v⟩ := e
    by_cases same : n = name
    · simp [Row.put, Row.get?, same]
    · simpa [Row.put, Row.get?, same] using ih

theorem Row.get?_put_of_ne (row : Row) {name other : String} (value : Value)
    (different : other ≠ name) :
    Row.get? (Row.put row name value) other = Row.get? row other := by
  induction row with
  | nil => simp [Row.put, Row.get?, Ne.symm different]
  | cons e rest ih =>
    obtain ⟨n, v⟩ := e
    by_cases same : n = name
    · simp [Row.put, Row.get?, same, Ne.symm different]
    · by_cases here : n = other
      · simp [Row.put, Row.get?, here, different]
      · simpa [Row.put, Row.get?, same, here] using ih

namespace Value

/-- Whether a value is the absence of one. -/
def isNull : Value → Bool
  | null => true
  | _ => false

/-- Whether a value stands for a list of values in a condition. -/
def isSequence : Value → Bool
  | list _ | tuple _ | set _ _ => true
  | _ => false

/-- Whether a value is a set. -/
def isSet : Value → Bool
  | set _ _ => true
  | _ => false

/-- Members of a value that stands for a list of values. -/
def members : Value → List Value
  | list items | tuple items | set _ items => items
  | _ => []

/-- The text of a value that may be used as one. -/
def asText? : Value → Option String
  | str s => some s
  | keyword k => if k.isText then some k.text else none
  | _ => none

private def characters (s : String) : List Value := s.toList.map fun c => str (String.singleton c)

/-- What a walk over the value visits, if it can be walked over: members, keys, characters or
byte values. -/
def walk? : Value → Option (List Value)
  | list items | tuple items | set _ items => some items
  | mapping entries => some (entries.map (·.1))
  | bytes bs => some (bs.map fun b => int b.toNat)
  | str s => some (characters s)
  | keyword k => if k.isText then some (characters k.text) else none
  | _ => none

/-- Number of parts of a value that has a length. -/
def length? (v : Value) : Option Nat := v.walk?.map List.length

/-- Name of a value's kind, as messages show it. -/
def kindName : Value → String
  | null => "NoneType"
  | bool _ => "bool"
  | int _ => "int"
  | float _ => "float"
  | str _ => "str"
  | bytes _ => "bytes"
  | list _ => "list"
  | tuple _ => "tuple"
  | set frozen _ => if frozen then "frozenset" else "set"
  | mapping _ => "dict"
  | decimal _ => "Decimal"
  | date _ _ _ => "date"
  | datetime _ _ _ _ _ _ _ => "datetime"
  | keyword k => k.family
  | unset => "_Unset"
  | failure kind _ _ => kind

end Value

end SearchClient
