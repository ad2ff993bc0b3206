import SearchClient.Failure
import SearchClient.Text.Quoted

/-!
# JSON

A value as JSON text. The text is ASCII and stands on one line: every other character is escaped.
Collections without an order, bytes, dates, decimals and marks are shown by their text; keys of a
mapping are texts, and numbers and truth values as keys are written out. `Json.ofValue?` chooses
the form of a value, `Json.render` writes it.
-/

namespace SearchClient

/-- A JSON value; members of an object stand in order. -/
inductive Json where
  | null
  | bool (b : Bool)
  | int (n : Int)
  | real (x : Float)
  | text (s : String)
  | array (items : List Json)
  | object (members : List (String × Json))

namespace Json

/-- The escape of a number below `2 ^ 16`. -/
def unitEscape (n : Nat) : List Char := '\\' :: 'u' :: Text.hexDigits 4 n

/-- The escape of a character by its code; beyond `2 ^ 16` it takes two units. -/
def codeEscape (n : Nat) : List Char :=
  if n < 0x10000 then unitEscape n
  else
    -- Each unit of the pair carries ten bits.
    let rest := n - 0x10000
    unitEscape (0xd800 + rest / 0x400) ++ unitEscape (0xdc00 + rest % 0x400)

/-- One character inside quotes. -/
def escapeChar (c : Char) : List Char :=
  if c = '"' || c = '\\' then ['\\', c]
  else if c = '\n' then ['\\', 'n']
  else if c = '\r' then ['\\', 'r']
  else if c = '\t' then ['\\', 't']
  else if c = '\x08' then ['\\', 'b']
  else if c = '\x0c' then ['\\', 'f']
  else if ' ' ≤ c && c ≤ '~' then [c]
  else codeEscape c.toNat

/-- A text inside quotes. -/
def quoted (s : String) : List Char := '"' :: s.toList.flatMap escapeChar ++ ['"']

/-- A real number; what is not finite has a name. -/
def realText (x : Float) : String :=
  match Numeric.FloatView.ofFloat x with
  | .nan => "NaN"
  | .infinite negative => if negative then "-Infinity" else "Infinity"
  | .finite _ _ _ => Numeric.floatText x

/-- Parts with a comma and a blank between them. -/
def joined : List (List Char) → List Char
  | [] => []
  | [part] => part
  | part :: rest => part ++ ',' :: ' ' :: joined rest

mutual

/-- Text of a JSON value. -/
def render : Json → List Char
  | null => "null".toList
  | bool b => (if b then "true" else "false").toList
  | int n => (toString n).toList
  | real x => (realText x).toList
  | text s => quoted s
  | array items => '[' :: joined (renderItems items) ++ [']']
  | object members => '\x7b' :: joined (renderMembers members) ++ ['\x7d']

def renderItems : List Json → List (List Char)
  | [] => []
  | item :: rest => render item :: renderItems rest

def renderMembers : List (String × Json) → List (List Char)
  | [] => []
  | (key, value) :: rest => (quoted key ++ ':' :: ' ' :: render value) :: renderMembers rest

end

/-- Key of an object for a key of a mapping. -/
def key? (v : Value) : Except Failure String :=
  match v with
  | .null => .ok "null"
  | .bool b => .ok (if b then "true" else "false")
  | .int n => .ok (toString n)
  | .float x => .ok (realText x)
  | v =>
    match v.asText? with
    | some s => .ok s
    | none =>
      .error (.wrongKind "a key is a text, a number, a truth value or nothing")

mutual

/-- JSON form of a value; there is none if a mapping in it has a key of the wrong kind. -/
def ofValue? : Value → Except Failure Json
  | .null => .ok null
  | .bool b => .ok (bool b)
  | .int n => .ok (int n)
  | .float x => .ok (real x)
  | .str s => .ok (text s)
  | .list items | .tuple items => (ofValues? items).map array
  | .mapping entries => (ofEntries? entries).map object
  | v => .ok (text (v.asText?.getD v.text))

def ofValues? : List Value → Except Failure (List Json)
  | [] => .ok []
  | v :: rest => do return (← ofValue? v) :: (← ofValues? rest)

def ofEntries? : List (Value × Value) → Except Failure (List (String × Json))
  | [] => .ok []
  | (k, v) :: rest => do
    let key ← key? k
    return (key, ← ofValue? v) :: (← ofEntries? rest)

end

/-- JSON object for a row. -/
def ofRow? : Row → Except Failure (List (String × Json))
  | [] => .ok []
  | (name, v) :: rest => do return (name, ← ofValue? v) :: (← ofRow? rest)

end Json

end SearchClient
