import SearchClient.Failure
import SearchClient.Value.Equality

/-!
# Mappings from values

A mapping may be given as one, or as a list of pairs. `Value.toEntries` reads either; `Value.isKey`
says what may stand as a key.
-/

namespace SearchClient

namespace Value

/-- Whether a value may be looked up as a key. -/
def isKey : Value → Bool
  | list _ | mapping _ => false
  | set frozen _ => frozen
  | tuple items => keysOnly items
  | _ => true
where
  keysOnly : List Value → Bool
    | [] => true
    | v :: rest => v.isKey && keysOnly rest

/-- Refusal of a key. -/
def noKey : Failure := .wrongKind "a value that may change is no key"

/-- The key and the value of the pair at a place in a list. -/
def toEntry (place : Nat) (v : Value) : Except Failure (Value × Value) :=
  match v.walk? with
  | none => .error (.wrongKind "an entry is a pair")
  | some [key, value] => if key.isKey then .ok (key, value) else .error noKey
  | some parts =>
    .error (.badValue ("dictionary update sequence element #" ++ toString place ++
      " has length " ++ toString parts.length ++ "; 2 is required"))

/-- Pairs from a place on, written from left to right. -/
def putPairs (acc : List (Value × Value)) : Nat → List Value → Except Failure (List (Value × Value))
  | _, [] => .ok acc
  | place, v :: rest => do
    let (key, value) ← v.toEntry place
    putPairs (putEntry acc key value) (place + 1) rest

/-- Entries of a mapping, or of a list of pairs. -/
def toEntries (v : Value) : Except Failure (List (Value × Value)) :=
  match v with
  | mapping entries => .ok entries
  | v =>
    match v.walk? with
    | some items => putPairs [] 0 items
    | none => .error (.wrongKind "a mapping or a list of pairs is needed")

end Value

/-- Cells of a row, under names that may be any keys. -/
abbrev Cells := List (Value × Value)

/-- Cells of a row whose names are texts. -/
def Cells.ofRow (row : Row) : Cells := row.map fun e => (.str e.1, e.2)

/-- Value of a cell. -/
def Cells.read (cells : Cells) (name : Value) : Except Failure Value :=
  if !name.isKey then .error Value.noKey
  else
    match cells.find? fun e => e.1.same name with
    | some e => .ok e.2
    | none => .error (.noKey name)

/-- A cell of a row whose names are texts is found by its name. -/
theorem Cells.read_ofRow (row : Row) (name : String) :
    (Cells.ofRow row).read (.str name) =
      match row.get? name with
      | some v => .ok v
      | none => .error (.noKey (.str name)) := by
  have found : (Cells.ofRow row).find? (fun e => e.1.same (.str name)) =
      (row.find? (·.1 == name)).map fun e => (Value.str e.1, e.2) := by
    simp only [Cells.ofRow, List.find?_map, Function.comp_def, Value.same_str]
  unfold Cells.read Row.get?
  rw [found]
  cases row.find? (·.1 == name) <;> simp [Value.isKey]

end SearchClient
