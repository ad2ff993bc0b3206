import SearchClient.Record.Lenient
import SearchClient.Value.Number

/-!
# Fields of records

Reading a value as the content of a typed field. Fields are lenient: a number may be given as
text, a truth value as a word, a list of names as any list of values. What does not fit is
reported as a fault, with the path to it; a record collects the faults of all its fields.
-/

namespace SearchClient

/-- The outcome of checking part of a record: its content, or everything that is wrong with it. -/
structure Checked (α : Type) where
  result : Except (List Issue) α

namespace Checked

variable {α β : Type}

/-- Nothing is wrong. -/
def accept (a : α) : Checked α := ⟨.ok a⟩

/-- One fault, at the value itself. -/
def reject (fault : Fault) : Checked α := ⟨.error [⟨[], fault⟩]⟩

/-- Changes the content. -/
def map (f : α → β) (c : Checked α) : Checked β := ⟨c.result.map f⟩

/-- Both parts, with the faults of both. -/
def and (c : Checked α) (d : Checked β) : Checked (α × β) :=
  match c.result, d.result with
  | .ok a, .ok b => ⟨.ok (a, b)⟩
  | .error e, .ok _ => ⟨.error e⟩
  | .ok _, .error e => ⟨.error e⟩
  | .error e, .error e' => ⟨.error (e ++ e')⟩

/-- A further test of accepted content. -/
def andThen (c : Checked α) (f : α → Checked β) : Checked β :=
  match c.result with
  | .ok a => f a
  | .error e => ⟨.error e⟩

/-- Places the faults below a step. -/
def under (step : Step) (c : Checked α) : Checked α :=
  ⟨c.result.mapError fun issues => issues.map fun i => { i with path := step :: i.path }⟩

/-- First of two readings that succeeds; if neither does, the faults of both. -/
def either (c d : Checked α) : Checked α :=
  match c.result, d.result with
  | .ok a, _ => ⟨.ok a⟩
  | _, .ok a => ⟨.ok a⟩
  | .error e, .error e' => ⟨.error (e ++ e')⟩

/-- Reads the members of a list, each with its place, collecting all faults. -/
def each (read : α → Checked β) : Nat → List α → Checked (List β)
  | _, [] => accept []
  | n, x :: rest =>
    ((read x).under (.index n)).and (each read (n + 1) rest) |>.map fun p => p.1 :: p.2

theorem and_result_ok {c : Checked α} {d : Checked β} {p : α × β} :
    (c.and d).result = .ok p ↔ c.result = .ok p.1 ∧ d.result = .ok p.2 := by
  obtain ⟨a, b⟩ := p
  unfold and
  split <;> simp_all

end Checked

namespace Field

/-- Bytes as the text they encode. -/
def decodeUtf8? (bs : List UInt8) : Option String := String.fromUTF8? ⟨bs.toArray⟩

/-- A text, bytes that encode one, or a member of a closed set, which is read as its text. -/
def text (v : Value) : Checked String :=
  match v with
  | .str s => .accept s
  | .bytes bs => (decodeUtf8? bs).elim (.reject .notUnicode) .accept
  | .keyword k => .accept k.text
  | _ => .reject .notText

/-- A text of at least one character. -/
def nonEmptyText (v : Value) : Checked String :=
  (text v).andThen fun s => if s.isEmpty then .reject (.tooShort 1) else .accept s

/-- Text content of a value that is one or encodes one. -/
private def textual? : Value → Option (Option String)
  | .bytes bs => some (decodeUtf8? bs)
  | v => v.asText?.map some

/-- Bound of the floats that are read as integers. -/
def wordLimit : Int := Numeric.pow2 63

private def intOfFloat (x : Float) : Checked Int :=
  match Numeric.FloatView.ofFloat x with
  | .finite negative mantissa exponent =>
    let n := Numeric.truncateBinary negative mantissa exponent
    if !Numeric.isWhole mantissa exponent then .reject .fractional
    else if -wordLimit < n ∧ n < wordLimit then .accept n
    else .reject .intSize
  | _ => .reject .notFinite

private def intOfQuantity : Option Numeric.Quantity → Checked Int
  | some (.ratio num den) =>
    if num % den == 0 then .accept (num / den) else .reject .fractional
  | _ => .reject .notFinite

/-- An integer, a whole number, or the text of one. -/
def int (v : Value) : Checked Int :=
  match textual? v with
  | some none => .reject .intText
  | some (some s) =>
    match readInt s.toList with
    | .ok n => .accept n
    | .error fault => .reject fault
  | none =>
    match v with
    | .bool b => .accept b.toInt
    | .int n => .accept n
    | .float x => intOfFloat x
    | .decimal _ => intOfQuantity v.quantity?
    | _ => .reject .notInt

/-- A number or the text of one. -/
def float (v : Value) : Checked Float :=
  match textual? v with
  | some content =>
    match content.bind fun s => readFloat s.toList with
    | some x => .accept x
    | none => .reject .floatText
  | none =>
    match v with
    | .bool b => .accept (if b then 1 else 0)
    | .int n =>
      let x := Numeric.floatOfDecimal n.natAbs 0
      if x.isInf then .reject .notFloat else .accept (if n < 0 then -x else x)
    | .float x => .accept x
    | .decimal _ =>
      match v.toFloat with
      | .ok x => .accept x
      | .error _ => .reject .notFloat
    | _ => .reject .notFloat

private def boolOfInt (n : Int) : Checked Bool :=
  if n == 0 then .accept false else if n == 1 then .accept true else .reject .boolText

/-- A truth value, zero or one, or a word for one. -/
def bool (v : Value) : Checked Bool :=
  match textual? v with
  | some content =>
    match content.bind wordOfBool with
    | some b => .accept b
    | none => .reject .boolText
  | none =>
    match v with
    | .bool b => .accept b
    | .int n => if -wordLimit ≤ n ∧ n < wordLimit then boolOfInt n else .reject .notBool
    | .float _ | .decimal _ =>
      match (float v).result.map fun x => (intOfFloat x).result with
      | .ok (.ok n) => boolOfInt n
      | _ => .reject .notBool
    | _ => .reject .notBool

/-- A member of a closed set or the text of one. -/
def member {α : Type} (ofText? : String → Option α) (allowed : List String) (v : Value) :
    Checked α :=
  match (textual? v).join.bind ofText? with
  | some a => .accept a
  | none => .reject (.notMember allowed)

def operator : Value → Checked Operator := member Operator.ofText? (Operator.all.map (·.text))

def direction : Value → Checked Direction := member Direction.ofText? (Direction.all.map (·.text))

def combinator : Value → Checked Combinator :=
  member Combinator.ofText? (Combinator.all.map (·.text))

def metadataState : Value → Checked MetadataState :=
  member MetadataState.ofText? (MetadataState.all.map (·.text))

/-- Several texts, given as any list of values. -/
def texts (v : Value) : Checked (List String) :=
  if v.isSequence then Checked.each text 0 v.members else .reject .notTuple

/-- Reads the entries of a mapping whose keys are texts. -/
private def readEntries : List (Value × Value) → Checked Row
  | [] => .accept []
  | (key, value) :: rest =>
    let name := (text key).under (.field "[key]") |>.under (.entry key)
    (name.and (readEntries rest)).map fun p => (p.1, value) :: p.2

/-- A mapping from texts to any values. -/
def mapping (v : Value) : Checked Row :=
  match v with
  | .mapping entries => (readEntries entries).map Row.ofEntries
  | _ => .reject .notMapping

/-- A list of mappings. -/
def rows (v : Value) : Checked (List Row) :=
  if v.isSequence then Checked.each mapping 0 v.members else .reject .notList

/-- A lower bound for a number. -/
def atLeast {α : Type} (quantity : α → Numeric.Quantity) (least : Int) (c : Checked α) :
    Checked α :=
  c.andThen fun a =>
    if (Numeric.Quantity.ofInt least).atMost (quantity a) then .accept a
    else .reject (.belowMinimum least)

/-- An upper bound for a number. -/
def atMost {α : Type} (quantity : α → Numeric.Quantity) (greatest : Int) (c : Checked α) :
    Checked α :=
  c.andThen fun a =>
    if (quantity a).atMost (Numeric.Quantity.ofInt greatest) then .accept a
    else .reject (.aboveMaximum greatest)

/-- A field that must be given. -/
def required {α : Type} (given : Row) (name : String) (read : Value → Checked α) : Checked α :=
  match given.get? name with
  | some v => (read v).under (.field name)
  | none => (Checked.reject .missing).under (.field name)

/-- A field with a default. -/
def optional {α : Type} (given : Row) (name : String) (read : Value → Checked α) (fallback : α) :
    Checked α :=
  match given.get? name with
  | some v => (read v).under (.field name)
  | none => .accept fallback

end Field

end SearchClient
