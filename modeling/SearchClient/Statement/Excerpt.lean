import SearchClient.Value.Numeral

/-!
# Excerpts of statements

Long statements are cut where they are reported: in the details of an error, and in log lines.
-/

namespace SearchClient.Excerpt

/-- Characters of a statement that the details of an error keep. -/
def detailLength : Int := 500

/-- Characters of a statement that a log line may hold. -/
def lineLength : Nat := 4096

/-- Leading part of a list up to a position; a negative position counts from the end. -/
def upTo {α : Type} (limit : Int) (xs : List α) : List α :=
  if limit < 0 then xs.take (xs.length - limit.natAbs) else xs.take limit.toNat

/-- Whether a number of parts is within a limit, which may be any number. -/
def fits (length : Nat) (limit : Value) : Except Failure Bool := do
  (Numeral.whole length).atMost (← Numeral.ofValue limit)

/-- The part of a value up to a position. Only what has an order can be cut, and only at an
integer. -/
def cut (limit statement : Value) : Except Failure Value :=
  match (Numeral.ofValue? limit).bind Numeral.toInt? with
  | none => .error (.wrongKind "a value is cut at an integer")
  | some n =>
    match statement with
    | .bytes bs => .ok (.bytes (upTo n bs))
    | .list xs => .ok (.list (upTo n xs))
    | .tuple xs => .ok (.tuple (upTo n xs))
    | _ =>
      match statement.asText? with
      | some s => .ok (.str (String.ofList (upTo n s.toList)))
      | none => .error (.wrongKind "a value without an order cannot be cut")

/-- A statement, whole if it is short enough, else cut and written with an ellipsis. What has no
length is of the wrong kind. -/
def shortened (limit statement : Value) : Except Failure Value :=
  match statement.length? with
  | none => .error (.wrongKind "only a value with a length can be cut")
  | some length =>
    match fits length limit with
    | .error f => .error f
    | .ok true => .ok statement
    | .ok false => do return .str ((← (← cut limit statement).written) ++ "...")

/-- A statement as a log line shows it: a long text ends in an ellipsis, the limit included. -/
def line (statement : Value) : Value :=
  match statement.asText? with
  | some s =>
    if lineLength < s.length then .str (String.ofList (s.toList.take (lineLength - 3)) ++ "...")
    else statement
  | none => statement

end SearchClient.Excerpt
