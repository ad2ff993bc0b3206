import SearchClient.Calendar
import SearchClient.Json
import SearchClient.Log.Entry
import SearchClient.Statement.Excerpt

/-!
# Log lines

A log entry as one line of JSON: when, how severe, from where and what, then the extra fields in
order, then the failure. The first four cannot be changed by a field of the same name. The
identifiers of the running trace and span have short names in the line and win over fields that
have these names, and a long statement is cut.
-/

namespace SearchClient.LogEntry

/-- The four members that every line begins with. -/
def heading (e : LogEntry) : Except Failure Row := do
  let timestamp ← Calendar.stamp e.created
  let message ← e.text
  return [("timestamp", .str timestamp), ("level", e.level), ("logger", e.channel),
    ("message", .str message)]

/-- Adds a field to the members of a line, unless its name is taken. -/
def addField (members : Row) (name : String) (value : Value) : Row :=
  if reserved.contains name || (members.get? name).isSome then members
  -- The identifiers of a trace win over fields that were written under their short names.
  else if name = "otelTraceID" then Row.put members "trace_id" value
  else if name = "otelSpanID" then Row.put members "span_id" value
  else if name = "db.statement" then Row.put members name (Excerpt.line value)
  else Row.put members name value

/-- Adds several fields from left to right. -/
def addFields (members fields : Row) : Row :=
  fields.foldl (fun m e => addField m e.1 e.2) members

/-- Kind of a failure as lines show it: only kinds that every program knows stand alone. -/
def kindText (k : FailureClass) : String :=
  match k with
  | .client => "sphinxql.common.exceptions." ++ k.name
  | .database => "sqlalchemy.exc." ++ k.name
  | k => k.name

/-- Kind and text of a failure as lines show them. -/
def troubleText (kind text : String) : String :=
  if text.isEmpty then kind else kind ++ ": " ++ text

/-- A failure as lines show it. -/
def failureText (f : Failure) : String := troubleText (kindText f.kind) f.text

/-- Part of a value at a place. -/
def part (v : Value) (place : Nat) : Except Failure Value :=
  let within (kind : String) (items : List Value) : Except Failure Value :=
    match items[place]? with
    | some item => .ok item
    | none => .error (.raised .index (kind ++ "index out of range") none)
  match v with
  | .list items => within "list " items
  | .tuple items => within "tuple " items
  | .bytes _ => within "" (v.walk?.getD [])
  | .mapping entries =>
    match entries.find? fun e => e.1.same (.int place) with
    | some e => .ok e.2
    | none => .error (.noKey (.int place))
  | .set _ _ => .error (.wrongKind "a set has no places")
  | v =>
    match v.walk? with
    | some items => within "string " items
    | none => .error (.wrongKind "the value has no parts")

/-- A value in the place of a failure as lines show it: the second of its three parts, a failure or
nothing. The third part has nothing to say. -/
def givenText (v : Value) : Except Failure String := do
  let trace ← part v 2
  let _ ← part v 0
  match ← part v 1, trace with
  | .null, .null => return troubleText Value.null.kindName Value.null.text
  | .failure kind text _, .null =>
    return troubleText (((FailureClass.ofName? kind).map kindText).getD kind) text
  | _, _ => .error (.noAttribute "only a failure has an origin")

/-- What a line says about a failure, if anything. -/
def Trouble.text? : Trouble → Except Failure (Option String)
  | .nothing => .ok none
  | .failure f => .ok (some (failureText f))
  | .given v => if v.isTruthy then (givenText v).map some else .ok none

/-- Members of the line of an entry, in order. -/
def members (e : LogEntry) : Except Failure Row := do
  let row := addFields (← e.heading) e.extras
  match ← e.trouble.text? with
  | some s => return Row.put row "exception" (.str s)
  | none => return row

/-- The line of an entry. -/
def line (e : LogEntry) : Except Failure String := do
  return String.ofList (Json.render (.object (← Json.ofRow? (← e.members))))

end SearchClient.LogEntry
