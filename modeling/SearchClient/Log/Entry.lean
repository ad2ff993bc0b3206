import SearchClient.Log.Level
import SearchClient.Value.Template

/-!
# Log entries

A log record on its way to a log line. Everything about it may be written over by name: names of
its own parts change those, names of what is never shown change nothing, and any other name adds
an extra field.
-/

namespace SearchClient

/-- What an entry says about a failure. -/
inductive LogEntry.Trouble where
  | nothing
  | failure (f : Failure)
  /-- A value that was written in the place of a failure. -/
  | given (v : Value)
  deriving Inhabited

/-- A record with everything that a line may show. -/
structure LogEntry where
  channel : Value
  /-- Name of the level. -/
  level : Value
  /-- The message before its arguments are filled in. -/
  message : Value
  arguments : Value := .tuple []
  /-- Seconds since the start of 1970. -/
  created : Value
  trouble : LogEntry.Trouble := .nothing
  /-- Further fields in the order in which they were first written. -/
  extras : Row := []
  deriving Inhabited

namespace LogEntry

/-- Parts that are never shown. -/
def hidden : List String :=
  ["levelno", "pathname", "filename", "module", "exc_text", "stack_info", "lineno", "funcName",
   "msecs", "relativeCreated", "thread", "threadName", "processName", "process"]

/-- Parts that decide what is shown elsewhere. -/
def parts : List String := ["name", "msg", "args", "levelname", "created", "exc_info"]

/-- Names that are no field of their own: parts of every entry, and the texts made from them. -/
def reserved : List String := parts ++ hidden ++ ["asctime", "message"]

/-- Arguments of a message. One mapping that is not empty is the source of all keys. -/
def argumentsOf (items : List Value) : Value :=
  match items with
  | [.mapping (e :: rest)] => .mapping (e :: rest)
  | items => .tuple items

/-- Writes a name. -/
def write (e : LogEntry) (name : String) (value : Value) : LogEntry :=
  match name with
  | "name" => { e with channel := value }
  | "msg" => { e with message := value }
  | "args" => { e with arguments := value }
  | "levelname" => { e with level := value }
  | "created" => { e with created := value }
  | "exc_info" => { e with trouble := .given value }
  | _ => if hidden.contains name then e else { e with extras := Row.put e.extras name value }

/-- Writes several names from left to right. -/
def writeAll (e : LogEntry) (row : Row) : LogEntry := row.foldl (fun e p => e.write p.1 p.2) e

/-- What a record says about a failure. -/
def Trouble.ofFailure? (f : Option Failure) : Trouble := f.elim nothing failure

/-- Entry of a log record. -/
def ofRecord (created : Value) (r : LogRecord) : LogEntry :=
  { channel := .str r.channel, level := .str r.severity.name, message := .str r.message, created,
    trouble := .ofFailure? r.failure, extras := Row.ofEntries r.fields }

/-- Name under which a channel is known; the one without a name is the root. -/
def channelName (channel : String) : String := if channel.isEmpty then "root" else channel

/-- Entry of a message of some level on a channel. -/
def ofMessage (channel : String) (level message created : Value) : Except Failure LogEntry :=
  (Level.label level).map fun level =>
    { channel := .str (channelName channel), level, message, created }

/-- Name under which an entry is asked for its text. -/
def asked : String := "getMessage"

/-- The message with its arguments filled in, if there are any. A field of the name under which the
text is asked for stands in its way, and no value answers. -/
def text (e : LogEntry) : Except Failure String :=
  if (e.extras.get? asked).isSome then .error (.wrongKind "a value makes no text of a message")
  else do
    let message ← e.message.written
    if e.arguments.isTruthy then Template.fill message e.arguments else return message

/-- A name that belongs to no part is added as a field. -/
theorem write_extra (e : LogEntry) {name : String} (value : Value)
    (free : name ∉ parts ∧ name ∉ hidden) :
    e.write name value = { e with extras := Row.put e.extras name value } := by
  obtain ⟨notPart, notHidden⟩ := free
  simp only [parts, List.mem_cons, List.not_mem_nil, or_false, not_or] at notPart
  obtain ⟨h1, h2, h3, h4, h5, h6⟩ := notPart
  unfold write
  split
  · exact absurd rfl h1
  · exact absurd rfl h2
  · exact absurd rfl h3
  · exact absurd rfl h4
  · exact absurd rfl h5
  · exact absurd rfl h6
  · simp [notHidden]

end LogEntry

end SearchClient
