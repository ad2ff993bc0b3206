import SearchClient.Log.Context
import SearchClient.Log.Line
import SearchClient.QueryLog
import SearchClient.Settings.Source
import SearchClient.Text.Case

/-!
# Log setup

Which entries become lines. There is a level for the whole process and one for the statements
that are sent to the engine; a channel belongs to the statements if it is theirs or below it. An
entry becomes a line if its level is not below the one that holds for its channel.
-/

namespace SearchClient

/-- Levels that are in force. -/
structure LogSetup where
  root : Int
  statements : Int
  deriving DecidableEq, Repr

namespace LogSetup

/-- A level in capitals. -/
def capitals (v : Value) : Except Failure Value :=
  match v with
  | .bytes bs => .ok (.bytes (bs.map fun b => if 0x61 ≤ b && b ≤ 0x7a then b - 0x20 else b))
  | v =>
    match v.asText? with
    | some s => .ok (.str (Text.upper s))
    | none => .error (.noAttribute "a level is a text")

/-- Level of a name in capitals. -/
def levelOf (v : Value) : Except Failure Int :=
  match v with
  | .str s =>
    match Level.ofName? s with
    | some level => .ok level
    | none => .error (.badValue ("Unknown level: " ++ v.literal))
  | _ => .error (.wrongKind "a level is a text")

/-- Level for a part of the process; the part is named when it cannot be set. -/
def assign (part : String) (v : Value) : Except Failure Int :=
  match levelOf v with
  | .ok level => .ok level
  | .error f => .error (.raised .value ("Unable to configure " ++ part) (some f))

/-- Setup for a level and, if one is given, another for the statements. -/
def create (level statements : Value) : Except Failure LogSetup := do
  -- The level of the statements is set first, so of two bad levels it is the one that shows.
  let level ← capitals level
  let statements ← capitals (if statements.isTruthy then statements else level)
  let statements ← assign ("logger '" ++ queryChannel ++ "'") statements
  let root ← assign "root logger" level
  return { root, statements }

/-- Setup for given levels; without a level the one of the current settings is taken. -/
def configure (level statements : Value) (settings : SettingsStore) :
    Except Failure LogSetup × SettingsStore :=
  if level.isNull then
    match settings.get false with
    | (.error f, settings) => (.error f, settings)
    | (.ok id, settings) =>
      (create (((settings.values id).get? "log_level").getD .null) statements, settings)
  else (create level statements, settings)

/-- Whether a channel is the one of the statements or below it. -/
def isForStatements (channel : String) : Bool :=
  channel == queryChannel || channel.startsWith (queryChannel ++ ".")

/-- Level that holds for a channel. -/
def threshold (s : LogSetup) (channel : String) : Int :=
  if isForStatements channel && s.statements != Level.unset then s.statements else s.root

/-- Whether entries of a level on a channel become lines. -/
def shows (s : LogSetup) (channel : String) (level : Int) : Bool :=
  Level.unset < level && s.threshold channel ≤ level

/-- The line of an entry, stamped; there is none if the entry cannot be shown. -/
def line? (s : LogSetup) (c : LogContext) (channel : String) (level : Int) (e : LogEntry) :
    Option String :=
  if s.shows channel level then (c.stamp e).line.toOption else none

end LogSetup

end SearchClient
