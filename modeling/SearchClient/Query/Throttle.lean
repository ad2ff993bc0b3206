import SearchClient.Engine.Connection
import SearchClient.Query.Basic

/-!
# Throttling

A throttler holds back the main statement of a query. It is asked for anew for each execution, may
refuse to be entered, and may swallow what goes wrong while it is held. An error of execution is
absorbed by the query; any other failure goes on to the caller.
-/

namespace SearchClient

/-- Something that is held while a statement runs. -/
structure Throttler where
  /-- Why it cannot be entered. -/
  entryFailure : Option Failure := none
  /-- Whether it swallows a failure of the statement. -/
  suppresses : Bool := false
  /-- Why it cannot be left. -/
  exitFailure : Option Failure := none

/-- A source of throttlers, told how often it was asked before, the indexes of the query and
whether the statement only reads. -/
abbrev Throttling := Nat → List Value → Bool → Except Failure (Option Throttler)

/-- What a query works with. -/
structure Collaborators where
  connection : Connection
  throttling : Option Throttling := none

/-- How the main statement of a query ended. -/
inductive MainOutcome where
  | answered (r : StatementResult)
  /-- The engine refused the statement; the query keeps the error. -/
  | absorbed (f : Failure)
  /-- The failure goes on to the caller. -/
  | failed (f : Failure)

namespace Throttler

/-- Leaves a throttler; a failure to leave takes the place of the outcome. -/
def leave {α : Type} (t : Throttler) (failed : Bool) (w : World)
    (outcome : World → Except Failure α × World) : Except Failure α × World :=
  let w := w.emit (.throttleLeft failed)
  match t.exitFailure with
  | some f => (.error f, w.note f)
  | none => outcome w

/-- Runs a statement while the throttler is held. If the throttler swallows a failure, the
statement runs once more without it. -/
def hold (t : Throttler) (c : Connection) (statement : Value) (w : World) :
    Except Failure StatementResult × World :=
  let w := w.emit .throttleEntered
  match t.entryFailure with
  | some f => (.error f, w.note f)
  | none =>
    match c.execute statement w with
    | (.ok r, w) => t.leave false w fun w => (.ok r, w)
    | (.error f, w) =>
      t.leave true w fun w => if t.suppresses then c.execute statement w else (.error f, w)

end Throttler

namespace Query

/-- Channel of the reports of a query. -/
def channel : String := "sphinxql.query.query"

/-- Report of an error that a query absorbs. -/
def absorption (statement : Value) : LogRecord where
  channel := channel
  severity := .warning
  message := "Sphinx query failed, keeping empty result"
  fields := [("db.statement", statement), ("error_code", .str ErrorCode.queryExecution.text)]

/-- Sorts the ways in which a statement can end. -/
def settle (statement : Value) (outcome : Except Failure StatementResult × World) :
    MainOutcome × World :=
  match outcome with
  | (.ok r, w) => (.answered r, w)
  | (.error f, w) =>
    if f.hasCode .queryExecution then (.absorbed f, w.report (absorption statement))
    else (.failed f, w)

/-- Runs the main statement of a query, held by a throttler if there is one. -/
def runMain (c : Collaborators) (q : Query) (statement : Value) (w : World) :
    MainOutcome × World :=
  match c.throttling with
  | none => settle statement (c.connection.execute statement w)
  | some throttling =>
    match q.isReading statement with
    | .error f => (.failed f, w.note f)
    | .ok reading =>
      let indexes := q.clauses.indexes
      let asked :=
        { w with throttlings := w.throttlings + 1 }.emit (.throttlerAsked indexes reading)
      match throttling w.throttlings indexes reading with
      | .error f => (.failed f, asked.note f)
      | .ok none => settle statement (c.connection.execute statement asked)
      | .ok (some t) => settle statement (t.hold c.connection statement asked)

end Query

end SearchClient
