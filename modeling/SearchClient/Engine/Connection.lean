import SearchClient.Engine.Reply
import SearchClient.Failure.Report
import SearchClient.Statement.Result
import SearchClient.World

/-!
# Connections

A connection sends statements to an engine and returns results. Through a driver, a statement goes
out as it is, without parameters, and whatever goes wrong on the way becomes one kind of error. A
direct connection hands on what the engine says.
-/

namespace SearchClient

/-- How statements reach the engine. -/
inductive Transport where
  | driver
  | direct
  deriving DecidableEq, Repr, Inhabited

/-- A connection to an engine. -/
structure Connection where
  transport : Transport := .driver
  engine : Engine

namespace Connection

/-- The result of rows and a count that come from an answer, checked as every record is. -/
def checked (rows : List Value) (count returnsRows : Value) (seconds : Float) :
    Except Failure StatementResult :=
  StatementResult.kind.create
    [("rows", .list rows), ("row_count", count), ("returns_rows", returnsRows),
     ("duration_seconds", .float seconds)]

/-- What the driver takes from an answer, its rows and their number: the rows are fetched and
counted, then the answer is released. -/
def taken (a : Answer) : Except Failure (List Value × Value) := do
  let rows ← a.fetched
  let count ← a.count rows.length
  match a.releaseFailure with
  | some f => .error f
  | none => return (rows, count)

/-- What a direct connection makes of an answer. -/
def directResult (a : Answer) : Except Failure StatementResult := do
  checked (← a.named) a.reported a.returnsRows a.seconds

/-- The error for a statement that failed, noted where it arises. -/
def failed (w : World) (statement : Value) (cause : Failure) :
    Except Failure StatementResult × World :=
  match Failure.execution statement cause.text { cause := some cause } with
  | .ok f => (.error f, (w.note cause).note f)
  | .error f => (.error f, w.note cause)

/-- A statement on its way to the engine. -/
def send (w : World) (statement : Value) (event : Event) : World :=
  { w.emit event with sent := w.sent ++ [statement] }

/-- Runs a statement through the driver. -/
def executeDriver (engine : Engine) (statement : Value) (w : World) :
    Except Failure StatementResult × World :=
  let reply := engine w.sent statement
  let w := send w statement (.sent statement)
  match reply with
  | .refusal f => failed w statement f
  | .answer a =>
    match taken a with
    -- The answer is released by now, so a result that is refused is nobody's failure to send.
    | .ok (rows, count) =>
      (checked rows count (.bool a.returnsRows.isTruthy) a.seconds, w.emit .released)
    | .error f => failed w statement f

/-- Runs a statement on a direct connection. -/
def executeDirect (engine : Engine) (statement : Value) (w : World) :
    Except Failure StatementResult × World :=
  let reply := engine w.sent statement
  let w := send w statement (.executed statement)
  match reply with
  | .refusal f => (.error f, w.note f)
  | .answer a => (directResult a, w)

/-- Runs one statement. -/
def execute (c : Connection) (statement : Value) (w : World) :
    Except Failure StatementResult × World :=
  match c.transport with
  | .driver => executeDriver c.engine statement w
  | .direct => executeDirect c.engine statement w

theorem sent_failed (w : World) (statement : Value) (cause : Failure) :
    (failed w statement cause).2.sent = w.sent := by
  unfold failed
  split <;> rfl

/-- Running a statement sends exactly that statement. -/
theorem sent_execute (c : Connection) (statement : Value) (w : World) :
    (c.execute statement w).2.sent = w.sent ++ [statement] := by
  unfold execute executeDriver executeDirect
  split
  · dsimp only
    split
    · simp [sent_failed, send]
    · split <;> simp [sent_failed, send]
  · dsimp only
    split <;> simp [send]

end Connection

end SearchClient
