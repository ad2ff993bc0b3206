import SearchClient.Log.Record
import SearchClient.Numeric.DecimalText
import SearchClient.Record.Kind
import SearchClient.Value.Numeral

/-!
# Query log

Every statement that is sent to the engine is reported here with its number of rows and the time
it took. The log keeps a history, unless told not to, and writes one log record per statement.
-/

namespace SearchClient

/-- One reported statement. -/
structure LoggedQuery where
  query : String
  rows : Int := 0
  seconds : Float := 0

namespace LoggedQuery

def kind : RecordKind LoggedQuery where
  title := "LoggedQuery"
  frozen := false
  fields q :=
    [("query", .str q.query), ("num_rows", .int q.rows), ("elapsed_seconds", .float q.seconds)]
  read given :=
    (Field.required given "query" Field.text
      |>.and (Field.optional given "num_rows"
        (fun v => Field.atLeast Numeric.Quantity.ofInt 0 (Field.int v)) 0)
      |>.and (Field.optional given "elapsed_seconds"
        (fun v => Field.atLeast Numeric.Quantity.ofFloat 0 (Field.float v)) 0)).map fun p =>
        { query := p.1.1, rows := p.1.2, seconds := p.2 }
  measures := ["elapsed_seconds"]

/-- The larger of a value and a floor; what is no number cannot be compared. -/
def raisedTo (floor v : Value) : Except Failure Value := do
  let isBelow ← (← Numeral.ofValue v).less (← Numeral.ofValue floor)
  return if isBelow then floor else v

/-- Entry for a report of any values; counts and times below zero are taken as zero. -/
def ofReport (statement rows seconds : Value) : Except Failure LoggedQuery := do
  let rows ← raisedTo (.int 0) rows
  let seconds ← raisedTo (.float 0) seconds
  kind.create [("query", statement), ("num_rows", rows), ("elapsed_seconds", seconds)]

/-- Entry for a statement that was run; a count below zero is taken as zero. -/
def ofRun (statement : Value) (rows : Int) (seconds : Float) : Except Failure LoggedQuery :=
  match (Field.required [("query", statement)] "query" Field.text).result with
  | .ok query => .ok { query, rows := max rows 0, seconds }
  | .error issues => .error (.rejected kind.title issues)

theorem ofRun_text (query : String) (rows : Int) (seconds : Float) :
    ofRun (.str query) rows seconds = .ok { query, rows := max rows 0, seconds } := rfl

end LoggedQuery

/-- Channel on which statements are reported. -/
def queryChannel : String := "sphinxql.queries"

/-- The log of a client. -/
structure QueryLog where
  channel : String := queryChannel
  keepsHistory : Bool := true
  history : List LoggedQuery := []

namespace QueryLog

/-- Keeps an entry, if a history is kept. -/
def add (log : QueryLog) (entry : LoggedQuery) : QueryLog :=
  if log.keepsHistory then { log with history := log.history ++ [entry] } else log

/-- The log record of an entry; it shows the statement as it was given. -/
def record (log : QueryLog) (statement : Value) (entry : LoggedQuery) : LogRecord where
  channel := log.channel
  severity := .info
  message := "Sphinx query executed"
  fields :=
    [("db.system", .str "sphinx"), ("db.statement", statement),
     ("row_count", .str (toString entry.rows)),
     ("duration.seconds", .str (Numeric.fixedText 6 entry.seconds))]

/-- Number of statements in the history. -/
def count (log : QueryLog) : Nat := log.history.length

/-- Seconds of all statements in the history; none is a whole zero. -/
def totalTime (log : QueryLog) : Value :=
  match log.history with
  | [] => .int 0
  | entries => .float (entries.foldl (fun total e => total + e.seconds) 0)

/-- Forgets the history. -/
def reset (log : QueryLog) : QueryLog := { log with history := [] }

@[simp] theorem keepsHistory_add (log : QueryLog) (entry : LoggedQuery) :
    (log.add entry).keepsHistory = log.keepsHistory := by
  unfold add
  split <;> rfl

theorem history_add {log : QueryLog} (h : log.keepsHistory = true) (entry : LoggedQuery) :
    (log.add entry).history = log.history ++ [entry] := by
  simp [add, h]

end QueryLog

end SearchClient
