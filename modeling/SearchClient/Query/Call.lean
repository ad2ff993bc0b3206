import SearchClient.Query.Execution
import SearchClient.Query.Mutation

/-!
# Calls on a query

Everything that can be asked of a query: its changes, its statement, its execution, and what the
last execution gave. A call answers or fails, and leaves a query and a world behind.
-/

namespace SearchClient

/-- A call on a query. -/
inductive Call where
  | change (m : Mutation)
  | statement
  | text
  | shown
  | state
  | isClean
  | indexes
  | lastError
  | metadata
  | execute
  | results
  | table
  | rowCount
  | statistics
  | statistic (name fallback : Value)
  | totalFound
  | time
  | clear
  | quoteValue (v : Value)
  | quoteMatch (v : Value) (isText : Bool)

/-- What a call gives back. -/
inductive Returned where
  /-- The query itself, for further calls. -/
  | self
  | value (v : Value)
  | results (r : Results)
  | failure (f : Option Failure)
  | metadata (m : Metadata)
  /-- Names of columns and number of rows. -/
  | table (columns : List String) (rows : Nat)

namespace Query

/-- A refusal because the last execution does not cover the question. -/
private def premature (message : String) (state : Value) : Failure :=
  .invalidState message state {}

/-- Rows counted by the last execution, unless the query has changed since. -/
def rowCountNow (q : Query) : Except Failure Int :=
  match q.state, q.lastError with
  -- A dirty query with an absorbed error was run and has no rows.
  | .dirty, none =>
    .error (premature "You must execute query before getting number of affected rows"
      (.str q.state.text))
  | _, _ => .ok q.keptCount

/-- Statistics of the last execution. -/
def statisticsNow (q : Query) : Except Failure Row :=
  if q.metadata.hasRun then .ok q.metadata.values
  else .error (premature "You can get metadata only after executing query" .null)

/-- One of the statistics of the last execution. -/
def statisticNow (q : Query) (name fallback : Value) : Except Failure Value := do
  let values ← q.statisticsNow
  values.lookUp name fallback

/-- Applies a change. -/
def change (q : Query) (m : Mutation) (w : World) : Outcome Returned :=
  let edit := m.apply q w.aliases
  let w := { w with aliases := edit.aliases, events := w.events ++ edit.events }
  match edit.refusal with
  | none => ⟨.ok .self, edit.query, w⟩
  | some f => ⟨.error f, edit.query, w.note f⟩

/-- The results, after an execution if the query is dirty. -/
def resultsNow (c : Collaborators) (q : Query) (w : World) : Outcome Results :=
  match q.state with
  | .clean => ⟨.ok q.currentResults, q, w⟩
  | .dirty =>
    let o := q.execute c w
    { o with result := o.result.map fun _ => o.query.currentResults }

/-- Names of the columns of some rows, each where it appears first. -/
def columnsOf (rows : List Row) : List String := (rows.flatMap fun row => row.map (·.1)).eraseDups

/-- Size of a table: without columns it has no rows. -/
def tableOf : Results → Returned
  | .rows rows =>
    let columns := columnsOf rows
    .table columns (if columns.isEmpty then 0 else rows.length)
  | .entities entities => .table [] entities.length

/-- The results as a table; a query that is bound to a source of entities has none. -/
def tableNow (c : Collaborators) (q : Query) (w : World) : Outcome Returned :=
  if q.binding.isSome then
    let f := premature "Hydrated results cannot be converted to a DataFrame" (.str q.state.text)
    ⟨.error f, q, w.note f⟩
  else
    let o := q.resultsNow c w
    { o with result := o.result.map tableOf }

/-- A reading that leaves the query as it is; its failure is noted. -/
def reading (q : Query) (w : World) (answer : Except Failure Returned) : Outcome Returned :=
  match answer with
  | .ok r => ⟨.ok r, q, w⟩
  | .error f => ⟨.error f, q, w.note f⟩

/-- The statement as a text. -/
def textOf (statement : Value) : Except Failure Value :=
  match statement.asText? with
  | some _ => .ok statement
  | none => .error (.wrongKind "the statement is no text")

/-- Makes a call. -/
def call (c : Collaborators) (q : Query) (w : World) : Call → Outcome Returned
  | .change m => q.change m w
  | .statement => q.statement.2.reading w (q.statement.1.map .value)
  | .text => q.statement.2.reading w ((q.statement.1.bind textOf).map .value)
  | .shown => q.reading w (q.shown.map fun s => .value (.str s))
  | .state => q.reading w (.ok (.value (.keyword (.queryState q.state))))
  | .isClean => q.reading w (.ok (.value (.bool q.isClean)))
  | .indexes => q.reading w (.ok (.value (.list q.clauses.indexes)))
  | .lastError => q.reading w (.ok (.failure q.lastError))
  | .metadata => q.reading w (.ok (.metadata q.metadata))
  | .execute =>
    let o := q.execute c w
    { o with result := o.result.map fun n => .value (.int n) }
  | .results =>
    let o := q.resultsNow c w
    { o with result := o.result.map .results }
  | .table => q.tableNow c w
  | .rowCount => q.reading w (q.rowCountNow.map fun n => .value (.int n))
  | .statistics =>
    q.reading w (q.statisticsNow.map fun row => .value (StatementResult.rowValue row))
  | .statistic name fallback => q.reading w ((q.statisticNow name fallback).map .value)
  | .totalFound =>
    q.reading w (((q.statisticNow (.str "total_found") (.int 0)).bind Value.toInt).map fun n =>
      .value (.int n))
  | .time =>
    q.reading w (((q.statisticNow (.str "time") (.int 0)).bind Value.toFloat).map fun x =>
      .value (.float x))
  | .clear => ⟨.ok (.value .null), q.cleared, w⟩
  | .quoteValue v =>
    q.reading w ((Render.value v).map fun cs => .value (.str (String.ofList cs)))
  | .quoteMatch v isText =>
    let escaped := FullText.escapeValue (FullText.profileValue isText) v
    q.reading w (escaped.map fun s => .value (.str s))

/-- A copy of the query that shares its clauses and nothing else, and what is traced for it. -/
def copy (q : Query) : Except Failure Query × List Event :=
  let fresh := q.cleared
  match q.binding with
  | none => (.ok fresh, [])
  | some b =>
    let events := if b.source.traced then [.entityQueryCopied] else []
    match b.source.copyFailure with
    | some f => (.error f, events)
    | none => (.ok fresh, events)

/-- A clean query knows the number of its rows. -/
theorem rowCountNow_of_clean {q : Query} (h : q.state = .clean) :
    q.rowCountNow = .ok q.keptCount := by
  unfold rowCountNow
  rw [h]

/-- So does a query that absorbed an error. -/
theorem rowCountNow_of_lastError {q : Query} {f : Failure} (h : q.lastError = some f) :
    q.rowCountNow = .ok q.keptCount := by
  unfold rowCountNow
  rw [h]
  cases q.state <;> rfl

/-- Any other query does not. -/
theorem rowCountNow_of_dirty {q : Query} (hstate : q.state = .dirty) (herror : q.lastError = none)
    (n : Int) : q.rowCountNow ≠ .ok n := by
  unfold rowCountNow
  rw [hstate, herror]
  exact fun h => nomatch h

/-- Statistics that were asked for are given. -/
theorem statisticsNow_of_hasRun {q : Query} (h : q.metadata.hasRun = true) :
    q.statisticsNow = .ok q.metadata.values := by
  unfold statisticsNow
  rw [if_pos h]

end Query

end SearchClient
