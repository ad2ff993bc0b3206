import SearchClient.Hydration
import SearchClient.Query.Throttle

/-!
# Running a query

A dirty query sends its statement, asks for the statistics, reports both to the query log, and
replaces the rows by entities if it is bound to a source of them. Only when all of this is done,
and only if the engine answered the statement, is the query clean; a clean query answers from its
cache. An error of execution is absorbed: the result is empty then, and the query stays dirty.
-/

namespace SearchClient

/-- What a call leaves behind. -/
structure Outcome (α : Type) where
  result : Except Failure α
  query : Query
  world : World

namespace Query

/-- The query at the start of an execution. -/
def started (q : Query) : Query :=
  { q with results := some (.rows []), rowCount := some 0, lastError := none }

/-- The query with the answer to its statement. -/
def answered (q : Query) (r : StatementResult) : Query :=
  { q with
    results := if r.returnsRows then some (.rows r.rows) else q.results
    rowCount := some r.rowCount }

/-- The query with an error that it absorbs. -/
def absorbing (q : Query) (f : Failure) : Query := { q with lastError := some f }

/-- Rows that an execution has kept so far. -/
def keptRows (q : Query) : List Row :=
  match q.results with
  | some (.rows rows) => rows
  | _ => []

/-- Number of rows that an execution has kept so far. -/
def keptCount (q : Query) : Int := q.rowCount.getD 0

/-- Replaces the rows by entities if the query is bound to a source of them. -/
def hydrated (q : Query) (w : World) : Outcome Unit :=
  match q.binding with
  | none => ⟨.ok (), q, w⟩
  | some b =>
    if b.column.isNull then ⟨.ok (), q, w⟩
    else
      let o := Hydration.hydrate (q.keptRows.map Cells.ofRow) b.source b.column w
      let q := { q with binding := some { b with source := o.source } }
      match o.result with
      | .ok entities => ⟨.ok (), { q with results := some (.entities entities) }, o.world⟩
      | .error f => ⟨.error f, q, o.world⟩

/-- Statistics of the last statement, with their number of rows and the time they took. -/
structure Followup where
  metadata : Metadata
  rows : Int
  seconds : Float

/-- Asks for the statistics of the last statement; there are none if the engine refuses. -/
def askStatistics (c : Connection) (w : World) : Except Failure Followup × World :=
  match c.execute (.str metaStatement) w with
  | (.ok r, w) => (.ok ⟨.ofPairs r.keyPairs, r.rows.length, r.seconds⟩, w)
  | (.error f, w) =>
    -- A refusal costs the statistics only; anything else ends the execution.
    if f.hasCode .queryExecution then (.ok ⟨.empty, 0, 0⟩, w) else (.error f, w)

/-- Reports the statement and its follow-up to the query log. -/
def reportRun (statement : Value) (rows : Int) (seconds : Float) (f : Followup) (w : World) :
    Except Failure Unit × World :=
  match LoggedQuery.ofRun statement rows seconds with
  | .error failure => (.error failure, w)
  | .ok entry =>
    let w := w.logQuery statement entry
    match LoggedQuery.ofRun (.str metaStatement) f.rows f.seconds with
    | .error failure => (.error failure, w)
    | .ok entry => (.ok (), w.logQuery (.str metaStatement) entry)

/-- What follows the main statement. The query becomes clean if the statement was answered. -/
def conclude (c : Collaborators) (q : Query) (statement : Value) (wasAnswered : Bool)
    (seconds : Float) (w : World) : Outcome Int :=
  match askStatistics c.connection w with
  | (.error f, w) => ⟨.error f, q, w⟩
  | (.ok followup, w) =>
    let q := { q with metadata := followup.metadata }
    match reportRun statement q.keptCount seconds followup w with
    | (.error f, w) => ⟨.error f, q, w⟩
    | (.ok (), w) =>
      let o := q.hydrated w
      match o.result with
      | .error f => ⟨.error f, o.query, o.world⟩
      | .ok () =>
        let q := if wasAnswered then { o.query with state := .clean } else o.query
        ⟨.ok q.keptCount, q, o.world⟩

/-- Sends a statement and keeps what comes back. -/
def attempt (c : Collaborators) (q : Query) (statement : Value) (w : World) : Outcome Int :=
  match q.started.runMain c statement w with
  | (.failed f, w) => ⟨.error f, q.started, w⟩
  | (.absorbed f, w) => conclude c (q.started.absorbing f) statement false 0 w
  | (.answered r, w) => conclude c (q.started.answered r) statement true r.seconds w

/-- Runs the query if it is dirty; the number of rows. -/
def run (c : Collaborators) (q : Query) (w : World) : Outcome Int :=
  match q.state with
  | .clean => ⟨.ok q.keptCount, q, w⟩
  | .dirty =>
    match q.statement with
    | (.error f, q) => ⟨.error f, q, w.note f⟩
    | (.ok statement, q) => q.attempt c statement w

/-- Name of the span of an execution. -/
def spanName : String := "sphinxql.query.execute"

/-- Attributes of the span of an execution: the indexes in one text, if there are any. -/
def spanAttributes (q : Query) : Except Failure Row :=
  let common := [("db.system", Value.str "sphinx"), ("db.operation", .str "execute")]
  if q.clauses.indexes.isEmpty then .ok common
  else
    (Render.nameList "," q.clauses.indexes).map fun names =>
      common ++ [("db.sphinx.indexes", .str (String.ofList names))]

/-- The span of an execution that has ended. -/
def span (q : Query) (result : Except Failure Int) : Span :=
  Span.ended spanName channel "CLIENT" (Span.merge Span.baseAttributes q.spanAttributes) result

/-- Runs the query inside a span. -/
def execute (c : Collaborators) (q : Query) (w : World) : Outcome Int :=
  let o := q.run c (w.reportAny (Span.warning? spanName q.spanAttributes))
  { o with world := o.world.emit (.spanEnded (q.span o.result)) }

/-- A clean query answers from its cache and sends nothing. -/
theorem run_clean (c : Collaborators) (q : Query) (w : World) (h : q.state = .clean) :
    q.run c w = ⟨.ok q.keptCount, q, w⟩ := by
  simp [run, h]

end Query

end SearchClient
