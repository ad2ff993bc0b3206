import SearchClient.Entity.Basic
import SearchClient.Metadata
import SearchClient.Statement.Render

/-!
# Queries

A query collects clauses and caches what their last execution gave. It is dirty from every change
on until the engine has answered, and clean while its cache reflects its clauses.
-/

namespace SearchClient

/-- What a query holds after an execution: the rows of the engine, or the entities behind them. -/
inductive Results where
  | rows (rows : List Row)
  | entities (entities : List Entity)

/-- A source of entities and the column by which they are found. -/
structure EntityBinding where
  source : EntityQuery
  column : Value

/-- A query with its clauses and its cache. -/
structure Query where
  state : QueryState := .dirty
  /-- A statement that is sent in place of the clauses. -/
  raw : Option Value := none
  /-- The statement that the clauses made up when it was last asked for. -/
  compiled : Option String := none
  binding : Option EntityBinding := none
  clauses : Clauses := {}
  results : Option Results := none
  rowCount : Option Int := none
  metadata : Metadata := {}
  /-- The error that the last execution absorbed. -/
  lastError : Option Failure := none
  /-- Rows of the window when no limit is set. -/
  maxMatches : Value := .int 1000

namespace Query

/-- A new query, with a statement of its own unless that is nothing. -/
def create (statement maxMatches : Value) : Query where
  raw := if statement.isNull then none else some statement
  maxMatches := maxMatches

/-- Whether the cache reflects the clauses. -/
def isClean (q : Query) : Bool := q.state == .clean

/-- The query after a change: its cache no longer counts. -/
def dirtied (q : Query) : Query := { q with state := .dirty, lastError := none }

/-- The query without its statement, results and statistics. -/
def cleared (q : Query) : Query :=
  { q.dirtied with compiled := none, results := none, rowCount := none, metadata := .notRun }

/-- The statement of a query: its own, or the one its clauses make up. A clean query keeps the one
it was run with. -/
def statement (q : Query) : Except Failure Value × Query :=
  match q.raw with
  | some statement => (.ok statement, q)
  | none =>
    match q.state, q.compiled with
    | .clean, some statement => (.ok (.str statement), q)
    | _, _ =>
      match q.clauses.compile q.maxMatches with
      | .ok statement => (.ok (.str statement), { q with compiled := some statement })
      | .error f => (.error f, q)

/-- Words with which a statement that only reads begins. -/
def readingWords : List String := ["SELECT", "SHOW", "DESCRIBE", "DESC", "CALL"]

/-- Whether a statement only reads, judged by its first word. -/
def beginsReading (statement : String) : Bool :=
  readingWords.contains (Text.upper (String.ofList (Text.firstWord statement.toList)))

/-- Whether the statement of a query only reads. What the clauses make up always does. -/
def isReading (q : Query) (statement : Value) : Except Failure Bool :=
  match q.raw with
  | none => .ok true
  | some _ =>
    match statement, statement.asText? with
    | _, some s => .ok (beginsReading s)
    | .bytes _, none => .ok false
    | _, none => .error (.noAttribute "only a text has a first word")

/-- The query in one line, for people. -/
def shown (q : Query) : Except Failure String :=
  (Value.list q.clauses.indexes).writtenLiteral.map fun indexes =>
    "<Query state=" ++ q.state.text ++ " indexes=" ++ indexes ++ ">"

/-- Rows of the last execution; none before it. -/
def currentResults (q : Query) : Results := q.results.getD (.rows [])

/-- Asking for the statement changes nothing but the kept statement. -/
theorem statement_snd (q : Query) :
    q.statement.2 = q ∨ ∃ s, q.statement.2 = { q with compiled := some s } := by
  unfold statement
  split
  · exact .inl rfl
  · split
    · exact .inl rfl
    · split
      · exact .inr ⟨_, rfl⟩
      · exact .inl rfl

end Query

end SearchClient
