import SearchClient.AliasCounter
import SearchClient.QueryLog
import SearchClient.Span

/-!
# The world of a client

Everything that a client shares with others and changes by its calls: the statements that were
sent, the query log, the counter of aliases, the open connections, and the trace of what the
client did. Traces only grow; a step adds its part at the end.
-/

namespace SearchClient

/-- Something that the client did to a collaborator. -/
inductive Event where
  /-- A statement was sent as it is, without parameters. -/
  | sent (statement : Value)
  /-- The rows of a statement were released. -/
  | released
  /-- A statement was handed to a connection of its own kind. -/
  | executed (statement : Value)
  | throttlerAsked (indexes : List Value) (reading : Bool)
  | throttleEntered
  | throttleLeft (failed : Bool)
  | entityQueryCopied
  | entitiesFetched (column : Value) (identifiers : List Int)
  | engineCreated (url : String) (prePing : Bool) (timeout : Int)
  | connected
  | closed
  | disposed
  | waited (delay : Value)
  | spanEnded (span : Span)

/-- What the calls of a client change. -/
structure World where
  /-- Statements sent to the engine, in order. -/
  sent : List Value := []
  log : QueryLog := {}
  aliases : AliasCounter := {}
  /-- How often a throttler was asked for. -/
  throttlings : Nat := 0
  /-- How often an engine was created, or its creation failed. -/
  creations : Nat := 0
  /-- How often a connection was opened, or its opening failed. -/
  attempts : Nat := 0
  /-- How often a connection was closed, or its closing failed. -/
  closings : Nat := 0
  /-- How often an engine was given up, or giving it up failed. -/
  disposals : Nat := 0
  /-- Connections that are open. -/
  live : List Nat := []
  events : List Event := []
  records : List LogRecord := []

namespace World

/-- Adds an event to the trace. -/
def emit (w : World) (event : Event) : World := { w with events := w.events ++ [event] }

/-- Adds a record to the reports. -/
def report (w : World) (record : LogRecord) : World := { w with records := w.records ++ [record] }

/-- Adds a record if there is one. -/
def reportAny (w : World) (record : Option LogRecord) : World :=
  { w with records := w.records ++ record.toList }

/-- Reports a failure where it arises; only client errors leave a record. -/
def note (w : World) (failure : Failure) : World := w.reportAny failure.record?

/-- Reports a statement that was run to the query log. -/
def logQuery (w : World) (statement : Value) (entry : LoggedQuery) : World :=
  { w with log := w.log.add entry, records := w.records ++ [w.log.record statement entry] }

@[simp] theorem sent_emit (w : World) (e : Event) : (w.emit e).sent = w.sent := rfl
@[simp] theorem sent_note (w : World) (f : Failure) : (w.note f).sent = w.sent := rfl
@[simp] theorem log_emit (w : World) (e : Event) : (w.emit e).log = w.log := rfl

end World

end SearchClient
