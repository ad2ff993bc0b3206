import SearchClient.Backoff
import SearchClient.Engine.Address
import SearchClient.Failure.Report
import SearchClient.Query.Throttle
import SearchClient.Settings.Basic
import SearchClient.Tracing

/-!
# Managers

A manager owns the connection of a client. It creates the engine and opens the connection when
they are first needed, hands out the open connection from then on, and opens another one when it
finds its own closed. An opening that fails for a passing reason is repeated; a failing creation
of the engine is not. Closing the manager closes the connection and gives up the engine; what cannot
be closed or given up is kept.
-/

namespace SearchClient

/-- How the network behaves: why a creation of the engine, an opening or a closing of a connection
or the disposal of an engine fails, by the number of times it was tried before. -/
structure Network where
  creation : Nat → Option Failure := fun _ => none
  opening : Nat → Option Failure := fun _ => none
  closing : Nat → Option Failure := fun _ => none
  disposal : Nat → Option Failure := fun _ => none

/-- The owner of a connection. -/
structure Manager where
  settings : Settings := {}
  /-- Number of the engine, once it is created. -/
  engine : Option Nat := none
  /-- Number of the connection that was opened last. -/
  connection : Option Nat := none

/-- A manager at work in a world. -/
structure Managed where
  manager : Manager := {}
  world : World := {}

namespace Managed

/-- Changes the world. -/
def onWorld (m : Managed) (f : World → World) : Managed := { m with world := f m.world }

/-- Channel of the reports of a manager. -/
def channel : String := "sphinxql.connection.manager"

/-- Name of the service in errors. -/
def service : Value := .str "sphinx"

/-- Host of the engine. -/
def host (m : Managed) : Value := .str m.manager.settings.host

/-- Notes a failure behind an error and the error itself. -/
def fail {α : Type} (m : Managed) (cause : Failure) (message : String) (retryable : Bool) :
    Except Failure α × Managed :=
  let f := .unreachable (.str message) service m.host
    { cause := some cause, retryable := .bool retryable }
  (.error f, m.onWorld fun w => (w.note cause).note f)

/-- Report of a new engine. -/
def engineReport (s : Settings) : LogRecord where
  channel := channel
  severity := .info
  message := "Created Sphinx engine"
  fields := [("host", .str s.host), ("port", .int s.port)]

/-- Report of a new connection. -/
def openReport (s : Settings) : LogRecord where
  channel := channel
  severity := .info
  message := "Connected to Sphinx"
  fields := [("host", .str s.host)]

/-- Where the engine is reached; the host of the settings may hold more than a host. -/
def address (m : Managed) : Except Failure Address := Address.read m.manager.settings.authority

/-- Why the engine of some creation cannot be created, if it cannot. -/
def obstacle? (net : Network) (m : Managed) (creation : Nat) : Option Failure :=
  match net.creation creation, m.address with
  | some f, _ => some f
  | none, .error f => some f
  | none, .ok _ => none

/-- Creates the engine. -/
def createEngine (net : Network) (m : Managed) : Except Failure Nat × Managed :=
  let s := m.manager.settings
  let n := m.world.creations
  let m := m.onWorld fun w =>
    { w with creations := n + 1 }.emit (.engineCreated s.url s.poolPrePing s.connectTimeout)
  match m.obstacle? net n with
  | some f => m.fail f "Failed to create Sphinx engine" false
  | none =>
    (.ok n,
      { m.onWorld (·.report (engineReport s)) with
        manager := { m.manager with engine := some n } })

/-- The engine, created if there is none. -/
def engine (net : Network) (m : Managed) : Except Failure Nat × Managed :=
  match m.manager.engine with
  | some n => (.ok n, m)
  | none => m.createEngine net

/-- Opens a connection; client errors stay what they are. -/
def connect (net : Network) (m : Managed) : Except Failure Nat × Managed :=
  let s := m.manager.settings
  let n := m.world.attempts
  let m := m.onWorld fun w => { w with attempts := n + 1 }.emit .connected
  match net.opening n with
  | some f =>
    if f.kind.isA .client then (.error f, m.onWorld (·.note f))
    else m.fail f ("Failed to connect to Sphinx at " ++ s.host ++ ":" ++ toString s.port) true
  | none =>
    (.ok n, m.onWorld fun w => { w with live := w.live ++ [n] }.report (openReport s))

/-- How the openings of a connection are traced. -/
def tracing : Tracing where
  name := "sphinxql.connection.connect"
  source := channel

/-- Attributes of the span of an opening. -/
def spanAttributes (m : Managed) : Row :=
  [("db.system", .str "sphinx"), ("net.peer.name", m.host),
   ("net.peer.port", .int m.manager.settings.port)]

/-- Opens a connection on the engine, which is created first if there is none. -/
def openOnce (net : Network) (m : Managed) : Except Failure Nat × Managed :=
  match m.engine net with
  | (.ok _, m) => m.connect net
  | (.error f, m) => (.error f, m)

/-- One attempt to open a connection, inside a span. -/
def attempt (net : Network) (m : Managed) : Except Failure Nat × Managed :=
  tracing.run onWorld (some fun m => (.ok m.spanAttributes, m)) (·.openOnce net) m

/-- How openings are repeated. -/
def backoff (s : Settings) : Backoff Value :=
  { Backoff.standard with retries := .ok s.maxRetries, first := .float s.retryDelay }

/-- Failures that are worth another opening. -/
def acceptance : Acceptance Failure FailureClass where
  condition f := .ok f.retryable.isTruthy

/-- Whether the connection of the manager is open. -/
def isConnected (m : Managed) : Bool :=
  match m.manager.connection with
  | some n => m.world.live.contains n
  | none => false

/-- Opens a connection, again if need be, and keeps it. -/
def reconnect (net : Network) (m : Managed) : Except Failure Nat × Managed :=
  match (backoff m.manager.settings).run (.ok "_open_connection") acceptance onWorld
      (fun _ m => m.attempt net) m with
  | (.ok n, m) => (.ok n, { m with manager := { m.manager with connection := some n } })
  | (.error f, m) => (.error f, m)

/-- The open connection; one is opened if there is none. -/
def connection (net : Network) (m : Managed) : Except Failure Nat × Managed :=
  match m.manager.connection with
  | some n => if m.world.live.contains n then (.ok n, m) else m.reconnect net
  | none => m.reconnect net

/-- Closes a connection of a number. -/
def closeNumber (net : Network) (n : Nat) (m : Managed) : Except Failure Unit × Managed :=
  let tried := m.world.closings
  let m := m.onWorld fun w => { w with closings := tried + 1 }.emit .closed
  match net.closing tried with
  | some f => (.error f, m.onWorld (·.note f))
  | none => (.ok (), m.onWorld fun w => { w with live := w.live.filter (· != n) })

/-- Gives up the engine, if there is one. -/
def dispose (net : Network) (m : Managed) : Except Failure Unit × Managed :=
  match m.manager.engine with
  | none => (.ok (), m)
  | some _ =>
    let tried := m.world.disposals
    let m := m.onWorld fun w => { w with disposals := tried + 1 }.emit .disposed
    match net.disposal tried with
    | some f => (.error f, m.onWorld (·.note f))
    | none => (.ok (), { m with manager := { m.manager with engine := none } })

/-- Closes the connection and gives up the engine. -/
def close (net : Network) (m : Managed) : Except Failure Unit × Managed :=
  match m.manager.connection with
  | none => m.dispose net
  | some n =>
    match m.closeNumber net n with
    -- The engine stays as long as its connection cannot be closed.
    | (.error f, m) => (.error f, m)
    | (.ok (), m) => { m with manager := { m.manager with connection := none } }.dispose net

/-- The connection is closed from outside. Whoever does that asks for it first, so it is opened if
need be. -/
def drop (net : Network) (m : Managed) : Except Failure Unit × Managed :=
  match m.connection net with
  | (.ok n, m) => (.ok (), m.onWorld fun w => { w with live := w.live.filter (· != n) })
  | (.error f, m) => (.error f, m)

/-- What the connection itself knows about its engine. -/
def reached (m : Managed) : Except Failure Row :=
  m.address.map fun a =>
    [("platform", service), ("host", (a.host.map Value.str).getD .null),
     ("port", (a.port.map Value.int).getD .null)]

/-- What is known about the connection. -/
def info (m : Managed) : Row :=
  [("platform", service), ("host", m.host), ("port", .int m.manager.settings.port),
   ("connected", .bool m.isConnected)]

/-- A query on the connection of the manager. -/
def createQuery (net : Network) (m : Managed) (statement : Value) :
    Except Failure Query × Managed :=
  match m.connection net with
  | (.ok _, m) => (.ok (Query.create statement (.int m.manager.settings.maxMatches)), m)
  | (.error f, m) => (.error f, m)

/-- A connection that is open is handed out as it is. -/
theorem connection_of_live (net : Network) (m : Managed) {n : Nat}
    (kept : m.manager.connection = some n) (live : n ∈ m.world.live) :
    m.connection net = (.ok n, m) := by
  simp [connection, kept, live]

end Managed

end SearchClient
