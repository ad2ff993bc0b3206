import SearchClient.Client.Command
import SearchClient.Manager
import SearchClient.Session

/-!
# Clients

A client at work: its queries, the world they share, and perhaps a manager that owns the
connection. Without a manager the client has one connection from the start. Whatever needs the
connection asks the manager for it first, so it fails when the connection cannot be opened.
-/

namespace SearchClient

/-- A client and what it works with. -/
structure Client where
  session : Session := {}
  manager : Option Manager := none
  network : Network := {}
  collaborators : Collaborators

/-- What a command gives back. -/
inductive Response where
  | returned (r : Returned)
  | statement (r : StatementResult)
  /-- A connection by its number. -/
  | connection (n : Nat)
  /-- An engine by its number. -/
  | engine (n : Nat)

namespace Client

private def value (v : Value) : Response := .returned (.value v)

private def nothing : Response := value .null

/-- Client with another world. -/
def withWorld (c : Client) (w : World) : Client :=
  { c with session := { c.session with world := w } }

/-- A manager at work for the client. -/
def managed (c : Client) (m : Manager) : Managed := { manager := m, world := c.session.world }

/-- Client after its manager has worked. -/
def withManaged (c : Client) (m : Managed) : Client :=
  { c.withWorld m.world with manager := some m.manager }

/-- Number of the connection in use. -/
def currentConnection (c : Client) : Except Failure Nat × Client :=
  match c.manager with
  -- The connection from the start is the one of number zero.
  | none => (.ok 0, c)
  | some m =>
    let (n, m) := (c.managed m).connection c.network
    (n, c.withManaged m)

/-- Sends a statement on the connection. -/
def send (c : Client) (statement : Value) : Except Failure StatementResult × Client :=
  let (r, w) := c.collaborators.connection.execute statement c.session.world
  (r, c.withWorld w)

/-- What the connection itself knows about its engine. -/
def connectionInfo (c : Client) : Except Failure Row := (c.managed (c.manager.getD {})).reached

/-- Uses the connection of a number. -/
def useConnection (c : Client) (n : Nat) (use : ConnectionUse) :
    Except Failure Response × Client :=
  match use with
  | .execute statement =>
    let (r, c) := c.send statement
    (r.map .statement, c)
  | .keyPairs statement =>
    let (r, c) := c.send statement
    (r.map fun r => value (StatementResult.rowValue r.keyPairs), c)
  | .quote v => ((Render.literal v).map fun s => value (.str s), c)
  | .close =>
    let (r, m) := (c.managed (c.manager.getD {})).closeNumber c.network n
    (r.map fun _ => nothing, c.withWorld m.world)
  | .isClosed => (.ok (value (.bool (!c.session.world.live.contains n))), c)
  | .info => (c.connectionInfo.map fun row => value (StatementResult.rowValue row), c)

/-- Uses the manager. -/
def useManager (c : Client) (m : Managed) (use : ManagerUse) : Except Failure Response × Client :=
  match use with
  | .createQuery n statement =>
    match m.createQuery c.network statement with
    | (.ok q, m) =>
      let c := c.withManaged m
      (.ok nothing, { c with session := c.session.put n q })
    | (.error f, m) => (.error f, c.withManaged m)
  | .connection =>
    let (n, m) := m.connection c.network
    (n.map .connection, c.withManaged m)
  | .engine =>
    let (n, m) := m.engine c.network
    (n.map .engine, c.withManaged m)
  | .drop =>
    let (r, m) := m.drop c.network
    (r.map fun _ => nothing, c.withManaged m)
  | .close =>
    let (r, m) := m.close c.network
    (r.map fun _ => nothing, c.withManaged m)
  | .info => (.ok (value (StatementResult.rowValue m.info)), c)
  | .settings =>
    (.ok (value (StatementResult.rowValue (Settings.describe m.manager.settings.fields))), c)
  | .enter => (.ok (value (.bool true)), c)

/-- Carries out a command. -/
def step (c : Client) (command : Command) : Except Failure Response × Client :=
  match command with
  | .create n statement maxMatches =>
    (.ok nothing, { c with session := c.session.put n (Query.create statement maxMatches) })
  | .copy n target =>
    let (r, s) := c.session.copy n target
    (r.map fun _ => nothing, { c with session := s })
  | .query n call =>
    let (r, s) := c.session.call c.collaborators n call
    (r.map .returned, { c with session := s })
  | .connection use =>
    match c.currentConnection with
    | (.ok n, c) => c.useConnection n use
    | (.error f, c) => (.error f, c)
  | .manager use =>
    match c.manager with
    | some m => c.useManager (c.managed m) use
    | none => (.error (.noAttribute "there is no manager"), c)

/-- Carries out a command that may not be one; what is no command changes nothing. -/
def attempt (c : Client) (command : Except Failure Command) : Except Failure Response × Client :=
  match command with
  | .ok command => c.step command
  | .error f => (.error f, c)

/-- Carries out commands in order; what each gives back. -/
def run (c : Client) : List Command → List (Except Failure Response) × Client
  | [] => ([], c)
  | first :: rest =>
    let (answer, c) := c.step first
    let (answers, c) := c.run rest
    (answer :: answers, c)

end Client

end SearchClient
