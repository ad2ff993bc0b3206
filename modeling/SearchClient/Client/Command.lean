import SearchClient.Query.Command

/-!
# Commands

What a client can be told to do: to make and copy queries, to call them, and to use its connection
and its manager. Commands are known by the names of the parts that they concern.
-/

namespace SearchClient

/-- A use of the connection. -/
inductive ConnectionUse where
  | execute (statement : Value)
  /-- Executes a statement and folds its rows into named values. -/
  | keyPairs (statement : Value)
  | quote (v : Value)
  | close
  | isClosed
  | info

/-- A use of the manager. -/
inductive ManagerUse where
  /-- Makes the query of a number on the connection of the manager. -/
  | createQuery (n : Nat) (statement : Value)
  | connection
  | engine
  /-- The connection is lost from outside. -/
  | drop
  | close
  | info
  | settings
  | enter

/-- Something that a client is told to do. Queries go by their numbers. -/
inductive Command where
  | create (n : Nat) (statement maxMatches : Value)
  | copy (n target : Nat)
  | query (n : Nat) (call : Call)
  | connection (use : ConnectionUse)
  | manager (use : ManagerUse)

namespace Command

private def unknown {α : Type} (name : String) : Except Failure α :=
  .error (.noAttribute ("nothing is named '" ++ name ++ "'"))

/-- Use of a connection by its name. -/
def useConnection (name : String) (args : List Value) (named : Row) : Except Failure Command :=
  let one (arg : String) (make : Value → ConnectionUse) : Except Failure Command :=
    (Signature.bind { required := [arg] } args named).map fun bound =>
      .connection (make ((Signature.find? bound arg).getD .null))
  match name with
  | "execute" => one "statement" .execute
  | "key_pairs" => one "statement" .keyPairs
  | "quote" => one "value" .quote
  | "close" => .ok (.connection .close)
  | "closed" => .ok (.connection .isClosed)
  | "info" => .ok (.connection .info)
  | name => unknown name

/-- Use of a manager by its name; a query that it makes gets a number. -/
def useManager (n : Nat) (name : String) (args : List Value) (named : Row) :
    Except Failure Command :=
  match name with
  | "create_query" =>
    (Signature.bind { optional := ["query"] } args named).map fun bound =>
      .manager (.createQuery n ((Signature.find? bound "query").getD .null))
  | "connection" => .ok (.manager .connection)
  | "engine" => .ok (.manager .engine)
  | "drop" => .ok (.manager .drop)
  | "close_connection" | "exit" => .ok (.manager .close)
  | "info" => .ok (.manager .info)
  | "settings" => .ok (.manager .settings)
  | "enter" => .ok (.manager .enter)
  | name => unknown name

/-- A new query under a number. -/
def newQuery (n : Nat) (args : List Value) (named : Row) : Except Failure Command :=
  (Signature.bind { optional := ["query"], named := ["max_matches"] } args named).map fun bound =>
    .create n ((Signature.find? bound "query").getD .null)
      ((Signature.find? bound "max_matches").getD (.int 1000))

/-- A call on a query by its name. -/
def callQuery (n : Nat) (name : String) (args : List Value) (named : Row) :
    Except Failure Command :=
  (Call.ofName name args named).map (.query n)

end Command

end SearchClient
