import SearchClient.Failure
import SearchClient.Statement.Excerpt
import SearchClient.Value.Equality
import SearchClient.Value.Written

/-!
# Building client errors

One function for each category. The context of an error goes into its details; context that is
absent is left out, and details that are given in advance come first.
-/

namespace SearchClient.Failure

/-- The entries that hold something. -/
def present (context : Row) : Row := context.filter fun e => !e.2.isNull

/-- Details with the context written over them. -/
def detailed (details : List (Value × Value)) (context : Row) : Value :=
  .mapping ((present context).foldl (fun acc e => Value.putEntry acc (.str e.1) e.2) details)

/-- What else may be given for a new error. -/
structure Extras where
  details : List (Value × Value) := []
  cause : Option Failure := none
  retryable : Value := .bool false

/-- A client error of a category, in some context. -/
def report (code : ErrorCode) (message : Value) (context : Row) (extras : Extras) : Failure :=
  client (.errorCode code) message (detailed extras.details context) extras.cause extras.retryable

/-- The configuration is wrong. -/
def configuration (message key : Value) (extras : Extras) : Failure :=
  report .config message [("config_key", key)] extras

/-- The builder or the compiler refuses its input; the offending value is kept as text, which it
has to have. -/
def invalidArgument (message argument value : Value) (extras : Extras) : Except Failure Failure :=
  value.written.map fun shown =>
    report .invalidArgument message
      [("argument", argument), ("value", if value.isNull then .null else .str shown)] extras

/-- Something was asked for before it exists. -/
def invalidState (message state : Value) (extras : Extras) : Failure :=
  report .invalidState message [("state", state)] extras

/-- The engine could not be reached. -/
def unreachable (message service host : Value) (extras : Extras) : Failure :=
  report .connection message [("service", service), ("host", host)] extras

/-- The engine refused a statement for some reason, or it was lost on the way. A statement whose
length cannot be taken is of the wrong kind. -/
def execution (statement : Value) (reason : String) (extras : Extras) : Except Failure Failure :=
  (Excerpt.shortened (.int Excerpt.detailLength) statement).map fun query =>
    report .queryExecution (.str ("Query execution failed: " ++ reason)) [("query", query)] extras

/-- Entities could not be loaded for the rows of a result. -/
def hydration (message column : Value) (extras : Extras) : Failure :=
  report .hydration message [("column", column)] extras

end SearchClient.Failure
