import SearchClient.Failure.Report
import SearchClient.Signature
import SearchClient.Value.Entries

/-!
# Client errors by name

The ways to build a client error, by the names and arguments under which they are known to
callers. An argument may be a failure, such as the one that caused the error.
-/

namespace SearchClient.Failure

/-- An argument of a new error, with the failure that it is, if it is one. -/
structure Given where
  value : Value
  failure : Option Failure := none

/-- The argument as a cause. Nothing is no cause, and what counts as false is one by its name only;
whatever else is given has to be a failure. -/
def Given.toCause (g : Given) : Except Failure (Option Failure) :=
  match g.failure with
  | some f => .ok (some f)
  | none =>
    if g.value.isNull then .ok none
    else if g.value.isTruthy then .error (.noAttribute "a cause is a failure")
    else .ok (some (.raised (.other g.value.kindName) g.value.text none))

/-- Arguments that were given, by name. -/
abbrev Bound := List (String × Given)

namespace Bound

/-- Value of an argument; nothing if it was not given. -/
def value (b : Bound) (name : String) : Value := ((Signature.find? b name).map (·.value)).getD .null

/-- The cause that was given under a name. -/
def cause (b : Bound) (name : String) : Except Failure (Option Failure) :=
  match Signature.find? b name with
  | some g => g.toCause
  | none => .ok none

/-- The retry mark, with a default. -/
def retryable (b : Bound) (fallback : Bool) : Value :=
  ((Signature.find? b "is_retryable").map (·.value)).getD (.bool fallback)

/-- Details, cause and retry mark, the mark with a default. -/
def extras (b : Bound) (causeName : String) (fallback : Bool) : Except Failure Extras := do
  let details := b.value "details"
  return {
    details := ← if details.isTruthy then details.toEntries else .ok []
    cause := ← b.cause causeName
    retryable := b.retryable fallback }

end Bound

/-- Names that every builder takes besides its own. -/
def extraNames : List String := ["details", "cause", "is_retryable"]

/-- Error with an explicit category, which is a member of any closed set. Its details may be of any
kind. -/
def general (b : Bound) : Except Failure Failure := do
  let code ← match Signature.find? b "error_code" with
    | none => .ok (.errorCode .queryExecution)
    | some { value := .keyword k, .. } => .ok k
    | some _ => .error (.noAttribute "an error has a category")
  let details := b.value "details"
  return client code (b.value "message") (if details.isTruthy then details else .mapping [])
    (← b.cause "cause") (b.retryable false)

/-- Builds an error by the name of its builder. -/
def build (name : String) (args : List Given) (named : List (String × Given)) :
    Except Failure Failure :=
  let bound (required optional : List String) : Except Failure Bound :=
    Signature.bind { required, optional, named := extraNames } args named
  match name with
  | "SphinxQLError" => do
    general (← Signature.bind
      { required := ["message"], optional := ["error_code", "details", "cause", "is_retryable"] }
      args named)
  | "configuration_error" => do
    let b ← bound ["message"] ["config_key"]
    return configuration (b.value "message") (b.value "config_key") (← b.extras "cause" false)
  | "invalid_argument_error" => do
    let b ← bound ["message"] ["argument", "value"]
    let value := b.value "value"
    -- The value is written before the details are read, so of two faults it is the one that shows.
    let _ ← value.written
    invalidArgument (b.value "message") (b.value "argument") value (← b.extras "cause" false)
  | "invalid_state_error" => do
    let b ← bound ["message"] ["state"]
    return invalidState (b.value "message") (b.value "state") (← b.extras "cause" false)
  | "connection_error" => do
    let b ← bound ["message"] ["service", "host"]
    return unreachable (b.value "message") (b.value "service") (b.value "host")
      (← b.extras "cause" true)
  | "query_execution_error" => do
    let b ← bound ["query", "original_error"] []
    let reason ← (b.value "original_error").written
    -- The statement is cut before the details are read, so of two faults it is the one that shows.
    let _ ← execution (b.value "query") reason {}
    execution (b.value "query") reason (← b.extras "original_error" false)
  | "hydration_error" => do
    let b ← bound ["message"] ["column"]
    return hydration (b.value "message") (b.value "column") (← b.extras "cause" false)
  | _ => .error (.noAttribute ("no builder named '" ++ name ++ "'"))

end SearchClient.Failure
