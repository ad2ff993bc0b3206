import SearchClient.Failure

/-!
# Log records

What the client reports about itself: a message of some severity on a named channel, with
structured fields. Every client error is reported once, when it is built.
-/

namespace SearchClient

/-- Severities of log records, in rising order. -/
inductive Severity where
  | debug | info | warning | error | critical
  deriving DecidableEq, Repr, Inhabited

namespace Severity

def name : Severity → String
  | debug => "DEBUG"
  | info => "INFO"
  | warning => "WARNING"
  | error => "ERROR"
  | critical => "CRITICAL"

/-- Severity as a number; a record passes a threshold that is not above it. -/
def rank : Severity → Int
  | debug => 10
  | info => 20
  | warning => 30
  | error => 40
  | critical => 50

end Severity

/-- One log record. -/
structure LogRecord where
  channel : String
  severity : Severity
  message : String
  fields : Row := []
  failure : Option Failure := none

namespace Failure

/-- Channel on which client errors are reported. -/
def channel : String := "sphinxql.common.exceptions"

/-- The record of a failure; only client errors have one. -/
def record? : Failure → Option LogRecord
  | client code message details cause retryable =>
    some
      { channel, severity := .error, message := message.text
        fields :=
          [("error_code", .str code.text), ("details", details), ("is_retryable", retryable)]
        -- What is a cause by its name only has nothing to show.
        failure := cause.filter (·.kind.isFailure) }
  | _ => none

end Failure

end SearchClient
