import SearchClient.Log.Record

/-!
# Spans

A call that is traced runs inside a span. The attributes of a span are fixed ones with those
collected from the call written over them; a collection that fails is reported and costs the
attributes only. A span ends with its call and notes the failure of the call.
-/

namespace SearchClient

/-- A span that has ended. -/
structure Span where
  name : String
  /-- Name of the source of the span. -/
  source : String
  kind : String := "CLIENT"
  attributes : Row := []
  /-- Failures noted while the span was open. -/
  failures : List Failure := []

namespace Span

/-- Whether the call of a span failed. -/
def failed (s : Span) : Bool := !s.failures.isEmpty

/-- Attributes that every span has. -/
def baseAttributes : Row := [("db.system", .str "sphinx")]

/-- Channel on which failing collections are reported. -/
def channel : String := "sphinxql.utils.decorators"

/-- Report of a collection that failed. -/
def uncollected (name : String) (failure : Failure) : LogRecord where
  channel := channel
  severity := .warning
  message := "Could not collect span attributes for " ++ name ++ ": " ++ failure.text

/-- The fixed attributes with the collected ones written over them. -/
def merge (fixed : Row) (collected : Except Failure Row) : Row :=
  match collected with
  | .ok row => Row.putAll fixed row
  | .error _ => fixed

/-- What is reported about a collection. -/
def warning? (name : String) (collected : Except Failure Row) : Option LogRecord :=
  match collected with
  | .ok _ => none
  | .error f => some (uncollected name f)

/-- The span of a call that has ended; attributes that hold nothing are left out. -/
def ended {α : Type} (name source kind : String) (attributes : Row) (result : Except Failure α) :
    Span where
  name := name
  source := source
  kind := kind
  attributes := attributes.filter fun e => !e.2.isNull
  failures :=
    match result with
    | .ok _ => []
    | .error f => [f]

end Span

end SearchClient
