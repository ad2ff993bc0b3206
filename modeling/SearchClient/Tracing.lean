import SearchClient.World

/-!
# Tracing a call

A traced call runs inside a span of a fixed name. Attributes may be collected before the call; a
collection that fails is reported and costs the collected attributes only, so tracing never
changes the result of a call.
-/

namespace SearchClient

/-- How the spans of a call are built. -/
structure Tracing where
  name : String
  /-- Name of the source of the spans. -/
  source : String
  kind : String := "CLIENT"
  /-- Attributes written over those that every span has. -/
  attributes : Row := []

namespace Tracing

/-- Name of the spans of an operation: a given one that is not empty, or the operation's own. -/
def spanName (given : Option String) (operation : String) : String :=
  match given with
  | some name => if name.isEmpty then "sphinxql." ++ operation else name
  | none => "sphinxql." ++ operation

/-- Attributes that do not depend on the call. -/
def fixed (t : Tracing) : Row := Row.putAll Span.baseAttributes t.attributes

/-- Runs the collection of attributes, if there is one, and reports its failure. -/
def collect {σ : Type} (t : Tracing) (world : σ → (World → World) → σ)
    (collection : Option (σ → Except Failure Row × σ)) (s : σ) : Row × σ :=
  match collection with
  | none => (t.fixed, s)
  | some collection =>
    let (collected, s) := collection s
    (Span.merge t.fixed collected, world s (·.reportAny (Span.warning? t.name collected)))

/-- Runs a call inside a span. -/
def run {α σ : Type} (t : Tracing) (world : σ → (World → World) → σ)
    (collection : Option (σ → Except Failure Row × σ)) (call : σ → Except Failure α × σ) (s : σ) :
    Except Failure α × σ :=
  let (attributes, s) := t.collect world collection s
  let (result, s) := call s
  let span := Span.ended t.name t.source t.kind attributes result
  (result, world s (·.emit (.spanEnded span)))

end Tracing

end SearchClient
