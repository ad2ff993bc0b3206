import SearchClient.Record.Kind
import SearchClient.Value.Entries
import SearchClient.Value.Number

/-!
# Statistics of a statement

Named values that the engine reports about the last statement. A query that never asked for them
is told apart from one that asked and got none.
-/

namespace SearchClient

/-- The statistics kept with a query. -/
structure Metadata where
  state : MetadataState := .notRun
  values : Row := []
  deriving Inhabited

/-- Value of a name, which may be any value that can be a key. -/
def Row.lookUp (row : Row) (name fallback : Value) : Except Failure Value :=
  match name.asText? with
  | some s => .ok ((row.get? s).getD fallback)
  | none =>
    if name.isKey then .ok fallback else .error Value.noKey

namespace Metadata

/-- Statistics that were never asked for. -/
def notRun : Metadata := {}

/-- Statistics that were asked for and are missing. -/
def empty : Metadata := { state := .empty }

/-- Statistics as the engine reports them. -/
def ofPairs (pairs : Row) : Metadata :=
  if pairs.isEmpty then empty else { state := .populated, values := pairs }

/-- Whether statistics were asked for. -/
def hasRun (m : Metadata) : Bool := m.state != .notRun

/-- Matches that the engine found, however many rows it returned. -/
def totalFound (values : Row) : Except Failure Int :=
  ((values.get? "total_found").getD (.int 0)).toInt

/-- Seconds that the engine spent. -/
def time (values : Row) : Except Failure Float :=
  ((values.get? "time").getD (.int 0)).toFloat

def kind : RecordKind Metadata where
  title := "QueryMetadata"
  frozen := false
  fields m :=
    [("state", .keyword (.metadataState m.state)),
     ("values", .mapping (m.values.map fun e => (.str e.1, e.2)))]
  read given :=
    (Field.optional given "state" Field.metadataState .notRun
      |>.and (Field.optional given "values" Field.mapping [])).map fun p =>
        { state := p.1, values := p.2 }
  computed m name :=
    match name with
    | "has_run" => some (.ok (.bool m.hasRun))
    | "total_found" => some ((totalFound m.values).map .int)
    | "time" => some ((time m.values).map .float)
    | _ => none

theorem hasRun_ofPairs (pairs : Row) : (ofPairs pairs).hasRun = true := by
  unfold ofPairs
  split <;> rfl

theorem values_ofPairs (pairs : Row) : (ofPairs pairs).values = pairs := by
  unfold ofPairs
  split
  · rename_i h
    simpa [empty] using (List.isEmpty_iff.1 h).symm
  · rfl

end Metadata

end SearchClient
