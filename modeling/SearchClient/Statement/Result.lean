import SearchClient.Record.Kind

/-!
# Results of statements

What a connection returns for one statement. A result of two columns or more can be folded into
named values: the first column names, the second is the value, and the last row of a name wins.
-/

namespace SearchClient

/-- Outcome of one statement that the engine answered. -/
structure StatementResult where
  rows : List Row := []
  /-- Rows returned or affected. -/
  rowCount : Int := 0
  /-- Whether the statement produced rows at all. -/
  returnsRows : Bool := false
  seconds : Float := 0

namespace StatementResult

/-- The name and the value that a row stands for; a row of fewer than two columns has none. -/
def pair? : Row → Option (String × Value)
  | (_, name) :: (_, value) :: _ => some (name.text, value)
  | _ => none

/-- Rows folded into named values. -/
def keyPairs (r : StatementResult) : Row := Row.ofEntries (r.rows.filterMap pair?)

/-- A row as a mapping. -/
def rowValue (row : Row) : Value := .mapping (row.map fun e => (.str e.1, e.2))

def kind : RecordKind StatementResult where
  title := "StatementResult"
  frozen := false
  fields r :=
    [("rows", .list (r.rows.map rowValue)), ("row_count", .int r.rowCount),
     ("returns_rows", .bool r.returnsRows), ("duration_seconds", .float r.seconds)]
  read given :=
    (Field.optional given "rows" Field.rows []
      |>.and (Field.optional given "row_count" Field.int 0)
      |>.and (Field.optional given "returns_rows" Field.bool false)
      |>.and (Field.optional given "duration_seconds"
        (fun v => Field.atLeast Numeric.Quantity.ofFloat 0 (Field.float v)) 0)).map fun p =>
        { rows := p.1.1.1, rowCount := p.1.1.2, returnsRows := p.1.2, seconds := p.2 }
  measures := ["duration_seconds"]

end StatementResult

end SearchClient
