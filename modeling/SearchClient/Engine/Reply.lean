import SearchClient.Value.Entries
import SearchClient.Value.Numeral

/-!
# The engine

An engine is known by what it replies. It may take into account everything it was sent before. A
reply is an answer with rows and a count, or a refusal; an answer may still fail while its rows are
fetched or released.
-/

namespace SearchClient

/-- The statement that asks for the statistics of the statement before it. -/
def metaStatement : String := "SHOW META"

/-- An answer to a statement. The engine is not bound to say anything of the right kind. -/
structure Answer where
  columns : List Value := []
  rows : List (List Value) := []
  /-- Number of rows as the engine reports it. -/
  reported : Value := .int 0
  /-- Whether the statement produces rows. -/
  returnsRows : Value := .bool true
  /-- Why the rows cannot be fetched. -/
  fetchFailure : Option Failure := none
  /-- Why the answer cannot be released. -/
  releaseFailure : Option Failure := none
  /-- Time that the engine took. -/
  seconds : Float := 0
  deriving Inhabited

/-- What the engine says to a statement. -/
inductive Reply where
  | answer (a : Answer)
  | refusal (f : Failure)

/-- Replies to a statement after the statements that were sent before. -/
abbrev Engine := List Value → Value → Reply

namespace Answer

/-- Cells with the names of their columns; the last column of a name wins. -/
def rowOf (columns cells : List Value) : Except Failure Value :=
  let entries := columns.zip cells
  if entries.all (·.1.isKey) then .ok (.ofEntries entries) else .error Value.noKey

/-- The rows with the names of their columns. -/
def named (a : Answer) : Except Failure (List Value) := a.rows.mapM (rowOf a.columns)

/-- The rows that can be fetched: none if the statement produces none. -/
def fetched (a : Answer) : Except Failure (List Value) :=
  if a.returnsRows.isTruthy then
    match a.fetchFailure with
    | some f => .error f
    | none => a.named
  else .ok []

/-- The reported number of rows, or the number of fetched ones if none is known. -/
def count (a : Answer) (fetched : Nat) : Except Failure Value :=
  if a.reported.isNull then .ok (.int fetched)
  else do
    let isKnown ← (Numeral.whole 0).atMost (← Numeral.ofValue a.reported)
    return if isKnown then a.reported else .int fetched

theorem count_of_int (a : Answer) (fetched : Nat) {n : Int} (h : a.reported = .int n) :
    a.count fetched = .ok (.int (if 0 ≤ n then n else fetched)) := by
  have known : (Numeral.whole 0).atMost (.whole n) = .ok (decide (0 ≤ n)) :=
    Numeral.atMost_whole 0 n
  unfold count
  rw [h]
  change (do
    let isKnown ← (Numeral.whole 0).atMost (.whole n)
    return if isKnown then Value.int n else .int fetched) = _
  rw [known]
  by_cases low : 0 ≤ n <;> simp [low, bind, Except.bind, pure, Except.pure]

end Answer

end SearchClient
