import SearchClient.Clause
import SearchClient.Failure.Report
import SearchClient.Statement.FullText
import SearchClient.Statement.Literal
import SearchClient.Text.Case
import SearchClient.Value.Number

/-!
# Statement text

The clauses of a query as one statement. Clauses follow a fixed order, and one without entries is
left out; the row window is always written with both its numbers. Values go through string
literals, full-text terms through the full-text escapes and then through one literal; columns,
indexes and raw expressions are written as they are given.
-/

namespace SearchClient

/-- Everything that makes up a statement. -/
structure Clauses where
  select : List Value := []
  indexes : List Value := []
  conditions : List Condition := []
  terms : List MatchTerm := []
  rawTerms : List RawMatchTerm := []
  groupBy : List Value := []
  groupOrder : List OrderTerm := []
  having : List Condition := []
  order : List OrderTerm := []
  offset : Value := .int 0
  limit : Value := .int 20
  options : List OptionEntry := []

/-- First row of a window unless another is asked for. -/
def defaultOffset : Int := 0

/-- Rows in a window unless another number is asked for. -/
def defaultLimit : Int := 20

/-- Direction meant by a value: descending for the word `desc` in any case, else ascending. -/
def Direction.ofValue (v : Value) : Direction :=
  match v.asText? with
  | some s => if Text.upper s = Direction.desc.text then .desc else .asc
  | none => .asc

/-- Texts in order with a separator between them. -/
def separated (separator : String) (parts : List (List Char)) : List Char :=
  List.intercalate separator.toList parts

/-- Every text but the first stands behind a separator. -/
theorem separated_cons (separator : String) (part : List Char) (parts : List (List Char)) :
    separated separator (part :: parts) = part ++ parts.flatMap (separator.toList ++ ·) := by
  induction parts generalizing part with
  | nil => simp [separated]
  | cons next rest ih =>
    rw [separated, List.intercalate_cons_cons, ← separated, ih, List.flatMap_cons,
      List.append_assoc, List.append_assoc]

namespace Render

/-- A value in a condition or an expression: numbers and truth values bare, nothing as `NULL`,
everything else as a literal. -/
def valueText : Value → List Char
  | .bool b => if b then ['1'] else ['0']
  | .int n => (toString n).toList
  | .null => "NULL".toList
  | v => Literal.quote v.text.toList

/-- A value in a condition or an expression, if it can be written. -/
def value (v : Value) : Except Failure (List Char) :=
  if v.isWritable then .ok (valueText v) else .error Value.tooLong

theorem value_of_isWritable {v : Value} (h : v.isWritable = true) : value v = .ok (valueText v) :=
  if_pos h

/-- A text as a literal; nothing else has one of its own. -/
def literal (v : Value) : Except Failure String :=
  match v, v.asText? with
  | _, some s => .ok (Literal.quoteText s)
  | .bytes _, none => .error (.wrongKind "a literal is made of a text")
  | _, none => .error (.noAttribute "a literal is made of a text")

/-- Texts of names; the first value that is no text is reported with its place. -/
def names (place : Nat) : List Value → Except Failure (List (List Char))
  | [] => .ok []
  | v :: rest =>
    match v.asText? with
    | some s => (names (place + 1) rest).map (s.toList :: ·)
    | none =>
      .error (.wrongKind ("sequence item " ++ toString place ++ ": expected str instance, " ++
        v.kindName ++ " found"))

/-- Names in order with a separator between them. -/
def nameList (separator : String) (vs : List Value) : Except Failure (List Char) :=
  (names 0 vs).map (separated separator)

/-- The two bounds of a range. -/
def bounds (v : Value) : Except Failure (Value × Value) :=
  match v.walk? with
  | some [lower, upper] => .ok (lower, upper)
  | some items =>
    if items.length < 2 then
      .error (.badValue ("not enough values to unpack (expected 2, got " ++
        toString items.length ++ ")"))
    else .error (.badValue "too many values to unpack (expected 2)")
  | none => .error (.wrongKind "a range has two bounds")

/-- Right-hand side of a comparison. -/
def operand (operator : Operator) (v : Value) : Except Failure (List Char) :=
  if operator = .between then do
    let (lower, upper) ← bounds v
    return (← value lower) ++ " AND ".toList ++ (← value upper)
  else if v.isSequence then
    (v.members.mapM value).map fun members => '(' :: separated ", " members ++ [')']
  else value v

/-- One filter. -/
def condition : Condition → Except Failure (List Char)
  | .raw expression => .ok expression.toList
  | .comparison c =>
    (operand c.operator c.value).map fun right =>
      c.column.toList ++ ' ' :: c.operator.text.toList ++ ' ' :: right

/-- Filters that must all hold. -/
def conditions (cs : List Condition) : Except Failure (List Char) :=
  (cs.mapM condition).map (separated " AND ")

/-- Fields that a term searches. -/
def target : MatchTarget → List Char
  | .field name => FullText.escape FullText.strict name.toList
  | .fields names =>
    '(' :: separated "," (names.map fun n => FullText.escape FullText.strict n.toList) ++ [')']

/-- One full-text term with its fields. -/
def matchTerm (t : MatchTerm) : List Char :=
  let text := if t.safe then t.text.toList else FullText.escape FullText.strict t.text.toList
  '@' :: target t.target ++ ' ' :: text

/-- A raw full-text term after others. -/
def joinedRawTerm (t : RawMatchTerm) : List Char :=
  t.combinator.text.toList ++ ' ' :: t.text.toList

/-- Raw full-text terms; the first is joined only if something precedes it. -/
def rawTerms (first : Bool) : List RawMatchTerm → List (List Char)
  | [] => []
  | t :: rest => (if first then t.text.toList else joinedRawTerm t) :: rest.map joinedRawTerm

/-- The full-text expression of some terms. -/
def matchExpression (terms : List MatchTerm) (raw : List RawMatchTerm) : List Char :=
  separated " " (terms.map matchTerm ++ rawTerms terms.isEmpty raw)

/-- The full-text filter of some terms. -/
def matching (terms : List MatchTerm) (raw : List RawMatchTerm) : List Char :=
  "MATCH(".toList ++ Literal.quote (matchExpression terms raw) ++ [')']

/-- Sort keys. -/
def order (terms : List OrderTerm) : List Char :=
  separated ", " (terms.map fun t => t.column.toList ++ ' ' :: t.direction.text.toList)

/-- The row window. Without a limit it is as long as the engine allows. -/
def window (maxMatches offset limit : Value) : Except Failure (List Char) := do
  -- Both numbers are read before one is written, and the offset is read first, so of two faults it
  -- is the one that shows.
  let first ← match offset with
    | .null => pure defaultOffset
    | v => v.toInt
  let count ← match limit with
    | .null => pure maxMatches
    | v => do pure (.int (← v.toInt))
  let first ← (Value.int first).written
  let count ← count.written
  return "LIMIT ".toList ++ first.toList ++ ", ".toList ++ count.toList

/-- Named settings. -/
def options (entries : List OptionEntry) : List Char :=
  separated ", " (entries.map fun o => o.name.toList ++ " = ".toList ++ o.value.toList)

/-- A clause that is left out when it has no entries. -/
def optionalClause (present : Bool) (keyword : String) (body : Except Failure (List Char)) :
    Except Failure (List (List Char)) :=
  if present then body.map fun text => [keyword.toList ++ text] else .ok []

end Render

namespace Clauses

/-- Refusal of an empty clause that every statement needs. -/
def missing (clause : String) (argument : String) : Failure :=
  .arising <| Failure.invalidArgument
    (.str ("You should add at least one " ++ clause ++ " clause")) (.str argument) .null {}

/-- The clauses of the statement, each as text. -/
def parts (q : Clauses) (maxMatches : Value) : Except Failure (List (List Char)) := do
  let select ← (Render.nameList ", " q.select).map ("SELECT ".toList ++ ·)
  let indexes ← (Render.nameList ", " q.indexes).map ("FROM ".toList ++ ·)
  let filter ← Render.optionalClause (!q.conditions.isEmpty) "WHERE "
    (Render.conditions q.conditions)
  let fullText ← Render.optionalClause (!q.terms.isEmpty || !q.rawTerms.isEmpty)
    (if q.conditions.isEmpty then "WHERE " else "AND ") (.ok (Render.matching q.terms q.rawTerms))
  let group ← Render.optionalClause (!q.groupBy.isEmpty) "GROUP BY "
    (Render.nameList ", " q.groupBy)
  let groupOrder ← Render.optionalClause (!q.groupOrder.isEmpty) "WITHIN GROUP ORDER BY "
    (.ok (Render.order q.groupOrder))
  let having ← Render.optionalClause (!q.having.isEmpty) "HAVING " (Render.conditions q.having)
  let order ← Render.optionalClause (!q.order.isEmpty) "ORDER BY " (.ok (Render.order q.order))
  let window ← Render.window maxMatches q.offset q.limit
  let options ← Render.optionalClause (!q.options.isEmpty) "OPTION "
    (.ok (Render.options q.options))
  return [select, indexes] ++ filter ++ fullText ++ group ++ groupOrder ++ having ++ order ++
    [window] ++ options

/-- The statement that the clauses make up. It needs a selected column and an index. -/
def compile (q : Clauses) (maxMatches : Value) : Except Failure String :=
  if q.select.isEmpty then .error (missing "SELECT" "select")
  else if q.indexes.isEmpty then .error (missing "FROM" "from")
  else (q.parts maxMatches).map fun ps => String.ofList (Text.trim (separated " " ps))

end Clauses

end SearchClient
