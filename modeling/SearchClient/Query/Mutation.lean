import SearchClient.Failure.Report
import SearchClient.Query.Basic
import SearchClient.World

/-!
# Changing a query

Each change touches one clause of a query and makes the query dirty. A change may be refused; what
it had done before is kept then. A change of the filters is refused before anything is replaced.
-/

namespace SearchClient

/-- Whether an entry takes the place of all others of its clause or stands behind them. -/
inductive Placement where
  | replace
  | append
  deriving DecidableEq, Repr, Inhabited

/-- A change of a query. -/
inductive Mutation where
  | statement (statement : Value)
  | entities (source : EntityQuery) (column : Value)
  | select (columns : List Value)
  | selectMissing (column : Value)
  | indexes (names : List Value)
  | filter (placement : Placement) (column operator value : Value)
  | rawFilter (expression : Value)
  | alternatives (components : Value)
  | fullText (placement : Placement) (column text safe : Value)
  | rawFullText (placement : Placement) (combinator : Combinator) (text : Value)
  | group (placement : Placement) (column : Value)
  | groupOrder (placement : Placement) (column direction : Value)
  | having (placement : Placement) (column operator value : Value)
  | order (placement : Placement) (column direction : Value)
  | offset (first : Value)
  | limit (count : Value)
  | option (placement : Placement) (name value : Value)

/-- A change that was tried: the query behind it, and why it was refused, if it was. -/
structure Edit where
  query : Query
  aliases : AliasCounter
  events : List Event := []
  refusal : Option Failure := none

/-- Entries of a clause with one more. -/
def Placement.put {α : Type} (p : Placement) (entries : List α) (entry : α) : List α :=
  match p with
  | replace => [entry]
  | append => entries ++ [entry]

/-- Entries of a clause that an entry is put behind. -/
def Placement.kept {α : Type} (p : Placement) (entries : List α) : List α :=
  match p with
  | replace => []
  | append => entries

/-- Operator meant by a value: a member of the set, or its text in any case. -/
def Operator.ofValue? (v : Value) : Option Operator :=
  match v with
  | .keyword k => Operator.ofText? (Text.upper k.text)
  | v => v.written.toOption.bind fun s => Operator.ofText? (Text.upper s)

namespace Comparison

/-- Refusal of an argument, or what keeps its value from being written. -/
def refused (message argument : String) (value : Value) : Failure :=
  .arising (Failure.invalidArgument message (.str argument) value {})

/-- Refusal of an operator outside the set. The message names it. -/
def unknownOperator (operator : Value) : Failure :=
  .arising <| operator.written.bind fun shown =>
    Failure.invalidArgument (.str ("Invalid operator " ++ shown)) "operator" operator {}

/-- The operator and the value of a comparison; a value that stands alone brings its operator. -/
def operands (operator value : Value) : Value × Value :=
  match value with
  | .unset => (.keyword (.operator (if operator.isSequence then .isIn else .eq)), operator)
  | value => (operator, value)

/-- The comparison of a column with a value by an operator, whose value has the shape that the
operator needs. -/
def ofOperator (column : Value) (operator : Operator) (value : Value) :
    Except Failure Comparison :=
  if operator = .between ∧ ¬(value.isSequence ∧ value.members.length = 2) then
    .error (refused "BETWEEN operator expects a sequence with exactly 2 values" "value" value)
  else if operator.takesList ∧ ¬value.isSequence then
    .error (refused (operator.text ++ " operator expects a sequence of values") "value" value)
  else
    kind.create
      [("column", column), ("operator", .keyword (.operator operator)),
       ("value", if value.isSequence then .tuple value.members else value)]

/-- The comparison of a column with a value. Without an operator, a list of values is compared by
membership and any other value by equality. -/
def ofArguments (column operator value : Value) : Except Failure Comparison :=
  let (operator, value) := operands operator value
  match Operator.ofValue? operator with
  | some o => ofOperator column o value
  | none => .error (unknownOperator operator)

end Comparison

namespace Query

/-- Changes the clauses. -/
def update (q : Query) (f : Clauses → Clauses) : Query := { q with clauses := f q.clauses }

/-- Adds selected columns. -/
def addColumns (q : Query) (columns : List Value) : Query :=
  q.update fun c => { c with select := c.select ++ columns }

/-- Whether a column is selected. -/
def selects (q : Query) (column : Value) : Bool := column.isAmong q.clauses.select

/-- Binds a source of entities; the column is selected unless it is already. -/
def bind (q : Query) (source : EntityQuery) (column : Value) : Query :=
  let q := { q with binding := some { source, column } }
  if q.selects column || q.selects (.str "*") then q else q.addColumns [column]

/-- Adds a filter. -/
def addFilter (q : Query) (p : Placement) (c : Comparison) : Query :=
  q.update fun clauses =>
    { clauses with conditions := p.put clauses.conditions (.comparison c) }

end Query

namespace Edit

/-- A change that was made. -/
def done (q : Query) (aliases : AliasCounter) : Edit := { query := q, aliases }

/-- A change that was refused. -/
def refused (q : Query) (aliases : AliasCounter) (f : Failure) : Edit :=
  { query := q, aliases, refusal := some f }

/-- A change by an entry that may be refused. -/
def ofEntry {α : Type} (q : Query) (aliases : AliasCounter) (entry : Except Failure α)
    (put : α → Query) : Edit :=
  match entry with
  | .ok a => done (put a) aliases
  | .error f => refused q aliases f

end Edit

namespace Mutation

/-- Alternatives as one expression: each stands in parentheses; a single one only if it is a
conjunction. -/
def disjunction : List String → String
  | [component] =>
    if FullText.occursIn " AND ".toList component.toList then "(" ++ component ++ ")"
    else component
  | components =>
    "(" ++ " OR ".intercalate (components.map fun c => "(" ++ c ++ ")") ++ ")"

/-- Binds a copy of a source of entities. -/
def applyEntities (q : Query) (aliases : AliasCounter) (source : EntityQuery) (column : Value) :
    Edit :=
  let events := if source.traced then [.entityQueryCopied] else []
  match source.copyFailure with
  | some f => { query := q, aliases, events, refusal := some f }
  | none => { query := q.bind source column, aliases, events }

/-- Alternatives as texts: what a walk over their list visits, each written. -/
def alternativesOf (components : Value) : Except Failure (List String) :=
  match components.walk? with
  | some items => items.mapM Value.written
  | none => .error (.wrongKind "alternatives are a list of components")

/-- Selects the alternatives under a fresh alias and filters on it. -/
def applyAlternatives (q : Query) (aliases : AliasCounter) (components : Value) : Edit :=
  -- Until there is a name for the alternatives the query is not even dirty.
  match alternativesOf components with
  | .error f => .refused q aliases f
  | .ok [] => .done q aliases
  | .ok texts =>
    match aliases.draw with
    | (.error f, aliases) => .refused q aliases f
    | (.ok name, aliases) =>
      let q := q.dirtied.addColumns [.str (disjunction texts ++ " AS " ++ name)]
      .ofEntry q aliases
        (Comparison.ofArguments (.str name) (.keyword (.operator .eq)) (.int 1))
        (q.addFilter .append)

/-- Fields of a full-text term: a text is one field, anything else is walked over. -/
def fields (column : Value) : Except Failure Value :=
  match column.asText?, column.walk? with
  | some _, _ => .ok column
  | none, some items => .ok (.tuple items)
  | none, none => .error (.wrongKind "fields are a name or a list of names")

/-- The full-text term for some fields. -/
def term (column text safe : Value) : Except Failure MatchTerm := do
  let column ← fields column
  MatchTerm.kind.create [("column", column), ("text", text), ("safe", safe)]

/-- The raw full-text term of a text. -/
def rawTerm (combinator : Combinator) (text : Value) : Except Failure RawMatchTerm :=
  RawMatchTerm.kind.create [("text", text), ("combinator", .keyword (.combinator combinator))]

/-- The sort key of a column. -/
def sortKey (column direction : Value) : Except Failure OrderTerm :=
  OrderTerm.kind.create
    [("column", column), ("direction", .keyword (.direction (Direction.ofValue direction)))]

/-- The setting of a name. Both are written before the setting is checked. -/
def setting (name value : Value) : Except Failure OptionEntry := do
  let name ← name.written
  let value ← value.written
  OptionEntry.kind.create [("name", .str name), ("value", .str value)]

/-- Makes a change. -/
def apply (m : Mutation) (q : Query) (aliases : AliasCounter) : Edit :=
  let dirty := q.dirtied
  match m with
  | statement s => .done { dirty with raw := if s.isNull then none else some s } aliases
  | entities source column => applyEntities dirty aliases source column
  | select columns =>
    .done (dirty.addColumns (if columns.isEmpty then [.str "*"] else columns)) aliases
  | selectMissing column =>
    .done (if q.selects column then q else dirty.addColumns [column]) aliases
  | indexes names =>
    .done (dirty.update fun c => { c with indexes := c.indexes ++ names }) aliases
  | filter p column operator value =>
    .ofEntry dirty aliases (Comparison.ofArguments column operator value) (dirty.addFilter p)
  | rawFilter expression =>
    .ofEntry dirty aliases (Condition.rawKind.create [("expression", expression)]) fun e =>
      dirty.update fun c => { c with conditions := c.conditions ++ [.raw e] }
  | alternatives components => applyAlternatives q aliases components
  -- What a replacing term, key or setting takes the place of is gone even if it is refused.
  | fullText p column text safe =>
    let kept := dirty.update fun c => { c with terms := p.kept c.terms }
    .ofEntry kept aliases (term column text safe) fun t =>
      kept.update fun c => { c with terms := c.terms ++ [t] }
  -- Replacing raw terms drops the terms with fields and keeps the raw ones.
  | rawFullText p combinator text =>
    let kept := dirty.update fun c => { c with terms := p.kept c.terms }
    .ofEntry kept aliases (rawTerm combinator text) fun t =>
      kept.update fun c => { c with rawTerms := c.rawTerms ++ [t] }
  | group p column =>
    .done (dirty.update fun c => { c with groupBy := p.put c.groupBy column }) aliases
  | groupOrder p column direction =>
    let kept := dirty.update fun c => { c with groupOrder := p.kept c.groupOrder }
    .ofEntry kept aliases (sortKey column direction) fun t =>
      kept.update fun c => { c with groupOrder := c.groupOrder ++ [t] }
  | having p column operator value =>
    .ofEntry dirty aliases (Comparison.ofArguments column operator value) fun e =>
      dirty.update fun c => { c with having := p.put c.having (.comparison e) }
  | order p column direction =>
    let kept := dirty.update fun c => { c with order := p.kept c.order }
    .ofEntry kept aliases (sortKey column direction) fun t =>
      kept.update fun c => { c with order := c.order ++ [t] }
  | offset first => .done (dirty.update fun c => { c with offset := first }) aliases
  | limit count => .done (dirty.update fun c => { c with limit := count }) aliases
  | option p name value =>
    let kept := dirty.update fun c => { c with options := p.kept c.options }
    .ofEntry kept aliases (setting name value) fun t =>
      kept.update fun c => { c with options := c.options ++ [t] }

end Mutation

end SearchClient
