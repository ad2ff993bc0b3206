import SearchClient.Entity.Basic
import SearchClient.Entity.Filter
import SearchClient.Failure.Report

/-!
# Entities from a table

An entity query over a table of articles with a numeric identifier, a group and a title. Filters
of the query narrow what it loads; rows come in the order of their identifiers.

The identifiers are parameters of the statement, behind those of the filters. A statement that
cannot be read is refused before its parameters are looked at.
-/

namespace SearchClient

/-- A row of the table. -/
structure Article where
  id : Int
  group : Value := .null
  title : Value := .null

namespace Article

/-- Names of the columns. -/
def columns : List String := ["id", "group_id", "title"]

/-- What a column holds by preference. -/
def affinity (column : String) : Affinity := if column = "title" then .text else .number

/-- Value in a column. -/
def column (a : Article) (name : String) : Value :=
  match name with
  | "id" => .int a.id
  | "group_id" => (affinity name).convert a.group
  | "title" => (affinity name).convert a.title
  | _ => .null

/-- The entity of a row. -/
def entity (a : Article) : Entity where
  label := "Article:" ++ toString a.id
  shown := "Article:" ++ toString a.id
  attributes := columns.map fun c => (c, a.column c)

/-- How messages show the entities' class. -/
def className : String := "<class '__main__.Article'>"

/-- Names that the class has besides its columns, with the kind of what they name. -/
def classNames : List (String × String) :=
  [("registry", "registry"), ("metadata", "MetaData"), ("__tablename__", "str"),
   ("__table__", "Table"), ("__mapper__", "Mapper"), ("__name__", "str"),
   ("__qualname__", "str"), ("__module__", "str"), ("__dict__", "mappingproxy")]

end Article

/-- A comparison that a row has to satisfy; its operator may be any text. -/
structure ArticleFilter where
  column : String
  operator : String
  value : Value

namespace ArticleFilter

/-- Whether a row satisfies a comparison. -/
def holds (f : ArticleFilter) (a : Article) : Bool :=
  match FilterOperator.ofText? f.operator with
  | some o => o.holds (Article.affinity f.column) (a.column f.column) f.value
  | none => false

/-- The comparison as the statement has it. -/
def text (f : ArticleFilter) : String := "(articles." ++ f.column ++ " " ++ f.operator ++ " ?)"

/-- Why the statement cannot be read at this comparison, if it cannot. -/
def refusal? (f : ArticleFilter) : Option String :=
  match FilterOperator.ofText? f.operator with
  | some _ => none
  | none => some (FilterOperator.refusal f.operator)

end ArticleFilter

/-- A statement with the values of its parameters. -/
structure BoundStatement where
  text : String
  parameters : List Value

namespace BoundStatement

/-- Characters that are shown of a parameter. -/
def parameterLength : Nat := 300

/-- Parameters that are shown. -/
def parameterCount : Nat := 100

/-- A parameter as messages show it, without the middle of a long one. -/
def parameterText (v : Value) : String :=
  let cs := v.literal.toList
  let half := parameterLength / 2
  if parameterLength < cs.length then
    String.ofList (cs.take half) ++ " ... (" ++ toString (cs.length - parameterLength) ++
      " characters truncated) ... " ++ String.ofList (cs.drop (cs.length - half))
  else v.literal

/-- Parameters as messages show them, without the middle of many. -/
def parametersText (vs : List Value) : String :=
  let shown (vs : List Value) : String := ", ".intercalate (vs.map parameterText)
  let half := parameterCount / 2
  if parameterCount < vs.length then
    "(" ++ shown (vs.take half) ++ " ... " ++ toString (vs.length - parameterCount) ++
      " parameters truncated ... " ++ shown (vs.drop (vs.length - half)) ++ ")"
  else "(" ++ shown vs ++ (if vs.length = 1 then "," else "") ++ ")"

/-- A refusal of the statement: its kind and reason, the statement, its parameters, and the page
that says more about the kind. -/
def refused (s : BoundStatement) (kind : FailureClass) (page reason : String) : Failure :=
  .raised kind
    ("(sqlite3." ++ kind.name ++ ") " ++ reason ++ "\n[SQL: " ++ s.text ++ "]\n[parameters: " ++
      parametersText s.parameters ++ "]\n(Background on this error at: https:" ++
      "//sqlalche.me/e/21/" ++ page ++ ")") none

/-- Refusal of a statement that cannot be read. -/
def unreadable (s : BoundStatement) (reason : String) : Failure :=
  s.refused .operational "e3q8" reason

/-- Why a value cannot be the parameter at a place, if it cannot. -/
def obstacle? (s : BoundStatement) (place : Nat) (v : Value) : Option Failure :=
  match v with
  | .int n =>
    if -(Numeric.pow2 63 : Int) ≤ n ∧ n < Numeric.pow2 63 then none
    else some (.raised .overflow "Python int too large to convert to SQLite INTEGER" none)
  | .list _ | .mapping _ =>
    some (s.refused .programming "f405" ("Error binding parameter " ++ toString place ++
      ": type '" ++ v.kindName ++ "' is not supported"))
  | _ => none

/-- Why the parameters cannot be bound, if they cannot: the first that cannot shows. Places are
counted from one. -/
def bindingFailure? (s : BoundStatement) : Option Failure :=
  (s.parameters.zipIdx 1).findSome? fun p => s.obstacle? p.2 p.1

end BoundStatement

/-- The table with the filters of a query over it. -/
structure ArticleQuery where
  rows : List Article
  filters : List ArticleFilter := []
  /-- Why the table cannot be read. -/
  failure : Option Failure := none

namespace ArticleQuery

private def before (a b : Article) : Bool := a.id ≤ b.id

/-- Whether a row's column is one of the identifiers. -/
def matchesAny (column : String) (identifiers : List Int) (a : Article) : Bool :=
  identifiers.any fun n =>
    FilterOperator.eq.holds (Article.affinity column) (a.column column) (.int n)

/-- Rows that the filters leave. -/
def selected (q : ArticleQuery) : List Article :=
  (q.rows.mergeSort before).filter fun a => q.filters.all (·.holds a)

/-- A value as a parameter: truth values are numbers. -/
def bare : Value → Value
  | .bool b => .int b.toInt
  | v => v

/-- The statement that loads the rows whose column is one of the identifiers. -/
def statement (q : ArticleQuery) (column : String) (identifiers : List Int) : BoundStatement where
  text :=
    "SELECT articles.id, articles.group_id, articles.title \nFROM articles \nWHERE " ++
      " AND ".intercalate (q.filters.map (·.text) ++
        ["articles." ++ column ++ " IN (" ++
          ", ".intercalate (List.replicate identifiers.length "?") ++ ")"])
  parameters := q.filters.map (fun f => bare f.value) ++ identifiers.map .int

/-- Why the rows cannot be read, if they cannot. -/
def obstacle? (q : ArticleQuery) (column : String) (identifiers : List Int) : Option Failure :=
  let s := q.statement column identifiers
  q.failure <|> (q.filters.findSome? (·.refusal?)).map s.unreadable <|> s.bindingFailure?

/-- Refusal of a name that is no column. -/
def noColumn (column : Value) (name : String) : Failure :=
  match Article.classNames.find? (·.1 == name) with
  | some (_, kind) => .noAttribute ("'" ++ kind ++ "' object has no attribute 'in_'")
  | none =>
    .hydration ("Entity " ++ Article.className ++ " has no attribute '" ++ column.text ++ "'")
      column {}

/-- Loads the entities whose column is one of the identifiers. -/
def load (q : ArticleQuery) (column : Value) (identifiers : List Int) :
    Except Failure (List Entity) :=
  match column.asText? with
  | none =>
    .error (.wrongKind ("attribute name must be string, not '" ++ column.kindName ++ "'"))
  | some name =>
    if Article.columns.contains name then
      match q.obstacle? name identifiers with
      | some f =>
        if f.kind.isA .database then
          .error (.hydration ("Loading entities by '" ++ column.text ++ "' failed: " ++ f.text)
            column { cause := some f })
        else .error f
      | none => .ok ((q.selected.filter (matchesAny name identifiers)).map Article.entity)
    else .error (noColumn column name)

/-- The query as a source of entities. -/
def toEntityQuery (q : ArticleQuery) : EntityQuery where
  load := fun _ => q.load
  traced := false

end ArticleQuery

end SearchClient
