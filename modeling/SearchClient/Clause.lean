import SearchClient.Record.Kind

/-!
# Clauses

The parts from which a statement is built. Each is a checked record: columns, names and raw
expressions are not empty, and operators, directions and joins are members of their closed sets.
-/

namespace SearchClient

/-- A comparison of a column with a value. -/
structure Comparison where
  column : String
  operator : Operator
  value : Value
  deriving Inhabited

/-- A filter: a comparison, or an expression that is written as it is given. -/
inductive Condition where
  | comparison (c : Comparison)
  | raw (expression : String)
  deriving Inhabited

/-- The fields that a full-text term searches. -/
inductive MatchTarget where
  | field (name : String)
  | fields (names : List String)
  deriving DecidableEq, Repr, Inhabited

/-- A full-text term for some fields. A safe term is full-text syntax already. -/
structure MatchTerm where
  target : MatchTarget
  text : String
  safe : Bool
  deriving DecidableEq, Repr, Inhabited

/-- A full-text expression that is joined to what precedes it, as it is given. -/
structure RawMatchTerm where
  text : String
  combinator : Combinator
  deriving DecidableEq, Repr, Inhabited

/-- A sort key. -/
structure OrderTerm where
  column : String
  direction : Direction
  deriving DecidableEq, Repr, Inhabited

/-- A named setting of a statement; both sides are written as they are given. -/
structure OptionEntry where
  name : String
  value : String
  deriving DecidableEq, Repr, Inhabited

namespace MatchTarget

/-- One field or several, read from a value. -/
def read (v : Value) : Checked MatchTarget :=
  ((Field.text v).map MatchTarget.field |>.under (.field "str")).either
    ((Field.texts v).map MatchTarget.fields |>.under (.field "tuple[str, ...]"))

def toValue : MatchTarget → Value
  | field name => .str name
  | fields names => .tuple (names.map .str)

end MatchTarget

namespace Comparison

def kind : RecordKind Comparison where
  title := "StructuredCondition"
  frozen := true
  fields c :=
    [("column", .str c.column), ("operator", .keyword (.operator c.operator)), ("value", c.value)]
  read given :=
    (Field.required given "column" Field.nonEmptyText
      |>.and (Field.required given "operator" Field.operator)).map fun p =>
        { column := p.1, operator := p.2, value := (given.get? "value").getD .null }

end Comparison

namespace Condition

/-- Kind of the conditions that are written as given. -/
def rawKind : RecordKind String where
  title := "RawCondition"
  frozen := true
  fields expression := [("expression", .str expression)]
  read given := Field.required given "expression" Field.nonEmptyText

end Condition

namespace MatchTerm

def kind : RecordKind MatchTerm where
  title := "MatchTerm"
  frozen := true
  fields t := [("column", t.target.toValue), ("text", .str t.text), ("safe", .bool t.safe)]
  read given :=
    (Field.required given "column" MatchTarget.read
      |>.and (Field.required given "text" Field.text)
      |>.and (Field.optional given "safe" Field.bool false)).map fun p =>
        { target := p.1.1, text := p.1.2, safe := p.2 }

end MatchTerm

namespace RawMatchTerm

def kind : RecordKind RawMatchTerm where
  title := "RawMatchTerm"
  frozen := true
  fields t := [("text", .str t.text), ("combinator", .keyword (.combinator t.combinator))]
  read given :=
    (Field.required given "text" Field.text
      |>.and (Field.optional given "combinator" Field.combinator .and)).map fun p =>
        { text := p.1, combinator := p.2 }

end RawMatchTerm

namespace OrderTerm

def kind : RecordKind OrderTerm where
  title := "OrderTerm"
  frozen := true
  fields t := [("column", .str t.column), ("direction", .keyword (.direction t.direction))]
  read given :=
    (Field.required given "column" Field.nonEmptyText
      |>.and (Field.optional given "direction" Field.direction .asc)).map fun p =>
        { column := p.1, direction := p.2 }

end OrderTerm

namespace OptionEntry

def kind : RecordKind OptionEntry where
  title := "OptionEntry"
  frozen := true
  fields t := [("name", .str t.name), ("value", .str t.value)]
  read given :=
    (Field.required given "name" Field.nonEmptyText
      |>.and (Field.required given "value" Field.text)).map fun p =>
        { name := p.1, value := p.2 }

end OptionEntry

end SearchClient
