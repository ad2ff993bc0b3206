import SearchClient.Record.Field
import SearchClient.Value.Plain

/-!
# Kinds of records

A record kind says how records of one type are built from named values, which names they have,
and whether they may change. Building checks every field; changing a field checks the record as
it would become, so a record never holds a value that its kind refuses.

Notes may be pinned to any record, under names that begin with an underscore. They are no part of
it: a record is compared and reduced without them.
-/

namespace SearchClient

/-- How records of a type are built and seen as named values. -/
structure RecordKind (α : Type) where
  /-- Name of the kind, as messages show it. -/
  title : String
  /-- Whether a record is fixed once it is built. -/
  frozen : Bool
  /-- Fields in order, as a mapping. -/
  fields : α → Row
  /-- Reads the fields from named values; other names are ignored. -/
  read : Row → Checked α
  /-- Names computed from the fields. -/
  computed : α → String → Option (Except Failure Value) := fun _ _ => none
  /-- Fields that always hold a float, which is its own plain form. -/
  measures : List String := []

/-- A record and the notes that are pinned to it. -/
structure Annotated (α : Type) where
  record : α
  notes : Row := []

namespace RecordKind

variable {α : Type}

/-- Whether a name is one of a note. -/
def namesNote (name : String) : Bool := name.startsWith "_"

/-- Builds a record from named values. -/
def create (kind : RecordKind α) (given : Row) : Except Failure α :=
  (kind.read given).result.mapError (Failure.rejected kind.title)

/-- Refusal to change a name of a record. -/
def refusal (kind : RecordKind α) (name : String) (fault : Fault) : Failure :=
  .rejected kind.title [⟨[.field name], fault⟩]

/-- Value of a field, of a computed name or of a note. -/
def get (kind : RecordKind α) (a : Annotated α) (name : String) : Except Failure Value :=
  match (kind.fields a.record).get? name <|> a.notes.get? name with
  | some v => .ok v
  | none =>
    match kind.computed a.record name with
    | some answer => answer
    | none => .error (.noAttribute ("nothing is named '" ++ name ++ "'"))

/-- Record with one field changed. -/
def assign (kind : RecordKind α) (record : α) (name : String) (value : Value) :
    Except Failure α :=
  if kind.frozen then .error (kind.refusal name .frozen)
  else if ((kind.fields record).get? name).isSome then
    kind.create (Row.put (kind.fields record) name value)
  else if (kind.computed record name).isSome then
    .error (.noAttribute ("'" ++ name ++ "' cannot be set"))
  else .error (kind.refusal name (.unknownField name))

/-- Record with one field changed or one note pinned to it; even a fixed record takes notes. -/
def set (kind : RecordKind α) (a : Annotated α) (name : String) (value : Value) :
    Except Failure (Annotated α) :=
  if namesNote name then .ok { a with notes := Row.put a.notes name value }
  else (kind.assign a.record name value).map fun record => { a with record }

/-- Plain form of the value of a field. -/
def plainField (kind : RecordKind α) (name : String) (value : Value) : Except Failure Value :=
  if kind.measures.contains name then .ok value else value.plain

/-- Plain form of named values, without those that hold nothing. -/
def plainFields (kind : RecordKind α) : Row → Except Failure Row
  | [] => .ok []
  | (name, value) :: rest =>
    if value.isNull then kind.plainFields rest
    else do
      let first ← kind.plainField name value
      return (name, first) :: (← kind.plainFields rest)

/-- Fields in plain form, without those that hold nothing. -/
def toPlain (kind : RecordKind α) (record : α) : Except Failure Row :=
  kind.plainFields (kind.fields record)

/-- Whether two records have the same fields. -/
def same (kind : RecordKind α) (a b : α) : Bool :=
  Value.sameMembers ((kind.fields a).map (·.2)) ((kind.fields b).map (·.2))

end RecordKind

end SearchClient
