import SearchClient.Entity.Basic
import SearchClient.Failure.Report
import SearchClient.Metadata
import SearchClient.World

/-!
# Hydration

The rows of a result replaced by the entities behind them, in the order of the rows. Each row names
an entity by an integer in one column, which may have any name. An identifier without an entity is
skipped; an entity that no row names is reported and dropped; of several entities with one
identifier the last stays.
-/

namespace SearchClient.Hydration

/-- Channel of the reports. -/
def channel : String := "sphinxql.query.hydration"

/-- The identifier that a row names. -/
def rowIdentifier (column : Value) (row : Cells) : Except Failure Int :=
  match row.read column with
  | .ok v => v.toInt
  | .error f => .error f

/-- What a failure to read an identifier is turned into. A number that is out of range stays what
it is. -/
def unreadable (column : Value) (cause : Failure) : Failure :=
  if cause.kind.isA .key then
    .hydration ("Result rows do not contain the identifier column '" ++ column.text ++ "'") column
      { cause := some cause }
  else if cause.kind.isA .type || cause.kind.isA .value then
    .hydration ("Identifier column '" ++ column.text ++ "' holds a non-integer value") column
      { cause := some cause }
  else cause

/-- The identifiers that rows name, in order. -/
def identifiers (rows : List Cells) (column : Value) : Except Failure (List Int) :=
  (rows.mapM (rowIdentifier column)).mapError (unreadable column)

/-- Entities by the place of the row that names them, in rising order. -/
abbrev Ranking := List (Nat × Entity)

/-- Sets the entity of a place. -/
def Ranking.put : Ranking → Nat → Entity → Ranking
  | [], place, e => [(place, e)]
  | (p, e') :: rest, place, e =>
    if place < p then (place, e) :: (p, e') :: rest
    else if place = p then (place, e) :: rest
    else (p, e') :: Ranking.put rest place e

/-- Failures to read the identifier of an entity that mean it has none. -/
def isMissingIdentifier (f : Failure) : Bool :=
  f.kind.isA .attr || f.kind.isA .type || f.kind.isA .value

/-- The integer that an entity is found by. -/
def entityIdentifier (source : EntityQuery) (column : Value) (e : Entity) : Except Failure Int :=
  match source.identifier e column with
  | .ok v => v.toInt
  | .error f => .error f

/-- Report of an entity that no row names. -/
def stray (column : Value) (identifier : Int) : LogRecord where
  channel := channel
  severity := .warning
  message := "Hydrated entity was not part of the search result"
  fields := [("column", column), ("identifier", .int identifier)]

/-- Puts entities at the first places of their identifiers. -/
def rank (source : EntityQuery) (column : Value) (ids : List Int) :
    List Entity → Ranking → World → Except Failure Ranking × World
  | [], ranking, w => (.ok ranking, w)
  | e :: rest, ranking, w =>
    match entityIdentifier source column e with
    | .error f =>
      if isMissingIdentifier f then
        let f := .hydration ("Entity " ++ e.shown ++ " has no integer '" ++ column.text ++ "'")
          column { cause := some f }
        (.error f, w.note f)
      else (.error f, w.note f)
    | .ok id =>
      -- Rows that name one identifier share the place of the first.
      match ids.findIdx? (· == id) with
      | some place => rank source column ids rest (ranking.put place e) w
      | none => rank source column ids rest ranking (w.report (stray column id))

/-- What is left of loading entities: their list, the query behind the load, and the world. -/
structure Outcome where
  result : Except Failure (List Entity)
  source : EntityQuery
  world : World

/-- Loads the entities of some identifiers. -/
def fetch (source : EntityQuery) (column : Value) (ids : List Int) (w : World) : Outcome :=
  let w := if source.traced then w.emit (.entitiesFetched column ids) else w
  let asked := { source with asked := source.asked + 1 }
  match source.load source.asked column ids with
  | .ok entities => ⟨.ok entities, asked, w⟩
  | .error f =>
    if f.kind.isA .client then ⟨.error f, asked, w.note f⟩
    else
      let f := .hydration ("Entity query failed: " ++ f.text) column { cause := some f }
      ⟨.error f, asked, w.note f⟩

/-- The entities behind the rows of a result, in the order of the rows. -/
def hydrate (rows : List Cells) (source : EntityQuery) (column : Value) (w : World) : Outcome :=
  if rows.isEmpty then ⟨.ok [], source, w⟩
  else
    match identifiers rows column with
    | .error f => ⟨.error f, source, w.note f⟩
    | .ok ids =>
      let loaded := fetch source column ids w
      match loaded.result with
      | .error f => ⟨.error f, loaded.source, loaded.world⟩
      | .ok entities =>
        match rank source column ids entities [] loaded.world with
        | (.ok ranking, w) => ⟨.ok (ranking.map (·.2)), loaded.source, w⟩
        | (.error f, w) => ⟨.error f, loaded.source, w⟩

end SearchClient.Hydration
