import SearchClient.Failure
import SearchClient.Value.Equality

/-!
# Entities

Objects that stand behind the rows of a result. An entity query loads them by identifiers; what it
returns, in which order and whether it fails, is its own affair, and may depend on how often it
was asked.
-/

namespace SearchClient

/-- An object that can be found by an identifier. -/
structure Entity where
  label : String
  /-- How messages show the entity. -/
  shown : String
  attributes : Row := []

namespace Entity

/-- Value of an attribute. -/
def read (e : Entity) (name : Value) : Except Failure Value :=
  match name.asText? with
  | some s =>
    match e.attributes.get? s with
    | some v => .ok v
    | none => .error (.noAttribute ("'" ++ e.shown ++ "' has no attribute '" ++ s ++ "'"))
  | none => .error (.wrongKind "an attribute is named by a text")

end Entity

/-- A source of entities. -/
structure EntityQuery where
  /-- Loads entities by the values of a column, told how often it was asked before. -/
  load : Nat → Value → List Int → Except Failure (List Entity)
  /-- Reads the identifier of an entity. -/
  identifier : Entity → Value → Except Failure Value := Entity.read
  /-- Why the query cannot be copied. -/
  copyFailure : Option Failure := none
  /-- How often the query was asked. -/
  asked : Nat := 0
  /-- Whether loading and copying appear in the trace. -/
  traced : Bool := true

namespace EntityQuery

/-- Entities held in memory. Those are loaded whose column is one of the identifiers, or all of
them; the first loads fail as they are told to. -/
def ofEntities (entities : List Entity) (all : Bool) (failures : List Failure) : EntityQuery where
  load n column identifiers :=
    match failures[n]? with
    | some f => .error f
    | none =>
      .ok (if all then entities
        else entities.filter fun e =>
          match e.read column with
          | .ok v => v.isAmong (identifiers.map .int)
          | .error _ => false)

end EntityQuery

end SearchClient
