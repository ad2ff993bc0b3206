import SearchClient.Failure

/-!
# Arguments by place and by name

A call may give its arguments in order, by name, or both. Arguments that are missing, doubled,
unknown or too many are refused before anything happens.
-/

namespace SearchClient

/-- The names that a call takes. -/
structure Signature where
  required : List String := []
  optional : List String := []
  /-- Optional names that have no place in the order. -/
  named : List String := []

namespace Signature

/-- Names that have a place in the order. -/
def placed (s : Signature) : List String := s.required ++ s.optional

/-- Arguments by name, those in order first. -/
def bind {α : Type} (s : Signature) (args : List α) (given : List (String × α)) :
    Except Failure (List (String × α)) :=
  let places := s.placed.zip args
  let isKnown (e : String × α) : Bool :=
    (s.placed ++ s.named).contains e.1 && !places.any (·.1 == e.1)
  let bound := places ++ given
  if s.placed.length < args.length then .error (.wrongKind "too many arguments")
  else if !given.all isKnown then .error (.wrongKind "unexpected or repeated argument")
  else if !s.required.all fun name => bound.any (·.1 == name) then
    .error (.wrongKind "missing argument")
  else .ok bound

/-- An argument by its name. -/
def find? {α : Type} (bound : List (String × α)) (name : String) : Option α :=
  (bound.find? (·.1 == name)).map (·.2)

end Signature

end SearchClient
