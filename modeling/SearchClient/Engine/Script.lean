import SearchClient.Engine.Reply
import SearchClient.Value.Equality

/-!
# Scripted engines

An engine that replies from a script. Each entry lists the replies to one statement in order, the
last of which repeats. An entry for any statement serves all those without an entry of their own,
except the one that asks for statistics.
-/

namespace SearchClient

/-- Replies to statements. -/
abbrev Script := List (String × List Reply)

namespace Script

/-- Name of the entry that serves any statement. -/
def wildcard : String := "*"

/-- Name of the entry that serves a statement. -/
def entryFor (script : Script) (statement : Value) : Option String :=
  match statement.asText?.bind fun s => script.find? (·.1 == s) with
  | some (name, _) => some name
  | none =>
    if statement.asText? == some metaStatement then none
    else (script.find? (·.1 == wildcard)).map (·.1)

/-- Replies of an entry. -/
def repliesOf (script : Script) (name : String) : List Reply :=
  match script.find? (·.1 == name) with
  | some (_, replies) => replies
  | none => []

/-- Reply at a place; the last one repeats, and without any the answer is empty. -/
def pick (replies : List Reply) (n : Nat) : Reply :=
  match replies[n]? with
  | some reply => reply
  | none => replies.getLast?.getD (.answer {})

/-- The engine that follows a script. -/
def engine (script : Script) : Engine := fun before statement =>
  match script.entryFor statement with
  | some name =>
    pick (script.repliesOf name)
      (before.countP fun earlier => script.entryFor earlier == some name)
  | none => .answer {}

end Script

end SearchClient
