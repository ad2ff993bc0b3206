import SearchClient.Value.Number

/-!
# Addresses

The part of an address that follows its scheme: perhaps the name of a user with a password, the
host, perhaps in brackets, and a port. Everything from the first slash or question mark behind the
user on is about something else.
-/

namespace SearchClient

/-- Where an engine is reached. -/
structure Address where
  host : Option String := none
  port : Option Int := none
  deriving DecidableEq, Repr, Inhabited

namespace Address

/-- What follows the last `@` of a text, all of it if there is none. -/
def afterLastAt (cs : List Char) : List Char := (cs.reverse.takeWhile (· != '@')).reverse

/-- Drops a user. A password begins at the first colon and ends at the next `@`; without one the
name of the user has no colon and no slash, and ends at its last `@`. -/
def dropUser (cs : List Char) : List Char :=
  let isEnd (c : Char) : Bool := c == ':' || c == '/'
  let name := cs.takeWhile (!isEnd ·)
  let rest := cs.dropWhile (!isEnd ·)
  match rest with
  | ':' :: secret =>
    if secret.contains '@' then (secret.dropWhile (· != '@')).drop 1 else afterLastAt name ++ rest
  | _ => afterLastAt name ++ rest

/-- Whether host and port are over at a character. -/
def isEnd (c : Char) : Bool := c == '/' || c == '?'

/-- A host that ends before a colon; an empty one is none. -/
def splitPlainHost (cs : List Char) : Option String × List Char :=
  let isHost (c : Char) : Bool := !isEnd c && c != ':'
  let host := cs.takeWhile isHost
  (if host.isEmpty then none else some (String.ofList host), cs.dropWhile isHost)

/-- The host and what follows it. Between brackets it may hold colons. -/
def splitHost (cs : List Char) : Option String × List Char :=
  match cs with
  | '[' :: rest =>
    match ((rest.takeWhile (!isEnd ·)).reverse.dropWhile (· != ']')) with
    | _ :: c :: inside =>
      let host := (c :: inside).reverse
      (some (String.ofList host), rest.drop (host.length + 1))
    | _ => splitPlainHost cs
  | _ => splitPlainHost cs

/-- The port behind a host, an integer behind a colon. -/
def readPort (cs : List Char) : Except Failure (Option Int) :=
  match cs with
  | ':' :: rest =>
    match rest.takeWhile (!isEnd ·) with
    | [] => .error (.wrongKind "a port is an integer")
    | digits => ((Value.str (String.ofList digits)).toInt).map some
  | _ => .ok none

/-- The address that follows a scheme. -/
def read (text : String) : Except Failure Address :=
  let (host, rest) := splitHost (dropUser text.toList)
  (readPort rest).map fun port => { host, port }

example : (read "u:p@[::1]:9306").toOption = some ⟨some "::1", some 9306⟩ := by decide +kernel
example : (read "h?x=1:9306").toOption = some ⟨some "h", none⟩ := by decide +kernel

/-- Without brackets a host has no colon, so a second one belongs to the port. -/
example : (read "::1:9306").toOption = none := by decide +kernel

end Address

end SearchClient
