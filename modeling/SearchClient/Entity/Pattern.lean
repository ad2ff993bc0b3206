/-!
# Text patterns

A pattern is a list of parts, each of which stands for any number of characters, for one character,
or for one of some characters. Patterns are written in two ways: with `%` and `_`, where the case
of ASCII letters does not count, or with `*`, `?` and classes in brackets, where it does.
-/

namespace SearchClient

/-- A part of a pattern. -/
inductive PatternPart where
  /-- Any number of characters. -/
  | many
  /-- One character that passes a test. -/
  | one (test : Char → Bool)

/-- A pattern for whole texts. -/
abbrev TextPattern := List PatternPart

namespace TextPattern

/-- Whether a pattern stands for a text. -/
def accepts : TextPattern → List Char → Bool
  | [], cs => cs.isEmpty
  | .many :: parts, cs => (List.range (cs.length + 1)).any fun n => accepts parts (cs.drop n)
  | .one test :: parts, cs =>
    match cs with
    | [] => false
    | c :: rest => test c && accepts parts rest

/-- Pattern in which `%` stands for any characters and `_` for one. -/
def ofLike (cs : List Char) : TextPattern :=
  cs.map fun c =>
    if c = '%' then .many
    else if c = '_' then .one fun _ => true
    else .one fun d => d.toLower == c.toLower

/-- Whether a class holds a character. A character before a hyphen may be the low end of a range. -/
def classHolds (c : Char) : Option Char → List Char → Bool
  | some low, '-' :: high :: rest => (low ≤ c && c ≤ high) || classHolds c none rest
  | _, d :: rest => c == d || classHolds c (some d) rest
  | _, [] => false

/-- The members of a class and what follows its closing bracket. A closing bracket that comes first
is a member. -/
def splitClass (cs : List Char) : Option (List Char × List Char) :=
  let (first, rest) := match cs with
    | ']' :: rest => ([']'], rest)
    | cs => ([], cs)
  match rest.dropWhile (· != ']') with
  | _ :: after => some (first ++ rest.takeWhile (· != ']'), after)
  | [] => none

/-- A class behind its opening bracket; a caret makes it stand for all other characters. -/
def readClass (cs : List Char) : Option (PatternPart × List Char) :=
  let (negated, cs) := match cs with
    | '^' :: rest => (true, rest)
    | cs => (false, cs)
  (splitClass cs).map fun p => (.one fun c => classHolds c none p.1 != negated, p.2)

/-- Parts of a pattern, as many as there may be. A class that does not end stands for nothing. -/
def globParts : Nat → List Char → TextPattern
  | _, [] => []
  | 0, _ => []
  | steps + 1, c :: rest =>
    if c = '*' then .many :: globParts steps rest
    else if c = '?' then (.one fun _ => true) :: globParts steps rest
    else if c = '[' then
      match readClass rest with
      | some (part, after) => part :: globParts steps after
      | none => [.one fun _ => false]
    else (.one (· == c)) :: globParts steps rest

/-- Pattern in which `*` stands for any characters, `?` for one, and a class for one of its
members. -/
def ofGlob (cs : List Char) : TextPattern := globParts cs.length cs

example : accepts (ofLike "A%".toList) "abc".toList = true := by decide
example : accepts (ofGlob "[a-b]".toList) "b".toList = true := by decide
example : accepts (ofGlob "*[^x]".toList) "ax".toList = false := by decide

end TextPattern

end SearchClient
