import SearchClient.Text.Blank

/-!
# Files of variables

A text that sets variables line by line: `NAME=value`, perhaps after the word `export`. A value may
stand in quotes, and may then have escapes and several lines; a bare value ends before a blank and
a `#`. A name without `=` has no value, and a line that cannot be read is skipped. A value may
refer to variables by their names in braces after a dollar sign, perhaps with a default.
-/

namespace SearchClient.Dotenv

/-- What a name is set to; nothing if it has no value. -/
abbrev Binding := String × Option String

/-- Blanks within a line. -/
def isSpace (c : Char) : Bool := Text.isBlank c && c != '\n' && c != '\r'

/-- Whether a character ends a line. -/
def isBreak (c : Char) : Bool := c == '\n' || c == '\r'

/-- What is read, or where reading stopped. -/
abbrev Parse (α : Type) := Except (List Char) α

/-- Text with one kind of line end. -/
def unifyBreaks : List Char → List Char
  | [] => []
  | '\r' :: '\n' :: rest => '\n' :: unifyBreaks rest
  | c :: rest => (if c = '\r' then '\n' else c) :: unifyBreaks rest

/-- Drops the word `export` and the blanks behind it. -/
def dropExport (cs : List Char) : List Char :=
  let word := "export".toList
  if word.isPrefixOf cs then
    let rest := cs.drop word.length
    if rest.head?.any isSpace then rest.dropWhile isSpace else cs
  else cs

private def isNameChar (c : Char) : Bool := c != '=' && c != '#' && !Text.isBlank c

/-- The name that a line sets; a comment sets none. -/
def readName (cs : List Char) : Parse (Option String × List Char) :=
  match cs with
  | '#' :: _ => .ok (none, cs)
  | '\'' :: rest =>
    let name := rest.takeWhile (· != '\'')
    match name, rest.dropWhile (· != '\'') with
    | _ :: _, _ :: after => .ok (some (String.ofList name), after)
    | _, _ => .error cs
  | _ =>
    match cs.takeWhile isNameChar with
    | [] => .error cs
    | name => .ok (some (String.ofList name), cs.dropWhile isNameChar)

/-- Splits behind an opening quote, at the first quote that does not belong to a backslash. A
backslash belongs to the character behind it, so it frees no other. -/
def splitQuoted (quote : Char) : List Char → Option (List Char × List Char)
  | [] => none
  | '\\' :: c :: rest => (splitQuoted quote rest).map fun p => ('\\' :: c :: p.1, p.2)
  | c :: rest =>
    if c = quote then some ([], rest) else (splitQuoted quote rest).map fun p => (c :: p.1, p.2)

/-- Characters that stand for others behind a backslash in double quotes. -/
def doubleEscape (c : Char) : Option Char :=
  match c with
  | '\\' => some '\\'
  | '\'' => some '\''
  | '"' => some '"'
  | 'a' => some '\x07'
  | 'b' => some '\x08'
  | 'f' => some '\x0c'
  | 'n' => some '\n'
  | 'r' => some '\r'
  | 't' => some '\t'
  | 'v' => some '\x0b'
  | _ => none

/-- Characters that stand for themselves behind a backslash in single quotes. -/
def singleEscape (c : Char) : Option Char :=
  if c = '\\' ∨ c = '\'' then some c else none

/-- Replaces escapes; a backslash before any other character stays. -/
def unescape (table : Char → Option Char) : List Char → List Char
  | '\\' :: c :: rest =>
    match table c with
    | some d => d :: unescape table rest
    | none => '\\' :: unescape table (c :: rest)
  | c :: rest => c :: unescape table rest
  | [] => []

/-- A bare value without its comment: cut before the first blanks that a `#` follows. -/
def dropComment : List Char → List Char
  | [] => []
  | c :: rest =>
    if Text.isBlank c && (rest.dropWhile Text.isBlank).head? == some '#' then []
    else c :: dropComment rest

private def dropTrailingBlanks (cs : List Char) : List Char :=
  (cs.reverse.dropWhile Text.isBlank).reverse

/-- The value behind the `=` of a line. -/
def readValue (cs : List Char) : Parse (String × List Char) :=
  match cs with
  | '\'' :: rest =>
    match splitQuoted '\'' rest with
    | some (inside, after) => .ok (String.ofList (unescape singleEscape inside), after)
    | none => .error cs
  | '"' :: rest =>
    match splitQuoted '"' rest with
    | some (inside, after) => .ok (String.ofList (unescape doubleEscape inside), after)
    | none => .error cs
  | _ =>
    let bare := cs.takeWhile (!isBreak ·)
    .ok (String.ofList (dropTrailingBlanks (dropComment bare)), cs.dropWhile (!isBreak ·))

/-- The rest of a line behind its value: a comment at most. -/
def readEnd (cs : List Char) : Parse (List Char) :=
  let bare := cs.dropWhile isSpace
  let cs := if bare.head? == some '#' then bare.dropWhile (!isBreak ·) else cs
  match cs.dropWhile isSpace with
  | [] => .ok []
  | c :: rest => if isBreak c then .ok rest else .error cs

/-- The value of a name, if a `=` follows the name. A comment that stands alone behind blanks leaves
the value empty. -/
def readAssigned (cs : List Char) : Parse (Option String × List Char) :=
  match cs with
  | '=' :: rest =>
    let bare := rest.dropWhile isSpace
    if rest.head?.any isSpace && bare.head? == some '#' then .ok (some "", bare)
    else (readValue bare).map fun p => (some p.1, p.2)
  | _ => .ok (none, cs)

/-- One line: the binding it makes, if any. -/
def readLine (cs : List Char) : Parse (Option Binding × List Char) := do
  let (name, cs) ← readName (dropExport cs)
  let cs := cs.dropWhile isSpace
  let (value, cs) ← readAssigned cs
  let rest ← readEnd cs
  return (name.map fun n => (n, value), rest)

/-- Lines of a text, as many as there may be. -/
def readLines : Nat → List Char → List Binding
  | 0, _ => []
  | fuel + 1, cs =>
    match cs.dropWhile Text.isBlank with
    | [] => []
    | cs =>
      match readLine cs with
      | .ok (binding, rest) => binding.toList ++ readLines fuel rest
      -- A line that cannot be read is skipped from where reading stopped.
      | .error rest => readLines fuel ((rest.dropWhile (!isBreak ·)).drop 1)

/-- Text without the mark of its byte order. -/
def dropMark : List Char → List Char
  | '\ufeff' :: rest => rest
  | cs => cs

/-- Bindings that a text makes, in order. Each line takes at least one character. -/
def bindings (text : String) : List Binding :=
  let cs := unifyBreaks (dropMark text.toList)
  readLines cs.length cs

/-- A reference to a variable behind the dollar sign: its name, its default and what follows. -/
def readReference (cs : List Char) : Option (List Char × List Char × List Char) :=
  match cs with
  | '\x7b' :: rest =>
    let isEnd (c : Char) : Bool := c == '\x7d'
    let name := rest.takeWhile fun c => !isEnd c && c != ':'
    match rest.drop name.length with
    | ':' :: '-' :: more =>
      let fallback := more.takeWhile (!isEnd ·)
      match more.drop fallback.length with
      | _ :: after => some (name, fallback, after)
      | [] => none
    | c :: after => if isEnd c then some (name, [], after) else none
    | [] => none
  | _ => none

theorem length_of_readReference {cs name fallback after : List Char}
    (h : readReference cs = some (name, fallback, after)) : after.length ≤ cs.length := by
  unfold readReference at h
  split at h
  · dsimp only at h
    rename_i rest
    split at h
    · rename_i more eq
      split at h
      · rename_i tail eq'
        simp only [Option.some.injEq, Prod.mk.injEq] at h
        have := congrArg List.length eq
        have := congrArg List.length eq'
        simp only [List.length_drop, List.length_cons, h.2.2] at *
        omega
      · simp at h
    · rename_i tail eq
      split at h
      · simp only [Option.some.injEq, Prod.mk.injEq] at h
        have := congrArg List.length eq
        simp only [List.length_drop, List.length_cons, h.2.2] at *
        omega
      · simp at h
    · simp at h
  · simp at h

/-- A value with its references replaced. -/
def expand (lookUp : String → Option String) (cs : List Char) : List Char :=
  match cs with
  | [] => []
  | '$' :: rest =>
    match h : readReference rest with
    | some (name, fallback, after) =>
      have : after.length < rest.length + 1 := by
        have := length_of_readReference h
        omega
      ((lookUp (String.ofList name)).map String.toList).getD fallback ++ expand lookUp after
    | none => '$' :: expand lookUp rest
  | c :: rest => c :: expand lookUp rest
termination_by cs.length

/-- Last value of a name. -/
def latest (bs : List Binding) (name : String) : Option (Option String) :=
  (bs.reverse.find? (·.1 == name)).map (·.2)

/-- Bindings with references replaced, each by what was set before it or by a variable of the
environment. A name without a value counts as empty. -/
def resolve (environment : String → Option String) (done : List Binding) :
    List Binding → List Binding
  | [] => done
  | (name, value) :: rest =>
    let lookUp (n : String) : Option String :=
      match latest done n with
      | some v => some (v.getD "")
      | none => environment n
    let value := value.map fun v => String.ofList (expand lookUp v.toList)
    resolve environment (done ++ [(name, value)]) rest

/-- Binds a name in its place, or behind all others. -/
def put : List Binding → Binding → List Binding
  | [], b => [b]
  | (name, value) :: rest, b =>
    if name = b.1 then b :: rest else (name, value) :: put rest b

/-- Each name once, where it stands first, with its last value. -/
def distinct (bs : List Binding) : List Binding := bs.foldl put []

end SearchClient.Dotenv
