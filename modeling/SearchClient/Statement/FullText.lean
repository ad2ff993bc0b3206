import SearchClient.Value.Entries
import SearchClient.Value.Numeral

/-!
# Full-text escapes

Characters that the full-text language reads as operators are written after a backslash to stand
for themselves. The strict profile covers every operator; the lenient one, for text that a user
writes, leaves alternatives, exclusions and phrases their meaning.
-/

namespace SearchClient.FullText

/-- Operators escaped in field names and in terms that are not safe. -/
def strict : List Char :=
  ['\\', '(', ')', '|', '-', '!', '@', '~', '"', '&', '/', '^', '$', '=', '<', '>']

/-- Operators escaped in free text. -/
def lenient : List Char :=
  ['\\', '(', ')', '!', '@', '~', '&', '/', '^', '$', '=', '<', '>']

/-- Profile for free text or for everything else. -/
def profile (isText : Bool) : List Char := if isText then lenient else strict

/-- One character, after a backslash if the profile holds it. -/
def escapeChar (chars : List Char) (c : Char) : List Char :=
  if chars.contains c then ['\\', c] else [c]

/-- A text with every character of the profile escaped. -/
def escape (chars : List Char) (cs : List Char) : List Char := cs.flatMap (escapeChar chars)

/-- Whether one list of characters stands somewhere inside another. -/
def occursIn (part : List Char) : List Char → Bool
  | [] => part.isEmpty
  | c :: rest => part.isPrefixOf (c :: rest) || occursIn part rest

/-- Whether a byte or some bytes stand inside bytes; nothing else can. -/
def isInBytes (bs : List UInt8) (v : Value) : Except Failure Bool :=
  match v with
  | .bytes part =>
    .ok (part.isEmpty || (List.range bs.length).any fun n => part.isPrefixOf (bs.drop n))
  | v =>
    match (Numeral.ofValue? v).bind Numeral.toInt? with
    | none => .error (.wrongKind "bytes hold bytes")
    | some n =>
      if 0 ≤ n ∧ n < 256 then .ok (bs.any fun b => (b.toNat : Int) == n)
      else .error (.badValue "byte must be in range(0, 256)")

/-- Whether a profile holds a value: a text holds its parts, a list its members, a mapping its
keys. -/
def isIn (profile v : Value) : Except Failure Bool :=
  match profile with
  | .bytes bs => isInBytes bs v
  | .list items | .tuple items => .ok (v.isAmong items)
  | .set _ items =>
    if v.isKey || v.isSet then .ok (v.isAmong items) else .error Value.noKey
  | .mapping entries =>
    if v.isKey then .ok (v.isAmong (entries.map (·.1))) else .error Value.noKey
  | profile =>
    match profile.asText?, v.asText? with
    | some chars, some part => .ok (occursIn part.toList chars.toList)
    | _, _ => .error (.wrongKind "a text holds texts only")

/-- A member of a walk as it is written: shown by its text after a backslash if the profile holds
it, else unchanged, in which case it has to be a text. -/
def escapeMember (v : Value) (held : Bool) : Except Failure String :=
  if held then v.written.map ("\\" ++ ·)
  else
    match v.asText? with
    | some s => .ok s
    | none => .error (.wrongKind "only texts can be joined")

/-- Escapes the members of a list by any profile. All of them are looked up first. -/
def escapeMembers (profile : Value) (items : List Value) : Except Failure String := do
  let held ← items.mapM (isIn profile)
  return String.join (← (items.zip held).mapM fun p => escapeMember p.1 p.2)

/-- Escapes a value that can be walked over by a profile of any kind; a text is walked by
characters. -/
def escapeValue (profile v : Value) : Except Failure String :=
  match profile.asText?, v.asText? with
  | some chars, some s => .ok (String.ofList (escape chars.toList s.toList))
  | _, _ =>
    match v.walk? with
    | some items => escapeMembers profile items
    | none => .error (.wrongKind "only what has members can be escaped")

/-- Profile for free text or for everything else, as a value. -/
def profileValue (isText : Bool) : Value := .str (String.ofList (profile isText))

/-- Escaping works piece by piece. -/
theorem escape_append (chars cs ds : List Char) :
    escape chars (cs ++ ds) = escape chars cs ++ escape chars ds := by
  simp [escape]

end SearchClient.FullText
