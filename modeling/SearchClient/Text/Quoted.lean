import SearchClient.Text.Printable

/-!
# Quoted text

The written form of a text or of a byte string inside quotes, as it appears in messages and in
the text of a list. The quote is the single one, unless the content holds single quotes and no
double ones. Line controls have letters of their own; every other unprintable character is written
by its code in two, four or eight hexadecimal digits.
-/

namespace SearchClient.Text

/-- The lowest `width` hexadecimal digits of a number, in lower case. -/
def hexDigits : Nat → Nat → List Char
  | 0, _ => []
  | width + 1, n => hexDigits width (n / 16) ++ [Nat.digitChar (n % 16)]

/-- Quote that encloses the content. -/
def quoteFor (hasSingle hasDouble : Bool) : Char :=
  if hasSingle && !hasDouble then '"' else '\''

/-- Escape of a character that cannot stand for itself. -/
def escapeCode (n : Nat) : List Char :=
  if n < 0x100 then '\\' :: 'x' :: hexDigits 2 n
  else if n < 0x10000 then '\\' :: 'u' :: hexDigits 4 n
  else '\\' :: 'U' :: hexDigits 8 n

/-- One character inside quotes. -/
def quoteChar (quote c : Char) : List Char :=
  if c = quote || c = '\\' then ['\\', c]
  else if c = '\t' then ['\\', 't']
  else if c = '\n' then ['\\', 'n']
  else if c = '\r' then ['\\', 'r']
  else if isPrintable c then [c]
  else escapeCode c.toNat

/-- A text inside quotes. -/
def quoted (s : String) : String :=
  let cs := s.toList
  let quote := quoteFor (cs.contains '\'') (cs.contains '"')
  String.ofList (quote :: cs.flatMap (quoteChar quote) ++ [quote])

/-- One byte inside quotes: bytes outside ASCII are written by their code. -/
def quoteByte (quote : Char) (b : UInt8) : List Char :=
  if b.toNat < 0x7f then quoteChar quote (Char.ofNat b.toNat) else escapeCode b.toNat

/-- A byte string inside quotes, marked by a leading `b`. -/
def quotedBytes (bs : List UInt8) : String :=
  let quote := quoteFor (bs.contains 0x27) (bs.contains 0x22)
  String.ofList ('b' :: quote :: bs.flatMap (quoteByte quote) ++ [quote])

@[simp] theorem length_hexDigits (width n : Nat) : (hexDigits width n).length = width := by
  induction width generalizing n with
  | zero => rfl
  | succ w ih => simp [hexDigits, ih]

end SearchClient.Text
