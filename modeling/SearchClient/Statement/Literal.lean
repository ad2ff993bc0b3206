/-!
# String literals

A string literal stands between single quotes. Backslashes, both quotes and four controls are
written as a backslash and a letter, so a literal ends at its first bare single quote.
-/

namespace SearchClient.Literal

/-- One character inside a literal. -/
def escapeChar (c : Char) : List Char :=
  match c with
  | '\x00' => ['\\', '0']
  | '\n' => ['\\', 'n']
  | '\r' => ['\\', 'r']
  | '\x1a' => ['\\', 'Z']
  | '"' => ['\\', '"']
  | '\'' => ['\\', '\'']
  | '\\' => ['\\', '\\']
  | c => [c]

/-- A text as a literal. -/
def quote (cs : List Char) : List Char := '\'' :: cs.flatMap escapeChar ++ ['\'']

/-- A text as a literal. -/
def quoteText (s : String) : String := String.ofList (quote s.toList)

theorem toList_quoteText (s : String) : (quoteText s).toList = quote s.toList := by
  simp [quoteText]

end SearchClient.Literal
