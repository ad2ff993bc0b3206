import Mathlib.Algebra.Group.Nat.Defs
import Mathlib.Data.List.Basic
import SearchClient.Json

/-!
# Texts inside quotes

What a quoted text says. It is read as a sequence of units, each by itself or as an escape: an
escape of four digits holds a number below `2 ^ 16`, so that the characters beyond take two of them.
The units are put together to characters when the text has ended. Whatever the characters of a text
are, its quoted form is read back, and holds nothing but the characters from the blank to the tilde.

## Key results

- `readText_quoted`: a quoted text is read back, and reading stops behind its closing quote
- `legible_quoted`: a quoted text stays on its line and is ASCII
-/

namespace SearchClient.Json

/-- Reads something from the front of a text, and leaves the rest. -/
abbrev Reader (α : Type) := List Char → Option (α × List Char)

/-- Number that a hexadecimal digit stands for. -/
def hexValue? (c : Char) : Option Nat :=
  if '0' ≤ c ∧ c ≤ '9' then some (c.toNat - '0'.toNat)
  else if 'a' ≤ c ∧ c ≤ 'f' then some (10 + (c.toNat - 'a'.toNat))
  else if 'A' ≤ c ∧ c ≤ 'F' then some (10 + (c.toNat - 'A'.toNat))
  else none

/-- Number with some hexadecimal digits. -/
def hexNumber? (digits : List Char) : Option Nat :=
  digits.foldlM (fun n c => (hexValue? c).map (16 * n + ·)) 0

/-- Character that a letter behind a backslash stands for. -/
def escaped? (c : Char) : Option Char :=
  match c with
  | '"' | '\\' | '/' => some c
  | 'n' => some '\n'
  | 'r' => some '\r'
  | 't' => some '\t'
  | 'b' => some '\x08'
  | 'f' => some '\x0c'
  | _ => none

/-- Reads the units of a text up to the quote that closes it. A control has to be escaped. -/
def readUnits : Reader (List Nat)
  | [] => none
  | '"' :: rest => some ([], rest)
  | '\\' :: 'u' :: a :: b :: c :: d :: rest => do
    let n ← hexNumber? [a, b, c, d]
    (readUnits rest).map (Prod.map (n :: ·) id)
  | '\\' :: c :: rest => do
    let c ← escaped? c
    (readUnits rest).map (Prod.map (c.toNat :: ·) id)
  | c :: rest => if ' ' ≤ c then (readUnits rest).map (Prod.map (c.toNat :: ·) id) else none

/-- Character with some code; the halves of a pair are no characters. -/
def character? (n : Nat) : Option Char := if n.isValidChar then some (Char.ofNat n) else none

/-- Characters that some units make. The first and the second half of a pair make one. -/
def characters? : List Nat → Option (List Char)
  | [] => some []
  | [n] => (character? n).map ([·])
  | high :: low :: rest =>
    if 0xd800 ≤ high ∧ high < 0xdc00 ∧ 0xdc00 ≤ low ∧ low < 0xe000 then
      (character? (0x10000 + (high - 0xd800) * 0x400 + (low - 0xdc00))).bind fun c =>
        (characters? rest).map (c :: ·)
    else (character? high).bind fun c => (characters? (low :: rest)).map (c :: ·)

/-- Reads a text behind its opening quote. -/
def readText : Reader String := fun cs => do
  let (units, rest) ← readUnits cs
  return (String.ofList (← characters? units), rest)

/-- Nothing in a text leaves its line or is beyond ASCII. -/
def Legible (cs : List Char) : Prop := ∀ c ∈ cs, ' ' ≤ c ∧ c ≤ '~'

/-! ### Escapes -/

private theorem hexValue?_digitChar {d : Nat} (hd : d < 16) :
    hexValue? (Nat.digitChar d) = some d := by
  revert d
  decide

private theorem hexNumber?_hexDigits (width n : Nat) :
    hexNumber? (Text.hexDigits width n) = some (n % 16 ^ width) := by
  induction width generalizing n with
  | zero => simp [hexNumber?, Text.hexDigits, Nat.mod_one]
  | succ width ih =>
    have hfront := ih (n / 16)
    unfold hexNumber? at hfront ⊢
    have hsplit : n % 16 ^ (width + 1) = 16 * (n / 16 % 16 ^ width) + n % 16 := by
      rw [Nat.pow_succ', Nat.mod_mul]
      omega
    rw [Text.hexDigits, List.foldlM_append, hfront]
    simp [hexValue?_digitChar (Nat.mod_lt n (by decide : 16 > 0)), hsplit]

private theorem readUnits_unitEscape {n : Nat} (hn : n < 0x10000) (rest : List Char) :
    readUnits (unitEscape n ++ rest) = (readUnits rest).map (Prod.map (n :: ·) id) := by
  have hvalue : hexNumber? (Text.hexDigits 4 n) = some n := by
    rw [hexNumber?_hexDigits]
    exact congrArg some (Nat.mod_eq_of_lt hn)
  -- The four digits have to be seen for the reader to take them.
  have hlength := Text.length_hexDigits 4 n
  obtain ⟨a, b, c, d, hdigits⟩ := List.length_eq_four.1 hlength
  rw [hdigits] at hvalue
  rw [unitEscape, hdigits]
  show (do let n ← hexNumber? [a, b, c, d]; (readUnits rest).map (Prod.map (n :: ·) id)) = _
  rw [hvalue]
  rfl

/-- Units of a character: one, or the two halves of a pair. -/
def unitsOf (c : Char) : List Nat :=
  if c.toNat < 0x10000 then [c.toNat]
  else [0xd800 + (c.toNat - 0x10000) / 0x400, 0xdc00 + (c.toNat - 0x10000) % 0x400]

private theorem readUnits_codeEscape (c : Char) (rest : List Char) :
    readUnits (codeEscape c.toNat ++ rest) =
      (readUnits rest).map (Prod.map (unitsOf c ++ ·) id) := by
  unfold codeEscape unitsOf
  split
  · rw [readUnits_unitEscape ‹_›]
    rfl
  · have hvalid := c.valid
    have hcode : c.val.toNat = c.toNat := rfl
    dsimp only
    rw [List.append_assoc, readUnits_unitEscape (by omega), readUnits_unitEscape (by omega),
      Option.map_map]
    rfl

/-- A character is escaped by a letter that stands for it, stands for itself, or is escaped by its
code. -/
private theorem escapeChar_cases (c : Char) :
    (∃ letter, escapeChar c = ['\\', letter] ∧ escaped? letter = some c ∧
      ' ' ≤ letter ∧ letter ≤ '~') ∨
    (escapeChar c = [c] ∧ c ≠ '"' ∧ c ≠ '\\' ∧ ' ' ≤ c ∧ c ≤ '~') ∨
    escapeChar c = codeEscape c.toNat := by
  unfold escapeChar
  split
  · rename_i h
    simp only [Bool.or_eq_true, decide_eq_true_eq] at h
    rcases h with rfl | rfl
    · exact .inl ⟨'"', rfl, rfl, by decide⟩
    · exact .inl ⟨'\\', rfl, rfl, by decide⟩
  rename_i hspecial
  simp only [Bool.or_eq_true, decide_eq_true_eq, not_or] at hspecial
  split
  · subst_vars
    exact .inl ⟨'n', rfl, rfl, by decide⟩
  split
  · subst_vars
    exact .inl ⟨'r', rfl, rfl, by decide⟩
  split
  · subst_vars
    exact .inl ⟨'t', rfl, rfl, by decide⟩
  split
  · subst_vars
    exact .inl ⟨'b', rfl, rfl, by decide⟩
  split
  · subst_vars
    exact .inl ⟨'f', rfl, rfl, by decide⟩
  split
  · rename_i hplain
    simp only [Bool.and_eq_true, decide_eq_true_eq] at hplain
    exact .inr (.inl ⟨rfl, hspecial.1, hspecial.2, hplain⟩)
  · exact .inr (.inr rfl)

private theorem readUnits_letter {letter c : Char} (h : escaped? letter = some c)
    (rest : List Char) :
    readUnits ('\\' :: letter :: rest) =
      (readUnits rest).map (Prod.map (unitsOf c ++ ·) id) := by
  unfold escaped? at h
  split at h
  case h_9 => exact nomatch h
  all_goals
    obtain rfl := Option.some.inj h
    rfl

private theorem readUnits_plain {c : Char} (hquote : c ≠ '"') (hslash : c ≠ '\\')
    (hplain : ' ' ≤ c ∧ c ≤ '~') (rest : List Char) :
    readUnits (c :: rest) = (readUnits rest).map (Prod.map (unitsOf c ++ ·) id) := by
  have hunits : unitsOf c = [c.toNat] := by
    have htilde : c.toNat ≤ 126 := Char.le_def.1 hplain.2
    rw [unitsOf, if_pos (by omega)]
  rw [readUnits, if_pos hplain.1, hunits]
  · rfl
  · exact hquote
  · exact fun _ _ _ _ _ h _ => hslash h
  · exact fun _ _ h _ => hslash h

private theorem readUnits_escapeChar (c : Char) (rest : List Char) :
    readUnits (escapeChar c ++ rest) = (readUnits rest).map (Prod.map (unitsOf c ++ ·) id) := by
  rcases escapeChar_cases c with ⟨letter, hc, hletter, -⟩ | ⟨hc, hquote, hslash, hplain⟩ | hc
  · rw [hc]
    exact readUnits_letter hletter rest
  · rw [hc]
    exact readUnits_plain hquote hslash hplain rest
  · rw [hc]
    exact readUnits_codeEscape c rest

/-! ### Characters of the units -/

private theorem character?_toNat (c : Char) : character? c.toNat = some c := by
  have hvalid : c.toNat.isValidChar := c.valid
  rw [character?, if_pos hvalid, Char.ofNat_toNat]

private theorem characters?_cons {c : Char} (hc : c.toNat < 0x10000) (rest : List Nat) :
    characters? (c.toNat :: rest) = (characters? rest).map (c :: ·) := by
  cases rest with
  | nil => simp [characters?, character?_toNat]
  | cons low rest =>
    have hvalid := c.valid
    have hcode : c.val.toNat = c.toNat := rfl
    have hhalf : ¬(0xd800 ≤ c.toNat ∧ c.toNat < 0xdc00 ∧ 0xdc00 ≤ low ∧ low < 0xe000) := by
      intro h
      omega
    rw [characters?, if_neg hhalf, character?_toNat]
    rfl

private theorem characters?_unitsOf (c : Char) (rest : List Nat) :
    characters? (unitsOf c ++ rest) = (characters? rest).map (c :: ·) := by
  unfold unitsOf
  split
  · exact characters?_cons ‹_› rest
  · have hvalid := c.valid
    have hcode : c.val.toNat = c.toNat := rfl
    have hsum : 0x10000 + (0xd800 + (c.toNat - 0x10000) / 0x400 - 0xd800) * 0x400 +
        (0xdc00 + (c.toNat - 0x10000) % 0x400 - 0xdc00) = c.toNat := by
      omega
    rw [List.cons_append, List.cons_append, List.nil_append, characters?, if_pos (by omega), hsum,
      character?_toNat]
    rfl

/-! ### Whole texts -/

/-- A quoted text is read back, and reading stops behind its closing quote. -/
theorem readText_quoted (s : String) (rest : List Char) :
    readText (s.toList.flatMap escapeChar ++ '"' :: rest) = some (s, rest) := by
  have hunits (cs : List Char) :
      readUnits (cs.flatMap escapeChar ++ '"' :: rest) = some (cs.flatMap unitsOf, rest) := by
    induction cs with
    | nil => rfl
    | cons c cs ih =>
      rw [List.flatMap_cons, List.append_assoc, readUnits_escapeChar, ih]
      rfl
  have hcharacters (cs : List Char) : characters? (cs.flatMap unitsOf) = some cs := by
    induction cs with
    | nil => rfl
    | cons c cs ih =>
      rw [List.flatMap_cons, characters?_unitsOf, ih]
      rfl
  unfold readText
  rw [hunits]
  simp [hcharacters, String.ofList_toList]

/-! ### Legible characters -/

theorem Legible.append {front back : List Char} (hfront : Legible front) (hback : Legible back) :
    Legible (front ++ back) := by
  intro c hc
  rcases List.mem_append.1 hc with h | h
  · exact hfront c h
  · exact hback c h

theorem Legible.cons {c : Char} {cs : List Char} (hc : ' ' ≤ c ∧ c ≤ '~') (hcs : Legible cs) :
    Legible (c :: cs) :=
  List.forall_mem_cons.2 ⟨hc, hcs⟩

private theorem legible_hexDigits (width n : Nat) : Legible (Text.hexDigits width n) := by
  have hdigit : ∀ d < 16, ' ' ≤ Nat.digitChar d ∧ Nat.digitChar d ≤ '~' := by decide
  induction width generalizing n with
  | zero => exact nofun
  | succ width ih =>
    exact (ih (n / 16)).append (.cons (hdigit _ (Nat.mod_lt n (by decide))) nofun)

private theorem legible_unitEscape (n : Nat) : Legible (unitEscape n) :=
  .cons (by decide) (.cons (by decide) (legible_hexDigits 4 n))

private theorem legible_codeEscape (n : Nat) : Legible (codeEscape n) := by
  unfold codeEscape
  split
  · exact legible_unitEscape n
  · exact (legible_unitEscape _).append (legible_unitEscape _)

private theorem legible_escapeChar (c : Char) : Legible (escapeChar c) := by
  rcases escapeChar_cases c with ⟨letter, hc, -, hletter⟩ | ⟨hc, -, -, hplain⟩ | hc
  · rw [hc]
    exact .cons (by decide) (.cons hletter nofun)
  · rw [hc]
    exact .cons hplain nofun
  · rw [hc]
    exact legible_codeEscape c.toNat

/-- A quoted text stays on its line and is ASCII. -/
theorem legible_quoted (s : String) : Legible (quoted s) := by
  have hbody : Legible (s.toList.flatMap escapeChar) := by
    intro c hc
    obtain ⟨d, -, hd⟩ := List.mem_flatMap.1 hc
    exact legible_escapeChar d c hd
  exact .cons (by decide) (hbody.append (.cons (by decide) nofun))

end SearchClient.Json
