import Mathlib.Data.List.Forall2
import SearchClient.Proofs.Json.Text
import SearchClient.Proofs.Numeric
import SearchClient.Value.Entries

/-!
# Reading JSON

What a JSON text says: nothing, a truth value, an integer, a text, a list, or a mapping from texts
whose members keep their order. Blanks may stand around every part. A number with a fraction or an
exponent is not read, as no value that is data here is written with one.

The text of a value is read back as this value. A value inside of others is read up to where its
text ends, whatever follows that does not go on as a number does, so one statement about a piece of
a text carries the induction.

## Key results

- `denotes_of_isData`: the text of data is legible, and is read as the data at any place
- `read?_of_denotes`: a text that is nothing else is read as the value it stands for
-/

namespace SearchClient

/-- Data: values built from nothing, truth values, integers, texts, lists, and mappings from
texts. -/
inductive Value.IsData : Value → Prop where
  | null : IsData .null
  | bool (b : Bool) : IsData (.bool b)
  | int (n : Int) : IsData (.int n)
  | str (s : String) : IsData (.str s)
  | list {items : List Value} (h : ∀ v ∈ items, IsData v) : IsData (.list items)
  | mapping {row : Row} (h : ∀ e ∈ row, IsData e.2) : IsData (.mapping (Cells.ofRow row))

namespace Json

variable {α : Type}

/-! ### The reader -/

/-- Whether a character may stand between the parts of a text. -/
def isGap (c : Char) : Bool := c == ' ' || c == '\t' || c == '\n' || c == '\r'

def skip (cs : List Char) : List Char := cs.dropWhile isGap

/-- Reads a natural number; of several digits the first is not zero. -/
def readNat : Reader Nat := fun cs =>
  match cs.takeWhile Char.isDigit with
  | [] => none
  | '0' :: _ :: _ => none
  | digits => some (Nat.ofDigitChars 10 digits 0, cs.dropWhile Char.isDigit)

def readInt : Reader Int := fun cs =>
  match cs with
  | '-' :: rest => (readNat rest).map (Prod.map (fun n : Nat => -(n : Int)) id)
  | cs => (readNat cs).map (Prod.map Int.ofNat id)

/-- Reads at most so many further items, each behind a comma, and what closes them. -/
def readMore (item : Reader α) (close : Char) : Nat → Reader (List α)
  | 0, _ => none
  | count + 1, cs =>
    match skip cs with
    | [] => none
    | c :: rest =>
      if c = close then some ([], rest)
      else if c = ',' then do
        let (a, rest) ← item rest
        (readMore item close count rest).map (Prod.map (a :: ·) id)
      else none

/-- Reads items behind the bracket that opens them. -/
def readItems (item : Reader α) (close : Char) : Reader (List α) := fun cs =>
  match skip cs with
  | [] => none
  | c :: rest =>
    if c = close then some ([], rest)
    else do
      let (a, rest) ← item cs
      -- There are no more items than characters.
      (readMore item close rest.length rest).map (Prod.map (a :: ·) id)

/-- Reads a name, a colon and what it names. -/
def readMember (value : Reader Value) : Reader (String × Value) := fun cs =>
  match skip cs with
  | '"' :: rest => do
    let (name, rest) ← readText rest
    match skip rest with
    | ':' :: rest => (value rest).map (Prod.map (name, ·) id)
    | _ => none
  | _ => none

/-- Reads a value in which there are at most so many brackets inside of each other. -/
def readValue : Nat → Reader Value
  | 0, _ => none
  | depth + 1, cs =>
    match skip cs with
    | 'n' :: 'u' :: 'l' :: 'l' :: rest => some (.null, rest)
    | 't' :: 'r' :: 'u' :: 'e' :: rest => some (.bool true, rest)
    | 'f' :: 'a' :: 'l' :: 's' :: 'e' :: rest => some (.bool false, rest)
    | '"' :: rest => (readText rest).map (Prod.map .str id)
    | '[' :: rest => (readItems (readValue depth) ']' rest).map (Prod.map .list id)
    | '\x7b' :: rest =>
      (readItems (readMember (readValue depth)) '\x7d' rest).map
        (Prod.map (fun row => .mapping (Cells.ofRow row)) id)
    | rest => (readInt rest).map (Prod.map .int id)

/-- The value that a whole text stands for. Brackets are no deeper than a text is long. -/
def read? (cs : List Char) : Option Value :=
  match readValue cs.length cs with
  | some (v, rest) => if (skip rest).isEmpty then some v else none
  | none => none

/-! ### Pieces of a text -/

/-- Whether a character closes a collection. -/
def isClosing (c : Char) : Bool := c == ']' || c == '\x7d'

/-- A piece of a text stands for something wherever it is: it is legible, it cannot be taken for a
gap or a bracket that closes something, and it is read up to its end. Readers may be bounded by the
depth of the brackets, for which the length of the piece is enough. -/
structure Denotes (read : Nat → Reader α) (piece : List Char) (a : α) : Prop where
  legible : Legible piece
  begins : ∃ c rest, piece = c :: rest ∧ isGap c = false ∧ isClosing c = false
  reads : ∀ depth, piece.length ≤ depth → ∀ rest, Numeric.Ends rest →
    read depth (piece ++ rest) = some (a, rest)

private theorem skip_cons {c : Char} (h : isGap c = false) (cs : List Char) :
    skip (c :: cs) = c :: cs :=
  List.dropWhile_cons_of_neg (by simp [h])

private theorem readValue_blank (depth : Nat) (cs : List Char) :
    readValue depth (' ' :: cs) = readValue depth cs := by
  cases depth with
  | zero => rfl
  | succ depth => rfl

private theorem readMember_blank (value : Reader Value) (cs : List Char) :
    readMember value (' ' :: cs) = readMember value cs := rfl

/-! ### Integers -/

private theorem readNat_toDigits (n : Nat) {rest : List Char} (hrest : Numeric.Ends rest) :
    readNat (Nat.toDigits 10 n ++ rest) = some (n, rest) := by
  have hstop : rest.takeWhile Char.isDigit = [] ∧ rest.dropWhile Char.isDigit = rest := by
    cases rest with
    | nil => exact ⟨rfl, rfl⟩
    | cons c cs =>
      have hc := hrest c rfl
      rw [Numeric.isNumeral, Bool.or_eq_false_iff] at hc
      simp [hc.1]
  unfold readNat
  rw [List.takeWhile_append_of_pos fun c => Numeric.isDigit_of_mem,
    List.dropWhile_append_of_pos fun c => Numeric.isDigit_of_mem, hstop.1, hstop.2, List.append_nil]
  split
  · exact absurd ‹_› Nat.toDigits_ne_nil
  · rename_i second more hdigits
    -- Only zero itself begins with a zero, and it has no second digit.
    rcases Nat.eq_zero_or_pos n with rfl | hn
    · have hlength : 1 = more.length + 2 := congrArg List.length hdigits
      omega
    · exact absurd (by rw [hdigits]; rfl) (Numeric.head?_toDigits hn)
  · rw [Nat.ofDigitChars_toDigits (by decide) (by decide)]

private theorem readInt_toString (n : Int) {rest : List Char} (hrest : Numeric.Ends rest) :
    readInt ((toString n).toList ++ rest) = some (n, rest) := by
  rw [Numeric.toList_toString]
  split
  · have hread : readInt (Nat.toDigits 10 n.toNat ++ rest) =
        (readNat (Nat.toDigits 10 n.toNat ++ rest)).map (Prod.map Int.ofNat id) := by
      unfold readInt
      split
      · rename_i cs hsign
        obtain ⟨d, ds, hdigits⟩ := List.exists_cons_of_ne_nil (Nat.toDigits_ne_nil (n := n.toNat))
        rw [hdigits] at hsign
        obtain rfl : d = '-' := (List.cons.inj hsign).1
        exact absurd (Numeric.isDigit_of_mem (hdigits ▸ List.mem_cons_self)) (by decide)
      · rfl
    rw [hread, readNat_toDigits _ hrest]
    simp
    omega
  · show (readNat (Nat.toDigits 10 (-n).toNat ++ rest)).map _ = _
    rw [readNat_toDigits _ hrest]
    simp
    omega

/-! ### Collections -/

/-- Parts behind the first, each with its comma and its blank. -/
private def continued (parts : List (List Char)) : List Char :=
  parts.flatMap fun part => ',' :: ' ' :: part

private theorem joined_cons (part : List Char) (parts : List (List Char)) :
    joined (part :: parts) = part ++ continued parts := by
  induction parts generalizing part with
  | nil => exact (List.append_nil part).symm
  | cons next parts ih =>
    rw [joined, ih next]
    · rfl
    · exact nofun

private theorem length_le_continued (parts : List (List Char)) :
    parts.length ≤ (continued parts).length := by
  induction parts with
  | nil => exact Nat.le_refl 0
  | cons part parts ih =>
    simp only [continued, List.flatMap_cons, List.length_append, List.length_cons] at ih ⊢
    omega

private theorem length_le_joined {parts : List (List Char)} {part : List Char}
    (h : part ∈ parts) : part.length ≤ (joined parts).length := by
  cases parts with
  | nil => exact nomatch h
  | cons first parts =>
    rw [joined_cons, List.length_append]
    rcases List.mem_cons.1 h with rfl | hmem
    · exact Nat.le_add_right _ _
    · have hinside : (',' :: ' ' :: part).Sublist (continued parts) :=
        List.sublist_flatten_of_mem (List.mem_map.2 ⟨part, hmem, rfl⟩)
      have hlength := hinside.length_le
      simp only [List.length_cons] at hlength
      omega

/-- What closes a collection is no gap, no comma and no part of a number. -/
private theorem closing_spec {c : Char} (h : isClosing c = true) :
    isGap c = false ∧ ',' ≠ c ∧ Numeric.isNumeral c = false ∧ ' ' ≤ c ∧ c ≤ '~' := by
  rw [isClosing, Bool.or_eq_true, beq_iff_eq, beq_iff_eq] at h
  rcases h with rfl | rfl
  · decide
  · decide

section Collections

variable {read : Nat → Reader α} {depth : Nat} {close : Char}

private theorem ends_continued (hclose : isClosing close = true) (parts : List (List Char))
    (rest : List Char) : Numeric.Ends (continued parts ++ close :: rest) := by
  cases parts with
  | nil => exact Numeric.ends_cons (closing_spec hclose).2.2.1 rest
  | cons part parts => exact Numeric.ends_cons (by decide) _

private theorem readMore_continued (hblank : ∀ cs, read depth (' ' :: cs) = read depth cs)
    (hclose : isClosing close = true) {parts : List (List Char)} {as : List α}
    (h : List.Forall₂ (Denotes read) parts as) (hdepth : ∀ part ∈ parts, part.length ≤ depth)
    {count : Nat} (hcount : parts.length ≤ count) (rest : List Char) :
    readMore (read depth) close (count + 1) (continued parts ++ close :: rest) =
      some (as, rest) := by
  obtain ⟨hgap, hcomma, -⟩ := closing_spec hclose
  induction h generalizing count with
  | nil =>
    show readMore (read depth) close (count + 1) (close :: rest) = some ([], rest)
    rw [readMore, skip_cons hgap]
    simp
  | @cons part a parts as hpart hparts ih =>
    obtain ⟨count, rfl⟩ := Nat.exists_eq_add_one_of_ne_zero (Nat.ne_zero_of_lt hcount)
    obtain ⟨hfirst, hothers⟩ := List.forall_mem_cons.1 hdepth
    have hmore : readMore (read depth) close (count + 1) (continued parts ++ close :: rest) =
        some (as, rest) :=
      ih hothers (Nat.le_of_succ_le_succ hcount)
    have hpiece : read depth (' ' :: (part ++ (continued parts ++ close :: rest))) =
        some (a, continued parts ++ close :: rest) := by
      rw [hblank]
      exact hpart.reads depth hfirst _ (ends_continued hclose parts rest)
    have htext : continued (part :: parts) ++ close :: rest =
        ',' :: ' ' :: (part ++ (continued parts ++ close :: rest)) := by
      simp [continued]
    rw [htext, readMore, skip_cons (by decide)]
    simp [hcomma, hpiece, hmore]

/-- Items with commas between them are read back, up to the bracket that closes them. -/
private theorem readItems_joined (hblank : ∀ cs, read depth (' ' :: cs) = read depth cs)
    (hclose : isClosing close = true) {parts : List (List Char)} {as : List α}
    (h : List.Forall₂ (Denotes read) parts as) (hdepth : ∀ part ∈ parts, part.length ≤ depth)
    (rest : List Char) :
    readItems (read depth) close (joined parts ++ close :: rest) = some (as, rest) := by
  cases h with
  | nil =>
    show readItems (read depth) close (close :: rest) = some ([], rest)
    rw [readItems, skip_cons (closing_spec hclose).1]
    simp
  | @cons part a parts as hpart hparts =>
    obtain ⟨c, cs, rfl, hgap, hclosing⟩ := hpart.begins
    obtain ⟨hfirst, hothers⟩ := List.forall_mem_cons.1 hdepth
    have hopen : c ≠ close := by
      rintro rfl
      exact absurd (hclose.symm.trans hclosing) (by decide)
    have hpiece := hpart.reads depth hfirst _ (ends_continued hclose parts rest)
    have hlength : (continued parts ++ close :: rest).length =
        (continued parts).length + rest.length + 1 := by
      rw [List.length_append, List.length_cons, Nat.add_assoc]
    have hcount : parts.length ≤ (continued parts).length + rest.length :=
      Nat.le_trans (length_le_continued parts) (Nat.le_add_right _ _)
    have hmore := readMore_continued hblank hclose hparts hothers hcount rest
    rw [← hlength] at hmore
    rw [joined_cons, List.append_assoc]
    rw [List.cons_append] at hpiece ⊢
    rw [readItems, skip_cons hgap]
    dsimp only
    rw [if_neg hopen, hpiece, Option.bind_eq_bind, Option.bind_some, hmore]
    rfl

end Collections

/-! ### Values -/

private theorem legible_joined {parts : List (List Char)} (h : ∀ part ∈ parts, Legible part) :
    Legible (joined parts) := by
  cases parts with
  | nil => exact nofun
  | cons first parts =>
    obtain ⟨hfirst, hothers⟩ := List.forall_mem_cons.1 h
    rw [joined_cons]
    refine hfirst.append fun c hc => ?_
    obtain ⟨part, hpart, hc⟩ := List.mem_flatMap.1 hc
    exact Legible.cons (by decide) (.cons (by decide) (hothers part hpart)) c hc

/-- A name and the piece of its value make the piece of a member. -/
private theorem Denotes.member {piece : List Char} {v : Value} (h : Denotes readValue piece v)
    (name : String) :
    Denotes (fun depth => readMember (readValue depth)) (quoted name ++ ':' :: ' ' :: piece)
      (name, v) where
  legible := (legible_quoted name).append (.cons (by decide) (.cons (by decide) h.legible))
  begins := ⟨'"', _, rfl, rfl, rfl⟩
  reads depth hdepth rest hrest := by
    have hlength : piece.length ≤ depth := by
      simp only [List.length_append, List.length_cons] at hdepth
      omega
    have htext : quoted name ++ ':' :: ' ' :: piece ++ rest =
        '"' :: (name.toList.flatMap escapeChar ++ '"' :: ':' :: ' ' :: (piece ++ rest)) := by
      simp [quoted]
    have hvalue : readValue depth (' ' :: (piece ++ rest)) = some (v, rest) := by
      rw [readValue_blank]
      exact h.reads depth hlength rest hrest
    rw [htext, readMember, skip_cons (by decide)]
    simp [readText_quoted, skip_cons, isGap, hvalue]

/-- The rendered members of a list of data are pieces for them. -/
private theorem exists_items {items : List Value}
    (h : ∀ v ∈ items, ∃ j, ofValue? v = .ok j ∧ Denotes readValue (render j) v) :
    ∃ js, ofValues? items = .ok js ∧
      List.Forall₂ (Denotes readValue) (renderItems js) items := by
  induction items with
  | nil => exact ⟨[], rfl, .nil⟩
  | cons v items ih =>
    obtain ⟨⟨j, hj, hpiece⟩, hothers⟩ := List.forall_mem_cons.1 h
    obtain ⟨js, hjs, hpieces⟩ := ih hothers
    refine ⟨j :: js, ?_, .cons hpiece hpieces⟩
    rw [ofValues?, hj, hjs]
    rfl

/-- The rendered members of a row of data are pieces for them. -/
private theorem exists_members {row : Row}
    (h : ∀ e ∈ row, ∃ j, ofValue? e.2 = .ok j ∧ Denotes readValue (render j) e.2) :
    ∃ members, ofRow? row = .ok members ∧
      List.Forall₂ (Denotes fun depth => readMember (readValue depth)) (renderMembers members)
        row := by
  induction row with
  | nil => exact ⟨[], rfl, .nil⟩
  | cons e row ih =>
    obtain ⟨⟨j, hj, hpiece⟩, hothers⟩ := List.forall_mem_cons.1 h
    obtain ⟨members, hmembers, hpieces⟩ := ih hothers
    refine ⟨(e.1, j) :: members, ?_, .cons (hpiece.member e.1) hpieces⟩
    rw [ofRow?, hj, hmembers]
    rfl

/-- A mapping whose keys are texts has the members of its row. -/
theorem ofEntries?_ofRow (row : Row) : ofEntries? (Cells.ofRow row) = ofRow? row := by
  induction row with
  | nil => rfl
  | cons e row ih =>
    show ofEntries? ((.str e.1, e.2) :: Cells.ofRow row) = _
    rw [ofEntries?, ih]
    rfl

/-- The pieces of the items of a collection, in brackets, are a piece for the collection. -/
private theorem Denotes.bracketed {read : Nat → Reader α} (make : List α → Value)
    {opening close : Char} (hlegible : ' ' ≤ opening ∧ opening ≤ '~')
    (hopening : isGap opening = false ∧ isClosing opening = false) (hclose : isClosing close = true)
    (hblank : ∀ depth cs, read depth (' ' :: cs) = read depth cs)
    (hread : ∀ depth cs, readValue (depth + 1) (opening :: cs) =
      (readItems (read depth) close cs).map (Prod.map make id))
    {pieces : List (List Char)} {as : List α} (h : List.Forall₂ (Denotes read) pieces as) :
    Denotes readValue (opening :: joined pieces ++ [close]) (make as) where
  legible := by
    have hpieces : ∀ piece ∈ pieces, Legible piece := by
      clear hread
      induction h with
      | nil => exact nofun
      | cons hpiece _ ih => exact List.forall_mem_cons.2 ⟨hpiece.legible, ih⟩
    obtain ⟨-, -, -, hend⟩ := closing_spec hclose
    exact .cons hlegible ((legible_joined hpieces).append (.cons hend nofun))
  begins := ⟨opening, _, rfl, hopening⟩
  reads depth hdepth rest _ := by
    rw [List.cons_append, List.length_cons, List.length_append] at hdepth
    obtain ⟨depth, rfl⟩ := Nat.exists_eq_add_one_of_ne_zero (Nat.ne_zero_of_lt hdepth)
    have hpieces : ∀ piece ∈ pieces, piece.length ≤ depth := fun piece hpiece => by
      have := length_le_joined hpiece
      omega
    have hitems := readItems_joined (hblank depth) hclose h hpieces rest
    rw [List.cons_append, List.cons_append, List.append_assoc, hread]
    exact congrArg _ hitems

private theorem legible_of_all {cs : List Char} (h : cs.all (fun c => ' ' ≤ c && c ≤ '~') = true) :
    Legible cs := fun c hc => by
  simpa using List.all_eq_true.1 h c hc

/-- A piece without brackets is read at any depth. -/
private theorem Denotes.flat {piece : List Char} {v : Value} (hlegible : Legible piece)
    (hbegins : ∃ c rest, piece = c :: rest ∧ isGap c = false ∧ isClosing c = false)
    (hread : ∀ depth rest, Numeric.Ends rest →
      readValue (depth + 1) (piece ++ rest) = some (v, rest)) :
    Denotes readValue piece v where
  legible := hlegible
  begins := hbegins
  reads depth hdepth rest hrest := by
    obtain ⟨c, cs, rfl, -⟩ := hbegins
    obtain ⟨depth, rfl⟩ := Nat.exists_eq_add_one_of_ne_zero (Nat.ne_zero_of_lt hdepth)
    exact hread depth rest hrest

private theorem Denotes.text (s : String) : Denotes readValue (quoted s) (.str s) :=
  .flat (legible_quoted s) ⟨'"', _, rfl, rfl, rfl⟩ fun depth rest _ => by
    have htext : quoted s ++ rest = '"' :: (s.toList.flatMap escapeChar ++ '"' :: rest) := by
      simp [quoted]
    rw [htext, readValue, skip_cons (by decide)]
    exact congrArg (Option.map (Prod.map Value.str id)) (readText_quoted s rest)

private theorem legible_numeral {c : Char} (h : Numeric.isNumeral c = true) :
    ' ' ≤ c ∧ c ≤ '~' := by
  rw [Numeric.isNumeral, Bool.or_eq_true] at h
  rcases h with hdigit | hsign
  · simp only [Char.isDigit, Bool.and_eq_true, decide_eq_true_eq] at hdigit
    exact ⟨Char.le_def.2 (UInt32.le_trans (by decide) hdigit.1),
      Char.le_def.2 (UInt32.le_trans hdigit.2 (by decide))⟩
  · obtain rfl := beq_iff_eq.1 hsign
    decide

private theorem Denotes.int (n : Int) : Denotes readValue (toString n).toList (.int n) := by
  have hlegible : Legible (toString n).toList := fun c hc =>
    legible_numeral (Numeric.isNumeral_of_mem hc)
  obtain ⟨c, cs, hcs⟩ := List.exists_cons_of_ne_nil (Numeric.toString_ne_nil n)
  have hc : isGap c = false ∧ isClosing c = false := by
    have hnumeral : Numeric.isNumeral c = true :=
      Numeric.isNumeral_of_mem (hcs ▸ List.mem_cons_self)
    have hother (d : Char) (hd : Numeric.isNumeral d = false) : c ≠ d := by
      rintro rfl
      exact absurd (hnumeral.symm.trans hd) (by decide)
    exact ⟨by simp [isGap, hother ' ' rfl, hother '\t' rfl, hother '\n' rfl, hother '\r' rfl],
      by simp [isClosing, hother ']' rfl, hother '\x7d' rfl]⟩
  refine .flat hlegible ⟨c, cs, hcs, hc⟩ fun depth rest hrest => ?_
  have hskip : skip ((toString n).toList ++ rest) = (toString n).toList ++ rest := by
    rw [hcs]
    exact skip_cons hc.1 _
  have hother {d : Char} (hd : Numeric.isNumeral d = false) (ds : List Char) :
      (toString n).toList ++ rest ≠ d :: ds :=
    Numeric.toString_append_ne_cons hd n rest ds
  rw [readValue, hskip]
  split
  · exact absurd ‹_› (hother (by decide) _)
  · exact absurd ‹_› (hother (by decide) _)
  · exact absurd ‹_› (hother (by decide) _)
  · exact absurd ‹_› (hother (by decide) _)
  · exact absurd ‹_› (hother (by decide) _)
  · exact absurd ‹_› (hother (by decide) _)
  · exact congrArg _ (readInt_toString n hrest)

/-- The text of data is legible, and is read as the data at any place. -/
theorem denotes_of_isData {v : Value} (h : v.IsData) :
    ∃ j, ofValue? v = .ok j ∧ Denotes readValue (render j) v := by
  induction h with
  | null =>
    exact ⟨.null, rfl, .flat (legible_of_all rfl)
      ⟨'n', _, rfl, rfl, rfl⟩ fun _ _ _ => rfl⟩
  | bool b =>
    refine ⟨.bool b, rfl, ?_⟩
    cases b with
    | true =>
      exact .flat (legible_of_all rfl) ⟨'t', _, rfl, rfl, rfl⟩
        fun _ _ _ => rfl
    | false =>
      exact .flat (legible_of_all rfl) ⟨'f', _, rfl, rfl, rfl⟩
        fun _ _ _ => rfl
  | int n => exact ⟨.int n, rfl, .int n⟩
  | str s => exact ⟨.text s, rfl, .text s⟩
  | list h ih =>
    obtain ⟨js, hjs, hpieces⟩ := exists_items ih
    refine ⟨.array js, ?_, ?_⟩
    · rw [ofValue?, hjs]
      rfl
    · rw [render]
      exact .bracketed .list (by decide) (by decide) rfl readValue_blank
        (fun _ _ => rfl) hpieces
  | mapping h ih =>
    obtain ⟨members, hmembers, hpieces⟩ := exists_members ih
    refine ⟨.object members, ?_, ?_⟩
    · rw [ofValue?, ofEntries?_ofRow, hmembers]
      rfl
    · rw [render]
      exact .bracketed (fun row => .mapping (Cells.ofRow row)) (by decide) (by decide) rfl
        (fun depth => readMember_blank (readValue depth)) (fun _ _ => rfl) hpieces

/-- A text that is nothing but a piece is read as what the piece stands for. -/
theorem read?_of_denotes {piece : List Char} {v : Value} (h : Denotes readValue piece v) :
    read? piece = some v := by
  have hread := h.reads piece.length (Nat.le_refl _) [] Numeric.ends_nil
  rw [List.append_nil] at hread
  rw [read?, hread]
  rfl

example : read? " \x7b\"k\" : [1 , -20, \"\\ud83d\\ude00\"]\x7d\n".toList =
    some (.mapping (Cells.ofRow
      [("k", .list [.int 1, .int (-20), .str (String.singleton (Char.ofNat 0x1f600))])])) := by
  rfl

end Json

end SearchClient
