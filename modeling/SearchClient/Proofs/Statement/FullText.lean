import Mathlib.Data.List.Forall2
import SearchClient.Proofs.Statement.Scan
import SearchClient.Statement.Render

/-!
# Reading full-text expressions back

The full-text language reads a backslash together with the character after it, which then stands
for itself. `marked` reads an expression that way: it gives the characters that are meant, each
with whether it was escaped, and nothing if the expression ends in the middle of an escape.

`Reads cs ops text` says that `cs` is read to its end, that `ops` are the operators which keep
their meaning, in order, and that `text` is what stands there without the escapes. It is closed
under concatenation, so it is enough to know it of every piece of a term.

`written` goes the other way: an expression can be had back from its reading. So an escaped text is
the only expression that is read as that text with just the characters of its profile escaped.

## Key results

- `reads_escape`: an escaped text is read as the text itself, without an operator
- `marked_eq_iff`: what is read as an escaped text is that text, escaped
- `escapeText_lossless`: both profiles lose nothing, and leave bare what they do not hold
- `reads_matchTerm`: the only operators of a term are those that name its fields
- `matching_reads_terms`: the same for the literal that `MATCH` is given
-/

namespace SearchClient

namespace FullText

/-- The characters that an expression means, each with whether it was escaped. -/
def marked : List Char → Option (List (Char × Bool))
  | [] => some []
  | '\\' :: c :: rest => (marked rest).map ((c, true) :: ·)
  | ['\\'] => none
  | c :: rest => (marked rest).map ((c, false) :: ·)

/-- Characters of the strict profile that were not escaped. -/
def operators (m : List (Char × Bool)) : List Char :=
  (m.filter fun p => !p.2 && strict.contains p.1).map (·.1)

/-- An expression that is read to its end, with its operators and its text. -/
def Reads (cs ops text : List Char) : Prop :=
  ∃ m, marked cs = some m ∧ operators m = ops ∧ m.map (·.1) = text

theorem marked_cons_of_ne {c : Char} (h : c ≠ '\\') (rest : List Char) :
    marked (c :: rest) = (marked rest).map ((c, false) :: ·) := by
  rw [marked]
  · exact fun _ _ hc _ => h hc
  · exact fun hc _ => h hc

/-- Reading goes on behind a piece that ends outside of an escape. -/
theorem marked_append {cs : List Char} {m : List (Char × Bool)} (h : marked cs = some m)
    (ds : List Char) : marked (cs ++ ds) = (marked ds).map (m ++ ·) := by
  induction cs using marked.induct generalizing m with
  | case1 =>
    obtain rfl : [] = m := Option.some.inj h
    simp
  | case2 c rest ih =>
    rw [marked] at h
    obtain ⟨n, hn, rfl⟩ := Option.map_eq_some_iff.1 h
    rw [List.cons_append, List.cons_append, marked, ih hn, Option.map_map]
    rfl
  | case3 => exact nomatch h
  | case4 c rest hpair hlone ih =>
    -- A backslash would be the first half of an escape, or a dangling one.
    have hc : c ≠ '\\' := Literal.ne_of_nil_of_cons hlone hpair
    rw [marked_cons_of_ne hc] at h
    obtain ⟨n, hn, rfl⟩ := Option.map_eq_some_iff.1 h
    rw [List.cons_append, marked_cons_of_ne hc, ih hn, Option.map_map]
    rfl

/-! ### Pieces of an expression -/

theorem operators_append (m n : List (Char × Bool)) :
    operators (m ++ n) = operators m ++ operators n := by
  simp [operators]

theorem reads_nil : Reads [] [] [] := ⟨[], rfl, rfl, rfl⟩

theorem Reads.append {cs ds ops more text rest : List Char} (hc : Reads cs ops text)
    (hd : Reads ds more rest) : Reads (cs ++ ds) (ops ++ more) (text ++ rest) := by
  obtain ⟨m, hm, rfl, rfl⟩ := hc
  obtain ⟨n, hn, rfl, rfl⟩ := hd
  refine ⟨m ++ n, ?_, operators_append m n, List.map_append⟩
  rw [marked_append hm, hn, Option.map_some]

/-- A character outside of the strict profile stands for itself. -/
theorem reads_of_not_mem {c : Char} (h : c ∉ strict) : Reads [c] [] [c] := by
  have hc : c ≠ '\\' := fun hc => h (hc ▸ by decide)
  refine ⟨[(c, false)], ?_, ?_, rfl⟩
  · rw [marked_cons_of_ne hc]
    rfl
  · simp [operators, h]

/-- An operator that is written bare keeps its meaning. -/
theorem reads_operator {c : Char} (h : c ∈ strict) (hc : c ≠ '\\') : Reads [c] [c] [c] := by
  refine ⟨[(c, false)], ?_, ?_, rfl⟩
  · rw [marked_cons_of_ne hc]
    rfl
  · simp [operators, h]

/-- A text escaped by a profile with the backslash is read as the text itself. -/
theorem marked_escape {chars : List Char} (h : '\\' ∈ chars) (cs : List Char) :
    marked (escape chars cs) = some (cs.map fun c => (c, chars.contains c)) := by
  induction cs with
  | nil => rfl
  | cons c cs ih =>
    rw [show c :: cs = [c] ++ cs from rfl, escape_append, List.map_append]
    -- One character at a time: an escape ends where its character ends.
    suffices hc : marked (escape chars [c]) = some [(c, chars.contains c)] by
      rw [marked_append hc, ih, Option.map_some]
      rfl
    by_cases hin : c ∈ chars
    · simp [escape, escapeChar, hin, marked]
    -- Here the profile has to hold the backslash: a bare one would take the next character.
    · have hne : c ≠ '\\' := fun hc => hin (hc ▸ h)
      simp [escape, escapeChar, hin, marked_cons_of_ne hne, marked]

/-- Under the strict profile no operator of a text keeps its meaning. -/
theorem reads_escape (cs : List Char) : Reads (escape strict cs) [] cs := by
  refine ⟨_, marked_escape (by decide) cs, ?_, ?_⟩
  · simp [operators]
  · rw [List.map_map]
    exact List.map_id cs

/-- Pieces with a separator between them that means nothing. -/
theorem reads_intercalate {α : Type} {sep : List Char} (hsep : Reads sep [] sep)
    {cs ops text : α → List Char} (xs : List α)
    (h : ∀ x ∈ xs, Reads (cs x) (ops x) (text x)) :
    Reads (List.intercalate sep (xs.map cs)) (xs.flatMap ops)
      (List.intercalate sep (xs.map text)) := by
  induction xs with
  | nil => exact reads_nil
  | cons x xs ih =>
    have hx := h x List.mem_cons_self
    have hxs := ih fun y hy => h y (List.mem_cons_of_mem _ hy)
    cases xs with
    | nil => simpa using hx
    | cons y ys =>
      simp only [List.map_cons, List.intercalate_cons_cons, List.flatMap_cons] at hxs ⊢
      simpa [List.append_assoc] using (hx.append hsep).append hxs

/-! ### Escaped texts -/

/-- A reading written out: its characters, each behind a backslash if it was escaped. -/
def written (m : List (Char × Bool)) : List Char :=
  m.flatMap fun p => if p.2 then ['\\', p.1] else [p.1]

/-- An expression can be had back from its reading. -/
theorem written_of_marked {cs : List Char} {m : List (Char × Bool)} (h : marked cs = some m) :
    written m = cs := by
  -- Along the reading: each of its steps is written back as what it has read.
  induction cs using marked.induct generalizing m with
  | case1 =>
    obtain rfl : [] = m := Option.some.inj h
    rfl
  | case2 c rest ih =>
    rw [marked] at h
    obtain ⟨n, hn, rfl⟩ := Option.map_eq_some_iff.1 h
    rw [written, List.flatMap_cons, ← written, ih hn]
    rfl
  | case3 => exact nomatch h
  | case4 c rest hpair hlone ih =>
    rw [marked_cons_of_ne (Literal.ne_of_nil_of_cons hlone hpair)] at h
    obtain ⟨n, hn, rfl⟩ := Option.map_eq_some_iff.1 h
    rw [written, List.flatMap_cons, ← written, ih hn]
    rfl

/-- The escaped text is the only expression that is read as the text with just the characters of
the profile escaped. -/
theorem marked_eq_iff {chars : List Char} (h : '\\' ∈ chars) (cs text : List Char) :
    marked cs = some (text.map fun c => (c, chars.contains c)) ↔ cs = escape chars text := by
  constructor
  -- Two expressions with one reading are both what that reading is written as.
  · intro hcs
    rw [← written_of_marked hcs, ← written_of_marked (marked_escape h text)]
  · rintro rfl
    exact marked_escape h text

/-- Different texts are escaped differently. -/
theorem escape_injective {chars : List Char} (h : '\\' ∈ chars) :
    Function.Injective (escape chars) := by
  intro cs ds hescape
  have hread := marked_escape h cs
  rw [hescape, marked_escape h] at hread
  have hpairs : Function.Injective fun c => (c, chars.contains c) :=
    fun _ _ hc => (Prod.mk.inj hc).1
  exact (List.map_injective_iff.2 hpairs (Option.some.inj hread)).symm

/-- Characters that were not escaped. -/
def bare (m : List (Char × Bool)) : List Char := (m.filter fun p => !p.2).map (·.1)

/-- Operators keep their meaning where they stand bare. -/
theorem operators_eq (m : List (Char × Bool)) :
    operators m = (bare m).filter strict.contains := by
  rw [operators, bare, List.filter_map, List.filter_filter]
  simp [Bool.and_comm]

/-- What a profile does not hold stays bare, in order. -/
theorem bare_map (chars text : List Char) :
    bare (text.map fun c => (c, chars.contains c)) = text.filter fun c => !chars.contains c := by
  rw [bare, List.filter_map, List.map_map]
  exact List.map_id _

theorem backslash_mem_profile (isText : Bool) : '\\' ∈ profile isText := by
  cases isText <;> decide

/-- Operators that free text keeps: alternatives, exclusions and phrases. -/
def kept (isText : Bool) : List Char := if isText then ['|', '-', '"'] else []

/-- A profile holds every operator but those that it keeps. -/
theorem kept_eq (isText : Bool) :
    kept isText = strict.filter fun c => !(profile isText).contains c := by
  cases isText <;> decide

/-- The operators of a text that is escaped by a profile are those that the profile keeps. -/
theorem operators_map (isText : Bool) (text : List Char) :
    operators (text.map fun c => (c, (profile isText).contains c)) =
      text.filter (kept isText).contains := by
  rw [operators_eq, bare_map, List.filter_filter, kept_eq]
  congr 1
  funext c
  rw [Bool.eq_iff_iff]
  simp

/-- A text escaped for free text or for everything else. -/
def escapeText (isText : Bool) (s : String) : String :=
  String.ofList (escape (profile isText) s.toList)

theorem toList_escapeText (isText : Bool) (s : String) :
    (escapeText isText s).toList = escape (profile isText) s.toList :=
  String.toList_ofList

/-- A text is escaped whatever it is, and by its characters. -/
theorem escapeValue_str (isText : Bool) (s : String) :
    escapeValue (profileValue isText) (.str s) = .ok (escapeText isText s) := by
  simp [escapeValue, profileValue, escapeText, Value.asText?]

/-- Neither profile loses anything. The escaped text is read to its end, and it is the only one with
its reading: the characters of the text in order, of which those that the profile does not hold
stand bare. The operators among these are the alternatives, exclusions and phrases of a free text,
and no others. Different texts are escaped differently, and a text is escaped piece by piece. -/
theorem escapeText_lossless (isText : Bool) (v : String) :
    escapeValue (profileValue isText) (.str v) = .ok (escapeText isText v) ∧
    (∃ m,
      (∀ out : String, marked out.toList = some m ↔ out = escapeText isText v) ∧
      m.map (·.1) = v.toList ∧
      bare m = v.toList.filter (fun c => !(profile isText).contains c) ∧
      operators m = v.toList.filter (kept isText).contains) ∧
    (∀ w, escapeText isText v = escapeText isText w ↔ v = w) ∧
    ∀ w, escapeText isText (v ++ w) = escapeText isText v ++ escapeText isText w := by
  have hback := backslash_mem_profile isText
  refine ⟨escapeValue_str isText v, ⟨_, fun out => ?_, ?_, bare_map _ _, operators_map _ _⟩,
    fun w => ⟨fun h => ?_, congrArg _⟩, fun w => ?_⟩
  · rw [marked_eq_iff hback, ← toList_escapeText, String.toList_inj]
  · rw [List.map_map]
    exact List.map_id _
  · have hlists := congrArg String.toList h
    rw [toList_escapeText, toList_escapeText] at hlists
    exact String.toList_inj.1 (escape_injective hback hlists)
  · rw [← String.toList_inj, String.toList_append]
    simp only [toList_escapeText, String.toList_append, escape_append]

end FullText

/-! ### Terms -/

/-- Operators that name the fields of a term. -/
def MatchTarget.operators : MatchTarget → List Char
  | .field _ => ['@']
  | .fields _ => ['@', '(', ')']

/-- Fields of a term as the caller gave them. -/
def MatchTarget.plain : MatchTarget → List Char
  | .field name => '@' :: name.toList
  | .fields names => '@' :: '(' :: separated "," (names.map String.toList) ++ [')']

/-- A term as the caller gave it. -/
def MatchTerm.plain (t : MatchTerm) : List Char := t.target.plain ++ ' ' :: t.text.toList

namespace Render

open FullText

private theorem reads_names (names : List String) :
    Reads (separated "," (names.map fun n => escape strict n.toList)) []
      (separated "," (names.map String.toList)) := by
  have hsep : Reads ",".toList [] ",".toList := reads_of_not_mem (c := ',') (by decide)
  have hnone : names.flatMap (fun _ => ([] : List Char)) = [] :=
    List.flatMap_eq_nil_iff.2 fun _ _ => rfl
  have hnames := reads_intercalate hsep names fun n _ => reads_escape n.toList
  rwa [hnone] at hnames

/-- The fields of a term are read back, and bring the operators that name fields. -/
theorem reads_target (t : MatchTarget) : Reads ('@' :: target t) t.operators t.plain := by
  have hat : Reads ['@'] ['@'] ['@'] := reads_operator (by decide) (by decide)
  cases t with
  | field name => exact hat.append (reads_escape name.toList)
  | fields names =>
    have hopen : Reads ['('] ['('] ['('] := reads_operator (by decide) (by decide)
    have hclose : Reads [')'] [')'] [')'] := reads_operator (by decide) (by decide)
    exact hat.append ((hopen.append (reads_names names)).append hclose)

/-- The operators of a term that is not safe are those that name its fields. -/
theorem reads_matchTerm {t : MatchTerm} (h : t.safe = false) :
    Reads (matchTerm t) t.target.operators t.plain := by
  have hspace : Reads [' '] [] [' '] := reads_of_not_mem (by decide)
  have htext := hspace.append (reads_escape t.text.toList)
  simpa [matchTerm, h, MatchTerm.plain] using (reads_target t.target).append htext

/-- The one literal of a full-text filter holds the expression. -/
theorem brings_matching (terms : List MatchTerm) (raw : List RawMatchTerm) :
    Literal.Brings (matching terms raw) [matchExpression terms raw] := by
  have hopen : '\'' ∉ "MATCH(".toList := by decide
  have hclose : '\'' ∉ [')'] := by decide
  exact ((Literal.brings_quote _).append_left hopen).append_right hclose

/-- Terms that are not safe cannot bring operators of their own. The literal that `MATCH` is given
is a sequence of pieces, one for each term and each read to its end; a piece has the operators
that name the fields of its term and no others, and without its escapes it is the term as the
caller gave it. So is the whole. -/
theorem matching_reads_terms (terms : List MatchTerm) (hsafe : ∀ t ∈ terms, t.safe = false) :
    ∃ pieces : List (List Char),
      Literal.scan (matching terms []) = .between [separated " " pieces] ∧
      List.Forall₂ (fun t piece => Reads piece t.target.operators t.plain) terms pieces ∧
      Reads (separated " " pieces) (terms.flatMap (·.target.operators))
        (separated " " (terms.map MatchTerm.plain)) := by
  refine ⟨terms.map matchTerm, ?_, ?_, ?_⟩
  · simpa [matchExpression, rawTerms] using (brings_matching terms []).scan_eq
  · rw [List.forall₂_map_right_iff, List.forall₂_same]
    exact fun t ht => reads_matchTerm (hsafe t ht)
  · have hspace : Reads " ".toList [] " ".toList := reads_of_not_mem (c := ' ') (by decide)
    exact reads_intercalate hspace terms fun t ht => reads_matchTerm (hsafe t ht)

/-- Fields and texts that are made of quotes, backslashes and operators. -/
theorem matching_reads_hostile_terms :
    let terms : List MatchTerm :=
      [⟨.field "ti'tle", "a\\", false⟩, ⟨.fields ["b", "c@"], "(x|y)'\"", false⟩]
    (∀ t ∈ terms, t.safe = false) ∧
      ∃ pieces : List (List Char),
        Literal.scan (matching terms []) = .between [separated " " pieces] ∧
        List.Forall₂ (fun t piece => Reads piece t.target.operators t.plain) terms pieces ∧
        Reads (separated " " pieces) ['@', '@', '(', ')']
          "@ti'tle a\\ @(b,c@) (x|y)'\"".toList :=
  ⟨by decide, matching_reads_terms _ (by decide)⟩

end Render

end SearchClient
