import SearchClient.Statement.Literal

/-!
# Reading string literals back

A reader goes over a text from left to right. Between two literals a single quote opens one;
inside a literal a backslash takes the next character with it, and the next bare single quote
closes the literal. What the reader leaves is the list of the closed literals, decoded, and where
it stands.

`read` is the reader of one literal: it stops at the closing quote and leaves what follows. A quoted
text is read by it whatever follows, and the scanner of a whole text reads each literal as it does
(`foldl_of_readBody`). Some readers take two quotes in a row inside a literal for one quote; then a
quoted text must not be followed by another quote, and anything else may follow it.

## Key results

- `read_quote_iff`: what may follow a quoted text for a reader to give it back
- `brings_quote`: a quoted text is read back as one literal, and that literal is the text
- `quote_append_inj`: what stands behind quoted texts does not make them alike
- `quoteText_delimits`: a literal ends by itself, loses nothing, and shows no control
- `Brings.append`, `BringsAll.intercalate`: literals of pieces are the literals of the whole
- `Brings.middle`: what has no quote can be cut off at both ends
-/

namespace SearchClient.Literal

/-- The character that a letter after a backslash stands for. -/
def unescapeChar (c : Char) : Char :=
  match c with
  | '0' => '\x00'
  | 'n' => '\n'
  | 'r' => '\r'
  | 'Z' => '\x1a'
  | c => c

/-- Where a reader stands: between literals, inside one, or after a backslash inside one. It knows
the literals that are closed and the part of the open one that it has read. -/
inductive Scan where
  | between (closed : List (List Char))
  | inside (closed : List (List Char)) (current : List Char)
  | escaped (closed : List (List Char)) (current : List Char)
  deriving DecidableEq, Repr

/-- Reads one character. -/
def Scan.step : Scan → Char → Scan
  | between closed, c => if c = '\'' then inside closed [] else between closed
  | inside closed current, c =>
    if c = '\\' then escaped closed current
    else if c = '\'' then between (closed ++ [current])
    else inside closed (current ++ [c])
  | escaped closed current, c => inside closed (current ++ [unescapeChar c])

/-- Reads a text. -/
def scan (cs : List Char) : Scan := cs.foldl Scan.step (.between [])

/-- A text that, read between two literals, is left between two literals and adds some. -/
def Brings (cs : List Char) (found : List (List Char)) : Prop :=
  ∀ closed, cs.foldl Scan.step (.between closed) = .between (closed ++ found)

/-! ### Pieces of a text -/

theorem Brings.scan_eq {cs : List Char} {found : List (List Char)} (h : Brings cs found) :
    scan cs = .between found := by
  simpa [scan] using h []

/-- What has no single quote brings no literal. -/
theorem brings_nil_of_notMem {cs : List Char} (h : '\'' ∉ cs) : Brings cs [] := by
  intro closed
  induction cs with
  | nil => simp
  | cons c cs ih =>
    have hc : c ≠ '\'' := fun hc => h (hc ▸ List.mem_cons_self)
    rw [List.foldl_cons, Scan.step, if_neg hc]
    exact ih fun hcs => h (List.mem_cons_of_mem _ hcs)

/-- The literals of two pieces, one after the other. -/
theorem Brings.append {cs ds : List Char} {found more : List (List Char)} (hc : Brings cs found)
    (hd : Brings ds more) : Brings (cs ++ ds) (found ++ more) := by
  intro closed
  rw [List.foldl_append, hc, hd, List.append_assoc]

/-- A quote-free piece in front changes no literal. -/
theorem Brings.append_left {cs ds : List Char} {found : List (List Char)}
    (hc : '\'' ∉ cs) (hd : Brings ds found) : Brings (cs ++ ds) found := by
  simpa using (brings_nil_of_notMem hc).append hd

/-- A quote-free piece at the end changes no literal. -/
theorem Brings.append_right {cs ds : List Char} {found : List (List Char)} (hc : Brings cs found)
    (hd : '\'' ∉ ds) : Brings (cs ++ ds) found := by
  simpa using hc.append (brings_nil_of_notMem hd)

/-- Pieces that bring some literals one after the other. -/
inductive BringsAll : List (List Char) → List (List Char) → Prop where
  | nil : BringsAll [] []
  | cons {piece : List Char} {pieces found more : List (List Char)} (hp : Brings piece found)
      (hps : BringsAll pieces more) : BringsAll (piece :: pieces) (found ++ more)

theorem bringsAll_singleton {piece : List Char} {found : List (List Char)}
    (h : Brings piece found) : BringsAll [piece] found := by
  simpa using BringsAll.cons h .nil

theorem BringsAll.append {ps qs found more : List (List Char)} (hp : BringsAll ps found)
    (hq : BringsAll qs more) : BringsAll (ps ++ qs) (found ++ more) := by
  induction hp with
  | nil => simpa using hq
  | cons hp hps ih =>
    rw [List.cons_append, List.append_assoc]
    exact .cons hp ih

/-- Members that are written out one by one. -/
theorem bringsAll_map {α : Type} {f : α → List Char} {g : α → List (List Char)} {xs : List α}
    (h : ∀ x ∈ xs, Brings (f x) (g x)) : BringsAll (xs.map f) (xs.flatMap g) := by
  induction xs with
  | nil => exact .nil
  | cons x xs ih =>
    exact .cons (h x List.mem_cons_self) (ih fun y hy => h y (List.mem_cons_of_mem _ hy))

/-- Pieces with a quote-free separator between them. -/
theorem BringsAll.intercalate {sep : List Char} (hsep : '\'' ∉ sep)
    {pieces found : List (List Char)} (h : BringsAll pieces found) :
    Brings (List.intercalate sep pieces) found := by
  induction h with
  | nil => exact brings_nil_of_notMem List.not_mem_nil
  | cons hp hps ih =>
    cases hps with
    | nil => simpa using hp
    | cons hq hqs =>
      -- The separator belongs to what follows it.
      rw [List.intercalate_cons_cons, List.append_assoc]
      exact hp.append (ih.append_left hsep)

/-! ### One literal -/

/-- A character is not `a` if it is not `a` with nothing, nor `a` with something behind it. -/
theorem ne_of_nil_of_cons {a c : Char} {rest : List Char} (hnil : c = a → rest = [] → False)
    (hcons : ∀ d ds, c = a → rest = d :: ds → False) : c ≠ a := by
  intro hc
  cases rest with
  | nil => exact hnil hc rfl
  | cons d ds => exact hcons d ds hc rfl

/-- Reads what stands behind an opening quote up to the closing one: the text of the literal, and
what is left. With `paired`, two quotes in a row do not close the literal but stand for one. -/
def readBody (paired : Bool) : List Char → Option (List Char × List Char)
  | [] | ['\\'] => none
  | '\\' :: c :: rest => (readBody paired rest).map (Prod.map (unescapeChar c :: ·) id)
  | '\'' :: '\'' :: rest =>
    if paired then (readBody paired rest).map (Prod.map ('\'' :: ·) id) else some ([], '\'' :: rest)
  | '\'' :: rest => some ([], rest)
  | c :: rest => (readBody paired rest).map (Prod.map (c :: ·) id)

/-- Reads the literal that a text begins with. -/
def read (paired : Bool) : List Char → Option (List Char × List Char)
  | '\'' :: rest => readBody paired rest
  | _ => none

/-- An escaped character is read as the character itself. -/
theorem readBody_escapeChar (paired : Bool) (c : Char) (rest : List Char) :
    readBody paired (escapeChar c ++ rest) =
      (readBody paired rest).map (Prod.map (c :: ·) id) := by
  unfold escapeChar
  split
  all_goals try rfl
  -- A character without an escape is neither a backslash nor a single quote.
  rename_i hquote hback
  rw [List.singleton_append, readBody]
  · exact fun hc _ => hback hc
  · exact fun _ _ hc _ => hback hc
  · exact fun _ hc _ => hquote hc
  · exact hquote

/-- An escaped text is read as the text itself, and reading goes on behind it. -/
theorem readBody_escape (paired : Bool) (cs rest : List Char) :
    readBody paired (cs.flatMap escapeChar ++ rest) =
      (readBody paired rest).map (Prod.map (cs ++ ·) id) := by
  induction cs with
  | nil =>
    rw [List.flatMap_nil, List.nil_append]
    cases readBody paired rest <;> rfl
  | cons c cs ih =>
    rw [List.flatMap_cons, List.append_assoc, readBody_escapeChar, ih, Option.map_map,
      Prod.map_comp_map]
    rfl

/-- A quote closes the literal, but with `paired` only if no other quote follows. -/
theorem readBody_quote_iff (paired : Bool) (rest : List Char) :
    readBody paired ('\'' :: rest) = some ([], rest) ↔
      (paired = true → rest.head? ≠ some '\'') := by
  cases rest with
  | nil => cases paired <;> decide
  | cons c rest =>
    by_cases hc : c = '\''
    · subst hc
      cases paired <;> simp [readBody]
    · rw [readBody]
      · simp [hc]
      · exact fun _ h => hc (List.cons.inj h).1

/-- A quoted text is read back, and what follows it is left, unless a quote follows that a reader of
paired quotes takes for a part of the text. -/
theorem read_quote_iff (paired : Bool) (cs rest : List Char) :
    read paired (quote cs ++ rest) = some (cs, rest) ↔
      (paired = true → rest.head? ≠ some '\'') := by
  -- The whole text is read when the reader comes to the closing quote.
  have hbody : read paired (quote cs ++ rest) =
      (readBody paired ('\'' :: rest)).map (Prod.map (cs ++ ·) id) := by
    rw [← readBody_escape, quote, List.cons_append, List.cons_append, List.append_assoc]
    rfl
  rw [hbody, ← readBody_quote_iff, Option.map_eq_some_iff]
  constructor
  · rintro ⟨⟨text, left⟩, hread, heq⟩
    obtain ⟨htext, rfl⟩ := Prod.mk.inj heq
    rwa [List.append_right_eq_self.1 htext] at hread
  · exact fun hread => ⟨([], rest), hread, by simp⟩

/-- A reader that does not pair quotes gives a quoted text back whatever follows it. -/
theorem read_quote (cs rest : List Char) : read false (quote cs ++ rest) = some (cs, rest) :=
  (read_quote_iff false cs rest).2 nofun

/-- What stands behind two quoted texts does not make them alike. -/
theorem quote_append_inj {cs ds r s : List Char} (h : quote cs ++ r = quote ds ++ s) :
    cs = ds ∧ r = s := by
  have hread := read_quote cs r
  rw [h, read_quote] at hread
  obtain ⟨rfl, rfl⟩ := Prod.mk.inj (Option.some.inj hread)
  exact ⟨rfl, rfl⟩

/-- Controls that a literal has only as an escape. -/
def controls : List Char := ['\x00', '\n', '\r', '\x1a']

theorem notMem_controls_of_escapeChar (d : Char) : ∀ c ∈ escapeChar d, c ∉ controls := by
  unfold escapeChar
  split
  -- A character without an escape is none of them.
  case h_8 hnull hline hreturn hsubstitute _ _ _ =>
    simpa [controls] using ⟨hnull, hline, hreturn, hsubstitute⟩
  all_goals simp [controls]

/-- A quoted text has none of the controls that are escaped. -/
theorem notMem_controls_of_quote (cs : List Char) : ∀ c ∈ quote cs, c ∉ controls := by
  have hquote : '\'' ∉ controls := by decide
  intro c hc
  rw [quote, List.mem_append, List.mem_cons, List.mem_flatMap, List.mem_singleton] at hc
  obtain (rfl | ⟨d, _, hd⟩) | rfl := hc
  · exact hquote
  · exact notMem_controls_of_escapeChar d c hd
  · exact hquote

/-- A text as a literal ends by itself and loses nothing. Reading it with anything behind gives the
text and leaves what stands behind; a reader that takes two quotes in a row for one does the same
exactly if no quote stands behind. No literal begins with the literal of another text, and none has
a bare line break, NUL or substitute character. -/
theorem quoteText_delimits (v : String) :
    (∀ (paired : Bool) (rest : String),
      read paired (quoteText v ++ rest).toList = some (v.toList, rest.toList) ↔
        (paired = true → rest.toList.head? ≠ some '\'')) ∧
    (∀ w : String, (quoteText v).toList <+: (quoteText w).toList ↔ v = w) ∧
    ∀ c ∈ (quoteText v).toList, c ∉ controls := by
  refine ⟨fun paired rest => ?_, fun w => ⟨?_, ?_⟩, ?_⟩
  · rw [String.toList_append, toList_quoteText]
    exact read_quote_iff paired v.toList rest.toList
  · rintro ⟨rest, hrest⟩
    rw [toList_quoteText, toList_quoteText, ← List.append_nil (quote w.toList)] at hrest
    exact String.toList_inj.1 (quote_append_inj hrest).1
  · rintro rfl
    exact List.prefix_rfl
  · rw [toList_quoteText]
    exact notMem_controls_of_quote v.toList

/-! ### Literals of a text -/

/-- The scanner of a text reads a literal as the reader of one literal does. -/
theorem foldl_of_readBody {cs text rest : List Char} (h : readBody false cs = some (text, rest))
    (closed : List (List Char)) (current : List Char) :
    cs.foldl Scan.step (.inside closed current) =
      rest.foldl Scan.step (.between (closed ++ [current ++ text])) := by
  fun_induction readBody false cs generalizing text current with
  | case1 | case2 => exact nomatch h
  | case3 c cs ih =>
    obtain ⟨⟨text, rest⟩, hread, heq⟩ := Option.map_eq_some_iff.1 h
    obtain ⟨rfl, rfl⟩ := Prod.mk.inj heq
    have hrest := ih hread (current ++ [unescapeChar c])
    rwa [List.append_assoc, List.singleton_append] at hrest
  | case4 cs hpaired => exact nomatch hpaired
  | case5 | case6 =>
    obtain ⟨rfl, rfl⟩ := Prod.mk.inj (Option.some.inj h)
    rw [List.append_nil]
    rfl
  | case7 c cs hlone hpair _ hquote ih =>
    obtain ⟨⟨text, rest⟩, hread, heq⟩ := Option.map_eq_some_iff.1 h
    obtain ⟨rfl, rfl⟩ := Prod.mk.inj heq
    -- A backslash would be the first half of an escape, or a dangling one.
    have hback : c ≠ '\\' := ne_of_nil_of_cons hlone hpair
    have hrest := ih hread (current ++ [c])
    rw [List.append_assoc, List.singleton_append] at hrest
    rwa [List.foldl_cons, Scan.step, if_neg hback, if_neg hquote]

/-- A quoted text is one literal, and that literal is the text. -/
theorem brings_quote (cs : List Char) : Brings (quote cs) [cs] := by
  intro closed
  have hread := read_quote cs []
  rw [List.append_nil] at hread
  exact foldl_of_readBody hread closed []

/-! ### Cutting off the ends -/

/-- A character that is no quote leads between two literals only from there. -/
private theorem eq_between_of_step {s : Scan} {c : Char} {found : List (List Char)}
    (hc : c ≠ '\'') (h : s.step c = .between found) : s = .between found := by
  cases s with
  | between closed => rwa [Scan.step, if_neg hc] at h
  | inside closed current =>
    rw [Scan.step, if_neg hc] at h
    split at h
    · exact nomatch h
    · exact nomatch h
  | escaped closed current => exact nomatch h

private theorem eq_between_of_foldl {s : Scan} {cs : List Char} {found : List (List Char)}
    (hc : '\'' ∉ cs) (h : cs.foldl Scan.step s = .between found) :
    s = .between found := by
  -- Backwards: the last state is known, and each character leads to it from one state only.
  induction cs generalizing s with
  | nil => exact h
  | cons c cs ih =>
    have hne : c ≠ '\'' := fun heq => hc (heq ▸ List.mem_cons_self)
    exact eq_between_of_step hne (ih (fun hcs => hc (List.mem_cons_of_mem _ hcs)) h)

/-- Quote-free text at both ends can be cut off. -/
theorem Brings.middle {pre cs post : List Char} {found : List (List Char)}
    (hpre : '\'' ∉ pre) (hpost : '\'' ∉ post)
    (h : Brings (pre ++ cs ++ post) found) : Brings cs found := by
  intro closed
  have hall := h closed
  rw [List.foldl_append, List.foldl_append, brings_nil_of_notMem hpre, List.append_nil] at hall
  exact eq_between_of_foldl hpost hall

end SearchClient.Literal
