import Mathlib
import SearchClient.Proofs.Query.Throttle

/-!
# Statements that read

A source of throttlers is told whether a statement only reads. For a statement of its own a query
judges that by the first word, and a word ends at white space and nowhere else: `SELECT 1` reads and
`SELECT(1)` does not. The word is compared in upper case, and besides the two cases of an ASCII
letter there are two more characters whose upper case is a letter of one of the words, `ſ` and `ı`.

## Key results

- `Query.beginsReading_iff`: which statements count as reading
- `Query.attempt_asks`: what a source of throttlers is told in an attempt to run a statement
- `Query.execute_requests`: what it is told in an execution
-/

namespace SearchClient

/-! ### Upper case -/

namespace Text

/-- Only small ASCII letters have another character as their ASCII upper case. -/
private theorem toUpper_eq_self {c : Char} (h : c.toNat < 0x61 ∨ 0x7a < c.toNat) :
    c.toUpper = c := by
  refine Char.toUpper_eq_of_not_isLower fun hlower => ?_
  simp only [Char.isLower, Bool.and_eq_true, decide_eq_true_eq] at hlower
  have hlo : 0x61 ≤ c.toNat := hlower.1
  have hhi : c.toNat ≤ 0x7a := hlower.2
  omega

/-- A blank is its own upper case. -/
theorem upperChar_of_isBlank {c : Char} (h : isBlank c = true) : upperChar c = [c] := by
  simp only [isBlank, Bool.or_eq_true, Bool.and_eq_true, decide_eq_true_eq, beq_iff_eq] at h
  by_cases hc : c.toNat < 0x80
  · rw [upperChar_of_lt hc, toUpper_eq_self (by omega)]
  · have hlonger : ∀ p ∈ upperExpansions.toList, p.1 ≠ 0x85 ∧ p.1 ≠ 0xa0 ∧ p.1 ≠ 0x1680 ∧
        (p.1 < 0x2000 ∨ 0x205f < p.1) ∧ p.1 ≠ 0x3000 := by
      decide +kernel
    have hshifted : ∀ r ∈ upperShifts.toList, (0x85 < r.first ∨ r.last < 0x85) ∧
        (0xa0 < r.first ∨ r.last < 0xa0) ∧ (0x1680 < r.first ∨ r.last < 0x1680) ∧
        (0x205f < r.first ∨ r.last < 0x2000) ∧ (0x3000 < r.first ∨ r.last < 0x3000) := by
      decide +kernel
    have hexpansion : upperExpansions.find? (·.1 == c.toNat) = none := by
      rw [Array.find?_eq_none]
      intro p hp hfound
      have := hlonger p (Array.mem_toList_iff.2 hp)
      have := beq_iff_eq.1 hfound
      omega
    have hrun : upperShifts.find? (·.holds c.toNat) = none := by
      rw [Array.find?_eq_none]
      intro r hr hholds
      have := hshifted r (Array.mem_toList_iff.2 hr)
      simp only [CaseRun.holds, Bool.and_eq_true, decide_eq_true_eq] at hholds
      omega
    rw [upperChar, if_neg hc, hexpansion]
    dsimp only
    rw [hrun]

/-- A character is a way to write a capital ASCII letter: it is a case of that letter, or one of two
letters of their own that have it as their upper case. -/
def Writes (c w : Char) : Prop := c.toUpper = w ∨ (c = 'ſ' ∧ w = 'S') ∨ (c = 'ı' ∧ w = 'I')

private theorem toNat_of_isUpper {w : Char} (h : w.isUpper = true) :
    65 ≤ w.toNat ∧ w.toNat ≤ 90 := by
  simp only [Char.isUpper, decide_eq_true_eq] at h
  exact h

private theorem eq_toNat_of_ofNat {n : Nat} {w : Char} (h : Char.ofNat n = w) (hw : w.toNat ≠ 0) :
    n = w.toNat := by
  subst h
  rw [Char.toNat_ofNat] at hw ⊢
  split at hw
  · rename_i hvalid
    rw [if_pos hvalid]
  · exact absurd rfl hw

/-- The upper case of a character is one character, or one of the longer ones of the table. -/
theorem upperChar_cases (c : Char) :
    (∃ w, upperChar c = [w]) ∨ ∃ p ∈ upperExpansions, upperChar c = p.2.map Char.ofNat := by
  unfold upperChar
  split
  · exact .inl ⟨_, rfl⟩
  · split
    · rename_i p hp
      exact .inr ⟨_, Array.mem_of_find?_eq_some hp, rfl⟩
    · split
      · exact .inl ⟨_, rfl⟩
      · exact .inl ⟨_, rfl⟩

/-- Two runs of the table reach down to the capital ASCII letters, each with one character. -/
private theorem capital_of_run {r : CaseRun} (hr : r ∈ upperShifts) {n m : Nat}
    (hholds : r.holds n = true) (hm : (n : Int) + r.shift = m) (hlo : 65 ≤ m) (hhi : m ≤ 90) :
    (n = 'ſ'.toNat ∧ m = 'S'.toNat) ∨ (n = 'ı'.toNat ∧ m = 'I'.toNat) := by
  have hshift : ∀ r ∈ upperShifts.toList, (r.last : Int) + r.shift < 65 ∨
      90 < (r.first : Int) + r.shift ∨
      (r.first = 0x17f ∧ r.last = 0x17f ∧ r.shift = -300) ∨
      (r.first = 0x131 ∧ r.last = 0x131 ∧ r.shift = -232) := by
    decide +kernel
  have hrun := hshift r (Array.mem_toList_iff.2 hr)
  simp only [CaseRun.holds, Bool.and_eq_true, decide_eq_true_eq] at hholds
  change (n = 0x17f ∧ m = 0x53) ∨ (n = 0x131 ∧ m = 0x49)
  omega

/-- A character that is not ASCII and has a capital ASCII letter as its upper case is one of two. -/
private theorem writes_of_upperChar {c w : Char} (hw : w.isUpper = true) (hc : ¬c.toNat < 0x80)
    (h : upperChar c = [w]) : Writes c w := by
  obtain ⟨hlo, hhi⟩ := toNat_of_isUpper hw
  unfold upperChar at h
  rw [if_neg hc] at h
  split at h
  -- The upper cases of the table are longer.
  · rename_i n expansion hp
    have hlong : ∀ p ∈ upperExpansions.toList, p.2.length ≠ 1 := by decide +kernel
    refine absurd ?_ (hlong _ (Array.mem_toList_iff.2 (Array.mem_of_find?_eq_some hp)))
    rw [← List.length_map Char.ofNat, h]
    rfl
  · split at h
    · rename_i run hrun
      have hn : (c.toNat : Int) + run.shift = w.toNat := by
        have := eq_toNat_of_ofNat (List.singleton_inj.1 h) (by omega)
        omega
      have hmem := Array.mem_of_find?_eq_some hrun
      have hholds := Array.find?_some hrun
      rcases capital_of_run hmem hholds hn hlo hhi with ⟨hlong, hs⟩ | ⟨hdotless, hi⟩
      · exact .inr (.inl ⟨Char.toNat_inj.1 hlong, Char.toNat_inj.1 hs⟩)
      · exact .inr (.inr ⟨Char.toNat_inj.1 hdotless, Char.toNat_inj.1 hi⟩)
    -- No character that is not ASCII is a capital ASCII letter itself.
    · obtain rfl := List.singleton_inj.1 h
      omega

theorem upperChar_eq_singleton_iff {c w : Char} (hw : w.isUpper = true) :
    upperChar c = [w] ↔ Writes c w := by
  by_cases hc : c.toNat < 0x80
  · rw [upperChar_of_lt hc, Writes, List.singleton_inj]
    refine ⟨.inl, fun h => ?_⟩
    rcases h with h | ⟨rfl, -⟩ | ⟨rfl, -⟩
    · exact h
    · exact absurd hc (by decide)
    · exact absurd hc (by decide)
  · refine ⟨writes_of_upperChar hw hc, ?_⟩
    rintro (h | ⟨rfl, rfl⟩ | ⟨rfl, rfl⟩)
    · rw [toUpper_eq_self (by omega)] at h
      obtain ⟨-, hhi⟩ := toNat_of_isUpper hw
      subst h
      omega
    · decide +kernel
    · decide +kernel

/-- How a text is written whose upper case is a word of ASCII letters, if none of the longer upper
cases is found in that word. -/
theorem flatMap_upperChar_iff {ws : List Char} (hupper : ∀ w ∈ ws, w.isUpper = true)
    (hlong : ∀ p ∈ upperExpansions, ¬p.2.map Char.ofNat <:+: ws) (cs : List Char) :
    cs.flatMap upperChar = ws ↔ List.Forall₂ Writes cs ws := by
  constructor
  · intro h
    induction cs generalizing ws with
    | nil =>
      subst h
      exact .nil
    | cons c cs ih =>
      rw [List.flatMap_cons] at h
      rcases upperChar_cases c with ⟨w, hw⟩ | ⟨p, hp, hexpansion⟩
      · rw [hw, List.singleton_append] at h
        subst h
        obtain ⟨hfirst, hrest⟩ := List.forall_mem_cons.1 hupper
        exact .cons ((upperChar_eq_singleton_iff hfirst).1 hw)
          (ih hrest (fun p hp hin => hlong p hp (hin.trans (List.suffix_cons w _).isInfix)) rfl)
      · refine absurd ?_ (hlong p hp)
        rw [← hexpansion, ← h]
        exact (List.prefix_append _ _).isInfix
  · intro h
    clear hlong
    induction h with
    | nil => rfl
    | cons hc _ ih =>
      obtain ⟨hfirst, hrest⟩ := List.forall_mem_cons.1 hupper
      rw [List.flatMap_cons, (upperChar_eq_singleton_iff hfirst).2 hc, ih hrest]
      rfl

end Text

namespace Query

open Text

/-- The reading words are made of capital ASCII letters. -/
private theorem isUpper_of_mem {word : String} (hword : word ∈ readingWords) :
    ∀ w ∈ word.toList, w.isUpper = true := by
  have hall : ∀ word ∈ readingWords, word.toList.all Char.isUpper = true := by decide
  exact List.all_eq_true.1 (hall word hword)

/-- How the reading words are written. -/
theorem upper_eq_iff {word : String} (hword : word ∈ readingWords) (cs : List Char) :
    upper (String.ofList cs) = word ↔ List.Forall₂ Writes cs word.toList := by
  have hlong : ∀ p ∈ upperExpansions.toList, ∀ word ∈ readingWords,
      ¬p.2.map Char.ofNat <:+: word.toList := by
    decide +kernel
  rw [← flatMap_upperChar_iff (isUpper_of_mem hword) fun p hp =>
    hlong p (Array.mem_toList_iff.2 hp) word hword,
    ← String.toList_inj, upper, String.toList_ofList, String.toList_ofList]

/-- Behind blanks a statement begins with a reading word, written in a certain way, and what stands
behind that word is of a certain kind. -/
def Begins (writes : Char → Char → Prop) (next : Option Char → Prop) (statement : String) : Prop :=
  ∃ word ∈ readingWords, ∃ spelled rest, trimStart statement.toList = spelled ++ rest ∧
    List.Forall₂ writes spelled word.toList ∧ next rest.head?

theorem beginsReading_iff (s : String) :
    beginsReading s = true ↔ Begins Writes (fun next => ∀ c ∈ next, isBlank c = true) s := by
  have hplain : ∀ word ∈ readingWords, word.toList.all (!isBlank ·) = true := by decide
  rw [beginsReading, List.contains_iff_mem]
  constructor
  · intro hword
    refine ⟨_, hword, firstWord s.toList, (trimStart s.toList).dropWhile (!isBlank ·),
      List.takeWhile_append_dropWhile.symm, (upper_eq_iff hword _).1 rfl, fun c hc => ?_⟩
    have := List.head?_dropWhile_not (!isBlank ·) (trimStart s.toList)
    rw [Option.mem_def.1 hc] at this
    simpa using this
  · rintro ⟨word, hword, spelled, rest, hs, hspelled, hnext⟩
    have hupper := (upper_eq_iff hword spelled).2 hspelled
    have hin : ∀ c ∈ spelled, (!isBlank c) = true := by
      intro c hc
      by_contra hblank
      rw [Bool.not_eq_true', Bool.not_eq_false] at hblank
      have hmem : c ∈ word.toList := by
        rw [← hupper, upper, String.toList_ofList, String.toList_ofList]
        exact List.mem_flatMap.2 ⟨c, hc, by simp [upperChar_of_isBlank hblank]⟩
      simpa [hblank] using List.all_eq_true.1 (hplain word hword) c hmem
    have hfirst : firstWord s.toList = spelled := by
      rw [firstWord, hs, List.takeWhile_append_of_pos hin]
      cases rest with
      | nil => exact List.append_nil _
      | cons c rest => rw [List.takeWhile_cons_of_neg (by simp [hnext c rfl]), List.append_nil]
    rwa [hfirst, hupper]

/-! ### Words that end at punctuation -/

/-- A character is a capital ASCII letter in one of its cases. -/
abbrev CaseOf (c w : Char) : Prop := c.toUpper = w

theorem forall₂_caseOf_iff {spelled ws : List Char} :
    List.Forall₂ CaseOf spelled ws ↔ spelled.map Char.toUpper = ws := by
  have hmap : List.Forall₂ (· = ·) (spelled.map Char.toUpper) ws ↔ List.Forall₂ CaseOf spelled ws :=
    List.forall₂_map_left_iff
  rw [← hmap, List.forall₂_eq_eq_eq]

private theorem isAlpha_of_mem {spelled ws : List Char} (hws : ∀ w ∈ ws, w.isUpper = true)
    (h : List.Forall₂ CaseOf spelled ws) : ∀ c ∈ spelled, c.isAlpha = true := by
  intro c hc
  rw [← Char.isUpper_toUpper_eq_isAlpha]
  refine hws _ ?_
  rw [← forall₂_caseOf_iff.1 h]
  exact List.mem_map_of_mem hc

/-- A text is split in one way only between characters of a class and one that is not. -/
private theorem rest_eq_of_split {p : Char → Bool} {front rest front' rest' : List Char}
    (h : front ++ rest = front' ++ rest') (hfront : ∀ c ∈ front, p c = true)
    (hrest : ∀ c ∈ rest.head?, p c = false) (hfront' : ∀ c ∈ front', p c = true)
    (hrest' : ∀ c ∈ rest'.head?, p c = false) : rest = rest' := by
  have hdrop {front rest : List Char} (hfront : ∀ c ∈ front, p c = true)
      (hrest : ∀ c ∈ rest.head?, p c = false) : (front ++ rest).dropWhile p = rest := by
    rw [List.dropWhile_append_of_pos hfront]
    cases rest with
    | nil => rfl
    | cons c rest => rw [List.dropWhile_cons_of_neg (by simp [hrest c rfl])]
  rw [← hdrop hfront hrest, h, hdrop hfront' hrest']

/-- With ASCII letters alone a statement counts as reading if a reading word begins it and is not
continued, unless the word ends at a character that is neither white space nor part of a word. -/
theorem beginsReading_iff_of_ascii {isPart : Char → Bool}
    (hblank : ∀ c, isBlank c = true → isPart c = false)
    (hletter : ∀ c, c.isAlpha = true → isPart c = true) {s : String}
    (hs : ∀ c ∈ s.toList, c ≠ 'ſ' ∧ c ≠ 'ı') :
    beginsReading s = true ↔
      Begins CaseOf (fun next => ∀ c ∈ next, isPart c = false) s ∧
        ¬Begins CaseOf (fun next => ∃ c ∈ next, isPart c = false ∧ isBlank c = false) s := by
  have hpart {word : String} (hword : word ∈ readingWords) {spelled : List Char}
      (hspelled : List.Forall₂ CaseOf spelled word.toList) : ∀ c ∈ spelled, isPart c = true :=
    fun c hc => hletter c (isAlpha_of_mem (isUpper_of_mem hword) hspelled c hc)
  rw [beginsReading_iff]
  constructor
  · rintro ⟨word, hword, spelled, rest, hsplit, hspelled, hnext⟩
    have hcased : List.Forall₂ CaseOf spelled word.toList := by
      have hascii : ∀ c ∈ spelled, c ≠ 'ſ' ∧ c ≠ 'ı' := fun c hc => by
        have hmem : c ∈ trimStart s.toList := by
          rw [hsplit]
          exact List.mem_append_left rest hc
        exact hs c ((List.dropWhile_sublist isBlank).subset hmem)
      refine ((List.forall₂_and_left _ _).2 ⟨hascii, hspelled⟩).imp fun c w ⟨hc, hwrites⟩ => ?_
      rcases hwrites with h | ⟨h, -⟩ | ⟨h, -⟩
      · exact h
      · exact absurd h hc.1
      · exact absurd h hc.2
    have hends : ∀ c ∈ rest.head?, isPart c = false := fun c hc => hblank c (hnext c hc)
    refine ⟨⟨word, hword, spelled, rest, hsplit, hcased, hends⟩, ?_⟩
    -- Another word that is not continued ends where this one does, so the same character follows.
    rintro ⟨word', hword', spelled', rest', hsplit', hcased', c, hc, hfalse, hplain⟩
    have hends' : ∀ d ∈ rest'.head?, isPart d = false := fun d hd => by
      rwa [← Option.mem_unique hc hd]
    obtain rfl := rest_eq_of_split (hsplit.symm.trans hsplit') (hpart hword hcased) hends
      (hpart hword' hcased') hends'
    exact Bool.false_ne_true (hplain.symm.trans (hnext c hc))
  · rintro ⟨⟨word, hword, spelled, rest, hsplit, hspelled, hnext⟩, hnot⟩
    refine ⟨word, hword, spelled, rest, hsplit, hspelled.imp fun _ _ => .inl, fun c hc => ?_⟩
    by_contra hplain
    exact hnot ⟨word, hword, spelled, rest, hsplit, hspelled, c, hc, hnext c hc,
      Bool.not_eq_true _ ▸ hplain⟩

end Query

/-! ### Requests for throttlers -/

/-- What a source of throttlers is told by an event, if it is asked for one. -/
def Event.request? : Event → Option (List Value × Bool)
  | .throttlerAsked indexes reading => some (indexes, reading)
  | _ => none

theorem Watch.asked_foldl (events : List Event) (m : Watch) :
    (events.foldl Watch.see m).asked = m.asked + (events.filterMap Event.request?).length := by
  induction events generalizing m with
  | nil => rfl
  | cons e events ih =>
    rw [List.foldl_cons, ih, List.filterMap_cons]
    cases e with
    | throttlerAsked => exact (Nat.add_assoc ..).trans (by rw [Nat.add_comm 1]; rfl)
    | _ => rfl

theorem World.Shows.exists_events {w w' : World} {effect : Watch → Watch} (h : w.Shows w' effect) :
    ∃ events, w'.events = w.events ++ events := by
  obtain ⟨events, hevents, -⟩ := h
  exact ⟨events, hevents⟩

namespace Query

open Text

variable {c : Collaborators} {throttling : Throttling} {statement : Value} {reading : Bool}

/-- The main statement begins with a request for a throttler. -/
theorem runMain_asks {q : Query} (hthrottling : c.throttling = some throttling)
    (hreading : q.isReading statement = .ok reading) (w : World) :
    ∃ events, (q.runMain c statement w).2.events =
      w.events ++ .throttlerAsked q.clauses.indexes reading :: events := by
  unfold runMain
  rw [hthrottling]
  dsimp only
  rw [hreading]
  dsimp only
  generalize hasked : World.emit { w with throttlings := w.throttlings + 1 }
    (.throttlerAsked q.clauses.indexes reading) = asked
  have hevents : asked.events = w.events ++ [.throttlerAsked q.clauses.indexes reading] := by
    rw [← hasked]
    rfl
  have hmore {w' : World} {effect : Watch → Watch} (h : asked.Shows w' effect) :
      ∃ events, w'.events = w.events ++ .throttlerAsked q.clauses.indexes reading :: events := by
    obtain ⟨events, hgrown⟩ := h.exists_events
    exact ⟨events, by rw [hgrown, hevents, List.append_assoc, List.singleton_append]⟩
  cases throttling w.throttlings q.clauses.indexes reading with
  | error f => exact hmore (.of_events_eq rfl)
  | ok t? =>
    cases t? with
    | none =>
      exact hmore ((c.connection.shows_execute statement asked).then_same (events_settle ..))
    | some t =>
      rcases t.shows_hold c.connection statement asked with ⟨-, h⟩ | ⟨-, h⟩ | ⟨-, -, h⟩
      all_goals exact hmore (h.then_same (events_settle ..))

/-- So does an attempt to run a statement. -/
theorem attempt_asks {q : Query} (hthrottling : c.throttling = some throttling)
    (hreading : q.isReading statement = .ok reading) (w : World) :
    ∃ events, (q.attempt c statement w).world.events =
      w.events ++ .throttlerAsked q.clauses.indexes reading :: events := by
  obtain ⟨events, hevents⟩ := runMain_asks (q := q.started) hthrottling hreading w
  have hmore {w' : World} {effect : Watch → Watch}
      (h : (q.started.runMain c statement w).2.Shows w' effect) :
      ∃ events, w'.events = w.events ++ .throttlerAsked q.clauses.indexes reading :: events := by
    obtain ⟨more, hgrown⟩ := h.exists_events
    exact ⟨events ++ more, by rw [hgrown, hevents, List.append_assoc]; rfl⟩
  unfold attempt
  rcases hended : q.started.runMain c statement w with ⟨r | f | f, u⟩
  all_goals
    rw [hended] at hmore
    dsimp only
  · exact hmore (concluded_conclude ..).shows
  · exact hmore (concluded_conclude ..).shows
  · exact hmore (.refl u)

/-- When a dirty query with a statement of its own is executed a throttler is asked for once. -/
theorem execute_asks {q : Query} (hdirty : q.state = .dirty) (hraw : q.raw = some statement)
    (hthrottling : c.throttling = some throttling) (hreading : q.isReading statement = .ok reading)
    (w : World) :
    ∃ events, (q.execute c w).world.events = w.events ++ events ∧
      events.filterMap Event.request? = [(q.clauses.indexes, reading)] := by
  have hstatement : q.statement = (.ok statement, q) := by
    rw [Query.statement, hraw]
  let before := w.reportAny (Span.warning? spanName q.spanAttributes)
  have hexecute : (q.execute c w).world =
      (q.attempt c statement before).world.emit
        (.spanEnded (q.span (q.attempt c statement before).result)) := by
    unfold execute run
    rw [hdirty]
    dsimp only
    rw [hstatement]
  obtain ⟨rest, hrest⟩ := attempt_asks hthrottling hreading before
  obtain ⟨effect, ⟨events, hevents, heffect⟩, hasked, -⟩ := shows_attempt q c statement before
  obtain rfl : events = .throttlerAsked q.clauses.indexes reading :: rest :=
    List.append_cancel_left (hevents.symm.trans hrest)
  -- The observer counts one request at most, and that is the first.
  have hnone : rest.filterMap Event.request? = [] := by
    rw [← heffect, Watch.asked_foldl] at hasked
    change 0 + ((rest.filterMap Event.request?).length + 1) ≤ 1 at hasked
    exact List.length_eq_zero_iff.1 (by omega)
  refine ⟨.throttlerAsked q.clauses.indexes reading :: (rest ++ [.spanEnded
    (q.span (q.attempt c statement before).result)]), ?_, ?_⟩
  · rw [hexecute]
    change (q.attempt c statement before).world.events ++ _ = _
    rw [hrest, List.append_assoc]
    rfl
  · have hfirst : Event.request? (.throttlerAsked q.clauses.indexes reading) =
        some (q.clauses.indexes, reading) := rfl
    rw [List.filterMap_cons_some hfirst, List.filterMap_append, hnone]
    rfl

private theorem isReading_of_text {q : Query} {s : String} (hraw : q.raw = some statement)
    (htext : statement.asText? = some s) : q.isReading statement = .ok (beginsReading s) := by
  unfold isReading
  rw [hraw, htext]

/-- When a dirty query with a statement of its own is executed, the source of throttlers is asked
once. It is told that the statement reads exactly if, behind blanks, the statement begins with a
reading word and nothing or a blank follows that word; with ASCII letters alone, whatever else a
word is made of, that is so exactly if a reading word begins the statement and is not continued, and
no punctuation follows it. -/
theorem execute_requests {q : Query} (hdirty : q.state = .dirty) {s : String}
    (hraw : q.raw = some statement) (htext : statement.asText? = some s)
    (hthrottling : c.throttling = some throttling) (w : World) {isPart : Char → Bool}
    (hblank : ∀ ch, isBlank ch = true → isPart ch = false)
    (hletter : ∀ ch, ch.isAlpha = true → isPart ch = true) :
    ∃ events flag, (q.execute c w).world.events = w.events ++ events ∧
      events.filterMap Event.request? = [(q.clauses.indexes, flag)] ∧
      (flag = true ↔ Begins Writes (fun next => ∀ ch ∈ next, isBlank ch = true) s) ∧
      ((∀ ch ∈ s.toList, ch ≠ 'ſ' ∧ ch ≠ 'ı') →
        (flag = true ↔
          Begins CaseOf (fun next => ∀ ch ∈ next, isPart ch = false) s ∧
            ¬Begins CaseOf (fun next => ∃ ch ∈ next,
              isPart ch = false ∧ isBlank ch = false) s)) := by
  obtain ⟨events, hevents, hrequests⟩ :=
    execute_asks hdirty hraw hthrottling (isReading_of_text hraw htext) w
  exact ⟨events, beginsReading s, hevents, hrequests, beginsReading_iff s,
    beginsReading_iff_of_ascii hblank hletter⟩

/-- A keyword in small letters, behind a tab. -/
theorem execute_requests_of_small_letters :
    let isPart (ch : Char) := ch.isAlphanum || ch == '_'
    let throttling : Throttling := fun _ _ _ => .ok none
    let c : Collaborators :=
      { connection := { engine := fun _ _ => .answer {} }, throttling := some throttling }
    let q := Query.create (.str "\tshow meta") (.int 10)
    (q.state = .dirty ∧ q.raw = some (.str "\tshow meta") ∧
        (Value.str "\tshow meta").asText? = some "\tshow meta" ∧ c.throttling = some throttling ∧
        (∀ ch, isBlank ch = true → isPart ch = false) ∧
        ∀ ch, ch.isAlpha = true → isPart ch = true) ∧
      ∃ events, (q.execute c {}).world.events = events ∧
        events.filterMap Event.request? = [([], true)] := by
  intro isPart throttling c q
  have hblank : ∀ ch, isBlank ch = true → isPart ch = false := by
    intro ch h
    rw [← Bool.not_eq_true]
    intro hpart
    simp only [isBlank, Bool.or_eq_true, Bool.and_eq_true, decide_eq_true_eq, beq_iff_eq] at h
    simp only [isPart, Char.isAlphanum, Char.isAlpha, Char.isUpper, Char.isLower, Char.isDigit,
      Bool.or_eq_true, Bool.and_eq_true, decide_eq_true_eq, beq_iff_eq, ge_iff_le] at hpart
    rcases hpart with ((⟨hlo, hhi⟩ | ⟨hlo, hhi⟩) | ⟨hlo, hhi⟩) | rfl
    · have hlo : 0x41 ≤ ch.toNat := hlo
      have hhi : ch.toNat ≤ 0x5a := hhi
      omega
    · have hlo : 0x61 ≤ ch.toNat := hlo
      have hhi : ch.toNat ≤ 0x7a := hhi
      omega
    · have hlo : 0x30 ≤ ch.toNat := hlo
      have hhi : ch.toNat ≤ 0x39 := hhi
      omega
    · exact absurd h (by decide)
  have hletter : ∀ ch, ch.isAlpha = true → isPart ch = true := by
    intro ch h
    simp [isPart, Char.isAlphanum, h]
  obtain ⟨events, flag, hevents, hrequests, hflag, -⟩ :=
    execute_requests (c := c) (q := q) rfl rfl rfl rfl {} hblank hletter
  have hspelled : List.Forall₂ CaseOf "show".toList "SHOW".toList :=
    forall₂_caseOf_iff.2 (by decide)
  have hends : ∀ ch ∈ (' ' :: "meta".toList).head?, isBlank ch = true := by
    rintro ch ⟨⟩
    decide
  have hreads : flag = true := hflag.2 ⟨"SHOW", by decide, "show".toList, ' ' :: "meta".toList,
    by decide, hspelled.imp fun _ _ => .inl, hends⟩
  rw [hreads] at hrequests
  exact ⟨⟨rfl, rfl, rfl, rfl, hblank, hletter⟩, events, hevents, hrequests⟩

/-- `SELECT` in front of a star: a reading word begins the statement and is not continued, and the
source of throttlers is told that the statement does not read. -/
theorem execute_requests_of_star :
    let c : Collaborators :=
      { connection := { engine := fun _ _ => .answer {} },
        throttling := some fun _ _ _ => .ok none }
    let q := Query.create (.str "SELECT*FROM articles") (.int 10)
    (∃ events, (q.execute c {}).world.events = events ∧
        events.filterMap Event.request? = [([], false)]) ∧
      Begins CaseOf (fun next => ∀ ch ∈ next, (ch.isAlphanum || ch == '_') = false)
        "SELECT*FROM articles" := by
  intro c q
  have hreading : q.isReading (.str "SELECT*FROM articles") = .ok false := by
    rw [isReading_of_text (q := q) rfl rfl]
    exact congrArg Except.ok (by decide +kernel)
  obtain ⟨events, hevents, hrequests⟩ := execute_asks (c := c) (q := q) rfl rfl rfl hreading {}
  refine ⟨⟨events, hevents, hrequests⟩, "SELECT", by decide, "SELECT".toList,
    '*' :: "FROM articles".toList, by decide, forall₂_caseOf_iff.2 (by decide), ?_⟩
  rintro ch ⟨⟩
  decide

end Query
end SearchClient
