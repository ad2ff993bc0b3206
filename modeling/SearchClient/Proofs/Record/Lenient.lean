import SearchClient.Proofs.Numeric
import SearchClient.Record.Field

/-!
# Integers that are read from a text

An integer is read leniently: margins, a plus sign, leading zeros, underscores and a fraction of
zeros are taken off its text first. From the text of an integer there is nothing to take off, so
each of these steps leaves it as it is, and what is read is the integer.

## Key results

- `Field.readInt_toString`: an integer is read from its text
- `Field.int_of_readInt`: so is a field for integers
-/

namespace SearchClient

namespace Field

/-! ### The digits of a number -/

private theorem exists_digitChar {n : Nat} {c : Char} (h : c ∈ Nat.toDigits 10 n) :
    ∃ d < 10, c = Nat.digitChar d := by
  have hchar : ∀ d < 10, Char.ofNat (48 + d) = Nat.digitChar d := by decide
  have hdigit := Numeric.isDigit_of_mem h
  rw [Char.isDigit, Bool.and_eq_true, decide_eq_true_eq, decide_eq_true_eq] at hdigit
  have hlo : 48 ≤ c.toNat := hdigit.1
  have hhi : c.toNat ≤ 57 := hdigit.2
  refine ⟨c.toNat - 48, by omega, ?_⟩
  rw [← hchar _ (by omega), Nat.add_sub_cancel' hlo, Char.ofNat_toNat]

/-- What holds of the ten digits holds of all that a number is written with. -/
private theorem forall_mem_toDigits {p : Char → Bool}
    (hp : ∀ d < 10, p (Nat.digitChar d) = true) (n : Nat) :
    ∀ c ∈ Nat.toDigits 10 n, p c = true := by
  intro c hc
  obtain ⟨d, hd, rfl⟩ := exists_digitChar hc
  exact hp d hd

private theorem toDigits_ne_cons {c : Char} (hc : ∀ d < 10, Nat.digitChar d ≠ c) (n : Nat)
    (rest : List Char) : Nat.toDigits 10 n ≠ c :: rest := by
  intro h
  obtain ⟨d, hd, hsame⟩ := exists_digitChar (h ▸ List.mem_cons_self)
  exact hc d hd hsame.symm

/-! ### The steps of the reader -/

private theorem trimBy_eq_self {p : Char → Bool} {cs : List Char} (h : ∀ c ∈ cs, p c = false) :
    Text.trimBy p cs = cs := by
  have hstays {ds : List Char} (hds : ∀ c ∈ ds, p c = false) : ds.dropWhile p = ds := by
    cases ds with
    | nil => rfl
    | cons c ds => rw [List.dropWhile_cons_of_neg (by simp [hds c List.mem_cons_self])]
  unfold Text.trimBy
  rw [hstays h, hstays fun c hc => h c (List.mem_reverse.1 hc), List.reverse_reverse]

private theorem trimBy_toDigits (n : Nat) :
    Text.trimBy Numeric.isMargin (Nat.toDigits 10 n) = Nat.toDigits 10 n := by
  have hplain := forall_mem_toDigits (p := (!Numeric.isMargin ·)) (by decide) n
  exact trimBy_eq_self fun c hc => by simpa using hplain c hc

private theorem dropPlus_toDigits (n : Nat) :
    dropPlus (Nat.toDigits 10 n) = Nat.toDigits 10 n := by
  unfold dropPlus
  split
  · exact absurd ‹_› (toDigits_ne_cons (by decide) n _)
  · exact absurd ‹_› (toDigits_ne_cons (by decide) n _)
  · rfl

private theorem dropLeadingZeros_toDigits (n : Nat) :
    dropLeadingZeros (Nat.toDigits 10 n) = some (Nat.toDigits 10 n) := by
  rcases Nat.eq_zero_or_pos n with rfl | hn
  · rfl
  · obtain ⟨c, rest, hdigits⟩ := List.exists_cons_of_ne_nil (Nat.toDigits_ne_nil (n := n))
    obtain ⟨d, hd, rfl⟩ := exists_digitChar (n := n) (hdigits ▸ List.mem_cons_self)
    rw [hdigits]
    -- What counts as a first digit is settled digit by digit.
    match d with
    | 0 => exact absurd (by rw [hdigits]; rfl) (Numeric.head?_toDigits hn)
    | 1 | 2 | 3 | 4 | 5 | 6 | 7 | 8 | 9 => rfl

private theorem dropZeroFraction_toDigits (n : Nat) :
    dropZeroFraction (Nat.toDigits 10 n) = Nat.toDigits 10 n := by
  have hnone : (Nat.toDigits 10 n ++ []).dropWhile (· != '.') = _ :=
    List.dropWhile_append_of_pos (forall_mem_toDigits (by decide) n)
  rw [List.append_nil, List.dropWhile_nil] at hnone
  unfold dropZeroFraction
  rw [hnone]
  rfl

private theorem dropUnderscores?_toDigits (n : Nat) :
    dropUnderscores? (Nat.toDigits 10 n) = none := by
  have hnone : (Nat.toDigits 10 n).contains '_' = false := by
    rw [← Bool.not_eq_true, List.contains_iff_mem]
    intro hmem
    exact absurd (forall_mem_toDigits (p := (· != '_')) (by decide) n '_' hmem) (by decide)
  unfold dropUnderscores?
  rw [hnone]
  simp

private theorem readPlainInt_toDigits {n : Nat}
    (hlength : (Nat.toDigits 10 n).length ≤ maxIntLength) :
    readPlainInt (Nat.toDigits 10 n) = .ok n := by
  have htake : (Nat.toDigits 10 n).takeWhile Numeric.isAsciiDigit = Nat.toDigits 10 n := by
    have hall : (Nat.toDigits 10 n ++ []).takeWhile Numeric.isAsciiDigit = _ :=
      List.takeWhile_append_of_pos (forall_mem_toDigits (by decide) n)
    rwa [List.append_nil, List.takeWhile_nil, List.append_nil] at hall
  have hzero : ¬((Nat.toDigits 10 n).isEmpty ||
      ((Nat.toDigits 10 n).head? == some '0' && 1 < (Nat.toDigits 10 n).length)) = true := by
    rw [Bool.not_eq_true, Bool.or_eq_false_iff, List.isEmpty_eq_false_iff, Bool.and_eq_false_iff]
    refine ⟨Nat.toDigits_ne_nil, ?_⟩
    rcases Nat.eq_zero_or_pos n with rfl | hn
    · exact .inr rfl
    · exact .inl (beq_eq_false_iff_ne.2 (Numeric.head?_toDigits hn))
  have hvalue : Numeric.ofDigits ((Nat.toDigits 10 n).map fun c => c.toNat - '0'.toNat) = n := by
    rw [Numeric.ofDigits, List.foldl_map]
    exact Nat.ofDigitChars_toDigits (by decide) (by decide)
  unfold readPlainInt
  split
  rename_i negative digits hsplit
  split at hsplit
  · rename_i rest hsign
    exact absurd hsign (toDigits_ne_cons (by decide) n rest)
  · obtain ⟨rfl, rfl⟩ := Prod.mk.inj hsplit
    dsimp only
    rw [htake, if_neg hzero, if_neg (by simpa using hlength), if_neg (Nat.lt_irrefl _), hvalue]
    rfl

/-- An integer is read from its text, unless that is too long. -/
theorem readInt_toString {n : Int} (hn : 0 ≤ n) (hlength : (toString n).length ≤ maxIntLength) :
    readInt (toString n).toList = .ok n := by
  obtain ⟨k, rfl⟩ := Int.eq_ofNat_of_zero_le hn
  rw [← String.length_toList] at hlength
  rw [Numeric.toList_toString, if_pos hn, Int.toNat_natCast] at hlength ⊢
  unfold readInt
  rw [trimBy_toDigits, dropPlus_toDigits, dropLeadingZeros_toDigits]
  dsimp only
  rw [dropZeroFraction_toDigits, dropUnderscores?_toDigits, Option.getD_none,
    readPlainInt_toDigits hlength]

theorem int_of_readInt {s : String} {n : Int} (h : readInt s.toList = .ok n) :
    int (.str s) = .accept n := by
  unfold int
  split
  · rename_i htext
    exact nomatch (show some (some s) = some none from htext)
  · rename_i t htext
    obtain rfl : s = t := Option.some.inj (Option.some.inj htext)
    rw [h]
  · rename_i htext
    exact nomatch (show some (some s) = none from htext)

end Field

end SearchClient
