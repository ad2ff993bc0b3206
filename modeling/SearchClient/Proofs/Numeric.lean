import Mathlib.Data.List.Basic

/-!
# Integers in a text

An integer is written with digits, behind a sign if it is negative, and with no other character. It
is over where something else begins, so it can be told from whatever may stand behind it.
-/

namespace SearchClient.Numeric

/-- Characters that integers are written with. -/
def isNumeral (c : Char) : Bool := c.isDigit || c == '-'

/-- No integer goes on at the front of a text. -/
def Ends (cs : List Char) : Prop := ∀ c ∈ cs.head?, isNumeral c = false

theorem ends_nil : Ends [] := nofun

theorem ends_cons {c : Char} (h : isNumeral c = false) (cs : List Char) : Ends (c :: cs) := by
  intro d hd
  obtain rfl := Option.some.inj hd
  exact h

/-! ### Characters of an integer -/

theorem toList_toString (n : Int) :
    (toString n).toList =
      if 0 ≤ n then Nat.toDigits 10 n.toNat else '-' :: Nat.toDigits 10 (-n).toNat := by
  rw [Int.toString_eq_repr, Int.repr_eq_if]
  split
  · rw [Nat.toList_repr]
  · rw [String.toList_append, Nat.toList_repr]
    rfl

theorem isDigit_of_mem {k : Nat} {c : Char} (h : c ∈ Nat.toDigits 10 k) :
    c.isDigit = true :=
  Nat.isDigit_of_mem_toDigits (by decide) (by decide) h

/-- A positive number has no leading zero. -/
theorem head?_toDigits {n : Nat} (hn : 0 < n) : (Nat.toDigits 10 n).head? ≠ some '0' := by
  have hdigit : ∀ d < 10, 0 < d → [Nat.digitChar d].head? ≠ some '0' := by decide
  induction n using Nat.strongRecOn with
  | _ n ih =>
    by_cases hsmall : n < 10
    · rw [Nat.toDigits_of_lt_base hsmall]
      exact hdigit n hsmall hn
    · rw [Nat.toDigits_of_base_le (by decide) (by omega),
        List.head?_append_of_ne_nil _ Nat.toDigits_ne_nil]
      exact ih (n / 10) (by omega) (by omega)

theorem isNumeral_of_mem {n : Int} {c : Char} (h : c ∈ (toString n).toList) :
    isNumeral c = true := by
  have hdigit {k : Nat} (hc : c ∈ Nat.toDigits 10 k) : isNumeral c = true := by
    rw [isNumeral, isDigit_of_mem hc, Bool.true_or]
  rw [toList_toString] at h
  split at h
  · exact hdigit h
  · rcases List.mem_cons.1 h with rfl | hrest
    · decide
    · exact hdigit hrest

theorem notMem_toString {c : Char} (h : isNumeral c = false) (n : Int) :
    c ∉ (toString n).toList := fun hc =>
  absurd ((isNumeral_of_mem hc).symm.trans h) (by decide)

theorem toString_ne_nil (n : Int) : (toString n).toList ≠ [] := by
  rw [toList_toString]
  split
  · exact Nat.toDigits_ne_nil
  · exact List.cons_ne_nil _ _

/-- An integer does not begin with any other character. -/
theorem toString_append_ne_cons {c : Char} (h : isNumeral c = false) (n : Int)
    (r cs : List Char) : (toString n).toList ++ r ≠ c :: cs := by
  intro hsame
  cases hn : (toString n).toList with
  | nil => exact toString_ne_nil n hn
  | cons d ds =>
    rw [hn] at hsame
    obtain rfl : d = c := (List.cons.inj hsame).1
    exact notMem_toString h n (hn ▸ List.mem_cons_self)

/-! ### Telling integers apart -/

private theorem toDigits_injective {m n : Nat} (h : Nat.toDigits 10 m = Nat.toDigits 10 n) :
    m = n := by
  have hvalue := congrArg (fun digits => Nat.ofDigitChars 10 digits 0) h
  simpa using hvalue

/-- Two integers are not written alike. -/
theorem toString_injective {m n : Int} (h : (toString m).toList = (toString n).toList) :
    m = n := by
  have hsign {k l : Nat} (hk : '-' :: Nat.toDigits 10 k = Nat.toDigits 10 l) : False := by
    have hmem : '-' ∈ Nat.toDigits 10 l := by
      rw [← hk]
      exact List.mem_cons_self
    exact absurd (isDigit_of_mem hmem) (by decide)
  rw [toList_toString, toList_toString] at h
  split at h
  · split at h
    · have := toDigits_injective h
      omega
    · exact (hsign h.symm).elim
  · split at h
    · exact (hsign h).elim
    · have := toDigits_injective (List.cons.inj h).2
      omega

/-- An integer is the longest piece of a text that is written with such characters. -/
private theorem takeWhile_toString (n : Int) {r : List Char} (hr : Ends r) :
    ((toString n).toList ++ r).takeWhile isNumeral = (toString n).toList := by
  rw [List.takeWhile_append_of_pos fun c hc => isNumeral_of_mem hc]
  cases r with
  | nil => exact List.append_nil _
  | cons c r => rw [List.takeWhile_cons_of_neg (by simp [hr c rfl]), List.append_nil]

/-- What stands behind two integers does not make them alike. -/
theorem toString_append_inj {m n : Int} {r s : List Char} (hr : Ends r) (hs : Ends s)
    (h : (toString m).toList ++ r = (toString n).toList ++ s) : m = n ∧ r = s := by
  have hsame : (toString m).toList = (toString n).toList := by
    rw [← takeWhile_toString m hr, h, takeWhile_toString n hs]
  rw [hsame, List.append_cancel_left_eq] at h
  exact ⟨toString_injective hsame, h⟩

end SearchClient.Numeric
