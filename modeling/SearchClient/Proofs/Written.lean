import Mathlib.Algebra.Group.Int.Defs
import Mathlib.Algebra.Group.Nat.Defs
import SearchClient.Value.Written

/-!
# Steps that only an integer can stop

Much of what a client does would always work if every integer could be written. Such a step gives a
result exactly if the integers that it writes can be, and else fails because one cannot; and so does
a chain of such steps, whichever of them comes to that integer first.

## Key results

- `WritesIf.bind` and `WritesIf.mapM`: chains of steps
- `Value.writesIf_written`: the step that all others go through
- `Value.fitsDigits_iff`: which integers can be written
-/

namespace SearchClient

/-- A step gives a result if something can be written, and else fails because it cannot. -/
structure WritesIf {α : Type} (P : Prop) (x : Except Failure α) : Prop where
  ok : P → ∃ a, x = .ok a
  error : ¬P → x = .error Value.tooLong

namespace WritesIf

variable {α β : Type} {P Q : Prop} {x : Except Failure α}

theorem congr (h : WritesIf P x) (hiff : P ↔ Q) : WritesIf Q x :=
  ⟨fun hQ => h.ok (hiff.2 hQ), fun hQ => h.error (mt hiff.1 hQ)⟩

theorem of_ok (h : ∃ a, x = .ok a) : WritesIf True x :=
  ⟨fun _ => h, fun hnot => absurd trivial hnot⟩

theorem exists_iff (h : WritesIf P x) : (∃ a, x = .ok a) ↔ P := by
  refine ⟨fun ⟨a, ha⟩ => Classical.byContradiction fun hnot => ?_, h.ok⟩
  exact nomatch ha.symm.trans (h.error hnot)

/-- Steps one after the other, of which the first shows first. -/
theorem bind (hx : WritesIf P x) {f : α → Except Failure β} (hf : ∀ a, WritesIf Q (f a)) :
    WritesIf (P ∧ Q) (x >>= f) := by
  by_cases hP : P
  · obtain ⟨a, rfl⟩ := hx.ok hP
    -- What comes of the first step has no part in whether the second one gives a result.
    exact ⟨fun h => (hf a).ok h.2, fun hnot => (hf a).error fun hQ => hnot ⟨hP, hQ⟩⟩
  · rw [hx.error hP]
    exact ⟨fun h => absurd h.1 hP, fun _ => rfl⟩

theorem map (hx : WritesIf P x) (f : α → β) : WritesIf P (x.map f) := by
  constructor
  · intro hP
    obtain ⟨a, rfl⟩ := hx.ok hP
    exact ⟨f a, rfl⟩
  · intro hP
    rw [hx.error hP]
    rfl

/-- Steps for the members of a list. -/
theorem mapM {f : α → Except Failure β} {P : α → Prop} {xs : List α}
    (h : ∀ x ∈ xs, WritesIf (P x) (f x)) : WritesIf (∀ x ∈ xs, P x) (xs.mapM f) := by
  induction xs with
  | nil => exact (of_ok ⟨[], rfl⟩).congr (by simp)
  | cons x xs ih =>
    obtain ⟨hfirst, hrest⟩ := List.forall_mem_cons.1 h
    rw [List.mapM_cons, List.forall_mem_cons]
    refine hfirst.bind fun y => ?_
    exact ((ih hrest).bind fun ys => of_ok ⟨y :: ys, rfl⟩).congr (and_iff_left trivial)

end WritesIf

namespace Value

theorem fitsDigits_iff {n : Int} : fitsDigits n = true ↔ n.natAbs < 10 ^ maxDigits := by
  have ten : 1 < 10 := by decide
  have some_digit : 0 < maxDigits := by decide
  rw [fitsDigits, decide_eq_true_iff]
  exact Nat.length_toDigits_le_iff ten some_digit

/-- A power of ten has one digit more than its exponent. -/
theorem fitsDigits_pow {d : Nat} : fitsDigits (10 ^ d) = true ↔ d < maxDigits := by
  have hpow : ((10 : Int) ^ d).natAbs = 10 ^ d := Int.natAbs_pow 10 d
  rw [fitsDigits_iff, hpow]
  exact Nat.pow_lt_pow_iff_right (by decide)

/-- The number before the shortest one that is too long can be written. -/
theorem fitsDigits_pred_pow : fitsDigits (10 ^ maxDigits - 1) = true := by
  rw [fitsDigits_iff]
  -- The power is too large to be computed, so its exponent is any number from here on.
  generalize maxDigits = d
  have hpow : (0 : Int) < 10 ^ d := Int.pow_pos (by decide)
  have hcast : ((10 ^ d : Nat) : Int) = 10 ^ d := by simp
  omega

theorem writesIf_written (v : Value) : WritesIf (v.isWritable = true) v.written :=
  ⟨fun h => ⟨_, written_of_isWritable h⟩, fun h => written_of_not_isWritable (by simpa using h)⟩

end Value

end SearchClient
