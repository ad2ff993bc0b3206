import Mathlib.Algebra.Order.Ring.Rat
import Mathlib.Algebra.Order.Ring.Unbundled.Basic
import SearchClient.Proofs.Backoff.Outcome

/-!
# How long a repetition waits

A wait is cut at the ceiling as soon as it is grown, and the next one grows from what is left. If
the base is at least one, a wait that is cut stays at the ceiling, so cutting on the way is the same
as cutting once at the end. That gives every wait in closed form but the first, which is never cut.

Waits in seconds are rounded; here they are numbers that are multiplied and compared exactly.

## Key results

- `Backoff.Successive.getElem_eq`: waits that follow each other, in closed form
- `Backoff.waits_closed`: the waits of a repetition, and when the ceiling holds for all of them
-/

namespace SearchClient

/-- Waits that are multiplied and compared exactly. -/
class WaitTime.Exact (K : Type) [CommSemiring K] [LinearOrder K] [WaitTime K] : Prop where
  times_eq (a b : K) : WaitTime.times a b = .ok (a * b)
  less_eq (a b : K) : WaitTime.less a b = .ok (decide (a < b))

/-- Fractions as waits. As a value a fraction is the pair of its parts. -/
instance : WaitTime ℚ where
  times a b := .ok (a * b)
  less a b := .ok (decide (a < b))
  toValue q := .tuple [.int q.num, .int q.den]
  text q :=
    let hundredths := Numeric.roundHalfEven (q.num.natAbs * Numeric.pow10 2) q.den
    let digits := Numeric.fixedDigits 2 hundredths
    .ok (String.ofList (if q < 0 then '-' :: digits else digits))

instance : WaitTime.Exact ℚ where
  times_eq _ _ := rfl
  less_eq _ _ := rfl

namespace Backoff

/-! ### The announced waits -/

section Announced

variable {K : Type} [CommSemiring K] [LinearOrder K] {b : Backoff K}

/-- The wait before a repetition as it is announced, the first repetition being number zero. -/
def announced (b : Backoff K) (n : Nat) : K := min (b.first * b.base ^ n) b.ceiling

theorem announced_zero (b : Backoff K) : b.announced 0 = min b.first b.ceiling := by
  simp [announced]

/-- What is cut, grows on and is cut again is what it would have been without the first cut. -/
private theorem cut_grown [IsOrderedRing K] {base ceiling : K} (hbase : 1 ≤ base)
    (hceiling : 0 ≤ ceiling) (d : K) (n : Nat) :
    min (min d ceiling * base ^ n) ceiling = min (d * base ^ n) ceiling := by
  have hgrows : 1 ≤ base ^ n := one_le_pow₀ hbase
  have hstays : ceiling ≤ ceiling * base ^ n := le_mul_of_one_le_right hceiling hgrows
  rw [min_mul_of_nonneg _ _ (zero_le_one.trans hgrows), min_assoc, min_eq_right hstays]

/-- Waits that begin with the given one and go on with the announced ones are all announced exactly
if there are none or the given one is not above the ceiling. -/
private theorem forall_announced_iff {waits : List K}
    (hwaits : ∀ n (hn : n < waits.length), waits[n] = if n = 0 then b.first else b.announced n) :
    (∀ n (hn : n < waits.length), waits[n] = b.announced n) ↔
      waits = [] ∨ b.first ≤ b.ceiling := by
  constructor
  · intro hall
    by_cases hnone : waits = []
    · exact .inl hnone
    · have hpos : 0 < waits.length := List.length_pos_iff.2 hnone
      have hfirst : b.first = min b.first b.ceiling := by
        rw [← announced_zero, ← hall 0 hpos, hwaits 0 hpos, if_pos rfl]
      exact .inr (min_eq_left_iff.1 hfirst.symm)
  -- All waits but the first are announced ones anyway.
  · rintro (rfl | hbelow) n hn
    · exact absurd hn (Nat.not_lt_zero n)
    · rw [hwaits n hn]
      by_cases hn : n = 0
      · rw [if_pos hn, hn, announced_zero, min_eq_left hbelow]
      · rw [if_neg hn]

/-- None of them is above the ceiling in just the same cases. -/
private theorem forall_le_ceiling_iff {waits : List K}
    (hwaits : ∀ n (hn : n < waits.length), waits[n] = if n = 0 then b.first else b.announced n) :
    (∀ wait ∈ waits, wait ≤ b.ceiling) ↔ waits = [] ∨ b.first ≤ b.ceiling := by
  -- A wait is announced exactly if it is not above the ceiling.
  rw [← forall_announced_iff hwaits]
  constructor
  · intro hbelow n hn
    have hcut := hbelow waits[n] (List.getElem_mem hn)
    rw [hwaits n hn] at hcut ⊢
    by_cases hn : n = 0
    · rw [if_pos hn] at hcut ⊢
      rw [hn, announced_zero, min_eq_left hcut]
    · rw [if_neg hn]
  · intro hall wait hmem
    obtain ⟨n, hn, rfl⟩ := List.getElem_of_mem hmem
    rw [hall n hn]
    exact min_le_right _ _

end Announced

/-! ### The waits of a repetition -/

section Exact

variable {K : Type} [CommSemiring K] [LinearOrder K] [WaitTime K] [WaitTime.Exact K]
  {b : Backoff K}

/-- Exactly, the wait after another one is grown and then cut. -/
theorem next_of_exact (b : Backoff K) (delay : K) :
    b.next delay = .ok (min (delay * b.base) b.ceiling) := by
  have hcut : (if decide (b.ceiling < delay * b.base) then b.ceiling else delay * b.base) =
      min (delay * b.base) b.ceiling := by
    simp only [decide_eq_true_iff, min_comm (delay * b.base), min_def_lt]
  unfold next
  rw [WaitTime.Exact.times_eq, ← hcut]
  simp only [bind, Except.bind, WaitTime.Exact.less_eq]
  rfl

variable [IsOrderedRing K]

/-- Of waits that follow each other, the first is the given one, and each later one is what grows
from it, cut once. -/
theorem Successive.getElem_eq {delay : K} {delays : List K} (h : b.Successive delay delays)
    (hbase : 1 ≤ b.base) (hceiling : 0 ≤ b.ceiling) (n : Nat) (hn : n < delays.length) :
    delays[n] = if n = 0 then delay else min (delay * b.base ^ n) b.ceiling := by
  -- The wait that the rest starts from is cut, which is no longer seen after one more cut.
  induction h generalizing n with
  | nil => exact absurd hn (Nat.not_lt_zero n)
  | @cons delay after delays hnext hrest ih =>
    obtain rfl : min (delay * b.base) b.ceiling = after :=
      Except.ok.inj ((next_of_exact b delay).symm.trans hnext)
    cases n with
    | zero => rfl
    | succ n =>
      rw [List.getElem_cons_succ, ih n (by simpa using hn), if_neg n.succ_ne_zero, pow_succ',
        ← mul_assoc]
      by_cases hn : n = 0
      · simp [hn]
      · rw [if_neg hn, cut_grown hbase hceiling]

/-- With a base of at least one, the first wait of a repetition is the given one, however long, and
each later one is the announced one: the first grown by the base once for each wait before it, and
then cut. So all waits are the announced ones, and the ceiling holds for all of them, exactly if
there is no wait or the first is not above the ceiling. -/
theorem waits_closed {ε κ : Type} [Thrown ε κ] {α β : Type} {retries : Int}
    (hretries : b.retries = .ok retries) (hbase : 1 ≤ b.base) (hceiling : 0 ≤ b.ceiling)
    (name : Except Failure String) (acceptance : Acceptance ε κ) (f : Scripted ε β α) (x : β)
    (w : World) :
    let ran := b.run name acceptance (fun w change => change w) (f.call x) w
    ∃ waits : List K,
      ran.2.events = w.events ++ f.trace x (waits.map WaitTime.toValue) ∧
      (∀ n (hn : n < waits.length), waits[n] = if n = 0 then b.first else b.announced n) ∧
      ((∀ n (hn : n < waits.length), waits[n] = b.announced n) ↔
        waits = [] ∨ b.first ≤ b.ceiling) ∧
      ((∀ wait ∈ waits, wait ≤ b.ceiling) ↔ waits = [] ∨ b.first ≤ b.ceiling) := by
  intro ran
  obtain ⟨waits, hsuccessive, hevents⟩ := run_traced
    (fun delay => ⟨_, next_of_exact b delay⟩) hretries name acceptance f x w
  have hwaits := hsuccessive.getElem_eq hbase hceiling
  exact ⟨waits, hevents, hwaits, forall_announced_iff hwaits, forall_le_ceiling_iff hwaits⟩

end Exact

/-- A function that fails each time is repeated three times, with waits that grow by one half. -/
theorem waits_closed_of_failures :
    let b : Backoff ℚ := { retries := .ok 3, first := 1, base := 3 / 2, ceiling := 2 }
    let f : Scripted Failure Unit Unit :=
      { outcome := fun _ => .error (.badValue "down"), mark := fun _ _ => [] }
    let ran := b.run (.ok "f") {} (fun w change => change w) (f.call ()) {}
    (b.retries = .ok 3 ∧ 1 ≤ b.base ∧ 0 ≤ b.ceiling) ∧
      ran.2.events.length = 3 ∧
      ∃ waits : List ℚ, ran.2.events = f.trace () (waits.map WaitTime.toValue) ∧
        ∀ wait ∈ waits, wait ≤ b.ceiling := by
  intro b f ran
  have hbase : (1 : ℚ) ≤ 3 / 2 := by decide +kernel
  have hceiling : (0 : ℚ) ≤ 2 := by decide +kernel
  have hbelow : (1 : ℚ) ≤ 2 := by decide +kernel
  obtain ⟨waits, hevents, -, -, hall⟩ :=
    waits_closed (b := b) rfl hbase hceiling (.ok "f") {} f () {}
  exact ⟨⟨rfl, hbase, hceiling⟩, by decide +kernel, waits, hevents, hall.2 (.inr hbelow)⟩

/-- A first wait above the ceiling is not cut. -/
theorem waits_closed_keeps_first :
    let b : Backoff ℚ := { retries := .ok 3, first := 5, base := 2, ceiling := 2 }
    let f : Scripted Failure Unit Unit :=
      { outcome := fun n => if n = 0 then .error (.badValue "down") else .ok (),
        mark := fun _ _ => [] }
    let ran := b.run (.ok "f") {} (fun w change => change w) (f.call ()) {}
    (0 ≤ b.first ∧ 1 ≤ b.base ∧ 0 ≤ b.ceiling) ∧
      ran.2.events = [.waited (WaitTime.toValue b.first)] ∧
      b.announced 0 = 2 ∧ b.first ≠ b.announced 0 ∧ ¬b.first ≤ b.ceiling := by
  intro b f ran
  exact ⟨by decide +kernel, rfl, by decide +kernel, by decide +kernel, by decide +kernel⟩

end Backoff

end SearchClient
