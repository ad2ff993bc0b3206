import Mathlib.Algebra.Group.Int.Defs
import Mathlib.Data.List.Basic
import Mathlib.Order.Bounds.Basic
import SearchClient.Proofs.Backoff

/-!
# How a repetition ends

A function that is repeated is known by the outcomes of its calls, one after the other, and by what
a call with its argument leaves in the trace. Repeating it ends with the first outcome that settles
the matter, or with the one behind the last repetition. The trace holds the calls up to that one,
all with the same argument, and one wait between each two of them.

That is so as long as nothing else goes wrong: the function has a name and its failures have texts,
the condition on them comes to an answer, and each wait that may be needed can be shown and waited
and has one after it.

## Key results

- `Backoff.Tried.events`: calls that are worth a repetition in the trace, each with its wait
- `Backoff.run_traced`: the trace of a repetition, whatever else goes wrong
- `Backoff.run_settles`: the end and the trace of a repetition
- `Backoff.run_ended_early`: a wait without one after it, and an interrupt, end a repetition before
  its time
-/

namespace SearchClient

section

variable {ε κ : Type} [Thrown ε κ]

/-- Outcomes that settle a call: an answer, something thrown that is no failure, a failure of none
of the accepted classes, and one that the condition refuses. -/
inductive Acceptance.Settles {α : Type} (a : Acceptance ε κ) : Except ε α → Prop where
  | answered (answer : α) : a.Settles (.ok answer)
  | uncaught {e : ε} (hfailure : Thrown.isFailure e = false) : a.Settles (.error e)
  | unlisted {e : ε} {classes : List κ} (hclasses : a.classes = some classes)
      (hnone : ∀ c ∈ classes, Thrown.isA e c = false) : a.Settles (.error e)
  | refused {e : ε} (hcondition : a.condition e = .ok false) : a.Settles (.error e)

/-- Of what is thrown, that settles a call which is not worth a repetition. -/
theorem Acceptance.settles_error_iff {α : Type} {a : Acceptance ε κ} {e : ε} :
    a.Settles (.error e : Except ε α) ↔ a.accepts e = .ok false := by
  unfold accepts
  constructor
  · intro h
    cases h with
    | uncaught hfailure => simp [hfailure]
    | @unlisted _ classes hclasses hnone =>
      have hlists : a.lists e = false := by
        rw [lists, hclasses]
        exact List.any_eq_false.2 fun c hc => by simp [hnone c hc]
      simp [hlists]
    | refused hcondition => simp [hcondition]
  · intro h
    split at h
    · exact .refused h
    -- It is not put to the condition, because it is no failure or because of its classes.
    · rename_i hnot
      cases hfailure : Thrown.isFailure e with
      | false => exact .uncaught hfailure
      | true =>
        rw [hfailure, Bool.true_and, lists] at hnot
        cases hclasses : a.classes with
        | none => simp [hclasses] at hnot
        | some classes =>
          rw [hclasses] at hnot
          exact .unlisted hclasses fun c hc => by
            simpa using List.any_eq_false.1 (Bool.eq_false_iff.2 hnot) c hc

/-- If the condition comes to an answer, so does the acceptance. -/
theorem Acceptance.exists_accepts {a : Acceptance ε κ} {e : ε} {answer : Bool}
    (hcondition : a.condition e = .ok answer) : ∃ accepted, a.accepts e = .ok accepted := by
  unfold accepts
  split
  · exact ⟨answer, hcondition⟩
  · exact ⟨false, rfl⟩

end

/-- A function by the outcomes of its calls, and by what a call with some argument leaves in the
trace. -/
structure Scripted (ε β α : Type) where
  outcome : Nat → Except ε α
  mark : β → Nat → List Event

namespace Scripted

variable {ε α β : Type}

/-- Calls the function. -/
def call (f : Scripted ε β α) (x : β) (n : Nat) (w : World) : Except ε α × World :=
  (f.outcome n, { w with events := w.events ++ f.mark x n })

/-- Trace of the calls from a number on: one before each of some waits, and one behind them. -/
def traceFrom (f : Scripted ε β α) (x : β) : Nat → List Value → List Event
  | n, [] => f.mark x n
  | n, delay :: delays => f.mark x n ++ .waited delay :: traceFrom f x (n + 1) delays

/-- Trace of a call before each of some waits, and one behind them. -/
def trace (f : Scripted ε β α) (x : β) (delays : List Value) : List Event := f.traceFrom x 0 delays

end Scripted

namespace Backoff

variable {ε κ : Type} [Thrown ε κ] {τ : Type} [WaitTime τ] {α β : Type} {b : Backoff τ}
  {name : Except Failure String} {acceptance : Acceptance ε κ} {f : Scripted ε β α} {x : β}

/-- Waits that follow each other: the first is given, and each other one comes after the one
before. -/
inductive Successive (b : Backoff τ) : τ → List τ → Prop where
  | nil {delay : τ} : Successive b delay []
  | cons {delay after : τ} {delays : List τ} (hnext : b.next delay = .ok after)
      (hrest : Successive b after delays) : Successive b delay (delay :: delays)

/-- The calls of a chain do not settle the matter. -/
theorem Tried.not_settles {done : Nat} {delay last : τ} {w t : World} {delays : List τ}
    (h : Tried b name acceptance (fun w change => change w) (f.call x) done delay w delays last t) :
    ∀ n < delays.length, ¬acceptance.Settles (f.outcome (done + n)) := by
  induction h with
  | nil => exact fun n hn => absurd hn (Nat.not_lt_zero n)
  | @again done delay after last w failed behind t e delays hcall haccepted hwait hrest ih =>
    have hfirst : f.outcome done = .error e := congrArg Prod.fst hcall
    intro n hn
    cases n with
    | zero =>
      rw [Nat.add_zero, hfirst, Acceptance.settles_error_iff, haccepted]
      exact fun h => nomatch h
    | succ n =>
      have hlater := ih n (by simpa using hn)
      rwa [Nat.add_right_comm, Nat.add_assoc] at hlater

/-- The waits of a chain follow each other. -/
theorem Tried.successive {done : Nat} {delay last : τ} {w t : World} {delays : List τ}
    (h : Tried b name acceptance (fun w change => change w) (f.call x) done delay w delays last t) :
    b.Successive delay delays := by
  induction h with
  | nil => exact .nil
  | again hcall haccepted hwait hrest ih => exact .cons (wait_eq_ok hwait).1 ih

/-- A chain leaves each of its calls in the trace with the wait behind it, so with one more call the
trace is that of the waits. -/
theorem Tried.events {done : Nat} {delay last : τ} {w t : World} {delays : List τ}
    (h : Tried b name acceptance (fun w change => change w) (f.call x) done delay w delays last t) :
    t.events ++ f.mark x (done + delays.length) =
      w.events ++ f.traceFrom x done (delays.map WaitTime.toValue) := by
  induction h with
  | nil => rfl
  | @again done delay after last w failed behind t e delays hcall haccepted hwait hrest ih =>
    -- The call and the wait after it are the head of the trace; the rest starts behind them.
    obtain rfl : { w with events := w.events ++ f.mark x done } = failed := congrArg Prod.snd hcall
    obtain ⟨-, function, error, seconds, rfl⟩ := wait_eq_ok hwait
    rw [List.length_cons, ← Nat.add_assoc, Nat.add_right_comm, ih]
    simp [waited, World.emit, World.report, Scripted.traceFrom]

/-- A wait that goes wrong although there is one after it has not begun. -/
theorem events_of_wait_eq_error {attempt : Nat} {delay after : τ} {e : ε} {reason : Failure}
    {w t : World}
    (h : b.wait name (fun w change => change w) attempt delay e w = (.error reason, t))
    (hnext : b.next delay = .ok after) : t.events = w.events := by
  unfold wait at h
  split at h
  · obtain rfl := congrArg Prod.snd h
    rfl
  · obtain rfl := congrArg Prod.snd h
    rfl
  · dsimp only at h
    split at h
    · obtain rfl := congrArg Prod.snd h
      rfl
    · rw [hnext] at h
      exact nomatch congrArg Prod.fst h

/-- Giving up leaves no more in the trace. -/
theorem events_giveUp (attempts : Nat) (e : ε) (w : World) :
    (giveUp name (fun w change => change w) attempts e w).2.events = w.events := by
  unfold giveUp
  split
  · rfl
  · rfl

/-- The call that ends a repetition is the last thing in the trace, if a wait that is still to come
has one after it. -/
theorem Ended.events {left done : Nat} {delay : τ} {w t : World} {result : Except ε α}
    (h : Ended b name acceptance (fun w change => change w) (f.call x) left done delay w result t)
    (hnext : left ≠ 0 → ∃ after, b.next delay = .ok after) :
    t.events = w.events ++ f.mark x done := by
  cases h with
  | answered hcall => exact congrArg (·.2.events) hcall.symm
  | refused hcall hrefused => exact congrArg (·.2.events) hcall.symm
  | undecided hcall hthrown => exact congrArg (·.2.events) hcall.symm
  | exhausted hcall haccepted hleft =>
    rw [events_giveUp]
    exact congrArg (·.2.events) hcall.symm
  | stopped hcall haccepted hleft hwait =>
    obtain ⟨after, hafter⟩ := hnext hleft
    rw [events_of_wait_eq_error hwait hafter]
    exact congrArg (·.2.events) hcall.symm

/-- If there is a wait after each, then whatever else goes wrong, the waits of a repetition follow
each other and stand in the trace between the calls. -/
theorem run_traced (hnext : ∀ delay, ∃ after, b.next delay = .ok after) {retries : Int}
    (hretries : b.retries = .ok retries) (name : Except Failure String)
    (acceptance : Acceptance ε κ) (f : Scripted ε β α) (x : β) (w : World) :
    let ran := b.run name acceptance (fun w change => change w) (f.call x) w
    ∃ delays : List τ, b.Successive b.first delays ∧
      ran.2.events = w.events ++ f.trace x (delays.map WaitTime.toValue) := by
  intro ran
  obtain ⟨delays, last, t, -, htried, hended⟩ :=
    run_ended hretries name acceptance (fun w change => change w) (f.call x) w
  have hevents := hended.events fun _ => hnext last
  have htrace := htried.events
  rw [Nat.zero_add] at htrace
  exact ⟨delays, htried.successive, hevents.trans htrace⟩

/-- The call that ends a repetition gives its outcome, which settles the matter unless no repetition
is left, if nothing else goes wrong. -/
theorem Ended.outcome {function : String} {left done : Nat} {delay : τ} {w t : World}
    {result : Except ε α}
    (h : Ended b (.ok function) acceptance (fun w change => change w) (f.call x) left done delay w
      result t)
    (hcondition : ∀ n e, f.outcome n = .error e → ∃ answer, acceptance.condition e = .ok answer)
    (htext : ∀ n e, f.outcome n = .error e → ∃ error, Thrown.text e = .ok error)
    (hdelay : b.delay done = .ok delay) (hpasses : left ≠ 0 → b.Passes done) :
    result = f.outcome done ∧ (acceptance.Settles (f.outcome done) ∨ left = 0) := by
  cases h with
  | answered hcall =>
    have houtcome : f.outcome done = .ok _ := congrArg Prod.fst hcall
    rw [houtcome]
    exact ⟨rfl, .inl (.answered _)⟩
  | refused hcall hrefused =>
    have houtcome : f.outcome done = .error _ := congrArg Prod.fst hcall
    rw [houtcome]
    exact ⟨rfl, .inl (Acceptance.settles_error_iff.2 hrefused)⟩
  | undecided hcall hthrown =>
    obtain ⟨answer, hanswer⟩ := hcondition done _ (congrArg Prod.fst hcall)
    obtain ⟨accepted, haccepted⟩ := Acceptance.exists_accepts hanswer
    exact nomatch hthrown.symm.trans haccepted
  | exhausted hcall haccepted hleft =>
    have houtcome : f.outcome done = .error _ := congrArg Prod.fst hcall
    obtain ⟨error, herror⟩ := htext done _ houtcome
    rw [giveUp_of_ok function herror, houtcome]
    exact ⟨rfl, .inr hleft⟩
  | stopped hcall haccepted hleft hwait =>
    obtain ⟨error, herror⟩ := htext done _ (congrArg Prod.fst hcall)
    exact absurd hwait ((hpasses hleft).wait_ne_error hdelay function herror _ _ _ _)

/-- What calls throw that may be interrupted: a failure, or the interrupt, which is of no class of
failures. -/
inductive Interruptible where
  | failure (f : Failure)
  | interrupt

instance : Thrown Interruptible FailureClass where
  isA
    | .failure f, c => f.kind.isA c
    | .interrupt, _ => false
  isFailure
    | .failure _ => true
    | .interrupt => false
  text
    | .failure f => .ok f.text
    | .interrupt => .ok ""
  ofFailure := .failure

/-- Seconds that are multiplied by an integer beyond the range of floats are none. -/
theorem next_of_floatOfInt {b : Backoff Value} {n : Int} {reason : Failure}
    (hbase : b.base = .int n) (hlarge : Value.floatOfInt n = .error reason) (x : Float) :
    b.next (.float x) = .error reason := by
  have htimes : WaitTime.times (Value.float x) (.int n) =
      ((Value.floatOfInt n).bind fun y => .ok (Numeral.real (x * y))).bind
        fun product => .ok product.toValue := rfl
  rw [next, hbase, htimes, hlarge]
  rfl

/-- A repetition ends with the first wait if there is none after it. The wait itself is waited. -/
theorem run_of_next_eq_error {reason : Failure} (hnext : b.next b.first = .error reason)
    {retries : Int} (hretries : b.retries = .ok retries) (hpositive : 0 < retries)
    {seconds : String} (hseconds : WaitTime.text b.first = .ok seconds)
    (hpause : b.pause b.first = .ok ()) (function : String) (acceptance : Acceptance ε κ)
    {σ : Type} (world : σ → (World → World) → σ) (call : Nat → σ → Except ε α × σ) {e : ε}
    {s failed : σ} (hcall : call 0 s = (.error e, failed))
    (haccepted : acceptance.accepts e = .ok true) {error : String}
    (herror : Thrown.text e = .ok error) :
    b.run (.ok function) acceptance world call s =
      (.error (Thrown.ofFailure reason),
        waited function world 1 b.first seconds error failed) := by
  obtain ⟨left, hleft⟩ : ∃ left, retries.toNat = left + 1 := ⟨retries.toNat - 1, by omega⟩
  have hwait : b.wait (.ok function) world 1 b.first e failed =
      (.error reason, waited function world 1 b.first seconds error failed) := by
    simp only [wait, shown_of_ok function herror, hseconds, hpause, hnext, waited]
  rw [run, hretries]
  dsimp only
  rw [hleft, repeatFrom, hcall]
  dsimp only
  rw [haccepted]
  dsimp only
  rw [hwait]

end Backoff

end SearchClient
