import SearchClient.Backoff

/-!
# What a repetition comes to

A call that is repeated is made a number of times that is worth a repetition each, with one wait
after each of them, and then once more; that last call is the one that decides. It is answered, or
throws something that is not worth a repetition, or fails when no repetition is left; or what comes
after it goes wrong. The calls may change what they are made on, so the calls before the last are
kept as a chain from the first state to the one that the last call finds.

## Key results

- `Backoff.Tried`: calls in a row that are worth a repetition, and the waits after them
- `Backoff.run_ended`: a repetition is such a chain and one more call
- `Backoff.passes_of_float`: waits in seconds go well, as long as the clock does not refuse them
-/

namespace SearchClient

namespace Backoff

variable {ε κ : Type} [Thrown ε κ] {τ : Type} [WaitTime τ] {α σ : Type} {b : Backoff τ}
  {name : Except Failure String} {acceptance : Acceptance ε κ} {world : σ → (World → World) → σ}
  {call : Nat → σ → Except ε α × σ}

/-- The state after a wait that is reported. -/
def waited (name : String) (world : σ → (World → World) → σ) (attempt : Nat) (delay : τ)
    (seconds error : String) (s : σ) : σ :=
  world s fun w =>
    (w.report (retrying name attempt seconds error)).emit (.waited (WaitTime.toValue delay))

/-- A wait that goes well is reported and waited, and there is one after it. -/
theorem wait_eq_ok {attempt : Nat} {delay after : τ} {e : ε} {s t : σ}
    (h : b.wait name world attempt delay e s = (.ok after, t)) :
    b.next delay = .ok after ∧
      ∃ function error seconds, t = waited function world attempt delay seconds error s := by
  unfold wait at h
  split at h
  · exact nomatch h
  · exact nomatch h
  · rename_i function error seconds _ _
    dsimp only at h
    split at h
    · exact nomatch h
    · obtain ⟨hnext, rfl⟩ := Prod.mk.inj h
      exact ⟨hnext, function, error, seconds, rfl⟩

/-- Calls in a row, counted on from some number, that have failed in a way that is worth a
repetition, with the waits after them: from a wait and a state to the next wait and the state
behind them. -/
inductive Tried (b : Backoff τ) (name : Except Failure String) (acceptance : Acceptance ε κ)
    (world : σ → (World → World) → σ) (call : Nat → σ → Except ε α × σ) :
    Nat → τ → σ → List τ → τ → σ → Prop where
  | nil {done : Nat} {delay : τ} {s : σ} :
      Tried b name acceptance world call done delay s [] delay s
  | again {done : Nat} {delay after last : τ} {s failed behind t : σ} {e : ε} {delays : List τ}
      (hcall : call done s = (.error e, failed)) (haccepted : acceptance.accepts e = .ok true)
      (hwait : b.wait name world (done + 1) delay e failed = (.ok after, behind))
      (hrest : Tried b name acceptance world call (done + 1) after behind delays last t) :
      Tried b name acceptance world call done delay s (delay :: delays) last t

/-- How the last call of a repetition ends it, with some repetitions left and a wait to come. -/
inductive Ended (b : Backoff τ) (name : Except Failure String) (acceptance : Acceptance ε κ)
    (world : σ → (World → World) → σ) (call : Nat → σ → Except ε α × σ) (left done : Nat)
    (delay : τ) (s : σ) : Except ε α → σ → Prop where
  | answered {a : α} {t : σ} (hcall : call done s = (.ok a, t)) :
      Ended b name acceptance world call left done delay s (.ok a) t
  | refused {e : ε} {t : σ} (hcall : call done s = (.error e, t))
      (hrefused : acceptance.accepts e = .ok false) :
      Ended b name acceptance world call left done delay s (.error e) t
  /-- The condition did not come to an answer. -/
  | undecided {e thrown : ε} {t : σ} (hcall : call done s = (.error e, t))
      (hthrown : acceptance.accepts e = .error thrown) :
      Ended b name acceptance world call left done delay s (.error thrown) t
  | exhausted {e : ε} {t : σ} (hcall : call done s = (.error e, t))
      (haccepted : acceptance.accepts e = .ok true) (hleft : left = 0) :
      Ended b name acceptance world call left done delay s
        (.error (giveUp name world (done + 1) e t).1) (giveUp name world (done + 1) e t).2
  /-- The wait before the next call went wrong. -/
  | stopped {e : ε} {f : Failure} {t behind : σ} (hcall : call done s = (.error e, t))
      (haccepted : acceptance.accepts e = .ok true) (hleft : left ≠ 0)
      (hwait : b.wait name world (done + 1) delay e t = (.error f, behind)) :
      Ended b name acceptance world call left done delay s (.error (Thrown.ofFailure f)) behind

/-- A repetition is a chain of calls that are worth one, not more of them than there are
repetitions, and a call that ends it. -/
theorem repeatFrom_ended (b : Backoff τ) (name : Except Failure String)
    (acceptance : Acceptance ε κ) (world : σ → (World → World) → σ)
    (call : Nat → σ → Except ε α × σ) (left done : Nat) (delay : τ) (s : σ) :
    ∃ delays last t, delays.length ≤ left ∧
      Tried b name acceptance world call done delay s delays last t ∧
      Ended b name acceptance world call (left - delays.length) (done + delays.length) last t
        (b.repeatFrom name acceptance world call left done delay s).1
        (b.repeatFrom name acceptance world call left done delay s).2 := by
  -- A repetition that is taken leaves one less, from a later wait and the state behind the failure.
  induction left generalizing done delay s with
  | zero =>
    refine ⟨[], delay, s, Nat.le_refl 0, .nil, ?_⟩
    unfold repeatFrom
    rcases hcall : call done s with ⟨e | a, t⟩
    · dsimp only
      split
      · rename_i haccepted
        exact .undecided hcall haccepted
      · rename_i haccepted
        exact .refused hcall haccepted
      · rename_i haccepted
        exact .exhausted hcall haccepted rfl
    · exact .answered hcall
  | succ left ih =>
    unfold repeatFrom
    rcases hcall : call done s with ⟨e | a, failed⟩
    · dsimp only
      split
      · rename_i haccepted
        exact ⟨[], delay, s, Nat.zero_le _, .nil, .undecided hcall haccepted⟩
      · rename_i haccepted
        exact ⟨[], delay, s, Nat.zero_le _, .nil, .refused hcall haccepted⟩
      · rename_i haccepted
        rcases hwait : b.wait name world (done + 1) delay e failed with ⟨f | after, behind⟩
        · exact ⟨[], delay, s, Nat.zero_le _, .nil,
            .stopped hcall haccepted (Nat.succ_ne_zero left) hwait⟩
        · obtain ⟨delays, last, t, hlength, htried, hended⟩ := ih (done + 1) after behind
          refine ⟨delay :: delays, last, t, Nat.succ_le_succ hlength,
            .again hcall haccepted hwait htried, ?_⟩
          rw [List.length_cons, Nat.add_sub_add_right, Nat.add_comm delays.length 1,
            ← Nat.add_assoc]
          exact hended
    · exact ⟨[], delay, s, Nat.zero_le _, .nil, .answered hcall⟩

/-- If the repetitions are counted, a call that is repeated is such a chain from the first wait on,
and a call that ends it. -/
theorem run_ended {retries : Int} (hretries : b.retries = .ok retries)
    (name : Except Failure String) (acceptance : Acceptance ε κ)
    (world : σ → (World → World) → σ) (call : Nat → σ → Except ε α × σ) (s : σ) :
    ∃ delays last t, delays.length ≤ retries.toNat ∧
      Tried b name acceptance world call 0 b.first s delays last t ∧
      Ended b name acceptance world call (retries.toNat - delays.length) delays.length last t
        (b.run name acceptance world call s).1 (b.run name acceptance world call s).2 := by
  obtain ⟨delays, last, t, hlength, htried, hended⟩ :=
    repeatFrom_ended b name acceptance world call retries.toNat 0 b.first s
  rw [Nat.zero_add] at hended
  unfold run
  rw [hretries]
  exact ⟨delays, last, t, hlength, htried, hended⟩

/-! ### Waits that go well -/

/-- Wait of a number, if it can be grown so far: the first is given, and each other one comes after
the one before. -/
def delay (b : Backoff τ) : Nat → Except Failure τ
  | 0 => .ok b.first
  | n + 1 => (b.delay n).bind b.next

/-- The wait of a number goes well: it can be shown, the clock does not refuse it, and there is one
after it. -/
inductive Passes (b : Backoff τ) (n : Nat) : Prop where
  | intro {delay after : τ} {seconds : String} (hdelay : b.delay n = .ok delay)
      (hseconds : WaitTime.text delay = .ok seconds) (hpause : b.pause delay = .ok ())
      (hnext : b.next delay = .ok after) : Passes b n

/-- A chain that starts from the wait of a number ends with the wait behind its own. -/
theorem Tried.delay_eq {done n : Nat} {delay last : τ} {s t : σ} {delays : List τ}
    (h : Tried b name acceptance world call done delay s delays last t)
    (hdelay : b.delay n = .ok delay) : b.delay (n + delays.length) = .ok last := by
  induction h generalizing n with
  | nil => exact hdelay
  | @again done delay after last s failed behind t e delays hcall haccepted hwait hrest ih =>
    have hafter : b.delay (n + 1) = .ok after := by
      rw [Backoff.delay, hdelay]
      exact (wait_eq_ok hwait).1
    rw [List.length_cons, Nat.add_comm _ 1, ← Nat.add_assoc]
    exact ih hafter

/-- What can be shown of the function and of what it threw is shown. -/
theorem shown_of_ok {e : ε} {error : String} (function : String)
    (herror : Thrown.text e = .ok error) : shown (.ok function) e = .ok (function, error) :=
  congrArg (Except.map (function, ·)) herror

/-- The last failure is reported and passed on, if it can be shown. -/
theorem giveUp_of_ok {e : ε} {error : String} (function : String)
    (herror : Thrown.text e = .ok error) (attempts : Nat) (s : σ) :
    giveUp (.ok function) world attempts e s =
      (e, world s (·.report (givingUp function attempts error))) := by
  rw [giveUp, shown_of_ok function herror]

/-- Nothing goes wrong while a wait goes well, if the failure before it can be shown. -/
theorem Passes.wait_ne_error {n : Nat} (h : b.Passes n) {delay : τ}
    (hdelay : b.delay n = .ok delay) {e : ε} {error : String} (function : String)
    (herror : Thrown.text e = .ok error) (attempt : Nat) (s t : σ) (reason : Failure) :
    b.wait (.ok function) world attempt delay e s ≠ (.error reason, t) := by
  obtain ⟨hdelay', hseconds, hpause, hnext⟩ := h
  obtain rfl := Except.ok.inj (hdelay.symm.trans hdelay')
  simp [wait, shown_of_ok function herror, hseconds, hpause, hnext]

/-- Waits in seconds go well, as long as the clock does not refuse them: a float that is multiplied
by a float and cut at one is a float. -/
theorem passes_of_float {b : Backoff Value} {x y z : Float} (hfirst : b.first = .float z)
    (hbase : b.base = .float x) (hceiling : b.ceiling = .float y)
    (hpause : ∀ z, b.pause (.float z) = .ok ()) (n : Nat) : b.Passes n := by
  have hnext (z : Float) : ∃ z', b.next (.float z) = .ok (.float z') := by
    have hnext : b.next (.float z) =
        .ok (if Numeric.Quantity.less (.ofFloat y) (.ofFloat (z * x)) then .float y
          else .float (z * x)) := by
      unfold next
      rw [hbase, hceiling]
      rfl
    rw [hnext]
    split
    · exact ⟨y, rfl⟩
    · exact ⟨_, rfl⟩
  have hdelay (n : Nat) : ∃ z, b.delay n = .ok (.float z) := by
    induction n with
    | zero => exact ⟨z, congrArg Except.ok hfirst⟩
    | succ n ih =>
      obtain ⟨z, hz⟩ := ih
      obtain ⟨z', hz'⟩ := hnext z
      exact ⟨z', by rw [delay, hz]; exact hz'⟩
  obtain ⟨z, hz⟩ := hdelay n
  obtain ⟨z', hz'⟩ := hnext z
  exact .intro hz rfl (hpause z) hz'

end Backoff

end SearchClient
