import Mathlib.Data.List.Forall2
import SearchClient.Settings.Source

/-!
# Settings that are read again

The sources of settings may change at any time, and nothing shows it until settings are built anew:
because there are none, because that is forced, or by a reload. A forced reading that fails leaves
the settings that are current as they are. A reload has forgotten them by then, so after a reload
that fails they are gone, and the next reading looks at the sources again. Apart from that the two
are one.

## Key results

- `get_true_eq`, `reload_eq`: what a forced reading and a reload do
- `current_follow`: which settings are current, told from what was answered
- `follow_of_interchanged`: histories in which one stands for the other
- `held_follow`: what holds of settings after any history
-/

namespace SearchClient.SettingsStore

/-! ### Building anew -/

theorem get_true_eq (s : SettingsStore) :
    s.get true =
      match s.sources.load [] with
      | .ok settings =>
        (.ok s.objects.length,
          { s with objects := s.objects ++ [settings.fields], current := some s.objects.length })
      | .error f => (.error f, s) := by
  unfold get create
  cases s.sources.load [] with
  | ok settings => cases s.current <;> rfl
  | error f => cases s.current <;> rfl

theorem reload_eq (s : SettingsStore) :
    s.reload =
      match s.sources.load [] with
      | .ok settings =>
        (.ok s.objects.length,
          { s with objects := s.objects ++ [settings.fields], current := some s.objects.length })
      | .error f => (.error f, { s with current := none }) := by
  unfold reload
  rw [get_true_eq]

/-- Without current settings a reading builds them, as if that were forced. -/
theorem get_false_of_none {s : SettingsStore} (h : s.current = none) :
    s.get false = s.get true := by
  unfold get
  rw [h]

/-- A reload answers what a forced reading answers. -/
theorem fst_reload (s : SettingsStore) : s.reload.1 = (s.get true).1 := by
  rw [reload_eq, get_true_eq]
  cases s.sources.load [] with
  | ok settings => rfl
  | error f => rfl

/-- A forced reading that fails changes nothing. -/
theorem snd_get_of_error {s : SettingsStore} {f : Failure} (h : (s.get true).1 = .error f) :
    (s.get true).2 = s := by
  rw [get_true_eq] at h ⊢
  cases hload : s.sources.load [] with
  | ok settings =>
    rw [hload] at h
    exact nomatch h
  | error f => rfl

/-- A reload that fails has forgotten the current settings. -/
theorem snd_reload_of_error {s : SettingsStore} {f : Failure} (h : (s.get true).1 = .error f) :
    s.reload.2 = { s with current := none } := by
  rw [get_true_eq] at h
  rw [reload_eq]
  cases hload : s.sources.load [] with
  | ok settings =>
    rw [hload] at h
    exact nomatch h
  | error f => rfl

/-- A reload that succeeds is a forced reading, and what it answers is current. -/
theorem reload_of_ok {s : SettingsStore} {id : Nat} (h : (s.get true).1 = .ok id) :
    s.reload = s.get true ∧ (s.get true).2.current = some id := by
  rw [get_true_eq] at h
  rw [reload_eq, get_true_eq]
  cases hload : s.sources.load [] with
  | ok settings =>
    rw [hload] at h
    obtain rfl := Except.ok.inj h
    exact ⟨rfl, rfl⟩
  | error f =>
    rw [hload] at h
    exact nomatch h

/-- A reload is a forced reading exactly if it does not forget settings for nothing. -/
theorem reload_eq_get_iff (s : SettingsStore) :
    s.reload = s.get true ↔ s.current = none ∨ ∃ id, (s.get true).1 = .ok id := by
  cases hanswer : (s.get true).1 with
  | ok id => simp [(reload_of_ok hanswer).1]
  | error f =>
    have hforgets : s.reload.2 = { s with current := none } := snd_reload_of_error hanswer
    have hkeeps : (s.get true).2 = s := snd_get_of_error hanswer
    constructor
    · intro hsame
      rw [hsame, hkeeps] at hforgets
      exact .inl (congrArg current hforgets)
    · intro hnone
      have hcurrent : s.current = none := hnone.resolve_right fun ⟨id, hid⟩ => nomatch hid
      refine Prod.ext (fst_reload s) ?_
      rw [hforgets, hkeeps, ← hcurrent]

/-! ### Histories -/

/-- What happens to settings: the environment or the file of variables becomes another one, or some
part of the client asks for settings. -/
inductive Step where
  | change (sources : Sources)
  | get (force : Bool)
  | reload

/-- What a part of the client is answered, if it asks. -/
abbrev Answer := Option (Except Failure Nat)

/-- The answer to a step, and the store that it leaves. -/
def turn (s : SettingsStore) : Step → Answer × SettingsStore
  | .change sources => (none, { s with sources })
  | .get force => (some (s.get force).1, (s.get force).2)
  | .reload => (some s.reload.1, s.reload.2)

/-- The answers to all steps of a history, and the store that they leave. -/
def follow (s : SettingsStore) : List Step → List Answer × SettingsStore
  | [] => ([], s)
  | step :: rest =>
    ((s.turn step).1 :: ((s.turn step).2.follow rest).1, ((s.turn step).2.follow rest).2)

/-- The settings that are current after a step, told from its answer: those that were answered last,
and none after a reload that has failed. -/
def remember (current : Option Nat) : Step × Answer → Option Nat
  | (_, some (.ok id)) => some id
  | (.reload, some (.error _)) => none
  | (_, _) => current

/-- The settings that are current after steps with their answers. -/
def remembered (current : Option Nat) (told : List (Step × Answer)) : Option Nat :=
  told.foldl remember current

theorem current_turn (s : SettingsStore) (step : Step) :
    (s.turn step).2.current = remember s.current (step, (s.turn step).1) := by
  have hforced : (s.get true).2.current = remember s.current (.get true, some (s.get true).1) := by
    cases hanswer : (s.get true).1 with
    | ok id => exact (reload_of_ok hanswer).2
    | error f => rw [snd_get_of_error hanswer]; rfl
  cases step with
  | change sources => rfl
  | get force =>
    cases force with
    | true => exact hforced
    | false =>
      dsimp only [turn]
      cases hcurrent : s.current with
      | some id => rw [get_current s hcurrent]; exact hcurrent
      | none =>
        rw [get_false_of_none hcurrent, hforced, hcurrent]
        cases (s.get true).1 <;> rfl
  | reload =>
    dsimp only [turn]
    rw [fst_reload]
    cases hanswer : (s.get true).1 with
    | ok id => rw [(reload_of_ok hanswer).1]; exact (reload_of_ok hanswer).2
    | error f => rw [snd_reload_of_error hanswer]; rfl

/-- Which settings are current after a history can be told from its answers. -/
theorem current_follow (s : SettingsStore) (history : List Step) :
    (s.follow history).2.current = remembered s.current (history.zip (s.follow history).1) := by
  induction history generalizing s with
  | nil => rfl
  | cons step rest ih =>
    dsimp only [follow]
    rw [ih, List.zip_cons_cons, remembered, remembered, List.foldl_cons, current_turn]

/-! ### Forced readings and reloads in a history -/

/-- Whether a step builds settings anew in any case. -/
def Step.renews : Step → Bool
  | .get force => force
  | .reload => true
  | .change _ => false

/-- The same step, or a reload and a forced reading in each other's place. -/
def Step.Interchanged (step step' : Step) : Prop :=
  step = step' ∨ step.renews = true ∧ step'.renews = true

/-- No reload and no forced reading of a history fails while there are current settings. -/
def Lossless (s : SettingsStore) : List Step → Prop
  | [] => True
  | step :: rest =>
    (step.renews = true → s.current = none ∨ ∃ id, (s.get true).1 = .ok id) ∧
      (s.turn step).2.Lossless rest

private theorem turn_of_renews {s : SettingsStore} {step : Step} (hrenews : step.renews = true)
    (h : s.current = none ∨ ∃ id, (s.get true).1 = .ok id) : s.turn step = s.turn .reload := by
  cases step with
  | change sources => exact nomatch hrenews
  | get force =>
    obtain rfl : force = true := hrenews
    dsimp only [turn]
    rw [(reload_eq_get_iff s).2 h]
  | reload => rfl

/-- Where nothing is lost, a reload and a forced reading may stand for each other at any places of a
history: all answers and the store that is left stay the same. -/
theorem follow_of_interchanged {s : SettingsStore} {history history' : List Step}
    (hlossless : s.Lossless history) (h : List.Forall₂ Step.Interchanged history history') :
    s.follow history' = s.follow history := by
  induction h generalizing s with
  | nil => rfl
  | @cons step step' rest rest' hstep _ ih =>
    obtain ⟨hkept, hrest⟩ := hlossless
    have hturn : s.turn step' = s.turn step := by
      rcases hstep with rfl | ⟨hrenews, hrenews'⟩
      · rfl
      · rw [turn_of_renews hrenews (hkept hrenews), turn_of_renews hrenews' (hkept hrenews)]
    dsimp only [follow]
    rw [hturn, ih hrest]

/-! ### Settings after any history -/

/-- What holds of settings of which these are the current ones. -/
structure Held (s : SettingsStore) (current : Option Nat) : Prop where
  /-- They are answered by a reading that is not forced, wherever the sources have gone. -/
  served : ∀ id, current = some id → s.get false = (.ok id, s)
  /-- Without them such a reading builds new ones. -/
  built : current = none → s.get false = s.get true
  /-- They outlive a forced reading that fails. -/
  kept : ∀ f, (s.get true).1 = .error f → (s.get true).2 = s
  /-- A reload that fails is answered like a forced reading, but forgets them. -/
  forgotten : ∀ f, (s.get true).1 = .error f → s.reload = (.error f, { s with current := none })
  /-- Settings that are built anew take their place, and there a reload is a forced reading. -/
  replaced : ∀ id, (s.get true).1 = .ok id →
    s.reload = s.get true ∧ (s.get true).2.get false = (.ok id, (s.get true).2)
  /-- So the two are one exactly if nothing is forgotten for nothing. -/
  interchangeable : s.reload = s.get true ↔ current = none ∨ ∃ id, (s.get true).1 = .ok id

theorem held (s : SettingsStore) : Held s s.current where
  served _ h := get_current s h
  built := get_false_of_none
  kept _ := snd_get_of_error
  forgotten _ h := Prod.ext ((fst_reload s).trans h) (snd_reload_of_error h)
  replaced _ h := ⟨(reload_of_ok h).1, get_current _ (reload_of_ok h).2⟩
  interchangeable := reload_eq_get_iff s

/-- After any history those settings are current that were answered last, unless a reload has failed
since: then there are none. Whatever happens to the sources, they are what the next reading answers
unless it is forced; a forced reading replaces them if it succeeds and leaves them if it fails, and
a reload replaces or forgets them. In a history in which nothing fails while settings are current, a
reload and a forced reading may stand for each other. -/
theorem held_follow (start : SettingsStore) (history : List Step) :
    Held (start.follow history).2
        (remembered start.current (history.zip (start.follow history).1)) ∧
      ∀ history', start.Lossless history → List.Forall₂ Step.Interchanged history history' →
        start.follow history' = start.follow history := by
  constructor
  · rw [← current_follow]
    exact held _
  · intro history' hlossless hsame
    exact follow_of_interchanged hlossless hsame

/-- Settings were built, the port becomes a bad one, and a reload fails: the next reading fails too,
where it would have answered the settings that were there if the reading had been forced. -/
theorem follow_of_failed_reload :
    let bad : Sources := { environment := [("SPHINX_PORT", "0")] }
    ∃ f, (follow {} [.get false, .change bad, .reload, .get false]).1 =
        [some (.ok 0), none, some (.error f), some (.error f)] ∧
      (follow {} [.get false, .change bad, .get true, .get false]).1 =
        [some (.ok 0), none, some (.error f), some (.ok 0)] :=
  ⟨_, rfl, rfl⟩

end SearchClient.SettingsStore
