import SearchClient.Manager
import SearchClient.Proofs.Backoff

/-!
# Opening a connection

When a manager has to open a connection it creates the engine first, if there is none. If that fails
nothing is opened. Otherwise it tries to open a connection a number of times, with one wait after
each time but the last, until a connection is open, the failure is not one to try again after, or
no repetition is left. Whatever happens, an engine is created only if there was none.

## Key results

- `Managed.attempt_attempted`: one attempt
- `Managed.Chained`: what failed attempts in a row leave
- `Managed.reconnect_accessed`: all that opening a connection can come to
-/

namespace SearchClient

/-- Whether an event is an attempt to open a connection or a wait. -/
def Event.isPaced : Event → Bool
  | .connected | .waited _ => true
  | _ => false

namespace World

/-- Attempts to open a connection, and waits, in order. -/
def paced (w : World) : List Event := w.events.filter Event.isPaced

/-- No connection was opened or closed, none was tried, and nothing was waited for. -/
structure Still (w w' : World) : Prop where
  live : w'.live = w.live
  attempts : w'.attempts = w.attempts
  paced : w'.paced = w.paced

theorem Still.trans {w₁ w₂ w₃ : World} (h : w₁.Still w₂) (h' : w₂.Still w₃) : w₁.Still w₃ :=
  ⟨h'.live.trans h.live, h'.attempts.trans h.attempts, h'.paced.trans h.paced⟩

theorem paced_emit (w : World) (e : Event) :
    (w.emit e).paced = w.paced ++ if e.isPaced then [e] else [] := by
  unfold paced emit
  rw [List.filter_append, List.filter_cons, List.filter_nil]

theorem still_emit (w : World) {e : Event} (h : e.isPaced = false) : w.Still (w.emit e) := by
  refine ⟨rfl, rfl, ?_⟩
  rw [paced_emit, h]
  exact List.append_nil _

theorem still_report (w : World) (r : LogRecord) : w.Still (w.report r) := ⟨rfl, rfl, rfl⟩

end World

namespace Managed

variable {net : Network}

/-! ### Engines -/

/-- How many engines were created: the creations that nothing stood in the way of. -/
def built (net : Network) (m : Managed) : Nat :=
  (List.range m.world.creations).countP fun n => (m.obstacle? net n).isNone

/-- How many engines there are. -/
def engines (m : Managed) : Nat := if m.manager.engine.isSome then 1 else 0

theorem engines_le_one (m : Managed) : m.engines ≤ 1 := by
  unfold engines
  split <;> omega

/-- The settings are the same, and every engine that was created is still there. -/
structure Keeps (net : Network) (m m' : Managed) : Prop where
  settings : m'.manager.settings = m.manager.settings
  built : m'.built net + m.engines = m.built net + m'.engines

theorem Keeps.trans {m₁ m₂ m₃ : Managed} (h : m₁.Keeps net m₂) (h' : m₂.Keeps net m₃) :
    m₁.Keeps net m₃ := by
  refine ⟨h'.settings.trans h.settings, ?_⟩
  have := h.built
  have := h'.built
  omega

/-- Settings decide what stands in the way of an engine. -/
theorem obstacle?_congr {m m' : Managed} (h : m'.manager.settings = m.manager.settings) (n : Nat) :
    m'.obstacle? net n = m.obstacle? net n := by
  unfold obstacle? address
  rw [h]

theorem built_congr {m m' : Managed} (hsettings : m'.manager.settings = m.manager.settings)
    (hcreations : m'.world.creations = m.world.creations) : m'.built net = m.built net := by
  unfold built
  rw [hcreations]
  exact List.countP_congr fun n _ => by rw [obstacle?_congr hsettings]

theorem Keeps.of_same {m m' : Managed} (hsettings : m'.manager.settings = m.manager.settings)
    (hengine : m'.manager.engine = m.manager.engine)
    (hcreations : m'.world.creations = m.world.creations) : m.Keeps net m' := by
  refine ⟨hsettings, ?_⟩
  rw [built_congr hsettings hcreations, engines, engines, hengine]

theorem Keeps.refl (m : Managed) : m.Keeps net m := .of_same rfl rfl rfl

/-- One creation more is one engine more if nothing stood in its way. -/
theorem Keeps.of_creation {m m' : Managed} (hsettings : m'.manager.settings = m.manager.settings)
    (hcreations : m'.world.creations = m.world.creations + 1) (hnone : m.manager.engine = none)
    (hengine : m'.manager.engine.isSome = (m.obstacle? net m.world.creations).isNone) :
    m.Keeps net m' := by
  refine ⟨hsettings, ?_⟩
  have hbuilt : m'.built net = (List.range (m.world.creations + 1)).countP fun n =>
      (m.obstacle? net n).isNone := by
    unfold Managed.built
    rw [hcreations]
    exact List.countP_congr fun n _ => by rw [obstacle?_congr hsettings]
  rw [hbuilt, List.range_succ, List.countP_append, List.countP_singleton, engines, engines, hnone,
    hengine]
  rfl

/-- What asking for the engine comes to: it is there, it is created, or something stands in the way
of it. -/
inductive Equipped (net : Network) (m : Managed) : Except Failure Nat → Managed → Prop where
  | equipped {n : Nat} {m' : Managed} (hengine : m'.manager.engine.isSome = true)
      (hkeeps : m.Keeps net m') (hconnection : m'.manager.connection = m.manager.connection)
      (hstill : m.world.Still m'.world) : Equipped net m (.ok n) m'
  | barred {f : Failure} {m' : Managed} (hengine : m.manager.engine = none)
      (hobstacle : (m.obstacle? net m.world.creations).isSome = true)
      (hcode : f.hasCode .connection = true) (hfinal : f.retryable.isTruthy = false)
      (hmanager : m'.manager = m.manager) (hkeeps : m.Keeps net m')
      (hstill : m.world.Still m'.world) : Equipped net m (.error f) m'

theorem engine_equipped (m : Managed) : Equipped net m (m.engine net).1 (m.engine net).2 := by
  unfold engine
  cases hengine : m.manager.engine with
  | some n => exact .equipped (by rw [hengine]; rfl) (.refl m) rfl ⟨rfl, rfl, rfl⟩
  | none =>
    have hstill := m.world.still_emit (e := .engineCreated m.manager.settings.url
      m.manager.settings.poolPrePing m.manager.settings.connectTimeout) rfl
    unfold createEngine
    dsimp only
    split
    · rename_i f hobstacle
      have hbarred : m.obstacle? net m.world.creations = some f := hobstacle
      have hsame : m.manager.engine.isSome = (m.obstacle? net m.world.creations).isNone := by
        rw [hengine, hbarred]
        rfl
      exact .barred hengine (by rw [hbarred]; rfl) rfl rfl rfl
        (.of_creation rfl rfl hengine hsame) ⟨rfl, rfl, hstill.paced⟩
    · rename_i hobstacle
      have hfree : m.obstacle? net m.world.creations = none := hobstacle
      exact .equipped rfl (.of_creation rfl rfl hengine (by rw [hfree]; rfl)) rfl
        ⟨rfl, rfl, hstill.paced⟩

/-! ### One attempt -/

/-- One attempt to open a connection was made. -/
structure Dialed (net : Network) (m m' : Managed) : Prop where
  keeps : m.Keeps net m'
  engine : m'.manager.engine.isSome = true
  connection : m'.manager.connection = m.manager.connection
  attempts : m'.world.attempts = m.world.attempts + 1
  paced : m'.world.paced = m.world.paced ++ [.connected]

/-- How an opening fails: a client error stays what it is, and anything else becomes an error of the
connection that may be tried again after. -/
def Reported (cause f : Failure) : Prop :=
  cause.kind.isA .client = true ∧ f = cause ∨
    cause.kind.isA .client = false ∧ f.hasCode .connection = true ∧ f.retryable.isTruthy = true

/-- What an attempt comes to. -/
inductive Attempted (net : Network) (m : Managed) : Except Failure Nat → Managed → Prop where
  | barred {f : Failure} {m' : Managed} (hengine : m.manager.engine = none)
      (hobstacle : (m.obstacle? net m.world.creations).isSome = true)
      (hcode : f.hasCode .connection = true) (hfinal : f.retryable.isTruthy = false)
      (hmanager : m'.manager = m.manager) (hkeeps : m.Keeps net m')
      (hstill : m.world.Still m'.world) : Attempted net m (.error f) m'
  | failed {cause f : Failure} {m' : Managed} (hopening : net.opening m.world.attempts = some cause)
      (hreported : Reported cause f) (hdialed : m.Dialed net m')
      (hlive : m'.world.live = m.world.live) : Attempted net m (.error f) m'
  | opened {n : Nat} {m' : Managed} (hnumber : n = m.world.attempts)
      (hopening : net.opening n = none) (hdialed : m.Dialed net m')
      (hlive : m'.world.live = m.world.live ++ [n]) : Attempted net m (.ok n) m'

theorem attempted_connect {m m' : Managed} (hengine : m'.manager.engine.isSome = true)
    (hkeeps : m.Keeps net m') (hconnection : m'.manager.connection = m.manager.connection)
    (hstill : m.world.Still m'.world) :
    Attempted net m (m'.connect net).1 (m'.connect net).2 := by
  have hkeeps' {w : World} (hw : w.creations = m'.world.creations) :
      m.Keeps net { m' with world := w } := hkeeps.trans (.of_same rfl rfl hw)
  have hpaced : (({ m'.world with attempts := m'.world.attempts + 1 }).emit .connected).paced =
      m.world.paced ++ [.connected] := by
    rw [World.paced_emit]
    exact congrArg (· ++ [Event.connected]) hstill.paced
  have hattempts : m'.world.attempts + 1 = m.world.attempts + 1 := congrArg (· + 1) hstill.attempts
  unfold connect
  dsimp only
  cases hopening : net.opening m'.world.attempts with
  | some cause =>
    have hopening' : net.opening m.world.attempts = some cause := by
      rw [← hstill.attempts]
      exact hopening
    dsimp only
    split
    · rename_i hclient
      exact .failed hopening' (.inl ⟨hclient, rfl⟩)
        ⟨hkeeps' rfl, hengine, hconnection, hattempts, hpaced⟩ hstill.live
    · rename_i hclient
      exact .failed hopening' (.inr ⟨by simpa using hclient, rfl, rfl⟩)
        ⟨hkeeps' rfl, hengine, hconnection, hattempts, hpaced⟩ hstill.live
  | none =>
    exact .opened hstill.attempts hopening ⟨hkeeps' rfl, hengine, hconnection, hattempts, hpaced⟩
      (congrArg (· ++ [m'.world.attempts]) hstill.live)

theorem Dialed.onWorld {m m' : Managed} (h : m.Dialed net m') {w : World}
    (hstill : m'.world.Still w) (hcreations : w.creations = m'.world.creations) :
    m.Dialed net { m' with world := w } where
  keeps := h.keeps.trans (.of_same rfl rfl hcreations)
  engine := h.engine
  connection := h.connection
  attempts := hstill.attempts.trans h.attempts
  paced := hstill.paced.trans h.paced

/-- What an attempt comes to stays so when its span has ended. -/
theorem Attempted.onWorld {m m' : Managed} {r : Except Failure Nat} (h : Attempted net m r m')
    {w : World} (hstill : m'.world.Still w) (hcreations : w.creations = m'.world.creations) :
    Attempted net m r { m' with world := w } := by
  cases h with
  | barred hengine hobstacle hcode hfinal hmanager hkeeps hbefore =>
    exact .barred hengine hobstacle hcode hfinal hmanager
      (hkeeps.trans (.of_same rfl rfl hcreations)) (hbefore.trans hstill)
  | failed hopening hreported hdialed hlive =>
    exact .failed hopening hreported (hdialed.onWorld hstill hcreations) (hstill.live.trans hlive)
  | opened hnumber hopening hdialed hlive =>
    exact .opened hnumber hopening (hdialed.onWorld hstill hcreations) (hstill.live.trans hlive)

theorem attempted_openOnce {m m₀ : Managed} (hmanager : m₀.manager = m.manager)
    (hcreations : m₀.world.creations = m.world.creations) (hstill : m.world.Still m₀.world) :
    Attempted net m (m₀.openOnce net).1 (m₀.openOnce net).2 := by
  have hsettings : m₀.manager.settings = m.manager.settings := congrArg Manager.settings hmanager
  have hbefore : m.Keeps net m₀ :=
    .of_same hsettings (congrArg Manager.engine hmanager) hcreations
  have hequipped : Equipped net m₀ (m₀.engine net).1 (m₀.engine net).2 := engine_equipped m₀
  unfold openOnce
  rcases hengine : m₀.engine net with ⟨f | n, m'⟩
  · rw [hengine] at hequipped
    cases hequipped with
    | barred hnone hobstacle hcode hfinal hsame hkeeps hafter =>
      rw [obstacle?_congr hsettings, hcreations] at hobstacle
      rw [hmanager] at hnone
      exact .barred hnone hobstacle hcode hfinal (hsame.trans hmanager) (hbefore.trans hkeeps)
        (hstill.trans hafter)
  · rw [hengine] at hequipped
    cases hequipped with
    | equipped hsome hkeeps hconnection hafter =>
      exact attempted_connect hsome (hbefore.trans hkeeps)
        (hconnection.trans (congrArg Manager.connection hmanager)) (hstill.trans hafter)

/-- What one attempt to open a connection comes to. -/
theorem attempt_attempted (m : Managed) :
    Attempted net m (m.attempt net).1 (m.attempt net).2 := by
  have hcollected : m.world.Still (m.world.reportAny none) := ⟨rfl, rfl, rfl⟩
  have hopened : Attempted net m ((m.onWorld (·.reportAny none)).openOnce net).1
      ((m.onWorld (·.reportAny none)).openOnce net).2 := attempted_openOnce rfl rfl hcollected
  exact hopened.onWorld (World.still_emit _ rfl) rfl

/-! ### Attempts in a row -/

/-- The opening of some number failed in a way that another one may follow. -/
def Passing (net : Network) (n : Nat) : Prop :=
  ∃ cause, net.opening n = some cause ∧
    (cause.kind.isA .client = true → cause.retryable.isTruthy = true)

/-- What attempts in a row leave that have failed, with a wait after each of them. -/
structure Chained (net : Network) (m m' : Managed) (delays : List Value) : Prop where
  keeps : m.Keeps net m'
  engine : m.manager.engine.isSome = true ∨ delays ≠ [] → m'.manager.engine.isSome = true
  connection : m'.manager.connection = m.manager.connection
  live : m'.world.live = m.world.live
  attempts : m'.world.attempts = m.world.attempts + delays.length
  paced : m'.world.paced =
    m.world.paced ++ delays.flatMap fun delay => [.connected, .waited delay]
  passing : ∀ i < delays.length, Passing net (m.world.attempts + i)

theorem Chained.nil (m : Managed) : Chained net m m [] where
  keeps := .refl m
  engine := fun h => h.resolve_right fun hne => hne rfl
  connection := rfl
  live := rfl
  attempts := rfl
  paced := (List.append_nil _).symm
  passing := nofun

/-- An attempt that has failed in passing, the wait after it, and a chain behind that. -/
theorem Chained.cons {m failed m' : Managed} {delay : Value} {delays : List Value} {r : LogRecord}
    (hpassing : Passing net m.world.attempts) (hdialed : m.Dialed net failed)
    (hlive : failed.world.live = m.world.live)
    (h : Chained net (failed.onWorld fun w => (w.report r).emit (.waited delay)) m' delays) :
    Chained net m m' (delay :: delays) where
  keeps := by
    have hwaited : failed.Keeps net
        (failed.onWorld fun w => (w.report r).emit (.waited delay)) := .of_same rfl rfl rfl
    exact (hdialed.keeps.trans hwaited).trans h.keeps
  engine := fun _ => h.engine (.inl hdialed.engine)
  connection := h.connection.trans hdialed.connection
  live := h.live.trans hlive
  attempts := by
    have hrest : m'.world.attempts = failed.world.attempts + delays.length := h.attempts
    rw [hrest, hdialed.attempts, List.length_cons]
    omega
  paced := by
    have hfirst : (failed.onWorld fun w => (w.report r).emit (.waited delay)).world.paced =
        m.world.paced ++ [.connected] ++ [.waited delay] := by
      rw [← hdialed.paced]
      exact World.paced_emit _ _
    rw [h.paced, hfirst]
    simp
  passing := fun i hi => by
    cases i with
    | zero => exact hpassing
    | succ i =>
      have hrest : Passing net (failed.world.attempts + i) := h.passing i (by simpa using hi)
      rwa [hdialed.attempts, Nat.add_assoc, Nat.add_comm 1 i] at hrest

/-- What an attempt is repeated for says so itself. -/
theorem accepts_eq (f : Failure) : acceptance.accepts f = .ok f.retryable.isTruthy := by
  have hcaught : Thrown.isFailure f = true := FailureClass.isA_general f.kind
  rw [Acceptance.accepts, hcaught]
  rfl

theorem Reported.passing {cause f : Failure} (h : Reported cause f)
    (haccepted : f.retryable.isTruthy = true) (hclient : cause.kind.isA .client = true) :
    cause.retryable.isTruthy = true := by
  rcases h with ⟨-, rfl⟩ | ⟨hother, -, -⟩
  · exact haccepted
  · exact nomatch hclient.symm.trans hother

/-- Attempts that were repeated have failed in passing. An attempt that did not get as far as an
opening is not among them, because that is not repeated. -/
theorem chained_of_tried {b : Backoff Value} {name : Except Failure String} {done : Nat}
    {delay last : Value} {m m' : Managed} {delays : List Value}
    (h : Backoff.Tried b name acceptance onWorld (fun _ m => m.attempt net) done delay m delays
      last m') : Chained net m m' delays := by
  induction h with
  | nil => exact .nil _
  | @again done delay after last m failed behind m' f delays hcall haccepted hwait hrest ih =>
    have hattempted : Attempted net m (m.attempt net).1 (m.attempt net).2 := attempt_attempted m
    rw [hcall] at hattempted
    have haccepted : f.retryable.isTruthy = true :=
      Except.ok.inj ((accepts_eq f).symm.trans haccepted)
    obtain ⟨-, function, error, seconds, rfl⟩ := Backoff.wait_eq_ok hwait
    cases hattempted with
    -- Without an engine the failure says that another attempt is no use.
    | barred hengine hobstacle hcode hfinal hmanager hkeeps hstill =>
      exact nomatch haccepted.symm.trans hfinal
    | failed hopening hreported hdialed hlive =>
      exact .cons ⟨_, hopening, hreported.passing haccepted⟩ hdialed hlive ih

/-- What an access to the connection does that has to open one, as far as attempts are concerned. At
most one more is made than there are repetitions, with one wait between any two of them, and every
one but the last has failed in passing. -/
structure Paced (net : Network) (m m' : Managed) (delays : List Value) : Prop where
  keeps : m.Keeps net m'
  repetitions : delays.length ≤ m.manager.settings.maxRetries.toNat
  attempts : m'.world.attempts = m.world.attempts + delays.length + 1
  paced : m'.world.paced =
    m.world.paced ++ delays.flatMap (fun delay => [.connected, .waited delay]) ++ [.connected]
  passing : ∀ i < delays.length, Passing net (m.world.attempts + i)

/-- What an access to the connection comes to that has to open one. -/
inductive Accessed (net : Network) (m : Managed) : Except Failure Nat → Managed → Prop where
  /-- There is no engine, and something stands in the way of one. -/
  | barred {f : Failure} {m' : Managed} (hengine : m.manager.engine = none)
      (hobstacle : (m.obstacle? net m.world.creations).isSome = true)
      (hcode : f.hasCode .connection = true) (hfinal : f.retryable.isTruthy = false)
      (hconnection : m'.manager.connection = m.manager.connection) (hkeeps : m.Keeps net m')
      (hstill : m.world.Still m'.world) : Accessed net m (.error f) m'
  /-- The last attempt failed: it was the last one that there is, or not one to try again after. -/
  | failed {cause f : Failure} {m' : Managed} {delays : List Value}
      (hopening : net.opening (m.world.attempts + delays.length) = some cause)
      (hreported : Reported cause f)
      (hlast : delays.length = m.manager.settings.maxRetries.toNat ∨
        f.retryable.isTruthy = false)
      (hconnection : m'.manager.connection = m.manager.connection)
      (hlive : m'.world.live = m.world.live) (hpaced : m.Paced net m' delays) :
      Accessed net m (.error f) m'
  /-- The last attempt opened a connection, and that is the one of the manager now. -/
  | opened {m' : Managed} {delays : List Value}
      (hopening : net.opening (m.world.attempts + delays.length) = none)
      (hconnection : m'.manager.connection = some (m.world.attempts + delays.length))
      (hlive : m'.world.live = m.world.live ++ [m.world.attempts + delays.length])
      (hpaced : m.Paced net m' delays) :
      Accessed net m (.ok (m.world.attempts + delays.length)) m'

/-- Attempts in a row and one more. -/
theorem Chained.paced_dialed {m m₀ m' : Managed} {delays : List Value}
    (h : Chained net m m₀ delays) (hdialed : m₀.Dialed net m')
    (hrepetitions : delays.length ≤ m.manager.settings.maxRetries.toNat) :
    m.Paced net m' delays where
  keeps := h.keeps.trans hdialed.keeps
  repetitions := hrepetitions
  attempts := hdialed.attempts.trans (congrArg (· + 1) h.attempts)
  paced := hdialed.paced.trans (congrArg (· ++ [Event.connected]) h.paced)
  passing := h.passing

/-- An attempt that no other follows, after attempts that were repeated. -/
private theorem accessed_of_failed {m m₀ m' : Managed} {delay last : Value} {delays : List Value}
    {f : Failure}
    (htried : Backoff.Tried (backoff m.manager.settings) (.ok "_open_connection") acceptance onWorld
      (fun _ m => m.attempt net) 0 delay m delays last m₀)
    (hrepetitions : delays.length ≤ m.manager.settings.maxRetries.toNat)
    (h : Attempted net m₀ (.error f) m')
    (hlast : delays.length = m.manager.settings.maxRetries.toNat ∨
      f.retryable.isTruthy = false) :
    Accessed net m (.error f) m' := by
  have hchained := chained_of_tried htried
  cases h with
  | barred hengine hobstacle hcode hfinal hmanager hkeeps hstill =>
    -- Behind the first opening there is an engine, so this is the first attempt.
    obtain rfl : delays = [] := Classical.byContradiction fun hne => by
      have hsome := hchained.engine (.inr hne)
      rw [hengine] at hsome
      exact nomatch hsome
    cases htried
    exact .barred hengine hobstacle hcode hfinal (congrArg Manager.connection hmanager) hkeeps
      hstill
  | failed hopening hreported hdialed hlive =>
    rw [hchained.attempts] at hopening
    exact .failed hopening hreported hlast (hdialed.connection.trans hchained.connection)
      (hlive.trans hchained.live) (hchained.paced_dialed hdialed hrepetitions)

/-- What opening a connection comes to. -/
theorem reconnect_accessed (m : Managed) :
    Accessed net m (m.reconnect net).1 (m.reconnect net).2 := by
  obtain ⟨delays, last, m₀, hlength, htried, hended⟩ := Backoff.run_ended
    (b := backoff m.manager.settings) rfl (.ok "_open_connection") acceptance onWorld
    (fun _ m => m.attempt net) m
  have hattempted : Attempted net m₀ (m₀.attempt net).1 (m₀.attempt net).2 := attempt_attempted m₀
  unfold reconnect
  rcases hresult : (backoff m.manager.settings).run (.ok "_open_connection") acceptance onWorld
    (fun _ m => m.attempt net) m with ⟨f | n, m'⟩
  · rw [hresult] at hended
    cases hended with
    | refused hcall hrefused =>
      rw [hcall] at hattempted
      exact accessed_of_failed htried hlength hattempted
        (.inr (Except.ok.inj ((accepts_eq _).symm.trans hrefused)))
    | undecided hcall hthrown => exact nomatch (accepts_eq _).symm.trans hthrown
    | @exhausted f t hcall haccepted hleft =>
      rw [hcall] at hattempted
      rw [Backoff.giveUp_of_ok "_open_connection" rfl]
      have hended : Attempted net m₀ (.error f) (onWorld t (·.report
          (Backoff.givingUp "_open_connection" (delays.length + 1) f.text))) :=
        hattempted.onWorld (World.still_report _ _) rfl
      exact accessed_of_failed htried hlength hended (.inl (by omega))
    | stopped hcall haccepted hleft hwait =>
      -- A wait of the manager is given in seconds, so it goes well.
      have hpasses := Backoff.passes_of_float (b := backoff m.manager.settings) rfl rfl rfl
        (fun _ => rfl) (0 + delays.length)
      exact absurd hwait
        (hpasses.wait_ne_error (htried.delay_eq rfl) "_open_connection" rfl _ _ _ _)
  · rw [hresult] at hended
    cases hended with
    | answered hcall =>
      rw [hcall] at hattempted
      have hchained := chained_of_tried htried
      cases hattempted with
      | opened hnumber hopening hdialed hlive =>
        obtain rfl : n = m.world.attempts + delays.length := hnumber.trans hchained.attempts
        have hpaced := hchained.paced_dialed hdialed hlength
        rw [hchained.live] at hlive
        exact .opened hopening rfl hlive
          ⟨hpaced.keeps.trans (.of_same rfl rfl rfl), hpaced.repetitions, hpaced.attempts,
            hpaced.paced, hpaced.passing⟩

end Managed

end SearchClient
