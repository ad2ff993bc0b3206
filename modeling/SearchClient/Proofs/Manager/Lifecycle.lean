import SearchClient.Proofs.Manager.Opening

/-!
# The life of a manager

Calls on a manager come in any order, any of them may fail, and its connection may be closed from
outside between them. At any time no connection is open but, maybe, the one that the manager keeps:
it opens another one only when it finds its own closed, and forgets its own only when it has closed
it. An engine that was created stays until the manager has been closed altogether, so there is at
most one new engine from one such closing to the next.

## Key results

- `Managed.Moved`: what a call can do to a manager, or a loss of its connection
- `Managed.tidy_follow`: no connection is open but the one that is kept
- `Managed.built_follow`: one new engine at most from one completed closing to the next
- `Managed.orderly_follow`: a manager is in order at any time
-/

namespace SearchClient

namespace Managed

variable {net : Network}

/-- What happens to a manager: a call on it, or a connection that is closed from outside. -/
inductive Move where
  | connection
  | createQuery (statement : Value)
  | engine
  | close
  | lost (n : Nat)

/-- A manager before its first call. -/
def started (settings : Settings) : Managed := { manager := { settings } }

/-- What a move leaves. -/
def move (net : Network) (m : Managed) : Move → Managed
  | .connection => (m.connection net).2
  | .createQuery statement => (m.createQuery net statement).2
  | .engine => (m.engine net).2
  | .close => (m.close net).2
  | .lost n => m.onWorld fun w => { w with live := w.live.filter (· != n) }

/-- What moves leave, one after the other. -/
def follow (net : Network) (m : Managed) (moves : List Move) : Managed := moves.foldl (move net) m

/-- Whether a move is a closing that is completed. -/
def completes (net : Network) (m : Managed) : Move → Bool
  | .close => (m.close net).1.isOk
  | _ => false

/-- How many closings are completed in the course of some moves. -/
def completions (net : Network) (m : Managed) : List Move → Nat
  | [] => 0
  | move :: moves => (m.completes net move).toNat + (m.move net move).completions net moves

/-! ### Accesses -/

theorem connection_of_connected (net : Network) {m : Managed} (h : m.isConnected = true) :
    ∃ n, m.connection net = (.ok n, m) := by
  unfold isConnected at h
  split at h
  · rename_i n hkept
    exact ⟨n, connection_of_live net m hkept (by simpa using h)⟩
  · exact nomatch h

theorem connection_accessed {m : Managed} (h : m.isConnected = false) :
    Accessed net m (m.connection net).1 (m.connection net).2 := by
  have hopens : m.connection net = m.reconnect net := by
    unfold isConnected at h
    unfold connection
    split
    · rename_i n hkept
      rw [hkept] at h
      exact if_neg (by simpa using h)
    · rfl
  rw [hopens]
  exact reconnect_accessed m

theorem Accessed.keeps {m m' : Managed} {r : Except Failure Nat} (h : Accessed net m r m') :
    m.Keeps net m' := by
  cases h with
  | barred hengine hobstacle hcode hfinal hconnection hkeeps hstill => exact hkeeps
  | failed hopening hreported hlast hconnection hlive hpaced => exact hpaced.keeps
  | opened hopening hconnection hlive hpaced => exact hpaced.keeps

/-- An access that fails leaves the connection of the manager, and the open ones, as they are. -/
theorem Accessed.of_error {m m' : Managed} {f : Failure} (h : Accessed net m (.error f) m') :
    m'.manager.connection = m.manager.connection ∧ m'.world.live = m.world.live := by
  cases h with
  | barred hengine hobstacle hcode hfinal hconnection hkeeps hstill =>
    exact ⟨hconnection, hstill.live⟩
  | failed hopening hreported hlast hconnection hlive hpaced => exact ⟨hconnection, hlive⟩

/-- If no opening succeeds on an engine that can be created, and all of them fail with one client
error, that error comes out of an access as it is, whatever its category. -/
theorem Accessed.eq_error {m m' : Managed} {r : Except Failure Nat} (h : Accessed net m r m')
    {cause : Failure} (hopening : ∀ n, net.opening n = some cause)
    (hclient : cause.kind.isA .client = true)
    (hfree : (m.obstacle? net m.world.creations).isSome = false) : r = .error cause := by
  cases h with
  | barred hengine hobstacle hcode hfinal hconnection hkeeps hstill =>
    exact nomatch hobstacle.symm.trans hfree
  | failed hfailed hreported hlast hconnection hlive hpaced =>
    obtain rfl := Option.some.inj (hfailed.symm.trans (hopening _))
    obtain ⟨-, rfl⟩ | ⟨hother, -, -⟩ := hreported
    · rfl
    · exact nomatch hclient.symm.trans hother
  | opened hopened hconnection hlive hpaced => exact nomatch hopened.symm.trans (hopening _)

/-- A query is made on an access to the connection, and fails as that does. -/
theorem createQuery_eq (m : Managed) (statement : Value) :
    m.createQuery net statement =
      ((m.connection net).1.map fun _ =>
        Query.create statement (.int m.manager.settings.maxMatches), (m.connection net).2) := by
  have hsettings : (m.connection net).2.manager.settings = m.manager.settings := by
    cases hconnected : m.isConnected with
    | true =>
      obtain ⟨n, hlive⟩ := connection_of_connected net hconnected
      rw [hlive]
    | false => exact (connection_accessed hconnected).keeps.settings
  unfold createQuery
  rcases hcall : m.connection net with ⟨f | n, m'⟩
  · rfl
  · rw [hcall] at hsettings
    dsimp only at hsettings ⊢
    rw [hsettings]
    rfl

/-! ### Closings -/

/-- The open connections that are not the one of the manager. -/
def others (m : Managed) : List Nat := m.world.live.filter fun n => m.manager.connection != some n

/-- What a closing comes to: the connection stays because it cannot be closed, the engine stays
because it cannot be given up, or nothing stays. -/
inductive Closed (net : Network) (m : Managed) : Except Failure Unit → Managed → Prop where
  | refused {f : Failure} {m' : Managed} (hopened : m.manager.connection ≠ none)
      (hclosing : net.closing m.world.closings = some f) (hmanager : m'.manager = m.manager)
      (hlive : m'.world.live = m.world.live) (hkeeps : m.Keeps net m') : Closed net m (.error f) m'
  | parted {f : Failure} {m' : Managed}
      (hclosing : m.manager.connection ≠ none → net.closing m.world.closings = none)
      (hcreated : m.manager.engine ≠ none) (hdisposal : net.disposal m.world.disposals = some f)
      (hconnection : m'.manager.connection = none) (hengine : m'.manager.engine = m.manager.engine)
      (hlive : m'.world.live = m.others) (hkeeps : m.Keeps net m') : Closed net m (.error f) m'
  | completed {m' : Managed}
      (hclosing : m.manager.connection ≠ none → net.closing m.world.closings = none)
      (hdisposal : m.manager.engine ≠ none → net.disposal m.world.disposals = none)
      (hconnection : m'.manager.connection = none) (hengine : m'.manager.engine = none)
      (hlive : m'.world.live = m.others)
      (hbuilt : m'.built net = m.built net) : Closed net m (.ok ()) m'

/-- A manager without a connection only has its engine to give up. -/
private theorem closed_dispose {m m₀ : Managed}
    (hclosing : m.manager.connection ≠ none → net.closing m.world.closings = none)
    (hconnection : m₀.manager.connection = none)
    (hsettings : m₀.manager.settings = m.manager.settings)
    (hengine : m₀.manager.engine = m.manager.engine) (hlive : m₀.world.live = m.others)
    (hcreations : m₀.world.creations = m.world.creations)
    (hdisposals : m₀.world.disposals = m.world.disposals) :
    Closed net m (m₀.dispose net).1 (m₀.dispose net).2 := by
  have hbuilt : m₀.built net = m.built net := built_congr hsettings hcreations
  unfold dispose
  split
  · rename_i hnone
    have hmissing : m.manager.engine = none := hengine.symm.trans hnone
    exact .completed hclosing (fun h => absurd hmissing h) hconnection hnone hlive hbuilt
  · rename_i n hsome
    have hcreated : m.manager.engine ≠ none := by
      rw [← hengine, hsome]
      exact Option.some_ne_none n
    dsimp only
    rw [hdisposals]
    cases hdisposal : net.disposal m.world.disposals with
    | some f =>
      exact .parted hclosing hcreated hdisposal hconnection hengine hlive
        (.of_same hsettings hengine hcreations)
    | none => exact .completed hclosing (fun _ => hdisposal) hconnection rfl hlive hbuilt

/-- What a closing comes to. -/
theorem close_closed (m : Managed) : Closed net m (m.close net).1 (m.close net).2 := by
  unfold close
  split
  · rename_i hnone
    refine closed_dispose (fun h => absurd hnone h) hnone rfl rfl ?_ rfl rfl
    unfold others
    rw [hnone]
    exact (List.filter_eq_self.mpr fun n _ => rfl).symm
  · rename_i n hkept
    have hopened : m.manager.connection ≠ none := by
      rw [hkept]
      exact Option.some_ne_none n
    unfold closeNumber
    dsimp only
    cases hclosing : net.closing m.world.closings with
    | some f => exact .refused hopened hclosing rfl rfl (.of_same rfl rfl rfl)
    | none =>
      refine closed_dispose (fun _ => hclosing) rfl rfl rfl ?_ rfl rfl
      unfold others
      rw [hkept]
      refine List.filter_congr fun k _ => ?_
      rw [Bool.eq_iff_iff, bne_iff_ne, bne_iff_ne, ne_comm, Ne, Ne, Option.some.injEq]

/-! ### Moves -/

/-- What a move can do. -/
inductive Moved (net : Network) (m : Managed) : Move → Managed → Prop where
  /-- The connection was open already. -/
  | unchanged {move : Move} : Moved net m move m
  | accessed {move : Move} {r : Except Failure Nat} {m' : Managed}
      (hclosed : m.isConnected = false) (haccessed : Accessed net m r m') : Moved net m move m'
  | equipped {r : Except Failure Nat} {m' : Managed} (hequipped : Equipped net m r m') :
      Moved net m .engine m'
  | closed {r : Except Failure Unit} {m' : Managed} (hcompletes : m.completes net .close = r.isOk)
      (hclosed : Closed net m r m') : Moved net m .close m'
  | lost {n : Nat} {m' : Managed} (hmanager : m'.manager = m.manager)
      (hlive : m'.world.live = m.world.live.filter (· != n)) (hkeeps : m.Keeps net m') :
      Moved net m (.lost n) m'

private theorem moved_connection (m : Managed) (move : Move) :
    Moved net m move (m.connection net).2 := by
  cases hconnected : m.isConnected with
  | true =>
    obtain ⟨n, hlive⟩ := connection_of_connected net hconnected
    rw [hlive]
    exact .unchanged
  | false => exact .accessed hconnected (connection_accessed hconnected)

theorem move_moved (m : Managed) (move : Move) : Moved net m move (m.move net move) := by
  cases move with
  | connection => exact moved_connection m .connection
  | createQuery statement =>
    dsimp only [Managed.move]
    rw [createQuery_eq]
    exact moved_connection m (.createQuery statement)
  | engine => exact .equipped (engine_equipped m)
  | close => exact .closed rfl (close_closed m)
  | lost n => exact .lost rfl rfl (.of_same rfl rfl rfl)

/-! ### Connections -/

/-- No connection is open but, maybe, the one of the manager. -/
def Tidy (m : Managed) : Prop :=
  m.world.live = [] ∨ ∃ n, m.manager.connection = some n ∧ m.world.live = [n]

theorem Tidy.live_eq_nil {m : Managed} (h : m.Tidy) (hclosed : m.isConnected = false) :
    m.world.live = [] := by
  obtain hnil | ⟨n, hkept, hlive⟩ := h
  · exact hnil
  · unfold isConnected at hclosed
    rw [hkept, hlive] at hclosed
    simp at hclosed

theorem Tidy.others_eq_nil {m : Managed} (h : m.Tidy) : m.others = [] := by
  unfold others
  obtain hnil | ⟨n, hkept, hlive⟩ := h
  · rw [hnil]
    rfl
  · rw [hkept, hlive]
    simp

theorem Tidy.of_same {m m' : Managed} (h : m.Tidy)
    (hconnection : m'.manager.connection = m.manager.connection)
    (hlive : m'.world.live = m.world.live) : m'.Tidy := by
  unfold Tidy
  rw [hconnection, hlive]
  exact h

theorem Moved.tidy {m m' : Managed} {move : Move} (h : Moved net m move m') (htidy : m.Tidy) :
    m'.Tidy := by
  cases h with
  | unchanged => exact htidy
  | @accessed _ r _ hclosed haccessed =>
    -- An access that has to open a connection finds none open, so there is no second one after it.
    have hnil : m.world.live = [] := htidy.live_eq_nil hclosed
    cases r with
    | error f =>
      obtain ⟨hconnection, hlive⟩ := haccessed.of_error
      exact htidy.of_same hconnection hlive
    | ok n =>
      cases haccessed with
      | opened hopening hconnection hlive hpaced =>
        rw [hnil] at hlive
        exact .inr ⟨_, hconnection, hlive⟩
  | equipped hequipped =>
    cases hequipped with
    | equipped hengine hkeeps hconnection hstill => exact htidy.of_same hconnection hstill.live
    | barred hengine hobstacle hcode hfinal hmanager hkeeps hstill =>
      exact htidy.of_same (congrArg Manager.connection hmanager) hstill.live
  | closed hcompletes hclosed =>
    cases hclosed with
    | refused hopened hclosing hmanager hlive hkeeps =>
      exact htidy.of_same (congrArg Manager.connection hmanager) hlive
    | parted hclosing hcreated hdisposal hconnection hengine hlive hkeeps =>
      exact .inl (hlive.trans htidy.others_eq_nil)
    | completed hclosing hdisposal hconnection hengine hlive hbuilt =>
      exact .inl (hlive.trans htidy.others_eq_nil)
  -- The connection that is lost may be any, and only that of the manager is open.
  | @lost n _ hmanager hlive hkeeps =>
    obtain hnil | ⟨k, hkept, hk⟩ := htidy
    · rw [hnil] at hlive
      exact .inl hlive
    · rw [hk, List.filter_cons, List.filter_nil] at hlive
      rw [← hmanager] at hkept
      split at hlive
      · exact .inr ⟨k, hkept, hlive⟩
      · exact .inl hlive

theorem tidy_follow {m : Managed} (h : m.Tidy) (moves : List Move) :
    (m.follow net moves).Tidy := by
  induction moves generalizing m with
  | nil => exact h
  | cons move moves ih => exact ih ((move_moved m move).tidy h)

/-- An open connection is forgotten only by a closing that has closed it. -/
theorem Moved.forgets {m m' : Managed} {move : Move} (h : Moved net m move m') {n : Nat}
    (hkept : m.manager.connection = some n) (hlive : n ∈ m.world.live) :
    m'.manager.connection = some n ∨
      move = .close ∧ net.closing m.world.closings = none ∧ n ∉ m'.world.live := by
  have hothers : n ∉ m.others := by
    unfold others
    rw [hkept]
    simp
  have hsome : m.manager.connection ≠ none := by
    rw [hkept]
    exact Option.some_ne_none n
  cases h with
  | unchanged => exact .inl hkept
  | accessed hclosed haccessed =>
    unfold isConnected at hclosed
    rw [hkept] at hclosed
    exact absurd hlive (by simpa using hclosed)
  | equipped hequipped =>
    cases hequipped with
    | equipped hengine hkeeps hconnection hstill => exact .inl (hconnection.trans hkept)
    | barred hengine hobstacle hcode hfinal hmanager hkeeps hstill =>
      exact .inl ((congrArg Manager.connection hmanager).trans hkept)
  | closed hcompletes hclosed =>
    cases hclosed with
    | refused hopened hclosing hmanager hlive hkeeps =>
      exact .inl ((congrArg Manager.connection hmanager).trans hkept)
    | parted hclosing hcreated hdisposal hconnection hengine hlive hkeeps =>
      rw [hlive]
      exact .inr ⟨rfl, hclosing hsome, hothers⟩
    | completed hclosing hdisposal hconnection hengine hlive hbuilt =>
      rw [hlive]
      exact .inr ⟨rfl, hclosing hsome, hothers⟩
  -- A manager that has lost its connection still knows it, until it opens another one.
  | lost hmanager hlive hkeeps => exact .inl ((congrArg Manager.connection hmanager).trans hkept)

/-! ### Engines -/

/-- A move keeps every engine, unless it is a closing that is completed. -/
theorem Moved.built {m m' : Managed} {move : Move} (h : Moved net m move m') :
    m'.built net + m.engines ≤ m.built net + m'.engines + (m.completes net move).toNat := by
  have hkept (hkeeps : m.Keeps net m') :
      m'.built net + m.engines ≤ m.built net + m'.engines + (m.completes net move).toNat := by
    rw [hkeeps.built]
    exact Nat.le_add_right _ _
  cases h with
  | unchanged => exact hkept (.refl m)
  | accessed hclosed haccessed => exact hkept haccessed.keeps
  | equipped hequipped =>
    cases hequipped with
    | equipped hengine hkeeps hconnection hstill => exact hkept hkeeps
    | barred hengine hobstacle hcode hfinal hmanager hkeeps hstill => exact hkept hkeeps
  | closed hcompletes hclosed =>
    cases hclosed with
    | refused hopened hclosing hmanager hlive hkeeps => exact hkept hkeeps
    | parted hclosing hcreated hdisposal hconnection hengine hlive hkeeps => exact hkept hkeeps
    | completed hclosing hdisposal hconnection hengine hlive hbuilt =>
      -- The engine that is given up, if there was one, is the one that may be created again.
      rw [hbuilt, hcompletes]
      have := m.engines_le_one
      change _ ≤ _ + _ + 1
      omega
  | lost hmanager hlive hkeeps => exact hkept hkeeps

theorem built_follow (m : Managed) (moves : List Move) :
    (m.follow net moves).built net + m.engines ≤
      m.built net + (m.follow net moves).engines + m.completions net moves := by
  induction moves generalizing m with
  | nil => exact Nat.le_refl _
  | cons move moves ih =>
    have hmoved : Moved net m move (m.move net move) := move_moved m move
    have hstep := hmoved.built
    have hrest := ih (m.move net move)
    change ((m.move net move).follow net moves).built net + m.engines ≤ m.built net +
      ((m.move net move).follow net moves).engines +
        ((m.completes net move).toNat + (m.move net move).completions net moves)
    omega

/-! ### Order -/

/-- What holds of a manager at any time between two calls. -/
structure Orderly (net : Network) (m : Managed) : Prop where
  /-- At most one connection is open, and that is the one of the manager. -/
  tidy : m.Tidy
  /-- It is not forgotten, unless by a closing that has closed it. -/
  forgets : ∀ move n, m.manager.connection = some n → n ∈ m.world.live →
    (m.move net move).manager.connection = some n ∨
      move = .close ∧ net.closing m.world.closings = none ∧ n ∉ (m.move net move).world.live
  /-- An access while it is open hands it out and does nothing else. -/
  serves : ∀ n, m.manager.connection = some n → n ∈ m.world.live → m.connection net = (.ok n, m)
  /-- An access while it is not open has to open one. -/
  opens : m.isConnected = false → Accessed net m (m.connection net).1 (m.connection net).2
  /-- A query is made on such an access. -/
  queries : ∀ statement, m.createQuery net statement =
    ((m.connection net).1.map fun _ =>
      Query.create statement (.int m.manager.settings.maxMatches), (m.connection net).2)
  /-- From now on there is one new engine at most before the next completed closing, and one more
  for each of them; none if there is one already. -/
  engines : ∀ moves, (m.follow net moves).built net + m.engines ≤
    m.built net + 1 + m.completions net moves
  /-- A closing closes the connection and gives up the engine, unless the network refuses to. -/
  closes : Closed net m (m.close net).1 (m.close net).2
  /-- A closing that is completed leaves nothing behind. -/
  ends : (m.close net).1 = .ok () →
    (m.close net).2.manager.connection = none ∧ (m.close net).2.manager.engine = none ∧
      (m.close net).2.world.live = []

theorem Tidy.orderly {m : Managed} (h : m.Tidy) : Orderly net m where
  tidy := h
  forgets := fun move _ => (move_moved m move).forgets
  serves := fun _ => connection_of_live net m
  opens := connection_accessed
  queries := createQuery_eq m
  engines := fun moves => by
    have hbuilt : (m.follow net moves).built net + m.engines ≤
        m.built net + (m.follow net moves).engines + m.completions net moves :=
      built_follow m moves
    have hone := (m.follow net moves).engines_le_one
    omega
  closes := close_closed m
  ends := fun hcompleted => by
    have hclosed : Closed net m (m.close net).1 (m.close net).2 := close_closed m
    rw [hcompleted] at hclosed
    cases hclosed with
    | completed hclosing hdisposal hconnection hengine hlive hbuilt =>
      exact ⟨hconnection, hengine, hlive.trans h.others_eq_nil⟩

/-- A manager is in order after any moves, however the network behaves. -/
theorem orderly_follow (net : Network) (settings : Settings) (moves : List Move) :
    Orderly net ((started settings).follow net moves) :=
  (tidy_follow (.inl rfl) moves).orderly

/-- Not every failure of an access is about the connection. -/
theorem connection_of_invalid_state :
    ((started {}).connection
        { opening := fun _ => some (.invalidState (.str "gone") .null {}) }).1 =
      .error (.invalidState (.str "gone") .null {}) ∧
    (Failure.invalidState (.str "gone") .null {}).hasCode .connection = false :=
  ⟨(connection_accessed rfl).eq_error (fun _ => rfl) rfl (by cbv), rfl⟩

end Managed

end SearchClient
