import SearchClient.Proofs.Query.Execution

/-!
# The main statement and its throttler

An observer reads the trace of an execution from left to right. He counts how often a throttler is
asked for, knows whether one is held, and writes down every statement that is handed to a connection
together with whether a throttler was held then.

What each stage of an execution adds to the trace does something to what the observer has seen, and
these effects are composed along the stages. Only the main statement has to do with throttlers, so
behind it the observer sees the request for the statistics and nothing else.

A throttler is held while the main statement runs. If it swallows a failure of the statement, though,
the statement runs a second time, and then nothing holds it back.

## Key results

- `Throttler.shows_hold`: what is seen of a statement that is held
- `Query.shows_runMain`: what is seen of a main statement
- `Query.shows_attempt`: what is seen of an attempt to run a statement
- `Query.execute_posts`: how often, and how, an execution sends its main statement
- `Query.execute_posts_swallowed`: a main statement that is sent twice
-/

namespace SearchClient

/-- What the observer of a trace has seen. -/
structure Watch where
  /-- How often a throttler was asked for. -/
  asked : Nat := 0
  /-- Whether a throttler is held. -/
  held : Bool := false
  /-- Statements that were handed to a connection, with whether a throttler was held. -/
  posted : List (Value × Bool) := []

namespace Watch

def ask (m : Watch) : Watch := { m with asked := m.asked + 1 }

def enter (m : Watch) : Watch := { m with held := true }

def leave (m : Watch) : Watch := { m with held := false }

def post (statement : Value) (m : Watch) : Watch :=
  { m with posted := m.posted ++ [(statement, m.held)] }

/-- Sees one event. -/
def see (m : Watch) : Event → Watch
  | .throttlerAsked _ _ => m.ask
  | .throttleEntered => m.enter
  | .throttleLeft _ => m.leave
  | .sent statement | .executed statement => m.post statement
  | _ => m

end Watch

/-- What the events from one world to the next do to what was seen before. -/
def World.Shows (w w' : World) (effect : Watch → Watch) : Prop :=
  ∃ events, w'.events = w.events ++ events ∧ ∀ m, events.foldl Watch.see m = effect m

namespace World.Shows

variable {w w' w'' : World} {effect effect' : Watch → Watch}

theorem of_events_eq (h : w'.events = w.events) : w.Shows w' id :=
  ⟨[], by rw [h, List.append_nil], fun _ => rfl⟩

theorem refl (w : World) : w.Shows w id := of_events_eq rfl

theorem trans (h : w.Shows w' effect) (h' : w'.Shows w'' effect') :
    w.Shows w'' (effect' ∘ effect) := by
  obtain ⟨events, hevents, heffect⟩ := h
  obtain ⟨events', hevents', heffect'⟩ := h'
  refine ⟨events ++ events', by rw [hevents', hevents, List.append_assoc], fun m => ?_⟩
  rw [List.foldl_append, heffect, heffect']
  rfl

theorem of_emit (w : World) (e : Event) : w.Shows (w.emit e) (·.see e) := ⟨[e], rfl, fun _ => rfl⟩

/-- Reports and the log are no part of the trace. -/
theorem then_same (h : w.Shows w' effect) (hsame : w''.events = w'.events) : w.Shows w'' effect :=
  h.trans (of_events_eq hsame)

end World.Shows

/-! ### Statements on a connection -/

namespace Connection

private theorem events_failed (w : World) (statement : Value) (cause : Failure) :
    (failed w statement cause).2.events = w.events := by
  unfold failed
  split <;> rfl

/-- Running a statement hands over that statement and no other. -/
theorem shows_execute (c : Connection) (statement : Value) (w : World) :
    w.Shows (c.execute statement w).2 (·.post statement) := by
  unfold execute executeDriver executeDirect
  split
  · have hsend : w.Shows (send w statement (.sent statement)) (·.post statement) :=
      .then_same (.of_emit w _) rfl
    dsimp only
    split
    · exact hsend.then_same (events_failed ..)
    · split
      -- The release of an answer is nothing to the observer.
      · exact hsend.trans (.of_emit _ .released)
      · exact hsend.then_same (events_failed ..)
  · have hsend : w.Shows (send w statement (.executed statement)) (·.post statement) :=
      .then_same (.of_emit w _) rfl
    dsimp only
    split
    · exact hsend.then_same rfl
    · exact hsend

end Connection

/-! ### Throttlers -/

namespace Throttler

/-- A statement is run a second time: it fails while it is held, and the failure is swallowed by a
throttler that can be entered and left. -/
def Resends (t : Throttler) (reply : Except Failure StatementResult) : Prop :=
  (t.entryFailure = none ∧ t.exitFailure = none ∧ t.suppresses = true) ∧ ∃ f, reply = .error f

/-- What is seen of a statement that is held: nothing when the throttler cannot be entered, and a
second run without it when it has swallowed the failure of the first. -/
theorem shows_hold (t : Throttler) (c : Connection) (statement : Value) (w : World) :
    (t.entryFailure ≠ none ∧ w.Shows (t.hold c statement w).2 Watch.enter) ∨
      (t.Resends (c.reply w.sent statement) ∧
        w.Shows (t.hold c statement w).2 fun m => (m.enter.post statement).leave.post statement) ∨
      (t.entryFailure = none ∧ ¬t.Resends (c.reply w.sent statement) ∧
        w.Shows (t.hold c statement w).2 fun m => (m.enter.post statement).leave) := by
  have henter : w.Shows (w.emit .throttleEntered) Watch.enter := .of_emit w _
  have hfirst := henter.trans (c.shows_execute statement (w.emit .throttleEntered))
  have hreply := c.execute_fst statement (w.emit .throttleEntered)
  rw [World.sent_emit] at hreply
  unfold hold leave
  dsimp only
  cases hentry : t.entryFailure with
  | some f => exact .inl ⟨nofun, henter.then_same rfl⟩
  | none =>
    rcases hended : c.execute statement (w.emit .throttleEntered) with ⟨f | r, u⟩
    · rw [hended] at hfirst hreply
      have hleft := hfirst.trans (.of_emit u (.throttleLeft true))
      dsimp only
      cases hexit : t.exitFailure with
      | some f' =>
        refine .inr (.inr ⟨rfl, fun hresends => ?_, hleft.then_same rfl⟩)
        exact nomatch hexit.symm.trans hresends.1.2.1
      | none =>
        cases hsuppresses : t.suppresses with
        | true =>
          refine .inr (.inl ⟨⟨⟨hentry, hexit, hsuppresses⟩, f, hreply.symm⟩, ?_⟩)
          exact hleft.trans (c.shows_execute statement _)
        | false =>
          refine .inr (.inr ⟨rfl, fun hresends => ?_, hleft⟩)
          exact nomatch hsuppresses.symm.trans hresends.1.2.2
    -- What was answered is not run again, however the throttler is left.
    · rw [hended] at hfirst hreply
      have hleft := hfirst.trans (.of_emit u (.throttleLeft false))
      have hnot : ¬t.Resends (c.reply w.sent statement) := fun ⟨_, f, hf⟩ =>
        nomatch hreply.trans hf
      dsimp only
      split
      · exact .inr (.inr ⟨rfl, hnot, hleft.then_same rfl⟩)
      · exact .inr (.inr ⟨rfl, hnot, hleft⟩)

end Throttler

namespace Query

/-- The throttler that is provided for a statement, if there is to be one. -/
def throttler (q : Query) (c : Collaborators) (statement : Value) (w : World) :
    Except Failure (Option Throttler) :=
  match c.throttling with
  | none => .ok none
  | some throttling => do
    let reading ← q.isReading statement
    throttling w.throttlings q.clauses.indexes reading

/-- A main statement as it is handed to the connection, each time with whether a throttler is held,
by what throttler is provided for it and what the connection replies to it at first. -/
structure Posts (provided : Except Failure (Option Throttler))
    (reply : Except Failure StatementResult) (statement : Value) (mains : List (Value × Bool)) :
    Prop where
  own : ∀ p ∈ mains, p.1 = statement
  /-- It is sent when there is to be no throttler, or one that can be entered. -/
  sent : ∀ t?, provided = .ok t? → (∀ t ∈ t?, t.entryFailure = none) → mains ≠ []
  /-- It is sent once, and held if there is a throttler, unless a failure is swallowed. -/
  once : (∀ t, provided = .ok (some t) → ¬t.Resends reply) →
    mains.length ≤ 1 ∧ ∀ t, provided = .ok (some t) → ∀ p ∈ mains, p.2 = true
  /-- If one is swallowed it is sent again, and not held. -/
  again : ∀ t, provided = .ok (some t) → t.Resends reply →
    mains = [(statement, true), (statement, false)]

/-- All that is handed over in an attempt: the main statement, and behind it the request for the
statistics unless a failure has ended the attempt before. -/
def PostsAll (provided : Except Failure (Option Throttler))
    (reply : Except Failure StatementResult) (statement : Value) (posted : List (Value × Bool)) :
    Prop :=
  ∃ mains follow, posted = mains ++ follow ∧ Posts provided reply statement mains ∧
    (follow = [] ∨ ∃ held, follow = [(.str metaStatement, held)])

theorem events_settle (statement : Value) (p : Except Failure StatementResult × World) :
    (settle statement p).2.events = p.2.events := by
  obtain ⟨f | r, w⟩ := p
  · unfold settle
    dsimp only
    split <;> rfl
  · rfl

/-! ### The main statement -/

namespace Posts

variable {reply : Except Failure StatementResult} {statement : Value} {t : Throttler}

private theorem eq_of_provided {t t' : Throttler}
    (h : (.ok (some t) : Except Failure (Option Throttler)) = .ok (some t')) : t = t' :=
  Option.some.inj (Except.ok.inj h)

/-- When no throttler can be had nothing is sent. -/
theorem of_error (f : Failure) : Posts (.error f) reply statement [] where
  own := nofun
  sent := nofun
  once := fun _ => ⟨Nat.zero_le 1, nofun⟩
  again := nofun

theorem of_none : Posts (.ok none) reply statement [(statement, false)] where
  own := fun p hp => by rw [List.mem_singleton.1 hp]
  sent := fun _ _ _ => List.cons_ne_nil _ _
  once := fun _ => ⟨Nat.le_refl 1, nofun⟩
  again := nofun

theorem of_barred (h : t.entryFailure ≠ none) : Posts (.ok (some t)) reply statement [] where
  own := nofun
  sent := fun t? ht? hentries => by
    obtain rfl := Except.ok.inj ht?
    exact absurd (hentries t rfl) h
  once := fun _ => ⟨Nat.zero_le 1, nofun⟩
  again := fun t' ht' hresends => by
    obtain rfl := eq_of_provided ht'
    exact absurd hresends.1.1 h

theorem of_resends (h : t.Resends reply) :
    Posts (.ok (some t)) reply statement [(statement, true), (statement, false)] where
  own := fun p hp => by
    rcases List.mem_pair.1 hp with rfl | rfl
    · rfl
    · rfl
  sent := fun _ _ _ => List.cons_ne_nil _ _
  once := fun hnot => absurd h (hnot t rfl)
  again := fun _ _ _ => rfl

theorem of_held (h : ¬t.Resends reply) :
    Posts (.ok (some t)) reply statement [(statement, true)] where
  own := fun p hp => by rw [List.mem_singleton.1 hp]
  sent := fun _ _ _ => List.cons_ne_nil _ _
  once := fun _ => ⟨Nat.le_refl 1, fun _ _ p hp => by rw [List.mem_singleton.1 hp]⟩
  again := fun t' ht' hresends => by
    obtain rfl := eq_of_provided ht'
    exact absurd hresends h

end Posts

/-- A throttler is asked for once at most, and the main statement is sent as it should be. -/
theorem shows_runMain (q : Query) (c : Collaborators) (statement : Value) (w : World) :
    ∃ effect, w.Shows (q.runMain c statement w).2 effect ∧ (effect {}).asked ≤ 1 ∧
      Posts (q.throttler c statement w) (c.connection.reply w.sent statement) statement
        (effect {}).posted := by
  have hsettled {u : World} {p : Except Failure StatementResult × World} {effect : Watch → Watch}
      (h : u.Shows p.2 effect) : u.Shows (settle statement p).2 effect :=
    h.then_same (events_settle statement p)
  have hplain (u : World) := hsettled (c.connection.shows_execute statement u)
  unfold runMain throttler
  cases c.throttling with
  | none => exact ⟨_, hplain w, Nat.zero_le 1, .of_none⟩
  | some throttling =>
    dsimp only
    cases q.isReading statement with
    | error f => exact ⟨_, .of_events_eq rfl, Nat.zero_le 1, .of_error f⟩
    | ok reading =>
      change ∃ effect, _ ∧ _ ∧ Posts (throttling w.throttlings q.clauses.indexes reading) _ _ _
      dsimp only
      generalize hasked : World.emit { w with throttlings := w.throttlings + 1 }
        (.throttlerAsked q.clauses.indexes reading) = asked
      have hask : w.Shows asked Watch.ask := by
        rw [← hasked]
        exact ⟨_, rfl, fun _ => rfl⟩
      have hsent : asked.sent = w.sent := by
        rw [← hasked]
        rfl
      cases throttling w.throttlings q.clauses.indexes reading with
      | error f => exact ⟨_, hask.then_same rfl, Nat.le_refl 1, .of_error f⟩
      | ok t? =>
        cases t? with
        | none => exact ⟨_, hask.trans (hplain asked), Nat.le_refl 1, .of_none⟩
        | some t =>
          have hhold := t.shows_hold c.connection statement asked
          rw [hsent] at hhold
          rcases hhold with ⟨hentry, hshows⟩ | ⟨hresends, hshows⟩ | ⟨-, hnot, hshows⟩
          · exact ⟨_, hask.trans (hsettled hshows), Nat.le_refl 1, .of_barred hentry⟩
          · exact ⟨_, hask.trans (hsettled hshows), Nat.le_refl 1, .of_resends hresends⟩
          · exact ⟨_, hask.trans (hsettled hshows), Nat.le_refl 1, .of_held hnot⟩

/-! ### The whole execution -/

private theorem events_reportRun (statement : Value) (rows : Int) (seconds : Float) (f : Followup)
    (w : World) : (reportRun statement rows seconds f w).2.events = w.events := by
  unfold reportRun
  split
  · rfl
  · dsimp only
    split <;> rfl

/-- Loading entities is nothing to the observer. -/
private theorem shows_hydrated (q : Query) (w : World) : w.Shows (q.hydrated w).world id := by
  have hhydrate (rows : List Cells) (source : EntityQuery) (column : Value) :
      w.Shows (Hydration.hydrate rows source column w).world id := by
    obtain ⟨events, records, hworld, htraced⟩ := Hydration.world_hydrate rows source column w
    rw [hworld]
    refine ⟨events, rfl, fun m => ?_⟩
    rcases htraced with rfl | ⟨ids, rfl⟩
    · rfl
    · rfl
  unfold hydrated
  split
  · exact .refl w
  · split
    · exact .refl w
    · dsimp only
      split
      · exact hhydrate ..
      · exact hhydrate ..

/-- Behind the main statement the observer sees the request for the statistics. -/
theorem Concluded.shows {c : Collaborators} {q : Query} {statement : Value}
    {wasAnswered : Bool} {seconds : Float} {w : World} {o : Outcome Int}
    (h : Concluded c q statement wasAnswered seconds w o) :
    w.Shows o.world (·.post (.str metaStatement)) := by
  have hask := c.connection.shows_execute (.str metaStatement) w
  have hreported {rows : Int} {followup : Followup} {r : Except Failure Unit} {w' : World}
      (hreport : reportRun statement rows seconds followup
        (c.connection.execute (.str metaStatement) w).2 = (r, w')) :
      w.Shows w' (·.post (.str metaStatement)) := by
    refine hask.then_same ?_
    have hsame := events_reportRun statement rows seconds followup
      (c.connection.execute (.str metaStatement) w).2
    rwa [hreport] at hsame
  cases h with
  | unasked => exact hask
  | unreported _ hreport => exact hreported hreport
  | unloaded _ hreport => exact (hreported hreport).trans (shows_hydrated ..)
  | complete _ hreport => exact (hreported hreport).trans (shows_hydrated ..)

/-- An attempt to run a statement asks for a throttler once at most, and shows the main statement
and what follows it. -/
theorem shows_attempt (q : Query) (c : Collaborators) (statement : Value) (w : World) :
    ∃ effect, w.Shows (q.attempt c statement w).world effect ∧ (effect {}).asked ≤ 1 ∧
      PostsAll (q.throttler c statement w) (c.connection.reply w.sent statement) statement
        (effect {}).posted := by
  obtain ⟨effect, hmain, hasked, hposts⟩ := shows_runMain q.started c statement w
  have hfollowed {u : World} {o : Outcome Int} (hmain : w.Shows u effect)
      (hconcluded : u.Shows o.world (·.post (.str metaStatement))) :
      ∃ effect, w.Shows o.world effect ∧ (effect {}).asked ≤ 1 ∧
        PostsAll (q.throttler c statement w) (c.connection.reply w.sent statement) statement
          (effect {}).posted :=
    ⟨_, hmain.trans hconcluded, hasked, _, _, rfl, hposts, .inr ⟨_, rfl⟩⟩
  unfold attempt
  rcases hended : q.started.runMain c statement w with ⟨r | f | f, u⟩
  all_goals
    rw [hended] at hmain
    dsimp only
  · exact hfollowed hmain (concluded_conclude ..).shows
  · exact hfollowed hmain (concluded_conclude ..).shows
  · exact ⟨effect, hmain, hasked, _, [], (List.append_nil _).symm, hposts, .inl rfl⟩

/-- One execution of a dirty query that has a statement asks for a throttler once at most. Of the
main statement and of the request for the statistics behind it, the main statement is sent once, and
only while the throttler is held if one is provided; unless that throttler swallows a failure of the
statement, which is then sent a second time without it. -/
theorem execute_posts {q : Query} (hdirty : q.state = .dirty) {statement : Value}
    (hstatement : q.statement.1 = .ok statement) (c : Collaborators) (w : World) :
    ∃ events mains follow,
      (q.execute c w).world.events = w.events ++ events ∧
        (events.foldl Watch.see {}).asked ≤ 1 ∧
        (events.foldl Watch.see {}).posted = mains ++ follow ∧
        Posts (q.throttler c statement w) (c.connection.reply w.sent statement) statement mains ∧
        (follow = [] ∨ ∃ held, follow = [(.str metaStatement, held)]) := by
  obtain ⟨effect, hshows, hasked, mains, follow, hposted, hposts, hfollow⟩ :
      ∃ effect, w.Shows (q.execute c w).world effect ∧ (effect {}).asked ≤ 1 ∧
        PostsAll (q.throttler c statement w) (c.connection.reply w.sent statement) statement
          (effect {}).posted := by
    unfold execute run
    rw [hdirty]
    rcases hs : q.statement with ⟨f | s, asked⟩
    · rw [hs] at hstatement
      exact nomatch hstatement
    · rw [hs] at hstatement
      obtain rfl := Except.ok.inj hstatement
      -- Asking for the statement changes nothing that matters for the throttler.
      have hsame : asked.throttler c s (w.reportAny (Span.warning? spanName q.spanAttributes)) =
          q.throttler c s w := by
        have hsnd := q.statement_snd
        rw [hs] at hsnd
        rcases hsnd with rfl | ⟨text, rfl⟩
        · rfl
        · rfl
      obtain ⟨effect, hshows, hattempt⟩ := shows_attempt asked c s
        (w.reportAny (Span.warning? spanName q.spanAttributes))
      rw [hsame] at hattempt
      have hspan := hshows.trans (.of_emit _ (.spanEnded (q.span (asked.attempt c s
        (w.reportAny (Span.warning? spanName q.spanAttributes))).result)))
      exact ⟨_, hspan, hattempt⟩
  obtain ⟨events, hevents, heffect⟩ := hshows
  exact ⟨events, mains, follow, hevents, by rw [heffect]; exact hasked,
    by rw [heffect]; exact hposted, hposts, hfollow⟩

/-- A throttler that swallows nothing and cannot be left. The engine refuses the statement. -/
theorem execute_posts_of_stuck :
    let gone := Failure.report .queryExecution (.str "gone") [] {}
    let throttler : Throttler := { exitFailure := some gone }
    let c : Collaborators :=
      { connection := { transport := .direct, engine := fun _ _ => .refusal gone }
        throttling := some fun _ _ _ => .ok (some throttler) }
    let q := Query.create (.str "FLUSH") (.int 10)
    (q.state = .dirty ∧ q.statement.1 = .ok (.str "FLUSH")) ∧
      ∃ events mains follow,
        (q.execute c {}).world.events = events ∧
          (events.foldl Watch.see {}).asked ≤ 1 ∧
          (events.foldl Watch.see {}).posted = mains ++ follow ∧
          (mains ≠ [] ∧ mains.length ≤ 1 ∧ ∀ p ∈ mains, p.1 = .str "FLUSH" ∧ p.2 = true) ∧
          (follow = [] ∨ ∃ held, follow = [(.str metaStatement, held)]) := by
  intro gone throttler c q
  obtain ⟨events, mains, follow, hevents, hasked, hposted, hposts, hfollow⟩ :=
    execute_posts (show q.state = .dirty from rfl) (show q.statement.1 = .ok (.str "FLUSH") from rfl)
      c {}
  have hprovided : q.throttler c (.str "FLUSH") {} = .ok (some throttler) := rfl
  have hswallows : ∀ t, q.throttler c (.str "FLUSH") {} = .ok (some t) →
      ¬t.Resends (c.connection.reply [] (.str "FLUSH")) := by
    intro t ht hresends
    obtain rfl := Option.some.inj (Except.ok.inj (hprovided.symm.trans ht))
    exact nomatch hresends.1.2.1
  obtain ⟨honce, hheld⟩ := hposts.once hswallows
  have hsent : mains ≠ [] := hposts.sent (some throttler) hprovided fun t ht => by
    obtain rfl := Option.some.inj ht
    rfl
  exact ⟨⟨rfl, rfl⟩, events, mains, follow, hevents, hasked, hposted,
    ⟨hsent, honce, fun p hp => ⟨hposts.own p hp, hheld throttler hprovided p hp⟩⟩, hfollow⟩

/-- A throttler that swallows the refusal of a statement. The statement is sent a second time, and no
throttler is held then. -/
theorem execute_posts_swallowed :
    let gone := Failure.report .queryExecution (.str "gone") [] {}
    let c : Collaborators :=
      { connection := { transport := .direct, engine := fun _ _ => .refusal gone }
        throttling := some fun _ _ _ => .ok (some { suppresses := true }) }
    let q := Query.create (.str "FLUSH") (.int 10)
    (q.state = .dirty ∧ q.statement.1 = .ok (.str "FLUSH")) ∧
      ((q.execute c {}).world.events.foldl Watch.see {}).posted =
        [(.str "FLUSH", true), (.str "FLUSH", false), (.str metaStatement, false)] :=
  ⟨⟨rfl, rfl⟩, rfl⟩

end Query

end SearchClient
