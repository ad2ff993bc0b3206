import SearchClient.Proofs.Query.Readings
import SearchClient.Proofs.Session.Trace

/-!
# Readings in a session

Readings may be put into a run at any place, and as often as one likes, also such that fail. All
other moves of the run answer and report what they would have answered and reported without them,
the connection is sent the same statements, and the query log has the same entries.

The two runs differ in what queries have kept and in the reports of readings that fail. The relation
between their sessions is that the queries are twins under each number and the worlds are the same
up to reports; a move that both make keeps it, and so does a reading that only one makes.

## Key results

- `Session.Twin.alike`: a move in two such sessions
- `Session.twin_of_reads`: a reading in one of them
- `Session.told_of_readings`: a run with readings put in between
-/

namespace SearchClient

/-- Moves that only read. -/
def Move.reads : Move → Bool
  | .call _ made => made.reads
  | _ => false

namespace Session

section

variable (c : Connection) (throttling : Nat → Option Throttling)

/-- What a move answers. -/
def answer (s : Session) : Move → Except Failure Returned
  | .create .. => .ok .self
  | .copy n target => (s.copy n target).1.map fun _ => .self
  | .call n call => (s.call { connection := c, throttling := throttling n } n call).1

/-- What a move reports. -/
def reported (s : Session) (m : Move) : List LogRecord :=
  (s.move c throttling m).world.records.drop s.world.records.length

/-- What the moves of a run answer and report, without those that are marked as put in between. -/
def told : Session → List (Move × Bool) → List (Except Failure Returned × List LogRecord)
  | _, [] => []
  | s, (m, isExtra) :: rest =>
    (if isExtra then [] else [(s.answer c throttling m, s.reported c throttling m)]) ++
      told (s.move c throttling m) rest

end

/-- Under each number two sessions have queries that cannot be told apart, and their worlds differ
in reports at most. -/
structure Twin (s s' : Session) : Prop where
  queries : ∀ n, Option.Rel Query.Twin (s.query? n) (s'.query? n)
  world : s'.world.unreported = s.world.unreported

/-- Two sessions answer a move alike, report the same for it, and cannot be told apart after it. -/
def AlikeFor (c : Connection) (throttling : Nat → Option Throttling) (s s' : Session) (m : Move) :
    Prop :=
  s'.answer c throttling m = s.answer c throttling m ∧
    s'.reported c throttling m = s.reported c throttling m ∧
    (s.move c throttling m).Twin (s'.move c throttling m)

private theorem rel_refl (q : Option Query) : Option.Rel Query.Twin q q := by
  cases q with
  | none => exact .none
  | some q => exact .some (.refl q)

private theorem rel_trans {q q' q'' : Option Query} (h : Option.Rel Query.Twin q q')
    (h' : Option.Rel Query.Twin q' q'') : Option.Rel Query.Twin q q'' := by
  cases h with
  | none => exact h'
  | some hq =>
    cases h' with
    | some hq' => exact .some (hq.trans hq')

variable {c : Connection} {throttling : Nat → Option Throttling}

namespace Twin

variable {s s' s'' : Session}

theorem refl (s : Session) : s.Twin s := ⟨fun n => rel_refl (s.query? n), rfl⟩

theorem trans (h : s.Twin s') (h' : s'.Twin s'') : s.Twin s'' :=
  ⟨fun n => rel_trans (h.queries n) (h'.queries n), h'.world.trans h.world⟩

private theorem put (h : s.Twin s') (n : Nat) {q q' : Query} (hq : q.Twin q') {w w' : World}
    (hworld : w'.unreported = w.unreported) :
    Twin { s.put n q with world := w } { s'.put n q' with world := w' } := by
  refine ⟨fun m => ?_, hworld⟩
  show Option.Rel Query.Twin ((s.put n q).query? m) ((s'.put n q').query? m)
  by_cases hm : m = n
  · subst hm
    rw [query?_put_self, query?_put_self]
    exact .some hq
  · rw [query?_put_of_ne s q hm, query?_put_of_ne s' q' hm]
    exact h.queries m

private theorem query?_cases (h : s.Twin s') (n : Nat) :
    (s.query? n = none ∧ s'.query? n = none) ∨
      ∃ q q', s.query? n = some q ∧ s'.query? n = some q' ∧ q.Twin q' := by
  have hn := h.queries n
  generalize s.query? n = q at hn
  generalize s'.query? n = q' at hn
  cases hn with
  | none => exact .inl ⟨rfl, rfl⟩
  | some hq => exact .inr ⟨_, _, rfl, rfl, hq⟩

private theorem alike_create (h : s.Twin s') (n : Nat) (statement maxMatches : Value) :
    AlikeFor c throttling s s' (.create n statement maxMatches) := by
  have hnothing (p : Session) : p.reported c throttling (.create n statement maxMatches) = [] :=
    List.drop_length
  refine ⟨rfl, ?_, h.put n (.refl _) h.world⟩
  rw [hnothing, hnothing]

private theorem alike_copy (h : s.Twin s') (n target : Nat) :
    AlikeFor c throttling s s' (.copy n target) := by
  unfold AlikeFor answer reported Session.move Session.copy
  dsimp only
  rcases h.query?_cases n with ⟨hq, hq'⟩ | ⟨q, q', hq, hq', htwin⟩
  · rw [hq, hq']
    exact ⟨rfl, List.drop_length.trans List.drop_length.symm, h⟩
  · -- A copy starts without a kept statement, so it does not show what the query has kept.
    have hcopy : q'.copy = q.copy := by
      rw [htwin.same]
      rfl
    rw [hq, hq']
    dsimp only
    rw [hcopy]
    obtain ⟨copied, events⟩ := q.copy
    cases copied with
    | ok fresh =>
      obtain ⟨hworld, hrecords⟩ := World.alike_of_behind
        (fun w => { w with events := w.events ++ events }) (fun _ _ => rfl) h.world
      exact ⟨rfl, hrecords, h.put target (.refl fresh) hworld⟩
    | error f =>
      obtain ⟨hworld, hrecords⟩ := World.alike_of_behind
        (fun w => { w with events := w.events ++ events }.note f)
        (fun earlier w => World.note_behind earlier { w with events := w.events ++ events } f)
        h.world
      exact ⟨rfl, hrecords, h.queries, hworld⟩

private theorem alike_call (h : s.Twin s') (n : Nat) (call : Call) :
    AlikeFor c throttling s s' (.call n call) := by
  unfold AlikeFor answer reported Session.move Session.call
  dsimp only
  rcases h.query?_cases n with ⟨hq, hq'⟩ | ⟨q, q', hq, hq', htwin⟩
  · rw [hq, hq']
    exact ⟨rfl, List.drop_length.trans List.drop_length.symm, h⟩
  · rw [hq, hq']
    dsimp only
    -- In one world the queries are alike, and each of them is alike in both worlds.
    obtain ⟨hresult, hquery, hsame⟩ :=
      htwin.call { connection := c, throttling := throttling n } s.world call
    obtain ⟨hresult', hquery'⟩ := q'.call_of_unreported
      { connection := c, throttling := throttling n } h.world call
    obtain ⟨hworld, hrecords⟩ := World.alike_of_behind
      (fun w => (q'.call { connection := c, throttling := throttling n } w call).world)
      (fun earlier w => congrArg Outcome.world (q'.call_behind _ w call)) h.world
    rw [hsame] at hworld hrecords
    rw [hresult', hresult, hquery']
    exact ⟨rfl, hrecords, h.put n hquery hworld⟩

/-- A move that is made in both sessions does not tell them apart. -/
theorem alike (h : s.Twin s') (m : Move) : AlikeFor c throttling s s' m := by
  cases m with
  | create n statement maxMatches => exact h.alike_create n statement maxMatches
  | copy n target => exact h.alike_copy n target
  | call n call => exact h.alike_call n call

end Twin

/-- A reading leaves a session that cannot be told from the one before. -/
theorem twin_of_reads {m : Move} (hm : m.reads = true) (s : Session) :
    s.Twin (s.move c throttling m) := by
  cases m with
  | create n statement maxMatches => exact nomatch hm
  | copy n target => exact nomatch hm
  | call n call =>
    unfold move Session.call
    dsimp only
    cases hq : s.query? n with
    | none => exact .refl s
    | some q =>
      obtain ⟨hquery, hworld⟩ := Query.twin_of_reads hm
        { connection := c, throttling := throttling n } q s.world
      refine ⟨fun k => ?_, hworld⟩
      show Option.Rel Query.Twin (s.query? k) ((s.put n _).query? k)
      by_cases hk : k = n
      · subst hk
        rw [hq, query?_put_self]
        exact .some hquery
      · rw [query?_put_of_ne s _ hk]
        exact rel_refl _

/-- A run with readings put in between, from a session that cannot be told from that of the plain
run. -/
private theorem told_of_twin {s s' : Session} (h : s.Twin s') {made : List (Move × Bool)}
    (hreads : ∀ m, (m, true) ∈ made → m.reads = true) :
    told c throttling s' made = told c throttling s (made.filter (!·.2)) ∧
      (s.moves c throttling ((made.filter (!·.2)).map (·.1))).Twin
        (s'.moves c throttling (made.map (·.1))) := by
  -- Only the second session sees the readings.
  induction made generalizing s s' with
  | nil => exact ⟨rfl, h⟩
  | cons e rest ih =>
    obtain ⟨m, isExtra⟩ := e
    have hrest : ∀ m, (m, true) ∈ rest → m.reads = true :=
      fun m hm => hreads m (List.mem_cons_of_mem _ hm)
    cases isExtra with
    | true =>
      have hm : m.reads = true := hreads m List.mem_cons_self
      exact ih (h.trans (twin_of_reads hm s')) hrest
    | false =>
      have halike : AlikeFor c throttling s s' m := h.alike m
      obtain ⟨hanswer, hreported, hafter⟩ := halike
      obtain ⟨htold, hend⟩ := ih hafter hrest
      refine ⟨?_, hend⟩
      rw [told, htold, hanswer, hreported]
      rfl

/-- Readings that are put into a run at any places, answered or refused, change nothing that the
other moves of the run answer and report, nothing that the connection is sent, and nothing in the
query log or in the trace. -/
theorem told_of_readings (c : Connection) (throttling : Nat → Option Throttling) (s : Session)
    {made : List (Move × Bool)} (hreads : ∀ m, (m, true) ∈ made → m.reads = true) :
    let plain := made.filter (!·.2)
    let before := (s.moves c throttling (plain.map (·.1))).world
    let after := (s.moves c throttling (made.map (·.1))).world
    told c throttling s made = told c throttling s plain ∧
      after.sent = before.sent ∧ after.log = before.log ∧ after.events = before.events := by
  intro plain before after
  obtain ⟨htold, htwin⟩ := told_of_twin (Twin.refl s) hreads
  have hworld : after.unreported = before.unreported := htwin.world
  have hsent : after.unreported.sent = before.unreported.sent := congrArg World.sent hworld
  have hlog : after.unreported.log = before.unreported.log := congrArg World.log hworld
  have hevents : after.unreported.events = before.unreported.events := congrArg World.events hworld
  exact ⟨htold, hsent, hlog, hevents⟩

/-- Readings around a query that is run, given a statement of its own, and run by its clauses again.
The first of them is refused, and another finds a kept statement that is stale. -/
theorem told_of_readings_of_two_statements :
    let select := "SELECT id FROM rt LIMIT 0, 20"
    let c : Connection := { engine := fun _ _ => .answer { columns := [.str "id"] } }
    let throttling (_ : Nat) : Option Throttling := none
    let made : List (Move × Bool) :=
      [(.create 0 .null (.int 1000), false), (.call 0 .rowCount, true),
        (.call 0 (.change (.select [.str "id"])), false),
        (.call 0 (.change (.indexes [.str "rt"])), false), (.call 0 .statement, true),
        (.call 0 .execute, false), (.call 0 (.change (.statement (.str "CALL X"))), false),
        (.call 0 .text, true), (.call 0 .execute, false), (.call 0 .statistics, true),
        (.call 0 (.change (.statement .null)), false),
        (.call 0 (.change (.limit (.int 5))), false), (.call 0 .statement, true),
        (.call 0 .results, false)]
    (∀ m, (m, true) ∈ made → m.reads = true) ∧
      (moves c throttling {} (made.map (·.1))).world.sent.map Value.text =
        [select, metaStatement, "CALL X", metaStatement, "SELECT id FROM rt LIMIT 0, 5",
          metaStatement] := by
  intro select c throttling made
  have hreads : ∀ m, (m, true) ∈ made → m.reads = true := by
    simp [made, Move.reads, Call.reads]
  obtain ⟨-, hsent, -⟩ := told_of_readings c throttling {} hreads
  refine ⟨hreads, ?_⟩
  rw [hsent]
  decide +kernel

end Session

end SearchClient
