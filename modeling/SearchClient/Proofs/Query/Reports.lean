import SearchClient.Query.Call

/-!
# Reports are written and not read

Calls add reports to the world, and none of them looks at the reports that are there. Made behind
other reports, a call gives the same answer, does the same to its query and to the rest of the
world, and adds the same reports.

The statement for each stage of a call is an equation: the stage behind some reports is the stage,
put behind them.

## Key results

- `Query.execute_behind`: an execution behind other reports
- `Query.call_behind`: any call behind other reports
-/

namespace SearchClient

/-! ### Worlds -/

namespace World

/-- The world with other reports in front of its own. -/
def behind (earlier : List LogRecord) (w : World) : World :=
  { w with records := earlier ++ w.records }

/-- The world without its reports. -/
def unreported (w : World) : World := { w with records := [] }

theorem behind_unreported (w : World) : w.unreported.behind w.records = w := by
  simp [behind, unreported]

/-- A change of the world that does not look at reports does the same to worlds that differ in
reports, and adds the same reports to them. -/
theorem alike_of_behind (change : World → World)
    (hchange : ∀ earlier w, change (w.behind earlier) = (change w).behind earlier) {w w' : World}
    (h : w'.unreported = w.unreported) :
    (change w').unreported = (change w).unreported ∧
      (change w').records.drop w'.records.length = (change w).records.drop w.records.length := by
  have hgrown (u : World) : change u = (change u.unreported).behind u.records := by
    rw [← hchange, behind_unreported]
  rw [hgrown w, hgrown w', h]
  simp [behind, unreported]

variable (earlier : List LogRecord) (w : World)

@[simp] theorem sent_behind : (w.behind earlier).sent = w.sent := rfl
@[simp] theorem aliases_behind : (w.behind earlier).aliases = w.aliases := rfl
@[simp] theorem throttlings_behind : (w.behind earlier).throttlings = w.throttlings := rfl

@[simp] theorem emit_behind (e : Event) :
    (w.behind earlier).emit e = (w.emit e).behind earlier := rfl

@[simp] theorem reportAny_behind (record : Option LogRecord) :
    (w.behind earlier).reportAny record = (w.reportAny record).behind earlier := by
  simp [reportAny, behind]

@[simp] theorem report_behind (record : LogRecord) :
    (w.behind earlier).report record = (w.report record).behind earlier := by
  simp [report, behind]

@[simp] theorem note_behind (f : Failure) :
    (w.behind earlier).note f = (w.note f).behind earlier :=
  reportAny_behind earlier w f.record?

@[simp] theorem logQuery_behind (statement : Value) (entry : LoggedQuery) :
    (w.behind earlier).logQuery statement entry =
      (w.logQuery statement entry).behind earlier := by
  simp [logQuery, behind]

end World

/-- The outcome with other reports in front of its own. -/
def Outcome.behind {α : Type} (earlier : List LogRecord) (o : Outcome α) : Outcome α :=
  { o with world := o.world.behind earlier }

/-- The outcome of loading with other reports in front of its own. -/
def Hydration.Outcome.behind (earlier : List LogRecord) (o : Hydration.Outcome) :
    Hydration.Outcome :=
  { o with world := o.world.behind earlier }

variable {earlier : List LogRecord}

/-! ### Statements -/

namespace Connection

theorem failed_behind (w : World) (statement : Value) (cause : Failure) :
    failed (w.behind earlier) statement cause =
      (failed w statement cause).map id (World.behind earlier) := by
  unfold failed
  split
  · simp
  · simp

theorem send_behind (w : World) (statement : Value) (event : Event) :
    send (w.behind earlier) statement event = (send w statement event).behind earlier := rfl

private theorem executeDriver_behind (engine : Engine) (statement : Value) (w : World) :
    executeDriver engine statement (w.behind earlier) =
      (executeDriver engine statement w).map id (World.behind earlier) := by
  unfold executeDriver
  simp only [World.sent_behind, send_behind]
  split
  · exact failed_behind ..
  · split
    · rfl
    · exact failed_behind ..

private theorem executeDirect_behind (engine : Engine) (statement : Value) (w : World) :
    executeDirect engine statement (w.behind earlier) =
      (executeDirect engine statement w).map id (World.behind earlier) := by
  unfold executeDirect
  simp only [World.sent_behind, send_behind]
  split
  · simp
  · rfl

/-- Running a statement behind other reports. -/
theorem execute_behind (c : Connection) (statement : Value) (w : World) :
    c.execute statement (w.behind earlier) =
      (c.execute statement w).map id (World.behind earlier) := by
  unfold execute
  split
  · exact executeDriver_behind ..
  · exact executeDirect_behind ..

end Connection

namespace Throttler

private theorem leave_behind {α : Type} (t : Throttler) (failed : Bool) (w : World)
    {outcome : World → Except Failure α × World}
    (houtcome : ∀ u, outcome (u.behind earlier) = (outcome u).map id (World.behind earlier)) :
    t.leave failed (w.behind earlier) outcome =
      (t.leave failed w outcome).map id (World.behind earlier) := by
  unfold leave
  rw [World.emit_behind]
  dsimp only
  split
  · simp
  · exact houtcome _

theorem hold_behind (t : Throttler) (c : Connection) (statement : Value) (w : World) :
    t.hold c statement (w.behind earlier) =
      (t.hold c statement w).map id (World.behind earlier) := by
  unfold hold
  dsimp only
  split
  · simp
  · -- The statement has been run behind the reports; what is left is to leave the throttler.
    rw [World.emit_behind, c.execute_behind]
    rcases c.execute statement (w.emit .throttleEntered) with ⟨f | r, u⟩
    · refine t.leave_behind true u fun u => ?_
      split
      · exact c.execute_behind statement u
      · rfl
    · exact t.leave_behind false u fun u => rfl

end Throttler

/-! ### Entities -/

namespace Hydration

private theorem rank_behind (source : EntityQuery) (column : Value) (ids : List Int)
    (entities : List Entity) (ranking : Ranking) (w : World) :
    rank source column ids entities ranking (w.behind earlier) =
      (rank source column ids entities ranking w).map id (World.behind earlier) := by
  induction entities generalizing ranking w with
  | nil => rfl
  | cons e rest ih =>
    rw [rank, rank]
    split
    · split
      · simp
      · simp
    · split
      · exact ih _ _
      · rw [World.report_behind, ih]

private theorem fetch_behind (source : EntityQuery) (column : Value) (ids : List Int)
    (w : World) :
    fetch source column ids (w.behind earlier) = (fetch source column ids w).behind earlier := by
  have hasked : (if source.traced then (w.behind earlier).emit (.entitiesFetched column ids)
      else w.behind earlier) =
        (if source.traced then w.emit (.entitiesFetched column ids) else w).behind earlier := by
    split
    · rfl
    · rfl
  unfold fetch
  rw [hasked]
  dsimp only
  split
  · rfl
  · split
    · simp [Outcome.behind]
    · simp [Outcome.behind]

/-- Loading entities behind other reports. -/
theorem hydrate_behind (rows : List Cells) (source : EntityQuery) (column : Value) (w : World) :
    hydrate rows source column (w.behind earlier) =
      (hydrate rows source column w).behind earlier := by
  unfold hydrate
  split
  · rfl
  · cases identifiers rows column with
    | error f => simp [Outcome.behind]
    | ok ids =>
      dsimp only
      rw [fetch_behind]
      cases hresult : (fetch source column ids w).result with
      | error f => simp [Outcome.behind, hresult]
      | ok entities =>
        simp only [Outcome.behind, hresult, rank_behind]
        rcases rank source column ids entities [] (fetch source column ids w).world with
          ⟨f | ranking, u⟩
        · rfl
        · rfl

end Hydration

/-! ### Executions -/

namespace Query

private theorem settle_behind (statement : Value) (p : Except Failure StatementResult × World) :
    settle statement (p.map id (World.behind earlier)) =
      (settle statement p).map id (World.behind earlier) := by
  obtain ⟨f | r, w⟩ := p
  · unfold settle
    dsimp only [Prod.map, id]
    split
    · simp
    · rfl
  · rfl

theorem runMain_behind (c : Collaborators) (q : Query) (statement : Value) (w : World) :
    q.runMain c statement (w.behind earlier) =
      (q.runMain c statement w).map id (World.behind earlier) := by
  unfold runMain
  split
  · rw [c.connection.execute_behind, settle_behind]
  · split
    · simp
    · rename_i reading _
      -- The question for a throttler is a count and an event, neither of them a report.
      have hasked : { w.behind earlier with
          throttlings := (w.behind earlier).throttlings + 1 }.emit
            (.throttlerAsked q.clauses.indexes reading) =
          ({ w with throttlings := w.throttlings + 1 }.emit
            (.throttlerAsked q.clauses.indexes reading)).behind earlier := rfl
      dsimp only
      rw [hasked, World.throttlings_behind]
      split
      · simp
      · rw [c.connection.execute_behind, settle_behind]
      · rw [Throttler.hold_behind, settle_behind]

private theorem askStatistics_behind (c : Connection) (w : World) :
    askStatistics c (w.behind earlier) =
      (askStatistics c w).map id (World.behind earlier) := by
  unfold askStatistics
  rw [c.execute_behind]
  rcases c.execute (.str metaStatement) w with ⟨f | r, u⟩
  · dsimp only [Prod.map, id]
    split
    · rfl
    · rfl
  · rfl

private theorem reportRun_behind (statement : Value) (rows : Int) (seconds : Float) (f : Followup)
    (w : World) :
    reportRun statement rows seconds f (w.behind earlier) =
      (reportRun statement rows seconds f w).map id (World.behind earlier) := by
  unfold reportRun
  split
  · rfl
  · dsimp only
    split
    · simp
    · simp

theorem hydrated_behind (q : Query) (w : World) :
    q.hydrated (w.behind earlier) = (q.hydrated w).behind earlier := by
  unfold hydrated
  split
  · rfl
  · split
    · rfl
    · rw [Hydration.hydrate_behind]
      dsimp only [Hydration.Outcome.behind]
      split
      · rfl
      · rfl

private theorem conclude_behind (c : Collaborators) (q : Query) (statement : Value)
    (wasAnswered : Bool) (seconds : Float) (w : World) :
    conclude c q statement wasAnswered seconds (w.behind earlier) =
      (conclude c q statement wasAnswered seconds w).behind earlier := by
  unfold conclude
  rw [askStatistics_behind]
  rcases askStatistics c.connection w with ⟨f | followup, u⟩
  · rfl
  · dsimp only [Prod.map, id]
    rw [reportRun_behind]
    rcases reportRun statement (keptCount { q with metadata := followup.metadata }) seconds followup
      u with ⟨f | _, v⟩
    · rfl
    · dsimp only [Prod.map, id]
      rw [hydrated_behind]
      dsimp only [Outcome.behind]
      split
      · rfl
      · rfl

theorem attempt_behind (c : Collaborators) (q : Query) (statement : Value) (w : World) :
    q.attempt c statement (w.behind earlier) = (q.attempt c statement w).behind earlier := by
  unfold attempt
  rw [runMain_behind]
  rcases q.started.runMain c statement w with ⟨r | f | f, u⟩
  · exact conclude_behind ..
  · exact conclude_behind ..
  · rfl

private theorem run_behind (c : Collaborators) (q : Query) (w : World) :
    q.run c (w.behind earlier) = (q.run c w).behind earlier := by
  unfold run
  split
  · rfl
  · split
    · simp [Outcome.behind]
    · exact attempt_behind ..

/-- An execution behind other reports. -/
theorem execute_behind (c : Collaborators) (q : Query) (w : World) :
    q.execute c (w.behind earlier) = (q.execute c w).behind earlier := by
  unfold execute
  rw [World.reportAny_behind, run_behind]
  rfl

/-! ### Calls -/

private theorem change_behind (q : Query) (m : Mutation) (w : World) :
    q.change m (w.behind earlier) = (q.change m w).behind earlier := by
  -- A change takes the counter of aliases from the world and gives it back with its events.
  have hedited : { w.behind earlier with
      aliases := (m.apply q w.aliases).aliases
      events := (w.behind earlier).events ++ (m.apply q w.aliases).events } =
        { w with
          aliases := (m.apply q w.aliases).aliases
          events := w.events ++ (m.apply q w.aliases).events }.behind earlier := rfl
  unfold change
  dsimp only [World.aliases_behind]
  rw [hedited]
  split
  · rfl
  · simp [Outcome.behind]

private theorem resultsNow_behind (c : Collaborators) (q : Query) (w : World) :
    q.resultsNow c (w.behind earlier) = (q.resultsNow c w).behind earlier := by
  unfold resultsNow
  split
  · rfl
  · rw [execute_behind]
    rfl

private theorem tableNow_behind (c : Collaborators) (q : Query) (w : World) :
    q.tableNow c (w.behind earlier) = (q.tableNow c w).behind earlier := by
  unfold tableNow
  split
  · simp [Outcome.behind]
  · rw [resultsNow_behind]
    rfl

private theorem reading_behind (q : Query) (w : World) (answer : Except Failure Returned) :
    q.reading (w.behind earlier) answer = (q.reading w answer).behind earlier := by
  unfold reading
  split
  · rfl
  · simp [Outcome.behind]

/-- Any call behind other reports. -/
theorem call_behind (c : Collaborators) (q : Query) (w : World) (call : Call) :
    q.call c (w.behind earlier) call = (q.call c w call).behind earlier := by
  cases call with
  | change m => exact change_behind q m w
  | execute =>
    unfold Query.call
    rw [execute_behind]
    rfl
  | results =>
    unfold Query.call
    rw [resultsNow_behind]
    rfl
  | table => exact tableNow_behind c q w
  | clear => rfl
  | _ =>
    unfold Query.call
    exact reading_behind ..

/-- So in worlds that differ in reports a call has the same answer, and leaves the same query. -/
theorem call_of_unreported (c : Collaborators) (q : Query) {w w' : World}
    (h : w'.unreported = w.unreported) (call : Call) :
    (q.call c w' call).result = (q.call c w call).result ∧
      (q.call c w' call).query = (q.call c w call).query := by
  have hgrown (u : World) : q.call c u call = (q.call c u.unreported call).behind u.records := by
    rw [← call_behind, World.behind_unreported]
  rw [hgrown w, hgrown w', h]
  exact ⟨rfl, rfl⟩

end Query

end SearchClient
