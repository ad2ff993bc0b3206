import SearchClient.Proofs.Engine.Driver
import SearchClient.Proofs.Query.Coherence
import SearchClient.Proofs.Statement.Compile

/-!
# Running a query over a driver

A query that only needs its own clauses, run over a driver, is always run to the end, if its
integers can be written. Whatever goes wrong with its statement is an error of execution, and is
absorbed; whatever goes wrong with the request for the statistics costs the statistics only. The
query log is told of both statements. A query whose integers cannot be written has no statement, so
nothing is sent.

## Key results

- `Query.attempt_of_driver`: an attempt to run a text, by what the engine replies
- `Query.execute_over_driver`: an execution returns, and what it leaves behind
- `Query.execute_of_not_writable`: an execution without a statement
-/

namespace SearchClient

/-- How the query log shows a statement with this reply. A failure counts as no rows in no time. -/
def Reply.logged (r : Reply) (statement : String) (rows : Int) : LoggedQuery :=
  match r.failure? with
  | some _ => { query := statement }
  | none => { query := statement, rows, seconds := r.seconds }

namespace Query

/-- A query that needs nothing but its own clauses to be run. -/
structure Runnable (q : Query) : Prop where
  reachable : q.Reachable
  named : q.clauses.Named
  select : q.clauses.select ≠ []
  indexes : q.clauses.indexes ≠ []
  raw : q.raw = none
  binding : q.binding = none

/-- Asking for the statistics does not end an execution, and the query log is told of it. -/
private def Told (c : Connection) (before : List Value) (statistics : Reply) : Prop :=
  ∃ f, Followup.ofReply (c.reply before (.str metaStatement)) = .ok f ∧
    f.metadata.hasRun = true ∧
    { query := metaStatement, rows := max f.rows 0, seconds := f.seconds } =
      statistics.logged metaStatement statistics.fetched

/-- Over a driver the statistics are there, or they are missing. -/
private theorem told_of_driver {c : Connection} (hdriver : c.transport = .driver)
    {before : List Value} (hreply : (c.engine before (.str metaStatement)).WellFormed) :
    Told c before (c.engine before (.str metaStatement)) := by
  unfold Told Reply.logged
  cases hfailure : (c.engine before (.str metaStatement)).failure? with
  | some cause =>
    -- Any error of execution stands for no statistics.
    obtain ⟨f, hf, hcode, -⟩ := Connection.reply_of_failure hdriver hreply hfailure
    refine ⟨⟨.empty, 0, 0⟩, ?_, rfl, rfl⟩
    rw [hf]
    exact if_pos hcode
  | none =>
    obtain ⟨r, hr, hrows, -, hseconds⟩ := Connection.reply_of_rows hdriver hreply hfailure
    refine ⟨⟨.ofPairs r.keyPairs, r.rows.length, r.seconds⟩, ?_, Metadata.hasRun_ofPairs _, ?_⟩
    · rw [hr]
      rfl
    · dsimp only
      rw [hrows, hseconds, Int.max_eq_left (Int.natCast_nonneg _)]

/-- What follows the main statement of a query without a source of entities, when asking for the
statistics does not end the execution. -/
private theorem conclude_of_followup {c : Collaborators} {q : Query} (hbinding : q.binding = none)
    (text : String) (wasAnswered : Bool) (seconds : Float) {w : World} {followup : Followup}
    (hask : Followup.ofReply (c.connection.reply w.sent (.str metaStatement)) = .ok followup) :
    ∃ w', conclude c q (.str text) wasAnswered seconds w =
        ⟨.ok q.keptCount,
          { q.informed followup.metadata with state := if wasAnswered then .clean else q.state },
          w'⟩ ∧
      w'.log =
        (w.log.add { query := text, rows := max q.keptCount 0, seconds }).add
          { query := metaStatement, rows := max followup.rows 0, seconds := followup.seconds } := by
  have htext : (Value.str text).asText? = some text := rfl
  have hlog := reportRun_of_asText? htext q.keptCount seconds followup
    (c.connection.execute (.str metaStatement) w).2
  have hreported : (reportRun (.str text) q.keptCount seconds followup
      (c.connection.execute (.str metaStatement) w).2).1 = .ok () := rfl
  rw [c.connection.log_execute] at hlog
  refine ⟨_, ?_, hlog⟩
  unfold conclude
  rw [askStatistics_eq, hask]
  dsimp only
  rcases hreport : reportRun (.str text) (keptCount { q with metadata := followup.metadata })
    seconds followup (c.connection.execute (.str metaStatement) w).2 with ⟨f | _, w'⟩
  · exact nomatch hreported.symm.trans (congrArg Prod.fst hreport)
  · have hloaded : (q.informed followup.metadata).hydrated w' =
        ⟨.ok (), q.informed followup.metadata, w'⟩ := by
      unfold hydrated informed
      dsimp only
      rw [hbinding]
    have hworld : w' = (reportRun (.str text) q.keptCount seconds followup
        (c.connection.execute (.str metaStatement) w).2).2 := (congrArg Prod.snd hreport).symm
    rw [informed] at hloaded
    simp only [hloaded]
    rw [← hworld]
    cases wasAnswered <;> rfl

/-- What is left of an attempt to run a text over a driver, by what the engine replies to the text
and to the request for the statistics. -/
structure Finished (text : String) (main statistics : Reply) (w : World) (o : Outcome Int) :
    Prop where
  result : ∃ n, o.result = .ok n ∧ o.query.rowCountNow = .ok n ∧ 0 ≤ n ∧
    o.world.log = (w.log.add (main.logged text n)).add
      (statistics.logged metaStatement statistics.fetched)
  hasRun : o.query.metadata.hasRun = true
  answered : main.failure? = none → o.result = .ok main.count ∧ o.query.state = .clean
  absorbed : ∀ cause, main.failure? = some cause →
    o.result = .ok 0 ∧ o.query.state = .dirty ∧ o.query.results = some (.rows []) ∧
      ∃ f, o.query.lastError = some f ∧ f.hasCode .queryExecution = true ∧ f.cause? = some cause

section

variable {c : Collaborators} {q : Query} {text : String} {main statistics : Reply} {w w₁ : World}

/-- A statement that fails leaves nothing but its error. -/
private theorem finished_of_absorbed (hbinding : q.binding = none) (hdirty : q.state = .dirty)
    (hlog : w₁.log = w.log) (htold : Told c.connection w₁.sent statistics) {cause f : Failure}
    (hfailure : main.failure? = some cause) (hcode : f.hasCode .queryExecution = true)
    (hcause : f.cause? = some cause) :
    Finished text main statistics w
      (conclude c (q.started.absorbing f) (.str text) false 0 w₁) := by
  obtain ⟨followup, hask, hhasRun, hlogged⟩ := htold
  obtain ⟨w', hconclude, hadded⟩ := conclude_of_followup (q := q.started.absorbing f) hbinding
    text false 0 hask
  have hnothing : main.logged text 0 = { query := text } := by
    rw [Reply.logged, hfailure]
  rw [hlogged, hlog] at hadded
  rw [hconclude]
  refine ⟨⟨0, rfl, rowCountNow_of_lastError rfl, Int.le_refl 0, ?_⟩, hhasRun,
    fun hnone => ?_, fun cause' hcause' => ?_⟩
  · rw [hnothing]
    exact hadded
  · exact nomatch hfailure.symm.trans hnone
  · obtain rfl : cause = cause' := Option.some.inj (hfailure.symm.trans hcause')
    exact ⟨rfl, hdirty, rfl, f, rfl, hcode, hcause⟩

/-- A statement that does not fail leaves a clean query with the count of its rows. -/
private theorem finished_of_answered (hbinding : q.binding = none) (hlog : w₁.log = w.log)
    (htold : Told c.connection w₁.sent statistics) {r : StatementResult}
    (hnone : main.failure? = none) (hcount : r.rowCount = main.count)
    (hseconds : r.seconds = main.seconds) :
    Finished text main statistics w
      (conclude c (q.started.answered r) (.str text) true r.seconds w₁) := by
  obtain ⟨followup, hask, hhasRun, hlogged⟩ := htold
  obtain ⟨w', hconclude, hadded⟩ := conclude_of_followup (q := q.started.answered r) hbinding
    text true r.seconds hask
  have hkept : (q.started.answered r).keptCount = main.count := hcount
  have hshown : main.logged text main.count =
      { query := text, rows := main.count, seconds := r.seconds } := by
    rw [Reply.logged, hnone, hseconds]
  rw [hlogged, hlog, hkept, Int.max_eq_left main.count_nonneg, ← hshown] at hadded
  rw [hconclude, hkept]
  refine ⟨⟨_, rfl, ?_, main.count_nonneg, hadded⟩, hhasRun, fun _ => ⟨rfl, rfl⟩,
    fun cause hcause => ?_⟩
  · exact (rowCountNow_of_clean rfl).trans (congrArg Except.ok hkept)
  · exact nomatch hnone.symm.trans hcause

end

/-- An attempt to run a text over a driver always comes to its end. -/
theorem attempt_of_driver {c : Collaborators} (hthrottling : c.throttling = none)
    (hdriver : c.connection.transport = .driver) {q : Query} (hraw : q.raw = none)
    (hbinding : q.binding = none) (hdirty : q.state = .dirty) (text : String) (w : World)
    (hmain : (c.connection.engine w.sent (.str text)).WellFormed)
    (hstatistics :
      (c.connection.engine (w.sent ++ [.str text]) (.str metaStatement)).WellFormed) :
    Finished text (c.connection.engine w.sent (.str text))
      (c.connection.engine (w.sent ++ [.str text]) (.str metaStatement)) w
      (q.attempt c (.str text) w) := by
  have hreading : ∃ b, q.started.isReading (.str text) = .ok b := by
    unfold isReading started
    rw [hraw]
    exact ⟨true, rfl⟩
  have htame : ∀ f ∈ c.throttling, Throttling.Tame f := by
    rw [hthrottling]
    exact fun f hf => nomatch hf
  obtain ⟨hrun, hsent, hlog⟩ := runMain_of_tame htame q.started hreading w
  rcases hr : q.started.runMain c (.str text) w with ⟨outcome, w₁⟩
  rw [hr] at hrun hsent hlog
  dsimp only at hrun hsent hlog
  -- What is said about the statistics is said after the main statement.
  have htold : Told c.connection w₁.sent
      (c.connection.engine (w.sent ++ [.str text]) (.str metaStatement)) := by
    rw [hsent]
    exact told_of_driver hdriver hstatistics
  unfold attempt
  rw [hr]
  cases hfailure : (c.connection.engine w.sent (.str text)).failure? with
  | some cause =>
    obtain ⟨f, hreply, hcode, hcause⟩ := Connection.reply_of_failure hdriver hmain hfailure
    rw [hreply] at hrun
    rw [hrun.trans (if_pos hcode)]
    exact finished_of_absorbed hbinding hdirty hlog htold hfailure hcode hcause
  | none =>
    obtain ⟨r, hreply, -, hcount, hseconds⟩ := Connection.reply_of_rows hdriver hmain hfailure
    rw [hreply] at hrun
    rw [hrun]
    exact finished_of_answered hbinding hlog htold hfailure hcount hseconds

/-- A query that needs nothing but its own clauses, and whose integers can be written, run over a
driver without a throttler, returns from its execution whatever goes wrong when its statement or the
request for the statistics is sent, fetched or released. It is clean if nothing went wrong with its
statement, and otherwise it is dirty and empty and keeps the failure behind an error of execution.
Both statements are reported to the query log, and nothing else. -/
theorem execute_over_driver {c : Collaborators} (hthrottling : c.throttling = none)
    (hdriver : c.connection.transport = .driver) {q : Query} (hq : q.Runnable)
    (hdirty : q.state = .dirty) (hwritable : q.clauses.Writable q.maxMatches) (w : World)
    (hmain : ∀ text, q.clauses.compile q.maxMatches = .ok text →
      (c.connection.engine w.sent (.str text)).WellFormed)
    (hstatistics : ∀ text, q.clauses.compile q.maxMatches = .ok text →
      (c.connection.engine (w.sent ++ [.str text]) (.str metaStatement)).WellFormed) :
    ∃ text, q.clauses.compile q.maxMatches = .ok text ∧
      let main := c.connection.engine w.sent (.str text)
      let statistics := c.connection.engine (w.sent ++ [.str text]) (.str metaStatement)
      let o := q.execute c w
      (∃ n, o.result = .ok n ∧ o.query.rowCountNow = .ok n ∧ 0 ≤ n ∧
        o.world.log = (w.log.add (main.logged text n)).add
          (statistics.logged metaStatement statistics.fetched)) ∧
      (o.query.state = .clean ↔ main.failure? = none) ∧
      (main.failure? = none → o.result = .ok main.count) ∧
      (∀ cause, main.failure? = some cause →
        o.result = .ok 0 ∧ o.query.state = .dirty ∧ o.query.results = some (.rows []) ∧
          ∃ f, o.query.lastError = some f ∧ f.hasCode .queryExecution = true ∧
            f.cause? = some cause) ∧
      o.query.metadata.hasRun = true := by
  obtain ⟨text, htext⟩ := (Clauses.writesIf_compile hq.reachable.shaped hq.named hq.select
    hq.indexes q.maxMatches).ok hwritable
  refine ⟨text, htext, ?_⟩
  intro main statistics o
  have hfinished : Finished text main statistics w o := by
    let w₀ := w.reportAny (Span.warning? spanName q.spanAttributes)
    have hstatement : q.statement = (.ok (.str text), { q with compiled := some text }) := by
      rw [statement_of_compile hq.raw (.inl hdirty), htext]
    have hrun : q.run c w₀ = { q with compiled := some text }.attempt c (.str text) w₀ := by
      unfold run
      rw [hstatement]
      simp only [hdirty]
    have hattempt := attempt_of_driver (q := { q with compiled := some text }) hthrottling hdriver
      hq.raw hq.binding hdirty text w₀ (hmain text htext) (hstatistics text htext)
    rw [← hrun] at hattempt
    -- The span around the execution shows in the trace only.
    exact ⟨hattempt.result, hattempt.hasRun, hattempt.answered, hattempt.absorbed⟩
  refine ⟨hfinished.result, ⟨fun hclean => ?_, fun hnone => (hfinished.answered hnone).2⟩,
    fun hnone => (hfinished.answered hnone).1, hfinished.absorbed, hfinished.hasRun⟩
  cases hfailure : main.failure? with
  | none => rfl
  | some cause =>
    obtain ⟨-, hstill, -⟩ := hfinished.absorbed cause hfailure
    exact absurd (hstill.symm.trans hclean) (by decide)

/-- The connection is lost during the statement, and what is said about it afterwards is a row that
is too short and a count below zero. -/
theorem execute_over_driver_of_lost :
    let engine : Engine := fun _ statement =>
      if statement.asText? = some metaStatement then
        .answer { columns := [.str "total"], rows := [[.int 7]], reported := .int (-1) }
      else .answer { fetchFailure := some (.badValue "lost"), reported := .null }
    let c : Collaborators := { connection := { engine } }
    let q := ((create .null (.int 1000)).calls c {} [
      .change (.select [.str "id"]), .change (.indexes [.str "rt"])]).1
    (c.throttling = none ∧ c.connection.transport = .driver ∧ q.Runnable ∧ q.state = .dirty ∧
      q.clauses.Writable q.maxMatches ∧
      (∀ text, q.clauses.compile q.maxMatches = .ok text →
        (engine [] (.str text)).WellFormed) ∧
      ∀ text, q.clauses.compile q.maxMatches = .ok text →
        (engine [.str text] (.str metaStatement)).WellFormed) ∧
      (q.execute c {}).result = .ok 0 ∧
      (∃ f, (q.execute c {}).query.lastError = some f ∧ f.hasCode .queryExecution = true ∧
        f.cause? = some (.badValue "lost")) ∧
      (q.execute c {}).world.log.history.map (fun e => (e.query, e.rows)) =
        [("SELECT id FROM rt LIMIT 0, 20", 0), (metaStatement, 1)] := by
  intro engine c q
  have hreached : q.Reachable := (Reachable.create .null 1000).calls c {} _
  have hnamed : q.clauses.Named := by
    refine ⟨?_, ?_, ?_, .inr ⟨0, rfl⟩, .inr ⟨20, rfl⟩⟩
    · intro v hv
      obtain rfl : v = .str "id" := List.mem_singleton.1 hv
      exact ⟨"id", rfl⟩
    · intro v hv
      obtain rfl : v = .str "rt" := List.mem_singleton.1 hv
      exact ⟨"rt", rfl⟩
    · exact fun v hv => nomatch hv
  have hq : q.Runnable :=
    ⟨hreached, hnamed, List.cons_ne_nil _ _, List.cons_ne_nil _ _, rfl, rfl⟩
  have hwritable : q.clauses.Writable q.maxMatches := by decide +kernel
  have hseconds : (Numeric.Quantity.ofInt 0).atMost (.ofFloat 0) = true := by decide +kernel
  have hengine (before : List Value) (text : String) : (engine before (.str text)).WellFormed := by
    by_cases htext : (Value.str text).asText? = some metaStatement
    · have hreply : engine before (.str text) = .answer
          { columns := [.str "total"], rows := [[.int 7]], reported := .int (-1) } := if_pos htext
      rw [hreply]
      refine ⟨fun v hv => ⟨"total", List.mem_singleton.1 hv⟩, .inr ⟨-1, rfl⟩, hseconds⟩
    · have hreply : engine before (.str text) = .answer
          { fetchFailure := some (.badValue "lost"), reported := .null } := if_neg htext
      rw [hreply]
      exact ⟨fun v hv => (nomatch hv), .inl rfl, hseconds⟩
  obtain ⟨text, htext, ⟨n, hn, -, -, hlog⟩, -, -, habsorbed, -⟩ :=
    execute_over_driver (c := c) rfl rfl hq rfl hwritable {} (fun text _ => hengine [] text)
      fun text _ => hengine [.str text] metaStatement
  obtain rfl : "SELECT id FROM rt LIMIT 0, 20" = text := by
    have hshown : (q.clauses.compile q.maxMatches).toOption =
        some "SELECT id FROM rt LIMIT 0, 20" := by decide +kernel
    rw [htext] at hshown
    exact (Option.some.inj hshown).symm
  obtain ⟨hresult, -, -, herror⟩ := habsorbed (.badValue "lost") rfl
  obtain rfl : n = 0 := Except.ok.inj (hn.symm.trans hresult)
  refine ⟨⟨rfl, rfl, hq, rfl, hwritable, fun text _ => hengine [] text,
    fun text _ => hengine [.str text] metaStatement⟩, hresult, herror, ?_⟩
  rw [hlog]
  rfl

/-- A query that needs nothing but its own clauses but has an integer that cannot be written has no
statement: an execution fails for just that reason, sends nothing and leaves the query as it is. -/
theorem execute_of_not_writable (c : Collaborators) {q : Query} (hq : q.Runnable)
    (hdirty : q.state = .dirty) (hnot : ¬q.clauses.Writable q.maxMatches) (w : World) :
    (q.execute c w).result = .error Value.tooLong ∧ (q.execute c w).query = q ∧
      (q.execute c w).world.log = w.log := by
  have hcompile := (Clauses.writesIf_compile hq.reachable.shaped hq.named hq.select hq.indexes
    q.maxMatches).error hnot
  have hrun (w : World) : q.run c w = ⟨.error Value.tooLong, q, w.note Value.tooLong⟩ := by
    unfold run
    rw [hdirty, statement_of_compile hq.raw (.inl hdirty), hcompile]
  unfold execute
  rw [hrun]
  exact ⟨rfl, rfl, rfl⟩

/-- Without a limit the window is as long as the engine allows, which may be more rows than can be
written. -/
theorem execute_of_long_window :
    let c : Collaborators := { connection := { engine := fun _ _ => .answer {} } }
    let q := ((create .null (.int (10 ^ Value.maxDigits))).calls c {} [
      .change (.select [.str "id"]), .change (.indexes [.str "rt"]), .change (.limit .null)]).1
    (q.Runnable ∧ q.state = .dirty ∧ ∀ before statement,
      (c.connection.engine before statement).WellFormed) ∧
      (q.execute c {}).result = .error Value.tooLong ∧
      (q.execute c {}).world.log.history = [] := by
  intro c q
  have hreached : q.Reachable := (Reachable.create .null _).calls c {} _
  have hnamed : q.clauses.Named := by
    refine ⟨?_, ?_, ?_, .inr ⟨0, rfl⟩, .inl rfl⟩
    · intro v hv
      obtain rfl : v = .str "id" := List.mem_singleton.1 hv
      exact ⟨"id", rfl⟩
    · intro v hv
      obtain rfl : v = .str "rt" := List.mem_singleton.1 hv
      exact ⟨"rt", rfl⟩
    · exact fun v hv => nomatch hv
  have hq : q.Runnable :=
    ⟨hreached, hnamed, List.cons_ne_nil _ _, List.cons_ne_nil _ _, rfl, rfl⟩
  have hlong : ¬q.clauses.Writable q.maxMatches := by
    intro h
    exact Nat.lt_irrefl _ (Value.fitsDigits_pow.1 (h.maxMatches rfl))
  have hseconds : (Numeric.Quantity.ofInt 0).atMost (.ofFloat 0) = true := by decide +kernel
  have hempty : (Reply.answer {}).WellFormed :=
    ⟨fun v hv => (nomatch hv), .inr ⟨0, rfl⟩, hseconds⟩
  obtain ⟨hresult, -, hlog⟩ := execute_of_not_writable c hq rfl hlong {}
  refine ⟨⟨hq, rfl, fun _ _ => hempty⟩, hresult, ?_⟩
  rw [hlog]

end Query

end SearchClient
