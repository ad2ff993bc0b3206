import SearchClient.Proofs.Connection
import SearchClient.Proofs.Hydration
import SearchClient.Query.Call

/-!
# What one execution does

An execution goes through four stages: the main statement, perhaps under a throttler; the request
for the statistics; the report to the query log; the replacement of the rows by entities. For each
stage this file says what it gives, what it sends and reports, and what it leaves alone.

## Key results

- `runMain_answered`: an answer to the main statement is the connection's to what was sent last
- `Concluded.clean`: a query is only clean after all four stages
- `Kept`: no stage touches the clauses, the statement of its own or the size of the window
-/

namespace SearchClient

/-- Nothing was sent to the engine and nothing reported to the query log in between. -/
structure World.Quiet (w w' : World) : Prop where
  sent : w'.sent = w.sent
  log : w'.log = w.log

namespace World.Quiet

theorem refl (w : World) : w.Quiet w := ⟨rfl, rfl⟩

theorem trans {w w' w'' : World} (h : w.Quiet w') (h' : w'.Quiet w'') : w.Quiet w'' :=
  ⟨h'.sent.trans h.sent, h'.log.trans h.log⟩

theorem of_note (w : World) (f : Failure) : w.Quiet (w.note f) := ⟨rfl, rfl⟩

theorem of_emit (w : World) (e : Event) : w.Quiet (w.emit e) := ⟨rfl, rfl⟩

theorem of_report (w : World) (r : LogRecord) : w.Quiet (w.report r) := ⟨rfl, rfl⟩

end World.Quiet

/-! ### Entities -/

namespace Hydration

/-- Entities are loaded without a statement on the connection. -/
theorem quiet_hydrate (rows : List Cells) (source : EntityQuery) (column : Value) (w : World) :
    w.Quiet (hydrate rows source column w).world := by
  obtain ⟨events, records, hworld, -⟩ := world_hydrate rows source column w
  rw [hworld]
  exact ⟨rfl, rfl⟩

/-- All that changes about a source is how often it was asked. -/
theorem source_hydrate (rows : List Cells) (source : EntityQuery) (column : Value) (w : World) :
    ∃ asked, (hydrate rows source column w).source = { source with asked } := by
  unfold hydrate
  split
  · exact ⟨source.asked, rfl⟩
  · split
    · exact ⟨source.asked, rfl⟩
    · have hfetch (ids : List Int) : (fetch source column ids w).source =
          { source with asked := source.asked + 1 } := by
        unfold fetch
        dsimp only
        split
        · rfl
        · split <;> rfl
      dsimp only
      split
      · exact ⟨_, hfetch _⟩
      · split <;> exact ⟨_, hfetch _⟩

end Hydration

/-! ### The main statement -/

/-- How a main statement ends by the outcome that the connection gives for it. -/
def MainOutcome.ofReply : Except Failure StatementResult → MainOutcome
  | .ok r => .answered r
  | .error f => if f.hasCode .queryExecution then .absorbed f else .failed f

/-- A throttler that can be entered and left, and swallows nothing. -/
structure Throttler.Tame (t : Throttler) : Prop where
  entryFailure : t.entryFailure = none
  suppresses : t.suppresses = false
  exitFailure : t.exitFailure = none

/-- A source of throttlers that never fails and gives none but tame ones. -/
def Throttling.Tame (f : Throttling) : Prop :=
  ∀ n indexes reading, ∃ t? : Option Throttler,
    f n indexes reading = .ok t? ∧ ∀ t ∈ t?, t.Tame

namespace Throttler

/-- A tame throttler only adds to the trace. -/
theorem Tame.hold_eq {t : Throttler} (h : t.Tame) (c : Connection) (statement : Value)
    (w : World) :
    (t.hold c statement w).1 = c.reply w.sent statement ∧
      (t.hold c statement w).2.sent = w.sent ++ [statement] ∧
      (t.hold c statement w).2.log = w.log := by
  have hsent := c.sent_execute statement (w.emit .throttleEntered)
  have hlog := c.log_execute statement (w.emit .throttleEntered)
  have hfst := c.execute_fst statement (w.emit .throttleEntered)
  rw [World.sent_emit] at hsent hfst
  rw [World.log_emit] at hlog
  unfold hold leave
  rw [h.entryFailure, h.exitFailure, h.suppresses]
  dsimp only
  rw [← hfst, ← hsent, ← hlog]
  split
  · rename_i heq
    rw [heq]
    exact ⟨rfl, rfl, rfl⟩
  · rename_i heq
    rw [heq]
    exact ⟨rfl, rfl, rfl⟩

/-- Whatever a throttler does, an answer is the connection's to what was sent last. -/
theorem hold_ok {t : Throttler} {c : Connection} {statement : Value} {w w' : World}
    {r : StatementResult} (h : t.hold c statement w = (.ok r, w')) :
    ∃ before, w.sent <+: before ∧ w'.sent = before ++ [statement] ∧
      c.reply before statement = .ok r := by
  have hfirst := c.sent_execute statement (w.emit .throttleEntered)
  have hfst := c.execute_fst statement (w.emit .throttleEntered)
  unfold hold leave at h
  dsimp only at h
  split at h
  · exact nomatch h
  · split at h
    · rename_i heq
      rw [heq] at hfirst hfst
      split at h
      · exact nomatch h
      · obtain ⟨hr, rfl⟩ := Prod.mk.inj h
        obtain rfl := Except.ok.inj hr
        exact ⟨_, List.prefix_rfl, hfirst, hfst.symm⟩
    · rename_i w₁ heq
      rw [heq] at hfirst
      split at h
      · exact nomatch h
      · split at h
        -- A swallowed failure is followed by a second run of the statement.
        · have hsecond := c.sent_execute statement (w₁.emit (.throttleLeft true))
          have hfst := c.execute_fst statement (w₁.emit (.throttleLeft true))
          rw [h] at hsecond hfst
          exact ⟨_, ⟨[statement], hfirst.symm⟩, hsecond, hfst.symm⟩
        · exact nomatch h

end Throttler

namespace Query

theorem settle_fst (statement : Value) (p : Except Failure StatementResult × World) :
    (settle statement p).1 = .ofReply p.1 := by
  obtain ⟨r | f, w⟩ := p
  · unfold settle MainOutcome.ofReply
    dsimp only
    split <;> rfl
  · rfl

theorem settle_quiet (statement : Value) (p : Except Failure StatementResult × World) :
    p.2.Quiet (settle statement p).2 := by
  obtain ⟨r | f, w⟩ := p
  · unfold settle
    dsimp only
    split
    · exact .of_report w _
    · exact .refl w
  · exact .refl w

/-- Under tame throttling the main statement is sent once, and ends as the connection says. -/
theorem runMain_of_tame {c : Collaborators} (hc : ∀ f ∈ c.throttling, Throttling.Tame f) (q : Query)
    {statement : Value} (htext : ∃ b, q.isReading statement = .ok b) (w : World) :
    (q.runMain c statement w).1 = .ofReply (c.connection.reply w.sent statement) ∧
      (q.runMain c statement w).2.sent = w.sent ++ [statement] ∧
      (q.runMain c statement w).2.log = w.log := by
  have hplain (w' : World) (hw : w.Quiet w') :
      (settle statement (c.connection.execute statement w')).1 =
          .ofReply (c.connection.reply w.sent statement) ∧
        (settle statement (c.connection.execute statement w')).2.sent = w.sent ++ [statement] ∧
        (settle statement (c.connection.execute statement w')).2.log = w.log := by
    have hquiet := settle_quiet statement (c.connection.execute statement w')
    rw [settle_fst, hquiet.sent, hquiet.log, c.connection.execute_fst, c.connection.sent_execute,
      c.connection.log_execute, hw.sent, hw.log]
    exact ⟨rfl, rfl, rfl⟩
  obtain ⟨b, hb⟩ := htext
  unfold runMain
  cases hthr : c.throttling with
  | none => exact hplain w (.refl w)
  | some throttling =>
    rw [hb]
    dsimp only
    obtain ⟨t?, ht?, htame⟩ := hc throttling (by simp [hthr]) w.throttlings q.clauses.indexes b
    rw [ht?]
    cases t? with
    | none => exact hplain _ ⟨rfl, rfl⟩
    | some t =>
      obtain ⟨hfst, hsent, hlog⟩ := (htame t rfl).hold_eq c.connection statement
        ({ w with throttlings := w.throttlings + 1 }.emit (.throttlerAsked q.clauses.indexes b))
      have hquiet := settle_quiet statement (t.hold c.connection statement
        ({ w with throttlings := w.throttlings + 1 }.emit (.throttlerAsked q.clauses.indexes b)))
      rw [settle_fst, hquiet.sent, hquiet.log, hfst, hsent, hlog]
      exact ⟨rfl, rfl, rfl⟩

private theorem settle_answered {statement : Value} {p : Except Failure StatementResult × World}
    {r : StatementResult} {w : World} (h : settle statement p = (.answered r, w)) :
    p = (.ok r, w) := by
  obtain ⟨f | r', w'⟩ := p
  · unfold settle at h
    dsimp only at h
    split at h <;> exact nomatch h
  · unfold settle at h
    obtain ⟨hr, rfl⟩ := Prod.mk.inj h
    obtain rfl := MainOutcome.answered.inj hr
    rfl

/-- An answer to the main statement is the connection's to what was sent last, whatever the
throttler does. -/
theorem runMain_answered {c : Collaborators} {q : Query} {statement : Value} {w w' : World}
    {r : StatementResult} (h : q.runMain c statement w = (.answered r, w')) :
    ∃ before, w.sent <+: before ∧ w'.sent = before ++ [statement] ∧
      c.connection.reply before statement = .ok r := by
  have hplain (w₁ : World)
      (h₁ : settle statement (c.connection.execute statement w₁) = (.answered r, w'))
      (hsame : w₁.sent = w.sent) :
      ∃ before, w.sent <+: before ∧ w'.sent = before ++ [statement] ∧
        c.connection.reply before statement = .ok r := by
    have hok := settle_answered h₁
    have hsent := c.connection.sent_execute statement w₁
    have hfst := c.connection.execute_fst statement w₁
    rw [hok, hsame] at hsent hfst
    exact ⟨_, List.prefix_rfl, hsent, hfst.symm⟩
  unfold runMain at h
  split at h
  · exact hplain w h rfl
  · split at h
    · exact nomatch h
    · dsimp only at h
      split at h
      · exact nomatch h
      · exact hplain _ h rfl
      · obtain ⟨before, hbefore, hsent, hreply⟩ := Throttler.hold_ok (settle_answered h)
        exact ⟨before, hbefore, hsent, hreply⟩

/-! ### Entities in place of rows -/

/-- Replacing the rows touches the rows and how often the source was asked. -/
theorem hydrated_query (q : Query) (w : World) :
    ∃ binding results, (q.hydrated w).query = { q with binding, results } := by
  unfold hydrated
  split
  · exact ⟨q.binding, q.results, rfl⟩
  · split
    · exact ⟨q.binding, q.results, rfl⟩
    · dsimp only
      split
      · exact ⟨_, _, rfl⟩
      · exact ⟨_, q.results, rfl⟩

theorem quiet_hydrated (q : Query) (w : World) : w.Quiet (q.hydrated w).world := by
  unfold hydrated
  split
  · exact .refl w
  · split
    · exact .refl w
    · rename_i b _ _
      have hquiet := Hydration.quiet_hydrate (q.keptRows.map Cells.ofRow) b.source b.column w
      dsimp only
      split
      · exact hquiet
      · exact hquiet

/-- The results that rows give under a binding: the rows themselves without one, or when it names
no column, and otherwise the entities that its source gives for them. -/
def ResultsOf (rows : List Row) (binding : Option EntityBinding) (results : Option Results) :
    Prop :=
  match binding with
  | none => results = some (.rows rows)
  | some b =>
    if b.column.isNull then results = some (.rows rows)
    else
      ∃ asked w entities,
        (Hydration.hydrate (rows.map Cells.ofRow) { b.source with asked } b.column w).result =
            .ok entities ∧
          results = some (.entities entities)

/-- When the replacement works, the results are those of the rows. -/
theorem hydrated_ok {q : Query} {rows : List Row} (hrows : q.results = some (.rows rows))
    {w : World} (h : (q.hydrated w).result = .ok ()) :
    ResultsOf rows (q.hydrated w).query.binding (q.hydrated w).query.results := by
  have hkept : q.keptRows = rows := by
    rw [keptRows, hrows]
  unfold hydrated at h ⊢
  rw [hkept] at h ⊢
  cases hb : q.binding with
  | none => simpa [ResultsOf, hb] using hrows
  | some b =>
    rw [hb] at h
    dsimp only at h ⊢
    by_cases hnull : b.column.isNull = true
    · rw [if_pos hnull]
      simpa [ResultsOf, hb, hnull] using hrows
    · rw [if_neg hnull] at h ⊢
      obtain ⟨asked, hsource⟩ := Hydration.source_hydrate (rows.map Cells.ofRow) b.source b.column w
      cases hr : (Hydration.hydrate (rows.map Cells.ofRow) b.source b.column w).result with
      | error f =>
        rw [hr] at h
        exact nomatch h
      | ok entities =>
        simp only [ResultsOf, if_neg hnull, hsource]
        exact ⟨b.source.asked, w, entities, hr, rfl⟩

/-! ### Statistics -/

/-- What becomes of the outcome of the request for the statistics. -/
def Followup.ofReply : Except Failure StatementResult → Except Failure Followup
  | .ok r => .ok ⟨.ofPairs r.keyPairs, r.rows.length, r.seconds⟩
  | .error f => if f.hasCode .queryExecution then .ok ⟨.empty, 0, 0⟩ else .error f

/-- The request for the statistics is one more statement. -/
theorem askStatistics_eq (c : Connection) (w : World) :
    askStatistics c w =
      (Followup.ofReply (c.reply w.sent (.str metaStatement)),
        (c.execute (.str metaStatement) w).2) := by
  rw [← c.execute_fst]
  unfold askStatistics
  rcases c.execute (.str metaStatement) w with ⟨f | r, w'⟩
  · unfold Followup.ofReply
    dsimp only
    split <;> rfl
  · rfl

/-! ### The report to the query log -/

theorem sent_reportRun (statement : Value) (rows : Int) (seconds : Float) (f : Followup)
    (w : World) : (reportRun statement rows seconds f w).2.sent = w.sent := by
  unfold reportRun
  split
  · rfl
  · dsimp only
    split <;> rfl

private theorem ofRun_of_asText? {statement : Value} {text : String}
    (h : statement.asText? = some text) (rows : Int) (seconds : Float) :
    LoggedQuery.ofRun statement rows seconds =
      .ok { query := text, rows := max rows 0, seconds } := by
  cases statement with
  | str s =>
    obtain rfl : s = text := Option.some.inj h
    rfl
  | keyword k =>
    obtain ⟨_, hk⟩ : k.isText = true ∧ k.text = text := by simpa [Value.asText?] using h
    obtain rfl := hk
    rfl
  | _ => simp [Value.asText?] at h

/-- A text is reported with its rows and before its statistics. -/
theorem reportRun_of_asText? {statement : Value} {text : String}
    (h : statement.asText? = some text) (rows : Int) (seconds : Float) (f : Followup)
    (w : World) :
    (reportRun statement rows seconds f w).2.log =
      (w.log.add { query := text, rows := max rows 0, seconds }).add
        { query := metaStatement, rows := max f.rows 0, seconds := f.seconds } := by
  unfold reportRun
  rw [ofRun_of_asText? h, LoggedQuery.ofRun_text]
  rfl

/-! ### After the main statement -/

/-- The query with the statistics of its execution. -/
def informed (q : Query) (m : Metadata) : Query := { q with metadata := m }

/-- The ways in which an execution ends after its main statement: without statistics, without a
report, without the entities for its rows, or completely. -/
inductive Concluded (c : Collaborators) (q : Query) (statement : Value) (wasAnswered : Bool)
    (seconds : Float) (w : World) : Outcome Int → Prop where
  | unasked {f : Failure}
      (hask : Followup.ofReply (c.connection.reply w.sent (.str metaStatement)) = .error f) :
      Concluded c q statement wasAnswered seconds w
        ⟨.error f, q, (c.connection.execute (.str metaStatement) w).2⟩
  | unreported {followup : Followup} {f : Failure} {w' : World}
      (hask : Followup.ofReply (c.connection.reply w.sent (.str metaStatement)) = .ok followup)
      (hreport : reportRun statement q.keptCount seconds followup
        (c.connection.execute (.str metaStatement) w).2 = (.error f, w')) :
      Concluded c q statement wasAnswered seconds w
        ⟨.error f, q.informed followup.metadata, w'⟩
  | unloaded {followup : Followup} {f : Failure} {w' : World}
      (hask : Followup.ofReply (c.connection.reply w.sent (.str metaStatement)) = .ok followup)
      (hreport : reportRun statement q.keptCount seconds followup
        (c.connection.execute (.str metaStatement) w).2 = (.ok (), w'))
      (hload : ((q.informed followup.metadata).hydrated w').result = .error f) :
      Concluded c q statement wasAnswered seconds w
        ⟨.error f, ((q.informed followup.metadata).hydrated w').query,
          ((q.informed followup.metadata).hydrated w').world⟩
  | complete {followup : Followup} {n : Int} {q' : Query} {w' : World}
      (hask : Followup.ofReply (c.connection.reply w.sent (.str metaStatement)) = .ok followup)
      (hreport : reportRun statement q.keptCount seconds followup
        (c.connection.execute (.str metaStatement) w).2 = (.ok (), w'))
      (hload : ((q.informed followup.metadata).hydrated w').result = .ok ())
      (hq' : q' =
        if wasAnswered then
          { ((q.informed followup.metadata).hydrated w').query with state := .clean }
        else ((q.informed followup.metadata).hydrated w').query) :
      Concluded c q statement wasAnswered seconds w
        ⟨.ok n, q', ((q.informed followup.metadata).hydrated w').world⟩

theorem concluded_conclude (c : Collaborators) (q : Query) (statement : Value) (wasAnswered : Bool)
    (seconds : Float) (w : World) :
    Concluded c q statement wasAnswered seconds w
      (conclude c q statement wasAnswered seconds w) := by
  unfold conclude
  rw [askStatistics_eq]
  cases hask : Followup.ofReply (c.connection.reply w.sent (.str metaStatement)) with
  | error f => exact .unasked hask
  | ok followup =>
    dsimp only
    rcases hreport : reportRun statement (keptCount { q with metadata := followup.metadata })
        seconds followup (c.connection.execute (.str metaStatement) w).2 with ⟨f | _, w'⟩
    · exact .unreported hask hreport
    · cases hload : ((q.informed followup.metadata).hydrated w').result with
      | error f =>
        rw [informed] at hload
        simp only [hload]
        exact .unloaded hask hreport hload
      | ok _ =>
        rw [informed] at hload
        simp only [hload]
        exact .complete hask hreport hload rfl

namespace Concluded

variable {c : Collaborators} {q : Query} {statement : Value} {wasAnswered : Bool}
  {seconds : Float} {w : World} {o : Outcome Int}

/-- After the main statement only the request for the statistics is sent. -/
theorem sent (h : Concluded c q statement wasAnswered seconds w o) :
    o.world.sent = w.sent ++ [.str metaStatement] := by
  have hsent := c.connection.sent_execute (.str metaStatement) w
  have hreported {rows : Int} {f : Followup} {r : Except Failure Unit} {w' : World}
      (h : reportRun statement rows seconds f (c.connection.execute (.str metaStatement) w).2 =
        (r, w')) : w'.sent = w.sent ++ [.str metaStatement] := by
    have hreport := sent_reportRun statement rows seconds f
      (c.connection.execute (.str metaStatement) w).2
    rwa [h, hsent] at hreport
  cases h with
  | unasked hask => exact hsent
  | unreported hask hreport => exact hreported hreport
  | unloaded hask hreport hload => exact (quiet_hydrated _ _).sent.trans (hreported hreport)
  | complete hask hreport hload hq' => exact (quiet_hydrated _ _).sent.trans (hreported hreport)

/-- Both statements are reported, or neither when there are no statistics. -/
theorem log (h : Concluded c q statement wasAnswered seconds w o) {text : String}
    (htext : statement.asText? = some text) :
    o.world.log =
      match Followup.ofReply (c.connection.reply w.sent (.str metaStatement)) with
      | .error _ => w.log
      | .ok followup =>
        (w.log.add { query := text, rows := max q.keptCount 0, seconds }).add
          { query := metaStatement, rows := max followup.rows 0, seconds := followup.seconds } := by
  have hlog := c.connection.log_execute (.str metaStatement) w
  have hreported {f : Followup} {r : Except Failure Unit} {w' : World}
      (h : reportRun statement q.keptCount seconds f
        (c.connection.execute (.str metaStatement) w).2 = (r, w')) :
      w'.log = (w.log.add { query := text, rows := max q.keptCount 0, seconds }).add
        { query := metaStatement, rows := max f.rows 0, seconds := f.seconds } := by
    have hreport := reportRun_of_asText? htext q.keptCount seconds f
      (c.connection.execute (.str metaStatement) w).2
    rwa [h, hlog] at hreport
  cases h with
  | unasked hask =>
    rw [hask]
    exact hlog
  | unreported hask hreport =>
    rw [hask]
    exact hreported hreport
  | unloaded hask hreport hload =>
    rw [hask]
    exact (quiet_hydrated _ _).log.trans (hreported hreport)
  | complete hask hreport hload hq' =>
    rw [hask]
    exact (quiet_hydrated _ _).log.trans (hreported hreport)

/-- A query that was dirty is clean only if its statement was answered, its statistics were asked
for, and its rows were replaced. -/
theorem clean (h : Concluded c q statement wasAnswered seconds w o) (hq : q.state = .dirty)
    (hclean : o.query.state = .clean) :
    wasAnswered = true ∧
      ∃ followup w',
        Followup.ofReply (c.connection.reply w.sent (.str metaStatement)) = .ok followup ∧
          ((q.informed followup.metadata).hydrated w').result = .ok () ∧
          o.query =
            { ((q.informed followup.metadata).hydrated w').query with state := .clean } := by
  have hdirty (m : Metadata) (w' : World) : ((q.informed m).hydrated w').query.state = .dirty := by
    obtain ⟨binding, results, hquery⟩ := hydrated_query (q.informed m) w'
    rw [hquery]
    exact hq
  cases h with
  | unasked hask => exact absurd (hq.symm.trans hclean) (by decide)
  | unreported hask hreport => exact absurd (hq.symm.trans hclean) (by decide)
  | unloaded hask hreport hload => exact absurd ((hdirty _ _).symm.trans hclean) (by decide)
  | complete hask hreport hload hq' =>
    subst hq'
    cases wasAnswered with
    | false => exact absurd ((hdirty _ _).symm.trans hclean) (by decide)
    | true => exact ⟨rfl, _, _, hask, hload, rfl⟩

end Concluded

/-! ### What is left alone -/

/-- The clauses, the statement of its own and the size of the window are the same. -/
structure Kept (q q' : Query) : Prop where
  clauses : q'.clauses = q.clauses
  raw : q'.raw = q.raw
  maxMatches : q'.maxMatches = q.maxMatches

namespace Kept

theorem refl (q : Query) : q.Kept q := ⟨rfl, rfl, rfl⟩

theorem trans {q q' q'' : Query} (h : q.Kept q') (h' : q'.Kept q'') : q.Kept q'' :=
  ⟨h'.clauses.trans h.clauses, h'.raw.trans h.raw, h'.maxMatches.trans h.maxMatches⟩

end Kept

theorem kept_statement (q : Query) : q.Kept q.statement.2 := by
  rcases statement_snd q with h | ⟨s, h⟩
  · rw [h]
    exact .refl q
  · rw [h]
    exact ⟨rfl, rfl, rfl⟩

theorem kept_hydrated (q : Query) (w : World) : q.Kept (q.hydrated w).query := by
  obtain ⟨binding, results, h⟩ := hydrated_query q w
  rw [h]
  exact ⟨rfl, rfl, rfl⟩

private theorem kept_informed (q : Query) (m : Metadata) : q.Kept (q.informed m) := ⟨rfl, rfl, rfl⟩

theorem Concluded.kept {c : Collaborators} {q : Query} {statement : Value} {wasAnswered : Bool}
    {seconds : Float} {w : World} {o : Outcome Int}
    (h : Concluded c q statement wasAnswered seconds w o) : q.Kept o.query := by
  have hload (m : Metadata) (w' : World) : q.Kept ((q.informed m).hydrated w').query :=
    (kept_informed q m).trans (kept_hydrated _ w')
  cases h with
  | unasked => exact .refl q
  | unreported => exact ⟨rfl, rfl, rfl⟩
  | unloaded => exact hload _ _
  | complete hask hreport hloaded hq' =>
    subst hq'
    split
    · exact ⟨(hload _ _).clauses, (hload _ _).raw, (hload _ _).maxMatches⟩
    · exact hload _ _

theorem kept_attempt (c : Collaborators) (q : Query) (statement : Value) (w : World) :
    q.Kept (q.attempt c statement w).query := by
  have habsorbing (f : Failure) : q.Kept (q.started.absorbing f) := ⟨rfl, rfl, rfl⟩
  have hanswered (r : StatementResult) : q.Kept (q.started.answered r) := ⟨rfl, rfl, rfl⟩
  unfold attempt
  split
  · exact ⟨rfl, rfl, rfl⟩
  · exact (habsorbing _).trans (concluded_conclude ..).kept
  · exact (hanswered _).trans (concluded_conclude ..).kept

theorem kept_run (c : Collaborators) (q : Query) (w : World) : q.Kept (q.run c w).query := by
  unfold run
  split
  · exact .refl q
  · have hstatement := kept_statement q
    split
    · rename_i heq
      rwa [heq] at hstatement
    · rename_i heq
      rw [heq] at hstatement
      exact hstatement.trans (kept_attempt ..)

theorem kept_resultsNow (c : Collaborators) (q : Query) (w : World) :
    q.Kept (q.resultsNow c w).query := by
  unfold resultsNow
  split
  · exact .refl q
  · exact kept_run c q _

/-- Only a change touches the clauses, the statement of its own or the size of the window. -/
theorem kept_call (c : Collaborators) (q : Query) (w : World) {call : Call}
    (h : ∀ m, call ≠ .change m) : q.Kept (q.call c w call).query := by
  have hreading (q' : Query) (answer : Except Failure Returned) (hq : q.Kept q') :
      q.Kept (q'.reading w answer).query := by
    unfold reading
    split
    · exact hq
    · exact hq
  cases call with
  | change m => exact absurd rfl (h m)
  | statement => exact hreading _ _ (kept_statement q)
  | text => exact hreading _ _ (kept_statement q)
  | execute => exact kept_run c q _
  | results => exact kept_resultsNow c q w
  | table =>
    unfold call tableNow
    dsimp only
    split
    · exact .refl q
    · exact kept_resultsNow c q w
  | clear => exact ⟨rfl, rfl, rfl⟩
  | _ => exact hreading q _ (.refl q)

end Query

end SearchClient
