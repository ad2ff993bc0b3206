import SearchClient.Proofs.Query.Coherence
import SearchClient.Proofs.Statement.Compile

/-!
# What the answer to a call depends on

An engine that answers a statement by its text, and the request for statistics by the statement
before it, has a memory that all users of a connection share: the last statement that was no such
request. An execution puts its own statement there before it asks for statistics, so what it is told
is about its own statement, and its outcome is the same in every world.

A throttler can break this. When it refuses to be entered with an error of execution, the execution
takes that for a refusal by the engine and asks for statistics, but no statement was sent.

## Key results

- `Query.sent_runMain`: unless an execution is over, its statement is what was sent last
- `Query.alike_attempt`: an attempt to run a statement has one outcome, whatever the world
- `Query.alike_call`: so has every call that draws no alias
-/

namespace SearchClient

/-! ### Engines without a memory of their own -/

/-- The last statement that was sent and does not ask for statistics. -/
def lastMain (sent : List Value) : Option Value :=
  (sent.filter fun s => s.asText? != some metaStatement).getLast?

/-- An engine answers a main statement by its text, and the request for statistics by the last main
statement before it. Statements that are given for a query are main statements, whatever they say. -/
structure Engine.ByText (e : Engine) (given : List Value) : Prop where
  main : ∀ statement before before', statement.asText? ≠ some metaStatement ∨ statement ∈ given →
    e before statement = e before' statement
  statistics : ∀ before before', lastMain before = lastMain before' →
    e before (.str metaStatement) = e before' (.str metaStatement)

/-- A source of throttlers that does not count how often it is asked. -/
def Throttling.Steady (f : Throttling) : Prop :=
  ∀ n n' indexes reading, f n indexes reading = f n' indexes reading

/-- No throttler refuses to be entered with an error of execution, as if the engine had refused the
statement. -/
def Throttling.Honest (f : Throttling) : Prop :=
  ∀ n indexes reading t, f n indexes reading = .ok (some t) →
    ∀ failure ∈ t.entryFailure, failure.hasCode .queryExecution = false

/-- Two outcomes that differ in the world at most. -/
structure Outcome.Alike {α : Type} (o o' : Outcome α) : Prop where
  result : o.result = o'.result
  query : o.query = o'.query

theorem lastMain_append {statement : Value} (h : statement.asText? ≠ some metaStatement)
    (before : List Value) : lastMain (before ++ [statement]) = some statement := by
  simp [lastMain, List.filter_append, h]

/-- No member of a closed set reads like the request for statistics. -/
private theorem eq_str_of_asText? {v : Value} (h : v.asText? = some metaStatement) :
    v = .str metaStatement := by
  cases v with
  | str s => rw [Option.some.inj h]
  | keyword k =>
    have hother : k.text ≠ metaStatement := by
      cases k with
      | operator o => cases o <;> decide
      | direction d => cases d <;> decide
      | combinator c => cases c <;> decide
      | queryState s => cases s <;> decide
      | metadataState s => cases s <;> decide
      | errorCode c => cases c <;> decide
    have hsame : k.isText = true ∧ k.text = metaStatement := by simpa [Value.asText?] using h
    exact absurd hsame.2 hother
  | _ => simp [Value.asText?] at h

/-- The statistics for a main statement depend on that statement only. -/
theorem Engine.ByText.statistics_congr {e : Engine} {given : List Value} (he : e.ByText given)
    {statement : Value} (hmain : statement.asText? ≠ some metaStatement ∨ statement ∈ given)
    (before before' : List Value) :
    e (before ++ [statement]) (.str metaStatement) =
      e (before' ++ [statement]) (.str metaStatement) := by
  by_cases htext : statement.asText? = some metaStatement
  · -- A query whose own statement is the request makes it a main statement like any other.
    have hgiven : statement ∈ given := hmain.resolve_left fun h => h htext
    rw [eq_str_of_asText? htext] at hgiven
    exact he.main _ _ _ (.inr hgiven)
  · refine he.statistics _ _ ?_
    rw [lastMain_append htext, lastMain_append htext]

/-! ### Entities and reports -/

namespace Hydration

private theorem rank_congr (source : EntityQuery) (column : Value) (ids : List Int)
    (entities : List Entity) (ranking : Ranking) (w w' : World) :
    (rank source column ids entities ranking w).1 =
      (rank source column ids entities ranking w').1 := by
  induction entities generalizing ranking w w' with
  | nil => rfl
  | cons e rest ih =>
    rw [rank, rank]
    cases entityIdentifier source column e with
    | error f =>
      dsimp only
      split <;> rfl
    | ok id =>
      dsimp only
      cases ids.findIdx? (· == id) with
      | some place => exact ih _ _ _
      | none => exact ih _ _ _

private theorem fetch_congr (source : EntityQuery) (column : Value) (ids : List Int)
    (w w' : World) :
    (fetch source column ids w).result = (fetch source column ids w').result ∧
      (fetch source column ids w).source = (fetch source column ids w').source := by
  unfold fetch
  dsimp only
  split
  · exact ⟨rfl, rfl⟩
  · split
    · exact ⟨rfl, rfl⟩
    · exact ⟨rfl, rfl⟩

/-- The entities for some rows depend on the rows and on the source. -/
theorem hydrate_congr (rows : List Cells) (source : EntityQuery) (column : Value) (w w' : World) :
    (hydrate rows source column w).result = (hydrate rows source column w').result ∧
      (hydrate rows source column w).source = (hydrate rows source column w').source := by
  unfold hydrate
  split
  · exact ⟨rfl, rfl⟩
  · cases identifiers rows column with
    | error f => exact ⟨rfl, rfl⟩
    | ok ids =>
      obtain ⟨hresult, hsource⟩ := fetch_congr source column ids w w'
      dsimp only
      rw [hresult, hsource]
      cases (fetch source column ids w').result with
      | error f => exact ⟨rfl, rfl⟩
      | ok entities =>
        -- Ranking writes to the world and does not read it.
        have hrank := rank_congr source column ids entities []
          (fetch source column ids w).world (fetch source column ids w').world
        rcases hfirst : rank source column ids entities [] (fetch source column ids w).world
          with ⟨ranking, _⟩
        rcases hsecond : rank source column ids entities [] (fetch source column ids w').world
          with ⟨ranking', _⟩
        rw [hfirst, hsecond] at hrank
        obtain rfl : ranking = ranking' := hrank
        dsimp only
        rw [hfirst, hsecond]
        cases ranking with
        | ok ranked => exact ⟨rfl, rfl⟩
        | error f => exact ⟨rfl, rfl⟩

end Hydration

namespace Query

theorem alike_hydrated (q : Query) (w w' : World) : (q.hydrated w).Alike (q.hydrated w') := by
  unfold hydrated
  split
  · exact ⟨rfl, rfl⟩
  · rename_i b _
    split
    · exact ⟨rfl, rfl⟩
    · obtain ⟨hresult, hsource⟩ := Hydration.hydrate_congr (q.keptRows.map Cells.ofRow) b.source
        b.column w w'
      dsimp only
      rw [hresult, hsource]
      split
      · exact ⟨rfl, rfl⟩
      · exact ⟨rfl, rfl⟩

private theorem reportRun_congr (statement : Value) (rows : Int) (seconds : Float) (f : Followup)
    (w w' : World) :
    (reportRun statement rows seconds f w).1 = (reportRun statement rows seconds f w').1 := by
  unfold reportRun
  split
  · rfl
  · dsimp only
    split <;> rfl

/-- What follows the main statement depends on what is said to the request for statistics. -/
private theorem alike_conclude {c : Collaborators} (q : Query) (statement : Value)
    (wasAnswered : Bool) (seconds : Float) {w w' : World}
    (hask : c.connection.reply w.sent (.str metaStatement) =
      c.connection.reply w'.sent (.str metaStatement)) :
    (conclude c q statement wasAnswered seconds w).Alike
      (conclude c q statement wasAnswered seconds w') := by
  unfold conclude
  rw [askStatistics_eq, askStatistics_eq, hask]
  cases Followup.ofReply (c.connection.reply w'.sent (.str metaStatement)) with
  | error f => exact ⟨rfl, rfl⟩
  | ok followup =>
    dsimp only
    have hreport := reportRun_congr statement (keptCount { q with metadata := followup.metadata })
      seconds followup (c.connection.execute (.str metaStatement) w).2
      (c.connection.execute (.str metaStatement) w').2
    rcases hfirst : reportRun statement (keptCount { q with metadata := followup.metadata })
      seconds followup (c.connection.execute (.str metaStatement) w).2 with ⟨report, u⟩
    rcases hsecond : reportRun statement (keptCount { q with metadata := followup.metadata })
      seconds followup (c.connection.execute (.str metaStatement) w').2 with ⟨report', u'⟩
    rw [hfirst, hsecond] at hreport
    obtain rfl : report = report' := hreport
    cases report with
    | error f => exact ⟨rfl, rfl⟩
    | ok _ =>
      obtain ⟨hresult, hquery⟩ := alike_hydrated { q with metadata := followup.metadata } u u'
      dsimp only
      rw [hresult, hquery]
      split
      · exact ⟨rfl, rfl⟩
      · exact ⟨rfl, rfl⟩

end Query

/-! ### The main statement -/

namespace Throttler

variable {c : Connection} {statement : Value}

/-- A throttler does not care for the world. -/
private theorem hold_congr (t : Throttler)
    (hreply : ∀ before before', c.reply before statement = c.reply before' statement)
    (w w' : World) : (t.hold c statement w).1 = (t.hold c statement w').1 := by
  have hexecute (u u' : World) : (c.execute statement u).1 = (c.execute statement u').1 := by
    rw [c.execute_fst, c.execute_fst]
    exact hreply _ _
  unfold hold leave
  dsimp only
  cases t.entryFailure with
  | some f => rfl
  | none =>
    have hfst := hexecute (w.emit .throttleEntered) (w'.emit .throttleEntered)
    rcases hfirst : c.execute statement (w.emit .throttleEntered) with ⟨reply, u⟩
    rcases hsecond : c.execute statement (w'.emit .throttleEntered) with ⟨reply', u'⟩
    rw [hfirst, hsecond] at hfst
    obtain rfl : reply = reply' := hfst
    cases reply with
    | ok r =>
      dsimp only
      split <;> rfl
    | error f =>
      dsimp only
      split
      · rfl
      · split
        · exact hexecute _ _
        · rfl

/-- A throttler that can be entered lets the statement be sent, once or twice. -/
theorem sent_hold {t : Throttler} (hentry : t.entryFailure = none) (c : Connection)
    (statement : Value) (w : World) :
    ∃ before, w.sent <+: before ∧ (t.hold c statement w).2.sent = before ++ [statement] := by
  have hexecute (u : World) (hu : w.sent <+: u.sent) :
      ∃ before, w.sent <+: before ∧ (c.execute statement u).2.sent = before ++ [statement] :=
    ⟨u.sent, hu, c.sent_execute statement u⟩
  unfold hold leave
  rw [hentry]
  dsimp only
  obtain ⟨before, hbefore, hsent⟩ := hexecute (w.emit .throttleEntered) List.prefix_rfl
  rcases hfirst : c.execute statement (w.emit .throttleEntered) with ⟨f | r, u⟩
  · rw [hfirst] at hsent
    have hlonger : w.sent <+: u.sent := by
      have hsent : u.sent = before ++ [statement] := hsent
      rw [hsent]
      exact hbefore.trans (List.prefix_append ..)
    dsimp only
    split
    · exact ⟨before, hbefore, hsent⟩
    · split
      · exact hexecute _ hlonger
      · exact ⟨before, hbefore, hsent⟩
  · rw [hfirst] at hsent
    dsimp only
    split
    · exact ⟨before, hbefore, hsent⟩
    · exact ⟨before, hbefore, hsent⟩

end Throttler

namespace Query

variable {c : Collaborators} {statement : Value}

/-- How a main statement ends does not depend on the world. -/
theorem runMain_congr (hsteady : ∀ f ∈ c.throttling, Throttling.Steady f)
    (hreply : ∀ before before', c.connection.reply before statement =
      c.connection.reply before' statement) (q : Query) (w w' : World) :
    (q.runMain c statement w).1 = (q.runMain c statement w').1 := by
  have hplain (u u' : World) : (settle statement (c.connection.execute statement u)).1 =
      (settle statement (c.connection.execute statement u')).1 := by
    rw [settle_fst, settle_fst, c.connection.execute_fst, c.connection.execute_fst, hreply]
  unfold runMain
  cases hthrottling : c.throttling with
  | none => exact hplain w w'
  | some throttling =>
    have hsame := hsteady throttling (by simp [hthrottling]) w.throttlings w'.throttlings
    dsimp only
    split
    · rfl
    · rename_i reading _
      rw [hsame]
      split
      · rfl
      · exact hplain _ _
      · rw [settle_fst, settle_fst, Throttler.hold_congr _ hreply]

/-- Unless an execution is over, its main statement is what was sent last. -/
theorem sent_runMain (hhonest : ∀ f ∈ c.throttling, Throttling.Honest f) (statement : Value)
    (q : Query) (w : World) :
    (∃ f, (q.runMain c statement w).1 = .failed f) ∨
      ∃ before, (q.runMain c statement w).2.sent = before ++ [statement] := by
  have hplain (u : World) : ∃ before,
      (settle statement (c.connection.execute statement u)).2.sent = before ++ [statement] :=
    ⟨_, (settle_quiet statement _).sent.trans (c.connection.sent_execute statement u)⟩
  unfold runMain
  cases hthrottling : c.throttling with
  | none => exact .inr (hplain w)
  | some throttling =>
    dsimp only
    split
    · exact .inl ⟨_, rfl⟩
    · rename_i reading _
      split
      · exact .inl ⟨_, rfl⟩
      · exact .inr (hplain _)
      · rename_i t ht
        cases hentry : t.entryFailure with
        | none =>
          obtain ⟨before, -, hsent⟩ := Throttler.sent_hold hentry c.connection statement
            ({ w with throttlings := w.throttlings + 1 }.emit
              (.throttlerAsked q.clauses.indexes reading))
          exact .inr ⟨before, (settle_quiet statement _).sent.trans hsent⟩
        | some f =>
          -- Nothing was sent, and the failure is not taken for one of the engine.
          have hother := hhonest throttling (by simp [hthrottling]) _ _ _ t ht f hentry
          refine .inl ⟨f, ?_⟩
          rw [settle_fst, Throttler.hold, hentry]
          exact if_neg (by simp [hother])

/-! ### Executions -/

variable {given : List Value}

/-- An attempt to run a statement has one outcome, whatever was sent before. -/
theorem alike_attempt (hengine : c.connection.engine.ByText given)
    (hsteady : ∀ f ∈ c.throttling, Throttling.Steady f)
    (hhonest : ∀ f ∈ c.throttling, Throttling.Honest f) (q : Query)
    (hmain : statement.asText? ≠ some metaStatement ∨ statement ∈ given) (w w' : World) :
    (q.attempt c statement w).Alike (q.attempt c statement w') := by
  have hreply (before before' : List Value) : c.connection.reply before statement =
      c.connection.reply before' statement :=
    Connection.reply_congr (hengine.main statement before before' hmain)
  have hsame := runMain_congr hsteady hreply q.started w w'
  have hlast := sent_runMain hhonest statement q.started w
  have hlast' := sent_runMain hhonest statement q.started w'
  rcases hfirst : q.started.runMain c statement w with ⟨outcome, u⟩
  rcases hsecond : q.started.runMain c statement w' with ⟨outcome', u'⟩
  rw [hfirst, hsecond] at hsame
  rw [hfirst] at hlast
  rw [hsecond] at hlast'
  obtain rfl : outcome = outcome' := hsame
  -- Both executions ask for the statistics of their own statement.
  have hask (hgoes : ∀ f, outcome ≠ .failed f) :
      c.connection.reply u.sent (.str metaStatement) =
        c.connection.reply u'.sent (.str metaStatement) := by
    rcases hlast with ⟨f, hf⟩ | ⟨before, hbefore⟩
    · exact absurd hf (hgoes f)
    rcases hlast' with ⟨f, hf⟩ | ⟨before', hbefore'⟩
    · exact absurd hf (hgoes f)
    have hstatistics := hengine.statistics_congr hmain before before'
    dsimp only at hbefore hbefore'
    rw [hbefore, hbefore']
    exact Connection.reply_congr hstatistics
  unfold attempt
  rw [hfirst, hsecond]
  cases outcome with
  | failed f => exact ⟨rfl, rfl⟩
  | absorbed f => exact alike_conclude _ statement false 0 (hask fun _ h => nomatch h)
  | answered r => exact alike_conclude _ statement true r.seconds (hask fun _ h => nomatch h)

/-- The statement of a dirty query is its own, or one that clauses make up. -/
private theorem main_of_dirty {q : Query} (hgiven : ∀ v ∈ q.raw, v ∈ given)
    (hdirty : q.state = .dirty) (hstatement : q.statement.1 = .ok statement) :
    statement.asText? ≠ some metaStatement ∨ statement ∈ given := by
  rw [statement_of_dirty hdirty, currentStatement] at hstatement
  cases hraw : q.raw with
  | some s =>
    rw [hraw] at hstatement
    obtain rfl : s = statement := Except.ok.inj hstatement
    exact .inr (hgiven s (by simp [hraw]))
  | none =>
    rw [hraw] at hstatement
    obtain ⟨text, htext, rfl⟩ := Except.map_eq_ok.1 hstatement
    exact .inl fun h => Clauses.compile_ne_metaStatement htext (Option.some.inj h)

theorem alike_run (hengine : c.connection.engine.ByText given)
    (hsteady : ∀ f ∈ c.throttling, Throttling.Steady f)
    (hhonest : ∀ f ∈ c.throttling, Throttling.Honest f) {q : Query}
    (hgiven : ∀ v ∈ q.raw, v ∈ given) (w w' : World) : (q.run c w).Alike (q.run c w') := by
  unfold run
  split
  · exact ⟨rfl, rfl⟩
  · rename_i hdirty
    have hmain {statement : Value} (h : q.statement.1 = .ok statement) :=
      main_of_dirty hgiven hdirty h
    rcases hs : q.statement with ⟨f | statement, q₁⟩
    · exact ⟨rfl, rfl⟩
    · exact alike_attempt hengine hsteady hhonest q₁ (hmain (congrArg Prod.fst hs)) w w'

/-! ### Calls -/

/-- What a change does to a query depends on the aliases only if it draws one. -/
private theorem apply_congr (q : Query) {m : Mutation} (hm : ∀ items, m ≠ .alternatives items)
    (aliases aliases' : AliasCounter) :
    (m.apply q aliases).query = (m.apply q aliases').query ∧
      (m.apply q aliases).refusal = (m.apply q aliases').refusal := by
  have hentry {α : Type} (kept : Query) (entry : Except Failure α) (put : α → Query) :
      (Edit.ofEntry kept aliases entry put).query = (Edit.ofEntry kept aliases' entry put).query ∧
        (Edit.ofEntry kept aliases entry put).refusal =
          (Edit.ofEntry kept aliases' entry put).refusal := by
    cases entry with
    | ok a => exact ⟨rfl, rfl⟩
    | error f => exact ⟨rfl, rfl⟩
  cases m with
  | alternatives items => exact absurd rfl (hm items)
  | entities source column =>
    unfold Mutation.apply Mutation.applyEntities
    dsimp only
    split
    · exact ⟨rfl, rfl⟩
    · exact ⟨rfl, rfl⟩
  | filter p column operator value => exact hentry _ _ _
  | rawFilter expression => exact hentry _ _ _
  | fullText p column text safe => exact hentry _ _ _
  | rawFullText p combinator text => exact hentry _ _ _
  | groupOrder p column direction => exact hentry _ _ _
  | having p column operator value => exact hentry _ _ _
  | order p column direction => exact hentry _ _ _
  | option p name value => exact hentry _ _ _
  | _ => exact ⟨rfl, rfl⟩

private theorem alike_change (q : Query) {m : Mutation} (hm : ∀ items, m ≠ .alternatives items)
    (w w' : World) : (q.change m w).Alike (q.change m w') := by
  obtain ⟨hquery, hrefusal⟩ := apply_congr q hm w.aliases w'.aliases
  unfold change
  dsimp only
  rw [hquery, hrefusal]
  split
  · exact ⟨rfl, rfl⟩
  · exact ⟨rfl, rfl⟩

private theorem alike_reading (q : Query) (w w' : World) (answer : Except Failure Returned) :
    (q.reading w answer).Alike (q.reading w' answer) := by
  unfold reading
  split
  · exact ⟨rfl, rfl⟩
  · exact ⟨rfl, rfl⟩

/-- A call that draws no alias has one outcome, whatever the other users of the world have done. -/
theorem alike_call (hengine : c.connection.engine.ByText given)
    (hsteady : ∀ f ∈ c.throttling, Throttling.Steady f)
    (hhonest : ∀ f ∈ c.throttling, Throttling.Honest f) {q : Query}
    (hgiven : ∀ v ∈ q.raw, v ∈ given) {call : Call}
    (hcall : ∀ items, call ≠ .change (.alternatives items)) (w w' : World) :
    (q.call c w call).Alike (q.call c w' call) := by
  have hexecute : (q.execute c w).Alike (q.execute c w') := by
    obtain ⟨hresult, hquery⟩ := alike_run hengine hsteady hhonest hgiven
      (w.reportAny (Span.warning? spanName q.spanAttributes))
      (w'.reportAny (Span.warning? spanName q.spanAttributes))
    exact ⟨hresult, hquery⟩
  have hresults : (q.resultsNow c w).Alike (q.resultsNow c w') := by
    unfold resultsNow
    split
    · exact ⟨rfl, rfl⟩
    · dsimp only
      rw [hexecute.result, hexecute.query]
      exact ⟨rfl, rfl⟩
  cases call with
  | change m => exact alike_change q (fun items hm => hcall items (by rw [hm])) w w'
  | execute => exact ⟨congrArg (Except.map _) hexecute.result, hexecute.query⟩
  | results => exact ⟨congrArg (Except.map _) hresults.result, hresults.query⟩
  | table =>
    unfold Query.call tableNow
    dsimp only
    split
    · exact ⟨rfl, rfl⟩
    · exact ⟨congrArg (Except.map _) hresults.result, hresults.query⟩
  | clear => exact ⟨rfl, rfl⟩
  | _ =>
    unfold Query.call
    exact alike_reading _ w w' _

end Query

end SearchClient
