import SearchClient.Proofs.Query.Reachable

/-!
# What a call sends and reports

A call sends statements and reports them to the query log only if it goes through an execution, and
an execution does so only if the query has a statement. What is sent and reported then depends on
what the connection says to the main statement and to the request for the statistics, and on
nothing else, as long as no throttler interferes.

## Key results

- `Query.trace_attempt`: what one attempt to run a statement sends and reports
- `Query.trace_call`: what one call sends and reports
-/

namespace SearchClient

/-- An attempt to run a statement, with what the connection says to it and to the request for the
statistics behind it. -/
structure Attempt where
  statement : Value
  main : Except Failure StatementResult
  statistics : Except Failure StatementResult

namespace Attempt

/-- The statement as the query log shows it. -/
def text (a : Attempt) : String := a.statement.asText?.getD ""

/-- Statements that are sent. Only a failure that is no error of execution keeps the statistics from
being asked for. -/
def sent (a : Attempt) : List Value :=
  match MainOutcome.ofReply a.main with
  | .failed _ => [a.statement]
  | _ => [a.statement, .str metaStatement]

/-- Entries of the query log. A statement is reported when its statistics are there, or when there
are none because of an error of execution; such an error counts as no rows. -/
def logged (a : Attempt) : List LoggedQuery :=
  match MainOutcome.ofReply a.main, Query.Followup.ofReply a.statistics with
  | .answered r, .ok f =>
    [{ query := a.text, rows := max r.rowCount 0, seconds := r.seconds },
     { query := metaStatement, rows := f.rows, seconds := f.seconds }]
  | .absorbed _, .ok f =>
    [{ query := a.text }, { query := metaStatement, rows := f.rows, seconds := f.seconds }]
  | _, _ => []

end Attempt

/-- What is given as the statement of a query is a text, or nothing. -/
def Value.IsStatement (v : Value) : Prop := v.isNull = true ∨ ∃ text, v.asText? = some text

/-- A statement that the call brings is a text, or nothing. -/
def Call.Texted : Call → Prop
  | .change (.statement s) => s.IsStatement
  | _ => True

namespace Query

/-- A statement of its own, if the query has one, is a text. -/
def Texted (q : Query) : Prop := ∀ v ∈ q.raw, ∃ text, v.asText? = some text

theorem Texted.of_raw_eq {q q' : Query} (h : q.Texted) (hraw : q'.raw = q.raw) : q'.Texted := by
  unfold Texted
  rw [hraw]
  exact h

private theorem texted_of_isStatement {q : Query} {s : Value} (hs : s.IsStatement)
    (hraw : q.raw = if s.isNull then none else some s) : q.Texted := by
  intro v hv
  rw [hraw] at hv
  rcases hs with hnull | htext
  · rw [if_pos hnull] at hv
    exact nomatch hv
  · split at hv
    · exact nomatch hv
    · obtain rfl := Option.some.inj hv
      exact htext

theorem texted_create {statement : Value} (h : statement.IsStatement) (maxMatches : Value) :
    (create statement maxMatches).Texted :=
  texted_of_isStatement h rfl

/-- A call that brings a text keeps the statement a text. -/
theorem Texted.call {q : Query} (h : q.Texted) (c : Collaborators) (w : World) {call : Call}
    (hcall : call.Texted) : (q.call c w call).query.Texted := by
  rcases query_call c q w call with ⟨m, rfl, hquery⟩ | hkept
  · rw [hquery]
    rcases m.apply_query q w.aliases with hsame | ⟨clauses, binding, hredone⟩ | ⟨s, rfl, hstated⟩
    · rwa [hsame]
    · rw [hredone]
      exact h.of_raw_eq rfl
    · rw [hstated]
      exact texted_of_isStatement hcall rfl
  · exact h.of_raw_eq hkept.raw

/-- The statement of such a query is a text. -/
theorem Texted.statement {q : Query} (h : q.Texted) {statement : Value}
    (hstatement : q.statement.1 = .ok statement) : ∃ text, statement.asText? = some text := by
  unfold Query.statement at hstatement
  split at hstatement
  · rename_i s hraw
    obtain rfl := Except.ok.inj hstatement
    exact h s hraw
  · split at hstatement
    · obtain rfl := Except.ok.inj hstatement
      exact ⟨_, rfl⟩
    · split at hstatement
      · obtain rfl := Except.ok.inj hstatement
        exact ⟨_, rfl⟩
      · exact nomatch hstatement

private theorem isReading_of_asText? (q : Query) {statement : Value} {text : String}
    (h : statement.asText? = some text) : ∃ b, q.isReading statement = .ok b := by
  unfold isReading
  cases q.raw with
  | none => exact ⟨true, rfl⟩
  | some s =>
    dsimp only
    rw [h]
    exact ⟨_, rfl⟩

/-! ### Attempts -/

private theorem max_rows_ofReply {reply : Except Failure StatementResult} {f : Followup}
    (h : Followup.ofReply reply = .ok f) : max f.rows 0 = f.rows := by
  have hnonneg : 0 ≤ f.rows := by
    cases reply with
    | ok r =>
      obtain rfl := Except.ok.inj h
      exact Int.natCast_nonneg _
    | error failure =>
      unfold Followup.ofReply at h
      dsimp only at h
      split at h
      · obtain rfl := Except.ok.inj h
        exact Int.le_refl 0
      · exact nomatch h
  omega

private theorem trace_concluded {c : Collaborators} {q : Query} {statement : Value} {text : String}
    (htext : statement.asText? = some text) {wasAnswered : Bool} {seconds : Float} {w w₁ : World}
    (hkeeps : w.log.keepsHistory = true) (hsent : w₁.sent = w.sent ++ [statement])
    (hlog : w₁.log = w.log) {o : Outcome Int}
    (h : Concluded c q statement wasAnswered seconds w₁ o) :
    o.world.sent = w.sent ++ [statement, .str metaStatement] ∧
      o.world.log.keepsHistory = true ∧
      o.world.log.history = w.log.history ++
        match Followup.ofReply
          (c.connection.reply (w.sent ++ [statement]) (.str metaStatement)) with
        | .error _ => []
        | .ok f =>
          [{ query := text, rows := max q.keptCount 0, seconds },
           { query := metaStatement, rows := f.rows, seconds := f.seconds }] := by
  rw [h.sent, h.log htext, hsent, hlog, List.append_assoc]
  refine ⟨rfl, ?_⟩
  cases hf : Followup.ofReply
      (c.connection.reply (w.sent ++ [statement]) (.str metaStatement)) with
  | error f => exact ⟨hkeeps, (List.append_nil _).symm⟩
  | ok f =>
    dsimp only
    have hfirst : (w.log.add { query := text, rows := max q.keptCount 0, seconds }).keepsHistory =
        true := by
      rw [QueryLog.keepsHistory_add, hkeeps]
    rw [QueryLog.keepsHistory_add, QueryLog.history_add hfirst, QueryLog.history_add hkeeps,
      max_rows_ofReply hf, List.append_assoc]
    exact ⟨hfirst, rfl⟩

/-- An attempt sends and reports what the connection's answers call for. -/
theorem trace_attempt {c : Collaborators} (hc : ∀ f ∈ c.throttling, Throttling.Tame f) (q : Query)
    {statement : Value} {text : String} (htext : statement.asText? = some text) {w : World}
    (hkeeps : w.log.keepsHistory = true) {a : Attempt}
    (ha : a = ⟨statement, c.connection.reply w.sent statement,
      c.connection.reply (w.sent ++ [statement]) (.str metaStatement)⟩) :
    (q.attempt c statement w).world.sent = w.sent ++ a.sent ∧
      (q.attempt c statement w).world.log.keepsHistory = true ∧
      (q.attempt c statement w).world.log.history = w.log.history ++ a.logged := by
  obtain ⟨hmain, hsent, hlog⟩ := runMain_of_tame hc q.started
    (isReading_of_asText? q.started htext) w
  have hshown : a.text = text := by
    rw [ha, Attempt.text, htext]
    rfl
  unfold Attempt.sent Attempt.logged
  rw [hshown, ha]
  dsimp only
  -- The blocks are told apart by the same outcome as the stages of the execution.
  rw [← hmain]
  unfold attempt
  split
  · rename_i f w₁ hrun
    rw [hrun] at hsent hlog ⊢
    rw [hlog]
    exact ⟨hsent, hkeeps, (List.append_nil _).symm⟩
  · rename_i f w₁ hrun
    rw [hrun] at hsent hlog ⊢
    obtain ⟨hall, hstill, hhistory⟩ := trace_concluded htext hkeeps hsent hlog
      (concluded_conclude c (q.started.absorbing f) statement false 0 w₁)
    refine ⟨hall, hstill, hhistory.trans ?_⟩
    cases Followup.ofReply (c.connection.reply (w.sent ++ [statement]) (.str metaStatement)) <;> rfl
  · rename_i r w₁ hrun
    rw [hrun] at hsent hlog ⊢
    obtain ⟨hall, hstill, hhistory⟩ := trace_concluded htext hkeeps hsent hlog
      (concluded_conclude c (q.started.answered r) statement true r.seconds w₁)
    refine ⟨hall, hstill, hhistory.trans ?_⟩
    cases Followup.ofReply (c.connection.reply (w.sent ++ [statement]) (.str metaStatement)) <;> rfl

/-! ### Calls -/

/-- The attempt that a call makes: one if it goes through an execution and the query has a
statement, which is the one the query shows then. -/
def attempted (q : Query) (c : Connection) (before : List Value) (call : Call) : Option Attempt :=
  if q.runs call then
    match q.statement.1 with
    | .ok statement =>
      some ⟨statement, c.reply before statement,
        c.reply (before ++ [statement]) (.str metaStatement)⟩
    | .error _ => none
  else none

/-- A clean query makes no attempt. -/
theorem attempted_of_clean {q : Query} (h : q.state = .clean) (c : Connection)
    (before : List Value) (call : Call) : q.attempted c before call = none := by
  unfold attempted
  rw [if_neg]
  intro hruns
  exact absurd ((dirty_of_runs hruns).symm.trans h) (by decide)

private theorem trace_called {c : Collaborators} (hc : ∀ f ∈ c.throttling, Throttling.Tame f)
    {q q' : Query} (hq : q.Texted) {w w' : World} (hkeeps : w.log.keepsHistory = true) {call : Call}
    (h : Called c q w call q' w') :
    w'.sent = w.sent ++ (q.attempted c.connection w.sent call).toList.flatMap Attempt.sent ∧
      w'.log.keepsHistory = true ∧
      w'.log.history =
        w.log.history ++ (q.attempted c.connection w.sent call).toList.flatMap Attempt.logged := by
  unfold attempted
  cases h with
  | quiet hruns hquiet hquery =>
    rw [hruns, hquiet.sent, hquiet.log]
    exact ⟨(List.append_nil _).symm, hkeeps, (List.append_nil _).symm⟩
  | @executed w₁ _ hruns hbefore hafter =>
    -- What comes before the execution and behind it is quiet.
    rw [if_pos hruns, hafter.sent, hafter.log, ← hbefore.sent, ← hbefore.log]
    rw [← hbefore.log] at hkeeps
    unfold run
    rw [dirty_of_runs hruns]
    dsimp only
    rcases hs : q.statement with ⟨f | statement, q₁⟩
    · exact ⟨(List.append_nil _).symm, hkeeps, (List.append_nil _).symm⟩
    · obtain ⟨text, htext⟩ := hq.statement (congrArg Prod.fst hs)
      dsimp only
      rw [Option.toList_some, List.flatMap_singleton, List.flatMap_singleton]
      exact trace_attempt hc q₁ htext hkeeps rfl

/-- A call sends and reports what its attempt does, if it makes one. -/
theorem trace_call {c : Collaborators} (hc : ∀ f ∈ c.throttling, Throttling.Tame f) {q : Query}
    (hq : q.Texted) {w : World} (hkeeps : w.log.keepsHistory = true) (call : Call) :
    (q.call c w call).world.sent =
        w.sent ++ (q.attempted c.connection w.sent call).toList.flatMap Attempt.sent ∧
      (q.call c w call).world.log.keepsHistory = true ∧
      (q.call c w call).world.log.history =
        w.log.history ++ (q.attempted c.connection w.sent call).toList.flatMap Attempt.logged :=
  trace_called hc hq hkeeps (called_call c q w call)

end Query

end SearchClient
