import SearchClient.Proofs.Query.Reachable

/-!
# The cache of a clean query

Whatever is called on a query, and whatever its connection, its throttler and its source of
entities answer at each call: while the query is clean, all that it has kept comes from one and the
same execution, the last one that sent anything, and the statement of that execution is the one the
clauses make up now.

Only two things can happen to a clean query. A call that is quiet leaves it as it is or makes it
dirty; a call that goes through an execution finds it clean and sends nothing. A dirty query becomes
clean in no other way than at the end of an execution that the engine answered, and then everything
it keeps has just been written.

## Key results

- `coherent_attempt`: what an execution has kept when it leaves its query clean
- `Used.coherent_make`: one call keeps the cache coherent
- `Used.coherent_of_clean`: so do any number of calls
-/

namespace SearchClient

namespace Query

/-- The statement of a query by its clauses as they are, whatever it has kept. -/
def currentStatement (q : Query) : Except Failure Value :=
  match q.raw with
  | some statement => .ok statement
  | none => (q.clauses.compile q.maxMatches).map .str

/-! ### Asking for the statement -/

theorem statement_of_raw {q : Query} {s : Value} (hraw : q.raw = some s) :
    q.statement = (.ok s, q) := by
  unfold statement
  rw [hraw]

private theorem statement_of_kept {q : Query} {text : String} (hraw : q.raw = none)
    (hclean : q.state = .clean) (hkept : q.compiled = some text) :
    q.statement = (.ok (.str text), q) := by
  unfold statement
  rw [hraw, hclean, hkept]

theorem statement_of_compile {q : Query} (hraw : q.raw = none)
    (hstale : q.state = .dirty ∨ q.compiled = none) :
    q.statement =
      match q.clauses.compile q.maxMatches with
      | .ok text => (.ok (.str text), { q with compiled := some text })
      | .error f => (.error f, q) := by
  unfold statement
  rw [hraw]
  dsimp only
  split
  · rename_i hclean hkept
    rcases hstale with hdirty | hnone
    · exact absurd (hclean.symm.trans hdirty) (by decide)
    · exact nomatch hkept.symm.trans hnone
  · cases q.clauses.compile q.maxMatches <;> rfl

private theorem statement_of_keeping {q : Query} {text : String} (hraw : q.raw = none)
    (hcompile : q.clauses.compile q.maxMatches = .ok text) :
    { q with compiled := some text }.statement.1 = .ok (.str text) := by
  unfold statement
  dsimp only
  rw [hraw]
  cases q.state with
  | clean => rfl
  | dirty =>
    dsimp only
    rw [hcompile]

/-- A dirty query does not look at the statement that it has kept. -/
theorem statement_of_dirty {q : Query} (h : q.state = .dirty) :
    q.statement.1 = q.currentStatement := by
  unfold currentStatement
  cases hraw : q.raw with
  | some s => rw [statement_of_raw hraw]
  | none =>
    rw [statement_of_compile hraw (.inl h)]
    cases q.clauses.compile q.maxMatches <;> rfl

/-- Once a dirty query was asked for its statement, that statement is kept, and a clean query with
what was kept gives it again. -/
theorem statement_of_clean {q q' : Query} {statement : Value} (hq : q.state = .dirty)
    (h : q.statement.1 = .ok statement) (hraw : q'.raw = q.raw) (hclean : q'.state = .clean)
    (hcompiled : q'.compiled = q.statement.2.compiled) : q'.statement.1 = .ok statement := by
  cases hs : q.raw with
  | some s =>
    rw [statement_of_raw hs] at h
    rw [statement_of_raw (hraw.trans hs)]
    exact h
  | none =>
    rw [statement_of_compile hs (.inl hq)] at h hcompiled
    cases hcompile : q.clauses.compile q.maxMatches with
    | error f =>
      rw [hcompile] at h
      exact nomatch h
    | ok text =>
      rw [hcompile] at h hcompiled
      rw [statement_of_kept (hraw.trans hs) hclean hcompiled]
      exact h

/-- Asking twice gives the same statement. -/
theorem statement_statement (q : Query) : q.statement.2.statement.1 = q.statement.1 := by
  cases hraw : q.raw with
  | some s => rw [statement_of_raw hraw, statement_of_raw hraw]
  | none =>
    by_cases hkept : q.state = .clean ∧ ∃ text, q.compiled = some text
    · obtain ⟨hclean, text, htext⟩ := hkept
      rw [statement_of_kept hraw hclean htext, statement_of_kept hraw hclean htext]
    · have hstale : q.state = .dirty ∨ q.compiled = none := by
        cases hstate : q.state with
        | dirty => exact .inl rfl
        | clean =>
          cases hcompiled : q.compiled with
          | none => exact .inr rfl
          | some text => exact absurd ⟨hstate, text, hcompiled⟩ hkept
      rw [statement_of_compile hraw hstale]
      cases hcompile : q.clauses.compile q.maxMatches with
      | error f => rw [statement_of_compile hraw hstale, hcompile]
      | ok text => exact statement_of_keeping hraw hcompile

end Query

/-! ### Executions and caches -/

/-- A statement that was sent and answered, and what the connection had been sent before. -/
structure Execution where
  connection : Connection
  before : List Value
  statement : Value
  answer : StatementResult

namespace Execution

/-- All that the connection had been sent when the execution ended. -/
def sent (e : Execution) : List Value := e.before ++ [e.statement, .str metaStatement]

/-- What a query has kept is what an execution gave, and its clauses still make up the statement of
that execution. -/
structure Coherent (e : Execution) (q : Query) : Prop where
  answered : e.connection.reply e.before e.statement = .ok e.answer
  statement : q.statement.1 = .ok e.statement
  current : q.currentStatement = .ok e.statement
  rowCount : q.rowCount = some e.answer.rowCount
  results :
    Query.ResultsOf (if e.answer.returnsRows then e.answer.rows else []) q.binding q.results
  metadata : ∃ followup,
    Query.Followup.ofReply
        (e.connection.reply (e.before ++ [e.statement]) (.str metaStatement)) = .ok followup ∧
      q.metadata = followup.metadata
  lastError : q.lastError = none

/-- Asking for the statement leaves the cache coherent. -/
theorem Coherent.statement_snd {e : Execution} {q : Query} (h : e.Coherent q) :
    e.Coherent q.statement.2 := by
  have hstatement : q.statement.2.statement.1 = .ok e.statement :=
    (Query.statement_statement q).trans h.statement
  rcases q.statement_snd with hq | ⟨s, hq⟩
  · rwa [hq]
  · rw [hq] at hstatement ⊢
    exact ⟨h.answered, hstatement, h.current, h.rowCount, h.results, h.metadata, h.lastError⟩

end Execution

namespace Query

theorem Kept.currentStatement_eq {q q' : Query} (h : q.Kept q') :
    q'.currentStatement = q.currentStatement := by
  unfold currentStatement
  rw [h.raw, h.clauses, h.maxMatches]

private theorem state_statement_snd (q : Query) : q.statement.2.state = q.state := by
  rcases q.statement_snd with h | ⟨s, h⟩
  · rw [h]
  · rw [h]

private theorem coherent_concluded {c : Collaborators} {q : Query} {statement : Value}
    (hq : q.state = .dirty) (hstatement : q.statement.1 = .ok statement) {before : List Value}
    {r : StatementResult} (hreply : c.connection.reply before statement = .ok r) {w : World}
    (hsent : w.sent = before ++ [statement]) {o : Outcome Int}
    (h : Concluded c (q.statement.2.started.answered r) statement true r.seconds w o)
    (hkept : q.Kept o.query) (hclean : o.query.state = .clean) :
    Execution.Coherent ⟨c.connection, before, statement, r⟩ o.query := by
  have hdirty : q.statement.2.state = .dirty := (state_statement_snd q).trans hq
  obtain ⟨-, followup, w', hfollowup, hload, hquery⟩ := h.clean hdirty hclean
  rw [hsent] at hfollowup
  have hcurrent : q.currentStatement = .ok statement :=
    (statement_of_dirty hq).symm.trans hstatement
  have hrows : ((q.statement.2.started.answered r).informed followup.metadata).results =
      some (.rows (if r.returnsRows then r.rows else [])) := by
    unfold informed answered started
    dsimp only
    split <;> rfl
  have hresults := hydrated_ok hrows hload
  -- Behind the answer only the binding and the results are touched, so the rest is what was put
  -- there by the answer and by the statistics.
  obtain ⟨binding, results, hloaded⟩ :=
    hydrated_query ((q.statement.2.started.answered r).informed followup.metadata) w'
  rw [hquery] at hkept hclean ⊢
  exact
    { answered := hreply
      statement := statement_of_clean hq hstatement hkept.raw hclean (by rw [hloaded]; rfl)
      current := hkept.currentStatement_eq.trans hcurrent
      rowCount := by rw [hloaded]; rfl
      results := hresults
      metadata := ⟨followup, hfollowup, by rw [hloaded]; rfl⟩
      lastError := by rw [hloaded]; rfl }

/-- When an execution leaves its query clean, the query has kept what that execution gave. -/
theorem coherent_attempt {c : Collaborators} {q : Query} {w : World} {statement : Value}
    (hq : q.state = .dirty) (hstatement : q.statement.1 = .ok statement)
    (hclean : (q.statement.2.attempt c statement w).query.state = .clean) :
    ∃ e : Execution, e.connection = c.connection ∧ w.sent <+: e.before ∧
      (q.statement.2.attempt c statement w).world.sent = e.sent ∧
      e.Coherent (q.statement.2.attempt c statement w).query := by
  have hdirty : q.statement.2.state = .dirty := (state_statement_snd q).trans hq
  have hkept := (kept_statement q).trans (kept_attempt c q.statement.2 statement w)
  revert hclean hkept
  unfold attempt
  split
  · intro hclean
    exact absurd (hdirty.symm.trans hclean) (by decide)
  · rename_i f w₁ hmain
    intro hclean
    -- An absorbed error may get as far as its statistics, but the query stays dirty.
    have hconcluded := concluded_conclude c (q.statement.2.started.absorbing f) statement false 0 w₁
    exact absurd (hconcluded.clean hdirty hclean).1 (by decide)
  · rename_i r w₁ hmain
    intro hclean hkept
    obtain ⟨before, hbefore, hsent, hreply⟩ := runMain_answered hmain
    have hconcluded := concluded_conclude c (q.statement.2.started.answered r) statement true
      r.seconds w₁
    have hall := hconcluded.sent
    rw [hsent, List.append_assoc] at hall
    exact ⟨⟨c.connection, before, statement, r⟩, rfl, hbefore, hall,
      coherent_concluded hq hstatement hreply hsent hconcluded hkept hclean⟩

/-- A query that is clean after a call was clean and nothing was sent, or it has kept what the
execution of that call gave. -/
theorem Called.clean {c : Collaborators} {q q' : Query} {w w' : World} {call : Call}
    (h : Called c q w call q' w') (hclean : q'.state = .clean) :
    (q.state = .clean ∧ w'.sent = w.sent ∧ (q' = q ∨ q' = q.statement.2)) ∨
      ∃ e : Execution, e.connection = c.connection ∧ w.sent <+: e.before ∧ w'.sent = e.sent ∧
        e.Coherent q' := by
  cases h with
  | quiet hruns hquiet hquery =>
    left
    rcases hquery with rfl | rfl | hdirty
    · exact ⟨hclean, hquiet.sent, .inl rfl⟩
    · exact ⟨(state_statement_snd q).symm.trans hclean, hquiet.sent, .inr rfl⟩
    · exact absurd (hdirty.symm.trans hclean) (by decide)
  | @executed w₁ _ hruns hbefore hafter =>
    right
    -- Only a dirty query is run, and it stays dirty if it has no statement.
    have hq := dirty_of_runs hruns
    rw [← hbefore.sent, hafter.sent]
    unfold run at hclean ⊢
    rw [hq] at hclean ⊢
    dsimp only at hclean ⊢
    rcases hs : q.statement with ⟨f | statement, q₁⟩
    · rw [hs] at hclean
      have hstate := state_statement_snd q
      rw [hs, hq] at hstate
      exact absurd (hstate.symm.trans hclean) (by decide)
    · obtain rfl : q.statement.2 = q₁ := congrArg Prod.snd hs
      rw [hs] at hclean
      exact coherent_attempt hq (congrArg Prod.fst hs) hclean

end Query

/-! ### Calls -/

/-- A call, and what it is made with and in. -/
structure Made where
  collaborators : Collaborators
  world : World
  call : Call

/-- A query in use, and its last execution that sent anything: the connection, and all that it had
been sent when that execution ended. -/
structure Used where
  query : Query
  last : Option (Connection × List Value) := none

namespace Used

/-- Makes a call. -/
def make (u : Used) (m : Made) : Used :=
  let o := u.query.call m.collaborators m.world m.call
  { query := o.query
    last :=
      if o.world.sent.length = m.world.sent.length then u.last
      else some (m.collaborators.connection, o.world.sent) }

/-- If the query is clean, its cache is that of its last execution. -/
def Coherent (u : Used) : Prop :=
  u.query.state = .clean →
    ∃ e : Execution, u.last = some (e.connection, e.sent) ∧ e.Coherent u.query

/-- One call keeps the cache coherent, whatever its collaborators do. -/
theorem coherent_make {u : Used} (h : u.Coherent) (m : Made) : (u.make m).Coherent := by
  intro hclean
  rcases (Query.called_call m.collaborators u.query m.world m.call).clean hclean with
    ⟨hwas, hsent, hquery⟩ | ⟨e, hconnection, hbefore, hsent, hcoherent⟩
  · obtain ⟨e, hlast, hcoherent⟩ := h hwas
    refine ⟨e, ?_, ?_⟩
    · unfold make
      dsimp only
      rw [if_pos (congrArg List.length hsent), hlast]
    · unfold make
      dsimp only
      rcases hquery with hsame | hasked
      · rw [hsame]
        exact hcoherent
      · rw [hasked]
        exact hcoherent.statement_snd
  · refine ⟨e, ?_, hcoherent⟩
    -- An execution always sends something, so this is the last one now.
    have hlonger : e.sent.length ≠ m.world.sent.length := by
      have hle := hbefore.length_le
      simp only [Execution.sent, List.length_append, List.length_cons, List.length_nil]
      omega
    unfold make
    dsimp only
    rw [hsent, if_neg hlonger, hconnection]

/-- So do any number of calls. -/
theorem coherent_foldl {u : Used} (h : u.Coherent) (made : List Made) :
    (made.foldl make u).Coherent := by
  induction made generalizing u with
  | nil => exact h
  | cons m rest ih => exact ih (coherent_make h m)

/-- A query that starts dirty, as new queries and copies do, is clean after some calls only if all
that it has kept is what its last execution gave and what its clauses ask for. -/
theorem coherent_of_clean {q : Query} (hq : q.state = .dirty) (made : List Made)
    (hclean : (made.foldl make { query := q }).query.state = .clean) :
    ∃ e : Execution, (made.foldl make { query := q }).last = some (e.connection, e.sent) ∧
      e.Coherent (made.foldl make { query := q }).query := by
  have hstart : Coherent { query := q } := fun h => absurd (hq.symm.trans h) (by decide)
  exact coherent_foldl hstart made hclean

/-- A query that is run, changed and run again, and then read, on a connection that others use. -/
theorem coherent_of_clean_after_rerun :
    let rows (before : List Value) : Answer :=
      { columns := [.str "id"], rows := before.map fun _ => [.int 7], reported := .null }
    let c : Collaborators := { connection := { engine := fun before _ => .answer (rows before) } }
    let q := Query.create .null (.int 1000)
    let made : List Made :=
      [⟨c, {}, .change (.select [.str "id"])⟩, ⟨c, {}, .change (.indexes [.str "rt"])⟩,
        ⟨c, {}, .execute⟩, ⟨c, {}, .change (.limit (.int 5))⟩,
        ⟨c, { sent := [.str "SELECT 1"] }, .results⟩, ⟨c, {}, .statement⟩]
    (q.state = .dirty ∧ (made.foldl make { query := q }).query.state = .clean) ∧
      ∃ e : Execution, (made.foldl make { query := q }).last = some (e.connection, e.sent) ∧
        e.Coherent (made.foldl make { query := q }).query := by
  intro rows c q made
  have hclean : (made.foldl make { query := q }).query.state = .clean := by decide +kernel
  exact ⟨⟨rfl, hclean⟩, coherent_of_clean rfl made hclean⟩

end Used

end SearchClient
