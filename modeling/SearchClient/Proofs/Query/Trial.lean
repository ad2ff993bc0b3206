import SearchClient.Proofs.Query.Determined
import SearchClient.Proofs.Query.Reordering

/-!
# What an execution leaves behind

An execution that gets past its compilation is a trial. It may be broken off at each of its stages:
by a failure of the main statement that is not absorbed, by one of the request for the statistics,
by the query log, or while the rows are replaced by entities. What the query keeps from it (its flag,
its error, its rows and their count, its statistics) is written at different stages, and this file
says what each of them is afterwards, wherever the trial has ended.

A run is followed by its last trial and by whether the query was altered behind it. Whoever calls a
query may have changed the world in the meantime, so the worlds of a run are arbitrary.

## Key results

- `Query.left_of_trial`: what a trial leaves
- `Trial.tells_of_brought`: the statistics that a trial brings are what the engine said about it
- `Query.call_of_no_trial`: a call without a trial leaves the query, or makes it dirty
- `Tracked.invariant_follow`: what the changes of a run preserve
- `Tracked.sound_follow`: what is known about a query after any run
-/

namespace SearchClient

/-- Results that hold nothing. -/
def Results.Empty (r : Results) : Prop := r = .rows [] ∨ r = .entities []

/-! ### Trials -/

/-- The results that rows give under a binding, or why they give none. -/
def EntityBinding.results (rows : List Row) (binding : Option EntityBinding) :
    Except Failure Results :=
  match binding with
  | none => .ok (.rows rows)
  | some b =>
    if b.column.isNull then .ok (.rows rows)
    else (Hydration.hydrate (rows.map Cells.ofRow) b.source b.column {}).result.map .entities

/-- A binding whose source was asked some number of times. -/
def EntityBinding.after (asked : Nat) (b : EntityBinding) : EntityBinding :=
  { b with source := { b.source with asked } }

/-- A binding whose source was asked as often as it was. -/
private theorem exists_after (binding : Option EntityBinding) :
    ∃ asked, binding = binding.map (EntityBinding.after asked) :=
  ⟨binding.elim 0 fun b => b.source.asked, by cases binding <;> rfl⟩

/-- An execution that has got past its compilation. -/
structure Trial where
  connection : Connection
  statement : Value
  /-- Where the entities come from, if rows are replaced by entities. -/
  binding : Option EntityBinding
  /-- The statistics that the query had before. -/
  known : Metadata
  /-- What the connection had been sent before. -/
  before : List Value
  /-- How the main statement ended. -/
  main : MainOutcome
  /-- What the connection had been sent when the main statement had ended. -/
  sent : List Value
  /-- What the execution came to. -/
  result : Except Failure Int

namespace Trial

/-- The execution came to its end. -/
def Completed (t : Trial) : Prop := ∃ n, t.result = .ok n

/-- The rows that the main statement gave. -/
def rows (t : Trial) : List Row :=
  match t.main with
  | .answered r => if r.returnsRows then r.rows else []
  | _ => []

/-- The number of rows that the engine counted. -/
def count (t : Trial) : Int :=
  match t.main with
  | .answered r => r.rowCount
  | _ => 0

/-- The error of the main statement, if it was absorbed. -/
def absorbed? (t : Trial) : Option Failure :=
  match t.main with
  | .absorbed f => some f
  | _ => none

/-- The engine answered the main statement. -/
def Answered (t : Trial) : Prop := ∃ r, t.main = .answered r

/-- What the connection says to the request for the statistics. -/
def statistics (t : Trial) : Except Failure StatementResult :=
  t.connection.reply t.sent (.str metaStatement)

/-- The statistics that the trial brings, if it gets as far as asking for them and the engine answers
or refuses with an error of execution. -/
def brought? (t : Trial) : Option Metadata :=
  match t.main with
  | .failed _ => none
  | _ =>
    match Query.Followup.ofReply t.statistics with
    | .ok followup => some followup.metadata
    | .error _ => none

/-- The results that the rows of the trial give. -/
def hydration (t : Trial) : Except Failure Results := EntityBinding.results t.rows t.binding

/-- Of this trial, the connection had been sent nothing, or the statement last. -/
def Posted (t : Trial) : Prop :=
  t.sent = t.before ∨ ∃ before, t.before <+: before ∧ t.sent = before ++ [t.statement]

/-- What a query has kept from a trial. -/
structure Left (t : Trial) (q : Query) : Prop where
  clean : q.state = .clean ↔ t.Answered ∧ t.Completed
  lastError : q.lastError = t.absorbed?
  rowCount : q.rowCount = some t.count
  results : q.results = some (.rows t.rows) ∨ ∃ r, t.hydration = .ok r ∧ q.results = some r
  hydrated : t.Completed → ∃ r, t.hydration = .ok r ∧ q.results = some r
  metadata : q.metadata = t.brought?.getD t.known
  informed : t.Completed → t.brought?.isSome = true
  binding : ∃ asked, q.binding = t.binding.map (EntityBinding.after asked)

/-- What a query has of a trial at every stage behind the main statement, when its statistics are
`m`. It is clean only at the very end. -/
structure Reached (t : Trial) (m : Metadata) (q : Query) : Prop where
  dirty : q.state = .dirty
  lastError : q.lastError = t.absorbed?
  rowCount : q.rowCount = some t.count
  metadata : q.metadata = m
  binding : ∃ asked, q.binding = t.binding.map (EntityBinding.after asked)

/-- Statistics that are brought replace those that were known. -/
private theorem Reached.informed {t : Trial} {m : Metadata} {q : Query} (h : t.Reached m q)
    (m' : Metadata) : t.Reached m' (q.informed m') :=
  { h with metadata := rfl }

/-- Some statistics are what the engine said when it was asked for those of a trial: its answer, or
nothing if it refused with an error of execution. -/
def Tells (t : Trial) (m : Metadata) : Prop :=
  (∃ r, t.statistics = .ok r ∧ m = .ofPairs r.keyPairs) ∨
    ∃ f, t.statistics = .error f ∧ f.hasCode .queryExecution = true ∧ m = .empty

/-- What a trial brings is what the engine said about it. -/
theorem tells_of_brought {t : Trial} {m : Metadata} (h : t.brought? = some m) : t.Tells m := by
  obtain ⟨followup, hfollowup, rfl⟩ : ∃ followup,
      Query.Followup.ofReply t.statistics = .ok followup ∧ followup.metadata = m := by
    unfold brought? at h
    split at h
    · exact nomatch h
    · split at h
      · rename_i followup hfollowup
        exact ⟨followup, hfollowup, Option.some.inj h⟩
      · exact nomatch h
  unfold Query.Followup.ofReply at hfollowup
  split at hfollowup
  · rename_i r hr
    obtain rfl := Except.ok.inj hfollowup
    exact .inl ⟨r, hr, rfl⟩
  · rename_i f hf
    split at hfollowup
    · rename_i hcode
      obtain rfl := Except.ok.inj hfollowup
      exact .inr ⟨f, hf, hcode, rfl⟩
    · exact nomatch hfollowup

/-- Nobody is asked for the entities of no rows. -/
theorem empty_of_absorbed {t : Trial} {q : Query} (h : t.Left q) (habsorbed : t.absorbed?.isSome) :
    ∃ r, q.results = some r ∧ r.Empty := by
  have hrows : t.rows = [] := by
    unfold absorbed? at habsorbed
    unfold rows
    split at habsorbed
    · rename_i f hmain
      rw [hmain]
    · exact nomatch habsorbed
  rcases h.results with hkept | ⟨r, hr, hkept⟩
  · exact ⟨_, hkept, .inl (by rw [hrows])⟩
  · refine ⟨r, hkept, ?_⟩
    unfold hydration EntityBinding.results at hr
    rw [hrows] at hr
    split at hr
    · exact .inl (Except.ok.inj hr).symm
    · split at hr
      · exact .inl (Except.ok.inj hr).symm
      · exact .inr (Except.ok.inj hr).symm

end Trial

namespace Query

/-- The world at the start of an execution: the attributes of its span may have left a warning. -/
def entered (q : Query) (w : World) : World :=
  w.reportAny (Span.warning? spanName q.spanAttributes)

/-- The trial that an attempt to run a statement is. -/
def trial (q : Query) (c : Collaborators) (statement : Value) (w : World) : Trial :=
  let main := q.started.runMain c statement w
  { connection := c.connection
    statement
    binding := q.binding
    known := q.metadata
    before := w.sent
    main := main.1
    sent := main.2.sent
    result := (q.attempt c statement w).result }

/-- The trial of a call, if it goes through an execution and the query has a statement. -/
def trial? (q : Query) (c : Collaborators) (w : World) (call : Call) : Option Trial :=
  if q.runs call then
    match q.statement with
    | (.error _, _) => none
    | (.ok statement, asked) => some (asked.trial c statement (q.entered w))
  else none

theorem runs_of_clean {q : Query} (h : q.state = .clean) (call : Call) : q.runs call = false := by
  cases hruns : q.runs call with
  | false => rfl
  | true => exact absurd (h.symm.trans (dirty_of_runs hruns)) (by decide)

theorem runs_results_of_dirty {q : Query} (h : q.state = .dirty) : q.runs .results = true := by
  unfold runs isClean
  rw [h]
  rfl

/-- A clean query is not run. -/
theorem trial?_of_clean {q : Query} (h : q.state = .clean) (c : Collaborators) (w : World)
    (call : Call) : q.trial? c w call = none :=
  if_neg (by simp [runs_of_clean h])

/-! ### The main statement -/

/-- Whatever the throttler does, the statement is what was sent last, or nothing was. -/
private theorem posted_runMain (c : Collaborators) (q : Query) (statement : Value) (w : World) :
    (q.runMain c statement w).2.sent = w.sent ∨
      ∃ before, w.sent <+: before ∧
        (q.runMain c statement w).2.sent = before ++ [statement] := by
  have hplain (u : World) (hu : u.sent = w.sent) : ∃ before, w.sent <+: before ∧
      (settle statement (c.connection.execute statement u)).2.sent = before ++ [statement] :=
    ⟨u.sent, hu ▸ List.prefix_rfl,
      (settle_quiet statement _).sent.trans (c.connection.sent_execute statement u)⟩
  have hheld (t : Throttler) (u : World) (hu : u.sent = w.sent) :
      (t.hold c.connection statement u).2.sent = w.sent ∨ ∃ before, w.sent <+: before ∧
        (t.hold c.connection statement u).2.sent = before ++ [statement] := by
    cases hentry : t.entryFailure with
    | none =>
      right
      rw [← hu]
      exact Throttler.sent_hold hentry c.connection statement u
    | some f =>
      left
      rw [Throttler.hold, hentry]
      exact hu
  unfold runMain
  split
  · exact .inr (hplain w rfl)
  · split
    · exact .inl rfl
    · dsimp only
      split
      · exact .inl rfl
      · exact .inr (hplain _ rfl)
      · rw [(settle_quiet statement _).sent]
        exact hheld _ _ rfl

/-! ### After the main statement -/

/-- Rows give the same results in every world, and the source is asked at most once for them. -/
private theorem hydrated_eq {q : Query} {rows : List Row} (hrows : q.results = some (.rows rows))
    (w : World) :
    (∃ asked, (q.hydrated w).query.binding = q.binding.map (EntityBinding.after asked)) ∧
      match EntityBinding.results rows q.binding with
      | .ok r => (q.hydrated w).result = .ok () ∧ (q.hydrated w).query.results = some r
      | .error f => (q.hydrated w).result = .error f ∧ (q.hydrated w).query.results = q.results := by
  have hkept : q.keptRows = rows := by
    rw [keptRows, hrows]
  unfold hydrated EntityBinding.results
  rw [hkept]
  cases hb : q.binding with
  | none => exact ⟨⟨0, hb⟩, rfl, hrows⟩
  | some b =>
    dsimp only
    by_cases hnull : b.column.isNull = true
    · rw [if_pos hnull, if_pos hnull]
      exact ⟨⟨b.source.asked, hb⟩, rfl, hrows⟩
    · rw [if_neg hnull, if_neg hnull]
      obtain ⟨asked, hsource⟩ := Hydration.source_hydrate (rows.map Cells.ofRow) b.source b.column w
      obtain ⟨hresult, -⟩ := Hydration.hydrate_congr (rows.map Cells.ofRow) b.source b.column w {}
      rw [hsource, hresult]
      cases (Hydration.hydrate (rows.map Cells.ofRow) b.source b.column {}).result with
      | ok entities => exact ⟨⟨asked, rfl⟩, rfl, rfl⟩
      | error f => exact ⟨⟨asked, rfl⟩, rfl, rfl⟩

section

variable {t : Trial} {m : Metadata} {q : Query} {f : Failure} {w : World}

/-- Replacing the rows changes nothing but them, and how often the source was asked. -/
private theorem reached_hydrated (h : t.Reached m q) (hrows : q.results = some (.rows t.rows))
    (hbinding : q.binding = t.binding) (w : World) : t.Reached m (q.hydrated w).query := by
  obtain ⟨binding, results, hquery⟩ := hydrated_query q w
  obtain ⟨⟨asked, hafter⟩, -⟩ := hydrated_eq hrows w
  rw [hbinding] at hafter
  exact
    { dirty := by rw [hquery]; exact h.dirty
      lastError := by rw [hquery]; exact h.lastError
      rowCount := by rw [hquery]; exact h.rowCount
      metadata := by rw [hquery]; exact h.metadata
      binding := ⟨asked, hafter⟩ }

/-- Rows that are replaced are replaced by what the trial says they give. -/
private theorem results_of_loaded (hrows : q.results = some (.rows t.rows))
    (hbinding : q.binding = t.binding) (hworks : (q.hydrated w).result = .ok ()) :
    ∃ r, t.hydration = .ok r ∧ (q.hydrated w).query.results = some r := by
  obtain ⟨-, hresults⟩ := hydrated_eq hrows w
  rw [hbinding, ← Trial.hydration] at hresults
  cases hhydration : t.hydration with
  | ok r =>
    rw [hhydration] at hresults
    exact ⟨r, rfl, hresults.2⟩
  | error f =>
    rw [hhydration] at hresults
    exact nomatch hworks.symm.trans hresults.1

/-- Rows that cannot be replaced stay. -/
private theorem results_of_unloaded (hrows : q.results = some (.rows t.rows))
    (hfails : (q.hydrated w).result = .error f) :
    (q.hydrated w).query.results = some (.rows t.rows) := by
  obtain ⟨-, hresults⟩ := hydrated_eq hrows w
  cases hgiven : EntityBinding.results t.rows q.binding with
  | ok r =>
    rw [hgiven] at hresults
    exact nomatch hfails.symm.trans hresults.1
  | error f =>
    rw [hgiven] at hresults
    exact hresults.2.trans hrows

/-- A trial that is broken off leaves a dirty query with its rows. -/
private theorem left_of_broken (hbroken : ¬t.Completed) (h : t.Reached m q)
    (hrows : q.results = some (.rows t.rows)) (hm : m = t.brought?.getD t.known) : t.Left q where
  clean := ⟨fun hclean => absurd (h.dirty.symm.trans hclean) (by decide),
    fun hdone => absurd hdone.2 hbroken⟩
  lastError := h.lastError
  rowCount := h.rowCount
  results := .inl hrows
  hydrated := fun hdone => absurd hdone hbroken
  metadata := h.metadata.trans hm
  informed := fun hdone => absurd hdone hbroken
  binding := h.binding

/-- A trial that comes to its end leaves a query that is clean if the engine has answered. -/
private theorem left_of_completed (hcompleted : t.Completed) (h : t.Reached m q)
    (hresults : ∃ r, t.hydration = .ok r ∧ q.results = some r) (hm : t.brought? = some m)
    {wasAnswered : Bool} (hanswered : wasAnswered = true ↔ t.Answered) :
    t.Left (if wasAnswered then { q with state := .clean } else q) := by
  have hclean : (if wasAnswered then { q with state := .clean } else q).state = .clean ↔
      t.Answered ∧ t.Completed := by
    rw [and_iff_left hcompleted, ← hanswered]
    cases wasAnswered <;> simp [h.dirty]
  -- Being marked as clean is all that is left to happen.
  have hmarked : (if wasAnswered then { q with state := .clean } else q) =
      { q with state := (if wasAnswered then { q with state := .clean } else q).state } := by
    cases wasAnswered <;> rfl
  have hmetadata : m = t.brought?.getD t.known := by
    rw [hm, Option.getD_some]
  rw [hmarked]
  exact
    { clean := hclean
      lastError := h.lastError
      rowCount := h.rowCount
      results := .inr hresults
      hydrated := fun _ => hresults
      metadata := h.metadata.trans hmetadata
      informed := fun _ => by rw [hm]; rfl
      binding := h.binding }

/-- What the engine says about the main statement is brought, unless that failed altogether. -/
private theorem brought?_of_ended (hended : ∀ f, t.main ≠ .failed f) :
    t.brought? = (Followup.ofReply t.statistics).toOption.map Followup.metadata := by
  unfold Trial.brought?
  cases hmain : t.main with
  | failed f => exact absurd hmain (hended f)
  | absorbed f => cases Followup.ofReply t.statistics <;> rfl
  | answered r => cases Followup.ofReply t.statistics <;> rfl

/-- What follows the main statement leaves what the main statement has left, with the statistics and
the entities as far as it gets. -/
private theorem left_of_concluded {c : Collaborators} {statement : Value} {wasAnswered : Bool}
    {seconds : Float} {o : Outcome Int} (h : Concluded c q statement wasAnswered seconds w o)
    (hstatistics : c.connection.reply w.sent (.str metaStatement) = t.statistics)
    (hresult : t.result = o.result) (hended : ∀ f, t.main ≠ .failed f)
    (hanswered : wasAnswered = true ↔ t.Answered) (hreached : t.Reached t.known q)
    (hrows : q.results = some (.rows t.rows)) (hbinding : q.binding = t.binding) :
    t.Left o.query := by
  have hbrought := brought?_of_ended hended
  rw [← hstatistics] at hbrought
  have hbroken {f : Failure} (hf : o.result = .error f) : ¬t.Completed := by
    rintro ⟨n, hn⟩
    exact nomatch hf.symm.trans (hresult.symm.trans hn)
  cases h with
  | unasked hask =>
    rw [hask] at hbrought
    exact left_of_broken (hbroken rfl) hreached hrows (by rw [hbrought]; rfl)
  | @unreported followup _ _ hask =>
    rw [hask] at hbrought
    exact left_of_broken (hbroken rfl) (hreached.informed followup.metadata) hrows
      (by rw [hbrought]; rfl)
  | @unloaded followup _ w' hask _ hfails =>
    rw [hask] at hbrought
    have hloaded := reached_hydrated (hreached.informed followup.metadata) hrows hbinding w'
    exact left_of_broken (hbroken rfl) hloaded (results_of_unloaded hrows hfails)
      (by rw [hbrought]; rfl)
  | @complete followup n _ w' hask _ hworks hq' =>
    rw [hask] at hbrought
    have hloaded := reached_hydrated (hreached.informed followup.metadata) hrows hbinding w'
    rw [hq']
    exact left_of_completed ⟨n, hresult⟩ hloaded (results_of_loaded hrows hbinding hworks) hbrought
      hanswered

end

/-- What is left of an attempt to run a statement, wherever it ends. -/
theorem left_attempt {q : Query} (hdirty : q.state = .dirty) (c : Collaborators) (statement : Value)
    (w : World) : (q.trial c statement w).Left (q.attempt c statement w).query := by
  have hresult : (q.trial c statement w).result = (q.attempt c statement w).result := rfl
  have hmain : (q.trial c statement w).main = (q.started.runMain c statement w).1 := rfl
  have hstatistics : c.connection.reply (q.started.runMain c statement w).2.sent
      (.str metaStatement) = (q.trial c statement w).statistics := rfl
  have hbinding : q.binding = (q.trial c statement w).binding := rfl
  have hknown : q.metadata = (q.trial c statement w).known := rfl
  generalize q.trial c statement w = t at *
  have hasked : ∃ asked, q.binding = t.binding.map (EntityBinding.after asked) :=
    hbinding ▸ exists_after q.binding
  obtain ⟨_, _, _, _, _, main, _, _⟩ := t
  unfold attempt at hresult ⊢
  rcases hended : q.started.runMain c statement w with ⟨r | f | f, u⟩
  all_goals
    rw [hended] at hmain hstatistics hresult
    obtain rfl : main = _ := hmain
    dsimp only at hstatistics hresult ⊢
  · refine left_of_concluded (concluded_conclude ..) hstatistics hresult (fun _ h => nomatch h)
      ⟨fun _ => ⟨r, rfl⟩, fun _ => rfl⟩ ⟨hdirty, rfl, rfl, hknown, hasked⟩ ?_ hbinding
    unfold Trial.rows answered started
    dsimp only
    split <;> rfl
  · exact left_of_concluded (concluded_conclude ..) hstatistics hresult (fun _ h => nomatch h)
      ⟨fun h => (nomatch h), fun ⟨_, h⟩ => (nomatch h)⟩ ⟨hdirty, rfl, rfl, hknown, hasked⟩ rfl
      hbinding
  · exact left_of_broken (fun ⟨_, h⟩ => nomatch h.symm.trans hresult)
      ⟨hdirty, rfl, rfl, hknown, hasked⟩ rfl rfl

/-! ### Calls -/

/-- What a call leaves that goes through an execution. -/
private theorem query_call_of_runs {q : Query} {call : Call} (h : q.runs call = true)
    (c : Collaborators) (w : World) : (q.call c w call).query = (q.run c (q.entered w)).query := by
  have hresults : (q.resultsNow c w).query = (q.run c (q.entered w)).query := by
    unfold resultsNow
    rw [dirty_of_runs h]
    rfl
  cases call with
  | execute => rfl
  | results => exact hresults
  | table =>
    have hbinding : q.binding.isSome = false := by
      unfold runs at h
      cases hb : q.binding with
      | none => rfl
      | some b => simp [hb] at h
    unfold Query.call tableNow
    rw [hbinding]
    exact hresults
  | _ => exact nomatch h

/-- What a trial has sent. -/
theorem posted_of_trial {q : Query} {c : Collaborators} {w : World} {call : Call} {t : Trial}
    (h : q.trial? c w call = some t) : t.Posted := by
  unfold trial? at h
  split at h
  · split at h
    · exact nomatch h
    · obtain rfl := Option.some.inj h
      exact posted_runMain c _ _ _
  · exact nomatch h

/-- A trial starts with the binding and the statistics of the query. -/
private theorem started_of_trial {q : Query} {c : Collaborators} {w : World} {call : Call}
    {t : Trial} (h : q.trial? c w call = some t) : t.binding = q.binding ∧ t.known = q.metadata := by
  unfold trial? at h
  split at h
  · split at h
    · exact nomatch h
    · rename_i statement asked hstatement
      obtain rfl := Option.some.inj h
      have hsnd := q.statement_snd
      rw [hstatement] at hsnd
      rcases hsnd with rfl | ⟨text, rfl⟩
      · exact ⟨rfl, rfl⟩
      · exact ⟨rfl, rfl⟩
  · exact nomatch h

theorem binding_of_trial {q : Query} {c : Collaborators} {w : World} {call : Call} {t : Trial}
    (h : q.trial? c w call = some t) : t.binding = q.binding :=
  (started_of_trial h).1

theorem known_of_trial {q : Query} {c : Collaborators} {w : World} {call : Call} {t : Trial}
    (h : q.trial? c w call = some t) : t.known = q.metadata :=
  (started_of_trial h).2

/-- What a trial leaves. -/
theorem left_of_trial {q : Query} {c : Collaborators} {w : World} {call : Call} {t : Trial}
    (h : q.trial? c w call = some t) : t.Left (q.call c w call).query := by
  unfold trial? at h
  split at h
  · rename_i hruns
    rw [query_call_of_runs hruns]
    unfold run
    rw [dirty_of_runs hruns]
    rcases hstatement : q.statement with ⟨f | statement, asked⟩
    · rw [hstatement] at h
      exact nomatch h
    · rw [hstatement] at h
      obtain rfl := Option.some.inj h
      have hsnd := q.statement_snd
      rw [hstatement] at hsnd
      have hdirty : asked.state = .dirty := by
        rcases hsnd with rfl | ⟨text, rfl⟩
        · exact dirty_of_runs hruns
        · exact dirty_of_runs hruns
      exact left_attempt hdirty c statement _
  · exact nomatch h

theorem query_reading (q : Query) (w : World) (answer : Except Failure Returned) :
    (q.reading w answer).query = q := by
  unfold reading
  split <;> rfl

theorem result_reading (q : Query) (w : World) (answer : Except Failure Returned) :
    (q.reading w answer).result = answer := by
  unfold reading
  split <;> rfl

/-- A call that is no change and goes through no execution leaves the query, or clears it. -/
private theorem query_call_of_not_runs {q : Query} {call : Call} (h : q.runs call = false)
    (hchange : ∀ m, call ≠ .change m) (hclear : call ≠ .clear) (c : Collaborators) (w : World) :
    (q.call c w call).query = q ∨ (q.call c w call).query = q.statement.2 := by
  have hclean (hstill : (!q.isClean) = false) : q.state = .clean := by
    cases hstate : q.state with
    | clean => rfl
    | dirty =>
      unfold isClean at hstill
      rw [hstate] at hstill
      exact nomatch hstill
  have hresults (hstill : (!q.isClean) = false) : (q.resultsNow c w).query = q := by
    unfold resultsNow
    rw [hclean hstill]
  cases call with
  | change m => exact absurd rfl (hchange m)
  | clear => exact absurd rfl hclear
  | statement => exact .inr (query_reading ..)
  | text => exact .inr (query_reading ..)
  | execute =>
    left
    change (q.run c _).query = q
    rw [run_clean c q _ (hclean h)]
  | results => exact .inl (hresults h)
  | table =>
    left
    unfold Query.call tableNow
    dsimp only
    split
    · rfl
    · rename_i hbinding
      refine hresults ?_
      unfold runs at h
      cases hb : q.binding with
      | none => simpa [hb] using h
      | some b => exact absurd (by rw [hb]; rfl) hbinding
  | _ => exact .inl (query_reading ..)

end Query

namespace Mutation

/-- A change that is idle leaves the query. -/
theorem query_apply_of_idle {m : Mutation} {q : Query} {aliases : AliasCounter}
    (h : m.isIdle q aliases = true) : (m.apply q aliases).query = q := by
  cases m with
  | selectMissing column => exact if_pos h
  | alternatives components =>
    unfold isIdle drawn at h
    have hedit := alternated q aliases components
    generalize (alternatives components).apply q aliases = edit at hedit ⊢
    cases hedit with
    | unread htexts => rfl
    | none htexts => rfl
    | unnamed htexts hsome hname => rfl
    | named htexts hsome hname hselected =>
      rw [if_pos (by simp [draws_of_alternatives htexts, hsome]), hname] at h
      exact nomatch h
  | _ => exact nomatch h

/-- Any other change makes the query dirty, and keeps its cache. -/
theorem bare_apply_of_not_idle {m : Mutation} {q : Query} {aliases : AliasCounter}
    (h : m.isIdle q aliases = false) : (m.apply q aliases).query.bare = q.dirtied.bare := by
  have hbare := Draft.bare_change ⟨q, aliases, []⟩ m
  rwa [if_neg (by simp [h])] at hbare

end Mutation

/-- Whether a call alters a query: it changes it or clears its cache. A change that has nothing to
select, or no name to select it under, is none, whether it is accepted or not. -/
def Call.alters (q : Query) (aliases : AliasCounter) : Call → Bool
  | .change m => !m.isIdle q aliases
  | .clear => true
  | _ => false

namespace Query

/-- What is left of a query that was altered. -/
structure Altered (q q' : Query) : Prop where
  dirty : q'.state = .dirty
  lastError : q'.lastError = none
  metadata : q'.metadata = q.metadata ∨ q'.metadata = .notRun

/-- A call without a trial alters the query, or leaves everything but the statement that is kept. -/
theorem call_of_no_trial {q : Query} {c : Collaborators} {w : World} {call : Call}
    (h : q.trial? c w call = none) :
    (call.alters q w.aliases = true ∧ q.Altered (q.call c w call).query) ∨
      (call.alters q w.aliases = false ∧
        ((q.call c w call).query = q ∨ (q.call c w call).query = q.statement.2)) := by
  by_cases hchange : ∃ m, call = .change m
  · obtain ⟨m, rfl⟩ := hchange
    have hquery : (q.call c w (.change m)).query = (m.apply q w.aliases).query := query_change q m w
    rw [hquery]
    cases hidle : m.isIdle q w.aliases with
    | true =>
      exact .inr ⟨by rw [Call.alters, hidle]; rfl, .inl (Mutation.query_apply_of_idle hidle)⟩
    | false =>
      have hbare := Mutation.bare_apply_of_not_idle hidle
      have hcache : (m.apply q w.aliases).query.bare.metadata = q.dirtied.bare.metadata := by
        rw [hbare]
      exact .inl ⟨by rw [Call.alters, hidle]; rfl, congrArg state hbare, congrArg lastError hbare,
        .inl hcache⟩
  by_cases hclear : call = .clear
  · subst hclear
    exact .inl ⟨rfl, rfl, rfl, .inr rfl⟩
  right
  refine ⟨?_, ?_⟩
  · unfold Call.alters
    split
    · rename_i m
      exact absurd ⟨m, rfl⟩ hchange
    · exact absurd rfl hclear
    · rfl
  cases hruns : q.runs call with
  | false => exact query_call_of_not_runs hruns (fun m hm => hchange ⟨m, hm⟩) hclear c w
  | true =>
    -- A query without a statement is not run.
    right
    rw [query_call_of_runs hruns]
    unfold run
    unfold trial? at h
    rw [dirty_of_runs hruns]
    rw [if_pos hruns] at h
    rcases hstatement : q.statement with ⟨f | statement, asked⟩
    · rfl
    · rw [hstatement] at h
      exact nomatch h

end Query

/-! ### Runs -/

/-- What is done with a query: it is called, or a copy takes its place. -/
inductive Turn where
  | call (m : Made)
  | copy

/-- A query in use, its last trial, and whether it was altered since. -/
structure Tracked where
  query : Query
  last : Option Trial := none
  altered : Bool := false

namespace Tracked

/-- Makes a call. -/
def make (u : Tracked) (m : Made) : Tracked :=
  let query := (u.query.call m.collaborators m.world m.call).query
  match u.query.trial? m.collaborators m.world m.call with
  | some t => { query, last := some t }
  | none => { query, last := u.last, altered := u.altered || m.call.alters u.query m.world.aliases }

theorem query_make (u : Tracked) (m : Made) :
    (u.make m).query = (u.query.call m.collaborators m.world m.call).query := by
  unfold make
  dsimp only
  split <;> rfl

/-- Makes a turn. A copy has no trial yet; if there is none, the query stays in use. -/
def turn (u : Tracked) : Turn → Tracked
  | .call m => u.make m
  | .copy =>
    match u.query.copy.1 with
    | .ok fresh => { query := fresh }
    | .error _ => u

/-- Makes turns in order. -/
def follow (u : Tracked) (turns : List Turn) : Tracked := turns.foldl turn u

/-- A new query. -/
def start (statement maxMatches : Value) : Tracked :=
  { query := .create statement maxMatches }

/-- A turn changes the query, or keeps what it is made of. -/
theorem query_turn (u : Tracked) (turn : Turn) :
    (∃ m change, turn = .call m ∧ m.call = .change change ∧
        (u.turn turn).query = (change.apply u.query m.world.aliases).query) ∨
      u.query.Kept (u.turn turn).query := by
  cases turn with
  | call m =>
    have hquery : (u.turn (.call m)).query =
        (u.query.call m.collaborators m.world m.call).query := query_make u m
    rw [hquery]
    rcases Query.query_call m.collaborators u.query m.world m.call with
      ⟨change, hcall, hchanged⟩ | hkept
    · exact .inl ⟨m, change, rfl, hcall, hchanged⟩
    · exact .inr hkept
  | copy =>
    right
    unfold Tracked.turn
    dsimp only
    cases hcopy : u.query.copy.1 with
    | error f => exact .refl u.query
    | ok fresh =>
      obtain rfl := Query.eq_cleared_of_copy hcopy
      exact ⟨rfl, rfl, rfl⟩

/-- What the changes of a run preserve and what depends only on what the other turns keep holds
after the run. -/
theorem invariant_follow {P : Query → Prop} {turns : List Turn}
    (hchange : ∀ m change, Turn.call m ∈ turns → m.call = .change change →
      ∀ q, P q → P (change.apply q m.world.aliases).query)
    (hkept : ∀ q q' : Query, q.Kept q' → P q → P q') {u : Tracked} (h : P u.query) :
    P (u.follow turns).query := by
  induction turns generalizing u with
  | nil => exact h
  | cons turn rest ih =>
    refine ih (fun m change hm => hchange m change (List.mem_cons_of_mem _ hm)) ?_
    rcases u.query_turn turn with ⟨m, change, rfl, hcall, hquery⟩ | hsame
    · rw [hquery]
      exact hchange m change List.mem_cons_self hcall _ h
    · exact hkept _ _ hsame h

/-- What is known about a query that is followed. -/
structure Sound (u : Tracked) : Prop where
  untried : u.last = none →
    u.query.state = .dirty ∧ u.query.lastError = none ∧ u.query.metadata = .notRun
  altered : u.altered = true → u.query.state = .dirty ∧ u.query.lastError = none
  left : ∀ t, u.last = some t → u.altered = false → t.Left u.query
  metadata : ∀ t, u.last = some t →
    u.query.metadata = t.brought?.getD t.known ∨ u.query.metadata = .notRun
  posted : ∀ t, u.last = some t → t.Posted

/-- A query without a trial, as new queries and copies are. -/
private theorem sound_of_untried {q : Query} (hdirty : q.state = .dirty)
    (hlastError : q.lastError = none) (hmetadata : q.metadata = .notRun) :
    Sound { query := q } where
  untried := fun _ => ⟨hdirty, hlastError, hmetadata⟩
  altered := fun h => nomatch h
  left := fun _ h => nomatch h
  metadata := fun _ h => nomatch h
  posted := fun _ h => nomatch h

theorem sound_start (statement maxMatches : Value) : Sound (start statement maxMatches) :=
  sound_of_untried rfl rfl rfl

/-- The statement that is kept does not matter. -/
private theorem Sound.of_kept {u : Tracked} (h : u.Sound) {q : Query}
    (hq : q = u.query ∨ q = u.query.statement.2) : Sound { u with query := q } := by
  have hsame : q = u.query ∨ ∃ text, q = { u.query with compiled := some text } := by
    rcases hq with rfl | rfl
    · exact .inl rfl
    · exact u.query.statement_snd
  rcases hsame with rfl | ⟨text, rfl⟩
  · exact h
  · refine ⟨h.untried, h.altered, fun t ht hunaltered => ?_, h.metadata, h.posted⟩
    obtain ⟨hclean, hlastError, hcount, hresults, hhydrated, hmetadata, hinformed, hbinding⟩ :=
      h.left t ht hunaltered
    exact ⟨hclean, hlastError, hcount, hresults, hhydrated, hmetadata, hinformed, hbinding⟩

private theorem Sound.of_altered {u : Tracked} (h : u.Sound) {q : Query} (hq : u.query.Altered q) :
    Sound { u with query := q, altered := true } where
  untried := fun hlast => by
    refine ⟨hq.dirty, hq.lastError, ?_⟩
    rcases hq.metadata with hsame | hcleared
    · exact hsame.trans (h.untried hlast).2.2
    · exact hcleared
  altered := fun _ => ⟨hq.dirty, hq.lastError⟩
  left := fun _ _ h => nomatch h
  metadata := fun t ht => by
    rcases hq.metadata with hsame | hcleared
    · exact (h.metadata t ht).imp hsame.trans hsame.trans
    · exact .inr hcleared
  posted := h.posted

/-- A call keeps what is known true, whatever its collaborators do. -/
theorem sound_make {u : Tracked} (h : u.Sound) (m : Made) : (u.make m).Sound := by
  unfold make
  dsimp only
  cases htrial : u.query.trial? m.collaborators m.world m.call with
  | some t =>
    have hleft := Query.left_of_trial htrial
    exact
      { untried := fun h => nomatch h
        altered := fun h => nomatch h
        left := fun t' ht' _ => by
          obtain rfl := Option.some.inj ht'
          exact hleft
        metadata := fun t' ht' => by
          obtain rfl := Option.some.inj ht'
          exact .inl hleft.metadata
        posted := fun t' ht' => by
          obtain rfl := Option.some.inj ht'
          exact Query.posted_of_trial htrial }
  | none =>
    dsimp only
    rcases Query.call_of_no_trial htrial with ⟨halters, haltered⟩ | ⟨halters, hquery⟩
    · rw [halters, Bool.or_true]
      exact h.of_altered haltered
    · rw [halters, Bool.or_false]
      exact h.of_kept hquery

theorem sound_turn {u : Tracked} (h : u.Sound) (turn : Turn) : (u.turn turn).Sound := by
  cases turn with
  | call m => exact sound_make h m
  | copy =>
    unfold Tracked.turn
    dsimp only
    cases hcopy : u.query.copy.1 with
    | error f => exact h
    | ok fresh =>
      obtain rfl := Query.eq_cleared_of_copy hcopy
      exact sound_of_untried rfl rfl rfl

/-- So does any number of turns. -/
theorem sound_follow {u : Tracked} (h : u.Sound) (turns : List Turn) : (u.follow turns).Sound := by
  induction turns generalizing u with
  | nil => exact h
  | cons turn rest ih => exact ih (sound_turn h turn)

/-- A query that is clean or keeps an error was not altered since its last trial. -/
theorem Sound.unaltered {u : Tracked} (h : u.Sound)
    (hkeeps : u.query.state = .clean ∨ u.query.lastError ≠ none) :
    ∃ t, u.last = some t ∧ u.altered = false ∧ t.Left u.query := by
  have hnot {p : Prop} (hq : u.query.state = .dirty ∧ u.query.lastError = none) : p := by
    rcases hkeeps with hclean | herror
    · exact absurd (hq.1.symm.trans hclean) (by decide)
    · exact absurd hq.2 herror
  cases hlast : u.last with
  | none => exact hnot ⟨(h.untried hlast).1, (h.untried hlast).2.1⟩
  | some t =>
    cases haltered : u.altered with
    | true => exact hnot (h.altered haltered)
    | false => exact ⟨t, rfl, rfl, h.left t hlast haltered⟩

end Tracked

end SearchClient
