import SearchClient.Proofs.Query.Execution
import SearchClient.Proofs.Query.Mutation

/-!
# Calls and reachable queries

A call is quiet, or it goes through one execution and is quiet before and after it. A query is
reachable if it was created, and then called and copied any number of times, whatever the world was
at each call and whatever connection, throttler and log stood behind it.

## Key results

- `query_call`: only changes touch the clauses
- `called_call`: which calls leave a clean query clean, and which of them may send a statement
- `Reachable.shaped`: the values of all comparisons fit their operators
- `Reachable.rows_eq_int`: the number of rows without a limit is a number
-/

namespace SearchClient

namespace Query

/-! ### What a call can do -/

/-- Whether a call goes through an execution. -/
def runs (q : Query) : Call → Bool
  | .execute | .results => !q.isClean
  | .table => !q.isClean && q.binding.isNone
  | _ => false

private theorem isClean_of_clean {q : Query} (h : q.state = .clean) : q.isClean = true := by
  unfold isClean
  rw [h]
  rfl

private theorem isClean_of_dirty {q : Query} (h : q.state = .dirty) : q.isClean = false := by
  unfold isClean
  rw [h]
  rfl

/-- A clean query answers from its cache. -/
theorem dirty_of_runs {q : Query} {call : Call} (h : q.runs call = true) : q.state = .dirty := by
  cases hstate : q.state with
  | dirty => rfl
  | clean =>
    unfold runs at h
    rw [isClean_of_clean hstate] at h
    split at h <;> exact nomatch h

/-- The two ways in which a call goes: quietly, or through one execution. -/
inductive Called (c : Collaborators) (q : Query) (w : World) (call : Call) :
    Query → World → Prop where
  | quiet {q' : Query} {w' : World} (hruns : q.runs call = false) (hquiet : w.Quiet w')
      (hquery : q' = q ∨ q' = q.statement.2 ∨ q'.state = .dirty) : Called c q w call q' w'
  | executed {w₁ w' : World} (hruns : q.runs call = true) (hbefore : w.Quiet w₁)
      (hafter : (q.run c w₁).world.Quiet w') : Called c q w call (q.run c w₁).query w'

/-- What a change leaves of a query. -/
theorem query_change (q : Query) (m : Mutation) (w : World) :
    (q.change m w).query = (m.apply q w.aliases).query := by
  unfold change
  dsimp only
  split <;> rfl

/-- A change is answered unless it is refused. -/
theorem result_change (q : Query) (m : Mutation) (w : World) :
    (q.change m w).result =
      match (m.apply q w.aliases).refusal with
      | none => .ok .self
      | some f => .error f := by
  unfold change
  dsimp only
  cases (m.apply q w.aliases).refusal <;> rfl

section

variable (q : Query) (c : Collaborators) {w : World}

/-- What a refusal leaves. -/
theorem call_of_refused {q' : Query} {aliases : AliasCounter} {f : Failure} {m : Mutation}
    (h : m.apply q w.aliases = .refused q' aliases f) :
    let o := q.call c w (.change m)
    o.result = .error f ∧ o.query = q' ∧ o.world.aliases = aliases := by
  intro o
  have ho : o = q.change m w := rfl
  unfold change at ho
  rw [h] at ho
  rw [ho]
  exact ⟨rfl, rfl, rfl⟩

variable {components : Value} {items : List Value} (hitems : components.walk? = some items)

include hitems

/-- Alternatives that cannot be written are refused before they ask for a name. -/
theorem call_of_not_writable (hnot : ¬∀ v ∈ items, v.isWritable = true) :
    let o := q.call c w (.change (.alternatives components))
    o.result = .error Value.tooLong ∧ o.query = q ∧ o.world.aliases = w.aliases :=
  have hunread := (Mutation.writesIf_alternativesOf hitems).error hnot
  q.call_of_refused c (Mutation.apply_of_unread q hunread)

/-- Alternatives that get no name are refused, and the number of that name is used up. -/
theorem call_of_unnamed (hsome : items ≠ []) (hwritable : ∀ v ∈ items, v.isWritable = true)
    {f : Failure} (hname : w.aliases.draw.1 = .error f) :
    let o := q.call c w (.change (.alternatives components))
    o.result = .error f ∧ o.query = q ∧ o.world.aliases = w.aliases.draw.2 :=
  have htexts := Mutation.alternativesOf_of_writable hitems hwritable
  q.call_of_refused c (Mutation.apply_of_unnamed q htexts (by simpa using hsome) hname)

end

/-- Without alternatives nothing happens. -/
theorem call_no_alternatives (q : Query) (c : Collaborators) (w : World) {components : Value}
    (hitems : components.walk? = some []) :
    q.call c w (.change (.alternatives components)) = ⟨.ok .self, q, w⟩ := by
  have hnone : Mutation.alternativesOf components = .ok [] :=
    Mutation.alternativesOf_of_writable hitems fun _ hv => nomatch hv
  change q.change (.alternatives components) w = _
  unfold change
  rw [Mutation.apply_of_none q hnone]
  simp [Edit.done]

/-- A change does what it does to the clauses; no other call touches them. -/
theorem query_call (c : Collaborators) (q : Query) (w : World) (call : Call) :
    (∃ m, call = .change m ∧ (q.call c w call).query = (m.apply q w.aliases).query) ∨
      q.Kept (q.call c w call).query := by
  by_cases hm : ∃ m, call = .change m
  · obtain ⟨m, rfl⟩ := hm
    exact .inl ⟨m, rfl, query_change q m w⟩
  · exact .inr (kept_call c q w fun m hcall => hm ⟨m, hcall⟩)

private theorem quiet_change (q : Query) (m : Mutation) (w : World) :
    w.Quiet (q.change m w).world := by
  unfold change
  dsimp only
  split
  · exact ⟨rfl, rfl⟩
  · exact ⟨rfl, rfl⟩

private theorem called_reading (c : Collaborators) {q q' : Query} (w : World) {call : Call}
    (hruns : q.runs call = false) (answer : Except Failure Returned)
    (hquery : q' = q ∨ q' = q.statement.2) :
    Called c q w call (q'.reading w answer).query (q'.reading w answer).world := by
  have hstays : q' = q ∨ q' = q.statement.2 ∨ q'.state = .dirty := hquery.imp_right .inl
  unfold reading
  split
  · exact .quiet hruns (.refl w) hstays
  · exact .quiet hruns (.of_note w _) hstays

private theorem called_execute (c : Collaborators) (q : Query) (w : World) {call : Call}
    (hruns : q.runs call = !q.isClean) :
    Called c q w call (q.execute c w).query (q.execute c w).world := by
  have hreported : w.Quiet (w.reportAny (Span.warning? spanName q.spanAttributes)) := ⟨rfl, rfl⟩
  cases hstate : q.state with
  | dirty =>
    rw [isClean_of_dirty hstate] at hruns
    exact .executed hruns hreported (.of_emit _ _)
  | clean =>
    rw [isClean_of_clean hstate] at hruns
    unfold execute
    dsimp only
    rw [run_clean c q _ hstate]
    exact .quiet hruns (hreported.trans (.of_emit _ _)) (.inl rfl)

private theorem called_resultsNow (c : Collaborators) (q : Query) (w : World) {call : Call}
    (hruns : q.runs call = !q.isClean) :
    Called c q w call (q.resultsNow c w).query (q.resultsNow c w).world := by
  unfold resultsNow
  split
  · rename_i hstate
    rw [isClean_of_clean hstate] at hruns
    exact .quiet hruns (.refl w) (.inl rfl)
  · exact called_execute c q w hruns

/-- A change leaves a query as it is or makes it dirty; of the other calls only those that ask a
dirty query for an execution, for its results or for a table go through one. -/
theorem called_call (c : Collaborators) (q : Query) (w : World) (call : Call) :
    Called c q w call (q.call c w call).query (q.call c w call).world := by
  cases call with
  | change m =>
    refine .quiet rfl (quiet_change q m w) ?_
    have hquery : (q.call c w (.change m)).query = (m.apply q w.aliases).query :=
      query_change q m w
    rw [hquery]
    rcases m.apply_query q w.aliases with hsame | ⟨clauses, binding, hredone⟩ | ⟨s, _, hstated⟩
    · exact .inl hsame
    · rw [hredone]
      exact .inr (.inr rfl)
    · rw [hstated]
      exact .inr (.inr rfl)
  | statement => exact called_reading c w rfl _ (.inr rfl)
  | text => exact called_reading c w rfl _ (.inr rfl)
  | execute => exact called_execute c q w rfl
  | results => exact called_resultsNow c q w rfl
  | table =>
    -- Entities make no table, so a bound query is not even run.
    unfold Query.call tableNow
    dsimp only
    split
    · rename_i hbinding
      have hnone : q.binding.isNone = false := by
        rw [Option.isNone_eq_false_iff]
        exact hbinding
      have hruns : q.runs .table = false := by
        unfold runs
        rw [hnone, Bool.and_false]
      exact .quiet hruns (.of_note w _) (.inl rfl)
    · rename_i hbinding
      have hnone : q.binding.isNone = true := by
        rw [← Option.not_isSome, Bool.not_eq_true', ← Bool.not_eq_true]
        exact hbinding
      refine called_resultsNow c q w ?_
      unfold runs
      rw [hnone, Bool.and_true]
  | clear => exact .quiet rfl (.refl w) (.inr (.inr rfl))
  | _ => exact called_reading c w rfl _ (.inl rfl)

/-! ### Reachable queries -/

/-- Queries that calls can lead to. -/
inductive Reachable : Query → Prop where
  | create (statement : Value) (rows : Int) : Reachable (.create statement (.int rows))
  | call {q : Query} (c : Collaborators) (w : World) (call : Call) (hq : Reachable q) :
      Reachable (q.call c w call).query
  | copy {q fresh : Query} (hq : Reachable q) (hcopy : q.copy.1 = .ok fresh) : Reachable fresh

/-- The query and the world after some calls. -/
def calls (c : Collaborators) : Query → World → List Call → Query × World
  | q, w, [] => (q, w)
  | q, w, call :: rest => calls c (q.call c w call).query (q.call c w call).world rest

/-- A copy is the query without its cache. -/
theorem eq_cleared_of_copy {q fresh : Query} (h : q.copy.1 = .ok fresh) : fresh = q.cleared := by
  unfold copy at h
  dsimp only at h
  split at h
  · exact (Except.ok.inj h).symm
  · split at h
    · exact nomatch h
    · exact (Except.ok.inj h).symm

namespace Reachable

theorem calls {q : Query} (h : Reachable q) (c : Collaborators) (w : World) (made : List Call) :
    Reachable (q.calls c w made).1 := by
  induction made generalizing q w with
  | nil => exact h
  | cons call rest ih => exact ih (h.call c w call) _

/-- What changes preserve and what depends only on what other calls keep holds of every reachable
query. -/
theorem invariant {P : Query → Prop} (hcreate : ∀ statement rows, P (.create statement (.int rows)))
    (hchange : ∀ (q : Query) (m : Mutation) (aliases : AliasCounter),
      P q → P (m.apply q aliases).query)
    (hkept : ∀ q q' : Query, q.Kept q' → P q → P q') {q : Query} (h : Reachable q) : P q := by
  induction h with
  | create statement rows => exact hcreate statement rows
  | @call q c w call hq ih =>
    rcases query_call c q w call with ⟨m, -, hquery⟩ | hkeeps
    · rw [hquery]
      exact hchange q m w.aliases ih
    · exact hkept q _ hkeeps ih
  | @copy q fresh hq hcopy ih =>
    -- A copy has lost its cache only.
    obtain rfl := eq_cleared_of_copy hcopy
    exact hkept q _ ⟨rfl, rfl, rfl⟩ ih

/-- The values of all comparisons of a reachable query fit their operators. -/
theorem shaped {q : Query} (h : Reachable q) : q.clauses.Shaped := by
  refine h.invariant (P := fun q => q.clauses.Shaped) (fun statement rows => ?_)
    (fun q m aliases hq => ?_) fun q q' hkept hq => ?_
  · exact Clauses.shaped_of_eq_nil rfl rfl
  · exact m.shaped_apply aliases hq
  · rw [hkept.clauses]
    exact hq

/-- The number of rows without a limit is never anything but a number. -/
theorem rows_eq_int {q : Query} (h : Reachable q) : ∃ rows, q.maxMatches = .int rows := by
  refine h.invariant (P := fun q => ∃ rows, q.maxMatches = .int rows) (fun statement rows => ?_)
    (fun q m aliases hq => ?_) fun q q' hkept hq => ?_
  · exact ⟨rows, rfl⟩
  · rcases m.apply_query q aliases with hsame | ⟨clauses, binding, hredone⟩ | ⟨s, _, hstated⟩
    · rwa [hsame]
    · rw [hredone]
      exact hq
    · rw [hstated]
      exact hq
  · rw [hkept.maxMatches]
    exact hq

end Reachable

end Query

end SearchClient
