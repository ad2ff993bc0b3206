import SearchClient.Proofs.Query.Determined
import SearchClient.Session

/-!
# Queries that share a connection

Queries in one session share the connection, the query log and the counter of aliases. What a query
answers in a run is still what it answers when only its own calls are made: each of its executions
is told about its own statement, and whatever else it says it has kept itself.

The invariant of a run is that both runs have the same query under its number; what the other
queries do to the world does not matter, because its calls are alike in every world.

## Key results

- `Session.heard_alone`: a query answers in a run as it does alone
- `Session.heard_of_refused_entry`: why a throttler must not refuse with an error of execution
-/

namespace SearchClient

namespace Session

section

variable (c : Connection) (throttling : Nat → Option Throttling)

/-- What the query of a number answers in a run, and what it is after each answer. Each query has
its own source of throttlers. -/
def heard (n : Nat) : Session → List (Nat × Call) → List (Except Failure Returned × Option Query)
  | _, [] => []
  | s, (m, call) :: rest =>
    let (answer, after) := s.call { connection := c, throttling := throttling m } m call
    (if m = n then [(answer, after.query? n)] else []) ++ heard n after rest

end

/-- Statements that the queries of a session have of their own, or that calls give them. -/
def given (s : Session) (made : List (Nat × Call)) : List Value :=
  s.queries.filterMap (·.2.raw) ++ made.filterMap fun e =>
    match e.2 with
    | .change (.statement v) => some v
    | _ => none

/-- A call on one query leaves the others. -/
theorem query?_call_of_ne (c : Collaborators) (s : Session) {n m : Nat} (h : n ≠ m) (call : Call) :
    (s.call c m call).2.query? n = s.query? n := by
  unfold Session.call
  split
  · rfl
  · exact query?_put_of_ne s _ h

variable {c : Connection} {throttling : Nat → Option Throttling} {statements : List Value}

/-- A query that is the same in two sessions answers a call alike in both, and is the same after
it. -/
theorem call_congr (hengine : c.engine.ByText statements)
    (hsteady : ∀ n, ∀ f ∈ throttling n, Throttling.Steady f)
    (hhonest : ∀ n, ∀ f ∈ throttling n, Throttling.Honest f) {n : Nat} {s s' : Session}
    (hsame : s'.query? n = s.query? n)
    (hgiven : ∀ q, s.query? n = some q → ∀ v ∈ q.raw, v ∈ statements) {call : Call}
    (hcall : ∀ items, call ≠ .change (.alternatives items)) :
    (s'.call { connection := c, throttling := throttling n } n call).1 =
        (s.call { connection := c, throttling := throttling n } n call).1 ∧
      (s'.call { connection := c, throttling := throttling n } n call).2.query? n =
        (s.call { connection := c, throttling := throttling n } n call).2.query? n := by
  unfold Session.call
  rw [hsame]
  cases hq : s.query? n with
  | none =>
    dsimp only
    exact ⟨rfl, hsame⟩
  | some q =>
    obtain ⟨hresult, hquery⟩ := Query.alike_call
      (c := { connection := c, throttling := throttling n }) hengine (hsteady n) (hhonest n)
      (hgiven q hq) hcall s'.world s.world
    dsimp only
    rw [hquery]
    exact ⟨hresult, (query?_put_self ..).trans (query?_put_self ..).symm⟩

/-- The statement of its own that a query has after a call is the one it had, or the call gives
it. -/
theorem given_call (c : Collaborators) {n : Nat} {s : Session}
    (hgiven : ∀ q, s.query? n = some q → ∀ v ∈ q.raw, v ∈ statements) {call : Call}
    (hcall : ∀ v, call = .change (.statement v) → v ∈ statements) :
    ∀ q, (s.call c n call).2.query? n = some q → ∀ v ∈ q.raw, v ∈ statements := by
  intro q' hq'
  unfold Session.call at hq'
  split at hq'
  · exact hgiven q' hq'
  · rename_i q hq
    obtain rfl : (q.call c s.world call).query = q' :=
      Option.some.inj ((query?_put_self ..).symm.trans hq')
    rcases Query.query_call c q s.world call with ⟨m, rfl, hquery⟩ | hkept
    · rw [hquery]
      rcases m.apply_query q s.world.aliases with hsame | ⟨clauses, binding, hredone⟩ |
        ⟨v, rfl, hstated⟩
      · rw [hsame]
        exact hgiven q hq
      · rw [hredone]
        exact hgiven q hq
      · rw [hstated]
        intro u hu
        dsimp only at hu
        split at hu
        · exact nomatch hu
        · obtain rfl := Option.some.inj hu
          exact hcall v rfl
    · rw [hkept.raw]
      exact hgiven q hq

/-- Two sessions with the same query under a number: it answers in a run of the one as it does in
the other when only its own calls are made. -/
private theorem heard_congr (hengine : c.engine.ByText statements)
    (hsteady : ∀ n, ∀ f ∈ throttling n, Throttling.Steady f)
    (hhonest : ∀ n, ∀ f ∈ throttling n, Throttling.Honest f) {n : Nat}
    {made : List (Nat × Call)} (hmade : ∀ e ∈ made, ∀ items, e.2 ≠ .change (.alternatives items))
    (hbrought : ∀ e ∈ made, ∀ v, e.2 = .change (.statement v) → v ∈ statements) {s s' : Session}
    (hsame : s'.query? n = s.query? n)
    (hgiven : ∀ q, s.query? n = some q → ∀ v ∈ q.raw, v ∈ statements) :
    heard c throttling n s made = heard c throttling n s' (made.filter (·.1 == n)) := by
  -- Calls on other queries are made in the first session only, so the sessions come to differ in
  -- everything but the query of this number.
  induction made generalizing s s' with
  | nil => rfl
  | cons e rest ih =>
    obtain ⟨m, call⟩ := e
    obtain ⟨hcall, hrest⟩ := List.forall_mem_cons.1 hmade
    obtain ⟨hbrings, hlater⟩ := List.forall_mem_cons.1 hbrought
    by_cases hm : m = n
    · subst hm
      rw [List.filter_cons_of_pos (by simp)]
      obtain ⟨hanswer, hafter⟩ := call_congr hengine hsteady hhonest hsame hgiven hcall
      have hstill := given_call { connection := c, throttling := throttling m } hgiven hbrings
      have htail := ih hrest hlater hafter hstill
      unfold heard
      dsimp only
      rw [htail, hanswer, hafter]
    · rw [List.filter_cons_of_neg (by simpa using hm)]
      have hother := query?_call_of_ne { connection := c, throttling := throttling m } s
        (Ne.symm hm) call
      have htail := ih hrest hlater (hsame.trans hother.symm) (by rwa [hother])
      rw [heard]
      dsimp only
      rw [if_neg hm, htail]
      rfl

/-- On an engine that answers by what it is asked, and with throttlers that neither count nor refuse
to be entered with an error of execution, a query answers in a run without alternatives as it does
when only its own calls are made. -/
theorem heard_alone {s : Session} {made : List (Nat × Call)}
    (hengine : c.engine.ByText (s.given made))
    (hsteady : ∀ n, ∀ f ∈ throttling n, Throttling.Steady f)
    (hhonest : ∀ n, ∀ f ∈ throttling n, Throttling.Honest f)
    (hmade : ∀ e ∈ made, ∀ items, e.2 ≠ .change (.alternatives items)) (n : Nat) :
    heard c throttling n s made = heard c throttling n s (made.filter (·.1 == n)) := by
  refine heard_congr hengine hsteady hhonest hmade (fun e he v hv => ?_) rfl fun q hq v hv => ?_
  · exact List.mem_append_right _ (List.mem_filterMap.2 ⟨e, he, by rw [hv]⟩)
  · obtain ⟨p, hp, rfl⟩ := Option.map_eq_some_iff.1 hq
    exact List.mem_append_left _ (List.mem_filterMap.2 ⟨p, List.mem_of_find?_eq_some hp, hv⟩)

/-- An engine whose statistics name the last main statement. -/
def tellingEngine : Engine := fun before statement =>
  if statement.asText? = some metaStatement then
    .answer
      { columns := [.str "name", .str "value"]
        rows := (lastMain before).toList.map fun main => [.str "statement", main] }
  else .answer {}

private theorem byText_tellingEngine {statements : List Value}
    (h : ∀ v ∈ statements, v.asText? ≠ some metaStatement) : tellingEngine.ByText statements := by
  constructor
  · intro statement before before' hmain
    have hother : statement.asText? ≠ some metaStatement := hmain.elim id (h statement)
    unfold tellingEngine
    rw [if_neg hother, if_neg hother]
  · intro before before' hlast
    unfold tellingEngine
    rw [hlast]

/-- How an answer reads. -/
def reads : Except Failure Returned → String
  | .ok (.value v) => v.literal
  | .ok _ => "done"
  | .error f => f.text

/-- Two queries are run one after the other, and the first is told about its own statement. -/
theorem heard_alone_of_two :
    let c : Connection := { engine := tellingEngine }
    let throttling (n : Nat) : Option Throttling :=
      if n = 1 then some fun _ _ _ => .ok (some {}) else none
    let s : Session :=
      { queries := [(0, .create (.str "CALL A") (.int 10)), (1, .create (.str "CALL B") (.int 10))] }
    let made : List (Nat × Call) :=
      [(0, .execute), (1, .execute), (0, .statistics), (1, .statistics)]
    (c.engine.ByText (s.given made) ∧ (∀ n, ∀ f ∈ throttling n, Throttling.Steady f) ∧
      (∀ n, ∀ f ∈ throttling n, Throttling.Honest f) ∧
      ∀ e ∈ made, ∀ items, e.2 ≠ .change (.alternatives items)) ∧
      (heard c throttling 0 s made).map (fun e => reads e.1) =
        ["0", "\x7b'statement': 'CALL A'\x7d"] := by
  intro c throttling s made
  have hengine : c.engine.ByText (s.given made) := byText_tellingEngine (by decide)
  have hthrottling {n : Nat} {f : Throttling} (hf : f ∈ throttling n) :
      f = fun _ _ _ => .ok (some {}) := by
    by_cases hn : n = 1
    · simpa [throttling, hn, eq_comm] using hf
    · simp [throttling, hn] at hf
  have hsteady : ∀ n, ∀ f ∈ throttling n, Throttling.Steady f := by
    intro n f hf
    rw [hthrottling hf]
    exact fun _ _ _ _ => rfl
  have hhonest : ∀ n, ∀ f ∈ throttling n, Throttling.Honest f := by
    intro n f hf k indexes reading t ht
    rw [hthrottling hf] at ht
    obtain rfl : ({} : Throttler) = t := Option.some.inj (Except.ok.inj ht)
    exact fun failure hfailure => nomatch hfailure
  have hmade : ∀ e ∈ made, ∀ items, e.2 ≠ .change (.alternatives items) := by simp [made]
  refine ⟨⟨hengine, hsteady, hhonest, hmade⟩, ?_⟩
  rw [heard_alone hengine hsteady hhonest hmade 0]
  decide +kernel

/-- A throttler that refuses with an error of execution: its query sends no statement of its own and
asks for statistics all the same, so it is told about the statement of another. -/
theorem heard_of_refused_entry :
    let c : Connection := { engine := tellingEngine }
    let busy := Failure.report .queryExecution (.str "busy") [] {}
    let throttling (n : Nat) : Option Throttling :=
      if n = 1 then some fun _ _ _ => .ok (some { entryFailure := some busy }) else none
    let s : Session :=
      { queries := [(0, .create (.str "CALL A") (.int 10)), (1, .create (.str "CALL B") (.int 10))] }
    let made : List (Nat × Call) := [(0, .execute), (1, .execute), (1, .statistics)]
    (c.engine.ByText (s.given made) ∧ (∀ n, ∀ f ∈ throttling n, Throttling.Steady f) ∧
      ∀ e ∈ made, ∀ items, e.2 ≠ .change (.alternatives items)) ∧
      heard c throttling 1 s made ≠ heard c throttling 1 s (made.filter (·.1 == 1)) ∧
      (heard c throttling 1 s made).map (fun e => reads e.1) =
        ["0", "\x7b'statement': 'CALL A'\x7d"] := by
  intro c busy throttling s made
  have hengine : c.engine.ByText (s.given made) := byText_tellingEngine (by decide)
  have hsteady : ∀ n, ∀ f ∈ throttling n, Throttling.Steady f := by
    intro n f hf
    by_cases hn : n = 1
    · obtain rfl : (fun _ _ _ => .ok (some { entryFailure := some busy })) = f := by
        simpa [throttling, hn] using hf
      exact fun _ _ _ _ => rfl
    · simp [throttling, hn] at hf
  have hmade : ∀ e ∈ made, ∀ items, e.2 ≠ .change (.alternatives items) := by simp [made]
  have htold : (heard c throttling 1 s made).map (fun e => reads e.1) =
      ["0", "\x7b'statement': 'CALL A'\x7d"] := by decide +kernel
  have halone : (heard c throttling 1 s (made.filter (·.1 == 1))).map (fun e => reads e.1) =
      ["0", "\x7b\x7d"] := by decide +kernel
  refine ⟨⟨hengine, hsteady, hmade⟩, fun hsame => ?_, htold⟩
  rw [hsame, halone] at htold
  exact absurd htold (by decide)

end Session

end SearchClient
