import SearchClient.Proofs.Query.Trial

/-!
# What a query says about its statistics

An execution resets the rows and their number at its start, and not the statistics: these are only
replaced when the engine has answered the request for them, or has refused it. So a query gives what
its last trial has brought, unless that trial was broken off before it brought anything. Then it
still gives what it had before, which is about another statement.

## Key results

- `Trial.brokenOff_of_brought`: why a trial brings nothing
- `Tracked.statistics_follow`: what a query says after any run
- `Query.statistics_of_broken_off`: an old number of matches beside a new statement
-/

namespace SearchClient

namespace Query

/-- A query gives some statistics. -/
structure Reports (q : Query) (m : Metadata) : Prop where
  statistics : ∀ c w,
    (q.call c w .statistics).result = .ok (.value (StatementResult.rowValue m.values))
  totalFound : ∀ c w,
    (q.call c w .totalFound).result = (Metadata.totalFound m.values).map fun n => .value (.int n)
  time : ∀ c w,
    (q.call c w .time).result = (Metadata.time m.values).map fun x => .value (.float x)

/-- A query refuses to give statistics, because none were asked for. -/
structure Silent (q : Query) : Prop where
  statistics : ∀ c w, ∃ f, f.hasCode .invalidState = true ∧
    (q.call c w .statistics).result = .error f
  totalFound : ∀ c w, ∃ f, f.hasCode .invalidState = true ∧
    (q.call c w .totalFound).result = .error f
  time : ∀ c w, ∃ f, f.hasCode .invalidState = true ∧ (q.call c w .time).result = .error f

theorem reports_of_hasRun {q : Query} (h : q.metadata.hasRun = true) : q.Reports q.metadata := by
  have hnow := statisticsNow_of_hasRun h
  have hvalue (name : String) (fallback : Value) :
      q.statisticNow (.str name) fallback = .ok ((q.metadata.values.get? name).getD fallback) := by
    unfold statisticNow
    rw [hnow]
    rfl
  constructor
  · intro c w
    refine (result_reading ..).trans ?_
    rw [hnow]
    rfl
  · intro c w
    refine (result_reading ..).trans ?_
    rw [hvalue]
    rfl
  · intro c w
    refine (result_reading ..).trans ?_
    rw [hvalue]
    rfl

theorem silent_of_not_hasRun {q : Query} (h : q.metadata.hasRun = false) : q.Silent := by
  obtain ⟨f, hcode, hnow⟩ : ∃ f, f.hasCode .invalidState = true ∧ q.statisticsNow = .error f := by
    unfold statisticsNow
    rw [if_neg (by simp [h])]
    exact ⟨_, rfl, rfl⟩
  have hvalue (name fallback : Value) : q.statisticNow name fallback = .error f := by
    unfold statisticNow
    rw [hnow]
    rfl
  constructor
  · intro c w
    refine ⟨f, hcode, (result_reading ..).trans ?_⟩
    rw [hnow]
    rfl
  · intro c w
    refine ⟨f, hcode, (result_reading ..).trans ?_⟩
    rw [hvalue]
    rfl
  · intro c w
    refine ⟨f, hcode, (result_reading ..).trans ?_⟩
    rw [hvalue]
    rfl

/-- A query gives the statistics that it keeps, or refuses because none were asked for. -/
theorem reports_or_silent (q : Query) : q.Reports q.metadata ∨ q.Silent := by
  cases hrun : q.metadata.hasRun with
  | true => exact .inl (reports_of_hasRun hrun)
  | false => exact .inr (silent_of_not_hasRun hrun)

end Query

namespace Trial

/-- Something that was not absorbed went wrong with the statement of a trial or with the request for
its statistics. -/
def BrokenOff (t : Trial) : Prop :=
  (∃ f, t.main = .failed f) ∨
    ∃ f, t.statistics = .error f ∧ f.hasCode .queryExecution = false

/-- A trial that brings nothing was broken off before. -/
theorem brokenOff_of_brought {t : Trial} (h : t.brought? = none) : t.BrokenOff := by
  have hreply {f : Failure} (hf : Query.Followup.ofReply t.statistics = .error f) :
      t.statistics = .error f ∧ f.hasCode .queryExecution = false := by
    unfold Query.Followup.ofReply at hf
    split at hf
    · exact nomatch hf
    · rename_i f' hf'
      split at hf
      · exact nomatch hf
      · rename_i hcode
        obtain rfl := Except.error.inj hf
        exact ⟨hf', by simpa using hcode⟩
  unfold brought? at h
  split at h
  · rename_i f hmain
    exact .inl ⟨f, hmain⟩
  · split at h
    · exact nomatch h
    · rename_i f hf
      exact .inr ⟨f, hreply hf⟩

end Trial

namespace Tracked

/-- After any run, a query gives the statistics that its last trial has brought, or none. If the
trial has brought none, because it was broken off before the engine had answered or refused the
request for them, the query gives those that it had before the trial, or none. -/
theorem statistics_follow {statement maxMatches : Value} {turns : List Turn} {t : Trial}
    (hlast : ((start statement maxMatches).follow turns).last = some t) :
    let q := ((start statement maxMatches).follow turns).query
    t.Posted ∧
      (∀ m, t.brought? = some m → t.Tells m ∧ (q.Reports m ∨ q.Silent)) ∧
      (t.brought? = none → t.BrokenOff ∧ (q.Reports t.known ∨ q.Silent)) := by
  intro q
  have hsound := sound_follow (sound_start statement maxMatches) turns
  have hgives {m : Metadata} (hm : t.brought?.getD t.known = m) : q.Reports m ∨ q.Silent := by
    rcases hsound.metadata t hlast with hkept | hcleared
    · rw [hm] at hkept
      rw [← hkept]
      exact q.reports_or_silent
    · exact .inr (Query.silent_of_not_hasRun (congrArg Metadata.hasRun hcleared))
  refine ⟨hsound.posted t hlast, fun m hm => ⟨Trial.tells_of_brought hm, hgives ?_⟩,
    fun hnone => ⟨Trial.brokenOff_of_brought hnone, hgives ?_⟩⟩
  · rw [hm]
    rfl
  · rw [hnone]
    rfl

/-- A query that is run, changed and run again gives the statistics of its second statement. -/
theorem statistics_follow_of_two :
    let counted (before : List Value) : Answer :=
      { columns := [.str "Variable_name", .str "Value"]
        rows := [[.str "total_found", .int before.length]] }
    let c : Collaborators := { connection := { engine := fun before _ => .answer (counted before) } }
    let turns : List Turn := [
      .call ⟨c, {}, .change (.select [.str "id"])⟩, .call ⟨c, {}, .change (.indexes [.str "rt"])⟩,
      .call ⟨c, {}, .execute⟩, .call ⟨c, {}, .change (.limit (.int 5))⟩,
      .call ⟨c, { sent := [.str "SELECT 1", .str "SELECT 2"] }, .execute⟩]
    let u := (start .null (.int 1000)).follow turns
    ∃ t m, (u.last = some t ∧ t.brought? = some m) ∧ t.Posted ∧ t.Tells m ∧
      (Metadata.totalFound m.values).toOption = some 3 ∧ (u.query.Reports m ∨ u.query.Silent) := by
  intro counted c turns u
  have hfound : (u.last.bind Trial.brought?).map (fun m => (Metadata.totalFound m.values).toOption) =
      some (some 3) := by decide +kernel
  obtain ⟨m, hm, htotal⟩ := Option.map_eq_some_iff.1 hfound
  obtain ⟨t, ht, hbrought⟩ := Option.bind_eq_some_iff.1 hm
  obtain ⟨hposted, hbrings, -⟩ := statistics_follow ht
  obtain ⟨htells, hgives⟩ := hbrings m hbrought
  exact ⟨t, m, ⟨ht, hbrought⟩, hposted, htells, htotal, hgives⟩

end Tracked

namespace Query

/-- On a connection that is lost, a query that was changed sends its new statement and is broken
off; it still gives the number of matches of its old one. -/
theorem statistics_of_broken_off :
    let engine : Engine := fun before statement =>
      if statement.asText? = some metaStatement then
        .answer
          { columns := [.str "Variable_name", .str "Value"]
            rows := [[.str "total_found", .str "7"]] }
      else if before = [] then .answer { columns := [.str "id"], rows := [[.int 1]] }
      else .refusal (.report .connection (.str "gone") [] {})
    let c : Collaborators := { connection := { engine, transport := .direct } }
    let made : List Call := [
      .change (.select [.str "id"]), .change (.indexes [.str "articles"]), .execute,
      .change (.limit (.int 5))]
    let q := ((create .null (.int 1000)).calls c {} made).1
    let w := ((create .null (.int 1000)).calls c {} made).2
    let o := q.execute c w
    (w.sent.map Value.text = ["SELECT id FROM articles LIMIT 0, 20", metaStatement] ∧
      o.world.sent.map Value.text =
        ["SELECT id FROM articles LIMIT 0, 20", metaStatement, "SELECT id FROM articles LIMIT 0, 5"]) ∧
      ∃ m, o.query.Reports m ∧ (Metadata.totalFound m.values).toOption = some 7 := by
  intro engine c made q w o
  have hsent : w.sent.map Value.text = ["SELECT id FROM articles LIMIT 0, 20", metaStatement] ∧
      o.world.sent.map Value.text =
        ["SELECT id FROM articles LIMIT 0, 20", metaStatement,
          "SELECT id FROM articles LIMIT 0, 5"] := by
    decide +kernel
  have hrun : o.query.metadata.hasRun = true := by decide +kernel
  have htotal : (Metadata.totalFound o.query.metadata.values).toOption = some 7 := by decide +kernel
  exact ⟨hsent, _, reports_of_hasRun hrun, htotal⟩

end Query

end SearchClient
