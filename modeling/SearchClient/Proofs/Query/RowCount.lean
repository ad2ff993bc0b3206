import SearchClient.Proofs.Query.Trial

/-!
# The number of rows

An error of execution is absorbed: the query has no rows then, stays dirty, and still says how many
rows there are. Whether a query says that depends on its flag and on the error that it keeps, which
its last trial and the changes behind it decide between them.

## Key results

- `Tracked.Sound.of_lastError`: what a query with an error keeps
- `Tracked.Sound.of_clean`: what a clean query keeps
- `Tracked.rowCountNow_follow`: when the number of rows is known
-/

namespace SearchClient

namespace Trial

/-- A trial that came to its end was answered, or its error was absorbed. -/
theorem Left.answered_or_absorbed {t : Trial} {q : Query} (h : t.Left q) (hdone : t.Completed) :
    t.Answered ∨ t.absorbed?.isSome := by
  have hinformed := h.informed hdone
  unfold brought? at hinformed
  cases hmain : t.main with
  | answered r => exact .inl ⟨r, hmain⟩
  | absorbed f => exact .inr (by rw [absorbed?, hmain]; rfl)
  | failed f =>
    rw [hmain] at hinformed
    exact nomatch hinformed

/-- An answer is no error. -/
theorem absorbed?_of_answered {t : Trial} (h : t.Answered) : t.absorbed? = none := by
  obtain ⟨r, hr⟩ := h
  rw [absorbed?, hr]

/-- No rows are counted when the error was absorbed. -/
theorem count_of_absorbed {t : Trial} (h : t.absorbed?.isSome) : t.count = 0 := by
  unfold absorbed? at h
  unfold count
  split at h
  · rename_i f hmain
    rw [hmain]
  · exact nomatch h

/-- Statistics that a trial brings were asked for. -/
theorem hasRun_of_brought {t : Trial} {m : Metadata} (h : t.brought? = some m) :
    m.hasRun = true := by
  rcases tells_of_brought h with ⟨r, -, rfl⟩ | ⟨f, -, -, rfl⟩
  · exact Metadata.hasRun_ofPairs _
  · rfl

end Trial

namespace Tracked

namespace Sound

variable {u : Tracked}

/-- A query with an error is dirty, has counted no rows and keeps none. -/
theorem of_lastError (h : u.Sound) (herror : u.query.lastError ≠ none) :
    u.query.state = .dirty ∧ u.query.rowCount = some 0 ∧
      ∃ r, u.query.results = some r ∧ r.Empty := by
  obtain ⟨t, -, -, hleft⟩ := h.unaltered (.inr herror)
  have habsorbed : t.absorbed?.isSome = true := by
    rw [← hleft.lastError]
    exact Option.isSome_iff_ne_none.2 herror
  refine ⟨?_, ?_, Trial.empty_of_absorbed hleft habsorbed⟩
  · cases hstate : u.query.state with
    | dirty => rfl
    | clean =>
      have hnone := Trial.absorbed?_of_answered (hleft.clean.1 hstate).1
      exact absurd (hleft.lastError.trans hnone) herror
  · rw [hleft.rowCount, Trial.count_of_absorbed habsorbed]

/-- A clean query keeps no error, and everything that can be asked about its last execution. -/
theorem of_clean (h : u.Sound) (hclean : u.query.state = .clean) :
    u.query.lastError = none ∧ u.query.results.isSome ∧ u.query.rowCount.isSome ∧
      u.query.metadata.hasRun = true := by
  obtain ⟨t, -, -, hleft⟩ := h.unaltered (.inl hclean)
  obtain ⟨hanswered, hdone⟩ := hleft.clean.1 hclean
  obtain ⟨r, -, hresults⟩ := hleft.hydrated hdone
  obtain ⟨m, hm⟩ := Option.isSome_iff_exists.1 (hleft.informed hdone)
  refine ⟨hleft.lastError.trans (Trial.absorbed?_of_answered hanswered), ?_, ?_, ?_⟩
  · rw [hresults]
    rfl
  · rw [hleft.rowCount]
    rfl
  · rw [hleft.metadata, hm]
    exact Trial.hasRun_of_brought hm

/-- The number of rows is known if the query was not altered since its last trial, and that trial
came to its end or absorbed the error of its statement. -/
theorem rowCountNow_iff (h : u.Sound) :
    (∃ n, u.query.rowCountNow = .ok n) ↔
      ∃ t, u.last = some t ∧ u.altered = false ∧ (t.Completed ∨ t.absorbed?.isSome) := by
  constructor
  · rintro ⟨n, hn⟩
    have hkeeps : u.query.state = .clean ∨ u.query.lastError ≠ none := by
      cases hstate : u.query.state with
      | clean => exact .inl rfl
      | dirty => exact .inr fun herror => Query.rowCountNow_of_dirty hstate herror n hn
    obtain ⟨t, hlast, haltered, hleft⟩ := h.unaltered hkeeps
    refine ⟨t, hlast, haltered, ?_⟩
    rcases hkeeps with hclean | herror
    · exact .inl (hleft.clean.1 hclean).2
    · right
      rw [← hleft.lastError]
      exact Option.isSome_iff_ne_none.2 herror
  · rintro ⟨t, hlast, haltered, hdone⟩
    have hleft := h.left t hlast haltered
    have hended : t.Answered ∧ t.Completed ∨ t.absorbed?.isSome := by
      rcases hdone with hdone | habsorbed
      · exact (hleft.answered_or_absorbed hdone).imp_left fun hanswered => ⟨hanswered, hdone⟩
      · exact .inr habsorbed
    rcases hended with hclean | habsorbed
    · exact ⟨_, Query.rowCountNow_of_clean (hleft.clean.2 hclean)⟩
    · obtain ⟨f, hf⟩ := Option.isSome_iff_exists.1 habsorbed
      exact ⟨_, Query.rowCountNow_of_lastError (hleft.lastError.trans hf)⟩

/-- There are no rows when the error of the statement was absorbed. -/
theorem rowCountNow_of_absorbed (h : u.Sound) {t : Trial} (hlast : u.last = some t)
    (haltered : u.altered = false) (habsorbed : t.absorbed?.isSome) :
    u.query.rowCountNow = .ok 0 := by
  have hleft := h.left t hlast haltered
  obtain ⟨f, hf⟩ := Option.isSome_iff_exists.1 habsorbed
  rw [Query.rowCountNow_of_lastError (hleft.lastError.trans hf), Query.keptCount, hleft.rowCount,
    Trial.count_of_absorbed habsorbed]
  rfl

end Sound

/-- A query with an error is dirty and has no rows; a clean query has no error and can say
everything about its last execution; and the number of rows is known if and only if there was a
trial, the query was not altered since, and the trial came to its end or absorbed the error of its
statement, in which case the number is zero. -/
theorem rowCountNow_follow (statement maxMatches : Value) (turns : List Turn) :
    let u := (start statement maxMatches).follow turns
    (u.query.lastError ≠ none →
        u.query.state = .dirty ∧ u.query.rowCount = some 0 ∧
          ∃ r, u.query.results = some r ∧ r.Empty) ∧
      (u.query.state = .clean →
        u.query.lastError = none ∧ u.query.results.isSome ∧ u.query.rowCount.isSome ∧
          u.query.metadata.hasRun = true ∧ (∃ n, u.query.rowCountNow = .ok n) ∧
          ∃ values, u.query.statisticsNow = .ok values) ∧
      ((∃ n, u.query.rowCountNow = .ok n) ↔
        ∃ t, u.last = some t ∧ u.altered = false ∧ (t.Completed ∨ t.absorbed?.isSome)) ∧
      ∀ t, u.last = some t → u.altered = false → t.absorbed?.isSome →
        u.query.rowCountNow = .ok 0 := by
  intro u
  have hsound : u.Sound := sound_follow (sound_start statement maxMatches) turns
  refine ⟨hsound.of_lastError, fun hclean => ?_, hsound.rowCountNow_iff,
    fun t hlast haltered habsorbed => hsound.rowCountNow_of_absorbed hlast haltered habsorbed⟩
  obtain ⟨herror, hresults, hcount, hrun⟩ := hsound.of_clean hclean
  exact ⟨herror, hresults, hcount, hrun, ⟨_, Query.rowCountNow_of_clean hclean⟩,
    ⟨_, Query.statisticsNow_of_hasRun hrun⟩⟩

/-- A change may be refused before it touches anything: when the number of the next alias cannot be
written, the number of rows is known after alternatives were refused as it was before. -/
theorem rowCountNow_after_unnamed_alternatives :
    let rows : Answer :=
      { columns := [.str "id"], rows := [[.int 1], [.int 2]], reported := .int 2 }
    let c : Collaborators := { connection := { engine := fun _ _ => .answer rows } }
    let w : World := { aliases := { start := .whole (10 ^ Value.maxDigits) } }
    let either : Call := .change (.alternatives (.list [.str "a = 1"]))
    let u := (start .null (.int 1000)).follow [
      .call ⟨c, {}, .change (.select [.str "id"])⟩,
      .call ⟨c, {}, .change (.indexes [.str "articles"])⟩, .call ⟨c, {}, .execute⟩]
    u.query.rowCountNow = .ok 2 ∧ (u.query.call c w either).result = .error Value.tooLong ∧
      (u.make ⟨c, w, either⟩).query.rowCountNow = .ok 2 := by
  intro rows c w either u
  have hknown : u.query.state = .clean ∧ u.query.keptCount = 2 := by decide +kernel
  have hcount : u.query.rowCountNow = .ok 2 := by
    rw [Query.rowCountNow_of_clean hknown.1, hknown.2]
  have hitems : (Value.list [.str "a = 1"]).walk? = some [.str "a = 1"] := rfl
  -- Said of any such number, because the power that is meant is too large to be computed.
  have hrefused (n : Int) (hlong : Value.fitsDigits n = false) :
      let o := u.query.call c { aliases := { start := .whole n } } either
      o.result = .error Value.tooLong ∧ o.query = u.query := by
    have hname : ({ start := .whole n } : AliasCounter).draw.1 = .error Value.tooLong :=
      (AliasCounter.label_whole "orX" n).trans (by rw [hlong]; rfl)
    obtain ⟨hresult, hquery, -⟩ :=
      u.query.call_of_unnamed c (w := { aliases := { start := .whole n } }) hitems
        (List.cons_ne_nil _ _) (by decide) hname
    exact ⟨hresult, hquery⟩
  have hlong : Value.fitsDigits (10 ^ Value.maxDigits) = false :=
    Bool.eq_false_iff.2 fun h => Nat.lt_irrefl _ (Value.fitsDigits_pow.1 h)
  obtain ⟨hresult, hquery⟩ := hrefused _ hlong
  refine ⟨hcount, hresult, ?_⟩
  rw [query_make, hquery, hcount]

end Tracked

end SearchClient
