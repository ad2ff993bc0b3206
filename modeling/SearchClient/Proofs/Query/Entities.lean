import SearchClient.Proofs.Query.Trial

/-!
# Entities in the place of rows

An execution keeps the rows of the engine where the entities are kept that it makes of them later,
so there are moments at which a bound query holds plain rows. Nobody gets to see these: the query is
dirty as long as its rows have not been replaced, and a dirty query is run again before it gives its
results.

The rows can only be replaced if they have the column by which the entities are found, so a change
that binds a query selects it. Selected columns are never dropped.

## Key results

- `Query.result_of_results`: where the results of a call come from
- `Query.Covered`: the column of the binding is selected, whatever is done
- `Tracked.entities_follow`: a bound query gives the entities for the rows of its last trial
-/

namespace SearchClient

namespace Query

/-! ### Results -/

/-- Asking for results gives what is kept afterwards: by a clean query, or after a trial that came
to its end. -/
theorem result_of_results {q : Query} {c : Collaborators} {w : World} {r : Results}
    (h : (q.call c w .results).result = .ok (.results r)) :
    r = (q.call c w .results).query.currentResults ∧
      (q.state = .clean ∨ ∃ t, q.trial? c w .results = some t ∧ t.Completed) := by
  have hcall : (q.call c w .results).result = (q.resultsNow c w).result.map .results := rfl
  have hquery : (q.call c w .results).query = (q.resultsNow c w).query := rfl
  rw [hcall] at h
  obtain ⟨r', hr, hsame⟩ := Except.map_eq_ok.1 h
  obtain rfl := Returned.results.inj hsame
  rw [hquery]
  unfold resultsNow at hr ⊢
  cases hstate : q.state with
  | clean =>
    rw [hstate] at hr
    exact ⟨(Except.ok.inj hr).symm, .inl rfl⟩
  | dirty =>
    rw [hstate] at hr
    obtain ⟨n, hn, hkept⟩ := Except.map_eq_ok.1 hr
    refine ⟨hkept.symm, .inr ?_⟩
    have hrun : (q.run c (q.entered w)).result = .ok n := hn
    unfold run at hrun
    rw [hstate] at hrun
    unfold trial?
    rw [if_pos (runs_results_of_dirty hstate)]
    rcases hstatement : q.statement with ⟨f | statement, asked⟩
    · rw [hstatement] at hrun
      exact nomatch hrun
    · rw [hstatement] at hrun
      exact ⟨_, rfl, n, hrun⟩

end Query

/-! ### Selected columns -/

namespace Mutation

/-- A part of a query that a change is not about. -/
private theorem content_apply {m : Mutation} (q : Query) (aliases : AliasCounter)
    (h : Part.select ∉ m.parts) :
    (m.apply q aliases).query.clauses.select = q.clauses.select ∧
      (m.apply q aliases).query.binding = q.binding := by
  have hcontent : ((m.apply q aliases).query.clauses.select, (m.apply q aliases).query.binding,
        (m.apply q aliases).aliases, [] ++ m.drawn aliases) =
      (q.clauses.select, q.binding, aliases, []) :=
    Draft.content_change_of_notMem ⟨q, aliases, []⟩ h
  exact ⟨congrArg (·.1) hcontent, congrArg (·.2.1) hcontent⟩

/-- A change selects more columns, and drops none. -/
theorem select_apply (m : Mutation) (q : Query) (aliases : AliasCounter) :
    ∃ columns, (m.apply q aliases).query.clauses.select = q.clauses.select ++ columns := by
  have hnone {q' : Query} (h : q'.clauses.select = q.clauses.select) :
      ∃ columns, q'.clauses.select = q.clauses.select ++ columns :=
    ⟨[], by rw [h, List.append_nil]⟩
  by_cases hparts : Part.select ∈ m.parts
  · cases m with
    | entities source column =>
      rcases query_entities source column q aliases with hquery | ⟨columns, -, hquery⟩
      · exact hnone (by rw [hquery]; rfl)
      · exact ⟨columns, by rw [hquery]; rfl⟩
    | select columns => exact ⟨_, rfl⟩
    | selectMissing column =>
      rcases query_selectMissing column q aliases with hquery | hquery
      · exact hnone (by rw [hquery])
      · exact ⟨[column], by rw [hquery]; rfl⟩
    | alternatives components =>
      rcases query_alternatives components q aliases with hsame | ⟨column, entries, hquery⟩
      · exact hnone (by rw [hsame])
      · exact ⟨[.str column], by rw [hquery]; rfl⟩
    | _ => simp [parts] at hparts
  · exact hnone (content_apply q aliases hparts).1

/-- Only a change that brings a source of entities touches the binding. -/
theorem binding_apply {m : Mutation} (h : ∀ source column, m ≠ .entities source column) (q : Query)
    (aliases : AliasCounter) : (m.apply q aliases).query.binding = q.binding := by
  by_cases hparts : Part.select ∈ m.parts
  · cases m with
    | entities source column => exact absurd rfl (h source column)
    | select columns => rfl
    | selectMissing column =>
      unfold apply
      dsimp only
      split <;> rfl
    | alternatives components =>
      rcases query_alternatives components q aliases with hsame | ⟨column, entries, hquery⟩
      · rw [hsame]
      · rw [hquery]
        rfl
    | _ => simp [parts] at hparts
  · exact (content_apply q aliases hparts).2

end Mutation

namespace Query

/-- The column by which the entities of a query are found is selected, or all columns are. -/
def Covered (q : Query) : Prop :=
  ∀ b, q.binding = some b →
    b.column ∈ q.clauses.select ∨ q.selects b.column = true ∨ q.selects (.str "*") = true

/-- Selecting more does no harm. -/
private theorem Covered.of_grown {q q' : Query} (h : q.Covered)
    (hbinding : ∀ b', q'.binding = some b' → ∃ b, q.binding = some b ∧ b'.column = b.column)
    (hselect : ∃ columns, q'.clauses.select = q.clauses.select ++ columns) : q'.Covered := by
  obtain ⟨columns, hselect⟩ := hselect
  have hstill (v : Value) (hv : q.selects v = true) : q'.selects v = true := by
    unfold selects Value.isAmong at hv ⊢
    rw [hselect, List.any_append, hv, Bool.true_or]
  intro b' hb'
  obtain ⟨b, hb, hcolumn⟩ := hbinding b' hb'
  rw [hcolumn]
  rcases h b hb with hmem | hselected | hall
  · left
    rw [hselect]
    exact List.mem_append_left _ hmem
  · exact .inr (.inl (hstill _ hselected))
  · exact .inr (.inr (hstill _ hall))

/-- A query is covered when it has just been bound. -/
private theorem covered_bind (q : Query) (source : EntityQuery) (column : Value) :
    (q.bind source column).Covered := by
  intro b hb
  unfold bind at hb ⊢
  dsimp only at hb ⊢
  split
  · rename_i hselected
    rw [if_pos hselected] at hb
    obtain rfl := Option.some.inj hb
    rcases Bool.or_eq_true_iff.1 hselected with hcolumn | hall
    · exact .inr (.inl hcolumn)
    · exact .inr (.inr hall)
  · rename_i hselected
    rw [if_neg hselected] at hb
    obtain rfl := Option.some.inj hb
    exact .inl (List.mem_append_right _ (List.mem_singleton.2 rfl))

/-- A change that binds a query selects the column that it is bound under. -/
theorem covered_apply (m : Mutation) {q : Query} (aliases : AliasCounter) (h : q.Covered) :
    (m.apply q aliases).query.Covered := by
  by_cases hentities : ∃ source column, m = .entities source column
  · obtain ⟨source, column, rfl⟩ := hentities
    unfold Mutation.apply Mutation.applyEntities
    dsimp only
    split
    · exact h
    · exact covered_bind _ _ _
  · have hbinding := Mutation.binding_apply (fun source column hm =>
      hentities ⟨source, column, hm⟩) q aliases
    exact h.of_grown (fun b hb => ⟨b, hbinding.symm.trans hb, rfl⟩) (m.select_apply q aliases)

/-- A call that is no change asks the source of the entities, and does nothing else to the
binding. -/
private theorem binding_call {q : Query} {call : Call} (h : ∀ m, call ≠ .change m)
    (c : Collaborators) (w : World) :
    (q.call c w call).query.binding = q.binding ∨
      ∃ asked, (q.call c w call).query.binding = q.binding.map (EntityBinding.after asked) := by
  cases htrial : q.trial? c w call with
  | some t =>
    obtain ⟨asked, hasked⟩ := (left_of_trial htrial).binding
    rw [binding_of_trial htrial] at hasked
    exact .inr ⟨asked, hasked⟩
  | none =>
    left
    by_cases hclear : call = .clear
    · subst hclear
      rfl
    · have hsame : (q.call c w call).query = q ∨ (q.call c w call).query = q.statement.2 := by
        rcases call_of_no_trial htrial with ⟨halters, -⟩ | ⟨-, hsame⟩
        · unfold Call.alters at halters
          split at halters
          · exact absurd rfl (h _)
          · exact absurd rfl hclear
          · exact nomatch halters
        · exact hsame
      rcases hsame with hsame | hsame
      · rw [hsame]
      · rw [hsame]
        rcases q.statement_snd with hasked | ⟨text, hasked⟩
        · rw [hasked]
        · rw [hasked]

/-- So the column of the binding stays selected, whatever is called. -/
theorem covered_call {q : Query} (h : q.Covered) (c : Collaborators) (w : World) (call : Call) :
    (q.call c w call).query.Covered := by
  by_cases hchange : ∃ m, call = .change m
  · obtain ⟨m, rfl⟩ := hchange
    have hquery : (q.call c w (.change m)).query = (m.apply q w.aliases).query := query_change q m w
    rw [hquery]
    exact covered_apply m w.aliases h
  · have hother : ∀ m, call ≠ .change m := fun m hm => hchange ⟨m, hm⟩
    refine h.of_grown (fun b' hb' => ?_) ⟨[], by rw [(kept_call c q w hother).clauses,
      List.append_nil]⟩
    rcases binding_call hother c w with hsame | ⟨asked, hasked⟩
    · exact ⟨b', hsame.symm.trans hb', rfl⟩
    · rw [hasked] at hb'
      obtain ⟨b, hb, rfl⟩ := Option.map_eq_some_iff.1 hb'
      exact ⟨b, hb, rfl⟩

end Query

namespace Tracked

theorem covered_turn {u : Tracked} (h : u.query.Covered) (turn : Turn) :
    (u.turn turn).query.Covered := by
  cases turn with
  | call m =>
    change (u.make m).query.Covered
    rw [query_make]
    exact Query.covered_call h _ _ _
  | copy =>
    unfold Tracked.turn
    dsimp only
    split
    · rename_i fresh hcopy
      obtain rfl := Query.eq_cleared_of_copy hcopy
      exact h
    · exact h

theorem covered_follow {u : Tracked} (h : u.query.Covered) (turns : List Turn) :
    (u.follow turns).query.Covered := by
  induction turns generalizing u with
  | nil => exact h
  | cons turn rest ih => exact ih (covered_turn h turn)

namespace Sound

variable {u : Tracked}

/-- Results that are given come from a trial that was completed, with nothing altered behind it. -/
theorem trial_of_results (h : u.Sound) {c : Collaborators} {w : World} {r : Results}
    (hresult : (u.query.call c w .results).result = .ok (.results r)) :
    ∃ t, (u.make ⟨c, w, .results⟩).last = some t ∧
      (u.make ⟨c, w, .results⟩).altered = false ∧ t.hydration = .ok r ∧
      ∃ asked, t.binding = u.query.binding.map (EntityBinding.after asked) := by
  obtain ⟨hr, hfrom⟩ := Query.result_of_results hresult
  have hgives {t : Trial} (hleft : t.Left (u.query.call c w .results).query)
      (hdone : t.Completed) : t.hydration = .ok r := by
    obtain ⟨r', hhydration, hresults⟩ := hleft.hydrated hdone
    rw [hr, Query.currentResults, hresults]
    exact hhydration
  have hafter (b : Option EntityBinding) : ∃ asked, b = b.map (EntityBinding.after asked) := by
    cases b with
    | none => exact ⟨0, rfl⟩
    | some b => exact ⟨b.source.asked, rfl⟩
  rcases hfrom with hclean | ⟨t, htrial, hdone⟩
  · -- A clean query is not run, so its last trial is still the one that left it clean.
    have hnone := Query.trial?_of_clean hclean c w .results
    have hsame : (u.query.call c w .results).query = u.query := by
      change (u.query.resultsNow c w).query = u.query
      unfold Query.resultsNow
      rw [hclean]
    obtain ⟨t, hlast, haltered, hleft⟩ := h.unaltered (.inl hclean)
    refine ⟨t, ?_, ?_, hgives (by rwa [hsame]) (hleft.clean.1 hclean).2, ?_⟩
    · unfold make
      rw [hnone]
      exact hlast
    · unfold make
      rw [hnone]
      dsimp only
      rw [haltered]
      rfl
    · obtain ⟨asked, hasked⟩ := hleft.binding
      obtain ⟨asked', hasked'⟩ := hafter t.binding
      refine ⟨asked', ?_⟩
      rw [hasked, Option.map_map]
      exact hasked'
  · have hleft := Query.left_of_trial htrial
    refine ⟨t, ?_, ?_, hgives hleft hdone, ?_⟩
    · unfold make
      rw [htrial]
    · unfold make
      rw [htrial]
    · rw [Query.binding_of_trial htrial]
      exact hafter u.query.binding

/-- A query whose rows could not be replaced is run again before it gives its results. -/
theorem runs_of_hydration (h : u.Sound) {t : Trial} (hlast : u.last = some t) {f : Failure}
    (hfails : t.hydration = .error f) :
    u.query.state = .dirty ∧ u.query.runs .results = true := by
  have hdirty : u.query.state = .dirty := by
    cases hstate : u.query.state with
    | dirty => rfl
    | clean =>
      obtain ⟨t', hlast', -, hleft⟩ := h.unaltered (.inl hstate)
      obtain rfl := Option.some.inj (hlast.symm.trans hlast')
      obtain ⟨r, hr, -⟩ := hleft.hydrated (hleft.clean.1 hstate).2
      exact nomatch hfails.symm.trans hr
  exact ⟨hdirty, Query.runs_results_of_dirty hdirty⟩

end Sound

/-- What the rows of a trial give under a binding with a column. -/
private theorem entities_of_hydration {t : Trial} {b : EntityBinding} (hb : t.binding = some b)
    (hcolumn : b.column.isNull = false) {r : Results} (h : t.hydration = .ok r) :
    ∃ entities, r = .entities entities ∧ ∀ w,
      (Hydration.hydrate (t.rows.map Cells.ofRow) b.source b.column w).result = .ok entities := by
  unfold Trial.hydration EntityBinding.results at h
  rw [hb] at h
  dsimp only at h
  rw [if_neg (by simp [hcolumn])] at h
  obtain ⟨entities, hentities, rfl⟩ := Except.map_eq_ok.1 h
  exact ⟨entities, rfl, fun w => (Hydration.hydrate_congr _ _ _ w {}).1.trans hentities⟩

/-- Bound under no column, the rows of a trial are its results. -/
private theorem rows_of_hydration {t : Trial} {b : EntityBinding} (hb : t.binding = some b)
    (hcolumn : b.column.isNull = true) : t.hydration = .ok (.rows t.rows) := by
  unfold Trial.hydration EntityBinding.results
  rw [hb]
  dsimp only
  rw [if_pos hcolumn]

/-- When a query that is bound under a column gives its results, they are the entities that the
source gives for the rows of the last trial, and nothing was altered behind that trial. A query whose
rows could not be replaced is dirty. The column of the binding, or every column, is selected. -/
theorem entities_follow (statement maxMatches : Value) (turns : List Turn) :
    let u := (start statement maxMatches).follow turns
    (∀ b c w r, u.query.binding = some b → b.column.isNull = false →
        (u.query.call c w .results).result = .ok (.results r) →
        ∃ t asked entities, (u.make ⟨c, w, .results⟩).last = some t ∧
          (u.make ⟨c, w, .results⟩).altered = false ∧ r = .entities entities ∧
          ∀ w', (Hydration.hydrate (t.rows.map Cells.ofRow) { b.source with asked } b.column
            w').result = .ok entities) ∧
      (∀ t f, u.last = some t → t.hydration = .error f →
        u.query.state = .dirty ∧ u.query.runs .results = true) ∧
      u.query.Covered := by
  intro u
  have hsound : u.Sound := sound_follow (sound_start statement maxMatches) turns
  have hunbound : (start statement maxMatches).query.Covered := by
    intro b hb
    exact nomatch (show none = some b from hb)
  have hcovered : u.query.Covered := covered_follow hunbound turns
  refine ⟨fun b c w r hbinding hcolumn hresult => ?_,
    fun t f hlast hfails => hsound.runs_of_hydration hlast hfails, hcovered⟩
  obtain ⟨t, hlast, haltered, hhydration, asked, hasked⟩ := hsound.trial_of_results hresult
  rw [hbinding] at hasked
  obtain ⟨entities, hr, hentities⟩ := entities_of_hydration hasked hcolumn hhydration
  exact ⟨t, asked, entities, hlast, haltered, hr, hentities⟩

/-- Without a column nothing is replaced: a query that is bound under none gives its rows. -/
theorem rows_of_unnamed_column :
    let found : Answer := { columns := [.str "id"], rows := [[.int 7]] }
    let c : Collaborators := { connection := { engine := fun _ _ => .answer found } }
    let source := EntityQuery.ofEntities [{ label := "a", shown := "Entity(a)" }] true []
    let u := (start (.str "CALL ARTICLES") (.int 1000)).follow [
      .call ⟨c, {}, .change (.entities source .null)⟩]
    (∃ b, u.query.binding = some b) ∧
      ∃ row, (u.query.call c {} .results).result = .ok (.results (.rows [row])) := by
  intro found c source u
  have hbinding : u.query.binding = some ⟨source, .null⟩ := rfl
  have hsound : u.Sound := sound_follow (sound_start _ _) _
  refine ⟨⟨_, hbinding⟩, ?_⟩
  have hdone : (u.query.resultsNow c {}).result.isOk = true := by decide +kernel
  have hone : (u.make ⟨c, {}, .results⟩).last.map (·.rows.length) = some 1 := by decide +kernel
  have hcall : (u.query.call c {} .results).result =
      (u.query.resultsNow c {}).result.map .results := rfl
  cases hresult : (u.query.resultsNow c {}).result with
  | error f =>
    rw [hresult] at hdone
    exact nomatch hdone
  | ok r =>
    rw [hresult] at hcall
    obtain ⟨t, hlast, -, hhydration, asked, hasked⟩ := hsound.trial_of_results hcall
    have hrows : t.hydration = .ok (.rows t.rows) :=
      rows_of_hydration (hasked.trans (congrArg _ hbinding)) rfl
    obtain rfl := Except.ok.inj (hrows.symm.trans hhydration)
    rw [hlast] at hone
    obtain ⟨row, hrow⟩ := List.length_eq_one_iff.1 (Option.some.inj hone)
    exact ⟨row, by rw [hcall, hrow]; rfl⟩

end Tracked

end SearchClient
