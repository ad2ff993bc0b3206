import SearchClient.Proofs.Query.Trial
import SearchClient.Proofs.Statement.Compile

/-!
# The statement of a query after any run

Rendering takes the clauses as they are: it splits a range into two bounds and joins names without
a look at them. What keeps it from failing is what every change keeps up: comparisons are built with
a value that fits their operator, and the names and the window are as the changes were given them.
Whether the query is clean or dirty, it says what its clauses make up, so after any run it has a
statement unless a column or an index is missing.

## Key results

- `Mutation.named_apply`: a change that names by texts keeps the names texts
- `Query.statement_call`: a query says what its clauses make up
- `Tracked.statement_follow`: when a query has a statement
-/

namespace SearchClient

namespace Mutation

/-- What a change names is named by texts, and an end of the window is an integer or nothing. -/
def Named : Mutation → Prop
  | entities _ column | selectMissing column | group _ column => ∃ name, column.asText? = some name
  | select columns | indexes columns => ∀ v ∈ columns, ∃ name, v.asText? = some name
  | offset v | limit v => v = .null ∨ ∃ n, v = .int n
  | _ => True

private theorem named_ofEntry {α : Type} {kept : Query} (hkept : kept.clauses.Named)
    (aliases : AliasCounter) (entry : Except Failure α) {put : α → Query}
    (hput : ∀ a, (put a).clauses.Named) :
    (Edit.ofEntry kept aliases entry put).query.clauses.Named := by
  rcases Edit.ofEntry_query kept aliases entry put with ⟨a, -, h⟩ | h
  · rw [h]
    exact hput a
  · rw [h]
    exact hkept

/-- Names that are texts stay so when others that are texts stand behind them. -/
private theorem named_append {names more : List Value}
    (h : ∀ v ∈ names, ∃ name, v.asText? = some name)
    (hmore : ∀ v ∈ more, ∃ name, v.asText? = some name) :
    ∀ v ∈ names ++ more, ∃ name, v.asText? = some name := by
  intro v hv
  rcases List.mem_append.1 hv with hold | hnew
  · exact h v hold
  · exact hmore v hnew

private theorem named_addColumns {q : Query} (h : q.clauses.Named) {columns : List Value}
    (hcolumns : ∀ v ∈ columns, ∃ name, v.asText? = some name) :
    (q.addColumns columns).clauses.Named :=
  ⟨named_append h.select hcolumns, h.indexes, h.groupBy, h.offset, h.limit⟩

/-- A change that names by texts keeps the names texts, whether it is accepted or refused. -/
theorem named_apply {m : Mutation} (hm : m.Named) {q : Query} (aliases : AliasCounter)
    (h : q.clauses.Named) : (m.apply q aliases).query.clauses.Named := by
  have hone {v : Value} (hv : ∃ name, v.asText? = some name) :
      ∀ x ∈ [v], ∃ name, x.asText? = some name :=
    fun x hx => List.mem_singleton.1 hx ▸ hv
  have hdirty : q.dirtied.clauses.Named := h
  cases m with
  | statement s => exact h
  | entities source column =>
    rcases query_entities source column q aliases with hquery | ⟨columns, hcolumns, hquery⟩
    all_goals rw [hquery]
    · exact h
    · exact named_addColumns h fun x hx => hone hm x (hcolumns hx)
  | select columns =>
    refine named_addColumns hdirty ?_
    split
    · exact hone ⟨"*", rfl⟩
    · exact hm
  | selectMissing column =>
    rcases query_selectMissing column q aliases with hquery | hquery
    all_goals rw [hquery]
    · exact h
    · exact named_addColumns hdirty (hone hm)
  | indexes names => exact ⟨h.select, named_append h.indexes hm, h.groupBy, h.offset, h.limit⟩
  | group p column =>
    refine ⟨h.select, h.indexes, ?_, h.offset, h.limit⟩
    cases p with
    | replace => exact hone hm
    | append => exact named_append h.groupBy (hone hm)
  | offset first => exact ⟨h.select, h.indexes, h.groupBy, hm, h.limit⟩
  | limit count => exact ⟨h.select, h.indexes, h.groupBy, h.offset, hm⟩
  | alternatives components =>
    rcases query_alternatives components q aliases with hquery | ⟨column, entries, hquery⟩
    all_goals rw [hquery]
    · exact h
    · have hselect := named_append h.select (hone (v := .str column) ⟨column, rfl⟩)
      exact ⟨hselect, h.indexes, h.groupBy, h.offset, h.limit⟩
  -- Any other change is about entries that bring names of their own.
  | _ =>
    refine named_ofEntry ?_ _ _ fun _ => ?_
    · exact ⟨h.select, h.indexes, h.groupBy, h.offset, h.limit⟩
    · exact ⟨h.select, h.indexes, h.groupBy, h.offset, h.limit⟩

end Mutation

namespace Query

/-- A query that says what its clauses make up does so after a call, whatever the call is. -/
theorem statement_call {q : Query} (h : q.statement.1 = q.currentStatement) (c : Collaborators)
    (w : World) (call : Call) :
    (q.call c w call).query.statement.1 = (q.call c w call).query.currentStatement := by
  cases hstate : (q.call c w call).query.state with
  | dirty => exact statement_of_dirty hstate
  | clean =>
    rcases (called_call c q w call).clean hstate with
      ⟨-, -, hsame | hasked⟩ | ⟨e, -, -, -, hcoherent⟩
    · rw [hsame]
      exact h
    · rw [hasked, statement_statement, h]
      exact (kept_statement q).currentStatement_eq.symm
    · exact hcoherent.statement.trans hcoherent.current.symm

end Query

namespace Tracked

theorem statement_turn {u : Tracked} (h : u.query.statement.1 = u.query.currentStatement)
    (turn : Turn) : (u.turn turn).query.statement.1 = (u.turn turn).query.currentStatement := by
  cases turn with
  | call m =>
    have hquery : (u.turn (.call m)).query =
        (u.query.call m.collaborators m.world m.call).query := query_make u m
    rw [hquery]
    exact Query.statement_call h m.collaborators m.world m.call
  | copy =>
    unfold Tracked.turn
    dsimp only
    cases hcopy : u.query.copy.1 with
    | error f => exact h
    | ok fresh =>
      obtain rfl := Query.eq_cleared_of_copy hcopy
      exact Query.statement_of_dirty rfl

theorem currentStatement_follow {u : Tracked}
    (h : u.query.statement.1 = u.query.currentStatement) (turns : List Turn) :
    (u.follow turns).query.statement.1 = (u.follow turns).query.currentStatement := by
  induction turns generalizing u with
  | nil => exact h
  | cons turn rest ih => exact ih (statement_turn h turn)

/-- The clauses are named by texts if all changes of the run named by texts, and comparisons are
shaped. -/
theorem named_follow {statement maxMatches : Value} {turns : List Turn}
    (hnamed : ∀ m change, Turn.call m ∈ turns → m.call = .change change → change.Named) :
    ((start statement maxMatches).follow turns).query.clauses.Named ∧
      ((start statement maxMatches).follow turns).query.clauses.Shaped := by
  refine invariant_follow (P := fun q => q.clauses.Named ∧ q.clauses.Shaped)
    (fun m change hm hcall q hq => ?_) (fun q q' hkept hq => ?_) ?_
  · exact ⟨Mutation.named_apply (hnamed m change hm hcall) _ hq.1, change.shaped_apply _ hq.2⟩
  · rw [hkept.clauses]
    exact hq
  · exact ⟨⟨nofun, nofun, nofun, .inr ⟨0, rfl⟩, .inr ⟨20, rfl⟩⟩,
      Clauses.shaped_of_eq_nil rfl rfl⟩

/-- A query whose changes named by texts, and that has no statement of its own, refuses to give its
statement if and only if it has no selected column or no index, as long as its integers can be
written. The refusal is then one of arguments, and it has another reason only if an integer cannot be
written; anything else that the query gives is a text. Each of its comparisons is written with both
bounds of its range or, under another operator, with all the values of its list in parentheses. -/
theorem statement_follow {statement maxMatches : Value} {turns : List Turn}
    (hnamed : ∀ m change, Turn.call m ∈ turns → m.call = .change change → change.Named)
    (hraw : ((start statement maxMatches).follow turns).query.raw = none) :
    let q := ((start statement maxMatches).follow turns).query
    (∀ c w,
      (q.clauses.Writable q.maxMatches →
        ((∃ f, (q.call c w .statement).result = .error f) ↔
          q.clauses.select = [] ∨ q.clauses.indexes = [])) ∧
      (q.clauses.select = [] ∨ q.clauses.indexes = [] →
        ∃ f, (q.call c w .statement).result = .error f ∧ f.hasCode .invalidArgument = true) ∧
      (∀ f, (q.call c w .statement).result = .error f →
        f.hasCode .invalidArgument = true ∨
          ¬q.clauses.Writable q.maxMatches ∧ f = Value.tooLong) ∧
      ∀ r, (q.call c w .statement).result = .ok r → ∃ text, r = .value (.str text)) ∧
      ∀ c, q.clauses.Compares c → c.value.isWritable = true → ∃ right,
        Render.condition (.comparison c) =
          .ok (c.column.toList ++ ' ' :: c.operator.text.toList ++ ' ' :: right) ∧
        (c.operator = .between → ∃ lower upper, c.value = .tuple [lower, upper] ∧
          right = Render.valueText lower ++ " AND ".toList ++ Render.valueText upper) ∧
        (c.operator ≠ .between → c.value.isSequence = true →
          right = '(' :: separated ", " (c.value.members.map Render.valueText) ++ [')']) := by
  intro q
  obtain ⟨hnames, hshaped⟩ : q.clauses.Named ∧ q.clauses.Shaped := named_follow hnamed
  have hstatement : q.statement.1 = (q.clauses.compile q.maxMatches).map .str := by
    have hfresh : (start statement maxMatches).query.statement.1 =
        (start statement maxMatches).query.currentStatement := Query.statement_of_dirty rfl
    have hcurrent : q.statement.1 = q.currentStatement := currentStatement_follow hfresh turns
    rw [hcurrent]
    unfold Query.currentStatement
    rw [show q.raw = none from hraw]
  have hcall (c : Collaborators) (w : World) : (q.call c w .statement).result =
      ((q.clauses.compile q.maxMatches).map .str).map .value := by
    rw [← hstatement]
    exact Query.result_reading ..
  refine ⟨fun c w => ?_, fun c hc => Render.condition_of_shaped (Clauses.shaped_iff.1 hshaped c hc)⟩
  rw [hcall]
  have hmissing (h : q.clauses.select = [] ∨ q.clauses.indexes = []) :
      ∃ f, ((q.clauses.compile q.maxMatches).map Value.str).map Returned.value = .error f ∧
        f.hasCode .invalidArgument = true := by
    obtain ⟨f, hcode, hf⟩ := Clauses.compile_of_missing h q.maxMatches
    exact ⟨f, by rw [hf]; rfl, hcode⟩
  refine ⟨fun hwritable => ⟨fun ⟨f, hf⟩ => ?_, fun h => (hmissing h).imp fun f hf => hf.1⟩, hmissing,
    ?_⟩
  · by_contra hpresent
    obtain ⟨hselect, hindexes⟩ := not_or.1 hpresent
    obtain ⟨text, htext⟩ := (Clauses.writesIf_compile hshaped hnames hselect hindexes _).ok hwritable
    rw [htext] at hf
    exact nomatch hf
  · cases hcompile : q.clauses.compile q.maxMatches with
    | error f =>
      refine ⟨fun f' hf' => ?_, fun r hr => nomatch hr⟩
      obtain rfl := Except.error.inj hf'
      exact Clauses.error_of_compile hshaped hnames hcompile
    | ok text => exact ⟨fun f hf => (nomatch hf), fun r hr => ⟨text, (Except.ok.inj hr).symm⟩⟩

/-- A query that is given a range, refused another, run, copied and given a list. -/
theorem statement_follow_of_refused :
    let c : Collaborators := { connection := { engine := fun _ _ => .answer {} } }
    let changes : List Mutation := [
      .select [.str "id"], .indexes [.str "rt"],
      .filter .append (.str "price") (.str "between") (.list [.int 1, .int 5]),
      .filter .append (.str "price") (.str "BETWEEN") (.list [.int 1])]
    let turns : List Turn := changes.map (fun m => .call ⟨c, {}, .change m⟩) ++ [
      .call ⟨c, {}, .execute⟩, .copy,
      .call ⟨c, {}, .change (.having .append (.str "n") (.list [.int 2, .int 3]) .unset)⟩]
    let q := ((start .null (.int 1000)).follow turns).query
    ((∀ m change, Turn.call m ∈ turns → m.call = .change change → change.Named) ∧ q.raw = none) ∧
      (∃ text, (q.call c {} .statement).result = .ok (.value (.str text))) ∧
      q.currentStatement.toOption.bind Value.asText? =
        some "SELECT id FROM rt WHERE price BETWEEN 1 AND 5 HAVING n IN (2, 3) LIMIT 0, 20" := by
  intro c changes turns q
  have hnamed : ∀ m change, Turn.call m ∈ turns → m.call = .change change → change.Named := by
    intro m change hm hcall
    simp only [turns, changes, List.map_cons, List.map_nil, List.cons_append, List.nil_append,
      List.mem_cons, Turn.call.injEq, reduceCtorEq, List.not_mem_nil, or_false, false_or] at hm
    rcases hm with rfl | rfl | rfl | rfl | rfl | rfl
    · obtain rfl := Call.change.inj hcall
      exact fun v hv => ⟨"id", by rw [List.mem_singleton.1 hv]; rfl⟩
    · obtain rfl := Call.change.inj hcall
      exact fun v hv => ⟨"rt", by rw [List.mem_singleton.1 hv]; rfl⟩
    · obtain rfl := Call.change.inj hcall
      trivial
    · obtain rfl := Call.change.inj hcall
      trivial
    · exact nomatch hcall
    · obtain rfl := Call.change.inj hcall
      trivial
  have hraw : q.raw = none := by decide +kernel
  have hwritable : q.clauses.Writable q.maxMatches := by decide +kernel
  have hpresent : ¬(q.clauses.select = [] ∨ q.clauses.indexes = []) := by
    have hfilled : q.clauses.select.isEmpty = false ∧ q.clauses.indexes.isEmpty = false := by
      decide +kernel
    rintro (hnone | hnone)
    · exact nomatch hnone ▸ hfilled.1
    · exact nomatch hnone ▸ hfilled.2
  obtain ⟨hcalls, -⟩ := statement_follow hnamed hraw
  obtain ⟨hrefused, -, -, hgives⟩ := hcalls c {}
  refine ⟨⟨hnamed, hraw⟩, ?_, by decide +kernel⟩
  cases hresult : (q.call c {} .statement).result with
  | error f => exact absurd ((hrefused hwritable).1 ⟨f, hresult⟩) hpresent
  | ok r =>
    obtain ⟨text, rfl⟩ := hgives r hresult
    exact ⟨text, rfl⟩

end Tracked

end SearchClient
