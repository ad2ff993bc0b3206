import SearchClient.Proofs.Query.Reordering
import SearchClient.Proofs.Query.Statement
import SearchClient.Proofs.Statement.FullText

/-!
# Replacing the full-text terms of a query

A query has full-text terms that name their fields and raw ones. The two kinds are kept apart, and
one filter searches for all of them: the raw ones stand behind the others.

A term with fields that replaces others takes the place of those with fields. No change drops a raw
term, so those of a whole run are still there, in order, and go on narrowing what the term finds.

## Key results

- `Mutation.rawTerms_apply`: a change adds the raw term that it brings and drops none
- `Tracked.rawTerms_follow`: the raw terms of a run are all still there
- `Render.matching_eq_iff`: a filter says of every raw term behind a term that it is there
- `Tracked.fullText_follow`: what a statement searches for once a term has replaced others
- `Tracked.fullText_follow_keeps_raw`: a raw term that is not replaced
-/

namespace SearchClient

/-! ### Raw terms -/

namespace Mutation

/-- The raw term that a change brings. A refused one brings none. -/
def rawTerms : Mutation → List RawMatchTerm
  | rawFullText _ combinator text => (rawTerm combinator text).toOption.toList
  | _ => []

/-- A change adds the raw term that it brings to the others. -/
theorem rawTerms_apply (m : Mutation) (q : Query) (aliases : AliasCounter) :
    (m.apply q aliases).query.clauses.rawTerms = q.clauses.rawTerms ++ m.rawTerms := by
  by_cases hparts : Part.fullText ∈ m.parts
  · cases m with
    | fullText p column text safe =>
      refine Eq.trans ?_ (List.append_nil _).symm
      rcases Edit.ofEntry_query _ aliases (term column text safe) _ with ⟨t, -, h⟩ | h
      · exact congrArg (·.clauses.rawTerms) h
      · exact congrArg (·.clauses.rawTerms) h
    | rawFullText p combinator text =>
      unfold apply rawTerms
      dsimp only
      -- Whatever the placement drops, it drops from the terms with fields.
      cases rawTerm combinator text with
      | ok t => rfl
      | error f => exact (List.append_nil _).symm
    | _ => simp [parts] at hparts
  · -- Any other change stays in its own parts.
    have hcontent : ((m.apply q aliases).query.clauses.terms,
        (m.apply q aliases).query.clauses.rawTerms) = (q.clauses.terms, q.clauses.rawTerms) :=
      Draft.content_change_of_notMem ⟨q, aliases, []⟩ hparts
    have hnone : m.rawTerms = [] := by
      cases m with
      | rawFullText p combinator text => exact absurd List.mem_cons_self hparts
      | _ => rfl
    rw [hnone, List.append_nil]
    exact congrArg (·.2) hcontent

/-- A term that is accepted takes the place of the others with fields. -/
theorem apply_fullText_replace {column text safe : Value} {t : MatchTerm}
    (h : term column text safe = .ok t) (q : Query) (aliases : AliasCounter) :
    (fullText .replace column text safe).apply q aliases =
      .done (q.dirtied.update fun c => { c with terms := [t] }) aliases := by
  unfold apply
  dsimp only
  rw [h]
  rfl

end Mutation

/-- The raw term that a call brings. -/
def Call.rawTerms : Call → List RawMatchTerm
  | .change m => m.rawTerms
  | _ => []

/-- The raw term that a turn brings. -/
def Turn.rawTerms : Turn → List RawMatchTerm
  | .call m => m.call.rawTerms
  | .copy => []

theorem Query.rawTerms_call (c : Collaborators) (q : Query) (w : World) (call : Call) :
    (q.call c w call).query.clauses.rawTerms = q.clauses.rawTerms ++ call.rawTerms := by
  by_cases hm : ∃ m, call = .change m
  · obtain ⟨m, rfl⟩ := hm
    exact (congrArg (·.clauses.rawTerms) (query_change q m w)).trans (m.rawTerms_apply q w.aliases)
  · have hnone : call.rawTerms = [] := by
      cases call with
      | change m => exact absurd ⟨m, rfl⟩ hm
      | _ => rfl
    have hkept := kept_call c q w fun m hcall => hm ⟨m, hcall⟩
    rw [hnone, List.append_nil, hkept.clauses]

namespace Tracked

theorem rawTerms_turn (u : Tracked) (turn : Turn) :
    (u.turn turn).query.clauses.rawTerms = u.query.clauses.rawTerms ++ turn.rawTerms := by
  cases turn with
  | call m =>
    exact (congrArg (·.clauses.rawTerms) (query_make u m)).trans (Query.rawTerms_call ..)
  | copy =>
    refine Eq.trans ?_ (List.append_nil _).symm
    rcases u.query_turn .copy with ⟨m, change, hturn, -, -⟩ | hkept
    · exact nomatch hturn
    · rw [hkept.clauses]

/-- Whatever is called, no raw term is ever dropped. -/
theorem rawTerms_follow (u : Tracked) (turns : List Turn) :
    (u.follow turns).query.clauses.rawTerms =
      u.query.clauses.rawTerms ++ turns.flatMap Turn.rawTerms := by
  induction turns generalizing u with
  | nil => exact (List.append_nil _).symm
  | cons turn rest ih =>
    change ((u.turn turn).follow rest).query.clauses.rawTerms = _
    rw [ih, rawTerms_turn, List.append_assoc, List.flatMap_cons]

end Tracked

/-! ### Filters of one term -/

namespace Render

/-- What a filter searches for can be read off it. -/
theorem matching_inj {terms terms' : List MatchTerm} {raw raw' : List RawMatchTerm}
    (h : matching terms raw = matching terms' raw') :
    matchExpression terms raw = matchExpression terms' raw' := by
  have hscan := (brings_matching terms raw).scan_eq
  rw [h, (brings_matching terms' raw').scan_eq] at hscan
  exact (List.cons.inj (Literal.Scan.between.inj hscan)).1.symm

/-- A raw term that stands behind another term is joined to it, the first as well as the others. -/
theorem matchExpression_singleton (t : MatchTerm) (raw : List RawMatchTerm) :
    matchExpression [t] raw =
      matchTerm t ++ (raw.map joinedRawTerm).flatMap (" ".toList ++ ·) := by
  have hjoined : rawTerms false raw = raw.map joinedRawTerm := by cases raw <;> rfl
  change separated " " (matchTerm t :: rawTerms false raw) = _
  rw [separated_cons, hjoined]

/-- Raw terms behind a term are always seen. -/
theorem matching_eq_iff (t : MatchTerm) (raw : List RawMatchTerm) :
    matching [t] raw = matching [t] [] ↔ raw = [] := by
  refine ⟨fun h => ?_, fun h => by rw [h]⟩
  have hsame := matching_inj h
  rw [matchExpression_singleton, matchExpression_singleton, List.append_cancel_left_eq] at hsame
  cases raw with
  | nil => rfl
  | cons r rest => exact nomatch hsame

end Render

/-! ### Replacing terms -/

namespace Tracked

/-- A term with fields that is accepted replaces all others with fields. The statement then searches
for it and for every raw term that was accepted before, however long ago, and has it as its only
term if and only if there was no raw one. If all changes named by texts, there is such a statement
as long as its integers can be written. -/
theorem fullText_follow {statement maxMatches : Value} {turns : List Turn}
    {column text safe : Value} {t : MatchTerm} (hterm : Mutation.term column text safe = .ok t)
    (hraw : ((start statement maxMatches).follow turns).query.raw = none)
    (hselect : ((start statement maxMatches).follow turns).query.clauses.select ≠ [])
    (hindexes : ((start statement maxMatches).follow turns).query.clauses.indexes ≠ []) :
    let q := ((start statement maxMatches).follow turns).query
    let filter := Render.matching [t] (turns.flatMap Turn.rawTerms)
    (∀ c w,
      let o := q.call c w (.change (.fullText .replace column text safe))
      o.result = .ok .self ∧
        ∀ c' w', (o.query.call c' w' .statement).result =
          (q.clauses.compileWith q.maxMatches filter).map fun s => .value (.str s)) ∧
      (filter = Render.matching [t] [] ↔ turns.flatMap Turn.rawTerms = []) ∧
      ((∀ m change, Turn.call m ∈ turns → m.call = .change change → change.Named) →
        ((∃ s, q.clauses.compileWith q.maxMatches filter = .ok s) ↔
          q.clauses.Writable q.maxMatches)) := by
  intro q filter
  have hrawTerms : q.clauses.rawTerms = turns.flatMap Turn.rawTerms :=
    rawTerms_follow (start statement maxMatches) turns
  refine ⟨fun c w => ?_, Render.matching_eq_iff t _, fun hnamed => ?_⟩
  · intro o
    have happly := Mutation.apply_fullText_replace hterm q w.aliases
    have hquery : o.query = q.dirtied.update fun c => { c with terms := [t] } :=
      (Query.query_change ..).trans (by rw [happly]; rfl)
    refine ⟨(Query.result_change ..).trans (by rw [happly]; rfl), fun c' w' => ?_⟩
    -- The other clauses do not look at the terms.
    have hcompile : o.query.clauses.compile o.query.maxMatches =
        q.clauses.compileWith q.maxMatches filter := by
      rw [hquery]
      refine (Clauses.compile_eq_compileWith (q := { q.clauses with terms := [t] }) hselect hindexes
        (.inl (List.cons_ne_nil _ _)) q.maxMatches).trans ?_
      change q.clauses.compileWith q.maxMatches (Render.matching [t] q.clauses.rawTerms) = _
      rw [hrawTerms]
    -- A changed query is dirty, so the statement it has kept is not given.
    have hstatement : o.query.statement.1 =
        (q.clauses.compileWith q.maxMatches filter).map .str := by
      have hnone : o.query.raw = none := by
        rw [hquery]
        exact hraw
      rw [Query.statement_of_dirty (by rw [hquery]; rfl), Query.currentStatement, hnone, ← hcompile]
    have hcall : (o.query.call c' w' .statement).result = o.query.statement.1.map .value :=
      Query.result_reading ..
    rw [hcall, hstatement]
    cases q.clauses.compileWith q.maxMatches filter <;> rfl
  · obtain ⟨hnames, hshaped⟩ := named_follow hnamed
    exact (Clauses.writesIf_compileWith hshaped hnames q.maxMatches filter).exists_iff

/-- A term that replaces another one, in a query that was run and copied and has no raw terms. -/
theorem fullText_follow_of_fields :
    let c : Collaborators := { connection := { engine := fun _ _ => .answer {} } }
    let changes : List Mutation := [
      .select [.str "id"], .indexes [.str "rt"], .filter .append (.str "n") (.int 3) .unset,
      .fullText .append (.str "title") (.str "one") (.bool false)]
    let turns : List Turn :=
      changes.map (fun m => .call ⟨c, {}, .change m⟩) ++ [.call ⟨c, {}, .execute⟩, .copy]
    let q := ((start .null (.int 1000)).follow turns).query
    let t : MatchTerm := ⟨.field "body", "two", false⟩
    let o := q.call c {} (.change (.fullText .replace (.str "body") (.str "two") (.bool false)))
    (Mutation.term (.str "body") (.str "two") (.bool false) = .ok t ∧ q.raw = none ∧
        q.clauses.select ≠ [] ∧ q.clauses.indexes ≠ []) ∧
      o.result = .ok .self ∧
      ∃ s, (o.query.call c {} .statement).result = .ok (.value (.str s)) ∧
        s = "SELECT id FROM rt WHERE n = 3 AND MATCH('@body two') LIMIT 0, 20" := by
  intro c changes turns q t o
  have hterm : Mutation.term (.str "body") (.str "two") (.bool false) = .ok t := rfl
  have hraw : q.raw = none := by decide +kernel
  have hfilled : q.clauses.select.isEmpty = false ∧ q.clauses.indexes.isEmpty = false := by
    decide +kernel
  have hselect : q.clauses.select ≠ [] := List.isEmpty_eq_false_iff.1 hfilled.1
  have hindexes : q.clauses.indexes ≠ [] := List.isEmpty_eq_false_iff.1 hfilled.2
  -- Rewriting keeps the run from being evaluated when it is compared with its name.
  have hq : q = ((start .null (.int 1000)).follow turns).query := rfl
  obtain ⟨hcalls, hfilter, -⟩ := fullText_follow hterm (hq ▸ hraw) (hq ▸ hselect) (hq ▸ hindexes)
  obtain ⟨hresult, hstatement⟩ := hcalls c {}
  have hnone : turns.flatMap Turn.rawTerms = [] := rfl
  have hcompiled : (q.clauses.compileWith q.maxMatches (Render.matching [t] [])).toOption =
      some "SELECT id FROM rt WHERE n = 3 AND MATCH('@body two') LIMIT 0, 20" := by
    decide +kernel
  refine ⟨⟨hterm, hraw, hselect, hindexes⟩, hresult, _, ?_, rfl⟩
  rw [hstatement c {}, hfilter.2 hnone]
  cases hs : q.clauses.compileWith q.maxMatches (Render.matching [t] []) with
  | error f =>
    rw [hs] at hcompiled
    exact nomatch hcompiled
  | ok s =>
    rw [hs] at hcompiled
    obtain rfl := Option.some.inj hcompiled
    rfl

/-- A raw term that was there before a term with fields replaces all others. It still narrows what
the statement finds. -/
theorem fullText_follow_keeps_raw :
    let c : Collaborators := { connection := { engine := fun _ _ => .answer {} } }
    let changes : List Mutation := [
      .select [.str "id"], .indexes [.str "rt"], .rawFullText .replace .and (.str "@body two")]
    let q := ((start .null (.int 1000)).follow
      (changes.map fun m => .call ⟨c, {}, .change m⟩)).query
    let t : MatchTerm := ⟨.field "title", "one", false⟩
    let o := q.call c {} (.change (.fullText .replace (.str "title") (.str "one") (.bool false)))
    (Mutation.term (.str "title") (.str "one") (.bool false) = .ok t ∧ q.raw = none ∧
        q.clauses.select.length = 1 ∧ q.clauses.indexes.length = 1) ∧
      o.query.statement.1.toOption.bind Value.asText? =
        some "SELECT id FROM rt WHERE MATCH('@title one & @body two') LIMIT 0, 20" ∧
      (q.clauses.compileWith q.maxMatches (Render.matching [t] [])).toOption =
        some "SELECT id FROM rt WHERE MATCH('@title one') LIMIT 0, 20" :=
  ⟨⟨rfl, by decide +kernel, by decide +kernel, by decide +kernel⟩, by decide +kernel,
    by decide +kernel⟩

end Tracked

end SearchClient
