import SearchClient.Proofs.Query.Coherence
import SearchClient.Proofs.Query.Reports

/-!
# Readings leave no trace

A reading can change one thing about a query: the statement that it has kept. What is kept may be
anything, and may be stale, but two queries that give the same statement and differ in nothing else
cannot be told apart by any call, and no call makes them differ in more.

A kept statement counts as long as the query is clean and has no statement of its own. So it must
agree where it counts, and calls that make a query dirty, or clear it, bring the two closer.

## Key results

- `Query.attempt_keeping`: what a query has kept makes no difference to running a statement
- `Query.Twin.call`: queries with the same statement answer a call alike and stay alike
- `Query.twin_of_reads`: what a reading leaves behind
-/

namespace SearchClient

/-- Calls that ask for something that is there, and run nothing. -/
def Call.reads : Call → Bool
  | .change _ | .execute | .results | .table | .clear => false
  | _ => true

namespace Query

/-- The query with another kept statement. -/
def keeping (q : Query) (text : Option String) : Query := { q with compiled := text }

end Query

/-- The outcome for the query with another kept statement. -/
def Outcome.keeping {α : Type} (o : Outcome α) (text : Option String) : Outcome α :=
  { o with query := o.query.keeping text }

/-! ### Stages that do not look at the kept statement -/

namespace Edit

/-- The edit of the query with another kept statement. -/
def keeping (e : Edit) (text : Option String) : Edit := { e with query := e.query.keeping text }

private theorem ofEntry_keeping {α : Type} {kept kept' : Query} {aliases : AliasCounter}
    {entry : Except Failure α} {put put' : α → Query} {text : Option String}
    (hkept : kept' = kept.keeping text) (hput : ∀ a, put' a = (put a).keeping text) :
    ofEntry kept' aliases entry put' = (ofEntry kept aliases entry put).keeping text := by
  cases entry with
  | ok a => exact congrArg (done · aliases) (hput a)
  | error f => exact congrArg (refused · aliases f) hkept

end Edit

namespace Mutation

private theorem bind_keeping (q : Query) (source : EntityQuery) (column : Value)
    (text : Option String) :
    (q.keeping text).bind source column = (q.bind source column).keeping text := by
  let bound : Query := { q with binding := some { source, column } }
  have hbound : (q.keeping text).bind source column =
      if bound.selects column || bound.selects (.str "*") then bound.keeping text
      else (bound.addColumns [column]).keeping text := rfl
  rw [hbound, ← apply_ite (Query.keeping · text)]
  rfl

/-- A change makes the same of a query whatever it has kept. -/
theorem apply_keeping (m : Mutation) (q : Query) (aliases : AliasCounter) (text : Option String) :
    m.apply (q.keeping text) aliases = (m.apply q aliases).keeping text := by
  cases m with
  | entities source column =>
    have hbound : (q.keeping text).dirtied.bind source column =
        (q.dirtied.bind source column).keeping text := bind_keeping q.dirtied source column text
    unfold apply applyEntities
    dsimp only
    rw [hbound]
    split
    · rfl
    · rfl
  | selectMissing column =>
    have hselects : (q.keeping text).selects column = q.selects column := rfl
    unfold apply
    dsimp only
    rw [hselects]
    split
    · rfl
    · rfl
  | filter p column operator value => exact Edit.ofEntry_keeping rfl fun _ => rfl
  | rawFilter expression => exact Edit.ofEntry_keeping rfl fun _ => rfl
  | alternatives components =>
    unfold apply applyAlternatives
    dsimp only
    split
    · rfl
    · rfl
    · split
      · rfl
      · exact Edit.ofEntry_keeping rfl fun _ => rfl
  | fullText p column text safe => exact Edit.ofEntry_keeping rfl fun _ => rfl
  | rawFullText p combinator text => exact Edit.ofEntry_keeping rfl fun _ => rfl
  | groupOrder p column direction => exact Edit.ofEntry_keeping rfl fun _ => rfl
  | having p column operator value => exact Edit.ofEntry_keeping rfl fun _ => rfl
  | order p column direction => exact Edit.ofEntry_keeping rfl fun _ => rfl
  | option p name value => exact Edit.ofEntry_keeping rfl fun _ => rfl
  | _ => rfl

end Mutation

namespace Query

private theorem change_keeping (q : Query) (m : Mutation) (w : World) (text : Option String) :
    (q.keeping text).change m w = (q.change m w).keeping text := by
  unfold change
  rw [m.apply_keeping]
  dsimp only [Edit.keeping]
  split
  · rfl
  · rfl

private theorem hydrated_keeping (q : Query) (w : World) (text : Option String) :
    (q.keeping text).hydrated w = (q.hydrated w).keeping text := by
  have hbinding : (q.keeping text).binding = q.binding := rfl
  have hrows : (q.keeping text).keptRows = q.keptRows := rfl
  unfold hydrated
  rw [hbinding, hrows]
  split
  · rfl
  · split
    · rfl
    · dsimp only
      split
      · rfl
      · rfl

private theorem conclude_keeping (c : Collaborators) (q : Query) (statement : Value)
    (wasAnswered : Bool) (seconds : Float) (w : World) (text : Option String) :
    conclude c (q.keeping text) statement wasAnswered seconds w =
      (conclude c q statement wasAnswered seconds w).keeping text := by
  unfold conclude
  split
  · rfl
  · rename_i followup u _
    have hinformed : { q.keeping text with metadata := followup.metadata } =
        keeping { q with metadata := followup.metadata } text := rfl
    have hcount : keptCount { q.keeping text with metadata := followup.metadata } =
        keptCount { q with metadata := followup.metadata } := rfl
    dsimp only
    rw [hcount, hinformed]
    split
    · rfl
    · rw [hydrated_keeping]
      dsimp only [Outcome.keeping]
      split
      · rfl
      · split <;> rfl

/-- What a query has kept makes no difference to running a statement. -/
theorem attempt_keeping (c : Collaborators) (q : Query) (statement : Value) (w : World)
    (text : Option String) :
    (q.keeping text).attempt c statement w = (q.attempt c statement w).keeping text := by
  have hmain : (q.keeping text).started.runMain c statement w = q.started.runMain c statement w :=
    rfl
  unfold attempt
  rw [hmain]
  split
  · rfl
  · exact conclude_keeping c (q.started.absorbing _) statement false 0 _ text
  · exact conclude_keeping c (q.started.answered _) statement true _ _ text

/-! ### Queries that cannot be told apart -/

/-- Two queries differ in what they have kept at most, and give the same statement. -/
structure Twin (q q' : Query) : Prop where
  same : q' = q.keeping q'.compiled
  statement : q'.statement.1 = q.statement.1

namespace Twin

theorem refl (q : Query) : q.Twin q := ⟨rfl, rfl⟩

theorem symm {q q' : Query} (h : q.Twin q') : q'.Twin q := by
  refine ⟨?_, h.statement.symm⟩
  rw [h.same]
  rfl

theorem trans {q q' q'' : Query} (h : q.Twin q') (h' : q'.Twin q'') : q.Twin q'' := by
  refine ⟨?_, h'.statement.trans h.statement⟩
  rw [h'.same, h.same]
  rfl

/-- What a dirty query has kept does not count. -/
theorem of_dirty {q : Query} (h : q.state = .dirty) (text : Option String) :
    q.Twin (q.keeping text) := by
  have hdirty : (q.keeping text).state = .dirty := h
  refine ⟨rfl, ?_⟩
  rw [statement_of_dirty h, statement_of_dirty hdirty]
  rfl

/-- Nor does it if the query has a statement of its own. -/
theorem of_raw {q : Query} {s : Value} (h : q.raw = some s) (text : Option String) :
    q.Twin (q.keeping text) := by
  have hraw : (q.keeping text).raw = some s := h
  refine ⟨rfl, ?_⟩
  rw [statement_of_raw h, statement_of_raw hraw]

/-- Asking for the statement keeps it, and no more. -/
theorem statement_snd (q : Query) : q.Twin q.statement.2 := by
  refine ⟨?_, q.statement_statement⟩
  rcases q.statement_snd with h | ⟨text, h⟩
  · rw [h]
    rfl
  · rw [h]
    rfl

end Twin

end Query

/-- Two outcomes that differ at most in what their queries have kept, and these give the same
statement. -/
structure Outcome.Twin {α : Type} (o o' : Outcome α) : Prop where
  result : o'.result = o.result
  query : o.query.Twin o'.query
  world : o'.world = o.world

namespace Query

namespace Twin

variable {q q' : Query}

private theorem reading (h : q.Twin q') (w : World) (answer : Except Failure Returned) :
    (q.reading w answer).Twin (q'.reading w answer) := by
  unfold Query.reading
  split
  · exact ⟨rfl, h, rfl⟩
  · exact ⟨rfl, h, rfl⟩

private theorem change (h : q.Twin q') (m : Mutation) (w : World) :
    (q.change m w).Twin (q'.change m w) := by
  have hquery : (q.change m w).query = (m.apply q w.aliases).query := by
    unfold Query.change
    dsimp only
    split <;> rfl
  rw [h.same, change_keeping]
  refine ⟨rfl, ?_, rfl⟩
  -- A change leaves the query as it is, or dirty, and then what it has kept does not count.
  rcases m.apply_query q w.aliases with hidle | ⟨clauses, binding, hredone⟩ | ⟨s, -, hstated⟩
  · have hsame : (q.change m w).query = q := hquery.trans hidle
    dsimp only [Outcome.keeping]
    rw [hsame, ← h.same]
    exact h
  · exact of_dirty (by rw [hquery, hredone]; rfl) _
  · exact of_dirty (by rw [hquery, hstated]; rfl) _

/-- A run sends the same statement, and compiles it anew if it is not the query's own. -/
private theorem run (h : q.Twin q') (c : Collaborators) (w : World) :
    (q.run c w).Twin (q'.run c w) := by
  obtain ⟨text, rfl⟩ : ∃ text, q' = q.keeping text := ⟨_, h.same⟩
  have hstate : (q.keeping text).state = q.state := rfl
  unfold Query.run
  rw [hstate]
  cases hq : q.state with
  | clean => exact ⟨rfl, h, rfl⟩
  | dirty =>
    dsimp only
    cases hraw : q.raw with
    | some s =>
      -- A statement of its own is sent by both, and neither looks at what it has kept.
      have hraw' : (q.keeping text).raw = some s := hraw
      rw [statement_of_raw hraw, statement_of_raw hraw']
      dsimp only
      rw [attempt_keeping]
      exact ⟨rfl, of_raw ((kept_attempt c q s w).raw.trans hraw) text, rfl⟩
    | none =>
      -- A dirty query writes over what it has kept, so both go on as one and the same query.
      have hraw' : (q.keeping text).raw = none := hraw
      have hq' : (q.keeping text).state = .dirty := hq
      have hcompile : (q.keeping text).clauses.compile (q.keeping text).maxMatches =
          q.clauses.compile q.maxMatches := rfl
      rw [statement_of_compile hraw (.inl hq), statement_of_compile hraw' (.inl hq'), hcompile]
      cases q.clauses.compile q.maxMatches with
      | error f => exact ⟨rfl, h, rfl⟩
      | ok statement => exact ⟨rfl, refl _, rfl⟩

theorem execute (h : q.Twin q') (c : Collaborators) (w : World) :
    (q.execute c w).Twin (q'.execute c w) := by
  obtain ⟨text, rfl⟩ : ∃ text, q' = q.keeping text := ⟨_, h.same⟩
  have hattributes : (q.keeping text).spanAttributes = q.spanAttributes := rfl
  obtain ⟨hresult, hquery, hworld⟩ :=
    h.run c (w.reportAny (Span.warning? spanName q.spanAttributes))
  unfold Query.execute Query.span
  rw [hattributes]
  dsimp only
  rw [hresult, hworld]
  exact ⟨rfl, hquery, rfl⟩

private theorem resultsNow (h : q.Twin q') (c : Collaborators) (w : World) :
    (q.resultsNow c w).Twin (q'.resultsNow c w) := by
  have hresults {p p' : Query} (hp : p.Twin p') : p'.currentResults = p.currentResults := by
    rw [hp.same]
    rfl
  have hstate : q'.state = q.state := by
    rw [h.same]
    rfl
  obtain ⟨hresult, hquery, hworld⟩ := h.execute c w
  unfold Query.resultsNow
  rw [hstate]
  split
  · rw [hresults h]
    exact ⟨rfl, h, rfl⟩
  · dsimp only
    rw [hresult, hresults hquery]
    exact ⟨rfl, hquery, hworld⟩

private theorem tableNow (h : q.Twin q') (c : Collaborators) (w : World) :
    (q.tableNow c w).Twin (q'.tableNow c w) := by
  have hbinding : q'.binding = q.binding := by
    rw [h.same]
    rfl
  have hstate : q'.state = q.state := by
    rw [h.same]
    rfl
  obtain ⟨hresult, hquery, hworld⟩ := h.resultsNow c w
  unfold Query.tableNow
  rw [hbinding, hstate]
  split
  · exact ⟨rfl, h, rfl⟩
  · dsimp only
    rw [hresult]
    exact ⟨rfl, hquery, hworld⟩

/-- Queries with the same statement answer a call alike, and have the same statement after it. -/
theorem call (h : q.Twin q') (c : Collaborators) (w : World) (call : Call) :
    (q.call c w call).Twin (q'.call c w call) := by
  have hasked : q.statement.2.Twin q'.statement.2 :=
    (statement_snd q).symm.trans (h.trans (statement_snd q'))
  cases call with
  | change m => exact h.change m w
  | statement =>
    unfold Query.call
    rw [h.statement]
    exact hasked.reading w _
  | text =>
    unfold Query.call
    rw [h.statement]
    exact hasked.reading w _
  | execute =>
    obtain ⟨hresult, hquery, hworld⟩ := h.execute c w
    unfold Query.call
    dsimp only
    rw [hresult]
    exact ⟨rfl, hquery, hworld⟩
  | results =>
    obtain ⟨hresult, hquery, hworld⟩ := h.resultsNow c w
    unfold Query.call
    dsimp only
    rw [hresult]
    exact ⟨rfl, hquery, hworld⟩
  | table => exact h.tableNow c w
  | clear =>
    -- Nothing that was kept is left.
    rw [h.same]
    exact ⟨rfl, refl _, rfl⟩
  | _ =>
    -- Everything else that can be read is there whatever the query has kept.
    obtain ⟨text, rfl⟩ : ∃ text, q' = q.keeping text := ⟨_, h.same⟩
    unfold Query.call
    exact h.reading w _

end Twin

/-- A reading leaves a query that cannot be told from the one before, and writes nothing but
reports. -/
theorem twin_of_reads {call : Call} (h : call.reads = true) (c : Collaborators) (q : Query)
    (w : World) :
    q.Twin (q.call c w call).query ∧ (q.call c w call).world.unreported = w.unreported := by
  have hreading (p : Query) (hp : q.Twin p) (answer : Except Failure Returned) :
      q.Twin (p.reading w answer).query ∧ (p.reading w answer).world.unreported = w.unreported := by
    unfold reading
    split
    · exact ⟨hp, rfl⟩
    · exact ⟨hp, rfl⟩
  cases call with
  | change m => exact nomatch h
  | execute => exact nomatch h
  | results => exact nomatch h
  | table => exact nomatch h
  | clear => exact nomatch h
  | statement => exact hreading _ (.statement_snd q) _
  | text => exact hreading _ (.statement_snd q) _
  | _ => exact hreading q (.refl q) _

end Query

end SearchClient
