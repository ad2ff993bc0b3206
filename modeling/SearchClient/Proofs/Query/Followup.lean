import SearchClient.Proofs.Query.Statistics
import SearchClient.Proofs.Statement.Result

/-!
# What the engine said about the statistics

A query that was never told its statistics refuses to give any, and so does one that was cleared
since, or a copy that was not told itself. Otherwise it gives what it was told last, whatever has
been changed or has failed since: the rows of that answer folded into named values, and nothing if
the engine refused. A run is followed by the last answer that the query has not been made to forget.

## Key results

- `Asked.sound_follow`: the statistics of a query are its last answer
- `Query.Gives`: what a query says about its statistics, row by row
- `Asked.metadata_follow`: the state of the statistics after any run, and what a query says then
-/

namespace SearchClient

/-- The statistics in what the engine said; there are none if it refused. -/
def Metadata.ofReply : Except Failure StatementResult → Metadata
  | .ok r => .ofPairs r.keyPairs
  | .error _ => .empty

/-- The rows in what the engine said; there are none if it refused. -/
def StatementResult.rowsOf : Except Failure StatementResult → List Row
  | .ok r => r.rows
  | .error _ => []

namespace Trial

/-- What the engine said about the statistics of a trial: its answer, or its refusal if that is an
error of execution. It says nothing to a trial whose main statement failed, and any other error
breaks the trial off. -/
def reply? (t : Trial) : Option (Except Failure StatementResult) :=
  match t.main with
  | .failed _ => none
  | _ =>
    match t.statistics with
    | .ok r => some (.ok r)
    | .error f => if f.hasCode .queryExecution then some (.error f) else none

/-- A trial brings what the engine said. -/
theorem brought?_eq (t : Trial) : t.brought? = t.reply?.map Metadata.ofReply := by
  unfold brought? reply? Query.Followup.ofReply
  cases t.main with
  | failed f => rfl
  -- The statistics are asked for whether the main statement was answered or its failure absorbed.
  | _ =>
    cases t.statistics with
    | ok r => rfl
    | error f => cases hcode : f.hasCode .queryExecution <;> simp [hcode, Metadata.ofReply]

theorem hasCode_of_reply {t : Trial} {f : Failure} (h : t.reply? = some (.error f)) :
    f.hasCode .queryExecution = true := by
  unfold reply? at h
  split at h
  · exact nomatch h
  · split at h
    · exact nomatch Option.some.inj h
    · split at h
      · rename_i hcode
        obtain rfl := Except.error.inj (Option.some.inj h)
        exact hcode
      · exact nomatch h

end Trial

/-- Whether a call makes a query forget its statistics. -/
def Call.clears : Call → Bool
  | .clear => true
  | _ => false

namespace Query

/-- A call without a trial keeps the statistics, unless it clears them. -/
theorem metadata_of_no_trial {q : Query} {c : Collaborators} {w : World} {call : Call}
    (h : q.trial? c w call = none) :
    (q.call c w call).query.metadata = if call.clears then .notRun else q.metadata := by
  -- Changes and clearings alter a query; any other call leaves it, or has it make its statement.
  by_cases hchange : ∃ m, call = .change m
  · obtain ⟨m, rfl⟩ := hchange
    have hquery : (q.call c w (.change m)).query = (m.apply q w.aliases).query := query_change q m w
    rw [hquery]
    rcases m.apply_query q w.aliases with hsame | ⟨clauses, binding, hredone⟩ | ⟨s, -, hstated⟩
    · rw [hsame]
      rfl
    · rw [hredone]
      rfl
    · rw [hstated]
      rfl
  by_cases hclear : call = .clear
  · subst hclear
    rfl
  have hkeeps : call.clears = false := by
    unfold Call.clears
    split
    · exact absurd rfl hclear
    · rfl
  rw [hkeeps]
  rcases call_of_no_trial h with ⟨halters, -⟩ | ⟨-, hsame | hasked⟩
  · unfold Call.alters at halters
    split at halters
    · rename_i m
      exact absurd ⟨m, rfl⟩ hchange
    · exact absurd rfl hclear
    · exact nomatch halters
  · rw [hsame]
    rfl
  · rw [hasked]
    rcases q.statement_snd with hq | ⟨text, hq⟩
    · rw [hq]
      rfl
    · rw [hq]
      rfl

/-- What a query says about its statistics when some rows were reported: each name that a row has is
a name of the statistics, where the first row with it stands, and its value is the one that the last
row with it gives. Asked for a name that no row has, the query gives what the caller asked for in
place of it. -/
structure Gives (q : Query) (rows : List Row) : Prop where
  statistics : ∃ values : Row,
    (∀ c w, (q.call c w .statistics).result = .ok (.value (StatementResult.rowValue values))) ∧
      values.map (·.1) = ((rows.filterMap StatementResult.pair?).map (·.1)).eraseDups ∧
      ∀ name v, values.get? name = some v ↔ LastNames rows name v
  statistic : ∀ key name fallback, key.asText? = some name →
    ((∀ row ∈ rows, ∀ v, ¬row.Names name v) ∧
        ∀ c w, (q.call c w (.statistic key fallback)).result = .ok (.value fallback)) ∨
      ∃ v, LastNames rows name v ∧
        ∀ c w, (q.call c w (.statistic key fallback)).result = .ok (.value v)

/-- A query whose statistics are those of some rows gives them. -/
theorem gives_of_metadata {q : Query} (hrun : q.metadata.hasRun = true) {rows : List Row}
    (hnames : q.metadata.values.map (·.1) =
      ((rows.filterMap StatementResult.pair?).map (·.1)).eraseDups)
    (hvalues : ∀ name v, q.metadata.values.get? name = some v ↔ LastNames rows name v) :
    q.Gives rows := by
  refine ⟨⟨q.metadata.values, (reports_of_hasRun hrun).statistics, hnames, hvalues⟩,
    fun key name fallback hkey => ?_⟩
  have hresult (c : Collaborators) (w : World) :
      (q.call c w (.statistic key fallback)).result =
        .ok (.value ((q.metadata.values.get? name).getD fallback)) := by
    refine (result_reading ..).trans ?_
    unfold statisticNow Row.lookUp
    rw [statisticsNow_of_hasRun hrun, hkey]
    rfl
  cases hvalue : q.metadata.values.get? name with
  | some v =>
    refine .inr ⟨v, (hvalues name v).1 hvalue, fun c w => ?_⟩
    rw [hresult, hvalue]
    rfl
  | none =>
    refine .inl ⟨fun row hrow v hnamed => ?_, fun c w => ?_⟩
    · obtain ⟨v', hlast⟩ := exists_lastNames ⟨row, hrow, v, hnamed⟩
      exact nomatch hvalue.symm.trans ((hvalues name v').2 hlast)
    · rw [hresult, hvalue]
      rfl

/-- A query whose statistics are those of a reply gives the rows of the reply. -/
theorem gives_of_reply {q : Query} {reply : Except Failure StatementResult}
    (h : q.metadata = Metadata.ofReply reply) : q.Gives (StatementResult.rowsOf reply) := by
  cases reply with
  | ok r =>
    have hvalues : q.metadata.values = r.keyPairs := by
      rw [h]
      exact Metadata.values_ofPairs _
    refine gives_of_metadata ?_ ?_ fun name v => ?_
    · rw [h]
      exact Metadata.hasRun_ofPairs _
    · rw [hvalues]
      exact r.map_fst_keyPairs
    · rw [hvalues]
      exact r.get?_keyPairs name v
  | error f =>
    refine gives_of_metadata ?_ ?_ fun name v => ?_
    · rw [h]
      rfl
    · rw [h]
      rfl
    · rw [h]
      exact StatementResult.get?_keyPairs {} name v

end Query

namespace Metadata

/-- Statistics are empty if none of the rows has two columns; otherwise they are there. -/
theorem state_ofReply (reply : Except Failure StatementResult) :
    (∀ row ∈ StatementResult.rowsOf reply, row.length < 2) ∧ ofReply reply = .empty ∨
      (∃ row ∈ StatementResult.rowsOf reply, 2 ≤ row.length) ∧
        (ofReply reply).state = .populated := by
  cases reply with
  | error f => exact .inl ⟨nofun, rfl⟩
  | ok r =>
    have hnone : r.keyPairs.isEmpty = true ↔ ∀ row ∈ r.rows, row.length < 2 :=
      List.isEmpty_iff.trans StatementResult.keyPairs_eq_nil_iff
    unfold ofReply ofPairs
    dsimp only
    split
    · rename_i hempty
      exact .inl ⟨hnone.1 hempty, rfl⟩
    · rename_i hempty
      rw [hnone] at hempty
      simp only [not_forall, exists_prop] at hempty
      obtain ⟨row, hrow, hlong⟩ := hempty
      exact .inr ⟨⟨row, hrow, Nat.not_lt.1 hlong⟩, rfl⟩

end Metadata

/-! ### Runs -/

/-- A query in use, and what the engine said last when it was asked for statistics; nothing if it
was not asked, or if the query was made to forget it. -/
structure Asked where
  query : Query
  reply : Option (Except Failure StatementResult) := none

namespace Asked

/-- Makes a call. -/
def make (u : Asked) (m : Made) : Asked :=
  let query := (u.query.call m.collaborators m.world m.call).query
  match u.query.trial? m.collaborators m.world m.call with
  | some t => { query, reply := t.reply?.or u.reply }
  | none => { query, reply := if m.call.clears then none else u.reply }

/-- Makes a turn. A copy was told nothing yet; if there is none, the query stays in use. -/
def turn (u : Asked) : Turn → Asked
  | .call m => u.make m
  | .copy =>
    match u.query.copy.1 with
    | .ok fresh => { query := fresh }
    | .error _ => u

/-- Makes turns in order. -/
def follow (u : Asked) (turns : List Turn) : Asked := turns.foldl turn u

/-- A new query. -/
def start (statement maxMatches : Value) : Asked :=
  { query := .create statement maxMatches }

/-- The statistics of a query are what the engine said last, and it was asked in vain only with an
error of execution. -/
structure Sound (u : Asked) : Prop where
  metadata : u.query.metadata = u.reply.elim .notRun Metadata.ofReply
  refused : ∀ f, u.reply = some (.error f) → f.hasCode .queryExecution = true

theorem sound_start (statement maxMatches : Value) : (start statement maxMatches).Sound :=
  ⟨rfl, nofun⟩

/-- A call keeps the last answer, replaces it or drops it, and the statistics with it. -/
theorem sound_make {u : Asked} (h : u.Sound) (m : Made) : (u.make m).Sound := by
  unfold make
  dsimp only
  cases htrial : u.query.trial? m.collaborators m.world m.call with
  | some t =>
    -- A trial leaves what it brought, or else what was known when it began.
    have hleft := (Query.left_of_trial htrial).metadata
    rw [Query.known_of_trial htrial, t.brought?_eq, h.metadata] at hleft
    dsimp only
    cases hreply : t.reply? with
    | none =>
      rw [hreply] at hleft
      exact ⟨hleft, h.refused⟩
    | some reply =>
      rw [hreply] at hleft
      exact ⟨hleft, fun f hf => Trial.hasCode_of_reply (hreply.trans hf)⟩
  | none =>
    have hkept := Query.metadata_of_no_trial htrial
    cases hclears : m.call.clears with
    | true =>
      rw [hclears] at hkept
      exact ⟨hkept, nofun⟩
    | false =>
      rw [hclears] at hkept
      exact ⟨hkept.trans h.metadata, h.refused⟩

theorem sound_turn {u : Asked} (h : u.Sound) (turn : Turn) : (u.turn turn).Sound := by
  cases turn with
  | call m => exact sound_make h m
  | copy =>
    unfold Asked.turn
    dsimp only
    cases hcopy : u.query.copy.1 with
    | error f => exact h
    | ok fresh =>
      obtain rfl := Query.eq_cleared_of_copy hcopy
      exact ⟨rfl, nofun⟩

/-- So does any number of turns. -/
theorem sound_follow {u : Asked} (h : u.Sound) (turns : List Turn) : (u.follow turns).Sound := by
  induction turns generalizing u with
  | nil => exact h
  | cons turn rest ih => exact ih (sound_turn h turn)

namespace Sound

variable {u : Asked}

theorem metadata_of_none (h : u.Sound) (hnone : u.reply = none) : u.query.metadata = .notRun := by
  rw [h.metadata, hnone]
  rfl

theorem metadata_of_reply (h : u.Sound) {reply : Except Failure StatementResult}
    (hreply : u.reply = some reply) : u.query.metadata = .ofReply reply := by
  rw [h.metadata, hreply]
  rfl

theorem state_notRun_iff (h : u.Sound) : u.query.metadata.state = .notRun ↔ u.reply = none := by
  cases hreply : u.reply with
  | none => exact ⟨fun _ => rfl, fun _ => congrArg Metadata.state (h.metadata_of_none hreply)⟩
  | some reply =>
    rw [h.metadata_of_reply hreply]
    rcases Metadata.state_ofReply reply with ⟨-, hempty⟩ | ⟨-, hthere⟩
    · rw [hempty]
      exact ⟨nofun, nofun⟩
    · rw [hthere]
      exact ⟨nofun, nofun⟩

/-- Statistics without a name come of a refusal, or of rows of which none has two columns. -/
theorem metadata_empty_iff (h : u.Sound) :
    u.query.metadata = .empty ↔
      (∃ f, u.reply = some (.error f) ∧ f.hasCode .queryExecution = true) ∨
        ∃ r, u.reply = some (.ok r) ∧ ∀ row ∈ r.rows, row.length < 2 := by
  constructor
  · intro hmetadata
    cases hreply : u.reply with
    | none => exact nomatch (h.metadata_of_none hreply).symm.trans hmetadata
    | some reply =>
      rw [h.metadata_of_reply hreply] at hmetadata
      rcases Metadata.state_ofReply reply with ⟨hshort, -⟩ | ⟨-, hthere⟩
      · cases reply with
        | error f => exact .inl ⟨f, rfl, h.refused f hreply⟩
        | ok r => exact .inr ⟨r, rfl, hshort⟩
      · rw [hmetadata] at hthere
        exact nomatch hthere
  · rintro (⟨f, hf, -⟩ | ⟨r, hr, hshort⟩)
    · exact h.metadata_of_reply hf
    · rw [h.metadata_of_reply hr]
      rcases Metadata.state_ofReply (.ok r) with ⟨-, hempty⟩ | ⟨⟨row, hrow, hlong⟩, -⟩
      · exact hempty
      · exact absurd (hshort row hrow) (Nat.not_lt.2 hlong)

theorem state_populated_iff (h : u.Sound) :
    u.query.metadata.state = .populated ↔
      ∃ r, u.reply = some (.ok r) ∧ ∃ row ∈ r.rows, 2 ≤ row.length := by
  constructor
  · intro hstate
    cases hreply : u.reply with
    | none => exact nomatch (congrArg Metadata.state (h.metadata_of_none hreply)).symm.trans hstate
    | some reply =>
      rw [h.metadata_of_reply hreply] at hstate
      rcases Metadata.state_ofReply reply with ⟨-, hempty⟩ | ⟨hlong, -⟩
      · rw [hempty] at hstate
        exact nomatch hstate
      · cases reply with
        -- A refusal brings no rows at all.
        | error f => exact absurd hlong (by simp [StatementResult.rowsOf])
        | ok r => exact ⟨r, rfl, hlong⟩
  · rintro ⟨r, hr, row, hrow, hlong⟩
    rw [h.metadata_of_reply hr]
    rcases Metadata.state_ofReply (.ok r) with ⟨hshort, -⟩ | ⟨-, hthere⟩
    · exact absurd (hshort row hrow) (Nat.not_lt.2 hlong)
    · exact hthere

/-- Statistics that are empty have no name in them. -/
theorem metadata_empty_of_state (h : u.Sound) (hstate : u.query.metadata.state = .empty) :
    u.query.metadata = .empty := by
  cases hreply : u.reply with
  | none => exact nomatch (congrArg Metadata.state (h.metadata_of_none hreply)).symm.trans hstate
  | some reply =>
    rw [h.metadata_of_reply hreply] at hstate ⊢
    rcases Metadata.state_ofReply reply with ⟨-, hempty⟩ | ⟨-, hthere⟩
    · exact hempty
    · exact nomatch hthere.symm.trans hstate

end Sound

/-- After any run, the statistics of a query are missing if and only if the engine has told it none
that it still knows, and then the query refuses to give any. They are empty, without any name, if
and only if what the engine said last was an error of execution, or rows of which none has two
columns. Otherwise they are there, and the query gives the rows of that answer. -/
theorem metadata_follow (statement maxMatches : Value) (turns : List Turn) :
    let u := (start statement maxMatches).follow turns
    let q := u.query
    (q.metadata.state = .notRun ↔ u.reply = none) ∧
      (u.reply = none → q.Silent) ∧
      (q.metadata.state = .empty ↔
        (∃ f, u.reply = some (.error f) ∧ f.hasCode .queryExecution = true) ∨
          ∃ r, u.reply = some (.ok r) ∧ ∀ row ∈ r.rows, row.length < 2) ∧
      (q.metadata.state = .empty → q.metadata.values = []) ∧
      (q.metadata.state = .populated ↔
        ∃ r, u.reply = some (.ok r) ∧ ∃ row ∈ r.rows, 2 ≤ row.length) ∧
      ∀ reply, u.reply = some reply → q.Gives (StatementResult.rowsOf reply) := by
  intro u q
  have hsound : u.Sound := sound_follow (sound_start statement maxMatches) turns
  have hempty : q.metadata.state = .empty ↔ q.metadata = .empty :=
    ⟨hsound.metadata_empty_of_state, congrArg Metadata.state⟩
  refine ⟨hsound.state_notRun_iff, fun hnone => ?_, hempty.trans hsound.metadata_empty_iff,
    fun hstate => congrArg Metadata.values (hempty.1 hstate), hsound.state_populated_iff,
    fun reply hreply => Query.gives_of_reply (hsound.metadata_of_reply hreply)⟩
  exact Query.silent_of_not_hasRun
    (congrArg Metadata.hasRun (hsound.metadata_of_none hnone))

end Asked

end SearchClient
