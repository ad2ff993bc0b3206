import SearchClient.Proofs.Connection
import SearchClient.Proofs.Record

/-!
# What the driver turns replies into

A statement that goes through a driver may fail while it is sent, while its rows are fetched, and
while the answer is released. Each time the connection reports an error of execution with that
failure as its cause. When nothing fails there is a result, as long as the engine keeps to what a
driver can say: columns have texts for names, a count is an integer or unknown, and no time is
negative.

## Key results

- `Connection.reply_of_failure`: a failure becomes an error of execution
- `Connection.reply_of_rows`: without a failure there is a result, with a count of at least zero
-/

namespace SearchClient

/-- The failure behind a failure. -/
def Failure.cause? : Failure → Option Failure
  | client _ _ _ cause _ => cause
  | rejected _ _ => none
  | raised _ _ cause => cause

/-- What a driver can say of a statement that it has sent. -/
structure Answer.WellFormed (a : Answer) : Prop where
  columns : ∀ v ∈ a.columns, ∃ name, v = .str name
  reported : a.reported = .null ∨ ∃ n, a.reported = .int n
  seconds : (Numeric.Quantity.ofInt 0).atMost (.ofFloat a.seconds) = true

namespace Reply

/-- A refusal may be any; an answer is one that a driver can give. -/
def WellFormed : Reply → Prop
  | answer a => a.WellFormed
  | refusal _ => True

/-- Why a statement fails: it is refused, or its rows cannot be fetched, or its answer cannot be
released. -/
def failure? : Reply → Option Failure
  | answer a => (if a.returnsRows.isTruthy then a.fetchFailure else none) <|> a.releaseFailure
  | refusal f => some f

/-- Rows that are fetched. -/
def fetched : Reply → Nat
  | answer a => if a.returnsRows.isTruthy then a.rows.length else 0
  | refusal _ => 0

/-- Rows that are counted: as many as the engine reports, unless it reports none or less than none,
and those that are fetched otherwise. -/
def count : Reply → Int
  | answer a =>
    match a.reported with
    | .int n => if 0 ≤ n then n else (answer a).fetched
    | _ => (answer a).fetched
  | refusal _ => 0

/-- Time that the engine took. -/
def seconds : Reply → Float
  | answer a => a.seconds
  | refusal _ => 0

theorem count_nonneg (r : Reply) : 0 ≤ r.count := by
  unfold count
  split
  · split
    · split
      · assumption
      · exact Int.natCast_nonneg _
    · exact Int.natCast_nonneg _
  · exact Int.le_refl 0

end Reply

/-- A text can be cut to any length. -/
theorem Excerpt.exists_shortened (text : String) (limit : Int) :
    ∃ v, shortened (.int limit) (.str text) = .ok v := by
  have hfits (length : Nat) : fits length (.int limit) = .ok (decide ((length : Int) ≤ limit)) :=
    Numeral.atMost_whole length limit
  unfold shortened
  split
  · rename_i hlength
    exact nomatch hlength
  · rw [hfits]
    split
    · rename_i hfailed
      exact nomatch hfailed
    · exact ⟨_, rfl⟩
    · exact ⟨_, rfl⟩

/-! ### Rows -/

namespace Value

/-- The keys of a mapping that is written to are those it had and the new one. -/
theorem fst_of_mem_putEntry {entries : List (Value × Value)} {key value : Value}
    {e : Value × Value} (h : e ∈ putEntry entries key value) :
    e.1 = key ∨ ∃ e' ∈ entries, e.1 = e'.1 := by
  induction entries with
  | nil =>
    obtain rfl := List.mem_singleton.1 h
    exact .inl rfl
  | cons first rest ih =>
    obtain ⟨k, v⟩ := first
    rw [putEntry] at h
    split at h
    · rcases List.mem_cons.1 h with rfl | hrest
      · exact .inr ⟨(k, v), List.mem_cons_self, rfl⟩
      · exact .inr ⟨e, List.mem_cons_of_mem _ hrest, rfl⟩
    · rcases List.mem_cons.1 h with rfl | hrest
      · exact .inr ⟨(k, v), List.mem_cons_self, rfl⟩
      · rcases ih hrest with hkey | ⟨e', he', hsame⟩
        · exact .inl hkey
        · exact .inr ⟨e', List.mem_cons_of_mem _ he', hsame⟩

/-- A mapping of entries has their keys. -/
theorem exists_ofEntries {entries : List (Value × Value)}
    (h : ∀ e ∈ entries, ∃ name, e.1 = .str name) :
    ∃ written, ofEntries entries = .mapping written ∧ ∀ e ∈ written, ∃ name, e.1 = .str name := by
  have hfold (written : List (Value × Value)) (hwritten : ∀ e ∈ written, ∃ name, e.1 = .str name) :
      ∀ e ∈ entries.foldl (fun acc e => putEntry acc e.1 e.2) written, ∃ name, e.1 = .str name := by
    induction entries generalizing written with
    | nil => exact hwritten
    | cons first rest ih =>
      obtain ⟨hfirst, hrest⟩ := List.forall_mem_cons.1 h
      refine ih hrest _ fun e he => ?_
      rcases fst_of_mem_putEntry he with hkey | ⟨e', he', hsame⟩
      · rw [hkey]
        exact hfirst
      · rw [hsame]
        exact hwritten e' he'
  exact ⟨_, rfl, hfold [] fun e he => (nomatch he)⟩

end Value

namespace Answer

/-- The driver counts what the engine reports, and the fetched rows if that is not a number from
zero on. -/
theorem count_eq {a : Answer} (h : a.WellFormed) :
    a.count (Reply.answer a).fetched = .ok (.int (Reply.answer a).count) := by
  rcases h.reported with hnull | ⟨n, hn⟩
  · have hunknown : (Reply.answer a).count = (Reply.answer a).fetched := by
      unfold Reply.count
      dsimp only
      rw [hnull]
    rw [hunknown, Answer.count, hnull]
    rfl
  · have hknown : (Reply.answer a).count = if 0 ≤ n then n else (Reply.answer a).fetched := by
      unfold Reply.count
      dsimp only
      rw [hn]
    rw [hknown, Answer.count_of_int a _ hn]

/-- Rows under texts are mappings that a result accepts, one for each row. -/
theorem exists_named {a : Answer} (h : a.WellFormed) :
    ∃ rows, a.named = .ok rows ∧ rows.length = a.rows.length ∧
      ∀ v ∈ rows, ∃ row, (Field.mapping v).result = .ok row := by
  refine Except.exists_mapM_eq_ok fun cells _ => ?_
  have hkeys : ∀ e ∈ a.columns.zip cells, ∃ name, e.1 = .str name := fun e he =>
    h.columns e.1 (List.of_mem_zip he).1
  have hall : (a.columns.zip cells).all (·.1.isKey) = true := by
    rw [List.all_eq_true]
    intro e he
    obtain ⟨name, hname⟩ := hkeys e he
    rw [hname]
    rfl
  obtain ⟨written, hwritten, hnames⟩ := Value.exists_ofEntries hkeys
  refine ⟨_, if_pos hall, ?_⟩
  rw [hwritten]
  exact Field.exists_mapping_result hnames

end Answer

namespace Connection

/-- Rows that a result accepts give one, with their number, a count and a time. -/
theorem exists_checked {rows : List Value}
    (hrows : ∀ v ∈ rows, ∃ row, (Field.mapping v).result = .ok row) (count : Int)
    (returnsRows : Bool) {seconds : Float}
    (hseconds : (Numeric.Quantity.ofInt 0).atMost (.ofFloat seconds) = true) :
    ∃ r, checked rows (.int count) (.bool returnsRows) seconds = .ok r ∧
      r.rows.length = rows.length ∧ r.rowCount = count ∧ r.seconds = seconds := by
  obtain ⟨read, hread, hlength⟩ := Checked.exists_each_result hrows 0
  have htime : (Field.atLeast Numeric.Quantity.ofFloat 0 (Field.float (.float seconds))).result =
      .ok seconds := by
    have haccept : (if (Numeric.Quantity.ofInt 0).atMost (.ofFloat seconds) then
        Checked.accept seconds else .reject (.belowMinimum 0)).result = .ok seconds := by
      rw [if_pos hseconds]
      rfl
    exact haccept
  refine ⟨{ rows := read, rowCount := count, returnsRows, seconds }, ?_, hlength, rfl, rfl⟩
  refine RecordKind.create_ok.2 (Checked.map_result_ok.2
    ⟨(((read, count), returnsRows), seconds), ?_, rfl⟩)
  refine Checked.and_result_ok.2 ⟨Checked.and_result_ok.2
    ⟨Checked.and_result_ok.2 ⟨?_, ?_⟩, ?_⟩, ?_⟩
  · exact Field.optional_result_of_get? rfl hread _
  · exact Field.optional_result_of_get? rfl rfl _
  · exact Field.optional_result_of_get? rfl rfl _
  · exact Field.optional_result_of_get? rfl htime _

/-- Rows that were fetched are taken with their count, unless the answer cannot be released. -/
private theorem taken_of_fetched {a : Answer} (h : a.WellFormed) {rows : List Value}
    (hrows : a.fetched = .ok rows) (hlength : rows.length = (Reply.answer a).fetched) :
    taken a = match a.releaseFailure with
      | some f => .error f
      | none => .ok (rows, .int (Reply.answer a).count) := by
  unfold taken
  rw [hrows]
  change (do
    let count ← a.count rows.length
    match a.releaseFailure with
    | some f => Except.error f
    | none => return (rows, count)) = _
  rw [hlength, Answer.count_eq h]
  rfl

/-- The driver fails where the reply does, and takes the rows and the count of any other. -/
theorem taken_eq {a : Answer} (h : a.WellFormed) :
    match (Reply.answer a).failure? with
    | some f => taken a = .error f
    | none => ∃ rows, taken a = .ok (rows, .int (Reply.answer a).count) ∧
        rows.length = (Reply.answer a).fetched ∧
        ∀ v ∈ rows, ∃ row, (Field.mapping v).result = .ok row := by
  -- Only the release can fail once there are rows.
  have hreleased {rows : List Value} (hrows : a.fetched = .ok rows)
      (hlength : rows.length = (Reply.answer a).fetched)
      (hmappings : ∀ v ∈ rows, ∃ row, (Field.mapping v).result = .ok row) :
      match a.releaseFailure with
      | some f => taken a = .error f
      | none => ∃ rows, taken a = .ok (rows, .int (Reply.answer a).count) ∧
          rows.length = (Reply.answer a).fetched ∧
          ∀ v ∈ rows, ∃ row, (Field.mapping v).result = .ok row := by
    have htaken := taken_of_fetched h hrows hlength
    cases hrelease : a.releaseFailure with
    | some f => simpa [hrelease] using htaken
    | none =>
      rw [hrelease] at htaken
      exact ⟨rows, htaken, hlength, hmappings⟩
  unfold Reply.failure?
  dsimp only
  cases hreturns : a.returnsRows.isTruthy with
  | false =>
    have hfetched : a.fetched = .ok [] := if_neg (by simp [hreturns])
    have hnone : (Reply.answer a).fetched = 0 := if_neg (by simp [hreturns])
    exact hreleased hfetched hnone.symm fun v hv => (nomatch hv)
  | true =>
    have hall : (Reply.answer a).fetched = a.rows.length := if_pos hreturns
    cases hfetch : a.fetchFailure with
    | some f =>
      have hfetched : a.fetched = .error f := by
        rw [Answer.fetched, if_pos hreturns, hfetch]
      change taken a = .error f
      rw [taken, hfetched]
      rfl
    | none =>
      obtain ⟨rows, hrows, hlength, hmappings⟩ := Answer.exists_named h
      have hfetched : a.fetched = .ok rows := by
        rw [Answer.fetched, if_pos hreturns, hfetch]
        exact hrows
      exact hreleased hfetched (hlength.trans hall.symm) hmappings

/-- The error of execution for a text, with the failure behind it. -/
theorem failed_text (w : World) (text : String) (cause : Failure) :
    ∃ f, (failed w (.str text) cause).1 = .error f ∧ f.hasCode .queryExecution = true ∧
      f.cause? = some cause := by
  obtain ⟨query, hquery⟩ := Excerpt.exists_shortened text Excerpt.detailLength
  unfold failed Failure.execution
  rw [hquery]
  exact ⟨_, rfl, rfl, rfl⟩

variable {c : Connection} {before : List Value} {text : String}

/-- A statement that fails is an error of execution with that failure behind it. -/
theorem reply_of_failure (hdriver : c.transport = .driver)
    (hreply : (c.engine before (.str text)).WellFormed) {cause : Failure}
    (hcause : (c.engine before (.str text)).failure? = some cause) :
    ∃ f, c.reply before (.str text) = .error f ∧ f.hasCode .queryExecution = true ∧
      f.cause? = some cause := by
  unfold reply execute executeDriver
  rw [hdriver]
  dsimp only
  cases hr : c.engine before (.str text) with
  | refusal f =>
    rw [hr] at hcause
    obtain rfl : f = cause := Option.some.inj hcause
    exact failed_text _ text f
  | answer a =>
    rw [hr] at hreply hcause
    have htaken := taken_eq hreply
    rw [hcause] at htaken
    dsimp only at htaken ⊢
    rw [htaken]
    exact failed_text _ text cause

/-- A statement that does not fail has a result, with as many rows as are fetched. -/
theorem reply_of_rows (hdriver : c.transport = .driver)
    (hreply : (c.engine before (.str text)).WellFormed)
    (hnone : (c.engine before (.str text)).failure? = none) :
    ∃ r, c.reply before (.str text) = .ok r ∧
      r.rows.length = (c.engine before (.str text)).fetched ∧
      r.rowCount = (c.engine before (.str text)).count ∧
      r.seconds = (c.engine before (.str text)).seconds := by
  unfold reply execute executeDriver
  rw [hdriver]
  dsimp only
  cases hr : c.engine before (.str text) with
  | refusal f =>
    rw [hr] at hnone
    exact nomatch hnone
  | answer a =>
    rw [hr] at hreply hnone
    have htaken := taken_eq hreply
    rw [hnone] at htaken
    obtain ⟨rows, htaken, hlength, hmappings⟩ := htaken
    obtain ⟨r, hr, hrows, hcount, hseconds⟩ := exists_checked hmappings (Reply.answer a).count
      a.returnsRows.isTruthy hreply.seconds
    refine ⟨r, ?_, hrows.trans hlength, hcount, hseconds⟩
    dsimp only
    rw [htaken]
    exact hr

end Connection

end SearchClient
