import SearchClient.Proofs.Query.Comparisons
import SearchClient.Proofs.Query.Refusal
import SearchClient.Proofs.Query.Statement
import SearchClient.Proofs.Query.Trace

/-!
# How mistakes come to light

A change is refused by a check of its arguments or by the record that it builds. The check refuses
with the code for arguments. A record refuses in a way of its own: its failure is no error of the
client and has no code. When the arguments are of their types, a record has one reason left to
refuse, and that is an empty text where a column, an expression or a name should stand. Besides
that, what goes wrong while a source of entities is copied comes out as it is, and so does the
failure to write an integer that is too long: as a setting, as an alternative, in the number of its
alias, or in the very message of a refusal.

## Key results

- `Comparison.ofArguments_of_text`, `Mutation.sortKey_of_text`, `Mutation.setting_of_writable`: the
  records that may be refused
- `Mutation.refusal_of_typed`: the refusals of a change whose arguments are of their types
- `Tracked.mistakes_follow`: the mistakes after any run
-/

namespace SearchClient

/-! ### Refusals of records -/

theorem Comparison.ofArguments_of_text {column operator value : Value} {s : String}
    (hcolumn : column.asText? = some s) (haccepted : Accepted operator value) :
    ∃ c, ofArguments column operator value =
      if s = "" then .error (kind.refusal "column" (.tooShort 1)) else .ok c := by
  obtain ⟨o, ho, hfits⟩ := haccepted
  have hoperator : (Field.operator (.keyword (.operator o))).result = .ok o := by
    cases o <;> rfl
  unfold ofArguments
  dsimp only
  rw [ho]
  dsimp only
  rw [ofOperator_of_fits hfits]
  exact ⟨_, RecordKind.create_of_text rfl rfl hcolumn
    (Field.required_result_ok.2 ⟨_, rfl, hoperator⟩)⟩

theorem Condition.create_of_text {expression : Value} {s : String}
    (h : expression.asText? = some s) :
    rawKind.create [("expression", expression)] =
      if s = "" then .error (rawKind.refusal "expression" (.tooShort 1)) else .ok s := by
  have hgiven : Row.get? [("expression", expression)] "expression" = some expression := rfl
  unfold RecordKind.create rawKind
  dsimp only
  rw [Field.required_of_text hgiven h]
  split
  · rfl
  · rfl

namespace Mutation

theorem sortKey_of_text {column : Value} {s : String} (h : column.asText? = some s)
    (direction : Value) :
    sortKey column direction =
      if s = "" then .error (OrderTerm.kind.refusal "column" (.tooShort 1))
      else .ok ⟨s, Direction.ofValue direction⟩ := by
  let given : Row :=
    [("column", column), ("direction", .keyword (.direction (Direction.ofValue direction)))]
  have hdirection : (Field.optional given "direction" Field.direction .asc).result =
      .ok (Direction.ofValue direction) := by
    have hmember (d : Direction) :
        (Field.direction (.keyword (.direction d))).result = .ok d := by
      cases d <;> rfl
    exact Field.optional_result_of_get? rfl (hmember _) Direction.asc
  have hread : OrderTerm.kind.read given =
      ((Field.required given "column" Field.nonEmptyText).and
        (Field.optional given "direction" Field.direction .asc)).map fun p =>
          { column := p.1, direction := p.2 } := rfl
  exact RecordKind.create_of_text hread rfl h hdirection

theorem setting_of_writable {name value : Value} (hname : name.isWritable = true)
    (hvalue : value.isWritable = true) :
    setting name value =
      if name.text = "" then .error (OptionEntry.kind.refusal "name" (.tooShort 1))
      else .ok ⟨name.text, value.text⟩ := by
  let given : Row := [("name", .str name.text), ("value", .str value.text)]
  have htext : (Field.required given "value" Field.text).result = .ok value.text := rfl
  have hread : OptionEntry.kind.read given =
      ((Field.required given "name" Field.nonEmptyText).and
        (Field.required given "value" Field.text)).map fun p =>
          { name := p.1, value := p.2 } := rfl
  unfold setting
  rw [Value.written_of_isWritable hname, Value.written_of_isWritable hvalue]
  exact RecordKind.create_of_text hread rfl rfl htext

/-- A setting is written before it is checked. -/
theorem setting_of_not_writable {name value : Value}
    (h : ¬(name.isWritable = true ∧ value.isWritable = true)) :
    setting name value = .error Value.tooLong := by
  unfold setting
  cases hname : name.isWritable with
  | false =>
    rw [Value.written_of_not_isWritable hname]
    rfl
  | true =>
    have hvalue : value.isWritable = false := by simpa [hname] using h
    rw [Value.written_of_isWritable hname, Value.written_of_not_isWritable hvalue]
    rfl

/-- Raw full-text terms may be empty. -/
theorem exists_rawTerm {text : Value} {s : String} (h : text.asText? = some s)
    (combinator : Combinator) : ∃ t, rawTerm combinator text = .ok t := by
  have hcombinator :
      (Field.combinator (.keyword (.combinator combinator))).result = .ok combinator := by
    cases combinator <;> rfl
  have htext : (Field.text text).result = .ok s := by
    rw [Field.text_of_asText? h]
    rfl
  exact ⟨_, RecordKind.create_ok.2 (Checked.map_result_ok.2 ⟨(s, combinator),
    Checked.and_result_ok.2 ⟨Field.required_result_ok.2 ⟨text, rfl, htext⟩,
      Field.optional_result_of_get? rfl hcombinator .and⟩, rfl⟩)⟩

/-- So may full-text terms, and the names of their fields. -/
theorem exists_term {column text : Value} {s : String}
    (hcolumn : (∃ name, column.asText? = some name) ∨
      ∃ items, column.walk? = some items ∧ ∀ v ∈ items, ∃ name, v.asText? = some name)
    (htext : text.asText? = some s) (safe : Bool) :
    ∃ t, term column text (.bool safe) = .ok t := by
  obtain ⟨given, target, hgiven, htarget⟩ : ∃ given target, fields column = .ok given ∧
      (MatchTarget.read given).result = .ok target := by
    cases hname : column.asText? with
    | some name =>
      refine ⟨column, .field name, by rw [fields, hname], ?_⟩
      rw [MatchTarget.read, Field.text_of_asText? hname]
      rfl
    | none =>
      rcases hcolumn with ⟨name, hsome⟩ | ⟨items, hitems, htexts⟩
      · exact nomatch hname.symm.trans hsome
      · obtain ⟨names, hnames⟩ := Field.exists_texts htexts
        refine ⟨.tuple items, .fields names, by rw [fields, hname, hitems], ?_⟩
        have hseveral : (((Field.texts (.tuple items)).map MatchTarget.fields).under
            (.field "tuple[str, ...]")).result = .ok (.fields names) :=
          Checked.under_result_ok.2 (Checked.map_result_ok.2 ⟨names, hnames, rfl⟩)
        rw [MatchTarget.read, Checked.either, hseveral]
        rfl
  have hread : (Field.text text).result = .ok s := by
    rw [Field.text_of_asText? htext]
    rfl
  unfold term
  rw [hgiven]
  exact ⟨_, RecordKind.create_ok.2 (Checked.map_result_ok.2 ⟨((target, s), safe),
    Checked.and_result_ok.2 ⟨Checked.and_result_ok.2
      ⟨Field.required_result_ok.2 ⟨given, rfl, htarget⟩,
        Field.required_result_ok.2 ⟨text, rfl, hread⟩⟩,
      Field.optional_result_of_get? rfl rfl false⟩, rfl⟩)⟩

/-! ### Refusals of changes -/

/-- The arguments of a change are of their types. Columns, indexes, expressions and names are texts,
and an end of the window is an integer or nothing; operators, compared values, directions and the
values of settings may be anything. -/
def Typed : Mutation → Prop
  | statement s => s.IsStatement
  | entities _ column | selectMissing column | filter _ column _ _ | rawFilter column
  | group _ column | groupOrder _ column _ | having _ column _ _ | order _ column _
  | rawFullText _ _ column | option _ column _ => ∃ text, column.asText? = some text
  | select columns | indexes columns => ∀ v ∈ columns, ∃ text, v.asText? = some text
  | alternatives components => ∃ items, components.walk? = some items
  | fullText _ column text safe =>
    ((∃ name, column.asText? = some name) ∨
      ∃ items, column.walk? = some items ∧ ∀ v ∈ items, ∃ name, v.asText? = some name) ∧
    (∃ s, text.asText? = some s) ∧ ∃ b, safe = .bool b
  | offset v | limit v => v = .null ∨ ∃ n, v = .int n

theorem Typed.named {m : Mutation} (h : m.Typed) : m.Named := by
  cases m with
  | entities => exact h
  | selectMissing => exact h
  | group => exact h
  | select => exact h
  | indexes => exact h
  | offset => exact h
  | limit => exact h
  | _ => trivial

/-- Failures of a change that have not the code for arguments: a record with an empty text is
rejected, a source of entities may fail to be copied, and an integer may be too long for a setting,
an alternative, the next of some aliases or the refusal of a comparison. -/
def Escapes (m : Mutation) (aliases : AliasCounter) (f : Failure) : Prop :=
  match m with
  | filter _ column operator value | having _ column operator value =>
    (column.asText? = some "" ∧ Comparison.Accepted operator value) ∧
        f = Comparison.kind.refusal "column" (.tooShort 1) ∨
      (¬Comparison.Accepted operator value ∧
        (Comparison.offending operator value).isWritable = false) ∧ f = Value.tooLong
  | rawFilter expression =>
    expression.asText? = some "" ∧ f = Condition.rawKind.refusal "expression" (.tooShort 1)
  | groupOrder _ column _ | order _ column _ =>
    column.asText? = some "" ∧ f = OrderTerm.kind.refusal "column" (.tooShort 1)
  | option _ name value =>
    ((name.isWritable = true ∧ value.isWritable = true) ∧ name.text = "") ∧
        f = OptionEntry.kind.refusal "name" (.tooShort 1) ∨
      ¬(name.isWritable = true ∧ value.isWritable = true) ∧ f = Value.tooLong
  | alternatives components =>
    (∃ items, components.walk? = some items ∧ ¬∀ v ∈ items, v.isWritable = true) ∧
        f = Value.tooLong ∨
      (alternatives components).draws = true ∧ aliases.draw.1 = .error f
  | entities source _ => source.copyFailure = some f ∧ f.hasCode .invalidArgument = false
  | _ => False

private theorem refusal_of_entry {α : Type} {m : Mutation} {q kept : Query}
    {aliases : AliasCounter} {entry : Except Failure α} {put : α → Query}
    (h : m.apply q aliases = .ofEntry kept aliases entry put) {f : Failure} :
    (m.apply q aliases).refusal = some f ↔ entry = .error f := by
  rw [h]
  cases entry with
  | ok a => exact ⟨nofun, nofun⟩
  | error f' => exact ⟨fun hf => congrArg _ (Option.some.inj hf),
      fun hf => congrArg _ (Except.error.inj hf)⟩

/-- An entry that needs a text is refused without a code exactly if the text is empty. -/
private theorem refusal_of_text {α : Type} {m : Mutation} {q kept : Query}
    {aliases : AliasCounter} {entry : Except Failure α} {put : α → Query}
    (hedit : m.apply q aliases = .ofEntry kept aliases entry put) {s title : String}
    {issues : List Issue} {a : α}
    (hentry : entry = if s = "" then .error (.rejected title issues) else .ok a) {f : Failure} :
    (m.apply q aliases).refusal = some f ∧ f.hasCode .invalidArgument = false ↔
      s = "" ∧ f = .rejected title issues := by
  rw [refusal_of_entry hedit, hentry]
  split
  · rename_i hempty
    exact ⟨fun h => ⟨hempty, (Except.error.inj h.1).symm⟩, fun h => by rw [h.2]; exact ⟨rfl, rfl⟩⟩
  · rename_i hfilled
    exact ⟨fun h => (nomatch h.1), fun h => absurd h.1 hfilled⟩

/-- An entry that is refused because of an integer is refused without a code. -/
private theorem refusal_of_tooLong {α : Type} {m : Mutation} {q kept : Query}
    {aliases : AliasCounter} {entry : Except Failure α} {put : α → Query}
    (hedit : m.apply q aliases = .ofEntry kept aliases entry put)
    (hentry : entry = .error Value.tooLong) {f : Failure} :
    (m.apply q aliases).refusal = some f ∧ f.hasCode .invalidArgument = false ↔
      f = Value.tooLong := by
  rw [refusal_of_entry hedit, hentry]
  exact ⟨fun h => (Except.error.inj h.1).symm, fun h => by rw [h]; exact ⟨rfl, rfl⟩⟩

/-- A comparison is refused with the code for arguments, for an empty column, or for an argument at
fault that cannot be written. -/
private theorem refusal_of_compared {m : Mutation} {q kept : Query} {aliases : AliasCounter}
    {column operator value : Value} {put : Comparison → Query}
    (hedit : m.apply q aliases =
      .ofEntry kept aliases (Comparison.ofArguments column operator value) put)
    (hcolumn : ∃ s, column.asText? = some s) {f : Failure} :
    (m.apply q aliases).refusal = some f ∧ f.hasCode .invalidArgument = false ↔
      (column.asText? = some "" ∧ Comparison.Accepted operator value) ∧
          f = Comparison.kind.refusal "column" (.tooShort 1) ∨
        (¬Comparison.Accepted operator value ∧
          (Comparison.offending operator value).isWritable = false) ∧ f = Value.tooLong := by
  obtain ⟨s, hs⟩ := hcolumn
  by_cases haccepted : Comparison.Accepted operator value
  · obtain ⟨c, hc⟩ := Comparison.ofArguments_of_text hs haccepted
    rw [refusal_of_text hedit hc, hs, Option.some_inj]
    simp [haccepted, RecordKind.refusal]
  · cases hlong : (Comparison.offending operator value).isWritable with
    | false =>
      rw [refusal_of_tooLong hedit (Comparison.tooLong_iff.2 ⟨haccepted, hlong⟩)]
      simp [haccepted]
    | true =>
      obtain ⟨f', hf', hcode⟩ := Comparison.refused_iff.2 ⟨haccepted, hlong⟩
      rw [refusal_of_entry hedit, hf']
      simp only [haccepted, and_false, false_and, Bool.true_eq_false, or_false, iff_false]
      rintro ⟨h, hnone⟩
      obtain rfl := Except.error.inj h
      exact absurd (hnone.symm.trans hcode) (by decide)

/-- Alternatives are refused only if they, or their alias, cannot be written. -/
private theorem refusal_of_alternatives {components : Value} {items : List Value}
    (hitems : components.walk? = some items) (q : Query) {aliases : AliasCounter}
    (haliases : aliases.Whole) {f : Failure} :
    ((alternatives components).apply q aliases).refusal = some f ∧
        f.hasCode .invalidArgument = false ↔
      (alternatives components).Escapes aliases f := by
  have hcode (h : (alternatives components).Escapes aliases f) :
      f.hasCode .invalidArgument = false := by
    rcases h with ⟨-, rfl⟩ | ⟨-, hname⟩
    · rfl
    · rw [haliases.draw_error hname]
      rfl
  have hwrites := writesIf_alternativesOf hitems
  have hedit := alternated q aliases components
  -- From the refusal the reason is read off by cases; from the reason the refusal is computed.
  refine ⟨fun ⟨hrefused, _⟩ => ?_, fun h => ⟨?_, hcode h⟩⟩
  · generalize (alternatives components).apply q aliases = edit at hedit hrefused
    cases hedit with
    | unread htexts =>
      left
      have hnot : ¬∀ v ∈ items, v.isWritable = true := fun hwritable => by
        obtain ⟨texts, hread⟩ := hwrites.ok hwritable
        exact nomatch hread.symm.trans htexts
      obtain rfl := Option.some.inj hrefused
      exact ⟨⟨items, hitems, hnot⟩, Except.error.inj (htexts.symm.trans (hwrites.error hnot))⟩
    | none htexts => exact nomatch hrefused
    | unnamed htexts hsome hname =>
      obtain rfl := Option.some.inj hrefused
      exact .inr ⟨by simp [draws_of_alternatives htexts, hsome], hname⟩
    | named htexts hsome hname hselected =>
      rw [Comparison.ofArguments_alias (haliases.draw_ne_empty hname)] at hrefused
      exact nomatch hrefused
  · rcases h with ⟨⟨_, hsame, hnot⟩, rfl⟩ | ⟨hdraws, hname⟩
    · obtain rfl := Option.some.inj (hitems.symm.trans hsame)
      rw [apply_of_unread q (hwrites.error hnot)]
      rfl
    · obtain ⟨_, texts, hsame, htexts, hsome⟩ := alternatives_of_draws hdraws
      obtain rfl := Mutation.alternatives.inj hsame
      rw [apply_of_unnamed q htexts hsome hname]
      rfl

/-- A change whose arguments are of their types is refused without the code for arguments exactly if
its failure is one of those that escape. -/
theorem refusal_of_typed {m : Mutation} (hm : m.Typed) (q : Query) {aliases : AliasCounter}
    (haliases : aliases.Whole) (f : Failure) :
    (m.apply q aliases).refusal = some f ∧ f.hasCode .invalidArgument = false ↔
      m.Escapes aliases f := by
  cases m with
  | filter p column operator value => exact refusal_of_compared rfl hm
  | having p column operator value => exact refusal_of_compared rfl hm
  | rawFilter expression =>
    obtain ⟨s, hs⟩ := hm
    rw [refusal_of_text rfl (Condition.create_of_text hs), Escapes, hs, Option.some_inj]
    rfl
  | groupOrder p column direction =>
    obtain ⟨s, hs⟩ := hm
    rw [refusal_of_text rfl (sortKey_of_text hs direction), Escapes, hs, Option.some_inj]
    rfl
  | order p column direction =>
    obtain ⟨s, hs⟩ := hm
    rw [refusal_of_text rfl (sortKey_of_text hs direction), Escapes, hs, Option.some_inj]
    rfl
  | option p name value =>
    by_cases hwritable : name.isWritable = true ∧ value.isWritable = true
    · rw [refusal_of_text rfl (setting_of_writable hwritable.1 hwritable.2)]
      simp [Escapes, hwritable, RecordKind.refusal]
    · rw [refusal_of_tooLong rfl (setting_of_not_writable hwritable)]
      simp only [Escapes, hwritable, false_and, not_false_eq_true, true_and, false_or]
  | fullText p column text safe =>
    obtain ⟨hcolumn, ⟨s, hs⟩, b, rfl⟩ := hm
    obtain ⟨t, ht⟩ := exists_term hcolumn hs b
    rw [refusal_of_entry rfl, ht]
    exact ⟨fun h => (nomatch h.1), nofun⟩
  | rawFullText p combinator text =>
    obtain ⟨s, hs⟩ := hm
    obtain ⟨t, ht⟩ := exists_rawTerm hs combinator
    rw [refusal_of_entry rfl, ht]
    exact ⟨fun h => (nomatch h.1), nofun⟩
  | alternatives components =>
    obtain ⟨items, hitems⟩ := hm
    exact refusal_of_alternatives hitems q haliases
  | entities source column =>
    unfold apply applyEntities Escapes
    dsimp only
    split
    · rename_i f' hf'
      rw [hf']
    · rename_i hnone
      rw [hnone]
  | _ => exact ⟨fun h => (nomatch h.1), nofun⟩

end Mutation

namespace Query

/-- A query whose clauses are named by texts, with comparisons that are shaped, refuses to say what
they make up with the code for arguments, or because of an integer. -/
theorem error_of_currentStatement {q : Query} (hnamed : q.clauses.Named)
    (hshaped : q.clauses.Shaped) {f : Failure} (h : q.currentStatement = .error f) :
    f.hasCode .invalidArgument = true ∨
      ¬q.clauses.Writable q.maxMatches ∧ f = Value.tooLong := by
  unfold currentStatement at h
  split at h
  · exact nomatch h
  · cases hcompile : q.clauses.compile q.maxMatches with
    | ok text =>
      rw [hcompile] at h
      exact nomatch h
    | error f' =>
      rw [hcompile] at h
      obtain rfl := Except.error.inj h
      exact Clauses.error_of_compile hshaped hnamed hcompile

end Query

namespace Tracked

/-- A change of any query whose arguments are of their types is made, or it is refused with the code
for arguments, or its failure is one of those that escape, and it escapes exactly then. After any
run of such changes, asking for the statement fails with the code for arguments, or because an
integer of the clauses cannot be written, or not at all. -/
theorem mistakes_follow (statement maxMatches : Value) {turns : List Turn}
    (htyped : ∀ m change, Turn.call m ∈ turns → m.call = .change change → change.Typed) :
    (∀ (q : Query) (change : Mutation) (c : Collaborators) (w : World), change.Typed →
      w.aliases.Whole →
      ((q.call c w (.change change)).result = .ok .self ∨
        ∃ f, (q.call c w (.change change)).result = .error f ∧
          (f.hasCode .invalidArgument = true ∨ change.Escapes w.aliases f)) ∧
      ∀ f, (q.call c w (.change change)).result = .error f ∧
        f.hasCode .invalidArgument = false ↔ change.Escapes w.aliases f) ∧
      let q := ((start statement maxMatches).follow turns).query
      ∀ (c : Collaborators) (w : World) (f : Failure),
        (q.call c w .statement).result = .error f →
          f.hasCode .invalidArgument = true ∨
            ¬q.clauses.Writable q.maxMatches ∧ f = Value.tooLong := by
  refine ⟨fun q change c w hchange hw => ?_, fun c w f hf => ?_⟩
  · have hrefused (f : Failure) : (q.call c w (.change change)).result = .error f ↔
        (change.apply q w.aliases).refusal = some f :=
      ⟨Query.refusal_of_change, fun h => (Query.result_change ..).trans (by rw [h])⟩
    have hescapes := Mutation.refusal_of_typed hchange q hw
    refine ⟨?_, fun f => by rw [hrefused, hescapes]⟩
    cases hrefusal : (change.apply q w.aliases).refusal with
    | none => exact .inl ((Query.result_change ..).trans (by rw [hrefusal]))
    | some f =>
      refine .inr ⟨f, (hrefused f).2 hrefusal, ?_⟩
      cases hcode : f.hasCode .invalidArgument with
      | true => exact .inl rfl
      | false => exact .inr ((hescapes f).1 ⟨hrefusal, hcode⟩)
  · obtain ⟨hnames, hshaped⟩ :=
      named_follow fun m change hm hcall => (htyped m change hm hcall).named
    have hcurrent := currentStatement_follow
      (u := start statement maxMatches) (Query.statement_of_dirty rfl) turns
    rw [show (Query.call _ _ w .statement).result = _ from Query.result_reading .., hcurrent] at hf
    cases hstatement : ((start statement maxMatches).follow turns).query.currentStatement with
    | ok s =>
      rw [hstatement] at hf
      exact nomatch hf
    | error f' =>
      rw [hstatement] at hf
      obtain rfl := Except.error.inj hf
      exact Query.error_of_currentStatement hnames hshaped hstatement

/-- A query without an index, to which a sort key without a column was to be added. -/
theorem mistakes_follow_of_unfinished :
    let c : Collaborators := { connection := { engine := fun _ _ => .answer {} } }
    let turns : List Turn := [
      .call ⟨c, {}, .change (.select [.str "id"])⟩,
      .call ⟨c, {}, .change (.order .append (.str "") (.str "desc"))⟩]
    let q := ((start .null (.int 1000)).follow turns).query
    (∀ m change, Turn.call m ∈ turns → m.call = .change change → change.Typed) ∧
      (∃ f, (q.call c {} (.change (.order .append (.str "") (.str "desc")))).result = .error f ∧
        f.hasCode .invalidArgument = false) ∧
      ∃ f, (q.call c {} .statement).result = .error f ∧ f.hasCode .invalidArgument = true := by
  intro c turns q
  have htyped : ∀ m change, Turn.call m ∈ turns → m.call = .change change → change.Typed := by
    intro m change hm hcall
    simp only [turns, List.mem_cons, Turn.call.injEq, List.not_mem_nil, or_false] at hm
    rcases hm with rfl | rfl
    · obtain rfl := Call.change.inj hcall
      exact fun v hv => ⟨"id", by rw [List.mem_singleton.1 hv]; rfl⟩
    · obtain rfl := Call.change.inj hcall
      exact ⟨"", rfl⟩
  obtain ⟨hchanges, hstatement⟩ := mistakes_follow .null (.int 1000) htyped
  have hrefused : ∃ f, (q.call c {} .statement).result = .error f := ⟨_, rfl⟩
  obtain ⟨f, hf⟩ := hrefused
  -- The clauses hold no integers but the window's, so it is not one of these that stops it.
  have hwritable : q.clauses.Writable q.maxMatches := by decide +kernel
  have hcode : f.hasCode .invalidArgument = true :=
    (hstatement c {} f hf).resolve_right fun h => h.1 hwritable
  have hescapes := (hchanges q (.order .append (.str "") (.str "desc")) c {} ⟨"", rfl⟩ ⟨0, rfl⟩).2
  exact ⟨htyped, ⟨_, (hescapes _).2 ⟨rfl, rfl⟩⟩, f, hf, hcode⟩

/-- A filter on a column without a name: the failure is that of the rejected record. -/
theorem empty_column_rejected :
    let c : Collaborators := { connection := { engine := fun _ _ => .answer {} } }
    let change : Mutation := .filter .replace (.str "") (.str "=") (.int 1)
    let q := Query.create .null (.int 1000)
    change.Typed ∧ ∃ f, (q.call c {} (.change change)).result = .error f ∧
      f.hasCode .invalidArgument = false ∧ f.kind = .rejected :=
  ⟨⟨"", rfl⟩, _, rfl, rfl, rfl⟩

end Tracked

end SearchClient
