import SearchClient.Proofs.Record
import SearchClient.Proofs.Written
import SearchClient.Query.Mutation

/-!
# What one change does

A change leaves a query as it is, or makes it dirty and touches nothing but its clauses, its own
statement and its binding: the cache that it had is still there, and no longer counts.

The values of comparisons fit their operators, because every comparison is built by
`Comparison.ofArguments`: a range has a tuple of two bounds, a membership has a tuple, and a list
of values is always kept as a tuple.

## Key results

- `Mutation.alternated`: the ways in which alternatives are taken, or not
- `Mutation.apply_query`: all that a change can do
- `Comparison.refused_cases`: a refusal has a code, unless the value it names cannot be written
- `Comparison.ofArguments_ok`: what a comparison is built from
- `Comparison.shaped_ofArguments`: a comparison that is built has the shape its operator needs
- `Mutation.compares_apply`: a comparison was there before or is built by the change
- `Mutation.shaped_apply`: a change keeps the shape of all comparisons
-/

namespace SearchClient

/-! ### Comparisons -/

namespace Comparison

/-- The value has the shape that the operator needs, and lists of values are tuples. -/
structure Shaped (c : Comparison) : Prop where
  between : c.operator = .between → ∃ lower upper, c.value = .tuple [lower, upper]
  takesList : c.operator.takesList = true → ∃ items, c.value = .tuple items
  isSequence : c.value.isSequence = true → ∃ items, c.value = .tuple items

/-- A comparison that is read keeps the operator and the value that it was given. -/
private theorem create_ok {column : Value} {operator : Operator} {value : Value} {c : Comparison}
    (h : kind.create [("column", column), ("operator", .keyword (.operator operator)),
      ("value", value)] = .ok c) : c.operator = operator ∧ c.value = value := by
  have hread := RecordKind.create_ok.1 h
  obtain ⟨⟨name, o⟩, hfields, rfl⟩ := Checked.map_result_ok.1 hread
  obtain ⟨v, hv, ho⟩ := Field.required_result_ok.1 (Checked.and_result_ok.1 hfields).2
  obtain rfl : Value.keyword (.operator operator) = v := Option.some.inj hv
  have hsame : (Field.operator (.keyword (.operator operator))).result = .ok operator := by
    cases operator <;> rfl
  exact ⟨Except.ok.inj (ho.symm.trans hsame), rfl⟩

/-- A refusal has the code of its category if the value that it names can be written; else it is the
reason why it cannot. -/
theorem refused_cases (message argument : String) (v : Value) :
    v.isWritable = true ∧ (refused message argument v).hasCode .invalidArgument = true ∨
      v.isWritable = false ∧ refused message argument v = Value.tooLong := by
  unfold refused Failure.invalidArgument
  cases h : v.isWritable with
  | true =>
    rw [Value.written_of_isWritable h]
    exact .inl ⟨rfl, rfl⟩
  | false =>
    rw [Value.written_of_not_isWritable h]
    exact .inr ⟨rfl, rfl⟩

/-- An operator is refused like any other argument, except that the message names it too. -/
theorem unknownOperator_cases (v : Value) :
    v.isWritable = true ∧ (unknownOperator v).hasCode .invalidArgument = true ∨
      v.isWritable = false ∧ unknownOperator v = Value.tooLong := by
  cases h : v.isWritable with
  | true =>
    have hrefused : unknownOperator v = refused ("Invalid operator " ++ v.text) "operator" v := by
      rw [unknownOperator, Value.written_of_isWritable h]
      rfl
    have hcases := refused_cases ("Invalid operator " ++ v.text) "operator" v
    rwa [h, ← hrefused] at hcases
  | false =>
    rw [unknownOperator, Value.written_of_not_isWritable h]
    exact .inr ⟨rfl, rfl⟩

/-- A value has what an operator needs: two members for a range, any list for a membership. -/
structure Fits (operator : Operator) (value : Value) : Prop where
  between : operator = .between → value.isSequence = true ∧ value.members.length = 2
  takesList : operator.takesList = true → value.isSequence = true

/-- A value that fits gets as far as the column; the fault of a column has no code. -/
theorem ofOperator_of_fits {operator : Operator} {value : Value} (h : Fits operator value)
    (column : Value) :
    ofOperator column operator value =
      kind.create [("column", column), ("operator", .keyword (.operator operator)),
        ("value", if value.isSequence then .tuple value.members else value)] := by
  unfold ofOperator
  rw [if_neg (fun hbetween => hbetween.2 (h.between hbetween.1)),
    if_neg (fun hlist => hlist.2 (h.takesList hlist.1))]

/-- Any other value is refused. -/
theorem ofOperator_of_not_fits {operator : Operator} {value : Value} (h : ¬Fits operator value)
    (column : Value) :
    ∃ message, ofOperator column operator value = .error (refused message "value" value) := by
  unfold ofOperator
  split
  · exact ⟨_, rfl⟩
  · rename_i hbetween
    split
    · exact ⟨_, rfl⟩
    · rename_i hlist
      exact absurd ⟨fun ho => Decidable.byContradiction fun hnot => hbetween ⟨ho, hnot⟩,
        fun ho => Decidable.byContradiction fun hnot => hlist ⟨ho, hnot⟩⟩ h

/-- A comparison keeps its operator and a value that fits it, a list of values as a tuple. -/
theorem ofOperator_ok {column : Value} {operator : Operator} {value : Value} {c : Comparison}
    (h : ofOperator column operator value = .ok c) :
    c.operator = operator ∧ Fits operator value ∧
      c.value = if value.isSequence then .tuple value.members else value := by
  by_cases hfits : Fits operator value
  · rw [ofOperator_of_fits hfits] at h
    obtain ⟨hoperator, hvalue⟩ := create_ok h
    exact ⟨hoperator, hfits, hvalue⟩
  · obtain ⟨message, hf⟩ := ofOperator_of_not_fits hfits column
    exact nomatch hf.symm.trans h

/-- A comparison is built by an operator that its arguments mean, from a value that fits it. -/
theorem ofArguments_ok {column operator value : Value} {c : Comparison}
    (h : ofArguments column operator value = .ok c) :
    Operator.ofValue? (operands operator value).1 = some c.operator ∧
      Fits c.operator (operands operator value).2 ∧
      c.value =
        if (operands operator value).2.isSequence then .tuple (operands operator value).2.members
        else (operands operator value).2 := by
  unfold ofArguments at h
  dsimp only at h
  split at h
  · rename_i o ho
    obtain ⟨rfl, hfits, hvalue⟩ := ofOperator_ok h
    exact ⟨ho, hfits, hvalue⟩
  · exact nomatch h

/-- A comparison that is built has the shape that its operator needs. -/
theorem shaped_ofArguments {column operator value : Value} {c : Comparison}
    (h : ofArguments column operator value = .ok c) : c.Shaped := by
  obtain ⟨-, hfits, hvalue⟩ := ofArguments_ok h
  generalize (operands operator value).2 = v at hfits hvalue
  have htuple (hseq : v.isSequence = true) : c.value = .tuple v.members := by
    rw [hvalue, if_pos hseq]
  refine ⟨fun ho => ?_, fun ho => ⟨_, htuple (hfits.takesList ho)⟩, fun hseq => ?_⟩
  · obtain ⟨hseq, hlength⟩ := hfits.between ho
    obtain ⟨lower, upper, hmembers⟩ := List.length_eq_two.1 hlength
    exact ⟨lower, upper, by rw [htuple hseq, hmembers]⟩
  -- A value that is no list is kept as it is, so it is none afterwards.
  · cases hv : v.isSequence with
    | true => exact ⟨_, htuple hv⟩
    | false =>
      rw [hvalue, hv] at hseq
      exact absurd (hv.symm.trans hseq) (by decide)

end Comparison

/-- A comparison among the filters is shaped; an expression that is written as given has no
shape. -/
def Condition.Shaped : Condition → Prop
  | .comparison c => c.Shaped
  | .raw _ => True

namespace Clauses

/-- All comparisons of some clauses are shaped. -/
structure Shaped (q : Clauses) : Prop where
  conditions : ∀ c ∈ q.conditions, c.Shaped
  having : ∀ c ∈ q.having, c.Shaped

/-- Clauses without conditions are shaped. -/
theorem shaped_of_eq_nil {q : Clauses} (hconditions : q.conditions = []) (hhaving : q.having = []) :
    q.Shaped := by
  constructor
  · simp [hconditions]
  · simp [hhaving]

/-- A comparison is among the filters or the filters of groups. -/
def Compares (q : Clauses) (c : Comparison) : Prop :=
  .comparison c ∈ q.conditions ∨ .comparison c ∈ q.having

/-- Only the comparisons matter. -/
theorem shaped_iff {q : Clauses} : q.Shaped ↔ ∀ c, q.Compares c → c.Shaped := by
  constructor
  · rintro h c (hc | hc)
    · exact h.conditions _ hc
    · exact h.having _ hc
  · refine fun h => ⟨fun x hx => ?_, fun x hx => ?_⟩
    · cases x with
      | comparison c => exact h c (.inl hx)
      | raw expression => trivial
    · cases x with
      | comparison c => exact h c (.inr hx)
      | raw expression => trivial

end Clauses

/-! ### Changes -/

namespace Edit

/-- What an entry makes of a query, whether it is accepted or refused. -/
theorem ofEntry_query {α : Type} (q : Query) (aliases : AliasCounter) (entry : Except Failure α)
    (put : α → Query) :
    (∃ a, entry = .ok a ∧ (ofEntry q aliases entry put).query = put a) ∨
      (ofEntry q aliases entry put).query = q := by
  cases entry with
  | ok a => exact .inl ⟨a, rfl, rfl⟩
  | error f => exact .inr rfl

end Edit

namespace Mutation

/-- A query with other clauses or another binding, dirty. -/
def Redone (q q' : Query) : Prop := ∃ clauses binding, q' = { q.dirtied with clauses, binding }

private theorem redone_ofEntry {α : Type} {q kept : Query} (hkept : Redone q kept)
    (aliases : AliasCounter) (entry : Except Failure α) {put : α → Query}
    (hput : ∀ a, Redone q (put a)) : Redone q (Edit.ofEntry kept aliases entry put).query := by
  rcases Edit.ofEntry_query kept aliases entry put with ⟨a, _, h⟩ | h
  · rw [h]
    exact hput a
  · rw [h]
    exact hkept

/-- Entities are bound in the place of others and their column is selected, unless it is already or
their source cannot be copied. -/
theorem query_entities (source : EntityQuery) (column : Value) (q : Query)
    (aliases : AliasCounter) :
    ((entities source column).apply q aliases).query = q.dirtied ∨
      ∃ columns, columns ⊆ [column] ∧ ((entities source column).apply q aliases).query =
        { q.dirtied with binding := some { source, column } }.addColumns columns := by
  unfold apply applyEntities Query.bind
  dsimp only
  split
  · exact .inl rfl
  · right
    split
    · refine ⟨[], List.nil_subset _, ?_⟩
      simp only [Query.addColumns, List.append_nil]
      rfl
    · exact ⟨[column], List.Subset.refl _, rfl⟩

/-- A column that is selected already is not selected again, and nothing else happens either. -/
theorem query_selectMissing (column : Value) (q : Query) (aliases : AliasCounter) :
    ((selectMissing column).apply q aliases).query = q ∨
      ((selectMissing column).apply q aliases).query = q.dirtied.addColumns [column] := by
  unfold apply
  dsimp only
  split
  · exact .inl rfl
  · exact .inr rfl

/-- Alternatives have texts if all of them can be written. -/
theorem alternativesOf_of_writable {components : Value} {items : List Value}
    (hitems : components.walk? = some items) (hwritable : ∀ v ∈ items, v.isWritable = true) :
    alternativesOf components = .ok (items.map Value.text) := by
  rw [alternativesOf, hitems]
  refine Except.mapM_eq_ok_of_map_eq ?_
  rw [List.map_map]
  exact List.map_congr_left fun v hv => Value.written_of_isWritable (hwritable v hv)

/-- If one of them cannot, that is why they have none. -/
theorem writesIf_alternativesOf {components : Value} {items : List Value}
    (hitems : components.walk? = some items) :
    WritesIf (∀ v ∈ items, v.isWritable = true) (alternativesOf components) := by
  rw [alternativesOf, hitems]
  exact .mapM fun v _ => v.writesIf_written

/-- What becomes of alternatives: nothing, if they have no texts, are none or get no name; else they
are selected under the name, and filtered on if their filter is accepted. -/
inductive Alternated (q : Query) (aliases : AliasCounter) (components : Value) : Edit → Prop where
  | unread {f : Failure} (htexts : alternativesOf components = .error f) :
      Alternated q aliases components (.refused q aliases f)
  | none (htexts : alternativesOf components = .ok []) :
      Alternated q aliases components (.done q aliases)
  | unnamed {texts : List String} {f : Failure} (htexts : alternativesOf components = .ok texts)
      (hsome : texts ≠ []) (hname : aliases.draw.1 = .error f) :
      Alternated q aliases components (.refused q aliases.draw.2 f)
  | named {texts : List String} {name : String} {selected : Query}
      (htexts : alternativesOf components = .ok texts) (hsome : texts ≠ [])
      (hname : aliases.draw.1 = .ok name)
      (hselected : selected = q.dirtied.addColumns [.str (disjunction texts ++ " AS " ++ name)]) :
      Alternated q aliases components
        (.ofEntry selected aliases.draw.2
          (Comparison.ofArguments (.str name) (.keyword (.operator .eq)) (.int 1))
          (selected.addFilter .append))

theorem alternated (q : Query) (aliases : AliasCounter) (components : Value) :
    Alternated q aliases components ((alternatives components).apply q aliases) := by
  change Alternated q aliases components (applyAlternatives q aliases components)
  unfold applyAlternatives
  split
  · rename_i f htexts
    exact .unread htexts
  · rename_i htexts
    exact .none htexts
  · rename_i texts hsome htexts
    split
    · rename_i f after hdraw
      obtain ⟨hname, rfl⟩ := Prod.ext_iff.1 hdraw
      exact .unnamed htexts hsome hname
    · rename_i name after hdraw
      obtain ⟨hname, rfl⟩ := Prod.ext_iff.1 hdraw
      exact .named htexts hsome hname rfl

section

variable {components : Value} {texts : List String} (q : Query) {aliases : AliasCounter}
  {f : Failure} {name : String}

theorem apply_of_unread (htexts : alternativesOf components = .error f) :
    (alternatives components).apply q aliases = .refused q aliases f := by
  rw [apply, applyAlternatives, htexts]

theorem apply_of_none (htexts : alternativesOf components = .ok []) :
    (alternatives components).apply q aliases = .done q aliases := by
  rw [apply, applyAlternatives, htexts]

theorem apply_of_unnamed (htexts : alternativesOf components = .ok texts) (hsome : texts ≠ [])
    (hname : aliases.draw.1 = .error f) :
    (alternatives components).apply q aliases = .refused q aliases.draw.2 f := by
  obtain ⟨text, rest, rfl⟩ := List.exists_cons_of_ne_nil hsome
  have hdraw : aliases.draw = (.error f, aliases.draw.2) := Prod.ext hname rfl
  rw [apply, applyAlternatives, htexts]
  dsimp only
  rw [hdraw]

theorem apply_of_named (htexts : alternativesOf components = .ok texts) (hsome : texts ≠ [])
    (hname : aliases.draw.1 = .ok name) :
    let selected := q.dirtied.addColumns [.str (disjunction texts ++ " AS " ++ name)]
    (alternatives components).apply q aliases =
      .ofEntry selected aliases.draw.2
        (Comparison.ofArguments (.str name) (.keyword (.operator .eq)) (.int 1))
        (selected.addFilter .append) := by
  obtain ⟨text, rest, rfl⟩ := List.exists_cons_of_ne_nil hsome
  have hdraw : aliases.draw = (.ok name, aliases.draw.2) := Prod.ext hname rfl
  rw [apply, applyAlternatives, htexts]
  dsimp only
  rw [hdraw]

end

/-- Alternatives are selected as one column, and filtered on if their filter is accepted. -/
theorem query_alternatives (components : Value) (q : Query) (aliases : AliasCounter) :
    ((alternatives components).apply q aliases).query = q ∨
      ∃ (column : String) (entries : List Condition),
        ((alternatives components).apply q aliases).query =
          q.dirtied.update fun c =>
            { c with select := c.select ++ [.str column], conditions := c.conditions ++ entries } := by
  have hedit := alternated q aliases components
  generalize (alternatives components).apply q aliases = edit at hedit ⊢
  cases hedit with
  | unread htexts => exact .inl rfl
  | none htexts => exact .inl rfl
  | unnamed htexts hsome hname => exact .inl rfl
  | @named texts name selected htexts hsome hname hselected =>
    obtain rfl := hselected
    refine .inr ⟨disjunction texts ++ " AS " ++ name, ?_⟩
    rcases Edit.ofEntry_query _ aliases.draw.2 (Comparison.ofArguments (.str name)
      (.keyword (.operator .eq)) (.int 1)) _ with ⟨a, -, haccepted⟩ | hrefused
    · exact ⟨[.comparison a], haccepted⟩
    · refine ⟨[], hrefused.trans ?_⟩
      simp only [List.append_nil]
      rfl

/-- A change leaves a query as it is, or makes it dirty and touches only its clauses and its
binding, unless it is a change of the statement that the query has of its own. -/
theorem apply_query (m : Mutation) (q : Query) (aliases : AliasCounter) :
    (m.apply q aliases).query = q ∨ Redone q (m.apply q aliases).query ∨
      ∃ s, m = .statement s ∧
        (m.apply q aliases).query =
          { q.dirtied with raw := if s.isNull then none else some s } := by
  -- A refused entry leaves what was cleared for it cleared, which is no more than a change of the
  -- clauses either.
  have hupdate (f : Clauses → Clauses) : Redone q (q.dirtied.update f) := ⟨_, _, rfl⟩
  cases m with
  | statement s => exact .inr (.inr ⟨s, rfl, rfl⟩)
  | entities source column =>
    rcases query_entities source column q aliases with h | ⟨columns, -, h⟩
    · exact .inr (.inl ⟨_, _, h⟩)
    · exact .inr (.inl ⟨_, _, h⟩)
  | select columns => exact .inr (.inl ⟨_, _, rfl⟩)
  | selectMissing column =>
    rcases query_selectMissing column q aliases with h | h
    · exact .inl h
    · exact .inr (.inl ⟨_, _, h⟩)
  | indexes names => exact .inr (.inl ⟨_, _, rfl⟩)
  | filter p column operator value =>
    exact .inr (.inl (redone_ofEntry ⟨_, _, rfl⟩ _ _ fun a => hupdate _))
  | rawFilter expression => exact .inr (.inl (redone_ofEntry ⟨_, _, rfl⟩ _ _ fun a => hupdate _))
  | alternatives components =>
    rcases query_alternatives components q aliases with h | ⟨column, entries, h⟩
    · exact .inl h
    · exact .inr (.inl ⟨_, _, h⟩)
  | fullText p column text safe =>
    exact .inr (.inl (redone_ofEntry (hupdate _) _ _ fun a => ⟨_, _, rfl⟩))
  | rawFullText p combinator text =>
    exact .inr (.inl (redone_ofEntry (hupdate _) _ _ fun a => ⟨_, _, rfl⟩))
  | group p column => exact .inr (.inl ⟨_, _, rfl⟩)
  | groupOrder p column direction =>
    exact .inr (.inl (redone_ofEntry (hupdate _) _ _ fun a => ⟨_, _, rfl⟩))
  | having p column operator value =>
    exact .inr (.inl (redone_ofEntry ⟨_, _, rfl⟩ _ _ fun a => hupdate _))
  | order p column direction =>
    exact .inr (.inl (redone_ofEntry (hupdate _) _ _ fun a => ⟨_, _, rfl⟩))
  | offset first => exact .inr (.inl ⟨_, _, rfl⟩)
  | limit count => exact .inr (.inl ⟨_, _, rfl⟩)
  | option p name value => exact .inr (.inl (redone_ofEntry (hupdate _) _ _ fun a => ⟨_, _, rfl⟩))

/-! ### Where comparisons come from -/

/-- A change builds a comparison: from its arguments, or to filter on alternatives. -/
inductive Builds : Mutation → Comparison → Prop where
  | filter {p : Placement} {column operator value : Value} {c : Comparison}
      (h : Comparison.ofArguments column operator value = .ok c) :
      Builds (.filter p column operator value) c
  | having {p : Placement} {column operator value : Value} {c : Comparison}
      (h : Comparison.ofArguments column operator value = .ok c) :
      Builds (.having p column operator value) c
  | alternatives {components : Value} {c : Comparison} (name : String)
      (h : Comparison.ofArguments (.str name) (.keyword (.operator .eq)) (.int 1) = .ok c) :
      Builds (.alternatives components) c

theorem Builds.shaped {m : Mutation} {c : Comparison} (h : m.Builds c) : c.Shaped := by
  cases h with
  | filter hc => exact Comparison.shaped_ofArguments hc
  | having hc => exact Comparison.shaped_ofArguments hc
  | alternatives name hc => exact Comparison.shaped_ofArguments hc

private theorem mem_put {α : Type} {p : Placement} {entries : List α} {entry x : α}
    (h : x ∈ p.put entries entry) : x ∈ entries ∨ x = entry := by
  cases p with
  | replace => exact .inr (List.mem_singleton.1 h)
  | append =>
    rcases List.mem_append.1 h with hx | hx
    · exact .inl hx
    · exact .inr (List.mem_singleton.1 hx)

/-- A filter that is added is the only new comparison. -/
private theorem compares_addFilter {q : Query} {p : Placement} {c c' : Comparison}
    (h : (q.addFilter p c').clauses.Compares c) : q.clauses.Compares c ∨ c = c' := by
  rcases h with hfilter | hhaving
  · rcases mem_put hfilter with hold | hnew
    · exact .inl (.inl hold)
    · exact .inr (Condition.comparison.inj hnew)
  · exact .inl (.inr hhaving)

/-- Comparisons behind an entry are those of its acceptance or of its refusal. -/
private theorem compares_ofEntry {α : Type} {kept : Query} {aliases : AliasCounter}
    {entry : Except Failure α} {put : α → Query} {c : Comparison} {P : Prop}
    (h : (Edit.ofEntry kept aliases entry put).query.clauses.Compares c)
    (hkept : kept.clauses.Compares c → P)
    (hput : ∀ a, entry = .ok a → (put a).clauses.Compares c → P) : P := by
  rcases Edit.ofEntry_query kept aliases entry put with ⟨a, ha, hquery⟩ | hquery
  · exact hput a ha (hquery ▸ h)
  · exact hkept (hquery ▸ h)

/-- A comparison behind a change was there before, or the change has built it. -/
theorem compares_apply {m : Mutation} {q : Query} {aliases : AliasCounter} {c : Comparison}
    (h : (m.apply q aliases).query.clauses.Compares c) : q.clauses.Compares c ∨ m.Builds c := by
  cases m with
  | entities source column =>
    left
    rcases query_entities source column q aliases with hquery | ⟨columns, -, hquery⟩
    all_goals
      rw [hquery] at h
      exact h
  | selectMissing column =>
    left
    rcases query_selectMissing column q aliases with hquery | hquery
    all_goals
      rw [hquery] at h
      exact h
  | filter p column operator value =>
    refine compares_ofEntry h .inl fun a ha hc => ?_
    rcases compares_addFilter hc with hold | rfl
    · exact .inl hold
    · exact .inr (.filter ha)
  | rawFilter expression =>
    refine compares_ofEntry h .inl fun e _ hc => .inl ?_
    rcases hc with hfilter | hhaving
    · rcases List.mem_append.1 hfilter with hold | hnew
      · exact .inl hold
      · exact nomatch List.mem_singleton.1 hnew
    · exact .inr hhaving
  | alternatives components =>
    have hedit := alternated q aliases components
    generalize (alternatives components).apply q aliases = edit at h hedit
    cases hedit with
    | unread htexts => exact .inl h
    | none htexts => exact .inl h
    | unnamed htexts hsome hname => exact .inl h
    | named htexts hsome hname hselected =>
      obtain rfl := hselected
      refine compares_ofEntry h .inl fun a ha hc => ?_
      rcases compares_addFilter hc with hold | rfl
      · exact .inl hold
      · exact .inr (.alternatives _ ha)
  | having p column operator value =>
    refine compares_ofEntry h .inl fun a ha hc => ?_
    rcases hc with hfilter | hhaving
    · exact .inl (.inl hfilter)
    · rcases mem_put hhaving with hold | hnew
      · exact .inl (.inr hold)
      · obtain rfl := Condition.comparison.inj hnew
        exact .inr (.having ha)
  -- Full-text terms, sort keys and settings are entries that no comparison depends on.
  | fullText p column text safe => exact compares_ofEntry h .inl fun _ _ => .inl
  | rawFullText p combinator text => exact compares_ofEntry h .inl fun _ _ => .inl
  | groupOrder p column direction => exact compares_ofEntry h .inl fun _ _ => .inl
  | order p column direction => exact compares_ofEntry h .inl fun _ _ => .inl
  | option p name value => exact compares_ofEntry h .inl fun _ _ => .inl
  | _ => exact .inl h

/-- Comparisons that a change adds are shaped, and it keeps or drops the others. -/
theorem shaped_apply (m : Mutation) {q : Query} (aliases : AliasCounter) (h : q.clauses.Shaped) :
    (m.apply q aliases).query.clauses.Shaped := by
  refine Clauses.shaped_iff.2 fun c hc => ?_
  rcases compares_apply hc with hold | hbuilt
  · exact Clauses.shaped_iff.1 h c hold
  · exact hbuilt.shaped

end Mutation

end SearchClient
