import SearchClient.Proofs.Query.Trial

/-!
# The values of comparisons

A range is always compared with two bounds and a membership with a list of values: anything else is
refused before a comparison is built. Nothing is checked for the other operators, and a list of
values is kept whatever its operator is. So a comparison by one value may come to hold a list, but
only if a call has asked for just that.

## Key results

- `Comparison.refused_iff` and `Comparison.tooLong_iff`: which arguments are refused, and how
- `Comparison.comparesSeveral_of_tuple`: why a comparison holds a list of values
- `Tracked.comparisons_follow`: the comparisons of a query after any run
- `Tracked.list_compared_by_equality`: a list of values under an operator for one value
-/

namespace SearchClient

/-- Whether an operator compares with several values, as a range and a membership do. -/
def Operator.comparesSeveral (o : Operator) : Bool := o == .between || o.takesList

namespace Comparison

/-- The arguments of a comparison have an operator and a value that fits it. -/
def Accepted (operator value : Value) : Prop :=
  ∃ o, Operator.ofValue? (operands operator value).1 = some o ∧
    Fits o (operands operator value).2

/-- The argument that a refusal names: an operator outside the set, else the value. -/
def offending (operator value : Value) : Value :=
  match Operator.ofValue? (operands operator value).1 with
  | none => (operands operator value).1
  | some _ => (operands operator value).2

/-- Arguments that are accepted get as far as the column, whose fault is that of a record. -/
theorem rejected_of_accepted {column operator value : Value} (h : Accepted operator value)
    {f : Failure} (hf : ofArguments column operator value = .error f) :
    ∃ title issues, f = .rejected title issues := by
  obtain ⟨o, ho, hfits⟩ := h
  unfold ofArguments at hf
  dsimp only at hf
  rw [ho] at hf
  dsimp only at hf
  rw [ofOperator_of_fits hfits] at hf
  obtain ⟨issues, hrejected⟩ := RecordKind.create_error hf
  exact ⟨_, issues, hrejected⟩

/-- Other arguments are refused with a code, unless the argument at fault cannot be written. -/
theorem refused_of_not_accepted {operator value : Value} (h : ¬Accepted operator value)
    (column : Value) :
    ∃ f, ofArguments column operator value = .error f ∧
      ((offending operator value).isWritable = true ∧ f.hasCode .invalidArgument = true ∨
        (offending operator value).isWritable = false ∧ f = Value.tooLong) := by
  unfold ofArguments offending
  dsimp only
  cases ho : Operator.ofValue? (operands operator value).1 with
  | none => exact ⟨_, rfl, unknownOperator_cases _⟩
  | some o =>
    obtain ⟨message, hrefused⟩ :=
      ofOperator_of_not_fits (fun hfits => h ⟨o, ho, hfits⟩) column
    exact ⟨_, hrefused, refused_cases message "value" _⟩

/-- Arguments are refused as such if they name no operator, or one that the value does not fit, and
what is at fault can be written. -/
theorem refused_iff {column operator value : Value} :
    (∃ f, ofArguments column operator value = .error f ∧ f.hasCode .invalidArgument = true) ↔
      ¬Accepted operator value ∧ (offending operator value).isWritable = true := by
  constructor
  · rintro ⟨f, hf, hcode⟩
    by_cases haccepted : Accepted operator value
    · obtain ⟨title, issues, rfl⟩ := rejected_of_accepted haccepted hf
      exact nomatch hcode
    · obtain ⟨f', hf', ⟨hwritable, -⟩ | ⟨-, rfl⟩⟩ := refused_of_not_accepted haccepted column
      · exact ⟨haccepted, hwritable⟩
      · obtain rfl := Except.error.inj (hf'.symm.trans hf)
        exact nomatch hcode
  · rintro ⟨hnot, hwritable⟩
    obtain ⟨f, hf, ⟨-, hcode⟩ | ⟨hlong, -⟩⟩ := refused_of_not_accepted hnot column
    · exact ⟨f, hf, hcode⟩
    · exact nomatch hwritable.symm.trans hlong

/-- They are refused in the other way if it cannot. -/
theorem tooLong_iff {column operator value : Value} :
    ofArguments column operator value = .error Value.tooLong ↔
      ¬Accepted operator value ∧ (offending operator value).isWritable = false := by
  constructor
  · intro hf
    by_cases haccepted : Accepted operator value
    · obtain ⟨title, issues, hrejected⟩ := rejected_of_accepted haccepted hf
      exact nomatch hrejected
    · obtain ⟨f', hf', ⟨-, hcode⟩ | ⟨hlong, -⟩⟩ := refused_of_not_accepted haccepted column
      · obtain rfl := Except.error.inj (hf'.symm.trans hf)
        exact nomatch hcode
      · exact ⟨haccepted, hlong⟩
  · rintro ⟨hnot, hlong⟩
    obtain ⟨f, hf, ⟨hwritable, -⟩ | ⟨-, rfl⟩⟩ := refused_of_not_accepted hnot column
    · exact nomatch hwritable.symm.trans hlong
    · exact hf

/-- The operator for a value that stands alone fits that value. -/
private theorem comparesSeveral_of_unset {operator : Value} {o : Operator}
    (ho : Operator.ofValue? (operands operator .unset).1 = some o)
    (hlist : operator.isSequence = true) : o.comparesSeveral = true := by
  have hmember : Operator.ofValue? (.keyword (.operator .isIn)) = some .isIn := by decide
  unfold operands at ho
  dsimp only at ho
  rw [if_pos hlist, hmember] at ho
  obtain rfl := Option.some.inj ho
  rfl

/-- A comparison holds a list of values if its operator compares with several, or if it was given
both that list and an operator for one value. -/
theorem comparesSeveral_of_tuple {column operator value : Value} {c : Comparison}
    (h : ofArguments column operator value = .ok c) {items : List Value}
    (htuple : c.value = .tuple items) :
    c.operator.comparesSeveral = true ∨
      Operator.ofValue? operator = some c.operator ∧ value.isSequence = true := by
  obtain ⟨ho, -, hvalue⟩ := ofArguments_ok h
  have hlist : (operands operator value).2.isSequence = true := by
    cases hseq : (operands operator value).2.isSequence with
    | true => rfl
    | false =>
      rw [hseq] at hvalue
      have hsame : (operands operator value).2 = .tuple items := hvalue.symm.trans htuple
      rw [hsame] at hseq
      exact nomatch hseq
  by_cases halone : value = .unset
  · subst halone
    exact .inl (comparesSeveral_of_unset ho hlist)
  · have hboth : operands operator value = (operator, value) := by
      unfold operands
      split
      · exact absurd rfl halone
      · rfl
    rw [hboth] at ho hlist
    exact .inr ⟨ho, hlist⟩

theorem Shaped.tuple_of_comparesSeveral {c : Comparison} (h : c.Shaped)
    (hseveral : c.operator.comparesSeveral = true) : ∃ items, c.value = .tuple items := by
  rcases (Bool.or_eq_true _ _).mp hseveral with hbetween | hlist
  · obtain ⟨lower, upper, hvalue⟩ := h.between (by simpa using hbetween)
    exact ⟨_, hvalue⟩
  · exact h.takesList hlist

end Comparison

/-- The operator and the value that a call compares with, among the filters or those of groups. -/
def Call.compared? : Call → Option (Value × Value)
  | .change (.filter _ _ operator value) | .change (.having _ _ operator value) =>
    some (operator, value)
  | _ => none

namespace Query

/-- A change by an entry is refused as the entry is. -/
private theorem result_of_entry {α : Type} {q kept : Query} {m : Mutation} {w : World}
    {entry : Except Failure α} {put : α → Query}
    (h : m.apply q w.aliases = .ofEntry kept w.aliases entry put) {f : Failure} :
    (q.change m w).result = .error f ↔ entry = .error f := by
  rw [result_change, h]
  cases entry with
  | ok a => exact ⟨fun hf => (nomatch hf), fun hf => (nomatch hf)⟩
  | error f' => exact ⟨fun hf => congrArg _ (Except.error.inj hf),
      fun hf => congrArg _ (Except.error.inj hf)⟩

/-- A call that compares is refused as such if its arguments are, in either way. -/
theorem result_of_compared {call : Call} {operator value : Value}
    (h : call.compared? = some (operator, value)) (q : Query) (c : Collaborators) (w : World) :
    ((∃ f, (q.call c w call).result = .error f ∧ f.hasCode .invalidArgument = true) ↔
      ¬Comparison.Accepted operator value ∧
        (Comparison.offending operator value).isWritable = true) ∧
      ((q.call c w call).result = .error Value.tooLong ↔
        ¬Comparison.Accepted operator value ∧
          (Comparison.offending operator value).isWritable = false) := by
  obtain ⟨column, hresult⟩ : ∃ column, ∀ f, (q.call c w call).result = .error f ↔
      Comparison.ofArguments column operator value = .error f := by
    unfold Call.compared? at h
    split at h
    · rename_i p column _ _
      obtain ⟨rfl, rfl⟩ := Prod.mk.inj (Option.some.inj h)
      exact ⟨column, fun f => result_of_entry rfl⟩
    · rename_i p column _ _
      obtain ⟨rfl, rfl⟩ := Prod.mk.inj (Option.some.inj h)
      exact ⟨column, fun f => result_of_entry rfl⟩
    · exact nomatch h
  simp only [hresult]
  exact ⟨Comparison.refused_iff, Comparison.tooLong_iff⟩

end Query

namespace Tracked

/-- Every comparison of a query was built by a change of its run. -/
theorem builds_of_compares {statement maxMatches : Value} {turns : List Turn} {c : Comparison}
    (h : ((start statement maxMatches).follow turns).query.clauses.Compares c) :
    ∃ m change, Turn.call m ∈ turns ∧ m.call = .change change ∧ change.Builds c := by
  -- The comparisons of a query are all from the run, whichever of its turns have been taken.
  refine invariant_follow
    (P := fun q => ∀ c, q.clauses.Compares c →
      ∃ m change, Turn.call m ∈ turns ∧ m.call = .change change ∧ change.Builds c)
    (fun m change hm hcall q hq c hc => ?_) (fun q q' hkept hq c hc => ?_) ?_ c h
  · rcases Mutation.compares_apply hc with hold | hbuilt
    · exact hq c hold
    · exact ⟨m, change, hm, hcall, hbuilt⟩
  · rw [hkept.clauses] at hc
    exact hq c hc
  · rintro c (hc | hc)
    · exact nomatch hc
    · exact nomatch hc

/-- After any run a range has two bounds, a membership has a list of values, and a comparison that
has a list is one of these or was asked for by a call with that operator and a list. A call that
compares is refused if and only if it names no operator, a range without two bounds or a membership
without a list: with the code for arguments if the argument at fault can be written, and else because
it cannot. -/
theorem comparisons_follow (statement maxMatches : Value) (turns : List Turn) :
    let q := ((start statement maxMatches).follow turns).query
    (∀ c, q.clauses.Compares c →
      (c.operator = .between → ∃ lower upper, c.value = .tuple [lower, upper]) ∧
      (c.operator.comparesSeveral = true → ∃ items, c.value = .tuple items) ∧
      (∀ items, c.value = .tuple items → c.operator.comparesSeveral = true ∨
        ∃ m operator value, Turn.call m ∈ turns ∧ m.call.compared? = some (operator, value) ∧
          Operator.ofValue? operator = some c.operator ∧ value.isSequence = true)) ∧
      ∀ (call : Call) (operator value : Value), call.compared? = some (operator, value) →
        ∀ c w,
          ((∃ f, (q.call c w call).result = .error f ∧ f.hasCode .invalidArgument = true) ↔
            ¬Comparison.Accepted operator value ∧
              (Comparison.offending operator value).isWritable = true) ∧
          ((q.call c w call).result = .error Value.tooLong ↔
            ¬Comparison.Accepted operator value ∧
              (Comparison.offending operator value).isWritable = false) := by
  intro q
  refine ⟨fun c hc => ?_, fun call operator value hcall c w => Query.result_of_compared hcall q c w⟩
  obtain ⟨m, change, hm, hcall, hbuilt⟩ := builds_of_compares hc
  refine ⟨hbuilt.shaped.between, hbuilt.shaped.tuple_of_comparesSeveral, fun items htuple => ?_⟩
  cases hbuilt with
  | @filter _ _ operator value _ h =>
    refine (Comparison.comparesSeveral_of_tuple h htuple).imp_right fun hgiven => ?_
    exact ⟨m, operator, value, hm, by rw [hcall]; rfl, hgiven⟩
  | @having _ _ operator value _ h =>
    refine (Comparison.comparesSeveral_of_tuple h htuple).imp_right fun hgiven => ?_
    exact ⟨m, operator, value, hm, by rw [hcall]; rfl, hgiven⟩
  | alternatives name h =>
    -- Alternatives are filtered on by a number.
    obtain ⟨-, -, hvalue⟩ := Comparison.ofArguments_ok h
    exact nomatch hvalue.symm.trans htuple

/-- A call that compares by equality with a list of values is not refused, and the comparison has
that list. -/
theorem list_compared_by_equality :
    let c : Collaborators := { connection := { engine := fun _ _ => .answer {} } }
    let compare : Call := .change (.filter .replace (.str "a") (.str "=") (.list [.int 1, .int 2]))
    let u := start .null (.int 1000)
    (∃ r, (u.query.call c {} compare).result = .ok r) ∧
      (u.follow [.call ⟨c, {}, compare⟩]).query.clauses.Compares
        ⟨"a", .eq, .tuple [.int 1, .int 2]⟩ ∧
      Operator.eq.comparesSeveral = false := by
  intro c compare u
  exact ⟨⟨_, rfl⟩, .inl (List.mem_singleton.2 rfl), rfl⟩

end Tracked

end SearchClient
