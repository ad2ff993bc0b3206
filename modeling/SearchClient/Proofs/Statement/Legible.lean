import SearchClient.Proofs.Numeric
import SearchClient.Proofs.Statement.Compile
import SearchClient.Proofs.Statement.Scan

/-!
# Filters say what they compare

Two filters that are written alike compare the same columns, by the same operators, with the same
values: a reader who knows nothing but the text can tell them. To him a truth value is the number
that it is written as, and any value that is neither a number nor nothing is its text. That goes for
the members of a list too, so a list among them is its text as well.

What is written is `Legible` if nothing that may stand behind it makes two entries alike. Numbers are
the only entries that could go on, so what stands behind must not begin with one of their characters.
Entries in a row are legible if each of them is, because separators begin no entry and close none.

## Key results

- `Legible.separated`: entries in a row are legible
- `Scalar.legible`: so is a single value
- `Reading.legible`: so is a comparison
- `Render.conditions_eq_iff`: filters are written alike if and only if they are read alike
- `Render.conditions_eq_of_nested`: lists within lists that are written like texts
-/

namespace SearchClient

open Numeric

/-! ### Entries that can be told apart -/

/-- Two entries that are written alike, whatever stands behind each, are the same. What stands behind
them is no more of a number. -/
def Legible {α : Type} (valid : α → Prop) (write : α → List Char) : Prop :=
  ∀ ⦃x y⦄, valid x → valid y → ∀ ⦃r s⦄, Ends r → Ends s →
    write x ++ r = write y ++ s → x = y ∧ r = s

/-- Entries with this separator are over at the front of a text. -/
structure Closes (sep r : List Char) : Prop where
  ends : Ends r
  notPrefix : ¬sep <+: r

namespace Legible

variable {α : Type} {valid : α → Prop} {write : α → List Char} {sep : List Char}

/-- The same entries are left, each behind a separator. -/
private theorem rest_inj (h : Legible valid write) (hsep : Ends sep) (hne : sep ≠ [])
    {xs ys : List α} (hxs : ∀ x ∈ xs, valid x) (hys : ∀ y ∈ ys, valid y) {r s : List Char}
    (hr : Closes sep r) (hs : Closes sep s)
    (heq : (xs.map write).flatMap (sep ++ ·) ++ r = (ys.map write).flatMap (sep ++ ·) ++ s) :
    xs = ys ∧ r = s := by
  -- Behind an entry there is a separator, or what closes them all.
  have hends {zs : List α} {t : List Char} (ht : Closes sep t) :
      Ends ((zs.map write).flatMap (sep ++ ·) ++ t) := by
    cases zs with
    | nil => exact ht.ends
    | cons z zs =>
      cases sep with
      | nil => exact absurd rfl hne
      | cons c sep => exact ends_cons (hsep c rfl) _
  induction xs generalizing ys with
  | nil =>
    cases ys with
    | nil => exact ⟨rfl, heq⟩
    | cons y ys =>
      simp only [List.map_nil, List.flatMap_nil, List.nil_append, List.map_cons,
        List.flatMap_cons, List.append_assoc] at heq
      exact absurd ⟨_, heq.symm⟩ hr.notPrefix
  | cons x xs ih =>
    obtain ⟨hx, hxs⟩ := List.forall_mem_cons.1 hxs
    cases ys with
    | nil =>
      simp only [List.map_nil, List.flatMap_nil, List.nil_append, List.map_cons,
        List.flatMap_cons, List.append_assoc] at heq
      exact absurd ⟨_, heq⟩ hs.notPrefix
    | cons y ys =>
      obtain ⟨hy, hrests⟩ := List.forall_mem_cons.1 hys
      simp only [List.map_cons, List.flatMap_cons, List.append_assoc,
        List.append_cancel_left_eq] at heq
      obtain ⟨rfl, hrest⟩ := h hx hy (hends hr) (hends hs) heq
      obtain ⟨rfl, rfl⟩ := ih hxs hrests hrest
      exact ⟨rfl, rfl⟩

/-- Entries in a row are legible, if none of them is written like what closes them. -/
theorem separated {sep : String} (h : Legible valid write) (hsep : Ends sep.toList)
    (hne : sep.toList ≠ []) {xs ys : List α} (hxs : ∀ x ∈ xs, valid x) (hys : ∀ y ∈ ys, valid y)
    {r s : List Char} (hr : Closes sep.toList r) (hs : Closes sep.toList s)
    (hopen : ∀ x, ¬write x <+: r ∧ ¬write x <+: s)
    (heq : separated sep (xs.map write) ++ r = separated sep (ys.map write) ++ s) :
    xs = ys ∧ r = s := by
  cases xs with
  | nil =>
    cases ys with
    | nil => exact ⟨rfl, heq⟩
    | cons y ys =>
      rw [List.map_cons, separated_cons, List.append_assoc] at heq
      exact absurd ⟨_, heq.symm⟩ (hopen y).1
  | cons x xs =>
    cases ys with
    | nil =>
      rw [List.map_cons, separated_cons, List.append_assoc] at heq
      exact absurd ⟨_, heq⟩ (hopen x).2
    | cons y ys =>
      -- With a separator put in front of both, the first entries are like the others.
      refine h.rest_inj hsep hne hxs hys hr hs ?_
      simpa [separated_cons] using heq

end Legible

/-! ### Values -/

/-- A value as a reader takes it. -/
inductive Scalar where
  | number (n : Int)
  | nothing
  | text (s : String)
  deriving DecidableEq, Repr

/-- Truth values are numbers, and what is neither a number nor nothing is its text. -/
def Value.scalar : Value → Scalar
  | .bool b => .number (if b then 1 else 0)
  | .int n => .number n
  | .null => .nothing
  | v => .text v.text

namespace Scalar

/-- A value as it is written. -/
def written : Scalar → List Char
  | number n => (toString n).toList
  | nothing => "NULL".toList
  | text s => Literal.quote s.toList

theorem valueText_eq_written (v : Value) : Render.valueText v = v.scalar.written := by
  cases v with
  | bool b => cases b <;> rfl
  | _ => rfl

/-- A value begins with no parenthesis. -/
theorem written_append_ne {c : Char} (hc : c = '(' ∨ c = ')') (v : Scalar) (r cs : List Char) :
    v.written ++ r ≠ c :: cs := by
  intro h
  cases v with
  | number n =>
    have hnumeral : isNumeral c = false := by rcases hc with rfl | rfl <;> decide
    exact toString_append_ne_cons hnumeral n r cs h
  | nothing =>
    obtain rfl : 'N' = c := (List.cons.inj h).1
    exact absurd hc (by decide)
  | text s =>
    obtain rfl : '\'' = c := (List.cons.inj h).1
    exact absurd hc (by decide)

/-- A single value can be told from what stands behind it. -/
theorem legible : Legible (fun _ => True) written := by
  intro x y _ _ r s hr hs h
  cases x with
  | number m =>
    cases y with
    | number n =>
      obtain ⟨rfl, hrest⟩ := toString_append_inj hr hs h
      exact ⟨rfl, hrest⟩
    | nothing => exact absurd h (toString_append_ne_cons (by decide) m r _)
    | text t => exact absurd h (toString_append_ne_cons (by decide) m r _)
  | nothing =>
    cases y with
    | number n => exact absurd h.symm (toString_append_ne_cons (by decide) n s _)
    | nothing => exact ⟨rfl, List.append_cancel_left h⟩
    | text t => exact nomatch (List.cons.inj h).1
  | text t =>
    cases y with
    | number n => exact absurd h.symm (toString_append_ne_cons (by decide) n s _)
    | nothing => exact nomatch (List.cons.inj h).1
    | text t' =>
      obtain ⟨htext, hrest⟩ := Literal.quote_append_inj h
      exact ⟨congrArg text (String.toList_injective htext), hrest⟩

end Scalar

/-! ### Comparisons -/

/-- The value of a comparison as a reader takes it: one value, or several in order. -/
inductive Operand where
  | one (v : Scalar)
  | several (vs : List Scalar)
  deriving DecidableEq, Repr

/-- A comparison as a reader takes it. -/
structure Reading where
  column : String
  operator : Operator
  operand : Operand
  deriving DecidableEq, Repr

def Comparison.reading (c : Comparison) : Reading where
  column := c.column
  operator := c.operator
  operand :=
    if c.value.isSequence then .several (c.value.members.map Value.scalar) else .one c.value.scalar

namespace Operand

/-- The right-hand side of a comparison as it is written. -/
def written (operator : Operator) : Operand → List Char
  | one v => v.written
  | several vs =>
    if operator = .between then separated " AND " (vs.map Scalar.written)
    else '(' :: separated ", " (vs.map Scalar.written) ++ [')']

/-- A range has two bounds. -/
def Fits (operator : Operator) (o : Operand) : Prop :=
  operator = .between → ∃ lower upper, o = several [lower, upper]

private theorem written_pair (lower upper : Scalar) (r : List Char) :
    written .between (several [lower, upper]) ++ r =
      lower.written ++ (" AND ".toList ++ (upper.written ++ r)) := by
  simp [written, separated_cons]

private theorem written_list {operator : Operator} (h : operator ≠ .between) (vs : List Scalar)
    (r : List Char) : written operator (several vs) ++ r =
      '(' :: (separated ", " (vs.map Scalar.written) ++ ')' :: r) := by
  simp [written, h]

private theorem closes_parenthesis (r : List Char) : Closes ", ".toList (')' :: r) where
  ends := ends_cons (by decide) r
  notPrefix := by
    rintro ⟨rest, h⟩
    exact nomatch (List.cons.inj h).1

/-- The values of a comparison can be told from what stands behind them. -/
theorem legible (operator : Operator) : Legible (Fits operator) (written operator) := by
  intro x y hx hy r s hr hs h
  by_cases hbetween : operator = .between
  · -- The first bound is over at the blank, so the words between the bounds are never its own.
    obtain ⟨lower, upper, rfl⟩ := hx hbetween
    obtain ⟨lower', upper', rfl⟩ := hy hbetween
    subst hbetween
    rw [written_pair, written_pair] at h
    have hand (t : List Char) : Ends (" AND ".toList ++ t) := ends_cons (by decide) _
    obtain ⟨rfl, hrest⟩ := Scalar.legible trivial trivial (hand _) (hand _) h
    obtain ⟨rfl, hend⟩ := Scalar.legible trivial trivial hr hs (List.append_cancel_left hrest)
    exact ⟨rfl, hend⟩
  · -- A list is told from a single value by its parenthesis.
    cases x with
    | one v =>
      cases y with
      | one w =>
        obtain ⟨rfl, hrest⟩ := Scalar.legible trivial trivial hr hs h
        exact ⟨rfl, hrest⟩
      | several ws =>
        rw [written_list hbetween] at h
        exact absurd h (v.written_append_ne (.inl rfl) r _)
    | several vs =>
      cases y with
      | one w =>
        rw [written_list hbetween] at h
        exact absurd h.symm (w.written_append_ne (.inl rfl) s _)
      | several ws =>
        rw [written_list hbetween, written_list hbetween] at h
        have hmember (v : Scalar) (t : List Char) : ¬v.written <+: ')' :: t :=
          fun ⟨rest, hsame⟩ => v.written_append_ne (.inr rfl) rest t hsame
        have hcomma : Ends ", ".toList := ends_cons (by decide) [' ']
        obtain ⟨rfl, hrest⟩ := Scalar.legible.separated hcomma (by decide) (fun _ _ => trivial)
          (fun _ _ => trivial) (closes_parenthesis r) (closes_parenthesis s)
          (fun v => ⟨hmember v r, hmember v s⟩) (List.cons.inj h).2
        exact ⟨rfl, (List.cons.inj hrest).2⟩

end Operand

/-- No operator that is over begins another one. -/
theorem Operator.text_append_inj {o o' : Operator} {r s : List Char}
    (h : o.text.toList ++ ' ' :: r = o'.text.toList ++ ' ' :: s) : o = o' ∧ r = s := by
  -- One operator may be the beginning of another, but not together with the blank behind it.
  have hcode : ∀ o o' : Operator,
      o.text.toList ++ [' '] <+: o'.text.toList ++ [' '] → o = o' := by
    intro o o'
    cases o <;> cases o' <;> decide
  have hsplit (o : Operator) (t : List Char) :
      o.text.toList ++ [' '] <+: o.text.toList ++ ' ' :: t := ⟨t, by simp⟩
  obtain rfl : o = o' := by
    rcases List.prefix_or_prefix_of_prefix (hsplit o r) (h ▸ hsplit o' s) with ho | ho
    · exact hcode o o' ho
    · exact (hcode o' o ho).symm
  exact ⟨rfl, (List.cons.inj (List.append_cancel_left h)).2⟩

namespace Reading

/-- A comparison as it is written. -/
def written (c : Reading) : List Char :=
  c.column.toList ++ ' ' :: c.operator.text.toList ++ ' ' :: c.operand.written c.operator

/-- The column is over at the first blank, and a range has two bounds. -/
structure Valid (c : Reading) : Prop where
  column : ' ' ∉ c.column.toList
  operand : c.operand.Fits c.operator

private theorem column_append_inj {cs ds r s : List Char} (hcs : ' ' ∉ cs) (hds : ' ' ∉ ds)
    (h : cs ++ ' ' :: r = ds ++ ' ' :: s) : cs = ds ∧ r = s := by
  have hfirst {cs : List Char} (hcs : ' ' ∉ cs) (r : List Char) :
      (cs ++ ' ' :: r).takeWhile (· != ' ') = cs := by
    have hbefore : ∀ c ∈ cs, (c != ' ') = true := fun c hc => by
      rw [bne_iff_ne]
      rintro rfl
      exact hcs hc
    rw [List.takeWhile_append_of_pos hbefore]
    simp
  obtain rfl : cs = ds := by rw [← hfirst hcs r, h, hfirst hds s]
  exact ⟨rfl, (List.cons.inj (List.append_cancel_left h)).2⟩

/-- A comparison can be told from what stands behind it. -/
theorem legible : Legible Valid written := by
  intro x y hx hy r s hr hs h
  obtain ⟨column, operator, operand⟩ := x
  obtain ⟨column', operator', operand'⟩ := y
  simp only [written, List.append_assoc, List.cons_append] at h
  -- From left to right: what was read decides how to go on.
  obtain ⟨hcolumn, hbehind⟩ := column_append_inj hx.column hy.column h
  obtain ⟨hoperator, hright⟩ := Operator.text_append_inj hbehind
  obtain rfl : column = column' := String.toList_injective hcolumn
  obtain rfl : operator = operator' := hoperator
  obtain ⟨hoperand, hrest⟩ := Operand.legible operator hx.operand hy.operand hr hs hright
  obtain rfl : operand = operand' := hoperand
  exact ⟨rfl, hrest⟩

/-- Comparisons that must all hold can be told apart. -/
theorem separated_inj {xs ys : List Reading} (hxs : ∀ x ∈ xs, x.Valid) (hys : ∀ y ∈ ys, y.Valid)
    (h : separated " AND " (xs.map written) = separated " AND " (ys.map written)) : xs = ys := by
  have hand : Ends " AND ".toList := ends_cons (by decide) _
  have hend : Closes " AND ".toList [] := ⟨ends_nil, by decide⟩
  have hopen (x : Reading) : ¬x.written <+: [] := by simp [written]
  exact (legible.separated hand (by decide) hxs hys hend hend (fun x => ⟨hopen x, hopen x⟩)
    (congrArg (· ++ []) h)).1

end Reading

/-! ### Filters -/

namespace Comparison

theorem valid_reading {c : Comparison} (h : c.Shaped) (hcolumn : ' ' ∉ c.column.toList) :
    c.reading.Valid where
  column := hcolumn
  operand := fun hbetween => by
    obtain ⟨lower, upper, hvalue⟩ := h.between hbetween
    refine ⟨lower.scalar, upper.scalar, ?_⟩
    rw [reading, hvalue]
    rfl

/-- A comparison whose value can be written is written by its reading. -/
theorem condition_eq_written {c : Comparison} (h : c.Shaped) (hvalue : c.value.isWritable = true) :
    Render.condition (.comparison c) = .ok c.reading.written := by
  obtain ⟨right, hright, hrange, hlist, hsingle⟩ := Render.operand_of_shaped h hvalue
  have hoperand : right = c.reading.operand.written c.operator := by
    by_cases hbetween : c.operator = .between
    · obtain ⟨lower, upper, htuple, rfl⟩ := hrange hbetween
      rw [reading, hbetween, htuple]
      change _ = Operand.written .between (.several [lower.scalar, upper.scalar])
      simp [Operand.written, separated_cons, Scalar.valueText_eq_written]
    · unfold reading
      cases hseq : c.value.isSequence with
      | true =>
        have htexts : Render.valueText = fun v => v.scalar.written :=
          funext Scalar.valueText_eq_written
        simp [hlist hbetween hseq, Operand.written, hbetween, htexts, Function.comp_def]
      | false => simp [hsingle hseq, Operand.written, Scalar.valueText_eq_written]
  exact Except.map_eq_ok.2 ⟨right, hright, by rw [hoperand]; rfl⟩

end Comparison

/-! ### Lists within lists -/

/-- Values that are the same through and through: of a list every member counts, also where it is a
list itself. -/
inductive Value.Agrees : Value → Value → Prop where
  | scalar {v w : Value} (hv : v.isSequence = false) (hw : w.isSequence = false)
      (h : v.scalar = w.scalar) : Agrees v w
  | sequence {v w : Value} (hv : v.isSequence = true) (hw : w.isSequence = true)
      (h : List.Forall₂ Agrees v.members w.members) : Agrees v w

/-- There is no list among the members of a list. -/
def Value.Flat (v : Value) : Prop := ∀ member ∈ v.members, member.isSequence = false

namespace Value

theorem Agrees.isSequence_eq {v w : Value} (h : v.Agrees w) : v.isSequence = w.isSequence := by
  cases h with
  | scalar hv hw => rw [hv, hw]
  | sequence hv hw => rw [hv, hw]

theorem agrees_scalar_iff {v w : Value} (hv : v.isSequence = false) (hw : w.isSequence = false) :
    v.Agrees w ↔ v.scalar = w.scalar := by
  refine ⟨fun h => ?_, .scalar hv hw⟩
  cases h with
  | scalar _ _ h => exact h
  | sequence hlist => exact nomatch hv.symm.trans hlist

theorem agrees_sequence_iff {v w : Value} (hv : v.isSequence = true) (hw : w.isSequence = true) :
    v.Agrees w ↔ List.Forall₂ Agrees v.members w.members := by
  refine ⟨fun h => ?_, .sequence hv hw⟩
  cases h with
  | scalar hscalar => exact nomatch hv.symm.trans hscalar
  | sequence _ _ h => exact h

end Value

/-- Lists agree one by one if that is what makes the images of their members equal. -/
private theorem forall₂_iff_map_eq {α β : Type} {R : α → α → Prop} {f : α → β} {xs ys : List α}
    (h : ∀ x ∈ xs, ∀ y ∈ ys, R x y ↔ f x = f y) :
    List.Forall₂ R xs ys ↔ xs.map f = ys.map f := by
  induction xs generalizing ys with
  | nil => cases ys <;> simp
  | cons x xs ih =>
    cases ys with
    | nil => simp
    | cons y ys =>
      have hrest := ih fun x hx y hy => h x (List.mem_cons_of_mem _ hx) y (List.mem_cons_of_mem _ hy)
      rw [List.forall₂_cons, h x List.mem_cons_self y List.mem_cons_self, hrest, List.map_cons,
        List.map_cons, List.cons.injEq]

/-- Without lists within lists, a reader sees all that the values have. -/
theorem Comparison.agrees_iff {c d : Comparison} (hc : c.value.Flat) (hd : d.value.Flat) :
    c.value.Agrees d.value ↔ c.reading.operand = d.reading.operand := by
  have hmixed (hne : c.value.isSequence ≠ d.value.isSequence) : ¬c.value.Agrees d.value :=
    fun h => hne h.isSequence_eq
  unfold reading
  dsimp only
  cases hv : c.value.isSequence with
  | false =>
    cases hw : d.value.isSequence with
    | false => simp [Value.agrees_scalar_iff hv hw]
    | true => simp [hmixed (by rw [hv, hw]; decide)]
  | true =>
    cases hw : d.value.isSequence with
    | false => simp [hmixed (by rw [hv, hw]; decide)]
    | true =>
      have hmembers : List.Forall₂ Value.Agrees c.value.members d.value.members ↔
          c.value.members.map Value.scalar = d.value.members.map Value.scalar :=
        forall₂_iff_map_eq fun v hv w hw => Value.agrees_scalar_iff (hc v hv) (hd w hw)
      simp [Value.agrees_sequence_iff hv hw, hmembers]

namespace Render

theorem conditions_eq_written {cs : List Comparison} (h : ∀ c ∈ cs, c.Shaped)
    (hvalues : ∀ c ∈ cs, c.value.isWritable = true) :
    conditions (cs.map .comparison) =
      .ok (separated " AND " ((cs.map Comparison.reading).map Reading.written)) := by
  refine Except.map_eq_ok.2 ⟨_, Except.mapM_eq_ok_of_map_eq ?_, rfl⟩
  rw [List.map_map, List.map_map, List.map_map]
  exact List.map_congr_left fun c hc => Comparison.condition_eq_written (h c hc) (hvalues c hc)

/-- Shaped comparisons can be written exactly if their values can. -/
theorem exists_conditions_iff {cs : List Comparison} (h : ∀ c ∈ cs, c.Shaped) :
    (∃ text, conditions (cs.map .comparison) = .ok text) ↔
      ∀ c ∈ cs, c.value.isWritable = true := by
  have hshaped : ∀ x ∈ cs.map Condition.comparison, x.Shaped := by
    intro x hx
    obtain ⟨c, hc, rfl⟩ := List.mem_map.1 hx
    exact h c hc
  refine ((writesIf_conditions hshaped).congr ?_).exists_iff
  constructor
  · exact fun hall c hc => hall c (List.mem_map_of_mem hc)
  · intro hall d hd
    obtain ⟨c, hc, hsame⟩ := List.mem_map.1 hd
    exact Condition.comparison.inj hsame ▸ hall c hc

/-- Filters that changes have built can be written exactly if their values can. If their columns
have no blanks, they are written alike if and only if they compare, one by one, the same columns by
the same operators with values that a reader takes to be the same; and if there are no lists within
lists, these are values that are the same through and through. -/
theorem conditions_eq_iff {cs ds : List Comparison}
    (hcs : ∀ c ∈ cs, (∃ m : Mutation, m.Builds c) ∧ ' ' ∉ c.column.toList)
    (hds : ∀ d ∈ ds, (∃ m : Mutation, m.Builds d) ∧ ' ' ∉ d.column.toList) :
    ((∃ text, conditions (cs.map .comparison) = .ok text) ↔
        ∀ c ∈ cs, c.value.isWritable = true) ∧
      ∀ text, conditions (cs.map .comparison) = .ok text →
        (conditions (ds.map .comparison) = .ok text ↔
          (∀ d ∈ ds, d.value.isWritable = true) ∧
            cs.map Comparison.reading = ds.map Comparison.reading) ∧
        ((∀ c ∈ cs, c.value.Flat) → (∀ d ∈ ds, d.value.Flat) →
          (conditions (ds.map .comparison) = .ok text ↔
            (∀ d ∈ ds, d.value.isWritable = true) ∧
              List.Forall₂ (fun c d => c.column = d.column ∧ c.operator = d.operator ∧
                c.value.Agrees d.value) cs ds)) := by
  have hshaped {bs : List Comparison}
      (hbs : ∀ b ∈ bs, (∃ m : Mutation, m.Builds b) ∧ ' ' ∉ b.column.toList) :
      ∀ b ∈ bs, b.Shaped := fun b hb =>
    have ⟨⟨_, hbuilds⟩, _⟩ := hbs b hb
    hbuilds.shaped
  have hvalid {bs : List Comparison}
      (hbs : ∀ b ∈ bs, (∃ m : Mutation, m.Builds b) ∧ ' ' ∉ b.column.toList) :
      ∀ x ∈ bs.map Comparison.reading, x.Valid := by
    intro x hx
    obtain ⟨b, hb, rfl⟩ := List.mem_map.1 hx
    exact Comparison.valid_reading (hshaped hbs b hb) (hbs b hb).2
  have hwritable {bs : List Comparison}
      (hbs : ∀ b ∈ bs, (∃ m : Mutation, m.Builds b) ∧ ' ' ∉ b.column.toList) :=
    exists_conditions_iff (hshaped hbs)
  refine ⟨hwritable hcs, fun text htext => ?_⟩
  have hleft := conditions_eq_written (hshaped hcs) ((hwritable hcs).1 ⟨text, htext⟩)
  obtain rfl := Except.ok.inj (htext.symm.trans hleft)
  have hread : conditions (ds.map .comparison) =
        .ok (separated " AND " ((cs.map Comparison.reading).map Reading.written)) ↔
      (∀ d ∈ ds, d.value.isWritable = true) ∧
        cs.map Comparison.reading = ds.map Comparison.reading := by
    constructor
    · intro h
      have hvalues := (hwritable hds).1 ⟨_, h⟩
      have hright := conditions_eq_written (hshaped hds) hvalues
      exact ⟨hvalues, Reading.separated_inj (hvalid hcs) (hvalid hds)
        (Except.ok.inj (h.symm.trans hright))⟩
    · rintro ⟨hvalues, h⟩
      rw [conditions_eq_written (hshaped hds) hvalues, h]
  refine ⟨hread, fun hflat hflat' => hread.trans (and_congr_right fun _ => ?_)⟩
  refine (forall₂_iff_map_eq fun c hc d hd => ?_).symm
  rw [Comparison.agrees_iff (hflat c hc) (hflat' d hd)]
  exact (Reading.mk.injEq ..).to_iff.symm

/-- A text that holds the words of a range, a range and a list. Truth values are compared like the
numbers that they are written as. -/
theorem conditions_eq_iff_of_three :
    let c : Comparison := ⟨"a", .eq, .str "1 AND b BETWEEN 2"⟩
    let d : Comparison := ⟨"b", .between, .tuple [.bool true, .int 20]⟩
    let d' : Comparison := ⟨"b", .between, .tuple [.int 1, .int 20]⟩
    let e : Comparison := ⟨"c", .notIn, .tuple [.str "x', 'y", .null]⟩
    ((∀ b ∈ [c, d, e], (∃ m : Mutation, m.Builds b) ∧ ' ' ∉ b.column.toList) ∧
        ∀ b ∈ [c, d', e], (∃ m : Mutation, m.Builds b) ∧ ' ' ∉ b.column.toList) ∧
      (conditions ([c, d, e].map .comparison)).toOption.map String.ofList = some
        ("a = '1 AND b BETWEEN 2' AND b BETWEEN 1 AND 20 AND " ++
          "c NOT IN ('x\\', \\'y', NULL)") ∧
      conditions ([c, d, e].map .comparison) = conditions ([c, d', e].map .comparison) ∧
      d.value.Agrees d'.value := by
  intro c d d' e
  have hc : Mutation.Builds (.filter .append (.str "a") (.str "=") c.value) c := .filter rfl
  have hd : Mutation.Builds (.filter .append (.str "b") (.str "between") d.value) d := .filter rfl
  have hd' : Mutation.Builds (.having .append (.str "b") (.str "between") d'.value) d' :=
    .having rfl
  have he : Mutation.Builds (.filter .append (.str "c") (.str "not in") e.value) e := .filter rfl
  have hleft : ∀ b ∈ [c, d, e], (∃ m : Mutation, m.Builds b) ∧ ' ' ∉ b.column.toList := by
    simp only [List.forall_mem_cons, List.not_mem_nil, false_imp_iff, implies_true, and_true]
    exact ⟨⟨⟨_, hc⟩, by decide⟩, ⟨⟨_, hd⟩, by decide⟩, ⟨_, he⟩, by decide⟩
  have hright : ∀ b ∈ [c, d', e], (∃ m : Mutation, m.Builds b) ∧ ' ' ∉ b.column.toList := by
    simp only [List.forall_mem_cons, List.not_mem_nil, false_imp_iff, implies_true, and_true]
    exact ⟨⟨⟨_, hc⟩, by decide⟩, ⟨⟨_, hd'⟩, by decide⟩, ⟨_, he⟩, by decide⟩
  have hflat : ∀ b ∈ [c, d, d', e], b.value.Flat := by
    simp [c, d, d', e, Value.Flat, Value.members, Value.isSequence]
  have hwritable : (∀ b ∈ [c, d, e], b.value.isWritable = true) ∧
      ∀ b ∈ [c, d', e], b.value.isWritable = true := by decide
  obtain ⟨hwritten, hboth⟩ := conditions_eq_iff hleft hright
  obtain ⟨text, htext⟩ := hwritten.2 hwritable.1
  obtain ⟨hread, hagree⟩ := hboth text htext
  have hsame := hread.2 ⟨hwritable.2, rfl⟩
  obtain ⟨-, hagree⟩ := (hagree (fun b hb => hflat b (by grind))
    fun b hb => hflat b (by grind)).1 hsame
  obtain ⟨-, hrest⟩ := List.forall₂_cons.1 hagree
  obtain ⟨⟨-, -, hvalues⟩, -⟩ := List.forall₂_cons.1 hrest
  exact ⟨⟨hleft, hright⟩, by decide +kernel, htext.trans hsame.symm, hvalues⟩

/-- A list within a list, and the text that it is written as. -/
theorem conditions_eq_of_nested :
    let c : Comparison := ⟨"a", .isIn, .tuple [.tuple [.int 1, .int 2]]⟩
    let d : Comparison := ⟨"a", .isIn, .tuple [.str "(1, 2)"]⟩
    ((∃ m : Mutation, m.Builds c) ∧ (∃ m : Mutation, m.Builds d) ∧ ' ' ∉ "a".toList) ∧
      (conditions [.comparison c]).toOption.map String.ofList = some "a IN ('(1, 2)')" ∧
      (conditions [.comparison d]).toOption.map String.ofList = some "a IN ('(1, 2)')" ∧
      ¬c.value.Agrees d.value := by
  intro c d
  have hc : Mutation.Builds (.filter .append (.str "a") (.str "in") c.value) c := .filter rfl
  have hd : Mutation.Builds (.filter .append (.str "a") (.str "in") d.value) d := .filter rfl
  refine ⟨⟨⟨_, hc⟩, ⟨_, hd⟩, by decide⟩, by decide +kernel, by decide +kernel, fun h => ?_⟩
  obtain ⟨hmember, -⟩ := List.forall₂_cons.1 ((Value.agrees_sequence_iff rfl rfl).1 h)
  exact nomatch hmember.isSequence_eq

end Render

end SearchClient
