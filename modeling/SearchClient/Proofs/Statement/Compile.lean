import SearchClient.Engine.Reply
import SearchClient.Proofs.Query.Mutation

/-!
# Clauses that make up a statement

Rendering fails on names that are no texts, on a range without two bounds, on a window whose ends
are no integers, and on integers that are too long to be written. Comparisons of a reachable query
are shaped, so there are no such ranges; when the names are texts and the window has integers, or
nothing, for its ends, then all that a statement still needs is a selected column and an index, and
that its integers can be written.

Every such statement begins with the same word, so it is never the one that asks for statistics.

## Key results

- `Render.condition_of_shaped`: how a shaped comparison is written
- `Clauses.compile_eq_compileWith`: where the full-text filter stands in a statement
- `Clauses.writesIf_compile`: such clauses make up a statement exactly if their integers can be
  written
- `Clauses.compile_of_missing`: others that lack a column or an index do not
- `Clauses.prefix_compile`: what a statement begins with
-/

namespace SearchClient

/-- The names among the clauses are texts, and the window has integers for its ends, if any. -/
structure Clauses.Named (q : Clauses) : Prop where
  select : ∀ v ∈ q.select, ∃ name, v.asText? = some name
  indexes : ∀ v ∈ q.indexes, ∃ name, v.asText? = some name
  groupBy : ∀ v ∈ q.groupBy, ∃ name, v.asText? = some name
  offset : q.offset = .null ∨ ∃ n, q.offset = .int n
  limit : q.limit = .null ∨ ∃ n, q.limit = .int n

/-- What a statement writes can be written: the values of its comparisons and both numbers of its
window. -/
structure Clauses.Writable (q : Clauses) (maxMatches : Value) : Prop where
  compares : ∀ c, q.Compares c → c.value.isWritable = true
  offset : q.offset.isWritable = true
  limit : q.limit.isWritable = true
  /-- Without a limit the window is as long as the engine allows. -/
  maxMatches : q.limit = .null → maxMatches.isWritable = true

/-- Whether a condition can be written; an expression always can. -/
def Condition.isWritable : Condition → Bool
  | .comparison c => c.value.isWritable
  | .raw _ => true

theorem Clauses.writable_iff_all {q : Clauses} {maxMatches : Value} :
    q.Writable maxMatches ↔
      (∀ c ∈ q.conditions ++ q.having, c.isWritable = true) ∧ q.offset.isWritable = true ∧
        q.limit.isWritable = true ∧ (q.limit.isNull = true → maxMatches.isWritable = true) := by
  have hnull : q.limit.isNull = true ↔ q.limit = .null := by
    cases q.limit <;> simp [Value.isNull]
  rw [hnull]
  constructor
  · intro h
    refine ⟨fun c hc => ?_, h.offset, h.limit, h.maxMatches⟩
    cases c with
    | raw expression => rfl
    | comparison c => exact h.compares c (List.mem_append.1 hc)
  · rintro ⟨hconditions, hoffset, hlimit, hmax⟩
    exact ⟨fun c hc => hconditions (.comparison c) (List.mem_append.2 hc), hoffset, hlimit, hmax⟩

instance (q : Clauses) (maxMatches : Value) : Decidable (q.Writable maxMatches) :=
  decidable_of_iff' _ Clauses.writable_iff_all

namespace Render

theorem exists_nameList {vs : List Value} (h : ∀ v ∈ vs, ∃ name, v.asText? = some name)
    (separator : String) : ∃ text, nameList separator vs = .ok text := by
  have hnames (place : Nat) : ∃ texts, names place vs = .ok texts := by
    induction vs generalizing place with
    | nil => exact ⟨[], rfl⟩
    | cons v rest ih =>
      obtain ⟨⟨name, hname⟩, hrest⟩ := List.forall_mem_cons.1 h
      obtain ⟨texts, htexts⟩ := ih hrest (place + 1)
      refine ⟨name.toList :: texts, ?_⟩
      rw [names, hname, htexts]
      rfl
  obtain ⟨texts, htexts⟩ := hnames 0
  exact ⟨_, Except.map_eq_ok.2 ⟨texts, htexts, rfl⟩⟩

theorem writesIf_nameList {vs : List Value} (h : ∀ v ∈ vs, ∃ name, v.asText? = some name)
    (separator : String) : WritesIf True (nameList separator vs) :=
  .of_ok (exists_nameList h separator)

theorem writesIf_value (v : Value) : WritesIf (v.isWritable = true) (value v) :=
  ⟨fun h => ⟨_, if_pos h⟩, fun h => if_neg h⟩

/-- A shaped comparison has all that its operator needs: a range is written with both its bounds,
any other list with all its values in parentheses, and a single value by itself. -/
theorem operand_of_shaped {c : Comparison} (h : c.Shaped) (hvalue : c.value.isWritable = true) :
    ∃ right, operand c.operator c.value = .ok right ∧
      (c.operator = .between → ∃ lower upper, c.value = .tuple [lower, upper] ∧
        right = valueText lower ++ " AND ".toList ++ valueText upper) ∧
      (c.operator ≠ .between → c.value.isSequence = true →
        right = '(' :: separated ", " (c.value.members.map valueText) ++ [')']) ∧
      (c.value.isSequence = false → right = valueText c.value) := by
  have hmembers : ∀ v ∈ c.value.members, value v = .ok (valueText v) := fun v hv =>
    value_of_isWritable (Value.isWritable_of_mem_members hvalue hv)
  unfold operand
  split
  · rename_i hbetween
    obtain ⟨lower, upper, htuple⟩ := h.between hbetween
    rw [htuple] at hmembers ⊢
    have hlower := hmembers lower (by simp [Value.members])
    have hupper := hmembers upper (by simp [Value.members])
    refine ⟨_, ?_, fun _ => ⟨lower, upper, rfl, rfl⟩, fun hnot => absurd hbetween hnot,
      fun hscalar => absurd rfl (Bool.eq_false_iff.1 hscalar)⟩
    change (value lower >>= fun l => value upper >>= fun u => _) = _
    rw [hlower, hupper]
    rfl
  · rename_i hbetween
    split
    · rename_i hseq
      refine ⟨_, ?_, fun h => absurd h hbetween, fun _ _ => rfl,
        fun hscalar => absurd hseq (Bool.eq_false_iff.1 hscalar)⟩
      have htexts : c.value.members.mapM value = .ok (c.value.members.map valueText) :=
        Except.mapM_eq_ok_of_map_eq (by rw [List.map_map]; exact List.map_congr_left hmembers)
      rw [htexts]
      rfl
    · rename_i hscalar
      exact ⟨_, value_of_isWritable hvalue, fun h => absurd h hbetween,
        fun _ hseq => absurd hseq hscalar, fun _ => rfl⟩

/-- How a shaped comparison is written. -/
theorem condition_of_shaped {c : Comparison} (h : c.Shaped) (hvalue : c.value.isWritable = true) :
    ∃ right,
      condition (.comparison c) =
        .ok (c.column.toList ++ ' ' :: c.operator.text.toList ++ ' ' :: right) ∧
      (c.operator = .between → ∃ lower upper, c.value = .tuple [lower, upper] ∧
        right = valueText lower ++ " AND ".toList ++ valueText upper) ∧
      (c.operator ≠ .between → c.value.isSequence = true →
        right = '(' :: separated ", " (c.value.members.map valueText) ++ [')']) := by
  obtain ⟨right, hright, hrange, hlist, -⟩ := operand_of_shaped h hvalue
  exact ⟨right, Except.map_eq_ok.2 ⟨right, hright, rfl⟩, hrange, hlist⟩

theorem writesIf_operand {c : Comparison} (h : c.Shaped) :
    WritesIf (c.value.isWritable = true) (operand c.operator c.value) := by
  unfold operand
  split
  · rename_i hbetween
    obtain ⟨lower, upper, htuple⟩ := h.between hbetween
    rw [htuple]
    have hbounds := (writesIf_value lower).bind (f := fun l => value upper >>= fun u =>
      pure (l ++ " AND ".toList ++ u)) fun l => (writesIf_value upper).bind fun u => .of_ok ⟨_, rfl⟩
    refine WritesIf.congr hbounds ?_
    simp [Value.isWritable, Value.areWritable]
  · split
    · rename_i hseq
      obtain ⟨items, htuple⟩ := h.isSequence hseq
      rw [htuple]
      refine ((WritesIf.mapM fun v _ => writesIf_value v).map _).congr ?_
      exact Value.areWritable_iff.symm
    · exact writesIf_value _

/-- A comparison is written if its value can be, and an expression is written in any case. -/
theorem writesIf_condition {c : Condition} (h : c.Shaped) :
    WritesIf (∀ d, c = .comparison d → d.value.isWritable = true) (condition c) := by
  cases c with
  | raw expression => exact (WritesIf.of_ok ⟨_, rfl⟩).congr (by simp)
  | comparison c => exact ((writesIf_operand h).map _).congr (by simp)

theorem writesIf_conditions {cs : List Condition} (h : ∀ c ∈ cs, c.Shaped) :
    WritesIf (∀ d, .comparison d ∈ cs → d.value.isWritable = true) (conditions cs) := by
  refine ((WritesIf.mapM fun c hc => writesIf_condition (h c hc)).map _).congr ?_
  exact ⟨fun hall d hd => hall _ hd d rfl, fun hall c hc d hd => hall d (hd ▸ hc)⟩

/-- A window is written if both its numbers can be. -/
theorem writesIf_window {offset limit : Value} (hoffset : offset = .null ∨ ∃ n, offset = .int n)
    (hlimit : limit = .null ∨ ∃ n, limit = .int n) (maxMatches : Value) :
    WritesIf (offset.isWritable = true ∧ limit.isWritable = true ∧
      (limit = .null → maxMatches.isWritable = true)) (window maxMatches offset limit) := by
  have hnumbers (first : Int) (count : Value) : WritesIf
      ((Value.int first).isWritable = true ∧ count.isWritable = true) (do
        let first ← (Value.int first).written
        let count ← count.written
        return "LIMIT ".toList ++ first.toList ++ ", ".toList ++ count.toList) :=
    (Value.writesIf_written _).bind fun _ =>
      (count.writesIf_written.bind fun _ => .of_ok ⟨_, rfl⟩).congr (and_iff_left trivial)
  -- Without an offset the window begins at a number of its own, which can always be written.
  have hnull : Value.null.isWritable = true := rfl
  have hdefault : (Value.int defaultOffset).isWritable = true := by decide
  rcases hoffset with rfl | ⟨n, rfl⟩
  · rcases hlimit with rfl | ⟨m, rfl⟩
    · exact (hnumbers defaultOffset maxMatches).congr (by simp [hnull, hdefault])
    · exact (hnumbers defaultOffset (.int m)).congr (by simp [hnull, hdefault])
  · rcases hlimit with rfl | ⟨m, rfl⟩
    · exact (hnumbers n maxMatches).congr (by simp [hnull])
    · exact (hnumbers n (.int m)).congr (by simp)

/-- A clause that is left out needs nothing to be written. -/
theorem writesIf_optionalClause {P : Prop} {body : Except Failure (List Char)} (h : WritesIf P body)
    (present : Bool) (hleft : present = false → P) (keyword : String) :
    WritesIf P (optionalClause present keyword body) := by
  unfold optionalClause
  cases present with
  | false => exact (WritesIf.of_ok ⟨_, rfl⟩).congr (iff_of_true trivial (hleft rfl))
  | true => exact h.map _

end Render

namespace Clauses

/-! ### The full-text filter and what stands around it -/

/-- The clauses in front of the full-text filter. -/
def front (q : Clauses) : Except Failure (List (List Char)) := do
  let select ← (Render.nameList ", " q.select).map ("SELECT ".toList ++ ·)
  let indexes ← (Render.nameList ", " q.indexes).map ("FROM ".toList ++ ·)
  let filter ← Render.optionalClause (!q.conditions.isEmpty) "WHERE "
    (Render.conditions q.conditions)
  return [select, indexes] ++ filter

/-- The clauses behind the full-text filter. -/
def back (q : Clauses) (maxMatches : Value) : Except Failure (List (List Char)) := do
  let group ← Render.optionalClause (!q.groupBy.isEmpty) "GROUP BY "
    (Render.nameList ", " q.groupBy)
  let groupOrder ← Render.optionalClause (!q.groupOrder.isEmpty) "WITHIN GROUP ORDER BY "
    (.ok (Render.order q.groupOrder))
  let having ← Render.optionalClause (!q.having.isEmpty) "HAVING " (Render.conditions q.having)
  let order ← Render.optionalClause (!q.order.isEmpty) "ORDER BY " (.ok (Render.order q.order))
  let window ← Render.window maxMatches q.offset q.limit
  let options ← Render.optionalClause (!q.options.isEmpty) "OPTION "
    (.ok (Render.options q.options))
  return group ++ groupOrder ++ having ++ order ++ [window] ++ options

/-- Some text as the full-text filter; other filters stand in front of it. -/
def filterBy (q : Clauses) (filter : List Char) : List Char :=
  (if q.conditions.isEmpty then "WHERE " else "AND ").toList ++ filter

/-- The clause of the full-text filter, if there are terms. -/
def fullText (q : Clauses) : List (List Char) :=
  if !q.terms.isEmpty || !q.rawTerms.isEmpty then
    [q.filterBy (Render.matching q.terms q.rawTerms)]
  else []

/-- The full-text filter can be written whenever what stands around it can. -/
theorem parts_eq (q : Clauses) (maxMatches : Value) :
    q.parts maxMatches = do
      let front ← q.front
      let back ← q.back maxMatches
      return front ++ q.fullText ++ back := by
  have hfilter : Render.optionalClause (!q.terms.isEmpty || !q.rawTerms.isEmpty)
      (if q.conditions.isEmpty then "WHERE " else "AND ")
      (.ok (Render.matching q.terms q.rawTerms)) = .ok q.fullText := by
    unfold Render.optionalClause fullText filterBy
    split <;> rfl
  have hok {α β : Type} (a : α) (f : α → Except Failure β) : (Except.ok a >>= f) = f a := rfl
  unfold parts front back
  simp only [hfilter, hok, bind_assoc, pure_bind, List.append_assoc]

/-- The statement of some clauses with a text as its full-text filter. -/
def compileWith (q : Clauses) (maxMatches : Value) (filter : List Char) :
    Except Failure String := do
  let front ← q.front
  let back ← q.back maxMatches
  return String.ofList (Text.trim (separated " " (front ++ [q.filterBy filter] ++ back)))

/-- All that a statement says of its full-text terms is their one filter. -/
theorem compile_eq_compileWith {q : Clauses} (hselect : q.select ≠ []) (hindexes : q.indexes ≠ [])
    (hsearched : q.terms ≠ [] ∨ q.rawTerms ≠ []) (maxMatches : Value) :
    q.compile maxMatches = q.compileWith maxMatches (Render.matching q.terms q.rawTerms) := by
  have hfullText : q.fullText = [q.filterBy (Render.matching q.terms q.rawTerms)] :=
    if_pos (by simpa using hsearched)
  unfold compile compileWith
  rw [if_neg (by simpa using hselect), if_neg (by simpa using hindexes), parts_eq, hfullText]
  cases q.front with
  | error f => rfl
  | ok front => cases q.back maxMatches <;> rfl

/-! ### Clauses that can be written -/

/-- Comparisons of a clause without any can be written. -/
private theorem writable_of_isEmpty {cs : List Condition} (h : (!cs.isEmpty) = false) :
    ∀ d, Condition.comparison d ∈ cs → d.value.isWritable = true := by
  intro d hd
  cases cs with
  | nil => exact nomatch hd
  | cons c cs => exact nomatch h

theorem writesIf_front {q : Clauses} (hshaped : q.Shaped) (hnamed : q.Named) :
    WritesIf (∀ d, .comparison d ∈ q.conditions → d.value.isWritable = true) q.front := by
  have hselect := (Render.writesIf_nameList hnamed.select ", ").map ("SELECT ".toList ++ ·)
  have hindexes := (Render.writesIf_nameList hnamed.indexes ", ").map ("FROM ".toList ++ ·)
  have hfilter := Render.writesIf_optionalClause
    (Render.writesIf_conditions hshaped.conditions) _ writable_of_isEmpty "WHERE "
  unfold front
  refine (hselect.bind fun _ => hindexes.bind fun _ => hfilter.bind fun _ => .of_ok ⟨_, rfl⟩).congr
    ?_
  simp

theorem writesIf_back {q : Clauses} (hshaped : q.Shaped) (hnamed : q.Named) (maxMatches : Value) :
    WritesIf ((∀ d, .comparison d ∈ q.having → d.value.isWritable = true) ∧
      q.offset.isWritable = true ∧ q.limit.isWritable = true ∧
        (q.limit = .null → maxMatches.isWritable = true)) (q.back maxMatches) := by
  have hgroup := Render.writesIf_optionalClause (Render.writesIf_nameList hnamed.groupBy ", ")
    (!q.groupBy.isEmpty) (fun _ => trivial) "GROUP BY "
  have hfixed (present : Bool) (keyword : String) (text : List Char) :
      WritesIf True (Render.optionalClause present keyword (.ok text)) :=
    Render.writesIf_optionalClause (.of_ok ⟨text, rfl⟩) present (fun _ => trivial) keyword
  have hhaving := Render.writesIf_optionalClause
    (Render.writesIf_conditions hshaped.having) _ writable_of_isEmpty "HAVING "
  have hwindow := Render.writesIf_window hnamed.offset hnamed.limit maxMatches
  unfold back
  refine (hgroup.bind fun _ => (hfixed _ _ _).bind fun _ => hhaving.bind fun _ =>
    (hfixed _ _ _).bind fun _ => hwindow.bind fun _ => (hfixed _ _ _).bind fun _ =>
      .of_ok ⟨_, rfl⟩).congr ?_
  simp

theorem writable_iff {q : Clauses} {maxMatches : Value} :
    q.Writable maxMatches ↔
      (∀ d, .comparison d ∈ q.conditions → d.value.isWritable = true) ∧
        (∀ d, .comparison d ∈ q.having → d.value.isWritable = true) ∧
        q.offset.isWritable = true ∧ q.limit.isWritable = true ∧
        (q.limit = .null → maxMatches.isWritable = true) := by
  constructor
  · exact fun h => ⟨fun d hd => h.compares d (.inl hd), fun d hd => h.compares d (.inr hd),
      h.offset, h.limit, h.maxMatches⟩
  · rintro ⟨hconditions, hhaving, hoffset, hlimit, hmax⟩
    exact ⟨fun d hd => hd.elim (hconditions d) (hhaving d), hoffset, hlimit, hmax⟩

theorem writesIf_compileWith {q : Clauses} (hshaped : q.Shaped) (hnamed : q.Named)
    (maxMatches : Value) (filter : List Char) :
    WritesIf (q.Writable maxMatches) (q.compileWith maxMatches filter) := by
  unfold compileWith
  refine ((writesIf_front hshaped hnamed).bind fun _ =>
    (writesIf_back hshaped hnamed maxMatches).bind fun _ => .of_ok ⟨_, rfl⟩).congr ?_
  rw [and_iff_left trivial, writable_iff]

/-- Shaped clauses with names and a window make up a statement if there is a selected column and an
index and their integers can be written; if it is only these that cannot, they are the reason. -/
theorem writesIf_compile {q : Clauses} (hshaped : q.Shaped) (hnamed : q.Named)
    (hselect : q.select ≠ []) (hindexes : q.indexes ≠ []) (maxMatches : Value) :
    WritesIf (q.Writable maxMatches) (q.compile maxMatches) := by
  unfold compile
  rw [if_neg (by simpa using hselect), if_neg (by simpa using hindexes), parts_eq]
  refine (((writesIf_front hshaped hnamed).bind fun _ =>
    (writesIf_back hshaped hnamed maxMatches).bind fun _ => .of_ok ⟨_, rfl⟩).map _).congr ?_
  rw [and_iff_left trivial, writable_iff]

/-- Without a selected column or without an index there is no statement. -/
theorem compile_of_missing {q : Clauses} (h : q.select = [] ∨ q.indexes = []) (maxMatches : Value) :
    ∃ f, f.hasCode .invalidArgument = true ∧ q.compile maxMatches = .error f := by
  unfold compile
  split
  · exact ⟨_, rfl, rfl⟩
  · rename_i hselect
    rcases h with hnone | hnone
    · exact absurd (by rw [hnone]; rfl) hselect
    · rw [if_pos (by rw [hnone]; rfl)]
      exact ⟨_, rfl, rfl⟩

/-- There is no other reason. -/
theorem error_of_compile {q : Clauses} (hshaped : q.Shaped) (hnamed : q.Named) {maxMatches : Value}
    {f : Failure} (h : q.compile maxMatches = .error f) :
    f.hasCode .invalidArgument = true ∨ ¬q.Writable maxMatches ∧ f = Value.tooLong := by
  by_cases hmissing : q.select = [] ∨ q.indexes = []
  · obtain ⟨f', hcode, hf'⟩ := compile_of_missing hmissing maxMatches
    obtain rfl := Except.error.inj (hf'.symm.trans h)
    exact .inl hcode
  · obtain ⟨hselect, hindexes⟩ := not_or.1 hmissing
    have hwrites := writesIf_compile hshaped hnamed hselect hindexes maxMatches
    by_cases hwritable : q.Writable maxMatches
    · obtain ⟨text, htext⟩ := hwrites.ok hwritable
      exact nomatch htext.symm.trans h
    · exact .inr ⟨hwritable, Except.error.inj (h.symm.trans (hwrites.error hwritable))⟩

end Clauses

/-! ### The first word of a statement -/

/-- A word in front of a text is still there when blanks are dropped at both ends. -/
theorem Text.prefix_trim {word : List Char} (hword : ∀ c ∈ word, isBlank c = false)
    (rest : List Char) : word <+: trim (word ++ rest) := by
  have hstays {cs : List Char} (hcs : ∀ c ∈ cs, isBlank c = false) : cs.dropWhile isBlank = cs := by
    cases cs with
    | nil => rfl
    | cons c cs => simp [hcs c List.mem_cons_self]
  cases word with
  | nil => exact List.nil_prefix
  | cons c cs =>
    have hstart : ((c :: cs) ++ rest).dropWhile isBlank = (c :: cs) ++ rest := by
      simp [hword c List.mem_cons_self]
    have hback : (c :: cs).reverse.dropWhile isBlank = (c :: cs).reverse :=
      hstays fun d hd => hword d (List.mem_reverse.1 hd)
    unfold trim trimBy
    rw [hstart, List.reverse_append, List.dropWhile_append]
    split
    · simp only [hback, List.reverse_reverse, List.prefix_rfl]
    · rw [List.reverse_append, List.reverse_reverse]
      exact List.prefix_append _ _

namespace Clauses

/-- A statement that clauses make up begins with `SELECT`. -/
theorem prefix_compile {q : Clauses} {maxMatches : Value} {text : String}
    (h : q.compile maxMatches = .ok text) : "SELECT".toList <+: text.toList := by
  have hfirst {ps : List (List Char)} (hps : q.parts maxMatches = .ok ps) :
      ∃ names others, ps = ("SELECT ".toList ++ names) :: others := by
    rw [parts_eq] at hps
    obtain ⟨front, hfront, hps⟩ := Except.bind_eq_ok.1 hps
    obtain ⟨back, -, hps⟩ := Except.bind_eq_ok.1 hps
    obtain rfl := Except.ok.inj hps
    obtain ⟨select, hselect, hfront⟩ := Except.bind_eq_ok.1 hfront
    obtain ⟨names, -, rfl⟩ := Except.map_eq_ok.1 hselect
    obtain ⟨indexes, -, hfront⟩ := Except.bind_eq_ok.1 hfront
    obtain ⟨filter, -, hfront⟩ := Except.bind_eq_ok.1 hfront
    obtain rfl := Except.ok.inj hfront
    exact ⟨names, _, rfl⟩
  unfold compile at h
  split at h
  · exact nomatch h
  · split at h
    · exact nomatch h
    · obtain ⟨ps, hps, rfl⟩ := Except.map_eq_ok.1 h
      obtain ⟨names, others, rfl⟩ := hfirst hps
      have hjoined : ∃ rest, separated " " (("SELECT ".toList ++ names) :: others) =
          "SELECT".toList ++ rest := by
        have hspace : "SELECT ".toList = "SELECT".toList ++ [' '] := by decide
        rw [separated_cons, hspace, List.append_assoc, List.append_assoc]
        exact ⟨_, rfl⟩
      obtain ⟨rest, hrest⟩ := hjoined
      have hall : "SELECT".toList.all (!Text.isBlank ·) = true := by decide
      have hword : ∀ c ∈ "SELECT".toList, Text.isBlank c = false := fun c hc => by
        simpa using List.all_eq_true.1 hall c hc
      have hprefix := Text.prefix_trim hword rest
      rw [← hrest] at hprefix
      simpa only [String.toList_ofList] using hprefix

/-- Clauses never make up the request for statistics. -/
theorem compile_ne_metaStatement {q : Clauses} {maxMatches : Value} {text : String}
    (h : q.compile maxMatches = .ok text) : text ≠ metaStatement := by
  rintro rfl
  have hprefix := List.isPrefixOf_iff_prefix.2 (prefix_compile h)
  exact absurd hprefix (by decide)

end Clauses

end SearchClient
