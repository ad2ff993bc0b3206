import SearchClient.Proofs.Numeric
import SearchClient.Proofs.Query.Reachable
import SearchClient.Proofs.Statement.FullText

/-!
# Values stay in their literals

Columns, names and raw expressions are written as they are given. When none of them has a quote or
a backslash, all literals of a statement are those of its values: reading the statement back, from
left to right, finds every literal closed and gives the values as they were, in order.

Each clause is a sequence of pieces between quote-free separators, so `Brings` is shown for every
piece and goes through to the statement. Cutting blanks off both ends at last removes no quote.

## Key results

- `Render.brings_value`: a value brings its own text, or no literal at all
- `Clauses.bringsAll_parts`: the clauses bring the literals of the values, in order
- `Query.Reachable.scan_compile`: reading a statement back gives the values of its query
-/

namespace SearchClient

/-- There is no quote of any kind and no backslash in a text. -/
def Unquoted (s : String) : Prop := ∀ c ∈ s.toList, c ∉ ['\'', '"', '\x60', '\\']

instance (s : String) : Decidable (Unquoted s) := List.decidableBAll _ _

theorem Unquoted.notMem {s : String} (h : Unquoted s) : '\'' ∉ s.toList :=
  fun hquote => h '\'' hquote (by decide)

/-! ### What a query writes -/

/-- Literals of a value; numbers, truth values and nothing have none. -/
def Value.literalTexts : Value → List (List Char)
  | .bool _ | .int _ | .null => []
  | v => [v.text.toList]

/-- Literals of a comparison: those of its value, or of the members of its list of values. -/
def Comparison.literalTexts (c : Comparison) : List (List Char) :=
  if c.value.isSequence then c.value.members.flatMap Value.literalTexts else c.value.literalTexts

namespace Condition

/-- The text of a filter that is written as given. -/
def verbatim : Condition → String
  | .comparison c => c.column
  | .raw expression => expression

/-- Literals of a filter. -/
def literalTexts : Condition → List (List Char)
  | .comparison c => c.literalTexts
  | .raw _ => []

end Condition

namespace Clauses

/-- Texts that are written as given: columns, indexes, raw filters and settings. -/
def verbatim (q : Clauses) : List String :=
  (q.select ++ q.indexes ++ q.groupBy).filterMap Value.asText? ++
    (q.conditions ++ q.having).map Condition.verbatim ++
    (q.groupOrder ++ q.order).map (·.column) ++
    q.options.flatMap fun o => [o.name, o.value]

/-- Literals of a statement in order: those of the filters, the full-text expression, and those of
the filters on groups. -/
def literalTexts (q : Clauses) : List (List Char) :=
  q.conditions.flatMap Condition.literalTexts ++
    (if q.terms.isEmpty ∧ q.rawTerms.isEmpty then []
      else [Render.matchExpression q.terms q.rawTerms]) ++
    q.having.flatMap Condition.literalTexts

end Clauses

namespace Literal

/-- A number is written without quotes. -/
theorem brings_toString (n : Int) : Brings (toString n).toList [] :=
  brings_nil_of_notMem (Numeric.notMem_toString (by decide) n)

theorem brings_unquoted {s : String} (h : Unquoted s) : Brings s.toList [] :=
  brings_nil_of_notMem h.notMem

/-- Pieces that bring nothing, with a quote-free separator between them. -/
theorem brings_separated_nil {α : Type} {sep : String} (hsep : '\'' ∉ sep.toList)
    {f : α → List Char} {xs : List α} (h : ∀ x ∈ xs, Brings (f x) []) :
    Brings (separated sep (xs.map f)) [] := by
  have hall := (bringsAll_map h).intercalate hsep
  rwa [List.flatMap_eq_nil_iff.2 fun _ _ => rfl] at hall

/-- Members that are written one by one, each if it can be. -/
theorem bringsAll_mapM {α : Type} {f : α → Except Failure (List Char)} {g : α → List (List Char)}
    {xs : List α} {pieces : List (List Char)} (h : xs.mapM f = .ok pieces)
    (hf : ∀ x ∈ xs, ∀ piece, f x = .ok piece → Brings piece (g x)) :
    BringsAll pieces (xs.flatMap g) := by
  -- Every member has its piece, and the pieces are in the order of the members.
  have hall := Except.forall₂_of_mapM_eq_ok h
  clear h
  induction hall with
  | nil => exact .nil
  | cons hpiece _ ih =>
    obtain ⟨hfirst, hrest⟩ := List.forall_mem_cons.1 hf
    exact .cons (hfirst _ hpiece) (ih hrest)

private theorem exists_append_dropWhile (cs : List Char) {p : Char → Bool} (hp : p '\'' = false) :
    ∃ pre, ('\'' ∉ pre) ∧ cs = pre ++ cs.dropWhile p := by
  refine ⟨cs.takeWhile p, ?_, List.takeWhile_append_dropWhile.symm⟩
  intro hquote
  exact absurd ((List.all_eq_true.1 List.all_takeWhile _ hquote).symm.trans hp) (by decide)

/-- Blanks at both ends are no part of a literal. -/
theorem brings_trim {cs : List Char} {found : List (List Char)} (h : Brings cs found) :
    Brings (Text.trim cs) found := by
  have hblank : Text.isBlank '\'' = false := by decide
  obtain ⟨pre, hpre, hcs⟩ := exists_append_dropWhile cs hblank
  obtain ⟨post, hpost, hrest⟩ := exists_append_dropWhile (cs.dropWhile Text.isBlank).reverse hblank
  have hmiddle : cs = pre ++ Text.trim cs ++ post.reverse := by
    rw [Text.trim, Text.trimBy, List.append_assoc, ← List.reverse_append, ← hrest,
      List.reverse_reverse]
    exact hcs
  rw [hmiddle] at h
  exact h.middle hpre fun hquote => hpost (List.mem_reverse.1 hquote)

end Literal

namespace Render

open Literal

/-! ### Values and filters -/

/-- A value brings its own text, or no literal at all. -/
theorem brings_valueText (v : Value) : Brings (valueText v) v.literalTexts := by
  cases v with
  | bool b => cases b <;> exact brings_nil_of_notMem (by decide)
  | int n => exact brings_toString n
  | null => exact brings_nil_of_notMem (by decide)
  | _ => exact brings_quote _

theorem brings_value {v : Value} {text : List Char} (h : value v = .ok text) :
    Brings text v.literalTexts := by
  unfold value at h
  split at h
  · obtain rfl := Except.ok.inj h
    exact brings_valueText v
  · exact nomatch h

/-- The right-hand side of a comparison brings the literals of its value, or of its members. -/
theorem brings_operand {c : Comparison} (hc : c.Shaped) {right : List Char}
    (h : operand c.operator c.value = .ok right) : Brings right c.literalTexts := by
  unfold operand at h
  split at h
  -- A range is written as its two bounds, and they are the members of its value.
  · rename_i hbetween
    obtain ⟨lower, upper, hvalue⟩ := hc.between hbetween
    obtain ⟨⟨lower', upper'⟩, hbounds, h⟩ := Except.bind_eq_ok.1 h
    have hpair : (lower, upper) = (lower', upper') := by
      rw [hvalue] at hbounds
      exact Except.ok.inj hbounds
    obtain ⟨rfl, rfl⟩ := Prod.mk.inj hpair
    obtain ⟨below, hbelow, h⟩ := Except.bind_eq_ok.1 h
    obtain ⟨above, habove, h⟩ := Except.bind_eq_ok.1 h
    obtain rfl := Except.ok.inj h
    have hand : Brings (" AND ".toList ++ above) upper.literalTexts :=
      (brings_value habove).append_left (by decide)
    have hboth := (brings_value hbelow).append hand
    rw [← List.append_assoc] at hboth
    simpa [Comparison.literalTexts, hvalue, Value.isSequence, Value.members] using hboth
  · split at h
    · rename_i hseq
      obtain ⟨members, hpieces, rfl⟩ := Except.map_eq_ok.1 h
      have hsep : '\'' ∉ ", ".toList := by decide
      have hopen : '\'' ∉ ['('] := by decide
      have hmembers := bringsAll_mapM hpieces fun v _ _ => brings_value
      rw [Comparison.literalTexts, if_pos hseq]
      exact ((hmembers.intercalate hsep).append_left hopen).append_right (by decide)
    · rename_i hseq
      rw [Comparison.literalTexts, if_neg hseq]
      exact brings_value h

/-- A filter brings the literals of its value. -/
theorem brings_condition {c : Condition} (hc : c.Shaped) (hv : Unquoted c.verbatim)
    {text : List Char} (h : condition c = .ok text) : Brings text c.literalTexts := by
  cases c with
  | raw expression =>
    obtain rfl : expression.toList = text := Except.ok.inj h
    exact brings_unquoted hv
  | comparison c =>
    obtain ⟨right, hright, rfl⟩ := Except.map_eq_ok.1 h
    have hspace : '\'' ∉ [' '] := by decide
    have hoperator : '\'' ∉ c.operator.text.toList := by
      cases c.operator <;> decide
    have hcolumn := (brings_unquoted hv).append_right hspace
    have hleft := (hcolumn.append_right hoperator).append_right hspace
    have hwhole := hleft.append (brings_operand hc hright)
    simpa [Condition.verbatim, Condition.literalTexts] using hwhole

/-- Filters that must all hold bring the literals of their values, in order. -/
theorem brings_conditions {cs : List Condition} (hc : ∀ c ∈ cs, c.Shaped)
    (hv : ∀ c ∈ cs, Unquoted c.verbatim) {text : List Char} (h : conditions cs = .ok text) :
    Brings text (cs.flatMap Condition.literalTexts) := by
  obtain ⟨pieces, hpieces, rfl⟩ := Except.map_eq_ok.1 h
  exact (bringsAll_mapM hpieces fun c hmem text =>
    brings_condition (hc c hmem) (hv c hmem)).intercalate (by decide)

/-! ### Clauses without literals -/

private theorem brings_names {place : Nat} {vs : List Value}
    (hv : ∀ s ∈ vs.filterMap Value.asText?, Unquoted s) {pieces : List (List Char)}
    (h : names place vs = .ok pieces) : ∀ piece ∈ pieces, Brings piece [] := by
  induction vs generalizing place pieces with
  | nil =>
    obtain rfl : [] = pieces := Except.ok.inj h
    simp
  | cons v vs ih =>
    rw [names] at h
    cases hs : v.asText? with
    | none =>
      rw [hs] at h
      exact nomatch h
    | some s =>
      rw [hs] at h
      rw [List.filterMap_cons_some hs, List.forall_mem_cons] at hv
      obtain ⟨rest, hrest, rfl⟩ := Except.map_eq_ok.1 h
      exact List.forall_mem_cons.2 ⟨brings_unquoted hv.1, ih hv.2 hrest⟩

/-- Names bring no literal. -/
theorem brings_nameList {vs : List Value} (hv : ∀ s ∈ vs.filterMap Value.asText?, Unquoted s)
    {text : List Char} (h : nameList ", " vs = .ok text) : Brings text [] := by
  obtain ⟨pieces, hpieces, rfl⟩ := Except.map_eq_ok.1 h
  have hnames := brings_names hv hpieces
  have hsep : '\'' ∉ ", ".toList := by decide
  have hall := brings_separated_nil (f := id) hsep hnames
  rwa [List.map_id] at hall

/-- Sort keys bring no literal. -/
theorem brings_order {terms : List OrderTerm} (hv : ∀ t ∈ terms, Unquoted t.column) :
    Brings (order terms) [] := by
  refine brings_separated_nil (by decide) fun t ht => ?_
  have hdirection : '\'' ∉ ' ' :: t.direction.text.toList := by
    cases t.direction <;> decide
  exact (brings_unquoted (hv t ht)).append_right hdirection

/-- Settings bring no literal. -/
theorem brings_options {entries : List OptionEntry}
    (hv : ∀ o ∈ entries, Unquoted o.name ∧ Unquoted o.value) : Brings (options entries) [] := by
  refine brings_separated_nil (by decide) fun o ho => ?_
  have hequals : '\'' ∉ " = ".toList := by decide
  have hname := (brings_unquoted (hv o ho).1).append_right hequals
  exact hname.append_right (hv o ho).2.notMem

private theorem brings_limit {first count : Int} {text : List Char}
    (h : (do
      let first ← (Value.int first).written
      let count ← (Value.int count).written
      return "LIMIT ".toList ++ first.toList ++ ", ".toList ++ count.toList) = Except.ok text) :
    Brings text [] := by
  have hcomma : '\'' ∉ ", ".toList := by decide
  have hlimit : '\'' ∉ "LIMIT ".toList := by decide
  obtain ⟨firstText, hfirst, h⟩ := Except.bind_eq_ok.1 h
  obtain ⟨countText, hcount, h⟩ := Except.bind_eq_ok.1 h
  obtain rfl := Except.ok.inj h
  obtain ⟨-, rfl⟩ := Value.written_eq_ok_iff.1 hfirst
  obtain ⟨-, rfl⟩ := Value.written_eq_ok_iff.1 hcount
  have hstart := (brings_toString first).append_left hlimit
  exact (hstart.append_right hcomma).append (brings_toString count)

/-- The row window brings no literal. -/
theorem brings_window {rows : Int} {offset limit : Value} {text : List Char}
    (h : window (.int rows) offset limit = .ok text) : Brings text [] := by
  unfold window at h
  dsimp only at h
  split at h
  -- Where the offset comes from makes no difference.
  all_goals
    obtain ⟨first, _, h⟩ := Except.bind_eq_ok.1 h
    split at h
    · exact brings_limit h
    · obtain ⟨count, _, h⟩ := Except.bind_eq_ok.1 h
      exact brings_limit h

/-- A clause brings what its body brings, and nothing if it is left out. -/
theorem bringsAll_optionalClause {present : Bool} {keyword : String} {body : Except Failure _}
    {found pieces : List (List Char)} (hkeyword : '\'' ∉ keyword.toList)
    (hbody : present = true → ∀ text, body = .ok text → Brings text found)
    (habsent : present = false → found = [])
    (h : optionalClause present keyword body = .ok pieces) : BringsAll pieces found := by
  unfold optionalClause at h
  cases present with
  | true =>
    obtain ⟨text, htext, rfl⟩ := Except.map_eq_ok.1 h
    exact bringsAll_singleton ((hbody rfl text htext).append_left hkeyword)
  | false =>
    obtain rfl := Except.ok.inj h
    rw [habsent rfl]
    exact .nil

/-- A clause whose body brings no literal brings none. -/
theorem bringsAll_plainClause {present : Bool} {keyword : String} {body : Except Failure _}
    {pieces : List (List Char)} (hkeyword : '\'' ∉ keyword.toList)
    (hbody : ∀ text, body = .ok text → Brings text [])
    (h : optionalClause present keyword body = .ok pieces) : BringsAll pieces [] :=
  bringsAll_optionalClause hkeyword (fun _ => hbody) (fun _ => rfl) h

/-- A clause of filters brings the literals of their values, in order. -/
theorem bringsAll_conditionClause {keyword : String} {cs : List Condition}
    {pieces : List (List Char)} (hkeyword : '\'' ∉ keyword.toList) (hc : ∀ c ∈ cs, c.Shaped)
    (hv : ∀ c ∈ cs, Unquoted c.verbatim)
    (h : optionalClause (!cs.isEmpty) keyword (conditions cs) = .ok pieces) :
    BringsAll pieces (cs.flatMap Condition.literalTexts) := by
  refine bringsAll_optionalClause hkeyword (fun _ text => brings_conditions hc hv)
    (fun habsent => ?_) h
  cases cs with
  | nil => rfl
  | cons c cs => exact nomatch habsent

/-- The clause of the full-text filter brings its expression, if there are any terms. -/
theorem bringsAll_matchClause {keyword : String} {terms : List MatchTerm}
    {raw : List RawMatchTerm} {pieces : List (List Char)} (hkeyword : '\'' ∉ keyword.toList)
    (h : optionalClause (!terms.isEmpty || !raw.isEmpty) keyword (.ok (matching terms raw)) =
      .ok pieces) :
    BringsAll pieces
      (if terms.isEmpty ∧ raw.isEmpty then [] else [matchExpression terms raw]) := by
  refine bringsAll_optionalClause hkeyword (fun hpresent text htext => ?_) (fun habsent => ?_) h
  · obtain rfl := Except.ok.inj htext
    have hsome : ¬(terms.isEmpty ∧ raw.isEmpty) := by
      simpa [Decidable.imp_iff_not_or] using hpresent
    rw [if_neg hsome]
    exact brings_matching terms raw
  · have hnone : terms.isEmpty ∧ raw.isEmpty := by simpa using habsent
    rw [if_pos hnone]

/-- A clause of names that is always there brings no literal. -/
theorem brings_nameClause {keyword : String} {vs : List Value} {piece : List Char}
    (hkeyword : '\'' ∉ keyword.toList) (hv : ∀ s ∈ vs.filterMap Value.asText?, Unquoted s)
    (h : (nameList ", " vs).map (keyword.toList ++ ·) = .ok piece) : Brings piece [] := by
  obtain ⟨text, htext, rfl⟩ := Except.map_eq_ok.1 h
  exact (brings_nameList hv htext).append_left hkeyword

end Render

namespace Clauses

open Literal Render

/-- The clauses bring the literals of the values, in order. -/
theorem bringsAll_parts {q : Clauses} (hq : q.Shaped) (hv : ∀ s ∈ q.verbatim, Unquoted s)
    {rows : Int} {pieces : List (List Char)} (h : q.parts (.int rows) = .ok pieces) :
    BringsAll pieces q.literalTexts := by
  simp only [verbatim, List.filterMap_append, List.map_append, List.mem_append, or_imp,
    forall_and] at hv
  obtain ⟨⟨⟨⟨⟨hvselect, hvindexes⟩, hvgroup⟩, hvconditions, hvhaving⟩, hvgroupOrder, hvorder⟩,
    hvoptions⟩ := hv
  simp only [List.forall_mem_map] at hvconditions hvhaving hvgroupOrder hvorder
  have hsettings : ∀ o ∈ q.options, Unquoted o.name ∧ Unquoted o.value := fun o ho =>
    ⟨hvoptions _ (List.mem_flatMap.2 ⟨o, ho, by simp⟩),
      hvoptions _ (List.mem_flatMap.2 ⟨o, ho, by simp⟩)⟩
  -- Each clause in turn, as the statement is put together.
  unfold parts at h
  obtain ⟨select, hselect, h⟩ := Except.bind_eq_ok.1 h
  obtain ⟨indexes, hindexes, h⟩ := Except.bind_eq_ok.1 h
  obtain ⟨filter, hfilter, h⟩ := Except.bind_eq_ok.1 h
  obtain ⟨fullText, hfullText, h⟩ := Except.bind_eq_ok.1 h
  obtain ⟨group, hgroup, h⟩ := Except.bind_eq_ok.1 h
  obtain ⟨groupOrder, hgroupOrder, h⟩ := Except.bind_eq_ok.1 h
  obtain ⟨having, hhaving, h⟩ := Except.bind_eq_ok.1 h
  obtain ⟨order, horder, h⟩ := Except.bind_eq_ok.1 h
  obtain ⟨window, hwindow, h⟩ := Except.bind_eq_ok.1 h
  obtain ⟨options, hoptions, h⟩ := Except.bind_eq_ok.1 h
  obtain rfl := Except.ok.inj h
  have hselect := bringsAll_singleton (brings_nameClause (by decide) hvselect hselect)
  have hindexes := bringsAll_singleton (brings_nameClause (by decide) hvindexes hindexes)
  have hfilter := bringsAll_conditionClause (by decide) hq.conditions hvconditions hfilter
  have hfullText := bringsAll_matchClause (by split <;> decide) hfullText
  have hgroup := bringsAll_plainClause (by decide) (fun _ => brings_nameList hvgroup) hgroup
  have hgroupOrder := bringsAll_plainClause (by decide)
    (fun _ htext => Except.ok.inj htext ▸ brings_order hvgroupOrder) hgroupOrder
  have hhaving := bringsAll_conditionClause (by decide) hq.having hvhaving hhaving
  have horder := bringsAll_plainClause (by decide)
    (fun _ htext => Except.ok.inj htext ▸ brings_order hvorder) horder
  have hwindow := bringsAll_singleton (brings_window hwindow)
  have hoptions := bringsAll_plainClause (by decide)
    (fun _ htext => Except.ok.inj htext ▸ brings_options hsettings) hoptions
  have hfront := ((hselect.append hindexes).append hfilter).append hfullText
  have hmiddle := (hgroup.append hgroupOrder).append hhaving
  have hback := (horder.append hwindow).append hoptions
  simpa [literalTexts] using (hfront.append hmiddle).append hback

/-- The statement brings the literals of the values, in order. -/
theorem brings_compile {q : Clauses} (hq : q.Shaped) (hv : ∀ s ∈ q.verbatim, Unquoted s)
    {rows : Int} {text : String} (h : q.compile (.int rows) = .ok text) :
    Brings text.toList q.literalTexts := by
  unfold compile at h
  split at h
  · exact nomatch h
  · split at h
    · exact nomatch h
    · obtain ⟨pieces, hpieces, rfl⟩ := Except.map_eq_ok.1 h
      have hspace : '\'' ∉ " ".toList := by decide
      rw [String.toList_ofList]
      exact brings_trim ((bringsAll_parts hq hv hpieces).intercalate hspace)

end Clauses

/-- Reading a statement back, every literal is closed, and the literals are the values in order. -/
theorem Query.Reachable.scan_compile {q : Query} (hq : q.Reachable)
    (hv : ∀ s ∈ q.clauses.verbatim, Unquoted s) {text : String}
    (h : q.clauses.compile q.maxMatches = .ok text) :
    Literal.scan text.toList = .between q.clauses.literalTexts := by
  obtain ⟨rows, hrows⟩ := hq.rows_eq_int
  rw [hrows] at h
  exact (Clauses.brings_compile hq.shaped hv h).scan_eq

/-- Values that try to leave their literals: in a comparison, in a list, in a full-text expression
and in a comparison of groups. -/
theorem Query.Reachable.scan_compile_hostile :
    let c : Collaborators := { connection := { engine := fun _ _ => .answer {} } }
    let q := ((Query.create .null (.int 1000)).calls c {} [
      .change (.select [.str "id", .str "n"]),
      .change (.indexes [.str "rt"]),
      .change (.filter .replace (.str "title") (.str "\\' OR 1=1 --") .unset),
      .change (.filter .append (.str "n") (.list [.int 1, .str "'", .str "\\"]) .unset),
      .change (.rawFullText .append .and (.str "\"a'\\")),
      .change (.having .append (.str "n") (.str "<=") (.str "x\n'"))]).1
    ∃ text,
      (q.Reachable ∧ (∀ s ∈ q.clauses.verbatim, Unquoted s) ∧
        q.clauses.compile q.maxMatches = .ok text) ∧
      Literal.scan text.toList =
        .between ["\\' OR 1=1 --".toList, "'".toList, "\\".toList, "\"a'\\".toList,
          "x\n'".toList] := by
  intro c q
  have hq : q.Reachable := (Reachable.create .null 1000).calls c {} _
  have hv : ∀ s ∈ q.clauses.verbatim, Unquoted s := by decide +kernel
  exact ⟨_, ⟨hq, hv, rfl⟩, hq.scan_compile hv rfl⟩

end SearchClient
