import Mathlib.Data.List.Nodup
import SearchClient.Proofs.Query.Entities
import SearchClient.Proofs.Query.Refusal

/-!
# Alternatives

Alternatives are selected under an alias that is drawn for them, and the query filters on that alias.
As long as the counter counts in whole numbers, no alias is drawn twice. Whatever becomes of the
filters of a query, the alias of each one that is left is defined: filters can be replaced, and
selected columns only become more.

To say which filters and columns alternatives have added, a query is followed with marks. Each column
and each filter is marked with the alias that was drawn by the change which added it, if one was.

## Key results

- `AliasCounter.eq_of_defines`: a column defines one alias of a counter at most
- `Query.aliases_call`: only changes draw aliases
- `Marks.Sound.after`: what one change does to the marks
-/

namespace SearchClient

/-! ### Names of a counter -/

/-- A column is an expression that is selected under a name. -/
def Defines (column : Value) (name : String) : Prop :=
  ∃ expression : String, column = .str (expression ++ " AS " ++ name)

namespace AliasCounter

/-- A number has no blanks in it. -/
private theorem count_blank_toString (n : Int) : (toString n).toList.count ' ' = 0 :=
  List.count_eq_zero.2 (Numeric.notMem_toString (by decide) n)

/-- A column defines one name of a counter at most: the blanks of one definition leave no place for
those of another. -/
theorem eq_of_defines {column : Value} {stem : String} {m n : Int}
    (h : Defines column (stem ++ toString m)) (h' : Defines column (stem ++ toString n)) :
    m = n := by
  obtain ⟨expression, rfl⟩ := h
  obtain ⟨expression', hsame⟩ := h'
  have htext := congrArg String.toList (Value.str.inj hsame)
  simp only [String.toList_append, List.append_assoc] at htext
  -- The longer of the two expressions has a piece before it that begins with a blank.
  have hpiece {piece : List Char} {k l : Int}
      (hp : " AS ".toList ++ (stem.toList ++ (toString k).toList) =
        piece ++ (" AS ".toList ++ (stem.toList ++ (toString l).toList))) : k = l := by
    cases piece with
    | nil =>
      rw [List.nil_append, List.append_cancel_left_eq, List.append_cancel_left_eq] at hp
      exact Numeric.toString_injective hp
    | cons c rest =>
      obtain rfl : ' ' = c := (List.cons.inj hp).1
      have hcount := congrArg (List.count ' ') hp
      simp only [List.count_append, count_blank_toString, List.count_cons_self] at hcount
      omega
  rcases List.append_eq_append_iff.1 htext with ⟨piece, -, hrest⟩ | ⟨piece, -, hrest⟩
  · exact hpiece hrest
  · exact (hpiece hrest).symm

/-- A name belongs to one number. -/
theorem label_injective {stem name : String} {m n : Int} (h : label stem (.whole m) = .ok name)
    (h' : label stem (.whole n) = .ok name) : m = n := by
  obtain ⟨-, rfl⟩ := label_whole_eq_ok_iff.1 h
  obtain ⟨-, hsame⟩ := label_whole_eq_ok_iff.1 h'
  exact eq_of_defines ⟨"", rfl⟩ ⟨"", by rw [hsame]⟩

end AliasCounter

/-! ### Calls that draw nothing -/

theorem Hydration.aliases_hydrate (rows : List Cells) (source : EntityQuery) (column : Value)
    (w : World) : (hydrate rows source column w).world.aliases = w.aliases := by
  obtain ⟨events, records, hworld, -⟩ := world_hydrate rows source column w
  rw [hworld]

theorem Throttler.aliases_hold (t : Throttler) (c : Connection) (statement : Value) (w : World) :
    (t.hold c statement w).2.aliases = w.aliases := by
  have hfirst := c.aliases_execute statement (w.emit .throttleEntered)
  unfold hold leave
  dsimp only
  split
  · rfl
  · rcases hended : c.execute statement (w.emit .throttleEntered) with ⟨f | r, u⟩
    · rw [hended] at hfirst
      dsimp only
      split
      · exact hfirst
      · split
        · exact (c.aliases_execute statement _).trans hfirst
        · exact hfirst
    · rw [hended] at hfirst
      dsimp only
      split
      · exact hfirst
      · exact hfirst

namespace Query

private theorem aliases_settle (statement : Value) (p : Except Failure StatementResult × World) :
    (settle statement p).2.aliases = p.2.aliases := by
  obtain ⟨f | r, w⟩ := p
  · unfold settle
    dsimp only
    split <;> rfl
  · rfl

private theorem aliases_runMain (c : Collaborators) (q : Query) (statement : Value) (w : World) :
    (q.runMain c statement w).2.aliases = w.aliases := by
  have hplain (u : World) (hu : u.aliases = w.aliases) :
      (settle statement (c.connection.execute statement u)).2.aliases = w.aliases :=
    (aliases_settle statement _).trans ((c.connection.aliases_execute statement u).trans hu)
  unfold runMain
  split
  · exact hplain w rfl
  · split
    · rfl
    · dsimp only
      split
      · rfl
      · exact hplain _ rfl
      · exact (aliases_settle statement _).trans (Throttler.aliases_hold ..)

private theorem aliases_hydrated (q : Query) (w : World) :
    (q.hydrated w).world.aliases = w.aliases := by
  unfold hydrated
  split
  · rfl
  · split
    · rfl
    · dsimp only
      split
      · exact Hydration.aliases_hydrate ..
      · exact Hydration.aliases_hydrate ..

private theorem Concluded.aliases {c : Collaborators} {q : Query} {statement : Value}
    {wasAnswered : Bool} {seconds : Float} {w : World} {o : Outcome Int}
    (h : Concluded c q statement wasAnswered seconds w o) : o.world.aliases = w.aliases := by
  have hasked := c.connection.aliases_execute (.str metaStatement) w
  have hreported {rows : Int} {f : Followup} {r : Except Failure Unit} {w' : World}
      (h : reportRun statement rows seconds f (c.connection.execute (.str metaStatement) w).2 =
        (r, w')) : w'.aliases = w.aliases := by
    have hreport : (reportRun statement rows seconds f
        (c.connection.execute (.str metaStatement) w).2).2.aliases = w.aliases := by
      unfold reportRun
      split
      · exact hasked
      · dsimp only
        split
        · exact hasked
        · exact hasked
    rwa [h] at hreport
  cases h with
  | unasked => exact hasked
  | unreported hask hreport => exact hreported hreport
  | unloaded hask hreport hload => exact (aliases_hydrated ..).trans (hreported hreport)
  | complete hask hreport hload hq' => exact (aliases_hydrated ..).trans (hreported hreport)

private theorem aliases_run (c : Collaborators) (q : Query) (w : World) :
    (q.run c w).world.aliases = w.aliases := by
  unfold run
  split
  · rfl
  · split
    · rfl
    · rename_i statement asked _
      have hmain := aliases_runMain c asked.started statement w
      unfold attempt
      split
      · rename_i heq
        rwa [heq] at hmain
      · rename_i heq
        rw [heq] at hmain
        exact (concluded_conclude ..).aliases.trans hmain
      · rename_i heq
        rw [heq] at hmain
        exact (concluded_conclude ..).aliases.trans hmain

private theorem aliases_resultsNow (c : Collaborators) (q : Query) (w : World) :
    (q.resultsNow c w).world.aliases = w.aliases := by
  unfold resultsNow
  split
  · rfl
  · exact aliases_run c q _

/-- Only changes draw aliases. -/
theorem aliases_call {call : Call} (h : ∀ m, call ≠ .change m) (c : Collaborators) (q : Query)
    (w : World) : (q.call c w call).world.aliases = w.aliases := by
  have hreading (q' : Query) (answer : Except Failure Returned) :
      (q'.reading w answer).world.aliases = w.aliases := by
    unfold reading
    split <;> rfl
  cases call with
  | change m => exact absurd rfl (h m)
  | execute => exact aliases_run c q _
  | results => exact aliases_resultsNow c q w
  | table =>
    unfold Query.call tableNow
    dsimp only
    split
    · rfl
    · exact aliases_resultsNow c q w
  | clear => rfl
  | _ => exact hreading _ _

end Query

/-! ### Changes of columns and filters -/

namespace Mutation

/-- Whether a change, when it is accepted, drops the filters that there were. -/
def replacesFilters : Mutation → Bool
  | .filter .replace _ _ _ => true
  | _ => false

/-- Alternatives are selected under the alias that is drawn for them, and filtered on. -/
theorem apply_alternatives {components : Value} {texts : List String}
    (htexts : alternativesOf components = .ok texts) (hsome : texts ≠ []) (q : Query)
    {aliases : AliasCounter} (haliases : aliases.Whole) {name : String}
    (hname : aliases.draw.1 = .ok name) :
    (alternatives components).apply q aliases =
      .done ((q.dirtied.addColumns [.str (disjunction texts ++ " AS " ++ name)]).addFilter .append
        ⟨name, .eq, .int 1⟩) aliases.draw.2 := by
  rw [apply_of_named q htexts hsome hname,
    Comparison.ofArguments_alias (haliases.draw_ne_empty hname)]
  rfl

/-- A change draws an alias only for alternatives. -/
theorem drawn_cases (m : Mutation) (aliases : AliasCounter) :
    m.drawn aliases = [] ∨
      ∃ components texts name, m = .alternatives components ∧
        alternativesOf components = .ok texts ∧ texts ≠ [] ∧ aliases.draw.1 = .ok name ∧
        m.drawn aliases = [name] := by
  unfold drawn
  cases hdraws : m.draws with
  | false => exact .inl rfl
  | true =>
    cases hname : aliases.draw.1 with
    | error f => exact .inl rfl
    | ok name =>
      obtain ⟨components, texts, rfl, htexts, hsome⟩ := alternatives_of_draws hdraws
      exact .inr ⟨components, texts, name, rfl, htexts, hsome, rfl, rfl⟩

/-- A change adds filters, or replaces all of them. -/
theorem conditions_apply (m : Mutation) (q : Query) (aliases : AliasCounter) :
    (∃ entries, (m.apply q aliases).query.clauses.conditions = q.clauses.conditions ++ entries) ∨
      (m.replacesFilters = true ∧ (m.apply q aliases).refusal = none) := by
  have hnone {q' : Query} (h : q'.clauses.conditions = q.clauses.conditions) :
      ∃ entries, q'.clauses.conditions = q.clauses.conditions ++ entries :=
    ⟨[], by rw [h, List.append_nil]⟩
  by_cases hparts : Part.filters ∈ m.parts
  · cases m with
    | filter p column operator value =>
      change (∃ entries, (Edit.ofEntry q.dirtied aliases (Comparison.ofArguments column operator
        value) _).query.clauses.conditions = _) ∨ _ ∧ (Edit.ofEntry q.dirtied aliases
        (Comparison.ofArguments column operator value) _).refusal = none
      cases Comparison.ofArguments column operator value with
      | error f => exact .inl (hnone rfl)
      | ok a =>
        cases p with
        | replace => exact .inr ⟨rfl, rfl⟩
        | append => exact .inl ⟨_, rfl⟩
    | rawFilter expression =>
      left
      rcases Edit.ofEntry_query q.dirtied aliases
        (Condition.rawKind.create [("expression", expression)]) (fun e => q.dirtied.update fun c =>
          { c with conditions := c.conditions ++ [.raw e] }) with ⟨a, -, hquery⟩ | hquery
      · exact ⟨[.raw a], congrArg (fun q => q.clauses.conditions) hquery⟩
      · exact hnone (congrArg (fun q => q.clauses.conditions) hquery)
    | alternatives components =>
      left
      rcases query_alternatives components q aliases with hsame | ⟨column, entries, hquery⟩
      · exact hnone (by rw [hsame])
      · exact ⟨entries, by rw [hquery]; rfl⟩
    | _ => simp [parts] at hparts
  · exact .inl (hnone (Draft.content_change_of_notMem ⟨q, aliases, []⟩ hparts))

end Mutation

/-! ### Marks -/

/-- The columns and the filters of a query, each with the alias that was drawn by the change which
added it, if one was. -/
structure Marks where
  columns : List (Value × Option String) := []
  filters : List (Condition × Option String) := []

namespace Marks

/-- Entries that have become more: those that were there keep their marks. -/
def grown {α : Type} (marked : List (α × Option String)) (now : List α) (name : Option String) :
    List (α × Option String) :=
  marked ++ (now.drop marked.length).map fun entry => (entry, name)

/-- The marks after a change. -/
def after (k : Marks) (m : Mutation) (q : Query) (aliases : AliasCounter) : Marks :=
  let edit := m.apply q aliases
  let name := (m.drawn aliases).head?
  { columns := grown k.columns edit.query.clauses.select name
    filters :=
      if m.replacesFilters && edit.refusal.isNone then
        edit.query.clauses.conditions.map fun condition => (condition, name)
      else grown k.filters edit.query.clauses.conditions name }

/-- The marks are those of a query, and what is marked with an alias is what alternatives have added
for it: its columns define different aliases, and its filters ask for one of these. -/
structure Sound (k : Marks) (q : Query) (drawn : List String) : Prop where
  columns : k.columns.map (·.1) = q.clauses.select
  filters : k.filters.map (·.1) = q.clauses.conditions
  defines : ∀ column name, (column, some name) ∈ k.columns → Defines column name ∧ name ∈ drawn
  nodup : (k.columns.filterMap (·.2)).Nodup
  defined : ∀ condition name, (condition, some name) ∈ k.filters →
    condition = .comparison ⟨name, .eq, .int 1⟩ ∧ ∃ column, (column, some name) ∈ k.columns

theorem grown_append {α : Type} {marked : List (α × Option String)} {before : List α}
    (h : marked.map (·.1) = before) (added : List α) (name : Option String) :
    grown marked (before ++ added) name = marked ++ added.map fun entry => (entry, name) := by
  have hlength : marked.length = before.length := by
    rw [← h, List.length_map]
  rw [grown, hlength, List.drop_left]

private theorem map_fst_marked {α : Type} (entries : List α) (name : Option String) :
    (entries.map fun entry => (entry, name)).map (·.1) = entries := by
  rw [List.map_map]
  exact List.map_id _

variable {k : Marks} {q : Query} {drawn : List String}

/-- New queries have no marks. -/
theorem sound_create (statement maxMatches : Value) (drawn : List String) :
    Sound {} (.create statement maxMatches) drawn :=
  ⟨rfl, rfl, fun _ _ h => (nomatch h), .nil, fun _ _ h => (nomatch h)⟩

namespace Sound

/-- The marks of a query are those of every query with its columns and its filters. -/
theorem of_clauses (h : k.Sound q drawn) {q' : Query} (hclauses : q'.clauses = q.clauses) :
    k.Sound q' drawn :=
  ⟨by rw [hclauses]; exact h.columns, by rw [hclauses]; exact h.filters, h.defines, h.nodup,
    h.defined⟩

/-- More aliases may be drawn. -/
theorem of_drawn (h : k.Sound q drawn) (more : List String) : k.Sound q (drawn ++ more) :=
  ⟨h.columns, h.filters,
    fun column name hmem => (h.defines column name hmem).imp_right (List.mem_append_left more),
    h.nodup, h.defined⟩

/-- A change that draws nothing marks nothing. -/
private theorem after_of_plain (h : k.Sound q drawn) {m : Mutation} {aliases : AliasCounter}
    (hdrawn : m.drawn aliases = []) :
    (k.after m q aliases).Sound (m.apply q aliases).query drawn := by
  have hunmarked {α : Type} {entries : List α} {x : α} {name : String} :
      (x, some name) ∉ entries.map fun entry => (entry, (none : Option String)) := by
    simp
  obtain ⟨added, hselect⟩ := m.select_apply q aliases
  have hcolumns : (k.after m q aliases).columns =
      k.columns ++ added.map fun entry => (entry, none) := by
    unfold after
    dsimp only
    rw [hdrawn, hselect, grown_append h.columns]
    rfl
  have hold {column : Value} {name : String}
      (hmem : (column, some name) ∈ (k.after m q aliases).columns) :
      (column, some name) ∈ k.columns := by
    rw [hcolumns] at hmem
    exact (List.mem_append.1 hmem).resolve_right hunmarked
  have hfilters : ((k.after m q aliases).filters.map (·.1) =
        (m.apply q aliases).query.clauses.conditions) ∧
      ∀ condition name, (condition, some name) ∈ (k.after m q aliases).filters →
        (condition, some name) ∈ k.filters := by
    unfold after
    dsimp only
    rw [hdrawn]
    split
    · exact ⟨map_fst_marked _ _, fun condition name hmem => absurd hmem hunmarked⟩
    · rename_i hkeeps
      rcases m.conditions_apply q aliases with ⟨entries, hentries⟩ | ⟨hreplaces, haccepted⟩
      · rw [hentries, grown_append h.filters, List.map_append, map_fst_marked, h.filters]
        exact ⟨rfl, fun condition name hmem =>
          (List.mem_append.1 hmem).resolve_right hunmarked⟩
      · exact absurd (by rw [hreplaces, haccepted]; rfl) hkeeps
  refine ⟨?_, hfilters.1, fun column name hmem => h.defines column name (hold hmem), ?_, ?_⟩
  · rw [hcolumns, hselect, List.map_append, map_fst_marked, h.columns]
  · have hnone : (added.map fun entry => (entry, (none : Option String))).filterMap (·.2) = [] := by
      simp
    rw [hcolumns, List.filterMap_append, hnone, List.append_nil]
    exact h.nodup
  · intro condition name hmem
    obtain ⟨hcondition, column, hcolumn⟩ := h.defined condition name (hfilters.2 _ _ hmem)
    refine ⟨hcondition, column, ?_⟩
    rw [hcolumns]
    exact List.mem_append_left _ hcolumn

/-- Alternatives mark their column and their filter with the alias that they draw. -/
private theorem after_of_alternatives (h : k.Sound q drawn) {components : Value}
    {texts : List String} (htexts : Mutation.alternativesOf components = .ok texts)
    (hsome : texts ≠ []) {aliases : AliasCounter} (haliases : aliases.Whole) {name : String}
    (hname : aliases.draw.1 = .ok name) (hfresh : name ∉ drawn)
    (hdrawn : (Mutation.alternatives components).drawn aliases = [name]) :
    (k.after (.alternatives components) q aliases).Sound
      ((Mutation.alternatives components).apply q aliases).query (drawn ++ [name]) := by
  have happly := Mutation.apply_alternatives htexts hsome q haliases hname
  have hcolumn : Defines (.str (Mutation.disjunction texts ++ " AS " ++ name)) name := ⟨_, rfl⟩
  generalize Value.str (Mutation.disjunction texts ++ " AS " ++ name) = column at *
  have hafter : k.after (.alternatives components) q aliases =
      { columns := k.columns ++ [(column, some name)]
        filters := k.filters ++ [(.comparison ⟨name, .eq, .int 1⟩, some name)] } := by
    have hcolumns : grown k.columns (q.clauses.select ++ [column]) (some name) =
        k.columns ++ [(column, some name)] := grown_append h.columns _ _
    have hfilters : grown k.filters
        (q.clauses.conditions ++ [.comparison ⟨name, .eq, .int 1⟩]) (some name) =
          k.filters ++ [(.comparison ⟨name, .eq, .int 1⟩, some name)] :=
      grown_append h.filters _ _
    rw [← hcolumns, ← hfilters, after, happly, hdrawn]
    rfl
  -- The alias is new, so none of the columns before has it.
  have hnew : name ∉ k.columns.filterMap (·.2) := by
    intro hmem
    obtain ⟨⟨before, mark⟩, hbefore, hmark⟩ := List.mem_filterMap.1 hmem
    obtain rfl : mark = some name := hmark
    exact hfresh (h.defines before name hbefore).2
  rw [hafter, happly]
  refine ⟨?_, ?_, fun other mark hmem => ?_, ?_, fun condition mark hmem => ?_⟩
  · rw [List.map_append, h.columns]
    rfl
  · rw [List.map_append, h.filters]
    rfl
  · rcases List.mem_append.1 hmem with hold | hadded
    · exact (h.defines other mark hold).imp_right (List.mem_append_left _)
    · obtain ⟨rfl, hmark⟩ := Prod.mk.inj (List.mem_singleton.1 hadded)
      obtain rfl := Option.some.inj hmark
      exact ⟨hcolumn, List.mem_append_right _ (List.mem_singleton.2 rfl)⟩
  · have hadded : [(column, some name)].filterMap (·.2) = [name] := rfl
    rw [List.filterMap_append, hadded]
    exact List.Nodup.append h.nodup (List.nodup_singleton name) (List.disjoint_singleton.2 hnew)
  · rcases List.mem_append.1 hmem with hold | hadded
    · obtain ⟨hcondition, other, hother⟩ := h.defined condition mark hold
      exact ⟨hcondition, other, List.mem_append_left _ hother⟩
    · obtain ⟨rfl, hmark⟩ := Prod.mk.inj (List.mem_singleton.1 hadded)
      obtain rfl := Option.some.inj hmark
      exact ⟨rfl, column, List.mem_append_right _ (List.mem_singleton.2 rfl)⟩

/-- A change keeps the marks, and adds those of the alias that it draws. -/
theorem after (h : k.Sound q drawn) (m : Mutation) {aliases : AliasCounter}
    (haliases : aliases.Whole) (hfresh : ∀ name, aliases.draw.1 = .ok name → name ∉ drawn) :
    (k.after m q aliases).Sound (m.apply q aliases).query (drawn ++ m.drawn aliases) := by
  rcases m.drawn_cases aliases with
    hnone | ⟨components, texts, name, rfl, htexts, hsome, hname, hdrawn⟩
  · rw [hnone, List.append_nil]
    exact h.after_of_plain hnone
  · rw [hdrawn]
    exact h.after_of_alternatives htexts hsome haliases hname (hfresh name hname) hdrawn

end Sound

/-- A filter that alternatives have added asks for an alias that exactly one of the columns defines
which alternatives have added. -/
structure Defined (k : Marks) (condition : Condition) (name : String) : Prop where
  condition : condition = .comparison ⟨name, .eq, .int 1⟩
  column : ∃ before column after, k.columns = before ++ (column, some name) :: after ∧
    Defines column name ∧
    ∀ other ∈ before ++ after, other.2.isSome → ¬Defines other.1 name

/-- When all aliases are names of one counter, no column defines the alias of another. -/
theorem Sound.defined_of_labels (h : k.Sound q drawn) {stem : String}
    (hlabels : ∀ name ∈ drawn, ∃ n : Int, AliasCounter.label stem (.whole n) = .ok name)
    {condition : Condition} {name : String} (hmem : (condition, some name) ∈ k.filters) :
    k.Defined condition name := by
  obtain ⟨hcondition, column, hcolumn⟩ := h.defined condition name hmem
  obtain ⟨hdefines, hname⟩ := h.defines column name hcolumn
  obtain ⟨before, after, hsplit⟩ := List.append_of_mem hcolumn
  refine ⟨hcondition, before, column, after, hsplit, hdefines, fun other hother hmarked hsame => ?_⟩
  obtain ⟨other, mark⟩ := other
  obtain ⟨name', rfl⟩ := Option.isSome_iff_exists.1 hmarked
  have hothers : (other, some name') ∈ k.columns := by
    rw [hsplit]
    rcases List.mem_append.1 hother with hbefore | hafter
    · exact List.mem_append_left _ hbefore
    · exact List.mem_append_right _ (List.mem_cons_of_mem _ hafter)
  obtain ⟨hdefines', hname'⟩ := h.defines other name' hothers
  obtain ⟨m, hm⟩ := hlabels name hname
  obtain ⟨n, hn⟩ := hlabels name' hname'
  obtain ⟨-, rfl⟩ := AliasCounter.label_whole_eq_ok_iff.1 hm
  obtain ⟨-, rfl⟩ := AliasCounter.label_whole_eq_ok_iff.1 hn
  obtain rfl := AliasCounter.eq_of_defines hsame hdefines'
  -- The other column would have the same mark, but marks are different.
  have hmarks : k.columns.filterMap (·.2) = before.filterMap (·.2) ++
      (stem ++ toString m) :: after.filterMap (·.2) := by
    rw [hsplit, List.filterMap_append]
    rfl
  have hnodup := h.nodup
  rw [hmarks, List.nodup_middle, ← List.filterMap_append] at hnodup
  exact (List.nodup_cons.1 hnodup).1 (List.mem_filterMap.2 ⟨_, hother, rfl⟩)

end Marks

end SearchClient
