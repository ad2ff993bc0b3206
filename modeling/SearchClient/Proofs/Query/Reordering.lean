import SearchClient.Proofs.Query.Reachable

/-!
# The order of changes

A query has parts: its selected columns, its indexes, its filters and so on. A change reads and
writes the parts that it is about, and its only mark on the rest of the query is that the query is
dirty. Changes that share no part can therefore trade places, and a run of changes may be put into
any order that keeps those that share a part in theirs.

Aliases belong to the selected columns, because alternatives draw one and select it; so they are
drawn in the same order, and the same names are drawn, in any such run.

## Key results

- `Draft.content_change_of_notMem` and `Draft.content_change_congr`: a change stays in its parts
- `Draft.change_comm`: changes that share no part commute
- `Query.calls_reordered`: the order of changes that share no part does not matter
-/

namespace SearchClient

/-! ### Parts -/

/-- Parts of a query that changes can be about. -/
inductive Part where
  | select
  | indexes
  | filters
  | fullText
  | group
  | groupOrder
  | having
  | order
  | offset
  | limit
  | options
  | statement
  deriving DecidableEq, Repr

namespace Mutation

/-- The parts that a change is about. Alternatives are selected and filtered on. -/
def parts : Mutation → List Part
  | .statement _ => [.statement]
  | entities _ _ | select _ | selectMissing _ => [.select]
  | indexes _ => [.indexes]
  | filter _ _ _ _ | rawFilter _ => [.filters]
  | alternatives _ => [.select, .filters]
  | fullText _ _ _ _ | rawFullText _ _ _ => [.fullText]
  | group _ _ => [.group]
  | groupOrder _ _ _ => [.groupOrder]
  | having _ _ _ _ => [.having]
  | order _ _ _ => [.order]
  | offset _ => [.offset]
  | limit _ => [.limit]
  | option _ _ _ => [.options]

/-- Two changes are about one part. -/
def Meets (m m' : Mutation) : Prop := ∃ p ∈ m.parts, p ∈ m'.parts

theorem Meets.symm {m m' : Mutation} (h : m.Meets m') : m'.Meets m := by
  obtain ⟨p, hp, hp'⟩ := h
  exact ⟨p, hp', hp⟩

/-- Whether a change asks for a name: it has alternatives, and they can be written. -/
def draws : Mutation → Bool
  | alternatives components =>
    match alternativesOf components with
    | .ok texts => !texts.isEmpty
    | .error _ => false
  | _ => false

/-- The name that a change draws, if it asks for one and is given one. -/
def drawn (m : Mutation) (aliases : AliasCounter) : List String :=
  if m.draws then aliases.draw.1.toOption.toList else []

/-- Whether a change leaves a query as it is: there is nothing to select, or no name to select it
under. -/
def isIdle (m : Mutation) (q : Query) (aliases : AliasCounter) : Bool :=
  match m with
  | selectMissing column => q.selects column
  | alternatives _ => (m.drawn aliases).isEmpty
  | _ => false

theorem draws_of_alternatives {components : Value} {texts : List String}
    (h : alternativesOf components = .ok texts) :
    (alternatives components).draws = !texts.isEmpty := by
  simp only [draws, h]

/-- Only alternatives ask for a name. -/
theorem alternatives_of_draws {m : Mutation} (h : m.draws = true) :
    ∃ components texts, m = .alternatives components ∧ alternativesOf components = .ok texts ∧
      texts ≠ [] := by
  unfold draws at h
  split at h
  · rename_i components
    split at h
    · rename_i texts htexts
      exact ⟨components, texts, rfl, htexts, by simpa using h⟩
    · exact nomatch h
  · exact nomatch h

/-- A change that asks for a name leaves the counter behind it, even if there is none to be given;
any other leaves the counter. -/
theorem aliases_apply (m : Mutation) (q : Query) (aliases : AliasCounter) :
    (m.apply q aliases).aliases = if m.draws then aliases.draw.2 else aliases := by
  have hentry {α : Type} (kept : Query) (aliases : AliasCounter) (entry : Except Failure α)
      (put : α → Query) : (Edit.ofEntry kept aliases entry put).aliases = aliases := by
    cases entry <;> rfl
  cases m with
  | entities source column =>
    change (applyEntities q.dirtied aliases source column).aliases = _
    unfold applyEntities
    dsimp only
    split <;> rfl
  | alternatives components =>
    have hedit := alternated q aliases components
    generalize (alternatives components).apply q aliases = edit at hedit ⊢
    cases hedit with
    | unread htexts => simp [draws, htexts, Edit.refused]
    | none htexts => simp [draws, htexts, Edit.done]
    | unnamed htexts hsome hname => simp [draws, htexts, hsome, Edit.refused]
    | named htexts hsome hname hselected => simp [draws, htexts, hsome, hentry]
  | filter p column operator value => exact hentry _ _ _ _
  | rawFilter expression => exact hentry _ _ _ _
  | fullText p column text safe => exact hentry _ _ _ _
  | rawFullText p combinator text => exact hentry _ _ _ _
  | groupOrder p column direction => exact hentry _ _ _ _
  | having p column operator value => exact hentry _ _ _ _
  | order p column direction => exact hentry _ _ _ _
  | option p name value => exact hentry _ _ _ _
  | _ => rfl

end Mutation

/-! ### Drafts -/

attribute [ext] Clauses Query

/-- A query that is being changed, the aliases to draw from, and those that were drawn. -/
@[ext] structure Draft where
  query : Query
  aliases : AliasCounter
  drawn : List String := []

namespace Draft

/-- Makes a change; if it is refused, what it leaves. -/
def change (d : Draft) (m : Mutation) : Draft where
  query := (m.apply d.query d.aliases).query
  aliases := (m.apply d.query d.aliases).aliases
  drawn := d.drawn ++ m.drawn d.aliases

/-- Makes changes in order. -/
def changes (d : Draft) (made : List Mutation) : Draft := made.foldl change d

theorem changes_cons (d : Draft) (m : Mutation) (rest : List Mutation) :
    d.changes (m :: rest) = (d.change m).changes rest := rfl

end Draft

/-- What a part consists of. -/
def Part.Content : Part → Type
  | select => List Value × Option EntityBinding × AliasCounter × List String
  | indexes => List Value
  | filters => List Condition
  | fullText => List MatchTerm × List RawMatchTerm
  | group => List Value
  | groupOrder => List OrderTerm
  | having => List Condition
  | order => List OrderTerm
  | offset => Value
  | limit => Value
  | options => List OptionEntry
  | statement => Option Value

namespace Draft

/-- A part of a draft. -/
def content (d : Draft) : (p : Part) → p.Content
  | .select => (d.query.clauses.select, d.query.binding, d.aliases, d.drawn)
  | .indexes => d.query.clauses.indexes
  | .filters => d.query.clauses.conditions
  | .fullText => (d.query.clauses.terms, d.query.clauses.rawTerms)
  | .group => d.query.clauses.groupBy
  | .groupOrder => d.query.clauses.groupOrder
  | .having => d.query.clauses.having
  | .order => d.query.clauses.order
  | .offset => d.query.clauses.offset
  | .limit => d.query.clauses.limit
  | .options => d.query.clauses.options
  | .statement => d.query.raw

end Draft

/-- What is left of a query without its parts. -/
def Query.bare (q : Query) : Query := { q with clauses := {}, raw := none, binding := none }

/-- Drafts are the same if their parts and the rest of their queries are. -/
theorem Draft.ext_content {d d' : Draft} (hparts : ∀ p, d.content p = d'.content p)
    (hbare : d.query.bare = d'.query.bare) : d = d' := by
  have hselected : (d.query.clauses.select, d.query.binding, d.aliases, d.drawn) =
      (d'.query.clauses.select, d'.query.binding, d'.aliases, d'.drawn) := hparts .select
  have hsearched : (d.query.clauses.terms, d.query.clauses.rawTerms) =
      (d'.query.clauses.terms, d'.query.clauses.rawTerms) := hparts .fullText
  have hrest {α : Type} (field : Query → α) : field d.query.bare = field d'.query.bare :=
    congrArg field hbare
  simp only [Prod.mk.injEq] at hselected hsearched
  obtain ⟨hselect, hbinding, haliases, hdrawn⟩ := hselected
  have hclauses : d.query.clauses = d'.query.clauses :=
    Clauses.ext hselect (hparts .indexes) (hparts .filters) hsearched.1 hsearched.2
      (hparts .group) (hparts .groupOrder) (hparts .having) (hparts .order) (hparts .offset)
      (hparts .limit) (hparts .options)
  have hquery : d.query = d'.query :=
    Query.ext (hrest Query.state) (hparts .statement) (hrest Query.compiled) hbinding hclauses
      (hrest Query.results) (hrest Query.rowCount) (hrest Query.metadata) (hrest Query.lastError)
      (hrest Query.maxMatches)
  exact Draft.ext hquery haliases hdrawn

/-! ### Writing a part -/

namespace Draft

/-- Changes the clauses of a draft. -/
def update (d : Draft) (f : Clauses → Clauses) : Draft := { d with query := d.query.update f }

/-- Puts another content in the place of a part's own. -/
def put (d : Draft) : (p : Part) → p.Content → Draft
  | .select, (columns, binding, aliases, drawn) =>
    { query := { d.query.update (fun c => { c with select := columns }) with binding }
      aliases, drawn }
  | .indexes, names => d.update fun c => { c with indexes := names }
  | .filters, entries => d.update fun c => { c with conditions := entries }
  | .fullText, (terms, rawTerms) => d.update fun c => { c with terms, rawTerms }
  | .group, columns => d.update fun c => { c with groupBy := columns }
  | .groupOrder, keys => d.update fun c => { c with groupOrder := keys }
  | .having, entries => d.update fun c => { c with having := entries }
  | .order, keys => d.update fun c => { c with order := keys }
  | .offset, first => d.update fun c => { c with offset := first }
  | .limit, count => d.update fun c => { c with limit := count }
  | .options, entries => d.update fun c => { c with options := entries }
  | .statement, raw => { d with query := { d.query with raw } }

/-- The query is dirty after a change, unless the change was idle. -/
def marked (d : Draft) (idle : Bool) : Draft :=
  if idle then d else { d with query := d.query.dirtied }

@[simp] theorem content_put_self (d : Draft) (p : Part) (v : p.Content) :
    (d.put p v).content p = v := by
  cases p <;> rfl

theorem content_put_of_ne (d : Draft) {p p' : Part} (v : p.Content) (h : p' ≠ p) :
    (d.put p v).content p' = d.content p' := by
  cases p <;> cases p' <;> first | rfl | exact absurd rfl h

@[simp] theorem bare_put (d : Draft) (p : Part) (v : p.Content) :
    (d.put p v).query.bare = d.query.bare := by
  cases p <;> rfl

@[simp] theorem content_marked (d : Draft) (idle : Bool) (p : Part) :
    (d.marked idle).content p = d.content p := by
  cases idle <;> cases p <;> rfl

theorem bare_marked (d : Draft) (idle : Bool) :
    (d.marked idle).query.bare = if idle then d.query.bare else d.query.dirtied.bare := by
  cases idle <;> rfl

end Draft

/-! ### One change -/

namespace Draft

/-- What a change writes: one part, or the selected columns and the filters. What it writes depends
on nothing but what these parts were before. -/
inductive Writes (m : Mutation) : Prop where
  | one (p : Part) (f : p.Content → p.Content) (hparts : m.parts = [p])
      (hchange : ∀ d : Draft,
        d.change m = (d.put p (f (d.content p))).marked (m.isIdle d.query d.aliases))
  | two (f : Part.select.Content → Part.select.Content)
      (g : Part.select.Content → Part.filters.Content → Part.filters.Content)
      (hparts : m.parts = [.select, .filters])
      (hchange : ∀ d : Draft,
        d.change m =
          ((d.put .select (f (d.content .select))).put .filters
            (g (d.content .select) (d.content .filters))).marked (m.isIdle d.query d.aliases))

/-- A change that draws nothing changes the query only. -/
private theorem change_eq_of_draws (d : Draft) {m : Mutation} {edit : Edit}
    (hedit : m.apply d.query d.aliases = edit) (hdraws : m.draws = false) :
    d.change m = { d with query := edit.query } := by
  subst hedit
  have hdrawn : m.drawn d.aliases = [] := if_neg (by simp [hdraws])
  rw [change, m.aliases_apply, hdraws, hdrawn, List.append_nil]
  rfl

/-- Parts other than the selected columns are parts of the query alone. -/
private theorem put_eq_of_ne (d : Draft) {p : Part} (hp : p ≠ .select) (v : p.Content) :
    d.put p v = { d with query := (d.put p v).query } := by
  cases p with
  | select => exact absurd rfl hp
  | _ => rfl

section

variable {m : Mutation}

/-- A change of one part that is always accepted. -/
private theorem Writes.of_done (p : Part) (hp : p ≠ .select) (f : p.Content → p.Content)
    (hparts : m.parts = [p])
    (hplain : m.draws = false ∧ ∀ q aliases, m.isIdle q aliases = false)
    (happly : ∀ d : Draft,
      m.apply d.query d.aliases = .done (d.put p (f (d.content p))).query.dirtied d.aliases) :
    Writes m := by
  refine .one p f hparts fun d => ?_
  rw [hplain.2, change_eq_of_draws d (happly d) hplain.1, put_eq_of_ne d hp]
  rfl

/-- A change of one part by an entry. The entry does not depend on the draft, and what is written
without it does not either. -/
private theorem Writes.of_entry (p : Part) (hp : p ≠ .select) {α : Type} (entry : Except Failure α)
    (kept : p.Content → p.Content) (put : α → p.Content → p.Content) (hparts : m.parts = [p])
    (hplain : m.draws = false ∧ ∀ q aliases, m.isIdle q aliases = false)
    (happly : ∀ d : Draft,
      m.apply d.query d.aliases =
        .ofEntry (d.put p (kept (d.content p))).query.dirtied d.aliases entry fun a =>
          (d.put p (put a (d.content p))).query.dirtied) : Writes m := by
  cases entry with
  | ok a => exact .of_done p hp (put a) hparts hplain happly
  | error failure =>
    refine .one p kept hparts fun d => ?_
    rw [hplain.2, change_eq_of_draws d (happly d) hplain.1, put_eq_of_ne d hp]
    rfl

/-- A change of the selected columns and of the binding that draws nothing. -/
private theorem Writes.of_select
    (f : List Value → Option EntityBinding → List Value × Option EntityBinding)
    (hparts : m.parts = [.select]) (hdraws : m.draws = false)
    (hquery : ∀ d : Draft,
      (m.apply d.query d.aliases).query =
        ((d.put .select
          ((f d.query.clauses.select d.query.binding).1,
            (f d.query.clauses.select d.query.binding).2, d.aliases, d.drawn)).marked
          (m.isIdle d.query d.aliases)).query) :
    Writes m := by
  refine .one .select (fun (columns, binding, aliases, drawn) =>
    ((f columns binding).1, (f columns binding).2, aliases, drawn)) hparts fun d => ?_
  rw [change_eq_of_draws d rfl hdraws, hquery]
  cases m.isIdle d.query d.aliases <;> rfl

end

private theorem writes_entities (source : EntityQuery) (column : Value) :
    Writes (.entities source column) := by
  cases hcopy : source.copyFailure with
  | some failure =>
    refine .of_select (fun columns binding => (columns, binding)) rfl rfl fun d => ?_
    change (Mutation.applyEntities d.query.dirtied d.aliases source column).query = _
    unfold Mutation.applyEntities
    rw [hcopy]
    rfl
  | none =>
    refine .of_select (fun columns _ =>
      (if column.isAmong columns || Value.isAmong (.str "*") columns then columns
        else columns ++ [column], some { source, column })) rfl rfl fun d => ?_
    change (Mutation.applyEntities d.query.dirtied d.aliases source column).query = _
    unfold Mutation.applyEntities Query.bind
    rw [hcopy]
    by_cases hselected : (column.isAmong d.query.clauses.select ||
      Value.isAmong (.str "*") d.query.clauses.select) = true
    · rw [if_pos hselected]
      exact if_pos hselected
    · rw [if_neg hselected]
      exact if_neg hselected

/-- The next alias is used up by alternatives, and selected if it can be written. -/
private def selectAlternative (texts : List String) :
    Part.select.Content → Part.select.Content
  | (columns, binding, aliases, drawn) =>
    match aliases.draw.1 with
    | .ok name =>
      (columns ++ [.str (Mutation.disjunction texts ++ " AS " ++ name)], binding,
        aliases.draw.2, drawn ++ [name])
    | .error _ => (columns, binding, aliases.draw.2, drawn)

/-- The filter on the next alias, if there is one and it is not refused. -/
private def filterAlternative : Part.select.Content → List Condition → List Condition
  | (_, _, aliases, _), entries =>
    match aliases.draw.1 with
    | .ok name =>
      match Comparison.ofArguments (.str name) (.keyword (.operator .eq)) (.int 1) with
      | .ok c => entries ++ [.comparison c]
      | .error _ => entries
    | .error _ => entries

/-- Alternatives write their alias and their filter; the filter is on the alias that is drawn. -/
private theorem writes_alternatives (components : Value) : Writes (.alternatives components) := by
  -- Nothing is drawn if there is nothing to select.
  have hnone (h : (Mutation.alternatives components).draws = false)
      (hquery : ∀ q aliases, ((Mutation.alternatives components).apply q aliases).query = q) :
      Writes (.alternatives components) := by
    refine .two id (fun _ => id) rfl fun d => ?_
    have hidle : (Mutation.alternatives components).isIdle d.query d.aliases = true := by
      rw [Mutation.isIdle, Mutation.drawn, if_neg (by simp [h])]
      rfl
    rw [change_eq_of_draws d rfl h, hquery, hidle]
    rfl
  cases htexts : Mutation.alternativesOf components with
  | error f =>
    refine hnone (by rw [Mutation.draws, htexts]) fun q aliases => ?_
    rw [Mutation.apply_of_unread q htexts]
    rfl
  | ok texts =>
    by_cases hempty : texts = []
    · subst hempty
      refine hnone (by rw [Mutation.draws, htexts]; rfl) fun q aliases => ?_
      rw [Mutation.apply_of_none q htexts]
      rfl
    refine .two (selectAlternative texts) filterAlternative rfl fun d => ?_
    have hdraws : (Mutation.alternatives components).draws = true := by
      simp [Mutation.draws_of_alternatives htexts, hempty]
    have hdrawn : (Mutation.alternatives components).drawn d.aliases =
        d.aliases.draw.1.toOption.toList := if_pos hdraws
    unfold change content Mutation.isIdle selectAlternative filterAlternative
    dsimp only
    rw [Mutation.aliases_apply, hdraws, hdrawn]
    cases hname : d.aliases.draw.1 with
    | error f =>
      rw [Mutation.apply_of_unnamed d.query htexts hempty hname]
      simp only [Except.toOption, Option.toList_none, List.append_nil]
      rfl
    | ok name =>
      rw [Mutation.apply_of_named d.query htexts hempty hname]
      dsimp only
      cases Comparison.ofArguments (.str name) (.keyword (.operator .eq)) (.int 1) with
      | ok c => rfl
      | error failure => rfl

/-- Every change writes as its parts say. -/
theorem writes (m : Mutation) : Writes m := by
  cases m with
  | statement s =>
    exact .of_done .statement (by decide) (fun _ => if s.isNull then none else some s) rfl
      ⟨rfl, fun _ _ => rfl⟩ fun _ => rfl
  | entities source column => exact writes_entities source column
  | select columns =>
    exact .of_select (fun before binding =>
      (before ++ if columns.isEmpty then [.str "*"] else columns, binding)) rfl rfl
      fun _ => rfl
  | selectMissing column =>
    refine .of_select (fun before binding =>
      (if column.isAmong before then before else before ++ [column], binding)) rfl rfl fun d => ?_
    unfold Mutation.apply Mutation.isIdle Query.selects
    dsimp only
    cases column.isAmong d.query.clauses.select <;> rfl
  | indexes names =>
    exact .of_done .indexes (by decide) (fun before : List Value => before ++ names) rfl
      ⟨rfl, fun _ _ => rfl⟩ fun _ => rfl
  | filter p column operator value =>
    exact .of_entry .filters (by decide) (Comparison.ofArguments column operator value) id
      (fun c entries => p.put entries (.comparison c)) rfl ⟨rfl, fun _ _ => rfl⟩ fun _ => rfl
  | rawFilter expression =>
    exact .of_entry .filters (by decide) (Condition.rawKind.create [("expression", expression)]) id
      (fun e (entries : List Condition) => entries ++ [.raw e]) rfl ⟨rfl, fun _ _ => rfl⟩
      fun _ => rfl
  | alternatives components => exact writes_alternatives components
  | fullText p column text safe =>
    exact .of_entry .fullText (by decide) (Mutation.term column text safe)
      (fun (terms, rawTerms) => (p.kept terms, rawTerms))
      (fun t (terms, rawTerms) => (p.kept terms ++ [t], rawTerms)) rfl ⟨rfl, fun _ _ => rfl⟩
      fun _ => rfl
  | rawFullText p combinator text =>
    exact .of_entry .fullText (by decide) (Mutation.rawTerm combinator text)
      (fun (terms, rawTerms) => (p.kept terms, rawTerms))
      (fun t (terms, rawTerms) => (p.kept terms, rawTerms ++ [t])) rfl ⟨rfl, fun _ _ => rfl⟩
      fun _ => rfl
  | group p column =>
    exact .of_done .group (by decide) (fun columns : List Value => p.put columns column) rfl
      ⟨rfl, fun _ _ => rfl⟩ fun _ => rfl
  | groupOrder p column direction =>
    exact .of_entry .groupOrder (by decide) (Mutation.sortKey column direction) p.kept
      (fun t keys => p.kept keys ++ [t]) rfl ⟨rfl, fun _ _ => rfl⟩ fun _ => rfl
  | having p column operator value =>
    exact .of_entry .having (by decide) (Comparison.ofArguments column operator value) id
      (fun c entries => p.put entries (.comparison c)) rfl ⟨rfl, fun _ _ => rfl⟩ fun _ => rfl
  | order p column direction =>
    exact .of_entry .order (by decide) (Mutation.sortKey column direction) p.kept
      (fun t keys => p.kept keys ++ [t]) rfl ⟨rfl, fun _ _ => rfl⟩ fun _ => rfl
  | offset first =>
    exact .of_done .offset (by decide) (fun _ => first) rfl ⟨rfl, fun _ _ => rfl⟩ fun _ => rfl
  | limit count =>
    exact .of_done .limit (by decide) (fun _ => count) rfl ⟨rfl, fun _ _ => rfl⟩ fun _ => rfl
  | option p name value =>
    exact .of_entry .options (by decide) (Mutation.setting name value) p.kept
      (fun t entries => p.kept entries ++ [t]) rfl ⟨rfl, fun _ _ => rfl⟩ fun _ => rfl

variable {m m' : Mutation} {d d' : Draft}

/-- Whether there is nothing to select depends on what is selected, and on the names to draw. -/
theorem isIdle_congr (h : ∀ p ∈ m.parts, d.content p = d'.content p) :
    m.isIdle d.query d.aliases = m.isIdle d'.query d'.aliases := by
  have hselected (hselect : .select ∈ m.parts) :
      d.query.clauses.select = d'.query.clauses.select ∧ d.aliases = d'.aliases := by
    have hsame : (d.query.clauses.select, d.query.binding, d.aliases, d.drawn) =
        (d'.query.clauses.select, d'.query.binding, d'.aliases, d'.drawn) := h .select hselect
    simp only [Prod.mk.injEq] at hsame
    exact ⟨hsame.1, hsame.2.2.1⟩
  cases m with
  | selectMissing column =>
    unfold Mutation.isIdle Query.selects
    rw [(hselected List.mem_cons_self).1]
  | alternatives components =>
    unfold Mutation.isIdle
    rw [(hselected List.mem_cons_self).2]
  | _ => rfl

/-- A change leaves the parts that it is not about. -/
theorem content_change_of_notMem (d : Draft) {p : Part} (hp : p ∉ m.parts) :
    (d.change m).content p = d.content p := by
  cases writes m with
  | one written f hparts hchange =>
    rw [hparts, List.mem_singleton] at hp
    rw [hchange, content_marked, content_put_of_ne d _ hp]
  | two f g hparts hchange =>
    simp only [hparts, List.mem_cons, List.not_mem_nil, or_false, not_or] at hp
    rw [hchange, content_marked, content_put_of_ne _ _ hp.2, content_put_of_ne _ _ hp.1]

/-- What a change makes of the parts that it is about depends on these parts only. -/
theorem content_change_congr (h : ∀ p ∈ m.parts, d.content p = d'.content p) {p : Part}
    (hp : p ∈ m.parts) : (d.change m).content p = (d'.change m).content p := by
  cases writes m with
  | one written f hparts hchange =>
    rw [hparts, List.mem_singleton] at hp
    have hbefore : d.content written = d'.content written := h written (by simp [hparts])
    subst hp
    rw [hchange, hchange, content_marked, content_marked, content_put_self, content_put_self,
      hbefore]
  | two f g hparts hchange =>
    have hselect : d.content .select = d'.content .select := h .select (by simp [hparts])
    have hfilters : d.content .filters = d'.content .filters := h .filters (by simp [hparts])
    have hunder (d : Draft) (v : Part.select.Content) (v' : Part.filters.Content) :
        ((d.put .select v).put .filters v').content .select = v :=
      (content_put_of_ne _ _ (by decide)).trans (content_put_self _ _ _)
    rw [hchange, hchange, content_marked, content_marked]
    rw [hparts, List.mem_cons, List.mem_singleton] at hp
    rcases hp with rfl | rfl
    · rw [hunder, hunder, hselect]
    · rw [content_put_self, content_put_self, hselect, hfilters]

/-- The mark of a change on the rest of the query is that the query is dirty. -/
theorem bare_change (d : Draft) (m : Mutation) :
    (d.change m).query.bare =
      if m.isIdle d.query d.aliases then d.query.bare else d.query.dirtied.bare := by
  have hdirty (d : Draft) (p : Part) (v : p.Content) :
      (d.put p v).query.dirtied.bare = d.query.dirtied.bare := by
    cases p <;> rfl
  cases writes m with
  | one written f hparts hchange => rw [hchange, bare_marked, bare_put, hdirty]
  | two f g hparts hchange => rw [hchange, bare_marked, bare_put, bare_put, hdirty, hdirty]

/-- Changes that share no part commute. -/
theorem change_comm (d : Draft) (h : ¬m.Meets m') :
    (d.change m).change m' = (d.change m').change m := by
  have hnot {p : Part} (hp : p ∈ m.parts) : p ∉ m'.parts := fun hp' => h ⟨p, hp, hp'⟩
  have hnot' {p : Part} (hp' : p ∈ m'.parts) : p ∉ m.parts := fun hp => h ⟨p, hp, hp'⟩
  -- Either change finds its parts as if the other had not been made.
  have hfinds : ∀ p ∈ m.parts, (d.change m').content p = d.content p := fun p hp =>
    content_change_of_notMem d (hnot hp)
  have hfinds' : ∀ p ∈ m'.parts, (d.change m).content p = d.content p := fun p hp' =>
    content_change_of_notMem d (hnot' hp')
  refine ext_content (fun p => ?_) ?_
  · by_cases hp : p ∈ m.parts
    · rw [content_change_of_notMem _ (hnot hp), content_change_congr hfinds hp]
    · rw [content_change_of_notMem (d.change m') hp]
      by_cases hp' : p ∈ m'.parts
      · exact content_change_congr hfinds' hp'
      · rw [content_change_of_notMem _ hp', content_change_of_notMem _ hp,
          content_change_of_notMem _ hp']
  · have hdirty (d : Draft) (m : Mutation) :
        (d.change m).query.dirtied.bare = d.query.dirtied.bare := by
      change (d.change m).query.bare.dirtied = d.query.bare.dirtied
      rw [bare_change]
      split <;> rfl
    rw [bare_change, bare_change (d.change m'), isIdle_congr hfinds, isIdle_congr hfinds', hdirty,
      hdirty, bare_change, bare_change]
    cases m.isIdle d.query d.aliases <;> cases m'.isIdle d.query d.aliases <;> rfl

/-! ### Runs of changes -/

/-- A change that shares no part with those before it may be made first. -/
theorem changes_append_cons {before : List Mutation} (h : ∀ m' ∈ before, ¬m'.Meets m) (d : Draft)
    (after : List Mutation) :
    d.changes (before ++ m :: after) = (d.change m).changes (before ++ after) := by
  induction before generalizing d with
  | nil => rfl
  | cons first rest ih =>
    obtain ⟨hfirst, hrest⟩ := List.forall_mem_cons.1 h
    rw [List.cons_append, List.cons_append, changes_cons, changes_cons, ih hrest,
      change_comm d hfirst]

end Draft

/-- A run of changes in another order that keeps those that share a part in theirs. Each change goes
with its place in the first run. -/
def Reordering (made later : List Mutation) : Prop :=
  ∃ places : List (Mutation × Nat), places.Perm made.zipIdx ∧ later = places.map (·.1) ∧
    places.Pairwise fun a b => a.1.Meets b.1 → a.2 < b.2

/-- Changes in two orders, the first by places. -/
private theorem Draft.changes_eq_of_perm {places sorted : List (Mutation × Nat)}
    (hperm : places.Perm sorted) (hsorted : sorted.Pairwise fun a b => a.2 < b.2)
    (hkept : places.Pairwise fun a b => a.1.Meets b.1 → a.2 < b.2) (d : Draft) :
    d.changes (places.map (·.1)) = d.changes (sorted.map (·.1)) := by
  induction places generalizing sorted d with
  | nil =>
    obtain rfl := hperm.nil_eq
    rfl
  | cons first rest ih =>
    -- Whatever is to be made before the first change of the new order shares no part with it.
    obtain ⟨before, after, rfl⟩ := List.append_of_mem (hperm.mem_iff.1 List.mem_cons_self)
    obtain ⟨hfirst, hrest⟩ := List.pairwise_cons.1 hkept
    have hless : ∀ m ∈ before, m.2 < first.2 := fun m hm =>
      (List.pairwise_append.1 hsorted).2.2 m hm first List.mem_cons_self
    have hremaining : rest.Perm (before ++ after) :=
      List.perm_cons first |>.1 (hperm.trans List.perm_middle)
    have hfree : ∀ m ∈ before.map (·.1), ¬m.Meets first.1 := by
      intro m hm hmeets
      obtain ⟨a, ha, rfl⟩ := List.mem_map.1 hm
      have hlater : a ∈ rest := hremaining.mem_iff.2 (List.mem_append_left _ ha)
      have hgreater := hfirst a hlater hmeets.symm
      have hearlier := hless a ha
      omega
    have hstill : (before ++ after).Pairwise fun a b => a.2 < b.2 :=
      hsorted.sublist ((List.sublist_cons_self first after).append_left before)
    calc d.changes ((first :: rest).map (·.1))
        = (d.change first.1).changes (rest.map (·.1)) := rfl
      _ = (d.change first.1).changes ((before ++ after).map (·.1)) := ih hremaining hstill hrest _
      _ = d.changes (before.map (·.1) ++ first.1 :: after.map (·.1)) := by
        rw [changes_append_cons hfree, List.map_append]
      _ = d.changes ((before ++ first :: after).map (·.1)) := by rw [List.map_append, List.map_cons]

/-- Changes in two orders lead to the same draft. -/
theorem Draft.changes_reordering {made later : List Mutation} (h : Reordering made later)
    (d : Draft) : d.changes later = d.changes made := by
  obtain ⟨places, hperm, rfl, hkept⟩ := h
  have hsorted : made.zipIdx.Pairwise fun a b => a.2 < b.2 := by
    rw [← List.pairwise_map, List.zipIdx_map_snd]
    exact List.pairwise_lt_range'
  rw [changes_eq_of_perm hperm hsorted hkept, List.zipIdx_map_fst]

namespace Query

/-- The names that a run of changes draws. -/
def drawn (c : Collaborators) : Query → World → List Mutation → List String
  | _, _, [] => []
  | q, w, m :: rest => m.drawn w.aliases ++ drawn c (q.change m w).query (q.change m w).world rest

/-- A change draws what it draws from the counter of the world. -/
theorem aliases_change (q : Query) (m : Mutation) (w : World) :
    (q.change m w).world.aliases = (m.apply q w.aliases).aliases := by
  unfold change
  dsimp only
  split <;> rfl

/-- Calls that change a query do to it and to the aliases what the changes do to a draft. -/
private theorem calls_change (c : Collaborators) (q : Query) (w : World) (made : List Mutation)
    (before : List String) :
    Draft.changes ⟨q, w.aliases, before⟩ made =
      ⟨(q.calls c w (made.map .change)).1, (q.calls c w (made.map .change)).2.aliases,
        before ++ q.drawn c w made⟩ := by
  -- A draft knows of the world only its aliases, which is all that a change reads of it.
  induction made generalizing q w before with
  | nil => simp [Draft.changes, calls, drawn]
  | cons m rest ih =>
    have hfirst : Draft.change ⟨q, w.aliases, before⟩ m =
        ⟨(q.change m w).query, (q.change m w).world.aliases, before ++ m.drawn w.aliases⟩ := by
      rw [query_change, aliases_change]
      rfl
    rw [Draft.changes_cons, hfirst, ih, drawn, List.append_assoc]
    rfl

/-- Changes may be made in any order that keeps those that share a part in theirs: the query is the
same afterwards, its statement is the same or fails in the same way, and the same aliases are drawn.
This is so for any query, and whether or not some of the changes are refused. -/
theorem calls_reordered {made later : List Mutation} (h : Reordering made later)
    (c : Collaborators) (q : Query) (w : World) :
    (q.calls c w (later.map .change)).1 = (q.calls c w (made.map .change)).1 ∧
      (q.calls c w (later.map .change)).2.aliases = (q.calls c w (made.map .change)).2.aliases ∧
      q.drawn c w later = q.drawn c w made ∧
      (q.calls c w (later.map .change)).1.statement.1 =
        (q.calls c w (made.map .change)).1.statement.1 := by
  have hsame := Draft.changes_reordering h ⟨q, w.aliases, []⟩
  rw [calls_change c, calls_change c] at hsame
  obtain ⟨hquery, haliases, hdrawn⟩ := (Draft.mk.injEq ..).mp hsame
  exact ⟨hquery, haliases, hdrawn, by rw [hquery]⟩

/-- Alternatives that are selected before or after a limit and a sort key are set, with the filters
in their order. -/
theorem calls_reordered_of_five :
    let c : Collaborators := { connection := { engine := fun _ _ => .answer {} } }
    let select := Mutation.select [.str "id"]
    let indexes := Mutation.indexes [.str "rt"]
    let key := Mutation.order .replace (.str "title") (.str "desc")
    let either := Mutation.alternatives (.list [.str "a = 1", .str "b = 2"])
    let filter := Mutation.filter .append (.str "n") (.int 3) .unset
    let made := [select, indexes, key, either, filter]
    let later := [key, select, either, filter, indexes]
    Reordering made later ∧
      (((create .null (.int 1000)).calls c {} (later.map .change)).1.statement.1.toOption.map
        Value.text) =
        some ("SELECT id, ((a = 1) OR (b = 2)) AS orX0 FROM rt WHERE orX0 = 1 AND n = 3 " ++
          "ORDER BY title DESC LIMIT 0, 20") := by
  intro c select indexes key either filter made later
  have hreordering : Reordering made later := by
    let place (i : Nat) : Mutation × Nat := (made.getD i select, i)
    refine ⟨[2, 0, 3, 4, 1].map place, ?_, rfl, ?_⟩
    · have hperm : [2, 0, 3, 4, 1].Perm [0, 1, 2, 3, 4] := by decide
      exact hperm.map place
    · simp [place, made, select, indexes, key, either, filter, Mutation.Meets, Mutation.parts]
  obtain ⟨-, -, -, hstatement⟩ := calls_reordered hreordering c (create .null (.int 1000)) {}
  refine ⟨hreordering, ?_⟩
  rw [hstatement]
  decide +kernel

end Query

end SearchClient
