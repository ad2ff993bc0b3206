import SearchClient.Proofs.Numeric
import SearchClient.Proofs.Query.Reachable

/-!
# What a refused change leaves

A change of the filters is checked before it replaces anything. A full-text term, a sort key or a
setting that is to take the place of others is not: the others are dropped first, and when the new
entry is refused their clause stays without entries. A refused change touches nothing else.

Alternatives are never refused for what they select, because the alias that they are selected under
is never empty; so nothing is selected by a change that is refused.

## Key results

- `Mutation.refused_apply`: what is left after a refusal
- `Query.refused_change`: the same of a call, and which changes leave all clauses alone
-/

namespace SearchClient

/-! ### Aliases -/

namespace AliasCounter

/-- The counter counts in whole numbers. -/
def Whole (c : AliasCounter) : Prop := ∃ n, c.next = .whole n

/-- A name from such a counter is not empty, whatever its stem. -/
theorem Whole.draw_ne_empty {c : AliasCounter} (h : c.Whole) {name : String}
    (hname : c.draw.1 = .ok name) : name ≠ "" := by
  obtain ⟨n, hn⟩ := h
  obtain ⟨-, rfl⟩ := label_whole_eq_ok_iff.1 (hn ▸ hname : label c.stem (.whole n) = .ok name)
  intro hempty
  exact Numeric.toString_ne_nil n (by rw [(String.append_eq_empty_iff.1 hempty).2]; rfl)

/-- It gives no name only if the number of the next one cannot be written. -/
theorem Whole.draw_error {c : AliasCounter} (h : c.Whole) {f : Failure}
    (hname : c.draw.1 = .error f) : f = Value.tooLong := by
  obtain ⟨n, hn⟩ := h
  rw [draw, hn, label_whole] at hname
  split at hname
  · exact nomatch hname
  · exact (Except.error.inj hname).symm

end AliasCounter

/-- The filter on an alias is accepted. -/
theorem Comparison.ofArguments_alias {name : String} (h : name ≠ "") :
    ofArguments (.str name) (.keyword (.operator .eq)) (.int 1) = .ok ⟨name, .eq, .int 1⟩ := by
  have hcolumn : Field.nonEmptyText (.str name) = .accept name := by
    have hempty : name.isEmpty = false := by simp [h]
    change (if name.isEmpty then Checked.reject (.tooShort 1) else .accept name) = _
    rw [hempty]
    rfl
  change kind.create [("column", .str name), ("operator", .keyword (.operator .eq)),
    ("value", .int 1)] = _
  unfold RecordKind.create kind
  dsimp only
  unfold Field.required Row.get?
  simp only [List.find?_cons, Option.map_some, beq_self_eq_true, hcolumn]
  rfl

/-! ### Refusals -/

theorem Edit.refused_ofEntry {α : Type} {q : Query} {aliases : AliasCounter}
    {entry : Except Failure α} {put : α → Query} {f : Failure}
    (h : (ofEntry q aliases entry put).refusal = some f) :
    (ofEntry q aliases entry put).query = q := by
  cases entry with
  | ok a => exact nomatch h
  | error f' => rfl

namespace Mutation

/-- Clauses that a change leaves when it is refused. -/
def leftover (m : Mutation) (c : Clauses) : Clauses :=
  match m with
  | fullText p _ _ _ | rawFullText p _ _ => { c with terms := p.kept c.terms }
  | groupOrder p _ _ => { c with groupOrder := p.kept c.groupOrder }
  | order p _ _ => { c with order := p.kept c.order }
  | option p _ _ => { c with options := p.kept c.options }
  | _ => c

/-- Whether a change drops entries before it looks at the one that takes their place. -/
def dropsFirst : Mutation → Bool
  | fullText p _ _ _ | rawFullText p _ _ | groupOrder p _ _ | order p _ _ | option p _ _ =>
    p == .replace
  | _ => false

private theorem kept_of_append {α : Type} {p : Placement} (h : (p == .replace) = false)
    (entries : List α) : p.kept entries = entries := by
  cases p with
  | replace => exact nomatch h
  | append => rfl

/-- Every other change leaves all clauses when it is refused. -/
theorem leftover_eq_self {m : Mutation} (h : m.dropsFirst = false) (c : Clauses) :
    m.leftover c = c := by
  unfold leftover
  cases m with
  | fullText p column text safe =>
    dsimp only
    rw [kept_of_append h]
  | rawFullText p combinator text =>
    dsimp only
    rw [kept_of_append h]
  | groupOrder p column direction =>
    dsimp only
    rw [kept_of_append h]
  | order p column direction =>
    dsimp only
    rw [kept_of_append h]
  | option p name value =>
    dsimp only
    rw [kept_of_append h]
  | _ => rfl

/-- A refused change leaves the statement that a query has of its own, its binding, and all clauses
but those that it dropped entries from. -/
theorem refused_apply {m : Mutation} {q : Query} {aliases : AliasCounter}
    (haliases : aliases.Whole) {f : Failure} (h : (m.apply q aliases).refusal = some f) :
    (m.apply q aliases).query.clauses = m.leftover q.clauses ∧
      (m.apply q aliases).query.raw = q.raw ∧
      (m.apply q aliases).query.binding = q.binding := by
  -- A refused entry leaves what there was before its own step.
  have hentry {α : Type} {kept : Query} {entry : Except Failure α} {put : α → Query}
      (hedit : m.apply q aliases = .ofEntry kept aliases entry put)
      (hkept : kept.clauses = m.leftover q.clauses ∧ kept.raw = q.raw ∧
        kept.binding = q.binding) :
      (m.apply q aliases).query.clauses = m.leftover q.clauses ∧
        (m.apply q aliases).query.raw = q.raw ∧
        (m.apply q aliases).query.binding = q.binding := by
    rw [hedit] at h ⊢
    rw [Edit.refused_ofEntry h]
    exact hkept
  cases m with
  | entities source column =>
    unfold apply applyEntities at h ⊢
    dsimp only at h ⊢
    split at h
    · exact ⟨rfl, rfl, rfl⟩
    · exact nomatch h
  | alternatives components =>
    have hedit := alternated q aliases components
    generalize (alternatives components).apply q aliases = edit at h hedit ⊢
    cases hedit with
    | unread htexts => exact ⟨rfl, rfl, rfl⟩
    | none htexts => exact nomatch h
    | unnamed htexts hsome hname => exact ⟨rfl, rfl, rfl⟩
    | named htexts hsome hname hselected =>
      rw [Comparison.ofArguments_alias (haliases.draw_ne_empty hname)] at h
      exact nomatch h
  | filter p column operator value => exact hentry rfl ⟨rfl, rfl, rfl⟩
  | rawFilter expression => exact hentry rfl ⟨rfl, rfl, rfl⟩
  | fullText p column text safe => exact hentry rfl ⟨rfl, rfl, rfl⟩
  | rawFullText p combinator text => exact hentry rfl ⟨rfl, rfl, rfl⟩
  | groupOrder p column direction => exact hentry rfl ⟨rfl, rfl, rfl⟩
  | having p column operator value => exact hentry rfl ⟨rfl, rfl, rfl⟩
  | order p column direction => exact hentry rfl ⟨rfl, rfl, rfl⟩
  | option p name value => exact hentry rfl ⟨rfl, rfl, rfl⟩
  | _ => exact nomatch h

end Mutation

namespace Query

theorem refusal_of_change {q : Query} {m : Mutation} {w : World} {f : Failure}
    (h : (q.change m w).result = .error f) : (m.apply q w.aliases).refusal = some f := by
  rw [result_change] at h
  split at h
  · exact nomatch h
  · rename_i f' hrefusal
    obtain rfl := Except.error.inj h
    exact hrefusal

/-- A refused call leaves the statement that a query has of its own and its binding. It leaves the
clauses too, except for the one whose entries were to be replaced by a full-text term, a sort key or
a setting: that one is without its entries. -/
theorem refused_change {q : Query} {m : Mutation} {w : World} (hw : w.aliases.Whole) {f : Failure}
    (h : (q.change m w).result = .error f) :
    (q.change m w).query.clauses = m.leftover q.clauses ∧
      (q.change m w).query.raw = q.raw ∧ (q.change m w).query.binding = q.binding ∧
      (m.dropsFirst = false → (q.change m w).query.clauses = q.clauses) := by
  obtain ⟨hclauses, hraw, hbinding⟩ := Mutation.refused_apply hw (refusal_of_change h)
  rw [query_change]
  refine ⟨hclauses, hraw, hbinding, fun hkeeps => ?_⟩
  rw [hclauses, Mutation.leftover_eq_self hkeeps]

/-- A setting without a name is refused, and takes the place of the settings that there were. -/
theorem refused_change_of_setting :
    let c : Collaborators := { connection := { engine := fun _ _ => .answer {} } }
    let q := ((create .null (.int 1000)).calls c {} [
      .change (.option .append (.str "ranker") (.str "bm25")),
      .change (.order .append (.str "title") (.str "desc"))]).1
    let m := Mutation.option .replace (.str "") (.int 1)
    ∃ f,
      (AliasCounter.Whole ({} : World).aliases ∧ (q.change m {}).result = .error f) ∧
      (q.change m {}).query.clauses = m.leftover q.clauses ∧
      (q.change m {}).query.clauses.options = [] := by
  intro c q m
  have hwhole : AliasCounter.Whole ({} : World).aliases := ⟨0, rfl⟩
  have hrefused : ∃ f, (q.change m {}).result = .error f := ⟨_, rfl⟩
  obtain ⟨f, hf⟩ := hrefused
  obtain ⟨hclauses, -⟩ := refused_change hwhole hf
  exact ⟨f, ⟨hwhole, hf⟩, hclauses, congrArg Clauses.options hclauses⟩

/-- Some calls that are refused change the clauses: a sort key without a column costs a query the
keys that it had. -/
theorem refused_change_drops_keys :
    let c : Collaborators := { connection := { engine := fun _ _ => .answer {} } }
    let q := ((create .null (.int 1000)).calls c {} [
      .change (.order .append (.str "title") (.str "desc"))]).1
    let m := Mutation.order .replace (.str "") .null
    q.Reachable ∧ (∃ f, (q.change m {}).result = .error f) ∧
      q.clauses.order = [⟨"title", .desc⟩] ∧ (q.change m {}).query.clauses.order = [] := by
  intro c q m
  have hq : q.Reachable := (Reachable.create .null 1000).calls c {} _
  exact ⟨hq, ⟨_, rfl⟩, rfl, rfl⟩

end Query

end SearchClient
