import Mathlib.Data.List.Basic
import Mathlib.Data.List.Induction
import SearchClient.Statement.Result

/-!
# Rows folded into named values

A row of two columns or more names its second value by the text of its first. Columns of different
kinds may have the same text, so several rows may give a value to one name: the last of them does,
and the name stands where the first of them has put it. A row of fewer columns names nothing.

## Key results

- `Row.map_fst_ofEntries`: names stand in the order in which they occur first
- `StatementResult.get?_keyPairs`: the last row of a name gives its value
- `StatementResult.keyPairs_eq_nil_iff`: which rows fold to nothing
-/

namespace SearchClient

namespace Row

/-- A row of two columns or more names its second value by the text of its first. -/
def Names (row : Row) (name : String) (v : Value) : Prop :=
  ∃ c₁ first c₂ rest, row = (c₁, first) :: (c₂, v) :: rest ∧ first.text = name

theorem names_iff {row : Row} {name : String} {v : Value} :
    row.Names name v ↔ StatementResult.pair? row = some (name, v) := by
  constructor
  · rintro ⟨c₁, first, c₂, rest, rfl, rfl⟩
    rfl
  · intro h
    unfold StatementResult.pair? at h
    split at h
    · rename_i c₁ first c₂ second rest
      obtain ⟨rfl, rfl⟩ := Prod.mk.inj (Option.some.inj h)
      exact ⟨c₁, first, c₂, rest, rfl, rfl⟩
    · exact nomatch h

theorem pair?_eq_none_iff {row : Row} : StatementResult.pair? row = none ↔ row.length < 2 := by
  unfold StatementResult.pair?
  split
  · simp
  · rename_i hnot
    match row, hnot with
    | [], _ => simp
    | [_], _ => simp
    | (c₁, first) :: (c₂, second) :: rest, hnot => exact absurd rfl (hnot c₁ first c₂ second rest)

/-- A name that is written keeps its place, or gets the last one. -/
theorem map_fst_put (row : Row) (name : String) (value : Value) :
    (row.put name value).map (·.1) =
      if name ∈ row.map (·.1) then row.map (·.1) else row.map (·.1) ++ [name] := by
  induction row with
  | nil => rfl
  | cons e rest ih =>
    obtain ⟨n, v⟩ := e
    unfold put
    by_cases hsame : n = name
    · simp [hsame]
    · have hother : ¬name = n := fun h => hsame h.symm
      simp only [beq_iff_eq, hsame, if_false, List.map_cons, ih, List.mem_cons, hother, false_or]
      split <;> rfl

/-- Names stand in the order in which they occur first. -/
theorem map_fst_ofEntries (entries : List (String × Value)) :
    (ofEntries entries).map (·.1) = (entries.map (·.1)).eraseDups := by
  induction entries using List.reverseRecOn with
  | nil => rfl
  | append_singleton entries e ih =>
    have hput : ofEntries (entries ++ [e]) = (ofEntries entries).put e.1 e.2 :=
      putAll_append [] entries [e]
    rw [hput, map_fst_put, ih, List.map_append, List.eraseDups_append]
    simp only [List.mem_eraseDups, List.map_cons, List.map_nil, List.removeAll]
    by_cases hmem : e.1 ∈ entries.map (·.1)
    · simp [hmem]
    · simp [hmem, List.eraseDups_cons]

end Row

/-- Of some rows, the last one with a name gives it a value. -/
def LastNames (rows : List Row) (name : String) (v : Value) : Prop :=
  ∃ before row after, rows = before ++ row :: after ∧ row.Names name v ∧
    ∀ later ∈ after, ∀ v', ¬later.Names name v'

/-- The last row decides if it has the name, and the rows before it do if it has not. -/
theorem lastNames_concat {rows : List Row} {row : Row} {name : String} {v : Value} :
    LastNames (rows ++ [row]) name v ↔
      row.Names name v ∨ (∀ v', ¬row.Names name v') ∧ LastNames rows name v := by
  constructor
  · rintro ⟨before, named, after, hrows, hnamed, hafter⟩
    rcases List.eq_nil_or_concat' after with rfl | ⟨between, last, rfl⟩
    · obtain ⟨-, hlast⟩ := List.append_inj' hrows rfl
      obtain rfl := List.head_eq_of_cons_eq hlast
      exact .inl hnamed
    · rw [← List.cons_append, ← List.append_assoc] at hrows
      obtain ⟨hbefore, hlast⟩ := List.append_inj' hrows rfl
      obtain rfl := List.head_eq_of_cons_eq hlast
      refine .inr ⟨hafter row (List.mem_append_right _ List.mem_cons_self),
        before, named, between, hbefore, hnamed, fun later hlater => ?_⟩
      exact hafter later (List.mem_append_left _ hlater)
  · rintro (hnamed | ⟨hlast, before, named, after, rfl, hnamed, hafter⟩)
    · exact ⟨rows, row, [], rfl, hnamed, nofun⟩
    · refine ⟨before, named, after ++ [row], by simp, hnamed, fun later hlater => ?_⟩
      rcases List.mem_append.1 hlater with hin | hin
      · exact hafter later hin
      · rw [List.mem_singleton.1 hin]
        exact hlast

/-- If any of the rows has a name, the last of these gives it a value. -/
theorem exists_lastNames {rows : List Row} {name : String}
    (h : ∃ row ∈ rows, ∃ v, row.Names name v) : ∃ v, LastNames rows name v := by
  induction rows using List.reverseRecOn with
  | nil =>
    obtain ⟨row, hrow, -⟩ := h
    exact nomatch hrow
  | append_singleton rows last ih =>
    by_cases hlast : ∃ v, last.Names name v
    · obtain ⟨v, hv⟩ := hlast
      exact ⟨v, lastNames_concat.2 (.inl hv)⟩
    · obtain ⟨row, hrow, v, hv⟩ := h
      rcases List.mem_append.1 hrow with hin | hin
      -- The last row has not the name, so the last one before it that has decides.
      · obtain ⟨v', hv'⟩ := ih ⟨row, hin, v, hv⟩
        exact ⟨v', lastNames_concat.2 (.inr ⟨not_exists.1 hlast, hv'⟩)⟩
      · exact absurd ⟨v, List.mem_singleton.1 hin ▸ hv⟩ hlast

namespace StatementResult

/-- The value of a name is the one that the last row with this name gives it. -/
theorem get?_keyPairs (r : StatementResult) (name : String) (v : Value) :
    r.keyPairs.get? name = some v ↔ LastNames r.rows name v := by
  unfold keyPairs
  -- The induction is from the end, where the row stands that decides.
  induction r.rows using List.reverseRecOn with
  | nil =>
    refine ⟨fun h => (nomatch h), fun ⟨before, row, after, hrows, _⟩ => ?_⟩
    exact absurd hrows (List.append_ne_nil_of_right_ne_nil _ (List.cons_ne_nil _ _)).symm
  | append_singleton rows row ih =>
    rw [lastNames_concat, List.filterMap_append]
    cases hpair : pair? row with
    | none =>
      have hnot (v' : Value) : ¬row.Names name v' := by
        rw [Row.names_iff, hpair]
        exact nofun
      simp only [List.filterMap_cons_none hpair, List.filterMap_nil, List.append_nil, ih, hnot,
        false_or, not_false_eq_true, implies_true, true_and]
    | some e =>
      have hput : Row.ofEntries (rows.filterMap pair? ++ [e]) =
          (Row.ofEntries (rows.filterMap pair?)).put e.1 e.2 := Row.putAll_append [] _ [e]
      have hnames (v' : Value) : row.Names name v' ↔ e = (name, v') := by
        rw [Row.names_iff, hpair, Option.some.injEq]
      rw [List.filterMap_cons_some hpair, List.filterMap_nil, hput]
      by_cases hname : e.1 = name
      · subst hname
        have hself : e = (e.1, v) ↔ e.2 = v := by
          rw [Prod.ext_iff]
          exact and_iff_right rfl
        rw [Row.get?_put_self, Option.some.injEq, hnames, hself]
        refine ⟨.inl, fun h => h.resolve_right fun hlater => ?_⟩
        exact hlater.1 e.2 ((hnames _).2 rfl)
      · have hnot (v' : Value) : ¬row.Names name v' := by
          rw [hnames]
          rintro rfl
          exact hname rfl
        rw [Row.get?_put_of_ne _ _ (Ne.symm hname), ih]
        exact ⟨fun h => .inr ⟨hnot, h⟩, fun h => (h.resolve_left (hnot v)).2⟩

example : let old : Row := [("Variable_name", .int 1), ("Value", .str "old")]
    let alone : Row := [("Variable_name", .str "1")]
    let last : Row := [("Variable_name", .str "1"), ("Value", .str "new")]
    ((keyPairs { rows := [old, alone, last] }).get? "1").bind Value.asText? = some "new" := by
  decide

/-- Names stand in the order of the rows that have them first. -/
theorem map_fst_keyPairs (r : StatementResult) :
    r.keyPairs.map (·.1) = ((r.rows.filterMap pair?).map (·.1)).eraseDups :=
  Row.map_fst_ofEntries _

/-- Rows fold to nothing if none of them has two columns. -/
theorem keyPairs_eq_nil_iff {r : StatementResult} :
    r.keyPairs = [] ↔ ∀ row ∈ r.rows, row.length < 2 := by
  have hnil : r.keyPairs = [] ↔ r.rows.filterMap pair? = [] := by
    constructor
    · intro h
      cases hpairs : r.rows.filterMap pair? with
      | nil => rfl
      | cons e rest =>
        have hnames := r.map_fst_keyPairs
        rw [h, hpairs, List.map_cons, List.eraseDups_cons] at hnames
        exact nomatch hnames
    · intro h
      rw [keyPairs, h]
      rfl
  rw [hnil, List.filterMap_eq_nil_iff]
  exact forall₂_congr fun row _ => Row.pair?_eq_none_iff

end StatementResult

end SearchClient
