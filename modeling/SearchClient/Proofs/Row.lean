import Mathlib.Data.List.Nodup
import SearchClient.Proofs.Statement.Result

/-!
# Rows with distinct names

A row whose names are distinct is a mapping: it holds exactly what its names are looked up to, so
the order of its members has no say, and two such rows with the same lookups have the same members.
-/

namespace SearchClient.Row

variable {row other : Row}

theorem get?_cons (e : String × Value) (row : Row) (name : String) :
    get? (e :: row) name = if e.1 = name then some e.2 else row.get? name := by
  unfold get?
  by_cases h : e.1 = name
  · simp [h]
  · simp [List.find?_cons_of_neg, h]

theorem get?_eq_none {name : String} (h : name ∉ row.map (·.1)) : row.get? name = none := by
  induction row with
  | nil => rfl
  | cons e row ih =>
    obtain ⟨hfirst, hrest⟩ := not_or.1 (mt List.mem_cons.2 h)
    rw [get?_cons, if_neg (Ne.symm hfirst), ih hrest]

theorem get?_eq_some_iff (h : (row.map (·.1)).Nodup) {name : String} {v : Value} :
    row.get? name = some v ↔ (name, v) ∈ row := by
  induction row with
  | nil => exact ⟨nofun, nofun⟩
  | cons e row ih =>
    rw [List.map_cons, List.nodup_cons] at h
    rw [get?_cons, List.mem_cons]
    split
    · subst_vars
      have hrest : (e.1, v) ∉ row := fun hmem => h.1 (List.mem_map.2 ⟨_, hmem, rfl⟩)
      rw [or_iff_left hrest, Option.some.injEq, Prod.ext_iff, eq_comm]
      exact (and_iff_right rfl).symm
    · rename_i hname
      rw [ih h.2, or_iff_right fun hmem => hname (congrArg Prod.fst hmem).symm]

/-- The order of the members of a row has no say in what its names are looked up to. -/
theorem get?_of_perm (hperm : row.Perm other) (h : (row.map (·.1)).Nodup) (name : String) :
    row.get? name = other.get? name := by
  have hother : (other.map (·.1)).Nodup := (hperm.map (·.1)).nodup_iff.1 h
  ext v
  rw [get?_eq_some_iff h, get?_eq_some_iff hother, hperm.mem_iff]

/-- Rows in which every name is looked up to the same have the same members. -/
theorem perm_of_get? (h : (row.map (·.1)).Nodup) (hother : (other.map (·.1)).Nodup)
    (hget : ∀ name, row.get? name = other.get? name) : row.Perm other := by
  rw [List.perm_ext_iff_of_nodup (List.Nodup.of_map _ h) (List.Nodup.of_map _ hother)]
  intro e
  rw [← get?_eq_some_iff h, ← get?_eq_some_iff hother, hget]

theorem nodup_put (h : (row.map (·.1)).Nodup) (name : String) (value : Value) :
    ((row.put name value).map (·.1)).Nodup := by
  rw [map_fst_put]
  split
  · exact h
  · rename_i hnew
    refine List.nodup_append.2 ⟨h, List.pairwise_singleton _ _, fun n hn n' hn' => ?_⟩
    rintro rfl
    exact hnew (List.mem_singleton.1 hn' ▸ hn)

theorem mem_put {name : String} {value : Value} {e : String × Value}
    (h : e ∈ row.put name value) : e ∈ row ∨ e = (name, value) := by
  induction row with
  | nil => exact .inr (List.mem_singleton.1 h)
  | cons first row ih =>
    rw [put] at h
    split at h
    · rename_i hname
      rw [beq_iff_eq.1 hname] at h
      rcases List.mem_cons.1 h with hfirst | hrest
      · exact .inr hfirst
      · exact .inl (List.mem_cons_of_mem _ hrest)
    · rcases List.mem_cons.1 h with hfirst | hrest
      · exact .inl (hfirst ▸ List.mem_cons_self)
      · exact (ih hrest).imp_left (List.mem_cons_of_mem _)

end SearchClient.Row
