import SearchClient.Settings.Source

/-!
# Variables that are set

Of several variables with one name in different letters the last one counts, and a variable that is
set keeps its place. So what is set counts for its name if nothing behind it has that name in other
letters, and setting variables of other names changes nothing about that.

## Key results

- `Environment.counting?_set_self`, `Environment.counting?_set_of_ne`: what counts after a variable
  is set
- `Environment.counting?_setAll`: variables that are set count for their names
-/

namespace SearchClient

namespace Environment

open Sources (fold)

/-- The variables behind the first one of a name. -/
def behind (e : Environment) (name : String) : Environment := (e.dropWhile (·.1 != name)).tail

/-- No variable behind the one of a name has the same name in other letters, so it is that one which
counts once it is set. -/
def Decides (e : Environment) (name : String) : Prop :=
  ∀ v ∈ e.behind name, fold v.1 ≠ fold name

instance (e : Environment) (name : String) : Decidable (e.Decides name) :=
  inferInstanceAs (Decidable (∀ v ∈ e.behind name, fold v.1 ≠ fold name))

/-- The variable that counts for a name. -/
def counting? (e : Environment) (name : String) : Option (String × String) :=
  e.reverse.find? fun v => fold v.1 == fold name

/-- Sets several variables. -/
def setAll (e : Environment) (vs : List (String × String)) : Environment :=
  vs.foldl (fun e v => e.set v.1 v.2) e

variable {e : Environment} {name other : String}

theorem counting?_cons (v : String × String) (e : Environment) (name : String) :
    counting? (v :: e) name =
      (e.counting? name).or (if fold v.1 = fold name then some v else none) := by
  unfold counting?
  rw [List.reverse_cons, List.find?_append, List.find?_singleton]
  simp only [beq_iff_eq]

theorem behind_cons_self (value : String) (e : Environment) :
    behind ((name, value) :: e) name = e := by
  simp [behind]

theorem behind_cons_of_ne {v : String × String} (h : v.1 ≠ name) (e : Environment) :
    behind (v :: e) name = e.behind name := by
  simp [behind, h]

/-- What is set counts, if nothing behind it does. -/
theorem counting?_set_self (h : e.Decides name) (value : String) :
    (e.set name value).counting? name = some (name, value) := by
  induction e with
  | nil =>
    rw [set, counting?_cons, if_pos rfl]
    rfl
  | cons v e ih =>
    obtain ⟨n, old⟩ := v
    rw [set]
    split
    -- Here the variable keeps its place, and what stands behind it does not count.
    · rename_i hname
      subst hname
      have hnone : counting? e n = none := by
        rw [counting?, List.find?_eq_none]
        intro v hv hsame
        refine h v ?_ (beq_iff_eq.1 hsame)
        rwa [behind_cons_self, ← List.mem_reverse]
      rw [counting?_cons, hnone, if_pos rfl]
      rfl
    · rename_i hname
      have hrest : Decides e name := by
        unfold Decides at h
        rwa [behind_cons_of_ne hname] at h
      rw [counting?_cons, ih hrest]
      rfl

/-- For other names nothing changes. -/
theorem counting?_set_of_ne (h : fold other ≠ fold name) (e : Environment) (value : String) :
    (e.set other value).counting? name = e.counting? name := by
  induction e with
  | nil =>
    rw [set, counting?_cons, if_neg h]
    rfl
  | cons v e ih =>
    obtain ⟨n, old⟩ := v
    rw [set]
    split
    · rename_i hname
      subst hname
      rw [counting?_cons, counting?_cons, if_neg h, if_neg h]
    · rw [counting?_cons, counting?_cons, ih]

/-- All that is set was there before, or has the name that is set. -/
theorem mem_set {value : String} {v : String × String} (h : v ∈ e.set other value) :
    v ∈ e ∨ v.1 = other := by
  induction e with
  | nil => exact .inr (by rw [List.mem_singleton.1 h])
  | cons w e ih =>
    obtain ⟨n, old⟩ := w
    rw [set] at h
    split at h
    · rename_i hname
      rcases List.mem_cons.1 h with rfl | hrest
      · exact .inr hname
      · exact .inl (List.mem_cons_of_mem _ hrest)
    · rcases List.mem_cons.1 h with rfl | hrest
      · exact .inl List.mem_cons_self
      · exact (ih hrest).imp_left (List.mem_cons_of_mem _)

theorem Decides.set_of_ne (hdecides : e.Decides name) (h : fold other ≠ fold name)
    (value : String) : (e.set other value).Decides name := by
  have hother : other ≠ name := fun hsame => h (by rw [hsame])
  unfold Decides at hdecides ⊢
  induction e with
  | nil =>
    rw [set, behind_cons_of_ne hother]
    exact nofun
  | cons v e ih =>
    obtain ⟨n, old⟩ := v
    by_cases hname : n = name
    · subst hname
      rw [behind_cons_self] at hdecides
      rw [set, if_neg hother.symm, behind_cons_self]
      intro v hv
      rcases mem_set hv with hold | hset
      · exact hdecides v hold
      · rwa [hset]
    · rw [behind_cons_of_ne hname] at hdecides
      rw [set]
      split
      · rwa [behind_cons_of_ne hname]
      · rw [behind_cons_of_ne hname]
        exact ih hdecides

theorem counting?_setAll_of_ne {vs : List (String × String)}
    (h : ∀ v ∈ vs, fold v.1 ≠ fold name) (e : Environment) :
    (e.setAll vs).counting? name = e.counting? name := by
  induction vs generalizing e with
  | nil => rfl
  | cons v vs ih =>
    obtain ⟨hfirst, hrest⟩ := List.forall_mem_cons.1 h
    exact (ih hrest (e.set v.1 v.2)).trans (counting?_set_of_ne hfirst e v.2)

/-- The first one that is set keeps what it has set. -/
theorem counting?_setAll_cons {v : String × String} {vs : List (String × String)}
    (hapart : (v :: vs).Pairwise fun v w => fold v.1 ≠ fold w.1) (e : Environment) :
    (e.setAll (v :: vs)).counting? v.1 = (e.set v.1 v.2).counting? v.1 :=
  counting?_setAll_of_ne (fun w hw => ((List.pairwise_cons.1 hapart).1 w hw).symm) _

/-- Variables that are set count for their names, if no two of them have one name. -/
theorem counting?_setAll {vs : List (String × String)}
    (hapart : vs.Pairwise fun v w => fold v.1 ≠ fold w.1) (h : ∀ v ∈ vs, e.Decides v.1) :
    ∀ v ∈ vs, (e.setAll vs).counting? v.1 = some v := by
  induction vs generalizing e with
  | nil => exact nofun
  | cons w vs ih =>
    obtain ⟨hfirst, hrest⟩ := List.pairwise_cons.1 hapart
    obtain ⟨hdecides, hothers⟩ := List.forall_mem_cons.1 h
    refine List.forall_mem_cons.2 ⟨?_, ?_⟩
    · exact (counting?_setAll_cons hapart e).trans (counting?_set_self hdecides w.2)
    · exact ih hrest fun v hv => (hothers v hv).set_of_ne (hfirst v hv) w.2

end Environment

namespace Sources

/-- A setting is named by the variable that counts for it. -/
theorem named?_eq (e : Environment) (setting : String) :
    named? e setting = (e.counting? (Settings.variableName setting)).map (·.2) := rfl

end Sources

end SearchClient
