import Mathlib.Data.List.Forall2

/-!
# Results of steps that may fail

A chain of steps gives a result exactly when each of its steps does.
-/

namespace Except

variable {ε ε' α β : Type}

theorem map_eq_ok {x : Except ε α} {f : α → β} {b : β} :
    x.map f = .ok b ↔ ∃ a, x = .ok a ∧ f a = b := by
  cases x with
  | error e => simp [Except.map]
  | ok a => simp [Except.map]

theorem mapError_eq_ok {x : Except ε α} {f : ε → ε'} {a : α} :
    x.mapError f = .ok a ↔ x = .ok a := by
  cases x with
  | error e => simp [Except.mapError]
  | ok a => simp [Except.mapError]

theorem bind_eq_ok {x : Except ε α} {f : α → Except ε β} {b : β} :
    x >>= f = .ok b ↔ ∃ a, x = .ok a ∧ f a = .ok b := by
  cases x with
  | error e => simp [bind, Except.bind]
  | ok a => simp [bind, Except.bind]

/-- A walk over a list gives a result for each of its members. -/
theorem forall₂_of_mapM_eq_ok {f : α → Except ε β} {xs : List α} {ys : List β}
    (h : xs.mapM f = .ok ys) : List.Forall₂ (fun x y => f x = .ok y) xs ys := by
  induction xs generalizing ys with
  | nil =>
    obtain rfl : [] = ys := Except.ok.inj h
    exact .nil
  | cons x xs ih =>
    rw [List.mapM_cons] at h
    obtain ⟨y, hy, hrest⟩ := bind_eq_ok.1 h
    obtain ⟨rest, hxs, hys⟩ := bind_eq_ok.1 hrest
    obtain rfl : y :: rest = ys := Except.ok.inj hys
    exact .cons hy (ih hxs)

theorem mapM_eq_ok_iff {f : α → Except ε β} {xs : List α} {ys : List β} :
    xs.mapM f = .ok ys ↔ List.Forall₂ (fun x y => f x = .ok y) xs ys := by
  refine ⟨forall₂_of_mapM_eq_ok, fun h => ?_⟩
  induction h with
  | nil => rfl
  | cons hx _ ih =>
    rw [List.mapM_cons, hx, ih]
    rfl

/-- A walk over a list gives the results of its members in order. -/
theorem mapM_eq_ok_of_map_eq {f : α → Except ε β} {xs : List α} {ys : List β}
    (h : xs.map f = ys.map .ok) : xs.mapM f = .ok ys := by
  induction xs generalizing ys with
  | nil =>
    obtain rfl := List.map_eq_nil_iff.1 h.symm
    rfl
  | cons x xs ih =>
    cases ys with
    | nil => exact nomatch h
    | cons y ys =>
      obtain ⟨hx, hxs⟩ := List.cons.inj h
      rw [List.mapM_cons, hx, ih hxs]
      rfl

/-- A walk over a list whose members all have results has one for each. -/
theorem exists_mapM_eq_ok {f : α → Except ε β} {P : β → Prop} {xs : List α}
    (h : ∀ x ∈ xs, ∃ y, f x = .ok y ∧ P y) :
    ∃ ys, xs.mapM f = .ok ys ∧ ys.length = xs.length ∧ ∀ y ∈ ys, P y := by
  induction xs with
  | nil => exact ⟨[], rfl, rfl, fun y hy => (nomatch hy)⟩
  | cons x xs ih =>
    obtain ⟨⟨y, hy, hP⟩, hrest⟩ := List.forall_mem_cons.1 h
    obtain ⟨ys, hys, hlength, hall⟩ := ih hrest
    refine ⟨y :: ys, ?_, by simp [hlength], List.forall_mem_cons.2 ⟨hP, hall⟩⟩
    rw [List.mapM_cons, hy, hys]
    rfl

/-- Either all members of a list have results, or there is a first one that fails. -/
theorem forall_ok_or_first_error (f : α → Except ε β) (xs : List α) :
    (∀ x ∈ xs, ∃ y, f x = .ok y) ∨
      ∃ before x after e, xs = before ++ x :: after ∧ (∀ x' ∈ before, ∃ y, f x' = .ok y) ∧
        f x = .error e := by
  induction xs with
  | nil => exact .inl fun x hx => (nomatch hx)
  | cons x xs ih =>
    cases hx : f x with
    | error e => exact .inr ⟨[], x, xs, e, rfl, fun x' hx' => (nomatch hx'), hx⟩
    | ok y =>
      rcases ih with hall | ⟨before, x', after, e, rfl, hbefore, hx'⟩
      · exact .inl (List.forall_mem_cons.2 ⟨⟨y, hx⟩, hall⟩)
      · exact .inr ⟨x :: before, x', after, e, rfl, List.forall_mem_cons.2 ⟨⟨y, hx⟩, hbefore⟩, hx'⟩

/-- A walk over a list fails as its first member does that has no result. -/
theorem mapM_eq_error {f : α → Except ε β} {before after : List α} {x : α} {e : ε}
    (hbefore : ∀ x' ∈ before, ∃ y, f x' = .ok y) (hx : f x = .error e) :
    (before ++ x :: after).mapM f = .error e := by
  induction before with
  | nil => simp only [List.nil_append, List.mapM_cons, hx, bind, Except.bind]
  | cons x' before ih =>
    obtain ⟨⟨y, hy⟩, hrest⟩ := List.forall_mem_cons.1 hbefore
    simp only [List.cons_append, List.mapM_cons, hy, ih hrest, bind, Except.bind]

end Except
