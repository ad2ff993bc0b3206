import SearchClient.Proofs.Except
import SearchClient.Record.Kind

/-!
# Records that are read

A record is read from named values field by field, and reading gives a record exactly when each
field accepts its value. A mapping whose names are texts is accepted as it is, and so are lists of
such mappings. A record that must begin with a text is refused if that text is empty.
-/

namespace SearchClient

namespace Checked

variable {α β : Type}

theorem map_result_ok {c : Checked α} {f : α → β} {b : β} :
    (c.map f).result = .ok b ↔ ∃ a, c.result = .ok a ∧ f a = b :=
  Except.map_eq_ok

theorem under_result_ok {c : Checked α} {step : Step} {a : α} :
    (c.under step).result = .ok a ↔ c.result = .ok a :=
  Except.mapError_eq_ok

theorem andThen_result_ok {c : Checked α} {f : α → Checked β} {b : β} :
    (c.andThen f).result = .ok b ↔ ∃ a, c.result = .ok a ∧ (f a).result = .ok b := by
  unfold andThen
  cases c.result with
  | error issues => exact ⟨nofun, nofun⟩
  | ok a => simp

/-- A list is accepted, at its length, when all its members are. -/
theorem exists_each_result {read : α → Checked β} {xs : List α}
    (h : ∀ x ∈ xs, ∃ b, (read x).result = .ok b) (place : Nat) :
    ∃ bs, (each read place xs).result = .ok bs ∧ bs.length = xs.length := by
  induction xs generalizing place with
  | nil => exact ⟨[], rfl, rfl⟩
  | cons x xs ih =>
    obtain ⟨⟨b, hb⟩, hrest⟩ := List.forall_mem_cons.1 h
    obtain ⟨bs, hbs, hlength⟩ := ih hrest (place + 1)
    refine ⟨b :: bs, ?_, by simp [hlength]⟩
    rw [each, map_result_ok]
    exact ⟨(b, bs), and_result_ok.2 ⟨under_result_ok.2 hb, hbs⟩, rfl⟩

end Checked

namespace Field

theorem required_result_ok {α : Type} {given : Row} {name : String} {read : Value → Checked α}
    {a : α} :
    (required given name read).result = .ok a ↔
      ∃ v, given.get? name = some v ∧ (read v).result = .ok a := by
  unfold required
  cases given.get? name with
  | none => simp [Checked.under, Checked.reject, Except.mapError]
  | some v => simp [Checked.under_result_ok]

theorem optional_result_iff {α : Type} {given : Row} {name : String} {v : Value}
    (hv : given.get? name = some v) {read : Value → Checked α} {fallback a : α} :
    (optional given name read fallback).result = .ok a ↔ (read v).result = .ok a := by
  unfold optional
  rw [hv]
  exact Checked.under_result_ok

theorem optional_result_of_get? {α : Type} {given : Row} {name : String} {v : Value}
    (hv : given.get? name = some v) {read : Value → Checked α} {a : α} (h : (read v).result = .ok a)
    (fallback : α) : (optional given name read fallback).result = .ok a :=
  (optional_result_iff hv).2 h

/-- What holds of a default and of all that is read holds of the field. -/
theorem optional_result_induction {α : Type} {given : Row} {name : String}
    {read : Value → Checked α} {fallback : α} {P : α → Prop} (hfallback : P fallback)
    (hread : ∀ v a, (read v).result = .ok a → P a) {a : α}
    (h : (optional given name read fallback).result = .ok a) : P a := by
  unfold optional at h
  split at h
  · exact hread _ a (Checked.under_result_ok.1 h)
  · obtain rfl := Except.ok.inj h
    exact hfallback

theorem text_of_asText? {v : Value} {s : String} (h : v.asText? = some s) : text v = .accept s := by
  unfold Value.asText? at h
  split at h
  · obtain rfl := Option.some.inj h
    rfl
  · split at h
    · obtain rfl := Option.some.inj h
      rfl
    · exact nomatch h
  · exact nomatch h

/-- A field that must be given and must not be empty, when a text is given. -/
theorem required_of_text {given : Row} {name : String} {v : Value}
    (hgiven : given.get? name = some v) {s : String} (hv : v.asText? = some s) :
    required given name nonEmptyText =
      if s = "" then (Checked.reject (.tooShort 1)).under (.field name) else .accept s := by
  unfold required nonEmptyText
  rw [hgiven]
  dsimp only
  rw [text_of_asText? hv]
  change (if s.isEmpty then Checked.reject (.tooShort 1) else .accept s).under _ = _
  by_cases hempty : s = ""
  · rw [if_pos (String.isEmpty_iff.2 hempty), if_pos hempty]
  · rw [if_neg (mt String.isEmpty_iff.1 hempty), if_neg hempty]
    rfl

/-- Texts are read as such. -/
theorem exists_texts {items : List Value} (h : ∀ v ∈ items, ∃ s, v.asText? = some s) :
    ∃ names, (texts (.tuple items)).result = .ok names := by
  have heach : ∀ v ∈ items, ∃ s, (text v).result = .ok s := fun v hv =>
    (h v hv).imp fun s hs => by rw [text_of_asText? hs]; rfl
  obtain ⟨names, hnames, -⟩ := Checked.exists_each_result heach 0
  exact ⟨names, hnames⟩

/-- A mapping is accepted when its names are texts. -/
theorem exists_mapping_result {entries : List (Value × Value)}
    (h : ∀ e ∈ entries, ∃ name, e.1 = .str name) :
    ∃ row, (mapping (.mapping entries)).result = .ok row := by
  induction entries with
  | nil => exact ⟨_, rfl⟩
  | cons e rest ih =>
    obtain ⟨⟨name, hname⟩, hrest⟩ := List.forall_mem_cons.1 h
    obtain ⟨row, hrow⟩ := ih hrest
    obtain ⟨key, value⟩ := e
    obtain rfl : key = .str name := hname
    obtain ⟨names, hnames, -⟩ := Checked.map_result_ok.1 hrow
    refine ⟨_, Checked.map_result_ok.2 ⟨(name, value) :: names, ?_, rfl⟩⟩
    have hfirst : (text (.str name)).result = .ok name := rfl
    exact Checked.map_result_ok.2 ⟨(name, names), Checked.and_result_ok.2
      ⟨Checked.under_result_ok.2 (Checked.under_result_ok.2 hfirst), hnames⟩, rfl⟩

end Field

theorem RecordKind.create_ok {α : Type} {kind : RecordKind α} {given : Row} {a : α} :
    kind.create given = .ok a ↔ (kind.read given).result = .ok a :=
  Except.mapError_eq_ok

/-- Only what is read amiss keeps a record from being built. -/
theorem RecordKind.create_error {α : Type} {kind : RecordKind α} {given : Row} {f : Failure}
    (h : kind.create given = .error f) : ∃ issues, f = .rejected kind.title issues := by
  unfold create at h
  cases hread : (kind.read given).result with
  | ok a =>
    rw [hread] at h
    exact nomatch h
  | error issues =>
    rw [hread] at h
    exact ⟨issues, (Except.error.inj h).symm⟩

/-- A record that begins with a text is refused if that text is empty, and for nothing else if its
other fields are accepted. -/
theorem RecordKind.create_of_text {α β : Type} {kind : RecordKind α} {given : Row} {name : String}
    {more : Checked β} {make : String × β → α}
    (hread : kind.read given = ((Field.required given name Field.nonEmptyText).and more).map make)
    {v : Value} (hgiven : given.get? name = some v) {s : String} (hv : v.asText? = some s) {b : β}
    (hmore : more.result = .ok b) :
    kind.create given =
      if s = "" then .error (kind.refusal name (.tooShort 1)) else .ok (make (s, b)) := by
  unfold create
  rw [hread, Field.required_of_text hgiven hv, Checked.map, Checked.and, hmore]
  by_cases hempty : s = ""
  · rw [if_pos hempty, if_pos hempty]
    rfl
  · rw [if_neg hempty, if_neg hempty]
    rfl

end SearchClient
