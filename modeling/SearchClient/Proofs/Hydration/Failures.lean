import SearchClient.Proofs.Hydration

/-!
# How hydration fails

Hydration stops at the first thing that goes wrong: a row that names no integer, the load of the
entities, or an entity without an identifier. Almost every failure is reported as one of hydration,
and a client error of the entity query stays what it is. Two kinds of failures are neither: that a
number without end is too large for an integer, and what the entity query raises in an unforeseen
class when it reads an identifier.

## Key results

- `result_of_unread`, `result_of_unloaded`, `result_of_unidentified`: the failure of each stage
- `hydrate_slips_iff`: when a failure comes out that is no client error
-/

namespace SearchClient

/-- What has the code of a client error is a client error. -/
theorem Failure.kind_of_code? {f : Failure} {code : ErrorCode} (h : f.code? = some code) :
    f.kind = .client := by
  unfold code? at h
  split at h
  · rfl
  · exact nomatch h

theorem FailureClass.isA_client_iff {c : FailureClass} : c.isA .client = true ↔ c = .client := by
  cases c with
  | other kind => simp [isA, ancestors]
  | _ => decide

namespace Hydration

variable {rows : List Cells} {source : EntityQuery} {column : Value}

/-! ### The stages -/

/-- The failure that stands for an entity that cannot be identified. -/
def unidentified (column : Value) (e : Entity) (cause : Failure) : Failure :=
  if isMissingIdentifier cause then
    .hydration ("Entity " ++ e.shown ++ " has no integer '" ++ column.text ++ "'") column
      { cause := some cause }
  else cause

/-- The failure that stands for a load that fails. -/
def unloaded (column : Value) (cause : Failure) : Failure :=
  if cause.kind.isA .client then cause
  else .hydration ("Entity query failed: " ++ cause.text) column { cause := some cause }

/-- The first row that names no integer ends the reading. -/
theorem identifiers_of_unread {before after : List Cells} {row : Cells} {cause : Failure}
    (hbefore : ∀ row ∈ before, ∃ id, rowIdentifier column row = .ok id)
    (hrow : rowIdentifier column row = .error cause) :
    identifiers (before ++ row :: after) column = .error (unreadable column cause) := by
  rw [identifiers, Except.mapM_eq_error hbefore hrow]
  rfl

/-- Identifiers are read exactly if each row is. -/
theorem exists_identifiers_iff :
    (∃ ids, identifiers rows column = .ok ids) ↔
      ∀ row ∈ rows, ∃ id, rowIdentifier column row = .ok id := by
  constructor
  · rintro ⟨ids, hids⟩
    rcases Except.forall_ok_or_first_error (rowIdentifier column) rows with
      hall | ⟨before, row, after, cause, rfl, hbefore, hrow⟩
    · exact hall
    · exact nomatch hids.symm.trans (identifiers_of_unread hbefore hrow)
  · intro hall
    obtain ⟨ids, hids, -⟩ := Except.exists_mapM_eq_ok (P := fun _ => True)
      fun row hmem => (hall row hmem).imp fun id hid => ⟨hid, trivial⟩
    exact ⟨ids, Except.mapError_eq_ok.2 hids⟩

/-- A number that is out of range stays what it is. -/
theorem unreadable_of_overflow {cause : Failure} (h : cause.kind = .overflow) :
    unreadable column cause = cause := by
  unfold unreadable
  rw [h]
  rfl

/-- The first row that names no integer ends it. -/
theorem result_of_unread {before after : List Cells} {row : Cells} {cause : Failure}
    (hbefore : ∀ row ∈ before, ∃ id, rowIdentifier column row = .ok id)
    (hrow : rowIdentifier column row = .error cause) (source : EntityQuery) (w : World) :
    (hydrate (before ++ row :: after) source column w).result =
      .error (unreadable column cause) := by
  have hsome : (before ++ row :: after).isEmpty = false := by simp
  unfold hydrate
  rw [identifiers_of_unread hbefore hrow, hsome]
  rfl

/-- With identifiers, a load that fails ends it. -/
theorem result_of_unloaded {ids : List Int} {cause : Failure} (hrows : rows ≠ [])
    (hids : identifiers rows column = .ok ids)
    (hload : source.load source.asked column ids = .error cause) (w : World) :
    (hydrate rows source column w).result = .error (unloaded column cause) := by
  have hsome : rows.isEmpty = false := by simpa using hrows
  have hfetch : (fetch source column ids w).result = .error (unloaded column cause) := by
    unfold fetch unloaded
    simp only [hload]
    split
    · rfl
    · rfl
  unfold hydrate
  rw [hids, hsome]
  simp only [Bool.false_eq_true, if_false, hfetch]

/-- Ranking ends at the first entity that cannot be identified. -/
private theorem rank_of_unidentified {ids : List Int} {before after : List Entity} {e : Entity}
    {cause : Failure} (hbefore : ∀ e ∈ before, ∃ id, entityIdentifier source column e = .ok id)
    (he : entityIdentifier source column e = .error cause) (ranking : Ranking) (w : World) :
    (rank source column ids (before ++ e :: after) ranking w).1 =
      .error (unidentified column e cause) := by
  induction before generalizing ranking w with
  | nil =>
    rw [List.nil_append, rank, he]
    unfold unidentified
    dsimp only
    split
    · rfl
    · rfl
  | cons e' before ih =>
    obtain ⟨⟨id, hid⟩, hrest⟩ := List.forall_mem_cons.1 hbefore
    rw [List.cons_append, rank, hid]
    dsimp only
    split
    · exact ih hrest _ _
    · exact ih hrest _ _

/-- Ranking comes to its end if all entities can be identified. -/
private theorem exists_rank (ids : List Int) {entities : List Entity}
    (hread : ∀ e ∈ entities, ∃ id, entityIdentifier source column e = .ok id) (ranking : Ranking)
    (w : World) : ∃ ranked, (rank source column ids entities ranking w).1 = .ok ranked := by
  induction entities generalizing ranking w with
  | nil => exact ⟨ranking, rfl⟩
  | cons e rest ih =>
    obtain ⟨⟨id, hid⟩, hrest⟩ := List.forall_mem_cons.1 hread
    rw [rank, hid]
    dsimp only
    split
    · exact ih hrest _ _
    · exact ih hrest _ _

/-- With loaded entities, the first that cannot be identified ends it. -/
theorem result_of_unidentified {ids : List Int} {before after : List Entity} {e : Entity}
    {cause : Failure} (hrows : rows ≠ []) (hids : identifiers rows column = .ok ids)
    (hload : source.load source.asked column ids = .ok (before ++ e :: after))
    (hbefore : ∀ e ∈ before, ∃ id, entityIdentifier source column e = .ok id)
    (he : entityIdentifier source column e = .error cause) (w : World) :
    (hydrate rows source column w).result = .error (unidentified column e cause) := by
  obtain ⟨u, hresult⟩ := result_of_loaded hrows hids hload w
  rw [hresult, rank_of_unidentified hbefore he]
  rfl

/-! ### Failures that are no client errors -/

/-- Failures of an entity query: of the load, and of reading an identifier of what it has loaded. -/
inductive Raised (rows : List Cells) (source : EntityQuery) (column : Value) (f : Failure) : Prop
    where
  | loading {ids : List Int} (hids : identifiers rows column = .ok ids)
      (hload : source.load source.asked column ids = .error f)
  | identifying {ids : List Int} {entities : List Entity} {e : Entity}
      (hids : identifiers rows column = .ok ids)
      (hload : source.load source.asked column ids = .ok entities) (hmem : e ∈ entities)
      (hread : source.identifier e column = .error f)

/-- Failures that are promised: of hydration, and client errors of the entity query itself. -/
def Promised (rows : List Cells) (source : EntityQuery) (column : Value) (f : Failure) : Prop :=
  f.code? = some .hydration ∨ f.kind = .client ∧ Raised rows source column f

/-- What lets another failure through: a row or an entity whose identifier is a number without end,
and an entity query that fails to read an identifier in an unforeseen way. Nothing has failed before
it. -/
inductive Slips (rows : List Cells) (source : EntityQuery) (column : Value) : Prop where
  | row {before after : List Cells} {row : Cells} {v : Value}
      (hrows : rows = before ++ row :: after)
      (hbefore : ∀ row ∈ before, ∃ id, rowIdentifier column row = .ok id)
      (hread : row.read column = .ok v) (hendless : v.isInfinite = true)
  | entity {ids : List Int} {before after : List Entity} {e : Entity} {v : Value}
      (hrows : rows ≠ []) (hids : identifiers rows column = .ok ids)
      (hload : source.load source.asked column ids = .ok (before ++ e :: after))
      (hbefore : ∀ e ∈ before, ∃ id, entityIdentifier source column e = .ok id)
      (hread : source.identifier e column = .ok v) (hendless : v.isInfinite = true)
  | reading {ids : List Int} {before after : List Entity} {e : Entity} {f : Failure}
      (hrows : rows ≠ []) (hids : identifiers rows column = .ok ids)
      (hload : source.load source.asked column ids = .ok (before ++ e :: after))
      (hbefore : ∀ e ∈ before, ∃ id, entityIdentifier source column e = .ok id)
      (hread : source.identifier e column = .error f) (hclient : f.kind ≠ .client)
      (hforeign : isMissingIdentifier f = false)

/-- An unread row is a failure of hydration, unless its identifier is a number without end. -/
theorem code?_unreadable {row : Cells} {cause : Failure}
    (hrow : rowIdentifier column row = .error cause)
    (hends : ∀ v, row.read column = .ok v → v.isInfinite = false) :
    (unreadable column cause).code? = some .hydration := by
  have hkind : cause.kind = .key ∨ cause.kind = .type ∨ cause.kind = .value := by
    unfold rowIdentifier at hrow
    cases hread : row.read column with
    | ok v =>
      rw [hread] at hrow
      exact .inr (Value.kind_of_toInt hrow (hends v hread))
    | error f =>
      rw [hread] at hrow
      obtain rfl := Except.error.inj hrow
      unfold Cells.read at hread
      split at hread
      · obtain rfl := Except.error.inj hread
        exact .inr (.inl rfl)
      · split at hread
        · exact nomatch hread
        · obtain rfl := Except.error.inj hread
          exact .inl rfl
  unfold unreadable
  rcases hkind with hkind | hkind | hkind
  · rw [hkind]
    rfl
  · rw [hkind]
    rfl
  · rw [hkind]
    rfl

private theorem code?_unidentified {e : Entity} {cause : Failure}
    (h : isMissingIdentifier cause = true) :
    (unidentified column e cause).code? = some .hydration := by
  rw [unidentified, if_pos h]
  rfl

/-- A failure that is no client error is no promised one. -/
private theorem not_promised {f : Failure} (h : f.kind ≠ .client) : ¬Promised rows source column f
  | .inl hcode => h (Failure.kind_of_code? hcode)
  | .inr ⟨hclient, _⟩ => h hclient

/-- Where something slips, a failure comes out that is no client error. -/
private theorem result_of_slips (h : Slips rows source column) (w : World) :
    ∃ f, (hydrate rows source column w).result = .error f ∧ f.kind ≠ .client := by
  cases h with
  | @row before after row v hrows hbefore hread hendless =>
    obtain ⟨f, hf, hkind⟩ := Value.toInt_of_isInfinite hendless
    have hrow : rowIdentifier column row = .error f := by
      rw [rowIdentifier, hread]
      exact hf
    rw [hrows, result_of_unread hbefore hrow, unreadable_of_overflow hkind]
    exact ⟨f, rfl, by simp [hkind]⟩
  | @entity ids before after e v hrows hids hload hbefore hread hendless =>
    obtain ⟨f, hf, hkind⟩ := Value.toInt_of_isInfinite hendless
    have he : entityIdentifier source column e = .error f := by
      rw [entityIdentifier, hread]
      exact hf
    have hforeign : isMissingIdentifier f = false := by
      unfold isMissingIdentifier
      rw [hkind]
      rfl
    rw [result_of_unidentified hrows hids hload hbefore he, unidentified, hforeign]
    exact ⟨f, rfl, by simp [hkind]⟩
  | @reading ids before after e f hrows hids hload hbefore hread hclient hforeign =>
    have he : entityIdentifier source column e = .error f := by
      rw [entityIdentifier, hread]
    rw [result_of_unidentified hrows hids hload hbefore he, unidentified, hforeign]
    exact ⟨f, rfl, hclient⟩

/-- An entity that is not identified gives a promised failure, unless something slips. -/
private theorem promised_of_unidentified {ids : List Int} {before after : List Entity} {e : Entity}
    {cause : Failure} (hrows : rows ≠ []) (hids : identifiers rows column = .ok ids)
    (hload : source.load source.asked column ids = .ok (before ++ e :: after))
    (hbefore : ∀ e ∈ before, ∃ id, entityIdentifier source column e = .ok id)
    (he : entityIdentifier source column e = .error cause) (hsafe : ¬Slips rows source column) :
    Promised rows source column (unidentified column e cause) := by
  cases hmissing : isMissingIdentifier cause with
  | true => exact .inl (code?_unidentified hmissing)
  | false =>
    rw [unidentified, hmissing]
    unfold entityIdentifier at he
    cases hread : source.identifier e column with
    | ok v =>
      -- Only a number without end is a failure of another class.
      rw [hread] at he
      have hends : v.isInfinite = false := by
        by_contra hendless
        exact hsafe (.entity hrows hids hload hbefore hread (by simpa using hendless))
      rcases Value.kind_of_toInt he hends with hkind | hkind
      · simp [isMissingIdentifier, hkind, FailureClass.isA, FailureClass.ancestors] at hmissing
      · simp [isMissingIdentifier, hkind, FailureClass.isA, FailureClass.ancestors] at hmissing
    | error f =>
      -- What the source raises itself is let through only if it is a client error.
      rw [hread] at he
      obtain rfl := Except.error.inj he
      have hclient : f.kind = .client := by
        by_contra hother
        exact hsafe (.reading hrows hids hload hbefore hread hother hmissing)
      exact .inr ⟨hclient, .identifying hids hload (by simp) hread⟩

/-- Hydration gives entities or a promised failure unless something slips. -/
private theorem result_of_safe (hsafe : ¬Slips rows source column) (w : World) :
    (∃ entities, (hydrate rows source column w).result = .ok entities) ∨
      ∃ f, (hydrate rows source column w).result = .error f ∧ Promised rows source column f := by
  by_cases hrows : rows = []
  · exact .inl ⟨[], by rw [hrows]; rfl⟩
  -- The rows are read first, then the entities are loaded, then each of them is identified.
  rcases Except.forall_ok_or_first_error (rowIdentifier column) rows with
    hall | ⟨before, row, after, cause, rfl, hbefore, hrow⟩
  · obtain ⟨ids, hids⟩ := exists_identifiers_iff.2 hall
    cases hload : source.load source.asked column ids with
    | error cause =>
      refine .inr ⟨_, result_of_unloaded hrows hids hload w, ?_⟩
      unfold unloaded
      by_cases hclient : cause.kind.isA .client = true
      · rw [if_pos hclient]
        exact .inr ⟨FailureClass.isA_client_iff.1 hclient, .loading hids hload⟩
      · rw [if_neg hclient]
        exact .inl rfl
    | ok entities =>
      rcases Except.forall_ok_or_first_error (entityIdentifier source column) entities with
        hread | ⟨before, e, after, cause, rfl, hbefore, he⟩
      · obtain ⟨u, hresult⟩ := result_of_loaded hrows hids hload w
        obtain ⟨ranked, hranked⟩ := exists_rank ids hread [] u
        rw [hresult, hranked]
        exact .inl ⟨_, rfl⟩
      · exact .inr ⟨_, result_of_unidentified hrows hids hload hbefore he w,
          promised_of_unidentified hrows hids hload hbefore he hsafe⟩
  · refine .inr ⟨_, result_of_unread hbefore hrow source w, .inl (code?_unreadable hrow ?_)⟩
    intro v hread
    by_contra hendless
    exact hsafe (.row rfl hbefore hread (by simpa using hendless))

/-- Hydration gives entities or a promised failure if nothing slips, and otherwise a failure that is
no client error. -/
theorem hydrate_slips_iff (rows : List Cells) (source : EntityQuery) (column : Value) (w : World) :
    let result := (hydrate rows source column w).result
    (¬Slips rows source column ↔ (∃ entities, result = .ok entities) ∨
      ∃ f, result = .error f ∧ Promised rows source column f) ∧
    (Slips rows source column ↔ ∃ f, result = .error f ∧ f.kind ≠ .client) := by
  intro result
  by_cases hslips : Slips rows source column
  · obtain ⟨f, hresult, hother⟩ := result_of_slips hslips w
    refine ⟨⟨fun hsafe => absurd hslips hsafe, ?_⟩, fun _ => ⟨f, hresult, hother⟩, fun _ => hslips⟩
    rintro (⟨entities, hok⟩ | ⟨f', hresult', hpromised⟩)
    · exact nomatch hresult.symm.trans hok
    · obtain rfl := Except.error.inj (hresult.symm.trans hresult')
      exact absurd hpromised (not_promised hother)
  · have hsafe := result_of_safe hslips w
    refine ⟨⟨fun _ => hsafe, fun _ => hslips⟩, fun h => absurd h hslips, ?_⟩
    rintro ⟨f, hresult, hother⟩
    rcases hsafe with ⟨entities, hok⟩ | ⟨f', hresult', hpromised⟩
    · exact nomatch hresult.symm.trans hok
    · obtain rfl := Except.error.inj (hresult.symm.trans hresult')
      exact absurd hpromised (not_promised hother)

/-- The identifier of the only row is a number without end. -/
theorem hydrate_slips_at_infinity :
    let column : Value := .str "id"
    let row : Cells := [(column, .decimal "Infinity")]
    let source := EntityQuery.ofEntities [] false []
    ∃ f, (hydrate [row] source column {}).result = .error f ∧ f.kind = .overflow ∧
      ¬Promised [row] source column f := by
  intro column row source
  have hrow : rowIdentifier column row =
      .error (.raised .overflow "cannot convert Infinity to integer" none) := by
    unfold rowIdentifier
    rw [show row = Cells.ofRow [("id", .decimal "Infinity")] from rfl, Cells.read_ofRow]
    rfl
  have hnone : ∀ row ∈ ([] : List Cells), ∃ id, rowIdentifier column row = .ok id :=
    fun _ h => nomatch h
  have hresult : (hydrate ([] ++ row :: []) source column {}).result = .error _ :=
    result_of_unread hnone hrow source {}
  exact ⟨_, hresult, rfl, not_promised (by decide)⟩

end Hydration

end SearchClient
