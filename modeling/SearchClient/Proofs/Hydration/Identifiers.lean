import SearchClient.Proofs.Hydration.Failures

/-!
# The integers that rows name

A row has a number in a column: an integer, a truth value, a float or a decimal is the number that
it stands for, and a text or bytes hold an integer literal. Reading identifiers takes the whole part
of that number. So an identifier is the number of its row exactly if that number is whole; a
fraction is cut off, and the row then stands for the entity of another number.

## Key results

- `toOption_rowIdentifier`: an identifier is the whole part of a number
- `identifiers_eq_ok_iff`, `code?_of_identifiers`: what reading identifiers gives, and how it fails
- `identifiers_whole_parts`: when identifiers are the numbers of their rows
-/

namespace SearchClient

/-! ### Numbers that values are read as -/

namespace Numeric

theorem pow2_pos (exponent : Nat) : 0 < pow2 exponent := Nat.pow_pos (by decide)

theorem pow10_pos (exponent : Nat) : 0 < pow10 exponent := Nat.pow_pos (by decide)

namespace Quantity

/-- A ratio has a positive denominator. -/
def Proper : Quantity → Prop
  | ratio _ den => 0 < den
  | _ => True

theorem proper_ofInt (n : Int) : (ofInt n).Proper := Nat.one_pos

theorem proper_ofFloat (x : Float) : (ofFloat x).Proper := by
  unfold ofFloat
  split
  · trivial
  · trivial
  · exact pow2_pos _

theorem proper_ofLiteral (l : RealLiteral) : (ofLiteral l).Proper := by
  cases l with
  | nan => trivial
  | infinite negative => trivial
  | finite negative mantissa exponent => exact pow10_pos _

/-- What is an integer is its own whole part. -/
theorem wholePart?_of_same {q : Quantity} (hq : q.Proper) {n : Int}
    (h : q.same (ofInt n) = true) : q.wholePart? = some n := by
  cases q with
  | nan => exact nomatch h
  | infinite negative => exact nomatch h
  | ratio num den =>
    have hden : (den : Int) ≠ 0 := by
      have hpos : 0 < den := hq
      omega
    have hnum : num = n * den := by simpa [same, ofInt] using h
    simp [wholePart?, hnum, Int.mul_tdiv_cancel n hden]

end Quantity

end Numeric

namespace Value

theorem proper_reading? {v : Value} {q : Numeric.Quantity} (h : v.reading? = some q) :
    q.Proper := by
  unfold reading? at h
  split at h
  · obtain ⟨l, -, rfl⟩ := Option.map_eq_some_iff.1 h
    exact Numeric.Quantity.proper_ofInt _
  · cases v with
    | bool b =>
      obtain rfl := Option.some.inj h
      exact Numeric.Quantity.proper_ofInt _
    | int n =>
      obtain rfl := Option.some.inj h
      exact Numeric.Quantity.proper_ofInt _
    | float x =>
      obtain rfl := Option.some.inj h
      exact Numeric.Quantity.proper_ofFloat x
    | decimal text =>
      obtain rfl := Option.some.inj h
      cases Numeric.RealLiteral.read text.toList with
      | none => trivial
      | some l => exact Numeric.Quantity.proper_ofLiteral l
    | _ => exact nomatch h

/-- A value is a number without end if it is read as one. -/
theorem isInfinite_iff {v : Value} :
    v.isInfinite = true ↔ ∃ negative, v.reading? = some (.infinite negative) := by
  -- The number of a literal always has an end.
  have hliteral (cs : List Char) (negative : Bool) :
      ((Numeric.IntLiteral.read cs).filter (·.digits.length ≤ maxDigits)).map
        (fun l => Numeric.Quantity.ofInt l.value) ≠ some (.infinite negative) := by
    intro h
    obtain ⟨l, -, hl⟩ := Option.map_eq_some_iff.1 h
    exact nomatch hl
  cases v with
  | float x =>
    simp only [isInfinite, reading?, literalCharacters?, quantity?, Numeric.Quantity.ofFloat]
    cases hview : Numeric.FloatView.ofFloat x with
    | nan => simp
    | infinite negative => simp
    | finite negative mantissa exponent => simp
  | decimal text =>
    simp only [isInfinite, reading?, literalCharacters?, quantity?]
    cases Numeric.RealLiteral.read text.toList with
    | none => simp
    | some l =>
      cases l with
      | nan => simp [Numeric.Quantity.ofLiteral]
      | infinite negative => simp [Numeric.Quantity.ofLiteral]
      | finite negative mantissa exponent => simp [Numeric.Quantity.ofLiteral]
  | str s => simpa [isInfinite, reading?, literalCharacters?] using hliteral s.toList
  | bytes bs => simpa [isInfinite, reading?, literalCharacters?] using hliteral (byteCharacters bs)
  | keyword k =>
    simp only [isInfinite, reading?, literalCharacters?]
    cases k.isText with
    | false => simp [quantity?]
    | true => simpa using hliteral k.text.toList
  | _ => simp [isInfinite, reading?, literalCharacters?, quantity?, Numeric.Quantity.ofInt]

end Value

namespace Hydration

variable {rows : List Cells} {row : Cells} {column : Value}

/-! ### One row -/

/-- The number that a row has in a column. -/
def number? (column : Value) (row : Cells) : Option Numeric.Quantity :=
  (row.read column).toOption.bind Value.reading?

/-- A row names an integer if it has a number in the column and that number is the integer. -/
def Names (column : Value) (row : Cells) (n : Int) : Prop :=
  ∃ q, number? column row = some q ∧ q.same (.ofInt n) = true

/-- The identifier of a row is the whole part of its number. -/
theorem toOption_rowIdentifier (column : Value) (row : Cells) :
    (rowIdentifier column row).toOption = (number? column row).bind (·.wholePart?) := by
  unfold rowIdentifier number?
  cases row.read column with
  | error f => rfl
  | ok v => exact Value.toOption_toInt v

theorem rowIdentifier_eq_ok_iff {id : Int} :
    rowIdentifier column row = .ok id ↔ (number? column row).bind (·.wholePart?) = some id := by
  rw [← toOption_rowIdentifier]
  cases rowIdentifier column row with
  | error f => simp [Except.toOption]
  | ok n => simp [Except.toOption]

/-- A row that names an integer is identified by it. -/
theorem Names.wholePart?_eq {n : Int} (h : Names column row n) :
    (number? column row).bind (·.wholePart?) = some n := by
  obtain ⟨q, hq, hsame⟩ := h
  have hproper : q.Proper := by
    obtain ⟨v, -, hv⟩ := Option.bind_eq_some_iff.1 hq
    exact Value.proper_reading? hv
  rw [hq, Option.bind_some]
  exact Numeric.Quantity.wholePart?_of_same hproper hsame

/-! ### All rows -/

/-- Reading identifiers gives the whole parts of the numbers in the column. -/
theorem identifiers_eq_ok_iff {ids : List Int} :
    identifiers rows column = .ok ids ↔
      List.Forall₂ (fun row id => (number? column row).bind (·.wholePart?) = some id) rows ids := by
  have hrow : (fun row id => (number? column row).bind (·.wholePart?) = some id) =
      fun row id => rowIdentifier column row = .ok id := by
    funext row id
    exact propext rowIdentifier_eq_ok_iff.symm
  rw [identifiers, Except.mapError_eq_ok, hrow, Except.mapM_eq_ok_iff]

/-- A row has a number without end, and all rows before it have one with an end. -/
def Endless (rows : List Cells) (column : Value) : Prop :=
  ∃ before row after negative, rows = before ++ row :: after ∧
    (∀ row ∈ before, ∃ num den, number? column row = some (.ratio num den)) ∧
    number? column row = some (.infinite negative)

private theorem exists_rowIdentifier_iff :
    (∃ id, rowIdentifier column row = .ok id) ↔
      ∃ num den, number? column row = some (.ratio num den) := by
  simp only [rowIdentifier_eq_ok_iff]
  cases number? column row with
  | none => simp
  | some q => cases q <;> simp [Numeric.Quantity.wholePart?]

/-- A row with a number without end is not identified, because the number is too large. -/
private theorem rowIdentifier_of_infinite {negative : Bool}
    (h : number? column row = some (.infinite negative)) :
    ∃ f, rowIdentifier column row = .error f ∧ f.kind = .overflow := by
  unfold number? at h
  unfold rowIdentifier
  cases hread : row.read column with
  | error f =>
    rw [hread] at h
    exact nomatch h
  | ok v =>
    rw [hread] at h
    exact Value.toInt_of_isInfinite (Value.isInfinite_iff.2 ⟨negative, h⟩)

/-- A number without end is reported as too large, by no client error. -/
theorem identifiers_of_endless (h : Endless rows column) :
    ∃ f, identifiers rows column = .error f ∧ f.kind = .overflow := by
  obtain ⟨before, row, after, negative, rfl, hbefore, hrow⟩ := h
  obtain ⟨f, hf, hkind⟩ := rowIdentifier_of_infinite hrow
  refine ⟨f, ?_, hkind⟩
  have hids : ∀ row ∈ before, ∃ id, rowIdentifier column row = .ok id :=
    fun row hmem => exists_rowIdentifier_iff.2 (hbefore row hmem)
  rw [identifiers_of_unread hids hf, unreadable_of_overflow hkind]

/-- Whatever else is wrong with a row is reported as a failure of hydration. -/
theorem code?_of_identifiers {f : Failure} (h : identifiers rows column = .error f)
    (hends : ¬Endless rows column) : f.code? = some .hydration := by
  rcases Except.forall_ok_or_first_error (rowIdentifier column) rows with
    hall | ⟨before, row, after, cause, rfl, hbefore, hrow⟩
  · obtain ⟨ids, hids⟩ := exists_identifiers_iff.2 hall
    exact nomatch h.symm.trans hids
  · obtain rfl := Except.error.inj ((identifiers_of_unread hbefore hrow).symm.trans h)
    refine code?_unreadable hrow fun v hread => ?_
    by_contra hendless
    obtain ⟨negative, hv⟩ := Value.isInfinite_iff.1 (by simpa using hendless)
    have hnumber : number? column row = some (.infinite negative) := by
      rw [number?, hread]
      exact hv
    exact hends ⟨before, row, after, negative, rfl,
      fun row hmem => exists_rowIdentifier_iff.1 (hbefore row hmem), hnumber⟩

/-- The only integer that a row can name is its identifier, so identifiers are the integers that
their rows name if every row names one. -/
theorem forall₂_names_iff {ids : List Int}
    (h : List.Forall₂ (fun row id => (number? column row).bind (·.wholePart?) = some id) rows ids) :
    List.Forall₂ (Names column) rows ids ↔ ∀ row ∈ rows, ∃ n, Names column row n := by
  induction h with
  | nil => simp
  | @cons row id rows ids hrow _ ih =>
    have hnames : Names column row id ↔ ∃ n, Names column row n := by
      constructor
      · intro hid
        exact ⟨id, hid⟩
      · rintro ⟨n, hn⟩
        obtain rfl := Option.some.inj (hrow.symm.trans hn.wholePart?_eq)
        exact hn
    rw [List.forall₂_cons, List.forall_mem_cons, hnames, ih]

/-- Identifiers are read exactly if every row has a number with an end in the column. Each is the
whole part of the number of its row, so a row that names an integer is identified by that integer;
all of them are the integers that their rows name exactly if every row names one. Any other failure
than that of a number without end is one of hydration. -/
theorem identifiers_whole_parts (rows : List Cells) (column : Value) :
    ((∃ ids, identifiers rows column = .ok ids) ↔
      ∀ row ∈ rows, ∃ num den, number? column row = some (.ratio num den)) ∧
    (∀ ids, identifiers rows column = .ok ids →
      List.Forall₂ (fun row id => (number? column row).bind (·.wholePart?) = some id ∧
        ∀ n, Names column row n → id = n) rows ids ∧
      (List.Forall₂ (Names column) rows ids ↔ ∀ row ∈ rows, ∃ n, Names column row n)) ∧
    ∀ f, identifiers rows column = .error f →
      (Endless rows column ↔ f.kind = .overflow) ∧
      (¬Endless rows column ↔ f.code? = some .hydration) := by
  refine ⟨?_, ?_, ?_⟩
  · simp only [exists_identifiers_iff, exists_rowIdentifier_iff]
  · intro ids hids
    have hparts := identifiers_eq_ok_iff.1 hids
    refine ⟨hparts.imp fun row id hrow => ⟨hrow, fun n hn => ?_⟩, forall₂_names_iff hparts⟩
    exact Option.some.inj (hrow.symm.trans hn.wholePart?_eq)
  · intro f hf
    by_cases hendless : Endless rows column
    · obtain ⟨f', hf', hkind⟩ := identifiers_of_endless hendless
      obtain rfl := Except.error.inj (hf'.symm.trans hf)
      have hcode : f'.code? ≠ some .hydration := fun hcode =>
        absurd (hkind.symm.trans (Failure.kind_of_code? hcode)) (by decide)
      simp [hendless, hkind, hcode]
    · have hcode := code?_of_identifiers hf hendless
      have hkind : f.kind ≠ .overflow := fun hkind =>
        absurd (hkind.symm.trans (Failure.kind_of_code? hcode)) (by decide)
      simp [hendless, hkind, hcode]

/-- A row that holds `1.5` is identified like one that holds `1`, though it names no integer. -/
theorem identifiers_of_fraction :
    let column : Value := .str "id"
    let row (v : Value) : Cells := [(column, v)]
    identifiers [row (.decimal "1.5"), row (.int 1)] column = .ok [1, 1] ∧
      ∀ n, ¬Names column (row (.decimal "1.5")) n := by
  intro column row
  have hnumber (v : Value) : number? column (row v) = v.reading? := by
    unfold number?
    rw [show row v = Cells.ofRow [("id", v)] from rfl, Cells.read_ofRow]
    rfl
  have hfraction : number? column (row (.decimal "1.5")) = some (.ratio 15 10) := by
    rw [hnumber]
    rfl
  have hone : number? column (row (.int 1)) = some (.ratio 1 1) := by
    rw [hnumber]
    rfl
  constructor
  · refine identifiers_eq_ok_iff.2 (.cons ?_ (.cons ?_ .nil))
    · rw [hfraction]
      rfl
    · rw [hone]
      rfl
  · rintro n ⟨q, hq, hsame⟩
    obtain rfl := Option.some.inj (hfraction.symm.trans hq)
    have hten : (15 : Int) = n * 10 := by
      simpa [Numeric.Quantity.same, Numeric.Quantity.ofInt] using hsame
    omega

end Hydration

end SearchClient
