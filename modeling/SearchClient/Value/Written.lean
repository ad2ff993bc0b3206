import SearchClient.Failure

/-!
# Values as they are written

An integer can be written as long as it has at most `Value.maxDigits` digits; a value in which a
longer one stands has no text. `Value.text` and `Value.literal` say what the text is, and
`Value.written` and `Value.writtenLiteral` refuse the values that have none.

* `Value.written_eq_ok_iff`: what is written is the text, and the value can be written.
* `Value.written_of_not_isWritable`: every other value is refused, always for the same reason.
-/

namespace SearchClient.Value

/-- Most digits that an integer may have where it is read or written. -/
def maxDigits : Nat := 4300

/-- Whether an integer is short enough to be written. -/
def fitsDigits (n : Int) : Bool := (Numeric.decimalDigits n.natAbs).length ≤ maxDigits

mutual

/-- Whether a value can be written: no integer in it is too long. -/
def isWritable : Value → Bool
  | int n => fitsDigits n
  | list items | tuple items | set _ items => areWritable items
  | mapping entries => entriesAreWritable entries
  | _ => true

/-- Whether every value of some can be written. -/
def areWritable : List Value → Bool
  | [] => true
  | v :: rest => isWritable v && areWritable rest

/-- Whether every key and every value of some entries can be written. -/
def entriesAreWritable : List (Value × Value) → Bool
  | [] => true
  | (key, value) :: rest => isWritable key && isWritable value && entriesAreWritable rest

end

/-- Refusal of an integer that has too many digits to be written. -/
def tooLong : Failure :=
  .badValue ("Exceeds the limit (" ++ toString maxDigits ++ " digits) for integer string " ++
    "conversion; use sys.set_int_max_str_digits() to increase the limit")

/-- A text that shows a value, if the value can be written. -/
def showing (v : Value) (shown : String) : Except Failure String :=
  if v.isWritable then .ok shown else .error tooLong

/-- A value as it stands by itself. -/
def written (v : Value) : Except Failure String := v.showing v.text

/-- A value as a member of a collection's text. -/
def writtenLiteral (v : Value) : Except Failure String := v.showing v.literal

@[simp] theorem isWritable_int (n : Int) : (int n).isWritable = fitsDigits n := rfl

theorem areWritable_iff {vs : List Value} :
    areWritable vs = true ↔ ∀ v ∈ vs, v.isWritable = true := by
  induction vs with
  | nil => simp [areWritable]
  | cons v rest ih => simp [areWritable, ih]

/-- The members of a collection that can be written can be written. -/
theorem isWritable_of_mem_members {v w : Value} (h : v.isWritable = true) (hw : w ∈ v.members) :
    w.isWritable = true := by
  cases v with
  | list items => exact areWritable_iff.mp h w hw
  | tuple items => exact areWritable_iff.mp h w hw
  | set frozen items => exact areWritable_iff.mp h w hw
  | _ => simp [members] at hw

theorem written_of_isWritable {v : Value} (h : v.isWritable = true) : v.written = .ok v.text :=
  if_pos h

theorem written_of_not_isWritable {v : Value} (h : v.isWritable = false) :
    v.written = .error tooLong := by
  simp [written, showing, h]

/-- What is written is the text of a value that can be written. -/
theorem written_eq_ok_iff {v : Value} {s : String} :
    v.written = .ok s ↔ v.isWritable = true ∧ v.text = s := by
  cases h : v.isWritable with
  | true => simp [written_of_isWritable h]
  | false => simp [written_of_not_isWritable h]

end SearchClient.Value
