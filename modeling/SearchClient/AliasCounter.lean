import SearchClient.Value.Numeral

/-!
# Aliases

Names for the alternatives that a statement selects under an alias. They are numbered, so the names
drawn from one counter are distinct until it is reset, as long as its numbers can be told apart. A
number that is too long to be written gives no name, but it is used up like any other.
-/

namespace SearchClient

/-- A source of numbered names. -/
structure AliasCounter where
  stem : String := "orX"
  start : Numeral := .whole 0
  /-- Number of the name that is drawn next. -/
  next : Numeral := start
  deriving Inhabited

namespace AliasCounter

/-- Name with a number. -/
def label (stem : String) (n : Numeral) : Except Failure String :=
  n.toValue.written.map (stem ++ ·)

/-- The next name, if its number can be written, and the counter behind it. -/
def draw (c : AliasCounter) : Except Failure String × AliasCounter :=
  (label c.stem c.next, { c with next := c.next.succ })

/-- Starts over at the first number. -/
def reset (c : AliasCounter) : AliasCounter := { c with next := c.start }

/-- Counter for a stem and a first number. Integers and truth values are counted as integers. -/
def ofValues (stem start : Value) : Except Failure AliasCounter := do
  let stem ← stem.written
  let start ← Numeral.ofValue start
  return { stem, start := (start.toInt?.map Numeral.whole).getD start }

theorem next_draw (c : AliasCounter) : c.draw.2.next = c.next.succ := rfl

/-- A whole number gives a name that ends in it, unless it is too long. -/
theorem label_whole (stem : String) (n : Int) :
    label stem (.whole n) =
      if Value.fitsDigits n then .ok (stem ++ toString n) else .error Value.tooLong := by
  have hlabel : label stem (.whole n) = (Value.int n).written.map (stem ++ ·) := rfl
  rw [hlabel, ← Value.isWritable_int]
  cases h : (Value.int n).isWritable with
  | true => simp [Value.written_of_isWritable h, Except.map, Value.text, Value.literal]
  | false => simp [Value.written_of_not_isWritable h, Except.map]

theorem label_whole_eq_ok_iff {stem name : String} {n : Int} :
    label stem (.whole n) = .ok name ↔ Value.fitsDigits n = true ∧ stem ++ toString n = name := by
  rw [label_whole]
  cases Value.fitsDigits n <;> simp

end AliasCounter

end SearchClient
