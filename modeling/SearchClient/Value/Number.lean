import SearchClient.Value.Equality
import SearchClient.Value.Written

/-!
# Numbers from values

Reading a value as an integer or as a float. Fractions are cut off toward zero; texts and bytes
are read as literals; everything else is of the wrong kind.
-/

namespace SearchClient.Value

/-- Each byte as the ASCII character of its code; other bytes stand for no digit and no blank. -/
def byteCharacters (bs : List UInt8) : List Char :=
  bs.map fun b => if b < 0x80 then Char.ofNat b.toNat else '\ufffd'

/-- Whole part of a decimal power, toward zero. -/
def truncateDecimal (negative : Bool) (mantissa : Nat) (exponent : Int) : Int :=
  Numeric.signed negative
    (mantissa * Numeric.pow10 exponent.toNat / Numeric.pow10 (-exponent).toNat)

private def notIntegerText (shown : String) : Failure :=
  .badValue ("invalid literal for int() with base 10: " ++ String.ofList (shown.toList.take 200))

private def tooManyDigits (count : Nat) : Failure :=
  .badValue ("Exceeds the limit (" ++ toString maxDigits ++
    " digits) for integer string conversion: value has " ++ toString count ++
    " digits; use sys.set_int_max_str_digits() to increase the limit")

private def integerOfText (shown : String) (cs : List Char) : Except Failure Int :=
  match Numeric.IntLiteral.read cs with
  | none => .error (notIntegerText shown)
  | some l =>
    if maxDigits < l.digits.length then .error (tooManyDigits l.digits.length) else .ok l.value

private theorem kind_of_integerOfText {shown : String} {cs : List Char} {f : Failure}
    (h : integerOfText shown cs = .error f) : f.kind = .value := by
  unfold integerOfText at h
  split at h
  · obtain rfl := Except.error.inj h
    rfl
  · split at h
    · obtain rfl := Except.error.inj h
      rfl
    · exact nomatch h

/-- Integer that a value stands for. -/
def toInt (v : Value) : Except Failure Int :=
  match v with
  | bool b => .ok b.toInt
  | int n => .ok n
  | float x =>
    match Numeric.FloatView.ofFloat x with
    | .nan => .error (.badValue "cannot convert float NaN to integer")
    | .infinite _ => .error (.raised .overflow "cannot convert float infinity to integer" none)
    | .finite negative mantissa exponent =>
      .ok (Numeric.truncateBinary negative mantissa exponent)
  | decimal text =>
    match Numeric.RealLiteral.read text.toList with
    | some (.finite negative mantissa exponent) => .ok (truncateDecimal negative mantissa exponent)
    | some (.infinite _) => .error (.raised .overflow "cannot convert Infinity to integer" none)
    | _ => .error (.badValue "cannot convert NaN to integer")
  | str s => integerOfText v.literal s.toList
  | bytes bs => integerOfText v.literal (byteCharacters bs)
  | keyword k =>
    if k.isText then integerOfText v.literal k.text.toList
    else .error (.wrongKind "the value stands for no integer")
  | _ => .error (.wrongKind "the value stands for no integer")

/-- Whether a value is a number without end. -/
def isInfinite : Value → Bool
  | float x =>
    match Numeric.FloatView.ofFloat x with
    | .infinite _ => true
    | _ => false
  | decimal text =>
    match Numeric.RealLiteral.read text.toList with
    | some (.infinite _) => true
    | _ => false
  | _ => false

/-- An infinite number stands for no integer because it is too large. -/
theorem toInt_of_isInfinite {v : Value} (h : v.isInfinite = true) :
    ∃ f, v.toInt = .error f ∧ f.kind = .overflow := by
  unfold isInfinite at h
  unfold toInt
  split at h
  · split at h
    · rename_i hview
      simp only [hview]
      exact ⟨_, rfl, rfl⟩
    · exact nomatch h
  · split at h
    · rename_i hread
      simp only [hread]
      exact ⟨_, rfl, rfl⟩
    · exact nomatch h
  · exact nomatch h

/-- Any other value that stands for no integer is of the wrong kind or badly written. -/
theorem kind_of_toInt {v : Value} {f : Failure} (h : v.toInt = .error f)
    (hfinite : v.isInfinite = false) : f.kind = .type ∨ f.kind = .value := by
  unfold toInt at h
  split at h
  · exact nomatch h
  · exact nomatch h
  · split at h
    · obtain rfl := Except.error.inj h
      exact .inr rfl
    · rename_i hview
      simp [isInfinite, hview] at hfinite
    · exact nomatch h
  · split at h
    · exact nomatch h
    · rename_i hread
      simp [isInfinite, hread] at hfinite
    · obtain rfl := Except.error.inj h
      exact .inr rfl
  · exact .inr (kind_of_integerOfText h)
  · exact .inr (kind_of_integerOfText h)
  · split at h
    · exact .inr (kind_of_integerOfText h)
    · obtain rfl := Except.error.inj h
      exact .inl rfl
  · obtain rfl := Except.error.inj h
    exact .inl rfl

/-- The characters of a value that is read as a literal. -/
def literalCharacters? : Value → Option (List Char)
  | str s => some s.toList
  | bytes bs => some (byteCharacters bs)
  | keyword k => if k.isText then some k.text.toList else none
  | _ => none

/-- The number that a value is read as: the one that its literal writes, if that is not too long, or
the one that it stands for. -/
def reading? (v : Value) : Option Numeric.Quantity :=
  match v.literalCharacters? with
  | some cs =>
    ((Numeric.IntLiteral.read cs).filter (·.digits.length ≤ maxDigits)).map fun l => .ofInt l.value
  | none => v.quantity?

private theorem toOption_integerOfText (shown : String) (cs : List Char) :
    (integerOfText shown cs).toOption =
      ((Numeric.IntLiteral.read cs).filter (·.digits.length ≤ maxDigits)).map (·.value) := by
  unfold integerOfText
  cases Numeric.IntLiteral.read cs with
  | none => rfl
  | some l =>
    by_cases long : maxDigits < l.digits.length
    · have : ¬l.digits.length ≤ maxDigits := by omega
      simp [Option.filter, long, this, Except.toOption]
    · have : l.digits.length ≤ maxDigits := by omega
      simp [Option.filter, long, this, Except.toOption]

/-- The integer that a value stands for is the whole part of the number that it is read as. -/
theorem toOption_toInt (v : Value) : v.toInt.toOption = v.reading?.bind (·.wholePart?) := by
  have literal (shown : String) (cs : List Char) : (integerOfText shown cs).toOption =
      (((Numeric.IntLiteral.read cs).filter (·.digits.length ≤ maxDigits)).map
        fun l => Numeric.Quantity.ofInt l.value).bind (·.wholePart?) := by
    rw [toOption_integerOfText]
    cases (Numeric.IntLiteral.read cs).filter (·.digits.length ≤ maxDigits) with
    | none => rfl
    | some l => simp
  cases v with
  | bool b => simp [toInt, reading?, literalCharacters?, quantity?, Except.toOption]
  | int n => simp [toInt, reading?, literalCharacters?, quantity?, Except.toOption]
  | float x =>
    simp only [toInt, reading?, literalCharacters?, quantity?, Option.bind_some]
    cases view : Numeric.FloatView.ofFloat x with
    | nan => simp [Numeric.Quantity.ofFloat, view, Numeric.Quantity.wholePart?, Except.toOption]
    | infinite negative =>
      simp [Numeric.Quantity.ofFloat, view, Numeric.Quantity.wholePart?, Except.toOption]
    | finite negative mantissa exponent =>
      rw [Numeric.Quantity.wholePart?_ofFloat view]
      rfl
  | decimal text =>
    simp only [toInt, reading?, literalCharacters?, quantity?, Option.bind_some]
    cases Numeric.RealLiteral.read text.toList with
    | none => rfl
    | some l =>
      cases l with
      | nan => rfl
      | infinite negative => rfl
      | finite negative mantissa exponent =>
        rw [Option.elim_some, Numeric.Quantity.wholePart?_ofLiteral_finite]
        rfl
  | str s => exact literal _ _
  | bytes bs => exact literal _ _
  | keyword k =>
    simp only [toInt, reading?, literalCharacters?]
    cases k.isText with
    | false => rfl
    | true => exact literal _ _
  | _ => rfl

private def notFloatText (shown : String) : Failure :=
  .badValue ("could not convert string to float: " ++ shown)

private def floatOfText (shown : String) (cs : List Char) : Except Failure Float :=
  match Numeric.readFloat cs with
  | some x => .ok x
  | none => .error (notFloatText shown)

/-- Nearest float to an integer; beyond the range of floats there is none. -/
def floatOfInt (n : Int) : Except Failure Float :=
  let x := Numeric.floatOfDecimal n.natAbs 0
  -- Only an infinite nearest float tells that the integer is too large.
  if x.isInf then .error (.raised .overflow "int too large to convert to float" none)
  else .ok (if n < 0 then -x else x)

/-- Float that a value stands for. -/
def toFloat (v : Value) : Except Failure Float :=
  match v with
  | bool b => .ok (if b then 1 else 0)
  | int n => floatOfInt n
  | float x => .ok x
  | decimal text =>
    match Numeric.RealLiteral.read text.toList with
    | some l => .ok l.toFloat
    | none =>
      -- What is not a number is quiet unless an `s` stands before its name.
      if text.toList.contains 's' then
        .error (.badValue "cannot convert signaling NaN to float")
      else .ok (0 / 0)
  | str s => floatOfText v.literal s.toList
  | bytes bs => floatOfText v.literal (byteCharacters bs)
  | keyword k =>
    if k.isText then floatOfText v.literal k.text.toList
    else .error (.wrongKind "the value stands for no number")
  | _ => .error (.wrongKind "the value stands for no number")

end SearchClient.Value
