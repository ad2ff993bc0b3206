import SearchClient.Numeric.Shortest

/-!
# Decimal text of a float

Two forms. The plain form shows the shortest decimal, positionally while the point stands at most
three places before and sixteen places after the first digit, with an exponent of at least two
digits otherwise; a whole number keeps one zero after the point. The fixed form shows a given
number of places, rounding a half to the even digit.
-/

namespace SearchClient.Numeric

/-- Decimal digits of a natural number. -/
def decimalDigits (n : Nat) : List Char := Nat.toDigits 10 n

private def zeros (n : Nat) : List Char := List.replicate n '0'

/-- Digits with the point before the first of them, `point` places in. -/
def positional (digits : List Char) (point : Int) : List Char :=
  if point ≤ 0 then '0' :: '.' :: zeros (-point).toNat ++ digits
  else if digits.length ≤ point then digits ++ zeros (point - digits.length).toNat ++ ['.', '0']
  else digits.take point.toNat ++ '.' :: digits.drop point.toNat

/-- Digits with one place before the point and a power of ten. -/
def scientific (digits : List Char) (point : Int) : List Char :=
  let power := point - 1
  let exponent := decimalDigits power.natAbs
  let exponent := if exponent.length < 2 then '0' :: exponent else exponent
  let fraction := match digits.drop 1 with
    | [] => []
    | rest => '.' :: rest
  digits.take 1 ++ fraction ++ ['e', if power < 0 then '-' else '+'] ++ exponent

/-- Text of `n · 10 ^ grid`, where `n` is not zero. -/
def decimalText (n : Nat) (grid : Int) : List Char :=
  let digits := decimalDigits n
  let point := digits.length + grid
  if -4 < point ∧ point ≤ 16 then positional digits point else scientific digits point

private def withSign (negative : Bool) (text : List Char) : List Char :=
  if negative then '-' :: text else text

/-- Plain text of a float, from which it can be read back. -/
def floatText (x : Float) : String :=
  match FloatView.ofFloat x with
  | .nan => "nan"
  | .infinite negative => String.ofList (withSign negative ['i', 'n', 'f'])
  | .finite negative mantissa exponent =>
    if mantissa = 0 then String.ofList (withSign negative ['0', '.', '0'])
    else
      let (n, grid) := shortestDecimal mantissa exponent
      String.ofList (withSign negative (decimalText n grid))

/-- Text of `n / 10 ^ places` with all its places. -/
def fixedDigits (places n : Nat) : List Char :=
  let digits := decimalDigits (n % pow10 places)
  let fraction := zeros (places - digits.length) ++ digits
  decimalDigits (n / pow10 places) ++ '.' :: fraction

/-- Text of a float with a fixed, positive number of places. -/
def fixedText (places : Nat) (x : Float) : String :=
  match FloatView.ofFloat x with
  | .nan => "nan"
  | .infinite negative => String.ofList (withSign negative ['i', 'n', 'f'])
  | .finite negative mantissa exponent =>
    let (num, den) := binaryRatio mantissa exponent
    String.ofList
      (withSign negative (fixedDigits places (roundHalfEven (num * pow10 places) den)))

end SearchClient.Numeric
