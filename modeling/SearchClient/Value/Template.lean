import SearchClient.Numeric.Significant
import SearchClient.Value.Number

/-!
# Templates

A template is a text with directives, each of which shows one argument. A directive starts with a
percent sign and ends with a letter that says how the argument is shown; between them stand, each
if needed, the key of the argument, flags, a least width and a precision. Two percent signs stand
for one.

`Template.pieces` reads a template, `Template.fill` shows the arguments in it from left to right.
-/

namespace SearchClient

/-- A width or a precision: a number, or the next argument. -/
inductive Template.Measure where
  | fixed (n : Nat)
  | argument
  deriving DecidableEq, Repr

/-- A directive. Without a letter it is incomplete. -/
structure Template.Directive where
  key : Option String := none
  /-- Whether the text stands at the left of its width. -/
  left : Bool := false
  /-- Whether a number that is not negative has a plus sign. -/
  plus : Bool := false
  /-- Whether a number that is not negative has a blank for its sign. -/
  blank : Bool := false
  /-- Whether a number shows its base, or its point in any case. -/
  explicit : Bool := false
  /-- Whether a number is filled with zeros. -/
  zeros : Bool := false
  width : Option Template.Measure := none
  precision : Option Template.Measure := none
  letter : Option Char := none
  /-- Position of the letter. -/
  position : Nat := 0
  deriving DecidableEq, Repr

/-- A part of a template. -/
inductive Template.Piece where
  | plain (c : Char)
  | directive (d : Template.Directive)
  /-- A key that does not end. -/
  | openKey
  deriving DecidableEq, Repr

namespace Template

/-- Characters up to the parenthesis that closes a key, and what follows it. -/
def splitKey : Nat → List Char → Option (List Char × List Char)
  | _, [] => none
  | 0, ')' :: rest => some ([], rest)
  | depth + 1, ')' :: rest => (splitKey depth rest).map fun p => (')' :: p.1, p.2)
  | depth, '(' :: rest => (splitKey (depth + 1) rest).map fun p => ('(' :: p.1, p.2)
  | depth, c :: rest => (splitKey depth rest).map fun p => (c :: p.1, p.2)

private def isFlag (c : Char) : Bool := "-+ #0".toList.contains c

/-- A number, or an asterisk for the next argument. -/
def splitMeasure : List Char → Option Measure × List Char
  | '*' :: rest => (some .argument, rest)
  | cs =>
    match cs.takeWhile Char.isDigit with
    | [] => (none, cs)
    | digits =>
      (some (.fixed (Numeric.ofDigits (digits.map fun c => c.toNat - '0'.toNat))),
        cs.dropWhile Char.isDigit)

/-- A precision after its point; without digits it is zero. -/
def splitPrecision : List Char → Option Measure × List Char
  | '.' :: rest =>
    let (m, rest) := splitMeasure rest
    (some (m.getD (.fixed 0)), rest)
  | cs => (none, cs)

private def dropSize : List Char → List Char
  | 'h' :: rest | 'l' :: rest | 'L' :: rest => rest
  | cs => cs

/-- A directive after its key, and what follows it. `total` is the length of the template. -/
def splitDirective (total : Nat) (key : Option String) (cs : List Char) :
    Directive × List Char :=
  let flags := cs.takeWhile isFlag
  let (width, rest) := splitMeasure (cs.dropWhile isFlag)
  let (precision, rest) := splitPrecision rest
  let rest := dropSize rest
  let d : Directive :=
    { key, width, precision
      left := flags.contains '-'
      plus := flags.contains '+'
      blank := flags.contains ' '
      explicit := flags.contains '#'
      zeros := flags.contains '0'
      letter := rest.head?
      position := total - rest.length }
  (d, rest.drop 1)

/-- Parts of a template. Every step takes at least one character, so the number of characters is
enough steps. -/
def piecesWithin (total : Nat) : Nat → List Char → List Piece
  | _, [] => []
  | 0, _ => []
  -- Only two adjacent signs stand for one: with a flag or a width between them they show an
  -- argument.
  | steps + 1, '%' :: '%' :: rest => .plain '%' :: piecesWithin total steps rest
  | steps + 1, '%' :: '(' :: rest =>
    match splitKey 0 rest with
    | none => [.openKey]
    | some (key, rest) =>
      let (d, rest) := splitDirective total (some (String.ofList key)) rest
      .directive d :: piecesWithin total steps rest
  | steps + 1, '%' :: rest =>
    let (d, rest) := splitDirective total none rest
    .directive d :: piecesWithin total steps rest
  | steps + 1, c :: rest => .plain c :: piecesWithin total steps rest

/-- Parts of a template in order. -/
def pieces (cs : List Char) : List Piece := piecesWithin cs.length cs.length cs

/-- The arguments that are left. A value that is not a tuple is one argument. -/
inductive Supply where
  | tuple (items : List Value)
  | single (v : Value)
  | used
  deriving Inhabited

/-- Whether keys can be looked up in a value. -/
def isKeyed : Value → Bool
  | .list _ | .mapping _ | .bytes _ => true
  | _ => false

/-- What a template is filled with. -/
structure Arguments where
  supply : Supply
  /-- The value that keys are looked up in. -/
  keyed : Option Value

/-- Arguments that a value holds. -/
def Arguments.ofValue (v : Value) : Arguments :=
  match v with
  | .tuple items => { supply := .tuple items, keyed := none }
  | v => { supply := .single v, keyed := if isKeyed v then some v else none }

private def tooFew : Failure := .wrongKind "there are not enough arguments"

/-- Takes the next argument. -/
def Arguments.next (a : Arguments) : Except Failure (Value × Arguments) :=
  match a.supply with
  | .tuple (v :: rest) => .ok (v, { a with supply := .tuple rest })
  | .single v => .ok (v, { a with supply := .used })
  | _ => .error tooFew

/-- Value of a key; it becomes the next argument. -/
def Arguments.select (a : Arguments) (key : String) : Except Failure Arguments :=
  match a.keyed with
  | none => .error (.wrongKind "keys need a mapping")
  | some (.mapping entries) =>
    match entries.find? fun e => Value.same e.1 (.str key) with
    | some e => .ok { a with supply := .single e.2 }
    | none => .error (.noKey (.str key))
  | some _ => .error (.wrongKind "only a mapping has keys")

/-- Whether arguments are left that no directive took. -/
def Arguments.isLeft (a : Arguments) : Bool :=
  match a.supply with
  | .tuple (_ :: _) => true
  -- A value with keys need not be shown.
  | .single _ => a.keyed.isNone
  | _ => false

/-- What a measure is for: its name, its limit and the word that can hold it. -/
structure Bound where
  name : String
  limit : Nat
  word : String

/-- Bound of a width. -/
def widthBound : Bound := ⟨"width", Numeric.pow2 63, "ssize_t"⟩

/-- Bound of a precision. -/
def precisionBound : Bound := ⟨"precision", Numeric.pow2 31, "int"⟩

/-- Refusal of a number that no word can hold. -/
def tooLarge (text : String) : Failure := .raised .overflow text none

/-- A number from the arguments that is within its bound. -/
def bounded (b : Bound) (n : Int) : Except Failure Int :=
  if -(b.limit : Int) ≤ n ∧ n < b.limit then .ok n
  else .error (tooLarge ("Python int too large to convert to C " ++ b.word))

/-- A width or a precision; one that comes from the arguments is a whole number. -/
def measure (b : Bound) (m : Option Measure) (a : Arguments) :
    Except Failure (Option Int × Arguments) :=
  match m with
  | none => .ok (none, a)
  | some (.fixed n) =>
    if n < b.limit then .ok (some n, a) else .error (.badValue (b.name ++ " too big"))
  | some .argument =>
    match a.next with
    | .error f => .error f
    | .ok (.int n, a) => (bounded b n).map fun n => (some n, a)
    | .ok (.bool b, a) => .ok (some b.toInt, a)
    | .ok _ => .error (.wrongKind "a width or a precision is an integer")

/-- A number to be shown: its sign, the mark of its base, its digits. -/
structure Shown where
  negative : Bool := false
  mark : List Char := []
  body : List Char

/-- Fills a text to its width. -/
def pad (d : Directive) (width : Int) (cs : List Char) : List Char :=
  let fill := List.replicate (width.natAbs - cs.length) ' '
  if d.left || width < 0 then cs ++ fill else fill ++ cs

/-- Sign of a number. -/
def sign (d : Directive) (negative : Bool) : List Char :=
  if negative then ['-'] else if d.plus then ['+'] else if d.blank then [' '] else []

/-- Fills a number to its width, with zeros after the sign and the mark if asked for. -/
def padNumber (d : Directive) (width : Int) (n : Shown) : List Char :=
  let head := sign d n.negative ++ n.mark
  if d.zeros && !d.left && 0 ≤ width then
    head ++ List.replicate (width.toNat - head.length - n.body.length) '0' ++ n.body
  else pad d width (head ++ n.body)

/-- Cuts a text after a precision. -/
def cut (precision : Option Int) (cs : List Char) : List Char :=
  match precision with
  | none => cs
  | some n => cs.take n.toNat

/-- A text in ASCII: every other character is escaped. -/
def ascii (cs : List Char) : List Char :=
  cs.flatMap fun c => if c.toNat < 0x80 then [c] else Text.escapeCode c.toNat

private def needsReal : Failure := .wrongKind "a real number is needed"

private def needsInteger : Failure := .wrongKind "an integer is needed"

/-- Whole number that a decimal directive shows: a fraction is cut off. -/
def wholeNumber (v : Value) : Except Failure Int :=
  match v with
  | .bool _ | .int _ | .float _ | .decimal _ => v.toInt
  | _ => .error needsReal

/-- Integer that a directive of another base shows. -/
def exactInteger (v : Value) : Except Failure Int :=
  match v with
  | .bool b => .ok b.toInt
  | .int n => .ok n
  | _ => .error needsInteger

/-- Float that a directive shows. -/
def realNumber (v : Value) : Except Failure Float :=
  match v with
  | .bool _ | .int _ | .float _ | .decimal _ => v.toFloat
  | _ => .error needsReal

/-- Most digits that an integer can be filled to. -/
def maxFill : Int := 2147483644

/-- An integer in a base, with at least as many digits as the precision. -/
def integer (base : Nat) (mark : List Char) (precision : Option Int) (n : Int) :
    Except Failure Shown :=
  let least := precision.getD 0
  if maxFill < least then .error (tooLarge "precision too large")
  else if base = 10 ∧ ¬Value.fitsDigits n then .error Value.tooLong
  else
    let digits := Nat.toDigits base n.natAbs
    .ok {
      negative := n < 0, mark,
      body := List.replicate (least.toNat - digits.length) '0' ++ digits }

/-- A float in a style; six digits if no precision is given. -/
def real (d : Directive) (style : Numeric.FloatStyle) (precision : Option Int) (x : Float) :
    Shown :=
  let (negative, body) := Numeric.styled style ((precision.getD 6).toNat) d.explicit x
  { negative, body }

/-- A character, or the character of a number. -/
def character (v : Value) : Except Failure (List Char) :=
  match v with
  | .str s =>
    match s.toList with
    | [c] => .ok [c]
    | _ => .error (.wrongKind "a character or its number is needed")
  | .int n =>
    if 0 ≤ n ∧ n < 0x110000 then .ok [Char.ofNat n.toNat]
    else .error (.raised .overflow "%c arg not in range(0x110000)" none)
  | .bool b => .ok [Char.ofNat b.toNat]
  | _ => .error (.wrongKind "a character or its number is needed")

private def unsupported (c : Char) (position : Nat) : Failure :=
  let shown := if 0x1f ≤ c.toNat && c.toNat ≤ 0x7e then c else '?'
  .badValue ("unsupported format character '" ++ String.singleton shown ++ "' (0x" ++
    String.ofList (Nat.toDigits 16 c.toNat) ++ ") at index " ++ toString position)

private def upper (n : Shown) : Shown :=
  { n with mark := n.mark.map Char.toUpper, body := n.body.map Char.toUpper }

/-- Shows an argument as a letter says. -/
def convert (d : Directive) (letter : Char) (width : Int) (precision : Option Int) (v : Value) :
    Except Failure (List Char) :=
  let number (n : Except Failure Shown) : Except Failure (List Char) := n.map (padNumber d width)
  let text (s : Except Failure String) (form : List Char → List Char) :
      Except Failure (List Char) := s.map fun s => pad d width (cut precision (form s.toList))
  let based (base : Nat) (mark : String) : Except Failure Shown :=
    (exactInteger v).bind (integer base (if d.explicit then mark.toList else []) precision)
  let styled (style : Numeric.FloatStyle) : Except Failure Shown :=
    (realNumber v).map (real d style precision)
  match letter with
  | 's' => text v.written id
  | 'r' => text v.writtenLiteral id
  | 'a' => text v.writtenLiteral ascii
  | 'd' | 'i' | 'u' => number ((wholeNumber v).bind (integer 10 [] precision))
  | 'x' => number (based 16 "0x")
  | 'X' => number ((based 16 "0x").map upper)
  | 'o' => number (based 8 "0o")
  | 'f' => number (styled .fixed)
  | 'F' => number ((styled .fixed).map upper)
  | 'e' => number (styled .exponent)
  | 'E' => number ((styled .exponent).map upper)
  | 'g' => number (styled .general)
  | 'G' => number ((styled .general).map upper)
  | 'c' => (character v).map (pad d width)
  | c => .error (unsupported c d.position)

/-- Shows the argument of a directive. -/
def showNext (d : Directive) (a : Arguments) : Except Failure (List Char × Arguments) := do
  let a ← match d.key with
    | some key => a.select key
    | none => .ok a
  let (width, a) ← measure widthBound d.width a
  let (precision, a) ← measure precisionBound d.precision a
  match d.letter with
  | none => .error (.badValue "incomplete format")
  | some letter =>
    let (v, a) ← a.next
    return (← convert d letter (width.getD 0) precision v, a)

/-- Shows the arguments in the parts of a template. -/
def fillPieces : List Piece → Arguments → Except Failure (List Char)
  | [], a =>
    if a.isLeft then .error (.wrongKind "not all arguments are shown")
    else .ok []
  | .plain c :: rest, a => (fillPieces rest a).map (c :: ·)
  | .openKey :: _, a =>
    .error (if a.keyed.isNone then .wrongKind "keys need a mapping"
      else .badValue "incomplete format key")
  | .directive d :: rest, a =>
    match showNext d a with
    | .error f => .error f
    | .ok (shown, a) => (fillPieces rest a).map (shown ++ ·)

/-- A template with the arguments that a value holds in its places. -/
def fill (template : String) (arguments : Value) : Except Failure String :=
  (fillPieces (pieces template.toList) (.ofValue arguments)).map String.ofList

end Template

end SearchClient
