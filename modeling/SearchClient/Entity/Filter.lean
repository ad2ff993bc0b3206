import SearchClient.Entity.Pattern
import SearchClient.Text.Blank
import SearchClient.Value.Text
import SearchClient.Value.Equality

/-!
# Filters of a table

A column holds numbers or texts by preference: what is stored in it or compared with it is
converted if it can be. Numbers come before texts. A value that is nothing satisfies no filter
except the two that ask for identity.
-/

namespace SearchClient

/-- What a column holds by preference. -/
inductive Affinity where
  | number
  | text
  deriving DecidableEq, Repr

namespace Affinity

private def isSpace (c : Char) : Bool := Text.isBlank c && c.toNat < 0x1c || c == ' '

/-- The number that a text looks like, with blanks around it. -/
def numberOf? (s : String) : Option Value :=
  let (negative, rest) := Numeric.splitSign (Text.trimBy isSpace s.toList)
  (Numeric.readFinite negative rest).map fun l =>
    match l with
    | .finite _ mantissa 0 => .int (Numeric.signed negative mantissa)
    | l => .float l.toFloat

/-- A value as a column takes it. -/
def convert (a : Affinity) (v : Value) : Value :=
  match a, v with
  | number, .bool b => .int b.toInt
  | number, .str s => (numberOf? s).getD v
  | text, .bool b => .str (toString b.toInt)
  | text, .int n => .str (toString n)
  | text, .float x => .str (Numeric.floatText x)
  | _, v => v

end Affinity

/-- Operators of a filter. -/
inductive FilterOperator where
  | eq | ne | lt | gt | le | ge
  /-- Identity, which holds between nothing and nothing. -/
  | same | different
  | like | notLike | glob | notGlob
  deriving DecidableEq, Repr

namespace FilterOperator

/-- Words of an operator in capitals, with one blank between them. -/
def words (text : String) : String :=
  let ws := (text.split fun c => c == ' ' || c == '\t' || c == '\n').toList.map (·.toString)
  String.ofList ((" ".intercalate (ws.filter (!·.isEmpty))).toList.map Char.toUpper)

/-- Operator that a text stands for, in any case. -/
def ofText? (text : String) : Option FilterOperator :=
  match words text with
  | "=" | "==" => some eq
  | "!=" | "<>" => some ne
  | "<" => some lt
  | ">" => some gt
  | "<=" => some le
  | ">=" => some ge
  | "IS" | "IS NOT DISTINCT FROM" => some same
  | "IS NOT" | "IS DISTINCT FROM" => some different
  | "LIKE" => some like
  | "NOT LIKE" => some notLike
  | "GLOB" => some glob
  | "NOT GLOB" => some notGlob
  | _ => none

/-- First word or sign of a text. -/
def firstToken (text : String) : String :=
  let cs := Text.trimStart text.toList
  match cs.takeWhile fun c => c.isAlphanum || c == '_' || 0x80 ≤ c.toNat with
  | [] => String.ofList (cs.take 1)
  | word => String.ofList word

/-- Why a text is no operator: where the statement cannot be read on, or what it calls. -/
def refusal (text : String) : String :=
  let near (token : String) : String := "near \"" ++ token ++ "\": syntax error"
  match words text with
  | "BETWEEN" | "NOT BETWEEN" => near ")"
  | "REGEXP" | "NOT REGEXP" => "no such function: REGEXP"
  | "MATCH" | "NOT MATCH" => "unable to use function MATCH in the requested context"
  | folded =>
    if ["", "IN", "NOT IN", "ISNULL", "NOTNULL", "NOT", "NOT NULL", "COLLATE"].contains folded then
      near "?"
    else near (firstToken text)

/-- Place of a kind of values in the order of all values. -/
def rank : Value → Nat
  | .str _ => 1
  | .bytes _ => 2
  | _ => 0

/-- Whether a value comes before another one. -/
def less (a b : Value) : Bool :=
  if rank a = rank b then
    match a.asText?, b.asText?, a.quantity?, b.quantity? with
    | some s, some t, _, _ => decide (s < t)
    | _, _, some p, some q => p.less q
    | _, _, _, _ => false
  else rank a < rank b

private def matchesPattern (pattern : List Char → TextPattern) (text p : Value) : Bool :=
  (pattern (Affinity.text.convert p).text.toList).accepts
    (Affinity.text.convert text).text.toList

/-- Whether a value of a column and another value satisfy an operator. -/
def holds (o : FilterOperator) (affinity : Affinity) (v other : Value) : Bool :=
  let w := affinity.convert other
  let isKnown := !v.isNull && !w.isNull
  match o with
  | same => v.same w
  | different => !v.same w
  | eq => isKnown && v.same w
  | ne => isKnown && !v.same w
  | lt => isKnown && less v w
  | gt => isKnown && less w v
  | le => isKnown && (less v w || v.same w)
  | ge => isKnown && (less w v || v.same w)
  | like => isKnown && matchesPattern .ofLike v other
  | notLike => isKnown && !matchesPattern .ofLike v other
  | glob => isKnown && matchesPattern .ofGlob v other
  | notGlob => isKnown && !matchesPattern .ofGlob v other

end FilterOperator

end SearchClient
