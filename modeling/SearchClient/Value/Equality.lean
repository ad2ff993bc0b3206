import SearchClient.Numeric.Quantity
import SearchClient.Value.Basic

/-!
# Equality of values

Two values are the same when they stand for the same thing: numbers of any kind by the number,
texts by their characters, lists member by member, sets and mappings without regard to order.
-/

namespace SearchClient.Value

/-- The number that a value stands for, if it is one. -/
def quantity? : Value → Option Numeric.Quantity
  | bool b => some (.ofInt b.toInt)
  | int n => some (.ofInt n)
  | float x => some (.ofFloat x)
  | decimal text => some ((Numeric.RealLiteral.read text.toList).elim .nan .ofLiteral)
  | _ => none

/-- Whether a value counts as true in a test: everything but nothing, zero and the empty. -/
def isTruthy : Value → Bool
  | null => false
  | str s => !s.isEmpty
  | bytes bs => !bs.isEmpty
  | list items | tuple items | set _ items => !items.isEmpty
  | mapping entries => !entries.isEmpty
  | keyword k => if k.isText then !k.text.isEmpty else true
  | v => !(v.quantity?.any (·.isZero))

/-- Equality of values without members: numbers, texts, bytes, dates and marks. -/
def sameLeaf (a b : Value) : Bool :=
  match a.quantity?, b.quantity? with
  | some p, some q => p.same q
  | some _, none | none, some _ => false
  | none, none =>
    match a, b with
    | null, null => true
    | unset, unset => true
    | bytes p, bytes q => p == q
    | date y m d, date y' m' d' => y == y' && m == m' && d == d'
    | datetime y m d h i s u, datetime y' m' d' h' i' s' u' =>
      y == y' && m == m' && d == d' && h == h' && i == i' && s == s' && u == u'
    | keyword k, keyword k' => if k.isText && k'.isText then k.text == k'.text else k == k'
    | _, _ =>
      match a.asText?, b.asText? with
      | some p, some q => p == q
      | _, _ => false

mutual

/-- Whether two values are the same. -/
def same : Value → Value → Bool
  | list xs, list ys => sameMembers xs ys
  | tuple xs, tuple ys => sameMembers xs ys
  | set _ xs, set _ ys => xs.length == ys.length && eachIn xs ys
  | mapping xs, mapping ys => xs.length == ys.length && eachEntryIn xs ys
  | list _, _ | tuple _, _ | set _ _, _ | mapping _, _ => false
  | a, b => sameLeaf a b

/-- Whether two lists are the same member by member. -/
def sameMembers : List Value → List Value → Bool
  | [], [] => true
  | x :: xs, y :: ys => same x y && sameMembers xs ys
  | _, _ => false

/-- Whether each value of the first list is the same as one of the second. -/
def eachIn : List Value → List Value → Bool
  | [], _ => true
  | x :: xs, ys => ys.any (same x) && eachIn xs ys

/-- Whether each entry of the first mapping is the same as one of the second. -/
def eachEntryIn : List (Value × Value) → List (Value × Value) → Bool
  | [], _ => true
  | (k, v) :: rest, ys => ys.any (fun e => same k e.1 && same v e.2) && eachEntryIn rest ys

end

/-- Writes a key of a mapping: in place if it is present, at the end otherwise. -/
def putEntry : List (Value × Value) → Value → Value → List (Value × Value)
  | [], key, value => [(key, value)]
  | (k, v) :: rest, key, value =>
    if same k key then (k, value) :: rest else (k, v) :: putEntry rest key value

/-- Mapping of entries written from left to right. -/
def ofEntries (entries : List (Value × Value)) : Value :=
  mapping (entries.foldl (fun acc e => putEntry acc e.1 e.2) [])

/-- Whether a list holds a value. -/
def isAmong (v : Value) (items : List Value) : Bool := items.any (same v)

/-- A value as a list of entries: what a walk over it visits. A value that cannot be walked over is
an entry of its own, unless it counts as nothing. -/
def entries (v : Value) : List Value :=
  match v.walk? with
  | some items => items
  | none => if v.isTruthy then [v] else []

@[simp] theorem same_str (s t : String) : same (str s) (str t) = (s == t) := by
  simp [same, sameLeaf, quantity?, asText?]

end SearchClient.Value
