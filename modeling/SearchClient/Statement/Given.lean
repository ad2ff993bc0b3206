import SearchClient.Statement.Render

/-!
# Clauses by name

Clauses given as plain values under the names of the parts of a statement. Every clause is a list
of the values of its fields; they are checked in the order in which the parts are given.
-/

namespace SearchClient

/-- A record of a kind from the values of its first fields. -/
def RecordKind.ofValues {α : Type} (kind : RecordKind α) (names : List String)
    (values : List Value) : Except Failure α :=
  kind.create (names.zip values)

namespace Clauses

/-- A condition: a word that says how it is given, and its fields. -/
def conditionOf (v : Value) : Except Failure Condition :=
  match v.entries with
  | .str "raw" :: values => (Condition.rawKind.ofValues ["expression"] values).map .raw
  | _ :: values =>
    (Comparison.kind.ofValues ["column", "operator", "value"] values).map .comparison
  | [] => .error (.wrongKind "a condition has fields")

/-- Records of a kind, each a list of values. -/
def recordsOf {α : Type} (kind : RecordKind α) (names : List String) (v : Value) :
    Except Failure (List α) :=
  v.entries.mapM fun item => kind.ofValues names item.entries

/-- Sort keys, each a column and perhaps a direction. -/
def orderOf (v : Value) : Except Failure (List OrderTerm) :=
  recordsOf OrderTerm.kind ["column", "direction"] v

/-- Writes a part; a name that is not one of a part is refused. -/
def write (q : Clauses) (name : String) (v : Value) : Except Failure Clauses :=
  match name with
  | "select" => .ok { q with select := v.entries }
  | "from_" => .ok { q with indexes := v.entries }
  | "where" => (v.entries.mapM conditionOf).map fun cs => { q with conditions := cs }
  | "match" =>
    (recordsOf MatchTerm.kind ["column", "text", "safe"] v).map fun ts => { q with terms := ts }
  | "raw_match" =>
    (recordsOf RawMatchTerm.kind ["text", "combinator"] v).map fun ts => { q with rawTerms := ts }
  | "group_by" => .ok { q with groupBy := v.entries }
  | "within_group_order_by" => (orderOf v).map fun ts => { q with groupOrder := ts }
  | "having" => (v.entries.mapM conditionOf).map fun cs => { q with having := cs }
  | "order_by" => (orderOf v).map fun ts => { q with order := ts }
  | "offset" => .ok { q with offset := v }
  | "limit" => .ok { q with limit := v }
  | "options" =>
    (recordsOf OptionEntry.kind ["name", "value"] v).map fun es => { q with options := es }
  | name => .error (.wrongKind ("unexpected part " ++ name))

/-- Clauses from parts by name. -/
def ofNamed (parts : List (String × Value)) : Except Failure Clauses :=
  parts.foldlM (fun q p => q.write p.1 p.2) {}

end Clauses

end SearchClient
