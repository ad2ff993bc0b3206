import SearchClient.Query.Call
import SearchClient.Signature

/-!
# Calls by name

The calls on a query by the names and arguments under which they are known to callers.
-/

namespace SearchClient.Call

/-- A call that takes some arguments. -/
private def taking (required optional : List String) (args : List Value) (named : Row)
    (make : (String → Value) → Call) : Except Failure Call :=
  (Signature.bind { required, optional } args named).map fun bound =>
    make fun name => (Signature.find? bound name).getD .null

/-- A call that takes any number of arguments in order and none by name. -/
private def takingAny (args : List Value) (named : Row) (make : List Value → Call) :
    Except Failure Call :=
  if named.isEmpty then .ok (make args) else .error (.wrongKind "unexpected argument")

/-- Value of an argument that may be left out. -/
private def orElse (v : Option Value) (fallback : Value) : Value := v.getD fallback

/-- A comparison of a column, whose value may be left out. -/
private def comparison (args : List Value) (named : Row)
    (make : Value → Value → Value → Mutation) : Except Failure Call :=
  (Signature.bind { required := ["column", "operator"], optional := ["value"] } args named).map
    fun bound =>
      let get (name : String) (fallback : Value) := orElse (Signature.find? bound name) fallback
      .change (make (get "column" .null) (get "operator" .null) (get "value" .unset))

/-- A full-text term, which is not safe unless it says so. -/
private def fullText (p : Placement) (args : List Value) (named : Row) : Except Failure Call :=
  (Signature.bind { required := ["column", "value"], optional := ["safe"] } args named).map
    fun bound =>
      let get (name : String) (fallback : Value) := orElse (Signature.find? bound name) fallback
      .change (.fullText p (get "column" .null) (get "value" .null) (get "safe" (.bool false)))

/-- Names of the calls that change a query and take fixed arguments. -/
private def changeOfName? (name : String) (args : List Value) (named : Row) :
    Option (Except Failure Call) :=
  let one (arg : String) (make : Value → Mutation) :=
    some (taking [arg] [] args named fun get => .change (make (get arg)))
  let sorted (make : Value → Value → Mutation) :=
    some (taking ["column"] ["direction"] args named fun get =>
      .change (make (get "column") (get "direction")))
  let setting (make : Value → Value → Mutation) :=
    some (taking ["name", "value"] [] args named fun get =>
      .change (make (get "name") (get "value")))
  match name with
  | "set_query" => one "query" .statement
  | "select" => some (takingAny args named fun columns => .change (.select columns))
  | "add_select_if_not_exists" => one "column" .selectMissing
  | "from_" => some (takingAny args named fun names => .change (.indexes names))
  | "where" => some (comparison args named (.filter .replace))
  | "and_where" => some (comparison args named (.filter .append))
  | "and_raw_where" => one "expression" .rawFilter
  | "or_where" => one "components" .alternatives
  | "match" => some (fullText .replace args named)
  | "and_match" => some (fullText .append args named)
  | "raw_match" => one "match" (.rawFullText .replace .and)
  | "and_raw_match" => one "match" (.rawFullText .append .and)
  | "or_raw_match" => one "match" (.rawFullText .append .or)
  | "group_by" => one "column" (.group .replace)
  | "and_group_by" => one "column" (.group .append)
  | "within_group_order_by" => sorted (.groupOrder .replace)
  | "and_within_group_order_by" => sorted (.groupOrder .append)
  | "having" => some (comparison args named (.having .replace))
  | "and_having" => some (comparison args named (.having .append))
  | "order_by" => sorted (.order .replace)
  | "and_order_by" => sorted (.order .append)
  | "set_first_result" => one "first_result" .offset
  | "set_max_results" => one "max_results" .limit
  | "add_option" => setting (.option .append)
  | "set_option" => setting (.option .replace)
  | _ => none

/-- The call of a name that changes nothing in the clauses. -/
private def readingOfName? (name : String) (args : List Value) (named : Row) :
    Option (Except Failure Call) :=
  let plain (c : Call) := some (taking [] [] args named fun _ => c)
  match name with
  | "get_sql" => plain .statement
  | "str" => plain .text
  | "repr" => plain .shown
  | "state" => plain .state
  | "is_clean" => plain .isClean
  | "indexes" => plain .indexes
  | "last_error" => plain .lastError
  | "metadata" => plain .metadata
  | "execute" => plain .execute
  | "get_results" => plain .results
  | "get_dataframe" => plain .table
  | "get_num_rows" => plain .rowCount
  | "get_metadata" => plain .statistics
  | "get_metadata_value" =>
    some (taking ["name"] ["default"] args named fun get =>
      .statistic (get "name") (get "default"))
  | "get_total_found" => plain .totalFound
  | "get_time" => plain .time
  | "clear_result" => plain .clear
  | "quote_value" => some (taking ["value"] [] args named fun get => .quoteValue (get "value"))
  | "quote_match" =>
    some (taking ["value"] ["is_text"] args named fun get =>
      .quoteMatch (get "value") (get "is_text").isTruthy)
  | _ => none

/-- The call of a name with some arguments, or why there is none. -/
def ofName (name : String) (args : List Value) (named : Row) : Except Failure Call :=
  match changeOfName? name args named with
  | some call => call
  | none =>
    match readingOfName? name args named with
    | some call => call
    | none => .error (.noAttribute ("nothing is named '" ++ name ++ "'"))

/-- The call that binds a source of entities, by a column that is `id` unless another is named. -/
def bindEntities (source : EntityQuery) (args : List Value) (named : Row) : Except Failure Call :=
  (Signature.bind { optional := ["column"] } args named).map fun bound =>
    .change (.entities source ((Signature.find? bound "column").getD (.str "id")))

end SearchClient.Call
