import SearchClient.Log.Line
import SearchClient.Proofs.Except
import SearchClient.Proofs.Json
import SearchClient.Proofs.Row

/-!
# What a log line says

The line of an entry is built in one pass over its extra fields. The pass renames two fields, skips
a field whose name is taken, and cuts long statements. What it leaves is said here name by name,
without the pass: so it does not depend on the order of the fields.

An entry is plain if the fields of its record and its extra fields are data, and these have names of
their own that are distinct. Of a plain entry nothing is lost in the line: read back, it holds what
the names are said to show, and nothing else.

## Key results

- `tells_membersOf`: the members of a line, name by name
- `line_of_plain`: the line of a plain entry is one line of JSON that says this, whatever the order
  of the extra fields
-/

namespace SearchClient

/-- How a line shows a statement: as it is, or the beginning of a text that is too long, with an
ellipsis and as long as a line may hold. -/
inductive Excerpt.Shows : Value → Value → Prop where
  | whole {v : Value} (short : ∀ s, v.asText? = some s → s.length ≤ lineLength) : Shows v v
  | cut {v : Value} {s front : String} (text : v.asText? = some s) (long : lineLength < s.length)
    (begins : front.toList <+: s.toList) (full : (front ++ "...").length = lineLength) :
    Shows v (.str (front ++ "..."))

theorem Excerpt.shows_line (v : Value) : Shows v (line v) := by
  unfold line
  split
  · rename_i s text
    split
    · rename_i long
      refine .cut text long ?_ ?_
      · rw [String.toList_ofList]
        exact List.take_prefix _ _
      · have hlimit : lineLength - 3 + 3 = lineLength := rfl
        rw [String.length_append, String.length_ofList, List.length_take, String.length_toList,
          Nat.min_eq_left (by omega)]
        exact hlimit
    · rename_i short
      refine .whole fun t ht => ?_
      obtain rfl := Option.some.inj (text.symm.trans ht)
      omega
  · rename_i text
    exact .whole fun t ht => nomatch text.symm.trans ht

theorem Excerpt.isData_line {v : Value} (h : v.IsData) : (line v).IsData := by
  unfold line
  split
  · split
    · exact .str _
    · exact h
  · exact h

namespace LogEntry

/-! ### One field -/

/-- Name under which a line shows a field. -/
def target (name : String) : String :=
  if name = "otelTraceID" then "trace_id" else if name = "otelSpanID" then "span_id" else name

/-- What a line shows of a field. -/
def excerpt (name : String) (value : Value) : Value :=
  if name = "db.statement" then Excerpt.line value else value

/-- A field with a name of its own is shown unless its name is taken. -/
private theorem addField_of_free {name : String} (free : name ∉ reserved) (members : Row)
    (value : Value) :
    addField members name value =
      if (members.get? name).isSome then members
      else members.put (target name) (excerpt name value) := by
  have hfree : reserved.contains name = false := by simpa using free
  unfold addField target excerpt
  rw [hfree, Bool.false_or]
  split
  · rfl
  split
  · subst_vars
    rfl
  split
  · subst_vars
    rfl
  split
  · subst_vars
    rfl
  · rfl

/-- A field changes what is shown under one name at most. -/
private theorem get?_addField {name : String} (free : name ∉ reserved) (members : Row)
    (value : Value) (shown : String) :
    (addField members name value).get? shown =
      if members.get? name = none ∧ shown = target name then some (excerpt name value)
      else members.get? shown := by
  rw [addField_of_free free]
  cases htaken : members.get? name with
  | some v => simp
  | none =>
    by_cases hshown : shown = target name
    · subst hshown
      simp [Row.get?_put_self]
    · simp [hshown, Row.get?_put_of_ne]

private theorem nodup_addField {members : Row} (h : (members.map (·.1)).Nodup) {name : String}
    (free : name ∉ reserved) (value : Value) :
    ((addField members name value).map (·.1)).Nodup := by
  rw [addField_of_free free]
  split
  · exact h
  · exact Row.nodup_put h _ _

/-- The values of a row are data. -/
def AllData (row : Row) : Prop := ∀ e ∈ row, e.2.IsData

private theorem AllData.put {row : Row} (h : AllData row) {value : Value} (hvalue : value.IsData)
    (name : String) : AllData (row.put name value) := by
  intro e he
  rcases Row.mem_put he with hold | rfl
  · exact h e hold
  · exact hvalue

private theorem AllData.addField {members : Row} (h : AllData members) {name : String}
    (free : name ∉ reserved) {value : Value} (hvalue : value.IsData) :
    AllData (addField members name value) := by
  have hexcerpt : (excerpt name value).IsData := by
    unfold excerpt
    split
    · exact Excerpt.isData_line hvalue
    · exact hvalue
  rw [addField_of_free free]
  split
  · exact h
  · exact h.put hexcerpt _

/-! ### Names of fields -/

/-- Names that fields are renamed from or to: the identifiers of the running trace and span. -/
def renamed : List String := ["otelTraceID", "trace_id", "otelSpanID", "span_id"]

/-- A field with one name is shown as it is under another name, which may be that of a field too. -/
structure Renames (long short : String) : Prop where
  sources : ∀ other, target other = short ↔ other = long ∨ other = short
  moved : ∀ other, target other ≠ long
  uncut : ∀ v, excerpt long v = v ∧ excerpt short v = v

private theorem renames_trace : Renames "otelTraceID" "trace_id" where
  sources other := by
    unfold target
    split
    · simp_all
    split
    · subst_vars
      decide
    · simp_all
  moved other := by
    unfold target
    split
    · decide
    split
    · decide
    · assumption
  uncut v := ⟨rfl, rfl⟩

private theorem renames_span : Renames "otelSpanID" "span_id" where
  sources other := by
    unfold target
    split
    · subst_vars
      decide
    split
    · simp_all
    · simp_all
  moved other := by
    unfold target
    split
    · decide
    split
    · decide
    · assumption
  uncut v := ⟨rfl, rfl⟩

private theorem target_eq_iff {name : String} (own : name ∉ renamed) (other : String) :
    target other = name ↔ other = name := by
  simp only [renamed, List.mem_cons, List.not_mem_nil, or_false, not_or] at own
  obtain ⟨htraceLong, htrace, hspanLong, hspan⟩ := own
  unfold target
  split
  · rename_i h
    rw [h]
    exact iff_of_false (Ne.symm htrace) (Ne.symm htraceLong)
  split
  · rename_i h
    rw [h]
    exact iff_of_false (Ne.symm hspan) (Ne.symm hspanLong)
  · exact Iff.rfl

/-! ### All fields -/

/-- Names of fields that are no part of an entry. -/
def Free (fields : Row) : Prop := ∀ e ∈ fields, e.1 ∉ reserved

private theorem addFields_cons (members : Row) (e : String × Value) (fields : Row) :
    addFields members (e :: fields) = addFields (addField members e.1 e.2) fields := rfl

private theorem nodup_addFields {members fields : Row} (h : (members.map (·.1)).Nodup)
    (free : Free fields) : ((addFields members fields).map (·.1)).Nodup := by
  induction fields generalizing members with
  | nil => exact h
  | cons e fields ih =>
    obtain ⟨hfirst, hothers⟩ := List.forall_mem_cons.1 free
    exact ih (nodup_addField h hfirst e.2) hothers

private theorem AllData.addFields {members fields : Row} (h : AllData members) (free : Free fields)
    (data : AllData fields) : AllData (addFields members fields) := by
  induction fields generalizing members with
  | nil => exact h
  | cons e fields ih =>
    obtain ⟨hfirst, hothers⟩ := List.forall_mem_cons.1 free
    obtain ⟨hvalue, hvalues⟩ := List.forall_mem_cons.1 data
    exact ih (h.addField hfirst hvalue) hothers hvalues

/-- A name that no field is renamed from or to shows what was there before, or its field. -/
private theorem get?_addFields_own {fields : Row} (free : Free fields) {name : String}
    (own : ∀ other, target other = name ↔ other = name) (members : Row) :
    (addFields members fields).get? name =
      (members.get? name).or ((fields.get? name).map (excerpt name)) := by
  induction fields generalizing members with
  | nil => simp [addFields, Row.get?]
  | cons e fields ih =>
    obtain ⟨hfirst, hothers⟩ := List.forall_mem_cons.1 free
    rw [addFields_cons, ih hothers, get?_addField hfirst, Row.get?_cons]
    by_cases hname : e.1 = name
    · subst hname
      have htarget : e.1 = target e.1 := ((own e.1).2 rfl).symm
      cases hbefore : members.get? e.1 with
      | none => simp [← htarget]
      | some v => simp
    · have htarget : name ≠ target e.1 := fun h => hname ((own e.1).1 h.symm)
      simp [hname, htarget]

/-- A name that fields are renamed from shows what was there before. -/
private theorem get?_addFields_long {fields : Row} (free : Free fields) {long short : String}
    (renames : Renames long short) (members : Row) :
    (addFields members fields).get? long = members.get? long := by
  induction fields generalizing members with
  | nil => rfl
  | cons e fields ih =>
    obtain ⟨hfirst, hothers⟩ := List.forall_mem_cons.1 free
    rw [addFields_cons, ih hothers, get?_addField hfirst,
      if_neg fun h => renames.moved e.1 h.2.symm]

/-- A name that a field is renamed to shows this field, else what was there before, else the field
that has it as its own. -/
private theorem get?_addFields_short {fields : Row} (free : Free fields)
    (distinct : (fields.map (·.1)).Nodup) {long short : String} (renames : Renames long short)
    {members : Row} (absent : members.get? long = none) :
    (addFields members fields).get? short =
      ((fields.get? long).or (members.get? short)).or (fields.get? short) := by
  induction fields generalizing members with
  | nil => simp [addFields, Row.get?]
  | cons e fields ih =>
    obtain ⟨hfirst, hothers⟩ := List.forall_mem_cons.1 free
    rw [List.map_cons, List.nodup_cons] at distinct
    have habsent : (addField members e.1 e.2).get? long = none := by
      rw [get?_addField hfirst, if_neg fun h => renames.moved e.1 h.2.symm, absent]
    rw [addFields_cons, ih hothers distinct.2 habsent, get?_addField hfirst, Row.get?_cons,
      Row.get?_cons]
    by_cases hlong : e.1 = long
    · subst hlong
      have htarget : target e.1 = short := (renames.sources e.1).2 (.inl rfl)
      have hdifferent : e.1 ≠ short := fun h => renames.moved e.1 (htarget.trans h.symm)
      simp [absent, htarget, hdifferent, (renames.uncut e.2).1, Row.get?_eq_none distinct.1]
    by_cases hshort : e.1 = short
    · subst hshort
      have htarget : target e.1 = e.1 := (renames.sources e.1).2 (.inr rfl)
      cases hbefore : members.get? e.1 with
      | none => simp [hlong, htarget, (renames.uncut e.2).2]
      | some v => simp [hlong]
    · have htarget : short ≠ target e.1 := fun h =>
        ((renames.sources e.1).1 h.symm).elim hlong hshort
      simp [hlong, hshort, htarget]

/-! ### The line -/

/-- The texts that a line takes from outside of the extra fields: of the moment, of the message,
and of the failure if there is one. -/
def formed (e : LogEntry) : Except Failure (String × String × Option String) := do
  let timestamp ← Calendar.stamp e.created
  let message ← e.text
  let trouble ← e.trouble.text?
  return (timestamp, message, trouble)

/-- The four members that a line begins with, from its texts. -/
def base (e : LogEntry) (timestamp message : String) : Row :=
  [("timestamp", .str timestamp), ("level", e.level), ("logger", e.channel),
    ("message", .str message)]

/-- Members of a line, from its texts. -/
def membersOf (e : LogEntry) (timestamp message : String) (trouble : Option String) : Row :=
  let row := addFields (e.base timestamp message) e.extras
  trouble.elim row fun s => row.put "exception" (.str s)

/-- There are members just if the texts can be formed. -/
theorem members_eq (e : LogEntry) :
    e.members = e.formed.map fun t => e.membersOf t.1 t.2.1 t.2.2 := by
  unfold members heading formed
  cases Calendar.stamp e.created with
  | error f => rfl
  | ok timestamp =>
    cases e.text with
    | error f => rfl
    | ok message =>
      cases e.trouble.text? with
      | error f => rfl
      | ok trouble => cases trouble <;> rfl

/-- An entry whose texts cannot be formed has no line. -/
theorem line_of_unformed {e : LogEntry} {f : Failure} (h : e.formed = .error f) :
    e.line = .error f := by
  rw [line, members_eq, h]
  rfl

/-- What a line says about an entry, name by name. -/
structure Tells (e : LogEntry) (timestamp message : String) (trouble : Option String)
    (m : Row) : Prop where
  distinct : (m.map (·.1)).Nodup
  timestamp : m.get? "timestamp" = some (.str timestamp)
  level : m.get? "level" = some e.level
  logger : m.get? "logger" = some e.channel
  message : m.get? "message" = some (.str message)
  trace : m.get? "trace_id" = (e.extras.get? "otelTraceID").or (e.extras.get? "trace_id")
  span : m.get? "span_id" = (e.extras.get? "otelSpanID").or (e.extras.get? "span_id")
  moved : m.get? "otelTraceID" = none ∧ m.get? "otelSpanID" = none
  exception : m.get? "exception" = (trouble.map .str).or (e.extras.get? "exception")
  statement : Option.Rel Excerpt.Shows (e.extras.get? "db.statement") (m.get? "db.statement")
  others : ∀ name ∉ ["timestamp", "level", "logger", "message", "trace_id", "span_id",
    "otelTraceID", "otelSpanID", "exception", "db.statement"], m.get? name = e.extras.get? name

/-- An entry whose fields are data, and whose extra fields have distinct names of their own. -/
structure Plain (e : LogEntry) : Prop where
  level : e.level.IsData
  channel : e.channel.IsData
  free : Free e.extras
  distinct : (e.extras.map (·.1)).Nodup
  data : AllData e.extras

/-- What the members of a line are looked up to. -/
private def shown (e : LogEntry) (timestamp message : String) (trouble : Option String)
    (name : String) : Option Value :=
  match name with
  | "trace_id" => (e.extras.get? "otelTraceID").or (e.extras.get? "trace_id")
  | "span_id" => (e.extras.get? "otelSpanID").or (e.extras.get? "span_id")
  | "otelTraceID" | "otelSpanID" => none
  | "exception" => (trouble.map .str).or (e.extras.get? "exception")
  | name => ((e.base timestamp message).get? name).or ((e.extras.get? name).map (excerpt name))

private theorem get?_membersOf {e : LogEntry} (plain : e.Plain) (timestamp message : String)
    (trouble : Option String) (name : String) :
    (e.membersOf timestamp message trouble).get? name =
      e.shown timestamp message trouble name := by
  have hrest {name : String} (h : name ≠ "exception") :
      (e.membersOf timestamp message trouble).get? name =
        (addFields (e.base timestamp message) e.extras).get? name := by
    cases trouble with
    | none => rfl
    | some s => exact Row.get?_put_of_ne _ _ h
  have hshort {long short : String} (renames : Renames long short)
      (hlong : (e.base timestamp message).get? long = none)
      (hshort : (e.base timestamp message).get? short = none) :
      (addFields (e.base timestamp message) e.extras).get? short =
        (e.extras.get? long).or (e.extras.get? short) := by
    rw [get?_addFields_short plain.free plain.distinct renames hlong, hshort, Option.or_none]
  unfold shown
  split
  · exact (hrest (by decide)).trans (hshort renames_trace rfl rfl)
  · exact (hrest (by decide)).trans (hshort renames_span rfl rfl)
  · exact (hrest (by decide)).trans (get?_addFields_long plain.free renames_trace _)
  · exact (hrest (by decide)).trans (get?_addFields_long plain.free renames_span _)
  · cases trouble with
    | none =>
      have hfield : (e.extras.get? "exception").map (excerpt "exception") =
          e.extras.get? "exception" := Option.map_id_apply
      exact (get?_addFields_own plain.free (target_eq_iff (by decide)) _).trans hfield
    | some s => exact Row.get?_put_self _ _ _
  · rename_i htrace hspan htraceLong hspanLong hexception
    have hown : name ∉ renamed := by
      simp only [renamed, List.mem_cons, List.not_mem_nil, or_false, not_or]
      exact ⟨htraceLong, htrace, hspanLong, hspan⟩
    rw [hrest hexception, get?_addFields_own plain.free (target_eq_iff hown)]

private theorem nodup_membersOf {e : LogEntry} (plain : e.Plain) (timestamp message : String)
    (trouble : Option String) :
    ((e.membersOf timestamp message trouble).map (·.1)).Nodup := by
  have hbase : ((e.base timestamp message).map (·.1)).Nodup := by
    show ["timestamp", "level", "logger", "message"].Nodup
    decide
  have hall := nodup_addFields hbase plain.free
  cases trouble with
  | none => exact hall
  | some s => exact Row.nodup_put hall _ _

private theorem allData_membersOf {e : LogEntry} (plain : e.Plain) (timestamp message : String)
    (trouble : Option String) : AllData (e.membersOf timestamp message trouble) := by
  have hbase : AllData (e.base timestamp message) := by
    simp only [AllData, base, List.forall_mem_cons]
    exact ⟨.str _, plain.level, plain.channel, .str _, nofun⟩
  have hall := hbase.addFields plain.free plain.data
  cases trouble with
  | none => exact hall
  | some s => exact hall.put (.str s) _

/-- The members of a line say what a line says. -/
theorem tells_membersOf {e : LogEntry} (plain : e.Plain) (timestamp message : String)
    (trouble : Option String) :
    e.Tells timestamp message trouble (e.membersOf timestamp message trouble) where
  distinct := nodup_membersOf plain timestamp message trouble
  timestamp := get?_membersOf plain ..
  level := get?_membersOf plain ..
  logger := get?_membersOf plain ..
  message := get?_membersOf plain ..
  trace := get?_membersOf plain ..
  span := get?_membersOf plain ..
  moved := ⟨get?_membersOf plain .., get?_membersOf plain ..⟩
  exception := get?_membersOf plain ..
  statement := by
    have hstatement : (e.membersOf timestamp message trouble).get? "db.statement" =
        (e.extras.get? "db.statement").map Excerpt.line := get?_membersOf plain ..
    rw [hstatement]
    cases e.extras.get? "db.statement" with
    | none => exact .none
    | some v => exact .some (Excerpt.shows_line v)
  others name hname := by
    simp only [List.mem_cons, List.not_mem_nil, or_false, not_or] at hname
    obtain ⟨htimestamp, hlevel, hlogger, hmessage, htrace, hspan, htraceLong, hspanLong,
      hexception, hstatement⟩ := hname
    have hbase : (e.base timestamp message).get? name = none := by
      simp [base, Row.get?, Ne.symm htimestamp, Ne.symm hlevel, Ne.symm hlogger, Ne.symm hmessage]
    have hexcerpt : excerpt name = id := by
      funext v
      exact if_neg hstatement
    rw [get?_membersOf plain]
    unfold shown
    split
    · exact absurd rfl htrace
    · exact absurd rfl hspan
    · exact absurd rfl htraceLong
    · exact absurd rfl hspanLong
    · exact absurd rfl hexception
    · rw [hbase, hexcerpt, Option.map_id_apply]
      rfl

/-- The line of an entry is legible, and is JSON of an object with some members. -/
def Decodes (e : LogEntry) (m : Row) : Prop :=
  ∃ text, e.line = .ok text ∧ Json.Legible text.toList ∧
    Json.read? text.toList = some (.mapping (Cells.ofRow m))

private theorem decodes_membersOf {e : LogEntry} (plain : e.Plain) {timestamp message : String}
    {trouble : Option String} (hformed : e.formed = .ok (timestamp, message, trouble)) :
    e.Decodes (e.membersOf timestamp message trouble) := by
  obtain ⟨j, hj, hpiece⟩ :=
    Json.denotes_of_isData (.mapping (allData_membersOf plain timestamp message trouble))
  rw [Json.ofValue?, Json.ofEntries?_ofRow, Except.map_eq_ok] at hj
  obtain ⟨members, hmembers, rfl⟩ := hj
  refine ⟨String.ofList (Json.render (.object members)), ?_, ?_, ?_⟩
  · rw [line, members_eq, hformed]
    show (do return String.ofList (Json.render (.object (← Json.ofRow?
      (e.membersOf timestamp message trouble))))) = _
    rw [hmembers]
    rfl
  · rw [String.toList_ofList]
    exact hpiece.legible
  · rw [String.toList_ofList]
    exact Json.read?_of_denotes hpiece

/-! ### Other orders of the extra fields -/

private theorem Plain.of_perm {e : LogEntry} (plain : e.Plain) {extras : Row}
    (hperm : extras.Perm e.extras) : Plain { e with extras } where
  level := plain.level
  channel := plain.channel
  free p hp := plain.free p (hperm.mem_iff.1 hp)
  distinct := (hperm.map (·.1)).nodup_iff.2 plain.distinct
  data p hp := plain.data p (hperm.mem_iff.1 hp)

private theorem formed_of_perm {e : LogEntry} (plain : e.Plain) {extras : Row}
    (hperm : extras.Perm e.extras) : formed { e with extras } = e.formed := by
  have hasked : extras.get? asked = e.extras.get? asked :=
    Row.get?_of_perm hperm (plain.of_perm hperm).distinct asked
  have htext : text { e with extras } = e.text := by
    simp only [text, hasked]
  simp only [formed, htext]

private theorem membersOf_perm {e : LogEntry} (plain : e.Plain) {extras : Row}
    (hperm : extras.Perm e.extras) (timestamp message : String) (trouble : Option String) :
    (membersOf { e with extras } timestamp message trouble).Perm
      (e.membersOf timestamp message trouble) := by
  have hplain := plain.of_perm hperm
  have hget (name : String) : extras.get? name = e.extras.get? name :=
    Row.get?_of_perm hperm hplain.distinct name
  refine Row.perm_of_get? (nodup_membersOf hplain ..) (nodup_membersOf plain ..) fun name => ?_
  rw [get?_membersOf hplain, get?_membersOf plain]
  simp only [shown, base, hget]

/-- An entry has no line if the moment, the message or the failure has no text, and fails as that
does. Else the line of a plain entry is one line of ASCII, and is JSON of an object that says what a
line says; in every other order of the extra fields the line is JSON of an object with the same
members. -/
theorem line_of_plain {e : LogEntry} (plain : e.Plain) :
    (∀ f, e.formed = .error f → e.line = .error f) ∧
    ∀ timestamp message trouble, e.formed = .ok (timestamp, message, trouble) →
      ∃ m, e.Decodes m ∧ e.Tells timestamp message trouble m ∧
        ∀ extras, extras.Perm e.extras →
          ∃ m', Decodes { e with extras } m' ∧ m'.Perm m := by
  refine ⟨fun f => line_of_unformed, fun timestamp message trouble hformed => ?_⟩
  refine ⟨_, decodes_membersOf plain hformed, tells_membersOf plain .., fun extras hperm => ?_⟩
  have hother := (formed_of_perm plain hperm).trans hformed
  exact ⟨_, decodes_membersOf (plain.of_perm hperm) hother, membersOf_perm plain hperm ..⟩

/-- Fields under the names of the heading and of the running trace: the heading stays, and the trace
is the running one. -/
theorem line_of_plain_of_taken_names :
    let e : LogEntry :=
      { channel := "sphinxql.queries", level := "INFO", message := "Done", created := .int 0
        extras := [("trace_id", "given"), ("level", "DEBUG"), ("otelTraceID", "running"),
          ("tags", .list [.null, .mapping (Cells.ofRow [("depth", .int 2)])])] }
    (e.Plain ∧ e.formed = .ok ("1970-01-01T00:00:00+00:00", "Done", none)) ∧
      ∃ m, e.Decodes m ∧ m.get? "level" = some "INFO" ∧ m.get? "trace_id" = some "running" ∧
        m.get? "otelTraceID" = none ∧
        m.get? "tags" = some (.list [.null, .mapping (Cells.ofRow [("depth", .int 2)])]) := by
  intro e
  have plain : e.Plain := by
    refine ⟨.str _, .str _, ?_, ?_, ?_⟩
    · have hnames : ∀ name ∈ ["trace_id", "level", "otelTraceID", "tags"], name ∉ reserved := by
        decide
      exact fun p hp => hnames p.1 (List.mem_map.2 ⟨p, hp, rfl⟩)
    · show ["trace_id", "level", "otelTraceID", "tags"].Nodup
      decide
    · have hdepth : Value.IsData (.mapping (Cells.ofRow [("depth", .int 2)])) :=
        .mapping (List.forall_mem_singleton.2 (.int 2))
      simp only [AllData, e, List.forall_mem_cons]
      exact ⟨.str _, .str _, .str _, .list (by simp [Value.IsData.null, hdepth]), nofun⟩
  have hformed : e.formed = .ok ("1970-01-01T00:00:00+00:00", "Done", none) := by
    rfl
  obtain ⟨m, hdecodes, htells, -⟩ := (line_of_plain plain).2 _ _ _ hformed
  exact ⟨⟨plain, hformed⟩, m, hdecodes, htells.level, htells.trace, htells.moved.1,
    htells.others "tags" (by decide)⟩

/-- A message that asks for a number cannot be filled with a text, so the entry has no line. -/
theorem line_of_unfit_argument :
    let e : LogEntry :=
      { channel := "sphinxql.queries", level := "INFO", message := "%d", arguments := .tuple ["x"],
        created := .int 1700000000 }
    e.Plain ∧ e.line = .error (.wrongKind "a real number is needed") := by
  refine ⟨⟨.str _, .str _, nofun, .nil, nofun⟩, line_of_unformed ?_⟩
  rfl

end LogEntry

end SearchClient
