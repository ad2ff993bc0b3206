import SearchClient.Proofs.Record
import SearchClient.Proofs.Record.Lenient
import SearchClient.Proofs.Settings.Environment

/-!
# Settings that are read back

Settings describe themselves by the variables that name them. When each of these variables is set
to the text of its value, settings that are built from there are the same: every setting accepts its
own text, and variables stand before the file.

That fails where another variable has the name of one of them in other letters and stands behind it:
names are compared without regard to case, and of several variables the last counts. The delay is
left aside here, because it is a float.

## Key results

- `Settings.Reads.admitted`: what the checks of the settings admit
- `Settings.reads_texts_iff`: settings are read from the texts of their values
- `Sources.load_described`: settings are built again from what they describe
-/

namespace SearchClient

/-! ### Fields of settings -/

theorem Numeric.Quantity.atMost_ofInt (m n : Int) : (ofInt m).atMost (ofInt n) = true ↔ m ≤ n := by
  rw [atMost, less_ofInt, same_ofInt, Bool.or_eq_true, decide_eq_true_eq, beq_iff_eq]
  omega

namespace Field

/-- A text that is accepted under a condition, or anything else that is. -/
private theorem accept_if_result_ok {α : Type} {p : Prop} [Decidable p] {a b : α} {fault : Fault} :
    (if p then Checked.accept a else .reject fault).result = .ok b ↔ p ∧ a = b := by
  split
  · rename_i hp
    exact ⟨fun h => ⟨hp, Except.ok.inj h⟩, fun h => congrArg Except.ok h.2⟩
  · rename_i hp
    exact ⟨nofun, fun h => absurd h.1 hp⟩

theorem nonEmptyText_result_ok {v : Value} {s : String} :
    (nonEmptyText v).result = .ok s ↔ (text v).result = .ok s ∧ s ≠ "" := by
  have hfilled (s : String) : (if s.isEmpty then Checked.reject (.tooShort 1) else .accept s) =
      if s ≠ "" then .accept s else .reject (.tooShort 1) := by
    simp only [String.isEmpty_iff, ne_eq, ite_not]
  rw [nonEmptyText, Checked.andThen_result_ok]
  simp only [hfilled, accept_if_result_ok]
  exact ⟨fun ⟨t, ht, hne, hs⟩ => hs ▸ ⟨ht, hne⟩, fun ⟨ht, hne⟩ => ⟨s, ht, hne, rfl⟩⟩

theorem atLeast_result_ok {least : Int} {c : Checked Int} {n : Int} :
    (atLeast Numeric.Quantity.ofInt least c).result = .ok n ↔ c.result = .ok n ∧ least ≤ n := by
  rw [atLeast, Checked.andThen_result_ok]
  simp only [Numeric.Quantity.atMost_ofInt, accept_if_result_ok]
  exact ⟨fun ⟨m, hm, hle, hn⟩ => hn ▸ ⟨hm, hle⟩, fun ⟨hn, hle⟩ => ⟨n, hn, hle, rfl⟩⟩

theorem atMost_result_ok {greatest : Int} {c : Checked Int} {n : Int} :
    (atMost Numeric.Quantity.ofInt greatest c).result = .ok n ↔
      c.result = .ok n ∧ n ≤ greatest := by
  rw [atMost, Checked.andThen_result_ok]
  simp only [Numeric.Quantity.atMost_ofInt, accept_if_result_ok]
  exact ⟨fun ⟨m, hm, hle, hn⟩ => hn ▸ ⟨hm, hle⟩, fun ⟨hn, hle⟩ => ⟨n, hn, hle, rfl⟩⟩

end Field

namespace Settings

/-- A number is within bounds, of which the upper one may be missing. -/
abbrev Within (least : Int) (greatest : Option Int) (n : Int) : Prop :=
  (∀ g ∈ greatest, n ≤ g) ∧ least ≤ n

theorem boundedInt_result_ok {least : Int} {greatest : Option Int} {v : Value} {n : Int} :
    (boundedInt least greatest v).result = .ok n ↔
      (Field.int v).result = .ok n ∧ Within least greatest n := by
  unfold boundedInt
  dsimp only
  rw [Field.atLeast_result_ok]
  cases greatest with
  | none => simp
  | some g => simp [Field.atMost_result_ok, and_assoc]

/-- The name of a level is one of five. -/
theorem mem_logLevels_of_level {v : Value} {s : String} (h : (level v).result = .ok s) :
    s ∈ logLevels := by
  obtain ⟨t, -, ht⟩ := Checked.andThen_result_ok.1 h
  dsimp only at ht
  split at ht
  · rename_i hmem
    obtain rfl := Except.ok.inj ht
    exact List.contains_iff_mem.1 hmem
  · exact nomatch ht

/-- Each setting is read from its own value, or is its default. -/
structure Reads (given : Row) (s : Settings) : Prop where
  host : (Field.optional given "host" Field.nonEmptyText ({} : Settings).host).result = .ok s.host
  port : (Field.optional given "port" (boundedInt 1 (some 65535)) ({} : Settings).port).result =
    .ok s.port
  connectTimeout : (Field.optional given "connect_timeout" (boundedInt 1 none)
    ({} : Settings).connectTimeout).result = .ok s.connectTimeout
  maxRetries : (Field.optional given "max_retries" (boundedInt 0 (some 10))
    ({} : Settings).maxRetries).result = .ok s.maxRetries
  retryDelay : (Field.optional given "retry_delay_seconds" delay
    ({} : Settings).retryDelay).result = .ok s.retryDelay
  maxMatches : (Field.optional given "max_matches" (boundedInt 1 none)
    ({} : Settings).maxMatches).result = .ok s.maxMatches
  poolPrePing : (Field.optional given "pool_pre_ping" Field.bool
    ({} : Settings).poolPrePing).result = .ok s.poolPrePing
  logLevel : (Field.optional given "log_level" level ({} : Settings).logLevel).result =
    .ok s.logLevel

theorem create_eq_ok_iff {given : Row} {s : Settings} : create given = .ok s ↔ Reads given s := by
  unfold create
  rw [Except.mapError_eq_ok, read, Checked.map_result_ok]
  simp only [Checked.and_result_ok]
  constructor
  · rintro ⟨p, ⟨⟨⟨⟨⟨⟨⟨hhost, hport⟩, htimeout⟩, hretries⟩, hdelay⟩, hmatches⟩, hping⟩, hlevel⟩, rfl⟩
    exact ⟨hhost, hport, htimeout, hretries, hdelay, hmatches, hping, hlevel⟩
  · intro h
    exact ⟨(((((((s.host, s.port), s.connectTimeout), s.maxRetries), s.retryDelay), s.maxMatches),
      s.poolPrePing), s.logLevel), ⟨⟨⟨⟨⟨⟨⟨h.host, h.port⟩, h.connectTimeout⟩, h.maxRetries⟩,
      h.retryDelay⟩, h.maxMatches⟩, h.poolPrePing⟩, h.logLevel⟩, rfl⟩

/-- What the checks of the settings admit. -/
structure Admitted (s : Settings) : Prop where
  host : s.host ≠ ""
  port : Within 1 (some 65535) s.port
  connectTimeout : Within 1 none s.connectTimeout
  maxRetries : Within 0 (some 10) s.maxRetries
  maxMatches : Within 1 none s.maxMatches
  logLevel : s.logLevel ∈ logLevels

private theorem within_of_optional {given : Row} {name : String} {least : Int}
    {greatest : Option Int} {fallback n : Int} (hfallback : Within least greatest fallback)
    (h : (Field.optional given name (boundedInt least greatest) fallback).result = .ok n) :
    Within least greatest n :=
  Field.optional_result_induction hfallback
    (fun _ _ hread => (boundedInt_result_ok.1 hread).2) h

/-- Settings that are built are admitted: the defaults are, and so is what is read. -/
theorem Reads.admitted {given : Row} {s : Settings} (h : Reads given s) : s.Admitted where
  host := Field.optional_result_induction (P := (· ≠ "")) (by decide)
    (fun _ _ hread => (Field.nonEmptyText_result_ok.1 hread).2) h.host
  port := within_of_optional (by decide) h.port
  connectTimeout := within_of_optional (by decide) h.connectTimeout
  maxRetries := within_of_optional (by decide) h.maxRetries
  maxMatches := within_of_optional (by decide) h.maxMatches
  logLevel := Field.optional_result_induction (P := (· ∈ logLevels)) (by decide)
    (fun _ _ => mem_logLevels_of_level) h.logLevel

/-! ### Settings that read their own texts -/

/-- The text of an integer is short enough to be read. -/
abbrev Writable (n : Int) : Prop := (toString n).length ≤ Field.maxIntLength

theorem boundedInt_toString {least : Int} {greatest : Option Int} {n : Int}
    (h : Within least greatest n) (hleast : 0 ≤ least) (hlength : Writable n) :
    (boundedInt least greatest (.str (toString n))).result = .ok n := by
  have hint := Field.int_of_readInt (Field.readInt_toString (Int.le_trans hleast h.2) hlength)
  exact boundedInt_result_ok.2 ⟨congrArg Checked.result hint, h⟩

/-- Five digits are enough for the bounded settings. -/
private theorem writable_of_le {n : Int} (hn : 0 ≤ n) (hle : n ≤ 65535) : Writable n := by
  rw [Writable, ← String.length_toList, Numeric.toList_toString, if_pos hn]
  have hfive : (Nat.toDigits 10 n.toNat).length ≤ 5 :=
    (Nat.length_toDigits_le_iff (by decide) (by decide)).2 (by omega)
  exact Nat.le_trans hfive (by decide)

theorem bool_text (b : Bool) : (Field.bool (.str (Value.bool b).text)).result = .ok b := by
  cases b <;> rfl

theorem level_of_mem {s : String} (h : s ∈ logLevels) : (level (.str s)).result = .ok s := by
  simp only [logLevels, List.mem_cons, List.not_mem_nil, or_false] at h
  rcases h with rfl | rfl | rfl | rfl | rfl <;> rfl

/-- Settings are read from the texts of their values, but for the delay. -/
theorem reads_texts_iff {s : Settings} (h : s.Admitted)
    (htimeout : Writable s.connectTimeout) (hmatches : Writable s.maxMatches) (s' : Settings) :
    Reads (s.fields.map fun e => (e.1, .str e.2.text)) s' ↔
      ∃ d, (delay (.str (Value.float s.retryDelay).text)).result = .ok d ∧
        s' = { s with retryDelay := d } := by
  let given : Row := s.fields.map fun e => (e.1, .str e.2.text)
  have hport := boundedInt_toString h.port (by decide)
    (writable_of_le (Int.le_trans (by decide) h.port.2) (h.port.1 _ rfl))
  have hretries := boundedInt_toString h.maxRetries (by decide)
    (writable_of_le h.maxRetries.2 (Int.le_trans (h.maxRetries.1 _ rfl) (by decide)))
  have htimeout := boundedInt_toString h.connectTimeout (by decide) htimeout
  have hmatches := boundedInt_toString h.maxMatches (by decide) hmatches
  have hhost : (Field.nonEmptyText (.str s.host)).result = .ok s.host :=
    Field.nonEmptyText_result_ok.2 ⟨rfl, h.host⟩
  have hping := bool_text s.poolPrePing
  have hlevel := level_of_mem h.logLevel
  -- A setting is read as one value, so it is the one that was described.
  have hone {α : Type} {name : String} {v : Value} {read : Value → Checked α} {fallback a b : α}
      (hv : given.get? name = some v) (hown : (read v).result = .ok a) :
      (Field.optional given name read fallback).result = .ok b ↔ b = a := by
    rw [Field.optional_result_iff hv, hown]
    exact ⟨fun hread => (Except.ok.inj hread).symm, fun hsame => by rw [hsame]⟩
  constructor
  · intro hreads
    refine ⟨s'.retryDelay, (Field.optional_result_iff rfl).1 hreads.retryDelay, ?_⟩
    rw [← (hone rfl hhost).1 hreads.host, ← (hone rfl hport).1 hreads.port,
      ← (hone rfl htimeout).1 hreads.connectTimeout, ← (hone rfl hretries).1 hreads.maxRetries,
      ← (hone rfl hmatches).1 hreads.maxMatches, ← (hone rfl hping).1 hreads.poolPrePing,
      ← (hone rfl hlevel).1 hreads.logLevel]
  · rintro ⟨d, hdelay, rfl⟩
    exact ⟨(hone rfl hhost).2 rfl, (hone rfl hport).2 rfl, (hone rfl htimeout).2 rfl,
      (hone rfl hretries).2 rfl, (hone rfl hdelay).2 rfl, (hone rfl hmatches).2 rfl,
      (hone rfl hping).2 rfl, (hone rfl hlevel).2 rfl⟩

/-! ### Settings that are built again -/

/-- The variables that settings describe, with the texts of their values. -/
def assignments (s : Settings) : List (String × String) :=
  (describe s.fields).map fun e => (e.1, e.2.text)

/-- No two settings are named by one variable, whatever its letters. -/
theorem apart_assignments (s : Settings) :
    s.assignments.Pairwise fun v w => Sources.fold v.1 ≠ Sources.fold w.1 := by
  have hfolds : s.assignments.map (fun v => Sources.fold v.1) =
      names.map fun name => Sources.fold (variableName name) := by
    rw [← map_fst_fields s, assignments, describe, List.map_map, List.map_map, List.map_map]
    rfl
  have hnodup : (names.map fun name => Sources.fold (variableName name)).Nodup := by
    decide +kernel
  rw [← hfolds] at hnodup
  exact List.pairwise_map.1 hnodup

end Settings

namespace Sources

/-- When the variables that settings describe are set, they give each setting its own text. -/
theorem given_setAll (s : Settings) {e : Environment}
    (he : ∀ name ∈ Settings.names, e.Decides (Settings.variableName name)) (file : Option String) :
    ({ environment := e.setAll s.assignments, file } : Sources).given [] =
      s.fields.map fun e => (e.1, .str e.2.text) := by
  unfold given
  rw [← Settings.map_fst_fields s, List.filterMap_map, List.filterMap_eq_map_iff_forall_eq_some]
  intro field hfield
  have hmem : (Settings.variableName field.1, field.2.text) ∈ s.assignments :=
    List.mem_map.2 ⟨_, List.mem_map_of_mem hfield, rfl⟩
  have hdecides : ∀ v ∈ s.assignments, e.Decides v.1 := by
    intro v hv
    obtain ⟨w, hw, rfl⟩ := List.mem_map.1 hv
    obtain ⟨field, hfield, rfl⟩ := List.mem_map.1 hw
    refine he field.1 ?_
    rw [← Settings.map_fst_fields s]
    exact List.mem_map_of_mem hfield
  have hset := Environment.counting?_setAll s.apart_assignments hdecides _ hmem
  have hnamed : named? (e.setAll s.assignments) field.1 = some field.2.text := by
    rw [named?_eq, hset]
    rfl
  change ((text? _ field.1).map fun t => (field.1, Value.str t)) = _
  rw [text?, hnamed]
  rfl

/-- Settings are built again from the variables that they describe, if no variable with the name of
one of them in other letters stands behind it, and their integers are not too long to be written.
Whatever the file says, they are built if the text of the delay is accepted as a delay, and then
they are the same but for that. -/
theorem load_described {sources : Sources} {explicit : Row} {s : Settings}
    (hload : sources.load explicit = .ok s)
    (htimeout : Settings.Writable s.connectTimeout) (hmatches : Settings.Writable s.maxMatches)
    {e : Environment}
    (he : ∀ name ∈ Settings.names, e.Decides (Settings.variableName name)) (file : Option String) :
    let again : Sources := { environment := e.setAll s.assignments, file }
    (∀ s', again.load [] = .ok s' ↔
      ∃ d, (Settings.delay (.str (Value.float s.retryDelay).text)).result = .ok d ∧
        s' = { s with retryDelay := d }) ∧
      ∀ s', again.load [] = .ok s' → s'.url = s.url ∧
        ∀ v ∈ Settings.describe s.fields, v.1 ≠ Settings.variableName "retry_delay_seconds" →
          v ∈ Settings.describe s'.fields := by
  intro again
  have hagain (s' : Settings) : again.load [] = .ok s' ↔
      ∃ d, (Settings.delay (.str (Value.float s.retryDelay).text)).result = .ok d ∧
        s' = { s with retryDelay := d } := by
    unfold load
    rw [Settings.create_eq_ok_iff, given_setAll s he file]
    exact Settings.reads_texts_iff (Settings.create_eq_ok_iff.1 hload).admitted htimeout hmatches s'
  refine ⟨hagain, fun s' hs' => ?_⟩
  obtain ⟨d, -, rfl⟩ := (hagain s').1 hs'
  refine ⟨rfl, fun v hv hname => ?_⟩
  obtain ⟨field, hfield, rfl⟩ := List.mem_map.1 hv
  refine List.mem_map_of_mem ?_
  simp only [Settings.fields, List.mem_cons, List.not_mem_nil, or_false] at hfield ⊢
  rcases hfield with h | h | h | h | rfl | h | h | h
  -- Only the delay is read anew.
  case inr.inr.inr.inr.inl => exact absurd rfl hname
  all_goals simp [h]

/-- A variable in small letters stands in front of what is set, and another one in the place of a
setting that is set again. The settings are built again as they were, whatever the file says. -/
theorem load_described_of_small_letters :
    let sources : Sources := { environment := [("SPHINX_PORT", " 3_307 ")] }
    let explicit : Row := [("log_level", .str "debug")]
    let s : Settings := { port := 3307, logLevel := "DEBUG" }
    let e : Environment := [("sphinx_host", "a"), ("SPHINX_LOG_LEVEL", "?")]
    (sources.load explicit = .ok s ∧ Settings.Writable s.connectTimeout ∧
        Settings.Writable s.maxMatches ∧
        ∀ name ∈ Settings.names, e.Decides (Settings.variableName name)) ∧
      s.url = "mysql+pymysql://127.0.0.1:3307" ∧
      ∀ file, ({ environment := e.setAll s.assignments, file } : Sources).load [] = .ok s := by
  intro sources explicit s e
  have hload : sources.load explicit = .ok s := rfl
  have he : ∀ name ∈ Settings.names, e.Decides (Settings.variableName name) := by
    decide +kernel
  have htimeout : Settings.Writable s.connectTimeout := by decide
  have hmatches : Settings.Writable s.maxMatches := by decide
  have hdelay : (Settings.delay (.str (Value.float 1).text)).result = .ok 1 := rfl
  refine ⟨⟨hload, htimeout, hmatches, he⟩, by decide +kernel, fun file => ?_⟩
  exact ((load_described hload htimeout hmatches he file).1 s).2 ⟨1, hdelay, rfl⟩

private theorem get?_given_host {sources : Sources} {text : String}
    (h : sources.text? "host" = some text) :
    (sources.given []).get? "host" = some (.str text) := by
  have hfirst : explicit? [] "host" = none := rfl
  unfold given Settings.names
  simp only [List.filterMap_cons, hfirst, h, Option.map_some]
  rfl

/-- Of two variables that name the host the first is set, and the second counts. -/
theorem load_of_other_letters :
    let e : Environment := [("SPHINX_HOST", "a"), ("sphinx_host", "b")]
    let s : Settings := { host := "c" }
    ({ environment := e } : Sources).load [("host", .str "c")] = .ok s ∧
      ¬∃ s', ({ environment := e.setAll s.assignments } : Sources).load [] = .ok s' ∧
        s'.host = s.host := by
  intro e s
  refine ⟨rfl, ?_⟩
  rintro ⟨s', hs', hhost⟩
  obtain ⟨rest, hrest⟩ : ∃ rest, s.assignments = (Settings.variableName "host", "c") :: rest :=
    ⟨_, rfl⟩
  have hnamed : named? (e.setAll s.assignments) "host" = some "b" := by
    have hapart := s.apart_assignments
    rw [hrest] at hapart ⊢
    rw [named?_eq, Environment.counting?_setAll_cons hapart]
    decide +kernel
  have htext : ({ environment := e.setAll s.assignments } : Sources).text? "host" = some "b" := by
    rw [text?, hnamed]
  have hread := (Settings.create_eq_ok_iff.1 hs').host
  rw [Field.optional_result_iff (get?_given_host htext), Field.nonEmptyText_result_ok] at hread
  have hb : "b" = s'.host := Except.ok.inj hread.1
  exact absurd (hb.trans hhost) (by decide)

end Sources

end SearchClient
