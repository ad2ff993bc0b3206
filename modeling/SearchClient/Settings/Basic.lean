import SearchClient.Record.Kind
import SearchClient.Text.Case

/-!
# Settings

How the engine is reached and how the client behaves, with a default for everything. Settings are
checked when they are built: numbers have bounds, the host is not empty, and the log level is the
name of one.
-/

namespace SearchClient

/-- Settings of a client. -/
structure Settings where
  host : String := "127.0.0.1"
  port : Int := 9306
  /-- Seconds to wait for a connection. -/
  connectTimeout : Int := 10
  /-- Repetitions when a connection cannot be opened. -/
  maxRetries : Int := 3
  /-- Seconds before the first repetition. -/
  retryDelay : Float := 1
  /-- Rows of a window without a limit. -/
  maxMatches : Int := 1000
  /-- Whether a connection is tried before it is handed out. -/
  poolPrePing : Bool := true
  logLevel : String := "INFO"
  deriving Inhabited

namespace Settings

/-- Name of the settings, as messages show it. -/
def title : String := "SphinxSettings"

/-- What the names of variables begin with. -/
def namePrefix : String := "SPHINX_"

/-- Levels that may be set. -/
def logLevels : List String := ["DEBUG", "INFO", "WARNING", "ERROR", "CRITICAL"]

/-- The settings in order, by name. -/
def fields (s : Settings) : Row :=
  [("host", .str s.host), ("port", .int s.port), ("connect_timeout", .int s.connectTimeout),
   ("max_retries", .int s.maxRetries), ("retry_delay_seconds", .float s.retryDelay),
   ("max_matches", .int s.maxMatches), ("pool_pre_ping", .bool s.poolPrePing),
   ("log_level", .str s.logLevel)]

/-- Names of the settings in order. -/
def names : List String :=
  ["host", "port", "connect_timeout", "max_retries", "retry_delay_seconds", "max_matches",
   "pool_pre_ping", "log_level"]

/-- A whole number with bounds. -/
def boundedInt (least : Int) (greatest : Option Int) (v : Value) : Checked Int :=
  let upper :=
    match greatest with
    | some g => Field.atMost Numeric.Quantity.ofInt g (Field.int v)
    | none => Field.int v
  Field.atLeast Numeric.Quantity.ofInt least upper

/-- A delay of at most a minute. -/
def delay (v : Value) : Checked Float :=
  Field.atLeast Numeric.Quantity.ofFloat 0
    (Field.atMost Numeric.Quantity.ofFloat 60 (Field.float v))

/-- The name of a log level, in any case. -/
def level (v : Value) : Checked String :=
  (Field.text v).andThen fun s =>
    let name := Text.upper s
    if logLevels.contains name then .accept name
    else .reject (.refused ("Invalid log level '" ++ s ++ "'"))

/-- Settings from named values; what is not named has its default. -/
def read (given : Row) : Checked Settings :=
  let d : Settings := {}
  (Field.optional given "host" Field.nonEmptyText d.host
    |>.and (Field.optional given "port" (boundedInt 1 (some 65535)) d.port)
    |>.and (Field.optional given "connect_timeout" (boundedInt 1 none) d.connectTimeout)
    |>.and (Field.optional given "max_retries" (boundedInt 0 (some 10)) d.maxRetries)
    |>.and (Field.optional given "retry_delay_seconds" delay d.retryDelay)
    |>.and (Field.optional given "max_matches" (boundedInt 1 none) d.maxMatches)
    |>.and (Field.optional given "pool_pre_ping" Field.bool d.poolPrePing)
    |>.and (Field.optional given "log_level" level d.logLevel)).map fun p =>
      let q := p.1.1.1.1
      { host := q.1.1.1, port := q.1.1.2, connectTimeout := q.1.2, maxRetries := q.2
        retryDelay := p.1.1.1.2, maxMatches := p.1.1.2, poolPrePing := p.1.2, logLevel := p.2 }

/-- Settings from named values, or everything that is wrong with them. -/
def create (given : Row) : Except Failure Settings :=
  (read given).result.mapError (.rejected title)

/-- Variable that a setting is named by. -/
def variableName (name : String) : String := Text.upper (namePrefix ++ name)

/-- Values by the variables that name them. -/
def describe (fields : Row) : Row := fields.map fun e => (variableName e.1, e.2)

/-- Address of the engine in a set of named values. -/
def address (fields : Row) : Except Failure String := do
  let host ← ((fields.get? "host").getD .null).written
  let port ← ((fields.get? "port").getD .null).written
  return "mysql+pymysql://" ++ host ++ ":" ++ port

/-- Address of the engine. -/
def url (s : Settings) : String := "mysql+pymysql://" ++ s.host ++ ":" ++ toString s.port

/-- Address of the engine without its scheme. -/
def authority (s : Settings) : String := s.host ++ ":" ++ toString s.port

theorem get?_host (s : Settings) : s.fields.get? "host" = some (.str s.host) := by
  simp [fields, Row.get?]

theorem get?_port (s : Settings) : s.fields.get? "port" = some (.int s.port) := by
  simp [fields, Row.get?]

/-- The address in the values of settings is their own. -/
theorem address_fields {s : Settings} (hport : Value.fitsDigits s.port = true) :
    address s.fields = .ok s.url := by
  have hhost : (Value.str s.host).written = .ok s.host := rfl
  have hnumber : (Value.int s.port).written = .ok (toString s.port) :=
    Value.written_of_isWritable hport
  rw [address, get?_host, get?_port, Option.getD_some, Option.getD_some, hhost, hnumber]
  rfl

theorem map_fst_fields (s : Settings) : s.fields.map Prod.fst = names := by
  simp [fields, names]

end Settings

end SearchClient
