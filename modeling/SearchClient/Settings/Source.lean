import SearchClient.Settings.Basic
import SearchClient.Settings.Dotenv

/-!
# Sources of settings

A setting comes from the first of these that names it: an explicit value, a variable of the
environment, a line of the file of variables, its default. Names are compared without regard to
case; of several explicit values the first counts, of several variables the last.

A client keeps one set of settings for all its parts. A forced reading replaces it only if it
succeeds; a reload forgets it first.
-/

namespace SearchClient

/-- Variables of the environment, in the order in which they were first set. -/
abbrev Environment := List (String × String)

namespace Environment

/-- Sets a variable. -/
def set : Environment → String → String → Environment
  | [], name, value => [(name, value)]
  | (n, v) :: rest, name, value =>
    if n = name then (n, value) :: rest else (n, v) :: Environment.set rest name value

/-- Removes a variable. -/
def unset (e : Environment) (name : String) : Environment := e.filter (·.1 != name)

/-- Value of a variable. -/
def get? (e : Environment) (name : String) : Option String := (e.find? (·.1 == name)).map (·.2)

end Environment

/-- Where settings come from besides explicit values. -/
structure Sources where
  environment : Environment := []
  /-- Text of the file of variables, if there is one. -/
  file : Option String := none

namespace Sources

/-- A name without regard to the case of ASCII letters. -/
def fold (name : String) : String := String.ofList (name.toList.map Char.toLower)

/-- Value of the last variable that a setting is named by. -/
def named? {α : Type} (known : List (String × α)) (setting : String) : Option α :=
  let name := fold (Settings.variableName setting)
  (known.reverse.find? fun e => fold e.1 == name).map (·.2)

/-- Variables that the file sets. -/
def fileVariables (s : Sources) : List Dotenv.Binding :=
  match s.file with
  | some text => Dotenv.distinct (Dotenv.resolve s.environment.get? [] (Dotenv.bindings text))
  | none => []

/-- Text that the environment or the file has for a setting. -/
def text? (s : Sources) (setting : String) : Option String :=
  match named? s.environment setting with
  | some v => some v
  | none => (named? s.fileVariables setting).join

/-- The first explicit value of a setting. -/
def explicit? (explicit : Row) (setting : String) : Option Value :=
  (explicit.find? fun e => fold e.1 == setting).map (·.2)

/-- Values of all settings that are named somewhere. -/
def given (s : Sources) (explicit : Row) : Row :=
  Settings.names.filterMap fun name =>
    match explicit? explicit name with
    | some v => some (name, v)
    | none => (s.text? name).map fun t => (name, .str t)

/-- Settings with explicit values before all sources. -/
def load (s : Sources) (explicit : Row) : Except Failure Settings :=
  Settings.create (s.given explicit)

end Sources

/-- All settings that were built, by number, and those that are current. An object's values may be
changed without a check. -/
structure SettingsStore where
  sources : Sources := {}
  objects : List Row := []
  current : Option Nat := none

namespace SettingsStore

/-- Keeps new settings; their number. -/
def add (s : SettingsStore) (settings : Settings) : Nat × SettingsStore :=
  (s.objects.length, { s with objects := s.objects ++ [settings.fields] })

/-- Builds settings from explicit values and the sources. -/
def create (s : SettingsStore) (explicit : Row) : Except Failure Nat × SettingsStore :=
  match s.sources.load explicit with
  | .ok settings =>
    let (id, s) := s.add settings
    (.ok id, s)
  | .error f => (.error f, s)

/-- The current settings; built from the sources if there are none, or if that is forced. -/
def get (s : SettingsStore) (force : Bool) : Except Failure Nat × SettingsStore :=
  match s.current, force with
  | some id, false => (.ok id, s)
  | _, _ =>
    match s.create [] with
    | (.ok id, s) => (.ok id, { s with current := some id })
    -- What was current stays so.
    | (.error f, s) => (.error f, s)

/-- Forgets the current settings and builds them anew. -/
def reload (s : SettingsStore) : Except Failure Nat × SettingsStore :=
  { s with current := none }.get true

/-- Values of an object. -/
def values (s : SettingsStore) (id : Nat) : Row := s.objects.getD id []

/-- Changes a value of an object, unchecked. -/
def assign (s : SettingsStore) (id : Nat) (name : String) (value : Value) :
    Except Failure Nat × SettingsStore :=
  let row := s.values id
  if (row.get? name).isSome then
    (.ok id, { s with objects := s.objects.set id (Row.put row name value) })
  -- A note is no setting, so nothing shows it.
  else if RecordKind.namesNote name then (.ok id, s)
  else
    (.error (.badValue ("\"" ++ Settings.title ++ "\" object has no field \"" ++ name ++ "\"")), s)

/-- Settings that are current are found again without looking at the sources. -/
theorem get_current (s : SettingsStore) {id : Nat} (h : s.current = some id) :
    s.get false = (.ok id, s) := by
  unfold get
  rw [h]

end SettingsStore

end SearchClient
