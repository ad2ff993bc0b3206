import SearchClient.Log.Record
import SearchClient.Value.Entries
import SearchClient.Value.Template

/-!
# Log levels

A level is a number. Some numbers have names, and some names are second names of the same level;
zero stands for a level that is not set.
-/

namespace SearchClient.Level

/-- Level that is not set. -/
def unset : Int := 0

/-- Names of levels, the first name of a level before its others. -/
def named : List (String × Int) :=
  [("NOTSET", unset), ("DEBUG", Severity.debug.rank), ("INFO", Severity.info.rank),
   ("WARNING", Severity.warning.rank), ("WARN", Severity.warning.rank),
   ("ERROR", Severity.error.rank), ("CRITICAL", Severity.critical.rank),
   ("FATAL", Severity.critical.rank)]

/-- Level of a name in capitals. -/
def ofName? (name : String) : Option Int := (named.find? (·.1 == name)).map (·.2)

/-- First name of a number, in whatever form it is given. -/
def nameOf? (level : Value) : Option String :=
  (named.find? fun e => Value.same (.int e.2) level).map (·.1)

/-- What a level is shown by: a number by its name, a name by its number, anything else by its
text. -/
def label (level : Value) : Except Failure Value :=
  if !level.isKey then .error Value.noKey
  else
    match nameOf? level, level.asText?.bind ofName? with
    | some name, _ => .ok (.str name)
    | none, some n => .ok (.int n)
    | none, none => (Template.fill "Level %s" level).map .str

end SearchClient.Level
