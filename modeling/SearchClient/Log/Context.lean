import SearchClient.Log.Entry
import SearchClient.Span

/-!
# Log context

What every log entry is stamped with: fields that hold for the whole process, the request and the
user on whose behalf the client works, and the name and version of the client. Request and user
may be set for a scope; leaving the scope brings the earlier ones back, however it is left.
-/

namespace SearchClient

/-- On whose behalf the client works. -/
structure Origin where
  request : Value := .null
  user : Value := .null
  deriving Inhabited

/-- What entries are stamped with. -/
structure LogContext where
  /-- Fields that hold for the whole process. -/
  fixed : Row := []
  origin : Origin := {}
  /-- Origins to come back to, of the innermost scope first. -/
  outer : List Origin := []
  /-- Version of the client that is installed. -/
  version : String := "0.1.0"
  deriving Inhabited

namespace LogContext

/-- Name of the client in log entries. -/
def clientName : String := "sphinxql"

/-- Replaces the fields that hold for the whole process. -/
def setFixed (c : LogContext) (environment : Value) (extra : Row) : LogContext :=
  let first := if environment.isNull then [] else [("environment", environment)]
  { c with fixed := Row.putAll first extra }

/-- Changes the request or the user, each if it is given. -/
def setOrigin (c : LogContext) (request user : Value) : LogContext :=
  { c with
    origin :=
      { request := if request.isNull then c.origin.request else request
        user := if user.isNull then c.origin.user else user } }

/-- Forgets the request and the user. -/
def clearOrigin (c : LogContext) : LogContext := { c with origin := {} }

/-- Enters a scope with a request and a user of its own. -/
def enter (c : LogContext) (origin : Origin) : LogContext :=
  { c with origin, outer := c.origin :: c.outer }

/-- Leaves the innermost scope. -/
def leave (c : LogContext) : LogContext :=
  match c.outer with
  | [] => c
  | origin :: outer => { c with origin, outer }

/-- Fields that entries are stamped with. -/
def stamps (c : LogContext) : Row :=
  c.fixed ++
    [("request_id", c.origin.request), ("user_id", c.origin.user),
     ("sdk_name", .str clientName), ("sdk_version", .str c.version)]

/-- Stamps an entry. -/
def stamp (c : LogContext) (e : LogEntry) : LogEntry := e.writeAll c.stamps

/-- Fields of the first entry that the second did not have. -/
def added (stamped before : LogEntry) : Row :=
  stamped.extras.filter fun e => (before.extras.get? e.1).isNone

end LogContext

end SearchClient
