/-!
# Keywords

The closed sets of words that the client, its statements and its answers use: comparison
operators, sort directions, the joins of full-text expressions, the state of a query's cache and
of its statistics, and the codes of its errors. Each member has a name and a text; a text
determines its member.
-/

namespace SearchClient

/-- Comparison operators of a condition. -/
inductive Operator where
  | eq | ne | lt | gt | le | ge | isIn | notIn | between
  deriving DecidableEq, Repr, Inhabited

/-- Sort directions. -/
inductive Direction where
  | asc | desc
  deriving DecidableEq, Repr, Inhabited

/-- Joins between full-text expressions. -/
inductive Combinator where
  | and | or
  deriving DecidableEq, Repr, Inhabited

/-- Whether the cached text and results of a query reflect its clauses. -/
inductive QueryState where
  | clean | dirty
  deriving DecidableEq, Repr, Inhabited

/-- Whether statistics were asked for, and whether there were any. -/
inductive MetadataState where
  | notRun | empty | populated
  deriving DecidableEq, Repr, Inhabited

/-- Categories of client errors. -/
inductive ErrorCode where
  | config | invalidArgument | invalidState | connection | queryExecution | hydration
  deriving DecidableEq, Repr, Inhabited

namespace Operator

def all : List Operator := [eq, ne, lt, gt, le, ge, isIn, notIn, between]

def name : Operator → String
  | eq => "EQ" | ne => "NE" | lt => "LT" | gt => "GT" | le => "LTE" | ge => "GTE"
  | isIn => "IN" | notIn => "NOT_IN" | between => "BETWEEN"

def text : Operator → String
  | eq => "=" | ne => "!=" | lt => "<" | gt => ">" | le => "<=" | ge => ">="
  | isIn => "IN" | notIn => "NOT IN" | between => "BETWEEN"

/-- Operator written by exactly this text. -/
def ofText? (s : String) : Option Operator := all.find? (·.text == s)

/-- Whether the operator compares with a list of values. -/
def takesList : Operator → Bool
  | isIn | notIn => true
  | _ => false

end Operator

namespace Direction

def all : List Direction := [asc, desc]

def name : Direction → String
  | asc => "ASC" | desc => "DESC"

def text : Direction → String := name

def ofText? (s : String) : Option Direction := all.find? (·.text == s)

end Direction

namespace Combinator

def all : List Combinator := [and, or]

def name : Combinator → String
  | and => "AND" | or => "OR"

def text : Combinator → String
  | and => "&" | or => "|"

def ofText? (s : String) : Option Combinator := all.find? (·.text == s)

end Combinator

namespace QueryState

def all : List QueryState := [clean, dirty]

def name : QueryState → String
  | clean => "CLEAN" | dirty => "DIRTY"

def text : QueryState → String := name

end QueryState

namespace MetadataState

def all : List MetadataState := [notRun, empty, populated]

def name : MetadataState → String
  | notRun => "NOT_RUN" | empty => "EMPTY" | populated => "POPULATED"

def text : MetadataState → String := name

def ofText? (s : String) : Option MetadataState := all.find? (·.text == s)

end MetadataState

namespace ErrorCode

def all : List ErrorCode :=
  [config, invalidArgument, invalidState, connection, queryExecution, hydration]

def name : ErrorCode → String
  | config => "CONFIG_ERROR"
  | invalidArgument => "INVALID_ARGUMENT"
  | invalidState => "INVALID_STATE"
  | connection => "CONNECTION_ERROR"
  | queryExecution => "QUERY_EXECUTION_ERROR"
  | hydration => "HYDRATION_ERROR"

def text : ErrorCode → String
  | config => "CONFIG_001"
  | invalidArgument => "VALIDATION_001"
  | invalidState => "STATE_001"
  | connection => "CONNECTION_001"
  | queryExecution => "EXECUTION_001"
  | hydration => "HYDRATION_001"

/-- Category of a name. -/
def ofName? (s : String) : Option ErrorCode := all.find? (·.name == s)

end ErrorCode

/-- A member of one of the closed sets, used as a value. -/
inductive Keyword where
  | operator (o : Operator)
  | direction (d : Direction)
  | combinator (c : Combinator)
  | queryState (s : QueryState)
  | metadataState (s : MetadataState)
  | errorCode (c : ErrorCode)
  deriving DecidableEq, Repr

namespace Keyword

/-- All members, grouped by family. -/
def all : List Keyword :=
  Operator.all.map operator ++ ErrorCode.all.map errorCode ++ Combinator.all.map combinator ++
    MetadataState.all.map metadataState ++ Direction.all.map direction ++
    QueryState.all.map queryState

/-- Name of the set a member belongs to. -/
def family : Keyword → String
  | operator _ => "ConditionOperator"
  | direction _ => "OrderDirection"
  | combinator _ => "MatchCombinator"
  | queryState _ => "QueryState"
  | metadataState _ => "MetadataState"
  | errorCode _ => "ErrorCode"

def name : Keyword → String
  | operator o => o.name
  | direction d => d.name
  | combinator c => c.name
  | queryState s => s.name
  | metadataState s => s.name
  | errorCode c => c.name

def text : Keyword → String
  | operator o => o.text
  | direction d => d.text
  | combinator c => c.text
  | queryState s => s.text
  | metadataState s => s.text
  | errorCode c => c.text

/-- Name with its family, as a member is shown. -/
def path (k : Keyword) : String := k.family ++ "." ++ k.name

/-- Error codes are not texts; every other member may stand where a text is expected. -/
def isText : Keyword → Bool
  | errorCode _ => false
  | _ => true

/-- Member shown by this path. -/
def ofPath? (s : String) : Option Keyword := all.find? (·.path == s)

/-- The families and, for each, the names and texts of its members in order. -/
def families : List (String × List (String × String)) :=
  let group (ks : List Keyword) := ks.map fun k => (k.name, k.text)
  [("ConditionOperator", group (Operator.all.map operator)),
   ("OrderDirection", group (Direction.all.map direction)),
   ("MatchCombinator", group (Combinator.all.map combinator)),
   ("QueryState", group (QueryState.all.map queryState)),
   ("MetadataState", group (MetadataState.all.map metadataState)),
   ("ErrorCode", group (ErrorCode.all.map errorCode))]

end Keyword

end SearchClient
