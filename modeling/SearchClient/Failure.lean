import SearchClient.Value.Text

/-!
# Failures

Everything that can go wrong, by cause. A client error has a code, structured details and perhaps
a cause of its own. A rejected record lists its faults. Anything else is raised by a collaborator
or by an operation on a value of the wrong kind, and belongs to a class; classes form a hierarchy
by which callers select failures.
-/

namespace SearchClient

/-- Classes of failures. -/
inductive FailureClass where
  | general | runtime | value | key | type | os | lookup | connection | attr
  | zeroDivision | overflow | database
  | rejected | client
  /-- An index beyond the end of a list. -/
  | index
  /-- Bytes that encode no text. -/
  | encoding
  /-- A value that has no plain form. -/
  | serialization
  /-- An operation on decimals without a result. -/
  | decimal
  /-- An operation on decimals whose result is too large. -/
  | decimalRange
  /-- A statement that the table refuses because of its parameters. -/
  | programming
  /-- A statement that the table cannot read. -/
  | operational
  /-- No failure at all: a value of some kind that was given in the place of one. -/
  | other (kind : String)
  deriving DecidableEq, Repr, Inhabited

namespace FailureClass

/-- All classes of failures. -/
def all : List FailureClass :=
  [general, runtime, value, key, type, os, lookup, connection, attr, zeroDivision, overflow,
   database, rejected, client, index, encoding, serialization, decimal,
   decimalRange, programming, operational]

/-- Name of a class, as answers show it. -/
def name : FailureClass → String
  | general => "Exception"
  | runtime => "RuntimeError"
  | value => "ValueError"
  | key => "KeyError"
  | type => "TypeError"
  | os => "OSError"
  | lookup => "LookupError"
  | connection => "ConnectionError"
  | attr => "AttributeError"
  | zeroDivision => "ZeroDivisionError"
  | overflow => "OverflowError"
  | database => "SQLAlchemyError"
  | rejected => "ValidationError"
  | client => "SphinxQLError"
  | index => "IndexError"
  | encoding => "UnicodeDecodeError"
  | serialization => "PydanticSerializationError"
  | decimal => "InvalidOperation"
  | decimalRange => "Overflow"
  | programming => "ProgrammingError"
  | operational => "OperationalError"
  | other kind => kind

/-- Class of a name. -/
def ofName? (s : String) : Option FailureClass := all.find? (·.name == s)

/-- The class itself and the wider classes that contain it. -/
def ancestors : FailureClass → List FailureClass
  | general => [general]
  | key => [key, lookup, general]
  | connection => [connection, os, general]
  | rejected => [rejected, value, general]
  | index => [index, lookup, general]
  | encoding => [encoding, value, general]
  | serialization => [serialization, value, general]
  | programming => [programming, database, general]
  | operational => [operational, database, general]
  | c => [c, general]

/-- Whether a failure of the first class is selected by the second. -/
def isA (c wider : FailureClass) : Bool := c.ancestors.contains wider

/-- Whether the class is one of failures. -/
def isFailure : FailureClass → Bool
  | other _ => false
  | _ => true

theorem isA_general (c : FailureClass) : c.isA general = true := by
  cases c <;> simp [isA, ancestors]

end FailureClass

/-- A step on the way to a rejected part of a record. -/
inductive Step where
  | field (name : String)
  | index (n : Nat)
  | entry (key : Value)

/-- Why a field of a record is rejected. -/
inductive Fault where
  | missing
  | frozen
  | notText
  | notUnicode
  | tooShort (least : Nat)
  | notMember (allowed : List String)
  | notTuple
  | notList
  | notMapping
  | notBool
  | boolText
  | notInt
  | intText
  /-- A number that is too large to be read. -/
  | intSize
  | fractional
  | notFinite
  | notFloat
  | floatText
  | belowMinimum (least : Int)
  | aboveMaximum (greatest : Int)
  /-- A name that is no field. -/
  | unknownField (name : String)
  | refused (reason : String)
  deriving DecidableEq, Repr

/-- One rejected part of a record. -/
structure Issue where
  path : List Step
  fault : Fault

/-- Anything that can go wrong. -/
inductive Failure where
  /-- An error of the client with the member of a closed set that says its category. `retryable`
  says whether a repetition may succeed. -/
  | client (code : Keyword) (message details : Value) (cause : Option Failure) (retryable : Value)
  /-- A record with rejected fields. -/
  | rejected (record : String) (issues : List Issue)
  /-- A failure of another class, with its text and perhaps the failure behind it. -/
  | raised (kind : FailureClass) (text : String) (cause : Option Failure)

namespace Failure

/-- An operation on a value of the wrong kind. -/
def wrongKind (text : String) : Failure := raised .type text none

/-- A missing attribute. -/
def noAttribute (text : String) : Failure := raised .attr text none

/-- A value outside the range of an operation. -/
def badValue (text : String) : Failure := raised .value text none

/-- A key that is not present; its text is the quoted key. -/
def noKey (key : Value) : Failure := raised .key key.literal none

/-- A failure of a class with a message, or with no text if there is none. -/
def ofClass (kind : FailureClass) (message : Option String) : Failure :=
  match kind, message with
  | .key, some m => noKey (.str m)
  | kind, message => raised kind (message.getD "") none

/-- The failure that arises where one is built: the one that was meant, or what kept it from being
built. -/
def arising : Except Failure Failure → Failure
  | .ok f | .error f => f

/-- Class of a failure. -/
def kind : Failure → FailureClass
  | client .. => .client
  | rejected .. => .rejected
  | raised kind _ _ => kind

/-- Text of a failure, as messages show it. A client error shows its code, and its cause. -/
def text : Failure → String
  | client code message _ none _ => "[" ++ code.text ++ "] " ++ message.text
  | client code message _ (some cause) _ =>
    "[" ++ code.text ++ "] " ++ message.text ++ " (caused by: " ++ cause.kind.name ++ ": " ++
      cause.text ++ ")"
  | rejected record issues =>
    toString issues.length ++ " validation error" ++ (if issues.length = 1 then "" else "s") ++
      " for " ++ record
  | raised _ text _ => text

/-- Whether a repetition may succeed; only client errors say so. -/
def retryable : Failure → Value
  | client _ _ _ _ retryable => retryable
  | _ => .bool false

/-- Code of a client error. -/
def code? : Failure → Option ErrorCode
  | client (.errorCode code) .. => some code
  | _ => none

/-- Whether the failure is a client error of the given code. -/
def hasCode (f : Failure) (code : ErrorCode) : Bool := f.code? == some code

/-- A failure kept as a value, with the message that it was built from. -/
def toValue (f : Failure) (message : Option Value) : Value :=
  .failure f.kind.name f.text (f.kind.name ++ "(" ++ (message.map Value.literal).getD "" ++ ")")

/-- Structured form of a client error. -/
def describe (code : Keyword) (message details retryable : Value) : Row :=
  [("type", .str FailureClass.client.name), ("message", message),
   ("error_code", .str code.text), ("error_name", .str code.name), ("details", details),
   ("is_retryable", retryable)]

end Failure

namespace Fault

/-- Quoted alternatives, the last joined by "or". -/
private def alternatives : List String → String
  | [] => ""
  | [a] => "'" ++ a ++ "'"
  | [a, b] => "'" ++ a ++ "' or '" ++ b ++ "'"
  | a :: rest => "'" ++ a ++ "', " ++ alternatives rest

/-- Name of a fault. -/
def name : Fault → String
  | missing => "missing"
  | frozen => "frozen_instance"
  | notText => "string_type"
  | notUnicode => "string_unicode"
  | tooShort _ => "string_too_short"
  | notMember _ => "enum"
  | notTuple => "tuple_type"
  | notList => "list_type"
  | notMapping => "dict_type"
  | notBool => "bool_type"
  | boolText => "bool_parsing"
  | notInt => "int_type"
  | intText => "int_parsing"
  | intSize => "int_parsing_size"
  | fractional => "int_from_float"
  | notFinite => "finite_number"
  | notFloat => "float_type"
  | floatText => "float_parsing"
  | belowMinimum _ => "greater_than_equal"
  | aboveMaximum _ => "less_than_equal"
  | unknownField _ => "no_such_attribute"
  | refused _ => "value_error"

/-- Wording of a fault. -/
def message : Fault → String
  | missing => "Field required"
  | frozen => "Instance is frozen"
  | notText => "Input should be a valid string"
  | notUnicode => "Input should be a valid string, unable to parse raw data as a unicode string"
  | tooShort least =>
    "String should have at least " ++ toString least ++
      (if least = 1 then " character" else " characters")
  | notMember allowed => "Input should be " ++ alternatives allowed
  | notTuple => "Input should be a valid tuple"
  | notList => "Input should be a valid list"
  | notMapping => "Input should be a valid dictionary"
  | notBool => "Input should be a valid boolean"
  | boolText => "Input should be a valid boolean, unable to interpret input"
  | notInt => "Input should be a valid integer"
  | intText => "Input should be a valid integer, unable to parse string as an integer"
  | intSize => "Unable to parse input string as an integer, exceeded maximum size"
  | fractional => "Input should be a valid integer, got a number with a fractional part"
  | notFinite => "Input should be a finite number"
  | notFloat => "Input should be a valid number"
  | floatText => "Input should be a valid number, unable to parse string as a number"
  | belowMinimum least => "Input should be greater than or equal to " ++ toString least
  | aboveMaximum greatest => "Input should be less than or equal to " ++ toString greatest
  | unknownField name => "Object has no attribute '" ++ name ++ "'"
  | refused reason => "Value error, " ++ reason

end Fault

end SearchClient
