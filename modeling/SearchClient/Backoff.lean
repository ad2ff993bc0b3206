import SearchClient.Value.Numeral
import SearchClient.World

/-!
# Repeating a call

A call that fails for a passing reason is repeated after a wait. Each wait is the one before it
times a base, cut at a ceiling; the first wait is given. A failure that is not accepted ends the
repetition at once, and so does a failure when no repetition is left. What is thrown and is no
failure, such as an interrupt, is not caught at all.

What a repetition is told may be of any kind, and it shows only when it is needed: the number of
repetitions at the first failure that is accepted, the name of the function and a wait when they are
reported, the base and the ceiling after a wait. What goes wrong then is thrown in the place of the
failure that was caught.
-/

namespace SearchClient

/-- What calls may throw, and the classes by which it is told apart. Of what is thrown only failures
are caught; anything else passes on to whoever ends the program. -/
class Thrown (ε : Type) (κ : outParam Type) where
  /-- Whether something thrown is of a class. -/
  isA : ε → κ → Bool
  isFailure : ε → Bool
  /-- Text in a report. -/
  text : ε → Except Failure String
  /-- What is thrown when a failure arises on the way. -/
  ofFailure : Failure → ε

/-- All failures of the client and its collaborators are caught. -/
instance : Thrown Failure FailureClass where
  isA f c := f.kind.isA c
  isFailure f := f.kind.isA .general
  text f := .ok f.text
  ofFailure := id

/-- Kinds of waits. An operation on what is no number fails. -/
class WaitTime (τ : Type) where
  times : τ → τ → Except Failure τ
  less : τ → τ → Except Failure Bool
  /-- A wait as a value. -/
  toValue : τ → Value
  /-- Seconds of a wait with two places. -/
  text : τ → Except Failure String

instance : WaitTime Value where
  times a b := do return (← (← Numeral.ofValue a).mul (← Numeral.ofValue b)).toValue
  less a b := do (← Numeral.ofValue a).less (← Numeral.ofValue b)
  toValue := id
  text v := do return Numeric.fixedText 2 (← (← Numeral.ofValue v).toFloat)

/-- How a call is repeated. -/
structure Backoff (τ : Type) where
  /-- Repetitions after the first call, none if negative; or why they cannot be counted. -/
  retries : Except Failure Int
  first : τ
  base : τ
  ceiling : τ
  /-- What comes of waiting: nothing, or the clock refuses a wait, such as a negative one. -/
  pause : τ → Except Failure Unit := fun _ => .ok ()

/-- Three repetitions, after one second, then twice as long each time up to a minute. -/
def Backoff.standard : Backoff Value where
  retries := .ok 3
  first := .float 1
  base := .float 2
  ceiling := .float 60

/-- Repetitions that a number allows: a fraction is rounded up. Where there is no end to them, as
many as there is patience for. -/
def Backoff.retriesOf (patience : Nat) (v : Value) : Except Failure Int := do
  let n ← Numeral.ofValue v
  -- A number that is in no order with others cannot be a bound.
  let isNegative ← n.less (.whole 0)
  match n.quantity with
  | .ratio num den => return -Int.fdiv (-num) den
  | _ => return if isNegative then 0 else patience

/-- A way to repeat by the names of its parts; the others are the standard ones. -/
def Backoff.ofNamed (patience : Nat) (options : Row) : Backoff Value where
  retries := (options.get? "max_retries").elim standard.retries (retriesOf patience)
  first := (options.get? "initial_delay").getD standard.first
  base := (options.get? "exponential_base").getD standard.base
  ceiling := (options.get? "max_delay").getD standard.ceiling

/-- Which failures are worth a repetition. -/
structure Acceptance (ε κ : Type) where
  /-- Classes that are accepted; any if absent. -/
  classes : Option (List κ) := none
  /-- A further condition on the failure, which may itself throw something. -/
  condition : ε → Except ε Bool := fun _ => .ok true

section

variable {ε κ : Type} [Thrown ε κ]

/-- Whether the classes that are accepted include one of something thrown. -/
def Acceptance.lists (a : Acceptance ε κ) (e : ε) : Bool :=
  match a.classes with
  | some classes => classes.any (Thrown.isA e)
  | none => true

/-- Whether something thrown is caught and worth a repetition. Only what is of an accepted class is
put to the condition. -/
def Acceptance.accepts (a : Acceptance ε κ) (e : ε) : Except ε Bool :=
  if Thrown.isFailure e && a.lists e then a.condition e else .ok false

namespace Backoff

variable {τ : Type} [WaitTime τ]

/-- Wait after another one. -/
def next (b : Backoff τ) (delay : τ) : Except Failure τ := do
  let grown ← WaitTime.times delay b.base
  return if ← WaitTime.less b.ceiling grown then b.ceiling else grown

/-- Report of a failure, by its text, that is followed by a wait, which is shown by its seconds. -/
def retrying (name : String) (attempt : Nat) (seconds error : String) : LogRecord where
  channel := Span.channel
  severity := .warning
  message := "Attempt " ++ toString attempt ++ " of " ++ name ++ " failed, retrying in " ++
    seconds ++ "s"
  fields := [("error", .str error)]

/-- Report of the failure that ends the repetition. -/
def givingUp (name : String) (attempts : Nat) (error : String) : LogRecord where
  channel := Span.channel
  severity := .error
  message := "Giving up on " ++ name ++ " after " ++ toString attempts ++ " attempts"
  fields := [("error", .str error)]

/-- What a report shows: the name of the function, if it has one, and the text of the failure. -/
def shown (name : Except Failure String) (e : ε) : Except Failure (String × String) := do
  let name ← name
  return (name, ← Thrown.text e)

/-- Reports a failure and passes it on. -/
def giveUp {σ : Type} (name : Except Failure String) (world : σ → (World → World) → σ)
    (attempts : Nat) (e : ε) (s : σ) : ε × σ :=
  match shown name e with
  | .error f => (Thrown.ofFailure f, s)
  | .ok (name, error) => (e, world s (·.report (givingUp name attempts error)))

/-- Reports a failure and waits; the wait after it. -/
def wait {σ : Type} (b : Backoff τ) (name : Except Failure String)
    (world : σ → (World → World) → σ) (attempt : Nat) (delay : τ) (e : ε) (s : σ) :
    Except Failure τ × σ :=
  match shown name e, WaitTime.text delay with
  | .error f, _ | .ok _, .error f => (.error f, s)
  | .ok (name, error), .ok seconds =>
    let report := retrying name attempt seconds error
    match b.pause delay with
    | .error f => (.error f, world s (·.report report))
    | .ok () =>
      (b.next delay, world s fun w => (w.report report).emit (.waited (WaitTime.toValue delay)))

/-- Calls until one is settled, with some repetitions left. The call is told its number. -/
def repeatFrom {α σ : Type} (b : Backoff τ) (name : Except Failure String)
    (acceptance : Acceptance ε κ) (world : σ → (World → World) → σ)
    (call : Nat → σ → Except ε α × σ) : Nat → Nat → τ → σ → Except ε α × σ
  | left, done, delay, s =>
    match call done s with
    | (.ok a, s) => (.ok a, s)
    | (.error e, s) =>
      match acceptance.accepts e with
      | .error thrown => (.error thrown, s)
      | .ok false => (.error e, s)
      | .ok true =>
        match left with
        | 0 =>
          let (e, s) := giveUp name world (done + 1) e s
          (.error e, s)
        | left + 1 =>
          match b.wait name world (done + 1) delay e s with
          | (.ok delay, s) => repeatFrom b name acceptance world call left (done + 1) delay s
          | (.error f, s) => (.error (Thrown.ofFailure f), s)

/-- Calls once; a failure that is accepted gives way to the reason why it cannot be repeated. -/
def callOnce {α σ : Type} (acceptance : Acceptance ε κ) (call : Nat → σ → Except ε α × σ)
    (reason : Failure) (s : σ) : Except ε α × σ :=
  match call 0 s with
  | (.ok a, s) => (.ok a, s)
  | (.error e, s) =>
    match acceptance.accepts e with
    | .error thrown => (.error thrown, s)
    | .ok accepted => (.error (if accepted then Thrown.ofFailure reason else e), s)

/-- Calls until one is settled: answered, thrown out for a reason that is not accepted, or failed
with no repetition left. -/
def run {α σ : Type} (b : Backoff τ) (name : Except Failure String) (acceptance : Acceptance ε κ)
    (world : σ → (World → World) → σ) (call : Nat → σ → Except ε α × σ) (s : σ) :
    Except ε α × σ :=
  match b.retries with
  -- The first wait is taken as it is given, even above the ceiling.
  | .ok retries => repeatFrom b name acceptance world call retries.toNat 0 b.first s
  | .error reason => callOnce acceptance call reason s

end Backoff

end

end SearchClient
