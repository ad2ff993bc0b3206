import Mathlib.Data.List.Forall2
import SearchClient.Log.Context

/-!
# Scopes of a request and a user

A program sets the request and the user that its log entries are stamped with, forgets them, opens
scopes with ids of their own, and may fail anywhere. The context does this with a stack: entering a
scope puts the ids aside, and leaving it takes them back. Here the same is said without a stack. The
meaning of a program goes from the ids that hold before it to the ids that hold behind it, and a
scope is a part whose ids end with it.

## Key results

- `carries_stamp`: what a stamped entry carries, whatever fields hold for the whole process
- `Follows.of_run`: running a program does what it means
- `run_scopes`: scopes restore what they found, and entries carry what holds where they pass
-/

namespace SearchClient.LogContext

/-! ### Stamps -/

/-- An entry carries a request and a user, and the mark of the client in some version. -/
structure Carries (version : String) (e : LogEntry) (origin : Origin) : Prop where
  request : e.extras.get? "request_id" = some origin.request
  user : e.extras.get? "user_id" = some origin.user
  client : e.extras.get? "sdk_name" = some (.str "sphinxql")
  version : e.extras.get? "sdk_version" = some (.str version)

/-- The marks are written behind the fields that hold for the whole process, so these cannot stand
in their place. -/
theorem carries_stamp (c : LogContext) (e : LogEntry) :
    Carries c.version (c.stamp e) c.origin := by
  have hstamp : (c.stamp e).extras =
      Row.put (Row.put (Row.put (Row.put (e.writeAll c.fixed).extras "request_id" c.origin.request)
        "user_id" c.origin.user) "sdk_name" (.str clientName)) "sdk_version"
        (.str c.version) := by
    simp only [stamp, stamps, LogEntry.writeAll, List.foldl_append, List.foldl_cons, List.foldl_nil]
    rw [LogEntry.write_extra _ _ (by decide), LogEntry.write_extra _ _ (by decide),
      LogEntry.write_extra _ _ (by decide), LogEntry.write_extra _ _ (by decide)]
  constructor
  · simp [hstamp, Row.get?_put_of_ne, Row.get?_put_self]
  · simp [hstamp, Row.get?_put_of_ne, Row.get?_put_self]
  · simp [hstamp, Row.get?_put_of_ne, Row.get?_put_self, clientName]
  · simp [hstamp, Row.get?_put_self]

/-! ### Programs -/

/-- A program, as far as it has to do with the context of log entries. -/
inductive Program where
  | done
  /-- Fails, so that nothing behind it is done. -/
  | fail (f : Failure)
  | seq (first second : Program)
  /-- Does something in a scope with a request and a user of its own. -/
  | scope (origin : Origin) (body : Program)
  /-- Does something and goes on when it fails. -/
  | attempt (body : Program)
  | setOrigin (request user : Value)
  | clearOrigin
  | setFixed (environment : Value) (extra : Row)
  /-- Lets an entry pass. -/
  | pass (e : LogEntry)

/-- What a program leaves: the failure that ends it, the context, and the entries that have
passed. -/
structure Outcome where
  failure : Option Failure
  context : LogContext
  passed : List LogEntry

/-- What a program does in a context. A scope is left however its body ends. -/
def Program.run : Program → LogContext → Outcome
  | done, c => ⟨none, c, []⟩
  | fail f, c => ⟨some f, c, []⟩
  | seq first second, c =>
    let r := first.run c
    match r.failure with
    | some f => ⟨some f, r.context, r.passed⟩
    | none =>
      let t := second.run r.context
      ⟨t.failure, t.context, r.passed ++ t.passed⟩
  | scope origin body, c =>
    let r := body.run (c.enter origin)
    ⟨r.failure, r.context.leave, r.passed⟩
  | attempt body, c =>
    let r := body.run c
    ⟨none, r.context, r.passed⟩
  | setOrigin request user, c => ⟨none, c.setOrigin request user, []⟩
  | clearOrigin, c => ⟨none, c.clearOrigin, []⟩
  | setFixed environment extra, c => ⟨none, c.setFixed environment extra, []⟩
  | pass e, c => ⟨none, c, [c.stamp e]⟩

/-- What a program means for the request and the user: the failure that ends it, the ids that hold
behind it, and those that held when entries passed. -/
structure Meaning where
  failure : Option Failure
  origin : Origin
  passed : List Origin

/-- The meaning of a program where a request and a user hold. Behind a scope hold those from before
it. -/
def Program.meaning : Program → Origin → Meaning
  | done, o => ⟨none, o, []⟩
  | fail f, o => ⟨some f, o, []⟩
  | seq first second, o =>
    let m := first.meaning o
    match m.failure with
    | some f => ⟨some f, m.origin, m.passed⟩
    | none =>
      let n := second.meaning m.origin
      ⟨n.failure, n.origin, m.passed ++ n.passed⟩
  | scope origin body, o =>
    let m := body.meaning origin
    ⟨m.failure, o, m.passed⟩
  | attempt body, o =>
    let m := body.meaning o
    ⟨none, m.origin, m.passed⟩
  | setOrigin request user, o =>
    let request := if request.isNull then o.request else request
    let user := if user.isNull then o.user else user
    ⟨none, { request, user }, []⟩
  | clearOrigin, _ => ⟨none, {}, []⟩
  | setFixed _ _, o => ⟨none, o, []⟩
  | pass _, o => ⟨none, o, [o]⟩

/-- An outcome does what is meant, and leaves the scopes around it as they were. -/
structure Follows (c : LogContext) (r : Outcome) (m : Meaning) : Prop where
  failure : r.failure = m.failure
  origin : r.context.origin = m.origin
  outer : r.context.outer = c.outer
  version : r.context.version = c.version
  passed : List.Forall₂ (Carries c.version) r.passed m.passed

/-- Running a program does what it means. -/
theorem Follows.of_run (p : Program) (c : LogContext) :
    Follows c (p.run c) (p.meaning c.origin) := by
  induction p generalizing c with
  | done => exact ⟨rfl, rfl, rfl, rfl, .nil⟩
  | fail f => exact ⟨rfl, rfl, rfl, rfl, .nil⟩
  | seq first second ihfirst ihsecond =>
    have hfirst := ihfirst c
    dsimp only [Program.run, Program.meaning]
    rw [hfirst.failure, ← hfirst.origin]
    cases (first.meaning c.origin).failure with
    | some f => exact ⟨rfl, rfl, hfirst.outer, hfirst.version, hfirst.passed⟩
    | none =>
      have hsecond := ihsecond (first.run c).context
      exact ⟨hsecond.failure, hsecond.origin, hsecond.outer.trans hfirst.outer,
        hsecond.version.trans hfirst.version,
        List.rel_append hfirst.passed (hfirst.version ▸ hsecond.passed)⟩
  | scope origin body ih =>
    have hbody := ih (c.enter origin)
    -- What the body leaves on the stack is what entering has put there.
    have houter : (body.run (c.enter origin)).context.outer = c.origin :: c.outer := hbody.outer
    have hleave : (body.run (c.enter origin)).context.leave =
        { (body.run (c.enter origin)).context with origin := c.origin, outer := c.outer } := by
      rw [leave, houter]
    dsimp only [Program.run, Program.meaning]
    rw [hleave]
    exact ⟨hbody.failure, rfl, rfl, hbody.version, hbody.passed⟩
  | attempt body ih =>
    have hbody := ih c
    exact ⟨rfl, hbody.origin, hbody.outer, hbody.version, hbody.passed⟩
  | setOrigin request user => exact ⟨rfl, rfl, rfl, rfl, .nil⟩
  | clearOrigin => exact ⟨rfl, rfl, rfl, rfl, .nil⟩
  | setFixed environment extra => exact ⟨rfl, rfl, rfl, rfl, .nil⟩
  | pass e => exact ⟨rfl, rfl, rfl, rfl, .cons (carries_stamp c e) .nil⟩

/-- Inside a scope, before anything else is done, hold the ids that it was given, and nothing where
it was given none. Whatever its body does and however that ends, behind the scope hold the ids from
before it, and a failure of the body goes on. Any program does what it means, so the entries that
pass anywhere in it carry the ids that hold there; and an entry that passes carries the ids of its
context and the mark of the client, whatever fields hold for the whole process. -/
theorem run_scopes (origin : Origin) (p : Program) (c : LogContext) :
    ((c.enter origin).origin = origin ∧
      ((Program.scope origin p).run c).context.origin = c.origin ∧
      ((Program.scope origin p).run c).context.outer = c.outer ∧
      ((Program.scope origin p).run c).failure = (p.run (c.enter origin)).failure) ∧
    Follows c (p.run c) (p.meaning c.origin) ∧
    ∀ e, Carries c.version (c.stamp e) c.origin := by
  have hscope := Follows.of_run (.scope origin p) c
  exact ⟨⟨rfl, hscope.origin, hscope.outer, rfl⟩, .of_run p c, carries_stamp c⟩

-- A scope whose body forgets the ids and fails: the second entry carries those from outside again.
example :
    let p : Program := .seq
      (.attempt (.scope { request := "inner" } (.seq .clearOrigin (.seq (.pass default)
        (.fail (.raised .value "gone" none))))))
      (.pass default)
    (p.meaning { request := "outer", user := "u" }).passed =
      [{}, { request := "outer", user := "u" }] := rfl

end SearchClient.LogContext
