import SearchClient.Engine.Connection

/-!
# What a connection says

The outcome of a statement depends on the statements that were sent before it and on nothing else
in the world. `Connection.reply` is that outcome; running a statement gives it and adds the
statement to those that were sent, and leaves the query log alone.
-/

namespace SearchClient

namespace Connection

/-- Outcome of a statement after the statements that were sent before. -/
def reply (c : Connection) (before : List Value) (statement : Value) :
    Except Failure StatementResult :=
  (c.execute statement { sent := before }).1

private theorem failed_fst (w w' : World) (statement : Value) (cause : Failure) :
    (failed w statement cause).1 = (failed w' statement cause).1 := by
  unfold failed
  cases Failure.execution statement cause.text { cause := some cause } <;> rfl

private theorem log_failed (w : World) (statement : Value) (cause : Failure) :
    (failed w statement cause).2.log = w.log := by
  unfold failed
  split <;> rfl

/-- Of the world, only the statements that were sent count for an outcome. -/
theorem execute_fst (c : Connection) (statement : Value) (w : World) :
    (c.execute statement w).1 = c.reply w.sent statement := by
  unfold reply execute executeDriver executeDirect
  cases c.transport with
  | driver =>
    dsimp only
    cases c.engine w.sent statement with
    | refusal f => exact failed_fst _ _ statement f
    | answer a =>
      dsimp only
      cases taken a with
      | ok p => rfl
      | error f => exact failed_fst _ _ statement f
  | direct =>
    dsimp only
    cases c.engine w.sent statement <;> rfl

/-- Of the statements that were sent, only what the engine makes of them counts. -/
theorem reply_congr {c : Connection} {before before' : List Value} {statement : Value}
    (h : c.engine before statement = c.engine before' statement) :
    c.reply before statement = c.reply before' statement := by
  unfold reply execute executeDriver executeDirect
  dsimp only
  rw [h]
  cases c.transport with
  | driver =>
    cases c.engine before' statement with
    | refusal f => exact failed_fst _ _ statement f
    | answer a =>
      dsimp only
      cases taken a with
      | ok p => rfl
      | error f => exact failed_fst _ _ statement f
  | direct => cases c.engine before' statement <;> rfl

/-- Running a statement reports nothing to the query log. -/
theorem log_execute (c : Connection) (statement : Value) (w : World) :
    (c.execute statement w).2.log = w.log := by
  unfold execute executeDriver executeDirect
  cases c.transport with
  | driver =>
    dsimp only
    cases c.engine w.sent statement with
    | refusal f => exact log_failed _ statement f
    | answer a =>
      dsimp only
      cases taken a with
      | ok p => rfl
      | error f => exact log_failed _ statement f
  | direct =>
    dsimp only
    cases c.engine w.sent statement <;> rfl

/-- Running a statement draws no alias. -/
theorem aliases_execute (c : Connection) (statement : Value) (w : World) :
    (c.execute statement w).2.aliases = w.aliases := by
  have hfailed (u : World) (f : Failure) : (failed u statement f).2.aliases = u.aliases := by
    unfold failed
    split <;> rfl
  unfold execute executeDriver executeDirect
  cases c.transport with
  | driver =>
    dsimp only
    cases c.engine w.sent statement with
    | refusal f => exact hfailed _ f
    | answer a =>
      dsimp only
      cases taken a with
      | ok p => rfl
      | error f => exact hfailed _ f
  | direct =>
    dsimp only
    cases c.engine w.sent statement <;> rfl

end Connection

end SearchClient
