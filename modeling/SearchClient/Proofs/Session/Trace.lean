import SearchClient.Proofs.Query.Trace
import SearchClient.Session

/-!
# What a session sends and reports

Queries that share a connection and a query log are created, copied and called in any order. What
the connection is sent, and what the log keeps, is one block after the other: a block for each
attempt to run a statement, in the order of the attempts, with nothing between the blocks.

The invariant is that the statements of all queries are texts and that the log keeps its history;
the blocks of a run are those of its moves, so one move is all there is to look at.

## Key results

- `Session.trace_move`: what one move sends and reports
- `Session.trace_moves`: what a whole run sends and reports
-/

namespace SearchClient

/-- Something that is done in a session. -/
inductive Move where
  | create (n : Nat) (statement maxMatches : Value)
  | copy (n target : Nat)
  | call (n : Nat) (call : Call)

/-- Statements that a move brings are texts, or nothing. -/
def Move.Texted : Move → Prop
  | .create _ statement _ => statement.IsStatement
  | .copy _ _ => True
  | .call _ made => made.Texted

namespace Session

section

variable (c : Connection) (throttling : Nat → Option Throttling)

/-- Makes a move. Each query has its own source of throttlers. -/
def move (s : Session) : Move → Session
  | .create n statement maxMatches => s.put n (.create statement maxMatches)
  | .copy n target => (s.copy n target).2
  | .call n call => (s.call { connection := c, throttling := throttling n } n call).2

/-- Makes moves in order. -/
def moves (s : Session) (made : List Move) : Session := made.foldl (move c throttling) s

/-- The attempt of a move, if it makes one. -/
def attempted (s : Session) : Move → Option Attempt
  | .call n call => (s.query? n).bind fun q => q.attempted c s.world.sent call
  | _ => none

/-- Attempts of a run. -/
def attempts : Session → List Move → List Attempt
  | _, [] => []
  | s, m :: rest => (s.attempted c m).toList ++ attempts (s.move c throttling m) rest

end

/-- The statements of all queries are texts, and the log keeps its history. -/
structure Ready (s : Session) : Prop where
  texted : ∀ n q, s.query? n = some q → q.Texted
  keepsHistory : s.world.log.keepsHistory = true

private theorem texted_put {s : Session} (h : ∀ n q, s.query? n = some q → q.Texted) {m : Nat}
    {p : Query} (hp : p.Texted) : ∀ n q, (s.put m p).query? n = some q → q.Texted := by
  intro n q hq
  by_cases hn : n = m
  · subst hn
    rw [query?_put_self] at hq
    obtain rfl := Option.some.inj hq
    exact hp
  · rw [query?_put_of_ne s p hn] at hq
    exact h n q hq

variable {c : Connection} {throttling : Nat → Option Throttling}

/-- What a move sends and reports is what its attempt does, if it makes one. -/
theorem trace_move (hthrottling : ∀ n, ∀ f ∈ throttling n, Throttling.Tame f) {s : Session}
    (hs : s.Ready) {m : Move} (hm : m.Texted) :
    (s.move c throttling m).Ready ∧
      (s.move c throttling m).world.sent =
        s.world.sent ++ (s.attempted c m).toList.flatMap Attempt.sent ∧
      (s.move c throttling m).world.log.history =
        s.world.log.history ++ (s.attempted c m).toList.flatMap Attempt.logged := by
  have hnothing (l : List Value) (l' : List LoggedQuery) :
      l = l ++ (none : Option Attempt).toList.flatMap Attempt.sent ∧
        l' = l' ++ (none : Option Attempt).toList.flatMap Attempt.logged :=
    ⟨(List.append_nil _).symm, (List.append_nil _).symm⟩
  cases m with
  | create n statement maxMatches =>
    exact ⟨⟨texted_put hs.texted (Query.texted_create hm maxMatches), hs.keepsHistory⟩,
      hnothing _ _⟩
  | copy n target =>
    unfold move copy attempted
    dsimp only
    cases hq : s.query? n with
    | none => exact ⟨hs, hnothing _ _⟩
    | some q =>
      dsimp only
      cases hcopy : q.copy.1 with
      | error f => exact ⟨⟨hs.texted, hs.keepsHistory⟩, hnothing _ _⟩
      | ok fresh =>
        -- A copy has the statement of the query that it was made of.
        obtain rfl := Query.eq_cleared_of_copy hcopy
        have hfresh : q.cleared.Texted := (hs.texted n q hq).of_raw_eq rfl
        exact ⟨⟨texted_put hs.texted hfresh, hs.keepsHistory⟩, hnothing _ _⟩
  | call n call =>
    unfold move Session.call attempted
    dsimp only
    cases hq : s.query? n with
    | none => exact ⟨hs, hnothing _ _⟩
    | some q =>
      dsimp only
      have htexted := hs.texted n q hq
      obtain ⟨hsent, hkeeps, hhistory⟩ :=
        Query.trace_call (c := { connection := c, throttling := throttling n }) (hthrottling n)
          htexted hs.keepsHistory call
      exact ⟨⟨texted_put hs.texted (htexted.call _ _ hm), hkeeps⟩, hsent, hhistory⟩

/-- The statements that a run sends and the history of the query log are those of the attempts, one
after the other; and when the run has come to a clean query, no call on it makes an attempt. -/
theorem trace_moves (hthrottling : ∀ n, ∀ f ∈ throttling n, Throttling.Tame f) {s : Session}
    (hs : s.Ready) {made : List Move} (hmade : ∀ m ∈ made, m.Texted) :
    (s.moves c throttling made).world.sent =
        s.world.sent ++ (s.attempts c throttling made).flatMap Attempt.sent ∧
      (s.moves c throttling made).world.log.history =
        s.world.log.history ++ (s.attempts c throttling made).flatMap Attempt.logged ∧
      ∀ n q call, (s.moves c throttling made).query? n = some q → q.state = .clean →
        (s.moves c throttling made).attempted c (.call n call) = none := by
  refine and_assoc.1 ⟨?_, fun n q call hq hclean => ?_⟩
  · induction made generalizing s with
    | nil => exact ⟨(List.append_nil _).symm, (List.append_nil _).symm⟩
    | cons m rest ih =>
      -- The first move adds its block, and the rest of the run starts from what it has left.
      obtain ⟨hm, hrest⟩ := List.forall_mem_cons.1 hmade
      obtain ⟨hready, hsent, hhistory⟩ := trace_move hthrottling hs hm
      obtain ⟨hsents, hhistories⟩ := ih hready hrest
      rw [attempts, List.flatMap_append, List.flatMap_append, ← List.append_assoc,
        ← List.append_assoc, ← hsent, ← hhistory]
      exact ⟨hsents, hhistories⟩
  · unfold attempted
    dsimp only
    rw [hq]
    exact Query.attempted_of_clean hclean c _ call

/-- Three queries on one connection: one is run, one is refused, one is read from its cache, and a
copy is run again. -/
theorem trace_moves_of_three :
    let select := "SELECT id FROM rt LIMIT 0, 20"
    let engine : Engine := fun _ statement =>
      if statement.asText? = some "CALL X" then .refusal (.badValue "gone")
      else .answer { columns := [.str "Variable", .str "Value"], rows := [[.str "total", .int 7]] }
    let c : Connection := { engine }
    let throttling (n : Nat) : Option Throttling :=
      if n = 0 then some fun _ _ _ => .ok (some {}) else none
    let made : List Move :=
      [.create 0 .null (.int 1000), .create 1 (.str "CALL X") (.int 1000),
        .call 0 (.change (.select [.str "id"])), .call 0 (.change (.indexes [.str "rt"])),
        .call 0 .execute, .call 1 .results, .call 0 .results, .copy 0 2, .call 2 .execute]
    ((∀ n, ∀ f ∈ throttling n, Throttling.Tame f) ∧ Ready {} ∧ ∀ m ∈ made, m.Texted) ∧
      (moves c throttling {} made).world.sent.map Value.text =
        [select, metaStatement, "CALL X", metaStatement, select, metaStatement] ∧
      (moves c throttling {} made).world.log.history.map (fun e => (e.query, e.rows)) =
        [(select, 0), (metaStatement, 1), ("CALL X", 0), (metaStatement, 1), (select, 0),
          (metaStatement, 1)] := by
  intro select engine c throttling made
  have hthrottling : ∀ n, ∀ f ∈ throttling n, Throttling.Tame f := by
    intro n f hf indexes reading asked
    by_cases hn : n = 0
    · obtain rfl : (fun _ _ _ => .ok (some {})) = f := by simpa [throttling, hn] using hf
      exact ⟨_, rfl, by rintro t ⟨⟩; exact ⟨rfl, rfl, rfl⟩⟩
    · simp [throttling, hn] at hf
  have hready : Ready {} := ⟨fun n q hq => (nomatch hq), rfl⟩
  have hmade : ∀ m ∈ made, m.Texted := by
    simp [made, Move.Texted, Call.Texted, Value.IsStatement, Value.isNull, Value.asText?]
  obtain ⟨hsent, hhistory, -⟩ := trace_moves (c := c) hthrottling hready hmade
  refine ⟨⟨hthrottling, hready, hmade⟩, ?_, ?_⟩
  · rw [hsent]
    decide +kernel
  · rw [hhistory]
    decide +kernel

end Session

end SearchClient
