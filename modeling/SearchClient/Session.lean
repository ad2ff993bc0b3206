import SearchClient.Query.Call

/-!
# Sessions

Several queries at work in one world: they share the connection, the query log and the counter of
aliases, and each has its clauses and its cache to itself. A run is a list of calls, each on one
of the queries.
-/

namespace SearchClient

/-- Queries by number, and the world they share. -/
structure Session where
  queries : List (Nat × Query) := []
  world : World := {}

namespace Session

/-- Query of a number. -/
def query? (s : Session) (n : Nat) : Option Query := (s.queries.find? (·.1 == n)).map (·.2)

/-- Writes the query of a number. -/
def putQuery : List (Nat × Query) → Nat → Query → List (Nat × Query)
  | [], n, q => [(n, q)]
  | (m, p) :: rest, n, q => if m = n then (n, q) :: rest else (m, p) :: putQuery rest n q

/-- Session with a query under a number. -/
def put (s : Session) (n : Nat) (q : Query) : Session :=
  { s with queries := putQuery s.queries n q }

/-- Why there is no query of a number. -/
def absent (n : Nat) : Failure := .noKey (.int n)

/-- Makes a call on the query of a number. -/
def call (c : Collaborators) (s : Session) (n : Nat) (call : Call) :
    Except Failure Returned × Session :=
  match s.query? n with
  | none => (.error (absent n), s)
  | some q =>
    let o := q.call c s.world call
    (o.result, { s.put n o.query with world := o.world })

/-- Puts a copy of one query under another number. -/
def copy (s : Session) (n target : Nat) : Except Failure Unit × Session :=
  match s.query? n with
  | none => (.error (absent n), s)
  | some q =>
    let (copied, events) := q.copy
    let s := { s with world := { s.world with events := s.world.events ++ events } }
    match copied with
    | .ok q => (.ok (), s.put target q)
    | .error f => (.error f, { s with world := s.world.note f })

/-- Makes calls in order; what each gives back. -/
def run (c : Collaborators) (s : Session) :
    List (Nat × Call) → List (Except Failure Returned) × Session
  | [] => ([], s)
  | (n, first) :: rest =>
    let (answer, s) := s.call c n first
    let (answers, s) := s.run c rest
    (answer :: answers, s)

theorem query?_put_self (s : Session) (n : Nat) (q : Query) : (s.put n q).query? n = some q := by
  unfold put query?
  dsimp only
  induction s.queries with
  | nil => simp [putQuery]
  | cons e rest ih =>
    obtain ⟨m, p⟩ := e
    by_cases same : m = n
    · simp [putQuery, same]
    · simpa [putQuery, same] using ih

theorem query?_put_of_ne (s : Session) {n m : Nat} (q : Query) (different : m ≠ n) :
    (s.put n q).query? m = s.query? m := by
  unfold put query?
  dsimp only
  induction s.queries with
  | nil => simp [putQuery, Ne.symm different]
  | cons e rest ih =>
    obtain ⟨k, p⟩ := e
    by_cases same : k = n
    · simp [putQuery, same, Ne.symm different]
    · by_cases here : k = m
      · simp [putQuery, here, different]
      · simpa [putQuery, same, here] using ih

end Session

end SearchClient
