import SearchClient.Proofs.Query.Alternatives
import SearchClient.Proofs.Session.Trace

/-!
# Aliases in a session

All queries of a session draw their aliases from one counter. As long as nobody resets it, and it
counts in whole numbers, the aliases are distinct, and the filters that alternatives have left in a
query ask for aliases that this query defines, each by one of its columns. This is so whatever else
is called, and for copies too. Alternatives without an alias, because its number is too long to be
written, are refused and leave the query as it is.

A run is followed by the marks of the queries and by the aliases that were drawn. The invariant of a
run is that the aliases are the names of numbers that the counter has passed, and that the marks of
each query are sound.

## Key results

- `Ledger.sound_move`: one move keeps the aliases distinct and the marks sound
- `Ledger.aliases_follow`: what is known about the aliases after any run
- `Ledger.unnamed_behind_last`: when there are no more names
-/

namespace SearchClient

namespace AliasCounter

/-- Names that were drawn from a counter: they are different, and those of numbers that it has
passed. -/
structure Passed (c : AliasCounter) (stem : String) (drawn : List String) : Prop where
  named : c.stem = stem
  passed : ∃ next : Int, c.next = .whole next ∧
    ∀ name ∈ drawn, ∃ n < next, label stem (.whole n) = .ok name
  nodup : drawn.Nodup

namespace Passed

variable {c : AliasCounter} {stem : String} {drawn : List String}

theorem whole (h : c.Passed stem drawn) : c.Whole := by
  obtain ⟨next, hnext, -⟩ := h.passed
  exact ⟨next, hnext⟩

theorem exists_label (h : c.Passed stem drawn) :
    ∀ name ∈ drawn, ∃ n : Int, label stem (.whole n) = .ok name := by
  obtain ⟨next, -, hpassed⟩ := h.passed
  intro name hname
  obtain ⟨n, -, hn⟩ := hpassed name hname
  exact ⟨n, hn⟩

/-- The next name is that of the next number, if it can be written. -/
theorem draw_eq (h : c.Passed stem drawn) :
    ∃ next : Int, c.next = .whole next ∧ c.draw.1 =
      if Value.fitsDigits next then .ok (stem ++ toString next) else .error Value.tooLong := by
  obtain ⟨next, hnext, -⟩ := h.passed
  exact ⟨next, hnext, by rw [draw, h.named, hnext, label_whole]⟩

/-- The next name is new. -/
theorem draw_notMem (h : c.Passed stem drawn) {name : String} (hname : c.draw.1 = .ok name) :
    name ∉ drawn := by
  obtain ⟨next, hnext, hpassed⟩ := h.passed
  intro hmem
  obtain ⟨n, hless, hlabel⟩ := hpassed _ hmem
  have hdraw : label stem (.whole next) = .ok name := by
    rwa [draw, h.named, hnext] at hname
  have hsame := label_injective hlabel hdraw
  omega

/-- Asking for a name passes its number, whether it can be written or not. -/
theorem draw (h : c.Passed stem drawn) :
    c.draw.2.Passed stem (drawn ++ c.draw.1.toOption.toList) := by
  obtain ⟨next, hnext, hpassed⟩ := h.passed
  have hpassed' : c.draw.2.next = .whole (next + 1) := by
    rw [next_draw, hnext, Numeral.succ_whole]
  have hold : ∀ name ∈ drawn, ∃ n < next + 1, label stem (.whole n) = .ok name := by
    intro name hname
    obtain ⟨n, hless, hn⟩ := hpassed name hname
    exact ⟨n, by omega, hn⟩
  cases hname : c.draw.1 with
  | error f =>
    simp only [Except.toOption, Option.toList_none, List.append_nil]
    exact ⟨h.named, ⟨next + 1, hpassed', hold⟩, h.nodup⟩
  | ok name =>
    refine ⟨h.named, ⟨next + 1, hpassed', fun other hother => ?_⟩, ?_⟩
    · rcases List.mem_append.1 hother with hbefore | hdrawn
      · exact hold other hbefore
      · obtain rfl := List.mem_singleton.1 hdrawn
        rw [AliasCounter.draw, h.named, hnext] at hname
        exact ⟨next, by omega, hname⟩
    · exact List.Nodup.append h.nodup (List.nodup_singleton _)
        (List.disjoint_singleton.2 (h.draw_notMem hname))

/-- A change asks for one name or for none. -/
theorem apply (h : c.Passed stem drawn) (m : Mutation) (q : Query) :
    (m.apply q c).aliases.Passed stem (drawn ++ m.drawn c) := by
  rw [m.aliases_apply, Mutation.drawn]
  cases m.draws with
  | false => simpa using h
  | true => exact h.draw

end Passed

end AliasCounter

/-- A session, the marks of its queries, and the aliases that were drawn in it. -/
structure Ledger where
  session : Session
  marks : Nat → Marks := fun _ => {}
  drawn : List String := []

namespace Ledger

/-- Writes the marks of a query. -/
def mark (l : Ledger) (n : Nat) (k : Marks) : Nat → Marks :=
  fun m => if m = n then k else l.marks m

theorem mark_self (l : Ledger) (n : Nat) : l.mark n (l.marks n) = l.marks := by
  funext m
  unfold mark
  split
  · rename_i hm
    rw [hm]
  · rfl

/-- Makes a move, with any collaborators. -/
def move (l : Ledger) (c : Collaborators) (m : Move) : Ledger :=
  let session := l.session.move c.connection (fun _ => c.throttling) m
  match m with
  | .create n _ _ => { l with session, marks := l.mark n {} }
  | .copy n target =>
    match (l.session.copy n target).1 with
    | .ok () => { l with session, marks := l.mark target (l.marks n) }
    | .error _ => { l with session }
  | .call n (.change m) =>
    match l.session.query? n with
    | some q =>
      let aliases := l.session.world.aliases
      { session
        marks := l.mark n ((l.marks n).after m q aliases)
        drawn := l.drawn ++ m.drawn aliases }
    | none => { l with session }
  | .call _ _ => { l with session }

/-- Makes moves in order. -/
def follow (l : Ledger) (made : List (Collaborators × Move)) : Ledger :=
  made.foldl (fun l e => l.move e.1 e.2) l

/-- A session without queries, and a counter that has drawn nothing. -/
def start (w : World) (counter : AliasCounter) : Ledger :=
  { session := { world := { w with aliases := counter } } }

/-- The aliases that were drawn are those that the counter has passed, and the marks of all queries
are sound. -/
structure Sound (l : Ledger) (stem : String) : Prop where
  passed : l.session.world.aliases.Passed stem l.drawn
  marks : ∀ n q, l.session.query? n = some q → (l.marks n).Sound q l.drawn

/-- Marks are still sound when those of one query are written with the query. -/
private theorem marks_put {l : Ledger} {drawn : List String}
    (h : ∀ n q, l.session.query? n = some q → (l.marks n).Sound q drawn) (n : Nat) {q : Query}
    {k : Marks} (hk : k.Sound q drawn) :
    ∀ m p, (l.session.put n q).query? m = some p → (l.mark n k m).Sound p drawn := by
  intro m p hp
  unfold mark
  by_cases hm : m = n
  · subst hm
    rw [Session.query?_put_self] at hp
    obtain rfl := Option.some.inj hp
    rwa [if_pos rfl]
  · rw [Session.query?_put_of_ne l.session q hm] at hp
    rw [if_neg hm]
    exact h m p hp

section

variable {l : Ledger} {stem : String} {n : Nat} {q : Query}

/-- A call on a query that exists. -/
private theorem session_call (hq : l.session.query? n = some q) (c : Collaborators) (call : Call) :
    l.session.move c.connection (fun _ => c.throttling) (.call n call) =
      { l.session.put n (q.call c l.session.world call).query with
        world := (q.call c l.session.world call).world } := by
  unfold Session.move Session.call
  dsimp only
  rw [hq]

/-- A call on a query that does not exist. -/
private theorem move_of_absent (hq : l.session.query? n = none) (c : Collaborators) (call : Call) :
    l.move c (.call n call) = l := by
  have hsession : l.session.move c.connection (fun _ => c.throttling) (.call n call) =
      l.session := by
    unfold Session.move Session.call
    dsimp only
    rw [hq]
  unfold move
  rw [hsession]
  cases call with
  | change m =>
    dsimp only
    rw [hq]
  | _ => rfl

/-- A change writes the query with its new marks, and passes the alias that it draws. -/
private theorem sound_change (h : l.Sound stem) (hq : l.session.query? n = some q)
    (c : Collaborators) (m : Mutation) : (l.move c (.call n (.change m))).Sound stem := by
  have hworld : (q.call c l.session.world (.change m)).world.aliases =
      (m.apply q l.session.world.aliases).aliases := q.aliases_change m l.session.world
  have hquery : (q.call c l.session.world (.change m)).query =
      (m.apply q l.session.world.aliases).query := q.query_change m l.session.world
  have hafter := (h.marks n q hq).after m h.passed.whole fun _ => h.passed.draw_notMem
  have hothers : ∀ k p, l.session.query? k = some p →
      (l.marks k).Sound p (l.drawn ++ m.drawn l.session.world.aliases) :=
    fun k p hp => (h.marks k p hp).of_drawn _
  unfold move
  rw [session_call hq]
  dsimp only
  rw [hq]
  refine ⟨?_, ?_⟩
  · dsimp only
    rw [hworld]
    exact h.passed.apply m q
  · dsimp only
    rw [hquery]
    exact marks_put hothers n hafter

/-- Any other call leaves the columns, the filters and the counter. -/
private theorem sound_call (h : l.Sound stem) (hq : l.session.query? n = some q)
    (c : Collaborators) {call : Call} (hcall : ∀ m, call ≠ .change m) :
    (l.move c (.call n call)).Sound stem := by
  have hworld := Query.aliases_call hcall c q l.session.world
  have hkept := Query.kept_call c q l.session.world hcall
  have hmarks := marks_put h.marks n ((h.marks n q hq).of_clauses hkept.clauses)
  rw [mark_self] at hmarks
  have hmove : l.move c (.call n call) =
      { l with session := l.session.move c.connection (fun _ => c.throttling) (.call n call) } := by
    cases call with
    | change m => exact absurd rfl (hcall m)
    | _ => rfl
  rw [hmove, session_call hq]
  refine ⟨?_, hmarks⟩
  dsimp only
  rw [hworld]
  exact h.passed

end

/-- One move keeps the aliases distinct and the marks sound. -/
theorem sound_move {l : Ledger} {stem : String} (h : l.Sound stem) (c : Collaborators) (m : Move) :
    (l.move c m).Sound stem := by
  cases m with
  | create n statement maxMatches =>
    exact ⟨h.passed, marks_put h.marks n (Marks.sound_create statement maxMatches l.drawn)⟩
  | copy n target =>
    unfold move Session.move Session.copy
    dsimp only
    cases hq : l.session.query? n with
    | none => exact h
    | some q =>
      dsimp only
      cases hcopy : q.copy.1 with
      | error f => exact ⟨h.passed, h.marks⟩
      | ok fresh =>
        -- A copy has the columns and the filters of the query that it was made of.
        obtain rfl := Query.eq_cleared_of_copy hcopy
        have hfresh : (l.marks n).Sound q.cleared l.drawn := (h.marks n q hq).of_clauses rfl
        exact ⟨h.passed, marks_put h.marks target hfresh⟩
  | call n call =>
    cases hq : l.session.query? n with
    | none =>
      rw [move_of_absent hq]
      exact h
    | some q =>
      by_cases hchange : ∃ m, call = .change m
      · obtain ⟨m, rfl⟩ := hchange
        exact sound_change h hq c m
      · exact sound_call h hq c fun m hm => hchange ⟨m, hm⟩

theorem sound_start (w : World) (stem : String) (first : Int) :
    (start w { stem, start := .whole first }).Sound stem :=
  ⟨⟨rfl, ⟨first, rfl, fun _ h => (nomatch h)⟩, .nil⟩, fun _ _ h => (nomatch h)⟩

theorem sound_follow {l : Ledger} {stem : String} (h : l.Sound stem)
    (made : List (Collaborators × Move)) : (l.follow made).Sound stem := by
  induction made generalizing l with
  | nil => exact h
  | cons e rest ih => exact ih (sound_move h e.1 e.2)

/-- Alternatives draw one new alias, select it as the last column and filter on it last. -/
theorem Sound.call_alternatives {l : Ledger} {stem : String} (h : l.Sound stem)
    {components : Value} {items : List Value} (hitems : components.walk? = some items)
    (hsome : items ≠ []) (hwritable : ∀ v ∈ items, v.isWritable = true) {name : String}
    (hname : l.session.world.aliases.draw.1 = .ok name) (q : Query) (c : Collaborators) :
    let o := q.call c l.session.world (.change (.alternatives components))
    name ∉ l.drawn ∧ o.result = .ok .self ∧
      o.world.aliases = l.session.world.aliases.draw.2 ∧
      o.query.clauses.select = q.clauses.select ++
        [.str (Mutation.disjunction (items.map Value.text) ++ " AS " ++ name)] ∧
      o.query.clauses.conditions = q.clauses.conditions ++
        [.comparison ⟨name, .eq, .int 1⟩] := by
  intro o
  have htexts := Mutation.alternativesOf_of_writable hitems hwritable
  have happly := Mutation.apply_alternatives htexts (by simpa using hsome) q h.passed.whole hname
  have ho : o = q.change (.alternatives components) l.session.world := rfl
  unfold Query.change at ho
  rw [happly] at ho
  rw [ho]
  exact ⟨h.passed.draw_notMem hname, rfl, rfl, rfl, rfl⟩

/-- In a session whose counter starts at a whole number, whatever its stem, and after any moves: the
aliases that were drawn are distinct, and the next one is that of the next number, if it can be
written; alternatives draw one new alias, select it and filter on it; without alternatives nothing
happens; alternatives that cannot be written, or that get no alias, are refused and leave the query;
and each filter that alternatives have added to a query and that is still there asks for an alias
that exactly one of the columns defines which alternatives have added to that query. -/
theorem aliases_follow (w : World) (stem : String) (first : Int)
    (made : List (Collaborators × Move)) :
    let l := (start w { stem, start := .whole first }).follow made
    let aliases := l.session.world.aliases
    l.drawn.Nodup ∧
      (∃ next : Int, aliases.next = .whole next ∧ aliases.draw.1 =
        if Value.fitsDigits next then .ok (stem ++ toString next) else .error Value.tooLong) ∧
      (∀ n q c components items, l.session.query? n = some q → components.walk? = some items →
        let o := q.call c l.session.world (.change (.alternatives components))
        (items = [] → o = ⟨.ok .self, q, l.session.world⟩) ∧
        (∀ name, items ≠ [] → (∀ v ∈ items, v.isWritable = true) → aliases.draw.1 = .ok name →
          name ∉ l.drawn ∧ o.result = .ok .self ∧ o.world.aliases = aliases.draw.2 ∧
            o.query.clauses.select = q.clauses.select ++
              [.str (Mutation.disjunction (items.map Value.text) ++ " AS " ++ name)] ∧
            o.query.clauses.conditions = q.clauses.conditions ++
              [.comparison ⟨name, .eq, .int 1⟩]) ∧
        ((¬∀ v ∈ items, v.isWritable = true) →
          o.result = .error Value.tooLong ∧ o.query = q ∧ o.world.aliases = aliases) ∧
        ∀ f, items ≠ [] → (∀ v ∈ items, v.isWritable = true) → aliases.draw.1 = .error f →
          o.result = .error f ∧ o.query = q ∧ o.world.aliases = aliases.draw.2) ∧
      ∀ n q, l.session.query? n = some q →
        (l.marks n).columns.map (·.1) = q.clauses.select ∧
          (l.marks n).filters.map (·.1) = q.clauses.conditions ∧
          ∀ condition name, (condition, some name) ∈ (l.marks n).filters →
            (l.marks n).Defined condition name := by
  intro l aliases
  have hsound : l.Sound stem := sound_follow (sound_start w stem first) made
  refine ⟨hsound.passed.nodup, hsound.passed.draw_eq, fun n q c components items _ hitems => ?_,
    fun n q hq => ?_⟩
  · refine ⟨?_, fun name hsome hwritable hname =>
      hsound.call_alternatives hitems hsome hwritable hname q c,
      fun hnot => q.call_of_not_writable c hitems hnot,
      fun f hsome hwritable hname => q.call_of_unnamed c hitems hsome hwritable hname⟩
    rintro rfl
    exact q.call_no_alternatives c _ hitems
  · have hmarks := hsound.marks n q hq
    exact ⟨hmarks.columns, hmarks.filters,
      fun condition name hmem => hmarks.defined_of_labels hsound.passed.exists_label hmem⟩

/-- Behind the last number that can be written there is no name: a session whose counter starts at
that number draws one alias, and alternatives are refused from then on. -/
theorem unnamed_behind_last {last : Int} (hlast : Value.fitsDigits last = true)
    (hnext : Value.fitsDigits (last + 1) = false) (c : Collaborators) :
    let either : Call := .change (.alternatives (.list [.str "a = 1"]))
    let l := (start {} { stem := "orX", start := .whole last }).follow
      [(c, .create 0 .null (.int 1000)), (c, .call 0 either)]
    l.drawn = ["orX" ++ toString last] ∧ ∃ q, l.session.query? 0 = some q ∧
      (q.call c l.session.world either).result = .error Value.tooLong ∧
      (q.call c l.session.world either).query = q := by
  intro either l
  let counter : AliasCounter := { stem := "orX", start := .whole last }
  let created := (start {} counter).move c (.create 0 .null (.int 1000))
  let q := Query.create .null (.int 1000)
  have hq : created.session.query? 0 = some q := rfl
  have hitems : (Value.list [.str "a = 1"]).walk? = some [.str "a = 1"] := rfl
  have hsome : [Value.str "a = 1"] ≠ [] := List.cons_ne_nil _ _
  have hwritable : ∀ v ∈ [Value.str "a = 1"], v.isWritable = true := by decide
  have hname : counter.draw.1 = .ok ("orX" ++ toString last) :=
    AliasCounter.label_whole_eq_ok_iff.2 ⟨hlast, rfl⟩
  have hnone : counter.draw.2.draw.1 = .error Value.tooLong :=
    (AliasCounter.label_whole "orX" (last + 1)).trans (by rw [hnext]; rfl)
  have hsound := sound_move (sound_start {} "orX" last) c (.create 0 .null (.int 1000))
  obtain ⟨-, -, haliases, -⟩ := hsound.call_alternatives hitems hsome hwritable hname q c
  have hsession : l.session = { created.session.put 0 (q.call c created.session.world either).query
      with world := (q.call c created.session.world either).world } := session_call hq c either
  refine ⟨?_, (q.call c created.session.world either).query, ?_, ?_⟩
  · change [] ++ (Mutation.alternatives (.list [.str "a = 1"])).drawn counter = _
    have hdraws : (Mutation.alternatives (.list [.str "a = 1"])).draws = true := rfl
    rw [Mutation.drawn, hdraws, hname]
    rfl
  · rw [hsession]
    exact Session.query?_put_self ..
  · have hnext : l.session.world.aliases.draw.1 = .error Value.tooLong := by
      rw [hsession]
      exact haliases ▸ hnone
    obtain ⟨hresult, hquery, -⟩ :=
      (q.call c created.session.world either).query.call_of_unnamed c hitems hsome hwritable hnext
    exact ⟨hresult, hquery⟩

/-- The largest number that can be written is the last that names an alias. -/
theorem unnamed_behind_largest :
    let c : Collaborators := { connection := { engine := fun _ _ => .answer {} } }
    let either : Call := .change (.alternatives (.list [.str "a = 1"]))
    let l := (start {} { stem := "orX", start := .whole (10 ^ Value.maxDigits - 1) }).follow
      [(c, .create 0 .null (.int 1000)), (c, .call 0 either)]
    l.drawn.length = 1 ∧ ∃ q, l.session.query? 0 = some q ∧
      (q.call c l.session.world either).result = .error Value.tooLong ∧
      (q.call c l.session.world either).query = q := by
  intro c either l
  have hlast : Value.fitsDigits (10 ^ Value.maxDigits - 1) = true := Value.fitsDigits_pred_pow
  have hnext : Value.fitsDigits (10 ^ Value.maxDigits - 1 + 1) = false := by
    rw [Int.sub_add_cancel]
    exact Bool.eq_false_iff.2 fun h => Nat.lt_irrefl _ (Value.fitsDigits_pow.1 h)
  obtain ⟨hdrawn, hrefused⟩ := unnamed_behind_last hlast hnext c
  exact ⟨by rw [hdrawn]; rfl, hrefused⟩

end Ledger

end SearchClient
