import SearchClient.Proofs.Query.Reachable

/-!
# Alternatives in parentheses

Several alternatives are selected as one expression: each in parentheses, with the word `OR` between
them, and parentheses around it all. A reader who counts the parentheses that are open finds the
alternatives again, whatever words they hold, if each has balanced parentheses: within an
alternative at least one is open, so he splits the expression nowhere but between two of them.

## Key results

- `Parentheses.splitClosing_append`, `Parentheses.splitOr_append`: balanced text is passed over
- `Parentheses.splitOr_joined`: texts in parentheses are split where they were joined
- `Query.alternatives_apart`: what a query selects for several alternatives, and how it is read
-/

namespace SearchClient

namespace Parentheses

/-- A text closes some parentheses that are open in front of it, and all that it opens. -/
structure Closes (depth : Nat) (cs : List Char) : Prop where
  /-- Nowhere have more been closed than were open. -/
  opened : ∀ front, front <+: cs → front.count ')' ≤ depth + front.count '('
  closed : depth + cs.count '(' = cs.count ')'

/-- A text closes the parentheses that it opens, and no others. -/
abbrev Balanced (cs : List Char) : Prop := Closes 0 cs

/-- Parentheses that are open behind a character. -/
def step (depth : Nat) (c : Char) : Nat :=
  if c = '(' then depth + 1 else if c = ')' then depth - 1 else depth

/-- The text up to the parenthesis that closes the one which is open in front of it besides some
others, and the text behind that. -/
def splitClosing : Nat → List Char → Option (List Char × List Char)
  | _, [] => none
  | depth, c :: cs =>
    if c = ')' ∧ depth = 0 then some ([], cs)
    else (splitClosing (step depth c) cs).map fun p => (c :: p.1, p.2)

/-- What stands in parentheses, if the first is closed by the last character. -/
def inside? : List Char → Option (List Char)
  | '(' :: cs =>
    match splitClosing 0 cs with
    | some (inside, []) => some inside
    | _ => none
  | _ => none

/-- Puts a text in front of the first piece. -/
def glue (front : List Char) : List (List Char) → List (List Char)
  | [] => [front]
  | piece :: pieces => (front ++ piece) :: pieces

/-- The pieces of a text between the occurrences of ` OR ` in front of which no parenthesis is
open. -/
def splitOr : Nat → List Char → List (List Char)
  | _, [] => [[]]
  | 0, ' ' :: 'O' :: 'R' :: ' ' :: cs => [] :: splitOr 0 cs
  | depth, c :: cs => glue [c] (splitOr (step depth c) cs)

/-- The alternatives of an expression, each without its parentheses. -/
def readAlternatives (cs : List Char) : Option (List (List Char)) :=
  (inside? cs).bind fun inside => (splitOr 0 inside).mapM inside?

/-! ### Balanced texts -/

theorem closes_nil {depth : Nat} : Closes depth [] ↔ depth = 0 :=
  ⟨fun h => h.closed, fun h => ⟨fun front hfront => by simp [List.prefix_nil.1 hfront], h⟩⟩

/-- What a parenthesis changes in the count of those that are open. -/
private theorem count_cons_step {depth : Nat} {c : Char} (hopen : c = ')' → 0 < depth)
    (cs : List Char) :
    depth + (c :: cs).count '(' + cs.count ')' =
      step depth c + cs.count '(' + (c :: cs).count ')' := by
  unfold step
  by_cases ho : c = '('
  · subst ho
    simp
    omega
  · by_cases hc : c = ')'
    · subst hc
      have := hopen rfl
      simp
      omega
    · simp [ho, hc]

/-- A text closes what is open when its first character leaves that to the others. -/
theorem closes_cons {depth : Nat} {c : Char} {cs : List Char} :
    Closes depth (c :: cs) ↔ (c = ')' → 0 < depth) ∧ Closes (step depth c) cs := by
  constructor
  · intro h
    have hopen : c = ')' → 0 < depth := by
      rintro rfl
      have := h.opened [')'] (List.prefix_append [')'] cs)
      simp at this
      omega
    refine ⟨hopen, fun front hfront => ?_, ?_⟩
    · have := h.opened (c :: front) ((List.prefix_cons_inj c).2 hfront)
      have := count_cons_step hopen front
      omega
    · have := h.closed
      have := count_cons_step hopen cs
      omega
  · rintro ⟨hopen, h⟩
    refine ⟨fun front hfront => ?_, ?_⟩
    · rcases List.prefix_cons_iff.1 hfront with rfl | ⟨more, rfl, hmore⟩
      · exact Nat.zero_le _
      · have := h.opened more hmore
        have := count_cons_step hopen more
        omega
    · have := h.closed
      have := count_cons_step hopen cs
      omega

instance decidableCloses : (depth : Nat) → (cs : List Char) → Decidable (Closes depth cs)
  | _, [] => decidable_of_iff _ closes_nil.symm
  | depth, c :: cs =>
    have := decidableCloses (step depth c) cs
    decidable_of_iff _ closes_cons.symm

theorem Closes.append {depth : Nat} {cs ds : List Char} (h : Closes depth cs) (h' : Balanced ds) :
    Closes depth (cs ++ ds) := by
  induction cs generalizing depth with
  | nil =>
    obtain rfl := closes_nil.1 h
    exact h'
  | cons c cs ih =>
    obtain ⟨hopen, hrest⟩ := closes_cons.1 h
    exact closes_cons.2 ⟨hopen, ih hrest⟩

/-- One more parenthesis may be open all the time. -/
private theorem step_succ {depth : Nat} {c : Char} (hopen : c = ')' → 0 < depth) :
    step (depth + 1) c = step depth c + 1 := by
  unfold step
  split
  · rfl
  · split
    · rename_i hc
      have := hopen hc
      omega
    · rfl

/-- One more parenthesis that is open is closed behind the others. -/
theorem Closes.append_close {depth : Nat} {cs : List Char} (h : Closes depth cs) :
    Closes (depth + 1) (cs ++ [')']) := by
  induction cs generalizing depth with
  | nil => simp [closes_nil.1 h, closes_nil, closes_cons, step]
  | cons c cs ih =>
    obtain ⟨hopen, hrest⟩ := closes_cons.1 h
    refine closes_cons.2 ⟨fun _ => Nat.zero_lt_succ depth, ?_⟩
    rw [step_succ hopen]
    exact ih hrest

/-- A text in parentheses. -/
def enclose (cs : List Char) : List Char := '(' :: cs ++ [')']

theorem balanced_enclose {cs : List Char} (h : Balanced cs) : Balanced (enclose cs) :=
  closes_cons.2 ⟨nofun, h.append_close⟩

/-! ### Readers -/

/-- Whatever stands behind a text that closes what is open is up to the next parenthesis. -/
theorem splitClosing_append {depth : Nat} {cs : List Char} (h : Closes depth cs)
    (rest : List Char) :
    splitClosing depth (cs ++ rest) =
      (splitClosing 0 rest).map fun p => (cs ++ p.1, p.2) := by
  induction cs generalizing depth with
  | nil =>
    obtain rfl := closes_nil.1 h
    simp
  | cons c cs ih =>
    obtain ⟨hopen, hrest⟩ := closes_cons.1 h
    have hstays : ¬(c = ')' ∧ depth = 0) := fun ⟨hc, hzero⟩ => by
      have := hopen hc
      omega
    rw [List.cons_append, splitClosing, if_neg hstays, ih hrest, Option.map_map]
    rfl

theorem inside?_enclose {cs : List Char} (h : Balanced cs) : inside? (enclose cs) = some cs := by
  have hsplit : splitClosing 0 (cs ++ [')']) = some (cs, []) := by
    rw [splitClosing_append h]
    simp [splitClosing]
  unfold inside? enclose
  simp only [List.cons_append, hsplit]

theorem glue_append (front more : List Char) (pieces : List (List Char)) :
    glue front (glue more pieces) = glue (front ++ more) pieces := by
  cases pieces with
  | nil => rfl
  | cons piece pieces => simp [glue]

theorem splitOr_ne_nil (depth : Nat) (cs : List Char) : splitOr depth cs ≠ [] := by
  have hglue (front : List Char) (pieces : List (List Char)) : glue front pieces ≠ [] := by
    cases pieces <;> exact List.cons_ne_nil _ _
  unfold splitOr
  split
  · exact List.cons_ne_nil _ _
  · exact List.cons_ne_nil _ _
  · exact hglue _ _

/-- Where a parenthesis is open nothing is split. -/
theorem splitOr_succ (depth : Nat) (c : Char) (cs : List Char) :
    splitOr (depth + 1) (c :: cs) = glue [c] (splitOr (step (depth + 1) c) cs) := by
  rw [splitOr]
  simp

/-- A text that closes what is open, one parenthesis apart, belongs to one piece. -/
theorem splitOr_append {depth : Nat} {cs : List Char} (h : Closes depth cs) (rest : List Char) :
    splitOr (depth + 1) (cs ++ rest) = glue cs (splitOr 1 rest) := by
  -- The parenthesis apart stays open over the whole text, so the reader never sees depth zero.
  induction cs generalizing depth with
  | nil =>
    obtain rfl := closes_nil.1 h
    cases hpieces : splitOr 1 rest with
    | nil => exact absurd hpieces (splitOr_ne_nil 1 rest)
    | cons piece pieces => simp [glue, hpieces]
  | cons c cs ih =>
    obtain ⟨hopen, hrest⟩ := closes_cons.1 h
    rw [List.cons_append, splitOr_succ, step_succ hopen, ih hrest, glue_append]
    rfl

/-- A text in parentheses belongs to one piece, whatever it holds. -/
theorem splitOr_enclose {cs : List Char} (h : Balanced cs) (rest : List Char) :
    splitOr 0 (enclose cs ++ rest) = glue (enclose cs) (splitOr 0 rest) := by
  have hfirst (cs : List Char) : splitOr 0 ('(' :: cs) = glue ['('] (splitOr 1 cs) := by
    rw [splitOr]
    · rfl
    · simp
  have hlast : splitOr 1 (')' :: rest) = glue [')'] (splitOr 0 rest) := splitOr_succ 0 ')' rest
  unfold enclose
  rw [List.cons_append, List.cons_append, List.append_assoc, hfirst, splitOr_append h,
    List.singleton_append, hlast, glue_append, glue_append]
  rfl

/-- Texts in parentheses are split where they were joined. -/
theorem splitOr_joined {texts : List (List Char)} (hsome : texts ≠ [])
    (h : ∀ cs ∈ texts, Balanced cs) :
    splitOr 0 (" OR ".toList.intercalate (texts.map enclose)) = texts.map enclose := by
  induction texts with
  | nil => exact absurd rfl hsome
  | cons cs texts ih =>
    obtain ⟨hfirst, hrest⟩ := List.forall_mem_cons.1 h
    cases texts with
    | nil =>
      have hone := splitOr_enclose hfirst []
      rw [List.append_nil] at hone
      rw [List.map_singleton, List.intercalate_singleton, hone]
      simp [splitOr, glue]
    | cons ds texts =>
      -- Behind the first text no parenthesis is open, so the word in front of the second splits.
      have hmore := ih (List.cons_ne_nil ds texts) hrest
      have hword (rest : List Char) : splitOr 0 (" OR ".toList ++ rest) = [] :: splitOr 0 rest := by
        simp [splitOr]
      rw [List.map_cons] at hmore ⊢
      rw [List.map_cons, List.intercalate_cons_cons, List.append_assoc, splitOr_enclose hfirst,
        hword, hmore]
      simp [glue]

theorem balanced_joined {texts : List (List Char)} (h : ∀ cs ∈ texts, Balanced cs) :
    Balanced (" OR ".toList.intercalate (texts.map enclose)) := by
  have hword : Balanced " OR ".toList := by decide
  induction texts with
  | nil => decide
  | cons cs texts ih =>
    obtain ⟨hfirst, hrest⟩ := List.forall_mem_cons.1 h
    cases texts with
    | nil => simpa using balanced_enclose hfirst
    | cons ds texts =>
      have hmore := ih hrest
      rw [List.map_cons] at hmore ⊢
      rw [List.map_cons, List.intercalate_cons_cons]
      exact ((balanced_enclose hfirst).append hword).append hmore

/-- Alternatives that were joined and enclosed are read back. -/
theorem readAlternatives_enclose {texts : List (List Char)} (hsome : texts ≠ [])
    (h : ∀ cs ∈ texts, Balanced cs) :
    readAlternatives (enclose (" OR ".toList.intercalate (texts.map enclose))) = some texts := by
  have hinside : (texts.map enclose).mapM inside? = some texts := by
    clear hsome
    induction texts with
    | nil => rfl
    | cons cs texts ih =>
      obtain ⟨hfirst, hrest⟩ := List.forall_mem_cons.1 h
      rw [List.map_cons, List.mapM_cons, inside?_enclose hfirst, ih hrest]
      rfl
  unfold readAlternatives
  rw [inside?_enclose (balanced_joined h), Option.bind_some, splitOr_joined hsome h, hinside]

end Parentheses

open Parentheses

namespace Mutation

/-- Several alternatives as one expression. -/
theorem toList_disjunction {components : List String} (h : 2 ≤ components.length) :
    (disjunction components).toList =
      enclose (" OR ".toList.intercalate ((components.map String.toList).map enclose)) := by
  have hmany : disjunction components =
      "(" ++ " OR ".intercalate (components.map fun c => "(" ++ c ++ ")") ++ ")" := by
    match components, h with
    | _ :: _ :: _, _ => rfl
  have hopen : "(".toList = ['('] := rfl
  have hclose : ")".toList = [')'] := rfl
  have hone : String.toList ∘ (fun c => "(" ++ c ++ ")") = enclose ∘ String.toList := by
    funext c
    simp only [Function.comp_apply, String.toList_append, hopen, hclose, enclose]
    rfl
  rw [hmany, String.toList_append, String.toList_append, String.toList_intercalate, List.map_map,
    List.map_map, hone, hopen, hclose]
  rfl

/-- What alternatives select, whether the filter on their alias is accepted or not. -/
theorem select_alternatives {components : Value} {texts : List String}
    (htexts : alternativesOf components = .ok texts) (hsome : texts ≠ []) (q : Query)
    {aliases : AliasCounter} {name : String} (hname : aliases.draw.1 = .ok name) :
    ((alternatives components).apply q aliases).query.clauses.select =
      q.clauses.select ++ [.str (disjunction texts ++ " AS " ++ name)] := by
  rw [apply_of_named q htexts hsome hname]
  rcases Edit.ofEntry_query (q.dirtied.addColumns [.str (disjunction texts ++ " AS " ++ name)])
    aliases.draw.2 (Comparison.ofArguments (.str name) (.keyword (.operator .eq)) (.int 1)) _
    with ⟨_, -, h⟩ | h <;>
  · rw [h]
    rfl

end Mutation

/-- Several alternatives are selected as one expression, under the alias that is drawn. If the text
of each of them has balanced parentheses then so has the expression, its first parenthesis is closed
by its last character, and between these two the alternatives stand in their own parentheses, where a
reader finds them. -/
theorem Query.alternatives_apart (q : Query) (c : Collaborators) (w : World) {components : Value}
    {texts : List String} (htexts : Mutation.alternativesOf components = .ok texts)
    (hseveral : 2 ≤ texts.length) (hbalanced : ∀ text ∈ texts, Balanced text.toList)
    {name : String} (hname : w.aliases.draw.1 = .ok name) :
    ∃ expression inside,
      (q.call c w (.change (.alternatives components))).query.clauses.select =
        q.clauses.select ++ [.str (expression ++ " AS " ++ name)] ∧
      Balanced expression.toList ∧
      inside? expression.toList = some inside ∧
      splitOr 0 inside = texts.map (fun text => enclose text.toList) ∧
      readAlternatives expression.toList = some (texts.map String.toList) := by
  have hsome : texts ≠ [] := by
    rintro rfl
    exact absurd hseveral (by decide)
  have hselect : (q.call c w (.change (.alternatives components))).query.clauses.select =
      q.clauses.select ++ [.str (Mutation.disjunction texts ++ " AS " ++ name)] := by
    rw [show (q.call c w (.change (.alternatives components))).query =
        ((Mutation.alternatives components).apply q w.aliases).query from query_change ..]
    exact Mutation.select_alternatives htexts hsome q hname
  have hexpression := Mutation.toList_disjunction hseveral
  have hnone : texts.map String.toList ≠ [] := mt List.map_eq_nil_iff.1 hsome
  have hall : ∀ cs ∈ texts.map String.toList, Balanced cs := by
    intro cs hcs
    obtain ⟨text, htext, rfl⟩ := List.mem_map.1 hcs
    exact hbalanced text htext
  refine ⟨_, " OR ".toList.intercalate ((texts.map String.toList).map enclose), hselect,
    ?_, ?_, ?_, ?_⟩
  · rw [hexpression]
    exact balanced_enclose (balanced_joined hall)
  · rw [hexpression]
    exact inside?_enclose (balanced_joined hall)
  · rw [splitOr_joined hnone hall, List.map_map]
    rfl
  · rw [hexpression]
    exact readAlternatives_enclose hnone hall

/-- Alternatives with conjunctions, disjunctions and parentheses of their own, and an empty one. -/
theorem Query.alternatives_apart_of_nested :
    let c : Collaborators := { connection := { engine := fun _ _ => .answer {} } }
    let texts : List String := ["a OR b", "c AND (d OR (e)) OR f()", ""]
    let components := Value.list (texts.map .str)
    let q := Query.create .null (.int 10)
    (Mutation.alternativesOf components = .ok texts ∧ 2 ≤ texts.length ∧
      (∀ text ∈ texts, Balanced text.toList) ∧ ({} : World).aliases.draw.1 = .ok "orX0") ∧
    ∃ expression,
      (q.call c {} (.change (.alternatives components))).query.clauses.select =
        [.str (expression ++ " AS " ++ "orX0")] ∧
      readAlternatives expression.toList =
        some ["a OR b".toList, "c AND (d OR (e)) OR f()".toList, []] := by
  intro c texts components q
  have htexts : Mutation.alternativesOf components = .ok texts := rfl
  have hseveral : 2 ≤ texts.length := by decide
  have hbalanced : ∀ text ∈ texts, Balanced text.toList := by decide
  have hname : ({} : World).aliases.draw.1 = .ok "orX0" := rfl
  obtain ⟨expression, _, hselect, -, -, -, hread⟩ :=
    alternatives_apart q c {} htexts hseveral hbalanced hname
  exact ⟨⟨htexts, hseveral, hbalanced, hname⟩, expression, hselect, hread⟩

end SearchClient
