import Mathlib.Data.List.Induction
import Mathlib.Data.List.Nodup
import SearchClient.Hydration
import SearchClient.Proofs.Except

/-!
# Entities in the order of the rows

Hydration works with places: an identifier has the place of the first row that names it, an entity is
put at the place of its identifier, and in the end the places are read in rising order. Here the
result is said without places. The identifiers are walked in the order of the rows, each counts where
it appears first, and it gives the last entity that carries it.

A ranking is always the table of some function on the places of the rows. Putting an entity changes
that function at one place, so the loop over the entities is a search from the end.

## Key results

- `Ranking.put_tabulate`: putting an entity changes a table at one place
- `rank_eq`: the ranking of some entities has at each place the last one that stands there
- `filterMap_range_eq`: first places, in rising order, are identifiers without repetitions
- `result_of_loaded`: what hydration gives once entities are loaded
- `hydrate_in_rank`: what hydration gives
- `world_hydrate`: what hydration leaves in the world
-/

namespace SearchClient.Hydration

/-! ### Rankings -/

namespace Ranking

/-- The ranking that has at each of some places what a function gives for it. -/
def tabulate (places : List Nat) (f : Nat → Option Entity) : Ranking :=
  places.filterMap fun p => (f p).map (p, ·)

theorem map_snd_tabulate (places : List Nat) (f : Nat → Option Entity) :
    (tabulate places f).map (·.2) = places.filterMap f := by
  simp only [tabulate, List.map_filterMap, Option.map_map, Function.comp_def, Option.map_id']

/-- An entity whose place comes before all others is put in front of them. -/
private theorem put_of_lt {ranking : Ranking} {place : Nat} (h : ∀ x ∈ ranking, place < x.1)
    (e : Entity) : ranking.put place e = (place, e) :: ranking := by
  cases ranking with
  | nil => rfl
  | cons x rest =>
    have hx : place < x.1 := h x List.mem_cons_self
    simp only [put, if_pos hx]

private theorem lt_of_mem_tabulate {places : List Nat} {place : Nat} (h : ∀ p ∈ places, place < p)
    (f : Nat → Option Entity) : ∀ x ∈ tabulate places f, place < x.1 := by
  intro x hx
  obtain ⟨p, hp, hfp⟩ := List.mem_filterMap.1 hx
  obtain ⟨e, -, rfl⟩ := Option.map_eq_some_iff.1 hfp
  exact h p hp

/-- Putting an entity changes the table at its place. -/
theorem put_tabulate {places : List Nat} (hsorted : places.Pairwise (· < ·)) {place : Nat}
    (hplace : place ∈ places) (f : Nat → Option Entity) (e : Entity) :
    (tabulate places f).put place e =
      tabulate places fun p => if p = place then some e else f p := by
  induction places with
  | nil => exact nomatch hplace
  | cons p rest ih =>
    obtain ⟨hp, hrest⟩ := List.pairwise_cons.1 hsorted
    have hcons (g : Nat → Option Entity) :
        tabulate (p :: rest) g = ((g p).map (p, ·)).toList ++ tabulate rest g := by
      simp only [tabulate, List.filterMap_cons]
      cases g p <;> rfl
    rw [hcons, hcons]
    by_cases hsame : p = place
    · subst hsame
      -- Behind its own place the table stays as it is.
      have hothers : (tabulate rest fun q => if q = p then some e else f q) = tabulate rest f := by
        refine List.filterMap_congr fun q hq => ?_
        have hne : q ≠ p := Nat.ne_of_gt (hp q hq)
        simp only [if_neg hne]
      rw [if_pos rfl, hothers]
      cases f p with
      | none => exact put_of_lt (lt_of_mem_tabulate hp f) e
      | some e' => simp [put]
    · have hmem : place ∈ rest := (List.mem_cons.1 hplace).resolve_left (Ne.symm hsame)
      have hlt : p < place := hp place hmem
      rw [if_neg hsame, ← ih hrest hmem]
      cases f p with
      | none => rfl
      | some e' => simp [put, Nat.not_lt_of_gt hlt, Ne.symm hsame]

end Ranking

/-! ### Entities at their places -/

/-- The place of an entity: that of the first row that names its identifier. -/
def place? (source : EntityQuery) (column : Value) (ids : List Int) (e : Entity) : Option Nat :=
  match entityIdentifier source column e with
  | .ok id => ids.findIdx? (· == id)
  | .error _ => none

/-- Whether an entity carries an identifier. -/
def carries (source : EntityQuery) (column : Value) (id : Int) (e : Entity) : Bool :=
  match entityIdentifier source column e with
  | .ok n => n == id
  | .error _ => false

theorem carries_iff {source : EntityQuery} {column : Value} {id : Int} {e : Entity} :
    carries source column id e = true ↔ entityIdentifier source column e = .ok id := by
  unfold carries
  cases entityIdentifier source column e with
  | error f => simp
  | ok n => simp

private theorem lt_of_findIdx? {ids : List Int} {id : Int} {p : Nat}
    (h : ids.findIdx? (· == id) = some p) : p < ids.length :=
  (List.findIdx?_eq_some_iff_getElem.1 h).1

/-- The ranking of entities that can all be identified has at each place the last of them that stands
there, or what was there before. -/
theorem rank_eq {source : EntityQuery} {column : Value} {ids : List Int} {entities : List Entity}
    (hread : ∀ e ∈ entities, ∃ id, entityIdentifier source column e = .ok id)
    (f : Nat → Option Entity) (w : World) :
    (rank source column ids entities (.tabulate (.range ids.length) f) w).1 =
      .ok (.tabulate (.range ids.length) fun p =>
        (entities.reverse.find? (place? source column ids · == some p)).or (f p)) := by
  -- The ranking and the world so far are arbitrary; the ranking stays a table.
  induction entities generalizing f w with
  | nil => rfl
  | cons e rest ih =>
    obtain ⟨⟨id, hid⟩, hrest⟩ := List.forall_mem_cons.1 hread
    have hplace : place? source column ids e = ids.findIdx? (· == id) := by
      rw [place?, hid]
    rw [rank, hid]
    simp only [List.reverse_cons, List.find?_append, Option.or_assoc]
    cases hfound : ids.findIdx? (· == id) with
    | some p =>
      have hmem : p ∈ List.range ids.length := List.mem_range.2 (lt_of_findIdx? hfound)
      dsimp only
      rw [Ranking.put_tabulate List.pairwise_lt_range hmem, ih hrest]
      congr 2
      funext p'
      rw [List.find?_singleton, hplace, hfound]
      by_cases hsame : p' = p
      · simp [hsame]
      · simp [hsame, Ne.symm hsame]
    | none =>
      dsimp only
      rw [ih hrest]
      congr 2
      funext p'
      rw [List.find?_singleton, hplace, hfound]
      rfl

/-! ### Places and identifiers -/

/-- An identifier stands first where it stands and has not stood before. -/
private theorem findIdx?_eq_some_iff {ids : List Int} {id : Int} {p : Nat} (hp : p < ids.length) :
    ids.findIdx? (· == id) = some p ↔ ids[p] = id ∧ id ∉ ids.take p := by
  rw [List.findIdx?_eq_some_iff_getElem]
  simp only [beq_iff_eq, List.mem_take_iff_getElem]
  constructor
  · rintro ⟨_, hid, hbefore⟩
    refine ⟨hid, ?_⟩
    rintro ⟨j, hj, rfl⟩
    exact hbefore j (by omega) rfl
  · rintro ⟨hid, hnot⟩
    exact ⟨hp, hid, fun j hj hsame => hnot ⟨j, by omega, hsame⟩⟩

/-- At a place stand the entities of its identifier if the identifier appears there first, and
otherwise none. -/
private theorem find?_place?_eq (source : EntityQuery) (column : Value) {ids : List Int} {p : Nat}
    (hp : p < ids.length) (entities : List Entity) :
    entities.find? (place? source column ids · == some p) =
      if ids[p] ∈ ids.take p then none else entities.find? (carries source column ids[p]) := by
  have hstands (e : Entity) : (place? source column ids e == some p) =
      (carries source column ids[p] e && decide (ids[p] ∉ ids.take p)) := by
    unfold place? carries
    cases entityIdentifier source column e with
    | error f => rfl
    | ok id =>
      rw [Bool.eq_iff_iff, beq_iff_eq, findIdx?_eq_some_iff hp, Bool.and_eq_true, beq_iff_eq,
        decide_eq_true_iff]
      constructor
      · rintro ⟨rfl, hfirst⟩
        exact ⟨rfl, hfirst⟩
      · rintro ⟨rfl, hfirst⟩
        exact ⟨rfl, hfirst⟩
  simp only [hstands]
  by_cases hbefore : ids[p] ∈ ids.take p
  · simp [hbefore]
  · simp [hbefore]

/-- A walk over the first places, in rising order, is one over the identifiers without
repetitions. -/
theorem filterMap_range_eq {α : Type} (ids : List Int) {f : Nat → Option α} {g : Int → Option α}
    (hf : ∀ p (hp : p < ids.length), f p = if ids[p] ∈ ids.take p then none else g ids[p]) :
    (List.range ids.length).filterMap f = ids.eraseDups.filterMap g := by
  have hfront (n : Nat) (hn : n ≤ ids.length) :
      (List.range n).filterMap f = (ids.take n).eraseDups.filterMap g := by
    induction n with
    | zero => rfl
    | succ n ih =>
      have hlt : n < ids.length := hn
      have htake : ids.take (n + 1) = ids.take n ++ [ids[n]] := by simp
      rw [List.range_succ, List.filterMap_append, ih (by omega), htake, List.eraseDups_append,
        List.filterMap_append]
      congr 1
      by_cases hbefore : ids[n] ∈ ids.take n
      · simp [hf n hlt, hbefore, List.removeAll]
      · simp [hf n hlt, hbefore, List.removeAll, List.eraseDups_cons, List.filterMap_cons]
  simpa using hfront ids.length (Nat.le_refl _)

private theorem nodup_eraseDups (ids : List Int) : ids.eraseDups.Nodup := by
  induction ids using List.reverseRecOn with
  | nil => exact List.nodup_nil
  | append_singleton ids id ih =>
    rw [List.eraseDups_append]
    by_cases hmem : id ∈ ids
    · simpa [List.removeAll, hmem] using ih
    · have hother : ∀ n ∈ ids, n ≠ id := fun n hn hsame => hmem (hsame ▸ hn)
      simpa [List.removeAll, hmem, List.eraseDups_cons, List.nodup_append, ih] using hother

/-! ### Hydration -/

/-- Entities in the order of the rows: each identifier where it appears first, with the last entity
that carries it. -/
def inRank (source : EntityQuery) (column : Value) (ids : List Int) (entities : List Entity) :
    List Entity :=
  ids.eraseDups.filterMap fun id => entities.reverse.find? (carries source column id)

private theorem result_fetch {source : EntityQuery} {column : Value} {ids : List Int}
    {entities : List Entity} (hload : source.load source.asked column ids = .ok entities)
    (w : World) : (fetch source column ids w).result = .ok entities := by
  unfold fetch
  simp only [hload]

/-- When rows name integers and entities are loaded for them, the ranking decides. -/
theorem result_of_loaded {rows : List Cells} {source : EntityQuery} {column : Value}
    {ids : List Int} {entities : List Entity} (hrows : rows ≠ [])
    (hids : identifiers rows column = .ok ids)
    (hload : source.load source.asked column ids = .ok entities) (w : World) :
    ∃ u, (hydrate rows source column w).result =
      (rank source column ids entities [] u).1.map (·.map (·.2)) := by
  have hsome : rows.isEmpty = false := by simpa using hrows
  refine ⟨(fetch source column ids w).world, ?_⟩
  unfold hydrate
  rw [hids, hsome]
  simp only [Bool.false_eq_true, if_false, result_fetch hload]
  rcases rank source column ids entities [] (fetch source column ids w).world with ⟨f | ranking, u⟩
  · rfl
  · rfl

/-- Rows that name integers, and entities that can all be identified, give the entities in the order
of the rows. -/
private theorem result_hydrate {rows : List Cells} {source : EntityQuery} {column : Value}
    {ids : List Int} {entities : List Entity} (hids : rows.map (rowIdentifier column) = ids.map .ok)
    (hload : source.load source.asked column ids = .ok entities)
    (hread : ∀ e ∈ entities, ∃ id, entityIdentifier source column e = .ok id) (w : World) :
    (hydrate rows source column w).result = .ok (inRank source column ids entities) := by
  have hnames : identifiers rows column = .ok ids :=
    Except.mapError_eq_ok.2 (Except.mapM_eq_ok_of_map_eq hids)
  -- The ranking starts without entities, so at each place stands what the search finds.
  have hrank (u : World) : (rank source column ids entities [] u).1 =
      .ok (.tabulate (.range ids.length) fun p =>
        entities.reverse.find? (place? source column ids · == some p)) := by
    have hempty : Ranking.tabulate (.range ids.length) (fun _ => none) = [] :=
      List.filterMap_eq_nil_iff.2 fun _ _ => rfl
    have hranked : (rank source column ids entities (.tabulate (.range ids.length) fun _ => none)
        u).1 = _ := rank_eq hread _ u
    simpa only [hempty, Option.or_none] using hranked
  cases rows with
  | nil =>
    obtain rfl := List.map_eq_nil_iff.1 hids.symm
    rfl
  | cons row rows =>
    obtain ⟨u, hresult⟩ := result_of_loaded (List.cons_ne_nil row rows) hnames hload w
    rw [hresult, hrank]
    dsimp only [Except.map]
    rw [Ranking.map_snd_tabulate, inRank]
    congr 1
    exact filterMap_range_eq ids fun p hp => find?_place?_eq source column hp _

/-- Only loaded entities come out, each for an identifier of the rows. -/
private theorem mem_inRank {source : EntityQuery} {column : Value} {ids : List Int}
    {entities : List Entity} {e : Entity} (h : e ∈ inRank source column ids entities) :
    e ∈ entities ∧ ∃ id ∈ ids, entityIdentifier source column e = .ok id := by
  obtain ⟨id, hid, hfound⟩ := List.mem_filterMap.1 h
  exact ⟨List.mem_reverse.1 (List.mem_of_find?_eq_some hfound), id, List.mem_eraseDups.1 hid,
    carries_iff.1 (List.find?_some hfound)⟩

/-- No identifier comes out twice. -/
private theorem nodup_inRank (source : EntityQuery) (column : Value) (ids : List Int)
    (entities : List Entity) :
    ((inRank source column ids entities).map (entityIdentifier source column)).Nodup := by
  unfold List.Nodup inRank
  rw [List.pairwise_map, List.pairwise_filterMap]
  refine (nodup_eraseDups ids).imp fun {id id'} hne e he e' he' hsame => hne ?_
  have hid := carries_iff.1 (List.find?_some he)
  have hid' := carries_iff.1 (List.find?_some he')
  exact Except.ok.inj (hid.symm.trans (hsame.trans hid'))

/-- When no two entities carry one identifier, the only one that does is found, wherever it stands. -/
private theorem find?_carries_eq_some_iff {source : EntityQuery} {column : Value}
    {entities : List Entity} (h : (entities.map (entityIdentifier source column)).Nodup) {id : Int}
    {e : Entity} :
    entities.reverse.find? (carries source column id) = some e ↔
      e ∈ entities ∧ entityIdentifier source column e = .ok id := by
  constructor
  · intro hfound
    exact ⟨List.mem_reverse.1 (List.mem_of_find?_eq_some hfound),
      carries_iff.1 (List.find?_some hfound)⟩
  · rintro ⟨hmem, hid⟩
    cases hfound : entities.reverse.find? (carries source column id) with
    | none =>
      have hnot := List.find?_eq_none.1 hfound e (List.mem_reverse.2 hmem)
      exact absurd (carries_iff.2 hid) hnot
    | some e' =>
      have hmem' := List.mem_reverse.1 (List.mem_of_find?_eq_some hfound)
      have hsame := (carries_iff.1 (List.find?_some hfound)).trans hid.symm
      rw [List.inj_on_of_nodup_map h hmem' hmem hsame]

/-- When no two entities carry one identifier, their order does not matter. -/
private theorem inRank_perm {source : EntityQuery} {column : Value} {entities entities' : List Entity}
    (hnodup : (entities.map (entityIdentifier source column)).Nodup)
    (hperm : entities'.Perm entities) (ids : List Int) :
    inRank source column ids entities' = inRank source column ids entities := by
  have hnodup' : (entities'.map (entityIdentifier source column)).Nodup :=
    (hperm.map _).nodup_iff.2 hnodup
  refine List.filterMap_congr fun id _ => Option.ext fun e => ?_
  rw [find?_carries_eq_some_iff hnodup, find?_carries_eq_some_iff hnodup', hperm.mem_iff]

/-- Rows that name integers, and loaded entities that can all be identified, give the entities in
the order of the rows: every identifier counts where it appears first, one that no entity carries is
skipped, and of several entities that carry it the last is taken. So only loaded entities that a row
names come out, none twice for one identifier; and if no two entities carry one identifier, it does
not matter in which order they were loaded. -/
theorem hydrate_in_rank {rows : List Cells} {source : EntityQuery} {column : Value}
    {ids : List Int} {entities : List Entity} (hids : rows.map (rowIdentifier column) = ids.map .ok)
    (hload : source.load source.asked column ids = .ok entities)
    (hread : ∀ e ∈ entities, ∃ id, entityIdentifier source column e = .ok id) (w : World) :
    let ranked := inRank source column ids entities
    (hydrate rows source column w).result = .ok ranked ∧
      (∀ e ∈ ranked, e ∈ entities ∧ ∃ id ∈ ids, entityIdentifier source column e = .ok id) ∧
      (ranked.map (entityIdentifier source column)).Nodup ∧
      ((entities.map (entityIdentifier source column)).Nodup →
        ∀ (source' : EntityQuery) (entities' : List Entity) (w' : World),
          source'.identifier = source.identifier → entities'.Perm entities →
          source'.load source'.asked column ids = .ok entities' →
          (hydrate rows source' column w').result = .ok ranked) := by
  intro ranked
  refine ⟨result_hydrate hids hload hread w, fun e he => mem_inRank he,
    nodup_inRank source column ids entities, ?_⟩
  intro hnodup source' entities' w' hidentifier hperm hload'
  -- Which source it is that loads them makes no difference to how entities are identified.
  have hsame : entityIdentifier source' column = entityIdentifier source column := by
    funext e
    rw [entityIdentifier, entityIdentifier, hidentifier]
  have hcarries : carries source' column = carries source column := by
    funext id e
    rw [carries, carries, hsame]
  have hread' : ∀ e ∈ entities', ∃ id, entityIdentifier source' column e = .ok id := fun e he =>
    hsame ▸ hread e (hperm.mem_iff.1 he)
  have hranked : inRank source' column ids entities' = ranked := by
    rw [inRank, hcarries]
    exact inRank_perm hnodup hperm ids
  rw [result_hydrate hids hload' hread' w', hranked]

/-- Rows that name one identifier twice, once as a text, and one that no entity carries; entities
among which one was not asked for and two carry one identifier. -/
theorem hydrate_in_rank_of_strangers :
    let column : Value := .str "id"
    let row (v : Value) : Cells := [(column, v)]
    let entity (label : String) (v : Value) : Entity := ⟨label, label, [("id", v)]⟩
    let rows := [row (.int 3), row (.str "1"), row (.int 3), row (.int 2)]
    let entities := [entity "a" (.int 1), entity "b" (.int 9), entity "c" (.int 3),
      entity "d" (.str "1")]
    let source := EntityQuery.ofEntities entities true []
    (rows.map (rowIdentifier column) = [3, 1, 3, 2].map .ok ∧
        source.load source.asked column [3, 1, 3, 2] = .ok entities ∧
        ∀ e ∈ entities, ∃ id, entityIdentifier source column e = .ok id) ∧
      (hydrate rows source column {}).result =
        .ok [entity "c" (.int 3), entity "d" (.str "1")] := by
  intro column row entity rows entities source
  have hrow (v : Value) : rowIdentifier column (row v) = v.toInt := by
    unfold rowIdentifier
    rw [show row v = Cells.ofRow [("id", v)] from rfl, Cells.read_ofRow]
    rfl
  have hids : rows.map (rowIdentifier column) = [3, 1, 3, 2].map .ok := by
    simp only [rows, List.map_cons, List.map_nil, hrow]
    rfl
  have hload : source.load source.asked column [3, 1, 3, 2] = .ok entities := rfl
  have hread : ∀ e ∈ entities, ∃ id, entityIdentifier source column e = .ok id := by
    simp only [entities, List.forall_mem_cons]
    exact ⟨⟨1, rfl⟩, ⟨9, rfl⟩, ⟨3, rfl⟩, ⟨1, rfl⟩, nofun⟩
  exact ⟨⟨hids, hload, hread⟩, (hydrate_in_rank hids hload hread {}).1⟩

/-! ### The world -/

private theorem world_rank (source : EntityQuery) (column : Value) (ids : List Int)
    (entities : List Entity) (ranking : Ranking) (w : World) :
    ∃ records, (rank source column ids entities ranking w).2 =
      { w with records := w.records ++ records } := by
  induction entities generalizing ranking w with
  | nil => exact ⟨[], by simp [rank]⟩
  | cons e rest ih =>
    rw [rank]
    split
    · split
      · exact ⟨_, rfl⟩
      · exact ⟨_, rfl⟩
    · split
      · exact ih _ w
      · rename_i id _ _ _
        obtain ⟨records, hrest⟩ := ih ranking (w.report (stray column id))
        refine ⟨[stray column id] ++ records, ?_⟩
        rw [hrest, ← List.append_assoc]
        rfl

private theorem world_fetch (source : EntityQuery) (column : Value) (ids : List Int) (w : World) :
    ∃ events records, (fetch source column ids w).world =
        { w with events := w.events ++ events, records := w.records ++ records } ∧
      (events = [] ∨ events = [.entitiesFetched column ids]) := by
  obtain ⟨events, hevents, htraced⟩ : ∃ events,
      (if source.traced then w.emit (.entitiesFetched column ids) else w) =
          { w with events := w.events ++ events } ∧
        (events = [] ∨ events = [.entitiesFetched column ids]) := by
    split
    · exact ⟨_, rfl, .inr rfl⟩
    · exact ⟨[], by simp, .inl rfl⟩
  unfold fetch
  rw [hevents]
  dsimp only
  split
  · exact ⟨events, [], by simp, htraced⟩
  · split
    · exact ⟨events, _, rfl, htraced⟩
    · exact ⟨events, _, rfl, htraced⟩

/-- Hydration adds reports and the trace of one load at most, and leaves the rest of the world. -/
theorem world_hydrate (rows : List Cells) (source : EntityQuery) (column : Value) (w : World) :
    ∃ events records, (hydrate rows source column w).world =
        { w with events := w.events ++ events, records := w.records ++ records } ∧
      (events = [] ∨ ∃ ids, events = [.entitiesFetched column ids]) := by
  unfold hydrate
  split
  · exact ⟨[], [], by simp, .inl rfl⟩
  · split
    · rename_i f _
      exact ⟨[], f.record?.toList, by simp [World.note, World.reportAny], .inl rfl⟩
    · rename_i ids _
      obtain ⟨events, records, hfetch, htraced⟩ := world_fetch source column ids w
      have htraced : events = [] ∨ ∃ ids, events = [.entitiesFetched column ids] :=
        htraced.imp_right fun h => ⟨ids, h⟩
      dsimp only
      split
      · exact ⟨events, records, hfetch, htraced⟩
      · rename_i entities _
        -- The reports of the ranking stand behind those of the load.
        obtain ⟨more, hrank⟩ := world_rank source column ids entities []
          (fetch source column ids w).world
        have hboth : (rank source column ids entities [] (fetch source column ids w).world).2 =
            { w with events := w.events ++ events, records := w.records ++ (records ++ more) } := by
          rw [hrank, hfetch, List.append_assoc]
        split
        · rename_i heq
          rw [heq] at hboth
          exact ⟨events, _, hboth, htraced⟩
        · rename_i heq
          rw [heq] at hboth
          exact ⟨events, _, hboth, htraced⟩

end SearchClient.Hydration
