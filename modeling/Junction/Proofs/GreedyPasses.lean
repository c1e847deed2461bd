import Junction.Proofs.Scans

/-!
# Scan after scan makes one greedy pass

After each vehicle that it lets in, the scheduler starts its scan again with the first vehicle of
the first class. If nobody else touches the books meanwhile, then a vehicle that was refused once is
refused in every later scan, since marks are only added. So it is as if the scheduler went through
the line of waiting vehicles just once, and let in each one whose route meets no mark made before
the pass or for somebody let in during the pass.

## Main definitions

* `WaitingQueue.standing` — the vehicles that wait, each with the class of its line
* `Ledger.marked` — the segments with a reservation
* `Scheduler.greedy` — a single pass
* `Scheduler.rescan` — scan after scan until nobody is let in
* `Scheduler.IsGreedyPass` — what the scans have in common with the pass

## Main results

* `Ledger.Consistent.sound` — books that pass the check are sound
* `Scheduler.scan_cases` — the two ways in which a scan can go on consistent books
* `Scheduler.isGreedyPass_rescan` — every queue, and every table with consistent books
-/

namespace Junction

theorem Route.intersects_union {r r' : Route} (h : r.intersects r' = true) (more : Route) :
    (r.union more).intersects r' = true := by
  by_contra hfree
  have hdisjoint := not_intersects_iff.1 (eq_false_of_ne_true hfree)
  refine absurd h (Bool.eq_false_iff.1 (not_intersects_iff.2 fun s hs => ?_))
  exact hdisjoint s (mem_union.2 (.inl hs))

namespace Ledger

variable {l : Ledger} {v : VehicleId} {r : Route}

/-! ### Books that pass the check -/

/-- If nothing is wrong with the vehicles inside, they own their routes. -/
theorem owns_of_entryProblem? {entries : List (VehicleId × Route)} {covered : Route}
    (h : l.entryProblem? covered entries = none) (hentry : (v, r) ∈ entries) :
    ∀ s ∈ r, l.owns v s = true := by
  induction entries generalizing covered with
  | nil => cases hentry
  | cons entry rest ih =>
    obtain ⟨w, r'⟩ := entry
    rw [entryProblem?] at h
    split at h
    · cases h
    · next hfine =>
      rcases List.mem_cons.1 hentry with hfirst | hrest
      · cases hfirst
        simp only [Bool.or_eq_true, List.any_eq_true, Route.mem_segments, not_or, not_exists,
          not_and, Bool.not_eq_true', Bool.not_eq_false] at hfine
        exact hfine.2
      · exact ih h hrest

/-- Books that pass the check are sound, whatever the slots say. -/
theorem Consistent.sound (h : l.Consistent) : l.Sound := by
  rw [Consistent, problem?, Option.or_eq_none_iff, List.findSome?_eq_none_iff] at h
  obtain ⟨hholders, hentries⟩ := h
  have hreserved : ∀ s v, l.held.get s = some v → l.reserved.get s = some v := by
    intro s v hheld
    by_contra hmark
    have hfine := hholders s (Segment.mem_all s)
    simp only [heldProblem?, hheld, if_neg hmark] at hfine
    cases hfine
  refine ⟨hreserved _ _, fun {v r} hinside s => ⟨fun hheld => ?_, fun hs => ?_⟩⟩
  · by_contra hs
    have hfine := hholders s (Segment.mem_all s)
    simp only [heldProblem?, hheld, if_pos (hreserved s v hheld), hinside, if_neg hs] at hfine
    cases hfine
  · have howns := owns_of_entryProblem? hentries (Roster.mem_entries_iff.2 hinside) s hs
    simp only [owns, Bool.and_eq_true, beq_iff_eq] at howns
    exact howns.1

/-! ### The marks -/

/-- The segments with a reservation. -/
def marked (l : Ledger) : Route :=
  ⟨(l.reserved.get .ab).isSome, (l.reserved.get .bc).isSome, (l.reserved.get .ca).isSome⟩

theorem mem_marked {s : Segment} : s ∈ l.marked ↔ l.reserved.get s ≠ none := by
  rw [← Option.isSome_iff_ne_none]
  cases s <;> rfl

/-- A route meets a mark if it cannot be reserved. -/
theorem intersects_marked (l : Ledger) (r : Route) :
    l.marked.intersects r = !l.unreserved r := by
  cases hfree : l.unreserved r with
  | true => exact Route.not_intersects_iff.2 fun s hmark hs =>
      mem_marked.1 hmark (unreserved_iff.1 hfree s hs)
  | false =>
    obtain ⟨s, hs, hmark⟩ := unreserved_eq_false_iff.1 hfree
    exact eq_true_of_ne_false fun hdisjoint =>
      Route.not_intersects_iff.1 hdisjoint s (mem_marked.2 hmark) hs

theorem marked_reserve (l : Ledger) (v : VehicleId) (r : Route) :
    (l.reserve v r).marked = l.marked.union r := by
  refine Route.ext_mem fun s => ?_
  rw [mem_marked, get_reserved_reserve, Route.mem_union, mem_marked]
  by_cases hs : s ∈ r <;> simp [hs]

end Ledger

namespace WaitingQueue

variable {q : WaitingQueue} {c : VehicleClass} {before after : List Vehicle} {v : Vehicle}

/-! ### The vehicles in line -/

/-- The vehicles that wait in the lines of some classes, each with the class of its line. -/
def standingIn (q : WaitingQueue) (classes : List VehicleClass) : List (VehicleClass × Vehicle) :=
  classes.flatMap fun c => (q.line c).map (Prod.mk c)

/-- All vehicles that wait, in the order in which they are served, each with the class of its
line. -/
def standing (q : WaitingQueue) : List (VehicleClass × Vehicle) := q.standingIn VehicleClass.all

theorem standing_eq (q : WaitingQueue) (c : VehicleClass) :
    q.standing =
      q.standingIn c.earlier ++ ((q.line c).map (Prod.mk c) ++ q.standingIn c.later) := by
  rw [standing, standingIn, c.all_eq, List.flatMap_append, List.flatMap_cons]
  rfl

theorem map_snd_standingIn (q : WaitingQueue) (classes : List VehicleClass) :
    (q.standingIn classes).map Prod.snd = classes.flatMap q.line := by
  rw [standingIn, List.map_flatMap]
  refine List.flatMap_congr fun c _ => ?_
  rw [List.map_map]
  exact List.map_id _

theorem map_snd_standing (q : WaitingQueue) : q.standing.map Prod.snd = q.lines :=
  q.map_snd_standingIn _

theorem among_consume (q : WaitingQueue) (classes : List VehicleClass) :
    q.consume.1.among classes = classes.flatMap q.line :=
  List.flatMap_congr fun c _ => q.levels_consume c

theorem consume_consume (q : WaitingQueue) : q.consume.1.consume.1 = q.consume.1 := by
  refine ext_parts (fun c => ?_) fun c => ?_
  · rw [zone_consume, zone_consume]
  · rw [levels_consume, line, zone_consume, List.append_nil]

theorem standingIn_congr {q' : WaitingQueue} {classes : List VehicleClass}
    (h : ∀ c ∈ classes, q'.line c = q.line c) : q'.standingIn classes = q.standingIn classes :=
  List.flatMap_congr fun c hc => by rw [h c hc]

theorem standing_consume (q : WaitingQueue) : q.consume.1.standing = q.standing :=
  standingIn_congr fun c _ => by rw [line, levels_consume, zone_consume, List.append_nil]

theorem line_withLevel_consume (c c' : VehicleClass) (level : List Vehicle) :
    (q.consume.1.withLevel c level).line c' = if c' = c then level else q.line c' := by
  rw [line, levels_withLevel, levels_consume]
  have hzone : (q.consume.1.withLevel c level).zone.get c' = [] := zone_consume c'
  rw [hzone, List.append_nil]

/-- When a vehicle leaves its place in a level, all others stay where they are. -/
theorem standing_withLevel_consume (hline : q.line c = before ++ v :: after) :
    ∃ ahead behind, q.standing = ahead ++ (c, v) :: behind ∧
      (q.consume.1.withLevel c (before ++ after)).standing = ahead ++ behind ∧
      ahead.map Prod.snd = q.consume.1.ahead c ++ before := by
  -- A class occurs once among all, so the lines before and after it stay as they are.
  have hothers : ∀ classes, c ∉ classes →
      (q.consume.1.withLevel c (before ++ after)).standingIn classes = q.standingIn classes := by
    intro classes hc
    refine standingIn_congr fun c' hc' => ?_
    have hne : c' ≠ c := fun heq => hc (heq ▸ hc')
    rw [line_withLevel_consume, if_neg hne]
  refine ⟨q.standingIn c.earlier ++ before.map (Prod.mk c),
    after.map (Prod.mk c) ++ q.standingIn c.later, ?_, ?_, ?_⟩
  · rw [q.standing_eq c, hline, List.map_append, List.map_cons]
    simp only [List.append_assoc, List.cons_append]
  · rw [standing_eq _ c, hothers c.earlier c.notMem_earlier, hothers c.later c.notMem_later,
      line_withLevel_consume, if_pos rfl, List.map_append]
    simp only [List.append_assoc]
  · rw [List.map_append, map_snd_standingIn, List.map_map, ahead, among_consume]
    exact congrArg _ (List.map_id _)

end WaitingQueue

namespace SegmentTable

/-! ### Reservations for several vehicles -/

/-- One table comes from another by reservations for some vehicles: the marks are those from before
and the routes of the vehicles, and nothing else has changed. -/
structure Reserves (t : SegmentTable) (vehicles : List Vehicle) (t' : SegmentTable) : Prop where
  /-- Only marks have changed. -/
  frame : ∃ marks, t' = { t with ledger := { t.ledger with reserved := marks } }
  /-- A mark is one from before, or one for a vehicle on its route. -/
  reserved : ∀ s w, t'.ledger.reserved.get s = some w ↔
    t.ledger.reserved.get s = some w ∨ ∃ v ∈ vehicles, v.id = w ∧ s ∈ v.route

namespace Reserves

variable {t t' : SegmentTable} {v : Vehicle} {vehicles : List Vehicle}

theorem nil (t : SegmentTable) : t.Reserves [] t := ⟨⟨_, rfl⟩, by simp⟩

theorem cons (hfree : t.ledger.unreserved v.route = true)
    (h : Reserves { t with ledger := t.ledger.reserve v.id v.route } vehicles t') :
    t.Reserves (v :: vehicles) t' := by
  obtain ⟨marks, rfl⟩ := h.frame
  refine ⟨⟨marks, rfl⟩, fun s w => ?_⟩
  rw [h.reserved, Ledger.get_reserved_reserve, List.exists_mem_cons_iff, ← or_assoc]
  refine or_congr_left ?_
  by_cases hs : s ∈ v.route
  · simp [hs, Ledger.unreserved_iff.1 hfree s hs]
  · simp [hs]

end Reserves

end SegmentTable

namespace Scheduler

open WaitingQueue (stateAfter Refuses)

/-! ### A single pass -/

/-- How a pass has divided the vehicles in line. -/
structure Pass where
  /-- The vehicles that it has let in. -/
  admitted : List (VehicleClass × Vehicle)
  /-- The vehicles that it has left in line. -/
  left : List (VehicleClass × Vehicle)
deriving DecidableEq

/-- A pass through the vehicles in line: it lets in each vehicle whose route meets no segment that
was marked at first or is on the route of somebody let in before. -/
def greedy (marked : Route) : List (VehicleClass × Vehicle) → Pass
  | [] => ⟨[], []⟩
  | x :: rest =>
    if marked.intersects x.2.route then
      let pass := greedy marked rest
      { pass with left := x :: pass.left }
    else
      let pass := greedy (marked.union x.2.route) rest
      { pass with admitted := x :: pass.admitted }

variable {marked : Route} {x : VehicleClass × Vehicle}
variable {before after rest : List (VehicleClass × Vehicle)}

/-- Vehicles that are blocked from the start are left in line. -/
theorem greedy_append (hbefore : ∀ y ∈ before, marked.intersects y.2.route = true)
    (rest : List (VehicleClass × Vehicle)) :
    greedy marked (before ++ rest) =
      ⟨(greedy marked rest).admitted, before ++ (greedy marked rest).left⟩ := by
  induction before with
  | nil => rfl
  | cons y before ih =>
    rw [List.forall_mem_cons] at hbefore
    rw [List.cons_append, greedy, if_pos hbefore.1, ih hbefore.2]
    rfl

theorem greedy_of_blocked (h : ∀ y ∈ rest, marked.intersects y.2.route = true) :
    greedy marked rest = ⟨[], rest⟩ := by
  have hall := greedy_append h []
  rw [List.append_nil] at hall
  rw [hall, greedy, List.append_nil]

/-- A pass may start again from the first vehicle when it has let somebody in: whoever was blocked
is blocked again. -/
theorem greedy_restart (hbefore : ∀ y ∈ before, marked.intersects y.2.route = true)
    (hx : marked.intersects x.2.route = false) (after : List (VehicleClass × Vehicle)) :
    greedy marked (before ++ x :: after) =
      ⟨x :: (greedy (marked.union x.2.route) (before ++ after)).admitted,
        (greedy (marked.union x.2.route) (before ++ after)).left⟩ := by
  have hagain : ∀ y ∈ before, (marked.union x.2.route).intersects y.2.route = true := fun y hy =>
    Route.intersects_union (hbefore y hy) x.2.route
  rw [greedy_append hbefore, greedy_append hagain, greedy, if_neg (Bool.eq_false_iff.1 hx)]

theorem left_sublist (marked : Route) (rest : List (VehicleClass × Vehicle)) :
    (greedy marked rest).left.Sublist rest := by
  induction rest generalizing marked with
  | nil => exact .slnil
  | cons x rest ih =>
    rw [greedy]
    split
    · exact (ih _).cons_cons x
    · exact (ih _).cons x

/-! ### A scan on consistent books -/

section Scan

variable {t : SegmentTable} {v : Vehicle} {vehicles : List Vehicle} {fault : Option Violation}

theorem reserving_of_unreserved (hsound : t.ledger.Sound)
    (h : t.ledger.unreserved v.route = true) :
    reserving v (t, fault) =
      (some ⟨v.id, v.route⟩, { t with ledger := t.ledger.reserve v.id v.route }, fault) :=
  reserving_of_ok (SegmentTable.reserve_of_unreserved hsound (Ledger.unreserved_iff.1 h) v.id) fault

/-- On sound books exactly the routes with a marked segment are refused. -/
theorem refuses_iff (hsound : t.ledger.Sound) :
    Refuses reserving vehicles (t, fault) ↔
      ∀ v ∈ vehicles, t.ledger.unreserved v.route = false := by
  induction vehicles with
  | nil => exact iff_of_true (WaitingQueue.refuses_nil _) (by simp)
  | cons v rest ih =>
    rw [WaitingQueue.refuses_cons, List.forall_mem_cons]
    cases hfree : t.ledger.unreserved v.route with
    | false =>
      rw [reserving_of_marked hfree]
      exact and_congr (iff_of_true rfl rfl) ih
    | true =>
      rw [reserving_of_unreserved hsound hfree]
      exact iff_of_false (fun h => nomatch h.1) fun h => nomatch h.1

/-- Refusals change nothing. -/
theorem stateAfter_of_marked (h : ∀ v ∈ vehicles, t.ledger.unreserved v.route = false) :
    stateAfter reserving vehicles (t, fault) = (t, fault) := by
  induction vehicles with
  | nil => rfl
  | cons v rest ih =>
    rw [List.forall_mem_cons] at h
    rw [stateAfter, List.foldl_cons, reserving_of_marked h.1]
    exact ih h.2

/-- On sound books, a scan finds everybody blocked and changes nothing, or it lets in the first
vehicle in line whose route has no mark. -/
theorem scan_cases (hsound : t.ledger.Sound) (q : WaitingQueue) :
    ((∀ v ∈ q.lines, t.ledger.unreserved v.route = false) ∧
      scan q t = (q.consume.1, none, t, none)) ∨
    ∃ before x after q', q.standing = before ++ x :: after ∧
      (∀ y ∈ before, t.ledger.unreserved y.2.route = false) ∧
      t.ledger.unreserved x.2.route = true ∧
      q'.standing = before ++ after ∧
      scan q t = (q', some (x.2, ⟨x.2.id, x.2.route⟩),
        { t with ledger := t.ledger.reserve x.2.id x.2.route }, none) := by
  rcases WaitingQueue.refuses_or_fits_candidates reserving q.consume.1 (t, none) with
    hrefused | ⟨c, before, v, after, ticket, hlevel, hbefore, hv⟩
  · have hblocked := (refuses_iff hsound).1 hrefused
    rw [scan, WaitingQueue.admitFirst_of_refuses hrefused, stateAfter_of_marked hblocked]
    rw [WaitingQueue.candidates, WaitingQueue.among_consume] at hblocked
    exact .inl ⟨hblocked, rfl⟩
  · have hblocked := (refuses_iff hsound).1 hbefore
    rw [stateAfter_of_marked hblocked] at hv
    -- A ticket is given for a route without a mark only.
    have hfree : t.ledger.unreserved v.route = true := by
      by_contra hmarked
      rw [reserving_of_marked (eq_false_of_ne_true hmarked)] at hv
      cases hv
    rw [reserving_of_unreserved hsound hfree] at hv
    cases hv
    obtain ⟨ahead, behind, hstanding, hleft, hahead⟩ :=
      WaitingQueue.standing_withLevel_consume ((q.levels_consume c).symm.trans hlevel)
    refine .inr ⟨ahead, (c, v), behind, _, hstanding, fun y hy => ?_, hfree, hleft, ?_⟩
    · exact hblocked y.2 (hahead ▸ List.mem_map_of_mem hy)
    · have hasked : (reserving v (stateAfter reserving (q.consume.1.ahead c ++ before)
          (t, none))).1 = some ⟨v.id, v.route⟩ := by
        rw [stateAfter_of_marked hblocked, reserving_of_unreserved hsound hfree]
      rw [scan, WaitingQueue.admitFirst_of_fits hlevel hbefore hasked,
        WaitingQueue.stateAfter_append, stateAfter_of_marked hblocked, stateAfter, List.foldl_cons,
        List.foldl_nil, reserving_of_unreserved hsound hfree]

end Scan

/-! ### Scan after scan -/

/-- The admission of a vehicle by a scan, with what the scan has found. -/
structure Admission where
  /-- The vehicle that is let in. -/
  vehicle : Vehicle
  /-- Its ticket. -/
  ticket : Ticket
  /-- The queue before the scan. -/
  queue : WaitingQueue
  /-- The table before the scan. -/
  table : SegmentTable

/-- The vehicle is the first one in line whose route has no mark, and its ticket is for this
route. -/
def Admission.IsFirst (a : Admission) : Prop :=
  a.queue.lines.find? (fun v => a.table.ledger.unreserved v.route) = some a.vehicle ∧
    a.ticket = ⟨a.vehicle.id, a.vehicle.route⟩

/-- What scan after scan comes to. -/
structure Round where
  /-- Who is let in, scan by scan. -/
  admissions : List Admission
  /-- The queue after the last scan. -/
  queue : WaitingQueue
  /-- The table after the last scan. -/
  table : SegmentTable
  /-- The error that has ended the scans, if one has. -/
  fault : Option Violation

/-- Whoever is let in is no longer in line. -/
theorem length_standing_scan {q q' : WaitingQueue} {t t' : SegmentTable}
    {admitted : Vehicle × Ticket} {fault : Option Violation}
    (h : scan q t = (q', some admitted, t', fault)) :
    q'.standing.length < q.standing.length := by
  rcases WaitingQueue.refuses_or_fits_candidates reserving q.consume.1 (t, none) with
    hrefused | ⟨c, before, v, after, ticket, hlevel, hbefore, hv⟩
  · rw [scan, WaitingQueue.admitFirst_of_refuses hrefused] at h
    cases h
  · rw [scan, WaitingQueue.admitFirst_of_fits hlevel hbefore hv] at h
    obtain ⟨rfl, -⟩ := Prod.mk.inj h
    obtain ⟨ahead, behind, hstanding, hleft, -⟩ :=
      WaitingQueue.standing_withLevel_consume ((q.levels_consume c).symm.trans hlevel)
    rw [hstanding, hleft, List.length_append, List.length_append, List.length_cons]
    omega

/-- Scan after scan, until nobody is let in or an error has occurred. -/
def rescan (q : WaitingQueue) (t : SegmentTable) : Round :=
  match _ : scan q t with
  | (q', some (v, ticket), t', none) =>
    let round := rescan q' t'
    { round with admissions := ⟨v, ticket, q, t⟩ :: round.admissions }
  | (q', _, t', fault) => ⟨[], q', t', fault⟩
termination_by q.standing.length
decreasing_by exact length_standing_scan ‹scan q t = _›

/-- The scans that follow each other let in whom a single pass lets in. -/
structure IsGreedyPass (q : WaitingQueue) (t : SegmentTable) (round : Round) : Prop where
  /-- No scan fails. -/
  fault : round.fault = none
  /-- The last scan has let nobody in, and another one would change nothing. -/
  settled : scan round.queue round.table = (round.queue, none, round.table, none)
  /-- The same vehicles are let in, in the same order. -/
  order : round.admissions.map Admission.vehicle =
    (greedy t.ledger.marked q.standing).admitted.map Prod.snd
  /-- Each of them was the first one in line that could be let in. -/
  first : ∀ a ∈ round.admissions, a.IsFirst
  /-- In the end their routes are marked, and whatever was marked before. -/
  reserves : t.Reserves (round.admissions.map Admission.vehicle) round.table
  /-- Each vehicle that still waits is blocked by a mark. -/
  blocked : ∀ v ∈ round.queue.lines, ∃ s ∈ v.route, round.table.ledger.reserved.get s ≠ none
  /-- Those still wait whom the pass has left in line, each in the line of its class. -/
  left : round.queue.standing = (greedy t.ledger.marked q.standing).left
  /-- The books are still consistent. -/
  consistent : round.table.ledger.Consistent

section Rescan

variable {q q' : WaitingQueue} {t t' : SegmentTable} {v : Vehicle} {ticket : Ticket} {round : Round}

theorem rescan_of_none (h : scan q t = (q', none, t', none)) : rescan q t = ⟨[], q', t', none⟩ := by
  rw [rescan]
  split
  · next heq => cases h.symm.trans heq
  · next heq =>
    cases h.symm.trans heq
    rfl

theorem rescan_of_some (h : scan q t = (q', some (v, ticket), t', none)) :
    rescan q t =
      { rescan q' t' with admissions := ⟨v, ticket, q, t⟩ :: (rescan q' t').admissions } := by
  rw [rescan]
  split
  · next heq =>
    cases h.symm.trans heq
    rfl
  · next hnone heq =>
    cases h.symm.trans heq
    exact (hnone _ _ rfl rfl).elim

/-- Nobody is let in when everybody is blocked. -/
theorem isGreedyPass_of_blocked (hconsistent : t.ledger.Consistent)
    (hblocked : ∀ v ∈ q.lines, t.ledger.unreserved v.route = false)
    (hscan : scan q t = (q.consume.1, none, t, none)) :
    IsGreedyPass q t ⟨[], q.consume.1, t, none⟩ := by
  have hpass : greedy t.ledger.marked q.standing = ⟨[], q.standing⟩ := by
    refine greedy_of_blocked fun y hy => ?_
    rw [Ledger.intersects_marked, hblocked y.2 (q.map_snd_standing ▸ List.mem_map_of_mem hy)]
    rfl
  -- The waiting zones are empty by now, so the next scan finds the same line.
  have hagain : scan q.consume.1 t = (q.consume.1, none, t, none) := by
    rw [scan, q.consume_consume, ← scan, hscan]
  have hlines : q.consume.1.lines = q.lines := by
    rw [← WaitingQueue.map_snd_standing, q.standing_consume, q.map_snd_standing]
  refine ⟨rfl, hagain, ?_, List.forall_mem_nil _, .nil t, fun v hv => ?_, ?_, hconsistent⟩
  · rw [hpass]
    rfl
  · exact Ledger.unreserved_eq_false_iff.1 (hblocked v (hlines ▸ hv))
  · rw [hpass, q.standing_consume]

/-- A vehicle without a mark on its route is the first such vehicle in line if everybody before it
is blocked. -/
theorem find?_lines {before after : List (VehicleClass × Vehicle)} {x : VehicleClass × Vehicle}
    (hstanding : q.standing = before ++ x :: after)
    (hbefore : ∀ y ∈ before, t.ledger.unreserved y.2.route = false)
    (hx : t.ledger.unreserved x.2.route = true) :
    q.lines.find? (fun v => t.ledger.unreserved v.route) = some x.2 := by
  rw [← q.map_snd_standing, hstanding, List.map_append, List.map_cons]
  refine List.find?_eq_some_iff_append.2 ⟨hx, before.map Prod.snd, after.map Prod.snd, rfl, ?_⟩
  simpa using fun v c hv => hbefore (c, v) hv

/-- When the first vehicle that can be let in is let in, the scans go on with all others. -/
theorem IsGreedyPass.cons {before after : List (VehicleClass × Vehicle)}
    {x : VehicleClass × Vehicle} (hstanding : q.standing = before ++ x :: after)
    (hbefore : ∀ y ∈ before, t.ledger.unreserved y.2.route = false)
    (hx : t.ledger.unreserved x.2.route = true) (hleft : q'.standing = before ++ after)
    (h : IsGreedyPass q' { t with ledger := t.ledger.reserve x.2.id x.2.route } round) :
    IsGreedyPass q t
      { round with admissions := ⟨x.2, ⟨x.2.id, x.2.route⟩, q, t⟩ :: round.admissions } := by
  have hmarks : ∀ y ∈ before, t.ledger.marked.intersects y.2.route = true := by
    intro y hy
    rw [Ledger.intersects_marked, hbefore y hy]
    rfl
  have hfree : t.ledger.marked.intersects x.2.route = false := by
    rw [Ledger.intersects_marked, hx]
    rfl
  -- The next scan asks those again who were blocked, and the pass may do so as well.
  have hpass := greedy_restart hmarks hfree after
  rw [← hstanding, ← hleft, ← Ledger.marked_reserve t.ledger x.2.id x.2.route] at hpass
  refine ⟨h.fault, h.settled, ?_, ?_, .cons hx h.reserves, h.blocked, ?_, h.consistent⟩
  · rw [hpass, List.map_cons, List.map_cons, h.order]
  · exact List.forall_mem_cons.2 ⟨⟨find?_lines hstanding hbefore hx, rfl⟩, h.first⟩
  · rw [hpass]
    exact h.left

end Rescan

/-- Whoever waits, and whatever is reserved in consistent books: scan after scan, the scheduler lets
in the vehicles of a single greedy pass through the line, in their order. The marks are then those
from before and those for the routes of the admitted, and everybody else is blocked and waits in the
old order. -/
theorem isGreedyPass_rescan {t : SegmentTable} (h : t.ledger.Consistent) (q : WaitingQueue) :
    IsGreedyPass q t (rescan q t) ∧ (rescan q t).queue.standing.Sublist q.standing := by
  suffices hpass : IsGreedyPass q t (rescan q t) from ⟨hpass, hpass.left ▸ left_sublist _ _⟩
  induction q, t using rescan.induct with
  | case1 q t q' v ticket t' hscan ih =>
    rcases scan_cases h.sound q with ⟨-, hnobody⟩ |
      ⟨before, x, after, q'', hstanding, hbefore, hx, hleft, hfit⟩
    · cases hscan.symm.trans hnobody
    · cases hscan.symm.trans hfit
      rw [rescan_of_some hfit]
      exact (ih (h.sound.reserve hx x.2.id).consistent).cons hstanding hbefore hx hleft
  | case2 q t q' admitted t' fault hnone hscan =>
    rcases scan_cases h.sound q with ⟨hblocked, hnobody⟩ |
      ⟨before, x, after, q'', hstanding, hbefore, hx, hleft, hfit⟩
    · rw [rescan_of_none hnobody]
      exact isGreedyPass_of_blocked h hblocked hnobody
    -- A scan on consistent books does not fail when it lets somebody in.
    · cases hscan.symm.trans hfit
      exact (hnone _ _ rfl rfl).elim

/-- A queue with an ambulance from approach A, and a car and a truck from approach C. -/
def threeWaiting : WaitingQueue :=
  (({} : WaitingQueue).enqueue ⟨4, .truck, .c, .right, 4⟩).consume.1
    |>.enqueue ⟨3, .car, .c, .right, 3⟩ |>.enqueue ⟨2, .ambulance, .a, .right, 2⟩

/-- Segment AB is taken: the ambulance waits, the car goes, and then the truck waits too. -/
theorem isGreedyPass_halfway :
    SegmentTable.halfway.ledger.Consistent ∧
      IsGreedyPass threeWaiting SegmentTable.halfway (rescan threeWaiting SegmentTable.halfway) ∧
      (rescan threeWaiting SegmentTable.halfway).admissions.map Admission.vehicle =
        [⟨3, .car, .c, .right, 3⟩] := by
  have hconsistent : SegmentTable.halfway.ledger.Consistent := by decide
  obtain ⟨hpass, -⟩ := isGreedyPass_rescan hconsistent threeWaiting
  exact ⟨hconsistent, hpass, hpass.order.trans (by decide)⟩

end Scheduler

end Junction
