import Mathlib.Order.Basic
import Junction.Proofs.Coherence
import Junction.Proofs.Lines
import Junction.Proofs.Scans
import Junction.Proofs.Wakes

/-!
# A grant that nobody acknowledges

The scheduler has granted a route and waits for the acknowledgment, and none comes. It waits as
often as the configuration says, with a warning after each wait in vain. Then it aborts the run,
which empties the queue and wakes everybody in it, and only after that does it cancel the ticket. A
segment that the vehicle has taken meanwhile stays its own; the reservations of the other segments
of its route are dropped.

While nobody else takes a step, the scheduler has no choice: it takes its next step if it can, and
its wait ends if it cannot. So there is one course of events only, and it is followed to its end.

## Main definitions

* `Scheduler.GoesOn` — the scheduler goes on alone, with a number of waits in vain
* `Scheduler.Unanswered` — a grant is to be made on a site where nobody else is at work
* `Scheduler.Abandons` — what a grant in vain leaves behind

## Main results

* `Scheduler.GoesOn.compare` — a scheduler that is alone has one way to go
* `Scheduler.goesOn_abort` — the whole abort
* `Scheduler.abandons_of_unanswered` — every grant that nobody acknowledges
-/

namespace Junction

namespace WaitingQueue

variable {q : WaitingQueue}

/-- An empty waiting zone can be passed over. -/
theorem gather_of_empty {c : VehicleClass} (h : q.zone.get c = []) : q.gather c = q := by
  refine ext_parts (fun c' => ?_) fun c' => ?_
  · rw [zone_gather]
    split
    · next hc => rw [hc, h]
    · rfl
  · rw [levels_gather]
    split
    · next hc => rw [hc, line, h, List.append_nil]
    · rfl

end WaitingQueue

/-- The withdrawal of a reservation changes the column of the reservations only. -/
theorem Ledger.unreserve_eq (l : Ledger) (v : VehicleId) (r : Route) :
    l.unreserve v r = { l with reserved := (l.unreserve v r).reserved } := by
  obtain ⟨hheld, hacquires, hreleases, hinside, hentered⟩ := drops_frame l v r.segments
  change (l.unreserve v r).held = _ at hheld
  change (l.unreserve v r).acquires = _ at hacquires
  change (l.unreserve v r).releases = _ at hreleases
  change (l.unreserve v r).inside = _ at hinside
  change (l.unreserve v r).entered = _ at hentered
  rw [← hheld, ← hacquires, ← hreleases, ← hinside, ← hentered]

/-- The cancellation of a ticket touches neither holders nor counters. -/
theorem SegmentTable.cancel_eq (t : SegmentTable) (ticket : Ticket) :
    t.cancel ticket =
      { t with ledger := { t.ledger with reserved := (t.cancel ticket).ledger.reserved } } :=
  congrArg (fun ledger => { t with ledger }) (t.ledger.unreserve_eq ticket.vehicle ticket.route)

/-! ### The wakes of an abort -/

/-- The site after a wake for each of some vehicles. -/
def Site.wakeEach (x : Site) (vehicles : List Vehicle) : Site :=
  vehicles.foldl (fun x v => x.wake v.channel) x

/-- The site after a whole abort that nobody is in the way of, and that has the first fault. -/
def Site.afterAbort (x : Site) (f : Fault) : Site :=
  Site.wakeEach { x with
    queue := {}
    epoch := x.epoch + 1
    acks := x.acks + 1
    faultLocked := false
    fault := some f
    aborted := true
    console := x.console.warn s!"Intersection: aborting: {f.message}." } x.queue.lines

namespace Site

theorem wakeEach_eq (x : Site) (vehicles : List Vehicle) :
    x.wakeEach vehicles = { x with wakes := (x.wakeEach vehicles).wakes } := by
  induction vehicles generalizing x with
  | nil => rfl
  | cons v rest ih => exact ih (x.wake v.channel)

theorem get_wakes_wakeEach (x : Site) (vehicles : List Vehicle) (channel : Nat) :
    (x.wakeEach vehicles).wakes.get channel =
      x.wakes.get channel + Vehicle.countOn channel vehicles := by
  induction vehicles generalizing x with
  | nil => rfl
  | cons v rest ih =>
    have hrest := ih (x.wake v.channel)
    rw [get_wakes_wake] at hrest
    rw [Vehicle.countOn_cons, ← Nat.add_assoc, Nat.add_right_comm, ← hrest]
    rfl

theorem get_wakes_afterAbort (x : Site) (f : Fault) (channel : Nat) :
    (x.afterAbort f).wakes.get channel =
      x.wakes.get channel + Vehicle.countOn channel x.queue.lines :=
  get_wakes_wakeEach ..

theorem table_afterAbort (x : Site) (f : Fault) : (x.afterAbort f).table = x.table := by
  rw [afterAbort, wakeEach_eq]

end Site

namespace Abort

variable {x : Site}

theorem step_gather (hscanned : x.scanned = none) (c : VehicleClass) :
    (gather c).step x = .next (x.withQueue (x.queue.gather c)) (afterGather c) := by
  by_cases hempty : x.queue.zone.get c = []
  · have hqueue : x.withQueue (x.queue.gather c) = x := by
      rw [WaitingQueue.gather_of_empty hempty]
      rfl
    simp only [step, hempty, List.isEmpty_nil, if_true, hqueue]
    rfl
  · simp only [step, List.isEmpty_iff, hempty, if_false, hscanned, reduceCtorEq]
    rfl

theorem step_drain (hscanned : x.scanned = none) (c : VehicleClass) (drained : List Vehicle) :
    (drain c drained).step x = .next (x.withQueue (x.queue.drainLevel c).1)
      (afterDrain c (drained ++ x.queue.levels.get c)) := by
  simp only [step, hscanned, reduceCtorEq, if_false]
  rfl

end Abort

namespace Scheduler

/-! ### The scheduler alone -/

/-- The scheduler goes on while nobody else takes a step, and a number of its waits end in vain. -/
inductive GoesOn (supervised : Bool) : Nat → Site × Scheduler → Site × Scheduler → Prop
  /-- It has not gone on yet. -/
  | refl (p : Site × Scheduler) : GoesOn supervised 0 p p
  /-- It takes a step. -/
  | step {n : Nat} {p p' p'' : Site × Scheduler} (step : Alone supervised p p')
      (rest : GoesOn supervised n p' p'') : GoesOn supervised n p p''
  /-- Its wait ends in vain. -/
  | timeout {n : Nat} {p p' p'' : Site × Scheduler} (timeout : p.2.timeout? p.1 = some p')
      (rest : GoesOn supervised n p' p'') : GoesOn supervised (n + 1) p p''

variable {supervised : Bool} {x : Site} {m n : Nat} {p p' p'' : Site × Scheduler}

/-- A wait can only end while the scheduler cannot take a step. -/
theorem not_alone_of_timeout (h : p.2.timeout? p.1 = some p') : ¬ Alone supervised p p'' := by
  intro hstep
  obtain ⟨x, c⟩ := p
  cases hpoint : c.point with
  | await v ticket retries =>
    simp only [timeout?, hpoint] at h
    split at h
    · next hacks =>
      simp only [Alone, step?, hpoint, Site.takeAck?, hacks, Nat.lt_irrefl, if_false,
        Option.map_none, reduceCtorEq] at hstep
    · cases h
  | _ =>
    simp only [timeout?, hpoint] at h
    cases h

namespace GoesOn

theorem trans (h : GoesOn supervised m p p') (h' : GoesOn supervised n p' p'') :
    GoesOn supervised (m + n) p p'' := by
  induction h with
  | refl p => rwa [Nat.zero_add]
  | step step rest ih => exact .step step (ih h')
  | timeout timeout rest ih =>
    rw [Nat.succ_add]
    exact .timeout timeout (ih h')

theorem trans_of_steps (h : GoesOn supervised 0 p p') (h' : GoesOn supervised n p' p'') :
    GoesOn supervised n p p'' := by
  have hboth := h.trans h'
  rwa [Nat.zero_add] at hboth

/-- A scheduler that is alone has one way to go: of two places that it reaches, one is on the way to
the other. -/
theorem compare (h : GoesOn supervised m p p') (h' : GoesOn supervised n p p'') :
    (∃ k, m + k = n ∧ GoesOn supervised k p' p'') ∨
      ∃ k, n + k = m ∧ GoesOn supervised k p'' p' := by
  -- Where one way takes a step and the other lets time pass, both would be possible at once.
  induction h generalizing n p'' with
  | refl p => exact .inl ⟨n, Nat.zero_add n, h'⟩
  | step step rest ih =>
    cases h' with
    | refl => exact .inr ⟨_, Nat.zero_add _, .step step rest⟩
    | step step' rest' =>
      cases Option.some.inj (step.symm.trans step')
      exact ih rest'
    | timeout timeout' rest' => exact absurd step (not_alone_of_timeout timeout')
  | timeout timeout rest ih =>
    cases h' with
    | refl => exact .inr ⟨_, Nat.zero_add _, .timeout timeout rest⟩
    | step step' rest' => exact absurd step' (not_alone_of_timeout timeout)
    | timeout timeout' rest' =>
      cases Option.some.inj (timeout.symm.trans timeout')
      rcases ih rest' with ⟨k, hk, hrest⟩ | ⟨k, hk, hrest⟩
      · exact .inl ⟨k, by omega, hrest⟩
      · exact .inr ⟨k, by omega, hrest⟩

end GoesOn

/-! ### The waits -/

/-- The console after a warning for each of the first waits in vain. -/
def warned (console : Console) (ticket : Ticket) (limit count : Nat) : Console :=
  (List.range' 1 count).foldl (fun console i => console.warn (retryMessage ticket i limit)) console

theorem warned_succ (console : Console) (ticket : Ticket) (limit count : Nat) :
    warned console ticket limit (count + 1) =
      (warned console ticket limit count).warn (retryMessage ticket (count + 1) limit) := by
  unfold warned
  rw [List.range'_1_concat, List.foldl_concat, Nat.add_comm 1]

variable {state : State} {pass : Nat} {v : Vehicle} {ticket : Ticket}

/-- The end of a wait in vain. -/
theorem timeout?_await (hacks : x.acks = 0) (retries : Nat) :
    timeout? x ⟨state, pass, .await v ticket retries⟩ = some
      ({ x with
          console := x.console.warn (retryMessage ticket (retries + 1) x.config.grantRetries) },
        ⟨state, pass, if x.config.grantRetries ≤ retries + 1 then
          .giveUp v ticket (.raise (.protocolViolation (.unacknowledgedGrant ticket.vehicle)))
        else .await v ticket (retries + 1)⟩) := by
  simp only [timeout?, hacks, if_true]

/-- As long as its patience lasts, the scheduler waits again. -/
theorem goesOn_await (hacks : x.acks = 0) {count : Nat} (hcount : count < x.config.grantRetries) :
    GoesOn supervised count (x, ⟨state, pass, .await v ticket 0⟩)
      ({ x with console := warned x.console ticket x.config.grantRetries count },
        ⟨state, pass, .await v ticket count⟩) := by
  induction count with
  | zero => exact .refl _
  | succ count ih =>
    refine (ih (Nat.lt_of_succ_lt hcount)).trans (.timeout ?_ (.refl _))
    rw [warned_succ]
    refine (timeout?_await ?_ count).trans ?_
    · exact hacks
    · rw [if_neg (Nat.not_le.2 hcount)]

/-- With the last wait its patience is over. -/
theorem goesOn_giveUp (hacks : x.acks = 0) (hretries : 1 ≤ x.config.grantRetries) :
    GoesOn supervised x.config.grantRetries (x, ⟨state, pass, .await v ticket 0⟩)
      ({ x with console := warned x.console ticket x.config.grantRetries x.config.grantRetries },
        ⟨state, pass, .giveUp v ticket
          (.raise (.protocolViolation (.unacknowledgedGrant ticket.vehicle)))⟩) := by
  -- The last wait is apart, since the scheduler does not wait again after it.
  obtain ⟨limit, hlimit⟩ := Nat.exists_eq_add_of_le' hretries
  have hwaits : GoesOn supervised limit (x, ⟨state, pass, .await v ticket 0⟩)
      ({ x with console := warned x.console ticket x.config.grantRetries limit },
        ⟨state, pass, .await v ticket limit⟩) := goesOn_await hacks (by omega)
  have hlast : GoesOn supervised 1
      ({ x with console := warned x.console ticket x.config.grantRetries limit },
        ⟨state, pass, .await v ticket limit⟩)
      ({ x with console := warned x.console ticket x.config.grantRetries (limit + 1) },
        ⟨state, pass, .giveUp v ticket
          (.raise (.protocolViolation (.unacknowledgedGrant ticket.vehicle)))⟩) := by
    refine .timeout ?_ (.refl _)
    rw [warned_succ]
    refine (timeout?_await ?_ limit).trans ?_
    · exact hacks
    · rw [if_pos hlimit.le]
  have hboth := hwaits.trans hlast
  rwa [← hlimit] at hboth

/-! ### The abort -/

theorem alone_giveUp {x' : Site} {a a' : Abort} (h : a.step x = .next x' a') :
    Alone supervised (x, ⟨state, pass, .giveUp v ticket a⟩)
      (x', ⟨state, pass, .giveUp v ticket a'⟩) := by
  simp only [Alone, step?, h]

theorem goesOn_wake (x : Site) (vehicles : List Vehicle) :
    GoesOn supervised 0 (x, ⟨state, pass, .giveUp v ticket (.wake vehicles)⟩)
      (x.wakeEach vehicles, ⟨state, pass, .withdraw v ticket⟩) := by
  induction vehicles generalizing x with
  | nil => exact .step rfl (.refl _)
  | cons w rest ih => exact .step (alone_giveUp rfl) (ih (x.wake w.channel))

/-- The zones are moved and then the levels are emptied, one class after the other. -/
theorem goesOn_drain (hscanned : x.scanned = none) :
    GoesOn supervised 0 (x, ⟨state, pass, .giveUp v ticket (.gather .ambulance)⟩)
      (x.withQueue {}, ⟨state, pass, .giveUp v ticket (.unlock x.queue.lines)⟩) := by
  have hdrain : GoesOn supervised 0 (x, ⟨state, pass, .giveUp v ticket (.gather .ambulance)⟩)
      (x.withQueue x.queue.drain.1,
        ⟨state, pass, .giveUp v ticket (.unlock x.queue.drain.2)⟩) := by
    refine .step (alone_giveUp (Abort.step_gather hscanned .ambulance)) ?_
    refine .step (alone_giveUp (Abort.step_gather (by exact hscanned) .car)) ?_
    refine .step (alone_giveUp (Abort.step_gather (by exact hscanned) .truck)) ?_
    refine .step (alone_giveUp (Abort.step_drain (by exact hscanned) .ambulance [])) ?_
    refine .step (alone_giveUp (Abort.step_drain (by exact hscanned) .car _)) ?_
    exact .step (alone_giveUp (Abort.step_drain (by exact hscanned) .truck _)) (.refl _)
  rwa [WaitingQueue.drain_fst, WaitingQueue.drain_snd] at hdrain

/-- Nobody is in the way of an abort: it keeps its fault, empties the queue and wakes everybody whom
it has found there. -/
theorem goesOn_abort (hfault : x.fault = none) (hunlocked : x.faultLocked = false)
    (hscanned : x.scanned = none) (f : Fault) :
    GoesOn supervised 0 (x, ⟨state, pass, .giveUp v ticket (.raise f)⟩)
      (x.afterAbort f, ⟨state, pass, .withdraw v ticket⟩) := by
  have hraise : (Abort.raise f).step x = .next { x with
      faultLocked := true
      fault := some f
      console := x.console.warn s!"Intersection: aborting: {f.message}." } .flag := by
    simp only [Abort.step, hunlocked, Bool.false_eq_true, if_false, Site.raise, hfault]
  refine .step (alone_giveUp hraise) (.step (alone_giveUp rfl) ?_)
  refine (goesOn_drain (by exact hscanned)).trans_of_steps ?_
  exact .step (alone_giveUp rfl) (.step (alone_giveUp rfl) (.step (alone_giveUp rfl)
    (goesOn_wake _ x.queue.lines)))

/-! ### The grant -/

/-- A vehicle is to be granted a route, of which it may have taken some segments already, on a site
whose run was not aborted and where nobody else is at work; no acknowledgment is pending. -/
structure Unanswered (x : Site) (v : Vehicle) (r : Route) : Prop where
  /-- The run was not aborted. -/
  fault : x.fault = none
  /-- Nobody is in an arrival or in an abort. -/
  unlocked : x.faultLocked = false
  /-- The scheduler has left its scan. -/
  scanned : x.scanned = none
  /-- No acknowledgment is pending. -/
  acks : x.acks = 0
  /-- Slots and books of the segments agree. -/
  coherent : x.table.Coherent
  /-- The route is reserved for the vehicle. -/
  reserved : ∀ s ∈ r, x.table.ledger.reserved.get s = some v.id
  /-- The scheduler waits at least once. -/
  retries : 1 ≤ x.config.grantRetries

/-- The fault of a grant that nobody has acknowledged. -/
def failure (v : Vehicle) : Fault := .protocolViolation (.unacknowledgedGrant v.id)

/-- What a grant leaves behind that nobody has acknowledged. -/
structure Abandons (x : Site) (v : Vehicle) (r : Route) (pass : Nat) (x' : Site) : Prop where
  /-- One grant was logged, and nothing else. -/
  events : x'.events = x.events ++ [⟨x.events.length, v.id, .grant r pass⟩]
  /-- After the echo of the grant there is one warning for each wait, and one about the abort. -/
  console : x'.console =
    (warned (x.record v.id (.grant r pass)).console ⟨v.id, r⟩ x.config.grantRetries
      x.config.grantRetries).warn
        s!"Intersection: aborting: {(failure v).message}."
  /-- The vehicle was woken once, and so was everybody who was in the queue. -/
  wakes : ∀ channel, x'.wakes.get channel =
    x.wakes.get channel + Vehicle.countOn channel (v :: x.queue.lines)
  /-- The run is aborted. -/
  aborted : x'.aborted = true
  /-- The fault of the run is that of the scheduler. -/
  fault : x'.fault = some (failure v)
  /-- Zones and levels are empty. -/
  queue : x'.queue = {}
  /-- A segment of the ticket is reserved only if the vehicle has taken it. -/
  dropped : ∀ s ∈ r, x'.table.ledger.reserved.get s = none ∨
    x'.table.ledger.reserved.get s = some v.id ∧ x'.table.ledger.held.get s = some v.id
  /-- The reservations of the segments that the vehicle has taken or that are not of the ticket stay
  as they were. -/
  kept : ∀ s, s ∉ r ∨ x.table.ledger.held.get s ≠ none →
    x'.table.ledger.reserved.get s = x.table.ledger.reserved.get s
  /-- Nothing else has changed: nobody has taken or given back a segment, no counter has moved but
  the epoch, and the one acknowledgment is that of the abort. -/
  frame : x' = { x with
    table := { x.table with
      ledger := { x.table.ledger with reserved := x'.table.ledger.reserved } }
    queue := {}
    epoch := x.epoch + 1
    acks := 1
    wakes := x'.wakes
    events := x'.events
    fault := x'.fault
    aborted := true
    console := x'.console }

/-- The site after a grant of which all waits were in vain. -/
def afterWaits (x : Site) (v : Vehicle) (r : Route) (pass : Nat) : Site :=
  let x := (x.record v.id (.grant r pass)).wake v.channel
  { x with console := warned x.console ⟨v.id, r⟩ x.config.grantRetries x.config.grantRetries }

/-- The site after a grant in vain, the abort and the cancellation of the ticket. -/
def afterGrant (x : Site) (v : Vehicle) (r : Route) (pass : Nat) : Site :=
  let x := (afterWaits x v r pass).afterAbort (failure v)
  x.withTable (x.table.cancel ⟨v.id, r⟩)

variable {r : Route}

/-- The scheduler goes on to the end of the grant. -/
theorem goesOn_grant (h : Unanswered x v r) :
    GoesOn supervised x.config.grantRetries (x, ⟨.granting, pass, .announce v ⟨v.id, r⟩⟩)
      (afterGrant x v r pass,
        ⟨.granting, pass, failed supervised (.unacknowledgedGrant v.id)⟩) := by
  have hwaits : GoesOn supervised x.config.grantRetries
      ((x.record v.id (.grant r pass)).wake v.channel, ⟨.granting, pass, .await v ⟨v.id, r⟩ 0⟩)
      (afterWaits x v r pass, ⟨.granting, pass, .giveUp v ⟨v.id, r⟩ (.raise (failure v))⟩) :=
    goesOn_giveUp (x := (x.record v.id (.grant r pass)).wake v.channel) h.acks h.retries
  have habort : GoesOn supervised 0
      (afterWaits x v r pass, ⟨.granting, pass, .giveUp v ⟨v.id, r⟩ (.raise (failure v))⟩)
      ((afterWaits x v r pass).afterAbort (failure v), ⟨.granting, pass, .withdraw v ⟨v.id, r⟩⟩) :=
    goesOn_abort (x := afterWaits x v r pass) h.fault h.unlocked h.scanned (failure v)
  have hwithdraw : GoesOn supervised 0
      ((afterWaits x v r pass).afterAbort (failure v), ⟨.granting, pass, .withdraw v ⟨v.id, r⟩⟩)
      (afterGrant x v r pass,
        ⟨.granting, pass, failed supervised (.unacknowledgedGrant v.id)⟩) :=
    .step rfl (.refl _)
  exact .step rfl (.step rfl (hwaits.trans (habort.trans hwithdraw)))

/-- The cancellation drops the reservations of the vehicle where nobody holds the segment. -/
theorem get_reserved_afterGrant (s : Segment) :
    (afterGrant x v r pass).table.ledger.reserved.get s =
      if s ∈ r ∧ x.table.ledger.reserved.get s = some v.id ∧ x.table.ledger.held.get s = none then
        none
      else x.table.ledger.reserved.get s := by
  have htable : ((afterWaits x v r pass).afterAbort (failure v)).table = x.table :=
    Site.table_afterAbort ..
  simp only [afterGrant, Site.withTable, SegmentTable.cancel, htable]
  exact Ledger.get_reserved_unreserve ..

/-- What a grant in vain changes, and nothing else. -/
theorem afterGrant_eq (x : Site) (v : Vehicle) (r : Route) (pass : Nat) :
    afterGrant x v r pass = { x with
      table := x.table.cancel ⟨v.id, r⟩
      queue := {}
      epoch := x.epoch + 1
      acks := x.acks + 1
      wakes := (afterGrant x v r pass).wakes
      events := x.events ++ [⟨x.events.length, v.id, .grant r pass⟩]
      faultLocked := false
      fault := some (failure v)
      aborted := true
      console := (warned (x.record v.id (.grant r pass)).console ⟨v.id, r⟩ x.config.grantRetries
        x.config.grantRetries).warn s!"Intersection: aborting: {(failure v).message}." } := by
  unfold afterGrant Site.afterAbort
  rw [Site.wakeEach_eq]
  rfl

/-- The vehicle is woken with its grant, and those in the queue by the abort. -/
theorem get_wakes_afterGrant (channel : Nat) :
    (afterGrant x v r pass).wakes.get channel =
      x.wakes.get channel + Vehicle.countOn channel (v :: x.queue.lines) := by
  have hgrant : (afterWaits x v r pass).wakes.get channel =
      x.wakes.get channel + if v.channel = channel then 1 else 0 :=
    Site.get_wakes_wake channel (x.record v.id (.grant r pass)) v.channel
  have habort : (afterGrant x v r pass).wakes.get channel =
      (afterWaits x v r pass).wakes.get channel + Vehicle.countOn channel x.queue.lines :=
    Site.get_wakes_afterAbort ..
  rw [habort, hgrant, Vehicle.countOn_cons]
  omega

theorem abandons_afterGrant (h : Unanswered x v r) :
    Abandons x v r pass (afterGrant x v r pass) := by
  have heq := afterGrant_eq x v r pass
  have hheld : (afterGrant x v r pass).table.ledger.held = x.table.ledger.held := by
    rw [heq]
    exact Ledger.held_unreserve ..
  refine ⟨?_, ?_, get_wakes_afterGrant, ?_, ?_, ?_, fun s hs => ?_, fun s hs => ?_, ?_⟩
  · rw [heq]
  · rw [heq]
  · rw [heq]
  · rw [heq]
  · rw [heq]
  · rw [get_reserved_afterGrant, hheld]
    cases hholder : x.table.ledger.held.get s with
    | none => exact .inl (if_pos ⟨hs, h.reserved s hs, rfl⟩)
    | some w =>
      -- Whoever holds a segment has its reservation, so it is the vehicle.
      have hw := (h.coherent.reserved_of_held s w hholder).symm.trans (h.reserved s hs)
      rw [if_neg (by simp), h.reserved s hs, hw]
      exact .inr ⟨rfl, rfl⟩
  · rw [get_reserved_afterGrant]
    refine if_neg fun ⟨hmem, _, hfree⟩ => ?_
    rcases hs with hout | htaken
    · exact hout hmem
    · exact htaken hfree
  -- Both sides speak of the new wakes, which must not be rewritten into themselves.
  · generalize (afterGrant x v r pass).wakes = wakes at heq
    rw [heq, h.acks]
    simp only [h.unlocked, ← SegmentTable.cancel_eq]

/-- When no acknowledgment of a grant comes, and nothing else happens meanwhile, the scheduler waits
as often as the configuration says, aborts the run and cancels the ticket, and returns with an error
about the vehicle; whatever it does is on the way to this end or comes after it. -/
theorem abandons_of_unanswered (supervised : Bool) (pass : Nat) (h : Unanswered x v r) :
    ∃ x', Abandons x v r pass x' ∧
      GoesOn supervised x.config.grantRetries (x, ⟨.granting, pass, .announce v ⟨v.id, r⟩⟩)
        (x', ⟨.granting, pass, failed supervised (.unacknowledgedGrant v.id)⟩) ∧
      ∀ n p, GoesOn supervised n (x, ⟨.granting, pass, .announce v ⟨v.id, r⟩⟩) p →
        (∃ k, n + k = x.config.grantRetries ∧ GoesOn supervised k p
          (x', ⟨.granting, pass, failed supervised (.unacknowledgedGrant v.id)⟩)) ∨
        ∃ k, x.config.grantRetries + k = n ∧ GoesOn supervised k
          (x', ⟨.granting, pass, failed supervised (.unacknowledgedGrant v.id)⟩) p :=
  ⟨afterGrant x v r pass, abandons_afterGrant h, goesOn_grant h,
    fun _ _ hgoes => hgoes.compare (goesOn_grant h)⟩

/-- A car that turns left from the first approach, over two segments. -/
def leftTurner : Vehicle := ⟨1, .car, .a, .left, 1⟩

/-- The car has taken the first segment of its route without waiting for its wake, somebody else
crosses the third one, and an ambulance and a truck wait. -/
def halfTaken : Site where
  config := { grantRetries := 2 }
  total := 4
  table :=
    let crossed := ((({} : SegmentTable).reserve 0 (.single .ca)).1.take .ca 0).1
    ((crossed.reserve 1 leftTurner.route).1.take .ab 1).1
  queue := (({} : WaitingQueue).enqueue ⟨2, .truck, .b, .right, 2⟩).consume.1.enqueue
    ⟨3, .ambulance, .c, .right, 3⟩

/-- The car keeps the segment that it has taken, and loses the other one. -/
theorem abandons_halfTaken :
    Unanswered halfTaken leftTurner leftTurner.route ∧
      ∃ x', Abandons halfTaken leftTurner leftTurner.route 5 x' ∧
        GoesOn true 2
          (halfTaken, ⟨.granting, 5, .announce leftTurner ⟨1, leftTurner.route⟩⟩)
          (x', ⟨.granting, 5, failed true (.unacknowledgedGrant 1)⟩) ∧
        x'.table.ledger.reserved.get .ab = some 1 ∧ x'.table.ledger.reserved.get .bc = none := by
  have hcoherent : halfTaken.table.Coherent :=
    (((SegmentTable.coherent_empty.reserve 0 _).take .ca 0).reserve 1 _).take .ab 1
  have hreserved : ∀ s ∈ leftTurner.route,
      halfTaken.table.ledger.reserved.get s = some leftTurner.id := by
    intro s hs
    cases s with
    | ab | bc => rfl
    | ca => exact absurd hs (by decide)
  have hunanswered : Unanswered halfTaken leftTurner leftTurner.route :=
    ⟨rfl, rfl, rfl, rfl, hcoherent, hreserved, by decide⟩
  obtain ⟨x', habandons, hgoes, -⟩ := abandons_of_unanswered true 5 hunanswered
  have hheld : x'.table.ledger.held = halfTaken.table.ledger.held :=
    congrArg (·.table.ledger.held) habandons.frame
  refine ⟨hunanswered, x', habandons, hgoes, ?_, ?_⟩
  · exact (habandons.kept .ab (.inr (by decide))).trans rfl
  · rcases habandons.dropped .bc (by decide) with hdropped | ⟨-, htaken⟩
    · exact hdropped
    · rw [hheld] at htaken
      exact absurd htaken (by decide)

end Scheduler

end Junction
