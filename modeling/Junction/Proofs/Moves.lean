import Junction.Scene
import Junction.Proofs.Coherence

/-!
# What one step can do

The step functions of a supervised scene, read as relations with one rule for each way in which a
step can go. A rule names the point before and after the step, the site after it, and what the step
has found on the site before it. Everything that is proved about the steps of a run is proved by
cases on these rules; the console and the number of passes, which no rule looks at, are left open.

## Main definitions

* `Abort.Move`, `Life.Move`, `Scheduler.Move` — the rules of an abort, a life and the scheduler
* `Scene.Move` — a step of one member of a scene
* `Scene.IsRun` — a supervised scene whose tasks are lives and aborts

## Main results

* `Scene.move_of_step` — every step of such a scene follows one of the rules
-/

namespace Junction

theorem Ledger.inconsistent_of_check {l : Ledger} {violation : Violation}
    (h : l.check = .error violation) : ¬ l.Consistent := by
  intro hconsistent
  rw [Ledger.check_eq_ok_iff.2 hconsistent] at h
  cases h

theorem SegmentTable.enter_eq_ok {t t' : SegmentTable} {v : VehicleId} {r : Route}
    (h : t.enter v r = (t', .ok ())) :
    (∀ s ∈ r, t.ledger.held.get s = some v) ∧ t' = { t with ledger := t.ledger.enter v r } := by
  unfold SegmentTable.enter at h
  split at h
  · next hall =>
    refine ⟨?_, (congrArg Prod.fst h).symm⟩
    intro s hs
    simpa using List.all_eq_true.1 hall s (Route.mem_segments.2 hs)
  · cases h

theorem SegmentTable.enter_fst (t : SegmentTable) (v : VehicleId) (r : Route) :
    (t.enter v r).1 = t ∨ (t.enter v r).1 = { t with ledger := t.ledger.enter v r } := by
  unfold SegmentTable.enter
  split
  · exact .inr rfl
  · exact .inl rfl

/-- The queue without the vehicle at a place of a level. -/
def WaitingQueue.without (q : WaitingQueue) (c : VehicleClass) (place : Nat) : WaitingQueue :=
  { q with levels := q.levels.set c ((q.levels.get c).eraseIdx place) }

/-! ### Aborts -/

namespace Abort

/-- The vehicles that an abort has taken out of the queue and not woken yet. -/
def drained : Abort → List Vehicle
  | drain _ vehicles | unlock vehicles | notify vehicles | acknowledge vehicles | wake vehicles =>
    vehicles
  | _ => []

/-- Whether an abort has still to keep its fault. -/
def isRaising : Abort → Bool
  | raise _ => true
  | _ => false

/-- Whether an abort has set the flag of the run. -/
def hasFlagged : Abort → Bool
  | raise _ | flag => false
  | _ => true

/-- Where an abort goes on after the waiting zone of a class. -/
def afterGather (c : VehicleClass) : Abort :=
  match c.next? with
  | some c => gather c
  | none => drain .ambulance []

/-- Where an abort goes on after the level of a class. -/
def afterDrain (c : VehicleClass) (vehicles : List Vehicle) : Abort :=
  match c.next? with
  | some c => drain c vehicles
  | none => unlock vehicles

@[simp] theorem drained_afterGather (c : VehicleClass) : (afterGather c).drained = [] := by
  cases c <;> rfl

@[simp] theorem isRaising_afterGather (c : VehicleClass) : (afterGather c).isRaising = false := by
  cases c <;> rfl

@[simp] theorem drained_afterDrain (c : VehicleClass) (vehicles : List Vehicle) :
    (afterDrain c vehicles).drained = vehicles := by
  cases c <;> rfl

@[simp] theorem isRaising_afterDrain (c : VehicleClass) (vehicles : List Vehicle) :
    (afterDrain c vehicles).isRaising = false := by
  cases c <;> rfl

/-- The rules of an abort; it has ended where no point follows. -/
inductive Move (x : Site) : Abort → Site → Option Abort → Prop
  -- Under the lock of the fault.
  | raise (f : Fault) (unlocked : x.faultLocked = false) :
      Move x (.raise f) (x.raise f) (some .flag)
  | flag : Move x .flag { x with aborted := true } (some (.gather .ambulance))
  | skip (c : VehicleClass) (empty : x.queue.zone.get c = []) :
      Move x (.gather c) x (some (afterGather c))
  | gather (c : VehicleClass) (unscanned : x.scanned ≠ some c) :
      Move x (.gather c) (x.withQueue (x.queue.gather c)) (some (afterGather c))
  | drain (c : VehicleClass) (vehicles : List Vehicle) (unscanned : x.scanned ≠ some c) :
      Move x (.drain c vehicles) (x.withQueue (x.queue.drainLevel c).1)
        (some (afterDrain c (vehicles ++ x.queue.levels.get c)))
  | unlock (vehicles : List Vehicle) :
      Move x (.unlock vehicles) { x with faultLocked := false } (some (.notify vehicles))
  -- Without the lock.
  | notify (vehicles : List Vehicle) :
      Move x (.notify vehicles) x.notify (some (.acknowledge vehicles))
  | acknowledge (vehicles : List Vehicle) :
      Move x (.acknowledge vehicles) x.acknowledge (some (.wake vehicles))
  | wake (v : Vehicle) (rest : List Vehicle) :
      Move x (.wake (v :: rest)) (x.wake v.channel) (some (.wake rest))
  | finish : Move x (.wake []) x none

theorem move_of_next {x x' : Site} {a a' : Abort} (h : a.step x = .next x' a') :
    Move x a x' (some a') := by
  cases a with
  | raise f =>
    simp only [step] at h
    split at h
    · cases h
    · next hunlocked =>
      cases h
      exact .raise f (by simpa using hunlocked)
  | flag =>
    cases h
    exact .flag
  | gather c =>
    simp only [step] at h
    split at h
    · next hempty =>
      cases h
      exact .skip c (by simpa using hempty)
    · split at h
      · cases h
      · next hunscanned =>
        cases h
        exact .gather c hunscanned
  | drain c vehicles =>
    simp only [step] at h
    split at h
    · cases h
    · next hunscanned =>
      cases h
      exact .drain c vehicles hunscanned
  | unlock vehicles =>
    cases h
    exact .unlock vehicles
  | notify vehicles =>
    cases h
    exact .notify vehicles
  | acknowledge vehicles =>
    cases h
    exact .acknowledge vehicles
  | wake vehicles =>
    cases vehicles with
    | nil => cases h
    | cons v rest =>
      cases h
      exact .wake v rest

theorem move_of_done {x x' : Site} {a : Abort} (h : a.step x = .done x' ()) :
    Move x a x' none := by
  cases a with
  | raise f =>
    simp only [step] at h
    split at h <;> cases h
  | gather c =>
    simp only [step] at h
    split at h
    · cases h
    · split at h <;> cases h
  | drain c vehicles =>
    simp only [step] at h
    split at h <;> cases h
  | wake vehicles =>
    cases vehicles with
    | nil =>
      cases h
      exact .finish
    | cons v rest => cases h
  | flag | unlock _ | notify _ | acknowledge _ => cases h

end Abort

/-! ### Lives -/

namespace Life

/-- Where a vehicle stands that aborts the run over a violation. -/
def abortingOver (violation : Violation) : Life :=
  aborting (.protocolViolation violation) (.raise (.protocolViolation violation))

/-- The rules of a life. -/
inductive Move (x : Site) : Life → Site → Life → Prop
  -- Arrival and rejection.
  | recognize {spec : VehicleSpec} {channel : Nat} {v : Vehicle}
      (known : Vehicle.ofSpec? spec channel = some v) :
      Move x (.start spec channel) x (.arriving v .lock)
  | refuse {spec : VehicleSpec} {channel : Nat} (console : Console)
      (unknown : Vehicle.ofSpec? spec channel = none) :
      Move x (.start spec channel) { x with console } (.rejecting spec .log)
  -- The vehicle is rejected.
  | logRejection (spec : VehicleSpec) :
      Move x (.rejecting spec .log)
        (x.record spec.id (.reject spec.vclass spec.approach spec.turn)) (.rejecting spec .count)
  | countRejection (spec : VehicleSpec) :
      Move x (.rejecting spec .count) x.countRejection (.rejecting spec .countArrival)
  | countRejected (spec : VehicleSpec) :
      Move x (.rejecting spec .countArrival) x.countArrival (.rejecting spec .notify)
  | notifyRejection (spec : VehicleSpec) :
      Move x (.rejecting spec .notify) x.notify (.ended (some .invalidArgument))
  -- It joins the queue under the lock of the fault.
  | lock (v : Vehicle) (unlocked : x.faultLocked = false) (sound : x.fault = none) :
      Move x (.arriving v .lock) { x with faultLocked := true } (.arriving v .log)
  | turnAway (v : Vehicle) (faulty : x.fault.isSome) : Move x (.arriving v .lock) x (.ended none)
  | logArrival (v : Vehicle) :
      Move x (.arriving v .log) (x.record v.id (.approach v.vclass v.approach v.turn))
        (.arriving v .enqueue)
  | enqueue (v : Vehicle) :
      Move x (.arriving v .enqueue) { x with queue := x.queue.enqueue v, faultLocked := false }
        (.arriving v .count)
  -- It tells the scheduler, and waits for its wake.
  | countArrival (v : Vehicle) :
      Move x (.arriving v .count) x.countArrival (.arriving v .notify)
  | notifyArrival (v : Vehicle) : Move x (.arriving v .notify) x.notify (.sleeping v)
  | awake (v : Vehicle) (pending : 0 < x.wakes.get v.channel) :
      Move x (.sleeping v)
        { x with wakes := x.wakes.set v.channel (x.wakes.get v.channel - 1) } (.woken v)
  | turnBack (v : Vehicle) (aborted : x.aborted = true) : Move x (.woken v) x (.ended none)
  | setOut (v : Vehicle) (unaborted : x.aborted = false) :
      Move x (.woken v) x (toClaim v v.route.segments)
  -- The way in.
  | look {v : Vehicle} {s : Segment} {rest : List Segment}
      (reserved : x.table.ledger.reserved.get s = some v.id) :
      Move x (.claiming v s rest .check) x (.claiming v s rest .attempt)
  | denied {v : Vehicle} {s : Segment} {rest : List Segment} {point : Claim}
      (unreserved : x.table.ledger.reserved.get s ≠ some v.id) :
      Move x (.claiming v s rest point) x (abortingOver (.acquireWithoutGrant s v.id))
  | queueUp {v : Vehicle} {s : Segment} {rest : List Segment} (w : VehicleId)
      (held : x.table.holders.get s = some w) :
      Move x (.claiming v s rest .attempt) x (.claiming v s rest .wait)
  | take {v : Vehicle} {s : Segment} {rest : List Segment} {point : Claim}
      (free : x.table.holders.get s = none)
      (reserved : x.table.ledger.reserved.get s = some v.id) :
      Move x (.claiming v s rest point)
        (x.withTable ⟨x.table.holders.set s (some v.id), x.table.ledger.acquire s v.id⟩)
        (.entering v s rest)
  | takeBadly {v : Vehicle} {s : Segment} {rest : List Segment} {point : Claim}
      (violation : Violation) (free : x.table.holders.get s = none)
      (reserved : x.table.ledger.reserved.get s = some v.id)
      (inconsistent : ¬ (x.table.ledger.acquire s v.id).Consistent) :
      Move x (.claiming v s rest point)
        (x.withTable ⟨x.table.holders.set s (some v.id), x.table.ledger.acquire s v.id⟩)
        (abortingOver violation)
  | logEntry (v : Vehicle) (s : Segment) (rest : List Segment) :
      Move x (.entering v s rest) (x.record v.id (.enter s)) (toClaim v rest)
  -- The whole route is taken.
  | enter {v : Vehicle} (held : ∀ s ∈ v.route, x.table.ledger.held.get s = some v.id) :
      Move x (.inside v)
        (x.withTable { x.table with ledger := x.table.ledger.enter v.id v.route })
        (.acknowledging v)
  | enterBadly {v : Vehicle} (table : SegmentTable) (violation : Violation)
      (failed : x.table.enter v.id v.route = (table, .error violation)) :
      Move x (.inside v) (x.withTable table) (abortingOver violation)
  | acknowledge (v : Vehicle) : Move x (.acknowledging v) x.acknowledge (.crossing v)
  -- The way out.
  | cross (v : Vehicle) : Move x (.crossing v) (x.record v.id .cross) (.departing v)
  | depart (v : Vehicle) :
      Move x (.departing v) (x.withTable (x.table.depart v.id)) (.vacating v v.route.segments)
  | vacate {v : Vehicle} {s : Segment} {rest : List Segment}
      (held : x.table.holders.get s = some v.id) :
      Move x (.vacating v (s :: rest))
        (x.withTable ⟨x.table.holders.set s none, x.table.ledger.free s⟩) (.exiting v s rest)
  | vacateBadly {v : Vehicle} {s : Segment} {rest : List Segment}
      (unheld : x.table.holders.get s ≠ some v.id) :
      Move x (.vacating v (s :: rest)) x (abortingOver (.releaseNotHeld s v.id))
  | logExit (v : Vehicle) (s : Segment) (rest : List Segment) :
      Move x (.exiting v s rest) (x.record v.id (.exit s)) (.vacating v rest)
  | vacated (v : Vehicle) : Move x (.vacating v []) x (.clearing v)
  -- The whole route is freed.
  | clear (v : Vehicle) :
      Move x (.clearing v)
        (x.withTable { x.table with ledger := x.table.ledger.unreserve v.id v.route })
        (.leaving v)
  | clearBadly {v : Vehicle} (violation : Violation)
      (inconsistent : ¬ (x.table.ledger.unreserve v.id v.route).Consistent) :
      Move x (.clearing v)
        (x.withTable { x.table with ledger := x.table.ledger.unreserve v.id v.route })
        (abortingOver violation)
  | logLeave (v : Vehicle) : Move x (.leaving v) (x.record v.id .leave) (.completing v .count)
  | countCompletion (v : Vehicle) :
      Move x (.completing v .count) x.countCompletion (.completing v .notify)
  | notifyCompletion (v : Vehicle) : Move x (.completing v .notify) x.notify (.ended none)
  -- The abort over a failure.
  | abort {fault : Fault} {a a' : Abort} {x' : Site} (move : a.Move x x' (some a')) :
      Move x (.aborting fault a) x' (.aborting fault a')
  | abortEnd {fault : Fault} {a : Abort} {x' : Site} (move : a.Move x x' none) :
      Move x (.aborting fault a) x' (.ended (some fault))

/-- What a vehicle does that has just taken a segment. -/
theorem move_of_take {x : Site} {v : Vehicle} {s : Segment} {rest : List Segment} {point : Claim}
    (hfree : x.table.holders.get s = none)
    (hreserved : x.table.ledger.reserved.get s = some v.id) :
    Move x (.claiming v s rest point)
      (x.withTable ⟨x.table.holders.set s (some v.id), x.table.ledger.acquire s v.id⟩)
      (match (x.table.ledger.acquire s v.id).check with
      | .ok () => entering v s rest
      | .error violation => failed true violation) := by
  split
  · exact .take hfree hreserved
  · next violation heq =>
    exact .takeBadly violation hfree hreserved (Ledger.inconsistent_of_check heq)

theorem move_of_claim {x x' : Site} {v : Vehicle} {s : Segment} {rest : List Segment}
    {point : Claim} {p' : Life} (h : (claiming v s rest point).step true x = .next x' p') :
    Move x (.claiming v s rest point) x' p' := by
  cases point with
  | check =>
    simp only [step, Claim.step] at h
    split at h
    · next hgranted =>
      cases h
      exact .look (SegmentTable.granted_iff.1 hgranted)
    · next hungranted =>
      cases h
      exact .denied fun hreserved => hungranted (SegmentTable.granted_iff.2 hreserved)
  | attempt =>
    -- A taken segment makes the vehicle queue up, and nothing else does.
    rcases x.table.take_cases s v.id with
      ⟨w, hheld, htake⟩ | ⟨-, hunreserved, htake⟩ | ⟨hfree, hreserved, htake⟩
    · simp only [step, Claim.step, htake] at h
      cases h
      exact .queueUp w hheld
    · simp only [step, Claim.step, htake] at h
      cases h
      exact .denied hunreserved
    · simp only [step, Claim.step, htake] at h
      cases h
      exact move_of_take hfree hreserved
  | wait =>
    rcases x.table.take_cases s v.id with
      ⟨w, -, htake⟩ | ⟨-, hunreserved, htake⟩ | ⟨hfree, hreserved, htake⟩
    · simp only [step, Claim.step, htake] at h
      cases h
    · simp only [step, Claim.step, htake] at h
      cases h
      exact .denied hunreserved
    · simp only [step, Claim.step, htake] at h
      cases h
      exact move_of_take hfree hreserved

theorem move_of_step {x x' : Site} {p p' : Life} (h : p.step true x = .next x' p') :
    Move x p x' p' := by
  cases p with
  | start spec channel =>
    simp only [step] at h
    split at h
    · next v hv =>
      cases h
      exact .recognize hv
    · next hv =>
      cases h
      exact .refuse _ hv
  | rejecting spec point =>
    cases point <;> cases h
    · exact .logRejection spec
    · exact .countRejection spec
    · exact .countRejected spec
    · exact .notifyRejection spec
  | arriving v point =>
    cases point with
    | lock =>
      simp only [step, Arrival.step] at h
      split at h
      · cases h
      · next hunlocked =>
        split at h
        · next hfaulty =>
          cases h
          exact .turnAway v hfaulty
        · next hsound =>
          cases h
          exact .lock v (by simpa using hunlocked) (by simpa using hsound)
    | log =>
      cases h
      exact .logArrival v
    | enqueue =>
      cases h
      exact .enqueue v
    | count =>
      cases h
      exact .countArrival v
    | notify =>
      cases h
      exact .notifyArrival v
  | sleeping v =>
    simp only [step, Site.takeWake?] at h
    by_cases hpending : 0 < x.wakes.get v.channel
    · rw [if_pos hpending] at h
      cases h
      exact .awake v hpending
    · rw [if_neg hpending] at h
      cases h
  | woken v =>
    cases h
    by_cases haborted : x.aborted = true
    · rw [if_pos haborted]
      exact .turnBack v haborted
    · rw [if_neg haborted]
      exact .setOut v (by simpa using haborted)
  | claiming v s rest point => exact move_of_claim h
  | entering v s rest =>
    cases h
    exact .logEntry v s rest
  | inside v =>
    simp only [step] at h
    split at h
    · next table heq =>
      cases h
      obtain ⟨hheld, rfl⟩ := SegmentTable.enter_eq_ok heq
      exact .enter hheld
    · next table violation heq =>
      cases h
      exact .enterBadly table violation heq
  | acknowledging v =>
    cases h
    exact .acknowledge v
  | crossing v =>
    cases h
    exact .cross v
  | departing v =>
    cases h
    exact .depart v
  | vacating v todo =>
    cases todo with
    | nil =>
      cases h
      exact .vacated v
    | cons s rest =>
      by_cases hheld : x.table.holders.get s = some v.id
      · simp only [step, SegmentTable.vacate, if_pos hheld] at h
        cases h
        exact .vacate hheld
      · simp only [step, SegmentTable.vacate, if_neg hheld] at h
        cases h
        exact .vacateBadly hheld
  | exiting v s rest =>
    cases h
    exact .logExit v s rest
  | clearing v =>
    simp only [step, SegmentTable.unreserve] at h
    split at h
    · next table heq =>
      obtain ⟨rfl, -⟩ := Prod.mk.inj heq
      cases h
      exact .clear v
    · next table violation heq =>
      obtain ⟨rfl, hcheck⟩ := Prod.mk.inj heq
      cases h
      exact .clearBadly violation (Ledger.inconsistent_of_check hcheck)
  | leaving v =>
    cases h
    exact .logLeave v
  | completing v point =>
    cases point <;> cases h
    · exact .countCompletion v
    · exact .notifyCompletion v
  | aborting fault a =>
    simp only [step] at h
    cases ha : a.step x with
    | blocked =>
      rw [ha] at h
      cases h
    | next x₁ a₁ =>
      rw [ha] at h
      cases h
      exact .abort (Abort.move_of_next ha)
    | done x₁ result =>
      rw [ha] at h
      cases h
      exact .abortEnd (Abort.move_of_done ha)
  | ended failure => cases h

/-- A life ends at a point of its own. -/
theorem step_ne_done {supervised : Bool} {x x' : Site} {p : Life} {result : Unit} :
    p.step supervised x ≠ .done x' result := by
  -- A procedure that ends within a life leads to a point of the life.
  have hwithin {π ρ : Type} (q : Progress π ρ) (inner : π → Life) (after : ρ → Life) :
      q.within inner after ≠ (.done x' result : Progress Life Unit) := by
    intro h
    cases q <;> cases h
  cases p with
  | rejecting spec point | arriving v point | claiming v s rest point | completing v point
  | aborting fault point => exact hwithin _ _ _
  | start spec channel | sleeping v | inside v | clearing v =>
    simp only [step]
    split <;> intro h <;> cases h
  | vacating v todo =>
    cases todo with
    | nil =>
      intro h
      cases h
    | cons s rest =>
      simp only [step]
      split <;> intro h <;> cases h
  | _ =>
    intro h
    cases h

end Life

/-! ### The scheduler -/

namespace Scheduler

/-- Where the scheduler goes on after the waiting zone of a class. -/
def afterGather (seen : Nat) (c : VehicleClass) : Point :=
  match c.next? with
  | some c => .gather seen c
  | none => .lock seen .ambulance none

/-- Where the scheduler stands that aborts the run over a violation. -/
def abortingOver (violation : Violation) : Point :=
  .aborting violation (.raise (.protocolViolation violation))

/-- The rules of the scheduler, its waits in vain included. -/
inductive Move (x : Site) : Point → Site → Point → Prop
  -- Before the first scan.
  | hold : Move x .hold x (.holdTest x.epoch)
  | arrived (seen : Nat) (all : x.total ≤ x.arrivals ∨ x.aborted = true) :
      Move x (.holdTest seen) x .test
  | missing (seen : Nat) (some : x.arrivals < x.total) (unaborted : x.aborted = false) :
      Move x (.holdTest seen) x (.holdSleep seen)
  | holdWake (seen : Nat) (changed : x.epoch ≠ seen) : Move x (.holdSleep seen) x .hold
  -- A scan.
  | finish (console : Console) (finished : x.isDone = true ∨ x.aborted = true) :
      Move x .test { x with console } (.ended none)
  | goOn (undone : x.isDone = false) (unaborted : x.aborted = false) : Move x .test x .look
  | look (console : Console) : Move x .look { x with console } (.gather x.epoch .ambulance)
  | gather (seen : Nat) (c : VehicleClass) :
      Move x (.gather seen c) (x.withQueue (x.queue.gather c)) (afterGather seen c)
  -- The levels, one after the other. An error counts when the scan is over.
  | lock (seen : Nat) (c : VehicleClass) (fault : Option Violation) :
      Move x (.lock seen c fault) { x with scanned := some c } (.scan seen c 0 fault)
  | refuse {seen : Nat} {c : VehicleClass} {place : Nat} {fault : Option Violation} {v : Vehicle}
      (asked : (x.queue.levels.get c)[place]? = some v)
      (reserved : x.table.ledger.unreserved v.route = false) :
      Move x (.scan seen c place fault) x (.scan seen c (place + 1) fault)
  | refuseBadly {seen : Nat} {c : VehicleClass} {place : Nat} {fault : Option Violation}
      {v : Vehicle} (violation : Violation)
      (asked : (x.queue.levels.get c)[place]? = some v)
      (unreserved : x.table.ledger.unreserved v.route = true)
      (inconsistent : ¬ (x.table.ledger.reserve v.id v.route).Consistent) :
      Move x (.scan seen c place fault)
        (x.withTable { x.table with ledger := x.table.ledger.reserve v.id v.route })
        (.scan seen c (place + 1) (fault.or (some violation)))
  | letIn {seen : Nat} {c : VehicleClass} {place : Nat} {v : Vehicle} (console : Console)
      (asked : (x.queue.levels.get c)[place]? = some v)
      (unreserved : x.table.ledger.unreserved v.route = true) :
      Move x (.scan seen c place none)
        { x with
          table := { x.table with ledger := x.table.ledger.reserve v.id v.route }
          queue := x.queue.without c place
          scanned := none
          console }
        (.announce v ⟨v.id, v.route⟩)
  | letInBadly {seen : Nat} {c : VehicleClass} {place : Nat} {v : Vehicle} (violation : Violation)
      (asked : (x.queue.levels.get c)[place]? = some v)
      (unreserved : x.table.ledger.unreserved v.route = true) :
      Move x (.scan seen c place (some violation))
        { x with
          table := { x.table with ledger := x.table.ledger.reserve v.id v.route }
          queue := x.queue.without c place
          scanned := none }
        (abortingOver violation)
  -- The end of a level.
  | nextLevel {seen : Nat} {c c' : VehicleClass} {place : Nat} {fault : Option Violation}
      (next : c.next? = some c') (all : (x.queue.levels.get c).length ≤ place) :
      Move x (.scan seen c place fault) { x with scanned := none } (.lock seen c' fault)
  | nobody {seen : Nat} {c : VehicleClass} {place : Nat} (console : Console)
      (last : c.next? = none) (all : (x.queue.levels.get c).length ≤ place) :
      Move x (.scan seen c place none) { x with scanned := none, console } (.rest seen)
  | nobodyBadly {seen : Nat} {c : VehicleClass} {place : Nat} (violation : Violation)
      (last : c.next? = none) (all : (x.queue.levels.get c).length ≤ place) :
      Move x (.scan seen c place (some violation)) { x with scanned := none }
        (abortingOver violation)
  | rest (seen passes : Nat) : Move x (.rest seen) { x with passes } (.sleep seen)
  | awake (seen : Nat) (changed : x.epoch ≠ seen) : Move x (.sleep seen) x .test
  -- A grant.
  | announce (v : Vehicle) (ticket : Ticket) (pass : Nat) :
      Move x (.announce v ticket) (x.record ticket.vehicle (.grant ticket.route pass))
        (.rouse v ticket)
  | rouse (v : Vehicle) (ticket : Ticket) :
      Move x (.rouse v ticket) (x.wake v.channel) (.await v ticket 0)
  -- The wait for the acknowledgment.
  | takeAck {v : Vehicle} {ticket : Ticket} {retries : Nat} (pending : 0 < x.acks) :
      Move x (.await v ticket retries) { x with acks := x.acks - 1 } (.acknowledged v ticket)
  | retry {v : Vehicle} {ticket : Ticket} {retries : Nat} (console : Console)
      (none : x.acks = 0) (patient : retries + 1 < x.config.grantRetries) :
      Move x (.await v ticket retries) { x with console } (.await v ticket (retries + 1))
  | losePatience {v : Vehicle} {ticket : Ticket} {retries : Nat} (console : Console)
      (none : x.acks = 0) (impatient : x.config.grantRetries ≤ retries + 1) :
      Move x (.await v ticket retries) { x with console }
        (.giveUp v ticket (.raise (.protocolViolation (.unacknowledgedGrant ticket.vehicle))))
  -- The run is aborted first, and the ticket is cancelled after that.
  | giveUp {v : Vehicle} {ticket : Ticket} {a a' : Abort} {x' : Site}
      (move : a.Move x x' (some a')) : Move x (.giveUp v ticket a) x' (.giveUp v ticket a')
  | givenUp {v : Vehicle} {ticket : Ticket} {a : Abort} {x' : Site} (move : a.Move x x' none) :
      Move x (.giveUp v ticket a) x' (.withdraw v ticket)
  | withdraw (v : Vehicle) (ticket : Ticket) :
      Move x (.withdraw v ticket) (x.withTable (x.table.cancel ticket))
        (abortingOver (.unacknowledgedGrant ticket.vehicle))
  -- An acknowledgment was taken, which may be that of an abort.
  | turnBack (v : Vehicle) (ticket : Ticket) (aborted : x.aborted = true) :
      Move x (.acknowledged v ticket) x .test
  | confirm (v : Vehicle) (ticket : Ticket) (unaborted : x.aborted = false) :
      Move x (.acknowledged v ticket) x (.verify v ticket)
  | verified (v : Vehicle) (ticket : Ticket)
      (entered : x.table.hasEntered ticket.vehicle = true) : Move x (.verify v ticket) x .test
  | unverified (v : Vehicle) (ticket : Ticket)
      (absent : x.table.hasEntered ticket.vehicle = false) :
      Move x (.verify v ticket) x (abortingOver (.incompleteEntry ticket.vehicle))
  -- The abort over a failure.
  | abort {violation : Violation} {a a' : Abort} {x' : Site} (move : a.Move x x' (some a')) :
      Move x (.aborting violation a) x' (.aborting violation a')
  | abortEnd {violation : Violation} {a : Abort} {x' : Site} (move : a.Move x x' none) :
      Move x (.aborting violation a) x' (.ended (some violation))

/-- A change of state shows on the console at most. -/
theorem transition_fst (x : Site) (c : Scheduler) (state : State) :
    ∃ console, c.transition x state = ({ x with console }, { c with state }) := by
  unfold transition
  dsimp only
  split
  · exact ⟨_, rfl⟩
  · exact ⟨x.console, rfl⟩

theorem endScan_none (x : Site) (c : Scheduler) (level : VehicleClass) (place : Nat) (v : Vehicle)
    (ticket : Ticket) :
    ∃ console, c.endScan true x level place v ticket none =
      ({ x with queue := x.queue.without level place, scanned := none, console },
        { c with state := .granting, point := .announce v ticket }) := by
  obtain ⟨console, htransition⟩ := transition_fst
    { x with queue := x.queue.without level place, scanned := none } c .granting
  refine ⟨console, ?_⟩
  simp only [WaitingQueue.without] at htransition
  simp only [endScan, htransition, WaitingQueue.without]

theorem move_of_scan {x x' : Site} {c c' : Scheduler} {seen place : Nat} {level : VehicleClass}
    {fault : Option Violation} (hpoint : c.point = .scan seen level place fault)
    (h : c.step? true x = some (x', c')) : Move x (.scan seen level place fault) x' c'.point := by
  simp only [step?, hpoint] at h
  split at h
  · next hplace =>
    have hall := List.getElem?_eq_none_iff.1 hplace
    simp only [endLevel, Option.some.injEq] at h
    split at h
    · next hnext =>
      cases h
      exact .nextLevel hnext hall
    · next violation hlast =>
      cases h
      exact .nobodyBadly violation hlast hall
    · next hlast =>
      obtain ⟨console, htransition⟩ := transition_fst { x with scanned := none } c .idle
      rw [htransition] at h
      cases h
      exact .nobody console hlast hall
  · next v hasked =>
    simp only [SegmentTable.reserve] at h
    -- The route is reserved before the check, and stays reserved if the check fails.
    by_cases hfree : x.table.ledger.unreserved v.route = true
    · rw [if_pos hfree] at h
      cases hcheck : (x.table.ledger.reserve v.id v.route).check with
      | error violation =>
        rw [hcheck] at h
        cases h
        exact .refuseBadly violation hasked hfree (Ledger.inconsistent_of_check hcheck)
      | ok result =>
        rw [hcheck] at h
        cases fault with
        | some violation =>
          cases h
          exact .letInBadly violation hasked hfree
        | none =>
          obtain ⟨console, hend⟩ := endScan_none
            (x.withTable { x.table with ledger := x.table.ledger.reserve v.id v.route }) c level
            place v ⟨v.id, v.route⟩
          cases hend.symm.trans (Option.some.inj h)
          exact .letIn console hasked hfree
    · rw [if_neg hfree] at h
      cases h
      exact .refuse hasked (by simpa using hfree)

/-- Every step of the scheduler under supervision follows one of the rules. -/
theorem move_of_step {x x' : Site} {c c' : Scheduler} (h : c.step? true x = some (x', c')) :
    Move x c.point x' c'.point := by
  cases hpoint : c.point with
  | hold =>
    simp only [step?, hpoint] at h
    cases h
    exact .hold
  | holdTest seen =>
    simp only [step?, hpoint] at h
    cases h
    by_cases hall : x.total ≤ x.arrivals ∨ x.aborted = true
    · rw [if_pos hall]
      exact .arrived seen hall
    · rw [if_neg hall]
      rw [not_or, Nat.not_le, Bool.not_eq_true] at hall
      exact .missing seen hall.1 hall.2
  | holdSleep seen =>
    simp only [step?, hpoint] at h
    split at h
    · cases h
    · next hchanged =>
      cases h
      exact .holdWake seen hchanged
  | test =>
    simp only [step?, hpoint] at h
    split at h
    · next hover =>
      obtain ⟨console, htransition⟩ := transition_fst x c .done
      rw [htransition] at h
      cases h
      exact .finish console hover
    · next hover =>
      cases h
      rw [not_or, Bool.not_eq_true, Bool.not_eq_true] at hover
      exact .goOn hover.1 hover.2
  | look =>
    simp only [step?, hpoint] at h
    obtain ⟨console, htransition⟩ := transition_fst x c .scanning
    rw [htransition] at h
    cases h
    exact .look console
  | gather seen level =>
    simp only [step?, hpoint] at h
    cases h
    exact .gather seen level
  | lock seen level fault =>
    simp only [step?, hpoint] at h
    cases h
    exact .lock seen level fault
  | scan seen level place fault => exact move_of_scan hpoint h
  | rest seen =>
    simp only [step?, hpoint] at h
    cases h
    exact .rest seen c.pass
  | sleep seen =>
    simp only [step?, hpoint] at h
    split at h
    · cases h
    · next hchanged =>
      cases h
      exact .awake seen hchanged
  | announce v ticket =>
    simp only [step?, hpoint] at h
    cases h
    exact .announce v ticket c.pass
  | rouse v ticket =>
    simp only [step?, hpoint] at h
    cases h
    exact .rouse v ticket
  | await v ticket retries =>
    simp only [step?, hpoint, Site.takeAck?] at h
    split at h
    · next hpending =>
      cases h
      exact .takeAck hpending
    · cases h
  | giveUp v ticket a =>
    simp only [step?, hpoint] at h
    split at h
    · cases h
    · next x₁ a₁ ha =>
      cases h
      exact .giveUp (Abort.move_of_next ha)
    · next x₁ ha =>
      cases h
      exact .givenUp (Abort.move_of_done ha)
  | withdraw v ticket =>
    simp only [step?, hpoint] at h
    cases h
    exact .withdraw v ticket
  | acknowledged v ticket =>
    simp only [step?, hpoint] at h
    cases h
    by_cases haborted : x.aborted = true
    · rw [if_pos haborted]
      exact .turnBack v ticket haborted
    · rw [if_neg haborted]
      exact .confirm v ticket (by simpa using haborted)
  | verify v ticket =>
    simp only [step?, hpoint] at h
    cases h
    by_cases hentered : x.table.hasEntered ticket.vehicle = true
    · rw [if_pos hentered]
      exact .verified v ticket hentered
    · rw [if_neg hentered]
      exact .unverified v ticket (by simpa using hentered)
  | aborting violation a =>
    simp only [step?, hpoint] at h
    split at h
    · cases h
    · next x₁ a₁ ha =>
      cases h
      exact .abort (Abort.move_of_next ha)
    · next x₁ ha =>
      cases h
      exact .abortEnd (Abort.move_of_done ha)
  | ended failure =>
    simp only [step?, hpoint] at h
    cases h

theorem move_of_timeout {x x' : Site} {c c' : Scheduler} (h : c.timeout? x = some (x', c')) :
    Move x c.point x' c'.point := by
  unfold timeout? at h
  split at h
  · next v ticket retries hpoint =>
    rw [hpoint]
    split at h
    · next hnone =>
      cases h
      dsimp only
      -- The scheduler loses patience with the last wait in vain.
      split
      · next himpatient => exact .losePatience _ hnone himpatient
      · next hpatient => exact .retry _ hnone (Nat.not_le.1 hpatient)
    · cases h
  · cases h

end Scheduler

/-! ### Scenes -/

namespace Task

/-- The task of an abort that stands at a point or has ended. -/
def ofAbort : Option Abort → Task
  | some a => abort a
  | none => ended true

/-- The tasks of a run: lives and aborts. -/
def IsOfRun : Task → Prop
  | life _ | abort _ | ended _ => True
  | _ => False

end Task

namespace Scene

/-- Where the scheduler stands; one that was never started counts as ended. -/
def point (e : Scene) : Scheduler.Point :=
  match e.scheduler with
  | some c => c.point
  | none => .ended none

/-- A step of one member of a scene. -/
inductive Move (e e' : Scene) : Prop
  | scheduler (tasks : e'.tasks = e.tasks)
      (move : Scheduler.Move e.site e.point e'.site e'.point)
  | life (i : Nat) {p p' : Life} (before : e.tasks.get i = .life p)
      (tasks : e'.tasks = e.tasks.set i (.life p')) (point : e'.point = e.point)
      (move : p.Move e.site e'.site p')
  | abort (i : Nat) {a : Abort} {a' : Option Abort} (before : e.tasks.get i = .abort a)
      (tasks : e'.tasks = e.tasks.set i (.ofAbort a')) (point : e'.point = e.point)
      (move : a.Move e.site e'.site a')

/-- A supervised scene whose tasks are lives and aborts. -/
structure IsRun (e : Scene) : Prop where
  /-- A failure aborts the run. -/
  supervised : e.supervised = true
  /-- The tasks are those of a run. -/
  tasks : ∀ i, (e.tasks.get i).IsOfRun

theorem IsRun.set {e e' : Scene} (h : e.IsRun) (hsupervised : e'.supervised = e.supervised)
    {i : Nat} {task : Task} (htasks : e'.tasks = e.tasks.set i task) (htask : task.IsOfRun) :
    e'.IsRun := by
  refine ⟨hsupervised.trans h.supervised, ?_⟩
  intro j
  rw [htasks, Table.get_set]
  split
  · exact htask
  · exact h.tasks j

/-- Every step of a run follows one of the rules. -/
theorem move_of_step {e e' : Scene} (h : e.IsRun) (hstep : e.Step e') : e.Move e' ∧ e'.IsRun := by
  obtain ⟨actor, hactor⟩ := hstep
  cases actor with
  | scheduler =>
    obtain ⟨c, hc, hmap⟩ := Option.bind_eq_some_iff.1 hactor
    obtain ⟨⟨x', c'⟩, hstep, rfl⟩ := Option.map_eq_some_iff.1 hmap
    rw [h.supervised] at hstep
    refine ⟨.scheduler rfl ?_, h.supervised, h.tasks⟩
    simpa only [point, hc] using Scheduler.move_of_step hstep
  | clock =>
    obtain ⟨c, hc, hmap⟩ := Option.bind_eq_some_iff.1 hactor
    obtain ⟨⟨x', c'⟩, hstep, rfl⟩ := Option.map_eq_some_iff.1 hmap
    refine ⟨.scheduler rfl ?_, h.supervised, h.tasks⟩
    simpa only [point, hc] using Scheduler.move_of_timeout hstep
  | task i =>
    obtain ⟨⟨x', task⟩, hstep, rfl⟩ := Option.map_eq_some_iff.1 hactor
    -- The tasks of a run are lives and aborts; the other kinds of tasks do not occur.
    have htask := h.tasks i
    cases hbefore : e.tasks.get i with
    | life p =>
      rw [hbefore, h.supervised] at hstep
      simp only [Task.step?] at hstep
      cases hp : p.step true e.site with
      | blocked =>
        rw [hp] at hstep
        cases hstep
      | next x₁ p₁ =>
        rw [hp] at hstep
        cases hstep
        exact ⟨.life i hbefore rfl rfl (Life.move_of_step hp), h.set rfl rfl trivial⟩
      | done x₁ result => exact absurd hp Life.step_ne_done
    | abort a =>
      rw [hbefore] at hstep
      simp only [Task.step?] at hstep
      cases ha : a.step e.site with
      | blocked =>
        rw [ha] at hstep
        cases hstep
      | next x₁ a₁ =>
        rw [ha] at hstep
        cases hstep
        exact ⟨.abort i hbefore rfl rfl (Abort.move_of_next ha), h.set rfl rfl trivial⟩
      | done x₁ result =>
        rw [ha] at hstep
        cases hstep
        exact ⟨.abort i hbefore rfl rfl (Abort.move_of_done ha), h.set rfl rfl trivial⟩
    | ended joined =>
      rw [hbefore] at hstep
      cases hstep
    | arrive _ _ | reject _ _ | complete _ | claim _ _ _ | sleep _ | failed _ =>
      rw [hbefore] at htask
      exact htask.elim

end Scene

end Junction
