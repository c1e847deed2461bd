import Junction.Procedure.Abort

/-!
# The scheduler

The scheduler alone decides who enters the junction. Until every vehicle has crossed or was rejected
it repeats a scan: it moves the waiting zones into the levels of the queue, and then looks through
the levels in the order of the classes, and through each level in the order of arrival, for the
first vehicle whose route it can reserve.

* If a vehicle fits, the scheduler wakes it and waits for its acknowledgment.
* If nobody fits, the scheduler sleeps until something has changed since the start of the scan.

The scheduler notes the epoch before it scans, so a change between the scan and the sleep is not
missed.

## Main definitions

* `Scheduler.State` — what the scheduler says it is doing
* `Scheduler.Point` — where it stands
* `Scheduler.step?` — its next step
* `Scheduler.timeout?` — the end of a wait for an acknowledgment that does not come
-/

namespace Junction

namespace Scheduler

/-- What the scheduler says it is doing. -/
inductive State where
  /-- No waiting vehicle fits. -/
  | idle
  /-- It looks for a vehicle to let in. -/
  | scanning
  /-- It waits for the acknowledgment of a vehicle. -/
  | granting
  /-- Every vehicle has crossed or was rejected, or the run was aborted. -/
  | done
deriving DecidableEq, Repr, Inhabited

/-- The name of a state. -/
def State.name : State → String
  | idle => "Idle"
  | scanning => "Scanning"
  | granting => "Granting"
  | done => "Done"

/-- Where the scheduler stands. -/
inductive Point where
  /-- Before the first scan: it notes the epoch. -/
  | hold
  /-- Before the first scan: it looks whether every vehicle has arrived. -/
  | holdTest (seen : Nat)
  /-- Before the first scan: it sleeps until the epoch changes. -/
  | holdSleep (seen : Nat)
  /-- It looks whether the run is over. -/
  | test
  /-- It notes the epoch and starts a scan. -/
  | look
  /-- It moves the waiting zone of a class. -/
  | gather (seen : Nat) (c : VehicleClass)
  /-- It locks the level of a class. -/
  | lock (seen : Nat) (c : VehicleClass) (fault : Option Violation)
  /-- It asks about the vehicle at a place of the locked level. -/
  | scan (seen : Nat) (c : VehicleClass) (place : Nat) (fault : Option Violation)
  /-- It stores the number of its passes. -/
  | rest (seen : Nat)
  /-- It sleeps until the epoch changes. -/
  | sleep (seen : Nat)
  /-- It logs a grant. -/
  | announce (v : Vehicle) (ticket : Ticket)
  /-- It wakes the granted vehicle. -/
  | rouse (v : Vehicle) (ticket : Ticket)
  /-- It waits for the acknowledgment, after a number of waits in vain. -/
  | await (v : Vehicle) (ticket : Ticket) (retries : Nat)
  /-- It has given up on the vehicle and aborts the run. -/
  | giveUp (v : Vehicle) (ticket : Ticket) (point : Abort)
  /-- It drops the reservation of the vehicle it has given up on. -/
  | withdraw (v : Vehicle) (ticket : Ticket)
  /-- It has taken an acknowledgment and looks whether the run was aborted. -/
  | acknowledged (v : Vehicle) (ticket : Ticket)
  /-- It looks whether the granted vehicle is the one that has entered. -/
  | verify (v : Vehicle) (ticket : Ticket)
  /-- It aborts the run because of its failure. -/
  | aborting (violation : Violation) (point : Abort)
  /-- It has ended, possibly with a failure. -/
  | ended (failure : Option Violation)
deriving DecidableEq, Inhabited

end Scheduler

/-- The scheduler of a run. -/
structure Scheduler where
  /-- What it says it is doing. -/
  state : Scheduler.State
  /-- How many of its scans admitted nobody. -/
  pass : Nat
  /-- Where it stands. -/
  point : Scheduler.Point
deriving DecidableEq, Inhabited

namespace Scheduler

/-- The scheduler of a site before its first step. -/
def start (x : Site) : Scheduler :=
  ⟨.idle, 0, if x.config.holdUntilArrived then .hold else .test⟩

/-- The message about a change of state. -/
def transitionMessage (c : Scheduler) (state : State) : String :=
  s!"Scheduler: {c.state.name} -> {state.name} (pass {c.pass})."

/-- Changes the state; a verbose run echoes the change. -/
def transition (x : Site) (c : Scheduler) (state : State) : Site × Scheduler :=
  let x :=
    if c.state ≠ state ∧ x.config.verbose then
      { x with console := x.console.debug (c.transitionMessage state) }
    else x
  (x, { c with state })

/-- Where a violation leads: under supervision to an abort, and otherwise to the end. -/
def failed (supervised : Bool) (violation : Violation) : Point :=
  if supervised then .aborting violation (.raise (.protocolViolation violation))
  else .ended (some violation)

/-- The message about a wait in vain. -/
def retryMessage (ticket : Ticket) (retries limit : Nat) : String :=
  s!"Scheduler: {ticket.vehicle.name} has not acknowledged its grant ({retries}/{limit})."

/-- What the scheduler does when it has asked about every vehicle of a level. -/
def endLevel (supervised : Bool) (x : Site) (c : Scheduler) (seen : Nat) (level : VehicleClass)
    (fault : Option Violation) : Site × Scheduler :=
  let x := { x with scanned := none }
  match level.next?, fault with
  | some level, _ => (x, { c with point := .lock seen level fault })
  | none, some violation => (x, { c with point := failed supervised violation })
  | none, none =>
    let (x, c) := c.transition x .idle
    (x, { c with pass := c.pass + 1, point := .rest seen })

/-- What the scheduler does when it has reserved the route of the vehicle at a place of a level: the
vehicle leaves the queue. An error earlier in the scan counts all the same. -/
def endScan (supervised : Bool) (x : Site) (c : Scheduler) (level : VehicleClass) (place : Nat)
    (v : Vehicle) (ticket : Ticket) (fault : Option Violation) : Site × Scheduler :=
  let queue :=
    { x.queue with levels := x.queue.levels.set level ((x.queue.levels.get level).eraseIdx place) }
  let x := { x with queue, scanned := none }
  match fault with
  | some violation => (x, { c with point := failed supervised violation })
  | none =>
    let (x, c) := c.transition x .granting
    (x, { c with point := .announce v ticket })

/-- A step of the scheduler, if one is possible. -/
def step? (supervised : Bool) (x : Site) (c : Scheduler) : Option (Site × Scheduler) :=
  match c.point with
  | .hold => some (x, { c with point := .holdTest x.epoch })
  | .holdTest seen =>
    some (x, { c with
      point := if x.total ≤ x.arrivals ∨ x.aborted then .test else .holdSleep seen })
  | .holdSleep seen => if x.epoch = seen then none else some (x, { c with point := .hold })
  | .test =>
    if x.isDone ∨ x.aborted then
      let (x, c) := c.transition x .done
      some (x, { c with point := .ended none })
    else some (x, { c with point := .look })
  -- The epoch is noted before the scan: whatever changes during the scan ends the sleep after it.
  | .look =>
    let seen := x.epoch
    let (x, c) := c.transition x .scanning
    some (x, { c with point := .gather seen .ambulance })
  | .gather seen level =>
    some (x.withQueue (x.queue.gather level), { c with
      point :=
        match level.next? with
        | some level => .gather seen level
        | none => .lock seen .ambulance none })
  | .lock seen level fault =>
    some ({ x with scanned := some level }, { c with point := .scan seen level 0 fault })
  | .scan seen level place fault =>
    match (x.queue.levels.get level)[place]? with
    | none => some (c.endLevel supervised x seen level fault)
    | some v =>
      match x.table.reserve v.id v.route with
      | (table, .ok (some ticket)) =>
        some (c.endScan supervised (x.withTable table) level place v ticket fault)
      | (table, .ok none) =>
        some (x.withTable table, { c with point := .scan seen level (place + 1) fault })
      -- An error counts as a refusal for now; the first one ends the run after the scan.
      | (table, .error violation) =>
        some (x.withTable table, { c with
          point := .scan seen level (place + 1) (fault.or (some violation)) })
  | .rest seen => some ({ x with passes := c.pass }, { c with point := .sleep seen })
  | .sleep seen => if x.epoch = seen then none else some (x, { c with point := .test })
  | .announce v ticket =>
    some (x.record ticket.vehicle (.grant ticket.route c.pass), { c with point := .rouse v ticket })
  | .rouse v ticket => some (x.wake v.channel, { c with point := .await v ticket 0 })
  | .await v ticket _ =>
    (x.takeAck?).map fun x => (x, { c with point := .acknowledged v ticket })
  -- The run is aborted before the ticket is cancelled, so that a late claim of the vehicle does not
  -- become the fault of the run.
  | .giveUp v ticket point =>
    match point.step x with
    | .blocked => none
    | .next x point => some (x, { c with point := .giveUp v ticket point })
    | .done x () => some (x, { c with point := .withdraw v ticket })
  | .withdraw _ ticket =>
    some (x.withTable (x.table.cancel ticket), { c with
      point := failed supervised (.unacknowledgedGrant ticket.vehicle) })
  | .acknowledged v ticket =>
    some (x, { c with point := if x.aborted then .test else .verify v ticket })
  | .verify _ ticket =>
    some (x, { c with
      point :=
        if x.table.hasEntered ticket.vehicle then .test
        else failed supervised (.incompleteEntry ticket.vehicle) })
  | .aborting violation point =>
    match point.step x with
    | .blocked => none
    | .next x point => some (x, { c with point := .aborting violation point })
    | .done x () => some (x, { c with point := .ended (some violation) })
  | .ended _ => none

/-- The end of a wait for an acknowledgment: if there is none, the scheduler warns, and either waits
again or, when its patience is over, gives up on the vehicle. -/
def timeout? (x : Site) (c : Scheduler) : Option (Site × Scheduler) :=
  match c.point with
  | .await v ticket retries =>
    if x.acks = 0 then
      let retries := retries + 1
      let limit := x.config.grantRetries
      let x := { x with console := x.console.warn (retryMessage ticket retries limit) }
      some (x, { c with
        point :=
          if limit ≤ retries then
            .giveUp v ticket
              (.raise (.protocolViolation (.unacknowledgedGrant ticket.vehicle)))
          else .await v ticket retries })
    else none
  | _ => none

end Scheduler

end Junction
