import Junction.Config
import Junction.Console
import Junction.Event
import Junction.SegmentTable
import Junction.Table
import Junction.WaitingQueue

/-!
# The site of a run

The site is what the scheduler and the vehicles of one run share: the segments, the queue of waiting
vehicles, the counters, the event log, the fault and the channels between the tasks. Two sites share
nothing.

A task changes the site in steps; each step is one section under a lock, or one access to a counter.
The fault and each level of the queue have locks that are held over more than one step, so the site
says whether they are taken.

## Main definitions

* `Site` — the shared state
* `record`, `notify`, `raise`, … — the steps from which the procedures of the tasks are made
* `Report`, `Site.conclude` — the result of a finished run
-/

namespace Junction

/-- The shared state of one run. -/
structure Site where
  /-- The configuration of the run. -/
  config : Config
  /-- The number of vehicles after which the run is done. -/
  total : Nat
  /-- The segments. -/
  table : SegmentTable := {}
  /-- The vehicles that wait. -/
  queue : WaitingQueue := {}
  /-- The level of the queue that the scheduler keeps locked while it looks through it. -/
  scanned : Option VehicleClass := none
  /-- How many vehicles have crossed. -/
  completions : Nat := 0
  /-- How many vehicles have arrived or were rejected. -/
  arrivals : Nat := 0
  /-- How many vehicles were rejected. -/
  rejections : Nat := 0
  /-- How many scans of the scheduler admitted nobody. -/
  passes : Nat := 0
  /-- How many changes of interest to the scheduler there were. -/
  epoch : Nat := 0
  /-- The acknowledgments that the scheduler has not taken yet. -/
  acks : Nat := 0
  /-- The wakes on each channel that its vehicle has not taken yet. -/
  wakes : Table Nat := {}
  /-- The event log. -/
  events : List Event := []
  /-- Whether a task holds the lock of the fault. -/
  faultLocked : Bool := false
  /-- The first fault of the run. -/
  fault : Option Fault := none
  /-- Whether the run was aborted. -/
  aborted : Bool := false
  /-- What was written. -/
  console : Console := {}
deriving DecidableEq, Inhabited

namespace Site

/-- The site of a run before its first step. -/
def start (config : Config) (total : Nat) (console : Console) : Site := { config, total, console }

/-! ### Steps -/

/-- Appends an event to the log, and echoes it if the run is verbose. -/
def record (x : Site) (v : VehicleId) (kind : Event.Kind) : Site :=
  let event : Event := ⟨x.events.length, v, kind⟩
  { x with
    events := x.events ++ [event]
    console := if x.config.verbose then x.console.debug event.text else x.console }

/-- Tells the scheduler that something has changed. -/
def notify (x : Site) : Site := { x with epoch := x.epoch + 1 }

/-- Counts an arrival. -/
def countArrival (x : Site) : Site := { x with arrivals := x.arrivals + 1 }

/-- Counts a rejection. -/
def countRejection (x : Site) : Site := { x with rejections := x.rejections + 1 }

/-- Counts a vehicle that has crossed. -/
def countCompletion (x : Site) : Site := { x with completions := x.completions + 1 }

/-- Puts an acknowledgment into the channel of the scheduler. -/
def acknowledge (x : Site) : Site := { x with acks := x.acks + 1 }

/-- Takes an acknowledgment, if there is one. -/
def takeAck? (x : Site) : Option Site :=
  if 0 < x.acks then some { x with acks := x.acks - 1 } else none

/-- Puts a wake into the channel of a vehicle. -/
def wake (x : Site) (channel : Nat) : Site :=
  { x with wakes := x.wakes.set channel (x.wakes.get channel + 1) }

/-- Takes a wake from a channel, if there is one. -/
def takeWake? (x : Site) (channel : Nat) : Option Site :=
  if 0 < x.wakes.get channel then
    some { x with wakes := x.wakes.set channel (x.wakes.get channel - 1) }
  else none

/-- Locks the fault and keeps the first fault of the run. -/
def raise (x : Site) (fault : Fault) : Site :=
  match x.fault with
  | some _ => { x with faultLocked := true }
  | none =>
    { x with
      faultLocked := true
      fault := some fault
      console := x.console.warn s!"Intersection: aborting: {fault.message}." }

/-- Whether every vehicle has crossed or was rejected. -/
def isDone (x : Site) : Bool := x.total ≤ x.completions + x.rejections

/-- The site with a changed table. -/
def withTable (x : Site) (table : SegmentTable) : Site := { x with table }

/-- The site with a changed queue. -/
def withQueue (x : Site) (queue : WaitingQueue) : Site := { x with queue }

end Site

/-! ### Reports -/

/-- The result of a run. -/
structure Report where
  /-- How many vehicles have crossed. -/
  completed : Nat
  /-- How many vehicles were rejected. -/
  rejected : Nat
  /-- How many scans of the scheduler admitted nobody. -/
  passes : Nat
  /-- Every event of the run, in order. -/
  events : List Event
  /-- The ledger after the run. -/
  occupancy : Occupancy
deriving DecidableEq, Repr, Inhabited

namespace Report

/-- The events of a vehicle, in order. -/
def eventsOf (r : Report) (v : VehicleId) : List Event := r.events.filter (·.vehicle == v)

/-- The first event of a vehicle of a certain kind. -/
def find? (r : Report) (v : VehicleId) (p : Event.Kind → Bool) : Option Event :=
  (r.eventsOf v).find? (p ·.kind)

/-- The last event of a vehicle of a certain kind. -/
def findLast? (r : Report) (v : VehicleId) (p : Event.Kind → Bool) : Option Event :=
  r.events.reverse.find? fun e => e.vehicle == v && p e.kind

/-- The grants in the order in which they happened, each with its pass. -/
def grants (r : Report) : List (VehicleId × Nat) :=
  r.events.filterMap fun e =>
    match e.kind with
    | .grant _ pass => some (e.vehicle, pass)
    | _ => none

/-- The routes of the grants, in the order in which they happened. -/
def grantedRoutes (r : Report) : List Route :=
  r.events.filterMap fun e =>
    match e.kind with
    | .grant route _ => some route
    | _ => none

/-- The class with which a vehicle has approached. -/
def classOf? (r : Report) (v : VehicleId) : Option VehicleClass :=
  (r.eventsOf v).findSome? fun e =>
    match e.kind with
    | .approach c _ _ => some c
    | _ => none

end Report

namespace Site

/-- The report of the state that a site is in. -/
def report (x : Site) : Report :=
  ⟨x.completions, x.rejections, x.passes, x.events, x.table.ledger.occupancy⟩

/-- The result of a finished run: its first fault, or else a segment that was not given back, or
else the report. -/
def conclude (x : Site) : Site × Except Fault Report :=
  match x.fault with
  | some fault =>
    ({ x with console := x.console.warn s!"Intersection: run aborted: {fault.message}." },
      .error fault)
  | none =>
    match x.table.ledger.leaked? with
    | some s => (x, .error (.protocolViolation (.leakedHold s)))
    | none =>
      let r := x.report
      ({ x with
          console := x.console.info
            s!"Intersection: {r.completed} completed, {r.rejected} rejected, {r.passes} passes." },
        .ok r)

end Site

end Junction
