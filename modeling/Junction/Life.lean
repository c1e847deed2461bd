import Junction.Procedure.Abort
import Junction.Procedure.Arrival
import Junction.Procedure.Claim

/-!
# The life of a vehicle

Every vehicle of a run lives on a task of its own:

1. it joins the queue of its class and sleeps on its wake channel,
2. once the scheduler wakes it, it claims every segment of its route,
3. it marks itself as inside and acknowledges the grant,
4. it crosses, releases the route and reports its completion.

A vehicle with an unknown code is rejected instead, and one that finds the run aborted leaves
without crossing. Any other failure is a violation of the protocol; under supervision it aborts the
run.

## Main definitions

* `Life` — where a vehicle stands in its life
* `Life.step` — its next step
-/

namespace Junction

/-- Where a vehicle stands in its life. -/
inductive Life where
  /-- The vehicle is still a description with raw codes, and has a channel to be woken through. -/
  | start (spec : VehicleSpec) (channel : Nat)
  /-- A code is unknown; the vehicle is being rejected. -/
  | rejecting (spec : VehicleSpec) (point : Rejection)
  /-- The vehicle joins the queue. -/
  | arriving (v : Vehicle) (point : Arrival)
  /-- The vehicle waits for its wake. -/
  | sleeping (v : Vehicle)
  /-- The vehicle is awake and looks whether the run was aborted. -/
  | woken (v : Vehicle)
  /-- The vehicle claims a segment, and then the rest of its route. -/
  | claiming (v : Vehicle) (s : Segment) (rest : List Segment) (point : Claim)
  /-- The vehicle has just acquired a segment and logs it. -/
  | entering (v : Vehicle) (s : Segment) (rest : List Segment)
  /-- The vehicle holds its route and marks itself as inside. -/
  | inside (v : Vehicle)
  /-- The vehicle acknowledges the grant. -/
  | acknowledging (v : Vehicle)
  /-- The vehicle crosses. -/
  | crossing (v : Vehicle)
  /-- The vehicle starts the release of its route. -/
  | departing (v : Vehicle)
  /-- The vehicle has segments left to free. -/
  | vacating (v : Vehicle) (todo : List Segment)
  /-- The vehicle has just freed a segment and logs it. -/
  | exiting (v : Vehicle) (s : Segment) (rest : List Segment)
  /-- The vehicle drops the reservations of its route. -/
  | clearing (v : Vehicle)
  /-- The vehicle logs that it leaves. -/
  | leaving (v : Vehicle)
  /-- The vehicle reports its completion. -/
  | completing (v : Vehicle) (point : Completion)
  /-- The vehicle aborts the run because of its failure. -/
  | aborting (fault : Fault) (point : Abort)
  /-- The life is over, possibly with a failure. -/
  | ended (failure : Option Fault)
deriving DecidableEq, Inhabited

namespace Life

/-- Where a violation leads: under supervision to an abort, and otherwise to the end. -/
def failed (supervised : Bool) (violation : Violation) : Life :=
  let fault := Fault.protocolViolation violation
  if supervised then aborting fault (.raise fault) else ended (some fault)

/-- Where a vehicle stands that has segments left to claim. -/
def toClaim (v : Vehicle) : List Segment → Life
  | [] => inside v
  | s :: rest => claiming v s rest .check

/-- The message about a vehicle with an unknown code. -/
def rejectionMessage (spec : VehicleSpec) : String :=
  s!"{spec.id.name} rejected: unknown class/approach/turn " ++
    s!"({spec.vclass}, {spec.approach}, {spec.turn})."

/-- A step of the life of a vehicle. -/
def step (supervised : Bool) (x : Site) : Life → Progress Life Unit
  | start spec channel =>
    match Vehicle.ofSpec? spec channel with
    | some v => .next x (arriving v .lock)
    | none =>
      .next { x with console := x.console.warn (rejectionMessage spec) } (rejecting spec .log)
  | rejecting spec point =>
    (point.step spec x).within (rejecting spec) fun () => ended (some .invalidArgument)
  | arriving v point =>
    (point.step v x).within (arriving v) fun joined => if joined then sleeping v else ended none
  | sleeping v =>
    match x.takeWake? v.channel with
    | some x => .next x (woken v)
    | none => .blocked
  -- The wake may come from an abort instead of a grant.
  | woken v => .next x (if x.aborted then ended none else toClaim v v.route.segments)
  | claiming v s rest point =>
    (point.step s v.id x).within (claiming v s rest) fun
      | .ok () => entering v s rest
      | .error violation => failed supervised violation
  | entering v s rest => .next (x.record v.id (.enter s)) (toClaim v rest)
  | inside v =>
    match x.table.enter v.id v.route with
    | (table, .ok ()) => .next (x.withTable table) (acknowledging v)
    | (table, .error violation) => .next (x.withTable table) (failed supervised violation)
  | acknowledging v => .next x.acknowledge (crossing v)
  | crossing v => .next (x.record v.id .cross) (departing v)
  | departing v => .next (x.withTable (x.table.depart v.id)) (vacating v v.route.segments)
  | vacating v [] => .next x (clearing v)
  | vacating v (s :: rest) =>
    match x.table.vacate s v.id with
    | (table, .ok ()) => .next (x.withTable table) (exiting v s rest)
    | (table, .error violation) => .next (x.withTable table) (failed supervised violation)
  | exiting v s rest => .next (x.record v.id (.exit s)) (vacating v rest)
  | clearing v =>
    match x.table.unreserve v.id v.route with
    | (table, .ok ()) => .next (x.withTable table) (leaving v)
    | (table, .error violation) => .next (x.withTable table) (failed supervised violation)
  | leaving v => .next (x.record v.id .leave) (completing v .count)
  | completing v point => (point.step x).within (completing v) fun () => ended none
  | aborting fault point => (point.step x).within (aborting fault) fun () => ended (some fault)
  | ended _ => .blocked

end Life

end Junction
