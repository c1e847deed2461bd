import Junction.Procedure.Progress

/-!
# Arrival, rejection and completion

The three procedures by which a vehicle reports to the scheduler: it joins the queue, or it is
retired without admission, or it has crossed.

Arrivals exclude aborts: a vehicle arrives under the lock of the fault, so that nobody joins the
queue after an abort has emptied it.

## Main definitions

* `Arrival.step` — joins the queue, unless there is a fault already
* `Rejection.step` — retires a vehicle whose codes are unknown
* `Completion.step` — counts a vehicle that has crossed
-/

namespace Junction

/-- Where an arrival stands. -/
inductive Arrival where
  /-- Before the lock of the fault. -/
  | lock
  /-- Under the lock, before the event. -/
  | log
  /-- Under the lock, before the queue. -/
  | enqueue
  /-- Before the count. -/
  | count
  /-- Before the notice to the scheduler. -/
  | notify
deriving DecidableEq, Repr, Inhabited

/-- A step of the arrival of a vehicle. The result tells whether the vehicle joined the queue; with
a fault it did not, and must not wait for a grant. -/
def Arrival.step (v : Vehicle) (x : Site) : Arrival → Progress Arrival Bool
  | lock =>
    if x.faultLocked then .blocked
    else if x.fault.isSome then .done x false
    else .next { x with faultLocked := true } log
  | log => .next (x.record v.id (.approach v.vclass v.approach v.turn)) enqueue
  | enqueue => .next { x with queue := x.queue.enqueue v, faultLocked := false } count
  | count => .next x.countArrival notify
  | notify => .done x.notify true

/-- Where a rejection stands. -/
inductive Rejection where
  /-- Before the event. -/
  | log
  /-- Before the count of rejections. -/
  | count
  /-- Before the count of arrivals. -/
  | countArrival
  /-- Before the notice to the scheduler. -/
  | notify
deriving DecidableEq, Repr, Inhabited

/-- A step of the rejection of a vehicle. -/
def Rejection.step (spec : VehicleSpec) (x : Site) : Rejection → Progress Rejection Unit
  | log => .next (x.record spec.id (.reject spec.vclass spec.approach spec.turn)) count
  | count => .next x.countRejection countArrival
  | countArrival => .next x.countArrival notify
  | notify => .done x.notify ()

/-- Where a completion stands. -/
inductive Completion where
  /-- Before the count. -/
  | count
  /-- Before the notice to the scheduler. -/
  | notify
deriving DecidableEq, Repr, Inhabited

/-- A step of the completion of a vehicle. -/
def Completion.step (x : Site) : Completion → Progress Completion Unit
  | count => .next x.countCompletion notify
  | notify => .done x.notify ()

end Junction
