import Junction.Procedure.Progress

/-!
# Abort

An abort keeps its fault if it is the first one, empties the queue under the lock of the fault, and
then wakes the scheduler and every vehicle that it found in the queue. The woken vehicles see that
the run is aborted and leave without crossing.

## Main definitions

* `Abort` — where an abort stands
* `Abort.step` — its next step
-/

namespace Junction

/-- Where an abort stands. The vehicles that it has taken out of the queue are its to wake. -/
inductive Abort where
  /-- Before the lock of the fault. -/
  | raise (fault : Fault)
  /-- Under the lock, before the flag that the scheduler and the vehicles look at. -/
  | flag
  /-- Under the lock, before the waiting zone of a class. -/
  | gather (c : VehicleClass)
  /-- Under the lock, before the level of a class. -/
  | drain (c : VehicleClass) (drained : List Vehicle)
  /-- Under the lock, with nothing left to empty. -/
  | unlock (drained : List Vehicle)
  /-- Before the notice to the scheduler. -/
  | notify (drained : List Vehicle)
  /-- Before the acknowledgment that frees the scheduler from a pending grant. -/
  | acknowledge (drained : List Vehicle)
  /-- Before the wakes. -/
  | wake (drained : List Vehicle)
deriving DecidableEq, Repr, Inhabited

/-- A step of an abort. A level that the scheduler is looking through cannot be touched. -/
def Abort.step (x : Site) : Abort → Progress Abort Unit
  | raise fault => if x.faultLocked then .blocked else .next (x.raise fault) flag
  | flag => .next { x with aborted := true } (gather .ambulance)
  | gather c =>
    let point :=
      match c.next? with
      | some c => gather c
      | none => drain .ambulance []
    -- An empty waiting zone is passed over without a look at the level.
    if (x.queue.zone.get c).isEmpty then .next x point
    else if x.scanned = some c then .blocked
    else .next (x.withQueue (x.queue.gather c)) point
  | drain c drained =>
    if x.scanned = some c then .blocked
    else
      let (queue, more) := x.queue.drainLevel c
      .next (x.withQueue queue)
        (match c.next? with
        | some c => drain c (drained ++ more)
        | none => unlock (drained ++ more))
  | unlock drained => .next { x with faultLocked := false } (notify drained)
  | notify drained => .next x.notify (acknowledge drained)
  | acknowledge drained => .next x.acknowledge (wake drained)
  | wake [] => .done x ()
  | wake (v :: rest) => .next (x.wake v.channel) (wake rest)

end Junction
