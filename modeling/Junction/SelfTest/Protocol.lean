import Junction.Grading.Test
import Junction.Rehearsal
import Junction.SelfTest.Expectation

/-!
# Self-tests of the protocol between vehicles and scheduler

## Main definitions

* `protocolTests` — the tests of this module
-/

namespace Junction.SelfTest

open Grading

/-- The rehearsal of some operations on a fresh site for a number of vehicles, whose scheduler is
not patient. -/
def rehearse (c : Console) (total : Nat) (operations : List Rehearsal.Operation) : Rehearsal :=
  let config : Config := { vehicles := total, grantTimeout := 10000000, grantRetries := 2 }
  ((Rehearsal.start config total c).playAll operations).1

/-- The body that rehearses some operations and panics unless the end of the rehearsal is as
expected. -/
def rehearsing (total : Nat) (operations : List Rehearsal.Operation)
    (expected : Rehearsal → Bool) : Body := .checking fun c =>
  let h := rehearse c total operations
  (h.site.console, expected h)

/-- How the tasks of a rehearsal have ended, each with its fault if it has failed, as far as they
have ended. -/
def endings (h : Rehearsal) : List (Option (Option Fault)) :=
  h.scene.tasks.cells.map fun task => task.outcome?.map fun
    | .ok _ => none
    | .error fault => some fault

/-- Three valid codes make a vehicle, and an unknown one does not. -/
def vehicleOfCodes : Body := holding fun () =>
  (Vehicle.ofSpec? ⟨3, 2, 1, 1⟩ 0).any (fun v =>
      v.vclass == .truck && v.approach == .b && v.turn == .left &&
        v.route.segments == [.bc, .ca]) &&
    [(3, 0, 0), (0, 3, 0), (0, 0, 2), (255, 255, 255)].all fun (vclass, approach, turn) =>
      (Vehicle.ofSpec? ⟨0, vclass, approach, turn⟩ 0).isNone

/-- A wake before the sleep is not lost, and one after it ends it. -/
def earlyWake : Body := .checking fun c =>
  let h := rehearse c 1 [.enqueue ⟨0, 0, 0, 0⟩, .wake 0, .sleep 0, .sleep 0]
  let h' := (h.playAll [.wake 0]).1
  (h'.site.console, h.blockedCalls == 1 && h'.blockedCalls == 0)

/-- A vehicle with an unknown code is rejected and counted. -/
def unknownCode : Body := .quietly <| rehearsing 1 [.spawn ⟨0, 0, 5, 0⟩] fun h =>
  let x := h.site
  endings h == [some (some .invalidArgument)] && x.rejections == 1 && x.arrivals == 1 &&
    x.completions == 0 && x.isDone && x.queue.isEmpty &&
    x.events.map (·.kind) == [.reject 0 5 0]

/-- The handshake between a vehicle and a scheduler that is played by hand. -/
def handshake : Body :=
  let route : Route := .of .c .left
  rehearsing 1 [.spawn ⟨0, 1, 2, 1⟩, .consume, .letIn none, .record 0 (.grant route 0), .wake 0,
      .takeAcknowledgment] fun h =>
    let x := h.site
    endings h == [some none] && x.acks == 0 && x.table.hasEntered 0 && x.completions == 1 &&
      x.table.ledger.occupancy.isClear &&
      x.events.map (·.kind) == [.approach .car .c .left, .grant route 0, .enter .ab, .enter .ca,
        .cross, .exit .ab, .exit .ca, .leave]

/-- A vehicle that is woken without a reservation touches no segment. -/
def wakeUnreserved : Body :=
  rehearsing 1 [.spawn ⟨0, 0, 0, 0⟩, .consume, .letIn (some .full), .wake 0] fun h =>
    endings h == [some (some (.protocolViolation (.acquireWithoutGrant .ab 0)))] &&
      h.site.table.ledger.acquires == .const 0

/-- A grant that nobody acknowledges ends the run and leaves no reservation. -/
def silentVehicle : Body :=
  .quietly <| rehearsing 1 [.arrive ⟨0, 0, 1, 0⟩, .startScheduler] fun h =>
    let x := h.site
    let violation := Violation.unacknowledgedGrant 0
    h.scene.scheduler.any (fun s => s.point == .ended (some violation) && s.state == .granting) &&
      x.aborted && x.fault == some (.protocolViolation violation) &&
      x.table.ledger.occupancy.isClear && x.table.ledger.leaked? == none

/-- Without vehicles the scheduler is done at once. -/
def nothingToSchedule : Body := rehearsing 0 [.startScheduler] fun h =>
  h.scene.scheduler.any (fun s => s.point == .ended none && s.state == .done) &&
    h.site.events.isEmpty

/-- An abort wakes all waiting vehicles, keeps the first fault, and turns late vehicles away. -/
def abortWaiting : Body := .quietly <| .checking fun c =>
  let vehicles := (List.range 4).map fun i => Rehearsal.Operation.spawn ⟨i, 1, 0, 0⟩
  let h := rehearse c 5 vehicles
  let h' := (h.playAll [.abort .noMemory, .abort .invalidArgument]).1
  let h'' := (h'.playAll [.spawn ⟨4, 0, 0, 0⟩]).1
  (h''.site.console,
    h.site.arrivals == 4 && h.blockedCalls == 4 && h'.blockedCalls == 0 && h'.site.aborted &&
      h'.site.fault == some .noMemory && h'.site.completions == 0 && h'.site.queue.isEmpty &&
      (endings h'').all (· == some none) && h''.site.queue.isEmpty &&
      h''.site.table.ledger.acquires == .const 0)

/-- The tests of the protocol. -/
def protocolTests : List (String × Body) := [
  ("vehicle::new_vehicle", vehicleOfCodes),
  ("vehicle::wake_before_sleep", earlyWake),
  ("vehicle::reject_unknown_code", unknownCode),
  ("vehicle::handshake", handshake),
  ("vehicle::acquire_without_grant", wakeUnreserved),
  ("vehicle::unacknowledged_grant", silentVehicle),
  ("vehicle::scheduler_done", nothingToSchedule),
  ("vehicle::abort_wakes_waiting_vehicles", abortWaiting)]

end Junction.SelfTest
