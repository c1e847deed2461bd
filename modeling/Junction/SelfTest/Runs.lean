import Junction.Grading.Test
import Junction.Rehearsal
import Junction.Replay
import Junction.SelfTest.Expectation

/-!
# Self-tests of whole runs

Every run here is quiet, and most have a deadline. The log of a run that succeeds must replay.

## Main definitions

* `runTests` — the tests of this module
-/

namespace Junction.SelfTest

open Grading

/-- The body that runs a configuration and panics unless the result is as expected. -/
def running (config : Config) (expected : Except RunProblem Report → Bool) : Body :=
  .quietly <| .checking fun c =>
    let (c, result) := config.run c
    (c, expected result)

/-- Whether a run has ended with a report that can be replayed and is as expected. -/
def reports (expected : Report → Bool) : Except RunProblem Report → Bool
  | .ok r => r.isExclusive && expected r
  | .error _ => false

/-- The vehicles of a class in the order in which they have approached. -/
def approached (r : Report) (c : VehicleClass) : List VehicleId :=
  r.events.filterMap fun e =>
    match e.kind with
    | .approach c' _ _ => if c' = c then some e.vehicle else none
    | _ => none

/-- The place of the first event of a kind in the life of a vehicle. -/
def firstSeq? (r : Report) (v : VehicleId) (kind : String) : Option Nat :=
  (r.find? v (·.name == kind)).map (·.seq)

/-! ### Few vehicles -/

/-- One vehicle turns right. -/
def oneVehicle : Body :=
  .within 30 <| running { vehicles := 1, approaches := .fixed 0, turns := .fixed 0 } <|
    reports fun r =>
      let kinds := (r.eventsOf 0).map (·.kind)
      r.completed == 1 && r.rejected == 0 && r.occupancy.acquires == ⟨1, 0, 0⟩ &&
        r.occupancy.releases == ⟨1, 0, 0⟩ && (kinds.take 2).map (·.name) == ["Approach", "Grant"] &&
        kinds.drop 2 == [.enter .ab, .cross, .exit .ab, .leave]

/-- Three vehicles with disjoint routes are let in by one pass. -/
def onePass : Body :=
  .within 30 <| running {
      vehicles := 3, classes := .fixed 0, approaches := .cycle [0, 1, 2], turns := .fixed 0,
      holdUntilArrived := true } <|
    reports fun r =>
      r.completed == 3 && r.grants.map (·.2) == [0, 0, 0] && r.occupancy.acquires == ⟨1, 1, 1⟩

/-- Of two vehicles with one route, the second is granted it after the first has left it. -/
def oneAfterTheOther : Body :=
  .within 30 <| running {
      vehicles := 2, approaches := .fixed 0, turns := .fixed 1, holdUntilArrived := true } <|
    reports fun r =>
      match r.grants with
      | [(first, _), (second, _)] =>
        let places := [(r.findLast? first (·.name == "Exit")).map (·.seq),
          firstSeq? r second "Grant", firstSeq? r second "Enter"].filterMap id
        r.completed == 2 && places.length == 3 && places.mergeSort == places &&
          r.occupancy.acquires == ⟨2, 2, 0⟩
      | _ => false

/-! ### Order -/

/-- Trucks are served last, but served. -/
def trucksLast : Body :=
  .within 30 <| running {
      vehicles := 14, classes := .cycle [2, 0, 0, 1, 1, 0, 1], approaches := .fixed 0,
      turns := .fixed 1, holdUntilArrived := true } <|
    reports fun r =>
      r.completed == 14 &&
        r.grants.filterMap (fun (v, _) => r.classOf? v) ==
          List.replicate 6 .ambulance ++ List.replicate 6 .car ++ List.replicate 2 .truck &&
        [0, 7].all fun truck => (firstSeq? r truck "Leave").isSome

/-- Vehicles of one class with one route are granted it as they have approached. -/
def firstComeFirstServed : Body :=
  .within 30 <| running {
      vehicles := 24, approaches := .fixed 1, turns := .fixed 0, seed := 7,
      holdUntilArrived := true } <|
    reports fun r =>
      r.completed == 24 && VehicleClass.all.all fun c =>
        ((r.grants.map (·.1)).filter fun v => r.classOf? v == some c) == approached r c

/-! ### Rejections -/

/-- Vehicles with unknown codes are rejected and hold nobody up. -/
def someRejected : Body :=
  .within 30 <| running { vehicles := 40, classes := .cycle [0, 1, 2, 7] } <|
    reports fun r =>
      r.rejected == 10 && r.completed == 30 && (List.range 10).all fun i =>
        match (r.eventsOf (4 * i + 3)).map (·.kind) with
        | [Event.Kind.reject 7 _ _] => true
        | _ => false

/-- A run may reject everybody. -/
def everybodyRejected : Body :=
  .within 30 <| running { vehicles := 5, approaches := .fixed 3 } <|
    reports fun r => r.completed == 0 && r.rejected == 5 && r.grants.isEmpty

/-- A run may have no vehicles. -/
def noVehicles : Body :=
  .within 30 <| running { vehicles := 0 } <|
    reports fun r => r.completed == 0 && r.events.isEmpty

/-! ### Completion -/

/-- The usual configuration lets everybody through. -/
def usualRun : Body := .within 60 <| running {} <| reports fun r => r.completed == 30

/-- Configurations with numbers of vehicles, seeds and hold flags from a stream of words. -/
def drawnConfigs (words : Nat → UInt32) : (count position : Nat) → List Config
  | 0, _ => []
  | count + 1, position =>
    match Draw.below? words 500 position with
    | none => []
    | some (more, position) =>
      let seed := (words position).toUInt64 <<< 32 ||| (words (position + 1)).toUInt64
      { vehicles := more + 1, seed, holdUntilArrived := words (position + 2) % 2 == 0 } ::
        drawnConfigs words count (position + 3)

/-- Whatever the traffic, everybody gets through. -/
def everybodyThrough : Body :=
  .within 300 <| .quietly <| .checking fun c =>
    let configs := drawnConfigs (WordStream.wordAt (WordStream.expand 0x1157)) 8 0
    configs.foldl (fun (c, holds) config =>
      let (c, result) := config.run c
      (c, holds && reports (fun r =>
        r.completed == config.vehicles && r.grants.length == config.vehicles) result))
      (c, configs.length == 8)

/-! ### Faults -/

/-- Whether a problem is a grant that nobody has acknowledged. -/
def isUnacknowledged : RunProblem → Bool
  | .fault (.protocolViolation (.unacknowledgedGrant _)) => true
  | _ => false

/-- The scene of a run in which time runs out before any vehicle moves on after its grant. -/
def hastyRun (config : Config) (c : Console) : Except Fault Report :=
  match config.traffic with
  | .error _ => .error .invalidArgument
  | .ok specs =>
    let e := Scene.ofSpecs (.start config specs.length c) specs
    let impatient (e : Scene) : List Scene.Actor := [.clock] ++ e.members
    (Scene.runWith (impatient e) e.budget e).site.conclude.2

/-- A scheduler that gives up on every grant aborts the run, and every vehicle still ends. -/
def impatientRun : Body := .within 60 <| .quietly <| .checking fun c =>
  (c, (List.range 4).all fun seed =>
    let config : Config := {
      vehicles := 60, seed := UInt64.ofNat seed, grantTimeout := 1, grantRetries := 1 }
    fails (fun fault => isUnacknowledged (.fault fault)) (hastyRun config c))

/-- The first task that panics is the fault of the run. -/
def firstPanic : Body := .quietly <| .checking fun c =>
  let fault : Fault := .taskPanicked (VehicleId.name 0)
  let h := Rehearsal.start { vehicles := 1 } 1 c
  let (h, _) := h.playAll [.panic (VehicleId.name 0)]
  let (h', _) := h.playAll [.panic (VehicleId.name 1)]
  (h'.site.console, h.blockedCalls == 0 && h.site.aborted && h.site.fault == some fault &&
    h'.blockedCalls == 0 && failsWith fault h'.site.conclude.2)

/-- A segment that is still reserved after a run without a fault is a leak. -/
def leftReserved : Body := .quietly <| .checking fun c =>
  let h := Rehearsal.start { vehicles := 0 } 0 c
  let (site, result) := h.site.conclude
  let (h', _) := h.playAll [.reserve 0 (.of .b .left)]
  (site.console, yields 0 (result.map (·.completed)) &&
    failsWith (.protocolViolation (.leakedHold .bc)) h'.site.conclude.2)

/-- The tests of whole runs. -/
def runTests : List (String × Body) := [
  ("scenario::single_vehicle", oneVehicle),
  ("scenario::disjoint_same_pass", onePass),
  ("scenario::overlapping_serialized", oneAfterTheOther),
  ("scenario::lowest_class_served_last", trucksLast),
  ("scenario::fifo_within_class", firstComeFirstServed),
  ("scenario::rejected_vehicles", someRejected),
  ("scenario::all_rejected", everybodyRejected),
  ("scenario::empty_run", noVehicles),
  ("scenario::default_run", usualRun),
  ("scenario::liveness", everybodyThrough),
  ("scenario::unacknowledged_run", impatientRun),
  ("scenario::panicked_task", firstPanic),
  ("scenario::leaked_hold", leftReserved)]

end Junction.SelfTest
