import Junction.Grading.Test
import Junction.SelfTest.Expectation
import Junction.Traffic

/-!
# Self-tests of configurations and traffic

## Main definitions

* `configTests` — the tests of this module
-/

namespace Junction.SelfTest

open Grading

/-- The usual configuration can be used as it is. -/
def usualConfig : Body := holding fun () =>
  let c : Config := {}
  c.vehicles == 30 && c.classes == .uniform && !c.holdUntilArrived && !c.verbose &&
    yields () c.validate && yields c c.build

/-- Whether a fault is about the configuration. -/
def isAboutConfig : Fault → Bool
  | .invalidConfiguration _ => true
  | _ => false

/-- Unusable configurations are refused; no vehicle at all is no problem. -/
def unusableConfigs : Body := holding fun () =>
  let unusable : List Config := [
    { classes := .cycle [] },
    { approaches := .weighted [] },
    { turns := .weighted [0, 0] },
    { classes := .weighted (List.replicate 300 1) },
    { grantRetries := 0 },
    { grantTimeout := 0 }]
  let empty : Config := { vehicles := 0 }
  unusable.all (fun c => fails isAboutConfig c.build) && yields empty empty.build

/-- Fields that are fixed or cycle are what they say, and a weight of zero is never drawn. -/
def plannedTraffic : Body := holding fun () =>
  let c : Config := {
    vehicles := 6, classes := .fixed 1, approaches := .cycle [2, 0], turns := .weighted [0, 1] }
  yields ((List.range 6).map fun i => ⟨i, 1, if i % 2 = 0 then 2 else 0, 1⟩) c.traffic

/-- The traffic of two hundred vehicles with a seed. -/
def trafficOf (seed : UInt64) : List VehicleSpec :=
  let c : Config := { vehicles := 200, seed }
  match c.traffic with
  | .ok specs => specs
  | .error _ => []

/-- The seed decides the traffic, and uniform codes are valid. -/
def seededTraffic : Body := holding fun () =>
  let specs := trafficOf 42
  specs.length == 200 && specs.all (fun s => s.vclass < 3 && s.approach < 3 && s.turn < 2) &&
    specs != trafficOf 43

/-- Every kind of fault has its exit code. -/
def exitCodes : Body := holding fun () =>
  [Fault.noMemory, .invalidArgument, .protocolViolation (.leakedHold .bc),
    .taskPanicked (VehicleId.name 1)].map Fault.exitCode == [-12, -22, -71, -1]

/-- The tests of configurations and traffic. -/
def configTests : List (String × Body) := [
  ("config::defaults", usualConfig),
  ("config::invalid", unusableConfigs),
  ("config::traffic", plannedTraffic),
  ("config::seeded_traffic", seededTraffic),
  ("config::exit_codes", exitCodes)]

end Junction.SelfTest
