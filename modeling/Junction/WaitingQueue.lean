import Junction.Vehicle

/-!
# The queue of waiting vehicles

There is one queue per class. A vehicle that arrives puts itself into the waiting zone of its class;
the scheduler moves the zone into the level of the class when it starts a scan. It serves the levels
in the order of the classes, and each level in the order of arrival.

## Main definitions

* `WaitingQueue` — zone and level of each class
* `enqueue`, `gather`, `consume` — arrival, and the moves from the zone into the levels
* `firstFit`, `admitFirst` — the scan for the first vehicle that fits
* `drainLevel`, `drain` — removal of all
-/

universe u v

namespace Junction

/-- The vehicles that wait, class by class, each list in the order of arrival. -/
structure WaitingQueue where
  /-- The vehicles that have arrived since the scheduler last moved their class. -/
  zone : Trio VehicleClass (List Vehicle) := .const []
  /-- The vehicles that the scheduler considers. -/
  levels : Trio VehicleClass (List Vehicle) := .const []
deriving DecidableEq, Repr, Inhabited

namespace WaitingQueue

/-- Puts a vehicle into the waiting zone of its class. -/
def enqueue (q : WaitingQueue) (v : Vehicle) : WaitingQueue :=
  { q with zone := q.zone.set v.vclass (q.zone.get v.vclass ++ [v]) }

/-- Moves the waiting zone of a class to the back of its level. -/
def gather (q : WaitingQueue) (c : VehicleClass) : WaitingQueue where
  zone := q.zone.set c []
  levels := q.levels.set c (q.levels.get c ++ q.zone.get c)

/-- Moves every waiting zone, and tells how many vehicles were moved. -/
def consume (q : WaitingQueue) : WaitingQueue × Nat :=
  (VehicleClass.all.foldl gather q, q.zone.toList.flatten.length)

section Scan

variable {σ : Type u} {ρ : Type v} (fits : Vehicle → σ → Option ρ × σ)

/-- The first vehicle of a list that fits, with the answer for it and the list without it. Each
vehicle is asked about once, in order, and none after the one that fits; the answers may depend on
the earlier ones through the state. -/
def firstFit : List Vehicle → σ → Option (Vehicle × ρ × List Vehicle) × σ
  | [], a => (none, a)
  | v :: rest, a =>
    match fits v a with
    | (some r, a) => (some (v, r, rest), a)
    | (none, a) =>
      match firstFit rest a with
      | (some (w, r, others), a) => (some (w, r, v :: others), a)
      | (none, a) => (none, a)

/-- Scans the levels of the given classes in turn. -/
def admitAmong (q : WaitingQueue) : List VehicleClass → σ → WaitingQueue × Option (Vehicle × ρ) × σ
  | [], a => (q, none, a)
  | c :: classes, a =>
    match firstFit fits (q.levels.get c) a with
    | (some (v, r, others), a) => ({ q with levels := q.levels.set c others }, some (v, r), a)
    | (none, a) => q.admitAmong classes a

/-- Removes the first vehicle that fits, in the order of the classes and of arrival within a
class. -/
def admitFirst (q : WaitingQueue) (a : σ) : WaitingQueue × Option (Vehicle × ρ) × σ :=
  q.admitAmong fits VehicleClass.all a

end Scan

/-- Removes every vehicle of a level. -/
def drainLevel (q : WaitingQueue) (c : VehicleClass) : WaitingQueue × List Vehicle :=
  ({ q with levels := q.levels.set c [] }, q.levels.get c)

/-- Removes every vehicle, those in the waiting zones too. -/
def drain (q : WaitingQueue) : WaitingQueue × List Vehicle :=
  let (q, _) := q.consume
  VehicleClass.all.foldl
    (fun (q, drained) c =>
      let (q, more) := q.drainLevel c
      (q, drained ++ more))
    (q, [])

/-- The number of vehicles in the level of a class. -/
def levelSize (q : WaitingQueue) (c : VehicleClass) : Nat := (q.levels.get c).length

/-- The number of vehicles that wait, in the zones and in the levels. -/
def size (q : WaitingQueue) : Nat :=
  q.zone.toList.flatten.length + q.levels.toList.flatten.length

/-- Whether no vehicle waits. -/
def isEmpty (q : WaitingQueue) : Bool := q.size == 0

end WaitingQueue

end Junction
