import Junction.Grading.Test
import Junction.SelfTest.Expectation
import Junction.WaitingQueue

/-!
# Self-tests of the queue

## Main definitions

* `queueTests` — the tests of this module
-/

namespace Junction.SelfTest

open Grading

/-- A queue in whose waiting zones vehicles have arrived in a certain order. -/
def queueOf (specs : List VehicleSpec) : WaitingQueue :=
  (specs.filterMap fun spec => Vehicle.ofSpec? spec 0).foldl WaitingQueue.enqueue {}

/-- Lets in vehicles until none of them lies in what is left of a route; the numbers of the vehicles
come in order. -/
def letInWithin : Nat → WaitingQueue → Route → WaitingQueue × List VehicleId
  | 0, q, _ => (q, [])
  | limit + 1, q, free =>
    let fits (v : Vehicle) (u : Unit) := (if free.covers v.route then some v.route else none, u)
    match q.admitFirst fits () with
    | (q, none, _) => (q, [])
    | (q, some (v, r), _) =>
      let (q, others) := letInWithin limit q (free.diff r)
      (q, v.id :: others)

/-- Lets in everybody; the numbers of the vehicles come in order. -/
def letInAll : Nat → WaitingQueue → WaitingQueue × List VehicleId
  | 0, q => (q, [])
  | limit + 1, q =>
    match q.admitFirst (fun v u => (some v.id, u)) () with
    | (q, none, _) => (q, [])
    | (q, some (_, id), _) =>
      let (q, others) := letInAll limit q
      (q, id :: others)

/-- Vehicles of one class are let in as they have arrived. -/
def arrivalOrder : Body := holding fun () =>
  let q := queueOf <| (List.range 5).map fun i => ⟨i, 1, UInt8.ofNat (i % 3), 0⟩
  let (q', moved) := q.consume
  let (q'', order) := letInAll q'.size q'
  q.size == 5 && q.levelSize .car == 0 && moved == 5 && q'.levelSize .car == 5 &&
    order == [0, 1, 2, 3, 4] && q''.isEmpty

/-- Ambulances are let in before cars, and cars before trucks. -/
def classOrder : Body := holding fun () =>
  let q := queueOf [⟨0, 2, 0, 0⟩, ⟨1, 1, 1, 0⟩, ⟨2, 0, 2, 0⟩, ⟨3, 1, 0, 0⟩, ⟨4, 0, 1, 0⟩]
  (letInAll q.size q.consume.1).2 == [2, 4, 1, 3, 0]

/-- A vehicle whose route is taken keeps its place, and others go first. -/
def skipTaken : Body := holding fun () =>
  let q := (queueOf [⟨0, 0, 0, 1⟩, ⟨1, 1, 2, 0⟩, ⟨2, 2, 1, 0⟩]).consume.1
  let (q, first) := letInWithin 3 q (.of .c .left)
  let sizes := [q.levelSize .ambulance, q.levelSize .truck]
  let (q, second) := letInWithin 3 q .full
  let (q, third) := letInWithin 3 q .full
  first == [1] && sizes == [1, 1] && second == [0] && third == [2] && q.isEmpty

/-- Whoever waits can be removed, also from the waiting zones. -/
def removeAll : Body := holding fun () =>
  let q := (queueOf [⟨0, 0, 0, 0⟩]).consume.1
  let late := (Vehicle.ofSpec? ⟨1, 2, 1, 1⟩ 0).toList
  let (q, removed) := (late.foldl WaitingQueue.enqueue q).drain
  removed.map (·.id) == [0, 1] && q.isEmpty

/-- The tests of the queue. -/
def queueTests : List (String × Body) := [
  ("mlq::fifo_within_class", arrivalOrder),
  ("mlq::class_priority", classOrder),
  ("mlq::skip_blocked", skipTaken),
  ("mlq::drain", removeAll)]

end Junction.SelfTest
