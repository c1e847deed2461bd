import Junction.Segment

/-!
# Vehicles

A vehicle has a class, comes from an approach and takes a turn. Approach and turn fix the segments
it crosses:

| Approach | Right turn | Left turn |
|----------|------------|-----------|
| A        | {AB}       | {AB, BC}  |
| B        | {BC}       | {BC, CA}  |
| C        | {CA}       | {CA, AB}  |

## Main definitions

* `VehicleClass`, `Approach`, `Turn` — what describes a vehicle, each with its raw codes
* `VehicleSpec` — a vehicle described by raw codes that nobody has checked yet
* `Vehicle`, `Vehicle.ofSpec?` — a vehicle whose codes are all known
* `Vehicle.route` — the segments that a vehicle crosses

## Main results

* `ofSpec?_isSome_iff` — a description is accepted exactly when its three codes are in range
-/

namespace Junction

/-- The number of a vehicle, unique within a run. -/
abbrev VehicleId := Nat

/-- The priority class of a vehicle; the classes are listed from the most urgent one on. -/
inductive VehicleClass where
  /-- The highest priority. -/
  | ambulance
  /-- The standard priority. -/
  | car
  /-- The lowest priority. -/
  | truck
deriving DecidableEq, Repr, Inhabited

namespace VehicleClass

instance : Threefold VehicleClass where
  position
    | ambulance => Threefold.first
    | car => Threefold.second
    | truck => Threefold.third
  member
    | 0 => ambulance
    | 1 => car
    | 2 => truck
  member_position c := by cases c <;> rfl
  position_member p := by
    match p with
    | 0 => rfl
    | 1 => rfl
    | 2 => rfl

/-- All classes, the most urgent one first. -/
def all : List VehicleClass := [ambulance, car, truck]

/-- The class with a code. -/
def ofCode? (code : UInt8) : Option VehicleClass :=
  match code.toNat with
  | 0 => some ambulance
  | 1 => some car
  | 2 => some truck
  | _ => none

/-- The rank of a class among the queues, `0` being served first. -/
def level : VehicleClass → Nat
  | ambulance => 0
  | car => 1
  | truck => 2

/-- The name of a class. -/
def name : VehicleClass → String
  | ambulance => "Ambulance"
  | car => "Car"
  | truck => "Truck"

/-- The class served after a class, if there is one. -/
def next? : VehicleClass → Option VehicleClass
  | ambulance => some car
  | car => some truck
  | truck => none

@[simp] theorem mem_all (c : VehicleClass) : c ∈ all := by cases c <;> simp [all]

end VehicleClass

/-- One of the three roads that lead to the junction. -/
inductive Approach where
  /-- The road next to segment AB. -/
  | a
  /-- The road next to segment BC. -/
  | b
  /-- The road next to segment CA. -/
  | c
deriving DecidableEq, Repr, Inhabited

namespace Approach

/-- The approach with a code. -/
def ofCode? (code : UInt8) : Option Approach :=
  match code.toNat with
  | 0 => some a
  | 1 => some b
  | 2 => some c
  | _ => none

/-- The name of an approach. -/
def name : Approach → String
  | a => "A"
  | b => "B"
  | c => "C"

/-- The segment next to an approach. -/
def segment : Approach → Segment
  | a => .ab
  | b => .bc
  | c => .ca

end Approach

/-- The turn that a vehicle takes. -/
inductive Turn where
  /-- The short turn over one segment. -/
  | right
  /-- The long turn over two adjacent segments. -/
  | left
deriving DecidableEq, Repr, Inhabited

namespace Turn

/-- The turn with a code. -/
def ofCode? (code : UInt8) : Option Turn :=
  match code.toNat with
  | 0 => some right
  | 1 => some left
  | _ => none

/-- The name of a turn. -/
def name : Turn → String
  | right => "Right"
  | left => "Left"

end Turn

/-- The segments crossed when coming from an approach and taking a turn. -/
def Route.of (approach : Approach) : Turn → Route
  | .right => .single approach.segment
  | .left => (Route.single approach.segment).union (.single approach.segment.next)

/-- A vehicle as it is drawn for a run: three raw codes, any of which may be unknown. -/
structure VehicleSpec where
  /-- The number of the vehicle. -/
  id : VehicleId
  /-- The raw code of its class. -/
  vclass : UInt8
  /-- The raw code of its approach. -/
  approach : UInt8
  /-- The raw code of its turn. -/
  turn : UInt8
deriving DecidableEq, Repr, Inhabited

/-- A vehicle that waits for the junction or crosses it. -/
structure Vehicle where
  /-- The number of the vehicle. -/
  id : VehicleId
  /-- Its priority class. -/
  vclass : VehicleClass
  /-- The approach it comes from. -/
  approach : Approach
  /-- The turn it takes. -/
  turn : Turn
  /-- The number of its private wake channel. -/
  channel : Nat
deriving DecidableEq, Repr, Inhabited

/-- The name of a vehicle in events and messages. -/
def VehicleId.name (id : VehicleId) : String := s!"vehicle {id}"

namespace Vehicle

/-- The segments that a vehicle crosses. -/
def route (v : Vehicle) : Route := .of v.approach v.turn

/-- The vehicle that a description stands for, woken through the given channel; a description with
an unknown code stands for none. -/
def ofSpec? (spec : VehicleSpec) (channel : Nat) : Option Vehicle := do
  let vclass ← VehicleClass.ofCode? spec.vclass
  let approach ← Approach.ofCode? spec.approach
  let turn ← Turn.ofCode? spec.turn
  return ⟨spec.id, vclass, approach, turn, channel⟩

end Vehicle

/-! ### Which codes are known -/

theorem VehicleClass.ofCode?_isSome_iff (code : UInt8) :
    (VehicleClass.ofCode? code).isSome ↔ code.toNat < 3 := by
  unfold VehicleClass.ofCode?
  generalize code.toNat = n
  match n with
  | 0 | 1 | 2 => simp
  | n + 3 => simp

theorem Approach.ofCode?_isSome_iff (code : UInt8) :
    (Approach.ofCode? code).isSome ↔ code.toNat < 3 := by
  unfold Approach.ofCode?
  generalize code.toNat = n
  match n with
  | 0 | 1 | 2 => simp
  | n + 3 => simp

theorem Turn.ofCode?_isSome_iff (code : UInt8) :
    (Turn.ofCode? code).isSome ↔ code.toNat < 2 := by
  unfold Turn.ofCode?
  generalize code.toNat = n
  match n with
  | 0 | 1 => simp
  | n + 2 => simp

theorem Vehicle.ofSpec?_isSome_iff (spec : VehicleSpec) (channel : Nat) :
    (Vehicle.ofSpec? spec channel).isSome ↔
      spec.vclass.toNat < 3 ∧ spec.approach.toNat < 3 ∧ spec.turn.toNat < 2 := by
  rw [← VehicleClass.ofCode?_isSome_iff, ← Approach.ofCode?_isSome_iff,
    ← Turn.ofCode?_isSome_iff]
  cases hc : VehicleClass.ofCode? spec.vclass <;>
    cases ha : Approach.ofCode? spec.approach <;>
    cases ht : Turn.ofCode? spec.turn <;>
    simp [Vehicle.ofSpec?, hc, ha, ht]

end Junction
