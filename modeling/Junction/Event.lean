import Junction.Fault

/-!
# The event log

Every vehicle leaves a trail of events in the log of its run.

## Main definitions

* `Event.Kind` — what happened to a vehicle
* `Event` — an entry of the log: its position, the vehicle and what happened
* `Event.text` — an entry as it is written
-/

namespace Junction

/-- What happened to a vehicle. -/
inductive Event.Kind where
  /-- The vehicle arrived and joined the queue. -/
  | approach (vclass : VehicleClass) (approach : Approach) (turn : Turn)
  /-- The vehicle had an unknown code and never joined the queue. -/
  | reject (vclass approach turn : UInt8)
  /-- The scheduler granted the route, in the given pass. -/
  | grant (route : Route) (pass : Nat)
  /-- The vehicle acquired a segment. -/
  | enter (segment : Segment)
  /-- The vehicle crossed the junction. -/
  | cross
  /-- The vehicle released a segment. -/
  | exit (segment : Segment)
  /-- The vehicle left the junction. -/
  | leave
deriving DecidableEq, Repr, Inhabited

/-- The name of what happened. -/
def Event.Kind.name : Event.Kind → String
  | approach .. => "Approach"
  | reject .. => "Reject"
  | grant .. => "Grant"
  | enter _ => "Enter"
  | cross => "Cross"
  | exit _ => "Exit"
  | leave => "Leave"

/-- What happened, in words. -/
def Event.Kind.text : Event.Kind → String
  | approach c origin t => s!"{c.name} approaches from {origin.name}, turning {t.name}"
  | reject c origin t => s!"rejected ({c}, {origin}, {t})"
  | grant r pass => s!"granted {r.text} in pass {pass}"
  | enter s => s!"enters {s.name}"
  | cross => "crosses"
  | exit s => s!"exits {s.name}"
  | leave => "leaves"

/-- An entry of the event log. -/
structure Event where
  /-- The position of the entry in the log. -/
  seq : Nat
  /-- The vehicle concerned. -/
  vehicle : VehicleId
  /-- What happened to it. -/
  kind : Event.Kind
deriving DecidableEq, Repr, Inhabited

/-- An entry as it is written: its number, the vehicle and what happened. -/
def Event.text (e : Event) : String :=
  s!"#{Text.leftAligned 5 (toString e.seq)} {e.vehicle.name}: {e.kind.text}"

end Junction
