import Junction.Text.Quoted
import Junction.Vehicle

/-!
# Faults

What can go wrong while a run is set up or while vehicles cross. The first fault of a run aborts
the whole run.

## Main definitions

* `Violation` — a breach of the protocol between the scheduler and the vehicles
* `Fault` — a violation, or another cause that ends a run
* `Fault.message`, `Fault.exitCode` — how a fault is written, and the status a run ends with
-/

namespace Junction

/-- A breach of the protocol between the scheduler and the vehicles. -/
inductive Violation where
  /-- A vehicle released a segment that it does not hold. -/
  | releaseNotHeld (segment : Segment) (vehicle : VehicleId)
  /-- A vehicle acquired a segment that is not reserved for it. -/
  | acquireWithoutGrant (segment : Segment) (vehicle : VehicleId)
  /-- A granted vehicle never acknowledged. -/
  | unacknowledgedGrant (vehicle : VehicleId)
  /-- A vehicle entered or acknowledged without holding exactly its route. -/
  | incompleteEntry (vehicle : VehicleId)
  /-- A segment was still held or reserved after every vehicle had finished. -/
  | leakedHold (segment : Segment)
deriving DecidableEq, Repr, Inhabited

/-- What ends a run before its vehicles have crossed. -/
inductive Fault where
  /-- There is no room for the vehicles of the run. -/
  | noMemory
  /-- A class, approach or turn code is unknown. -/
  | invalidArgument
  /-- The configuration of the run is unusable. -/
  | invalidConfiguration (reason : String)
  /-- The protocol between scheduler and vehicles was broken. -/
  | protocolViolation (violation : Violation)
  /-- A task of the run panicked. -/
  | taskPanicked (task : String)
deriving DecidableEq, Repr, Inhabited

/-- The text between the braces of a violation, field by field. -/
def Violation.fields : Violation → String
  | releaseNotHeld s v => s!"segment: {s.label}, vehicle: VehicleId({v})"
  | acquireWithoutGrant s v => s!"segment: {s.label}, vehicle: VehicleId({v})"
  | unacknowledgedGrant v => s!"vehicle: VehicleId({v})"
  | incompleteEntry v => s!"vehicle: VehicleId({v})"
  | leakedHold s => s!"segment: {s.label}"

/-- The kind of a violation. -/
def Violation.kind : Violation → String
  | releaseNotHeld .. => "ReleaseNotHeld"
  | acquireWithoutGrant .. => "AcquireWithoutGrant"
  | unacknowledgedGrant .. => "UnacknowledgedGrant"
  | incompleteEntry .. => "IncompleteEntry"
  | leakedHold .. => "LeakedHold"

/-- A violation as it is written in messages. -/
def Violation.message (v : Violation) : String :=
  v.kind ++ " \x7b " ++ v.fields ++ " \x7d"

namespace Fault

/-- The kind of a fault. -/
def kind : Fault → String
  | noMemory => "NoMemory"
  | invalidArgument => "InvalidArgument"
  | invalidConfiguration _ => "InvalidConfiguration"
  | protocolViolation _ => "ProtocolViolation"
  | taskPanicked _ => "TaskPanicked"

/-- A fault as it is written in messages. -/
def message (f : Fault) : String :=
  match f with
  | noMemory | invalidArgument => f.kind
  | invalidConfiguration reason => s!"{f.kind}({Text.quoted reason})"
  | protocolViolation v => s!"{f.kind}({v.message})"
  | taskPanicked task => s!"{f.kind}({Text.quoted task})"

/-- The exit status of a run that ended with a fault. -/
def exitCode : Fault → Int
  | noMemory => -12
  | invalidArgument => -22
  | invalidConfiguration _ => -22
  | protocolViolation _ => -71
  | taskPanicked _ => -1

end Fault

end Junction
