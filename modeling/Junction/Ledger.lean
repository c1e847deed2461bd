import Junction.Fault
import Junction.Roster

/-!
# The ledger of the segments

Beside the segments themselves the junction keeps a ledger: for which vehicle a segment is
reserved, which vehicle holds it, how often it was acquired and released, and which vehicles are
inside with which route.

A reservation is the scheduler's provisional mark. A segment is reserved before it is held and
unreserved only after it was released.

## Main definitions

* `Ledger` — the books
* `Ledger.heldProblem?`, `Ledger.entryProblem?`, `Ledger.problem?` — what is wrong with them, if
  anything
* `Ledger.check`, `Ledger.Consistent` — the check as a result and as a proposition
* `Occupancy` — a snapshot for reports
-/

namespace Junction

/-- A snapshot of the holders, the reservations and the counters. -/
structure Occupancy where
  /-- The holder of each segment. -/
  held : Trio Segment (Option VehicleId)
  /-- The vehicle for which each segment is reserved. -/
  reserved : Trio Segment (Option VehicleId)
  /-- How often each segment was acquired. -/
  acquires : Trio Segment Nat
  /-- How often each segment was released. -/
  releases : Trio Segment Nat
deriving DecidableEq, Repr, Inhabited

namespace Occupancy

/-- The holder of a segment. -/
def holder (o : Occupancy) (s : Segment) : Option VehicleId := o.held.get s

/-- Whether every segment is free and unreserved. -/
def isClear (o : Occupancy) : Bool :=
  o.held.toList.all Option.isNone && o.reserved.toList.all Option.isNone

/-- Whether every acquisition was matched by a release. -/
def isBalanced (o : Occupancy) : Bool := o.acquires == o.releases

end Occupancy

/-- The books of the junction. -/
structure Ledger where
  /-- The vehicle for which each segment is reserved. -/
  reserved : Trio Segment (Option VehicleId) := .const none
  /-- The vehicle that holds each segment. -/
  held : Trio Segment (Option VehicleId) := .const none
  /-- How often each segment was acquired. -/
  acquires : Trio Segment Nat := .const 0
  /-- How often each segment was released. -/
  releases : Trio Segment Nat := .const 0
  /-- The vehicles inside the junction, with their routes. -/
  inside : Roster Route := .empty
  /-- The vehicles that have ever been inside. -/
  entered : Roster Unit := .empty
deriving DecidableEq, Inhabited

namespace Ledger

/-! ### The check -/

/-- What is wrong with the holder of a segment: the segment is not reserved for it, or it is inside
with a route that leaves the segment out. -/
def heldProblem? (l : Ledger) (s : Segment) : Option Violation :=
  match l.held.get s with
  | none => none
  | some v =>
    if l.reserved.get s = some v then
      match l.inside.get? v with
      | some r => if s ∈ r then none else some (.incompleteEntry v)
      -- A vehicle that is still gathering its route is not inside yet.
      | none => none
    else some (.acquireWithoutGrant s v)

/-- Whether a vehicle holds a segment that is reserved for it. -/
def owns (l : Ledger) (v : VehicleId) (s : Segment) : Bool :=
  l.held.get s == some v && l.reserved.get s == some v

/-- What is wrong with the vehicles inside, the segments in `covered` being taken by earlier ones:
a route meets a covered segment, or the vehicle does not own the whole route. -/
def entryProblem? (l : Ledger) (covered : Route) : List (VehicleId × Route) → Option Violation
  | [] => none
  | (v, r) :: rest =>
    if covered.intersects r || r.segments.any (fun s => !l.owns v s) then
      some (.incompleteEntry v)
    else l.entryProblem? (covered.union r) rest

/-- The first thing wrong: with the holders in cycle order, then with the vehicles inside in the
order of their numbers. -/
def problem? (l : Ledger) : Option Violation :=
  (Segment.all.findSome? l.heldProblem?).or (l.entryProblem? .empty l.inside.entries)

/-- Every held segment is reserved for its holder, and a vehicle inside holds exactly its route. -/
def check (l : Ledger) : Except Violation Unit :=
  match l.problem? with
  | none => .ok ()
  | some violation => .error violation

/-- The check passes. -/
def Consistent (l : Ledger) : Prop := l.problem? = none

instance (l : Ledger) : Decidable l.Consistent := inferInstanceAs (Decidable (_ = _))

theorem check_eq_ok_iff {l : Ledger} : l.check = .ok () ↔ l.Consistent := by
  unfold check Consistent
  cases l.problem? <;> simp

/-! ### Entries -/

/-- Whether no segment of a route is reserved. -/
def unreserved (l : Ledger) (r : Route) : Bool :=
  r.segments.all fun s => (l.reserved.get s).isNone

/-- Reserves every segment of a route for a vehicle. -/
def reserve (l : Ledger) (v : VehicleId) (r : Route) : Ledger :=
  { l with reserved := r.segments.foldl (fun marks s => marks.set s (some v)) l.reserved }

/-- Books that a vehicle took a segment. -/
def acquire (l : Ledger) (s : Segment) (v : VehicleId) : Ledger :=
  { l with
    held := l.held.set s (some v)
    acquires := l.acquires.set s (l.acquires.get s + 1) }

/-- Books that a segment was freed. -/
def free (l : Ledger) (s : Segment) : Ledger :=
  { l with
    held := l.held.set s none
    releases := l.releases.set s (l.releases.get s + 1) }

/-- Books that a vehicle is inside with a route. -/
def enter (l : Ledger) (v : VehicleId) (r : Route) : Ledger :=
  { l with inside := l.inside.insert v r, entered := l.entered.insert v () }

/-- Books that a vehicle is no longer inside. -/
def leave (l : Ledger) (v : VehicleId) : Ledger := { l with inside := l.inside.erase v }

/-- Drops the reservation of a segment for a vehicle, unless the segment is held. -/
def drop (l : Ledger) (v : VehicleId) (s : Segment) : Ledger :=
  if l.reserved.get s = some v ∧ l.held.get s = none then
    { l with reserved := l.reserved.set s none }
  else l

/-- Drops the reservations of a vehicle along a route. -/
def unreserve (l : Ledger) (v : VehicleId) (r : Route) : Ledger :=
  r.segments.foldl (fun l s => l.drop v s) l

/-! ### Questions -/

/-- The first segment that is held or reserved. -/
def leaked? (l : Ledger) : Option Segment :=
  Segment.all.find? fun s => (l.held.get s).isSome || (l.reserved.get s).isSome

/-- The snapshot of the ledger. -/
def occupancy (l : Ledger) : Occupancy := ⟨l.held, l.reserved, l.acquires, l.releases⟩

end Ledger

end Junction
