import Junction.Ledger

/-!
# The table of the segments

The table holds, for each segment, a slot with its current holder, and the ledger. A slot and the
ledger have a lock each; what happens under the locks is one step, and every operation of the table
is one such step or a short sequence of them.

An operation may fail after it has written: the check of the ledger comes last, and what was written
stays. So an operation returns the changed table in any case, and beside it its result.

## Main definitions

* `SegmentTable` — the slots and the ledger
* `reserve`, `enter`, `cancel` — operations of one step
* `take` — the step in which a free segment gets its holder
* `tryAcquire` — takes a segment without waiting
* `depart`, `vacate`, `unreserve` — the steps of a release
* `release` — the whole release, with a callback after each freed segment
-/

universe u

namespace Junction

/-- The scheduler's record of a grant: the route stays reserved until the vehicle releases it. -/
structure Ticket where
  /-- The granted vehicle. -/
  vehicle : VehicleId
  /-- The reserved route. -/
  route : Route
deriving DecidableEq, Repr, Inhabited

/-- The three segments with their ledger. -/
structure SegmentTable where
  /-- The holder in the slot of each segment. -/
  holders : Trio Segment (Option VehicleId) := .const none
  /-- The books. -/
  ledger : Ledger := {}
deriving DecidableEq, Inhabited

namespace SegmentTable

/-- Reserves a whole route for a vehicle if no segment of it is reserved; otherwise there is no
ticket. -/
def reserve (t : SegmentTable) (v : VehicleId) (r : Route) :
    SegmentTable × Except Violation (Option Ticket) :=
  if t.ledger.unreserved r then
    -- The marks stay even if the check fails.
    let ledger := t.ledger.reserve v r
    ({ t with ledger }, ledger.check.map fun _ => some ⟨v, r⟩)
  else (t, .ok none)

/-- Whether a segment is reserved for a vehicle. -/
def granted (t : SegmentTable) (s : Segment) (v : VehicleId) : Bool :=
  t.ledger.reserved.get s == some v

/-- Gives a free segment to a vehicle for which it is reserved. There is no result if the segment
has a holder already. -/
def take (t : SegmentTable) (s : Segment) (v : VehicleId) :
    SegmentTable × Option (Except Violation Unit) :=
  match t.holders.get s with
  | some _ => (t, none)
  | none =>
    if t.granted s v then
      let ledger := t.ledger.acquire s v
      (⟨t.holders.set s (some v), ledger⟩, some ledger.check)
    else (t, some (.error (.acquireWithoutGrant s v)))

/-- Takes a segment for a vehicle if it is free, and tells whether it was. -/
def tryAcquire (t : SegmentTable) (s : Segment) (v : VehicleId) :
    SegmentTable × Except Violation Bool :=
  if t.granted s v then
    match t.take s v with
    | (t, none) => (t, .ok false)
    | (t, some result) => (t, result.map fun _ => true)
  else (t, .error (.acquireWithoutGrant s v))

/-- Marks a vehicle as inside on a route of which it holds every segment. -/
def enter (t : SegmentTable) (v : VehicleId) (r : Route) : SegmentTable × Except Violation Unit :=
  if r.segments.all fun s => t.ledger.held.get s == some v then
    let ledger := t.ledger.enter v r
    ({ t with ledger }, ledger.check)
  else (t, .error (.incompleteEntry v))

/-- Whether a vehicle has ever been marked as inside. -/
def hasEntered (t : SegmentTable) (v : VehicleId) : Bool := t.ledger.entered.contains v

/-! ### Release -/

/-- The first step of a release: the vehicle is no longer inside. -/
def depart (t : SegmentTable) (v : VehicleId) : SegmentTable :=
  { t with ledger := t.ledger.leave v }

/-- The step of a release that frees one segment, which the vehicle must hold. -/
def vacate (t : SegmentTable) (s : Segment) (v : VehicleId) :
    SegmentTable × Except Violation Unit :=
  if t.holders.get s = some v then
    (⟨t.holders.set s none, t.ledger.free s⟩, .ok ())
  else (t, .error (.releaseNotHeld s v))

/-- The last step of a release: the reservations of the vehicle along the route are dropped. -/
def unreserve (t : SegmentTable) (v : VehicleId) (r : Route) :
    SegmentTable × Except Violation Unit :=
  let ledger := t.ledger.unreserve v r
  ({ t with ledger }, ledger.check)

section Callback

variable {σ : Type u} (onRelease : Segment → SegmentTable × σ → SegmentTable × σ)

/-- Frees segments one after the other, with the callback after each; stops at the first one that
the vehicle does not hold. -/
def vacateEach (v : VehicleId) :
    List Segment → SegmentTable × σ → (SegmentTable × σ) × Except Violation Unit
  | [], state => (state, .ok ())
  | s :: rest, (t, a) =>
    match t.vacate s v with
    -- What the callback does to the table counts for the segments after this one.
    | (t, .ok ()) => vacateEach v rest (onRelease s (t, a))
    | (t, .error violation) => ((t, a), .error violation)

/-- Releases every segment of a route held by a vehicle and then drops the reservations along the
route. The callback runs after each freed segment and may itself work on the table. -/
def release (r : Route) (v : VehicleId) (state : SegmentTable × σ) :
    (SegmentTable × σ) × Except Violation Unit :=
  match vacateEach onRelease v r.segments (state.1.depart v, state.2) with
  | ((t, a), .ok ()) =>
    let (t, result) := t.unreserve v r
    ((t, a), result)
  | (state, .error violation) => (state, .error violation)

end Callback

/-- Drops the reservation of a grant that was never taken. -/
def cancel (t : SegmentTable) (ticket : Ticket) : SegmentTable :=
  { t with ledger := t.ledger.unreserve ticket.vehicle ticket.route }

end SegmentTable

end Junction
