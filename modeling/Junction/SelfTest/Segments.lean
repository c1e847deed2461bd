import Junction.Grading.Test
import Junction.Rehearsal
import Junction.SelfTest.Expectation

/-!
# Self-tests of the segments

## Main definitions

* `segmentTests` — the tests of this module
-/

namespace Junction.SelfTest

open Grading

/-- A play on the table: operations one after the other. -/
abbrev TablePlay := StateM SegmentTable

namespace TablePlay

/-- Reserves a route. -/
def reserve (v : VehicleId) (r : Route) : TablePlay (Except Violation (Option Ticket)) :=
  modifyGet fun t => (t.reserve v r).swap

/-- Takes a segment if it is free. -/
def tryAcquire (s : Segment) (v : VehicleId) : TablePlay (Except Violation Bool) :=
  modifyGet fun t => (t.tryAcquire s v).swap

/-- Enters with a route. -/
def enter (v : VehicleId) (r : Route) : TablePlay (Except Violation Unit) :=
  modifyGet fun t => (t.enter v r).swap

/-- Releases a route; the segments that were freed come first, each with the reservations at that
moment. -/
def release (v : VehicleId) (r : Route) :
    TablePlay (List (Segment × Trio Segment (Option VehicleId)) × Except Violation Unit) :=
  modifyGet fun t =>
    let ((t, exits), result) := SegmentTable.release
      (fun s (t, exits) => (t, exits ++ [(s, t.ledger.reserved)])) r v (t, [])
    ((exits, result), t)

/-- Looks at the books. -/
def ledger : TablePlay Ledger := return (← get).ledger

/-- The body that plays on an empty table and panics unless the play comes out true. -/
def body (play : TablePlay Bool) : Body := holding fun () => (play.run {}).1

end TablePlay

/-- The route of a vehicle by approach and turn. -/
def routeTable : Body := holding fun () =>
  [Route.of .a .right, .of .a .left, .of .b .right, .of .b .left, .of .c .right, .of .c .left].map
      Route.segments ==
    [[.ab], [.ab, .bc], [.bc], [.bc, .ca], [.ca], [.ab, .ca]]

/-- A free segment is taken, and one that is held is not. -/
def trySegments : Body := TablePlay.body do
  let ab : Route := .single .ab
  let bc : Route := .single .bc
  let tickets := [← TablePlay.reserve 0 ab, ← TablePlay.reserve 1 bc]
  let taken := [← TablePlay.tryAcquire .ab 0, ← TablePlay.tryAcquire .ab 0,
    ← TablePlay.tryAcquire .bc 1]
  let held := (← TablePlay.ledger).held
  let sound := (← TablePlay.ledger).check
  let left := [← TablePlay.release 0 ab, ← TablePlay.release 1 bc]
  let again ← TablePlay.reserve 1 ab
  let retaken ← TablePlay.tryAcquire .ab 1
  let gone ← TablePlay.release 1 ab
  let o := (← TablePlay.ledger).occupancy
  return tickets.map (yields (some ⟨0, ab⟩)) == [true, false] &&
    taken.map (yields true) == [true, false, true] &&
    taken.map (yields false) == [false, true, false] && held == ⟨some 0, some 1, none⟩ &&
    yields () sound && left.all (fun l => yields () l.2) && yields (some ⟨1, ab⟩) again &&
    yields true retaken && yields () gone.2 && o.isClear && o.isBalanced &&
    o.acquires == ⟨2, 1, 0⟩

/-- A segment that is reserved for somebody else or for nobody cannot be taken. -/
def takeUnreserved : Body := TablePlay.body do
  let _ ← TablePlay.reserve 0 (.single .ab)
  let refused := [← TablePlay.tryAcquire .bc 1, ← TablePlay.tryAcquire .ab 1,
    ← TablePlay.tryAcquire .ca 0]
  let l ← TablePlay.ledger
  return (refused.zip [.acquireWithoutGrant .bc 1, .acquireWithoutGrant .ab 1,
      .acquireWithoutGrant .ca 0]).all (fun (result, v) => failsWith v result) &&
    l.occupancy == ⟨.const none, ⟨some 0, none, none⟩, .const 0, .const 0⟩ && yields () l.check

/-- A second claim of the same vehicle waits until the segment is freed, and takes it before the
reservation is dropped. -/
def blockedClaim : Body := holding fun () =>
  let ca : Route := .single .ca
  let (h, _) := (Rehearsal.start {} 0 {}).playAll
    [.reserve 0 ca, .acquire .ca 0, .acquire .ca 0]
  let (h', _) := h.playAll [.release 0 ca false .empty fun _ => []]
  let o' := h'.site.table.ledger.occupancy
  let (h'', _) := h'.playAll [.release 0 ca false .empty fun _ => []]
  let o'' := h''.site.table.ledger.occupancy
  h.blockedCalls == 1 && h.site.table.ledger.acquires == ⟨0, 0, 1⟩ && h'.blockedCalls == 0 &&
    o'.held == ⟨none, none, some 0⟩ && o'.reserved == ⟨none, none, some 0⟩ &&
    yields () h'.site.table.ledger.check && o''.isClear && o''.acquires == ⟨0, 0, 2⟩ &&
    o''.releases == ⟨0, 0, 2⟩

/-- A segment can be released only by its holder. -/
def releaseUnheld : Body := TablePlay.body do
  let bc : Route := .single .bc
  let free ← TablePlay.release 0 bc
  let _ ← TablePlay.reserve 1 bc
  let taken ← TablePlay.tryAcquire .bc 1
  let foreign ← TablePlay.release 0 bc
  let held := (← TablePlay.ledger).held
  let own ← TablePlay.release 1 bc
  let o := (← TablePlay.ledger).occupancy
  return failsWith (.releaseNotHeld .bc 0) free.2 && yields true taken &&
    failsWith (.releaseNotHeld .bc 0) foreign.2 && held == ⟨none, some 1, none⟩ &&
    yields () own.2 && o.isClear

/-- A route that meets a reserved segment is refused as a whole, and a cancelled ticket keeps what
is held already. -/
def reserveRoutes : Body := TablePlay.body do
  let first : Route := .of .a .left
  let ticket ← TablePlay.reserve 0 first
  let refused ← TablePlay.reserve 1 (.of .b .left)
  let before := (← TablePlay.ledger).reserved
  let other ← TablePlay.reserve 2 (.single .ca)
  let between := (← TablePlay.ledger).reserved
  let taken ← TablePlay.tryAcquire .bc 0
  modify (·.cancel ⟨0, first⟩)
  let l ← TablePlay.ledger
  return yields (some ⟨0, first⟩) ticket && yields none refused &&
    before == ⟨some 0, some 0, none⟩ && yields (some ⟨2, .single .ca⟩) other &&
    between == ⟨some 0, some 0, some 2⟩ && yields true taken &&
    l.reserved == ⟨none, some 0, some 2⟩ && yields () l.check && l.leaked? == some .bc

/-- The life of a route in the books. -/
def crossSegments : Body := TablePlay.body do
  let route : Route := .of .c .left
  let _ ← TablePlay.reserve 0 route
  let early ← TablePlay.enter 0 route
  let taken := [← TablePlay.tryAcquire .ab 0, ← TablePlay.tryAcquire .ca 0]
  let sound := (← TablePlay.ledger).check
  let entry ← TablePlay.enter 0 route
  let entered := [(← get).hasEntered 0, (← get).hasEntered 1]
  let leaked := (← TablePlay.ledger).leaked?
  let (exits, result) ← TablePlay.release 0 route
  let cleared := (← TablePlay.ledger).leaked?
  let next ← TablePlay.reserve 1 .full
  let kept : Trio Segment (Option VehicleId) := ⟨some 0, none, some 0⟩
  return failsWith (.incompleteEntry 0) early && taken.all (yields true) && yields () sound &&
    yields () entry && entered == [true, false] && leaked == some .ab && yields () result &&
    exits == [(.ab, kept), (.ca, kept)] && cleared == none && yields (some ⟨1, .full⟩) next

/-- The tests of the segments. -/
def segmentTests : List (String × Body) := [
  ("segment::route_table", routeTable),
  ("segment::try_acquire", trySegments),
  ("segment::acquire_without_reservation", takeUnreserved),
  ("segment::acquire_blocks_until_release", blockedClaim),
  ("segment::release_not_held", releaseUnheld),
  ("segment::reserve", reserveRoutes),
  ("segment::enter_and_release", crossSegments)]

end Junction.SelfTest
