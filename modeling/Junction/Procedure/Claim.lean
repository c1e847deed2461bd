import Junction.Procedure.Progress

/-!
# Claims

A vehicle claims the segments of its route one by one. A claim fails if the segment is not reserved
for the vehicle, and waits as long as the segment has a holder.

## Main definitions

* `Claim` — where a claim stands
* `Claim.step` — its next step
-/

namespace Junction

/-- Where a claim of a segment stands. -/
inductive Claim where
  /-- Before the look at the reservation. -/
  | check
  /-- Before the first try. -/
  | attempt
  /-- Waiting until the segment is free. -/
  | wait
deriving DecidableEq, Repr, Inhabited

/-- A step of the claim of a segment by a vehicle. -/
def Claim.step (s : Segment) (v : VehicleId) (x : Site) :
    Claim → Progress Claim (Except Violation Unit)
  | check =>
    if x.table.granted s v then .next x attempt else .done x (.error (.acquireWithoutGrant s v))
  | attempt =>
    match x.table.take s v with
    | (table, none) => .next (x.withTable table) wait
    | (table, some result) => .done (x.withTable table) result
  | wait =>
    match x.table.take s v with
    | (_, none) => .blocked
    | (table, some result) => .done (x.withTable table) result

end Junction
