import Junction.Table

/-!
# Parking

A thread blocks by parking: it issues a handle for itself, leaves the handle where others find it,
and sleeps until somebody unparks the handle. A handle that is unparked before its owner sleeps is
not lost, since every handle has a token that remembers it.

Beside that every thread publishes a state, so that others can see whether it is blocked.

## Main definitions

* `ParkHandle` — one request to be woken
* `Parking` — the tokens and the published states
* `issue`, `unpark`, `resume` — the steps of parking

## Main results

* `isUnparked_unpark` — unparking a handle sets its token and no other
-/

namespace Junction.Sync

/-- The number of a thread. -/
abbrev ThreadId := Nat

/-- What a thread publishes about itself. -/
inductive ThreadState where
  /-- It was woken and has not gone on yet. -/
  | runnable
  /-- It runs. -/
  | running
  /-- It is parked. -/
  | parked
deriving DecidableEq, Repr, Inhabited

/-- The name of a published state. -/
def ThreadState.name : ThreadState → String
  | runnable => "Runnable"
  | running => "Running"
  | parked => "Parked"

/-- One request of a thread to be woken. -/
structure ParkHandle where
  /-- The number of the request; no two requests share one. -/
  id : Nat
  /-- The thread that is to be woken. -/
  owner : ThreadId
deriving DecidableEq, Repr, Inhabited

/-- The tokens of all handles and the published states of all threads. -/
structure Parking where
  /-- How many handles were issued. -/
  issued : Nat := 0
  /-- Whether the handle with a number was unparked. -/
  tokens : Table Bool := {}
  /-- The published state of each thread that is tracked. -/
  states : Table (Option ThreadState) := {}
deriving Inhabited

namespace Parking

/-- Publishes a state of a thread. -/
def publish (p : Parking) (t : ThreadId) (state : ThreadState) : Parking :=
  { p with states := p.states.set t (some state) }

/-- Issues a handle for a thread, which counts as parked from now on. -/
def issue (p : Parking) (t : ThreadId) : Parking × ParkHandle :=
  ({ p.publish t .parked with issued := p.issued + 1 }, ⟨p.issued, t⟩)

/-- Whether a handle was unparked. -/
def isUnparked (p : Parking) (h : ParkHandle) : Bool := p.tokens.get h.id

/-- The first half of unparking: an owner that is published as parked becomes runnable. -/
def ready (p : Parking) (h : ParkHandle) : Parking :=
  if p.states.get h.owner = some .parked then p.publish h.owner .runnable else p

/-- The second half of unparking: the token of the handle is set. -/
def setToken (p : Parking) (h : ParkHandle) : Parking :=
  { p with tokens := p.tokens.set h.id true }

/-- Unparks a handle. -/
def unpark (p : Parking) (h : ParkHandle) : Parking := (p.ready h).setToken h

/-- A thread goes on after it was parked. -/
def resume (p : Parking) (t : ThreadId) : Parking := p.publish t .running

/-- A thread has ended and is no longer tracked. -/
def finish (p : Parking) (t : ThreadId) : Parking := { p with states := p.states.set t none }

theorem tokens_ready (p : Parking) (h : ParkHandle) : (p.ready h).tokens = p.tokens := by
  unfold ready
  split <;> rfl

theorem isUnparked_unpark (p : Parking) (h h' : ParkHandle) :
    (p.unpark h).isUnparked h' = if h'.id = h.id then true else p.isUnparked h' := by
  simp only [isUnparked, unpark, setToken, tokens_ready, Table.get_set]

end Parking

end Junction.Sync
