import Junction.Sync.Parking

/-!
# Mutexes

A mutex protects one value. A thread that finds it locked parks at the end of a list of waiters, and
a release hands the lock to the first waiter directly, without unlocking in between. So waiters
become owners in the order in which they came.

## Main definitions

* `Mutex` — the value, the lock and the waiters
* `Mutex.lock`, `Mutex.tryLock`, `Mutex.release` — the steps under the mutex's own short lock
-/

namespace Junction.Sync

/-- A value under a lock. -/
structure Mutex where
  /-- The protected value. -/
  value : Int := 0
  /-- Whether some thread has the lock or was handed it. -/
  locked : Bool := false
  /-- The thread that has the lock or was handed it. -/
  holder : Option ThreadId := none
  /-- The handles of the threads that wait for the lock, the longest waiting one first. -/
  waiters : List ParkHandle := []
deriving DecidableEq, Repr, Inhabited

namespace Mutex

/-- A thread takes the lock, or joins the waiters with a new handle. -/
def lock (m : Mutex) (t : ThreadId) (p : Parking) : Mutex × Parking × Option ParkHandle :=
  if m.locked then
    let (p, h) := p.issue t
    ({ m with waiters := m.waiters ++ [h] }, p, some h)
  else ({ m with locked := true, holder := some t }, p, none)

/-- A thread takes the lock if it is free; there is no new mutex if it is not. -/
def tryLock (m : Mutex) (t : ThreadId) : Option Mutex :=
  if m.locked then none else some { m with locked := true, holder := some t }

/-- Whether a thread has the lock or was handed it. -/
def isHeldBy (m : Mutex) (t : ThreadId) : Bool := m.holder == some t

/-- Hands the lock to the first waiter, whose handle is then to be unparked, or unlocks. -/
def release (m : Mutex) : Mutex × Option ParkHandle :=
  match m.waiters with
  | [] => ({ m with locked := false, holder := none }, none)
  -- The lock stays locked: it changes hands, and nobody can overtake the waiter.
  | h :: rest => ({ m with holder := some h.owner, waiters := rest }, some h)

end Mutex

end Junction.Sync
