import Junction.Sync.Monitor
import Junction.Word

/-!
# Semaphores

A semaphore counts permits. It is a mutex whose value is the count, and a condition variable on
which threads wait while there is no permit. Every signal is remembered by the count, so a signal
before a wait is not lost. A signal that finds the largest count fails: it adds no permit and wakes
nobody.

## Main definitions

* `Semaphore` — the mutex and the condition variable
* `wait`, `tryWait`, `waitUntil`, `signal`, `count` — the operations, each as one request
* `Semaphore.isFull` — whether a signal that finds a count fails
-/

namespace Junction.Sync

/-- A count of permits under a mutex, with a condition variable for those who wait for one. -/
structure Semaphore where
  /-- The number of the mutex whose value is the count. -/
  permits : Nat
  /-- The number of the condition variable. -/
  available : Nat
deriving DecidableEq, Repr, Inhabited

namespace Semaphore

/-- Whether there is no permit. -/
def isEmpty (count : Int) : Bool := count == 0

/-- Whether there is room for no more permits. -/
def isFull (count : Int) : Bool := Word.maxCount ≤ count

/-- Takes a permit, waiting for one if need be. -/
def wait (s : Semaphore) : Request :=
  ⟨s.permits, .whileHolds s.available isEmpty, fun _ count => count - 1, fun _ => .unlock⟩

/-- Takes a permit if there is one. -/
def tryWait (s : Semaphore) : Request :=
  ⟨s.permits, .direct, fun _ count => if 0 < count then count - 1 else count, fun _ => .unlock⟩

/-- Takes a permit, waiting for one until a deadline. -/
def waitUntil (s : Semaphore) : Request :=
  ⟨s.permits, .whileHoldsUntil s.available isEmpty false,
    fun timedOut count => if timedOut then count else count - 1, fun _ => .unlock⟩

/-- Gives a permit back, or a new one. -/
def signal (s : Semaphore) : Request :=
  ⟨s.permits, .direct, fun _ count => if isFull count then count else count + 1,
    fun count => if isFull count then .unlock else .signal s.available⟩

/-- Looks at the number of permits. -/
def count (s : Semaphore) : Request :=
  ⟨s.permits, .direct, fun _ count => count, fun _ => .unlock⟩

end Semaphore

end Junction.Sync
