/-!
# Spin locks

A spin lock protects one value for the length of a few steps. A thread that finds it locked does not
park: it looks again and again until the lock is free.

## Main definitions

* `SpinLock` — the value and the lock
* `SpinLock.tryLock`, `SpinLock.unlock` — take the lock if it is free, and free it
-/

namespace Junction.Sync

/-- A value under a lock for which threads spin. -/
structure SpinLock where
  /-- The protected value. -/
  value : Int := 0
  /-- Whether some thread has the lock. -/
  locked : Bool := false
deriving DecidableEq, Repr, Inhabited

namespace SpinLock

/-- The lock is taken if it is free; there is no new lock if it is not. -/
def tryLock (l : SpinLock) : Option SpinLock :=
  if l.locked then none else some { l with locked := true }

/-- The lock is free again. -/
def unlock (l : SpinLock) : SpinLock := { l with locked := false }

theorem tryLock_eq_none_iff {l : SpinLock} : l.tryLock = none ↔ l.locked = true := by
  simp [tryLock]

end SpinLock

end Junction.Sync
