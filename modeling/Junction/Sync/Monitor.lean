import Junction.Sync.Mutex

/-!
# Monitors

Any number of threads work with any number of mutexes and condition variables. A condition variable
is a list of parked threads that wait until a condition on the value of a mutex no longer holds.

Every use of a mutex is one request: how the mutex is entered (at once, or after a condition has
ceased to hold), what happens to its value, and how it is left (kept, unlocked, or with a signal or
a broadcast on a condition variable). The points of a thread are the places where others can step in
between.

A thread that waits puts its handle into the list of the condition variable before it gives up the
mutex, and a thread that signals takes handles out of the list while it has the mutex. So no signal
falls between the test of a condition and the sleep.

## Main definitions

* `Request` — one use of a mutex
* `Point` — where a thread stands
* `Monitors` — mutexes, condition variables and threads
* `Monitors.start?`, `Monitors.step?`, `Monitors.expire?` — a thread begins something, goes on with
  it, or runs out of time
-/

namespace Junction.Sync

/-- How a mutex is entered. -/
inductive Entry where
  /-- As soon as the lock is free. -/
  | direct
  /-- Once a condition on the value has ceased to hold; until then the thread waits on a condition
  variable. -/
  | whileHolds (condvar : Nat) (condition : Int → Bool)
  /-- The same, but with a deadline, which may have passed. -/
  | whileHoldsUntil (condvar : Nat) (condition : Int → Bool) (expired : Bool)

/-- How a mutex is left. -/
inductive Leave where
  /-- Not at all: the thread keeps the lock. -/
  | keep
  /-- Unlocked. -/
  | unlock
  /-- Unlocked, with one waiter of a condition variable woken. -/
  | signal (condvar : Nat)
  /-- Unlocked, with all waiters of a condition variable woken. -/
  | broadcast (condvar : Nat)
deriving DecidableEq, Repr

/-- One use of a mutex. -/
structure Request where
  /-- The number of the mutex. -/
  mutex : Nat
  /-- How it is entered. -/
  entry : Entry
  /-- What happens to its value, depending on whether the deadline passed in vain. -/
  change : (timedOut : Bool) → Int → Int
  /-- How it is left, depending on the value that was found. -/
  leave : Int → Leave

/-- The request after its deadline. -/
def Request.expire (r : Request) : Request :=
  match r.entry with
  | .whileHoldsUntil condvar condition _ =>
    { r with entry := .whileHoldsUntil condvar condition true }
  | _ => r

/-- What came of something that a thread has done. -/
inductive Outcome where
  /-- It has entered a mutex and found a value, with the condition still true if it timed out. -/
  | entered (value : Int) (timedOut : Bool)
  /-- It has found a mutex locked. -/
  | wouldBlock
  /-- It was parked, and was unparked or ran out of time. -/
  | parked (woken : Bool)
  /-- It has changed the value of a mutex. -/
  | changed (value : Int)
  /-- It has left a mutex. -/
  | left
deriving DecidableEq, Repr

/-- Where a thread stands. -/
inductive Point where
  /-- Between two things to do, after the outcome of the last one. -/
  | idle (last : Option Outcome)
  /-- Before the lock. -/
  | entering (r : Request)
  /-- Among the waiters of the lock. -/
  | queued (r : Request) (h : ParkHandle)
  /-- With the lock, before the test of the condition. -/
  | inside (r : Request)
  /-- With the lock, on the list of the condition variable. -/
  | enrolled (r : Request) (h : ParkHandle)
  /-- Without the lock, with the next owner still to be unparked. -/
  | yielding (r : Request) (h : ParkHandle) (next : Option ParkHandle)
  /-- Parked on the condition variable. -/
  | asleep (r : Request) (h : ParkHandle)
  /-- Out of time, with the handle possibly still on the list. -/
  | withdrawing (r : Request) (h : ParkHandle)
  /-- With the lock, about to leave. -/
  | leaving (m : Nat) (leave : Leave) (outcome : Outcome)
  /-- With the lock, and with waiters of a condition variable to be unparked after it. -/
  | releasing (m : Nat) (woken : List ParkHandle) (outcome : Outcome)
  /-- Without the lock, with handles to be unparked. -/
  | waking (handles : List ParkHandle) (outcome : Outcome)
  /-- Parked outside of any mutex; a parking with a deadline says whether it has passed. -/
  | parked (h : ParkHandle) (expired : Option Bool)

/-- A thread. -/
structure Thread where
  /-- Where it stands. -/
  point : Point := .idle none
  /-- The mutexes whose locks it keeps. -/
  guards : List Nat := []

instance : Inhabited Thread := ⟨{}⟩

/-- What a thread can begin. -/
inductive Act where
  /-- Use a mutex. -/
  | request (r : Request)
  /-- Take a lock if it is free, and keep it. -/
  | tryLock (m : Nat)
  /-- Change the value of a mutex whose lock the thread keeps. -/
  | amend (m : Nat) (f : Int → Int)
  /-- Leave a mutex whose lock the thread keeps. -/
  | leave (m : Nat) (leave : Leave)
  /-- Park, possibly with a deadline. -/
  | park (timed : Bool)
  /-- Unpark a handle. -/
  | unpark (h : ParkHandle)

/-- Mutexes, condition variables and threads. -/
structure Monitors where
  /-- The handles. -/
  parking : Parking := {}
  /-- The mutexes. -/
  mutexes : Table Mutex := {}
  /-- The handles on the list of each condition variable, the longest waiting one first. -/
  condvars : Table (List ParkHandle) := {}
  /-- The threads. -/
  threads : Table Thread := {}

instance : Inhabited Monitors := ⟨{}⟩

namespace Monitors

/-- The point of a thread. -/
def point (s : Monitors) (t : ThreadId) : Point := (s.threads.get t).point

/-- The mutexes whose locks a thread keeps. -/
def guards (s : Monitors) (t : ThreadId) : List Nat := (s.threads.get t).guards

/-- A thread goes to a point. -/
def goTo (s : Monitors) (t : ThreadId) (point : Point) : Monitors :=
  { s with threads := s.threads.set t { s.threads.get t with point } }

/-- The locks that a thread keeps are changed. -/
def setGuards (s : Monitors) (t : ThreadId) (guards : List Nat) : Monitors :=
  { s with threads := s.threads.set t { s.threads.get t with guards } }

/-- A mutex is changed. -/
def setMutex (s : Monitors) (m : Nat) (mutex : Mutex) : Monitors :=
  { s with mutexes := s.mutexes.set m mutex }

/-- The list of a condition variable is changed. -/
def setCondvar (s : Monitors) (c : Nat) (handles : List ParkHandle) : Monitors :=
  { s with condvars := s.condvars.set c handles }

/-- A handle is unparked. -/
def unpark (s : Monitors) (h : ParkHandle) : Monitors :=
  { s with parking := s.parking.unpark h }

/-- A thread that was parked goes on. -/
def resume (s : Monitors) (t : ThreadId) : Monitors :=
  { s with parking := s.parking.resume t }

/-- A thread with the lock has its way with the value, and then keeps the lock or leaves. -/
def serve (s : Monitors) (t : ThreadId) (r : Request) (timedOut : Bool) : Monitors :=
  let m := s.mutexes.get r.mutex
  let outcome := .entered m.value timedOut
  let s := s.setMutex r.mutex { m with value := r.change timedOut m.value }
  match r.leave m.value with
  | .keep => (s.setGuards t (r.mutex :: s.guards t)).goTo t (.idle (some outcome))
  | leave => s.goTo t (.leaving r.mutex leave outcome)

/-- A thread with the lock puts a new handle onto the list of a condition variable. -/
def enroll (s : Monitors) (t : ThreadId) (r : Request) (c : Nat) : Monitors :=
  let (parking, h) := s.parking.issue t
  ({ s with parking }.setCondvar c (s.condvars.get c ++ [h])).goTo t (.enrolled r h)

/-- A thread at its first point after the lock: it tests the condition. -/
def admitted (s : Monitors) (t : ThreadId) (r : Request) : Monitors :=
  let value := (s.mutexes.get r.mutex).value
  match r.entry with
  | .direct => s.serve t r false
  | .whileHolds c condition => if condition value then s.enroll t r c else s.serve t r false
  | .whileHoldsUntil c condition expired =>
    if condition value then
      if expired then s.serve t r true else s.enroll t r c
    else s.serve t r false

/-- The condition variable of a request, and whether its deadline has passed. -/
def waitOf (r : Request) : Option (Nat × Bool) :=
  match r.entry with
  | .direct => none
  | .whileHolds c _ => some (c, false)
  | .whileHoldsUntil c _ expired => some (c, expired)

/-- A thread begins something. It must be between two things to do, and have the lock that it is
about to use or leave. -/
def start? (s : Monitors) (t : ThreadId) (act : Act) : Option Monitors :=
  match s.point t with
  | .idle _ =>
    match act with
    | .request r => some (s.goTo t (.entering r))
    | .tryLock m =>
      match (s.mutexes.get m).tryLock t with
      | none => some (s.goTo t (.idle (some .wouldBlock)))
      | some mutex =>
        some (((s.setMutex m mutex).setGuards t (m :: s.guards t)).goTo t
          (.idle (some (.entered mutex.value false))))
    | .amend m f =>
      if m ∈ s.guards t then
        let mutex := s.mutexes.get m
        some ((s.setMutex m { mutex with value := f mutex.value }).goTo t
          (.idle (some (.changed (f mutex.value)))))
      else none
    | .leave m leave =>
      if m ∈ s.guards t ∧ leave ≠ .keep then some (s.goTo t (.leaving m leave .left)) else none
    | .park timed =>
      let (parking, h) := s.parking.issue t
      some ({ s with parking }.goTo t (.parked h (if timed then some false else none)))
    | .unpark h => some (s.goTo t (.waking [h] .left))
  | _ => none

/-- A thread goes on with what it has begun, if it is not blocked. -/
def step? (s : Monitors) (t : ThreadId) : Option Monitors :=
  match s.point t with
  | .idle _ => none
  | .entering r =>
    match (s.mutexes.get r.mutex).lock t s.parking with
    | (mutex, parking, none) =>
      some (({ s with parking }.setMutex r.mutex mutex).goTo t (.inside r))
    | (mutex, parking, some h) =>
      some (({ s with parking }.setMutex r.mutex mutex).goTo t (.queued r h))
  -- The lock was handed over, so there is nothing left to take.
  | .queued r h =>
    if s.parking.isUnparked h then some ((s.resume t).goTo t (.inside r)) else none
  | .inside r => some (s.admitted t r)
  -- The handle is on the list already, so a signal cannot be missed from here on.
  | .enrolled r h =>
    let (mutex, next) := (s.mutexes.get r.mutex).release
    some ((s.setMutex r.mutex mutex).goTo t (.yielding r h next))
  | .yielding r h next =>
    match next with
    | none => some (s.goTo t (.asleep r h))
    | some next => some ((s.unpark next).goTo t (.asleep r h))
  | .asleep r h =>
    if s.parking.isUnparked h then some ((s.resume t).goTo t (.entering r))
    -- A wake wins over a deadline that has passed meanwhile.
    else
      match waitOf r with
      | some (_, true) => some ((s.resume t).goTo t (.withdrawing r h))
      | _ => none
  | .withdrawing r h =>
    match waitOf r with
    -- A signal may have taken the handle off the list before.
    | some (c, _) =>
      some ((s.setCondvar c ((s.condvars.get c).filter (· != h))).goTo t (.entering r))
    | none => some (s.goTo t (.entering r))
  | .leaving m leave outcome =>
    match leave with
    | .keep | .unlock => some (s.goTo t (.releasing m [] outcome))
    | .signal c =>
      let handles := s.condvars.get c
      some ((s.setCondvar c handles.tail).goTo t (.releasing m handles.head?.toList outcome))
    | .broadcast c =>
      some ((s.setCondvar c []).goTo t (.releasing m (s.condvars.get c) outcome))
  -- The next owner of the mutex is unparked before the waiters of the condition variable.
  | .releasing m woken outcome =>
    let (mutex, next) := (s.mutexes.get m).release
    some (((s.setMutex m mutex).setGuards t ((s.guards t).filter (· != m))).goTo t
      (.waking (next.toList ++ woken) outcome))
  | .waking [] outcome => some (s.goTo t (.idle (some outcome)))
  | .waking (h :: rest) outcome => some ((s.unpark h).goTo t (.waking rest outcome))
  | .parked h expired =>
    if s.parking.isUnparked h then
      some ((s.resume t).goTo t (.idle (some (.parked true))))
    else if expired = some true then
      some ((s.resume t).goTo t (.idle (some (.parked false))))
    else none

/-- The deadline of a thread passes. -/
def expire? (s : Monitors) (t : ThreadId) : Option Monitors :=
  match s.point t with
  | .entering r => some (s.goTo t (.entering r.expire))
  | .queued r h => some (s.goTo t (.queued r.expire h))
  | .inside r => some (s.goTo t (.inside r.expire))
  | .enrolled r h => some (s.goTo t (.enrolled r.expire h))
  | .yielding r h next => some (s.goTo t (.yielding r.expire h next))
  | .asleep r h => some (s.goTo t (.asleep r.expire h))
  | .withdrawing r h => some (s.goTo t (.withdrawing r.expire h))
  | .parked h (some _) => some (s.goTo t (.parked h (some true)))
  | _ => none

/-- Steps of the first of some threads that can go on, again and again, but not more than a given
number. -/
def runWith (threads : List ThreadId) : Nat → Monitors → Monitors
  | 0, s => s
  | limit + 1, s =>
    match threads.findSome? s.step? with
    | none => s
    | some s => runWith threads limit s

end Monitors

end Junction.Sync
