import Junction.Sync.Parking

/-!
# Parking on the host

What parking comes to on the threads of the host. The host keeps one wake permit for each thread: a
thread that sleeps goes on once there is one, which is used up then, and it may also go on for no
reason at all. The handles of a thread share its permit, so a thread that goes on looks at the token
of its own handle first, and sleeps again if the token is not set.

A handle is unparked in three sections, and others can step in between any two of them. The owner
ceases to be published as parked, then the token is set, and then the owner is given the permit.
Whoever has a handle can unpark it at any time, also when its owner has given up long ago and has
parked again with another handle.

## Main definitions

* `Host.Point`, `Host.Call` — where a thread stands, and how far the unparking of a handle has come
* `Host` — threads, handles and permits
* `Host.go?`, `Host.carryOn?` — a thread, and the unparking of a handle, go on
* `Host.Action`, `Host.after` — what can happen, and the host after some of it

## Main results

* `Host.unpark_eq` — the sections of an unparking are those of `Parking.unpark`
-/

namespace Junction.Sync

namespace Host

/-- How far the unparking of a handle has come. -/
inductive Call where
  /-- Nobody has unparked it. -/
  | untouched
  /-- Somebody is about to look at the published state of its owner. -/
  | begun
  /-- Its owner does not count as parked any more, and its token is to be set. -/
  | readied
  /-- Its token is set, and its owner is to be given the permit. -/
  | stored
  /-- It is unparked. -/
  | done
deriving DecidableEq, Repr, Inhabited

/-- One parking of a thread. -/
structure Stay where
  /-- The handle that was issued for it. -/
  handle : ParkHandle
  /-- Whether its deadline has passed, if it has one. -/
  expired : Option Bool
deriving DecidableEq, Repr

/-- How far a thread has come with a parking. -/
inductive Phase where
  /-- It is about to look at the token. -/
  | looking
  /-- It has found the token not set. -/
  | missed
  /-- It sleeps. -/
  | asleep
  /-- It was woken or has run out of time, and is about to say that it runs. -/
  | leaving (woken : Bool)
deriving DecidableEq, Repr

/-- Where a thread stands. -/
inductive Point where
  /-- It does not exist yet. -/
  | absent
  /-- It exists and has not begun to run. -/
  | made
  /-- It runs, after a last parking in which it was woken or ran out of time. -/
  | running (last : Option (Stay × Bool))
  /-- It parks. -/
  | parked (phase : Phase) (stay : Stay)
  /-- It has ended. -/
  | ended
deriving DecidableEq, Repr, Inhabited

/-- The point after its deadline, if it has one. -/
def Point.expired? : Point → Option Point
  | parked phase p => p.expired.map fun _ => parked phase { p with expired := some true }
  | _ => none

end Host

/-- Threads on the host, with their handles. -/
structure Host where
  /-- The tokens and the published states. -/
  parking : Parking := {}
  /-- The handles that were issued. -/
  handles : List ParkHandle := []
  /-- How far the unparking of the handle with a number has come. -/
  calls : Table Host.Call := {}
  /-- Whether a thread has a wake permit. -/
  permits : Table Bool := {}
  /-- The points of the threads. -/
  points : Table Host.Point := {}
deriving Inhabited

namespace Host

/-- The point of a thread. -/
def point (s : Host) (t : ThreadId) : Point := s.points.get t

/-- How far the unparking of a handle has come. -/
def call (s : Host) (h : ParkHandle) : Call := s.calls.get h.id

/-- A thread goes to a point. -/
def goTo (s : Host) (t : ThreadId) (point : Point) : Host :=
  { s with points := s.points.set t point }

/-- The tokens and the published states are changed. -/
def withParking (s : Host) (parking : Parking) : Host := { s with parking }

/-- The unparking of a handle comes to a stage. -/
def setCall (s : Host) (h : ParkHandle) (call : Call) : Host :=
  { s with calls := s.calls.set h.id call }

/-- A thread gets the permit, or uses it up. -/
def setPermit (s : Host) (t : ThreadId) (permit : Bool) : Host :=
  { s with permits := s.permits.set t permit }

/-- A handle is issued for a thread, and is known to others from now on. -/
def issueFor (s : Host) (t : ThreadId) : Host :=
  { s with
    parking := (s.parking.issue t).1
    handles := s.handles ++ [(s.parking.issue t).2] }

/-- A thread is made; it does not run yet. -/
def make? (s : Host) (t : ThreadId) : Option Host :=
  match s.point t with
  | .absent => some ((s.withParking (s.parking.publish t .runnable)).goTo t .made)
  | _ => none

/-- A thread begins to run. -/
def begin? (s : Host) (t : ThreadId) : Option Host :=
  match s.point t with
  | .made => some ((s.withParking (s.parking.resume t)).goTo t (.running none))
  | _ => none

/-- A running thread parks, possibly with a deadline. -/
def park? (s : Host) (t : ThreadId) (timed : Bool) : Option Host :=
  match s.point t with
  | .running _ =>
    let deadline := if timed then some false else none
    some ((s.issueFor t).goTo t (.parked .looking ⟨(s.parking.issue t).2, deadline⟩))
  | _ => none

/-- A running thread ends. -/
def finish? (s : Host) (t : ThreadId) : Option Host :=
  match s.point t with
  | .running _ => some ((s.withParking (s.parking.finish t)).goTo t .ended)
  | _ => none

/-- A parked thread goes on, if it does not sleep. -/
def go? (s : Host) (t : ThreadId) : Option Host :=
  match s.point t with
  | .parked .looking p =>
    if s.parking.isUnparked p.handle then some (s.goTo t (.parked (.leaving true) p))
    else some (s.goTo t (.parked .missed p))
  -- The clock is looked at after the token.
  | .parked .missed p =>
    if p.expired = some true then some (s.goTo t (.parked (.leaving false) p))
    else some (s.goTo t (.parked .asleep p))
  | .parked .asleep p =>
    if s.permits.get t then some ((s.setPermit t false).goTo t (.parked .looking p))
    else if p.expired = some true then some (s.goTo t (.parked .looking p))
    else none
  | .parked (.leaving woken) p =>
    some ((s.withParking (s.parking.resume t)).goTo t (.running (some (p, woken))))
  | _ => none

/-- The host wakes a thread for no reason. -/
def rouse? (s : Host) (t : ThreadId) : Option Host :=
  match s.point t with
  | .parked .asleep p => some (s.goTo t (.parked .looking p))
  | _ => none

/-- The deadline of a parked thread passes. -/
def expire? (s : Host) (t : ThreadId) : Option Host := (s.point t).expired?.map (s.goTo t)

/-- Somebody begins to unpark a handle, which nobody can unpark again. -/
def unpark? (s : Host) (h : ParkHandle) : Option Host :=
  if h ∈ s.handles ∧ s.call h = .untouched then some (s.setCall h .begun) else none

/-- The unparking of a handle goes on by one section. -/
def carryOn? (s : Host) (h : ParkHandle) : Option Host :=
  if h ∈ s.handles then
    match s.call h with
    | .begun => some ((s.withParking (s.parking.ready h)).setCall h .readied)
    | .readied => some ((s.withParking (s.parking.setToken h)).setCall h .stored)
    | .stored => some ((s.setPermit h.owner true).setCall h .done)
    | _ => none
  else none

/-- What can happen on the host. -/
inductive Action where
  /-- A thread is made. -/
  | make (t : ThreadId)
  /-- A thread begins to run. -/
  | begin (t : ThreadId)
  /-- A thread parks. -/
  | park (t : ThreadId) (timed : Bool)
  /-- Somebody begins to unpark a handle. -/
  | unpark (h : ParkHandle)
  /-- The unparking of a handle goes on. -/
  | carryOn (h : ParkHandle)
  /-- A parked thread goes on. -/
  | go (t : ThreadId)
  /-- The host wakes a thread for no reason. -/
  | rouse (t : ThreadId)
  /-- The deadline of a parked thread passes. -/
  | expire (t : ThreadId)
  /-- A thread ends. -/
  | finish (t : ThreadId)
deriving DecidableEq, Repr

/-- The host after an action, if it is possible. -/
def step? (s : Host) : Action → Option Host
  | .make t => s.make? t
  | .begin t => s.begin? t
  | .park t timed => s.park? t timed
  | .unpark h => s.unpark? h
  | .carryOn h => s.carryOn? h
  | .go t => s.go? t
  | .rouse t => s.rouse? t
  | .expire t => s.expire? t
  | .finish t => s.finish? t

/-- The host after an action; one that is not possible changes nothing. -/
def act (s : Host) (action : Action) : Host := (s.step? action).getD s

/-- The host after some actions. -/
def after (s : Host) (actions : List Action) : Host := actions.foldl act s

/-- Between its three sections nothing is added to the unparking of a handle. -/
theorem unpark_eq (p : Parking) (h : ParkHandle) : (p.ready h).setToken h = p.unpark h := rfl

end Host

end Junction.Sync
