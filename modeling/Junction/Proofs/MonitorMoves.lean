import Junction.Sync.Workers

/-!
# What one step of a thread can do

The step functions of threads that share monitors, read as a relation with one rule for each way in
which a step can go. A rule names the point of the thread before the step, what the step has found
out about the mutex or the handle, and the state after it. What is proved about threads is proved by
cases on these rules.

A thread may unpark any handle that was handed out by a plain parking. The handles by which threads
wait for a lock or on a condition variable are known to nobody but the lists that hold them, so the
rule for such an unparking asks for a loose handle.

## Main definitions

* `Monitors.Move` — the rules
* `Monitors.IsLoose` — a handle that no lock and no condition variable knows of
* `Request.Admits`, `Request.Waits` — what the test of a condition has found

## Main results

* `Monitors.move_of_start`, `Monitors.move_of_step`, `Monitors.move_of_expire` — every step follows
  one of the rules
* `Monitors.Move.point_other`, `Monitors.Move.guards_other` — a step leaves the other threads alone
* `Monitors.Move.handle_cases`, `Monitors.Move.listed_cases`, `Monitors.Move.token_cases` — where
  handles and tokens come from
* `Monitors.Move.value_cases` — who changes the value of a mutex
-/

namespace Junction.Sync

/-! ### Mutexes -/

namespace Mutex

/-- The mutex once a thread has taken its lock. -/
def takenBy (m : Mutex) (t : ThreadId) : Mutex := { m with locked := true, holder := some t }

/-- The mutex with a changed value. -/
def withValue (m : Mutex) (value : Int) : Mutex := { m with value }

/-- The mutex with one more waiter. -/
def joinedBy (m : Mutex) (h : ParkHandle) : Mutex := { m with waiters := m.waiters ++ [h] }

variable {m : Mutex}

theorem tryLock_eq_none_iff {t : ThreadId} : m.tryLock t = none ↔ m.locked = true := by
  simp [tryLock]

theorem tryLock_eq_some {t : ThreadId} {m' : Mutex} (h : m.tryLock t = some m') :
    m.locked = false ∧ m' = m.takenBy t := by
  unfold tryLock at h
  split at h
  · cases h
  · next hunlocked =>
    cases h
    exact ⟨by simpa using hunlocked, rfl⟩

theorem lock_of_unlocked {t : ThreadId} {p : Parking} (h : m.locked = false) :
    m.lock t p = (m.takenBy t, p, none) := by
  simp [lock, takenBy, h]

theorem lock_of_locked {t : ThreadId} {p : Parking} (h : m.locked = true) :
    m.lock t p = (m.joinedBy (p.issue t).2, (p.issue t).1, some (p.issue t).2) := by
  simp [lock, joinedBy, h]

theorem release_snd : m.release.2 = m.waiters.head? := by
  unfold release
  split <;> simp_all

/-- The waiters are those behind the first one. -/
theorem waiters_release : m.release.1.waiters = m.waiters.tail := by
  unfold release
  split <;> simp_all

/-- The lock stays locked if there was a waiter, who holds it now. -/
theorem holder_release : m.release.1.holder = m.waiters.head?.map (·.owner) := by
  unfold release
  split <;> simp_all

end Mutex

/-! ### Parking -/

namespace Parking

variable {p : Parking} {t : ThreadId} {h : ParkHandle}

@[simp] theorem snd_issue : (p.issue t).2 = ⟨p.issued, t⟩ := rfl

@[simp] theorem issued_issue : (p.issue t).1.issued = p.issued + 1 := rfl

@[simp] theorem tokens_issue : (p.issue t).1.tokens = p.tokens := rfl

@[simp] theorem issued_resume : (p.resume t).issued = p.issued := rfl

@[simp] theorem tokens_resume : (p.resume t).tokens = p.tokens := rfl

@[simp] theorem issued_finish : (p.finish t).issued = p.issued := rfl

@[simp] theorem tokens_finish : (p.finish t).tokens = p.tokens := rfl

@[simp] theorem issued_unpark : (p.unpark h).issued = p.issued := by
  unfold unpark ready
  split <;> rfl

@[simp] theorem tokens_unpark : (p.unpark h).tokens = p.tokens.set h.id true := by
  simp only [unpark, setToken, tokens_ready]

end Parking

/-! ### Requests and points -/

namespace Request

/-- The test of the condition lets a thread that has found a value go on, in vain or not. -/
def Admits (r : Request) (value : Int) (timedOut : Bool) : Prop :=
  match r.entry with
  | .direct => timedOut = false
  | .whileHolds _ condition => condition value = false ∧ timedOut = false
  | .whileHoldsUntil _ condition expired =>
    condition value = timedOut ∧ (timedOut = true → expired = true)

/-- The test of the condition sends a thread that has found a value to a condition variable. -/
def Waits (r : Request) (value : Int) (condvar : Nat) : Prop :=
  match r.entry with
  | .direct => False
  | .whileHolds c condition => condition value = true ∧ c = condvar
  | .whileHoldsUntil c condition expired =>
    condition value = true ∧ expired = false ∧ c = condvar

@[simp] theorem mutex_expire (r : Request) : r.expire.mutex = r.mutex := by
  unfold expire
  split <;> rfl

end Request

namespace Point

/-- The handle by which a thread waits for a lock or on a condition variable, or has waited there
and has not forgotten it. -/
def handle? : Point → Option ParkHandle
  | queued _ h | enrolled _ h | yielding _ h _ | asleep _ h | withdrawing _ h => some h
  | _ => none

/-- The handles that a thread at a point has still to unpark. -/
def wakes : Point → List ParkHandle
  | yielding _ _ next => next.toList
  | releasing _ woken _ => woken
  | waking handles _ => handles
  | _ => []

/-- The point after its deadline, if there is one. -/
def expired? : Point → Option Point
  | entering r => some (entering r.expire)
  | queued r h => some (queued r.expire h)
  | inside r => some (inside r.expire)
  | enrolled r h => some (enrolled r.expire h)
  | yielding r h next => some (yielding r.expire h next)
  | asleep r h => some (asleep r.expire h)
  | withdrawing r h => some (withdrawing r.expire h)
  | parked h (some _) => some (parked h (some true))
  | _ => none

section Expired

variable {p p' : Point}

theorem handle?_expired (h : p.expired? = some p') : p'.handle? = p.handle? := by
  cases p with
  | parked handle expired =>
    cases expired with
    | none => cases h
    | some passed =>
      cases h
      rfl
  | _ => cases h <;> rfl

theorem wakes_expired (h : p.expired? = some p') : p'.wakes = p.wakes := by
  cases p with
  | parked handle expired =>
    cases expired with
    | none => cases h
    | some passed =>
      cases h
      rfl
  | _ => cases h <;> rfl

end Expired

end Point

namespace Monitors

variable {s s' : Monitors} {t u : ThreadId}

/-! ### What a change shows -/

section Changes

@[simp] theorem point_goTo (s : Monitors) (t u : ThreadId) (p : Point) :
    (s.goTo t p).point u = if u = t then p else s.point u := by
  simp only [point, goTo, Table.get_set]
  split <;> rfl

@[simp] theorem guards_goTo (s : Monitors) (t u : ThreadId) (p : Point) :
    (s.goTo t p).guards u = s.guards u := by
  simp only [guards, goTo, Table.get_set]
  split
  · next h => rw [h]
  · rfl

@[simp] theorem mutexes_goTo (s : Monitors) (t : ThreadId) (p : Point) :
    (s.goTo t p).mutexes = s.mutexes := rfl

@[simp] theorem condvars_goTo (s : Monitors) (t : ThreadId) (p : Point) :
    (s.goTo t p).condvars = s.condvars := rfl

@[simp] theorem parking_goTo (s : Monitors) (t : ThreadId) (p : Point) :
    (s.goTo t p).parking = s.parking := rfl

@[simp] theorem point_setGuards (s : Monitors) (t u : ThreadId) (guards : List Nat) :
    (s.setGuards t guards).point u = s.point u := by
  simp only [point, setGuards, Table.get_set]
  split
  · next h => rw [h]
  · rfl

@[simp] theorem guards_setGuards (s : Monitors) (t u : ThreadId) (l : List Nat) :
    (s.setGuards t l).guards u = if u = t then l else s.guards u := by
  simp only [guards, setGuards, Table.get_set]
  split <;> rfl

@[simp] theorem mutexes_setGuards (s : Monitors) (t : ThreadId) (l : List Nat) :
    (s.setGuards t l).mutexes = s.mutexes := rfl

@[simp] theorem condvars_setGuards (s : Monitors) (t : ThreadId) (l : List Nat) :
    (s.setGuards t l).condvars = s.condvars := rfl

@[simp] theorem parking_setGuards (s : Monitors) (t : ThreadId) (l : List Nat) :
    (s.setGuards t l).parking = s.parking := rfl

@[simp] theorem point_setMutex (s : Monitors) (m : Nat) (mutex : Mutex) :
    (s.setMutex m mutex).point t = s.point t := rfl

@[simp] theorem guards_setMutex (s : Monitors) (m : Nat) (mutex : Mutex) :
    (s.setMutex m mutex).guards t = s.guards t := rfl

@[simp] theorem mutexes_setMutex (s : Monitors) (m : Nat) (mutex : Mutex) :
    (s.setMutex m mutex).mutexes = s.mutexes.set m mutex := rfl

@[simp] theorem condvars_setMutex (s : Monitors) (m : Nat) (mutex : Mutex) :
    (s.setMutex m mutex).condvars = s.condvars := rfl

@[simp] theorem parking_setMutex (s : Monitors) (m : Nat) (mutex : Mutex) :
    (s.setMutex m mutex).parking = s.parking := rfl

@[simp] theorem point_setCondvar (s : Monitors) (c : Nat) (handles : List ParkHandle) :
    (s.setCondvar c handles).point t = s.point t := rfl

@[simp] theorem guards_setCondvar (s : Monitors) (c : Nat) (handles : List ParkHandle) :
    (s.setCondvar c handles).guards t = s.guards t := rfl

@[simp] theorem mutexes_setCondvar (s : Monitors) (c : Nat) (handles : List ParkHandle) :
    (s.setCondvar c handles).mutexes = s.mutexes := rfl

@[simp] theorem condvars_setCondvar (s : Monitors) (c : Nat) (handles : List ParkHandle) :
    (s.setCondvar c handles).condvars = s.condvars.set c handles := rfl

@[simp] theorem parking_setCondvar (s : Monitors) (c : Nat) (handles : List ParkHandle) :
    (s.setCondvar c handles).parking = s.parking := rfl

/-- The monitors with a changed parking. -/
def withParking (s : Monitors) (parking : Parking) : Monitors := { s with parking }

@[simp] theorem point_withParking (s : Monitors) (parking : Parking) :
    (s.withParking parking).point t = s.point t := rfl

@[simp] theorem guards_withParking (s : Monitors) (parking : Parking) :
    (s.withParking parking).guards t = s.guards t := rfl

@[simp] theorem mutexes_withParking (s : Monitors) (parking : Parking) :
    (s.withParking parking).mutexes = s.mutexes := rfl

@[simp] theorem condvars_withParking (s : Monitors) (parking : Parking) :
    (s.withParking parking).condvars = s.condvars := rfl

@[simp] theorem parking_withParking (s : Monitors) (parking : Parking) :
    (s.withParking parking).parking = parking := rfl

end Changes

/-! ### Rules -/

/-- A handle that was issued, and that no lock and no condition variable knows of. -/
structure IsLoose (s : Monitors) (h : ParkHandle) : Prop where
  /-- It was issued. -/
  issued : h.id < s.parking.issued
  /-- No thread waits by it, or has waited and not forgotten it. -/
  unused : ∀ u h', (s.point u).handle? = some h' → h'.id ≠ h.id
  /-- It is on no list of a condition variable. -/
  unlisted : ∀ c, ∀ h' ∈ s.condvars.get c, h'.id ≠ h.id

/-- The rules of a thread. -/
inductive Move (s : Monitors) (t : ThreadId) : Monitors → Prop
  -- A thread between two things to do begins the next one.
  | request {last : Option Outcome} (r : Request) (idle : s.point t = .idle last) :
      Move s t (s.goTo t (.entering r))
  | refused {last : Option Outcome} (m : Nat) (idle : s.point t = .idle last)
      (locked : (s.mutexes.get m).locked = true) :
      Move s t (s.goTo t (.idle (some .wouldBlock)))
  | seize {last : Option Outcome} (m : Nat) (idle : s.point t = .idle last)
      (unlocked : (s.mutexes.get m).locked = false) :
      Move s t (((s.setMutex m ((s.mutexes.get m).takenBy t)).setGuards t (m :: s.guards t)).goTo t
        (.idle (some (.entered (s.mutexes.get m).value false))))
  | amend {last : Option Outcome} (m : Nat) (value : Int) (idle : s.point t = .idle last)
      (kept : m ∈ s.guards t) :
      Move s t ((s.setMutex m ((s.mutexes.get m).withValue value)).goTo t
        (.idle (some (.changed value))))
  | leave {last : Option Outcome} (m : Nat) (leave : Leave) (idle : s.point t = .idle last)
      (kept : m ∈ s.guards t) (leaves : leave ≠ .keep) :
      Move s t (s.goTo t (.leaving m leave .left))
  | park {last : Option Outcome} (expired : Option Bool) (idle : s.point t = .idle last) :
      Move s t ((s.withParking (s.parking.issue t).1).goTo t
        (.parked (s.parking.issue t).2 expired))
  | unpark {last : Option Outcome} (h : ParkHandle) (idle : s.point t = .idle last)
      (loose : s.IsLoose h) : Move s t (s.goTo t (.waking [h] .left))
  -- At the lock.
  | take (r : Request) (entering : s.point t = .entering r)
      (unlocked : (s.mutexes.get r.mutex).locked = false) :
      Move s t ((s.setMutex r.mutex ((s.mutexes.get r.mutex).takenBy t)).goTo t (.inside r))
  | join (r : Request) (entering : s.point t = .entering r)
      (locked : (s.mutexes.get r.mutex).locked = true) :
      Move s t (((s.withParking (s.parking.issue t).1).setMutex r.mutex
        ((s.mutexes.get r.mutex).joinedBy (s.parking.issue t).2)).goTo t
          (.queued r (s.parking.issue t).2))
  | inherit (r : Request) (h : ParkHandle) (queued : s.point t = .queued r h)
      (unparked : s.parking.isUnparked h = true) :
      Move s t ((s.withParking (s.parking.resume t)).goTo t (.inside r))
  -- With the lock, at the test of the condition.
  | keep (r : Request) (timedOut : Bool) (inside : s.point t = .inside r)
      (admits : r.Admits (s.mutexes.get r.mutex).value timedOut)
      (keeps : r.leave (s.mutexes.get r.mutex).value = .keep) :
      Move s t (((s.setMutex r.mutex ((s.mutexes.get r.mutex).withValue
        (r.change timedOut (s.mutexes.get r.mutex).value))).setGuards t
          (r.mutex :: s.guards t)).goTo t
            (.idle (some (.entered (s.mutexes.get r.mutex).value timedOut))))
  | serve (r : Request) (timedOut : Bool) (inside : s.point t = .inside r)
      (admits : r.Admits (s.mutexes.get r.mutex).value timedOut)
      (leaves : r.leave (s.mutexes.get r.mutex).value ≠ .keep) :
      Move s t ((s.setMutex r.mutex ((s.mutexes.get r.mutex).withValue
        (r.change timedOut (s.mutexes.get r.mutex).value))).goTo t
          (.leaving r.mutex (r.leave (s.mutexes.get r.mutex).value)
            (.entered (s.mutexes.get r.mutex).value timedOut)))
  | enroll (r : Request) (c : Nat) (inside : s.point t = .inside r)
      (waits : r.Waits (s.mutexes.get r.mutex).value c) :
      Move s t (((s.withParking (s.parking.issue t).1).setCondvar c
        (s.condvars.get c ++ [(s.parking.issue t).2])).goTo t
          (.enrolled r (s.parking.issue t).2))
  -- On a condition variable.
  | yield (r : Request) (h : ParkHandle) (enrolled : s.point t = .enrolled r h) :
      Move s t ((s.setMutex r.mutex (s.mutexes.get r.mutex).release.1).goTo t
        (.yielding r h (s.mutexes.get r.mutex).release.2))
  | sleep (r : Request) (h : ParkHandle) (yielding : s.point t = .yielding r h none) :
      Move s t (s.goTo t (.asleep r h))
  | handOver (r : Request) (h next : ParkHandle)
      (yielding : s.point t = .yielding r h (some next)) :
      Move s t ((s.withParking (s.parking.unpark next)).goTo t (.asleep r h))
  | rouse (r : Request) (h : ParkHandle) (asleep : s.point t = .asleep r h)
      (unparked : s.parking.isUnparked h = true) :
      Move s t ((s.withParking (s.parking.resume t)).goTo t (.entering r))
  | tire (r : Request) (h : ParkHandle) (c : Nat) (asleep : s.point t = .asleep r h)
      (waiting : s.parking.isUnparked h = false) (expired : waitOf r = some (c, true)) :
      Move s t ((s.withParking (s.parking.resume t)).goTo t (.withdrawing r h))
  | withdraw (r : Request) (h : ParkHandle) (c : Nat) (expired : Bool)
      (withdrawing : s.point t = .withdrawing r h) (waits : waitOf r = some (c, expired)) :
      Move s t ((s.setCondvar c ((s.condvars.get c).filter (· != h))).goTo t (.entering r))
  | retry (r : Request) (h : ParkHandle) (withdrawing : s.point t = .withdrawing r h)
      (direct : waitOf r = none) : Move s t (s.goTo t (.entering r))
  -- On the way out.
  | unlock (m : Nat) (leave : Leave) (outcome : Outcome)
      (leaving : s.point t = .leaving m leave outcome) (silent : leave = .keep ∨ leave = .unlock) :
      Move s t (s.goTo t (.releasing m [] outcome))
  | signal (m c : Nat) (outcome : Outcome) (leaving : s.point t = .leaving m (.signal c) outcome) :
      Move s t ((s.setCondvar c (s.condvars.get c).tail).goTo t
        (.releasing m (s.condvars.get c).head?.toList outcome))
  | broadcast (m c : Nat) (outcome : Outcome)
      (leaving : s.point t = .leaving m (.broadcast c) outcome) :
      Move s t ((s.setCondvar c []).goTo t (.releasing m (s.condvars.get c) outcome))
  | release (m : Nat) (woken : List ParkHandle) (outcome : Outcome)
      (releasing : s.point t = .releasing m woken outcome) :
      Move s t (((s.setMutex m (s.mutexes.get m).release.1).setGuards t
        ((s.guards t).filter (· != m))).goTo t
          (.waking ((s.mutexes.get m).release.2.toList ++ woken) outcome))
  | wake (h : ParkHandle) (rest : List ParkHandle) (outcome : Outcome)
      (waking : s.point t = .waking (h :: rest) outcome) :
      Move s t ((s.withParking (s.parking.unpark h)).goTo t (.waking rest outcome))
  | finish (outcome : Outcome) (waking : s.point t = .waking [] outcome) :
      Move s t (s.goTo t (.idle (some outcome)))
  -- Parked outside of any mutex.
  | resume (h : ParkHandle) (expired : Option Bool) (parked : s.point t = .parked h expired)
      (unparked : s.parking.isUnparked h = true) :
      Move s t ((s.withParking (s.parking.resume t)).goTo t (.idle (some (.parked true))))
  | oversleep (h : ParkHandle) (parked : s.point t = .parked h (some true))
      (waiting : s.parking.isUnparked h = false) :
      Move s t ((s.withParking (s.parking.resume t)).goTo t (.idle (some (.parked false))))
  -- At any time.
  | expire (p : Point) (expired : (s.point t).expired? = some p) : Move s t (s.goTo t p)
  | nudge (h : ParkHandle) (loose : s.IsLoose h) :
      Move s t (s.withParking (s.parking.unpark h))
  | retire : Move s t (s.withParking (s.parking.finish t))

/-- A thread that begins something follows one of the rules, provided that it unparks nothing but
loose handles. -/
theorem move_of_start {act : Act} (h : s.start? t act = some s')
    (hloose : ∀ handle, act = .unpark handle → s.IsLoose handle) : s.Move t s' := by
  unfold start? at h
  split at h
  · next last hidle =>
    cases act with
    | request r =>
      cases h
      exact .request r hidle
    | tryLock m =>
      dsimp only at h
      split at h
      · next hnone =>
        cases h
        exact .refused m hidle (Mutex.tryLock_eq_none_iff.1 hnone)
      · next mutex hsome =>
        obtain ⟨hunlocked, rfl⟩ := Mutex.tryLock_eq_some hsome
        cases h
        exact .seize m hidle hunlocked
    | amend m f =>
      dsimp only at h
      split at h
      · next hkept =>
        cases h
        exact .amend m _ hidle hkept
      · cases h
    | leave m leave =>
      dsimp only at h
      split at h
      · next hkept =>
        cases h
        exact .leave m leave hidle hkept.1 hkept.2
      · cases h
    | park timed =>
      cases h
      exact .park _ hidle
    | unpark handle =>
      cases h
      exact .unpark handle hidle (hloose handle rfl)
  · cases h

/-- Whoever begins something is between two things to do. -/
theorem idle_of_start {act : Act} (h : s.start? t act = some s') :
    ∃ last, s.point t = .idle last := by
  unfold start? at h
  split at h
  · next last hidle => exact ⟨last, hidle⟩
  · cases h

/-- A thread that has passed the test of its condition keeps the lock or leaves. -/
theorem move_of_serve {r : Request} {timedOut : Bool} (hinside : s.point t = .inside r)
    (hadmits : r.Admits (s.mutexes.get r.mutex).value timedOut) :
    s.Move t (s.serve t r timedOut) := by
  by_cases hkeep : r.leave (s.mutexes.get r.mutex).value = .keep
  · have hmove := Move.keep r timedOut hinside hadmits hkeep
    simp only [serve, hkeep]
    exact hmove
  · have hmove := Move.serve r timedOut hinside hadmits hkeep
    unfold serve
    dsimp only
    split
    · next hkeep' => exact absurd hkeep' hkeep
    · exact hmove

theorem move_of_admitted {r : Request} (hinside : s.point t = .inside r) :
    s.Move t (s.admitted t r) := by
  unfold admitted
  dsimp only
  split
  · next hentry => exact move_of_serve hinside (by simp [Request.Admits, hentry])
  · next c condition hentry =>
    split
    · next hholds => exact .enroll r c hinside (by simp [Request.Waits, hentry, hholds])
    · next hceased => exact move_of_serve hinside (by simp [Request.Admits, hentry, hceased])
  · next c condition expired hentry =>
    split
    · next hholds =>
      split
      · next hexpired =>
        exact move_of_serve hinside (by simp [Request.Admits, hentry, hholds, hexpired])
      · next hexpired =>
        exact .enroll r c hinside (by simp [Request.Waits, hentry, hholds, hexpired])
    · next hceased => exact move_of_serve hinside (by simp [Request.Admits, hentry, hceased])

/-- A thread that goes on follows one of the rules. -/
theorem move_of_step (h : s.step? t = some s') : s.Move t s' := by
  unfold step? at h
  split at h
  · cases h
  · next r hpoint =>
    by_cases hlocked : (s.mutexes.get r.mutex).locked = true
    · rw [Mutex.lock_of_locked hlocked] at h
      cases h
      exact .join r hpoint hlocked
    · rw [Bool.not_eq_true] at hlocked
      rw [Mutex.lock_of_unlocked hlocked] at h
      cases h
      exact .take r hpoint hlocked
  · next r handle hpoint =>
    split at h
    · next hunparked =>
      cases h
      exact .inherit r handle hpoint hunparked
    · cases h
  · next r hpoint =>
    cases h
    exact move_of_admitted hpoint
  · next r handle hpoint =>
    cases h
    exact .yield r handle hpoint
  · next r handle next hpoint =>
    split at h
    · cases h
      exact .sleep r handle hpoint
    · next next =>
      cases h
      exact .handOver r handle next hpoint
  · next r handle hpoint =>
    split at h
    · next hunparked =>
      cases h
      exact .rouse r handle hpoint hunparked
    · next hwaiting =>
      split at h
      · next c hexpired =>
        cases h
        exact .tire r handle c hpoint (by simpa using hwaiting) hexpired
      · cases h
  · next r handle hpoint =>
    split at h
    · next c expired hwaits =>
      cases h
      exact .withdraw r handle c expired hpoint hwaits
    · next hdirect =>
      cases h
      exact .retry r handle hpoint hdirect
  · next m leave outcome hpoint =>
    split at h
    · cases h
      exact .unlock m _ outcome hpoint (.inl rfl)
    · cases h
      exact .unlock m _ outcome hpoint (.inr rfl)
    · next c =>
      cases h
      exact .signal m c outcome hpoint
    · next c =>
      cases h
      exact .broadcast m c outcome hpoint
  · next m woken outcome hpoint =>
    cases h
    exact .release m woken outcome hpoint
  · next outcome hpoint =>
    cases h
    exact .finish outcome hpoint
  · next handle rest outcome hpoint =>
    cases h
    exact .wake handle rest outcome hpoint
  · next handle expired hpoint =>
    split at h
    · next hunparked =>
      cases h
      exact .resume handle expired hpoint hunparked
    · next hwaiting =>
      split at h
      · next hexpired =>
        cases h
        exact .oversleep handle (hexpired ▸ hpoint) (by simpa using hwaiting)
      · cases h

theorem not_idle_of_step (h : s.step? t = some s') (last : Option Outcome) :
    s.point t ≠ .idle last := by
  intro hidle
  simp [step?, hidle] at h

theorem expire?_eq (s : Monitors) (t : ThreadId) :
    s.expire? t = (s.point t).expired?.map (s.goTo t) := by
  unfold expire?
  cases s.point t with
  | parked h expired => cases expired <;> rfl
  | _ => rfl

/-- A thread whose deadline passes follows one of the rules. -/
theorem move_of_expire (h : s.expire? t = some s') : s.Move t s' := by
  rw [expire?_eq, Option.map_eq_some_iff] at h
  obtain ⟨p, hp, rfl⟩ := h
  exact .expire p hp

/-! ### What a step leaves as it was -/

section Frame

theorem Move.point_other (move : s.Move t s') (hu : u ≠ t) : s'.point u = s.point u := by
  cases move <;> simp [hu]

theorem Move.guards_other (move : s.Move t s') (hu : u ≠ t) : s'.guards u = s.guards u := by
  cases move <;> simp [hu]

theorem Move.issued_le (move : s.Move t s') : s.parking.issued ≤ s'.parking.issued := by
  cases move <;> simp

/-- A thread waits by the handle by which it has waited before, or by a new one. -/
theorem Move.handle_cases (move : s.Move t s') {h : ParkHandle}
    (hh : (s'.point u).handle? = some h) :
    (s.point u).handle? = some h ∨
      (u = t ∧ h = ⟨s.parking.issued, t⟩ ∧ s.parking.issued < s'.parking.issued) := by
  by_cases hu : u = t
  · subst hu
    cases move with
    | expire p expired =>
      left
      simpa [Point.handle?_expired expired] using hh
    | _ => simp_all [Point.handle?]
  · rw [move.point_other hu] at hh
    exact .inl hh

/-- Only a thread past the lock puts a handle on the list of a condition variable, a new one. -/
theorem Move.listed_cases (move : s.Move t s') {c : Nat} {h : ParkHandle}
    (hh : h ∈ s'.condvars.get c) :
    h ∈ s.condvars.get c ∨
      ((∃ r, s.point t = .inside r) ∧ h = ⟨s.parking.issued, t⟩ ∧
        s.parking.issued < s'.parking.issued) := by
  cases move with
  | enroll r c' inside waits =>
    simp only [condvars_goTo, condvars_setCondvar, condvars_withParking, Table.get_set] at hh
    split at hh
    · next hc =>
      rcases List.mem_append.1 hh with hh | hh
      · exact .inl (hc ▸ hh)
      · exact .inr ⟨⟨r, inside⟩, List.mem_singleton.1 hh, by simp⟩
    · exact .inl hh
  | withdraw r h' c' expired withdrawing waits =>
    simp only [condvars_goTo, condvars_setCondvar, Table.get_set] at hh
    split at hh
    · next hc => exact .inl (hc ▸ (List.mem_filter.1 hh).1)
    · exact .inl hh
  | signal m c' outcome leaving =>
    simp only [condvars_goTo, condvars_setCondvar, Table.get_set] at hh
    split at hh
    · next hc => exact .inl (hc ▸ List.mem_of_mem_tail hh)
    · exact .inl hh
  | broadcast m c' outcome leaving =>
    simp only [condvars_goTo, condvars_setCondvar, Table.get_set] at hh
    split at hh
    · cases hh
    · exact .inl hh
  | _ => exact .inl hh

/-- A thread that is parked outside of any mutex has been so before, or has a new handle. -/
theorem Move.parked_cases (move : s.Move t s') {h : ParkHandle} {expired : Option Bool}
    (hparked : s'.point u = .parked h expired) :
    (∃ expired', s.point u = .parked h expired') ∨
      (u = t ∧ h = ⟨s.parking.issued, t⟩ ∧ s.parking.issued < s'.parking.issued ∧
        s'.condvars = s.condvars) := by
  by_cases hu : u = t
  · subst hu
    cases move with
    | expire p hexpired =>
      simp only [point_goTo, if_pos] at hparked
      subst hparked
      cases hpoint : s.point u with
      | parked h' expired' =>
        rw [hpoint] at hexpired
        cases expired' with
        | none => cases hexpired
        | some b =>
          cases hexpired
          exact .inl ⟨_, rfl⟩
      | _ =>
        rw [hpoint] at hexpired
        cases hexpired
    | park expired' idle =>
      simp only [point_goTo, if_pos, Point.parked.injEq] at hparked
      exact .inr ⟨rfl, hparked.1.symm, by simp, rfl⟩
    | _ => simp_all
  · rw [move.point_other hu] at hparked
    exact .inl ⟨_, hparked⟩

/-- A token is set by a thread that had its handle to unpark, or the handle is loose. -/
theorem Move.token_cases (move : s.Move t s') {i : Nat}
    (hi : s'.parking.tokens.get i = true) :
    s.parking.tokens.get i = true ∨ (∃ h ∈ (s.point t).wakes, h.id = i) ∨
      ∃ h, s.IsLoose h ∧ h.id = i := by
  cases move with
  | handOver r h next yielding =>
    simp only [parking_goTo, parking_withParking, Parking.tokens_unpark, Table.get_set] at hi
    split at hi
    · next heq => exact .inr (.inl ⟨next, by simp [yielding, Point.wakes], heq.symm⟩)
    · exact .inl hi
  | wake h rest outcome waking =>
    simp only [parking_goTo, parking_withParking, Parking.tokens_unpark, Table.get_set] at hi
    split at hi
    · next heq => exact .inr (.inl ⟨h, by simp [waking, Point.wakes], heq.symm⟩)
    · exact .inl hi
  | nudge h loose =>
    simp only [parking_withParking, Parking.tokens_unpark, Table.get_set] at hi
    split at hi
    · next heq => exact .inr (.inr ⟨h, loose, heq.symm⟩)
    · exact .inl hi
  | _ => exact .inl (by simpa using hi)

/-- Tokens are never taken back. -/
theorem Move.token (move : s.Move t s') {i : Nat} (hi : s.parking.tokens.get i = true) :
    s'.parking.tokens.get i = true := by
  cases move with
  | handOver | wake | nudge =>
    simp only [parking_goTo, parking_withParking, Parking.tokens_unpark, Table.get_set]
    split
    · rfl
    · exact hi
  | _ => simpa using hi

/-- A value is changed by a thread that keeps the lock, or by one that was let in. -/
theorem Move.value_cases (move : s.Move t s') (m : Nat) :
    (s'.mutexes.get m).value = (s.mutexes.get m).value ∨ (∃ last, s.point t = .idle last) ∨
      ∃ r timedOut, s.point t = .inside r ∧ r.mutex = m ∧
        (s'.mutexes.get m).value = r.change timedOut (s.mutexes.get m).value := by
  have hset : ∀ (m' : Nat) (mutex : Mutex), mutex.value = (s.mutexes.get m').value →
      ((s.mutexes.set m' mutex).get m).value = (s.mutexes.get m).value := by
    intro m' mutex hvalue
    rw [Table.get_set]
    split
    · next hm => rw [hvalue, hm]
    · rfl
  cases move with
  | amend | seize => exact .inr (.inl ⟨_, by assumption⟩)
  | take r => exact .inl (hset r.mutex _ rfl)
  | join r => exact .inl (hset r.mutex _ rfl)
  | keep r timedOut inside | serve r timedOut inside =>
    by_cases hm : r.mutex = m
    · subst hm
      exact .inr (.inr ⟨r, timedOut, inside, rfl, by simp [Mutex.withValue]⟩)
    · exact .inl (by simp [Table.get_set, Ne.symm hm])
  | yield r => exact .inl (hset r.mutex _ (by unfold Mutex.release; split <;> rfl))
  | release m' => exact .inl (hset m' _ (by unfold Mutex.release; split <;> rfl))
  | _ => exact .inl rfl

end Frame

end Monitors

end Junction.Sync
