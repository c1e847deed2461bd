import Junction.Proofs.Enrollment
import Junction.Proofs.Tallies

/-!
# One step at a semaphore

The permits of a semaphore are the value of a mutex. A thread that has the mutex takes a permit,
adds one, or puts itself onto the list of the condition variable; one that has added a permit takes
the first handle off the list. Every other step leaves both the permits and the list alone, but for
a waiting thread whose time has run out, which takes its own handle off.

## Main definitions

* `Ask` — what the commands on a semaphore ask of its mutex
* `given`, `taken` — what a use of a semaphore has come to
* `Engaged` — how the task of a worker goes with the point of its thread
* `Stride` — the five kinds of steps of a thread that uses a semaphore
* `Monitors.crowd` — how many threads are to look at the permits, or to wake one that does

## Main results

* `Monitors.stride_of_step` — every step is of one of the five kinds
* `Monitors.Move.crowd` — how a step changes the crowd
-/

namespace Junction.Sync

open Workers (Command)

/-! ### Uses of a semaphore -/

/-- The one semaphore of a pool. -/
def semaphore : Semaphore := ⟨0, 0⟩

/-- What a command on the semaphore asks of the mutex. The deadline may have passed meanwhile. -/
inductive Ask : Command → Request → Prop
  | take : Ask (.take 0) semaphore.wait
  | tryTake : Ask (.tryTake 0) semaphore.tryWait
  | takeUntil (short expired : Bool) : Ask (.takeUntil 0 short)
      { semaphore.waitUntil with entry := .whileHoldsUntil 0 Semaphore.isEmpty expired }
  | give : Ask (.give 0) semaphore.signal
  | giveBack : Ask (.giveBack 0) semaphore.signal
  | available : Ask (.available 0) semaphore.count

/-- How many permits a command has added, given its outcome at the mutex. -/
def given : Command → Outcome → Nat
  | .give _, .entered count _ | .giveBack _, .entered count _ =>
    if Semaphore.isFull count then 0 else 1
  | _, _ => 0

/-- How many permits a command has taken, given its outcome at the mutex. -/
def taken : Command → Outcome → Nat
  | .take _, .entered _ _ => 1
  | .tryTake _, .entered count _ => if 0 < count then 1 else 0
  | .takeUntil _ _, .entered _ timedOut => if timedOut then 0 else 1
  | _, _ => 0

namespace Ask

variable {command : Command} {r : Request} {count : Int} {timedOut : Bool}

theorem mutex (h : Ask command r) : r.mutex = 0 := by
  cases h <;> rfl

theorem condvar (h : Ask command r) {c : Nat} (hc : r.condvar? = some c) : c = 0 := by
  cases h with
  | take | takeUntil => exact (Option.some.inj hc).symm
  | _ => cases hc

theorem condvar_eq (h : Ask command r) (hsome : r.condvar?.isSome = true) :
    r.condvar? = some 0 := by
  obtain ⟨c, hc⟩ := Option.isSome_iff_exists.1 hsome
  rw [hc, h.condvar hc]

theorem expire (h : Ask command r) : Ask command r.expire := by
  cases h with
  | take => exact .take
  | tryTake => exact .tryTake
  | takeUntil short expired => exact .takeUntil short true
  | give => exact .give
  | giveBack => exact .giveBack
  | available => exact .available

/-- Only where there is no permit has a thread to wait. -/
theorem waits (h : Ask command r) {c : Nat} (hwaits : r.Waits count c) : c = 0 ∧ count = 0 := by
  cases h with
  | take => exact ⟨hwaits.2.symm, by simpa [Semaphore.isEmpty] using hwaits.1⟩
  | takeUntil => exact ⟨hwaits.2.2.symm, by simpa [Semaphore.isEmpty] using hwaits.1⟩
  | _ => exact absurd hwaits id

/-- The permits after a use are those before it, with what was given and without what was taken. -/
theorem change (h : Ask command r) (hadmits : r.Admits count timedOut) :
    r.change timedOut count + taken command (.entered count timedOut) =
      count + given command (.entered count timedOut) := by
  cases h with
  | take => simp [semaphore, Semaphore.wait, taken, given]
  | tryTake =>
    simp only [semaphore, Semaphore.tryWait, taken, given]
    split <;> simp
  | takeUntil => cases timedOut <;> simp [semaphore, Semaphore.waitUntil, taken, given]
  | give | giveBack =>
    simp only [semaphore, Semaphore.signal, taken, given]
    split <;> simp
  | available => simp [semaphore, Semaphore.count, taken, given]

/-- No permit is taken where there is none. -/
theorem taken_le (h : Ask command r) (hadmits : r.Admits count timedOut) (hcount : 0 ≤ count) :
    (taken command (.entered count timedOut) : Int) ≤ count := by
  cases h with
  | take =>
    have hsome : count ≠ 0 := by simpa [Semaphore.isEmpty] using hadmits.1
    simp only [taken]
    omega
  | tryTake =>
    simp only [taken]
    split <;> omega
  | takeUntil short expired =>
    cases timedOut with
    | true => simpa [taken] using hcount
    | false =>
      have hsome : count ≠ 0 := by simpa [Semaphore.isEmpty] using hadmits.1
      simp only [taken, Bool.false_eq_true, if_false]
      omega
  | give | giveBack | available => simpa [taken] using hcount

/-- A thread that finds a permit and has waited for one takes it. -/
theorem taken_of_waited (h : Ask command r) {c : Nat} (hc : r.condvar? = some c)
    (hadmits : r.Admits count timedOut) (hcount : 0 < count) :
    taken command (.entered count timedOut) = 1 := by
  cases h with
  | take => rfl
  | takeUntil short expired =>
    have hfound : Semaphore.isEmpty count = timedOut := hadmits.1
    have hsome : Semaphore.isEmpty count = false := by
      simp only [Semaphore.isEmpty, beq_eq_false_iff_ne, ne_eq]
      omega
    rw [hsome] at hfound
    simp [taken, ← hfound]
  | _ => cases hc

/-- Whoever waits for a permit gives none. -/
theorem given_of_waited (h : Ask command r) {c : Nat} (hc : r.condvar? = some c)
    (outcome : Outcome) : given command outcome = 0 := by
  cases h with
  | take | takeUntil => cases outcome <;> rfl
  | _ => cases hc

/-- Whoever has given a permit leaves with a signal, and nobody else does. -/
theorem leave (h : Ask command r) (count : Int) (timedOut : Bool) : r.leave count =
    if given command (.entered count timedOut) = 0 then .unlock else .signal 0 := by
  cases h with
  | give | giveBack =>
    simp only [semaphore, Semaphore.signal, given]
    by_cases hfull : Semaphore.isFull count = true <;> simp [hfull]
  | _ => rfl

/-- Nobody keeps the lock. -/
theorem leaves (h : Ask command r) : r.leave count ≠ .keep := by
  rw [h.leave count false]
  split <;> simp

/-- Who gives takes nothing. -/
theorem taken_of_given (h : Ask command r) {outcome : Outcome}
    (hgiven : given command outcome ≠ 0) :
    given command outcome = 1 ∧ taken command outcome = 0 := by
  cases h with
  | give | giveBack =>
    cases outcome with
    | entered count timedOut =>
      simp only [given, ne_eq, ite_eq_left_iff, not_forall] at hgiven ⊢
      obtain ⟨hroom, -⟩ := hgiven
      exact ⟨if_neg hroom, rfl⟩
    | _ => exact absurd rfl hgiven
  | _ => exact absurd (by cases outcome <;> rfl) hgiven

end Ask

/-! ### Points -/

/-- Whether the deadline of a request has passed. -/
def Request.isLate (r : Request) : Bool :=
  match r.entry with
  | .whileHoldsUntil _ _ expired => expired
  | _ => false

theorem Request.isLate_of_expired {r : Request} {c : Nat} (h : Monitors.waitOf r = some (c, true)) :
    r.isLate = true := by
  unfold Monitors.waitOf at h
  unfold isLate
  split at h
  · cases h
  · cases h
  · next heq =>
    cases h
    rw [heq]

theorem Request.exists_expired {r : Request} (h : r.isLate = true) :
    ∃ c, Monitors.waitOf r = some (c, true) := by
  unfold isLate at h
  unfold Monitors.waitOf
  split at h
  · next c condition expired heq =>
    rw [heq, h]
    exact ⟨c, rfl⟩
  · cases h

theorem Request.isLate_expire {r : Request} (h : r.isLate = true) : r.expire.isLate = true := by
  unfold expire
  split
  · rfl
  · exact h

/-- Nobody begins to wait after his deadline. -/
theorem Request.Waits.isLate {r : Request} {value : Int} {c : Nat} (h : r.Waits value c) :
    r.isLate = false := by
  unfold Waits at h
  unfold Request.isLate
  split at h
  · exact h.elim
  · next heq => rw [heq]
  · next heq => rw [heq, h.2.1]

namespace Point

/-- A thread that is about to signal. -/
def isSignalling : Point → Bool
  | leaving _ (.signal _) _ => true
  | _ => false

/-- A thread that is to look at the permits once there are some, or to wake one that does. -/
def isEager (p : Point) : Bool := p.isSignalling || (p.request?.bind Request.condvar?).isSome

/-- A thread whose deadline has passed. -/
def isLate (p : Point) : Bool := p.request?.any Request.isLate

/-- Whoever waits on a condition variable has asked for it, and gives up only after his deadline. -/
def IsApt : Point → Prop
  | enrolled r _ | yielding r _ _ | asleep r _ => r.condvar?.isSome = true
  | withdrawing r _ => r.condvar?.isSome = true ∧ r.isLate = true
  | _ => True

variable {p p' : Point}

theorem isSignalling_of_request {r : Request} (h : p.request? = some r) :
    p.isSignalling = false := by
  cases p with
  | leaving => cases h
  | _ => rfl

theorem isSignalling_expired (h : p.expired? = some p') : p'.isSignalling = p.isSignalling := by
  cases p with
  | parked handle expired =>
    cases expired with
    | none => cases h
    | some b =>
      cases h
      rfl
  | entering | queued | inside | enrolled | yielding | asleep | withdrawing =>
    cases h
    rfl
  | _ => cases h

theorem isApt_expired (h : p.expired? = some p') (hapt : p.IsApt) : p'.IsApt := by
  cases p with
  | parked handle expired =>
    cases expired with
    | none => cases h
    | some b =>
      cases h
      trivial
  | enrolled | yielding | asleep =>
    cases h
    simpa [IsApt] using hapt
  | withdrawing =>
    cases h
    exact ⟨by simpa using hapt.1, Request.isLate_expire hapt.2⟩
  | entering | queued | inside =>
    cases h
    trivial
  | _ => cases h

theorem isEager_of_request {r : Request} (h : p.request? = some r) :
    p.isEager = r.condvar?.isSome := by
  simp [isEager, isSignalling_of_request h, h]

@[simp] theorem isEager_idle {last : Option Outcome} : (idle last).isEager = false := rfl

@[simp] theorem isEager_unlock {m : Nat} {outcome : Outcome} :
    (leaving m .unlock outcome).isEager = false := rfl

@[simp] theorem isEager_signal {m c : Nat} {outcome : Outcome} :
    (leaving m (.signal c) outcome).isEager = true := rfl

@[simp] theorem isEager_releasing {m : Nat} {woken : List ParkHandle} {outcome : Outcome} :
    (releasing m woken outcome).isEager = false := rfl

end Point

/-- How the task of a worker goes with the point of its thread. -/
inductive Engaged : Workers.Task → Point → Prop
  | resting (last : Option Outcome) : Engaged .waiting (.idle last)
  | asking {command : Command} {p : Point} {r : Request} (asks : Ask command r)
      (request : p.request? = some r) : Engaged (.doing command) p
  | leaving (command : Command) {leave : Leave} (outcome : Outcome)
      (leaves : leave = .unlock ∨ leave = .signal 0) :
      Engaged (.doing command) (.leaving 0 leave outcome)
  | releasing (command : Command) (woken : List ParkHandle) (outcome : Outcome) :
      Engaged (.doing command) (.releasing 0 woken outcome)
  | waking (command : Command) (handles : List ParkHandle) (outcome : Outcome) :
      Engaged (.doing command) (.waking handles outcome)
  | done (command : Command) (outcome : Outcome) :
      Engaged (.doing command) (.idle (some outcome))

namespace Engaged

variable {command : Command} {p : Point} {r : Request}

theorem ask (h : Engaged (.doing command) p) (hr : p.request? = some r) : Ask command r := by
  cases h with
  | asking asks request =>
    cases request.symm.trans hr
    exact asks
  | _ => cases hr

theorem leave_cases (h : Engaged (.doing command) p) {m : Nat} {leave : Leave} {outcome : Outcome}
    (hp : p = .leaving m leave outcome) : m = 0 ∧ (leave = .unlock ∨ leave = .signal 0) := by
  cases h with
  | leaving command outcome' leaves =>
    cases hp
    exact ⟨rfl, leaves⟩
  | asking asks request =>
    rw [hp] at request
    cases request
  | _ => cases hp

/-- Whoever is about to signal has the lock. -/
theorem standing_of_signalling {task : Workers.Task} (h : Engaged task p)
    (hp : p.isSignalling = true) : p.standing = .leaving 0 := by
  cases h with
  | leaving => rfl
  | asking asks request =>
    rw [Point.isSignalling_of_request request] at hp
    cases hp
  | _ => cases hp

end Engaged

/-! ### Threads -/

namespace Monitors

variable {s s' : Monitors} {t u : ThreadId} {h : ParkHandle} {r : Request} {command : Command}

theorem Move.isApt (move : s.Move t s') (hapt : (s.point u).IsApt) : (s'.point u).IsApt := by
  by_cases hu : u = t
  · subst hu
    cases move with
    | enroll r c inside waits => simp [Point.IsApt, waits.condition.1]
    | tire r h c asleep waiting expired =>
      simp [Point.IsApt, Request.condvar?, expired, Request.isLate_of_expired expired]
    | expire p expired => simpa using Point.isApt_expired expired hapt
    | nudge | retire => exact hapt
    | _ => simp_all [Point.IsApt]
  · rwa [move.point_other hu]

theorem request?_serve (s : Monitors) (t : ThreadId) (r : Request) (timedOut : Bool) :
    ((s.serve t r timedOut).point t).request? = none := by
  unfold serve
  dsimp only
  split <;> simp [Point.request?]

/-- A thread goes on with what it has begun, before the same deadline. -/
theorem request?_of_step (h : s.step? t = some s') :
    (s'.point t).request? = none ∨ (s'.point t).request? = (s.point t).request? := by
  cases hpoint : s.point t with
  | inside r =>
    simp only [step?, hpoint, Option.some.injEq] at h
    subst h
    unfold admitted
    dsimp only
    split
    · exact .inl (request?_serve ..)
    · split
      · exact .inr (by simp [enroll, Point.request?])
      · exact .inl (request?_serve ..)
    · split
      · split
        · exact .inl (request?_serve ..)
        · exact .inr (by simp [enroll, Point.request?])
      · exact .inl (request?_serve ..)
  | entering r =>
    simp only [step?, hpoint] at h
    split at h
    · cases h
      exact .inr (by simp [Point.request?])
    · cases h
      exact .inr (by simp [Point.request?])
  | queued | enrolled | yielding | asleep | withdrawing =>
    simp only [step?, hpoint] at h
    right
    grind [point_goTo, Point.request?]
  | _ =>
    left
    simp only [step?, hpoint] at h
    grind [point_goTo, Point.request?]

/-- Nobody's deadline passes by a step. -/
theorem isLate_of_step (h : s.step? t = some s') (hlate : (s'.point u).isLate = true) :
    (s.point u).isLate = true := by
  by_cases hu : u = t
  · subst hu
    unfold Point.isLate at hlate ⊢
    rcases request?_of_step h with hnone | hsame
    · simp [hnone] at hlate
    · rwa [← hsame]
  · rwa [← (move_of_step h).point_other hu]

theorem engaged_of_move (hengaged : Engaged (.doing command) (s.point t)) (move : s.Move t s')
    (hbusy : ∀ last, s.point t ≠ .idle last) : Engaged (.doing command) (s'.point t) := by
  cases move with
  | request | refused | seize | amend | leave | park | unpark => exact absurd ‹_› (hbusy _)
  | take r hpoint | join r hpoint | inherit r _ hpoint | enroll r _ hpoint | yield r _ hpoint
  | sleep r _ hpoint | handOver r _ _ hpoint | rouse r _ hpoint | tire r _ _ hpoint
  | withdraw r _ _ _ hpoint | retry r _ hpoint =>
    exact .asking (hengaged.ask (r := r) (by simp [hpoint, Point.request?]))
      (by simp [Point.request?])
  | keep r timedOut inside admits keeps =>
    exact absurd keeps (hengaged.ask (by simp [inside, Point.request?])).leaves
  | serve r timedOut inside admits leaves =>
    have hask := hengaged.ask (r := r) (by simp [inside, Point.request?])
    rw [point_goTo, if_pos rfl, hask.mutex, hask.leave _ timedOut]
    exact .leaving _ _ (by split <;> simp)
  | unlock m leave outcome hpoint | signal m c outcome hpoint | broadcast m c outcome hpoint =>
    obtain ⟨rfl, -⟩ := hengaged.leave_cases hpoint
    simpa using .releasing ..
  | release m woken outcome hpoint => simpa using .waking ..
  | wake h rest outcome hpoint => simpa using .waking ..
  | finish outcome hpoint => simpa using .done ..
  | resume h expired hpoint | oversleep h hpoint =>
    rw [hpoint] at hengaged
    cases hengaged with
    | asking asks request => cases request
  | expire p expired =>
    have hrequest := Point.request?_expired expired
    rw [point_goTo, if_pos rfl]
    cases hr : (s.point t).request? with
    | some r => exact .asking (hengaged.ask hr).expire (by rw [hrequest, hr, Option.map_some])
    | none =>
      generalize s.point t = q at *
      cases hengaged with
      | asking asks request => cases hr.symm.trans request
      | _ => cases expired
  | nudge | retire => exact hengaged

/-- Nobody keeps the lock of a mutex. -/
theorem guards_of_engaged (hengaged : Engaged (.doing command) (s.point t)) (move : s.Move t s')
    (hbusy : ∀ last, s.point t ≠ .idle last) (hguards : s.guards u = []) : s'.guards u = [] := by
  by_cases hu : u = t
  · subst hu
    cases move with
    | request | refused | seize | amend | leave | park | unpark => exact absurd ‹_› (hbusy _)
    | keep r timedOut inside admits keeps =>
      exact absurd keeps (hengaged.ask (by simp [inside, Point.request?])).leaves
    | _ => simp [hguards]
  · rw [move.guards_other hu, hguards]

/-- The permits of the semaphore. -/
def permits (s : Monitors) : Int := (s.mutexes.get 0).value

/-- The handles of those who wait for a permit. -/
def line (s : Monitors) : List ParkHandle := s.condvars.get 0

/-- How many threads are to look at the permits, or to wake one that does. -/
def crowd (s : Monitors) : Nat := s.threads.tally (·.point.isEager.toNat)

theorem crowd_goTo (s : Monitors) (t : ThreadId) (p : Point) :
    (s.goTo t p).crowd + (s.point t).isEager.toNat = s.crowd + p.isEager.toNat :=
  Table.tally_set rfl s.threads t _

@[simp] theorem crowd_setGuards (s : Monitors) (t : ThreadId) (guards : List Nat) :
    (s.setGuards t guards).crowd = s.crowd := by
  have hset := Table.tally_set (f := fun k : Thread => k.point.isEager.toNat) rfl s.threads t
    { s.threads.get t with guards }
  unfold crowd setGuards
  dsimp only at hset ⊢
  omega

@[simp] theorem crowd_setMutex (s : Monitors) (m : Nat) (mutex : Mutex) :
    (s.setMutex m mutex).crowd = s.crowd := rfl

@[simp] theorem crowd_setCondvar (s : Monitors) (c : Nat) (handles : List ParkHandle) :
    (s.setCondvar c handles).crowd = s.crowd := rfl

@[simp] theorem crowd_withParking (s : Monitors) (parking : Parking) :
    (s.withParking parking).crowd = s.crowd := rfl

/-- A step changes the crowd by the part of the thread alone. -/
theorem Move.crowd (move : s.Move t s') :
    s'.crowd + (s.point t).isEager.toNat = s.crowd + (s'.point t).isEager.toNat := by
  have hgoTo (x : Monitors) (p : Point) (hcrowd : x.crowd = s.crowd)
      (hpoint : x.point t = s.point t) : (x.goTo t p).crowd + (s.point t).isEager.toNat =
        s.crowd + ((x.goTo t p).point t).isEager.toNat := by
    rw [← hpoint, crowd_goTo, hcrowd, point_goTo, if_pos rfl]
  cases move with
  | nudge | retire => rfl
  | _ => exact hgoTo _ _ (by simp) (by simp)

/-! ### Strides -/

/-- The five kinds of steps of a thread that uses the semaphore. -/
inductive Stride (s : Monitors) (t : ThreadId) (command : Command) (s' : Monitors) : Prop
  /-- The thread has looked at the permits, and goes its way. -/
  | pass (r : Request) (timedOut : Bool) (inside : s.point t = .inside r) (asks : Ask command r)
      (admits : r.Admits s.permits timedOut)
      (point : s'.point t = .leaving 0 (r.leave s.permits) (.entered s.permits timedOut))
      (permits : s'.permits = r.change timedOut s.permits) (line : s'.line = s.line)
  /-- The thread has found no permit, and waits for one. -/
  | enroll (r : Request) (h : ParkHandle) (inside : s.point t = .inside r) (asks : Ask command r)
      (waits : r.Waits s.permits 0) (owner : h.owner = t) (point : s'.point t = .enrolled r h)
      (permits : s'.permits = s.permits) (line : s'.line = s.line ++ [h])
  /-- The thread has added a permit, and takes the first one who waits off the list. -/
  | signal (outcome : Outcome) (point : s.point t = .leaving 0 (.signal 0) outcome)
      (releasing : s'.point t = .releasing 0 s.line.head?.toList outcome)
      (permits : s'.permits = s.permits) (line : s'.line = s.line.tail)
  /-- The thread was woken or has given up, and is to look at the permits again. -/
  | quit (r : Request) (h : ParkHandle) (awaits : (s.point t).awaits? = some (0, h))
      (request : (s.point t).request? = some r) (point : s'.point t = .entering r)
      (permits : s'.permits = s.permits) (line : s'.line = s.line.filter (· != h))
      (reason : s'.line = s.line ∨ r.isLate = true)
  /-- The thread changes nothing of which the others know. -/
  | other (permits : s'.permits = s.permits) (line : s'.line = s.line)
      (request : (s'.point t).request? = (s.point t).request? ∨
        (s'.point t).request? = (s.point t).request?.map Request.expire)
      (awaits : (s'.point t).awaits? = (s.point t).awaits?)
      (inside : ∀ r, s.point t = .inside r → ∃ r', s'.point t = .inside r')
      (signalling : (s'.point t).isSignalling = (s.point t).isSignalling)

theorem stride_of_move (move : s.Move t s') (hbusy : ∀ last, s.point t ≠ .idle last)
    (hengaged : Engaged (.doing command) (s.point t)) (hapt : (s.point t).IsApt)
    (hlisted : s.Listed) (hfair : s.Fair) : s.Stride t command s' := by
  -- Whoever comes back from waiting was taken off the list before, or its deadline has passed.
  have hquit : ∀ {r h}, (s.point t).awaits? = some (0, h) → (s.point t).request? = some r →
      s'.point t = .entering r → s'.permits = s.permits → (∀ c, s'.condvars.get c =
        (s.condvars.get c).filter (· != h)) → s.parking.isUnparked h = true ∨ r.isLate = true →
          s.Stride t command s' := by
    intro r h hawaits hr hpoint hpermits hcondvars hreason
    refine .quit r h hawaits hr hpoint hpermits (hcondvars 0) (hreason.imp_left fun hunparked => ?_)
    exact (hcondvars 0).trans (hlisted.filter_of_unparked hunparked 0)
  -- Permits change only while a thread is inside.
  have hstill : (∀ r, s.point t ≠ .inside r) → s'.permits = s.permits := by
    intro haway
    rcases move.value_cases 0 with hvalue | ⟨last, hidle⟩ | ⟨r, timedOut, hinside, -⟩
    · exact hvalue
    · exact absurd hidle (hbusy last)
    · exact absurd hinside (haway r)
  cases move with
  | request | refused | seize | amend | leave | park | unpark => exact absurd ‹_› (hbusy _)
  | keep r timedOut inside admits keeps =>
    exact absurd keeps (hengaged.ask (by simp [inside, Point.request?])).leaves
  | serve r timedOut inside admits leaves =>
    have hask := hengaged.ask (r := r) (by simp [inside, Point.request?])
    rw [hask.mutex] at admits
    refine .pass r timedOut inside hask admits ?_ ?_ rfl
    · simp [hask.mutex, permits]
    · simp [hask.mutex, permits, Mutex.withValue]
  | enroll r c inside waits =>
    have hask := hengaged.ask (r := r) (by simp [inside, Point.request?])
    rw [hask.mutex] at waits
    obtain ⟨rfl, -⟩ := hask.waits waits
    exact .enroll r (s.parking.issue t).2 inside hask waits rfl (by simp) rfl (by simp [line])
  | rouse r h asleep unparked =>
    have hr : (s.point t).request? = some r := by simp [asleep, Point.request?]
    have hcondvar := (hengaged.ask hr).condvar_eq (by simpa [asleep, Point.IsApt] using hapt)
    refine hquit (h := h) ?_ hr (by simp) (hstill (by simp [asleep])) ?_ (.inl unparked)
    · simp [asleep, Point.awaits?, hcondvar]
    · exact fun c => (hlisted.filter_of_unparked unparked c).symm
  | withdraw r h c expired withdrawing waits =>
    have hr : (s.point t).request? = some r := by simp [withdrawing, Point.request?]
    have hcondvar : r.condvar? = some c := by simp [Request.condvar?, waits]
    obtain rfl := (hengaged.ask hr).condvar hcondvar
    have hawaits : (s.point t).awaits? = some (0, h) := by
      simp [withdrawing, Point.awaits?, hcondvar]
    have hlate : r.isLate = true := by
      rw [withdrawing] at hapt
      exact hapt.2
    refine hquit hawaits hr (by simp) (hstill (by simp [withdrawing])) (fun c => ?_) (.inr hlate)
    simp only [condvars_goTo, condvars_setCondvar, Table.get_set]
    split
    · next hc => rw [hc]
    · next hc => exact (hlisted.filter_of_other hfair hawaits hc).symm
  | retry r h withdrawing direct =>
    simp [withdrawing, Point.IsApt, Request.condvar?, direct] at hapt
  | signal m c outcome leaving =>
    obtain ⟨rfl, hleave⟩ := hengaged.leave_cases leaving
    obtain rfl : c = 0 := by simpa using hleave
    refine .signal outcome leaving (by simp [line]) (hstill (by simp [leaving])) (by simp [line])
  | broadcast m c outcome leaving =>
    obtain ⟨-, hleave⟩ := hengaged.leave_cases leaving
    simp at hleave
  | unlock m leave outcome leaving silent =>
    refine .other (hstill (by simp [leaving])) rfl (.inl ?_) ?_ (by simp [leaving]) ?_
    · simp [leaving, Point.request?]
    · simp [leaving, Point.awaits?]
    · rcases silent with rfl | rfl <;> simp [leaving, Point.isSignalling]
  | expire p expired =>
    have hpoint : (s.goTo t p).point t = p := by simp
    refine .other rfl rfl (.inr ?_) ?_ (fun r hr => ?_) ?_
    · rw [hpoint, Point.request?_expired expired]
    · rw [hpoint, Point.awaits?_expired expired]
    · rw [hr] at expired
      cases expired
      exact ⟨_, hpoint⟩
    · rw [hpoint, Point.isSignalling_expired expired]
  | nudge | retire =>
    exact .other rfl rfl (.inl rfl) rfl (fun r hr => ⟨r, hr⟩) rfl
  | _ =>
    refine .other (hstill (by simp [*])) rfl (.inl ?_) ?_ (by simp [*]) ?_
    · simp_all [Point.request?]
    · simp_all [Point.awaits?]
    · simp_all [Point.isSignalling]

/-! ### Standstills -/

/-- Nobody oversleeps his deadline. -/
theorem isSome_step?_of_late (hasleep : s.point t = .asleep r h) (hlate : r.isLate = true) :
    (s.step? t).isSome = true := by
  obtain ⟨c, hexpired⟩ := Request.exists_expired hlate
  unfold step?
  rw [hasleep]
  dsimp only
  split
  · rfl
  · rw [hexpired]
    rfl

section Still

variable (hfair : s.Fair) (hstill : ∀ u, s.step? u = none) (hguards : ∀ u, s.guards u = [])
include hfair hstill hguards

/-- If nobody can go on and nobody keeps a lock, then no lock is taken. -/
theorem not_owns_of_still (t : ThreadId) (m : Nat) : ¬ s.Owns t m := by
  have hnot : ∀ u, ¬ (s.step? u).isSome = true := fun u hu => by simp [hstill u] at hu
  rintro (hkept | hleaving | hentered | ⟨h, hwaiting, hout⟩)
  · simp [hguards] at hkept
  · apply hnot t
    unfold standing at hleaving
    unfold step?
    cases hpoint : s.point t with
    | leaving m leave outcome => cases leave <;> rfl
    | releasing => rfl
    | _ =>
      rw [hpoint] at hleaving
      cases hleaving
  · apply hnot t
    unfold standing at hentered
    unfold step?
    cases hpoint : s.point t with
    | inside | enrolled => rfl
    | _ =>
      rw [hpoint] at hentered
      cases hentered
  · rcases hfair.alerted t m h hwaiting hout with hunparked | ⟨u, hwakes⟩
    · exact hnot t (isSome_step?_of_unparked hwaiting hunparked)
    · exact hnot u (isSome_step?_of_wakes hwakes)

/-- If nobody can go on and nobody keeps a lock, then whoever has something to do with a mutex is
asleep, and on a list. -/
theorem asleep_of_still (hlisted : s.Listed) (hapt : (s.point t).IsApt)
    (hr : (s.point t).request? = some r) :
    ∃ h c, s.point t = .asleep r h ∧ r.condvar? = some c ∧ h ∈ s.condvars.get c := by
  have hnone := hstill t
  unfold step? at hnone
  cases hpoint : s.point t with
  | asleep r' h =>
    obtain rfl : r' = r := by simpa [hpoint, Point.request?] using hr
    rw [hpoint] at hapt
    obtain ⟨c, hcondvar⟩ := Option.isSome_iff_exists.1 hapt
    have hawaits : (s.point t).awaits? = some (c, h) := by simp [hpoint, Point.awaits?, hcondvar]
    refine ⟨h, c, rfl, hcondvar, (hlisted.isSome_step? hawaits).resolve_right ?_⟩
    rintro ⟨u, hu, -⟩
    simp [hstill u] at hu
  | queued r' h =>
    have hstanding : s.standing t = .waiting r'.mutex h := by
      rw [standing, hpoint, Point.standing]
    -- A lock that is not taken is free, and nobody waits for it.
    have hfree : (s.mutexes.get r'.mutex).locked = false := by
      rw [← Bool.not_eq_true, hfair.locked_iff]
      rintro ⟨u, howns⟩
      exact not_owns_of_still hfair hstill hguards u _ howns
    refine absurd (.inr (.inr (.inr ⟨h, hstanding, ?_⟩)))
      (not_owns_of_still hfair hstill hguards t r'.mutex)
    simp [waiters, (hfair.sound r'.mutex).waiters_of_free hfree]
  | entering | yielding | withdrawing =>
    rw [hpoint] at hnone
    dsimp only at hnone
    split at hnone <;> cases hnone
  | inside | enrolled =>
    rw [hpoint] at hnone
    cases hnone
  | _ => simp [hpoint, Point.request?] at hr

end Still

end Monitors

end Junction.Sync
