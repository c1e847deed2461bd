import Mathlib.Data.Int.Order.Basic
import Mathlib.Data.List.Nodup
import Junction.Proofs.Permits

/-!
# Permits are neither lost nor made up

Any number of workers share one semaphore. They are told to wait for permits, with or without a
deadline, to try for one, to signal, and to give back or use up what they have got, and go on in any
order. Deadlines pass at any moment.

The permits are counted against what has come of the operations so far, so none is lost or made up.
That no wake-up is lost either is a matter of another count. While there are permits and somebody
is on the list, there are at least as many threads on their way, to look at the permits or to signal
once more, as there are permits. A signal adds one to both sides before it takes anybody off the
list, and whoever comes to the permits takes one, or was not on the way because of them.

## Main definitions

* `Pool`, `Pool.after` — workers that share a semaphore, and what they have come to after some
  actions
* `Pool.IsSound` — what is promised of a pool

## Main results

* `Workers.Sharing.move`, `Pool.IsCounted.observe` — what every step preserves
* `Pool.IsGood.isSound` — what follows for the permits
-/

namespace Junction.Sync

open Workers (Command)

/-! ### Workers that share a semaphore -/

namespace Workers

variable {s s' s'' : Workers} {w : ThreadId} {task task' : Task}

/-- A worker has gone over to a task, and what else has changed does not matter to a semaphore. -/
structure Assigned (s : Workers) (w : ThreadId) (task : Task) (s' : Workers) : Prop
    extends s.Takes w task s' where
  /-- The monitors are as they were. -/
  monitors : s'.monitors = s.monitors

namespace Assigned

theorem trans (h : s.Assigned w task s') (h' : s'.Assigned w task' s'') :
    s.Assigned w task' s'' :=
  ⟨h.toTakes.trans h'.toTakes, h'.monitors.trans h.monitors⟩

theorem reply (answer : Answer) : s.Assigned w .waiting (s.reply w answer) := ⟨.reply answer, rfl⟩

theorem setPermits (sem : Nat) (f : Nat → Nat) :
    s.Assigned w (s.workers.get w).task (s.setPermits w sem f) := ⟨.update rfl, rfl⟩

/-- A worker that has carried out a command waits for the next one. -/
theorem complete (command : Command) (outcome : Outcome) :
    s.Assigned w .waiting (s.complete w command outcome) :=
  ⟨.complete command outcome, (SameThreads.complete command outcome).monitors⟩

end Assigned

/-- A worker that cannot go on has a thread that cannot go on. -/
theorem step?_eq_none (h : s.step? w = none) : s.monitors.step? w = none := by
  unfold step? at h
  split at h
  · cases h
  · assumption

/-- What holds of workers that share a semaphore, whatever its permits are. -/
structure Sharing (s : Workers) : Prop where
  /-- Locks are fair. -/
  fair : s.monitors.Fair
  /-- Lists are right. -/
  listed : s.monitors.Listed
  /-- Whoever waits has reason to. -/
  apt : ∀ w, (s.monitors.point w).IsApt
  /-- Nobody keeps a lock. -/
  unkept : ∀ w, s.monitors.guards w = []
  /-- Threads do what their workers were told. -/
  engaged : ∀ w, Engaged (s.workers.get w).task (s.monitors.point w)
  /-- Nobody else was told anything. -/
  idle : ∀ w, s.count ≤ w → (s.workers.get w).task = .waiting
  /-- This is the semaphore. -/
  semaphore : s.semaphores.get 0 = semaphore

namespace Sharing

variable {command : Command} {monitors : Monitors} (hsharing : s.Sharing)
include hsharing

/-- A thread does nothing more for a worker that waits for a command. -/
theorem idle_of_waiting (htask : (s.workers.get w).task = .waiting) :
    ∃ last, s.monitors.point w = .idle last := by
  have hengaged := hsharing.engaged w
  rw [htask] at hengaged
  generalize s.monitors.point w = p at *
  cases hengaged with
  | resting last => exact ⟨last, rfl⟩

/-- A worker waits for a command or carries one out. -/
theorem waiting_or_doing (w : ThreadId) :
    (s.workers.get w).task = .waiting ∨ ∃ command, (s.workers.get w).task = .doing command := by
  have hengaged := hsharing.engaged w
  generalize s.monitors.point w = p, (s.workers.get w).task = task at *
  cases hengaged with
  | resting last => exact .inl rfl
  | _ => exact .inr ⟨_, rfl⟩

/-- A worker whose thread is not between two things to do carries out a command. -/
theorem doing_of_busy (hbusy : ∀ last, s.monitors.point w ≠ .idle last) :
    ∃ command, (s.workers.get w).task = .doing command := by
  refine (hsharing.waiting_or_doing w).resolve_left fun htask => ?_
  obtain ⟨last, hidle⟩ := hsharing.idle_of_waiting htask
  exact hbusy last hidle

/-- A worker that carries out a command is one of those that can be told something. -/
theorem lt_count (htask : (s.workers.get w).task = .doing command) : w < s.count := by
  refine Nat.lt_of_not_le fun hle => ?_
  rw [hsharing.idle w hle] at htask
  cases htask

/-- A worker has gone over to a task that goes with what its thread does, and the other threads are
where they were. -/
theorem of_assigned (hassigned : Assigned { s with monitors } w task s') (fair : monitors.Fair)
    (listed : monitors.Listed) (apt : ∀ u, (monitors.point u).IsApt)
    (unkept : ∀ u, monitors.guards u = [])
    (others : ∀ u, u ≠ w → monitors.point u = s.monitors.point u)
    (hengaged : Engaged task (monitors.point w)) (hcount : task = .waiting ∨ w < s.count) :
    s'.Sharing := by
  have hmonitors : s'.monitors = monitors := hassigned.monitors
  refine ⟨hmonitors ▸ fair, hmonitors ▸ listed, hmonitors ▸ apt, hmonitors ▸ unkept, fun u => ?_,
    fun u hu => ?_, ?_⟩
  · by_cases hw : u = w
    · rw [hw, hassigned.task, hmonitors]
      exact hengaged
    · rw [hassigned.others u hw, hmonitors, others u hw]
      exact hsharing.engaged u
  · rw [hassigned.count] at hu
    by_cases hw : u = w
    · rw [hw, hassigned.task]
      exact hcount.resolve_right fun hlt => Nat.not_lt.2 hu (hw ▸ hlt)
    · rw [hassigned.others u hw]
      exact hsharing.idle u hu
  · rw [hassigned.semaphores]
    exact hsharing.semaphore

/-- A worker waits for the next command. -/
theorem rest (hassigned : s.Assigned w .waiting s')
    (hidle : ∃ last, s.monitors.point w = .idle last) : s'.Sharing := by
  obtain ⟨last, hlast⟩ := hidle
  exact hsharing.of_assigned hassigned hsharing.fair hsharing.listed hsharing.apt hsharing.unkept
    (fun _ _ => rfl) (hlast ▸ .resting last) (.inl rfl)

/-- A worker begins to carry out a command. -/
theorem begin {r : Request} (hw : w < s.count) (htask : (s.workers.get w).task = .waiting)
    (asks : Ask command r)
    (hassigned : Assigned { s with monitors := s.monitors.goTo w (.entering r) } w
      (.doing command) s') : s'.Sharing := by
  obtain ⟨last, hidle⟩ := hsharing.idle_of_waiting htask
  have move := Monitors.Move.request (s := s.monitors) r hidle
  exact hsharing.of_assigned hassigned (hsharing.fair.move move)
    (hsharing.listed.move hsharing.fair move) (fun u => move.isApt (hsharing.apt u))
    (by simp [hsharing.unkept]) (fun u hu => move.point_other hu)
    (.asking asks (by simp [Point.request?])) (.inr hw)

/-- A thread has gone on with what its worker was told. -/
theorem move (htask : (s.workers.get w).task = .doing command)
    (move : s.monitors.Move w monitors) (hbusy : ∀ last, s.monitors.point w ≠ .idle last) :
    Sharing { s with monitors } := by
  have hengaged := hsharing.engaged w
  rw [htask] at hengaged
  exact hsharing.of_assigned ⟨⟨rfl, rfl, htask, fun _ _ => rfl⟩, rfl⟩ (hsharing.fair.move move)
    (hsharing.listed.move hsharing.fair move) (fun u => move.isApt (hsharing.apt u))
    (fun u => Monitors.guards_of_engaged hengaged move hbusy (hsharing.unkept u))
    (fun u hu => move.point_other hu) (Monitors.engaged_of_move hengaged move hbusy)
    (.inr (hsharing.lt_count htask))

theorem stride (htask : (s.workers.get w).task = .doing command)
    (move : s.monitors.Move w monitors) (hbusy : ∀ last, s.monitors.point w ≠ .idle last) :
    s.monitors.Stride w command monitors := by
  have hengaged := hsharing.engaged w
  rw [htask] at hengaged
  exact Monitors.stride_of_move move hbusy hengaged (hsharing.apt w) hsharing.listed hsharing.fair

/-- A worker that goes on takes a step of its thread, or has carried out its command. -/
theorem step?_cases (h : s.step? w = some s') :
    ∃ command, (s.workers.get w).task = .doing command ∧
      ((∃ monitors, s.monitors.step? w = some monitors ∧ s' = { s with monitors }) ∨
        (∃ last, s.monitors.point w = .idle last) ∧ s.Assigned w .waiting s') := by
  unfold step? at h
  split at h
  · next monitors heq =>
    cases h
    obtain ⟨command, htask⟩ := hsharing.doing_of_busy (Monitors.not_idle_of_step heq)
    exact ⟨command, htask, .inl ⟨monitors, heq, rfl⟩⟩
  · rcases hsharing.waiting_or_doing w with htask | ⟨command, htask⟩
    · simp [htask] at h
    · rw [htask] at h
      split at h
      · next outcome heq hidle =>
        cases heq
        cases h
        exact ⟨_, htask, .inr ⟨⟨_, hidle⟩, .complete _ outcome⟩⟩
      · next heq => cases heq
      · next heq _ => cases heq
      · next heq _ => cases heq
      · next heq _ => cases heq
      · cases h

/-- If nobody can go on, then whoever carries out a command sleeps on the list. -/
theorem asleep_of_still (hstill : ∀ u, s.step? u = none)
    (htask : (s.workers.get w).task = .doing command) :
    ∃ r, ∃ h ∈ s.monitors.line, s.monitors.point w = .asleep r h ∧ h.owner = w := by
  have hthreads : ∀ u, s.monitors.step? u = none := fun u => step?_eq_none (hstill u)
  have hengaged := hsharing.engaged w
  rw [htask] at hengaged
  cases hr : (s.monitors.point w).request? with
  | some r =>
    obtain ⟨h, c, hasleep, hcondvar, hh⟩ := Monitors.asleep_of_still hsharing.fair hthreads
      hsharing.unkept hsharing.listed (hsharing.apt w) hr
    obtain rfl := (hengaged.ask hr).condvar hcondvar
    have hhandle : (s.monitors.point w).handle? = some h := by rw [hasleep, Point.handle?]
    exact ⟨r, h, hh, hasleep, hsharing.fair.numbered.owner w h hhandle⟩
  | none =>
    -- Whoever is past the permits can go on until the worker has its answer.
    have hnone := hthreads w
    have hdone := hstill w
    unfold Monitors.step? at hnone
    unfold step? at hdone
    rw [hthreads w, htask] at hdone
    generalize s.monitors.point w = p at *
    cases hengaged with
    | asking asks request => cases hr.symm.trans request
    | leaving command outcome leaves => rcases leaves with rfl | rfl <;> cases hnone
    | releasing => cases hnone
    | waking command handles => cases handles <;> cases hnone
    | done => cases hdone

end Sharing

end Workers

/-! ### Pools -/

/-- Workers that share one semaphore, with what has been seen of them. -/
structure Pool where
  /-- The workers. -/
  workers : Workers
  /-- How many permits were added. -/
  signals : Nat := 0
  /-- How many waits have got a permit. -/
  takes : Nat := 0
  /-- How many of them have got it after their deadline. -/
  lateTakes : Nat := 0
  /-- The workers that have found no permit and wait for one, in the order in which they have put
  themselves onto the list. -/
  queue : List ThreadId := []
  /-- How often a worker of the queue was woken in vain and had to wait anew. -/
  returns : Nat := 0

namespace Pool

/-- What can be done with a semaphore. -/
inductive Operation where
  /-- Wait for a permit. -/
  | wait
  /-- Wait for a permit until a deadline. -/
  | waitUntil
  /-- Take a permit if there is one. -/
  | tryWait
  /-- Add a permit. -/
  | signal
  /-- Give a permit back. -/
  | drop
  /-- Use a permit up. -/
  | consume
  /-- Ask for the number of permits. -/
  | available
deriving DecidableEq, Repr

/-- The command that tells a worker to do it. -/
def Operation.command : Operation → Command
  | .wait => .take 0
  | .waitUntil => .takeUntil 0 false
  | .tryWait => .tryTake 0
  | .signal => .give 0
  | .drop => .giveBack 0
  | .consume => .consume 0
  | .available => .available 0

/-- What can happen in a pool. -/
inductive Action where
  /-- A worker that waits for a command is told to do something. -/
  | tell (w : ThreadId) (operation : Operation)
  /-- A worker goes on, if it can. -/
  | go (w : ThreadId)
  /-- The deadline of a worker passes, if it has one. -/
  | expire (w : ThreadId)
deriving DecidableEq, Repr

/-- Some workers and a semaphore with a number of permits. -/
def start (count permits : Nat) : Pool where
  workers := .start count [] 0 [permits] []

/-- The threads and what they share. -/
abbrev monitors (x : Pool) : Monitors := x.workers.monitors

/-- What a worker is about. -/
abbrev task (x : Pool) (w : ThreadId) : Workers.Task := (x.workers.workers.get w).task

/-- The point of the thread of a worker. -/
abbrev point (x : Pool) (w : ThreadId) : Point := x.monitors.point w

/-- The permits. -/
abbrev permits (x : Pool) : Int := x.monitors.permits

/-- The handles of those who wait for a permit. -/
abbrev line (x : Pool) : List ParkHandle := x.monitors.line

/-- What is seen of a worker that goes on: that it has looked at the permits and goes its way, or
that it has found none and waits. -/
def observe (x : Pool) (w : ThreadId) (workers : Workers) : Pool :=
  match x.task w, x.point w, workers.monitors.point w with
  | .doing command, .inside r, .leaving _ _ outcome =>
    { x with
      workers, signals := x.signals + given command outcome,
      takes := x.takes + taken command outcome,
      lateTakes := x.lateTakes + if r.isLate then taken command outcome else 0,
      queue := x.queue.erase w }
  | .doing _, .inside _, .enrolled _ _ =>
    { x with workers, queue := x.queue.erase w ++ [w], returns := x.returns + x.queue.count w }
  | _, _, _ => { x with workers }

/-- The pool after an action. -/
def act (x : Pool) : Action → Pool
  | .tell w operation =>
    if w < x.workers.count ∧ x.task w = .waiting then
      { x with workers := x.workers.begin w operation.command }
    else x
  | .go w =>
    match x.workers.step? w with
    | some workers => x.observe w workers
    | none => x
  | .expire w =>
    match x.monitors.expire? w with
    | some monitors => x.observe w { x.workers with monitors }
    | none => x

/-- The pool after some actions. -/
def after (x : Pool) (actions : List Action) : Pool := actions.foldl act x

/-- What is promised of a pool that has begun with a number of permits. -/
structure IsSound (initial : Nat) (x : Pool) : Prop where
  /-- There are never less than no permits. -/
  nonneg : 0 ≤ x.permits
  /-- Permits are there at the beginning or were added, and were not taken. -/
  balance : x.permits = initial + x.signals - x.takes
  /-- If nobody can go on and there is a permit, then nobody waits for one. -/
  blocked : (∀ w, x.workers.step? w = none) → 0 < x.permits → ∀ w, x.task w = .waiting

/-! ### What is seen -/

section Observe

variable {x : Pool} {w : ThreadId} {workers : Workers} {command : Command} {r : Request}

theorem workers_observe : (x.observe w workers).workers = workers := by
  unfold observe
  split <;> rfl

theorem observe_of_leaving {m : Nat} {leave : Leave} {outcome : Outcome}
    (htask : x.task w = .doing command) (hinside : x.point w = .inside r)
    (hleaving : workers.monitors.point w = .leaving m leave outcome) :
    x.observe w workers =
      { x with
        workers, signals := x.signals + given command outcome,
        takes := x.takes + taken command outcome,
        lateTakes := x.lateTakes + if r.isLate then taken command outcome else 0,
        queue := x.queue.erase w } := by
  simp only [observe, htask, hinside, hleaving]

theorem observe_of_enrolled {r' : Request} {h : ParkHandle}
    (htask : x.task w = .doing command) (hinside : x.point w = .inside r)
    (henrolled : workers.monitors.point w = .enrolled r' h) :
    x.observe w workers =
      { x with
        workers, queue := x.queue.erase w ++ [w], returns := x.returns + x.queue.count w } := by
  simp only [observe, htask, hinside, henrolled]

/-- Nothing is seen of a thread that does not leave the test of its condition. -/
theorem observe_of_inside
    (hinside : ∀ r, x.point w = .inside r → ∃ r', workers.monitors.point w = .inside r') :
    x.observe w workers = { x with workers } := by
  unfold observe
  split
  · next hpoint hleaving =>
    obtain ⟨r', hr'⟩ := hinside _ hpoint
    rw [hr'] at hleaving
    cases hleaving
  · next hpoint henrolled =>
    obtain ⟨r', hr'⟩ := hinside _ hpoint
    rw [hr'] at henrolled
    cases henrolled
  · rfl

end Observe

/-- A worker that is told to do something begins to use the semaphore, or is done at once. -/
theorem begin_cases {s : Workers} {w : ThreadId} (hsharing : s.Sharing)
    (htask : (s.workers.get w).task = .waiting) (operation : Operation) :
    s.Assigned w .waiting (s.begin w operation.command) ∨ ∃ command r, Ask command r ∧
      Workers.Assigned { s with monitors := s.monitors.goTo w (.entering r) } w (.doing command)
        (s.begin w operation.command) := by
  obtain ⟨last, hidle⟩ := hsharing.idle_of_waiting htask
  have hact : ∀ {s₁ : Workers} {command : Command} {r r' : Request}, r' = r →
      s.Assigned w (s.workers.get w).task s₁ →
      Workers.Assigned { s with monitors := s.monitors.goTo w (.entering r) } w (.doing command)
        (s₁.act w command (.request r')) := by
    rintro s₁ command _ r rfl hsame
    have hstart : s₁.monitors.start? w (.request r) = some (s.monitors.goTo w (.entering r)) := by
      rw [hsame.monitors, Monitors.start?, hidle]
    unfold Workers.act
    rw [hstart]
    have hbegun := hsame.toTakes.trans
      (Workers.SameTasks.takes (.withMonitors (s.monitors.goTo w (.entering r)))
        (.assign (.doing command)))
    exact ⟨⟨hbegun.count, hbegun.semaphores, hbegun.task, hbegun.others⟩, rfl⟩
  have hsame : s.Assigned w (s.workers.get w).task s := ⟨⟨rfl, rfl, rfl, fun _ _ => rfl⟩, rfl⟩
  have hsem := hsharing.semaphore
  cases operation with
  | wait => exact .inr ⟨_, _, .take, hact (congrArg Semaphore.wait hsem) hsame⟩
  | waitUntil =>
    exact .inr ⟨_, _, .takeUntil false false, hact (congrArg Semaphore.waitUntil hsem) hsame⟩
  | tryWait => exact .inr ⟨_, _, .tryTake, hact (congrArg Semaphore.tryWait hsem) hsame⟩
  | signal => exact .inr ⟨_, _, .give, hact (congrArg Semaphore.signal hsem) hsame⟩
  | drop =>
    simp only [Operation.command, Workers.begin, Workers.withPermit]
    split
    · exact .inr ⟨_, _, .giveBack, hact (congrArg Semaphore.signal hsem) (.setPermits 0 _)⟩
    · exact .inl (.reply _)
  | consume =>
    simp only [Operation.command, Workers.begin, Workers.withPermit]
    split
    · exact .inl ((Workers.Assigned.setPermits 0 _).trans (.reply _))
    · exact .inl (.reply _)
  | available => exact .inr ⟨_, _, .available, hact (congrArg Semaphore.count hsem) hsame⟩

/-! ### Counts -/

end Pool

namespace Monitors

variable {s s' : Monitors} {t u : ThreadId} {command : Command} {initial signals takes : Nat}

/-- The permits agree with what has been seen, and nobody waits for them in vain. -/
structure Counted (s : Monitors) (initial signals takes : Nat) : Prop where
  /-- There are never less than no permits. -/
  nonneg : 0 ≤ s.permits
  /-- Permits are there at the beginning or were added, or else were taken. -/
  balance : s.permits + takes = initial + signals
  /-- While there are permits and somebody is on the list, the crowd is large enough for both. -/
  covered : 0 < s.permits → s.line ≠ [] → s.permits + s.line.length ≤ s.crowd
  /-- Whoever is about to signal has added a permit, and has the lock still. -/
  signalled : ∀ u, (s.point u).isSignalling = true → 0 < s.permits

section Line

variable (hlisted : s.Listed)
include hlisted

/-- No thread is twice on a list. -/
theorem Listed.nodup_owners (c : Nat) : ((s.condvars.get c).map (·.owner)).Nodup := by
  refine List.Nodup.map_on (fun h hh h' hh' howner => ?_) (hlisted.nodup c)
  have hawaits := hlisted.awaits c h hh
  rw [howner, hlisted.awaits c h' hh'] at hawaits
  cases hawaits
  rfl

/-- Everybody on the list is one of the crowd. -/
theorem Listed.length_line_le_crowd : s.line.length ≤ s.crowd := by
  have hle := Table.length_le_tally (f := fun k : Thread => k.point.isEager.toNat) (t := s.threads)
    rfl (hlisted.nodup_owners 0) ?_
  · rwa [List.length_map] at hle
  · intro u hu
    obtain ⟨h, hh, rfl⟩ := List.mem_map.1 hu
    obtain ⟨r, hr, hcondvar⟩ := Point.request?_of_awaits (hlisted.awaits 0 h hh)
    have heager : (s.point h.owner).isEager = true := by
      rw [Point.isEager_of_request hr, hcondvar, Option.isSome_some]
    change 0 < (s.point h.owner).isEager.toNat
    rw [heager]
    exact Nat.one_pos

end Line

/-- Whoever is about to signal has the lock, so nobody else looks at the permits meanwhile. -/
theorem Fair.eq_of_signalling (hfair : s.Fair) {task : Workers.Task}
    (hengaged : Engaged task (s.point u))
    (hsignalling : (s.point u).isSignalling = true) {r : Request} (hmutex : r.mutex = 0)
    (hinside : s.point t = .inside r) : u = t := by
  have hleaving : s.standing u = .leaving 0 := hengaged.standing_of_signalling hsignalling
  have hentered : s.standing t = .entered 0 := by rw [standing, hinside, Point.standing, hmutex]
  exact hfair.owner_unique (.inr (.inl hleaving)) (.inr (.inr (.inl hentered)))

namespace Counted

variable (hcounted : s.Counted initial signals takes)
include hcounted

/-- Nothing is to be counted where the permits and who is about to signal stay as they are, and
where nobody comes onto the list or leaves the crowd alone. -/
theorem of_same (permits : s'.permits = s.permits)
    (hcovered : 0 < s.permits → s'.line ≠ [] →
      s.line ≠ [] ∧ s'.line.length + s.crowd ≤ s.line.length + s'.crowd)
    (hsignalled : ∀ u, (s'.point u).isSignalling = true → (s.point u).isSignalling = true) :
    s'.Counted initial signals takes := by
  refine ⟨permits ▸ hcounted.nonneg, permits ▸ hcounted.balance, ?_, ?_⟩
  · intro hpos hline
    rw [permits] at hpos ⊢
    obtain ⟨hbefore, hle⟩ := hcovered hpos hline
    have hbound := hcounted.covered hpos hbefore
    omega
  · intro u hu
    exact permits ▸ hcounted.signalled u (hsignalled u hu)

/-- A thread that looks at the permits takes one, adds one, or leaves them alone. -/
theorem pass (hfair : s.Fair) (hlisted : s.Listed) {task : ThreadId → Workers.Task}
    (hengaged : ∀ u, Engaged (task u) (s.point u)) (move : s.Move t s') {r : Request}
    {timedOut : Bool} (inside : s.point t = .inside r) (asks : Ask command r)
    (admits : r.Admits s.permits timedOut)
    (point : s'.point t = .leaving 0 (r.leave s.permits) (.entered s.permits timedOut))
    (permits : s'.permits = r.change timedOut s.permits) (line : s'.line = s.line) :
    s'.Counted initial (signals + given command (.entered s.permits timedOut))
      (takes + taken command (.entered s.permits timedOut)) := by
  have hcrowd := move.crowd
  have hbalance := hcounted.balance
  have hnonneg := hcounted.nonneg
  have hchange := asks.change admits
  have htaken := asks.taken_le admits hnonneg
  have hgiven (hsome : given command (.entered s.permits timedOut) ≠ 0) := asks.taken_of_given hsome
  rw [← permits] at hchange
  rw [asks.leave _ timedOut] at point
  rw [Point.isEager_of_request (r := r) (by rw [inside, Point.request?])] at hcrowd
  refine ⟨by omega, by push_cast; omega, fun hpos hline => ?_, fun u hu => ?_⟩
  · rw [line] at hline ⊢
    by_cases hnone : given command (.entered s.permits timedOut) = 0
    · -- There was a permit already. A thread that was on its way to it has taken it.
      have hbound := hcounted.covered (by omega) hline
      rw [point, if_pos hnone, Point.isEager_unlock] at hcrowd
      cases hcondvar : r.condvar? with
      | none =>
        simp only [hcondvar, Option.isSome_none, Bool.toNat_false] at hcrowd
        omega
      | some c =>
        have hone := asks.taken_of_waited hcondvar admits (by omega)
        simp only [hcondvar, Option.isSome_some, Bool.toNat_true, Bool.toNat_false] at hcrowd
        omega
    · -- The permit is new, and so is the signal to come.
      obtain ⟨hone, hzero⟩ := hgiven hnone
      have hcondvar : r.condvar? = none := by
        cases hcondvar : r.condvar? with
        | none => rfl
        | some c => exact absurd (asks.given_of_waited hcondvar _) hnone
      have hlength := hlisted.length_line_le_crowd
      rw [point, if_neg hnone, Point.isEager_signal, hcondvar] at hcrowd
      simp only [Option.isSome_none, Bool.toNat_true, Bool.toNat_false] at hcrowd
      by_cases hsome : 0 < s.permits
      · have hbound := hcounted.covered hsome hline
        omega
      · omega
  · by_cases ht : u = t
    · rw [ht, point] at hu
      split at hu
      · cases hu
      · next hsome =>
        have hone := hgiven hsome
        omega
    · rw [move.point_other ht] at hu
      exact absurd (hfair.eq_of_signalling (hengaged u) hu asks.mutex inside) ht

/-- A step in which the thread does not go its way from the permits leaves the counts alone. -/
theorem stride (move : s.Move t s') (hstride : s.Stride t command s')
    (hstays : ∀ r m leave outcome, s.point t = .inside r → s'.point t ≠ .leaving m leave outcome) :
    s'.Counted initial signals takes := by
  have hcrowd := move.crowd
  -- Whoever is about to signal was so before, if the thread itself is not or was so too.
  have hsignalled (ht : (s'.point t).isSignalling = true → (s.point t).isSignalling = true)
      (u : ThreadId) (hu : (s'.point u).isSignalling = true) : (s.point u).isSignalling = true := by
    by_cases hut : u = t
    · exact hut ▸ ht (hut ▸ hu)
    · rwa [move.point_other hut] at hu
  cases hstride with
  | pass r timedOut inside asks admits point => exact absurd point (hstays r _ _ _ inside)
  | enroll r h inside asks waits owner point permits line =>
    obtain ⟨-, hnone⟩ := asks.waits waits
    refine hcounted.of_same permits (fun hpos _ => ?_) (hsignalled ?_)
    · exact absurd hnone (ne_of_gt hpos)
    · simp [point, Point.isSignalling]
  | signal outcome point releasing permits line =>
    refine hcounted.of_same permits (fun _ hline => ?_) (hsignalled ?_)
    · rw [line] at hline ⊢
      have hlist : s.line ≠ [] := fun hempty => hline (by rw [hempty, List.tail_nil])
      have hlength := List.length_pos_iff.2 hlist
      rw [point, releasing] at hcrowd
      simp only [Point.isEager_signal, Point.isEager_releasing, Bool.toNat_true,
        Bool.toNat_false] at hcrowd
      rw [List.length_tail]
      exact ⟨hlist, by omega⟩
    · simp [releasing, Point.isSignalling]
  | quit r h awaits request point permits line reason =>
    refine hcounted.of_same permits (fun _ hline => ?_) (hsignalled ?_)
    · rw [Point.isEager_of_request request, point, Point.isEager_of_request (r := r) rfl] at hcrowd
      rw [line] at hline ⊢
      have hlength := List.length_filter_le (· != h) s.line
      exact ⟨fun hempty => hline (by rw [hempty, List.filter_nil]), by omega⟩
    · simp [point, Point.isSignalling]
  | other permits line request awaits inside signalling =>
    refine hcounted.of_same permits (fun _ hline => ?_) (hsignalled ?_)
    · have hsame : (s'.point t).isEager = (s.point t).isEager := by
        rw [Point.isEager, Point.isEager, signalling]
        rcases request with hrequest | hrequest <;> rw [hrequest]
        cases (s.point t).request? <;> simp
      rw [hsame] at hcrowd
      rw [line] at hline ⊢
      exact ⟨hline, by omega⟩
    · rw [signalling]
      exact id

end Counted

end Monitors

namespace Pool

variable {x : Pool} {w : ThreadId} {command : Command} {initial : Nat} {s' : Monitors}

/-- The permits agree with what has been seen of a pool. -/
def IsCounted (initial : Nat) (x : Pool) : Prop :=
  x.monitors.Counted initial x.signals x.takes

/-- Every step of a thread keeps the permits in agreement with what has been seen. -/
theorem IsCounted.observe (hcounted : x.IsCounted initial) (hsharing : x.workers.Sharing)
    (htask : x.task w = .doing command) (move : x.monitors.Move w s')
    (hstride : x.monitors.Stride w command s') :
    (x.observe w { x.workers with monitors := s' }).IsCounted initial := by
  have hstays := fun hstays => Monitors.Counted.stride hcounted move hstride hstays
  cases hstride with
  | pass r timedOut inside asks admits point permits line =>
    rw [observe_of_leaving htask inside point]
    exact Monitors.Counted.pass hcounted hsharing.fair hsharing.listed hsharing.engaged move inside
      asks admits point permits line
  | enroll r h inside asks waits owner point =>
    rw [observe_of_enrolled htask inside point]
    exact hstays (by simp [point])
  | signal outcome point =>
    rw [observe_of_inside (by simp [point])]
    exact hstays (by simp [point])
  | quit r h awaits request point =>
    rw [observe_of_inside (fun r hinside => by simp [hinside, Point.awaits?] at awaits)]
    exact hstays (by simp [point])
  | other permits line request awaits inside signalling =>
    rw [observe_of_inside inside]
    refine hstays fun r m leave outcome hinside hleaving => ?_
    obtain ⟨r', hr'⟩ := inside r hinside
    rw [hr'] at hleaving
    cases hleaving

/-- What holds after any actions. -/
structure IsGood (initial : Nat) (x : Pool) : Prop where
  /-- The workers share the semaphore in an orderly way. -/
  sharing : x.workers.Sharing
  /-- The permits are counted. -/
  counted : x.IsCounted initial

namespace IsGood

variable (hgood : x.IsGood initial)
include hgood

/-- Nothing has happened to the threads, and a worker waits for the next command. -/
theorem rest {workers : Workers} (hassigned : x.workers.Assigned w .waiting workers)
    (hidle : ∃ last, x.point w = .idle last) : IsGood initial { x with workers } := by
  refine ⟨hgood.sharing.rest hassigned hidle, ?_⟩
  change workers.monitors.Counted initial _ _
  rw [hassigned.monitors]
  exact hgood.counted

/-- A worker begins to use the semaphore. -/
theorem begin {workers : Workers} {r : Request} (hw : w < x.workers.count)
    (htask : x.task w = .waiting) (asks : Ask command r)
    (hassigned : Workers.Assigned
      { x.workers with monitors := x.monitors.goTo w (.entering r) } w (.doing command) workers) :
    IsGood initial { x with workers } := by
  refine ⟨hgood.sharing.begin hw htask asks hassigned, ?_⟩
  -- The worker joins the crowd and takes nothing, which leaves the bound as good as it was.
  obtain ⟨last, hidle⟩ := hgood.sharing.idle_of_waiting htask
  change workers.monitors.Counted initial _ _
  rw [hassigned.monitors]
  refine Monitors.Counted.of_same hgood.counted rfl (fun _ hline => ⟨hline, ?_⟩) fun u hu => ?_
  · have hcrowd := x.monitors.crowd_goTo w (.entering r)
    rw [hidle] at hcrowd
    simp only [Point.isEager_idle, Bool.toNat_false] at hcrowd
    change x.line.length + _ ≤ x.line.length + (x.monitors.goTo w _).crowd
    omega
  · dsimp only at hu
    rw [Monitors.point_goTo] at hu
    split at hu
    · cases hu
    · exact hu

/-- A thread goes on, or its deadline passes. -/
theorem move (move : x.monitors.Move w s') (hbusy : ∀ last, x.point w ≠ .idle last) :
    (x.observe w { x.workers with monitors := s' }).IsGood initial := by
  obtain ⟨command, htask⟩ := hgood.sharing.doing_of_busy hbusy
  refine ⟨?_, hgood.counted.observe hgood.sharing htask move
    (hgood.sharing.stride htask move hbusy)⟩
  rw [workers_observe]
  exact hgood.sharing.move htask move hbusy

theorem tell (w : ThreadId) (operation : Operation) :
    (x.act (.tell w operation)).IsGood initial := by
  unfold act
  dsimp only
  split
  · next htold =>
    obtain ⟨hw, htask⟩ := htold
    rcases begin_cases hgood.sharing htask operation with hassigned | ⟨command, r, asks, hassigned⟩
    · exact hgood.rest hassigned (hgood.sharing.idle_of_waiting htask)
    · exact hgood.begin hw htask asks hassigned
  · exact hgood

theorem go (w : ThreadId) : (x.act (.go w)).IsGood initial := by
  unfold act
  dsimp only
  split
  · next workers heq =>
    obtain ⟨command, htask, ⟨monitors, hstep, rfl⟩ | ⟨hidle, hassigned⟩⟩ :=
      hgood.sharing.step?_cases heq
    · exact hgood.move (Monitors.move_of_step hstep) (Monitors.not_idle_of_step hstep)
    · obtain ⟨last, hlast⟩ := hidle
      rw [observe_of_inside (by simp [hlast])]
      exact hgood.rest hassigned ⟨last, hlast⟩
  · exact hgood

theorem expire (w : ThreadId) : (x.act (.expire w)).IsGood initial := by
  unfold act
  dsimp only
  split
  · next monitors heq =>
    refine hgood.move (Monitors.move_of_expire heq) fun last hidle => ?_
    simp [Monitors.expire?_eq, hidle, Point.expired?] at heq
  · exact hgood

theorem act (action : Action) : (x.act action).IsGood initial := by
  cases action with
  | tell w operation => exact hgood.tell w operation
  | go w => exact hgood.go w
  | expire w => exact hgood.expire w

theorem after (actions : List Action) : (x.after actions).IsGood initial := by
  induction actions generalizing x with
  | nil => exact hgood
  | cons action rest ih => exact ih (hgood.act action)

/-- If nobody can go on, then everybody who is to look at the permits or to signal is on the
list. -/
theorem crowd_le_of_still (hstill : ∀ w, x.workers.step? w = none) :
    x.monitors.crowd ≤ x.line.length := by
  -- Whoever cannot go on and has something to do with the semaphore is asleep, and on the list.
  have hle := Table.tally_le_length (f := fun k : Thread => k.point.isEager.toNat)
    (t := x.monitors.threads) (l := x.line.map (·.owner)) rfl (fun u => ?_) fun u hu => ?_
  · rwa [List.length_map] at hle
  · cases (x.monitors.threads.get u).point.isEager <;> decide
  · change 0 < (x.point u).isEager.toNat at hu
    obtain ⟨command, htask⟩ := hgood.sharing.doing_of_busy (w := u) fun last hidle => by
      simp [hidle] at hu
    obtain ⟨r, h, hh, -, rfl⟩ := hgood.sharing.asleep_of_still hstill htask
    exact List.mem_map_of_mem hh

/-- If nobody can go on and there is a permit, then the list is empty. -/
theorem line_of_still (hstill : ∀ w, x.workers.step? w = none) (hpos : 0 < x.permits) :
    x.line = [] := by
  by_contra hline
  have hbound : x.permits + x.line.length ≤ x.monitors.crowd := hgood.counted.covered hpos hline
  have hle := hgood.crowd_le_of_still hstill
  omega

theorem isSound : x.IsSound initial := by
  refine ⟨hgood.counted.nonneg, ?_, fun hstill hpos w => ?_⟩
  · have hbalance : x.permits + x.takes = initial + x.signals := hgood.counted.balance
    omega
  · refine (hgood.sharing.waiting_or_doing w).resolve_right ?_
    rintro ⟨command, htask⟩
    obtain ⟨r, h, hh, -⟩ := hgood.sharing.asleep_of_still hstill htask
    exact List.ne_nil_of_mem hh (hgood.line_of_still hstill hpos)

end IsGood

theorem isGood_start (count permits : Nat) : (start count permits).IsGood permits := by
  have hfresh := Workers.isFresh_start count [] 0 [permits] []
  refine ⟨⟨hfresh.fair, hfresh.listed, ?_, hfresh.guards, ?_, fun _ _ => rfl, rfl⟩, ?_⟩
  · intro w
    change Point.IsApt (.idle none)
    trivial
  · exact fun w => .resting none
  · refine ⟨Int.natCast_nonneg permits, rfl, fun _ hline => absurd rfl hline, ?_⟩
    intro u hu
    cases hu

end Pool

end Junction.Sync
