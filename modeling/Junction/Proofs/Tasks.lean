import Junction.Sync.Workers

/-!
# What a worker is about

A worker that is told to do something carries the command out, or is done with it at once, or goes
over to something that no command of another kind brings about. It changes the tasks of no other
worker, whatever it does.

## Main definitions

* `Workers.Takes` — a worker goes over to a task
* `Workers.Onset`, `Workers.Pursuit` — what a worker begins with, and what it goes on with

## Main results

* `Workers.onset_begin`, `Workers.begun_begin` — how a worker begins with what it was told
* `Workers.pursuit_of_step`, `Workers.step?_takes` — how it goes on
-/

namespace Junction.Sync

namespace Workers

variable {s s' s'' : Workers} {w : ThreadId} {task : Task}

/-- The threads and the handles that workers have left are as they were. -/
structure SameThreads (s s' : Workers) : Prop where
  /-- The threads, the mutexes and the condition variables. -/
  monitors : s'.monitors = s.monitors
  /-- The handles. -/
  left : ∀ u, (s'.workers.get u).left = (s.workers.get u).left

namespace SameThreads

theorem trans {s'' : Workers} (h : s.SameThreads s') (h' : s'.SameThreads s'') :
    s.SameThreads s'' :=
  ⟨h'.monitors.trans h.monitors, fun u => (h'.left u).trans (h.left u)⟩

theorem update {f : Worker → Worker} (hf : ∀ k, (f k).left = k.left) :
    s.SameThreads (s.update w f) := by
  refine ⟨rfl, fun u => ?_⟩
  simp only [Workers.update, Table.get_set]
  split
  · next hu => rw [hf, hu]
  · rfl

theorem assign (task : Task) : s.SameThreads (s.assign w task) := update fun _ => rfl

theorem reply (answer : Answer) : s.SameThreads (s.reply w answer) :=
  ⟨rfl, (assign (s := s) (w := w) .waiting).left⟩

theorem setPermits (sem : Nat) (f : Nat → Nat) : s.SameThreads (s.setPermits w sem f) :=
  update fun _ => rfl

theorem keepPermit (sem : Nat) (taken : Bool) : s.SameThreads (s.keepPermit w sem taken) := by
  unfold Workers.keepPermit
  split
  · exact setPermits sem _
  · exact ⟨rfl, fun _ => rfl⟩

theorem releaseSpinLock (l : Nat) : s.SameThreads (s.releaseSpinLock w l) :=
  ⟨rfl, (update (s := s) (w := w) (f := fun k => { k with spins := k.spins.erase l })
    fun _ => rfl).left⟩

theorem trySpinLock {l : Nat} (h : s.trySpinLock w l = some s') : s.SameThreads s' := by
  obtain ⟨lock, -, rfl⟩ := Option.map_eq_some_iff.1 h
  exact ⟨rfl, (update (s := s) (w := w) (f := fun k => { k with spins := l :: k.spins })
    fun _ => rfl).left⟩

theorem complete (command : Command) (outcome : Outcome) :
    s.SameThreads (s.complete w command outcome) := by
  unfold Workers.complete
  split <;> first
    | exact reply _
    -- Three commands may bring a permit.
    | exact (keepPermit _ _).trans (reply _)

end SameThreads

/-- A worker goes over to a task; the others keep theirs, and the semaphores are what they were. -/
structure Takes (s : Workers) (w : ThreadId) (task : Task) (s' : Workers) : Prop where
  /-- There are as many workers. -/
  count : s'.count = s.count
  /-- The semaphores are the same. -/
  semaphores : s'.semaphores = s.semaphores
  /-- The worker has the task. -/
  task : (s'.workers.get w).task = task
  /-- The others have the tasks that they had. -/
  others : ∀ u, u ≠ w → (s'.workers.get u).task = (s.workers.get u).task

/-- The tasks and the semaphores are what they were. -/
structure SameTasks (s s' : Workers) : Prop where
  /-- There are as many workers. -/
  count : s'.count = s.count
  /-- The semaphores are the same. -/
  semaphores : s'.semaphores = s.semaphores
  /-- Everybody has the task that he had. -/
  task : ∀ u, (s'.workers.get u).task = (s.workers.get u).task

namespace SameTasks

theorem update {u : ThreadId} {f : Worker → Worker} (hf : ∀ k, (f k).task = k.task) :
    s.SameTasks (s.update u f) := by
  refine ⟨rfl, rfl, fun v => ?_⟩
  simp only [Workers.update, Table.get_set]
  split
  · next hv => rw [hf, hv]
  · rfl

theorem setPermits (sem : Nat) (f : Nat → Nat) : s.SameTasks (s.setPermits w sem f) :=
  update fun _ => rfl

theorem keepPermit (sem : Nat) (taken : Bool) : s.SameTasks (s.keepPermit w sem taken) := by
  unfold Workers.keepPermit
  split
  · exact setPermits sem _
  · exact ⟨rfl, rfl, fun _ => rfl⟩

theorem withMonitors (monitors : Monitors) : s.SameTasks { s with monitors } :=
  ⟨rfl, rfl, fun _ => rfl⟩

theorem withSpins (spins : Table SpinLock) : s.SameTasks { s with spins } :=
  ⟨rfl, rfl, fun _ => rfl⟩

theorem leaveHandle (now : Bool) : s.SameTasks (s.leaveHandle w now) := by
  unfold Workers.leaveHandle
  split
  · split
    · exact ⟨rfl, rfl, fun _ => rfl⟩
    · exact update fun _ => rfl
  · exact ⟨rfl, rfl, fun _ => rfl⟩

theorem releaseSpinLock (l : Nat) : s.SameTasks (s.releaseSpinLock w l) :=
  ⟨rfl, rfl, (update (s := s) (u := w) (f := fun k => { k with spins := k.spins.erase l })
    fun _ => rfl).task⟩

theorem trySpinLock {l : Nat} (h : s.trySpinLock w l = some s') : s.SameTasks s' := by
  obtain ⟨lock, -, rfl⟩ := Option.map_eq_some_iff.1 h
  exact ⟨rfl, rfl, (update (s := s) (u := w) (f := fun k => { k with spins := l :: k.spins })
    fun _ => rfl).task⟩

theorem takes (same : s.SameTasks s') (htakes : s'.Takes w task s'') : s.Takes w task s'' :=
  ⟨htakes.count.trans same.count, htakes.semaphores.trans same.semaphores, htakes.task,
    fun u hu => (htakes.others u hu).trans (same.task u)⟩

end SameTasks

namespace Takes

theorem trans_same (htakes : s.Takes w task s') (same : s'.SameTasks s'') : s.Takes w task s'' :=
  ⟨same.count.trans htakes.count, same.semaphores.trans htakes.semaphores,
    (same.task w).trans htakes.task, fun u hu => (same.task u).trans (htakes.others u hu)⟩

theorem trans {task' : Task} (htakes : s.Takes w task s') (htakes' : s'.Takes w task' s'') :
    s.Takes w task' s'' :=
  ⟨htakes'.count.trans htakes.count, htakes'.semaphores.trans htakes.semaphores, htakes'.task,
    fun u hu => (htakes'.others u hu).trans (htakes.others u hu)⟩

theorem update {f : Worker → Worker} (hf : (f (s.workers.get w)).task = task) :
    s.Takes w task (s.update w f) := by
  refine ⟨rfl, rfl, ?_, fun u hu => ?_⟩
  · rw [Workers.update, Table.get_set_self, hf]
  · rw [Workers.update, Table.get_set_ne _ _ hu]

theorem assign (task : Task) : s.Takes w task (s.assign w task) := update rfl

theorem reply (answer : Answer) : s.Takes w .waiting (s.reply w answer) :=
  have h := assign (s := s) (w := w) .waiting
  ⟨h.count, h.semaphores, h.task, h.others⟩

/-- A worker that has carried out a command waits for the next one. -/
theorem complete (command : Command) (outcome : Outcome) :
    s.Takes w .waiting (s.complete w command outcome) := by
  unfold Workers.complete
  split <;> first
    | exact reply _
    -- Three commands may bring a permit.
    | exact (SameTasks.keepPermit _ _).takes (reply _)

end Takes

/-! ### What a worker begins with -/

/-- A worker with the task does nothing until it is told to, or until a spin lock is free. -/
def Task.IsIdle : Task → Prop
  | .waiting | .spinning _ | .ended _ => True
  | _ => False

/-- What a worker that is told to do something begins with. -/
inductive Onset (s : Workers) (w : ThreadId) (command : Command) : Workers → Prop
  /-- It is done with it, spins, or is about to end. Threads and handles are as they were. -/
  | rest {s' : Workers} {task : Task} (same : s.SameThreads s') (takes : s.Takes w task s')
      (free : ∀ command', task ≠ .doing command') (alive : ∀ code, task ≠ .ended code) :
      Onset s w command s'
  /-- It does something that unparks nobody. -/
  | act {s₁ : Workers} {what : Act} (same : s.SameThreads s₁) (tasks : s.SameTasks s₁)
      (harmless : ∀ h, what ≠ .unpark h) : Onset s w command (s₁.act w command what)
  /-- It parks. -/
  | park (timed now : Bool) : Onset s w command ((s.act w command (.park timed)).leaveHandle w now)
  /-- It unparks a handle that was left by somebody. -/
  | unpark (other : ThreadId) (h : ParkHandle) (left : (s.workers.get other).left = some h) :
      Onset s w command ((s.update other ({ · with left := none })).act w command (.unpark h))

namespace Onset

variable {command : Command}

theorem reply (same : s.SameThreads s') (tasks : s.SameTasks s') (answer : Answer) :
    s.Onset w command (s'.reply w answer) :=
  .rest (same.trans (.reply answer)) (tasks.takes (.reply answer)) nofun nofun

theorem refuse (answer : Answer) : s.Onset w command (s.reply w answer) :=
  .rest (.reply answer) (.reply answer) nofun nofun

theorem ask {what : Act} (harmless : ∀ h, what ≠ .unpark h) :
    s.Onset w command (s.act w command what) :=
  .act ⟨rfl, fun _ => rfl⟩ ⟨rfl, rfl, fun _ => rfl⟩ harmless

end Onset

/-- Whatever a worker is told to do, it begins in one of these ways. -/
theorem onset_begin (s : Workers) (w : ThreadId) (command : Command) :
    s.Onset w command (s.begin w command) := by
  cases command with
  | add m amount =>
    unfold begin
    dsimp only
    split
    · exact .refuse _
    · exact .ask nofun
  | waitWhile c m limit amount => cases amount <;> exact .ask nofun
  | giveBack sem =>
    unfold begin withPermit
    dsimp only
    split
    · exact .act (.setPermits sem (· - 1)) (.setPermits sem (· - 1)) nofun
    · exact .refuse _
  | consume sem =>
    unfold begin withPermit
    dsimp only
    split
    · exact .reply (.setPermits sem (· - 1)) (.setPermits sem (· - 1)) _
    · exact .refuse _
  | spin l => exact .rest (.assign _) (.assign _) nofun nofun
  | trySpin l =>
    unfold begin
    dsimp only
    split
    · next s' heq => exact .reply (.trySpinLock heq) (.trySpinLock heq) _
    · exact .refuse _
  | spinAdd l amount =>
    unfold begin withSpinLock
    dsimp only
    split
    · refine Onset.reply ?_ (.withSpins _) _
      exact ⟨rfl, fun _ => rfl⟩
    · exact .refuse _
  | spinUnlock l | spinAbandon l =>
    unfold begin withSpinLock
    dsimp only
    split
    · exact .reply (.releaseSpinLock l) (.releaseSpinLock l) _
    · exact .refuse _
  | park now => exact .park false now
  | parkUntil now short => exact .park true now
  | unpark other =>
    unfold begin
    dsimp only
    split
    · next h hleft => exact .unpark other h hleft
    · exact .refuse _
  | holds | name | ownState | keeps => exact .refuse _
  | «return» | exit | panic => exact .rest (.assign _) (.assign _) nofun nofun
  | _ => exact .ask nofun

/-- A worker has begun to carry out a command, or is not about one any more. -/
def Begun (s : Workers) (w : ThreadId) (command : Command) (s' : Workers) : Prop :=
  ∃ task, s.Takes w task s' ∧ (task = .doing command ∨ ∀ command', task ≠ .doing command')

theorem begun_act {command : Command} {what : Act} (same : s.SameTasks s') :
    s.Begun w command (s'.act w command what) := by
  unfold Workers.act
  split
  · next monitors _ =>
    exact ⟨_, same.takes (SameTasks.takes (.withMonitors monitors) (.assign _)), .inl rfl⟩
  · exact ⟨_, same.takes (.reply _), .inr nofun⟩

theorem Onset.begun {command : Command} (onset : s.Onset w command s') :
    s.Begun w command s' := by
  cases onset with
  | rest same takes free alive => exact ⟨_, takes, .inr free⟩
  | act same tasks harmless => exact begun_act tasks
  | park timed now =>
    have hact : s.Begun w command (s.act w command (.park timed)) :=
      begun_act ⟨rfl, rfl, fun _ => rfl⟩
    obtain ⟨task, htakes, htask⟩ := hact
    exact ⟨task, htakes.trans_same (.leaveHandle now), htask⟩
  | unpark other h left => exact begun_act (.update fun _ => rfl)

/-- Whatever a worker is told to do, it begins with that or is done with it. -/
theorem begun_begin (s : Workers) (w : ThreadId) (command : Command) :
    s.Begun w command (s.begin w command) :=
  (onset_begin s w command).begun

/-! ### What a worker goes on with -/

/-- What a worker that goes on does. -/
inductive Pursuit (s : Workers) (w : ThreadId) : Workers → Prop
  /-- Its thread goes on. -/
  | step {monitors : Monitors} (hstep : s.monitors.step? w = some monitors) :
      Pursuit s w { s with monitors }
  /-- It comes to another task. Threads and handles are as they were. -/
  | rest {s' : Workers} {task : Task} (blocked : s.monitors.step? w = none)
      (idle : (s.workers.get w).task.IsIdle ∨ ∃ last, s.monitors.point w = .idle last)
      (same : s.SameThreads s') (takes : s.Takes w task s')
      (free : ∀ command, task ≠ .doing command) (alive : ∀ code, task ≠ .ended code) :
      Pursuit s w s'
  /-- It gives something back. -/
  | giveBack {s' : Workers} {task : Task} {what : Act} {monitors : Monitors}
      (blocked : s.monitors.step? w = none) (harmless : ∀ h, what ≠ .unpark h)
      (start : s.monitors.start? w what = some monitors)
      (same : SameThreads { s with monitors } s') (takes : s.Takes w task s')
      (free : ∀ command, task ≠ .doing command) (busy : ¬ task.IsIdle) : Pursuit s w s'
  /-- It ends. -/
  | finish {code : Int} {last : Option Outcome} (blocked : s.monitors.step? w = none)
      (idle : s.monitors.point w = .idle last) : Pursuit s w (s.finish w code)

/-- A worker begins to give something back, if its thread can. -/
theorem pursuit_of_start {what : Act} {task : Task} (blocked : s.monitors.step? w = none)
    {last : Option Outcome} (idle : s.monitors.point w = .idle last)
    (harmless : ∀ h, what ≠ .unpark h) (free : ∀ command, task ≠ .doing command)
    (busy : ¬ task.IsIdle) :
    s.Pursuit w
      ({ s with monitors := (s.monitors.start? w what).getD s.monitors }.assign w task) := by
  have takes (monitors : Monitors) : s.Takes w task ({ s with monitors }.assign w task) :=
    SameTasks.takes (.withMonitors monitors) (.assign task)
  cases hstart : s.monitors.start? w what with
  | none =>
    refine .rest blocked (.inr ⟨last, idle⟩) (.assign task) (takes _) free ?_
    rintro code rfl
    exact busy trivial
  | some monitors => exact .giveBack blocked harmless hstart (.assign task) (takes _) free busy

/-- A worker goes on in one of these ways. -/
theorem pursuit_of_step (h : s.step? w = some s') : s.Pursuit w s' := by
  unfold step? at h
  split at h
  · next monitors hstep =>
    cases h
    exact .step hstep
  · next hblocked =>
    split at h
    · next command outcome _ hidle =>
      cases h
      exact .rest hblocked (.inr ⟨_, hidle⟩) (.complete command outcome) (.complete command outcome)
        nofun nofun
    · next l htask =>
      obtain ⟨s₁, heq, rfl⟩ := Option.map_eq_some_iff.1 h
      exact .rest hblocked (.inl (by rw [htask]; trivial)) (.trans (.trySpinLock heq) (.reply _))
        (SameTasks.takes (.trySpinLock heq) (.reply _)) nofun nofun
    · next hidle =>
      cases h
      exact .finish hblocked hidle
    · next keepsake rest last htask hidle =>
      cases h
      cases keepsake with
      | mutex m => exact pursuit_of_start hblocked hidle nofun nofun id
      | spin l =>
        exact .rest hblocked (.inr ⟨_, hidle⟩) (.trans (.releaseSpinLock l) (.assign _))
          (SameTasks.takes (.releaseSpinLock l) (.assign _)) nofun nofun
      | permit sem => exact pursuit_of_start hblocked hidle nofun nofun id
    · next hidle =>
      cases h
      exact .rest hblocked (.inr ⟨_, hidle⟩) (.assign _) (.assign _) nofun nofun
    · cases h

/-- A worker that goes on takes a step of its thread, or is done with its command. -/
theorem step?_takes (h : s.step? w = some s') :
    (∃ monitors, s.monitors.step? w = some monitors ∧ s' = { s with monitors }) ∨
      s.monitors.step? w = none ∧
        ∃ task, s.Takes w task s' ∧ ∀ command, task ≠ .doing command := by
  cases pursuit_of_step h with
  | step hstep => exact .inl ⟨_, hstep, rfl⟩
  | rest blocked idle same takes free alive => exact .inr ⟨blocked, _, takes, free⟩
  | giveBack blocked harmless start same takes free busy => exact .inr ⟨blocked, _, takes, free⟩
  | @finish code last blocked idle =>
    refine .inr ⟨blocked, .ended code, ?_, nofun⟩
    exact (SameTasks.withMonitors _).takes ((Takes.reply _).trans (.assign _))

end Workers

end Junction.Sync
