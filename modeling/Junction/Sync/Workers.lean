import Junction.Roster
import Junction.Sync.Semaphore
import Junction.Sync.SpinLock

/-!
# Workers

Workers are threads that are told what to do, one command at a time. Between two commands a worker
keeps the locks and the permits that it has taken. After each command everybody goes on until all
workers wait for a command, are blocked or have ended; only then the next command is given.

A worker that ends gives back what it keeps, the mutexes first, then the spin locks, then the
permits. Somebody who ends normally with a lock in his hands has failed.

## Main definitions

* `Workers.Command`, `Workers.Instruction` — what one worker, and all of them, can be told
* `Workers.Answer`, `Workers.Round` — what comes of it
* `Workers.perform`, `Workers.performAll` — an instruction, and a list of them
-/

namespace Junction.Sync

namespace Workers

/-- What a worker can be told to do. A command that waits at most for some time says whether the
time is so short that it passes before the next command. -/
inductive Command where
  /-- Lock a mutex and keep the lock. -/
  | lock (m : Nat)
  /-- Lock a mutex if it is free, and keep the lock. -/
  | tryLock (m : Nat)
  /-- Unlock a mutex. -/
  | unlock (m : Nat)
  /-- Let the lock of a mutex go without unlocking. -/
  | abandon (m : Nat)
  /-- Add to the value of a mutex whose lock is kept. -/
  | add (m : Nat) (amount : Int)
  /-- Ask whether the worker has a mutex. -/
  | holds (m : Nat)
  /-- Wait while the value of a mutex is below a limit. Then add an amount and unlock or, if none is
  given, keep the lock. -/
  | waitWhile (condvar m : Nat) (limit : Int) (amount : Option Int)
  /-- The same for at most some time; the lock is kept. -/
  | waitUntil (condvar m : Nat) (limit : Int) (short : Bool)
  /-- Unlock a mutex and wake one waiter. -/
  | signal (condvar m : Nat)
  /-- Unlock a mutex and wake all waiters. -/
  | broadcast (condvar m : Nat)
  /-- Take a permit and keep it. -/
  | take (s : Nat)
  /-- Take a permit if there is one. -/
  | tryTake (s : Nat)
  /-- Wait for a permit for at most some time. -/
  | takeUntil (s : Nat) (short : Bool)
  /-- Give a new permit. -/
  | give (s : Nat)
  /-- Give a kept permit back. -/
  | giveBack (s : Nat)
  /-- Use a kept permit up. -/
  | consume (s : Nat)
  /-- Ask for the number of permits. -/
  | available (s : Nat)
  /-- Take a spin lock and keep it. -/
  | spin (l : Nat)
  /-- Take a spin lock if it is free. -/
  | trySpin (l : Nat)
  /-- Add to the value of a spin lock that is kept. -/
  | spinAdd (l : Nat) (amount : Int)
  /-- Unlock a spin lock. -/
  | spinUnlock (l : Nat)
  /-- Let a spin lock go without unlocking. -/
  | spinAbandon (l : Nat)
  /-- Park, after leaving the handle where others find it or, with `now`, unparking it at once. -/
  | park (now : Bool)
  /-- The same for at most some time. -/
  | parkUntil (now short : Bool)
  /-- Unpark the handle that a worker has left. -/
  | unpark (w : ThreadId)
  /-- Tell the own name. -/
  | name
  /-- Tell the own published state. -/
  | ownState
  /-- Tell which mutexes and permits the worker keeps. -/
  | keeps
  /-- Return. -/
  | return
  /-- Exit with a code. -/
  | exit (code : Int)
  /-- Panic. -/
  | panic
deriving DecidableEq, Repr

/-- Whether a command waits for a time that passes before the next command. -/
def Command.isShort : Command → Bool
  | .waitUntil _ _ _ short | .takeUntil _ short | .parkUntil _ short => short
  | _ => false

/-- What can be told to the workers, or asked about one of them. -/
inductive Instruction where
  /-- A worker is told to do something. -/
  | tell (w : ThreadId) (command : Command)
  /-- A worker is joined if it has ended. -/
  | join (w : ThreadId)
  /-- A worker is joined if it ends within some time, which passes in vain if it has not ended. -/
  | joinUntil (w : ThreadId)
  /-- The published state of a worker is asked for. -/
  | state (w : ThreadId)
deriving DecidableEq, Repr

/-- What comes of an instruction. -/
inductive Answer where
  /-- It is done. -/
  | done
  /-- A value. -/
  | value (value : Int)
  /-- A value, and whether the time passed in vain. -/
  | timed (value : Int) (timedOut : Bool)
  /-- Yes or no. -/
  | verdict (yes : Bool)
  /-- The lock is not free. -/
  | wouldBlock
  /-- The wait is over and the lock given back. -/
  | passed
  /-- The parking is over. -/
  | resumed
  /-- The name of a worker. -/
  | name (name : String)
  /-- The published state of a worker that is still tracked. -/
  | state (state : Option ThreadState)
  /-- The mutexes that a worker keeps with their values, and how many permits of each semaphore. -/
  | keeps (mutexes : List (Nat × Int)) (permits : List (Nat × Nat))
  /-- The command has panicked. -/
  | panicked (message : String)
  /-- The worker does not keep what the command is about. -/
  | notHeld
  /-- The worker is blocked. -/
  | blocked
  /-- The worker was blocked before. -/
  | busy
  /-- The worker had ended before. -/
  | gone
  /-- The worker has ended. -/
  | ended
  /-- The exit code of a worker. -/
  | exitCode (code : Int)
  /-- The worker has not ended. -/
  | running
  /-- The worker has not ended in time. -/
  | timeout
  /-- The worker was joined before. -/
  | joined
deriving DecidableEq, Repr

/-- The message of a panic over a mutex whose lock was let go. -/
def abandonedMutex : String := "`.unlock()` must be explicitly called for MutexGuard."

/-- The first line of the message of a panic over a spin lock that was let go. -/
def abandonedSpinLock : String :=
  "`.unlock()` must be explicitly called before dropping SpinLockGuard."

/-- Something that a worker keeps and gives back when it ends. -/
inductive Keepsake where
  /-- The lock of a mutex. -/
  | mutex (m : Nat)
  /-- A spin lock. -/
  | spin (l : Nat)
  /-- A permit. -/
  | permit (s : Nat)
deriving DecidableEq, Repr

/-- What a worker is about. -/
inductive Task where
  /-- It waits for a command. -/
  | waiting
  /-- It carries out a command. -/
  | doing (command : Command)
  /-- It spins until a lock is free. -/
  | spinning (l : Nat)
  /-- It is about to end with a code, and still gives things back. -/
  | ending (code : Int) (rest : List Keepsake)
  /-- It is about to end, and a permit is on its way back. -/
  | returning (code : Int) (rest : List Keepsake)
  /-- It has ended with a code. -/
  | ended (code : Int)
deriving DecidableEq, Repr

/-- A worker, apart from its locks of mutexes. -/
structure Worker where
  /-- What it is about. -/
  task : Task := .waiting
  /-- The spin locks that it keeps. -/
  spins : List Nat := []
  /-- How many permits of each semaphore it keeps. -/
  permits : Roster Nat := .empty
  /-- The handle that it has left. -/
  left : Option ParkHandle := none
  /-- Whether it was joined. -/
  joined : Bool := false

instance : Inhabited Worker := ⟨{}⟩

end Workers

/-- Workers and all that they share. -/
structure Workers where
  /-- The mutexes, the condition variables and the workers' threads. -/
  monitors : Monitors := {}
  /-- The semaphores. -/
  semaphores : Table Semaphore := {}
  /-- The spin locks. -/
  spins : Table SpinLock := {}
  /-- The number of workers. -/
  count : Nat
  /-- The workers. -/
  workers : Table Workers.Worker := {}
  /-- The answers of workers that were not reported yet. -/
  answers : List (ThreadId × Workers.Answer) := []

namespace Workers

/-- All that there is to see after an instruction: its answer, the published states of all workers,
and the answers of workers that were blocked before. -/
structure Round where
  /-- The answer. -/
  answer : Answer
  /-- The published states. -/
  states : List (Option ThreadState)
  /-- The late answers, in the order of the workers. -/
  ended : List (ThreadId × Answer)
deriving DecidableEq, Repr

/-- Workers at their start, with mutexes and spin locks of given values and semaphores with given
numbers of permits. The mutex and the condition variable of a semaphore come after all others. -/
def start (count : Nat) (mutexes : List Int) (condvars : Nat) (permits : List Nat)
    (spins : List Int) : Workers where
  monitors := {
    parking := { states := ⟨List.replicate count (some .running)⟩ }
    mutexes := ⟨(mutexes ++ permits.map Int.ofNat).map fun value => { value }⟩ }
  semaphores := ⟨(List.range permits.length).map fun s => ⟨mutexes.length + s, condvars + s⟩⟩
  spins := ⟨spins.map fun value => { value }⟩
  count := count

/-- A worker is changed. -/
def update (s : Workers) (w : ThreadId) (f : Worker → Worker) : Workers :=
  { s with workers := s.workers.set w (f (s.workers.get w)) }

/-- A worker goes over to a task. -/
def assign (s : Workers) (w : ThreadId) (task : Task) : Workers :=
  s.update w ({ · with task })

/-- A worker has an answer and waits for the next command. -/
def reply (s : Workers) (w : ThreadId) (answer : Answer) : Workers :=
  { s.assign w .waiting with answers := s.answers ++ [(w, answer)] }

/-- The number of permits of a semaphore that a worker keeps changes. -/
def setPermits (s : Workers) (w : ThreadId) (sem : Nat) (f : Nat → Nat) : Workers :=
  s.update w fun k =>
    { k with permits := k.permits.insert sem (f ((k.permits.get? sem).getD 0)) }

/-- How many permits of a semaphore a worker keeps. -/
def permitsOf (s : Workers) (w : ThreadId) (sem : Nat) : Nat :=
  ((s.workers.get w).permits.get? sem).getD 0

/-- The numbers of the mutexes whose locks a worker keeps, in ascending order. -/
def mutexesOf (s : Workers) (w : ThreadId) : List Nat := (s.monitors.guards w).mergeSort

/-- All that a worker keeps, in the order in which it is given back. -/
def keepsakes (s : Workers) (w : ThreadId) : List Keepsake :=
  (s.mutexesOf w).map .mutex ++ (s.workers.get w).spins.mergeSort.map .spin ++
    (s.workers.get w).permits.entries.flatMap fun (sem, n) => List.replicate n (.permit sem)

/-- The exit code of a worker that returns: whoever still has a lock fails. -/
def returnCode (s : Workers) (w : ThreadId) : Int :=
  if (s.monitors.guards w).isEmpty && (s.workers.get w).spins.isEmpty then 0 else -1

/-! ### Commands -/

/-- A worker begins to carry out a command by something that threads can do. -/
def act (s : Workers) (w : ThreadId) (command : Command) (what : Act) : Workers :=
  match s.monitors.start? w what with
  | some monitors => { s with monitors }.assign w (.doing command)
  | none => s.reply w .notHeld

/-- A worker parks, and its new handle is unparked at once or left where others find it. -/
def leaveHandle (s : Workers) (w : ThreadId) (now : Bool) : Workers :=
  match s.monitors.point w with
  | .parked h _ =>
    if now then { s with monitors := s.monitors.unpark h }
    else s.update w ({ · with left := some h })
  | _ => s

/-- A worker takes a spin lock if it is free. -/
def trySpinLock (s : Workers) (w : ThreadId) (l : Nat) : Option Workers :=
  (s.spins.get l).tryLock.map fun lock =>
    { s with spins := s.spins.set l lock }.update w fun k => { k with spins := l :: k.spins }

/-- A worker lets a spin lock go. -/
def releaseSpinLock (s : Workers) (w : ThreadId) (l : Nat) : Workers :=
  { s with spins := s.spins.set l (s.spins.get l).unlock }.update w fun k =>
    { k with spins := k.spins.erase l }

/-- A worker does something with a spin lock that it keeps. -/
def withSpinLock (s : Workers) (w : ThreadId) (l : Nat) (f : Workers → Workers) : Workers :=
  if l ∈ (s.workers.get w).spins then f s else s.reply w .notHeld

/-- A worker does something with a permit that it keeps, which is gone then. -/
def withPermit (s : Workers) (w : ThreadId) (sem : Nat) (f : Workers → Workers) : Workers :=
  if 0 < s.permitsOf w sem then f (s.setPermits w sem (· - 1)) else s.reply w .notHeld

/-- A use of a mutex after which the worker keeps the lock. -/
def keeping (m : Nat) (entry : Entry) : Request :=
  ⟨m, entry, fun _ value => value, fun _ => .keep⟩

/-- A use of a mutex that adds to its value, unless the sum does not fit, and unlocks. -/
def adding (m : Nat) (entry : Entry) (amount : Int) : Request :=
  ⟨m, entry, fun _ value => if Word.fits (value + amount) then value + amount else value,
    fun _ => .unlock⟩

/-- The answer to a sum: a panic if it does not fit. -/
def sumAnswer (sum : Int) (answer : Answer) : Answer :=
  if Word.fits sum then answer else .panicked Word.overflowMessage

/-- The answer to a signal on a semaphore that has found a count: a panic if there was no room. -/
def signalAnswer (count : Int) : Answer :=
  if Semaphore.isFull count then .panicked Word.overflowMessage else .done

/-- A worker that waits for a command begins to carry one out. -/
def begin (s : Workers) (w : ThreadId) (command : Command) : Workers :=
  let act := s.act w command
  let semaphore := s.semaphores.get
  match command with
  | .lock m => act (.request (keeping m .direct))
  | .tryLock m => act (.tryLock m)
  | .unlock m | .abandon m => act (.leave m .unlock)
  | .add m amount =>
    -- Nobody else changes the value while the worker keeps the lock.
    if m ∈ s.monitors.guards w ∧ !Word.fits ((s.monitors.mutexes.get m).value + amount) then
      s.reply w (.panicked Word.overflowMessage)
    else act (.amend m (· + amount))
  | .holds m => s.reply w (.verdict ((s.monitors.mutexes.get m).isHeldBy w))
  | .waitWhile c m limit none => act (.request (keeping m (.whileHolds c (· < limit))))
  | .waitWhile c m limit (some amount) =>
    act (.request (adding m (.whileHolds c (· < limit)) amount))
  | .waitUntil c m limit _ => act (.request (keeping m (.whileHoldsUntil c (· < limit) false)))
  | .signal c m => act (.leave m (.signal c))
  | .broadcast c m => act (.leave m (.broadcast c))
  | .take sem => act (.request (semaphore sem).wait)
  | .tryTake sem => act (.request (semaphore sem).tryWait)
  | .takeUntil sem _ => act (.request (semaphore sem).waitUntil)
  | .give sem => act (.request (semaphore sem).signal)
  | .giveBack sem =>
    s.withPermit w sem fun s => s.act w command (.request (semaphore sem).signal)
  | .consume sem => s.withPermit w sem fun s => s.reply w .done
  | .available sem => act (.request (semaphore sem).count)
  -- A worker that spins is not parked, so its published state does not change.
  | .spin l => s.assign w (.spinning l)
  | .trySpin l =>
    match s.trySpinLock w l with
    | some s => s.reply w (.verdict true)
    | none => s.reply w .wouldBlock
  | .spinAdd l amount => s.withSpinLock w l fun s =>
    let lock := s.spins.get l
    let value := lock.value + amount
    let lock := if Word.fits value then { lock with value } else lock
    { s with spins := s.spins.set l lock }.reply w (sumAnswer value (.value value))
  | .spinUnlock l => s.withSpinLock w l fun s => (s.releaseSpinLock w l).reply w .done
  | .spinAbandon l => s.withSpinLock w l fun s =>
    (s.releaseSpinLock w l).reply w (.panicked abandonedSpinLock)
  | .park now => (act (.park false)).leaveHandle w now
  | .parkUntil now _ => (act (.park true)).leaveHandle w now
  | .unpark other =>
    match (s.workers.get other).left with
    | some h => (s.update other ({ · with left := none })).act w command (.unpark h)
    | none => s.reply w (.verdict false)
  | .name => s.reply w (.name s!"worker {w}")
  | .ownState => s.reply w (.state (s.monitors.parking.states.get w))
  | .keeps => s.reply w (.keeps
      ((s.mutexesOf w).map fun m => (m, (s.monitors.mutexes.get m).value))
      (s.workers.get w).permits.entries)
  | .return => s.assign w (.ending (s.returnCode w) (s.keepsakes w))
  | .exit code => s.assign w (.ending code (s.keepsakes w))
  | .panic => s.assign w (.ending (-1) (s.keepsakes w))

/-- A worker that has waited for a permit keeps it if it has got one. -/
def keepPermit (s : Workers) (w : ThreadId) (sem : Nat) (taken : Bool) : Workers :=
  if taken then s.setPermits w sem (· + 1) else s

/-- A worker has carried out a command with some outcome, and answers. -/
def complete (s : Workers) (w : ThreadId) (command : Command) (outcome : Outcome) : Workers :=
  match command, outcome with
  | .abandon _, _ => s.reply w (.panicked abandonedMutex)
  | .tryLock _, .entered .. => s.reply w (.verdict true)
  | .waitWhile _ _ _ (some amount), .entered value _ =>
    s.reply w (sumAnswer (value + amount) .passed)
  | .waitUntil .., .entered value timedOut => s.reply w (.timed value timedOut)
  | .take sem, _ => (s.keepPermit w sem true).reply w (.value sem)
  | .tryTake sem, .entered count _ =>
    (s.keepPermit w sem (0 < count)).reply w (.verdict (0 < count))
  | .takeUntil sem _, .entered _ timedOut =>
    (s.keepPermit w sem !timedOut).reply w (.verdict !timedOut)
  | .give _, .entered count _ | .giveBack _, .entered count _ =>
    s.reply w (signalAnswer count)
  | .park _, _ => s.reply w .resumed
  | .unpark _, _ => s.reply w (.verdict true)
  | _, .entered value _ => s.reply w (.value value)
  | _, .changed value => s.reply w (.value value)
  | _, .parked woken => s.reply w (.verdict woken)
  | _, .wouldBlock => s.reply w .wouldBlock
  | _, .left => s.reply w .done

/-- A worker that is about to end with a code gives something back, with more to come. -/
def giveUp (s : Workers) (w : ThreadId) (code : Int) (rest : List Keepsake) : Keepsake → Workers
  | .mutex m =>
    { s with monitors := (s.monitors.start? w (.leave m .unlock)).getD s.monitors }.assign w
      (.ending code rest)
  | .spin l => (s.releaseSpinLock w l).assign w (.ending code rest)
  | .permit sem =>
    let signal := Act.request (s.semaphores.get sem).signal
    { s with monitors := (s.monitors.start? w signal).getD s.monitors }.assign w
      (.returning code rest)

/-- The exit code of a worker after it has given a permit back: whoever found no room for it has
failed. -/
def codeAfter (code : Int) : Outcome → Int
  | .entered count _ => if Semaphore.isFull count then -1 else code
  | _ => code

/-- A worker has ended. -/
def finish (s : Workers) (w : ThreadId) (code : Int) : Workers :=
  let monitors := { s.monitors with parking := s.monitors.parking.finish w }
  ({ s with monitors }.reply w .ended).assign w (.ended code)

/-! ### Going on -/

/-- A worker goes on, unless it waits for a command, is blocked or has ended. -/
def step? (s : Workers) (w : ThreadId) : Option Workers :=
  match s.monitors.step? w with
  | some monitors => some { s with monitors }
  | none =>
    match (s.workers.get w).task, s.monitors.point w with
    | .doing command, .idle (some outcome) => some (s.complete w command outcome)
    | .spinning l, _ =>
      (s.trySpinLock w l).map fun s => s.reply w (.value (s.spins.get l).value)
    | .ending code [], .idle _ => some (s.finish w code)
    | .ending code (keepsake :: rest), .idle _ => some (s.giveUp w code rest keepsake)
    | .returning code rest, .idle (some outcome) =>
      some (s.assign w (.ending (codeAfter code outcome) rest))
    | _, _ => none

/-- The numbers of the workers. -/
def all (s : Workers) : List ThreadId := List.range s.count

/-- Steps of the first worker that can go on, again and again, but not more than a given number. -/
def goOn : Nat → Workers → Workers
  | 0, s => s
  | limit + 1, s =>
    match s.all.findSome? s.step? with
    | none => s
    | some s => goOn limit s

/-- How many things ending workers still give back. -/
def owed (s : Workers) : Nat :=
  s.all.foldl (fun n w =>
    match (s.workers.get w).task with
    | .ending _ rest => n + rest.length
    | .returning _ rest => n + (rest.length + 1)
    | _ => n) 0

/-- A number of steps after which nobody can go on. One thing given up wakes each worker at most
once, and a woken worker takes less than a hundred steps until it is done or blocked again. -/
def patience (s : Workers) : Nat := 100 * (s.count + 2) * (s.owed + 2)

/-- Everybody goes on until nobody can. -/
def settle (s : Workers) : Workers := goOn s.patience s

/-- The short times of all workers pass. -/
def passTime (s : Workers) : Workers :=
  s.all.foldl (fun s w =>
    match (s.workers.get w).task with
    | .doing command =>
      if command.isShort then { s with monitors := (s.monitors.expire? w).getD s.monitors } else s
    | _ => s) s

/-! ### Instructions -/

/-- The published states of all workers. -/
def states (s : Workers) : List (Option ThreadState) := s.all.map s.monitors.parking.states.get

/-- A round in which nothing happens. -/
def still (s : Workers) (answer : Answer) : Workers × Round := (s, ⟨answer, s.states, []⟩)

/-- A worker is told to do something. -/
def tell (s : Workers) (w : ThreadId) (command : Command) : Workers × Round :=
  match (s.workers.get w).task with
  | .waiting =>
    -- Time passes only after everybody has gone as far as possible without it.
    let s := (s.begin w command).settle.passTime.settle
    let own := s.answers.find? (·.1 == w)
    let others := s.answers.filter (·.1 != w)
    ({ s with answers := [] },
      ⟨(own.map (·.2)).getD .blocked, s.states, others.mergeSort (·.1 ≤ ·.1)⟩)
  | .ended _ => s.still .gone
  | _ => s.still .busy

/-- A worker is joined if it has ended; `otherwise` is the answer if it has not. -/
def join (s : Workers) (w : ThreadId) (otherwise : Answer) : Workers × Round :=
  let worker := s.workers.get w
  if worker.joined then s.still .joined
  else
    match worker.task with
    | .ended code => (s.update w ({ · with joined := true })).still (.exitCode code)
    | _ => s.still otherwise

/-- Carries out an instruction. -/
def perform (s : Workers) : Instruction → Workers × Round
  | .tell w command => s.tell w command
  | .join w => s.join w .running
  | .joinUntil w => s.join w .timeout
  | .state w => s.still (.state (s.monitors.parking.states.get w))

/-- Carries out instructions one after the other. -/
def performAll (s : Workers) : List Instruction → Workers × List Round
  | [] => (s, [])
  | instruction :: rest =>
    let (s, round) := s.perform instruction
    let (s, rounds) := s.performAll rest
    (s, round :: rounds)

end Workers

end Junction.Sync
