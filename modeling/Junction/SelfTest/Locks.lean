import Junction.Grading.Test
import Junction.SelfTest.Expectation
import Junction.Sync.Workers

/-!
# Self-tests of the locks

Workers compete for mutexes, wait on condition variables and share semaphores.

## Main definitions

* `lockTests` — the tests of this module
-/

namespace Junction.SelfTest

open Grading Sync Sync.Workers

/-- The answers of workers to some instructions. -/
def answersTo (s : Workers) (instructions : List Instruction) : List Answer :=
  (s.performAll instructions).2.map (·.answer)

/-- The late answers of workers, command by command. -/
def lateAnswers (s : Workers) (instructions : List Instruction) : List (List (ThreadId × Answer)) :=
  (s.performAll instructions).2.map (·.ended)

/-- The body that carries out commands as a worker does, and ends as the worker does when it
returns. -/
def working (s : Workers) (commands : List Command) : Body where
  run c :=
    match (answersTo s (commands.map (.tell 0) ++ [.tell 0 .return, .join 0])).getLast? with
    | some (.exitCode code) => ⟨c, .exited code, 0⟩
    | _ => ⟨c, .panicked, 0⟩

/-! ### Mutexes -/

/-- Sixty-four workers compete for a mutex, and each sets its own bit of the value, the last one its
sign. -/
def contention : Body := holding fun () =>
  let workers := List.range 64
  let bit (w : Nat) : Int := if w = 63 then Int64.minValue.toInt else 1 <<< w
  let (s, _) := (start 64 [0] 0 [] []).performAll (workers.map fun w => .tell w (.lock 0))
  let (s, _) := s.performAll <| workers.flatMap fun w =>
    [.tell w (.add 0 (bit w)), .tell w (.unlock 0), .tell w .return]
  (s.monitors.mutexes.get 0).value == -1 &&
    (answersTo s (workers.map .join)).all (· == .exitCode 0)

/-- A worker that waits for a mutex is parked. -/
def parkedWaiter : Body := holding fun () =>
  answersTo (start 2 [0] 0 [] [])
    [.tell 0 (.lock 0), .tell 1 (.lock 0), .state 1, .tell 0 (.unlock 0), .tell 1 (.unlock 0),
      .tell 1 .return, .join 1] ==
    [.value 0, .blocked, .state (some .parked), .done, .done, .ended, .exitCode 0]

/-- Only a free mutex can be taken without waiting. -/
def tryLock : Body := holding fun () =>
  answersTo (start 2 [0] 0 [] [])
    [.tell 0 (.lock 0), .tell 1 (.tryLock 0), .tell 0 (.unlock 0), .tell 0 (.tryLock 0),
      .tell 0 (.add 0 1), .tell 0 (.unlock 0)] ==
    [.value 0, .wouldBlock, .done, .verdict true, .value 1, .done]

/-- A mutex knows its owner. -/
def ownership : Body := holding fun () =>
  answersTo (start 2 [0] 0 [] [])
    [.tell 0 (.holds 0), .tell 0 (.lock 0), .tell 0 (.holds 0), .tell 1 (.holds 0),
      .tell 0 (.unlock 0), .tell 0 (.holds 0)] ==
    [.verdict false, .value 0, .verdict true, .verdict false, .done, .verdict false]

/-- Waiters are handed the lock in the order in which they blocked. -/
def handOffOrder : Body := holding fun () =>
  let waiters := (List.range 8).map (· + 1)
  let (s, _) := (start 9 [0] 0 [] []).performAll <|
    (0 :: waiters).map fun w => .tell w (.lock 0)
  lateAnswers s ((0 :: waiters).map fun w => .tell w (.unlock 0)) ==
    waiters.map (fun w => [(w, Answer.value 0)]) ++ [[]]

/-- Whoever returns with a lock in his hands fails. -/
def leaveLocked : Body := .expecting (-1) (working (start 1 [0] 0 [] []) [.lock 0])

/-! ### Condition variables -/

/-- Some threads go on until none of them can. -/
def settled (s : Monitors) (threads : List ThreadId) : Monitors :=
  s.runWith threads (100 * threads.length * threads.length)

/-- Ten producers and ten consumers share a buffer with room for one item. Its value is the item, or
zero if there is none; producers wait on the condition variable `0`, consumers on `1`. -/
def boundedBuffer : Body := holding fun () =>
  let producers := List.range 10
  let consumers := producers.map (· + 10)
  let put (item : Int) : Request :=
    ⟨0, .whileHolds 0 (· != 0), fun _ _ => item, fun _ => .signal 1⟩
  let fetch : Request := ⟨0, .whileHolds 1 (· == 0), fun _ _ => 0, fun _ => .signal 0⟩
  let launch (s : Monitors) (w : ThreadId) (r : Request) : Monitors :=
    settled ((s.start? w (.request r)).getD s) (producers ++ consumers)
  let s := producers.foldl (fun s w => launch s w (put (w + 1))) {}
  let s := consumers.foldl (fun s w => launch s w fetch) s
  let items := consumers.filterMap fun w =>
    match s.point w with
    | .idle (some (.entered item false)) => some item
    | _ => none
  items.mergeSort == producers.map fun (w : Nat) => (w : Int) + 1

/-- A wait that has timed out leaves the list, and a later signal wakes somebody else. -/
def timedWait : Body := holding fun () =>
  let (s, rounds) := (start 3 [0] 1 [] []).performAll
    [.tell 0 (.waitUntil 0 0 1 true), .tell 0 (.unlock 0), .tell 1 (.waitUntil 0 0 1 true),
      .tell 1 (.unlock 0), .tell 1 .return, .join 1, .tell 2 (.waitUntil 0 0 1 false), .state 2]
  rounds.map (·.answer) ==
    [.timed 0 true, .done, .timed 0 true, .done, .ended, .exitCode 0, .blocked,
      .state (some .parked)] &&
  lateAnswers s [.tell 0 (.lock 0), .tell 0 (.add 0 1), .tell 0 (.signal 0 0)] ==
    [[], [], [(2, .timed 1 false)]]

/-! ### Semaphores -/

/-- A worker waits for the first permit. -/
def firstPermit : Body := holding fun () =>
  let (s, rounds) := (start 2 [] 0 [0] []).performAll [.tell 0 (.take 0), .tell 1 (.give 0)]
  rounds.map (·.ended) == [[], [(0, .value 0)]] &&
  answersTo s [.tell 0 (.consume 0), .tell 0 .return, .join 0] == [.done, .ended, .exitCode 0]

/-- Everybody gives the permit back, so one permit lets all of them through. -/
def passedOnPermit : Body := holding fun () =>
  let workers := List.range 3
  let (s, _) := (start 4 [] 0 [0] []).performAll <|
    workers.map (fun w => .tell w (.take 0)) ++ [.tell 3 (.give 0)]
  answersTo s (workers.map (fun w => .tell w .return) ++ workers.map .join ++
      [.tell 3 (.available 0)]) ==
    workers.map (fun _ => Answer.ended) ++ workers.map (fun _ => Answer.exitCode 0) ++ [.value 1]

/-- A permit that is given before somebody waits for it is not lost. -/
def earlyPermit : Body := holding fun () =>
  answersTo (start 1 [] 0 [0] [])
    [.tell 0 (.give 0), .tell 0 (.give 0), .tell 0 (.take 0), .tell 0 (.consume 0),
      .tell 0 (.take 0), .tell 0 (.consume 0), .tell 0 (.tryTake 0), .tell 0 (.available 0)] ==
    [.done, .done, .value 0, .done, .value 0, .done, .verdict false, .value 0]

/-- A wait for a permit that has timed out has taken none. -/
def timedPermit : Body := holding fun () =>
  let (s, rounds) := (start 2 [] 0 [0] []).performAll
    [.tell 0 (.takeUntil 0 true), .tell 0 (.available 0), .tell 0 (.takeUntil 0 false),
      .tell 1 (.give 0)]
  rounds.map (·.answer) == [.verdict false, .value 0, .blocked, .done] &&
  rounds.map (·.ended) == [[], [], [], [(0, .verdict true)]] &&
  answersTo s [.tell 0 (.giveBack 0), .tell 0 (.available 0)] == [.done, .value 1]

/-- The tests of the locks. -/
def lockTests : List (String × Body) := [
  ("sync::mutex::smoke", contention),
  ("sync::mutex::parking", parkedWaiter),
  ("sync::mutex::try_lock", tryLock),
  ("sync::mutex::held_by_current", ownership),
  ("sync::mutex::hand_off_order", handOffOrder),
  ("sync::mutex::drop_without_unlock", leaveLocked),
  ("sync::condition_variable::bounded_buffer", boundedBuffer),
  ("sync::condition_variable::wait_timeout", timedWait),
  ("sync::semaphore::sema_0", firstPermit),
  ("sync::semaphore::exec_order", passedOnPermit),
  ("sync::semaphore::signal_before_wait", earlyPermit),
  ("sync::semaphore::wait_timeout", timedPermit)]

end Junction.SelfTest
