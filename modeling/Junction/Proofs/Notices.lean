import Mathlib.Data.List.Perm.Basic
import Junction.Proofs.Conclusions
import Junction.Proofs.Lines
import Junction.Proofs.Tallies

/-!
# Notices to the scheduler

Each arrival, rejection, completion and abort gives the scheduler one notice, and nothing else does.
An arrival that finds a fault is turned away and gives none.

A section of an operation is noted for what the scheduler may see of it: the notice that it gives,
and the vehicles that it puts into the queue or takes out. The queue and the epoch change by exactly
that, and what an operation is due to give is what its sections give.

## Main definitions

* `Notice`, `Memo` — what a section is noted for
* `SiteCall.due` — the notice that a call has still to give
* `Site.Books` — a section changes the epoch and the queue by what it is noted for

## Main results

* `SiteCall.books_step` — every section of every operation
-/

namespace Junction

/-! ### Vehicles in the lines of a queue -/

namespace WaitingQueue

variable {q : WaitingQueue}

/-- A vehicle is in the lines as often as in the zones and in the levels. -/
theorem count_lines (v : Vehicle) :
    q.lines.count v = q.zone.tally (List.count v) + q.levels.tally (List.count v) := by
  have htally : ∀ t : Trio VehicleClass (List Vehicle), t.tally (List.count v) =
      (t.get .ambulance).count v + (t.get .car).count v + (t.get .truck).count v := fun _ => rfl
  simp only [lines, line, VehicleClass.all, List.flatMap_cons, List.flatMap_nil, List.count_append,
    List.count_nil, htally]
  omega

theorem count_lines_enqueue (w v : Vehicle) :
    (q.enqueue w).lines.count v = q.lines.count v + [w].count v := by
  have hzone := q.zone.tally_set (List.count v) w.vclass (q.zone.get w.vclass ++ [w])
  rw [List.count_append] at hzone
  simp only [count_lines, enqueue]
  omega

theorem count_lines_gather (c : VehicleClass) (v : Vehicle) :
    (q.gather c).lines.count v = q.lines.count v := by
  have hzone := q.zone.tally_set (List.count v) c []
  have hlevels := q.levels.tally_set (List.count v) c (q.levels.get c ++ q.zone.get c)
  rw [List.count_nil] at hzone
  rw [List.count_append] at hlevels
  simp only [count_lines, gather]
  omega

theorem count_lines_drainLevel (c : VehicleClass) (v : Vehicle) :
    (q.drainLevel c).1.lines.count v + (q.levels.get c).count v = q.lines.count v := by
  have hlevels := q.levels.tally_set (List.count v) c []
  rw [List.count_nil] at hlevels
  simp only [count_lines, drainLevel]
  omega

theorem count_lines_without {c : VehicleClass} {place : Nat} {w : Vehicle}
    (hplace : (q.levels.get c)[place]? = some w) (v : Vehicle) :
    (q.without c place).lines.count v + [w].count v = q.lines.count v := by
  have hlevels := q.levels.tally_set (List.count v) c ((q.levels.get c).eraseIdx place)
  obtain ⟨hlt, hget⟩ := List.getElem?_eq_some_iff.1 hplace
  -- A list is, up to order, one of its members and the rest.
  have herase : (q.levels.get c).count v = (w :: (q.levels.get c).eraseIdx place).count v := by
    rw [← hget]
    exact (List.getElem_cons_eraseIdx_perm hlt).count_eq v |>.symm
  rw [List.count_cons] at herase
  simp only [count_lines, without, List.count_singleton]
  omega

end WaitingQueue

/-! ### Memos -/

/-- A notice that something has changed, by what it was. -/
inductive Notice where
  /-- A vehicle has joined the queue. -/
  | arrival
  /-- A vehicle was rejected. -/
  | rejection
  /-- A vehicle has crossed. -/
  | completion
  /-- The run was aborted. -/
  | abort
deriving DecidableEq, Repr

/-- What a section is noted for. -/
structure Memo where
  /-- The notices that it gives. -/
  notices : List Notice := []
  /-- The notices that will not be given because the vehicle is turned away. -/
  turnedAway : List Notice := []
  /-- The vehicles that it puts into the queue. -/
  joined : List Vehicle := []
  /-- The vehicles that it takes out of the queue. -/
  removed : List Vehicle := []

/-- What the next step of an abort is noted for. -/
def Abort.memo (x : Site) : Abort → Memo
  | drain c _ => { removed := x.queue.levels.get c }
  | notify _ => { notices := [.abort] }
  | _ => {}

/-- The notice that an abort has still to give. -/
def Abort.due : Abort → List Notice
  | acknowledge _ | wake _ => []
  | _ => [.abort]

namespace SiteCall

/-- What the next section of a call is noted for. -/
def memo (x : Site) : SiteCall → Memo
  | arrive _ .lock => { turnedAway := if x.fault.isSome then [.arrival] else [] }
  | arrive v .enqueue => { joined := [v] }
  | arrive _ .notify => { notices := [.arrival] }
  | reject _ .notify => { notices := [.rejection] }
  | complete .notify => { notices := [.completion] }
  | abort _ point => point.memo x
  | _ => {}

/-- The notice that a call has still to give. -/
def due : SiteCall → List Notice
  | arrive .. => [.arrival]
  | reject .. => [.rejection]
  | complete _ => [.completion]
  | abort _ point => point.due
  | _ => []

/-- The call is not an arbitrary change of the queue, which no operation of the site is. -/
def IsOffered : SiteCall → Prop
  | queue _ => False
  | _ => True

end SiteCall

/-- A section changes the epoch and the lines by what it is noted for, and it leaves the passes
alone. What is due is given, or will not be given, or stays due. -/
structure Site.Books (x : Site) (due : List Notice) (memo : Memo) (x' : Site)
    (due' : List Notice) : Prop where
  /-- The epoch counts the notices. -/
  epoch : x'.epoch = x.epoch + memo.notices.length
  /-- The passes are the scheduler's. -/
  passes : x'.passes = x.passes
  /-- A vehicle is in the lines as often as it was put in and not taken out. -/
  lines : ∀ v, x'.queue.lines.count v + memo.removed.count v =
    x.queue.lines.count v + memo.joined.count v
  /-- A notice is due until it is given or the vehicle is turned away. -/
  due : due = memo.notices ++ memo.turnedAway ++ due'

variable {x x' : Site}

/-- A section that is noted for nothing. -/
theorem Site.Books.idle {due : List Notice} (hepoch : x'.epoch = x.epoch)
    (hpasses : x'.passes = x.passes) (hqueue : x'.queue = x.queue) : x.Books due {} x' due :=
  ⟨hepoch, hpasses, fun v => by rw [hqueue], rfl⟩

theorem Site.epoch_raise (x : Site) (f : Fault) :
    (x.raise f).epoch = x.epoch ∧ (x.raise f).passes = x.passes ∧ (x.raise f).queue = x.queue := by
  unfold raise
  split <;> exact ⟨rfl, rfl, rfl⟩

theorem Site.epoch_conclude (x : Site) :
    x.conclude.1.epoch = x.epoch ∧ x.conclude.1.passes = x.passes ∧
      x.conclude.1.queue = x.queue := by
  unfold conclude
  split
  · exact ⟨rfl, rfl, rfl⟩
  · split <;> exact ⟨rfl, rfl, rfl⟩

@[simp] theorem Abort.due_afterGather (c : VehicleClass) : (afterGather c).due = [.abort] := by
  cases c <;> rfl

@[simp] theorem Abort.due_afterDrain (c : VehicleClass) (vehicles : List Vehicle) :
    (afterDrain c vehicles).due = [.abort] := by
  cases c <;> rfl

/-- Every step of an abort is booked. -/
theorem Abort.Move.books {a : Abort} {a' : Option Abort} (move : a.Move x x' a') :
    x.Books a.due (a.memo x) x' (a'.elim [] Abort.due) := by
  cases move with
  | raise f unlocked =>
    obtain ⟨hepoch, hpasses, hqueue⟩ := x.epoch_raise f
    exact .idle hepoch hpasses hqueue
  | skip c empty =>
    rw [Option.elim_some, due_afterGather]
    exact .idle rfl rfl rfl
  | gather c unscanned =>
    rw [Option.elim_some, due_afterGather]
    exact ⟨rfl, rfl, x.queue.count_lines_gather c, rfl⟩
  | drain c vehicles unscanned =>
    rw [Option.elim_some, due_afterDrain]
    exact ⟨rfl, rfl, x.queue.count_lines_drainLevel c, rfl⟩
  | notify vehicles => exact ⟨rfl, rfl, fun _ => rfl, rfl⟩
  | flag | unlock | acknowledge | wake | finish => exact .idle rfl rfl rfl

/-! ### Sections -/

namespace SiteCall

variable {call call' : SiteCall}

/-- Every section of an operation that the site offers is booked. -/
theorem books_step (x : Site) (hoffered : call.IsOffered) :
    match call.step x with
    | .blocked => True
    | .next x' call' => x.Books call.due (call.memo x) x' call'.due ∧ call'.IsOffered
    | .done x' () => x.Books call.due (call.memo x) x' [] := by
  cases call with
  | arrive v point =>
    cases point with
    | lock =>
      simp only [SiteCall.step, Arrival.step]
      by_cases hlocked : x.faultLocked = true
      · simp [hlocked, Progress.during]
      -- With a fault the arrival ends here, and its notice is written off.
      · by_cases hfault : x.fault.isSome = true
        · simp only [hlocked, hfault, Progress.during, memo, if_true, Bool.false_eq_true, if_false]
          exact ⟨rfl, rfl, fun _ => rfl, rfl⟩
        · simp only [hlocked, hfault, Progress.during, memo, if_false, Bool.false_eq_true]
          exact ⟨⟨rfl, rfl, fun _ => rfl, rfl⟩, trivial⟩
    | log => exact ⟨.idle rfl rfl rfl, trivial⟩
    | enqueue => exact ⟨⟨rfl, rfl, x.queue.count_lines_enqueue v, rfl⟩, trivial⟩
    | count => exact ⟨.idle rfl rfl rfl, trivial⟩
    | notify => exact ⟨rfl, rfl, fun _ => rfl, rfl⟩
  | reject spec point =>
    cases point with
    | notify => exact ⟨rfl, rfl, fun _ => rfl, rfl⟩
    | log | count | countArrival => exact ⟨.idle rfl rfl rfl, trivial⟩
  | complete point =>
    cases point with
    | count => exact ⟨.idle rfl rfl rfl, trivial⟩
    | notify => exact ⟨rfl, rfl, fun _ => rfl, rfl⟩
  | abort fault point =>
    simp only [SiteCall.step]
    cases hstep : point.step x with
    | blocked => trivial
    | next x' point' => exact ⟨(Abort.move_of_next hstep).books, trivial⟩
    | done x' result => exact (Abort.move_of_done hstep).books
  | takeAck =>
    simp only [SiteCall.step, Site.takeAck?]
    split_ifs
    · exact .idle rfl rfl rfl
    · trivial
  | table call =>
    simp only [SiteCall.step]
    have htable := call.step_reaches x
    cases hstep : call.step x with
    | blocked => trivial
    | next x' call' =>
      rw [hstep] at htable
      obtain ⟨table, -, rfl⟩ := htable
      exact ⟨.idle rfl rfl rfl, trivial⟩
    | done x' result =>
      rw [hstep] at htable
      obtain ⟨table, -, rfl⟩ := htable
      exact .idle rfl rfl rfl
  | conclude =>
    obtain ⟨hepoch, hpasses, hqueue⟩ := x.epoch_conclude
    exact .idle hepoch hpasses hqueue
  | queue change => cases hoffered
  | record | acknowledge => exact .idle rfl rfl rfl

end SiteCall

end Junction
