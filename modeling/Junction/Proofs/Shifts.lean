import Mathlib.Data.Nat.Basic
import Mathlib.Order.Basic
import Junction.Proofs.Notices
import Junction.Proofs.Violations

/-!
# The scheduler never looks in vain without a notice

A round of the scheduler starts with a scan. If the scan lets a vehicle in, the round goes on until
the vehicle has acknowledged its grant; if it lets nobody in, the scheduler sleeps until there is a
notice that was not there when the scan started. So the scheduler does not poll: every scan in vain
is paid for by a notice, the first one excepted, and every other round takes a vehicle out of the
queue for good or is the last one.

A shift is a site with one scheduler at work on it and calls of the operations that the site offers,
whose sections come in any order between the steps of the scheduler. The shift keeps a record of its
own of what has happened: the notices, who has joined the queue and who was taken out, and the
rounds. The passes and the epoch, which the scheduler counts, are compared with this record.

## Main definitions

* `Shift`, `Shift.after` — a scheduler at work among calls
* `Shift.Round` — one round of the scheduler
* `Shift.IsDiligent` — what is promised of the rounds
* `Shift.Sound`, `Shift.Advances` — what every action keeps, and what a step of the scheduler adds

## Main results

* `Shift.advances_of_step` — every step of the scheduler
* `Shift.isDiligent_after` — every shift
-/

namespace Junction

/-! ### Points of the scheduler -/

namespace Scheduler.Point

/-- The scheduler is in a scan, and may have to ask about more vehicles. -/
def isScanning : Point → Bool
  | lock .. | scan .. => true
  | _ => false

/-- The scheduler is between two rounds, or it has returned. -/
def isBetween : Point → Bool
  | test | aborting .. | ended _ => true
  | _ => false

/-- The scheduler's loop has returned. What is left is to abort the run over a failure. -/
def hasReturned : Point → Bool
  | aborting .. | ended _ => true
  | _ => false

/-- How many passes the scheduler has counted but not stored. -/
def unstored : Point → Nat
  | rest _ => 1
  | _ => 0

/-- A step from this point is noted for nothing. -/
def isQuiet : Point → Bool
  | look | scan .. | rest _ | sleep _ | rouse .. | giveUp .. | aborting .. | ended _ => false
  | _ => true

/-- The notice that the scheduler's own abort has still to give. -/
def due (p : Point) : List Notice := p.abort?.elim [] Abort.due

/-- What a step of the scheduler's own abort is noted for. -/
def memo (x : Site) (p : Point) : Memo := p.abort?.elim {} (Abort.memo x)

/-- The notice that becomes due with a step of the scheduler, which may start an abort. -/
def begins (p p' : Point) : List Notice := if p.abort?.isSome then [] else p'.due

theorem hasReturned_of_failure {p : Point} (h : p.failure? ≠ none) : p.hasReturned = true := by
  cases p with
  | aborting | ended => rfl
  | _ => exact absurd rfl h

theorem eq_none_of_isQuiet {p : Point} (h : p.isQuiet = true) :
    p.abort? = none ∧ p.failure? = none ∧ p.unstored = 0 := by
  cases p with
  | look | scan | rest | sleep | rouse | giveUp | aborting | ended => cases h
  | _ => exact ⟨rfl, rfl, rfl⟩

theorem memo_eq (x : Site) (p : Point) : (p.memo x).turnedAway = [] ∧ (p.memo x).joined = [] := by
  unfold memo
  cases p.abort? with
  | none => exact ⟨rfl, rfl⟩
  | some a => cases a <;> exact ⟨rfl, rfl⟩

end Scheduler.Point

/-! ### Rounds -/

/-- What the scheduler is answered about a vehicle: an error, a refusal or a ticket. -/
abbrev Shift.Answer := Vehicle × Except Violation (Option Ticket)

/-- A round of the scheduler, as far as it has come. -/
structure Shift.Round where
  /-- How many notices there were when its scan started. -/
  start : Nat
  /-- The vehicles that it has asked about, each with the answer. -/
  answers : List Shift.Answer := []
  /-- Whether its scan is over. -/
  scanned : Bool := false
  /-- The vehicles that it has woken with a grant. -/
  woken : List Vehicle := []
  /-- How many notices there were when the sleep after its scan ended. -/
  awoke : Option Nat := none

namespace Shift.Round

/-- The answer is a refusal. -/
def isRefusal : Answer → Bool
  | (_, .ok none) => true
  | _ => false

/-- The vehicle that is let in by an answer. -/
def admitted? : Answer → Option Vehicle
  | (v, .ok (some _)) => some v
  | _ => none

/-- The vehicles that are let in by some answers. -/
def admitted (r : Round) : List Vehicle := r.answers.filterMap admitted?

/-- The scan has ended without an error and has let nobody in. -/
def isVain (r : Round) : Bool := r.scanned && r.answers.all isRefusal

/-- The scan has let a vehicle in, and has refused everybody whom it asked about before. -/
def LetsIn (r : Round) (v : Vehicle) : Prop :=
  r.scanned = true ∧ ∃ refused ticket,
    r.answers = refused ++ [(v, .ok (some ticket))] ∧ refused.all isRefusal = true

/-- The round has let a vehicle in and granted it its route. -/
def IsGrant (r : Round) : Prop := ∃ v, r.LetsIn v ∧ r.woken = [v] ∧ r.awoke = none

/-- The round has let nobody in, and its sleep has ended after a notice that was not there when its
scan started. -/
def IsRest (r : Round) (notices : Nat) : Prop :=
  r.isVain = true ∧ r.woken = [] ∧ ∃ n, r.awoke = some n ∧ r.start < n ∧ n ≤ notices

/-- The round has granted a vehicle its route, or has slept for a notice. -/
def IsDone (r : Round) (notices : Nat) : Prop := r.IsGrant ∨ r.IsRest notices

/-- What the scheduler asks about the vehicle at a place of a level, if there is one. -/
def asked (x : Site) (level : VehicleClass) (place : Nat) : List Answer :=
  (x.queue.levels.get level)[place]?.toList.map fun v => (v, (x.table.reserve v.id v.route).2)

/-- The round after a step of the scheduler from one point to another. -/
def follow (r : Round) (x : Site) (p p' : Scheduler.Point) (notices : Nat) : Round :=
  match p with
  | .scan _ level place _ =>
    { r with answers := r.answers ++ asked x level place, scanned := !p'.isScanning }
  | .rouse v _ => { r with woken := r.woken ++ [v] }
  | .sleep _ => { r with awoke := some notices }
  | _ => r

end Shift.Round

/-! ### Shifts -/

/-- A scheduler at work on a site, among calls of the site's operations. -/
structure Shift where
  /-- The site. -/
  site : Site
  /-- The scheduler. -/
  scheduler : Scheduler
  /-- The calls that have not returned, in the order in which they were made. -/
  calls : List SiteCall := []
  /-- What the arrivals, rejections, completions and aborts that were begun are to give. -/
  begun : List Notice := []
  /-- The notices so far. -/
  notices : List Notice := []
  /-- The notices that were not given because a vehicle was turned away. -/
  turnedAway : List Notice := []
  /-- The vehicles that have joined the queue. -/
  joined : List Vehicle := []
  /-- The vehicles that aborts have taken out of the queue. -/
  removed : List Vehicle := []
  /-- The rounds of the scheduler that are over. -/
  rounds : List Shift.Round := []
  /-- The round that the scheduler is in. -/
  round : Option Shift.Round := none

/-- What somebody other than the scheduler can ask of a site. -/
inductive Visit where
  /-- A vehicle arrives. -/
  | arrive (v : Vehicle)
  /-- A vehicle is rejected. -/
  | reject (spec : VehicleSpec)
  /-- A vehicle has crossed. -/
  | complete
  /-- The run is aborted. -/
  | abort (fault : Fault)
  /-- A grant is acknowledged. -/
  | acknowledge
  /-- Something is done with the segments. -/
  | table (call : TableCall)

/-- The call that a visitor makes, before its first section. -/
def Visit.call : Visit → SiteCall
  | arrive v => .arrive v .lock
  | reject spec => .reject spec .log
  | complete => .complete .count
  | abort fault => .abort fault (.raise fault)
  | acknowledge => .acknowledge
  | table call => .table call.opened

namespace Shift

/-- What can happen in a shift. -/
inductive Action where
  /-- Somebody makes a call, possibly in the middle of another one. -/
  | make (visit : Visit)
  /-- The call at a place runs its next section, if it has one. -/
  | run (place : Nat)
  /-- The scheduler takes its next step, if it can. -/
  | proceed
  /-- The scheduler's wait for an acknowledgment ends, if it waits. -/
  | expire

/-- The shift before the first action. -/
def start (config : Config) (total : Nat) (console : Console) : Shift where
  site := .start config total console
  scheduler := .start (.start config total console)

/-- All rounds, the one under way included. -/
def all (s : Shift) : List Round := s.rounds ++ s.round.toList

/-- The shift with a memo in its record. -/
def note (s : Shift) (memo : Memo) : Shift :=
  { s with
    notices := s.notices ++ memo.notices
    turnedAway := s.turnedAway ++ memo.turnedAway
    joined := s.joined ++ memo.joined
    removed := s.removed ++ memo.removed }

/-- The round that the scheduler is in after a step to a point. A round starts with the look. -/
def nextRound (s : Shift) (p' : Scheduler.Point) : Option Round :=
  match s.scheduler.point with
  | .look => some { start := s.notices.length }
  | p => s.round.map (·.follow s.site p p' s.notices.length)

/-- The shift after a step of the scheduler. A round is over when the scheduler is between two
rounds. -/
def proceed (s : Shift) (x : Site) (c : Scheduler) : Shift :=
  let p := s.scheduler.point
  let round := s.nextRound c.point
  { s.note (p.memo s.site) with
    site := x
    scheduler := c
    begun := s.begun ++ p.begins c.point
    rounds := if c.point.isBetween then s.rounds ++ round.toList else s.rounds
    round := if c.point.isBetween then none else round }

/-- The shift after an action. -/
def act (supervised : Bool) (s : Shift) : Action → Shift
  | .make visit =>
    { s with calls := s.calls ++ [visit.call], begun := s.begun ++ visit.call.due }
  | .run place =>
    match s.calls[place]? with
    | none => s
    | some call =>
      match call.step s.site with
      | .blocked => s
      | .next x call' =>
        { s.note (call.memo s.site) with site := x, calls := s.calls.set place call' }
      | .done x () =>
        { s.note (call.memo s.site) with site := x, calls := s.calls.eraseIdx place }
  | .proceed =>
    match s.scheduler.step? supervised s.site with
    | none => s
    | some (x, c) => s.proceed x c
  | .expire =>
    match s.scheduler.timeout? s.site with
    | none => s
    | some (x, c) => s.proceed x c

/-- The shift after some actions. -/
def after (supervised : Bool) (s : Shift) (actions : List Action) : Shift :=
  actions.foldl (act supervised) s

/-- What is promised of the rounds of a scheduler. -/
structure IsDiligent (s : Shift) : Prop where
  /-- A pass is a scan that has ended without an error and let nobody in. -/
  passes : s.scheduler.pass = s.all.countP Round.isVain
  /-- The passes of the site are those of the scheduler, as soon as it has stored them. -/
  stored : s.site.passes + s.scheduler.point.unstored = s.scheduler.pass
  /-- The first pass apart, there is a notice for each. -/
  bounded : s.scheduler.pass ≤ s.notices.length + 1
  /-- When the scheduler's loop has returned, there is a notice for each pass. -/
  returned : s.scheduler.point.hasReturned = true → s.scheduler.pass ≤ s.notices.length
  /-- A round that is over has granted a vehicle its route, or has slept until a notice came that is
  later than the start of its scan, or is the last one and has ended the loop with an error. -/
  rounds : ∀ before r after, s.rounds = before ++ r :: after → r.IsDone s.notices.length ∨
    after = [] ∧ s.scheduler.point.failure? ≠ none
  /-- Who is let in leaves the queue for good. -/
  lines : s.joined.Perm (s.site.queue.lines ++ s.all.flatMap Round.admitted ++ s.removed)
  /-- There is a round for each vehicle and each notice at most, and one more. -/
  brief : s.all.length ≤ s.joined.length + s.notices.length + 1
  /-- Each arrival, rejection, completion and abort gives one notice; an arrival that is turned away
  gives none. -/
  notices : s.begun.Perm (s.notices ++ s.turnedAway ++ s.calls.flatMap SiteCall.due ++
    s.scheduler.point.due)
  /-- The scheduler sees every notice. -/
  epoch : s.site.epoch = s.notices.length

/-! ### What every action keeps -/

namespace Round

/-- The answers so far are refusals and errors, and the first error is kept. -/
def Refused (answers : List Answer) (fault : Option Violation) : Prop :=
  answers.filterMap admitted? = [] ∧ (answers.all isRefusal = true ↔ fault = none)

theorem Refused.refuse {answers : List Answer} {fault : Option Violation}
    (h : Refused answers fault) (v : Vehicle) : Refused (answers ++ [(v, .ok none)]) fault := by
  refine ⟨?_, ?_⟩
  · rw [List.filterMap_append, h.1]
    rfl
  · rw [List.all_append, ← h.2, Bool.and_eq_true, and_iff_left_iff_imp]
    exact fun _ => rfl

theorem Refused.error {answers : List Answer} {fault : Option Violation}
    (h : Refused answers fault) (v : Vehicle) (violation : Violation) :
    Refused (answers ++ [(v, .error violation)]) (fault.or (some violation)) := by
  refine ⟨?_, iff_of_false ?_ (by simp)⟩
  · rw [List.filterMap_append, h.1]
    rfl
  · rw [List.all_append]
    exact fun hall => nomatch (Bool.and_eq_true_iff.1 hall).2

end Round

/-- The round that fits the point of a scheduler, and how many passes there may be: as long as the
scheduler has not slept, those before its scan were paid for when the scan started. -/
def Stage (c : Scheduler) (notices : Nat) (round : Option Round) : Prop :=
  match c.point with
  | .hold | .holdTest _ | .holdSleep _ | .test | .look | .aborting .. | .ended _ =>
    round = none ∧ c.pass ≤ notices
  | .gather seen _ => round = some { start := seen } ∧ c.pass ≤ seen ∧ seen ≤ notices
  | .lock seen _ fault | .scan seen _ _ fault =>
    ∃ answers, round = some { start := seen, answers } ∧ Round.Refused answers fault ∧
      c.pass ≤ seen ∧ seen ≤ notices
  | .rest seen | .sleep seen =>
    ∃ answers, round = some { start := seen, answers, scanned := true } ∧
      answers.all Round.isRefusal = true ∧ c.pass ≤ seen + 1 ∧ seen ≤ notices
  | .announce v _ | .rouse v _ =>
    ∃ r, round = some r ∧ r.LetsIn v ∧ r.woken = [] ∧ r.awoke = none ∧ c.pass ≤ notices
  | .await v .. | .giveUp v .. | .withdraw v _ | .acknowledged v _ | .verify v _ =>
    ∃ r, round = some r ∧ r.LetsIn v ∧ r.woken = [v] ∧ r.awoke = none ∧ c.pass ≤ notices

/-- A shift whose record agrees with its site and its scheduler. -/
structure Sound (s : Shift) : Prop where
  /-- Only operations of the site are called. -/
  offered : ∀ call ∈ s.calls, call.IsOffered
  /-- The scheduler sees every notice. -/
  epoch : s.site.epoch = s.notices.length
  /-- What is due is given, or will not be given, or stays due. -/
  due : ∀ n, s.begun.count n = s.notices.count n + s.turnedAway.count n +
    (s.calls.flatMap SiteCall.due).count n + s.scheduler.point.due.count n
  /-- Who has joined the queue is still there, was let in or was taken out. -/
  lines : ∀ v, s.joined.count v = s.site.queue.lines.count v +
    (s.all.flatMap Round.admitted).count v + s.removed.count v
  /-- The passes are the rounds in vain. -/
  passes : s.scheduler.pass = s.all.countP Round.isVain
  /-- The site's passes are those of the scheduler. -/
  stored : s.site.passes + s.scheduler.point.unstored = s.scheduler.pass
  /-- The round fits the point. -/
  stage : Stage s.scheduler s.notices.length s.round
  /-- Every round that is over has done its work, but the last one may have ended with an error. -/
  rounds : (∀ r ∈ s.rounds, r.IsDone s.notices.length) ∨
    s.scheduler.point.failure? ≠ none ∧ ∃ good last, s.rounds = good ++ [last] ∧
      ∀ r ∈ good, r.IsDone s.notices.length

/-- What a step of the scheduler has to do. -/
structure Advances (s : Shift) (x : Site) (c : Scheduler) : Prop where
  /-- The epoch counts the notices. -/
  epoch : x.epoch = s.site.epoch + (s.scheduler.point.memo s.site).notices.length
  /-- A notice of the scheduler's own abort is due until it is given. -/
  due : s.scheduler.point.begins c.point ++ s.scheduler.point.due =
    (s.scheduler.point.memo s.site).notices ++ c.point.due
  /-- Who is let in or taken out leaves the lines. -/
  lines : ∀ v, x.queue.lines.count v +
    ((s.nextRound c.point).toList.flatMap Round.admitted).count v +
      (s.scheduler.point.memo s.site).removed.count v =
    s.site.queue.lines.count v + (s.round.toList.flatMap Round.admitted).count v
  /-- A round that turns out to be in vain is a pass. -/
  passes : c.pass + s.round.toList.countP Round.isVain =
    s.scheduler.pass + (s.nextRound c.point).toList.countP Round.isVain
  /-- A pass is stored. -/
  stored : x.passes + c.point.unstored = c.pass
  /-- The round fits the point. -/
  stage : Stage c x.epoch (if c.point.isBetween then none else s.nextRound c.point)
  /-- A round that is over has done its work, or the loop ends with an error. -/
  ended : c.point.isBetween = true → ∀ r ∈ s.nextRound c.point,
    r.IsDone x.epoch ∨ c.point.failure? ≠ none
  /-- After an error there are no more rounds. -/
  failed : s.scheduler.point.failure? ≠ none →
    s.nextRound c.point = none ∧ c.point.failure? ≠ none

theorem Round.IsDone.mono {r : Round} {m n : Nat} (h : r.IsDone m) (hle : m ≤ n) : r.IsDone n := by
  rcases h with hgrant | ⟨hvain, hwoken, k, hk, hlt, hkm⟩
  · exact .inl hgrant
  · exact .inr ⟨hvain, hwoken, k, hk, hlt, hkm.trans hle⟩

theorem Stage.mono {c : Scheduler} {m n : Nat} {round : Option Round} (h : Stage c m round)
    (hle : m ≤ n) : Stage c n round := by
  unfold Stage at h ⊢
  split at h
  all_goals grind

/-! ### Sections of calls -/

variable {s : Shift}

/-- A section of a call keeps a shift sound. -/
theorem Sound.section (h : s.Sound) {call : SiteCall} {x : Site} {due' : List Notice}
    {calls : List SiteCall} (hbooks : s.site.Books call.due (call.memo s.site) x due')
    (hoffered : ∀ call ∈ calls, call.IsOffered)
    (hdue : ∀ n, (calls.flatMap SiteCall.due).count n + call.due.count n =
      (s.calls.flatMap SiteCall.due).count n + due'.count n) :
    Sound { s.note (call.memo s.site) with site := x, calls } := by
  have hmore : s.notices.length ≤ (s.notices ++ (call.memo s.site).notices).length := by simp
  refine ⟨hoffered, ?_, ?_, ?_, h.passes, ?_, h.stage.mono hmore, ?_⟩
  · simp only [note, List.length_append]
    rw [hbooks.epoch, h.epoch]
  · intro n
    have hbegun := h.due n
    have hcalls := hdue n
    have hgiven := congrArg (List.count n) hbooks.due
    simp only [note, List.count_append] at hgiven ⊢
    omega
  · intro v
    have hjoined := h.lines v
    have hlines := hbooks.lines v
    simp only [note, all, List.count_append] at hjoined ⊢
    omega
  · exact hbooks.passes ▸ h.stored
  · rcases h.rounds with hdone | ⟨hfailure, good, last, hrounds, hdone⟩
    · exact .inl fun r hr => (hdone r hr).mono hmore
    · exact .inr ⟨hfailure, good, last, hrounds, fun r hr => (hdone r hr).mono hmore⟩

theorem count_flatMap_due_set {calls : List SiteCall} {place : Nat} {call : SiteCall}
    (hcall : calls[place]? = some call) (call' : SiteCall) (n : Notice) :
    ((calls.set place call').flatMap SiteCall.due).count n + call.due.count n =
      (calls.flatMap SiteCall.due).count n + call'.due.count n := by
  obtain ⟨hlt, rfl⟩ := List.getElem?_eq_some_iff.1 hcall
  have hset := ((List.set_perm_cons_eraseIdx hlt call').flatMap_right SiteCall.due).count_eq n
  have hget := ((List.getElem_cons_eraseIdx_perm hlt).flatMap_right SiteCall.due).count_eq n
  rw [List.flatMap_cons, List.count_append] at hset hget
  omega

theorem count_flatMap_due_eraseIdx {calls : List SiteCall} {place : Nat} {call : SiteCall}
    (hcall : calls[place]? = some call) (n : Notice) :
    ((calls.eraseIdx place).flatMap SiteCall.due).count n + call.due.count n =
      (calls.flatMap SiteCall.due).count n := by
  obtain ⟨hlt, rfl⟩ := List.getElem?_eq_some_iff.1 hcall
  have hget := ((List.getElem_cons_eraseIdx_perm hlt).flatMap_right SiteCall.due).count_eq n
  rw [List.flatMap_cons, List.count_append] at hget
  omega

theorem Sound.run (h : s.Sound) (supervised : Bool) (place : Nat) :
    (s.act supervised (.run place)).Sound := by
  unfold act
  dsimp only
  split
  · exact h
  · next call hcall =>
    have hmem := List.mem_of_getElem? hcall
    have hbooks := SiteCall.books_step s.site (h.offered call hmem)
    split
    · exact h
    · next x call' heq =>
      rw [heq] at hbooks
      refine h.section hbooks.1 (fun other hother => ?_) (count_flatMap_due_set hcall call')
      rcases List.mem_or_eq_of_mem_set hother with hold | rfl
      · exact h.offered other hold
      · exact hbooks.2
    · next x heq =>
      rw [heq] at hbooks
      refine h.section hbooks (fun other hother => ?_) (count_flatMap_due_eraseIdx hcall)
      exact h.offered other (List.mem_of_mem_eraseIdx hother)

theorem Visit.isOffered (visit : Visit) : visit.call.IsOffered := by
  cases visit <;> trivial

theorem Sound.make (h : s.Sound) (supervised : Bool) (visit : Visit) :
    (s.act supervised (.make visit)).Sound := by
  refine ⟨?_, h.epoch, ?_, h.lines, h.passes, h.stored, h.stage, h.rounds⟩
  · intro call hcall
    rcases List.mem_append.1 hcall with hold | hnew
    · exact h.offered call hold
    · rw [List.mem_singleton.1 hnew]
      exact Visit.isOffered visit
  · intro n
    have hbegun := h.due n
    simp only [act, List.count_append, List.flatMap_append, List.flatMap_singleton]
    omega

/-! ### Steps of the scheduler -/

theorem all_proceed (s : Shift) (x : Site) (c : Scheduler) :
    (s.proceed x c).all = s.rounds ++ (s.nextRound c.point).toList := by
  unfold Shift.proceed all
  cases c.point.isBetween <;> simp

/-- A step of the scheduler that does what it has to do keeps a shift sound. -/
theorem Sound.proceed (h : s.Sound) {x : Site} {c : Scheduler} (hadv : s.Advances x c) :
    (s.proceed x c).Sound := by
  obtain ⟨haway, hjoined⟩ := s.scheduler.point.memo_eq s.site
  have hnotices : x.epoch = (s.proceed x c).notices.length := by
    rw [hadv.epoch, h.epoch]
    exact List.length_append.symm
  have hmore : s.notices.length ≤ x.epoch := by
    rw [hadv.epoch, h.epoch]
    exact Nat.le_add_right _ _
  refine ⟨h.offered, hnotices, ?_, ?_, ?_, hadv.stored, hnotices ▸ hadv.stage, ?_⟩
  · intro n
    have hold := h.due n
    have hnew := congrArg (List.count n) hadv.due
    simp only [List.count_append] at hnew
    simp only [Shift.proceed, note, haway, List.append_nil, List.count_append]
    omega
  · intro v
    have hold := h.lines v
    have hnew := hadv.lines v
    rw [all_proceed, List.flatMap_append]
    simp only [all, List.flatMap_append, List.count_append] at hold
    simp only [Shift.proceed, note, hjoined, List.append_nil, List.count_append]
    omega
  · have hold := h.passes
    have hnew := hadv.passes
    rw [all, List.countP_append] at hold
    rw [all_proceed, List.countP_append]
    simp only [Shift.proceed]
    omega
  · rw [← hnotices]
    simp only [Shift.proceed]
    rcases h.rounds with hdone | ⟨hfailure, good, last, hrounds, hdone⟩
    · replace hdone : ∀ r ∈ s.rounds, r.IsDone x.epoch := fun r hr => (hdone r hr).mono hmore
      split
      · next hbetween =>
        cases hnext : s.nextRound c.point with
        | none =>
          rw [Option.toList_none, List.append_nil]
          exact .inl hdone
        | some r =>
          rcases hadv.ended hbetween r hnext with hr | hfailure
          · exact .inl (List.forall_mem_append.2 ⟨hdone, List.forall_mem_singleton.2 hr⟩)
          · exact .inr ⟨hfailure, s.rounds, r, rfl, hdone⟩
      · exact .inl hdone
    -- A round that has ended with an error stays the last one.
    · obtain ⟨hnone, hfailure'⟩ := hadv.failed hfailure
      rw [hnone, Option.toList_none, List.append_nil, ite_self]
      exact .inr ⟨hfailure', good, last, hrounds, fun r hr => (hdone r hr).mono hmore⟩

/-- What has to be shown of a step of the scheduler outside of its own aborts. -/
theorem Sound.advances (h : s.Sound) {x : Site} {c : Scheduler}
    (hidle : s.scheduler.point.abort? = none) (hsound : s.scheduler.point.failure? = none)
    (hepoch : x.epoch = s.site.epoch)
    (hlines : ∀ v, x.queue.lines.count v +
      ((s.nextRound c.point).toList.flatMap Round.admitted).count v =
        s.site.queue.lines.count v + (s.round.toList.flatMap Round.admitted).count v)
    (hpasses : c.pass + s.round.toList.countP Round.isVain =
      s.scheduler.pass + (s.nextRound c.point).toList.countP Round.isVain)
    (hstored : x.passes + c.point.unstored = c.pass)
    (hstage : Stage c s.notices.length
      (if c.point.isBetween then none else s.nextRound c.point))
    (hended : c.point.isBetween = true → ∀ r ∈ s.nextRound c.point,
      r.IsDone s.notices.length ∨ c.point.failure? ≠ none) : s.Advances x c := by
  have hmemo : s.scheduler.point.memo s.site = {} := by
    rw [Scheduler.Point.memo, hidle, Option.elim_none]
  have hdue : s.scheduler.point.due = [] := by rw [Scheduler.Point.due, hidle, Option.elim_none]
  have hnotices : x.epoch = s.notices.length := hepoch.trans h.epoch
  refine ⟨?_, ?_, fun v => ?_, hpasses, hstored, hnotices ▸ hstage, hnotices ▸ hended,
    fun hfailure => absurd hsound hfailure⟩
  · rw [hmemo, hepoch]
    rfl
  · rw [hmemo, hdue, Scheduler.Point.begins, hidle]
    exact List.append_nil _
  · rw [hmemo]
    exact hlines v

/-- What has to be shown of a step of the scheduler that is noted for nothing. -/
theorem Sound.advances_quietly (h : s.Sound) {x : Site} {c : Scheduler}
    (hquiet : s.scheduler.point.isQuiet = true) (hepoch : x.epoch = s.site.epoch)
    (hpasses : x.passes = s.site.passes)
    (hlines : ∀ v, x.queue.lines.count v = s.site.queue.lines.count v)
    (hpass : c.pass = s.scheduler.pass) (hunstored : c.point.unstored = 0)
    (hstage : Stage c s.notices.length (if c.point.isBetween then none else s.round))
    (hended : c.point.isBetween = true → ∀ r ∈ s.round,
      r.IsDone s.notices.length ∨ c.point.failure? ≠ none) : s.Advances x c := by
  have hround : s.nextRound c.point = s.round := by
    unfold nextRound
    split
    · next hpoint =>
      rw [hpoint] at hquiet
      cases hquiet
    -- Only a question, a wake or the end of a sleep adds something to a round.
    · have hfollow : ∀ r : Round,
          r.follow s.site s.scheduler.point c.point s.notices.length = r := by
        intro r
        unfold Round.follow
        split <;> simp_all [Scheduler.Point.isQuiet]
      simp only [hfollow, Option.map_id']
  obtain ⟨hidle, hsound, hstored⟩ := Scheduler.Point.eq_none_of_isQuiet hquiet
  refine h.advances hidle hsound hepoch (fun v => ?_) ?_ ?_ ?_ ?_
  · rw [hround, hlines]
  · rw [hround, hpass]
  · rw [hunstored, hpasses, hpass, ← h.stored, hstored]
  · rw [hround]
    exact hstage
  · rw [hround]
    exact hended

/-! ### Points of the scheduler -/

section Steps

variable {supervised : Bool} {x : Site} {c : Scheduler}

/-- Within a round nothing is asked of its end. -/
theorem of_inside {p : Scheduler.Point} {P : Prop} (hinside : p.isBetween = false)
    (hbetween : p.isBetween = true) : P := by
  rw [hinside] at hbetween
  cases hbetween

@[simp] theorem isBetween_failed (supervised : Bool) (violation : Violation) :
    (Scheduler.failed supervised violation).isBetween = true := by
  cases supervised <;> rfl

@[simp] theorem isScanning_failed (supervised : Bool) (violation : Violation) :
    (Scheduler.failed supervised violation).isScanning = false := by
  cases supervised <;> rfl

@[simp] theorem failure?_failed (supervised : Bool) (violation : Violation) :
    (Scheduler.failed supervised violation).failure? = some violation := by
  cases supervised <;> rfl

@[simp] theorem unstored_failed (supervised : Bool) (violation : Violation) :
    (Scheduler.failed supervised violation).unstored = 0 := by
  cases supervised <;> rfl

theorem stage_failed {violation : Violation} {n : Nat}
    (hpoint : c.point = Scheduler.failed supervised violation) (hle : c.pass ≤ n) :
    Stage c n none := by
  unfold Stage
  rw [hpoint]
  cases supervised <;> exact ⟨rfl, hle⟩

/-- A step that is noted for nothing and stays within the round. -/
theorem Sound.advances_within (h : s.Sound) (hquiet : s.scheduler.point.isQuiet = true)
    (hepoch : x.epoch = s.site.epoch) (hpasses : x.passes = s.site.passes)
    (hqueue : x.queue = s.site.queue) (hpass : c.pass = s.scheduler.pass)
    (hunstored : c.point.unstored = 0) (hinside : c.point.isBetween = false)
    (hstage : Stage c s.notices.length s.round) : s.Advances x c := by
  refine h.advances_quietly hquiet hepoch hpasses (fun v => by rw [hqueue]) hpass hunstored ?_
    (of_inside hinside)
  rw [hinside]
  exact hstage

/-- Before the first scan and between two rounds the scheduler is in no round. -/
theorem advances_outside (h : s.Sound)
    (hquiet : s.scheduler.point.isQuiet = true) (hround : s.round = none)
    (hpasses : x.passes = s.site.passes) (hepoch : x.epoch = s.site.epoch)
    (hqueue : x.queue = s.site.queue) (hpass : c.pass = s.scheduler.pass)
    (hunstored : c.point.unstored = 0) (hstage : Stage c s.notices.length none) :
    s.Advances x c := by
  refine h.advances_quietly hquiet hepoch hpasses (fun v => by rw [hqueue]) hpass hunstored ?_ ?_
  · rw [hround, ite_self]
    exact hstage
  · rw [hround]
    exact fun _ => nofun

theorem advances_of_hold (h : s.Sound)
    (hpoint : s.scheduler.point = .hold ∨ (∃ seen, s.scheduler.point = .holdTest seen) ∨
      ∃ seen, s.scheduler.point = .holdSleep seen)
    (hstep : s.scheduler.step? supervised s.site = some (x, c)) : s.Advances x c := by
  have hstage := h.stage
  unfold Stage at hstage
  rcases hpoint with hpoint | ⟨seen, hpoint⟩ | ⟨seen, hpoint⟩
  · simp only [Scheduler.step?, hpoint] at hstep hstage
    cases hstep
    exact advances_outside h (by rw [hpoint]; rfl) hstage.1 rfl rfl rfl rfl rfl ⟨rfl, hstage.2⟩
  · simp only [Scheduler.step?, hpoint] at hstep hstage
    split at hstep
    · cases hstep
      exact advances_outside h (by rw [hpoint]; rfl) hstage.1 rfl rfl rfl rfl rfl ⟨rfl, hstage.2⟩
    · cases hstep
      exact advances_outside h (by rw [hpoint]; rfl) hstage.1 rfl rfl rfl rfl rfl ⟨rfl, hstage.2⟩
  · simp only [Scheduler.step?, hpoint] at hstep hstage
    split at hstep
    · cases hstep
    · cases hstep
      exact advances_outside h (by rw [hpoint]; rfl) hstage.1 rfl rfl rfl rfl rfl ⟨rfl, hstage.2⟩

theorem advances_of_test (h : s.Sound) (hpoint : s.scheduler.point = .test)
    (hstep : s.scheduler.step? supervised s.site = some (x, c)) : s.Advances x c := by
  have hstage := h.stage
  unfold Stage at hstage
  simp only [Scheduler.step?, hpoint] at hstep hstage
  split at hstep
  · obtain ⟨console, htransition⟩ := Scheduler.transition_fst s.site s.scheduler .done
    rw [htransition] at hstep
    cases hstep
    exact advances_outside h (by rw [hpoint]; rfl) hstage.1 rfl rfl rfl rfl rfl ⟨rfl, hstage.2⟩
  · cases hstep
    exact advances_outside h (by rw [hpoint]; rfl) hstage.1 rfl rfl rfl rfl rfl ⟨rfl, hstage.2⟩

/-! ### Points of a scan -/

theorem advances_of_look (h : s.Sound) (hpoint : s.scheduler.point = .look)
    (hstep : s.scheduler.step? supervised s.site = some (x, c)) : s.Advances x c := by
  have hstage := h.stage
  unfold Stage at hstage
  obtain ⟨console, htransition⟩ := Scheduler.transition_fst s.site s.scheduler .scanning
  simp only [Scheduler.step?, hpoint, htransition] at hstep hstage
  cases hstep
  obtain ⟨hround, hle⟩ := hstage
  have hnext : s.nextRound (.gather s.site.epoch .ambulance) =
      some { start := s.notices.length } := by rw [nextRound, hpoint]
  refine h.advances (by rw [hpoint]; rfl) (by rw [hpoint]; rfl) rfl (fun v => ?_) ?_ ?_ ?_
    (of_inside rfl)
  · rw [hnext, hround]
    rfl
  · rw [hnext, hround]
    rfl
  · have hstored := h.stored
    rwa [hpoint] at hstored
  · rw [hnext]
    exact ⟨by rw [h.epoch]; rfl, h.epoch ▸ hle, h.epoch.le⟩

theorem advances_of_gather {seen : Nat} {level : VehicleClass} (h : s.Sound)
    (hpoint : s.scheduler.point = .gather seen level)
    (hstep : s.scheduler.step? supervised s.site = some (x, c)) : s.Advances x c := by
  have hstage := h.stage
  unfold Stage at hstage
  simp only [Scheduler.step?, hpoint] at hstep hstage
  cases hstep
  refine h.advances_quietly (by rw [hpoint]; rfl) rfl rfl
    (fun v => s.site.queue.count_lines_gather level v) rfl (by cases level <;> rfl) ?_ ?_
  -- After the last class the questions start, and nobody was refused yet.
  · cases level with
    | ambulance | car => exact hstage
    | truck => exact ⟨[], hstage.1, ⟨rfl, by simp⟩, hstage.2⟩
  · cases level <;> exact of_inside rfl

theorem advances_of_lock {seen : Nat} {level : VehicleClass} {fault : Option Violation}
    (h : s.Sound) (hpoint : s.scheduler.point = .lock seen level fault)
    (hstep : s.scheduler.step? supervised s.site = some (x, c)) : s.Advances x c := by
  have hstage := h.stage
  unfold Stage at hstage
  simp only [Scheduler.step?, hpoint] at hstep hstage
  cases hstep
  exact h.advances_within (by rw [hpoint]; rfl) rfl rfl rfl rfl rfl rfl hstage

/-- What has to be shown of a question of the scheduler. -/
theorem Sound.advances_asking {seen place : Nat} {level : VehicleClass} {fault : Option Violation}
    {answers answers' : List Answer} (h : s.Sound)
    (hpoint : s.scheduler.point = .scan seen level place fault)
    (hround : s.round = some { start := seen, answers })
    (hrefused : Round.Refused answers fault)
    (hasked : answers ++ Round.asked s.site level place = answers')
    (hepoch : x.epoch = s.site.epoch) (hpasses : x.passes = s.site.passes)
    (hlines : ∀ v, x.queue.lines.count v + (answers'.filterMap Round.admitted?).count v =
      s.site.queue.lines.count v)
    (hpass : c.pass = s.scheduler.pass + c.point.unstored)
    (hvain : c.point.unstored =
      if !c.point.isScanning && answers'.all Round.isRefusal then 1 else 0)
    (hstage : Stage c s.notices.length (if c.point.isBetween then none else
      some { start := seen, answers := answers', scanned := !c.point.isScanning }))
    (hended : c.point.isBetween = true → c.point.failure? ≠ none) : s.Advances x c := by
  have hnext : s.nextRound c.point = some
      { start := seen, answers := answers', scanned := !c.point.isScanning } := by
    simp [nextRound, hpoint, hround, Round.follow, hasked]
  refine h.advances (by rw [hpoint]; rfl) (by rw [hpoint]; rfl) hepoch (fun v => ?_) ?_ ?_ ?_ ?_
  · rw [hnext, hround, ← hlines v]
    simp [Round.admitted, hrefused.1]
  · rw [hnext, hround, hpass]
    simp only [Option.toList_some, List.countP_singleton, Round.isVain, hvain]
    rfl
  · have hstored := h.stored
    rw [hpoint] at hstored
    rw [hpass, hpasses, ← hstored]
    rfl
  · rwa [hnext]
  · exact fun hbetween _ _ => .inr (hended hbetween)

/-- After the last vehicle of a level. -/
theorem advances_of_endLevel {seen place : Nat} {level : VehicleClass} {fault : Option Violation}
    {answers : List Answer} (h : s.Sound)
    (hpoint : s.scheduler.point = .scan seen level place fault)
    (hround : s.round = some { start := seen, answers })
    (hrefused : Round.Refused answers fault) (hle : s.scheduler.pass ≤ seen)
    (hseen : seen ≤ s.notices.length)
    (hplace : (s.site.queue.levels.get level)[place]? = none)
    (hend : s.scheduler.endLevel supervised s.site seen level fault = (x, c)) :
    s.Advances x c := by
  have hasked : answers ++ Round.asked s.site level place = answers := by
    simp [Round.asked, hplace]
  have hnobody : ∀ v, s.site.queue.lines.count v + (answers.filterMap Round.admitted?).count v =
      s.site.queue.lines.count v := by
    intro v
    rw [hrefused.1]
    rfl
  simp only [Scheduler.endLevel] at hend
  split at hend
  · cases hend
    exact h.advances_asking hpoint hround hrefused hasked rfl rfl hnobody rfl rfl
      ⟨answers, rfl, hrefused, hle, hseen⟩ (of_inside rfl)
  · cases hend
    refine h.advances_asking hpoint hround hrefused hasked rfl rfl hnobody ?_ ?_ ?_ ?_
    · simp
    · simp [hrefused.2]
    · rw [isBetween_failed, if_pos rfl]
      exact stage_failed rfl (hle.trans hseen)
    · simp
  · obtain ⟨console, htransition⟩ :=
      Scheduler.transition_fst { s.site with scanned := none } s.scheduler .idle
    rw [htransition] at hend
    cases hend
    have hvain : answers.all Round.isRefusal = true := hrefused.2.2 rfl
    refine h.advances_asking hpoint hround hrefused hasked rfl rfl hnobody rfl ?_ ?_ (of_inside rfl)
    · simp [Scheduler.Point.isScanning, Scheduler.Point.unstored, hvain]
    · exact ⟨answers, rfl, hvain, Nat.succ_le_succ hle, hseen⟩

/-- When a route was reserved. -/
theorem advances_of_endScan {seen place : Nat} {level : VehicleClass} {fault : Option Violation}
    {answers : List Answer} {v : Vehicle} {ticket : Ticket} {table : SegmentTable} (h : s.Sound)
    (hpoint : s.scheduler.point = .scan seen level place fault)
    (hround : s.round = some { start := seen, answers })
    (hrefused : Round.Refused answers fault) (hle : s.scheduler.pass ≤ seen)
    (hseen : seen ≤ s.notices.length)
    (hplace : (s.site.queue.levels.get level)[place]? = some v)
    (hasked : answers ++ Round.asked s.site level place = answers ++ [(v, .ok (some ticket))])
    (hend : s.scheduler.endScan supervised (s.site.withTable table) level place v ticket fault =
      (x, c)) : s.Advances x c := by
  have hqueue : ∀ w, (s.site.queue.without level place).lines.count w +
      ((answers ++ [(v, Except.ok (some ticket))]).filterMap Round.admitted?).count w =
        s.site.queue.lines.count w := by
    intro w
    rw [List.filterMap_append, hrefused.1]
    exact WaitingQueue.count_lines_without hplace w
  have hall : (answers ++ [(v, Except.ok (some ticket))]).all Round.isRefusal = false := by
    rw [List.all_append]
    exact Bool.and_false _
  unfold Scheduler.endScan at hend
  cases fault with
  | some violation =>
    cases hend
    refine h.advances_asking hpoint hround hrefused hasked rfl rfl hqueue ?_ ?_ ?_ ?_
    · simp
    · rw [hall, Bool.and_false]
      exact unstored_failed supervised violation
    · rw [isBetween_failed, if_pos rfl]
      exact stage_failed rfl (hle.trans hseen)
    · simp
  | none =>
    -- The transition adds to the console only.
    obtain ⟨console, htransition⟩ := Scheduler.transition_fst
      { s.site with table, queue := s.site.queue.without level place, scanned := none }
      s.scheduler .granting
    simp only [WaitingQueue.without] at htransition
    simp only [Site.withTable, htransition] at hend
    cases hend
    refine h.advances_asking hpoint hround hrefused hasked rfl rfl hqueue rfl ?_ ?_ (of_inside rfl)
    · rw [hall, Bool.and_false]
      rfl
    · exact ⟨_, rfl, ⟨rfl, answers, ticket, rfl, hrefused.2.2 rfl⟩, rfl, rfl, hle.trans hseen⟩

theorem advances_of_scan {seen place : Nat} {level : VehicleClass} {fault : Option Violation}
    (h : s.Sound) (hpoint : s.scheduler.point = .scan seen level place fault)
    (hstep : s.scheduler.step? supervised s.site = some (x, c)) : s.Advances x c := by
  have hstage := h.stage
  unfold Stage at hstage
  simp only [Scheduler.step?, hpoint] at hstep hstage
  obtain ⟨answers, hround, hrefused, hle, hseen⟩ := hstage
  cases hplace : (s.site.queue.levels.get level)[place]? with
  | none =>
    rw [hplace] at hstep
    exact advances_of_endLevel h hpoint hround hrefused hle hseen hplace (Option.some.inj hstep)
  | some v =>
    have hasked : answers ++ Round.asked s.site level place =
        answers ++ [(v, (s.site.table.reserve v.id v.route).2)] := by simp [Round.asked, hplace]
    rw [hplace] at hstep
    dsimp only at hstep
    split at hstep
    · next table ticket hreserve =>
      rw [hreserve] at hasked
      exact advances_of_endScan h hpoint hround hrefused hle hseen hplace hasked
        (Option.some.inj hstep)
    · next table hreserve =>
      rw [hreserve] at hasked
      cases hstep
      have hmore := hrefused.refuse v
      refine h.advances_asking hpoint hround hrefused hasked rfl rfl (fun w => ?_) rfl rfl
        ⟨_, rfl, hmore, hle, hseen⟩ (of_inside rfl)
      rw [hmore.1]
      rfl
    · next table violation hreserve =>
      rw [hreserve] at hasked
      cases hstep
      have hmore := hrefused.error v violation
      refine h.advances_asking hpoint hround hrefused hasked rfl rfl (fun w => ?_) rfl rfl
        ⟨_, rfl, hmore, hle, hseen⟩ (of_inside rfl)
      rw [hmore.1]
      rfl

theorem advances_of_rest {seen : Nat} (h : s.Sound) (hpoint : s.scheduler.point = .rest seen)
    (hstep : s.scheduler.step? supervised s.site = some (x, c)) : s.Advances x c := by
  have hstage := h.stage
  unfold Stage at hstage
  simp only [Scheduler.step?, hpoint] at hstep hstage
  cases hstep
  have hround : s.nextRound (.sleep seen) = s.round := by simp [nextRound, hpoint, Round.follow]
  refine h.advances (by rw [hpoint]; rfl) (by rw [hpoint]; rfl) rfl (fun v => ?_) ?_ rfl ?_
    (of_inside rfl)
  · rw [hround]
  · rw [hround]
  · rw [hround]
    exact hstage

theorem advances_of_sleep {seen : Nat} (h : s.Sound) (hpoint : s.scheduler.point = .sleep seen)
    (hstep : s.scheduler.step? supervised s.site = some (x, c)) : s.Advances x c := by
  have hstage := h.stage
  unfold Stage at hstage
  simp only [Scheduler.step?, hpoint] at hstep hstage
  split at hstep
  · cases hstep
  next hchanged =>
  cases hstep
  obtain ⟨answers, hround, hrefused, hle, hseen⟩ := hstage
  -- The epoch only grows, so it has passed what was noted.
  have hlater : seen < s.notices.length := by
    rw [h.epoch] at hchanged
    omega
  have hnext : s.nextRound .test =
      some { start := seen, answers, scanned := true, awoke := some s.notices.length } := by
    simp [nextRound, hpoint, hround, Round.follow]
  refine h.advances (by rw [hpoint]; rfl) (by rw [hpoint]; rfl) rfl (fun v => ?_) ?_ ?_ ?_ ?_
  · rw [hnext, hround]
    rfl
  · rw [hnext, hround]
    rfl
  · have hstored := h.stored
    rwa [hpoint] at hstored
  · exact ⟨rfl, hle.trans hlater⟩
  · intro _ r hr
    rw [hnext] at hr
    cases hr
    exact .inl (.inr ⟨hrefused, rfl, _, rfl, hlater, le_rfl⟩)

/-! ### Points of a grant -/

theorem advances_of_announce {v : Vehicle} {ticket : Ticket} (h : s.Sound)
    (hpoint : s.scheduler.point = .announce v ticket)
    (hstep : s.scheduler.step? supervised s.site = some (x, c)) : s.Advances x c := by
  have hstage := h.stage
  unfold Stage at hstage
  simp only [Scheduler.step?, hpoint] at hstep hstage
  cases hstep
  exact h.advances_within (by rw [hpoint]; rfl) rfl rfl rfl rfl rfl rfl hstage

theorem advances_of_rouse {v : Vehicle} {ticket : Ticket} (h : s.Sound)
    (hpoint : s.scheduler.point = .rouse v ticket)
    (hstep : s.scheduler.step? supervised s.site = some (x, c)) : s.Advances x c := by
  have hstage := h.stage
  unfold Stage at hstage
  simp only [Scheduler.step?, hpoint] at hstep hstage
  cases hstep
  obtain ⟨r, hround, hletsIn, hwoken, hawoke, hle⟩ := hstage
  have hnext : s.nextRound (.await v ticket 0) = some { r with woken := r.woken ++ [v] } := by
    simp [nextRound, hpoint, hround, Round.follow]
  refine h.advances (by rw [hpoint]; rfl) (by rw [hpoint]; rfl) rfl (fun v => ?_) ?_ ?_ ?_
    (of_inside rfl)
  · rw [hnext, hround]
    rfl
  · rw [hnext, hround]
    rfl
  · have hstored := h.stored
    rwa [hpoint] at hstored
  · rw [hnext]
    exact ⟨_, rfl, hletsIn, by rw [hwoken]; rfl, hawoke, hle⟩

/-- When the wait for the acknowledgment is over, the round has granted its vehicle, unless the
scheduler fails. -/
theorem advances_granted {v : Vehicle} {r : Round} (h : s.Sound)
    (hquiet : s.scheduler.point.isQuiet = true) (hround : s.round = some r) (hletsIn : r.LetsIn v)
    (hwoken : r.woken = [v]) (hawoke : r.awoke = none) (hle : s.scheduler.pass ≤ s.notices.length)
    (hepoch : x.epoch = s.site.epoch) (hpasses : x.passes = s.site.passes)
    (hqueue : x.queue = s.site.queue) (hpass : c.pass = s.scheduler.pass)
    (hbetween : c.point = .test ∨
      ∃ supervised violation, c.point = Scheduler.failed supervised violation) :
    s.Advances x c := by
  have hgrant : r.IsGrant := ⟨v, hletsIn, hwoken, hawoke⟩
  have hstage : Stage c s.notices.length none ∧ c.point.isBetween = true ∧
      c.point.unstored = 0 := by
    rcases hbetween with hc | ⟨supervised, violation, hc⟩
    · unfold Stage
      rw [hc, hpass]
      exact ⟨⟨rfl, hle⟩, rfl, rfl⟩
    · refine ⟨stage_failed hc (hpass ▸ hle), ?_, ?_⟩
      · rw [hc, isBetween_failed]
      · rw [hc, unstored_failed]
  obtain ⟨hstage, hover, hunstored⟩ := hstage
  refine h.advances_quietly hquiet hepoch hpasses (fun v => by rw [hqueue]) hpass hunstored ?_ ?_
  · rwa [if_pos hover]
  · intro _ r' hr'
    rw [hround] at hr'
    cases hr'
    exact .inl (.inl hgrant)

theorem advances_of_grant {v : Vehicle} {ticket : Ticket} (h : s.Sound)
    (hpoint : (∃ retries, s.scheduler.point = .await v ticket retries) ∨
      s.scheduler.point = .acknowledged v ticket ∨ s.scheduler.point = .verify v ticket ∨
      s.scheduler.point = .withdraw v ticket)
    (hstep : s.scheduler.step? supervised s.site = some (x, c)) : s.Advances x c := by
  have hstage := h.stage
  unfold Stage at hstage
  rcases hpoint with ⟨retries, hpoint⟩ | hpoint | hpoint | hpoint
  · simp only [Scheduler.step?, Site.takeAck?, hpoint] at hstep hstage
    split at hstep
    · cases hstep
      exact h.advances_within (by rw [hpoint]; rfl) rfl rfl rfl rfl rfl rfl hstage
    · cases hstep
  all_goals
    simp only [Scheduler.step?, hpoint] at hstep hstage
    cases hstep
    have hquiet : s.scheduler.point.isQuiet = true := by rw [hpoint]; rfl
    obtain ⟨r, hround, hletsIn, hwoken, hawoke, hle⟩ := hstage
  · by_cases haborted : s.site.aborted = true
    · exact advances_granted h hquiet hround hletsIn hwoken hawoke hle rfl rfl rfl rfl
        (.inl (if_pos haborted))
    · simp only [haborted]
      exact h.advances_within hquiet rfl rfl rfl rfl rfl rfl
        ⟨r, hround, hletsIn, hwoken, hawoke, hle⟩
  · refine advances_granted h hquiet hround hletsIn hwoken hawoke hle rfl rfl rfl rfl ?_
    by_cases hentered : s.site.table.hasEntered ticket.vehicle = true
    · exact .inl (if_pos hentered)
    · exact .inr ⟨supervised, _, if_neg hentered⟩
  · exact advances_granted h hquiet hround hletsIn hwoken hawoke hle rfl rfl rfl rfl
      (.inr ⟨supervised, _, rfl⟩)

/-! ### The scheduler's own aborts -/

/-- What has to be shown of a step of the scheduler's own abort. -/
theorem Sound.advances_aborting {a : Abort} {a' : Option Abort} (h : s.Sound)
    (habort : s.scheduler.point.abort? = some a) (move : a.Move s.site x a')
    (hdue : c.point.due = a'.elim [] Abort.due) (hround : s.nextRound c.point = s.round)
    (hpass : c.pass = s.scheduler.pass)
    (hunstored : c.point.unstored = s.scheduler.point.unstored)
    (hstage : Stage c s.notices.length (if c.point.isBetween then none else s.round))
    (hended : c.point.isBetween = true → s.round = none)
    (hfailed : s.scheduler.point.failure? ≠ none → s.round = none ∧ c.point.failure? ≠ none) :
    s.Advances x c := by
  have hbooks := move.books
  have hmemo : s.scheduler.point.memo s.site = a.memo s.site := by
    rw [Scheduler.Point.memo, habort, Option.elim_some]
  obtain ⟨haway, hjoined⟩ := s.scheduler.point.memo_eq s.site
  rw [← hmemo] at hbooks
  have hmore : s.notices.length ≤ x.epoch := by
    rw [hbooks.epoch, h.epoch]
    exact Nat.le_add_right _ _
  refine ⟨hbooks.epoch, ?_, fun v => ?_, ?_, ?_, ?_, fun hbetween r hr => ?_, ?_⟩
  · rw [Scheduler.Point.begins, habort, hdue, Scheduler.Point.due, habort, Option.elim_some,
      hbooks.due, haway, List.append_nil]
    rfl
  · have hlines := hbooks.lines v
    rw [hjoined, List.count_nil] at hlines
    rw [hround]
    omega
  · rw [hround, hpass]
  · rw [hunstored, hbooks.passes, h.stored, hpass]
  · rw [hround]
    exact hstage.mono hmore
  · rw [hround, hended hbetween] at hr
    cases hr
  · rwa [hround]

theorem advances_of_giveUp {v : Vehicle} {ticket : Ticket} {a : Abort} (h : s.Sound)
    (hpoint : s.scheduler.point = .giveUp v ticket a)
    (hstep : s.scheduler.step? supervised s.site = some (x, c)) : s.Advances x c := by
  have hstage := h.stage
  unfold Stage at hstage
  simp only [Scheduler.step?, hpoint] at hstep hstage
  have habort : s.scheduler.point.abort? = some a := by rw [hpoint]; rfl
  have hround : ∀ p', s.nextRound p' = s.round := by simp [nextRound, hpoint, Round.follow]
  have hfailure : s.scheduler.point.failure? = none := by rw [hpoint]; rfl
  split at hstep
  · cases hstep
  · next x' a' heq =>
    cases hstep
    exact h.advances_aborting habort (Abort.move_of_next heq) rfl (hround _) rfl
      (by rw [hpoint]; rfl) hstage (of_inside rfl) (absurd hfailure)
  · next x' heq =>
    cases hstep
    exact h.advances_aborting habort (Abort.move_of_done heq) rfl (hround _) rfl
      (by rw [hpoint]; rfl) hstage (of_inside rfl) (absurd hfailure)

theorem advances_of_aborting {violation : Violation} {a : Abort} (h : s.Sound)
    (hpoint : s.scheduler.point = .aborting violation a)
    (hstep : s.scheduler.step? supervised s.site = some (x, c)) : s.Advances x c := by
  have hstage := h.stage
  unfold Stage at hstage
  simp only [Scheduler.step?, hpoint] at hstep hstage
  have habort : s.scheduler.point.abort? = some a := by rw [hpoint]; rfl
  have hround : ∀ p', s.nextRound p' = s.round := by simp [nextRound, hpoint, Round.follow]
  split at hstep
  · cases hstep
  · next x' a' heq =>
    cases hstep
    exact h.advances_aborting habort (Abort.move_of_next heq) rfl (hround _) rfl
      (by rw [hpoint]; rfl) ⟨rfl, hstage.2⟩ (fun _ => hstage.1) fun _ =>
        ⟨hstage.1, Option.some_ne_none _⟩
  · next x' heq =>
    cases hstep
    exact h.advances_aborting habort (Abort.move_of_done heq) rfl (hround _) rfl
      (by rw [hpoint]; rfl) ⟨rfl, hstage.2⟩ (fun _ => hstage.1) fun _ =>
        ⟨hstage.1, Option.some_ne_none _⟩

/-- Every step of the scheduler does what it has to do. -/
theorem advances_of_step (h : s.Sound)
    (hstep : s.scheduler.step? supervised s.site = some (x, c)) : s.Advances x c := by
  cases hpoint : s.scheduler.point with
  | hold => exact advances_of_hold h (.inl hpoint) hstep
  | holdTest seen => exact advances_of_hold h (.inr (.inl ⟨seen, hpoint⟩)) hstep
  | holdSleep seen => exact advances_of_hold h (.inr (.inr ⟨seen, hpoint⟩)) hstep
  | test => exact advances_of_test h hpoint hstep
  | look => exact advances_of_look h hpoint hstep
  | gather seen level => exact advances_of_gather h hpoint hstep
  | lock seen level fault => exact advances_of_lock h hpoint hstep
  | scan seen level place fault => exact advances_of_scan h hpoint hstep
  | rest seen => exact advances_of_rest h hpoint hstep
  | sleep seen => exact advances_of_sleep h hpoint hstep
  | announce v ticket => exact advances_of_announce h hpoint hstep
  | rouse v ticket => exact advances_of_rouse h hpoint hstep
  | await v ticket retries => exact advances_of_grant h (.inl ⟨retries, hpoint⟩) hstep
  | giveUp v ticket a => exact advances_of_giveUp h hpoint hstep
  | withdraw v ticket => exact advances_of_grant h (.inr (.inr (.inr hpoint))) hstep
  | acknowledged v ticket => exact advances_of_grant h (.inr (.inl hpoint)) hstep
  | verify v ticket => exact advances_of_grant h (.inr (.inr (.inl hpoint))) hstep
  | aborting violation a => exact advances_of_aborting h hpoint hstep
  | ended failure =>
    simp only [Scheduler.step?, hpoint] at hstep
    cases hstep

/-- Neither is anything to note of the end of a wait. -/
theorem advances_of_timeout (h : s.Sound)
    (hstep : s.scheduler.timeout? s.site = some (x, c)) : s.Advances x c := by
  have hstage := h.stage
  unfold Stage at hstage
  cases hpoint : s.scheduler.point with
  | await v ticket retries =>
    simp only [Scheduler.timeout?, hpoint] at hstep hstage
    split at hstep
    · cases hstep
      by_cases himpatient : s.site.config.grantRetries ≤ retries + 1
      · simp only [if_pos himpatient]
        exact h.advances_within (by rw [hpoint]; rfl) rfl rfl rfl rfl rfl rfl hstage
      · simp only [if_neg himpatient]
        exact h.advances_within (by rw [hpoint]; rfl) rfl rfl rfl rfl rfl rfl hstage
    · cases hstep
  | _ =>
    simp only [Scheduler.timeout?, hpoint] at hstep
    cases hstep

end Steps

/-! ### Shifts from their start -/

theorem Sound.act (h : s.Sound) (supervised : Bool) (action : Action) :
    (s.act supervised action).Sound := by
  cases action with
  | make visit => exact h.make supervised visit
  | run place => exact h.run supervised place
  | proceed =>
    unfold Shift.act
    dsimp only
    split
    · exact h
    · next hstep => exact h.proceed (advances_of_step h hstep)
  | expire =>
    unfold Shift.act
    dsimp only
    split
    · exact h
    · next hstep => exact h.proceed (advances_of_timeout h hstep)

theorem Sound.after (h : s.Sound) (supervised : Bool) (actions : List Action) :
    (s.after supervised actions).Sound := by
  induction actions generalizing s with
  | nil => exact h
  | cons action rest ih => exact ih (h.act supervised action)

theorem sound_start (config : Config) (total : Nat) (console : Console) :
    (start config total console).Sound := by
  have hpoint : (start config total console).scheduler.point = .hold ∨
      (start config total console).scheduler.point = .test := by
    unfold start Scheduler.start
    dsimp only
    split
    · exact .inl rfl
    · exact .inr rfl
  refine ⟨nofun, rfl, fun n => ?_, fun v => rfl, rfl, ?_, ?_, .inl nofun⟩
  · rcases hpoint with hpoint | hpoint <;> rw [hpoint] <;> rfl
  · rcases hpoint with hpoint | hpoint <;> rw [hpoint] <;> rfl
  · unfold Stage
    rcases hpoint with hpoint | hpoint <;> rw [hpoint] <;> exact ⟨rfl, Nat.zero_le _⟩

/-! ### Passes and rounds -/

theorem Stage.pass_le {c : Scheduler} {n : Nat} {round : Option Round} (h : Stage c n round) :
    c.pass ≤ n + 1 := by
  unfold Stage at h
  split at h <;> grind

theorem Stage.pass_le_of_returned {c : Scheduler} {n : Nat} {round : Option Round}
    (h : Stage c n round) (hreturned : c.point.hasReturned = true) :
    round = none ∧ c.pass ≤ n := by
  unfold Stage at h
  cases hpoint : c.point with
  | aborting | ended =>
    rw [hpoint] at h
    exact h
  | _ =>
    rw [hpoint] at hreturned
    cases hreturned

/-- Only in the rest after a scan in vain there may be a pass for which there is no notice yet. -/
theorem Stage.isVain_or_pass_le {c : Scheduler} {n : Nat} {round : Option Round}
    (h : Stage c n round) : (∃ r, round = some r ∧ r.isVain = true) ∨ c.pass ≤ n := by
  unfold Stage at h
  split at h
  all_goals grind [Round.isVain]

/-- A round that is done has let a vehicle in or was in vain. -/
theorem Round.IsDone.pays {r : Round} {n : Nat} (h : r.IsDone n) :
    r.admitted ≠ [] ∨ r.isVain = true := by
  rcases h with ⟨v, ⟨-, refused, ticket, hanswers, -⟩, -⟩ | ⟨hvain, -⟩
  · refine .inl ?_
    rw [admitted, hanswers, List.filterMap_append]
    exact List.append_ne_nil_of_right_ne_nil _ nofun
  · exact .inr hvain

theorem length_le_of_pays {rounds : List Round}
    (h : ∀ r ∈ rounds, r.admitted ≠ [] ∨ r.isVain = true) :
    rounds.length ≤ (rounds.flatMap Round.admitted).length + rounds.countP Round.isVain := by
  induction rounds with
  | nil => exact Nat.zero_le _
  | cons r rest ih =>
    obtain ⟨hr, hrest⟩ := List.forall_mem_cons.1 h
    have hle := ih hrest
    have hone : 1 ≤ r.admitted.length + if r.isVain then 1 else 0 := by
      rcases hr with hadmitted | hvain
      · exact (List.length_pos_iff.2 hadmitted).trans_le (Nat.le_add_right _ _)
      · rw [if_pos hvain]
        exact Nat.le_add_left _ _
    rw [List.length_cons, List.flatMap_cons, List.length_append, List.countP_cons]
    omega

namespace Sound

theorem lines_perm (h : s.Sound) :
    s.joined.Perm (s.site.queue.lines ++ s.all.flatMap Round.admitted ++ s.removed) := by
  refine List.perm_iff_count.2 fun v => ?_
  rw [List.count_append, List.count_append]
  exact h.lines v

theorem notices_perm (h : s.Sound) :
    s.begun.Perm (s.notices ++ s.turnedAway ++ s.calls.flatMap SiteCall.due ++
      s.scheduler.point.due) := by
  refine List.perm_iff_count.2 fun n => ?_
  rw [List.count_append, List.count_append, List.count_append]
  exact h.due n

theorem isDone_or_last (h : s.Sound) {before after : List Round} {r : Round}
    (hrounds : s.rounds = before ++ r :: after) :
    r.IsDone s.notices.length ∨ after = [] ∧ s.scheduler.point.failure? ≠ none := by
  rcases h.rounds with hdone | ⟨hfailure, good, last, hgood, hdone⟩
  · exact .inl (hdone r (by rw [hrounds]; simp))
  -- All rounds but the last have done their work, so it is enough that this one is not the last.
  · rcases List.eq_nil_or_concat after with rfl | ⟨after, last', rfl⟩
    · exact .inr ⟨rfl, hfailure⟩
    · have hsplit : good ++ [last] = (before ++ r :: after) ++ [last'] := by
        rw [← hgood, hrounds]
        simp
      obtain rfl := (List.append_inj' hsplit rfl).1
      exact .inl (hdone r (by simp))

/-- Everybody who was let in had joined. -/
theorem length_admitted_le (h : s.Sound) :
    (s.all.flatMap Round.admitted).length ≤ s.joined.length := by
  rw [h.lines_perm.length_eq, List.length_append, List.length_append]
  omega

/-- Each round but one is paid for by a vehicle or a notice. -/
theorem length_all_le (h : s.Sound) :
    s.all.length ≤ s.joined.length + s.notices.length + 1 := by
  have hadmitted := h.length_admitted_le
  have hpasses := h.passes
  have hpass := h.stage.pass_le
  rcases h.rounds with hdone | ⟨hfailure, good, last, hrounds, hdone⟩
  -- The round under way pays for itself when it is in vain; if not, it is the one that is not paid.
  · have hpays := fun r hr => (hdone r hr).pays
    rcases h.stage.isVain_or_pass_le with ⟨r, hround, hvain⟩ | hle
    · have hall : ∀ r ∈ s.all, r.admitted ≠ [] ∨ r.isVain = true := by
        rw [all, hround]
        exact List.forall_mem_append.2 ⟨hpays, List.forall_mem_singleton.2 (.inr hvain)⟩
      have hlength := length_le_of_pays hall
      omega
    · have hlength := length_le_of_pays hpays
      have hone : s.round.toList.length ≤ 1 := by cases s.round <;> simp
      simp only [all, List.flatMap_append, List.countP_append, List.length_append]
        at hadmitted hpasses ⊢
      omega
  -- After an error the last round is not paid for, but then there is a notice for each pass.
  · obtain ⟨hnone, hle⟩ :=
      h.stage.pass_le_of_returned (Scheduler.Point.hasReturned_of_failure hfailure)
    have hlength := length_le_of_pays fun r hr => (hdone r hr).pays
    simp only [all, hnone, hrounds, Option.toList_none, List.append_nil, List.flatMap_append,
      List.countP_append, List.length_append, List.length_singleton] at hadmitted hpasses ⊢
    omega

theorem isDiligent (h : s.Sound) : s.IsDiligent where
  passes := h.passes
  stored := h.stored
  bounded := h.stage.pass_le
  returned hreturned := (h.stage.pass_le_of_returned hreturned).2
  rounds _ _ _ := h.isDone_or_last
  lines := h.lines_perm
  brief := h.length_all_le
  notices := h.notices_perm
  epoch := h.epoch

end Sound

/-- Whatever arrivals, rejections, completions, aborts, acknowledgments and operations of the
segments come in whatever order, whole or in the middle of each other: each pass of the scheduler is
a scan in vain, and there is a notice for each but the last one; each round that is over has granted
a route to a vehicle that has left the queue for good, or has slept until there was a notice later
than the start of its scan, or has ended the scheduler's loop with an error. -/
theorem isDiligent_after (supervised : Bool) (config : Config) (total : Nat) (console : Console)
    (actions : List Action) :
    ((start config total console).after supervised actions).IsDiligent :=
  ((sound_start config total console).after supervised actions).isDiligent

/-- The first scan in vain comes before any notice. -/
example :
    let s := (start {} 1 {}).after true (List.replicate 12 .proceed)
    s.scheduler.pass = 1 ∧ s.notices = [] := by
  decide

end Shift

end Junction
