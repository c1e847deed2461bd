import Mathlib.Data.List.Nodup
import Junction.Proofs.Pools
import Junction.Proofs.Takings
import Junction.Proofs.Tasks

/-!
# Waits that end in time, or do not

Any number of threads share mutexes and condition variables. They wait while a condition holds, with
a deadline or without one, signal and broadcast, in any order, and deadlines pass at any moment,
also while a thread is being signalled. Some of the threads are workers, and some of the workers
wait for the permits of semaphores until a deadline.

A thread that has run out of time takes its own handle off the list before it looks at the mutex
again, and a signal that comes first has taken it off already. So whoever has returned from a wait
is on no list, and no signal is wasted on it. Whoever is told that the time is up has the mutex in
its hands, with the condition still true; therefore a worker that is told so has taken no permit,
and any other one has taken its permit in the step in which it was let in.

## Main definitions

* `Lobby`, `Lobby.after` — threads, with what has been seen of them, and both after some actions
* `Lobby.IsTimely` — what is promised of waits

## Main results

* `Monitors.Roll.sublist`, `Lobby.IsGood.act` — what every step does to the lists and preserves
* `Lobby.isTimely_after` — all waits are as promised after any actions
-/

namespace Junction.Sync

open Workers (Command)

/-- The act is the unparking of a handle. -/
def Act.isUnpark : Act → Bool
  | .unpark _ => true
  | _ => false

/-- Nobody is let in as one who has come too late before his deadline. -/
theorem Request.Admits.isLate {r : Request} {value : Int} {timedOut : Bool}
    (h : r.Admits value timedOut) (htimedOut : timedOut = true) : r.isLate = true := by
  unfold Admits at h
  unfold Request.isLate
  split at h
  · exact absurd (h.symm.trans htimedOut) nofun
  · exact absurd (h.2.symm.trans htimedOut) nofun
  · next heq => simpa [heq] using h.2 htimedOut

/-- Who waits for a permit takes one, unless the time is up. -/
theorem Semaphore.toll_waitUntil (s : Semaphore) (value : Int) (timedOut : Bool) :
    s.waitUntil.toll value timedOut = (!timedOut).toNat := by
  cases timedOut with
  | true => exact Int.sub_self value
  | false => exact Int.sub_sub_self value 1

/-! ### Workers -/

namespace Workers

variable {s s' : Workers} {w : ThreadId}

/-- A worker whose thread has still to use a mutex does nothing else to the threads. -/
theorem monitors_of_request (h : s.step? w = some s') (hnone : s.monitors.step? w = none)
    {r : Request} (hr : (s.monitors.point w).request? = some r) : s'.monitors = s.monitors := by
  have hbusy (last : Option Outcome) : s.monitors.point w ≠ .idle last := by
    intro hidle
    rw [hidle] at hr
    cases hr
  cases pursuit_of_step h with
  | step hstep =>
    rw [hnone] at hstep
    cases hstep
  | rest _ _ same => exact same.monitors
  | giveBack _ _ start =>
    obtain ⟨last, hidle⟩ := Monitors.idle_of_start start
    exact absurd hidle (hbusy last)
  | finish _ idle => exact absurd idle (hbusy _)

/-- A worker that carries out a command answers when its thread has come to an outcome. -/
theorem complete_of_step {command : Command} (htask : (s.workers.get w).task = .doing command)
    (h : s.step? w = some s') (hanswers : s'.answers ≠ s.answers) :
    ∃ outcome, s.monitors.point w = .idle (some outcome) ∧ s' = s.complete w command outcome := by
  unfold step? at h
  rw [htask] at h
  split at h
  · cases h
    exact absurd rfl hanswers
  · split at h
    · next outcome heq hidle =>
      cases heq
      cases h
      exact ⟨outcome, hidle, rfl⟩
    all_goals simp_all

/-! ### Permits -/

theorem permitsOf_keepPermit (s : Workers) (w : ThreadId) (sem : Nat) (taken : Bool) :
    (s.keepPermit w sem taken).permitsOf w sem = s.permitsOf w sem + taken.toNat := by
  cases taken with
  | false => rfl
  | true => simp [keepPermit, setPermits, update, permitsOf, Roster.get?_insert]

theorem permitsOf_reply (s : Workers) (w : ThreadId) (answer : Answer) (sem : Nat) :
    (s.reply w answer).permitsOf w sem = s.permitsOf w sem := by
  simp [reply, assign, update, permitsOf]

theorem answers_keepPermit (s : Workers) (w : ThreadId) (sem : Nat) (taken : Bool) :
    (s.keepPermit w sem taken).answers = s.answers := by
  cases taken <;> rfl

end Workers

/-! ### Lists -/

namespace Monitors

variable {s s' : Monitors} {t : ThreadId} {c m : Nat} {h : ParkHandle}

/-- The handles on the list of a condition variable that were not there before. -/
def newcomers (s s' : Monitors) (c : Nat) : List ParkHandle :=
  (s'.condvars.get c).filter (· ∉ s.condvars.get c)

/-- The handles that a thread takes off the list of a condition variable for the sake of others. -/
def callees (s s' : Monitors) (t : ThreadId) (c : Nat) : List ParkHandle :=
  match s.standing t with
  | .leaving _ => (s.condvars.get c).filter (· ∉ s'.condvars.get c)
  | _ => []

theorem mem_newcomers : h ∈ s.newcomers s' c ↔ h ∈ s'.condvars.get c ∧ h ∉ s.condvars.get c := by
  simp [newcomers]

theorem mem_callees : h ∈ s.callees s' t c ↔
    (∃ m, s.standing t = .leaving m) ∧ h ∈ s.condvars.get c ∧ h ∉ s'.condvars.get c := by
  unfold callees
  split
  · next m heq => simp [heq]
  · next hnot => exact iff_of_false nofun fun ⟨⟨m, heq⟩, _⟩ => hnot m heq

/-- A step leaves the order of a list as it is, and puts new handles behind it. -/
theorem Roll.sublist (roll : s.Roll t s') (hfair : s.Fair) (c : Nat) :
    (s'.condvars.get c).Sublist (s.condvars.get c ++ s.newcomers s' c) := by
  have hsub : (s'.condvars.get c).Sublist (s.condvars.get c) →
      (s'.condvars.get c).Sublist (s.condvars.get c ++ s.newcomers s' c) :=
    fun hsub => hsub.trans (List.sublist_append_left _ _)
  cases roll with
  | still condvars => exact hsub (condvars ▸ .refl _)
  | enroll r c' h inside waits new condvars =>
    have hlist := congrArg (Table.get · c) condvars
    simp only [Table.get_set] at hlist
    split at hlist
    · next hc =>
      subst hc
      have hnew : h ∉ s.condvars.get c := by
        intro hh
        have hlt := hfair.numbered.destined h.id (.inr (.inl ⟨c, h, hh, rfl⟩))
        rw [new] at hlt
        exact Nat.lt_irrefl _ hlt
      have hnewcomers : s.newcomers s' c = [h] := by simp [newcomers, hlist, hnew]
      rw [hnewcomers, hlist]
    · exact hsub (hlist ▸ .refl _)
  | quit r c' h awaits condvars => exact hsub (condvars c ▸ List.filter_sublist)
  | take c' m taken kept leaving list condvars =>
    refine hsub ?_
    rw [condvars, Table.get_set]
    split
    · next hc =>
      rw [hc, list]
      exact List.sublist_append_right taken kept
    · exact .refl _

/-- A handle that a thread takes off a list for the sake of another one is to be unparked. -/
theorem Roll.alerted (roll : s.Roll t s') (hh : h ∈ s.callees s' t c) : s'.IsAlerted h := by
  obtain ⟨⟨m, hleaving⟩, hold, hgone⟩ := mem_callees.1 hh
  cases roll with
  | still condvars => exact absurd (condvars ▸ hold) hgone
  | enroll r c' h' inside =>
    rw [standing, inside, Point.standing] at hleaving
    cases hleaving
  | quit r c' h' awaits =>
    rw [Point.awaits?_of_leaving hleaving] at awaits
    cases awaits
  | take c' m taken kept leaving list condvars awaits wakes =>
    rw [condvars, Table.get_set] at hgone
    split at hgone
    · next hc =>
      rw [hc, list, List.mem_append] at hold
      exact .inr ⟨t, wakes ▸ hold.resolve_right hgone⟩
    · exact absurd hold hgone

/-- A thread begins to use a mutex between two things to do. -/
theorem start?_request {r : Request} (hstart : s.start? t (.request r) = some s') :
    ∃ last, s.point t = .idle last ∧ s' = s.goTo t (.entering r) := by
  unfold start? at hstart
  split at hstart
  · next last hidle =>
    cases hstart
    exact ⟨last, hidle, rfl⟩
  · cases hstart

/-! ### Deeds -/

theorem Listed.deed (hlisted : s.Listed) (hfair : s.Fair) (deed : s.Deed t s') : s'.Listed := by
  cases deed with
  | rest => exact hlisted
  | move move => exact hlisted.move hfair move
  | nudge h move loose =>
    exact (hlisted.move hfair move).move (hfair.move move) (.nudge (t := t) h loose)

theorem Deed.point_other (deed : s.Deed t s') {u : ThreadId} (hu : u ≠ t) :
    s'.point u = s.point u := by
  cases deed with
  | rest => rfl
  | move move => exact move.point_other hu
  | nudge h move => exact move.point_other hu

theorem Deed.issued_le (deed : s.Deed t s') : s.parking.issued ≤ s'.parking.issued := by
  cases deed with
  | rest => exact Nat.le_refl _
  | move move => exact move.issued_le
  | nudge h move => simpa using move.issued_le

theorem Deed.alerted (deed : s.Deed t s') (halerted : s.IsAlerted h) : s'.IsAlerted h := by
  cases deed with
  | rest => exact halerted
  | move move => exact move.alerted halerted
  | nudge h' move loose =>
    exact Move.alerted (.nudge (t := t) h' loose) (move.alerted halerted)

/-- A deed treats the lists as a step does. -/
theorem Deed.sublist (deed : s.Deed t s') (hlisted : s.Listed) (hfair : s.Fair) (c : Nat) :
    (s'.condvars.get c).Sublist (s.condvars.get c ++ s.newcomers s' c) := by
  cases deed with
  | rest => exact List.sublist_append_left _ _
  | move move => exact (hlisted.roll hfair move).sublist hfair c
  | nudge h move => exact (hlisted.roll hfair move).sublist hfair c

theorem Deed.newcomer (deed : s.Deed t s') (hh : h ∈ s.newcomers s' c) :
    s.parking.issued ≤ h.id ∧ h.id < s'.parking.issued := by
  obtain ⟨hnow, hbefore⟩ := mem_newcomers.1 hh
  have hmove {s₁ : Monitors} (move : s.Move t s₁) (hnow : h ∈ s₁.condvars.get c) :
      s.parking.issued ≤ h.id ∧ h.id < s₁.parking.issued := by
    rcases move.listed_cases hnow with hold | ⟨-, rfl, hlt⟩
    · exact absurd hold hbefore
    · exact ⟨Nat.le_refl _, hlt⟩
  cases deed with
  | rest => exact absurd hnow hbefore
  | move move => exact hmove move hnow
  | nudge h' move => simpa using hmove move hnow

theorem Deed.callee (deed : s.Deed t s') (hlisted : s.Listed) (hfair : s.Fair)
    (hh : h ∈ s.callees s' t c) : s'.IsAlerted h := by
  cases deed with
  | rest => exact absurd (mem_callees.1 hh).2.1 (mem_callees.1 hh).2.2
  | move move => exact (hlisted.roll hfair move).alerted hh
  | nudge h' move loose =>
    exact Move.alerted (.nudge (t := t) h' loose) ((hlisted.roll hfair move).alerted hh)

end Monitors

/-! ### Lobbies -/

/-- Threads, some of them workers, with what has been seen of them. -/
structure Lobby where
  /-- The workers and the threads. -/
  workers : Workers
  /-- The handles that were put onto the list of a condition variable, in this order. -/
  joined : Nat → List ParkHandle := fun _ => []
  /-- The handles that a signal or a broadcast has taken off the list of a condition variable. -/
  called : Nat → List ParkHandle := fun _ => []
  /-- What a thread has taken off the value of a mutex since it has begun what it is about. -/
  takings : ThreadId → Nat → Int := fun _ _ => 0

namespace Lobby

/-- What can happen in a lobby. -/
inductive Action where
  /-- A worker that waits for a command is told to do something. -/
  | tell (w : ThreadId) (command : Command)
  /-- A thread that is not busy with a command begins something. -/
  | start (t : ThreadId) (act : Act)
  /-- A thread goes on, if it can. -/
  | go (t : ThreadId)
  /-- The deadline of a thread passes, if it has one. -/
  | expire (t : ThreadId)

/-- The threads and what they share. -/
abbrev monitors (x : Lobby) : Monitors := x.workers.monitors

/-- The point of a thread. -/
abbrev point (x : Lobby) (t : ThreadId) : Point := x.monitors.point t

/-- The handles on the list of a condition variable. -/
abbrev list (x : Lobby) (c : Nat) : List ParkHandle := x.monitors.condvars.get c

/-- What a worker is about. -/
abbrev task (x : Lobby) (w : ThreadId) : Workers.Task := (x.workers.workers.get w).task

/-- The lobby after a deed of a thread. A thread between two things to do begins the next one, for
which it has taken nothing yet. -/
def see (x : Lobby) (t : ThreadId) (workers : Workers) : Lobby where
  workers := workers
  joined c := x.joined c ++ x.monitors.newcomers workers.monitors c
  called c := x.called c ++ x.monitors.callees workers.monitors t c
  takings u m :=
    if u = t then
      (match x.point t with
        | .idle _ => 0
        | _ => x.takings t m) + (x.monitors.value m - workers.monitors.value m)
    else x.takings u m

/-- The lobby after an action. Nobody but a worker, who has been left a handle, can unpark one. -/
def act (x : Lobby) : Action → Lobby
  | .tell w command =>
    if x.task w = .waiting then x.see w (x.workers.begin w command) else x
  | .start t act =>
    if x.task t = .waiting ∧ act.isUnpark = false then
      match x.monitors.start? t act with
      | some monitors => x.see t { x.workers with monitors }
      | none => x
    else x
  | .go t =>
    match x.workers.step? t with
    | some workers => x.see t workers
    | none => x
  | .expire t =>
    match x.monitors.expire? t with
    | some monitors => x.see t { x.workers with monitors }
    | none => x

/-- The lobby after some actions. -/
def after (x : Lobby) (actions : List Action) : Lobby := actions.foldl act x

/-- What is promised of waits. -/
structure IsTimely (x : Lobby) : Prop where
  /-- No thread has two handles on a list. -/
  single : ∀ c, ((x.list c).map (·.owner)).Nodup
  /-- Whoever has a handle on a list waits there, by this handle. -/
  waits : ∀ c, ∀ h ∈ x.list c, (x.point h.owner).awaits? = some (c, h)
  /-- Whoever has returned from a wait has no handle on a list. -/
  returned : ∀ t, (x.point t).awaits? = none → ∀ c, ∀ h ∈ x.list c, h.owner ≠ t
  /-- Nobody on a list was unparked, or is about to be. -/
  quiet : ∀ c, ∀ h ∈ x.list c, ¬ x.monitors.IsCalled h.id
  /-- A signal that finds somebody on the list takes one handle off it, to be unparked: the one that
  was put there first of those that are there, of a thread that still waits. -/
  signal : ∀ t m c outcome h rest, x.point t = .leaving m (.signal c) outcome →
    x.list c = h :: rest →
      (x.act (.go t)).list c = rest ∧ (x.act (.go t)).called c = x.called c ++ [h] ∧
        (x.act (.go t)).point t = .releasing m [h] outcome ∧
          ((x.act (.go t)).point h.owner).awaits? = some (c, h) ∧
            ∃ before behind, x.joined c = before ++ h :: behind ∧ ∀ h' ∈ before, h' ∉ x.list c
  /-- If nobody can go on, whoever was taken off a list by a signal or a broadcast is unparked. -/
  unparked : (∀ t, x.monitors.step? t = none) → ∀ c, ∀ h ∈ x.called c,
    x.monitors.parking.isUnparked h = true
  /-- Whoever comes to an outcome at a mutex has the mutex before and after this step, and is told
  that the time is up if and only if the condition holds, which happens only after the deadline. -/
  verdict : ∀ t r outcome, (x.point t).request? = some r →
    ((x.act (.go t)).point t).outcome? = some outcome →
      x.monitors.Owns t r.mutex ∧ (x.act (.go t)).monitors.Owns t r.mutex ∧
        ∃ timedOut, outcome = .entered (x.monitors.value r.mutex) timedOut ∧
          (timedOut = true → r.isLate = true) ∧
            ∀ condition, r.condition? = some condition →
              condition (x.monitors.value r.mutex) = timedOut
  /-- A worker that answers that it has got no permit has taken nothing off any value, and one that
  answers that it has got one has taken one off the permits of the semaphore and nothing else. -/
  permit : ∀ w sem short workers, x.task w = .doing (.takeUntil sem short) →
    x.workers.step? w = some workers → workers.answers ≠ x.workers.answers →
      ∃ taken : Bool, workers.answers = x.workers.answers ++ [(w, .verdict taken)] ∧
        workers.permitsOf w sem = x.workers.permitsOf w sem + taken.toNat ∧
          ∀ m, x.takings w m =
            if m = (x.workers.semaphores.get sem).permits then (taken.toNat : Int) else 0

/-! ### What every action preserves -/

/-- Nothing is mixed up, and what has been seen is right. -/
structure IsOrderly (x : Lobby) : Prop where
  /-- Locks are fair. -/
  fair : x.monitors.Fair
  /-- Workers have left nothing but loose handles. -/
  tidy : x.workers.Tidy
  /-- Lists are right. -/
  listed : x.monitors.Listed
  /-- The handles on a list stand there in the order in which they were put there. -/
  sublist : ∀ c, (x.list c).Sublist (x.joined c)
  /-- None was put there twice. -/
  nodup : ∀ c, (x.joined c).Nodup
  /-- All of them were issued. -/
  issued : ∀ c, ∀ h ∈ x.joined c, h.id < x.monitors.parking.issued
  /-- Whoever was called was unparked, or somebody has that still to do. -/
  alerted : ∀ c, ∀ h ∈ x.called c, x.monitors.IsAlerted h

/-- Workers that wait for a permit until a deadline have taken what goes with their points. -/
def IsSettled (x : Lobby) : Prop :=
  ∀ w sem short, x.task w = .doing (.takeUntil sem short) →
    Visit (x.workers.semaphores.get sem).waitUntil (x.point w) (x.takings w)

variable {x : Lobby} {t u w : ThreadId} {workers : Workers} {c : Nat} {h : ParkHandle}

theorem IsOrderly.see (horderly : x.IsOrderly) (hkept : x.workers.Kept t workers) :
    (x.see t workers).IsOrderly := by
  have hdeed : x.monitors.Deed t workers.monitors := hkept.deed
  have hlisted := horderly.listed.deed horderly.fair hdeed
  constructor
  case fair => exact horderly.fair.deed hdeed
  case tidy => exact horderly.tidy.kept hkept
  case listed => exact hlisted
  case sublist =>
    intro c
    exact (hdeed.sublist horderly.listed horderly.fair c).trans
      ((horderly.sublist c).append_right _)
  case nodup =>
    intro c
    refine List.nodup_append.2 ⟨horderly.nodup c, (hlisted.nodup c).filter _, ?_⟩
    -- Newcomers have new handles, which are later than those of all who have joined before.
    intro h hh h' hh' heq
    have hold := horderly.issued c h hh
    have hnew := (hdeed.newcomer hh').1
    rw [← heq] at hnew
    exact Nat.not_lt.2 hnew hold
  case issued =>
    intro c h hh
    rcases List.mem_append.1 hh with hh | hh
    · exact Nat.lt_of_lt_of_le (horderly.issued c h hh) hdeed.issued_le
    · exact (hdeed.newcomer hh).2
  case alerted =>
    intro c h hh
    rcases List.mem_append.1 hh with hh | hh
    · exact hdeed.alerted (horderly.alerted c h hh)
    · exact hdeed.callee horderly.listed horderly.fair hh

/-- What a worker does settles its own account, and leaves those of the others as they were. -/
theorem IsSettled.see (hsettled : x.IsSettled) (hkept : x.workers.Kept t workers)
    {task : Workers.Task} (htakes : x.workers.Takes t task workers)
    (hown : ∀ sem short, task = .doing (.takeUntil sem short) →
      Visit (x.workers.semaphores.get sem).waitUntil (workers.monitors.point t)
        ((x.see t workers).takings t)) : (x.see t workers).IsSettled := by
  intro w sem short htask
  change (workers.workers.get w).task = _ at htask
  change Visit (workers.semaphores.get sem).waitUntil (workers.monitors.point w) _
  rw [htakes.semaphores]
  by_cases hw : w = t
  · subst hw
    exact hown sem short (htakes.task.symm.trans htask)
  -- Nothing is put down to the account of another worker, nor does its thread move.
  · rw [htakes.others w hw] at htask
    have hvisit := hsettled w sem short htask
    have htakings : (x.see t workers).takings w = x.takings w := by
      funext m
      exact if_neg hw
    rwa [htakings, hkept.deed.point_other hw]

/-- A thread goes on, or its deadline passes. -/
theorem IsSettled.move (hsettled : x.IsSettled) {monitors : Monitors}
    (move : x.monitors.Move t monitors) (hbusy : ∀ last, x.point t ≠ .idle last) :
    (x.see t { x.workers with monitors }).IsSettled := by
  refine hsettled.see (Workers.kept_of_move move) ⟨rfl, rfl, rfl, fun _ _ => rfl⟩ ?_
  intro sem short htask
  have htakings : (x.see t { x.workers with monitors }).takings t =
      fun m => x.takings t m + (x.monitors.value m - monitors.value m) := by
    funext m
    refine (if_pos rfl).trans ?_
    split
    · next last hidle => exact absurd hidle (hbusy last)
    · rfl
  rw [htakings]
  exact (hsettled t sem short htask).move move hbusy

/-- A worker that begins to wait for a permit has taken nothing. -/
theorem IsSettled.tell (hsettled : x.IsSettled) (horderly : x.IsOrderly) (command : Command) :
    (x.see w (x.workers.begin w command)).IsSettled := by
  have hkept := Workers.kept_begin (w := w) horderly.fair horderly.tidy command
  obtain ⟨task, htakes, htask⟩ := Workers.begun_begin x.workers w command
  refine hsettled.see hkept htakes fun sem short heq => ?_
  obtain rfl : command = .takeUntil sem short := by
    rw [heq] at htask
    exact (Workers.Task.doing.inj (htask.resolve_right fun hnot => hnot _ rfl)).symm
  cases hstart : x.monitors.start? w (.request (x.workers.semaphores.get sem).waitUntil) with
  | none =>
    -- A worker that cannot begin is about nothing.
    have hreply : x.workers.begin w (.takeUntil sem short) = x.workers.reply w .notHeld := by
      simp only [Workers.begin, Workers.act, hstart]
    have hwaiting := (Workers.Takes.reply (s := x.workers) (w := w) .notHeld).task
    rw [← hreply, htakes.task, heq] at hwaiting
    cases hwaiting
  | some monitors =>
    obtain ⟨last, hidle, rfl⟩ := Monitors.start?_request hstart
    have hmonitors : (x.workers.begin w (.takeUntil sem short)).monitors =
        x.monitors.goTo w (.entering (x.workers.semaphores.get sem).waitUntil) := by
      simp only [Workers.begin, Workers.act, hstart]
      rfl
    rw [hmonitors]
    refine .ahead _ (.inl rfl) (by simp [Point.request?]) fun m => ?_
    refine (if_pos rfl).trans ?_
    rw [hmonitors]
    split
    · exact (Int.zero_add _).trans (Int.sub_self _)
    · next hbusy => exact absurd hidle (hbusy last)

/-- What every action preserves. -/
structure IsGood (x : Lobby) : Prop where
  /-- Nothing is mixed up. -/
  orderly : x.IsOrderly
  /-- What workers have taken is right. -/
  settled : x.IsSettled

namespace IsGood

variable (hgood : x.IsGood)
include hgood

theorem tell (w : ThreadId) (command : Command) : (x.act (.tell w command)).IsGood := by
  unfold act
  dsimp only
  split
  · have hkept := Workers.kept_begin (w := w) hgood.orderly.fair hgood.orderly.tidy command
    exact ⟨hgood.orderly.see hkept, hgood.settled.tell hgood.orderly command⟩
  · exact hgood

theorem start (t : ThreadId) (what : Act) : (x.act (.start t what)).IsGood := by
  unfold act
  dsimp only
  split
  · next hfree =>
    split
    · next monitors hstart =>
      have move : x.monitors.Move t monitors := by
        refine Monitors.move_of_start hstart fun h heq => ?_
        rw [heq] at hfree
        cases hfree.2
      have hkept := Workers.kept_of_move move
      have htakes : x.workers.Takes t .waiting { x.workers with monitors } :=
        ⟨rfl, rfl, hfree.1, fun _ _ => rfl⟩
      exact ⟨hgood.orderly.see hkept, hgood.settled.see hkept htakes nofun⟩
    · exact hgood
  · exact hgood

theorem go (t : ThreadId) : (x.act (.go t)).IsGood := by
  unfold act
  dsimp only
  split
  · next workers hstep =>
    refine ⟨hgood.orderly.see (Workers.kept_step hstep), ?_⟩
    rcases Workers.step?_takes hstep with ⟨monitors, hmonitors, rfl⟩ | ⟨-, task, htakes, hfree⟩
    · exact hgood.settled.move (Monitors.move_of_step hmonitors)
        (Monitors.not_idle_of_step hmonitors)
    · exact hgood.settled.see (Workers.kept_step hstep) htakes
        fun sem short heq => absurd heq (hfree _)
  · exact hgood

theorem expire (t : ThreadId) : (x.act (.expire t)).IsGood := by
  unfold act
  dsimp only
  split
  · next monitors hexpire =>
    have move := Monitors.move_of_expire hexpire
    refine ⟨hgood.orderly.see (Workers.kept_of_move move), hgood.settled.move move ?_⟩
    intro last hidle
    simp [Monitors.expire?_eq, hidle, Point.expired?] at hexpire
  · exact hgood

theorem act (action : Action) : (x.act action).IsGood := by
  cases action with
  | tell w command => exact hgood.tell w command
  | start t what => exact hgood.start t what
  | go t => exact hgood.go t
  | expire t => exact hgood.expire t

theorem after (actions : List Action) : (x.after actions).IsGood := by
  induction actions generalizing x with
  | nil => exact hgood
  | cons action rest ih => exact ih (hgood.act action)

end IsGood

theorem isGood_start (count : Nat) (mutexes : List Int) (condvars : Nat) (permits : List Nat)
    (spins : List Int) : IsGood { workers := .start count mutexes condvars permits spins } := by
  have hfresh := Workers.isFresh_start count mutexes condvars permits spins
  refine ⟨⟨hfresh.fair, nofun, hfresh.listed, ?_, fun _ => .nil, nofun, nofun⟩, nofun⟩
  intro c
  exact hfresh.condvars c ▸ .slnil

/-! ### Promises -/

theorem act_go {monitors : Monitors} (hstep : x.monitors.step? t = some monitors) :
    x.act (.go t) = x.see t { x.workers with monitors } := by
  simp [act, Workers.step?, hstep]

/-- Whoever is the first one on a list was put there before all others that are there. -/
theorem exists_before {list joined rest : List ParkHandle} (hsub : list.Sublist joined)
    (hnodup : joined.Nodup) (hlist : list = h :: rest) :
    ∃ before behind, joined = before ++ h :: behind ∧ ∀ h' ∈ before, h' ∉ list := by
  subst hlist
  obtain ⟨front, back, rfl, hfront, hrest⟩ := List.cons_sublist_iff.1 hsub
  obtain ⟨before, between, rfl⟩ := List.append_of_mem hfront
  refine ⟨before, between ++ back, by simp, fun h' hbefore hlisted => ?_⟩
  rw [List.append_assoc] at hnodup
  have hapart := (List.nodup_append.1 hnodup).2.2 h' hbefore
  rcases List.mem_cons.1 hlisted with rfl | hlisted
  · exact hapart h' (by simp) rfl
  · exact hapart h' (by simp [hrest.subset hlisted]) rfl

namespace IsGood

variable (hgood : x.IsGood)
include hgood

theorem signal {m : Nat} {outcome : Outcome} {rest : List ParkHandle}
    (hleaving : x.point t = .leaving m (.signal c) outcome) (hlist : x.list c = h :: rest) :
    (x.act (.go t)).list c = rest ∧ (x.act (.go t)).called c = x.called c ++ [h] ∧
      (x.act (.go t)).point t = .releasing m [h] outcome ∧
        ((x.act (.go t)).point h.owner).awaits? = some (c, h) ∧
          ∃ before behind, x.joined c = before ++ h :: behind ∧ ∀ h' ∈ before, h' ∉ x.list c := by
  change x.monitors.condvars.get c = h :: rest at hlist
  change x.monitors.point t = .leaving m (.signal c) outcome at hleaving
  have hstep : x.monitors.step? t =
      some ((x.monitors.setCondvar c rest).goTo t (.releasing m [h] outcome)) := by
    simp only [Monitors.step?, hleaving, hlist]
    rfl
  have hmonitors : (x.act (.go t)).monitors =
      (x.monitors.setCondvar c rest).goTo t (.releasing m [h] outcome) := by
    rw [act_go hstep]
    rfl
  have hawaits := hgood.orderly.listed.awaits c h (by rw [hlist]; exact List.mem_cons_self)
  -- The one who signals is inside, and the one who is signalled waits.
  have hother : h.owner ≠ t := by
    rintro rfl
    rw [hleaving] at hawaits
    cases hawaits
  refine ⟨?_, ?_, ?_, ?_, ?_⟩
  · simp [list, hmonitors]
  · have hnodup := hgood.orderly.listed.nodup c
    have hleaves : x.monitors.standing t = .leaving m := by
      rw [Monitors.standing, hleaving, Point.standing]
    rw [act_go hstep]
    refine congrArg (x.called c ++ ·) ?_
    rw [hlist] at hnodup
    have hgone : (h :: rest).filter (· ∉ rest) = [h] := by
      simp [(List.nodup_cons.1 hnodup).1]
    simpa [Monitors.callees, hleaves, hlist] using hgone
  · simp [point, hmonitors]
  · simpa [point, hmonitors, hother] using hawaits
  · exact exists_before (hgood.orderly.sublist c) (hgood.orderly.nodup c) hlist

theorem unparked (hstill : ∀ t, x.monitors.step? t = none) (hh : h ∈ x.called c) :
    x.monitors.parking.isUnparked h = true := by
  rcases hgood.orderly.alerted c h hh with hunparked | ⟨u, hwakes⟩
  · exact hunparked
  · have hcan := Monitors.isSome_step?_of_wakes hwakes
    rw [hstill u] at hcan
    cases hcan

omit hgood in
theorem verdict {r : Request} {outcome : Outcome} (hr : (x.point t).request? = some r)
    (houtcome : ((x.act (.go t)).point t).outcome? = some outcome) :
    x.monitors.Owns t r.mutex ∧ (x.act (.go t)).monitors.Owns t r.mutex ∧
      ∃ timedOut, outcome = .entered (x.monitors.value r.mutex) timedOut ∧
        (timedOut = true → r.isLate = true) ∧
          ∀ condition, r.condition? = some condition →
            condition (x.monitors.value r.mutex) = timedOut := by
  cases hstep : x.monitors.step? t with
  | none =>
    -- The thread is where it was, and has no outcome there.
    have hsame : (x.act (.go t)).monitors = x.monitors := by
      unfold Lobby.act
      dsimp only
      split
      · next workers hworkers => exact Workers.monitors_of_request hworkers hstep hr
      · rfl
    have hnone := Point.outcome?_of_request hr
    rw [point, hsame] at houtcome
    exact absurd (houtcome.symm.trans hnone) (Option.some_ne_none _)
  | some monitors =>
    rw [act_go hstep] at houtcome ⊢
    obtain ⟨timedOut, hinside, hadmits, rfl, howns, -⟩ :=
      (Monitors.move_of_step hstep).admitted hr houtcome
    refine ⟨.inr (.inr (.inl ?_)), howns, timedOut, rfl, Request.Admits.isLate hadmits, ?_⟩
    · rw [Monitors.standing, hinside, Point.standing]
    · exact fun condition hcondition => Request.Admits.condition hadmits hcondition

theorem permit {sem : Nat} {short : Bool} (htask : x.task w = .doing (.takeUntil sem short))
    (hstep : x.workers.step? w = some workers) (hanswers : workers.answers ≠ x.workers.answers) :
    ∃ taken : Bool, workers.answers = x.workers.answers ++ [(w, .verdict taken)] ∧
      workers.permitsOf w sem = x.workers.permitsOf w sem + taken.toNat ∧
        ∀ m, x.takings w m =
          if m = (x.workers.semaphores.get sem).permits then (taken.toNat : Int) else 0 := by
  obtain ⟨outcome, hidle, rfl⟩ := Workers.complete_of_step htask hstep hanswers
  have hvisit := hgood.settled w sem short htask
  rw [point, hidle] at hvisit
  cases hvisit with
  | ahead r same request => cases request
  | behind value timedOut houtcome all =>
    cases houtcome
    refine ⟨!timedOut, ?_, ?_, fun m => ?_⟩
    · rw [Workers.complete, Workers.reply, Workers.answers_keepPermit]
    · rw [Workers.complete, Workers.permitsOf_reply, Workers.permitsOf_keepPermit]
    · rw [all, Semaphore.toll_waitUntil]
      rfl

theorem isTimely : x.IsTimely where
  single := hgood.orderly.listed.nodup_owners
  waits := hgood.orderly.listed.awaits
  returned t haway c h hh howner := by
    have hawaits := hgood.orderly.listed.awaits c h hh
    rw [howner] at hawaits
    cases hawaits.symm.trans haway
  quiet := hgood.orderly.listed.quiet
  signal _ _ _ _ _ _ hleaving hlist := hgood.signal hleaving hlist
  unparked hstill _ _ hh := hgood.unparked hstill hh
  verdict _ _ _ hr houtcome := verdict hr houtcome
  permit _ _ _ _ htask hstep hanswers := hgood.permit htask hstep hanswers

end IsGood

/-- However many threads there are, in whatever order they wait, signal and broadcast, and whenever
their deadlines pass: nobody is on a list after a wait, a signal wakes the one who waits for
longest, and whoever is told that the time is up has the mutex, the condition holds, and no permit
was taken. -/
theorem isTimely_after (count : Nat) (mutexes : List Int) (condvars : Nat) (permits : List Nat)
    (spins : List Int) (actions : List Action) :
    (Lobby.after { workers := .start count mutexes condvars permits spins } actions).IsTimely :=
  ((isGood_start count mutexes condvars permits spins).after actions).isTimely

end Lobby

end Junction.Sync
