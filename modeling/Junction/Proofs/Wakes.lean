import Junction.Proofs.Aborts
import Junction.Proofs.Tallies

/-!
# Each wait has one wake

A vehicle that has joined the queue owes its wake to exactly one of four: the queue, an abort that
has taken it out, the scheduler that has let it in, or the wake itself that waits on the channel.
Steps pass the debt on, and no step doubles or drops it.

The debt is counted by channels. Nothing need be known about the vehicles of a run for that, not
even that their channels differ.

## Main definitions

* `Scene.owed`, `Scene.waiting` — how many wakes are still to be given on a channel, and how many
  lives wait for one

## Main results

* `Scene.Balanced.reachable` — in every scene that a staged run can reach, the wakes given and to be
  given on a channel are as many as the lives that wait
-/

universe u v

namespace Junction

/-! ### Debts -/

/-- How many vehicles of a list sleep on a channel. -/
def Vehicle.countOn (channel : Nat) (vehicles : List Vehicle) : Nat :=
  vehicles.countP (·.channel == channel)

namespace Vehicle

variable (channel : Nat)

@[simp] theorem countOn_nil : countOn channel [] = 0 := rfl

@[simp] theorem countOn_cons (v : Vehicle) (rest : List Vehicle) :
    countOn channel (v :: rest) = countOn channel rest + if v.channel = channel then 1 else 0 := by
  simp [countOn, List.countP_cons]

@[simp] theorem countOn_append (vehicles more : List Vehicle) :
    countOn channel (vehicles ++ more) = countOn channel vehicles + countOn channel more :=
  List.countP_append ..

theorem countOn_eraseIdx {vehicles : List Vehicle} {place : Nat} {v : Vehicle}
    (hplace : vehicles[place]? = some v) :
    countOn channel (vehicles.eraseIdx place) + (if v.channel = channel then 1 else 0) =
      countOn channel vehicles := by
  induction vehicles generalizing place with
  | nil => cases hplace
  | cons w rest ih =>
    cases place with
    | zero =>
      cases hplace
      simp
    | succ place =>
      have hrest := ih hplace
      simp only [List.eraseIdx_cons_succ, countOn_cons]
      omega

end Vehicle

namespace WaitingQueue

/-- How many vehicles of a queue sleep on a channel. -/
def countOn (channel : Nat) (q : WaitingQueue) : Nat :=
  q.zone.tally (Vehicle.countOn channel) + q.levels.tally (Vehicle.countOn channel)

variable (q : WaitingQueue) (channel : Nat)

theorem countOn_enqueue (v : Vehicle) :
    (q.enqueue v).countOn channel = q.countOn channel + if v.channel = channel then 1 else 0 := by
  have hzone := q.zone.tally_set (Vehicle.countOn channel) v.vclass (q.zone.get v.vclass ++ [v])
  simp only [Vehicle.countOn_append, Vehicle.countOn_cons, Vehicle.countOn_nil] at hzone
  simp only [countOn, enqueue]
  omega

theorem countOn_gather (c : VehicleClass) : (q.gather c).countOn channel = q.countOn channel := by
  have hzone := q.zone.tally_set (Vehicle.countOn channel) c []
  have hlevels :=
    q.levels.tally_set (Vehicle.countOn channel) c (q.levels.get c ++ q.zone.get c)
  simp only [Vehicle.countOn_append, Vehicle.countOn_nil] at hzone hlevels
  simp only [countOn, gather]
  omega

theorem countOn_drainLevel (c : VehicleClass) :
    (q.drainLevel c).1.countOn channel + Vehicle.countOn channel (q.levels.get c) =
      q.countOn channel := by
  have hlevels := q.levels.tally_set (Vehicle.countOn channel) c []
  simp only [Vehicle.countOn_nil] at hlevels
  simp only [countOn, drainLevel]
  omega

theorem countOn_without {c : VehicleClass} {place : Nat} {v : Vehicle}
    (hplace : (q.levels.get c)[place]? = some v) :
    (q.without c place).countOn channel + (if v.channel = channel then 1 else 0) =
      q.countOn channel := by
  have hlevels :=
    q.levels.tally_set (Vehicle.countOn channel) c ((q.levels.get c).eraseIdx place)
  have herase : Vehicle.countOn channel ((q.levels.get c).eraseIdx place) +
      (if v.channel = channel then 1 else 0) = Vehicle.countOn channel (q.levels.get c) :=
    Vehicle.countOn_eraseIdx channel hplace
  simp only [countOn, without]
  omega

theorem countOn_pos {c : VehicleClass} {v : Vehicle} (hv : v ∈ q.levels.get c) :
    0 < q.countOn v.channel := by
  have hle := q.levels.le_tally (Vehicle.countOn v.channel) c
  have hpos : 0 < Vehicle.countOn v.channel (q.levels.get c) :=
    List.countP_pos_iff.2 ⟨v, hv, by simp⟩
  unfold countOn
  omega

/-- Somebody on a channel that is counted is in a zone or in a level. -/
theorem exists_of_countOn_pos (h : 0 < q.countOn channel) :
    ∃ c v, (v ∈ q.zone.get c ∨ v ∈ q.levels.get c) ∧ v.channel = channel := by
  have hmem : ∀ {vehicles : List Vehicle}, 0 < Vehicle.countOn channel vehicles →
      ∃ v ∈ vehicles, v.channel = channel := by
    intro vehicles hpos
    obtain ⟨v, hv, hchannel⟩ := List.countP_pos_iff.1 hpos
    exact ⟨v, hv, by simpa using hchannel⟩
  have hpart : 0 < q.zone.tally (Vehicle.countOn channel) ∨
      0 < q.levels.tally (Vehicle.countOn channel) := by
    unfold countOn at h
    omega
  rcases hpart with hpos | hpos <;> obtain ⟨c, hc⟩ := Trio.exists_of_tally_pos hpos <;>
    obtain ⟨v, hv, hchannel⟩ := hmem hc
  · exact ⟨c, v, .inl hv, hchannel⟩
  · exact ⟨c, v, .inr hv, hchannel⟩

end WaitingQueue

/-- Whether a life has joined the queue and not been woken yet, so that the next wake on its channel
is its own. -/
def Life.waitsOn (channel : Nat) : Life → Bool
  | arriving v .count | arriving v .notify | sleeping v => v.channel == channel
  | _ => false

@[simp] theorem Life.waitsOn_toClaim (channel : Nat) (v : Vehicle) (segments : List Segment) :
    (toClaim v segments).waitsOn channel = false := by
  cases segments <;> rfl

theorem Life.vehicle_of_waitsOn {channel : Nat} {p : Life} (h : p.waitsOn channel = true) :
    ∃ v, p.vehicle? = some v ∧ v.channel = channel := by
  unfold waitsOn at h
  split at h
  · exact ⟨_, rfl, by simpa using h⟩
  · exact ⟨_, rfl, by simpa using h⟩
  · exact ⟨_, rfl, by simpa using h⟩
  · cases h

/-- How many lives of a task wait on a channel. -/
def Task.waitsOn (channel : Nat) : Task → Nat
  | life p => (p.waitsOn channel).toNat
  | _ => 0

theorem Task.exists_of_waitsOn {channel : Nat} {task : Task} (h : 0 < task.waitsOn channel) :
    ∃ p, task = .life p ∧ ∃ v, p.vehicle? = some v ∧ v.channel = channel := by
  cases task with
  | life p =>
    refine ⟨p, rfl, Life.vehicle_of_waitsOn ?_⟩
    cases hwaits : p.waitsOn channel with
    | false => simp [waitsOn, hwaits] at h
    | true => rfl
  | _ => cases h

/-- How many vehicles in the hand of a task sleep on a channel. -/
def Task.owes (channel : Nat) (task : Task) : Nat := Vehicle.countOn channel task.hand

theorem Task.owes_ofAbort (channel : Nat) (a : Option Abort) :
    (ofAbort a).owes channel = Vehicle.countOn channel (Abort.handOf a) := by
  rw [owes, hand_ofAbort]

/-- The vehicles that the scheduler has taken out of the queue and not granted yet, or has taken out
to abort the run. -/
def Scheduler.Point.ungranted : Point → List Vehicle
  | announce v _ => [v]
  | giveUp _ _ a | aborting _ a => a.drained
  | _ => []

/-- The error that a scan has met so far. -/
def Scheduler.Point.fault? : Point → Option Violation
  | lock _ _ fault | scan _ _ _ fault => fault
  | _ => none

/-- The vehicle that the scheduler has granted its route and not woken yet. -/
def Scheduler.Point.granted : Point → List Vehicle
  | rouse v _ => [v]
  | _ => []

namespace Scene

/-- How many vehicles on a channel have joined the queue and been neither granted their routes nor
woken. -/
def ungranted (e : Scene) (channel : Nat) : Nat :=
  e.site.queue.countOn channel + e.tasks.tally (Task.owes channel) +
    Vehicle.countOn channel e.point.ungranted

/-- How many wakes are still to be given on a channel. -/
def owed (e : Scene) (channel : Nat) : Nat :=
  e.ungranted channel + Vehicle.countOn channel e.point.granted

/-- How many lives wait for a wake on a channel. -/
def waiting (e : Scene) (channel : Nat) : Nat := e.tasks.tally (Task.waitsOn channel)

/-- The wakes given and to be given are as many as the lives that wait for one. -/
def Balanced (e : Scene) : Prop :=
  ∀ channel, e.owed channel + e.site.wakes.get channel = e.waiting channel

end Scene

/-! ### Steps -/

section Steps

variable {x x' : Site} (channel : Nat)

theorem Site.get_wakes_wake (x : Site) (other : Nat) :
    (x.wake other).wakes.get channel =
      x.wakes.get channel + if other = channel then 1 else 0 := by
  rw [Site.wake, Table.get_set]
  by_cases h : channel = other
  · simp [h]
  · simp [h, Ne.symm h]

theorem Abort.Move.owes {a : Abort} {a' : Option Abort} (move : a.Move x x' a') :
    x'.queue.countOn channel + Vehicle.countOn channel (handOf a') + x'.wakes.get channel =
      x.queue.countOn channel + Vehicle.countOn channel a.drained + x.wakes.get channel := by
  cases move with
  | raise f =>
    unfold Site.raise
    split <;> rfl
  | skip c =>
    rw [handOf_some, drained_afterGather]
    rfl
  | gather c =>
    rw [handOf_some, drained_afterGather, Site.withQueue, WaitingQueue.countOn_gather]
    rfl
  -- The level moves from the queue into the hand.
  | drain c vehicles =>
    have hqueue := x.queue.countOn_drainLevel channel c
    rw [handOf_some, drained_afterDrain, Vehicle.countOn_append]
    simp only [Site.withQueue, drained]
    omega
  -- The wake leaves the hand and is given.
  | wake v rest =>
    simp only [Site.get_wakes_wake, handOf_some, drained, Vehicle.countOn_cons]
    simp only [Site.wake]
    omega
  | flag | unlock _ | notify _ | acknowledge _ | finish => rfl

theorem Life.Move.owes {p p' : Life} (move : p.Move x x' p') :
    x'.queue.countOn channel + (Task.life p').owes channel + x'.wakes.get channel +
        (Task.life p).waitsOn channel =
      x.queue.countOn channel + (Task.life p).owes channel + x.wakes.get channel +
        (Task.life p').waitsOn channel := by
  cases move with
  -- The vehicle joins the queue and starts to wait at once.
  | enqueue v =>
    simp only [WaitingQueue.countOn_enqueue, Task.owes, Task.hand, Task.waitsOn, waitsOn]
    by_cases h : v.channel = channel
    · simp [h]
      omega
    · simp [h]
  -- A wake is used up, and the wait is over.
  | awake v hpending =>
    simp only [Table.get_set, Task.owes, Task.hand, Task.waitsOn, waitsOn]
    by_cases h : channel = v.channel
    · subst h
      simp
      omega
    · simp [h, Ne.symm h]
  | setOut | logEntry =>
    simp only [Task.owes, hand_toClaim, Task.waitsOn, waitsOn_toClaim]
    rfl
  | abort move =>
    have howes := move.owes channel
    simp only [Task.owes, Task.hand, Task.waitsOn, waitsOn, Abort.handOf_some] at howes ⊢
    omega
  | abortEnd move =>
    have howes := move.owes channel
    simp only [Task.owes, Task.hand, Task.waitsOn, waitsOn, Abort.handOf_none] at howes ⊢
    omega
  | _ => rfl

theorem Scheduler.Move.owes {pt pt' : Scheduler.Point} (move : Scheduler.Move x pt x' pt')
    (hfault : pt.fault? = none) :
    x'.queue.countOn channel + Vehicle.countOn channel pt'.ungranted +
        Vehicle.countOn channel pt'.granted + x'.wakes.get channel =
      x.queue.countOn channel + Vehicle.countOn channel pt.ungranted +
        Vehicle.countOn channel pt.granted + x.wakes.get channel := by
  cases move with
  | gather seen c =>
    have hgather : (Scheduler.afterGather seen c).ungranted = [] ∧
        (Scheduler.afterGather seen c).granted = [] := by
      cases c <;> exact ⟨rfl, rfl⟩
    rw [hgather.1, hgather.2, Site.withQueue, WaitingQueue.countOn_gather]
    rfl
  -- The vehicle moves from the queue into the hand of the scheduler.
  | letIn console hasked =>
    have hqueue := x.queue.countOn_without channel hasked
    simp only [Scheduler.Point.ungranted, Scheduler.Point.granted, Vehicle.countOn_cons,
      Vehicle.countOn_nil]
    omega
  | letInBadly => cases hfault
  | announce v ticket pass =>
    simp only [Scheduler.Point.ungranted, Scheduler.Point.granted, Site.record]
    omega
  -- The wake of the grant is given.
  | rouse v ticket =>
    simp only [Scheduler.Point.ungranted, Scheduler.Point.granted, Site.get_wakes_wake,
      Vehicle.countOn_cons, Vehicle.countOn_nil]
    simp only [Site.wake]
    omega
  | giveUp move | abort move =>
    have howes := move.owes channel
    simp only [Abort.handOf_some] at howes
    simp only [Scheduler.Point.ungranted, Scheduler.Point.granted, Vehicle.countOn_nil]
    omega
  | givenUp move | abortEnd move =>
    have howes := move.owes channel
    simp only [Abort.handOf_none] at howes
    simp only [Scheduler.Point.ungranted, Scheduler.Point.granted, Vehicle.countOn_nil] at howes ⊢
    omega
  | _ => rfl

theorem Abort.Move.wakes_le {a : Abort} {a' : Option Abort} (move : a.Move x x' a') :
    x'.wakes.get channel ≤ x.wakes.get channel ∨ a.hasFlagged = true := by
  cases move with
  | raise f =>
    refine .inl (Nat.le_of_eq ?_)
    unfold Site.raise
    split <;> rfl
  | flag => exact .inl (Nat.le_refl _)
  | _ => exact .inr rfl

theorem Abort.Move.le_wakes {a : Abort} {a' : Option Abort} (move : a.Move x x' a') :
    x.wakes.get channel ≤ x'.wakes.get channel := by
  cases move with
  | raise f =>
    apply Nat.le_of_eq
    unfold Site.raise
    split <;> rfl
  | wake v rest =>
    rw [Site.get_wakes_wake]
    exact Nat.le_add_right ..
  | _ => exact Nat.le_refl _

theorem Abort.Move.ungranted_le {a : Abort} {a' : Option Abort} (move : a.Move x x' a') :
    x'.queue.countOn channel + Vehicle.countOn channel (handOf a') ≤
      x.queue.countOn channel + Vehicle.countOn channel a.drained := by
  have howes := move.owes channel
  have hwakes := move.le_wakes channel
  omega

theorem Life.Move.wakes_le {p p' : Life} (move : p.Move x x' p') :
    x'.wakes.get channel ≤ x.wakes.get channel ∨
      ∃ a, (Task.life p).abort? = some a ∧ a.hasFlagged = true := by
  cases move with
  | awake v =>
    apply Or.inl
    rw [Table.get_set]
    split
    · next h => exact h ▸ Nat.sub_le ..
    · exact Nat.le_refl _
  | abort move | abortEnd move =>
    rcases move.wakes_le channel with hle | hflag
    · exact .inl hle
    · exact .inr ⟨_, rfl, hflag⟩
  | _ => exact .inl (Nat.le_refl _)

theorem Life.Move.ungranted_le {p p' : Life} (move : p.Move x x' p') :
    x'.queue.countOn channel + (Task.life p').owes channel ≤
        x.queue.countOn channel + (Task.life p).owes channel ∨
      ∃ v, p = .arriving v .enqueue ∧ v.channel = channel := by
  cases move with
  | enqueue v =>
    by_cases hv : v.channel = channel
    · exact .inr ⟨v, rfl, hv⟩
    · refine .inl (Nat.le_of_eq ?_)
      rw [WaitingQueue.countOn_enqueue, if_neg hv]
      rfl
  | setOut | logEntry =>
    simp only [Task.owes, hand_toClaim]
    exact .inl (Nat.le_refl _)
  | abort move | abortEnd move => exact .inl (move.ungranted_le channel)
  | _ => exact .inl (Nat.le_refl _)

theorem Scheduler.Move.wakes_le {pt pt' : Scheduler.Point} (move : Scheduler.Move x pt x' pt') :
    x'.wakes.get channel ≤ x.wakes.get channel ∨
      (∃ a, pt.abort? = some a ∧ a.hasFlagged = true) ∨
      ∃ v ticket, pt = .rouse v ticket ∧ v.channel = channel := by
  cases move with
  | rouse v ticket =>
    by_cases hv : v.channel = channel
    · exact .inr (.inr ⟨v, ticket, rfl, hv⟩)
    · refine .inl (Nat.le_of_eq ?_)
      rw [Site.get_wakes_wake, if_neg hv]
      rfl
  | giveUp move | givenUp move | abort move | abortEnd move =>
    rcases move.wakes_le channel with hle | hflag
    · exact .inl hle
    · exact .inr (.inl ⟨_, rfl, hflag⟩)
  | _ => exact .inl (Nat.le_refl _)

theorem Scheduler.Move.ungranted_le {pt pt' : Scheduler.Point}
    (move : Scheduler.Move x pt x' pt') :
    x'.queue.countOn channel + Vehicle.countOn channel pt'.ungranted ≤
      x.queue.countOn channel + Vehicle.countOn channel pt.ungranted := by
  cases move with
  | gather seen c =>
    have hgather : (Scheduler.afterGather seen c).ungranted = [] := by
      cases c <;> rfl
    rw [hgather, Site.withQueue, WaitingQueue.countOn_gather]
    exact Nat.le_refl _
  -- What leaves the queue is at most in the hand.
  | letIn console hasked | letInBadly violation hasked =>
    have hqueue := x.queue.countOn_without channel hasked
    simp only [Scheduler.Point.ungranted, Scheduler.abortingOver, Abort.drained,
      Vehicle.countOn_cons, Vehicle.countOn_nil]
    omega
  | announce v ticket =>
    exact Nat.add_le_add_left (Nat.zero_le _) _
  | giveUp move | givenUp move | abort move | abortEnd move => exact move.ungranted_le channel
  | _ => exact Nat.le_refl _

end Steps

namespace Scene

variable {e e' : Scene}

theorem Balanced.move (h : e.Balanced) (move : e.Move e') (hfault : e.point.fault? = none) :
    e'.Balanced := by
  intro channel
  have hbalance := h channel
  have howes : Task.owes channel default = 0 := rfl
  have hwaits : Task.waitsOn channel default = 0 := rfl
  unfold owed ungranted waiting at hbalance ⊢
  cases move with
  | scheduler htasks move =>
    have hmove := move.owes channel hfault
    rw [htasks]
    omega
  -- Only one entry of the table changes, so both sums change by its share.
  | @life i p p' hp htasks hpoint move =>
    have hmove := move.owes channel
    have howed := e.tasks.tally_set howes i (.life p')
    have hwaiting := e.tasks.tally_set hwaits i (.life p')
    rw [hp] at howed hwaiting
    rw [htasks, hpoint]
    omega
  | @abort i a a' ha htasks hpoint move =>
    have hmove := move.owes channel
    have howed := e.tasks.tally_set howes i (.ofAbort a')
    have hwaiting := e.tasks.tally_set hwaits i (.ofAbort a')
    have hended : (Task.ofAbort a').waitsOn channel = 0 := by
      cases a' <;> rfl
    rw [ha, Task.owes_ofAbort] at howed
    rw [ha, hended] at hwaiting
    have hcount : (Task.abort a).owes channel = Vehicle.countOn channel a.drained := rfl
    have hwaits' : (Task.abort a).waitsOn channel = 0 := rfl
    rw [htasks, hpoint]
    omega

/-- A measure that is zero where everybody starts is zero at the start. -/
theorem staged_tally (x : Site) (specs : List VehicleSpec) (faults : List Fault) {f : Task → Nat}
    (hlife : ∀ spec, f (.life (.start spec spec.id)) = 0)
    (habort : ∀ fault, f (.abort (.raise fault)) = 0) (hended : f (.ended true) = 0) :
    (staged x specs faults).tasks.tally f = 0 := by
  -- A positive sum needs a positive share, and there is none among the three kinds of tasks.
  by_contra hpos
  obtain ⟨i, hi⟩ := Table.exists_of_tally_pos (Nat.pos_of_ne_zero hpos)
  rcases staged_get x specs faults i with ⟨spec, -, htask⟩ | ⟨-, ⟨fault, -, htask⟩ | htask⟩
  · rw [htask, hlife] at hi
    cases hi
  · rw [htask, habort] at hi
    cases hi
  · rw [htask, hended] at hi
    cases hi

theorem Balanced.staged (x : Site) (hqueue : x.queue = {}) (hwakes : x.wakes = {})
    (specs : List VehicleSpec) (faults : List Fault) : (Scene.staged x specs faults).Balanced := by
  intro channel
  have hpoint : (Scheduler.start x).point.ungranted = [] ∧
      (Scheduler.start x).point.granted = [] := by
    unfold Scheduler.start
    dsimp only
    split <;> exact ⟨rfl, rfl⟩
  have howes : (Scene.staged x specs faults).tasks.tally (Task.owes channel) = 0 :=
    staged_tally x specs faults (fun _ => rfl) (fun _ => rfl) rfl
  have hwaits : (Scene.staged x specs faults).tasks.tally (Task.waitsOn channel) = 0 :=
    staged_tally x specs faults (fun _ => rfl) (fun _ => rfl) rfl
  rw [owed, ungranted, waiting, howes, hwaits]
  change x.queue.countOn channel + 0 + Vehicle.countOn channel (Scheduler.start x).point.ungranted +
    Vehicle.countOn channel (Scheduler.start x).point.granted + x.wakes.get channel = 0
  rw [hpoint.1, hpoint.2, hqueue, hwakes]
  rfl

/-! ### Who adds to the debts -/

/-- Only a vehicle that joins the queue adds to those who wait for a grant or an abort. -/
theorem Move.ungranted_le (move : e.Move e') (channel : Nat) :
    e'.ungranted channel ≤ e.ungranted channel ∨
      ∃ i v, e.tasks.get i = .life (.arriving v .enqueue) ∧ v.channel = channel := by
  have howes : Task.owes channel default = 0 := rfl
  unfold ungranted
  cases move with
  | scheduler htasks move =>
    have hmove := move.ungranted_le channel
    rw [htasks]
    exact .inl (by omega)
  | @life i p p' hp htasks hpoint move =>
    have howed := e.tasks.tally_set howes i (.life p')
    rw [hp] at howed
    rw [htasks, hpoint]
    rcases move.ungranted_le channel with hmove | ⟨v, rfl, hv⟩
    · exact .inl (by omega)
    · exact .inr ⟨i, v, hp, hv⟩
  | @abort i a a' ha htasks hpoint move =>
    have howed := e.tasks.tally_set howes i (.ofAbort a')
    have hmove := move.ungranted_le channel
    have hcount : (Task.abort a).owes channel = Vehicle.countOn channel a.drained := rfl
    rw [ha, Task.owes_ofAbort, hcount] at howed
    rw [htasks, hpoint]
    exact .inl (by omega)

/-- Wakes are given by the scheduler, for a grant, and by aborts that have set the flag. -/
theorem Move.wakes_le (move : e.Move e') (hflagged : e.Flagged) (channel : Nat) :
    e'.site.wakes.get channel ≤ e.site.wakes.get channel ∨ e.site.aborted = true ∨
      ∃ v ticket, e.point = .rouse v ticket ∧ v.channel = channel := by
  cases move with
  | scheduler htasks move =>
    rcases move.wakes_le channel with hle | ⟨a, ha, hflag⟩ | ⟨v, ticket, hpoint, hv⟩
    · exact .inl hle
    · exact .inr (.inl (hflagged.flagged (.inr ha) hflag))
    · exact .inr (.inr ⟨v, ticket, hpoint, hv⟩)
  | life i hp htasks hpoint move =>
    rcases move.wakes_le channel with hle | ⟨a, ha, hflag⟩
    · exact .inl hle
    · exact .inr (.inl (hflagged.flagged (.inl ⟨i, hp ▸ ha⟩) hflag))
  | abort i ha htasks hpoint move =>
    rcases move.wakes_le channel with hle | hflag
    · exact .inl hle
    · exact .inr (.inl (hflagged.flagged (.inl ⟨i, ha ▸ rfl⟩) hflag))

/-! ### Vehicles of a run -/

/-- On the channel of a vehicle nobody waits but the life of the vehicle itself. -/
theorem Staffed.waiting_eq {specs : List VehicleSpec} (hdistinct : (specs.map (·.id)).Nodup)
    (h : e.Staffed specs) {i : Nat} {v : Vehicle} (hv : v.At specs i) :
    e.waiting v.channel = (e.tasks.get i).waitsOn v.channel := by
  apply Table.tally_eq_of_unique rfl
  -- Channels are told apart by the numbers of the vehicles.
  intro j hj
  obtain ⟨p, hp, w, hw, hchannel⟩ := Task.exists_of_waitsOn hj
  have hw' := h.at_of_vehicle hp hw
  exact (Vehicle.At.eq_of_id hdistinct hw' hv (by rw [← hw'.channel, hchannel, hv.channel])).1

/-- A vehicle with a wake to come waits for it, and has no other one to come. -/
theorem Balanced.waits {specs : List VehicleSpec} (hdistinct : (specs.map (·.id)).Nodup)
    (h : e.Balanced) (hstaffed : e.Staffed specs) {i : Nat} {v : Vehicle} (hv : v.At specs i)
    {p : Life} (hp : e.tasks.get i = .life p) :
    e.owed v.channel + e.site.wakes.get v.channel = (p.waitsOn v.channel).toNat := by
  rw [h v.channel, hstaffed.waiting_eq hdistinct hv, hp]
  rfl

end Scene

end Junction
