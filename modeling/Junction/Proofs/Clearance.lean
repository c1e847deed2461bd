import Junction.Proofs.Quiescence

/-!
# A fault empties the queue

Whoever joins the queue, and whoever empties it over a fault, does so under the lock of the fault.
So nobody is in the queue when there is a fault and nobody has the lock.

## Main definitions

* `WaitingQueue.KeepsEmpty` — a change of the queue that brings nobody in
* `Abort.hasGathered`, `Abort.hasDrained` — what an abort with the lock has gone past
* `Scene.Turn` — a step of a run, told by whether an abort takes it
* `Scene.Emptied` — the queue is empty as far as the aborts have come

## Main results

* `Scene.Move.turn` — every step is a turn
* `Scene.Emptied.move` — each step keeps the queue empty as far as the aborts have come
-/

namespace Junction

/-! ### The queue -/

/-- A change of the queue that brings nobody in. -/
structure WaitingQueue.KeepsEmpty (q q' : WaitingQueue) : Prop where
  /-- An empty zone stays empty. -/
  zone : ∀ {c}, q.zone.get c = [] → q'.zone.get c = []
  /-- So does an empty level behind an empty zone. -/
  level : ∀ {c}, q.zone.get c = [] → q.levels.get c = [] → q'.levels.get c = []

namespace WaitingQueue

variable (q : WaitingQueue) (c : VehicleClass)

theorem KeepsEmpty.refl : q.KeepsEmpty q := ⟨id, fun _ => id⟩

theorem KeepsEmpty.gather : q.KeepsEmpty (q.gather c) := by
  refine ⟨?_, ?_⟩
  · intro c' hzone
    rw [WaitingQueue.gather, Trio.get_set]
    split
    · rfl
    · exact hzone
  · intro c' hzone hlevel
    rw [WaitingQueue.gather, Trio.get_set]
    split
    · next heq =>
      subst heq
      rw [hzone, hlevel, List.append_nil]
    · exact hlevel

theorem KeepsEmpty.drainLevel : q.KeepsEmpty (q.drainLevel c).1 := by
  refine ⟨id, ?_⟩
  intro c' _ hlevel
  rw [WaitingQueue.drainLevel, Trio.get_set]
  split
  · rfl
  · exact hlevel

theorem KeepsEmpty.without (place : Nat) : q.KeepsEmpty (q.without c place) := by
  refine ⟨id, ?_⟩
  intro c' _ hlevel
  rw [WaitingQueue.without, Trio.get_set]
  split
  · next heq =>
    subst heq
    rw [hlevel, List.eraseIdx_nil]
  · exact hlevel

end WaitingQueue

/-! ### How far an abort has come -/

namespace Abort

/-- Whether an abort has the lock of the fault. -/
def isLocking : Abort → Bool
  | flag | gather _ | drain .. | unlock _ => true
  | _ => false

/-- Whether an abort has the lock and has emptied the zone of a class. -/
def hasGathered (c : VehicleClass) : Abort → Bool
  | gather c' => decide (c.level < c'.level)
  | drain .. | unlock _ => true
  | _ => false

/-- Whether an abort has the lock and has emptied the level of a class. -/
def hasDrained (c : VehicleClass) : Abort → Bool
  | drain c' _ => decide (c.level < c'.level)
  | unlock _ => true
  | _ => false

theorem hasGathered_of_hasDrained {a : Abort} {c : VehicleClass} (h : a.hasDrained c = true) :
    a.hasGathered c = true := by
  cases a with
  | drain | unlock => rfl
  | _ => cases h

theorem isRaising_of_hasGathered {a : Abort} {c : VehicleClass} (h : a.hasGathered c = true) :
    a.isRaising = false := by
  cases a with
  | gather | drain | unlock => rfl
  | _ => cases h

/-- The classes before the next one are those up to this one. -/
theorem level_le_of_lt_next {c c' c'' : VehicleClass} (hnext : c.next? = some c')
    (hlt : c''.level < c'.level) : c''.level ≤ c.level := by
  rw [VehicleClass.level_of_next hnext] at hlt
  omega

theorem level_le_of_hasGathered_afterGather {c c' : VehicleClass}
    (h : (afterGather c).hasGathered c' = true) : c'.level ≤ c.level := by
  cases hnext : c.next? with
  | none => exact VehicleClass.level_le_of_last hnext c'
  | some c₁ =>
    simp only [afterGather, hnext, hasGathered, decide_eq_true_eq] at h
    exact level_le_of_lt_next hnext h

theorem hasDrained_afterGather (c c' : VehicleClass) : (afterGather c).hasDrained c' = false := by
  cases c <;> cases c' <;> rfl

theorem level_le_of_hasDrained_afterDrain {c c' : VehicleClass} {vehicles : List Vehicle}
    (h : (afterDrain c vehicles).hasDrained c' = true) : c'.level ≤ c.level := by
  cases hnext : c.next? with
  | none => exact VehicleClass.level_le_of_last hnext c'
  | some c₁ =>
    simp only [afterDrain, hnext, hasDrained, decide_eq_true_eq] at h
    exact level_le_of_lt_next hnext h

section Steps

variable {x x' : Site} {a : Abort} {a' : Option Abort}

theorem Move.keepsEmpty (move : a.Move x x' a') : x.queue.KeepsEmpty x'.queue := by
  cases move with
  | raise f =>
    unfold Site.raise
    split <;> exact .refl _
  | gather c => exact .gather _ c
  | drain c => exact .drainLevel _ c
  | _ => exact .refl _

/-- An abort has gone past a zone when the zone is empty. -/
theorem Move.gathered {b : Abort} (move : a.Move x x' (some b)) {c : VehicleClass}
    (hold : a.hasGathered c = true → x.queue.zone.get c = []) (h : b.hasGathered c = true) :
    x'.queue.zone.get c = [] := by
  -- The zones before the one at hand were empty already.
  have hbefore : ∀ c₀, a = .gather c₀ → c ≠ c₀ → c.level ≤ c₀.level →
      x.queue.zone.get c = [] := by
    rintro c₀ rfl hne hle
    refine hold (decide_eq_true ?_)
    have hlevel : c.level ≠ c₀.level := fun heq => hne (VehicleClass.level_inj heq)
    omega
  cases move with
  | raise f => cases h
  | flag => cases c <;> cases h
  | skip c₀ hempty =>
    by_cases hc : c = c₀
    · rw [hc, hempty]
    · exact hbefore c₀ rfl hc (level_le_of_hasGathered_afterGather h)
  | gather c₀ =>
    rw [Site.withQueue, WaitingQueue.gather, Trio.get_set]
    split
    · rfl
    · next hc => exact hbefore c₀ rfl hc (level_le_of_hasGathered_afterGather h)
  | drain | unlock => exact hold rfl
  | _ => cases h

/-- An abort has gone past a level when the level is empty. -/
theorem Move.drained {b : Abort} (move : a.Move x x' (some b)) {c : VehicleClass}
    (hold : a.hasDrained c = true → x.queue.levels.get c = []) (h : b.hasDrained c = true) :
    x'.queue.levels.get c = [] := by
  cases move with
  | skip c₀ | gather c₀ =>
    rw [hasDrained_afterGather] at h
    cases h
  | drain c₀ vehicles =>
    rw [Site.withQueue, WaitingQueue.drainLevel, Trio.get_set]
    split
    · rfl
    · next hc =>
      refine hold (decide_eq_true ?_)
      have hlevel : c.level ≠ c₀.level := fun heq => hc (VehicleClass.level_inj heq)
      have hle := level_le_of_hasDrained_afterDrain h
      omega
  | _ => cases h

/-- An abort takes the lock to keep its fault, and gives it back when it has emptied the queue. -/
theorem Move.locked (move : a.Move x x' a') :
    (x'.faultLocked = x.faultLocked ∧ x'.fault = x.fault ∧ a.isRaising = false ∧
        (a.isLocking = true → ∃ b, a' = some b ∧ b.isLocking = true)) ∨
      (x.faultLocked = false ∧ x'.faultLocked = true ∧ a' = some .flag) ∨
        ∃ vehicles, a = .unlock vehicles ∧ x'.faultLocked = false := by
  cases move with
  | raise f hunlocked =>
    refine .inr (.inl ⟨hunlocked, ?_, rfl⟩)
    unfold Site.raise
    split <;> rfl
  | unlock vehicles => exact .inr (.inr ⟨vehicles, rfl, rfl⟩)
  | skip c | gather c | drain c =>
    refine .inl ⟨rfl, rfl, rfl, fun _ => ⟨_, rfl, ?_⟩⟩
    cases c <;> rfl
  | flag => exact .inl ⟨rfl, rfl, rfl, fun _ => ⟨_, rfl, rfl⟩⟩
  | _ => exact .inl ⟨rfl, rfl, rfl, nofun⟩

end Steps

end Abort

/-! ### Lives and the scheduler -/

namespace Scheduler.Point

/-- Whether the scheduler has given up on a vehicle, or ended. -/
def isLeaving : Point → Bool
  | giveUp .. | withdraw .. | aborting .. | ended _ => true
  | _ => false

end Scheduler.Point

section Steps

variable {x x' : Site} {p p' : Life} {pt pt' : Scheduler.Point} {a : Abort}

/-- A life that aborts the run does nothing else. -/
theorem Life.Move.of_abort (move : p.Move x x' p') (ha : (Task.life p).abort? = some a) :
    ∃ a', a.Move x x' a' ∧ (Task.life p').abort? = a' ∧ p.isLocking = false ∧
      p'.isLocking = false := by
  cases move with
  | abort move | abortEnd move =>
    cases ha
    exact ⟨_, move, rfl, rfl, rfl⟩
  | _ => cases ha

theorem Scheduler.Move.leaving_of_abort (move : Scheduler.Move x pt x' pt')
    (ha : pt.abort? = some a) :
    ∃ a', a.Move x x' a' ∧ pt'.abort? = a' ∧ pt.isLeaving = true ∧ pt'.isLeaving = true := by
  cases move with
  | giveUp move | givenUp move | abort move | abortEnd move =>
    cases ha
    exact ⟨_, move, rfl, rfl, rfl⟩
  | _ => cases ha

/-- A life that does not abort the run leaves the fault, the flag and the scan alone. -/
theorem Life.Move.frame (move : p.Move x x' p') (hidle : (Task.life p).abort? = none) :
    x'.fault = x.fault ∧ x'.aborted = x.aborted ∧ x'.scanned = x.scanned ∧ x.epoch ≤ x'.epoch ∧
      x.acks ≤ x'.acks := by
  cases move with
  | abort | abortEnd => cases hidle
  | notifyRejection | notifyArrival | notifyCompletion =>
    exact ⟨rfl, rfl, rfl, Nat.le_succ _, Nat.le_refl _⟩
  | acknowledge => exact ⟨rfl, rfl, rfl, Nat.le_refl _, Nat.le_succ _⟩
  | _ => exact ⟨rfl, rfl, rfl, Nat.le_refl _, Nat.le_refl _⟩

/-- A life takes the lock of the fault when there is none, and joins the queue before it gives the
lock back. -/
theorem Life.Move.locking_cases (move : p.Move x x' p') (hidle : (Task.life p).abort? = none) :
    (x'.faultLocked = x.faultLocked ∧ p'.isLocking = p.isLocking ∧
        x.queue.KeepsEmpty x'.queue) ∨
      (x.faultLocked = false ∧ x.fault = none ∧ x'.faultLocked = true ∧ p.isLocking = false ∧
        p'.isLocking = true ∧ x.queue.KeepsEmpty x'.queue) ∨
        (p.isLocking = true ∧ p'.isLocking = false ∧ x'.faultLocked = false) := by
  cases move with
  | lock v hunlocked hsound =>
    exact .inr (.inl ⟨hunlocked, hsound, rfl, rfl, rfl, .refl _⟩)
  | enqueue => exact .inr (.inr ⟨rfl, rfl, rfl⟩)
  | setOut | logEntry =>
    refine .inl ⟨rfl, ?_, .refl _⟩
    unfold toClaim
    split <;> rfl
  | abort | abortEnd => cases hidle
  | _ => exact .inl ⟨rfl, rfl, .refl _⟩

/-- A scheduler that does not abort the run brings nobody into the queue. -/
theorem Scheduler.Move.keepsEmpty (move : Scheduler.Move x pt x' pt')
    (hidle : pt.abort? = none) :
    x'.fault = x.fault ∧ x'.aborted = x.aborted ∧ x.queue.KeepsEmpty x'.queue := by
  cases move with
  | gather seen c => exact ⟨rfl, rfl, .gather _ c⟩
  | letIn | letInBadly => exact ⟨rfl, rfl, .without _ _ _⟩
  | giveUp | givenUp | abort | abortEnd => cases hidle
  | _ => exact ⟨rfl, rfl, .refl _⟩

end Steps

namespace Scene

variable {specs : List VehicleSpec} {faults : List Fault} {e e' : Scene} {i j : Nat}
variable {v w : Vehicle} {p q : Life} {a b : Abort}

/-! ### Turns -/

/-- A step of a run, told by whether an abort takes it, in a task or at the scheduler. -/
inductive Turn (e e' : Scene) : Prop
  | abort {a : Abort} {a' : Option Abort} (before : e.HasAbort a)
    (move : a.Move e.site e'.site a') (after : ∀ b, a' = some b → e'.HasAbort b)
    (others : ∀ b, e.HasAbort b → b = a ∨ e'.HasAbort b)
    (new : ∀ b, e'.HasAbort b → e.HasAbort b ∨ a' = some b)
    (lives : ∀ {i p}, p.isLocking = true →
      (e'.tasks.get i = .life p ↔ e.tasks.get i = .life p))
    (point : e'.point = e.point ∨ e.point.isLeaving = true ∧ e'.point.isLeaving = true)
  | life (i : Nat) {p p' : Life} (before : e.tasks.get i = .life p)
    (idle : (Task.life p).abort? = none) (tasks : e'.tasks = e.tasks.set i (.life p'))
    (point : e'.point = e.point) (move : p.Move e.site e'.site p')
    (aborts : ∀ b, e.HasAbort b → e'.HasAbort b)
    (new : ∀ b, e'.HasAbort b → e.HasAbort b ∨ b.isRaising = true)
  | scheduler (tasks : e'.tasks = e.tasks) (idle : e.point.abort? = none)
    (move : Scheduler.Move e.site e.point e'.site e'.point)
    (aborts : ∀ b, e.HasAbort b → e'.HasAbort b)
    (new : ∀ b, e'.HasAbort b → e.HasAbort b ∨ b.isRaising = true)

/-- An abort of a task is a step of an abort. -/
theorem turn_of_task {task : Task} {a' : Option Abort} (ha : (e.tasks.get i).abort? = some a)
    (htasks : e'.tasks = e.tasks.set i task) (htask : task.abort? = a')
    (hpoint : e'.point = e.point) (hbefore : ∀ {p}, e.tasks.get i = .life p → p.isLocking = false)
    (hafter : ∀ {p}, task = .life p → p.isLocking = false) (move : a.Move e.site e'.site a') :
    e.Turn e' := by
  have hget : ∀ j, e'.tasks.get j = if j = i then task else e.tasks.get j := by
    intro j
    rw [htasks, Table.get_set]
  refine .abort (.inl ⟨i, ha⟩) move ?_ ?_ ?_ ?_ (.inl hpoint)
  · rintro b rfl
    exact .inl ⟨i, by rw [hget, if_pos rfl, htask]⟩
  · rintro b (⟨j, hj⟩ | hb)
    · by_cases hij : j = i
      · subst hij
        exact .inl (Option.some.inj (hj.symm.trans ha))
      · exact .inr (.inl ⟨j, by rw [hget, if_neg hij, hj]⟩)
    · exact .inr (.inr (hpoint ▸ hb))
  · rintro b (⟨j, hj⟩ | hb)
    · rw [hget] at hj
      split at hj
      · exact .inr (htask.symm.trans hj)
      · exact .inl (.inl ⟨j, hj⟩)
    · exact .inl (.inr (hpoint ▸ hb))
  · intro j p hlocking
    rw [hget]
    split
    · next hij =>
      subst hij
      refine ⟨fun heq => ?_, fun heq => ?_⟩
      · rw [hafter heq] at hlocking
        cases hlocking
      · rw [hbefore heq] at hlocking
        cases hlocking
    · exact Iff.rfl

/-- An abort of the scheduler is one too. -/
theorem turn_of_scheduler (htasks : e'.tasks = e.tasks) (ha : e.point.abort? = some a)
    (move : Scheduler.Move e.site e.point e'.site e'.point) : e.Turn e' := by
  obtain ⟨a', hmove, ha', hleaving, hleaving'⟩ := move.leaving_of_abort ha
  refine .abort (.inr ha) hmove ?_ ?_ ?_ ?_ (.inr ⟨hleaving, hleaving'⟩)
  · rintro b rfl
    exact .inr ha'
  · rintro b (⟨j, hj⟩ | hb)
    · exact .inr (.inl ⟨j, htasks ▸ hj⟩)
    · exact .inl (Option.some.inj (hb.symm.trans ha))
  · rintro b (⟨j, hj⟩ | hb)
    · exact .inl (.inl ⟨j, htasks ▸ hj⟩)
    · exact .inr (ha'.symm.trans hb)
  · intro i p _
    rw [htasks]

theorem Move.turn (move : e.Move e') : e.Turn e' := by
  cases move with
  | scheduler htasks move =>
    cases ha : e.point.abort? with
    | some a => exact turn_of_scheduler htasks ha move
    | none =>
      refine .scheduler htasks ha move ?_ ?_
      · rintro b (⟨j, hj⟩ | hb)
        · exact .inl ⟨j, htasks ▸ hj⟩
        · rw [ha] at hb
          cases hb
      · rintro b (⟨j, hj⟩ | hb)
        · exact .inl (.inl ⟨j, htasks ▸ hj⟩)
        · rcases move.abort_cases with ⟨-, -, hraising⟩ | ⟨a, a', hbefore, -⟩
          · exact .inr (hraising b hb)
          · rw [ha] at hbefore
            cases hbefore
  | @life i p p' hp htasks hpoint move =>
    cases ha : (Task.life p).abort? with
    | some a =>
      obtain ⟨a', hmove, ha', hlocking, hlocking'⟩ := move.of_abort ha
      refine turn_of_task (hp ▸ ha) htasks ha' hpoint ?_ ?_ hmove
      · intro q hq
        cases hp.symm.trans hq
        exact hlocking
      · intro q hq
        cases hq
        exact hlocking'
    | none =>
      refine .life i hp ha htasks hpoint move ?_ ?_
      · rintro b (⟨j, hj⟩ | hb)
        · by_cases hij : j = i
          · subst hij
            rw [hp, ha] at hj
            cases hj
          · exact .inl ⟨j, by rw [htasks, Table.get_set, if_neg hij, hj]⟩
        · exact .inr (hpoint ▸ hb)
      · rintro b (⟨j, hj⟩ | hb)
        · rw [htasks, Table.get_set] at hj
          split at hj
          · rcases move.abort_cases with ⟨-, -, hraising⟩ | ⟨a, a', hbefore, -⟩
            · exact .inr (hraising b hj)
            · rw [ha] at hbefore
              cases hbefore
          · exact .inl (.inl ⟨j, hj⟩)
        · exact .inl (.inr (hpoint ▸ hb))
  | @abort i a a' ha htasks hpoint move =>
    refine turn_of_task (ha ▸ rfl) htasks (Task.abort?_ofAbort a') hpoint ?_ ?_ move
    · intro q hq
      cases ha.symm.trans hq
    · intro q hq
      cases a' <;> cases hq

/-! ### The queue of a run with a fault -/

/-- The queue is empty as far as the aborts have come. -/
structure Emptied (e : Scene) : Prop where
  /-- The lock of the fault is with somebody who joins the queue, or with an abort. -/
  holder : e.site.faultLocked = true →
    e.HasLife Life.isLocking ∨ ∃ a, e.HasAbort a ∧ a.isLocking = true
  /-- Who joins the queue has the lock, and there is no fault. -/
  joining : ∀ {i p}, e.tasks.get i = .life p → p.isLocking = true →
    e.site.faultLocked = true ∧ e.site.fault = none
  /-- Nobody else joins the queue at the same time. -/
  alone : ∀ {i j p q}, e.tasks.get i = .life p → p.isLocking = true →
    e.tasks.get j = .life q → q.isLocking = true → i = j
  /-- The zones that an abort has gone past are empty. -/
  zone : ∀ {a c}, e.HasAbort a → a.hasGathered c = true → e.site.queue.zone.get c = []
  /-- So are the levels. -/
  level : ∀ {a c}, e.HasAbort a → a.hasDrained c = true → e.site.queue.levels.get c = []
  /-- With a fault, the queue is empty whenever the lock is free. -/
  empty : e.site.fault.isSome = true → e.site.faultLocked = false → ∀ c,
    e.site.queue.zone.get c = [] ∧ e.site.queue.levels.get c = []

namespace Emptied

/-- Nobody joins the queue while an abort empties it. -/
theorem not_locking (h : e.Emptied) (hflagged : e.Flagged) (ha : e.HasAbort a)
    (hraised : a.isRaising = false) (hp : e.tasks.get i = .life p) : p.isLocking = false := by
  by_contra hlocking
  have hfault := hflagged.raised ha hraised
  rw [(h.joining hp (by simpa using hlocking)).2] at hfault
  cases hfault

/-- A step that brings nobody into the queue leaves empty what the aborts have gone past. -/
theorem keep (h : e.Emptied) (hqueue : e.site.queue.KeepsEmpty e'.site.queue)
    (hnew : ∀ b, e'.HasAbort b → e.HasAbort b ∨ b.isRaising = true) :
    (∀ {a c}, e'.HasAbort a → a.hasGathered c = true → e'.site.queue.zone.get c = []) ∧
      ∀ {a c}, e'.HasAbort a → a.hasDrained c = true → e'.site.queue.levels.get c = [] := by
  have hold : ∀ {a c}, e'.HasAbort a → a.hasGathered c = true → e.HasAbort a := by
    intro a c ha hgathered
    refine (hnew a ha).resolve_right ?_
    rw [Abort.isRaising_of_hasGathered hgathered]
    exact nofun
  refine ⟨?_, ?_⟩
  · intro a c ha hgathered
    exact hqueue.zone (h.zone (hold ha hgathered) hgathered)
  · intro a c ha hdrained
    have hgathered := Abort.hasGathered_of_hasDrained hdrained
    have ha := hold ha hgathered
    exact hqueue.level (h.zone ha hgathered) (h.level ha hdrained)

/-- If it leaves fault and lock alone too, an empty queue stays empty. -/
theorem empty_keep (h : e.Emptied) (hqueue : e.site.queue.KeepsEmpty e'.site.queue)
    (hfault : e'.site.fault = e.site.fault) (hlocked : e'.site.faultLocked = e.site.faultLocked)
    (hsome : e'.site.fault.isSome = true) (hfree : e'.site.faultLocked = false) (c : VehicleClass) :
    e'.site.queue.zone.get c = [] ∧ e'.site.queue.levels.get c = [] := by
  obtain ⟨hzone, hlevel⟩ := h.empty (hfault ▸ hsome) (hlocked ▸ hfree) c
  exact ⟨hqueue.zone hzone, hqueue.level hzone hlevel⟩

theorem abort_move (h : e.Emptied) (hflagged : e.Flagged) {a' : Option Abort}
    (ha : e.HasAbort a) (move : a.Move e.site e'.site a')
    (hafter : ∀ b, a' = some b → e'.HasAbort b)
    (hothers : ∀ b, e.HasAbort b → b = a ∨ e'.HasAbort b)
    (hnew : ∀ b, e'.HasAbort b → e.HasAbort b ∨ a' = some b)
    (hlives : ∀ {i p}, p.isLocking = true →
      (e'.tasks.get i = .life p ↔ e.tasks.get i = .life p)) : e'.Emptied := by
  have hqueue := move.keepsEmpty
  have hzone : ∀ {b c}, e'.HasAbort b → b.hasGathered c = true →
      e'.site.queue.zone.get c = [] := by
    intro b c hb hgathered
    rcases hnew b hb with hb | rfl
    · exact hqueue.zone (h.zone hb hgathered)
    · exact move.gathered (h.zone ha) hgathered
  refine {
    holder := ?_
    joining := ?_
    alone := fun hp hlocking hq hlocking' => h.alone ((hlives hlocking).1 hp) hlocking
      ((hlives hlocking').1 hq) hlocking'
    zone := hzone
    level := ?_
    empty := ?_ }
  · intro hlocked
    rcases move.locked with ⟨heq, -, -, hkept⟩ | ⟨-, -, rfl⟩ | ⟨vehicles, rfl, hfree⟩
    -- Who had the lock has it still.
    · rcases h.holder (heq ▸ hlocked) with ⟨i, p, hp, hlocking⟩ | ⟨b, hb, hlocking⟩
      · exact .inl ⟨i, p, (hlives hlocking).2 hp, hlocking⟩
      · rcases hothers b hb with rfl | hb
        · obtain ⟨b', hb', hlocking'⟩ := hkept hlocking
          exact .inr ⟨b', hafter b' hb', hlocking'⟩
        · exact .inr ⟨b, hb, hlocking⟩
    · exact .inr ⟨_, hafter _ rfl, rfl⟩
    · rw [hfree] at hlocked
      cases hlocked
  · intro i p hp hlocking
    have hp := (hlives hlocking).1 hp
    have hraising : a.isRaising = true := by
      by_contra hraised
      rw [h.not_locking hflagged ha (by simpa using hraised) hp] at hlocking
      cases hlocking
    -- An abort that has still to keep its fault waits for the lock.
    rcases move.locked with ⟨-, -, hraised, -⟩ | ⟨hfree, -⟩ | ⟨vehicles, rfl, -⟩
    · rw [hraised] at hraising
      cases hraising
    · rw [(h.joining hp hlocking).1] at hfree
      cases hfree
    · cases hraising
  · intro b c hb hdrained
    rcases hnew b hb with hb | rfl
    · have hzone := h.zone hb (Abort.hasGathered_of_hasDrained hdrained)
      exact hqueue.level hzone (h.level hb hdrained)
    · exact move.drained (h.level ha) hdrained
  · intro hsome hfree c
    rcases move.locked with ⟨heq, hfault, -⟩ | ⟨-, hlocked, -⟩ | ⟨vehicles, rfl, -⟩
    · exact h.empty_keep hqueue hfault heq hsome hfree c
    · rw [hlocked] at hfree
      cases hfree
    -- The abort gives the lock back when it has gone past everything.
    · exact ⟨hqueue.zone (h.zone ha rfl), hqueue.level (h.zone ha rfl) (h.level ha rfl)⟩

/-- After a step of a life a task is this life, or what it was before. -/
theorem life_of_set {p' : Life} (htasks : e'.tasks = e.tasks.set i (.life p'))
    (hq : e'.tasks.get j = .life q) : j = i ∧ q = p' ∨ j ≠ i ∧ e.tasks.get j = .life q := by
  rw [htasks, Table.get_set] at hq
  split at hq
  · next hij =>
    cases hq
    exact .inl ⟨hij, rfl⟩
  · next hij => exact .inr ⟨hij, hq⟩

/-- A life that neither takes the lock nor gives it back. -/
theorem life_still (h : e.Emptied) {p p' : Life} (hp : e.tasks.get i = .life p)
    (htasks : e'.tasks = e.tasks.set i (.life p')) (hfault : e'.site.fault = e.site.fault)
    (hlocked : e'.site.faultLocked = e.site.faultLocked) (hlocking : p'.isLocking = p.isLocking)
    (hqueue : e.site.queue.KeepsEmpty e'.site.queue) (haborts : ∀ b, e.HasAbort b → e'.HasAbort b)
    (hnew : ∀ b, e'.HasAbort b → e.HasAbort b ∨ b.isRaising = true) : e'.Emptied := by
  obtain ⟨hzone, hlevel⟩ := h.keep hqueue hnew
  -- Who is joining the queue was joining it before.
  have hold : ∀ {j q}, e'.tasks.get j = .life q → q.isLocking = true →
      ∃ q, e.tasks.get j = .life q ∧ q.isLocking = true := by
    intro j q hq hq'
    rcases life_of_set htasks hq with ⟨rfl, rfl⟩ | ⟨-, hq⟩
    · exact ⟨p, hp, hlocking ▸ hq'⟩
    · exact ⟨q, hq, hq'⟩
  refine ⟨?_, ?_, ?_, hzone, hlevel, h.empty_keep hqueue hfault hlocked⟩
  · intro hlocked'
    rcases h.holder (hlocked ▸ hlocked') with hlife | ⟨a, ha, hlock⟩
    · exact .inl (Heard.hasLife_set hp htasks (fun hp' => hlocking ▸ hp') hlife)
    · exact .inr ⟨a, haborts a ha, hlock⟩
  · intro j q hq hq'
    obtain ⟨q₀, hq₀, hlocking₀⟩ := hold hq hq'
    rw [hlocked, hfault]
    exact h.joining hq₀ hlocking₀
  · intro j k q r hq hq' hr hr'
    obtain ⟨q₀, hq₀, hlocking₀⟩ := hold hq hq'
    obtain ⟨r₀, hr₀, hlocking₁⟩ := hold hr hr'
    exact h.alone hq₀ hlocking₀ hr₀ hlocking₁

/-- A life that takes the lock: it was free, so nobody else is joining the queue. -/
theorem life_lock (h : e.Emptied) {p' : Life} (htasks : e'.tasks = e.tasks.set i (.life p'))
    (hfree : e.site.faultLocked = false) (hsound : e'.site.fault = none)
    (hlocked : e'.site.faultLocked = true) (hafter : p'.isLocking = true)
    (hqueue : e.site.queue.KeepsEmpty e'.site.queue)
    (hnew : ∀ b, e'.HasAbort b → e.HasAbort b ∨ b.isRaising = true) : e'.Emptied := by
  have hget : e'.tasks.get i = .life p' := by rw [htasks, Table.get_set, if_pos rfl]
  obtain ⟨hzone, hlevel⟩ := h.keep hqueue hnew
  have hown : ∀ {j q}, e'.tasks.get j = .life q → q.isLocking = true → j = i := by
    intro j q hq hq'
    rcases life_of_set htasks hq with ⟨rfl, -⟩ | ⟨-, hq⟩
    · rfl
    · rw [(h.joining hq hq').1] at hfree
      cases hfree
  refine ⟨fun _ => .inl ⟨i, p', hget, hafter⟩, fun _ _ => ⟨hlocked, hsound⟩, ?_, hzone, hlevel, ?_⟩
  · intro j k q r hq hq' hr hr'
    rw [hown hq hq', hown hr hr']
  · intro hsome
    rw [hsound] at hsome
    cases hsome

/-- A life that gives the lock back: there is no fault, so no abort has gone past anything. -/
theorem life_join (h : e.Emptied) (hflagged : e.Flagged) {p p' : Life}
    (hp : e.tasks.get i = .life p) (htasks : e'.tasks = e.tasks.set i (.life p'))
    (hfault : e'.site.fault = e.site.fault) (hbefore : p.isLocking = true)
    (hafter : p'.isLocking = false) (hfree : e'.site.faultLocked = false)
    (hnew : ∀ b, e'.HasAbort b → e.HasAbort b ∨ b.isRaising = true) : e'.Emptied := by
  have hnone : ∀ {j q}, e'.tasks.get j = .life q → q.isLocking ≠ true := by
    intro j q hq hq'
    rcases life_of_set htasks hq with ⟨rfl, rfl⟩ | ⟨hne, hq⟩
    · rw [hafter] at hq'
      cases hq'
    · exact hne (h.alone hq hq' hp hbefore)
  have hyoung : ∀ {a c}, e'.HasAbort a → a.hasGathered c ≠ true := by
    intro a c ha hgathered
    have hraised := Abort.isRaising_of_hasGathered hgathered
    rcases hnew a ha with ha | hraising
    · rw [h.not_locking hflagged ha hraised hp] at hbefore
      cases hbefore
    · rw [hraised] at hraising
      cases hraising
  refine ⟨?_, fun hq hq' => absurd hq' (hnone hq), fun hq hq' _ _ => absurd hq' (hnone hq),
    fun ha hgathered => absurd hgathered (hyoung ha),
    fun ha hdrained => absurd (Abort.hasGathered_of_hasDrained hdrained) (hyoung ha), ?_⟩
  · intro hlocked
    rw [hfree] at hlocked
    cases hlocked
  · intro hsome
    rw [hfault, (h.joining hp hbefore).2] at hsome
    cases hsome

theorem life_move (h : e.Emptied) (hflagged : e.Flagged) {p p' : Life}
    (hp : e.tasks.get i = .life p) (hidle : (Task.life p).abort? = none)
    (htasks : e'.tasks = e.tasks.set i (.life p')) (move : p.Move e.site e'.site p')
    (haborts : ∀ b, e.HasAbort b → e'.HasAbort b)
    (hnew : ∀ b, e'.HasAbort b → e.HasAbort b ∨ b.isRaising = true) : e'.Emptied := by
  obtain ⟨hfault, -⟩ := move.frame hidle
  rcases move.locking_cases hidle with ⟨hlocked, hlocking, hqueue⟩ |
    ⟨hfree, hsound, hlocked, -, hafter, hqueue⟩ | ⟨hbefore, hafter, hfree⟩
  · exact h.life_still hp htasks hfault hlocked hlocking hqueue haborts hnew
  · exact h.life_lock htasks hfree (hfault.trans hsound) hlocked hafter hqueue hnew
  · exact h.life_join hflagged hp htasks hfault hbefore hafter hfree hnew

theorem move (h : e.Emptied) (hflagged : e.Flagged) (turn : e.Turn e') : e'.Emptied := by
  cases turn with
  | abort ha move hafter hothers hnew hlives _ =>
    exact h.abort_move hflagged ha move hafter hothers hnew hlives
  | life i hp hidle htasks _ move haborts hnew =>
    exact h.life_move hflagged hp hidle htasks move haborts hnew
  | scheduler htasks hidle move haborts hnew =>
    obtain ⟨hfault, -, hqueue⟩ := move.keepsEmpty hidle
    obtain ⟨-, -, -, -, -, hlocked⟩ := move.frame hidle
    obtain ⟨hzone, hlevel⟩ := h.keep hqueue hnew
    refine ⟨?_, ?_, ?_, hzone, hlevel, h.empty_keep hqueue hfault hlocked⟩
    · intro hlocked'
      rcases h.holder (hlocked ▸ hlocked') with ⟨i, p, hp, hlocking⟩ | ⟨a, ha, hlocking⟩
      · exact .inl ⟨i, p, htasks ▸ hp, hlocking⟩
      · exact .inr ⟨a, haborts a ha, hlocking⟩
    · intro i p hp hlocking
      rw [hlocked, hfault]
      exact h.joining (htasks ▸ hp) hlocking
    · intro i j p q hp hlocking hq hlocking'
      exact h.alone (htasks ▸ hp) hlocking (htasks ▸ hq) hlocking'

end Emptied

/-- A run before its first step has locked and cleared nothing. -/
theorem Emptied.staged (config : Config) (total : Nat) (console : Console)
    (specs : List VehicleSpec) (faults : List Fault) :
    (Scene.staged (.start config total console) specs faults).Emptied := by
  have hlocking : ∀ {i p}, (Scene.staged (.start config total console) specs faults).tasks.get i =
      .life p → p.isLocking ≠ true := by
    intro i p hp
    rcases staged_get (.start config total console) specs faults i with
      ⟨spec, -, htask⟩ | ⟨-, ⟨f, -, htask⟩ | htask⟩ <;> cases htask.symm.trans hp
    exact nofun
  exact ⟨nofun, fun hp hlock => absurd hlock (hlocking hp),
    fun hp hlock _ _ => absurd hlock (hlocking hp), fun _ _ => Trio.get_const _ _,
    fun _ _ => Trio.get_const _ _, nofun⟩

end Scene

end Junction
