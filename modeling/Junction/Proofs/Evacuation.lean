import Junction.Proofs.Clearance

/-!
# A fault clears the run

The abort that keeps the fault of a run wakes everybody whom it finds in the queue. It also tells
the scheduler, and frees it from a pending grant. A run with a fault therefore comes to rest only
when the queue is empty and all vehicles have ended.

There is the same gap as in a run without a fault: the scheduler asks whether the run is aborted
before it notes the epoch, and what the abort tells it may come in between.

## Main definitions

* `Scene.Warned` — an abort has told the scheduler, or has still to do so
* `Scene.Evacuated` — where a run with a fault comes to rest

## Main results

* `Scene.emptied_of_steps` — in every scene that a staged run can reach, the queue is empty as far
  as the aborts have come, and the scheduler is warned
* `Scene.fault_eq_of_steps` — the first fault stays the fault of the run
* `Scene.evacuated_of_quiet` — a run with a fault comes to rest nowhere else
* `Scene.exists_asleep_of_late_abort` — there the scheduler can be left asleep
-/

namespace Junction

/-! ### What an abort owes the scheduler -/

namespace Abort

/-- Whether an abort has set the flag, and still has to tell the scheduler. -/
def isNotifying : Abort → Bool
  | gather _ | drain .. | unlock _ | notify _ => true
  | _ => false

/-- Whether an abort has set the flag, and still has to free the scheduler from a grant. -/
def isAcknowledging : Abort → Bool
  | gather _ | drain .. | unlock _ | notify _ | acknowledge _ => true
  | _ => false

section Steps

variable {x x' : Site} {a : Abort} {a' : Option Abort}

/-- An abort that has told the scheduler has changed the epoch. -/
theorem Move.notified (move : a.Move x x' a') :
    x'.epoch = x.epoch ∧ (a.isNotifying = true → ∃ b, a' = some b ∧ b.isNotifying = true) ∨
      x'.epoch = x.epoch + 1 := by
  cases move with
  | raise f =>
    refine .inl ⟨?_, nofun⟩
    unfold Site.raise
    split <;> rfl
  | skip c | gather c | drain c =>
    refine .inl ⟨rfl, fun _ => ⟨_, rfl, ?_⟩⟩
    cases c <;> rfl
  | unlock => exact .inl ⟨rfl, fun _ => ⟨_, rfl, rfl⟩⟩
  | notify => exact .inr rfl
  | _ => exact .inl ⟨rfl, nofun⟩

/-- An abort that has freed the scheduler has left an acknowledgment. -/
theorem Move.acknowledged (move : a.Move x x' a') :
    x'.acks = x.acks ∧ (a.isAcknowledging = true → ∃ b, a' = some b ∧ b.isAcknowledging = true) ∨
      x'.acks = x.acks + 1 := by
  cases move with
  | raise f =>
    refine .inl ⟨?_, nofun⟩
    unfold Site.raise
    split <;> rfl
  | skip c | gather c | drain c =>
    refine .inl ⟨rfl, fun _ => ⟨_, rfl, ?_⟩⟩
    cases c <;> rfl
  | unlock | notify => exact .inl ⟨rfl, fun _ => ⟨_, rfl, rfl⟩⟩
  | acknowledge => exact .inr rfl
  | _ => exact .inl ⟨rfl, nofun⟩

/-- The flag is set by an abort that goes on to empty the queue. -/
theorem Move.flag_cases (move : a.Move x x' a') :
    (a ≠ .flag ∧ x'.aborted = x.aborted) ∨
      (x'.aborted = true ∧ a' = some (.gather .ambulance)) := by
  cases move with
  | raise f => exact .inl ⟨nofun, x.aborted_raise f⟩
  | flag => exact .inr ⟨rfl, rfl⟩
  | _ => exact .inl ⟨nofun, rfl⟩

theorem Move.scanned_eq (move : a.Move x x' a') : x'.scanned = x.scanned := by
  cases move with
  | raise f =>
    unfold Site.raise
    split <;> rfl
  | _ => rfl

end Steps

/-- An abort is blocked by the lock of the fault, or by a level that is scanned. -/
theorem blocked_cases {x : Site} {a : Abort} (h : a.step x = .blocked) :
    (a.isRaising = true ∧ x.faultLocked = true) ∨ x.scanned ≠ none := by
  cases a with
  | raise f =>
    simp only [step] at h
    split at h
    · next hlocked => exact .inl ⟨rfl, hlocked⟩
    · cases h
  | gather c =>
    simp only [step] at h
    split at h
    · cases h
    · split at h
      · next hscanned => exact .inr (hscanned ▸ Option.some_ne_none c)
      · cases h
  | drain c vehicles =>
    simp only [step] at h
    split at h
    · next hscanned => exact .inr (hscanned ▸ Option.some_ne_none c)
    · cases h
  | wake vehicles => cases vehicles <;> cases h
  | _ => cases h

end Abort

/-! ### The scheduler -/

/-- Whether the scheduler may still come to await an acknowledgment before it asks again whether the
run is aborted. -/
def Scheduler.Point.isCommitted : Point → Bool
  | look | gather .. | lock .. | scan .. | announce .. | rouse .. | await .. => true
  | _ => false

section Steps

variable {x x' : Site} {pt pt' : Scheduler.Point}

/-- The scheduler looks through the level that it has locked. -/
theorem Scheduler.Move.scanned (move : Scheduler.Move x pt x' pt') (hidle : pt.abort? = none)
    (h : x.scanned ≠ none → ∃ seen c place fault, pt = .scan seen c place fault)
    (hscanned : x'.scanned ≠ none) : ∃ seen c place fault, pt' = .scan seen c place fault := by
  cases move with
  | lock | refuse | refuseBadly => exact ⟨_, _, _, _, rfl⟩
  | letIn | letInBadly | nextLevel | nobody | nobodyBadly => exact absurd rfl hscanned
  | giveUp | givenUp | abort | abortEnd => cases hidle
  | _ =>
    obtain ⟨seen, c, place, fault, heq⟩ := h hscanned
    cases heq

/-- The scheduler goes to sleep in its hold only when the run is not aborted. -/
theorem Scheduler.Move.unaborted_of_holdSleep (move : Scheduler.Move x pt x' pt') {n : Nat}
    (hpt' : pt' = .holdSleep n) : x'.aborted = false := by
  cases move with
  | missing seen hsome hunaborted => exact hunaborted
  | gather seen c => cases c <;> cases hpt'
  | _ => cases hpt'

/-- It commits itself to a scan only then, and takes no acknowledgment before it leaves the scan. -/
theorem Scheduler.Move.committed (move : Scheduler.Move x pt x' pt')
    (hcommitted : pt'.isCommitted = true) :
    x'.acks = x.acks ∧ (pt.isCommitted = true ∨ x.aborted = false) := by
  cases move with
  | goOn hundone hunaborted => exact ⟨rfl, .inr hunaborted⟩
  | look | gather | lock | refuse | refuseBadly | letIn | nextLevel | announce | rouse | retry =>
    exact ⟨rfl, .inl rfl⟩
  | _ => cases hcommitted

end Steps

namespace Scene

variable {specs : List VehicleSpec} {faults : List Fault} {e e' : Scene} {i : Nat}
variable {v : Vehicle} {p : Life} {a : Abort}

/-! ### The scheduler of a run with a fault -/

/-- An abort has told the scheduler, or has still to do so. -/
structure Warned (e : Scene) : Prop where
  /-- The epoch that the scheduler has noted is not one to come. -/
  seen : ∀ {n}, e.point.seen? = some n → n ≤ e.site.epoch
  /-- The abort that has kept the fault sets the flag. -/
  flagged : e.site.fault.isSome = true → e.site.aborted = true ∨ e.HasAbort .flag
  /-- It ends the sleep of a scheduler in its hold. -/
  held : e.site.aborted = true → e.point = .holdSleep e.site.epoch →
    ∃ a, e.HasAbort a ∧ a.isNotifying = true
  /-- It frees the scheduler from a pending grant. -/
  freed : e.site.aborted = true → e.point.isCommitted = true →
    0 < e.site.acks ∨ ∃ a, e.HasAbort a ∧ a.isAcknowledging = true
  /-- Nobody but the scheduler looks through a level. -/
  scanning : e.site.scanned ≠ none → ∃ seen c place fault, e.point = .scan seen c place fault

namespace Warned

/-- An abort goes on to tell a scheduler in its hold, unless it has just done so. -/
theorem held_abort (h : e.Warned) {a' : Option Abort} (move : a.Move e.site e'.site a')
    (hafter : ∀ b, a' = some b → e'.HasAbort b)
    (hothers : ∀ b, e.HasAbort b → b = a ∨ e'.HasAbort b) (haborted : e'.site.aborted = true)
    (hheld : e.point = .holdSleep e'.site.epoch) :
    ∃ a, e'.HasAbort a ∧ a.isNotifying = true := by
  have hle := h.seen (n := e'.site.epoch) (by rw [hheld]; rfl)
  rcases move.notified with ⟨hepoch, hkept⟩ | hepoch
  · rcases move.flag_cases with ⟨-, hsame⟩ | ⟨-, rfl⟩
    · obtain ⟨b, hb, hnotifying⟩ := h.held (hsame ▸ haborted) (hepoch ▸ hheld)
      rcases hothers b hb with rfl | hb
      · obtain ⟨b', hb', hnotifying'⟩ := hkept hnotifying
        exact ⟨b', hafter b' hb', hnotifying'⟩
      · exact ⟨b, hb, hnotifying⟩
    · exact ⟨_, hafter _ rfl, rfl⟩
  · omega

/-- An abort goes on to free a committed scheduler, unless its acknowledgment is there. -/
theorem freed_abort (h : e.Warned) {a' : Option Abort} (move : a.Move e.site e'.site a')
    (hafter : ∀ b, a' = some b → e'.HasAbort b)
    (hothers : ∀ b, e.HasAbort b → b = a ∨ e'.HasAbort b) (haborted : e'.site.aborted = true)
    (hcommitted : e.point.isCommitted = true) :
    0 < e'.site.acks ∨ ∃ a, e'.HasAbort a ∧ a.isAcknowledging = true := by
  rcases move.acknowledged with ⟨hacks, hkept⟩ | hacks
  · rcases move.flag_cases with ⟨-, hsame⟩ | ⟨-, rfl⟩
    · rw [hacks]
      refine (h.freed (hsame ▸ haborted) hcommitted).imp_right ?_
      rintro ⟨b, hb, hacknowledging⟩
      rcases hothers b hb with rfl | hb
      · obtain ⟨b', hb', hacknowledging'⟩ := hkept hacknowledging
        exact ⟨b', hafter b' hb', hacknowledging'⟩
      · exact ⟨b, hb, hacknowledging⟩
    · exact .inr ⟨_, hafter _ rfl, rfl⟩
  · exact .inl (by omega)

/-- The flag follows the fault. -/
theorem flagged_abort (h : e.Warned) {a' : Option Abort} (move : a.Move e.site e'.site a')
    (hafter : ∀ b, a' = some b → e'.HasAbort b)
    (hothers : ∀ b, e.HasAbort b → b = a ∨ e'.HasAbort b)
    (hsome : e'.site.fault.isSome = true) : e'.site.aborted = true ∨ e'.HasAbort .flag := by
  rcases move.fault_cases with hfault | ⟨f, rfl, rfl, -⟩
  · rcases h.flagged (hfault ▸ hsome) with haborted | hflag
    · exact .inl (move.aborted haborted)
    · rcases hothers _ hflag with rfl | hflag
      · rcases move.flag_cases with ⟨hne, -⟩ | ⟨haborted, -⟩
        · exact (hne rfl).elim
        · exact .inl haborted
      · exact .inr hflag
  · exact .inr (hafter _ rfl)

theorem abort_move (h : e.Warned) {a' : Option Abort} (move : a.Move e.site e'.site a')
    (hafter : ∀ b, a' = some b → e'.HasAbort b)
    (hothers : ∀ b, e.HasAbort b → b = a ∨ e'.HasAbort b)
    (hpoint : e'.point = e.point ∨ e.point.isLeaving = true ∧ e'.point.isLeaving = true) :
    e'.Warned := by
  -- The scheduler stands where it stood unless the abort is its own.
  have hstill : ∀ {pt : Scheduler.Point}, pt.isLeaving = false → e'.point = pt → e.point = pt := by
    intro pt hpt heq
    rcases hpoint with hsame | ⟨-, hleaving⟩
    · exact hsame.symm.trans heq
    · rw [heq, hpt] at hleaving
      cases hleaving
  refine ⟨?_, h.flagged_abort move hafter hothers, ?_, ?_, ?_⟩
  · intro n hseen
    have hold : e.point.seen? = some n := by
      rw [hstill ?_ rfl]
      · exact hseen
      · cases hpt : e'.point <;> rw [hpt] at hseen <;> first | rfl | cases hseen
    have hle := h.seen hold
    rcases move.notified with ⟨hepoch, -⟩ | hepoch <;> omega
  · intro haborted hheld
    exact h.held_abort move hafter hothers haborted (hstill rfl hheld)
  · intro haborted hcommitted
    refine h.freed_abort move hafter hothers haborted ?_
    rw [hstill ?_ rfl]
    · exact hcommitted
    · cases hpt : e'.point <;> rw [hpt] at hcommitted <;> first | rfl | cases hcommitted
  · intro hscanned
    rw [move.scanned_eq] at hscanned
    obtain ⟨seen, c, place, fault, heq⟩ := h.scanning hscanned
    rcases hpoint with hsame | ⟨hleaving, -⟩
    · exact ⟨seen, c, place, fault, hsame.trans heq⟩
    · rw [heq] at hleaving
      cases hleaving

theorem move (h : e.Warned) (turn : e.Turn e') : e'.Warned := by
  cases turn with
  | abort _ move hafter hothers _ _ hpoint => exact h.abort_move move hafter hothers hpoint
  | life i hp hidle htasks hpoint move haborts hnew =>
    obtain ⟨hfault, haborted, hscanned, hepoch, hacks⟩ := move.frame hidle
    refine ⟨?_, ?_, ?_, ?_, ?_⟩
    · intro n hseen
      exact Nat.le_trans (h.seen (hpoint ▸ hseen)) hepoch
    · intro hsome
      rw [haborted]
      exact (h.flagged (hfault ▸ hsome)).imp_right (haborts _)
    · intro haborted' hheld
      rw [hpoint] at hheld
      have hle := h.seen (n := e'.site.epoch) (by rw [hheld]; rfl)
      have heq : e'.site.epoch = e.site.epoch := Nat.le_antisymm hle hepoch
      obtain ⟨a, ha, hnotifying⟩ := h.held (haborted ▸ haborted') (heq ▸ hheld)
      exact ⟨a, haborts a ha, hnotifying⟩
    · intro haborted' hcommitted
      rcases h.freed (haborted ▸ haborted') (hpoint ▸ hcommitted) with hpos | ⟨a, ha, hfreeing⟩
      · exact .inl (Nat.lt_of_lt_of_le hpos hacks)
      · exact .inr ⟨a, haborts a ha, hfreeing⟩
    · rw [hscanned, hpoint]
      exact h.scanning
  | scheduler htasks hidle move haborts hnew =>
    obtain ⟨hfault, haborted, -⟩ := move.keepsEmpty hidle
    obtain ⟨-, -, -, hepoch, -⟩ := move.frame hidle
    refine ⟨?_, ?_, ?_, ?_, move.scanned hidle h.scanning⟩
    · intro n hseen
      rw [hepoch]
      rcases move.seen hseen with hnow | hbefore
      · exact Nat.le_of_eq hnow
      · exact h.seen hbefore
    · intro hsome
      rw [haborted]
      exact (h.flagged (hfault ▸ hsome)).imp_right (haborts _)
    · intro haborted' hheld
      rw [move.unaborted_of_holdSleep hheld] at haborted'
      cases haborted'
    · intro haborted' hcommitted
      rw [haborted] at haborted'
      obtain ⟨hacks, hcommitted | hunaborted⟩ := move.committed hcommitted
      · rw [hacks]
        exact (h.freed haborted' hcommitted).imp_right fun ⟨a, ha, hfreeing⟩ =>
          ⟨a, haborts a ha, hfreeing⟩
      · rw [hunaborted] at haborted'
        cases haborted'

end Warned

/-! ### Runs -/

theorem Warned.staged (config : Config) (total : Nat) (console : Console)
    (specs : List VehicleSpec) (faults : List Fault) :
    (Scene.staged (.start config total console) specs faults).Warned := by
  refine ⟨?_, nofun, nofun, nofun, fun h => absurd rfl h⟩
  intro n hseen
  rcases point_staged config total console specs faults with heq | heq <;>
    rw [heq] at hseen <;> cases hseen

/-- In every scene that a staged run can reach, the queue is empty as far as the aborts have come,
and the scheduler is warned. -/
theorem emptied_of_steps (config : Config) (total : Nat) (console : Console)
    {specs : List VehicleSpec} (faults : List Fault)
    (h : Relation.ReflTransGen Step (staged (.start config total console) specs faults) e) :
    e.Flagged ∧ e.Emptied ∧ e.Warned := by
  induction h with
  | refl =>
    exact ⟨.staged _ rfl specs faults, .staged config total console specs faults,
      .staged config total console specs faults⟩
  | tail hsteps hstep ih =>
    obtain ⟨hflagged, hemptied, hwarned⟩ := ih
    have hrun := (Staffed.reachable _ rfl specs faults hsteps).isRun
    obtain ⟨move, -⟩ := move_of_step hrun hstep
    exact ⟨hflagged.move move, hemptied.move hflagged move.turn, hwarned.move move.turn⟩

/-- The first fault stays the fault of the run. -/
theorem fault_eq_of_steps (hrun : e.IsRun) (hfault : e.site.fault.isSome = true)
    (h : Relation.ReflTransGen Step e e') : e'.site.fault = e.site.fault := by
  suffices e'.IsRun ∧ e'.site.fault = e.site.fault from this.2
  induction h with
  | refl => exact ⟨hrun, rfl⟩
  | tail _ hstep ih =>
    obtain ⟨hrun', hsame⟩ := ih
    obtain ⟨move, hnext⟩ := move_of_step hrun' hstep
    exact ⟨hnext, (move.fault_eq (hsame ▸ hfault)).trans hsame⟩

/-! ### Rest -/

/-- An abort that cannot take a step is blocked. -/
theorem IsQuiet.blocked_abort (h : e.IsQuiet) (hrun : e.IsRun) (ha : e.HasAbort a) :
    a.step e.site = .blocked := by
  rcases ha with ⟨i, hi⟩ | hpoint
  · cases htask : e.tasks.get i with
    | life p =>
      have hstuck := h.blocked_life hrun htask
      rw [htask] at hi
      cases p with
      | aborting f a' =>
        cases hi
        exact Progress.eq_blocked_of_within hstuck
      | _ => cases hi
    | abort a' =>
      have hstep := h.task i
      rw [htask] at hi
      cases hi
      rw [Scene.step?, htask, Option.map_eq_none_iff] at hstep
      exact Task.eq_blocked_of_ofProgress hstep
    | _ =>
      rw [htask] at hi
      cases hi
  · have hstep := h.scheduler
    unfold point at hpoint
    rw [Scene.step?, hrun.supervised] at hstep
    cases hscheduler : e.scheduler with
    | none =>
      rw [hscheduler] at hpoint
      cases hpoint
    | some c =>
      rw [hscheduler] at hpoint
      simp only [hscheduler, Option.bind_some, Option.map_eq_none_iff] at hstep
      have hown : c.point.abort? = some a := hpoint
      cases hprogress : a.step e.site with
      | blocked => rfl
      | next | done =>
        unfold Scheduler.Point.abort? at hown
        split at hown <;> cases hown <;> next hpt =>
          simp only [Scheduler.step?, hpt, hprogress] at hstep
          cases hstep

namespace Emptied

/-- At rest nobody has the lock of the fault, and nobody aborts the run. -/
theorem idle_of_quiet (h : e.Emptied) (hwarned : e.Warned) (hrun : e.IsRun)
    (hquiet : e.IsQuiet) : e.site.faultLocked = false ∧ ∀ a, ¬ e.HasAbort a := by
  have hunscanned : e.site.scanned = none := by
    by_contra hscanned
    obtain ⟨seen, c, place, fault, hpoint⟩ := hwarned.scanning hscanned
    rcases hquiet.point_cases hrun (by rw [hpoint]; rfl) with
      ⟨failure, heq⟩ | heq | heq | ⟨v, ticket, retries, heq, -⟩ <;> cases hpoint.symm.trans heq
  -- So an abort can only wait for the lock, and who has the lock does not wait.
  have hraising : ∀ {a}, e.HasAbort a → a.isRaising = true ∧ e.site.faultLocked = true :=
    fun ha => (Abort.blocked_cases (hquiet.blocked_abort hrun ha)).resolve_right
      fun hscanned => hscanned hunscanned
  have hunlocked : e.site.faultLocked = false := by
    by_contra hlocked
    rcases h.holder (by simpa using hlocked) with ⟨i, p, hp, hlocking⟩ | ⟨a, ha, hlocking⟩
    · rw [hquiet.isLocking_eq_false hrun hp] at hlocking
      cases hlocking
    · have hraise := (hraising ha).1
      cases a with
      | raise f => cases hlocking
      | _ => cases hraise
  refine ⟨hunlocked, ?_⟩
  intro a ha
  rw [(hraising ha).2] at hunlocked
  cases hunlocked

/-- In a run with a fault nobody sleeps at rest. -/
theorem not_sleeping_of_quiet (h : e.Emptied) (hwarned : e.Warned) (horderly : e.Orderly specs)
    (hdistinct : (specs.map (·.id)).Nodup) (hquiet : e.IsQuiet)
    (hfault : e.site.fault.isSome = true) (hlife : e.tasks.get i = .life (.sleeping v))
    (hnowake : e.site.wakes.get v.channel = 0) : False := by
  have hrun := horderly.staffed.isRun
  obtain ⟨hunlocked, hidle⟩ := h.idle_of_quiet hwarned hrun hquiet
  have hwaits := horderly.balanced.waits hdistinct horderly.staffed
    (horderly.staffed.at_of_vehicle hlife rfl) hlife
  -- Its wake is with nobody: not with the queue, nor with an abort, nor with the scheduler.
  have hqueue : e.site.queue.countOn v.channel = 0 := by
    by_contra hpos
    obtain ⟨c, w, hw, -⟩ := e.site.queue.exists_of_countOn_pos _ (Nat.pos_of_ne_zero hpos)
    obtain ⟨hzone, hlevel⟩ := h.empty hfault hunlocked c
    rw [hzone, hlevel] at hw
    rcases hw with hw | hw <;> cases hw
  have hpoint : e.point.ungranted = [] ∧ e.point.granted = [] := by
    rcases hquiet.point_cases hrun (abort?_point_of_idle hidle) with
      ⟨failure, heq⟩ | heq | heq | ⟨w, ticket, retries, heq, -⟩ <;> rw [heq] <;> exact ⟨rfl, rfl⟩
  rw [owed, ungranted, hqueue, tally_owes_of_idle hidle, hpoint.1, hpoint.2, hnowake] at hwaits
  simp [Life.waitsOn] at hwaits

end Emptied

/-- Where a run with a fault comes to rest. -/
structure Evacuated (e : Scene) : Prop where
  /-- Nobody is in the queue. -/
  empty : ∀ c, e.site.queue.zone.get c = [] ∧ e.site.queue.levels.get c = []
  /-- All lives have ended. -/
  ended : ∀ {i p}, e.tasks.get i = .life p → ∃ failure, p = .ended failure
  /-- So have all aborts. -/
  idle : ∀ a, ¬ e.HasAbort a
  /-- The scheduler has ended too, or it sleeps between two scans. -/
  point : (∃ failure, e.point = .ended failure) ∨ e.point = .sleep e.site.epoch

/-- A run with a fault comes to rest only when the queue is empty and all vehicles have ended. The
scheduler has ended too, or else it sleeps. -/
theorem evacuated_of_quiet (config : Config) (total : Nat) (console : Console)
    (hdistinct : (specs.map (·.id)).Nodup)
    (h : Relation.ReflTransGen Step (staged (.start config total console) specs faults) e)
    (hquiet : e.IsQuiet) (hfault : e.site.fault.isSome = true) : e.Evacuated := by
  have horderly := Orderly.reachable config _ console hdistinct faults h
  have hlawful := Lawful.reachable config _ console hdistinct faults h
  have hrun := horderly.staffed.isRun
  obtain ⟨-, hemptied, hwarned⟩ := emptied_of_steps config total console faults h
  obtain ⟨hunlocked, hidle⟩ := hemptied.idle_of_quiet hwarned hrun hquiet
  have haborted : e.site.aborted = true :=
    (hwarned.flagged hfault).resolve_right (hidle .flag)
  refine ⟨hemptied.empty hfault hunlocked, ?_, hidle, ?_⟩
  · intro i p hlife
    have hnone : (Task.life p).abort? = none := hlife ▸ abort?_task_of_idle hidle i
    rcases Life.blocked_cases (hquiet.blocked_life hrun hlife) hnone with
      hended | ⟨v, rfl, hnowake⟩ | ⟨v, -, hlocked⟩ | ⟨v, s, rest, rfl⟩
    · exact hended
    · exact (hemptied.not_sleeping_of_quiet hwarned horderly hdistinct hquiet hfault hlife
        hnowake).elim
    · rw [hunlocked] at hlocked
      cases hlocked
    · exact (hlawful.unqueued hlife).elim
  · rcases hquiet.point_cases hrun (abort?_point_of_idle hidle) with
      hended | hheld | hsleep | ⟨v, ticket, retries, hawait, hacks⟩
    · exact .inl hended
    -- The abort has told the scheduler.
    · obtain ⟨a, ha, -⟩ := hwarned.held haborted hheld
      exact (hidle a ha).elim
    · exact .inr hsleep
    -- It has freed the scheduler from a pending grant, too.
    · rcases hwarned.freed haborted (by rw [hawait]; rfl) with hpos | ⟨a, ha, -⟩
      · omega
      · exact (hidle a ha).elim

/-- An abort can leave the scheduler asleep as well: it empties the queue, and the only vehicle
leaves, after the scheduler has asked whether the run is aborted, and before it notes the epoch. -/
theorem exists_asleep_of_late_abort :
    ∃ e, Relation.ReflTransGen Step
        (staged (.start {} 1 {}) [⟨0, 0, 0, 0⟩] [.invalidArgument]) e ∧
      e.IsQuiet ∧ e.site.fault = some .invalidArgument ∧ e.site.aborted = true ∧
      e.point = .sleep e.site.epoch := by
  have harrives := steps_runWith [.task 0] 6 (staged (.start {} 1 {}) [⟨0, 0, 0, 0⟩]
    [.invalidArgument])
  have hasks := steps_runWith [.scheduler] 1 (runWith [.task 0] 6
    (staged (.start {} 1 {}) [⟨0, 0, 0, 0⟩] [.invalidArgument]))
  refine ⟨_, (harrives.trans hasks).trans
    ((steps_runWith [.task 1, .task 0] 30 _).trans (steps_runWith [.scheduler] 12 _)), ?_,
    by decide, by decide, by decide⟩
  intro actor hactor
  cases actor with
  | clock => exact (hactor rfl).elim
  | scheduler => decide
  | task i =>
    match i with
    | 0 => decide
    | 1 => decide
    | _ + 2 => rfl

end Scene

end Junction
