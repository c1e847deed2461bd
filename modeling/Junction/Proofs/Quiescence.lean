import Junction.Proofs.Hearing
import Junction.Proofs.Replays

/-!
# Where a run without a fault comes to rest

A run in which no grant runs out of its retries meets no fault. It comes to rest only when all
vehicles have ended, and then everything is accounted for.

There is one gap: the scheduler asks whether all vehicles are done before it notes the epoch. The
last vehicle may report in between, and then nobody is left to wake the scheduler.

## Main definitions

* `Scene.PatientStep` — a step after which the scheduler is not giving up on a vehicle
* `Scene.Calm` — the invariant of a run without a fault
* `Scene.IsQuiet` — nobody can take a step
* `Scene.Settled` — what a run without a fault comes to

## Main results

* `Scene.calm_of_patient` — patient runs meet no fault
* `Scene.IsPatient.runWith` — a run in which the clock never strikes is patient
* `Scene.settled_of_quiet` — a patient run at rest is settled, and the scheduler has ended or sleeps
* `Scene.exists_asleep_of_late_report` — the scheduler can be left asleep
-/

namespace Junction

/-! ### Who is blocked -/

theorem Progress.eq_blocked_of_within {π ρ π' ρ' : Type} {p : Progress π ρ} {inner : π → π'}
    {after : ρ → π'} (h : p.within inner after = (.blocked : Progress π' ρ')) : p = .blocked := by
  cases p with
  | blocked => rfl
  | next | done => cases h

theorem Task.eq_blocked_of_ofProgress {π ρ : Type} {p : Progress π ρ} {inner : π → Task}
    {after : ρ → Task} (h : ofProgress inner after p = none) : p = .blocked := by
  cases p with
  | blocked => rfl
  | next | done => cases h

/-- A life that does not abort the run is blocked when it has ended, sleeps without a wake, waits
for the lock of the fault, or queues up for a segment. -/
theorem Life.blocked_cases {x : Site} {p : Life} (h : p.step true x = .blocked)
    (hidle : (Task.life p).abort? = none) :
    (∃ failure, p = ended failure) ∨ (∃ v, p = sleeping v ∧ x.wakes.get v.channel = 0) ∨
      (∃ v, p = arriving v .lock ∧ x.faultLocked = true) ∨
        ∃ v s rest, p = claiming v s rest .wait := by
  cases p with
  | start spec channel =>
    simp only [step] at h
    split at h <;> cases h
  | rejecting spec point => cases point <;> cases h
  | arriving v point =>
    cases point with
    | lock =>
      cases hlocked : x.faultLocked with
      | true => exact .inr (.inr (.inl ⟨v, rfl, rfl⟩))
      | false =>
        simp only [step, Arrival.step, hlocked, Bool.false_eq_true, if_false] at h
        split at h <;> cases h
    | _ => cases h
  | sleeping v =>
    refine .inr (.inl ⟨v, rfl, ?_⟩)
    simp only [step, Site.takeWake?] at h
    split at h
    · cases h
    · next hnone =>
      by_contra hpos
      rw [if_pos (Nat.pos_of_ne_zero hpos)] at hnone
      cases hnone
  | claiming v s rest point =>
    cases point with
    | check =>
      simp only [step, Claim.step] at h
      split at h <;> cases h
    | attempt =>
      simp only [step, Claim.step] at h
      split at h <;> cases h
    | wait => exact .inr (.inr (.inr ⟨v, s, rest, rfl⟩))
  | inside v =>
    simp only [step] at h
    split at h <;> cases h
  | vacating v todo =>
    cases todo with
    | nil => cases h
    | cons s rest =>
      simp only [step] at h
      split at h <;> cases h
  | clearing v =>
    simp only [step] at h
    split at h <;> cases h
  | completing v point => cases point <;> cases h
  | aborting f a => cases hidle
  | ended failure => exact .inl ⟨failure, rfl⟩
  | _ => cases h

/-- A scheduler that does not abort the run is blocked when it has ended, sleeps at the current
epoch, or awaits an acknowledgment. -/
theorem Scheduler.blocked_cases {x : Site} {c : Scheduler} (h : c.step? true x = none)
    (hidle : c.point.abort? = none) :
    (∃ failure, c.point = .ended failure) ∨ c.point = .holdSleep x.epoch ∨
      c.point = .sleep x.epoch ∨
        ∃ v ticket retries, c.point = .await v ticket retries ∧ x.acks = 0 := by
  unfold step? at h
  split at h
  · cases h
  · cases h
  · next seen hpoint =>
    split at h
    · next heq => exact .inr (.inl (heq ▸ hpoint))
    · cases h
  · split at h <;> cases h
  · cases h
  · cases h
  · cases h
  · split at h
    · cases h
    · split at h <;> cases h
  · cases h
  · next seen hpoint =>
    split at h
    · next heq => exact .inr (.inr (.inl (heq ▸ hpoint)))
    · cases h
  · cases h
  · cases h
  · next v ticket retries hpoint =>
    refine .inr (.inr (.inr ⟨v, ticket, retries, hpoint, ?_⟩))
    by_contra hpos
    simp [Site.takeAck?, Nat.pos_of_ne_zero hpos] at h
  · next v ticket a hpoint =>
    rw [hpoint] at hidle
    cases hidle
  · cases h
  · cases h
  · cases h
  · next violation a hpoint =>
    rw [hpoint] at hidle
    cases hidle
  · next failure hpoint => exact .inl ⟨failure, hpoint⟩

/-- Whether all codes of a description are known. -/
def VehicleSpec.isKnown (spec : VehicleSpec) : Bool := (Vehicle.ofSpec? spec spec.id).isSome

/-- How many lives of a task are counted as finished. -/
def Task.finished (task : Task) : Nat :=
  task.count Life.hasCompleted + task.count Life.hasRejected

/-- A vehicle that has completed was not rejected. -/
theorem Life.hasCompleted_or_hasRejected_eq_false (p : Life) :
    p.hasCompleted = false ∨ p.hasRejected = false := by
  cases p with
  | rejecting spec point => exact .inl rfl
  | completing v point => exact .inr rfl
  | ended failure =>
    cases failure with
    | none => exact .inr rfl
    | some f => exact .inl rfl
  | _ => exact .inl rfl

theorem Task.finished_le_one (task : Task) : task.finished ≤ 1 := by
  cases task with
  | life p =>
    have hcompleted := Bool.toNat_le p.hasCompleted
    have hrejected := Bool.toNat_le p.hasRejected
    rcases p.hasCompleted_or_hasRejected_eq_false with h | h <;>
      simp only [finished, count, h, Bool.toNat_false] <;> omega
  | _ => exact Nat.zero_le 1

namespace Scene

/-! ### Patient runs -/

/-- A step after which the scheduler is not giving up on a vehicle. -/
def PatientStep (e e' : Scene) : Prop :=
  e.Step e' ∧ ∀ v ticket a, e'.point ≠ .giveUp v ticket a

/-- Nothing has gone wrong in a run. -/
structure Calm (specs : List VehicleSpec) (e : Scene) : Prop where
  /-- There is no fault. -/
  sound : e.site.fault = none
  /-- Nobody aborts the run. -/
  idle : ∀ a, ¬ e.HasAbort a
  /-- The counters agree with the lives. -/
  counted : e.Counted specs
  /-- The scheduler misses nothing. -/
  heard : e.Heard specs

variable {specs : List VehicleSpec} {e e' : Scene} {i j : Nat} {v w : Vehicle} {p q : Life}

theorem Calm.unaborted (h : e.Calm specs) (horderly : e.Orderly specs) :
    e.site.aborted = false :=
  horderly.flagged.unaborted h.sound

/-- Nobody starts to abort a patient run. -/
theorem Calm.idle_move (h : e.Calm specs) (move : e.Move e') (hsound : e'.site.fault = none)
    (horderly' : e'.Orderly specs) (hattentive' : e'.Attentive specs) (hlawful' : e'.Lawful [])
    (hpatient : ∀ v ticket a, e'.point ≠ .giveUp v ticket a) (a : Abort) : ¬ e'.HasAbort a := by
  have hlife : ∀ {i p}, e'.tasks.get i = .life p → (Task.life p).abort? = none :=
    hlawful'.abort?_life horderly' hsound
  rintro (⟨i, hi⟩ | hpoint)
  · have hold : e.tasks.get i = e'.tasks.get i → False := by
      intro heq
      exact h.idle a (.inl ⟨i, heq ▸ hi⟩)
    cases move with
    | scheduler htasks move => exact hold (by rw [htasks])
    | @life j q q' hq htasks hpoint move =>
      by_cases hij : i = j
      · have hget : e'.tasks.get i = .life q' := by rw [htasks, Table.get_set, if_pos hij]
        rw [hget, hlife hget] at hi
        cases hi
      · exact hold (by rw [htasks, Table.get_set, if_neg hij])
    | @abort j b b' hb htasks hpoint move => exact h.idle b (.inl ⟨j, by rw [hb]; rfl⟩)
  · have haborted := horderly'.flagged.unaborted hsound
    cases hpt : e'.point with
    | giveUp v ticket a' => exact hpatient v ticket a' hpt
    | aborting violation a' =>
      rw [hattentive'.lost (by rw [hpt]; rfl)] at haborted
      cases haborted
    | _ =>
      rw [hpt] at hpoint
      cases hpoint

/-- A run is calm as long as no grant runs out of its retries. -/
theorem calm_of_patient (config : Config) (console : Console) (hdistinct : (specs.map (·.id)).Nodup)
    (h : Relation.ReflTransGen PatientStep (ofSpecs (.start config specs.length console) specs) e) :
    Relation.ReflTransGen Step (staged (.start config specs.length console) specs []) e ∧
      e.Calm specs := by
  rw [← staged_nil] at h
  induction h with
  | refl =>
    refine ⟨.refl, rfl, ?_, .staged config console specs [], .staged config _ console specs []⟩
    rintro a (⟨i, hi⟩ | hpoint)
    · rcases staged_get (.start config specs.length console) specs [] i with
        ⟨spec, -, htask⟩ | ⟨-, ⟨f, hf, -⟩ | htask⟩
      · rw [htask] at hi
        cases hi
      · cases hf
      · rw [htask] at hi
        cases hi
    · rcases point_staged config specs.length console specs [] with heq | heq <;>
        rw [heq] at hpoint <;> cases hpoint
  | @tail e e' hsteps hstep ih =>
    obtain ⟨hsteps, hcalm⟩ := ih
    obtain ⟨hstep, hpatient⟩ := hstep
    have hsteps' := hsteps.tail hstep
    have horderly := Orderly.reachable config _ console hdistinct [] hsteps
    have horderly' := Orderly.reachable config _ console hdistinct [] hsteps'
    have hattentive' := Attentive.reachable config _ console hdistinct [] hsteps'
    have hlawful := Lawful.reachable config _ console hdistinct [] hsteps
    have hlawful' := Lawful.reachable config _ console hdistinct [] hsteps'
    obtain ⟨move, -⟩ := move_of_step horderly.staffed.isRun hstep
    have hsound : e'.site.fault = none := by
      rcases move.abort_cases with ⟨hfault, -⟩ | ⟨a, a', ha, -⟩
      · rw [hfault, hcalm.sound]
      · exact (hcalm.idle a ha).elim
    have stride := hlawful.stride horderly move hlawful' horderly' hsound
    exact ⟨hsteps', hsound,
      hcalm.idle_move move hsound horderly' hattentive' hlawful' hpatient,
      hcalm.counted.move horderly hdistinct stride,
      hcalm.heard.move horderly hcalm.counted hcalm.sound stride⟩

/-- A run whose scheduler is not giving up on a vehicle. -/
structure IsPatient (e : Scene) : Prop where
  /-- The members are those of a run. -/
  isRun : e.IsRun
  /-- The scheduler is not giving up. -/
  point : ∀ v ticket a, e.point ≠ .giveUp v ticket a

namespace IsPatient

theorem ofSpecs (config : Config) (total : Nat) (console : Console) (specs : List VehicleSpec) :
    (Scene.ofSpecs (.start config total console) specs).IsPatient := by
  rw [← staged_nil]
  refine ⟨(Staffed.staged _ rfl specs []).isRun, ?_⟩
  intro v ticket a hpoint
  rcases point_staged config total console specs [] with heq | heq <;>
    rw [heq] at hpoint <;> cases hpoint

/-- The scheduler gives up on a vehicle only when the clock strikes. -/
theorem step (h : e.IsPatient) {actor : Actor} (hactor : actor ≠ .clock)
    (hstep : e.step? actor = some e') : e'.IsPatient := by
  refine ⟨(move_of_step h.isRun ⟨actor, hstep⟩).2, ?_⟩
  intro v ticket a hpoint
  cases actor with
  | clock => exact hactor rfl
  | task i =>
    obtain ⟨⟨x', task⟩, -, rfl⟩ := Option.map_eq_some_iff.1 hstep
    exact h.point v ticket a hpoint
  | scheduler =>
    obtain ⟨c, hc, hmap⟩ := Option.bind_eq_some_iff.1 hstep
    obtain ⟨⟨x', c'⟩, hnext, rfl⟩ := Option.map_eq_some_iff.1 hmap
    rw [h.isRun.supervised] at hnext
    have move := Scheduler.move_of_step hnext
    have hold : e.point = c.point := by simp only [Scene.point, hc]
    have hpoint : c'.point = .giveUp v ticket a := hpoint
    generalize hbefore : c.point = pt, hafter : c'.point = pt' at move hpoint
    cases move with
    | giveUp move => exact h.point _ _ _ (hold.trans hbefore)
    | losePatience retries hnone himpatient =>
      simp [Scheduler.step?, hbefore, Site.takeAck?, hnone] at hnext
    | gather =>
      unfold Scheduler.afterGather at hpoint
      split at hpoint <;> cases hpoint
    | _ => cases hpoint

/-- A run in which the clock never strikes is patient. -/
theorem runWith (h : e.IsPatient) (actors : List Actor) (hactors : Actor.clock ∉ actors)
    (limit : Nat) :
    Relation.ReflTransGen PatientStep e (e.runWith actors limit) ∧
      (e.runWith actors limit).IsPatient := by
  induction limit generalizing e with
  | zero => exact ⟨.refl, h⟩
  | succ limit ih =>
    unfold Scene.runWith
    cases hstep : e.firstStep? actors with
    | none => exact ⟨.refl, h⟩
    | some e' =>
      obtain ⟨actor, hmem, hactor⟩ := List.exists_of_findSome?_eq_some hstep
      have hne : actor ≠ .clock := fun heq => hactors (heq ▸ hmem)
      have h' := h.step hne hactor
      obtain ⟨hsteps, hend⟩ := ih h'
      exact ⟨.head ⟨⟨actor, hactor⟩, h'.point⟩ hsteps, hend⟩

end IsPatient

/-! ### Rest -/

/-- Nobody can take a step, and the clock has nothing to run out for. -/
def IsQuiet (e : Scene) : Prop := ∀ actor, actor ≠ .clock → e.step? actor = none

namespace IsQuiet

theorem task (h : e.IsQuiet) (i : Nat) : e.step? (.task i) = none := h _ nofun

theorem scheduler (h : e.IsQuiet) : e.step? .scheduler = none := h _ nofun

theorem blocked_life (h : e.IsQuiet) (hrun : e.IsRun) (hlife : e.tasks.get i = .life p) :
    p.step true e.site = .blocked := by
  have hstep := h.task i
  rw [Scene.step?, hlife, hrun.supervised, Option.map_eq_none_iff] at hstep
  exact Task.eq_blocked_of_ofProgress hstep

/-- Nobody who joins the queue rests. -/
theorem isLocking_eq_false (h : e.IsQuiet) (hrun : e.IsRun) (hlife : e.tasks.get i = .life p) :
    p.isLocking = false := by
  have hstuck := h.blocked_life hrun hlife
  unfold Life.isLocking
  split
  · cases hstuck
  · cases hstuck
  · rfl

/-- Where a scheduler rests that does not abort the run. -/
theorem point_cases (h : e.IsQuiet) (hrun : e.IsRun) (hidle : e.point.abort? = none) :
    (∃ failure, e.point = .ended failure) ∨ e.point = .holdSleep e.site.epoch ∨
      e.point = .sleep e.site.epoch ∨
        ∃ v ticket retries, e.point = .await v ticket retries ∧ e.site.acks = 0 := by
  have hstep := h.scheduler
  unfold point at hidle ⊢
  rw [Scene.step?, hrun.supervised] at hstep
  cases hscheduler : e.scheduler with
  | none => exact .inl ⟨none, rfl⟩
  | some c =>
    rw [hscheduler] at hidle
    simp only [hscheduler, Option.bind_some, Option.map_eq_none_iff] at hstep
    exact Scheduler.blocked_cases hstep hidle

end IsQuiet

/-- When nobody aborts the run, no task has a vehicle in its hand. -/
theorem tally_owes_of_idle (h : ∀ a, ¬ e.HasAbort a) (channel : Nat) :
    e.tasks.tally (Task.owes channel) = 0 := by
  by_contra hpos
  obtain ⟨j, hj⟩ := Table.exists_of_tally_pos (Nat.pos_of_ne_zero hpos)
  rw [Task.owes, Task.hand_of_idle (abort?_task_of_idle h j)] at hj
  cases hj

namespace Calm

/-- In a calm run a vehicle ends after it has left, or was rejected. -/
theorem hasLeft_of_ended (h : e.Calm specs) (horderly : e.Orderly specs) (hlawful : e.Lawful [])
    {failure : Option Fault} (hlives : e.Lives specs i v (.ended failure)) :
    failure = none ∧ (e.site.dossier v.id).hasLeft = true := by
  cases failure with
  | none => exact ⟨rfl, h.counted.left hlives⟩
  | some f =>
    obtain ⟨spec, hspec, hconcerns⟩ := horderly.staffed.concerns hlives.life
    rcases hlawful.lives hlives.life rfl with rfl | ⟨-, haborted⟩
    · obtain ⟨spec', hspec', hv⟩ := hlives.enrolled
      obtain rfl := Option.some.inj (hspec'.symm.trans hspec)
      rw [hconcerns.1 rfl] at hv
      cases hv
    · rw [h.unaborted horderly] at haborted
      cases haborted

/-- When nobody can take a step, each life has ended or sleeps without a wake. -/
theorem rest_of_quiet (h : e.Calm specs) (horderly : e.Orderly specs) (hlawful : e.Lawful [])
    (hquiet : e.IsQuiet) (hlife : e.tasks.get i = .life p) :
    (∃ failure, p = .ended failure) ∨ ∃ v, p = .sleeping v ∧ e.site.wakes.get v.channel = 0 := by
  have hrun := horderly.staffed.isRun
  have hunlocked : e.site.faultLocked = false := by
    by_contra hlocked
    obtain ⟨j, q, hq, hlocking⟩ := h.heard.locked (by simpa using hlocked)
    rw [hquiet.isLocking_eq_false hrun hq] at hlocking
    cases hlocking
  have hidle : (Task.life p).abort? = none := hlife ▸ abort?_task_of_idle h.idle i
  rcases Life.blocked_cases (hquiet.blocked_life hrun hlife) hidle with
    hended | hsleeping | ⟨v, -, hlocked⟩ | ⟨v, s, rest, rfl⟩
  · exact .inl hended
  · exact .inr hsleeping
  · rw [hunlocked] at hlocked
    cases hlocked
  · exact (hlawful.unqueued hlife).elim

/-- A granted vehicle does not rest before it has left, unless it has yet to be woken. -/
theorem hasLeft_of_granted (h : e.Calm specs) (horderly : e.Orderly specs) (hlawful : e.Lawful [])
    (hdistinct : (specs.map (·.id)).Nodup) (hquiet : e.IsQuiet) (hlives : e.Lives specs i v p)
    (hgranted : (e.site.dossier v.id).isGranted = true) (hwoken : e.point.granted = []) :
    (e.site.dossier v.id).hasLeft = true := by
  rcases h.rest_of_quiet horderly hlawful hquiet hlives.life with
    ⟨failure, rfl⟩ | ⟨w, rfl, hnowake⟩
  · exact (h.hasLeft_of_ended horderly hlawful hlives).2
  · obtain rfl := horderly.vehicle_eq hlives rfl
    have hwaits := horderly.balanced.waits hdistinct horderly.staffed hlives.enrolled hlives.life
    have hungranted := horderly.ungranted hlives hgranted
    rw [owed, hungranted, hwoken, hnowake] at hwaits
    simp [Life.waitsOn] at hwaits

/-- The scheduler of a calm run rests when it has ended or sleeps between two scans. -/
theorem point_of_quiet (h : e.Calm specs) (horderly : e.Orderly specs)
    (hattentive : e.Attentive specs) (hlawful : e.Lawful [])
    (hdistinct : (specs.map (·.id)).Nodup) (hquiet : e.IsQuiet) :
    e.point = .ended none ∨ e.point = .sleep e.site.epoch := by
  have haborted := h.unaborted horderly
  rcases hquiet.point_cases horderly.staffed.isRun (abort?_point_of_idle h.idle) with
    ⟨failure, hpoint⟩ | hpoint | hpoint | ⟨v, ticket, retries, hpoint, hacks⟩
  · cases failure with
    | none => exact .inl hpoint
    | some violation =>
      rw [hattentive.lost (by rw [hpoint]; rfl)] at haborted
      cases haborted
  -- In the hold somebody has still to come, and can.
  · obtain ⟨i, p, hlife, hcoming⟩ := h.heard.held hpoint
    rcases h.rest_of_quiet horderly hlawful hquiet hlife with ⟨failure, rfl⟩ | ⟨w, rfl, -⟩ <;>
      cases hcoming
  · exact .inr hpoint
  -- The granted vehicle has acknowledged before it rests.
  · obtain ⟨i, p, hlives⟩ := horderly.lives_of_enrolled
      (horderly.staffed.point.client (by rw [hpoint]; rfl))
    have hgranted := horderly.client (v := v) (by rw [hpoint]; rfl) (by rw [hpoint]; rfl)
    have hleft := h.hasLeft_of_granted horderly hlawful hdistinct hquiet hlives hgranted
      (by rw [hpoint]; rfl)
    have hone := (hattentive.awaited haborted hpoint hlives).1 (.inr hleft)
    omega

/-- In a calm run at rest no segment is reserved. -/
theorem unreserved_of_quiet (h : e.Calm specs) (horderly : e.Orderly specs)
    (hlawful : e.Lawful []) (hdistinct : (specs.map (·.id)).Nodup) (hquiet : e.IsQuiet)
    (hpoint : e.point = .ended none ∨ e.point = .sleep e.site.epoch) (s : Segment) :
    e.site.table.ledger.reserved.get s = none := by
  by_contra hreserved
  obtain ⟨id, hid⟩ := Option.ne_none_iff_exists'.1 hreserved
  obtain ⟨i, v, p, hlives, -, -, hforce⟩ := horderly.exists_owner hid
  have hgranted : (e.site.dossier v.id).isGranted = true := by
    apply hforce.granted.resolve_left
    rcases hpoint with heq | heq <;> rw [heq] <;> exact nofun
  have hwoken : e.point.granted = [] := by
    rcases hpoint with heq | heq <;> rw [heq] <;> rfl
  -- The owner has left by now, and its grant is no longer in force.
  have hleft := h.hasLeft_of_granted horderly hlawful hdistinct hquiet hlives hgranted hwoken
  rw [hforce.present] at hleft
  cases hleft

/-- A vehicle that sleeps without a wake to come is in the queue when the scheduler sleeps. -/
theorem queued_of_sleeping (h : e.Calm specs) (horderly : e.Orderly specs)
    (hdistinct : (specs.map (·.id)).Nodup) (hpoint : e.point = .sleep e.site.epoch)
    (hlives : e.Lives specs i v (.sleeping v)) (hnowake : e.site.wakes.get v.channel = 0) :
    ∃ c, v ∈ e.site.queue.zone.get c ∨ v ∈ e.site.queue.levels.get c := by
  have hwaits := horderly.balanced.waits hdistinct horderly.staffed hlives.enrolled hlives.life
  have hhands := tally_owes_of_idle h.idle v.channel
  -- Neither an abort nor the scheduler has it in the hand.
  have hqueue : 0 < e.site.queue.countOn v.channel := by
    rw [owed, ungranted, hhands, hpoint, hnowake] at hwaits
    simp [Life.waitsOn, Scheduler.Point.ungranted, Scheduler.Point.granted] at hwaits
    omega
  obtain ⟨c, w, hw, hchannel⟩ := e.site.queue.exists_of_countOn_pos _ hqueue
  have henrolled : w.Enrolled specs :=
    hw.elim ((horderly.staffed.queue c).1 w) ((horderly.staffed.queue c).2 w)
  obtain ⟨j, hwj⟩ := henrolled
  have hid : w.id = v.id := by rw [← hwj.channel, hchannel, hlives.enrolled.channel]
  obtain ⟨-, rfl⟩ := Vehicle.At.eq_of_id hdistinct hwj hlives.enrolled hid
  exact ⟨c, hw⟩

/-- When the scheduler of a calm run at rest sleeps, nobody waits for a grant. -/
theorem not_sleeping_of_sleep (h : e.Calm specs) (horderly : e.Orderly specs)
    (hlawful : e.Lawful []) (hdistinct : (specs.map (·.id)).Nodup) (hquiet : e.IsQuiet)
    (hpoint : e.point = .sleep e.site.epoch) (hlives : e.Lives specs i v (.sleeping v))
    (hnowake : e.site.wakes.get v.channel = 0) : False := by
  have hseen : e.point.seen? = some e.site.epoch := by rw [hpoint]; rfl
  obtain ⟨c, hv | hv⟩ := h.queued_of_sleeping horderly hdistinct hpoint hlives hnowake
  -- From a zone it would still have to tell the scheduler.
  · have hgathered : e.point.hasGathered c = true := by rw [hpoint]; rfl
    obtain ⟨k, p, hlives', hcoming⟩ := h.heard.gathered hseen hgathered hv
    obtain ⟨rfl, -⟩ := Vehicle.At.eq_of_id hdistinct hlives'.enrolled hlives.enrolled rfl
    cases hlives'.life.symm.trans hlives.life
    cases hcoming
  -- From a level it would have been let in, for its whole route is free.
  · obtain ⟨place, hplace⟩ := List.getElem?_of_mem hv
    have hasked : e.point.hasAsked c place = true := by rw [hpoint]; rfl
    rcases h.heard.asked hseen hasked hplace with hblocked | ⟨k, p, hlife, hreleased⟩
    · have hfree : e.site.table.ledger.unreserved v.route = true :=
        Ledger.unreserved_iff.2 fun s _ =>
          h.unreserved_of_quiet horderly hlawful hdistinct hquiet (.inr hpoint) s
      rw [hfree] at hblocked
      cases hblocked
    · rcases h.rest_of_quiet horderly hlawful hquiet hlife with ⟨failure, rfl⟩ | ⟨u, rfl, -⟩ <;>
        cases hreleased

/-- When the scheduler of a calm run has ended, so have all vehicles at rest. -/
theorem not_sleeping_of_ended (h : e.Calm specs) (horderly : e.Orderly specs)
    (hpoint : e.point = .ended none) (hlife : e.tasks.get i = .life (.sleeping v)) : False := by
  have hdone : e.site.total ≤ e.site.completions + e.site.rejections :=
    of_decide_eq_true (h.heard.done hpoint)
  rw [h.counted.total, h.counted.completions, h.counted.rejections, ← Table.tally_add] at hdone
  -- If the sleeping life were counted too, more would be counted than there are lives.
  have hset := e.tasks.tally_set (f := Task.finished) rfl i (.life (.ended none))
  have hle : (e.tasks.set i (.life (.ended none))).tally Task.finished ≤ specs.length := by
    apply Table.tally_le_of_forall (fun j => Task.finished_le_one _)
    intro j hj
    obtain ⟨spec, hspec⟩ := horderly.staffed.spec hlife
    have hlt := (List.getElem?_eq_some_iff.1 hspec).1
    rw [Table.get_set, if_neg (by omega)]
    cases htask : e.tasks.get j with
    | life p =>
      obtain ⟨spec', hspec'⟩ := horderly.staffed.spec htask
      have hlt' := (List.getElem?_eq_some_iff.1 hspec').1
      omega
    | _ => rfl
  rw [hlife] at hset
  have hzero : Task.finished (.life (.sleeping v)) = 0 := rfl
  have hone : Task.finished (.life (.ended none)) = 1 := rfl
  unfold Task.finished at hset hle hzero hone
  omega

/-- In a calm run at rest every vehicle has ended, and the scheduler has ended too or sleeps between
two scans. -/
theorem ended_of_quiet (h : e.Calm specs) (horderly : e.Orderly specs)
    (hattentive : e.Attentive specs) (hlawful : e.Lawful [])
    (hdistinct : (specs.map (·.id)).Nodup) (hquiet : e.IsQuiet) :
    (∀ {i p}, e.tasks.get i = .life p → ∃ failure, p = .ended failure) ∧
      (e.point = .ended none ∨ e.point = .sleep e.site.epoch) := by
  have hpoint := h.point_of_quiet horderly hattentive hlawful hdistinct hquiet
  refine ⟨?_, hpoint⟩
  intro i p hlife
  rcases h.rest_of_quiet horderly hlawful hquiet hlife with hended | ⟨v, rfl, hnowake⟩
  · exact hended
  · have hlives : e.Lives specs i v (.sleeping v) :=
      ⟨horderly.staffed.at_of_vehicle hlife rfl, hlife⟩
    rcases hpoint with hpoint | hpoint
    · exact (h.not_sleeping_of_ended horderly hpoint hlife).elim
    · exact (h.not_sleeping_of_sleep horderly hlawful hdistinct hquiet hpoint hlives hnowake).elim

end Calm

/-! ### What a run comes to -/

/-- What a run without a fault comes to. -/
structure Settled (specs : List VehicleSpec) (e : Scene) : Prop where
  /-- There is no fault. -/
  sound : e.site.fault = none
  /-- All lives have ended, and only vehicles with unknown codes were rejected. -/
  ended : ∀ {i spec}, specs[i]? = some spec →
    e.tasks.get i = .life (.ended (if spec.isKnown then none else some .invalidArgument))
  /-- All vehicles with known codes are counted as completed. -/
  completions : e.site.completions = specs.countP VehicleSpec.isKnown
  /-- All others are counted as rejected. -/
  rejections : e.site.rejections = specs.countP fun spec => !spec.isKnown
  /-- The trail of a vehicle with known codes is whole. -/
  trail : ∀ {v : Vehicle}, v.Enrolled specs →
    ∃ pass, Event.trail v.id e.site.events = v.wholeTrail pass
  /-- No segment is reserved. -/
  cleared : ∀ s, e.site.table.ledger.reserved.get s = none

/-- A life of a calm run that has ended was a rejection, or its vehicle had a known description. -/
theorem Calm.life_of_ended (h : e.Calm specs) (horderly : e.Orderly specs) (hlawful : e.Lawful [])
    (hended : ∀ {i p}, e.tasks.get i = .life p → ∃ failure, p = .ended failure)
    {spec : VehicleSpec} (hspec : specs[i]? = some spec) :
    e.tasks.get i = .life (.ended (if spec.isKnown then none else some .invalidArgument)) := by
  obtain ⟨p, hp, hconcerns⟩ := horderly.staffed.life hspec
  obtain ⟨failure, rfl⟩ := hended hp
  have hconcerns : failure = some .invalidArgument ↔ Vehicle.ofSpec? spec spec.id = none :=
    hconcerns
  cases hv : Vehicle.ofSpec? spec spec.id with
  | none =>
    rw [hp, hconcerns.2 hv, VehicleSpec.isKnown, hv]
    rfl
  | some v =>
    obtain ⟨rfl, -⟩ := h.hasLeft_of_ended horderly hlawful ⟨⟨spec, hspec, hv⟩, hp⟩
    rw [hp, VehicleSpec.isKnown, hv]
    rfl

/-- Lives with a property are counted by the descriptions that they belong to. -/
theorem Staffed.tally_eq_countP (h : e.Staffed specs) {f : Life → Bool} {P : VehicleSpec → Bool}
    (hf : ∀ {i spec}, specs[i]? = some spec → Task.count f (e.tasks.get i) = (P spec).toNat) :
    e.tasks.tally (Task.count f) = specs.countP P := by
  refine Table.tally_eq_countP rfl hf ?_
  intro i hi
  cases htask : e.tasks.get i with
  | life p =>
    obtain ⟨spec, hspec⟩ := h.spec htask
    rw [List.getElem?_eq_none hi] at hspec
    cases hspec
  | _ => rfl

/-- What vehicles that have all ended in a calm run leave behind. -/
theorem Calm.settled (h : e.Calm specs) (horderly : e.Orderly specs) (hlawful : e.Lawful [])
    (hcleared : ∀ s, e.site.table.ledger.reserved.get s = none)
    (hended : ∀ {i p}, e.tasks.get i = .life p → ∃ failure, p = .ended failure) :
    e.Settled specs := by
  have hlife : ∀ {i spec}, specs[i]? = some spec → e.tasks.get i =
      .life (.ended (if spec.isKnown then none else some .invalidArgument)) :=
    h.life_of_ended horderly hlawful hended
  refine ⟨h.sound, hlife, ?_, ?_, ?_, hcleared⟩
  · rw [h.counted.completions]
    refine horderly.staffed.tally_eq_countP ?_
    intro i spec hspec
    rw [hlife hspec]
    cases spec.isKnown <;> rfl
  · rw [h.counted.rejections]
    refine horderly.staffed.tally_eq_countP ?_
    intro i spec hspec
    rw [hlife hspec]
    cases spec.isKnown <;> rfl
  · intro v hv
    obtain ⟨i, p, hlives⟩ := horderly.lives_of_enrolled hv
    obtain ⟨failure, rfl⟩ := hended hlives.life
    have hleft := (h.hasLeft_of_ended horderly hlawful hlives).2
    exact (horderly.fits hlives).logged.trail.whole_of_leave (List.contains_iff_mem.1 hleft)

/-- A settled run is concluded with a report. -/
theorem Settled.conclude (h : e.Settled specs) (horderly : e.Orderly specs) :
    e.site.conclude.2 = .ok e.site.report := by
  have hheld : ∀ s, e.site.table.ledger.held.get s = none := by
    intro s
    by_contra hsome
    obtain ⟨id, hid⟩ := Option.ne_none_iff_exists'.1 hsome
    have hreserved := horderly.coherent.reserved_of_held s id hid
    rw [h.cleared s] at hreserved
    cases hreserved
  have hleaked : e.site.table.ledger.leaked? = none := by
    refine List.find?_eq_none.2 fun s _ => ?_
    simp [hheld, h.cleared]
  simp only [Site.conclude, h.sound, hleaked]

/-- A run in which no grant runs out of its retries comes to rest only when all vehicles have ended,
and nothing is left behind. The scheduler has ended too, or else it sleeps. -/
theorem settled_of_quiet (config : Config) (console : Console) {specs : List VehicleSpec}
    (hdistinct : (specs.map (·.id)).Nodup)
    (h : Relation.ReflTransGen PatientStep (ofSpecs (.start config specs.length console) specs) e)
    (hquiet : e.IsQuiet) :
    e.Settled specs ∧ e.site.conclude.2 = .ok e.site.report ∧
      (e.point = .ended none ∨ e.point = .sleep e.site.epoch) := by
  obtain ⟨hsteps, hcalm⟩ := calm_of_patient config console hdistinct h
  have horderly := Orderly.reachable config _ console hdistinct [] hsteps
  have hattentive := Attentive.reachable config _ console hdistinct [] hsteps
  have hlawful := Lawful.reachable config _ console hdistinct [] hsteps
  obtain ⟨hended, hpoint⟩ := hcalm.ended_of_quiet horderly hattentive hlawful hdistinct hquiet
  have hcleared := hcalm.unreserved_of_quiet horderly hlawful hdistinct hquiet hpoint
  have hsettled := hcalm.settled horderly hlawful hcleared hended
  exact ⟨hsettled, hsettled.conclude horderly, hpoint⟩

/-- The scheduler can indeed be left asleep: the only vehicle is rejected after the scheduler has
asked whether the run is over, and before it notes the epoch. -/
theorem exists_asleep_of_late_report :
    ∃ e, Relation.ReflTransGen PatientStep (ofSpecs (.start {} 1 {}) [⟨0, 9, 0, 0⟩]) e ∧
      e.IsQuiet ∧ e.point = .sleep e.site.epoch := by
  have hstart := IsPatient.ofSpecs {} 1 {} [⟨0, 9, 0, 0⟩]
  obtain ⟨hasks, hasked⟩ := hstart.runWith [.scheduler] (by decide) 1
  obtain ⟨hreports, hreported⟩ := hasked.runWith [.task 0] (by decide) 6
  obtain ⟨hscans, -⟩ := hreported.runWith [.scheduler] (by decide) 12
  refine ⟨_, (hasks.trans hreports).trans hscans, ?_, by decide⟩
  intro actor hactor
  cases actor with
  | clock => exact (hactor rfl).elim
  | scheduler => decide
  | task i =>
    cases i with
    | zero => decide
    | succ i => rfl

end Scene

end Junction
