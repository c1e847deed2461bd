import Junction.Proofs.Acknowledgments

/-!
# Which violations a run can meet

The protocol between scheduler and vehicles cannot be broken by the order of the steps alone. What
is left are a vehicle that takes too long to acknowledge its grant, and the claim of that same
vehicle after the scheduler has given up on it; by then the run is aborted, so the fault of the run
is the missing acknowledgment.

## Main definitions

* `Life.failure?`, `Scheduler.Point.failure?` — what a life or the scheduler has failed with
* `Scene.Lawful` — the faults that are around have one of the two reasons
* `Scene.Safe` — what can be relied on at every moment of a run

## Main results

* `Scene.safe_of_steps` — every scene that a run can reach is safe
-/

namespace Junction

/-- The fault that a life has failed with. -/
def Life.failure? : Life → Option Fault
  | aborting fault _ | ended (some fault) => some fault
  | _ => none

/-- The violation that the scheduler has failed with. -/
def Scheduler.Point.failure? : Point → Option Violation
  | aborting violation _ | ended (some violation) => some violation
  | _ => none

/-- A grant was not acknowledged. -/
def Fault.IsUnacknowledged (f : Fault) : Prop :=
  ∃ v, f = .protocolViolation (.unacknowledgedGrant v)

/-- A vehicle claimed a segment that is not reserved for it. -/
def Fault.IsUngranted (f : Fault) : Prop :=
  ∃ s v, f = .protocolViolation (.acquireWithoutGrant s v)

/-! ### Steps -/

section Steps

variable {x x' : Site} {p p' : Life}

theorem Life.failure?_toClaim (v : Vehicle) (segments : List Segment) :
    (toClaim v segments).failure? = none := by
  cases segments <;> rfl

/-- A life fails with the rejection of its vehicle, or with a violation. -/
theorem Life.Move.failure_cases (move : p.Move x x' p') {f : Fault} (hf : p'.failure? = some f) :
    p.failure? = some f ∨ f = .invalidArgument ∨
      ∃ v violation, p.vehicle? = some v ∧ p' = Life.abortingOver violation ∧
        f = .protocolViolation violation := by
  cases move with
  | notifyRejection =>
    cases hf
    exact .inr (.inl rfl)
  | denied | takeBadly | enterBadly | vacateBadly | clearBadly =>
    cases hf
    exact .inr (.inr ⟨_, _, rfl, rfl, rfl⟩)
  | setOut | logEntry =>
    rw [failure?_toClaim] at hf
    cases hf
  | abort | abortEnd => exact .inl hf
  | _ => cases hf

/-- A life that is about to raise a fault has just met a violation. -/
theorem Life.Move.raising (move : p.Move x x' p') {f : Fault}
    (hf : (Task.life p').abort? = some (.raise f)) :
    ∃ v violation, p.vehicle? = some v ∧ p' = Life.abortingOver violation ∧
      f = .protocolViolation violation := by
  cases move with
  | denied | takeBadly | enterBadly | vacateBadly | clearBadly =>
    cases hf
    exact ⟨_, _, rfl, rfl, rfl⟩
  | setOut | logEntry => simp at hf
  | abort move =>
    have hraising := move.isRaising_eq
    cases hf
    cases hraising
  | _ => cases hf

/-- A vehicle queues up for a segment that somebody holds. -/
theorem Life.Move.held_of_wait (move : p.Move x x' p') {v : Vehicle} {s : Segment}
    {rest : List Segment} (hp' : p' = .claiming v s rest .wait) :
    p = .claiming v s rest .attempt ∧ x.table.holders.get s ≠ none := by
  cases move with
  | queueUp w held =>
    cases hp'
    exact ⟨rfl, by simp [held]⟩
  | setOut | logEntry =>
    unfold Life.toClaim at hp'
    split at hp' <;> cases hp'
  | _ => cases hp'

end Steps

/-- The scheduler fails after it has given up on a vehicle. -/
theorem Scheduler.Point.isLost_of_isBroken {pt : Point} (h : pt.isBroken = true) :
    pt.isLost = true := by
  unfold isBroken at h
  split at h
  · rfl
  · rfl
  · cases h

namespace Scene

/-- The faults that are around, and the waits, have their reasons. -/
structure Lawful (faults : List Fault) (e : Scene) : Prop where
  /-- Nobody queues up for a segment. -/
  unqueued : ∀ {i v s rest}, e.tasks.get i ≠ .life (.claiming v s rest .wait)
  /-- The fault of the run came from elsewhere, or a grant was not acknowledged. -/
  fault : ∀ {f}, e.site.fault = some f → f ∈ faults ∨ f.IsUnacknowledged
  /-- Whatever else is about to be raised comes too late to be the fault of the run. -/
  raising : ∀ {f}, e.HasAbort (.raise f) →
    f ∈ faults ∨ f.IsUnacknowledged ∨ e.site.fault.isSome = true
  /-- The scheduler fails with a missing acknowledgment. -/
  scheduler : ∀ {violation}, e.point.failure? = some violation →
    ∃ v, violation = .unacknowledgedGrant v
  /-- A vehicle fails with its rejection or, after an abort, with a claim without reservation. -/
  lives : ∀ {i p f}, e.tasks.get i = .life p → p.failure? = some f →
    f = .invalidArgument ∨ f.IsUngranted ∧ e.site.aborted = true

variable {specs : List VehicleSpec} {faults : List Fault} {e e' : Scene} {i j : Nat}
variable {v w : Vehicle} {p q : Life} {s : Segment}

/-! ### Claims -/

namespace Orderly

/-- A vehicle that claims a segment has a grant in force, and the segment is on its route. -/
theorem inForce_of_claiming (h : e.Orderly specs) {rest : List Segment} {point : Claim}
    (hlives : e.Lives specs i v (.claiming v s rest point)) :
    s ∈ v.route ∧ e.InForce v (.claiming v s rest point) := by
  obtain ⟨pass, before, hsplit, htrail⟩ := (h.fits hlives).logged
  refine ⟨(Life.mem_of_split hsplit).1, .inr ?_, rfl, ?_⟩
  · simp [Dossier.isGranted, htrail, Vehicle.entryTrail, Vehicle.grantTrail, Event.Kind.isGrant]
  · simp [Dossier.hasLeft, htrail, Vehicle.entryTrail, Vehicle.grantTrail, Vehicle.approachKind]

/-- A claimed segment is free: its holder would share it with the vehicle that claims it. -/
theorem free_of_claiming (h : e.Orderly specs) {rest : List Segment} {point : Claim}
    (hlife : e.tasks.get i = .life (.claiming v s rest point)) :
    e.site.table.holders.get s = none := by
  have hlives : e.Lives specs i v (.claiming v s rest point) :=
    ⟨h.staffed.at_of_vehicle hlife rfl, hlife⟩
  obtain ⟨hroute, hforce⟩ := h.inForce_of_claiming hlives
  by_contra hheld
  obtain ⟨id, hid⟩ := Option.ne_none_iff_exists'.1 hheld
  rw [h.coherent.holder_eq] at hid
  obtain ⟨j, w, q, hlives', rfl, hroute', hforce'⟩ :=
    h.exists_owner (h.coherent.reserved_of_held s id hid)
  -- The holder is the vehicle itself, which has the segment still to take, or a rival.
  by_cases hij : i = j
  · subst hij
    obtain rfl := hlives.enrolled.unique hlives'.enrolled
    have hhas := ((h.fits hlives).held rfl s).1 (Site.dossier_held.2 hid)
    exact hhas.2 List.mem_cons_self
  · have hdisjoint := h.disjoint hlives hlives' hij hforce hforce'
    exact Route.not_intersects_iff.1 hdisjoint s hroute hroute'

/-- The scheduler has failed before a claim is denied. -/
theorem broken_of_denied (h : e.Orderly specs) (hlives : e.Lives specs i v p)
    (hdenied : p.IsDenied e.site) : e.point.isBroken = true := by
  cases p with
  | claiming w s rest point =>
    obtain rfl := h.vehicle_eq hlives rfl
    obtain ⟨hroute, hforce⟩ := h.inForce_of_claiming hlives
    -- Until the scheduler fails, the whole route stays reserved.
    by_contra hunbroken
    have hmark := h.reserved hlives hforce (by simpa using hunbroken) s hroute
    exact hdenied (Site.dossier_reserved.1 hmark)
  | _ => exact hdenied.elim

end Orderly

/-- A vehicle meets no violation but a claim without reservation, and that after an abort. -/
theorem Attentive.ungranted (h : e.Attentive specs) (horderly : e.Orderly specs)
    (hlife : e.tasks.get i = .life q) (hv : q.vehicle? = some v) {x' : Site}
    {violation : Violation} (move : q.Move e.site x' (Life.abortingOver violation)) :
    (Fault.protocolViolation violation).IsUngranted ∧ e.site.aborted = true := by
  have hlives : e.Lives specs i v q := ⟨horderly.staffed.at_of_vehicle hlife hv, hlife⟩
  obtain ⟨hdenied, s, rfl⟩ := horderly.violation hlives move rfl
  exact ⟨⟨s, v.id, rfl⟩,
    h.lost (Scheduler.Point.isLost_of_isBroken (horderly.broken_of_denied hlives hdenied))⟩

namespace Lawful

theorem unqueued_move (h : e.Lawful faults) (horderly : e.Orderly specs) (move : e.Move e')
    {rest : List Segment} (hlife : e'.tasks.get i = .life (.claiming v s rest .wait)) : False := by
  cases move with
  | scheduler htasks move => exact h.unqueued (htasks ▸ hlife)
  | life j hq htasks hpoint move =>
    rw [htasks, Table.get_set] at hlife
    split at hlife
    · cases hlife
      -- Somebody would hold the segment that the vehicle claims.
      obtain ⟨rfl, hheld⟩ := move.held_of_wait rfl
      exact hheld (horderly.free_of_claiming hq)
    · exact h.unqueued hlife
  | @abort j a a' ha htasks hpoint move =>
    rw [htasks, Table.get_set] at hlife
    split at hlife
    · cases a' <;> cases hlife
    · exact h.unqueued hlife

theorem fault_move (h : e.Lawful faults) (move : e.Move e') {f : Fault}
    (hf : e'.site.fault = some f) : f ∈ faults ∨ f.IsUnacknowledged := by
  rcases move.abort_cases with ⟨hfault, -⟩ | ⟨a, a', ha, hmove, -⟩
  · exact h.fault (hfault ▸ hf)
  · rcases hmove.fault_cases with hfault | ⟨f', rfl, -, hfault⟩
    · exact h.fault (hfault ▸ hf)
    -- The first fault is the one that is raised, and any other comes too late.
    · rw [hfault] at hf
      cases hold : e.site.fault with
      | some f'' =>
        rw [hold] at hf
        cases hf
        exact h.fault hold
      | none =>
        rw [hold] at hf
        cases hf
        rcases h.raising ha with hf | hf | hsome
        · exact .inl hf
        · exact .inr hf
        · rw [hold] at hsome
          cases hsome

/-- The scheduler raises nothing but a missing acknowledgment. -/
theorem unacknowledged_of_raise (hattentive : e.Attentive specs) (horderly : e.Orderly specs)
    (move : Scheduler.Move e.site e.point e'.site e'.point) {f : Fault}
    (hf : e'.point.abort? = some (.raise f)) : f.IsUnacknowledged := by
  have hsane := horderly.sane
  have hverified := fun v ticket (hpoint : e.point = .verify v ticket) =>
    hattentive.entered_of_verify horderly hpoint
  generalize e'.site = x', e'.point = pt', hpt : e.point = pt at *
  cases move with
  | losePatience | withdraw =>
    cases hf
    exact ⟨_, rfl⟩
  -- Scans meet no error, and the granted vehicle has always entered.
  | letInBadly | nobodyBadly => cases hsane
  | unverified v ticket habsent =>
    rw [hverified v ticket rfl] at habsent
    cases habsent
  | giveUp move | abort move =>
    cases hf
    have hraising := move.isRaising_eq
    cases hraising
  | gather seen c => cases c <;> cases hf
  | _ => cases hf

theorem raising_move (h : e.Lawful faults) (hattentive : e.Attentive specs)
    (horderly : e.Orderly specs) (move : e.Move e') {f : Fault} (hf : e'.HasAbort (.raise f)) :
    f ∈ faults ∨ f.IsUnacknowledged ∨ e'.site.fault.isSome = true := by
  have hsome : e.site.fault.isSome = true → e'.site.fault.isSome = true := by
    intro hsome
    rwa [move.fault_eq hsome]
  have hold : e.HasAbort (.raise f) →
      f ∈ faults ∨ f.IsUnacknowledged ∨ e'.site.fault.isSome = true := by
    intro hf
    exact (h.raising hf).imp_right (Or.imp_right hsome)
  cases move with
  | life j hq htasks hpoint move =>
    rcases hf with ⟨i, hi⟩ | hf
    · rw [htasks, Table.get_set] at hi
      split at hi
      -- A vehicle meets a violation after an abort only, and then there is a fault.
      · obtain ⟨v, violation, hv, rfl, rfl⟩ := move.raising hi
        obtain ⟨-, haborted⟩ := hattentive.ungranted horderly hq hv move
        exact .inr (.inr (hsome (horderly.flagged.fault haborted)))
      · exact hold (.inl ⟨i, hi⟩)
    · exact hold (.inr (hpoint ▸ hf))
  | abort j ha htasks hpoint move =>
    rcases hf with ⟨i, hi⟩ | hf
    · rw [htasks, Table.get_set] at hi
      split at hi
      · rw [Task.abort?_ofAbort] at hi
        subst hi
        have hraising := move.isRaising_eq
        cases hraising
      · exact hold (.inl ⟨i, hi⟩)
    · exact hold (.inr (hpoint ▸ hf))
  | scheduler htasks move =>
    rcases hf with ⟨i, hi⟩ | hf
    · exact hold (.inl ⟨i, htasks ▸ hi⟩)
    · exact .inr (.inl (unacknowledged_of_raise hattentive horderly move hf))

theorem scheduler_move (h : e.Lawful faults) (hattentive : e.Attentive specs)
    (horderly : e.Orderly specs) (move : e.Move e') {violation : Violation}
    (hfailed : e'.point.failure? = some violation) : ∃ v, violation = .unacknowledgedGrant v := by
  cases move with
  | life j hq htasks hpoint move | abort j ha htasks hpoint move =>
    exact h.scheduler (hpoint ▸ hfailed)
  | scheduler htasks move =>
    have hsane := horderly.sane
    have hold := @h.scheduler violation
    have hverified := fun v ticket (hpoint : e.point = .verify v ticket) =>
      hattentive.entered_of_verify horderly hpoint
    generalize e'.site = x', e'.point = pt', hpt : e.point = pt at *
    cases move with
    | withdraw v ticket =>
      cases hfailed
      exact ⟨ticket.vehicle, rfl⟩
    | letInBadly | nobodyBadly => cases hsane
    | unverified v ticket habsent =>
      rw [hverified v ticket rfl] at habsent
      cases habsent
    | abort move | abortEnd move => exact hold hfailed
    | gather seen c => cases c <;> cases hfailed
    | _ => cases hfailed

theorem lives_move (h : e.Lawful faults) (hattentive : e.Attentive specs)
    (horderly : e.Orderly specs) (move : e.Move e') {f : Fault}
    (hlife : e'.tasks.get i = .life p) (hf : p.failure? = some f) :
    f = .invalidArgument ∨ f.IsUngranted ∧ e'.site.aborted = true := by
  have haborted := move.aborted
  have hold : e.tasks.get i = .life p →
      f = .invalidArgument ∨ f.IsUngranted ∧ e'.site.aborted = true := by
    intro hlife
    exact (h.lives hlife hf).imp_right (And.imp_right haborted)
  cases move with
  | scheduler htasks move => exact hold (htasks ▸ hlife)
  | life j hq htasks hpoint move =>
    rw [htasks, Table.get_set] at hlife
    split at hlife
    · cases hlife
      -- It had failed before, or is rejected, or meets a violation.
      rcases move.failure_cases hf with hf | hf | ⟨v, violation, hv, rfl, rfl⟩
      · exact (h.lives hq hf).imp_right (And.imp_right haborted)
      · exact .inl hf
      · exact .inr ((hattentive.ungranted horderly hq hv move).imp_right haborted)
    · exact hold hlife
  | @abort j a a' ha htasks hpoint move =>
    rw [htasks, Table.get_set] at hlife
    split at hlife
    · cases a' <;> cases hlife
    · exact hold hlife

/-- Every step keeps a run lawful. -/
theorem move (h : e.Lawful faults) (hattentive : e.Attentive specs) (horderly : e.Orderly specs)
    (move : e.Move e') : e'.Lawful faults where
  unqueued hlife := h.unqueued_move horderly move hlife
  fault := h.fault_move move
  raising := h.raising_move hattentive horderly move
  scheduler := h.scheduler_move hattentive horderly move
  lives := h.lives_move hattentive horderly move

theorem staged (config : Config) (total : Nat) (console : Console) (specs : List VehicleSpec)
    (faults : List Fault) :
    (Scene.staged (.start config total console) specs faults).Lawful faults := by
  have hpoint := point_staged config total console specs faults
  have hget := staged_get (.start config total console) specs faults
  refine {
    unqueued := ?_
    fault := nofun
    raising := ?_
    scheduler := ?_
    lives := ?_ }
  · intro i v s rest hlife
    rcases hget i with ⟨spec, -, htask⟩ | ⟨-, ⟨f, -, htask⟩ | htask⟩ <;>
      rw [htask] at hlife <;> cases hlife
  · intro f hf
    rcases hf with ⟨i, hi⟩ | hf
    · rcases hget i with ⟨spec, -, htask⟩ | ⟨-, ⟨f', hf', htask⟩ | htask⟩
      · rw [htask] at hi
        cases hi
      · rw [htask] at hi
        cases hi
        exact .inl hf'
      · rw [htask] at hi
        cases hi
    · rcases hpoint with heq | heq <;> rw [heq] at hf <;> cases hf
  · intro violation hfailed
    rcases hpoint with heq | heq <;> rw [heq] at hfailed <;> cases hfailed
  · intro i p f hlife hf
    rcases hget i with ⟨spec, -, htask⟩ | ⟨-, ⟨f', -, htask⟩ | htask⟩ <;>
      rw [htask] at hlife <;> cases hlife
    cases hf

/-- Every scene that a staged run can reach is lawful. -/
theorem reachable (config : Config) (total : Nat) (console : Console) {specs : List VehicleSpec}
    (hdistinct : (specs.map (·.id)).Nodup) (faults : List Fault)
    (h : Relation.ReflTransGen Step (Scene.staged (.start config total console) specs faults) e) :
    e.Lawful faults := by
  induction h with
  | refl => exact staged config total console specs faults
  | @tail e e' hsteps hstep ih =>
    have horderly := Orderly.reachable config total console hdistinct faults hsteps
    have hattentive := Attentive.reachable config total console hdistinct faults hsteps
    obtain ⟨move, -⟩ := move_of_step horderly.staffed.isRun hstep
    exact ih.move hattentive horderly move

end Lawful

/-! ### Safety -/

/-- What can be relied on at every moment of a run. -/
structure Safe (specs : List VehicleSpec) (e : Scene) : Prop where
  /-- The books pass their check. -/
  check : e.site.table.ledger.check = .ok ()
  /-- Vehicles with a grant in force have no segment in common. -/
  disjoint : ∀ {i j v w p q}, e.Lives specs i v p → e.Lives specs j w q → i ≠ j →
    e.InForce v p → e.InForce w q → v.route.intersects w.route = false
  /-- A claim finds its segment free, and never has to wait. -/
  unblocked : ∀ {i v s rest point}, e.tasks.get i = .life (.claiming v s rest point) →
    e.site.table.holders.get s = none ∧ point ≠ .wait
  /-- While the run is not aborted, the scheduler takes no acknowledgment before the vehicle that it
  has granted has entered. -/
  acknowledged : ∀ {v ticket retries}, e.point = .await v ticket retries →
    e.site.aborted = false → 0 < e.site.acks → e.site.table.hasEntered ticket.vehicle = true
  /-- The scheduler fails with a missing acknowledgment only. -/
  scheduler : ∀ {violation}, e.point.failure? = some violation →
    ∃ v, violation = .unacknowledgedGrant v
  /-- A vehicle fails with its rejection or, after an abort, with a claim without reservation. -/
  lives : ∀ {i p f}, e.tasks.get i = .life p → p.failure? = some f →
    f = .invalidArgument ∨ f.IsUngranted ∧ e.site.aborted = true
  /-- The fault of the run is a missing acknowledgment. -/
  fault : ∀ {f}, e.site.fault = some f → f.IsUnacknowledged

/-- Every scene that a run can reach is safe, whatever the order of its steps. -/
theorem safe_of_steps (config : Config) (total : Nat) (console : Console)
    {specs : List VehicleSpec} (hdistinct : (specs.map (·.id)).Nodup)
    (h : Relation.ReflTransGen Step (ofSpecs (.start config total console) specs) e) :
    e.Safe specs := by
  rw [← staged_nil] at h
  have horderly := Orderly.reachable config total console hdistinct [] h
  have hattentive := Attentive.reachable config total console hdistinct [] h
  have hlawful := Lawful.reachable config total console hdistinct [] h
  refine {
    check := Ledger.check_eq_ok_iff.2 horderly.sound.consistent
    disjoint := horderly.disjoint
    unblocked := fun {i v s rest point} hlife => ⟨horderly.free_of_claiming hlife, ?_⟩
    acknowledged := ?_
    scheduler := hlawful.scheduler
    lives := hlawful.lives
    fault := ?_ }
  · rintro rfl
    exact hlawful.unqueued hlife
  · intro v ticket retries hpoint haborted hpending
    -- The ticket is that of the awaited vehicle.
    have hproper := horderly.staffed.point
    rw [hpoint] at hproper
    obtain ⟨-, rfl⟩ := hproper
    obtain ⟨-, i, p, -, -, hentered⟩ :=
      hattentive.entered_of_ack horderly haborted hpoint hpending
    exact hentered
  · intro f hf
    rcases hlawful.fault hf with hmem | hf
    · cases hmem
    · exact hf

/-- Two vehicles with the same route cross one after the other. -/
theorem safe_of_two_rivals :
    (runWith [.task 1, .task 0, .scheduler] 100
        (ofSpecs (.start {} 2 {}) [⟨0, 0, 0, 0⟩, ⟨1, 0, 0, 0⟩])).Safe
      [⟨0, 0, 0, 0⟩, ⟨1, 0, 0, 0⟩] :=
  safe_of_steps {} 2 {} (by decide) (steps_runWith _ 100 _)

end Scene

end Junction
