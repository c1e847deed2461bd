import Junction.Proofs.Exclusion

/-!
# The scheduler trusts no foreign acknowledgment

The acknowledgments of all vehicles and of the aborts go through one channel. Yet as long as the run
is not aborted, the only vehicle that can have put one there is the vehicle the scheduler waits for:
nobody else has been granted a route and not acknowledged it. So the scheduler never takes an
acknowledgment before the vehicle has entered, and never finds that it has not.

## Main definitions

* `Life.HasAcked` — a vehicle has acknowledged its grant
* `Scene.Attentive` — the invariant of the channel

## Main results

* `Scene.Attentive.reachable` — it holds in every scene that a staged run can reach
-/

namespace Junction

/-- Whether a vehicle has acknowledged its grant and not ended. -/
def Life.hasAcknowledged : Life → Bool
  | crossing _ | departing _ | vacating .. | exiting .. | clearing _ | leaving _ | completing .. =>
    true
  | _ => false

namespace Scheduler.Point

/-- The scheduler has woken a vehicle, or is about to, and has not taken its acknowledgment. -/
def Pursues (v : Vehicle) : Point → Prop
  | rouse w _ | await w .. | giveUp w .. => w = v
  | _ => False

/-- Whether the scheduler has given up on a vehicle after the abort. -/
def isLost : Point → Bool
  | withdraw .. | aborting .. | ended (some _) => true
  | _ => false

/-- Whether the scheduler has no use for an acknowledgment. -/
def isSettled : Point → Bool
  | await .. | giveUp .. | withdraw .. | aborting .. | ended (some _) => false
  | _ => true

end Scheduler.Point

/-! ### Steps -/

section Steps

variable {x x' : Site} {p p' : Life}

theorem Abort.Move.acks_cases {a : Abort} {a' : Option Abort} (move : a.Move x x' a') :
    x'.acks = x.acks ∨ a.hasFlagged = true := by
  cases move with
  | raise f =>
    apply Or.inl
    unfold Site.raise
    split <;> rfl
  | flag => exact .inl rfl
  | _ => exact .inr rfl

/-- An acknowledgment comes from a vehicle that is inside, or from an abort. -/
theorem Life.Move.acks_cases (move : p.Move x x' p') :
    x'.acks = x.acks ∨
      (∃ v, p = .acknowledging v ∧ p' = .crossing v ∧ x'.acks = x.acks + 1) ∨
      ∃ a, (Task.life p).abort? = some a ∧ a.hasFlagged = true := by
  cases move with
  | acknowledge v => exact .inr (.inl ⟨v, rfl, rfl, rfl⟩)
  | abort move | abortEnd move =>
    rcases move.acks_cases with heq | hflag
    · exact .inl heq
    · exact .inr (.inr ⟨_, rfl, hflag⟩)
  | _ => exact .inl rfl

theorem Life.Move.acks_of_acknowledging {v : Vehicle}
    (move : (Life.acknowledging v).Move x x' p') : x'.acks = x.acks + 1 ∧ p' = .crossing v := by
  cases move
  exact ⟨rfl, rfl⟩

/-- Nobody forgets that a vehicle was inside. -/
theorem Life.Move.entered (move : p.Move x x' p') {w : VehicleId}
    (h : (x.dossier w).entered = true) : (x'.dossier w).entered = true := by
  cases move with
  | @enter v =>
    simp only [Site.dossier, Site.withTable, Ledger.contains_entered_enter] at h ⊢
    simp [h]
  | @enterBadly v table violation hfailed =>
    rcases x.table.enter_fst v.id v.route with htable | htable
    · rw [hfailed] at htable
      subst htable
      exact h
    · rw [hfailed] at htable
      subst htable
      simp only [Site.dossier, Site.withTable, Ledger.contains_entered_enter] at h ⊢
      simp [h]
  | clear | clearBadly => simpa [Site.dossier, Site.withTable] using h
  | abort move | abortEnd move => rwa [move.dossier_eq]
  | _ => exact h

end Steps

/-- A vehicle has acknowledged its grant. -/
def Life.HasAcked (d : Dossier) (p : Life) : Prop := p.hasAcknowledged = true ∨ d.hasLeft = true

theorem Life.not_hasAcked {d : Dossier} {p : Life} (hp : p.hasAcknowledged = false)
    (hleft : d.hasLeft = false) : ¬ p.HasAcked d := by
  rintro (hacked | hleft')
  · rw [hp] at hacked
    cases hacked
  · rw [hleft] at hleft'
    cases hleft'

namespace Scene

/-- The channel of acknowledgments holds what the scheduler may take it for. -/
structure Attentive (specs : List VehicleSpec) (e : Scene) : Prop where
  /-- The scheduler gives up on a vehicle after it has aborted the run. -/
  lost : e.point.isLost = true → e.site.aborted = true
  /-- The awaited vehicle alone puts an acknowledgment into the channel. -/
  awaited : ∀ {i v p ticket retries}, e.site.aborted = false → e.point = .await v ticket retries →
    e.Lives specs i v p → (p.HasAcked (e.site.dossier v.id) → e.site.acks = 1) ∧
      (¬ p.HasAcked (e.site.dossier v.id) → e.site.acks = 0)
  /-- When the scheduler awaits nobody, the channel is empty. -/
  settled : e.site.aborted = false → e.point.isSettled = true → e.site.acks = 0
  /-- A granted vehicle that has not acknowledged is the one that the scheduler deals with. -/
  pursued : ∀ {i v p}, e.site.aborted = false → e.Lives specs i v p →
    (e.site.dossier v.id).isGranted = true → ¬ p.HasAcked (e.site.dossier v.id) →
    e.point.Pursues v
  /-- A vehicle that has left was inside. -/
  left : ∀ {i v p}, e.Lives specs i v p → (e.site.dossier v.id).hasLeft = true →
    (e.site.dossier v.id).entered = true
  /-- The acknowledgment taken is that of a vehicle that has entered. -/
  acknowledged : ∀ {v ticket}, e.site.aborted = false → e.point = .acknowledged v ticket →
    (e.site.dossier v.id).entered = true
  /-- So is the one that the scheduler looks into. -/
  verified : ∀ {v ticket}, e.point = .verify v ticket → (e.site.dossier v.id).entered = true

variable {specs : List VehicleSpec} {e e' : Scene} {i j : Nat} {v w : Vehicle} {p q : Life}

/-! ### What the steps do to an orderly run -/

namespace Orderly

/-- The scheduler changes neither who was inside nor who has left. -/
theorem hasLeft_scheduler (h : e.Orderly specs)
    (move : Scheduler.Move e.site e.point e'.site e'.point) (id : VehicleId) :
    (e'.site.dossier id).hasLeft = (e.site.dossier id).hasLeft := by
  have hcongr : e'.site.events = e.site.events →
      (e'.site.dossier id).hasLeft = (e.site.dossier id).hasLeft := by
    intro hevents
    rw [Dossier.hasLeft, Site.dossier, hevents]
    rfl
  cases h.deed move with
  | reserves w _ _ _ _ _ _ hevents => exact hcongr hevents
  | grants w ticket pass _ _ hsite =>
    by_cases hid : id = ticket.vehicle
    · subst hid
      rw [hsite, Dossier.hasLeft, Site.dossier_record, Dossier.hasLeft]
      simp
    · rw [hsite, Site.dossier_record_ne _ _ hid]
  | withdraws w ticket _ _ hsite => exact hcongr (by rw [hsite]; rfl)
  | rests _ hevents => exact hcongr hevents

theorem entered_scheduler (h : e.Orderly specs)
    (move : Scheduler.Move e.site e.point e'.site e'.point) (id : VehicleId) :
    (e'.site.dossier id).entered = (e.site.dossier id).entered := by
  cases h.deed move with
  | reserves w _ _ _ _ _ htable => simp [Site.dossier, htable]
  | grants w ticket pass _ _ hsite => rw [hsite]; rfl
  | withdraws w ticket _ _ hsite =>
    simp [Site.dossier, hsite, Site.withTable, SegmentTable.cancel]
  | rests htable => simp [Site.dossier, htable]

/-- Nobody forgets that a vehicle was inside. -/
theorem entered_move (h : e.Orderly specs) (move : e.Move e') {id : VehicleId}
    (hentered : (e.site.dossier id).entered = true) : (e'.site.dossier id).entered = true := by
  cases move with
  | scheduler htasks move => rwa [h.entered_scheduler move]
  | life j hq htasks hpoint move => exact move.entered hentered
  | abort j ha htasks hpoint move => rwa [move.dossier_eq]

/-- A vehicle has acknowledged its grant after the step that does so, and after no other step unless
it had already. -/
theorem hasAcked_own (h : e.Orderly specs) (hlives : e.Lives specs i v q) {x' : Site}
    (move : q.Move e.site x' p) :
    (q = .acknowledging v ∧ p = .crossing v) ∨
      (p.HasAcked (x'.dossier v.id) ↔ q.HasAcked (e.site.dossier v.id)) := by
  have hviolation : ∀ violation, p = Life.abortingOver violation → q.IsDenied e.site :=
    fun _ hp => (h.violation hlives move hp).1
  have hcongr : q.hasReleased = false → p.hasAcknowledged = q.hasAcknowledged →
      (p.HasAcked (x'.dossier v.id) ↔ q.HasAcked (e.site.dossier v.id)) := by
    intro hreleased hacknowledged
    rw [Life.HasAcked, Life.HasAcked, hacknowledged, move.hasLeft_eq hreleased]
  have hleft : (e.site.dossier v.id).hasLeft = true → (x'.dossier v.id).hasLeft = true :=
    move.hasLeft
  cases move with
  | acknowledge w =>
    obtain rfl := h.vehicle_eq hlives rfl
    exact .inl ⟨rfl, rfl⟩
  | vacateBadly | clearBadly => exact (hviolation _ rfl).elim
  -- On its last steps a vehicle has acknowledged long ago, and then it has left.
  | logLeave | countCompletion => exact .inr ⟨fun _ => .inl rfl, fun _ => .inl rfl⟩
  | notifyCompletion w =>
    obtain ⟨pass, hlogged⟩ := (h.fits hlives).logged
    refine .inr ⟨fun _ => .inl rfl, fun _ => .inr (hleft ?_)⟩
    simp [Dossier.hasLeft, hlogged, Vehicle.wholeTrail]
  | setOut | logEntry =>
    refine .inr (hcongr rfl ?_)
    unfold Life.toClaim
    split <;> rfl
  | _ => exact .inr (hcongr rfl rfl)

/-- A vehicle that owes its wake to the scheduler waits, and has not acknowledged anything. -/
theorem waits_of_rouse (h : e.Orderly specs) (hdistinct : (specs.map (·.id)).Nodup)
    (hlives : e.Lives specs i v p) {ticket : Ticket} (hpoint : e.point = .rouse v ticket) :
    p.waitsOn v.channel = true := by
  have hwaits := h.balanced.waits hdistinct h.staffed hlives.enrolled hlives.life
  have howed : 0 < e.owed v.channel := by
    unfold owed
    rw [hpoint]
    simp [Scheduler.Point.granted]
  -- The wake that the scheduler owes makes up for a wait.
  cases hp : p.waitsOn v.channel with
  | true => rfl
  | false =>
    rw [hp] at hwaits
    simp at hwaits
    omega

theorem not_hasAcked_of_waits (h : e.Orderly specs) (hlives : e.Lives specs i v p) {channel : Nat}
    (hwaits : p.waitsOn channel = true) : ¬ p.HasAcked (e.site.dossier v.id) := by
  have hlogged := (h.fits hlives).logged
  have hleft : (e.site.dossier v.id).trail = [v.approachKind] ∨
      (∃ pass, (e.site.dossier v.id).trail = v.grantTrail pass) →
      (e.site.dossier v.id).hasLeft = false := by
    rintro (htrail | ⟨pass, htrail⟩) <;> rw [Dossier.hasLeft, htrail] <;> rfl
  unfold Life.waitsOn at hwaits
  split at hwaits
  · exact Life.not_hasAcked rfl (hleft hlogged)
  · exact Life.not_hasAcked rfl (hleft hlogged)
  · exact Life.not_hasAcked rfl (hleft hlogged)
  · cases hwaits

theorem not_hasAcked_of_acknowledging (h : e.Orderly specs)
    (hlives : e.Lives specs i v (.acknowledging v)) :
    (e.site.dossier v.id).isGranted = true ∧
      ¬ (Life.acknowledging v).HasAcked (e.site.dossier v.id) := by
  obtain ⟨pass, hlogged⟩ := (h.fits hlives).logged
  refine ⟨?_, Life.not_hasAcked rfl ?_⟩
  · simp [Dossier.isGranted, hlogged, Vehicle.entryTrail, Vehicle.grantTrail, Event.Kind.isGrant]
  · simp [Dossier.hasLeft, hlogged, Vehicle.entryTrail, Vehicle.grantTrail, Vehicle.approachKind]

end Orderly

namespace Attentive

/-- A vehicle that is about to acknowledge is the one that the scheduler awaits, or is giving up
on. -/
theorem awaits_of_acknowledging (h : e.Attentive specs) (horderly : e.Orderly specs)
    (hdistinct : (specs.map (·.id)).Nodup) (haborted : e.site.aborted = false)
    (hlives : e.Lives specs i v (.acknowledging v)) :
    (∃ ticket retries, e.point = .await v ticket retries) ∨
      ∃ ticket a, e.point = .giveUp v ticket a := by
  obtain ⟨hgranted, hacked⟩ := horderly.not_hasAcked_of_acknowledging hlives
  have hpursued := h.pursued haborted hlives hgranted hacked
  cases hpoint : e.point with
  -- A vehicle that has not been woken does not acknowledge.
  | rouse w ticket =>
    rw [hpoint] at hpursued
    cases hpursued
    cases horderly.waits_of_rouse hdistinct hlives hpoint
  | await w ticket retries =>
    rw [hpoint] at hpursued
    cases hpursued
    exact .inl ⟨ticket, retries, rfl⟩
  | giveUp w ticket a =>
    rw [hpoint] at hpursued
    cases hpursued
    exact .inr ⟨ticket, a, rfl⟩
  | _ =>
    rw [hpoint] at hpursued
    exact hpursued.elim

/-- The awaited vehicle has entered when its acknowledgment is there. -/
theorem entered_of_ack (h : e.Attentive specs) (horderly : e.Orderly specs)
    (haborted : e.site.aborted = false) {ticket : Ticket} {retries : Nat}
    (hpoint : e.point = .await v ticket retries) (hpending : 0 < e.site.acks) :
    e.site.acks = 1 ∧ ∃ i p, e.Lives specs i v p ∧ p.HasAcked (e.site.dossier v.id) ∧
      (e.site.dossier v.id).entered = true := by
  obtain ⟨i, p, hlives⟩ := horderly.lives_of_enrolled
    (horderly.staffed.point.client (by rw [hpoint]; rfl))
  obtain ⟨hone, hnone⟩ := h.awaited haborted hpoint hlives
  -- If it had not acknowledged, the channel would be empty.
  by_cases hacked : p.HasAcked (e.site.dossier v.id)
  · refine ⟨hone hacked, i, p, hlives, hacked, ?_⟩
    rcases hacked with hacknowledged | hleft
    · apply (horderly.fits hlives).entered
      cases p with
      | crossing | departing | vacating | exiting | clearing | leaving | completing => rfl
      | _ => cases hacknowledged
    · exact h.left hlives hleft
  · have := hnone hacked
    omega

/-- The scheduler never finds that the vehicle has not entered. -/
theorem entered_of_verify (h : e.Attentive specs) (horderly : e.Orderly specs) {ticket : Ticket}
    (hpoint : e.point = .verify v ticket) : e.site.table.hasEntered ticket.vehicle = true := by
  have hproper := horderly.staffed.point
  rw [hpoint] at hproper
  obtain ⟨-, rfl⟩ := hproper
  exact h.verified hpoint

/-! ### Steps keep the invariant -/

/-- The flag was not set before a step after which it is not set. -/
theorem unaborted (move : e.Move e') (haborted : e'.site.aborted = false) :
    e.site.aborted = false := by
  by_contra hset
  rw [move.aborted (by simpa using hset)] at haborted
  cases haborted

theorem lost_move (h : e.Attentive specs) (horderly : e.Orderly specs) (move : e.Move e')
    (hlost : e'.point.isLost = true) : e'.site.aborted = true := by
  have hmono := move.aborted
  cases move with
  | life j hq htasks hpoint move | abort j ha htasks hpoint move =>
    exact hmono (h.lost (hpoint ▸ hlost))
  | scheduler htasks move =>
    have hsane := horderly.sane
    have hflagged : ∀ {a}, e.point.abort? = some a → a.hasFlagged = true →
        e.site.aborted = true := fun ha => horderly.flagged.flagged (.inr ha)
    have hlost' := h.lost
    have hverified := fun v ticket (hpoint : e.point = .verify v ticket) =>
      h.entered_of_verify horderly hpoint
    generalize e'.site = x', e'.point = pt', hpt : e.point = pt at *
    cases move with
    | givenUp move =>
      cases move
      exact hmono (hflagged rfl rfl)
    | withdraw => exact hmono (hlost' rfl)
    | letInBadly | nobodyBadly => cases hsane
    -- The scheduler never finds that the vehicle has not entered.
    | unverified v ticket habsent =>
      rw [hverified v ticket rfl] at habsent
      cases habsent
    | abort move | abortEnd move => exact hmono (hlost' rfl)
    | gather seen c => cases c <;> cases hlost
    | _ => cases hlost

/-- While the run is not aborted, a vehicle acknowledges to a scheduler that awaits it, or is giving
up on it. -/
theorem acks_of_life (h : e.Attentive specs) (horderly : e.Orderly specs)
    (hdistinct : (specs.map (·.id)).Nodup) (haborted : e.site.aborted = false)
    (hq : e.tasks.get j = .life q) (move : q.Move e.site e'.site p) :
    e'.site.acks = e.site.acks ∨
      ∃ w, e.Lives specs j w (.acknowledging w) ∧ q = .acknowledging w ∧ p = .crossing w ∧
        e'.site.acks = e.site.acks + 1 ∧
        ((∃ ticket retries, e.point = .await w ticket retries) ∨
          ∃ ticket a, e.point = .giveUp w ticket a) := by
  rcases move.acks_cases with heq | ⟨w, rfl, rfl, hacks⟩ | ⟨a, ha, hflag⟩
  · exact .inl heq
  · have hlives : e.Lives specs j w (.acknowledging w) :=
      ⟨horderly.staffed.at_of_vehicle hq rfl, hq⟩
    exact .inr ⟨w, hlives, rfl, rfl, hacks,
      h.awaits_of_acknowledging horderly hdistinct haborted hlives⟩
  · rw [horderly.flagged.flagged (.inl ⟨j, hq ▸ ha⟩) hflag] at haborted
    cases haborted

theorem acks_of_abort (horderly : e.Orderly specs) (haborted : e.site.aborted = false) {a : Abort}
    {a' : Option Abort} (ha : e.HasAbort a) (move : a.Move e.site e'.site a') :
    e'.site.acks = e.site.acks := by
  rcases move.acks_cases with heq | hflag
  · exact heq
  · rw [horderly.flagged.flagged ha hflag] at haborted
    cases haborted

/-- The channel is in order for the awaited vehicle after a step of a life. -/
theorem awaited_life (h : e.Attentive specs) (horderly : e.Orderly specs)
    (hdistinct : (specs.map (·.id)).Nodup) (hunaborted : e.site.aborted = false)
    {ticket : Ticket} {retries : Nat} (hawait : e.point = .await v ticket retries) {q' : Life}
    (hq : e.tasks.get j = .life q) (htasks : e'.tasks = e.tasks.set j (.life q'))
    (move : q.Move e.site e'.site q') (hlives : e'.Lives specs i v p) :
    (p.HasAcked (e'.site.dossier v.id) → e'.site.acks = 1) ∧
      (¬ p.HasAcked (e'.site.dossier v.id) → e'.site.acks = 0) := by
  rcases h.acks_of_life horderly hdistinct hunaborted hq move with
    hacks | ⟨w, hw, rfl, rfl, hacks, hpursuit⟩
  · rw [hacks]
    rcases horderly.lives_of_life hdistinct hq htasks move hlives with
      ⟨rfl, rfl, hlives⟩ | ⟨-, hlives, hdossier⟩
    · rcases horderly.hasAcked_own hlives move with ⟨rfl, -⟩ | hiff
      · have hmore := move.acks_of_acknowledging.1
        omega
      · rw [hiff]
        exact h.awaited hunaborted hawait hlives
    · rw [hdossier]
      exact h.awaited hunaborted hawait hlives
  -- The vehicle that acknowledges is the awaited one.
  · have hvw : v = w := by
      rcases hpursuit with ⟨ticket', retries', heq⟩ | ⟨ticket', a, heq⟩
      · cases hawait.symm.trans heq
        rfl
      · cases hawait.symm.trans heq
    subst hvw
    obtain ⟨-, hnone⟩ := h.awaited hunaborted hawait hw
    have hzero := hnone (horderly.not_hasAcked_of_acknowledging hw).2
    have hij := (Vehicle.At.eq_of_id hdistinct hlives.enrolled hw.enrolled rfl).1
    rcases horderly.lives_of_life hdistinct hq htasks move hlives with
      ⟨-, rfl, -⟩ | ⟨hne, -⟩
    · exact ⟨fun _ => by omega, fun hnot => absurd (.inl rfl) hnot⟩
    · exact absurd hij hne

/-- The channel is in order for the vehicle that the scheduler starts to await, or goes on to. -/
theorem awaited_scheduler (h : e.Attentive specs) (horderly : e.Orderly specs)
    (hdistinct : (specs.map (·.id)).Nodup) (hunaborted : e.site.aborted = false)
    {ticket : Ticket} {retries : Nat} (hpoint' : e'.point = .await v ticket retries)
    (move : Scheduler.Move e.site e.point e'.site e'.point) (hlives : e.Lives specs i v p) :
    (p.HasAcked (e'.site.dossier v.id) → e'.site.acks = 1) ∧
      (¬ p.HasAcked (e'.site.dossier v.id) → e'.site.acks = 0) := by
  have hacked : p.HasAcked (e'.site.dossier v.id) ↔ p.HasAcked (e.site.dossier v.id) := by
    rw [Life.HasAcked, Life.HasAcked, horderly.hasLeft_scheduler move]
  rw [hacked]
  have hawaited := @h.awaited i v p ticket
  have hsettled := h.settled
  have hwaits := fun (hpoint : e.point = .rouse v ticket) =>
    horderly.not_hasAcked_of_waits hlives (horderly.waits_of_rouse hdistinct hlives hpoint)
  generalize e'.site = x', e'.point = pt', hpt : e.point = pt at *
  cases move with
  | rouse w ticket' =>
    cases hpoint'
    have hacked := hwaits rfl
    exact ⟨fun h => absurd h hacked, fun _ => hsettled hunaborted rfl⟩
  | retry =>
    cases hpoint'
    exact hawaited hunaborted rfl hlives
  | gather seen c => cases c <;> cases hpoint'
  | _ => cases hpoint'

theorem awaited_move (h : e.Attentive specs) (horderly : e.Orderly specs)
    (hdistinct : (specs.map (·.id)).Nodup) (move : e.Move e')
    (haborted : e'.site.aborted = false) {ticket : Ticket} {retries : Nat}
    (hpoint' : e'.point = .await v ticket retries) (hlives : e'.Lives specs i v p) :
    (p.HasAcked (e'.site.dossier v.id) → e'.site.acks = 1) ∧
      (¬ p.HasAcked (e'.site.dossier v.id) → e'.site.acks = 0) := by
  have hunaborted := unaborted move haborted
  cases move with
  | life j hq htasks hpoint move =>
    exact h.awaited_life horderly hdistinct hunaborted (hpoint ▸ hpoint') hq htasks move hlives
  | abort j ha htasks hpoint move =>
    rw [acks_of_abort horderly hunaborted (.inl ⟨j, ha ▸ rfl⟩) move, move.dossier_eq]
    exact h.awaited hunaborted (hpoint ▸ hpoint') (Orderly.lives_of_abort htasks hlives)
  | scheduler htasks move =>
    exact h.awaited_scheduler horderly hdistinct hunaborted hpoint' move
      ⟨hlives.enrolled, htasks ▸ hlives.life⟩

theorem settled_move (h : e.Attentive specs) (horderly : e.Orderly specs)
    (hdistinct : (specs.map (·.id)).Nodup) (move : e.Move e')
    (haborted : e'.site.aborted = false) (hsettled : e'.point.isSettled = true) :
    e'.site.acks = 0 := by
  have hunaborted := unaborted move haborted
  cases move with
  | @life j q q' hq htasks hpoint move =>
    rw [hpoint] at hsettled
    have hzero := h.settled hunaborted hsettled
    rcases h.acks_of_life horderly hdistinct hunaborted hq move with
      hacks | ⟨w, -, -, -, -, hpursuit⟩
    · rw [hacks, hzero]
    -- The scheduler has use for the acknowledgment of the vehicle that it deals with.
    · rcases hpursuit with ⟨ticket, retries, heq⟩ | ⟨ticket, a, heq⟩ <;> rw [heq] at hsettled <;>
        cases hsettled
  | abort j ha htasks hpoint move =>
    rw [acks_of_abort horderly hunaborted (.inl ⟨j, ha ▸ rfl⟩) move]
    exact h.settled hunaborted (hpoint ▸ hsettled)
  | scheduler htasks move =>
    have hold := h.settled hunaborted
    have hack := fun v ticket retries (hpoint : e.point = .await v ticket retries) hpending =>
      (h.entered_of_ack horderly hunaborted hpoint hpending).1
    generalize e'.site = x', e'.point = pt', hpt : e.point = pt at *
    cases move with
    -- It takes the only one there is.
    | takeAck hpending =>
      have hone := hack _ _ _ rfl hpending
      simp [hone]
    | retry | losePatience | giveUp | givenUp | withdraw | abort | abortEnd => cases hsettled
    | _ => exact hold rfl

theorem pursued_move (h : e.Attentive specs) (horderly : e.Orderly specs)
    (hdistinct : (specs.map (·.id)).Nodup) (move : e.Move e')
    (haborted : e'.site.aborted = false) (hlives : e'.Lives specs i v p)
    (hgranted : (e'.site.dossier v.id).isGranted = true)
    (hacked : ¬ p.HasAcked (e'.site.dossier v.id)) : e'.point.Pursues v := by
  have hunaborted := unaborted move haborted
  have hlost := h.lost_move horderly move
  have hview := horderly.view hdistinct move hlives
  rcases horderly.isGranted_cases hdistinct hview hgranted with hgranted | ⟨ticket, -, hpoint⟩
  · cases hview with
    | own lives move point =>
      rcases horderly.hasAcked_own lives move with ⟨-, rfl⟩ | hiff
      · exact absurd (.inl rfl) hacked
      · rw [point]
        exact h.pursued hunaborted lives hgranted (hiff.not.1 hacked)
    | bystander lives dossier point =>
      rw [point]
      exact h.pursued hunaborted lives hgranted (dossier ▸ hacked)
    | scheduler lives move =>
      rw [Life.HasAcked, horderly.hasLeft_scheduler move] at hacked
      have hpursued := h.pursued hunaborted lives hgranted hacked
      have hawaited := @h.awaited i v p
      generalize e'.site = x', e'.point = pt', hpt : e.point = pt at *
      cases move with
      | rouse | retry | losePatience | giveUp => exact hpursued
      -- The one it takes is that of the vehicle.
      | @takeAck w ticket retries hpending =>
        cases hpursued
        have hzero := (hawaited hunaborted rfl lives).2 hacked
        omega
      | givenUp =>
        rw [hlost rfl] at haborted
        cases haborted
      | _ => exact hpursued.elim
  · rw [hpoint]
    rfl

theorem left_move (h : e.Attentive specs) (horderly : e.Orderly specs)
    (hdistinct : (specs.map (·.id)).Nodup) (move : e.Move e') (hlives : e'.Lives specs i v p)
    (hleft : (e'.site.dossier v.id).hasLeft = true) : (e'.site.dossier v.id).entered = true := by
  cases horderly.view hdistinct move hlives with
  | @own q lives hmove point =>
    apply horderly.entered_move move
    cases hreleased : q.hasReleased with
    | false => exact h.left lives (hmove.hasLeft_eq hreleased v.id ▸ hleft)
    | true =>
      apply (horderly.fits lives).entered
      cases q with
      | leaving | completing => rfl
      | _ => cases hreleased
  | bystander lives dossier point =>
    rw [dossier] at hleft ⊢
    exact h.left lives hleft
  | scheduler lives hmove =>
    rw [horderly.hasLeft_scheduler hmove] at hleft
    exact horderly.entered_move move (h.left lives hleft)

theorem acknowledged_move (h : e.Attentive specs) (horderly : e.Orderly specs)
    (move : e.Move e') (haborted : e'.site.aborted = false) {ticket : Ticket}
    (hpoint' : e'.point = .acknowledged v ticket) : (e'.site.dossier v.id).entered = true := by
  have hunaborted := unaborted move haborted
  apply horderly.entered_move move
  cases move with
  | life j hq htasks hpoint move | abort j ha htasks hpoint move =>
    exact h.acknowledged hunaborted (hpoint ▸ hpoint')
  | scheduler htasks move =>
    have hack := fun retries (hpoint : e.point = .await v ticket retries) hpending =>
      (h.entered_of_ack horderly hunaborted hpoint hpending).2
    generalize e'.site = x', e'.point = pt', hpt : e.point = pt at *
    cases move with
    | takeAck hpending =>
      cases hpoint'
      obtain ⟨i, p, -, -, hentered⟩ := hack _ rfl hpending
      exact hentered
    | gather seen c => cases c <;> cases hpoint'
    | _ => cases hpoint'

theorem verified_move (h : e.Attentive specs) (horderly : e.Orderly specs) (move : e.Move e')
    {ticket : Ticket} (hpoint' : e'.point = .verify v ticket) :
    (e'.site.dossier v.id).entered = true := by
  apply horderly.entered_move move
  cases move with
  | life j hq htasks hpoint move | abort j ha htasks hpoint move =>
    exact h.verified (hpoint ▸ hpoint')
  | scheduler htasks move =>
    have hold := @h.acknowledged v ticket
    generalize e'.site = x', e'.point = pt', hpt : e.point = pt at *
    cases move with
    | confirm w ticket' hunaborted =>
      cases hpoint'
      exact hold hunaborted rfl
    | gather seen c => cases c <;> cases hpoint'
    | _ => cases hpoint'

/-- Every step keeps the channel of acknowledgments in order. -/
theorem move (h : e.Attentive specs) (horderly : e.Orderly specs)
    (hdistinct : (specs.map (·.id)).Nodup) (move : e.Move e') : e'.Attentive specs where
  lost := h.lost_move horderly move
  awaited haborted hpoint hlives := h.awaited_move horderly hdistinct move haborted hpoint hlives
  settled := h.settled_move horderly hdistinct move
  pursued haborted hlives := h.pursued_move horderly hdistinct move haborted hlives
  left hlives := h.left_move horderly hdistinct move hlives
  acknowledged haborted hpoint := h.acknowledged_move horderly move haborted hpoint
  verified hpoint := h.verified_move horderly move hpoint

theorem staged (config : Config) (total : Nat) (console : Console) (specs : List VehicleSpec)
    (faults : List Fault) :
    (Scene.staged (.start config total console) specs faults).Attentive specs := by
  have hpoint := point_staged config total console specs faults
  have hdossier : ∀ id, ((Scene.staged (.start config total console) specs faults).site.dossier
      id) = ⟨fun _ => false, fun _ => false, none, false, []⟩ :=
    Site.dossier_start config total console
  refine {
    lost := ?_
    awaited := ?_
    settled := fun _ _ => rfl
    pursued := ?_
    left := ?_
    acknowledged := ?_
    verified := ?_ }
  · intro hlost
    rcases hpoint with heq | heq <;> rw [heq] at hlost <;> cases hlost
  · intro i v p ticket retries _ hawait
    rcases hpoint with heq | heq <;> rw [heq] at hawait <;> cases hawait
  · intro i v p _ _ hgranted
    rw [hdossier] at hgranted
    cases hgranted
  · intro i v p _ hleft
    rw [hdossier] at hleft
    cases hleft
  · intro v ticket _ hacknowledged
    rcases hpoint with heq | heq <;> rw [heq] at hacknowledged <;> cases hacknowledged
  · intro v ticket hverify
    rcases hpoint with heq | heq <;> rw [heq] at hverify <;> cases hverify

/-- The channel of acknowledgments is in order in every scene that a staged run can reach. -/
theorem reachable (config : Config) (total : Nat) (console : Console) {specs : List VehicleSpec}
    (hdistinct : (specs.map (·.id)).Nodup) (faults : List Fault)
    (h : Relation.ReflTransGen Step (Scene.staged (.start config total console) specs faults) e) :
    e.Attentive specs := by
  induction h with
  | refl => exact staged config total console specs faults
  | @tail e e' hsteps hstep ih =>
    have horderly := Orderly.reachable config total console hdistinct faults hsteps
    obtain ⟨move, -⟩ := move_of_step horderly.staffed.isRun hstep
    exact ih.move horderly hdistinct move

end Attentive

end Scene

end Junction
