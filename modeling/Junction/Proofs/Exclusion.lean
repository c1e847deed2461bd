import Junction.Proofs.Dossiers

/-!
# Reservations exclude vehicles from each other

From the moment at which the scheduler reserves a route until the vehicle has cleared it, the grant
is in force. Two grants in force have no segment in common, and whatever a vehicle does to a segment
it does under its own grant. This is what makes every acquisition find its segment free, and every
check of the books pass. A run that was given up is no exception: a withdrawn reservation is never
made again.

## Main definitions

* `Scene.Lives` — a vehicle of the run stands at a point of its life
* `Scene.InForce` — its grant is in force
* `Scene.Orderly` — the invariant of a run

## Main results

* `Scene.Orderly.sound` — the books are sound
* `Scene.Orderly.violation` — the only violation of a vehicle is a claim without a reservation
* `Scene.Orderly.move` — every step keeps a run orderly
-/

namespace Junction

/-! ### Grants in force -/

/-- Whether a vehicle has cleared its route but not ended. -/
def Life.hasReleased : Life → Bool
  | leaving _ | completing .. => true
  | _ => false

theorem Life.hasReleased_of_waitsOn {channel : Nat} {p : Life} (h : p.waitsOn channel = true) :
    p.hasReleased = false := by
  cases p with
  | leaving | completing => cases h
  | _ => rfl

/-- Whether the scheduler has reserved the route of a vehicle and not logged the grant yet. -/
def Scheduler.Point.announces (v : Vehicle) : Point → Bool
  | announce w _ => decide (w = v)
  | _ => false

/-- Whether the scheduler fails, or has failed. -/
def Scheduler.Point.isBroken : Point → Bool
  | aborting .. | ended (some _) => true
  | _ => false

/-! ### Steps and grants -/

section Steps

variable {x x' : Site} {p p' : Life} {pt pt' : Scheduler.Point}

theorem Life.Move.coherent (move : p.Move x x' p') (h : x.table.Coherent) : x'.table.Coherent := by
  cases move with
  | take hfree hreserved | takeBadly _ hfree hreserved => exact h.acquire hfree hreserved
  | enter => exact ⟨h.holder_eq, h.reserved_of_held, h.balance⟩
  | @enterBadly v table violation hfailed =>
    have henter := h.enter v.id v.route
    rw [hfailed] at henter
    exact henter
  | depart v => exact h.depart v.id
  | @vacate v s rest hheld =>
    have hvacate := h.vacate s v.id
    rw [SegmentTable.vacate, if_pos hheld] at hvacate
    exact hvacate
  | clear | clearBadly => exact h.withdraw _ _
  | abort move | abortEnd move => exact move.table_eq ▸ h
  | _ => exact h

theorem Scheduler.Move.coherent (move : Scheduler.Move x pt x' pt') (h : x.table.Coherent) :
    x'.table.Coherent := by
  cases move with
  | @refuseBadly _ _ _ _ v _ _ hfree | @letIn _ _ _ v _ _ hfree | @letInBadly _ _ _ v _ _ hfree =>
    have hreserve := h.reserve v.id v.route
    rw [SegmentTable.reserve, if_pos hfree] at hreserve
    exact hreserve
  | withdraw => exact h.withdraw _ _
  | giveUp move | givenUp move | abort move | abortEnd move => exact move.table_eq ▸ h
  | _ => exact h

/-- A step of a life logs one event at most, and never a grant. -/
theorem Life.Move.trail_cases (move : p.Move x x' p') (w : VehicleId) :
    (x'.dossier w).trail = (x.dossier w).trail ∨
      ∃ kind, kind.isGrant = false ∧ (kind = .leave → p.hasReleased = true) ∧
        (x'.dossier w).trail = (x.dossier w).trail ++ [kind] := by
  have hrecord : ∀ (v : VehicleId) (kind : Event.Kind), kind.isGrant = false →
      (kind = .leave → p.hasReleased = true) →
      ((x.record v kind).dossier w).trail = (x.dossier w).trail ∨
        ∃ kind', kind'.isGrant = false ∧ (kind' = .leave → p.hasReleased = true) ∧
          ((x.record v kind).dossier w).trail = (x.dossier w).trail ++ [kind'] := by
    intro v kind hgrant hleave
    by_cases hw : w = v
    · subst hw
      exact .inr ⟨kind, hgrant, hleave, by rw [Site.dossier_record]⟩
    · exact .inl (by rw [Site.dossier_record_ne x kind hw])
  cases move with
  | logRejection | logArrival | logEntry | cross | logExit => exact hrecord _ _ rfl nofun
  | logLeave => exact hrecord _ _ rfl fun _ => rfl
  | abort move | abortEnd move => exact .inl (by rw [move.dossier_eq])
  | _ => exact .inl rfl

theorem Life.Move.isGranted_eq (move : p.Move x x' p') (w : VehicleId) :
    (x'.dossier w).isGranted = (x.dossier w).isGranted := by
  rcases move.trail_cases w with heq | ⟨kind, hgrant, -, heq⟩
  · rw [Dossier.isGranted, heq, Dossier.isGranted]
  · rw [Dossier.isGranted, heq, List.any_append, Dossier.isGranted]
    simp [hgrant]

theorem Life.Move.hasLeft (move : p.Move x x' p') {w : VehicleId}
    (h : (x.dossier w).hasLeft = true) : (x'.dossier w).hasLeft = true := by
  rcases move.trail_cases w with heq | ⟨kind, -, -, heq⟩
  · rwa [Dossier.hasLeft, heq]
  · rw [Dossier.hasLeft] at h ⊢
    rw [heq]
    simp_all

theorem Life.Move.hasLeft_eq (move : p.Move x x' p') (hp : p.hasReleased = false) (w : VehicleId) :
    (x'.dossier w).hasLeft = (x.dossier w).hasLeft := by
  rcases move.trail_cases w with heq | ⟨kind, -, hleave, heq⟩
  · rw [Dossier.hasLeft, heq, Dossier.hasLeft]
  · have hkind : kind ≠ .leave := by
      rintro rfl
      rw [hleave rfl] at hp
      cases hp
    rw [Dossier.hasLeft, heq, Dossier.hasLeft]
    simp [hkind.symm]

/-- A life never reserves a segment. -/
theorem Life.Move.reserved_of (move : p.Move x x' p') {w : VehicleId} {s : Segment}
    (h : (x'.dossier w).reserved s = true) : (x.dossier w).reserved s = true := by
  rw [Site.dossier_reserved] at h ⊢
  cases move with
  -- An entry that fails may have been noted, but marks no segment.
  | @enterBadly v table violation hfailed =>
    rcases x.table.enter_fst v.id v.route with htable | htable
    · rw [hfailed] at htable
      subst htable
      exact h
    · rw [hfailed] at htable
      subst htable
      exact h
  | clear | clearBadly =>
    simp only [Site.withTable, Ledger.get_reserved_unreserve] at h
    split at h
    · cases h
    · exact h
  | abort move | abortEnd move => exact move.table_eq ▸ h
  | _ => exact h

/-- A vehicle drops the marks of its route by the step that clears it only. -/
theorem Life.Move.reserved_eq (move : p.Move x x' p') (hp' : p'.hasReleased = false)
    (hp : ∀ violation, p' = abortingOver violation → p.IsDenied x) {w : VehicleId} {s : Segment}
    (h : (x.dossier w).reserved s = true) : (x'.dossier w).reserved s = true := by
  rw [Site.dossier_reserved] at h ⊢
  cases move with
  | enterBadly | clearBadly => exact (hp _ rfl).elim
  | clear => cases hp'
  | abort move | abortEnd move => exact move.table_eq ▸ h
  | _ => exact h

/-- Only vehicles that live get inside. -/
theorem Life.Move.inside_of (move : p.Move x x' p') {id : VehicleId} {r : Route}
    (h : x'.table.ledger.inside.get? id = some r) :
    x.table.ledger.inside.get? id = some r ∨ ∃ v, p.vehicle? = some v ∧ v.id = id := by
  cases move with
  | @enter v =>
    by_cases hid : id = v.id
    · exact .inr ⟨v, rfl, hid.symm⟩
    · apply Or.inl
      simpa [Site.withTable, Ledger.get?_inside_enter, hid] using h
  | @enterBadly v table violation hfailed =>
    by_cases hid : id = v.id
    · exact .inr ⟨v, rfl, hid.symm⟩
    · apply Or.inl
      rcases x.table.enter_fst v.id v.route with htable | htable
      · rw [hfailed] at htable
        subst htable
        exact h
      · rw [hfailed] at htable
        subst htable
        simpa [Site.withTable, Ledger.get?_inside_enter, hid] using h
  | depart v =>
    apply Or.inl
    simp only [Site.withTable, SegmentTable.depart, Ledger.get?_inside_leave] at h
    split at h
    · cases h
    · exact h
  | clear | clearBadly =>
    apply Or.inl
    simpa [Site.withTable] using h
  | abort move | abortEnd move => exact .inl (move.table_eq ▸ h)
  | _ => exact .inl h

/-- A vehicle has cleared its route after the step that clears it. -/
theorem Life.Move.releases (move : p.Move x x' p') (hp : p.hasReleased = false)
    (hp' : p'.hasReleased = true) :
    ∃ v, p = .clearing v ∧
      x' = x.withTable { x.table with ledger := x.table.ledger.unreserve v.id v.route } := by
  cases move with
  | clear v => exact ⟨v, rfl, rfl⟩
  | logLeave | countCompletion => cases hp
  | setOut | logEntry =>
    unfold toClaim at hp'
    split at hp' <;> cases hp'
  | _ => cases hp'

/-- A vehicle that has cleared its route goes on to leave. -/
theorem Life.Move.hasReleased (move : p.Move x x' p') (hp : p.hasReleased = true) :
    p'.hasReleased = true ∨ ∃ v, p = .completing v .notify := by
  cases move with
  | logLeave | countCompletion => exact .inl rfl
  | notifyCompletion v => exact .inr ⟨v, rfl⟩
  | _ => cases hp

theorem Life.Move.of_woken (move : p.Move x x' p') {v : Vehicle} (hp' : p' = .woken v) :
    p = .sleeping v ∧ 0 < x.wakes.get v.channel := by
  cases move with
  | awake w hpending =>
    cases hp'
    exact ⟨rfl, hpending⟩
  | setOut | logEntry =>
    unfold toClaim at hp'
    split at hp' <;> cases hp'
  | _ => cases hp'

end Steps

/-- What the scheduler does to books and log: it reserves a route, logs a grant, withdraws a
reservation, or leaves them alone. -/
inductive Scheduler.Deed (x : Site) (pt : Point) (x' : Site) (pt' : Point) : Prop
  | reserves (v : Vehicle) (unbroken : pt.isBroken = false) (unengaged : pt.client? = none)
      (asked : ∃ c, v ∈ x.queue.levels.get c)
      (unreserved : x.table.ledger.unreserved v.route = true)
      (point : pt' = .announce v ⟨v.id, v.route⟩)
      (table : x'.table = { x.table with ledger := x.table.ledger.reserve v.id v.route })
      (events : x'.events = x.events)
  | grants (v : Vehicle) (ticket : Ticket) (pass : Nat) (point : pt = .announce v ticket)
      (point' : pt' = .rouse v ticket)
      (site : x' = x.record ticket.vehicle (.grant ticket.route pass))
  | withdraws (v : Vehicle) (ticket : Ticket) (point : pt = .withdraw v ticket)
      (point' : pt' = abortingOver (.unacknowledgedGrant ticket.vehicle))
      (site : x' = x.withTable (x.table.cancel ticket))
  | rests (table : x'.table = x.table) (events : x'.events = x.events)
      (announces : ∀ v, pt.announces v = false ∧ pt'.announces v = false)
      (broken : pt.isBroken = true → pt'.isBroken = true)
      (client : ∀ v, pt'.client? = some v → pt.client? = some v)

theorem Scheduler.Move.deed {x x' : Site} {pt pt' : Point} (hsound : x.table.ledger.Sound)
    (hsane : pt.fault? = none) (move : Move x pt x' pt') : Deed x pt x' pt' := by
  cases move with
  -- In sound books every reservation of a free route passes the check.
  | refuseBadly _ _ hfree hinconsistent =>
    exact absurd (hsound.reserve hfree _).consistent hinconsistent
  | letIn console hasked hfree =>
    exact .reserves _ rfl rfl ⟨_, List.mem_of_getElem? hasked⟩ hfree rfl rfl rfl
  | letInBadly | nobodyBadly => cases hsane
  | announce v ticket pass => exact .grants v ticket pass rfl rfl rfl
  | withdraw v ticket => exact .withdraws v ticket rfl rfl rfl
  | gather seen c =>
    refine .rests rfl rfl (fun _ => ⟨rfl, ?_⟩) nofun fun v hv => ?_
    · cases c <;> rfl
    · cases c <;> cases hv
  | unverified =>
    exact .rests rfl rfl (fun _ => ⟨rfl, rfl⟩) nofun nofun
  -- An abort touches neither the table nor the log.
  | giveUp move | givenUp move =>
    exact .rests move.table_eq move.events_eq (fun _ => ⟨rfl, rfl⟩) nofun fun _ hv => hv
  | abort move | abortEnd move =>
    exact .rests move.table_eq move.events_eq (fun _ => ⟨rfl, rfl⟩) (fun _ => rfl) nofun
  | rouse | takeAck | retry | losePatience | confirm =>
    exact .rests rfl rfl (fun _ => ⟨rfl, rfl⟩) nofun fun _ hv => hv
  | _ => exact .rests rfl rfl (fun _ => ⟨rfl, rfl⟩) nofun nofun

theorem Scheduler.Move.fault?_eq_none {x x' : Site} {pt pt' : Point}
    (hsound : x.table.ledger.Sound) (hsane : pt.fault? = none) (move : Move x pt x' pt') :
    pt'.fault? = none := by
  cases move with
  | refuseBadly _ _ hfree hinconsistent =>
    exact absurd (hsound.reserve hfree _).consistent hinconsistent
  | gather seen c => cases c <;> rfl
  | lock | refuse | nextLevel => exact hsane
  | _ => rfl

theorem Scheduler.Point.Proper.client {P : Vehicle → Prop} {pt : Point} (h : pt.Proper P)
    {v : Vehicle} (hv : pt.client? = some v) : P v := by
  cases pt with
  | announce | rouse | await | giveUp | withdraw | acknowledged | verify =>
    cases hv
    exact h.1
  | _ => cases hv

namespace Scene

/-- A vehicle of the run stands at a point of its life. -/
structure Lives (specs : List VehicleSpec) (e : Scene) (i : Nat) (v : Vehicle) (p : Life) :
    Prop where
  /-- The vehicle takes part in the run. -/
  enrolled : v.At specs i
  /-- The task at its place lives its life. -/
  life : e.tasks.get i = .life p

/-- The route of a vehicle is reserved or granted, and the vehicle has not cleared it. -/
structure InForce (e : Scene) (v : Vehicle) (p : Life) : Prop where
  /-- The grant is logged, or about to be. -/
  granted : e.point.announces v = true ∨ (e.site.dossier v.id).isGranted = true
  /-- The vehicle has not just cleared its route. -/
  unreleased : p.hasReleased = false
  /-- The vehicle has not left. -/
  present : (e.site.dossier v.id).hasLeft = false

/-- The invariant of a run. -/
structure Orderly (specs : List VehicleSpec) (e : Scene) : Prop where
  /-- Everybody at work takes part in the run. -/
  staffed : e.Staffed specs
  /-- Each wait has one wake. -/
  balanced : e.Balanced
  /-- Aborts leave a fault and the flag. -/
  flagged : e.Flagged
  /-- Slots and books agree. -/
  coherent : e.site.table.Coherent
  /-- Books and log fit each life. -/
  fits : ∀ {i v p}, e.Lives specs i v p → p.Fits v (e.site.dossier v.id)
  /-- A granted vehicle is nowhere taken for one that waits for its grant. -/
  ungranted : ∀ {i v p}, e.Lives specs i v p → (e.site.dossier v.id).isGranted = true →
    e.ungranted v.channel = 0
  /-- A wake means a grant, or else an abort. -/
  woken : ∀ {i v p}, e.Lives specs i v p → p = .woken v ∨ 0 < e.site.wakes.get v.channel →
    e.site.aborted = true ∨ (e.site.dossier v.id).isGranted = true
  /-- The vehicle that the scheduler deals with is granted. -/
  client : ∀ {v}, e.point.client? = some v → e.point.announces v = false →
    (e.site.dossier v.id).isGranted = true
  /-- A reservation for a vehicle is a segment of its route, and its grant is in force. -/
  marks : ∀ {i v p}, e.Lives specs i v p → ∀ {s}, (e.site.dossier v.id).reserved s = true →
    s ∈ v.route ∧ e.InForce v p
  /-- While a grant is in force the whole route is reserved, unless the scheduler has failed. -/
  reserved : ∀ {i v p}, e.Lives specs i v p → e.InForce v p → e.point.isBroken = false →
    ∀ s ∈ v.route, (e.site.dossier v.id).reserved s = true
  /-- Grants in force have no segment in common. -/
  disjoint : ∀ {i j v w p q}, e.Lives specs i v p → e.Lives specs j w q → i ≠ j →
    e.InForce v p → e.InForce w q → v.route.intersects w.route = false
  /-- Segments are reserved for vehicles of the run. -/
  owners : ∀ {s id}, e.site.table.ledger.reserved.get s = some id →
    ∃ v : Vehicle, v.Enrolled specs ∧ v.id = id
  /-- Only vehicles of the run are inside. -/
  insiders : ∀ {id r}, e.site.table.ledger.inside.get? id = some r →
    ∃ v : Vehicle, v.Enrolled specs ∧ v.id = id
  /-- Scans meet no error. -/
  sane : e.point.fault? = none

/-- A staged run starts with the hold, or without it with the first look at the counters. -/
theorem point_staged (config : Config) (total : Nat) (console : Console) (specs : List VehicleSpec)
    (faults : List Fault) :
    (staged (.start config total console) specs faults).point = .hold ∨
      (staged (.start config total console) specs faults).point = .test := by
  change (Scheduler.start (.start config total console)).point = _ ∨
    (Scheduler.start (.start config total console)).point = _
  unfold Scheduler.start
  dsimp only
  split
  · exact .inl rfl
  · exact .inr rfl

namespace Orderly

variable {specs : List VehicleSpec} {e e' : Scene} {i j : Nat} {v w : Vehicle} {p q : Life}
variable {s : Segment}

/-! ### What an orderly run is like -/

theorem lives_of_enrolled (h : e.Orderly specs) (hv : v.Enrolled specs) :
    ∃ i p, e.Lives specs i v p := by
  obtain ⟨i, hi⟩ := hv
  obtain ⟨p, hp⟩ := h.staffed.life_of_at hi
  exact ⟨i, p, hi, hp⟩

/-- The owner of a reserved segment is a vehicle with a grant in force. -/
theorem exists_owner (h : e.Orderly specs) {id : VehicleId}
    (hs : e.site.table.ledger.reserved.get s = some id) :
    ∃ i v p, e.Lives specs i v p ∧ v.id = id ∧ s ∈ v.route ∧ e.InForce v p := by
  obtain ⟨v, hv, rfl⟩ := h.owners hs
  obtain ⟨i, p, hlives⟩ := h.lives_of_enrolled hv
  obtain ⟨hroute, hforce⟩ := h.marks hlives (Site.dossier_reserved.2 hs)
  exact ⟨i, v, p, hlives, rfl, hroute, hforce⟩

/-- The books of an orderly run are sound. -/
theorem sound (h : e.Orderly specs) : e.site.table.ledger.Sound := by
  refine ⟨fun {s id} => h.coherent.reserved_of_held s id, ?_⟩
  intro id r hr s
  obtain ⟨v, hv, rfl⟩ := h.insiders hr
  obtain ⟨i, p, hlives⟩ := h.lives_of_enrolled hv
  have hfits := h.fits hlives
  have hinside : some r = if p.isInside then some v.route else none := hr.symm.trans hfits.inside
  -- A vehicle is marked as inside from its entry to its departure, and holds its route meanwhile.
  cases p with
  | acknowledging w | crossing w | departing w =>
    obtain ⟨spec, hspec, hconcerns⟩ := h.staffed.concerns hlives.life
    have hw : w = v := (h.staffed.at_of_vehicle hlives.life rfl).unique hlives.enrolled
    cases hinside
    rw [← Site.dossier_held, hfits.held rfl, hw]
    rfl
  | _ => cases hinside

/-- A vehicle that is still to be granted or to be woken by an abort waits. -/
theorem waits_of_ungranted (h : e.Orderly specs) (hdistinct : (specs.map (·.id)).Nodup)
    (hlives : e.Lives specs i v p) (hpos : 0 < e.ungranted v.channel) :
    p.waitsOn v.channel = true ∧ e.ungranted v.channel = 1 ∧
      (e.site.dossier v.id).isGranted = false := by
  have hwaits := h.balanced.waits hdistinct h.staffed hlives.enrolled hlives.life
  have hungranted : (e.site.dossier v.id).isGranted = false := by
    by_contra hgranted
    have := h.ungranted hlives (by simpa using hgranted)
    omega
  unfold owed at hwaits
  -- There is one wake at most to come, so a debt makes up for it.
  cases hp : p.waitsOn v.channel with
  | false =>
    rw [hp] at hwaits
    simp at hwaits
    omega
  | true =>
    rw [hp] at hwaits
    simp at hwaits
    exact ⟨rfl, by omega, hungranted⟩

/-- Such a vehicle has neither cleared its route nor left. -/
theorem present_of_ungranted (h : e.Orderly specs) (hdistinct : (specs.map (·.id)).Nodup)
    (hlives : e.Lives specs i v p) (hpos : 0 < e.ungranted v.channel) :
    p.hasReleased = false ∧ (e.site.dossier v.id).hasLeft = false := by
  obtain ⟨hwaits, -, hungranted⟩ := h.waits_of_ungranted hdistinct hlives hpos
  refine ⟨Life.hasReleased_of_waitsOn hwaits, ?_⟩
  rw [Dossier.hasLeft, (h.fits hlives).trail_of_waits hwaits hungranted]
  rfl

theorem vehicle_eq (h : e.Orderly specs) (hlives : e.Lives specs i v p) (hw : p.vehicle? = some w) :
    w = v :=
  (h.staffed.at_of_vehicle hlives.life hw).unique hlives.enrolled

/-- The only violation of a vehicle is a claim without a reservation. -/
theorem violation (h : e.Orderly specs) (hlives : e.Lives specs i v p) {x' : Site} {p' : Life}
    (move : p.Move e.site x' p') {violation : Violation} (hp' : p' = Life.abortingOver violation) :
    p.IsDenied e.site ∧ ∃ s, violation = .acquireWithoutGrant s v.id := by
  have hfits := h.fits hlives
  cases move with
  | denied hunreserved =>
    obtain rfl := h.vehicle_eq hlives rfl
    cases hp'
    exact ⟨hunreserved, _, rfl⟩
  -- Sound books stay sound, so none of the checks fails.
  | @takeBadly w s rest point violation' hfree hreserved hinconsistent =>
    obtain rfl := h.vehicle_eq hlives rfl
    have hheld := (h.coherent.holder_eq s).symm.trans hfree
    exact absurd (h.sound.acquire hheld hreserved hfits.inside).consistent hinconsistent
  | @enterBadly w table violation' hfailed =>
    obtain rfl := h.vehicle_eq hlives rfl
    have hheld : ∀ s, e.site.table.ledger.held.get s = some w.id ↔ s ∈ w.route := by
      intro s
      rw [← Site.dossier_held, hfits.held rfl]
      rfl
    have hall : (w.route.segments.all fun s => e.site.table.ledger.held.get s == some w.id) =
        true := by
      simpa using fun s => (hheld s).2
    rw [SegmentTable.enter, if_pos hall] at hfailed
    have hcheck := (Prod.mk.inj hfailed).2
    exact absurd (h.sound.enter hheld).consistent (Ledger.inconsistent_of_check hcheck)
  -- A vehicle frees what it holds.
  | @vacateBadly w s rest hunheld =>
    obtain rfl := h.vehicle_eq hlives rfl
    refine absurd ?_ hunheld
    rw [h.coherent.holder_eq, ← Site.dossier_held, hfits.held rfl]
    exact List.mem_cons_self
  | clearBadly violation' hinconsistent =>
    exact absurd (h.sound.unreserve _ _).consistent hinconsistent
  | setOut | logEntry =>
    unfold Life.toClaim at hp'
    split at hp' <;> cases hp'
  | abort move =>
    have hraising := move.isRaising_eq
    cases hp'
    cases hraising
  | _ => cases hp'

/-! ### How a step looks to one vehicle -/

/-- A step is the vehicle's own, or leaves what is on record about it alone, or is a step of the
scheduler. -/
inductive View (specs : List VehicleSpec) (e e' : Scene) (i : Nat) (v : Vehicle) (p' : Life) : Prop
  | own {p : Life} (lives : e.Lives specs i v p) (move : p.Move e.site e'.site p')
      (point : e'.point = e.point)
  | bystander (lives : e.Lives specs i v p')
      (dossier : e'.site.dossier v.id = e.site.dossier v.id) (point : e'.point = e.point)
  | scheduler (lives : e.Lives specs i v p')
      (move : Scheduler.Move e.site e.point e'.site e'.point)

theorem View.lives (hview : View specs e e' i v p) : ∃ q, e.Lives specs i v q := by
  cases hview with
  | own lives | bystander lives | scheduler lives => exact ⟨_, lives⟩

/-- Lives at different places log under different numbers. -/
theorem id?_ne (h : e.Orderly specs) (hdistinct : (specs.map (·.id)).Nodup)
    (hlives : e.Lives specs i v p) (hq : e.tasks.get j = .life q) (hij : i ≠ j) :
    q.id? ≠ some v.id := by
  intro hid
  obtain ⟨spec, hspec, hconcerns⟩ := h.staffed.concerns hq
  obtain ⟨spec', hspec', hv⟩ := hlives.enrolled
  have hid' : v.id = spec'.id := (Vehicle.id_of_ofSpec? hv).1
  -- Whatever the other life logs goes under the number of its own description.
  have hspecid : spec'.id = spec.id := by
    cases q with
    | start | aborting | ended => cases hid
    | rejecting spec'' point =>
      obtain ⟨rfl, -⟩ := hconcerns
      rw [← hid']
      exact (Option.some.inj hid).symm
    | _ =>
      rw [← hid', ← (Vehicle.id_of_ofSpec? hconcerns).1]
      exact (Option.some.inj hid).symm
  exact hij (VehicleSpec.place_of_id hdistinct hspec' hspec hspecid)

/-- After a step of a life the vehicle is the one that has taken it, or a bystander. -/
theorem lives_of_life (h : e.Orderly specs) (hdistinct : (specs.map (·.id)).Nodup) {q' : Life}
    (hq : e.tasks.get j = .life q) (htasks : e'.tasks = e.tasks.set j (.life q'))
    (move : q.Move e.site e'.site q') (hlives : e'.Lives specs i v p) :
    (i = j ∧ p = q' ∧ e.Lives specs i v q) ∨
      (i ≠ j ∧ e.Lives specs i v p ∧ e'.site.dossier v.id = e.site.dossier v.id) := by
  obtain ⟨henrolled, hlife⟩ := hlives
  rw [htasks, Table.get_set] at hlife
  split at hlife
  · next hij =>
    cases hlife
    exact .inl ⟨hij, rfl, henrolled, hij ▸ hq⟩
  · next hij =>
    have hlives : e.Lives specs i v p := ⟨henrolled, hlife⟩
    exact .inr ⟨hij, hlives,
      move.dossier_ne h.coherent (h.id?_ne hdistinct hlives hq hij)⟩

/-- An abort has only bystanders. -/
theorem lives_of_abort {a' : Option Abort} (htasks : e'.tasks = e.tasks.set j (.ofAbort a'))
    (hlives : e'.Lives specs i v p) : e.Lives specs i v p := by
  obtain ⟨henrolled, hlife⟩ := hlives
  rw [htasks, Table.get_set] at hlife
  split at hlife
  · cases a' <;> cases hlife
  · exact ⟨henrolled, hlife⟩

theorem view (h : e.Orderly specs) (hdistinct : (specs.map (·.id)).Nodup) (move : e.Move e')
    (hlives : e'.Lives specs i v p) : View specs e e' i v p := by
  cases move with
  | scheduler htasks move => exact .scheduler ⟨hlives.enrolled, htasks ▸ hlives.life⟩ move
  | life j hq htasks hpoint move =>
    rcases h.lives_of_life hdistinct hq htasks move hlives with
      ⟨rfl, rfl, hlives⟩ | ⟨-, hlives, hdossier⟩
    · exact .own hlives move hpoint
    · exact .bystander hlives hdossier hpoint
  | abort j ha htasks hpoint move =>
    exact .bystander (lives_of_abort htasks hlives) (move.dossier_eq v.id) hpoint

theorem deed (h : e.Orderly specs) (move : Scheduler.Move e.site e.point e'.site e'.point) :
    Scheduler.Deed e.site e.point e'.site e'.point :=
  move.deed h.sound h.sane

/-- The vehicle that is announced takes part in the run, and its ticket is its own. -/
theorem announced (h : e.Orderly specs) {ticket : Ticket} (hpoint : e.point = .announce v ticket) :
    v.Enrolled specs ∧ ticket = ⟨v.id, v.route⟩ := by
  have hproper := h.staffed.point
  rw [hpoint] at hproper
  exact hproper

theorem ungranted_pos_of_announce {ticket : Ticket} (hpoint : e.point = .announce v ticket) :
    0 < e.ungranted v.channel := by
  unfold Scene.ungranted
  rw [hpoint]
  simp [Scheduler.Point.ungranted]

/-- What is on record about a vehicle before and after the scheduler logs its grant. -/
theorem dossier_grant (h : e.Orderly specs) (hdistinct : (specs.map (·.id)).Nodup)
    (hlives : e.Lives specs i v p) {ticket : Ticket} {pass : Nat}
    (hpoint : e.point = .announce w ticket)
    (hsite : e'.site = e.site.record ticket.vehicle (.grant ticket.route pass)) :
    (w = v ∧ e'.site.dossier v.id = { e.site.dossier v.id with
        trail := (e.site.dossier v.id).trail ++ [.grant v.route pass] }) ∨
      (w ≠ v ∧ e'.site.dossier v.id = e.site.dossier v.id) := by
  obtain ⟨⟨j, hw⟩, rfl⟩ := h.announced hpoint
  by_cases hid : v.id = w.id
  · obtain ⟨rfl, rfl⟩ := Vehicle.At.eq_of_id hdistinct hlives.enrolled hw hid
    exact .inl ⟨rfl, by rw [hsite, Site.dossier_record]⟩
  · refine .inr ⟨?_, by rw [hsite, Site.dossier_record_ne _ _ hid]⟩
    rintro rfl
    exact hid rfl

/-- A vehicle is granted its route by the step that logs the grant only. -/
theorem isGranted_cases (h : e.Orderly specs) (hdistinct : (specs.map (·.id)).Nodup)
    (hview : View specs e e' i v p) (hgranted : (e'.site.dossier v.id).isGranted = true) :
    (e.site.dossier v.id).isGranted = true ∨
      ∃ ticket, e.point = .announce v ticket ∧ e'.point = .rouse v ticket := by
  cases hview with
  | own lives move point => exact .inl (move.isGranted_eq v.id ▸ hgranted)
  | bystander lives dossier point => exact .inl (dossier ▸ hgranted)
  | scheduler lives move =>
    have hcongr : e'.site.events = e.site.events → (e.site.dossier v.id).isGranted = true := by
      intro hevents
      rwa [Dossier.isGranted, Site.dossier, hevents] at hgranted
    cases h.deed move with
    | reserves w _ _ _ _ _ _ events => exact .inl (hcongr events)
    | grants w ticket pass point point' site =>
      rcases h.dossier_grant hdistinct lives point site with ⟨rfl, -⟩ | ⟨-, heq⟩
      · exact .inr ⟨ticket, point, point'⟩
      · exact .inl (heq ▸ hgranted)
    | withdraws w ticket _ _ site => exact .inl (hcongr (by rw [site]; rfl))
    | rests _ events => exact .inl (hcongr events)

theorem isGranted_mono (h : e.Orderly specs) (hdistinct : (specs.map (·.id)).Nodup)
    (hview : View specs e e' i v p) (hgranted : (e.site.dossier v.id).isGranted = true) :
    (e'.site.dossier v.id).isGranted = true := by
  cases hview with
  | own lives move point => rwa [move.isGranted_eq]
  | bystander lives dossier point => rwa [dossier]
  | scheduler lives move =>
    have hcongr : e'.site.events = e.site.events → (e'.site.dossier v.id).isGranted = true := by
      intro hevents
      rwa [Dossier.isGranted, Site.dossier, hevents]
    cases h.deed move with
    | reserves w _ _ _ _ _ _ events => exact hcongr events
    | grants w ticket pass point point' site =>
      rcases h.dossier_grant hdistinct lives point site with ⟨-, heq⟩ | ⟨-, heq⟩
      · rw [heq]
        simp [Dossier.isGranted, Event.Kind.isGrant]
      · rwa [heq]
    | withdraws w ticket _ _ site => exact hcongr (by rw [site]; rfl)
    | rests _ events => exact hcongr events

/-! ### Steps keep the invariant -/

theorem fits_move (h : e.Orderly specs) (hdistinct : (specs.map (·.id)).Nodup)
    (hview : View specs e e' i v p) : p.Fits v (e'.site.dossier v.id) := by
  cases hview with
  | own lives move point =>
    obtain ⟨spec, hspec, hconcerns⟩ := h.staffed.concerns lives.life
    obtain ⟨spec', hspec', hv⟩ := lives.enrolled
    obtain rfl := Option.some.inj (hspec'.symm.trans hspec)
    refine move.fits hconcerns hv (h.fits lives) (fun w hw hunaborted => ?_) fun _ hp' =>
      (h.violation lives move hp').1
    -- A vehicle sets out after its grant, for the run is not aborted.
    subst hw
    obtain rfl := h.vehicle_eq lives rfl
    rcases h.woken lives (.inl rfl) with haborted | hgranted
    · rw [hunaborted] at haborted
      cases haborted
    · exact hgranted
  | bystander lives dossier point => exact dossier ▸ h.fits lives
  | scheduler lives move =>
    have hfits := h.fits lives
    cases h.deed move with
    | reserves w _ _ _ _ _ table events =>
      refine hfits.congr ?_ ?_ ?_ ?_ <;> simp [Site.dossier, table, events]
    | grants w ticket pass point point' site =>
      rcases h.dossier_grant hdistinct lives point site with ⟨rfl, heq⟩ | ⟨-, heq⟩
      · have hpos := ungranted_pos_of_announce point
        obtain ⟨hwaits, -, hungranted⟩ := h.waits_of_ungranted hdistinct lives hpos
        rw [heq]
        exact hfits.grant hwaits hungranted pass
      · rwa [heq]
    | withdraws w ticket _ _ site =>
      refine hfits.congr ?_ ?_ ?_ ?_ <;>
        simp [Site.dossier, site, Site.withTable, SegmentTable.cancel]
    | rests table events =>
      refine hfits.congr ?_ ?_ ?_ ?_ <;> simp [Site.dossier, table, events]

theorem ungranted_move (h : e.Orderly specs) (hdistinct : (specs.map (·.id)).Nodup)
    (move : e.Move e') (hview : View specs e e' i v p)
    (hgranted : (e'.site.dossier v.id).isGranted = true) : e'.ungranted v.channel = 0 := by
  obtain ⟨q, hlives⟩ := hview.lives
  rcases h.isGranted_cases hdistinct hview hgranted with hgranted | ⟨ticket, hpoint, hpoint'⟩
  · have hnone := h.ungranted hlives hgranted
    rcases move.ungranted_le v.channel with hle | ⟨j, w, hw, hchannel⟩
    · omega
    -- A vehicle that joins the queue is not granted yet.
    · have hwj := h.staffed.at_of_vehicle hw rfl
      have hid : w.id = v.id := by rw [← hwj.channel, hchannel, hlives.enrolled.channel]
      obtain ⟨rfl, rfl⟩ := Vehicle.At.eq_of_id hdistinct hwj hlives.enrolled hid
      have hlogged : (e.site.dossier w.id).trail = [w.approachKind] := (h.fits ⟨hwj, hw⟩).logged
      rw [Dossier.isGranted, hlogged] at hgranted
      cases hgranted
  · obtain ⟨-, hone, -⟩ :=
      h.waits_of_ungranted hdistinct hlives (ungranted_pos_of_announce hpoint)
    cases move with
    | scheduler htasks move =>
      cases h.deed move with
      | grants w ticket' pass point point' site =>
        unfold Scene.ungranted at hone ⊢
        rw [hpoint] at hone
        rw [htasks, hpoint', site]
        simp only [Scheduler.Point.ungranted, Vehicle.countOn_cons, Vehicle.countOn_nil,
          Site.record, if_pos] at hone ⊢
        omega
      | reserves w _ unengaged =>
        rw [hpoint] at unengaged
        cases unengaged
      | withdraws w ticket' point =>
        rw [hpoint] at point
        cases point
      | rests _ _ announces =>
        have hannounces := (announces v).1
        rw [hpoint] at hannounces
        simp [Scheduler.Point.announces] at hannounces
    | life j hq htasks hpoint'' move | abort j ha htasks hpoint'' move =>
      rw [hpoint'', hpoint] at hpoint'
      cases hpoint'

theorem woken_move (h : e.Orderly specs) (hdistinct : (specs.map (·.id)).Nodup)
    (move : e.Move e') (hview : View specs e e' i v p)
    (hwoken : p = .woken v ∨ 0 < e'.site.wakes.get v.channel) :
    e'.site.aborted = true ∨ (e'.site.dossier v.id).isGranted = true := by
  have hstill : e.site.aborted = true ∨ (e.site.dossier v.id).isGranted = true →
      e'.site.aborted = true ∨ (e'.site.dossier v.id).isGranted = true :=
    Or.imp move.aborted (h.isGranted_mono hdistinct hview)
  obtain ⟨q, hlives⟩ := hview.lives
  rcases hwoken with rfl | hpending
  · cases hview with
    | own lives move point =>
      obtain ⟨-, hpending⟩ := move.of_woken rfl
      exact hstill (h.woken lives (.inr hpending))
    | bystander lives | scheduler lives => exact hstill (h.woken lives (.inl rfl))
  · rcases move.wakes_le h.flagged v.channel with hle | haborted | ⟨w, ticket, hpoint, hchannel⟩
    · exact hstill (h.woken hlives (.inr (Nat.lt_of_lt_of_le hpending hle)))
    · exact hstill (.inl haborted)
    -- The scheduler wakes the vehicle that it has granted.
    · have hproper := h.staffed.point
      rw [hpoint] at hproper
      obtain ⟨⟨j, hw⟩, -⟩ := hproper
      have hid : w.id = v.id := by rw [← hw.channel, hchannel, hlives.enrolled.channel]
      obtain ⟨-, rfl⟩ := Vehicle.At.eq_of_id hdistinct hw hlives.enrolled hid
      exact hstill (.inr (h.client (by rw [hpoint]; rfl) (by rw [hpoint]; rfl)))

theorem client_move (h : e.Orderly specs) (hdistinct : (specs.map (·.id)).Nodup)
    (move : e.Move e') (hview : View specs e e' i v p) (hclient : e'.point.client? = some v)
    (hannounced : e'.point.announces v = false) : (e'.site.dossier v.id).isGranted = true := by
  cases move with
  | life j hq htasks hpoint move | abort j ha htasks hpoint move =>
    rw [hpoint] at hclient hannounced
    exact h.isGranted_mono hdistinct hview (h.client hclient hannounced)
  | scheduler htasks move =>
    cases h.deed move with
    | reserves w _ _ _ _ point =>
      rw [point] at hclient hannounced
      cases hclient
      simp [Scheduler.Point.announces] at hannounced
    | grants w ticket pass point point' site =>
      rw [point'] at hclient
      cases hclient
      obtain ⟨q, hlives⟩ := hview.lives
      rcases h.dossier_grant hdistinct hlives point site with ⟨-, heq⟩ | ⟨hne, -⟩
      · rw [heq]
        simp [Dossier.isGranted, Event.Kind.isGrant]
      · exact absurd rfl hne
    | withdraws w ticket point point' =>
      rw [point'] at hclient
      cases hclient
    | rests _ _ announces broken client =>
      exact h.isGranted_mono hdistinct hview (h.client (client v hclient) (announces v).1)

/-- The scheduler has just reserved the route of a vehicle. -/
structure Reserves (e e' : Scene) (v : Vehicle) : Prop where
  /-- The scheduler has not failed. -/
  unbroken : e.point.isBroken = false
  /-- No segment of the route was reserved. -/
  unreserved : e.site.table.ledger.unreserved v.route = true
  /-- The vehicle is announced. -/
  point : e'.point = .announce v ⟨v.id, v.route⟩
  /-- Its route is reserved. -/
  table : e'.site.table = { e.site.table with ledger := e.site.table.ledger.reserve v.id v.route }

/-- A grant comes into force by a reservation only. -/
theorem inForce_cases (h : e.Orderly specs) (hdistinct : (specs.map (·.id)).Nodup)
    (hview : View specs e e' i v p) (hforce : e'.InForce v p) :
    (∃ q, e.Lives specs i v q ∧ e.InForce v q) ∨ Reserves e e' v := by
  obtain ⟨hgranted, hunreleased, hpresent⟩ := hforce
  cases hview with
  | @own q lives move point =>
    refine .inl ⟨q, lives, ?_, ?_, ?_⟩
    · rwa [point, move.isGranted_eq] at hgranted
    · by_contra hreleased
      -- What was cleared before has been left by now.
      rcases move.hasReleased (by simpa using hreleased) with hp | ⟨w, rfl⟩
      · rw [hp] at hunreleased
        cases hunreleased
      · obtain ⟨pass, hlogged⟩ := (h.fits lives).logged
        have hleft : (e.site.dossier v.id).hasLeft = true := by
          simp [Dossier.hasLeft, hlogged, Vehicle.wholeTrail]
        rw [move.hasLeft hleft] at hpresent
        cases hpresent
    · by_contra hleft
      rw [move.hasLeft (by simpa using hleft)] at hpresent
      cases hpresent
  | bystander lives dossier point =>
    rw [dossier] at hgranted hpresent
    rw [point] at hgranted
    exact .inl ⟨p, lives, hgranted, hunreleased, hpresent⟩
  | scheduler lives move =>
    have hcongr : e'.site.events = e.site.events →
        e'.point.announces v = false → (∃ q, e.Lives specs i v q ∧ e.InForce v q) := by
      intro hevents hannounces
      have htrail : (e'.site.dossier v.id).trail = (e.site.dossier v.id).trail := by
        rw [Site.dossier, hevents]
        rfl
      rw [hannounces, Dossier.isGranted, htrail] at hgranted
      rw [Dossier.hasLeft, htrail] at hpresent
      exact ⟨p, lives, .inr (hgranted.resolve_left Bool.false_ne_true), hunreleased, hpresent⟩
    cases h.deed move with
    | reserves w unbroken _ _ unreserved point table events =>
      by_cases hw : w = v
      · subst hw
        exact .inr ⟨unbroken, unreserved, point, table⟩
      · exact .inl (hcongr events (by simp [point, Scheduler.Point.announces, hw]))
    | grants w ticket pass point point' site =>
      rcases h.dossier_grant hdistinct lives point site with ⟨rfl, heq⟩ | ⟨-, heq⟩
      · rw [heq] at hpresent
        refine .inl ⟨p, lives, .inl (by simp [point, Scheduler.Point.announces]), hunreleased, ?_⟩
        simpa [Dossier.hasLeft] using hpresent
      · rw [heq] at hgranted hpresent
        rw [point'] at hgranted
        exact .inl
          ⟨p, lives, .inr (hgranted.resolve_left Bool.false_ne_true), hunreleased, hpresent⟩
    | withdraws w ticket point point' site =>
      exact .inl (hcongr (by rw [site]; rfl) (by rw [point']; rfl))
    | rests _ events announces => exact .inl (hcongr events (announces v).2)

/-- A grant in force stays in force until the vehicle clears its route. -/
theorem inForce_move (h : e.Orderly specs) (hdistinct : (specs.map (·.id)).Nodup)
    (hview : View specs e e' i v p) (hlives : e.Lives specs i v q) (hforce : e.InForce v q)
    (hp : p.hasReleased = false) : e'.InForce v p := by
  obtain ⟨hgranted, hunreleased, hpresent⟩ := hforce
  cases hview with
  | @own q' lives move point =>
    cases lives.life.symm.trans hlives.life
    refine ⟨?_, hp, ?_⟩
    · rwa [point, move.isGranted_eq]
    · rwa [move.hasLeft_eq hunreleased]
  | bystander lives dossier point =>
    refine ⟨?_, hp, ?_⟩
    · rwa [point, dossier]
    · rwa [dossier]
  | scheduler lives move =>
    have hcongr : e'.site.events = e.site.events → e.point.announces v = false →
        e'.InForce v p := by
      intro hevents hannounces
      have htrail : (e'.site.dossier v.id).trail = (e.site.dossier v.id).trail := by
        rw [Site.dossier, hevents]
        rfl
      refine ⟨.inr ?_, hp, ?_⟩
      · rw [Dossier.isGranted, htrail]
        exact hgranted.resolve_left (by simp [hannounces])
      · rwa [Dossier.hasLeft, htrail]
    -- The grant may move from the announcement into the log.
    cases h.deed move with
    | reserves w _ unengaged _ _ _ _ events =>
      apply hcongr events
      cases hpoint : e.point with
      | announce =>
        rw [hpoint] at unengaged
        cases unengaged
      | _ => rfl
    | grants w ticket pass point point' site =>
      rcases h.dossier_grant hdistinct lives point site with ⟨rfl, heq⟩ | ⟨hne, heq⟩
      · refine ⟨.inr ?_, hp, ?_⟩
        · rw [heq]
          simp [Dossier.isGranted, Event.Kind.isGrant]
        · rw [heq]
          simpa [Dossier.hasLeft] using hpresent
      · refine ⟨.inr ?_, hp, ?_⟩
        · rw [heq]
          exact hgranted.resolve_left (by simp [point, Scheduler.Point.announces, hne])
        · rwa [heq]
    | withdraws w ticket point point' site =>
      exact hcongr (by rw [site]; rfl) (by rw [point]; rfl)
    | rests _ events announces => exact hcongr events (announces v).1

/-- What a reservation does to the marks of a vehicle of the run. -/
theorem dossier_reserves (hdistinct : (specs.map (·.id)).Nodup)
    (hlives : e.Lives specs i v p) (hw : w.Enrolled specs)
    (hunreserved : e.site.table.ledger.unreserved w.route = true)
    (htable : e'.site.table =
      { e.site.table with ledger := e.site.table.ledger.reserve w.id w.route })
    (hevents : e'.site.events = e.site.events) :
    (w = v ∧ (e'.site.dossier v.id).reserved =
        fun s => decide (s ∈ v.route) || (e.site.dossier v.id).reserved s) ∨
      (w ≠ v ∧ e'.site.dossier v.id = e.site.dossier v.id) := by
  have hcongr := Site.dossier_congr (x := e.site.withTable
    { e.site.table with ledger := e.site.table.ledger.reserve w.id w.route })
    (congrArg SegmentTable.ledger htable) hevents v.id
  obtain ⟨j, hw⟩ := hw
  by_cases hid : v.id = w.id
  · obtain ⟨-, rfl⟩ := Vehicle.At.eq_of_id hdistinct hlives.enrolled hw hid
    refine .inl ⟨rfl, ?_⟩
    rw [hcongr, Site.dossier_reserve]
  · refine .inr ⟨?_, ?_⟩
    · rintro rfl
      exact hid rfl
    · rw [hcongr, Site.dossier_reserve_ne hunreserved hid]

/-- The step that clears a route drops its marks, for the vehicle holds nothing any more. -/
theorem unmarked_of_clear (h : e.Orderly specs) (hlives : e.Lives specs i v (.clearing v))
    (hsite : e'.site =
      e.site.withTable { e.site.table with ledger := e.site.table.ledger.unreserve v.id v.route })
    (hroute : s ∈ v.route) : (e'.site.dossier v.id).reserved s = false := by
  rw [hsite, Site.dossier_unreserve]
  cases hmark : (e.site.dossier v.id).reserved s with
  | false => simp [hmark]
  | true =>
    have hheld : e.site.table.ledger.held.get s = none := by
      cases hholder : e.site.table.ledger.held.get s with
      | none => rfl
      | some u =>
        have hu := h.coherent.reserved_of_held s u hholder
        rw [Site.dossier_reserved.1 hmark] at hu
        cases hu
        exact (((h.fits hlives).held rfl s).1 (Site.dossier_held.2 hholder)).elim
    simp [hroute, hheld]

/-- A reservation brings the grant of its vehicle into force. -/
theorem inForce_of_reserves (h : e.Orderly specs) (hdistinct : (specs.map (·.id)).Nodup)
    (hlives : e.Lives specs i v p) {c : VehicleClass} (hc : v ∈ e.site.queue.levels.get c)
    (hpoint : e'.point = .announce v ⟨v.id, v.route⟩)
    (hevents : e'.site.events = e.site.events) : e'.InForce v p := by
  have hpos : 0 < e.ungranted v.channel := by
    have hcount := e.site.queue.countOn_pos hc
    unfold Scene.ungranted
    omega
  obtain ⟨hreleased, hleft⟩ := h.present_of_ungranted hdistinct hlives hpos
  refine ⟨.inl ?_, hreleased, ?_⟩
  · simp [hpoint, Scheduler.Point.announces]
  · rwa [Dossier.hasLeft, Site.dossier, hevents]

theorem marks_move (h : e.Orderly specs) (hdistinct : (specs.map (·.id)).Nodup)
    (hview : View specs e e' i v p) (hmark : (e'.site.dossier v.id).reserved s = true) :
    s ∈ v.route ∧ e'.InForce v p := by
  have hview' := hview
  cases hview with
  | @own q lives move point =>
    obtain ⟨hroute, hforce⟩ := h.marks lives (move.reserved_of hmark)
    refine ⟨hroute, h.inForce_move hdistinct hview' lives hforce ?_⟩
    by_contra hreleased
    obtain ⟨w, rfl, hsite⟩ := move.releases hforce.unreleased (by simpa using hreleased)
    obtain rfl := h.vehicle_eq lives rfl
    rw [h.unmarked_of_clear lives hsite hroute] at hmark
    cases hmark
  | bystander lives dossier point =>
    rw [dossier] at hmark
    obtain ⟨hroute, hforce⟩ := h.marks lives hmark
    exact ⟨hroute, h.inForce_move hdistinct hview' lives hforce hforce.unreleased⟩
  | scheduler lives move =>
    have hold : (e.site.dossier v.id).reserved s = true → s ∈ v.route ∧ e'.InForce v p := by
      intro hmark
      obtain ⟨hroute, hforce⟩ := h.marks lives hmark
      exact ⟨hroute, h.inForce_move hdistinct hview' lives hforce hforce.unreleased⟩
    cases h.deed move with
    | reserves w _ _ hasked hunreserved hpoint htable hevents =>
      obtain ⟨c, hc⟩ := hasked
      have hw := (h.staffed.queue c).2 w hc
      rcases dossier_reserves hdistinct lives hw hunreserved htable hevents with
        ⟨rfl, heq⟩ | ⟨-, heq⟩
      · rw [heq] at hmark
        rcases Bool.or_eq_true_iff.1 hmark with hroute | hmark
        · exact ⟨by simpa using hroute, h.inForce_of_reserves hdistinct lives hc hpoint hevents⟩
        · exact hold hmark
      · exact hold (heq ▸ hmark)
    | grants w ticket pass hpoint hpoint' hsite =>
      apply hold
      rcases h.dossier_grant hdistinct lives hpoint hsite with ⟨-, heq⟩ | ⟨-, heq⟩
      · rw [heq] at hmark
        exact hmark
      · exact heq ▸ hmark
    | withdraws w ticket hpoint hpoint' hsite =>
      apply hold
      rw [Site.dossier_reserved] at hmark ⊢
      simp only [hsite, Site.withTable, SegmentTable.cancel, Ledger.get_reserved_unreserve] at hmark
      split at hmark
      · cases hmark
      · exact hmark
    | rests htable hevents =>
      apply hold
      rwa [Site.dossier_congr (congrArg SegmentTable.ledger htable) hevents] at hmark

theorem reserved_move (h : e.Orderly specs) (hdistinct : (specs.map (·.id)).Nodup)
    (hview : View specs e e' i v p) (hforce : e'.InForce v p)
    (hunbroken : e'.point.isBroken = false) (hs : s ∈ v.route) :
    (e'.site.dossier v.id).reserved s = true := by
  have hold : ∀ {q}, e.Lives specs i v q → e.InForce v q → e.point.isBroken = false →
      (e.site.dossier v.id).reserved s = true :=
    fun hlives hforce hunbroken => h.reserved hlives hforce hunbroken s hs
  rcases h.inForce_cases hdistinct hview hforce with ⟨q, hlives, hforce'⟩ | hreserves
  · cases hview with
    | own lives move point =>
      cases lives.life.symm.trans hlives.life
      apply move.reserved_eq hforce.unreleased (fun _ hp => (h.violation lives move hp).1)
      exact hold lives hforce' (point ▸ hunbroken)
    | bystander lives dossier point =>
      cases lives.life.symm.trans hlives.life
      exact dossier ▸ hold lives hforce' (point ▸ hunbroken)
    | scheduler lives move =>
      cases lives.life.symm.trans hlives.life
      cases h.deed move with
      | reserves w unbroken _ hasked hunreserved _ htable hevents =>
        obtain ⟨c, hc⟩ := hasked
        have hw := (h.staffed.queue c).2 w hc
        rcases dossier_reserves hdistinct lives hw hunreserved htable hevents with
          ⟨rfl, heq⟩ | ⟨-, heq⟩
        · simp [heq, hs]
        · exact heq ▸ hold lives hforce' unbroken
      | grants w ticket pass hpoint _ hsite =>
        have hmark := hold lives hforce' (by rw [hpoint]; rfl)
        rcases h.dossier_grant hdistinct lives hpoint hsite with ⟨-, heq⟩ | ⟨-, heq⟩
        · rw [heq]
          exact hmark
        · rwa [heq]
      | withdraws w ticket _ hpoint' =>
        rw [hpoint'] at hunbroken
        cases hunbroken
      | rests htable hevents _ hbroken =>
        rw [Site.dossier_congr (congrArg SegmentTable.ledger htable) hevents]
        apply hold lives hforce'
        -- A scheduler that has failed does not come back.
        by_contra hbroken'
        rw [hbroken (by simpa using hbroken')] at hunbroken
        cases hunbroken
  · rw [Site.dossier_reserved, hreserves.table, Ledger.get_reserved_reserve, if_pos hs]

theorem disjoint_move (h : e.Orderly specs) (hdistinct : (specs.map (·.id)).Nodup)
    (hview : View specs e e' i v p) (hview' : View specs e e' j w q) (hij : i ≠ j)
    (hforce : e'.InForce v p) (hforce' : e'.InForce w q) :
    v.route.intersects w.route = false := by
  -- What is reserved already stays clear of what has just been reserved.
  have hclear : ∀ {i v p w}, e.Lives specs i v p → e.InForce v p → Reserves e e' w →
      v.route.intersects w.route = false := by
    intro i v p w hlives hforce hreserves
    apply Route.not_intersects_iff.2
    intro s hv hw
    have hmark := Site.dossier_reserved.1 (h.reserved hlives hforce hreserves.unbroken s hv)
    rw [Ledger.unreserved_iff.1 hreserves.unreserved s hw] at hmark
    cases hmark
  rcases h.inForce_cases hdistinct hview hforce with ⟨p', hlives, hforce⟩ | hreserves <;>
    rcases h.inForce_cases hdistinct hview' hforce' with ⟨q', hlives', hforce'⟩ | hreserves'
  · exact h.disjoint hlives hlives' hij hforce hforce'
  · exact hclear hlives hforce hreserves'
  · rw [Route.intersects_comm]
    exact hclear hlives' hforce' hreserves
  · obtain ⟨p', hlives⟩ := hview.lives
    obtain ⟨q', hlives'⟩ := hview'.lives
    -- The scheduler reserves one route at a time.
    cases hreserves.point.symm.trans hreserves'.point
    exact absurd (Vehicle.At.eq_of_id hdistinct hlives.enrolled hlives'.enrolled rfl).1 hij

theorem owners_move (h : e.Orderly specs) (move : e.Move e') {id : VehicleId}
    (hs : e'.site.table.ledger.reserved.get s = some id) :
    ∃ v : Vehicle, v.Enrolled specs ∧ v.id = id := by
  cases move with
  | life j hq htasks hpoint move =>
    exact h.owners (Site.dossier_reserved.1 (move.reserved_of (Site.dossier_reserved.2 hs)))
  | abort j ha htasks hpoint move => exact h.owners (move.table_eq ▸ hs)
  | scheduler htasks move =>
    cases h.deed move with
    | reserves w _ _ hasked _ _ htable =>
      simp only [htable, Ledger.get_reserved_reserve] at hs
      split at hs
      · cases hs
        obtain ⟨c, hc⟩ := hasked
        exact ⟨w, (h.staffed.queue c).2 w hc, rfl⟩
      · exact h.owners hs
    | grants w ticket pass _ _ hsite => exact h.owners (by rwa [hsite] at hs)
    | withdraws w ticket _ _ hsite =>
      simp only [hsite, Site.withTable, SegmentTable.cancel, Ledger.get_reserved_unreserve] at hs
      split at hs
      · cases hs
      · exact h.owners hs
    | rests htable => exact h.owners (htable ▸ hs)

theorem insiders_move (h : e.Orderly specs) (move : e.Move e') {id : VehicleId} {r : Route}
    (hr : e'.site.table.ledger.inside.get? id = some r) :
    ∃ v : Vehicle, v.Enrolled specs ∧ v.id = id := by
  cases move with
  | life j hq htasks hpoint move =>
    rcases move.inside_of hr with hr | ⟨v, hv, rfl⟩
    · exact h.insiders hr
    · exact ⟨v, ⟨j, h.staffed.at_of_vehicle hq hv⟩, rfl⟩
  | abort j ha htasks hpoint move => exact h.insiders (move.table_eq ▸ hr)
  | scheduler htasks move =>
    cases h.deed move with
    | reserves w _ _ _ _ _ htable => exact h.insiders (by simpa [htable] using hr)
    | grants w ticket pass _ _ hsite => exact h.insiders (by rwa [hsite] at hr)
    | withdraws w ticket _ _ hsite =>
      exact h.insiders (by simpa [hsite, Site.withTable, SegmentTable.cancel] using hr)
    | rests htable => exact h.insiders (htable ▸ hr)

theorem coherent_move (h : e.Orderly specs) (move : e.Move e') : e'.site.table.Coherent := by
  cases move with
  | scheduler htasks move => exact move.coherent h.coherent
  | life j hq htasks hpoint move => exact move.coherent h.coherent
  | abort j ha htasks hpoint move => exact move.table_eq ▸ h.coherent

theorem sane_move (h : e.Orderly specs) (move : e.Move e') : e'.point.fault? = none := by
  cases move with
  | scheduler htasks move => exact move.fault?_eq_none h.sound h.sane
  | life j hq htasks hpoint move | abort j ha htasks hpoint move => exact hpoint ▸ h.sane

/-- Every step keeps a run orderly. -/
theorem move (h : e.Orderly specs) (hdistinct : (specs.map (·.id)).Nodup) (hrun : e'.IsRun)
    (move : e.Move e') : e'.Orderly specs where
  staffed := h.staffed.move hrun move
  balanced := h.balanced.move move h.sane
  flagged := h.flagged.move move
  coherent := h.coherent_move move
  fits hlives := h.fits_move hdistinct (h.view hdistinct move hlives)
  ungranted hlives := h.ungranted_move hdistinct move (h.view hdistinct move hlives)
  woken hlives := h.woken_move hdistinct move (h.view hdistinct move hlives)
  client hclient hannounced := by
    obtain ⟨i, hv⟩ := (h.staffed.move hrun move).point.client hclient
    obtain ⟨p, hp⟩ := (h.staffed.move hrun move).life_of_at hv
    exact h.client_move hdistinct move (h.view hdistinct move ⟨hv, hp⟩) hclient hannounced
  marks hlives _ := h.marks_move hdistinct (h.view hdistinct move hlives)
  reserved hlives hforce hunbroken _ hs :=
    h.reserved_move hdistinct (h.view hdistinct move hlives) hforce hunbroken hs
  disjoint hlives hlives' :=
    h.disjoint_move hdistinct (h.view hdistinct move hlives) (h.view hdistinct move hlives')
  owners := h.owners_move move
  insiders := h.insiders_move move
  sane := h.sane_move move

theorem staged (config : Config) (total : Nat) (console : Console) (specs : List VehicleSpec)
    (faults : List Fault) :
    (Scene.staged (.start config total console) specs faults).Orderly specs := by
  have hpoint := point_staged config total console specs faults
  have hclient : ∀ v, (Scene.staged (.start config total console) specs faults).point.client? ≠
      some v := by
    intro v hv
    rcases hpoint with heq | heq <;> rw [heq] at hv <;> cases hv
  have hdossier := Site.dossier_start config total console
  have hstart : ∀ {i v p}, (Scene.staged (.start config total console) specs faults).Lives specs i
      v p → ∃ spec, p = .start spec spec.id := by
    intro i v p hlives
    have hlife := hlives.life
    rcases staged_get (.start config total console) specs faults i with
      ⟨spec, -, htask⟩ | ⟨-, ⟨f, -, htask⟩ | htask⟩
    · rw [htask] at hlife
      cases hlife
      exact ⟨spec, rfl⟩
    · rw [htask] at hlife
      cases hlife
    · rw [htask] at hlife
      cases hlife
  -- No grant is in force at the start.
  have hforce : ∀ {v p},
      ¬ (Scene.staged (.start config total console) specs faults).InForce v p := by
    intro v p hforce
    rcases hforce.granted with hannounced | hgranted
    · rcases hpoint with heq | heq <;> rw [heq] at hannounced <;> cases hannounced
    · have hnone : (Site.dossier (.start config total console) v.id).isGranted = true := hgranted
      rw [hdossier] at hnone
      cases hnone
  refine {
    staffed := .staged _ rfl specs faults
    balanced := .staged _ rfl rfl specs faults
    flagged := .staged _ rfl specs faults
    coherent := SegmentTable.coherent_empty
    fits := ?_
    ungranted := ?_
    woken := ?_
    client := fun hv => absurd hv (hclient _)
    marks := ?_
    reserved := fun hlives hinforce => absurd hinforce hforce
    disjoint := fun hlives hlives' hij hinforce => absurd hinforce hforce
    owners := ?_
    insiders := fun {id r} hr => by cases hr
    sane := ?_ }
  · intro i v p hlives
    obtain ⟨spec, rfl⟩ := hstart hlives
    change Life.Fits v (Site.dossier (.start config total console) v.id) _
    rw [hdossier]
    exact ⟨rfl, fun _ s => ⟨nofun, False.elim⟩, rfl, nofun⟩
  · intro i v p hlives hgranted
    have hnone : (Site.dossier (.start config total console) v.id).isGranted = true := hgranted
    rw [hdossier] at hnone
    cases hnone
  · intro i v p hlives hwoken
    obtain ⟨spec, rfl⟩ := hstart hlives
    rcases hwoken with hwoken | hwoken <;> cases hwoken
  · intro i v p hlives s hmark
    have hnone : (Site.dossier (.start config total console) v.id).reserved s = true := hmark
    rw [hdossier] at hnone
    cases hnone
  · intro s id hs
    cases s <;> cases hs
  · rcases hpoint with heq | heq <;> rw [heq] <;> rfl

/-- Every scene that a staged run can reach is orderly. -/
theorem reachable (config : Config) (total : Nat) (console : Console) {specs : List VehicleSpec}
    (hdistinct : (specs.map (·.id)).Nodup) (faults : List Fault)
    (h : Relation.ReflTransGen Step (Scene.staged (.start config total console) specs faults) e) :
    e.Orderly specs := by
  induction h with
  | refl => exact staged config total console specs faults
  | tail _ hstep ih =>
    obtain ⟨hmove, hrun⟩ := move_of_step ih.staffed.isRun hstep
    exact ih.move hdistinct hrun hmove

end Orderly

end Scene

end Junction
