import Junction.Proofs.Wakes

/-!
# What is on record about a vehicle

The ledger and the log together keep a dossier on each vehicle: its marks, the segments it holds,
whether it is and was inside, and the trail of its events. The steps of one vehicle leave the
dossiers of all the others alone, and the scheduler touches the dossier of the vehicle it deals with
at most. What a life has done so far can be read off the dossier.

## Main definitions

* `Dossier`, `Site.dossier` — what ledger and log say about one vehicle
* `Life.Logged` — the trails that fit a point of a life
* `Life.Fits` — the dossiers that fit a point of a life

## Main results

* `Life.Move.dossier_ne`, `Scheduler.Move.dossier_ne` — the dossiers of bystanders do not change
* `Life.Move.fits` — a step of a life leads to a dossier that fits again
-/

namespace Junction

/-! ### Dossiers -/

/-- What ledger and log say about one vehicle. -/
structure Dossier where
  /-- The segments reserved for it. -/
  reserved : Segment → Bool
  /-- The segments it holds. -/
  held : Segment → Bool
  /-- The route with which it is inside. -/
  inside : Option Route
  /-- Whether it was ever inside. -/
  entered : Bool
  /-- What has happened to it, in the order of the log. -/
  trail : List Event.Kind

/-- The trail of a vehicle in a log. -/
def Event.trail (v : VehicleId) (events : List Event) : List Event.Kind :=
  (events.filter (·.vehicle == v)).map (·.kind)

/-- What is on record about a vehicle. -/
def Site.dossier (x : Site) (v : VehicleId) : Dossier where
  reserved s := x.table.ledger.reserved.get s == some v
  held s := x.table.ledger.held.get s == some v
  inside := x.table.ledger.inside.get? v
  entered := x.table.ledger.entered.contains v
  trail := Event.trail v x.events

namespace Site

variable {x x' : Site} {v w : VehicleId}

theorem dossier_reserved {s : Segment} :
    (x.dossier v).reserved s = true ↔ x.table.ledger.reserved.get s = some v := by
  simp [dossier]

theorem dossier_held {s : Segment} :
    (x.dossier v).held s = true ↔ x.table.ledger.held.get s = some v := by
  simp [dossier]

/-- Dossiers come from ledger and log alone. -/
theorem dossier_congr (hledger : x'.table.ledger = x.table.ledger) (hevents : x'.events = x.events)
    (v : VehicleId) : x'.dossier v = x.dossier v := by
  rw [dossier, dossier, hledger, hevents]

theorem trail_record (x : Site) (v : VehicleId) (kind : Event.Kind) :
    Event.trail v (x.record v kind).events = Event.trail v x.events ++ [kind] := by
  simp [record, Event.trail]

/-- Nothing is on record at the start. -/
theorem dossier_start (config : Config) (total : Nat) (console : Console) (id : VehicleId) :
    (Site.start config total console).dossier id =
      ⟨fun _ => false, fun _ => false, none, false, []⟩ := by
  simp only [dossier, start, Dossier.mk.injEq]
  refine ⟨?_, ?_, rfl, rfl, rfl⟩ <;>
    funext s <;> cases s <;> rfl

theorem trail_record_ne (x : Site) (kind : Event.Kind) (h : w ≠ v) :
    Event.trail w (x.record v kind).events = Event.trail w x.events := by
  simp [record, Event.trail, h.symm]

theorem dossier_record (x : Site) (v : VehicleId) (kind : Event.Kind) :
    (x.record v kind).dossier v =
      { x.dossier v with trail := (x.dossier v).trail ++ [kind] } := by
  rw [dossier, trail_record]
  rfl

theorem dossier_record_ne (x : Site) (kind : Event.Kind) (h : w ≠ v) :
    (x.record v kind).dossier w = x.dossier w := by
  rw [dossier, trail_record_ne x kind h]
  rfl

variable {s : Segment} {r : Route} (holders : Trio Segment (Option VehicleId))

theorem dossier_acquire (x : Site) (v : VehicleId) (s : Segment) :
    (x.withTable ⟨holders, x.table.ledger.acquire s v⟩).dossier v =
      { x.dossier v with held := fun s' => decide (s' = s) || (x.dossier v).held s' } := by
  simp only [dossier, withTable, Ledger.get_held_acquire, Dossier.mk.injEq, Ledger.reserved_acquire,
    Ledger.inside_acquire, Ledger.entered_acquire, and_true, true_and]
  funext s'
  by_cases hs : s' = s <;> simp [hs]

theorem dossier_acquire_ne (hfree : x.table.ledger.held.get s = none) (h : w ≠ v) :
    (x.withTable ⟨holders, x.table.ledger.acquire s v⟩).dossier w = x.dossier w := by
  simp only [dossier, withTable, Ledger.get_held_acquire, Dossier.mk.injEq, Ledger.reserved_acquire,
    Ledger.inside_acquire, Ledger.entered_acquire, and_true, true_and]
  funext s'
  by_cases hs : s' = s
  · simp [hs, hfree, h.symm]
  · simp [hs]

theorem dossier_enter (x : Site) (v : VehicleId) (r : Route) :
    (x.withTable { x.table with ledger := x.table.ledger.enter v r }).dossier v =
      { x.dossier v with inside := some r, entered := true } := by
  simp [dossier, withTable, Ledger.get?_inside_enter, Ledger.contains_entered_enter]

theorem dossier_enter_ne (h : w ≠ v) :
    (x.withTable { x.table with ledger := x.table.ledger.enter v r }).dossier w = x.dossier w := by
  simp [dossier, withTable, Ledger.get?_inside_enter, Ledger.contains_entered_enter, h]

theorem dossier_depart (x : Site) (v : VehicleId) :
    (x.withTable (x.table.depart v)).dossier v = { x.dossier v with inside := none } := by
  simp [dossier, withTable, SegmentTable.depart, Ledger.get?_inside_leave]

theorem dossier_depart_ne (h : w ≠ v) :
    (x.withTable (x.table.depart v)).dossier w = x.dossier w := by
  simp [dossier, withTable, SegmentTable.depart, Ledger.get?_inside_leave, h]

theorem dossier_free (x : Site) (v : VehicleId) (s : Segment) :
    (x.withTable ⟨holders, x.table.ledger.free s⟩).dossier v =
      { x.dossier v with held := fun s' => !decide (s' = s) && (x.dossier v).held s' } := by
  simp only [dossier, withTable, Ledger.get_held_free, Dossier.mk.injEq, Ledger.reserved_free,
    Ledger.inside_free, Ledger.entered_free, and_true, true_and]
  funext s'
  by_cases hs : s' = s <;> simp [hs]

theorem dossier_free_ne (hheld : x.table.ledger.held.get s = some v) (h : w ≠ v) :
    (x.withTable ⟨holders, x.table.ledger.free s⟩).dossier w = x.dossier w := by
  simp only [dossier, withTable, Ledger.get_held_free, Dossier.mk.injEq, Ledger.reserved_free,
    Ledger.inside_free, Ledger.entered_free, and_true, true_and]
  funext s'
  by_cases hs : s' = s
  · simp [hs, hheld, h.symm]
  · simp [hs]

theorem dossier_unreserve (x : Site) (v : VehicleId) (r : Route) :
    (x.withTable { x.table with ledger := x.table.ledger.unreserve v r }).dossier v =
      { x.dossier v with
        reserved := fun s =>
          (x.dossier v).reserved s &&
            !(decide (s ∈ r) && (x.table.ledger.held.get s).isNone) } := by
  simp only [dossier, withTable, Ledger.get_reserved_unreserve, Dossier.mk.injEq,
    Ledger.held_unreserve, Ledger.inside_unreserve, Ledger.entered_unreserve, and_true]
  funext s
  by_cases hreserved : x.table.ledger.reserved.get s = some v
  · by_cases hs : s ∈ r <;> cases x.table.ledger.held.get s <;> simp [hs, hreserved]
  · simp [hreserved]

theorem dossier_unreserve_ne (h : w ≠ v) :
    (x.withTable { x.table with ledger := x.table.ledger.unreserve v r }).dossier w =
      x.dossier w := by
  simp only [dossier, withTable, Ledger.get_reserved_unreserve, Dossier.mk.injEq,
    Ledger.held_unreserve, Ledger.inside_unreserve, Ledger.entered_unreserve, and_true]
  funext s
  split
  · next hs => simp [hs.2.1, h.symm]
  · rfl

theorem dossier_reserve (x : Site) (v : VehicleId) (r : Route) :
    (x.withTable { x.table with ledger := x.table.ledger.reserve v r }).dossier v =
      { x.dossier v with reserved := fun s => decide (s ∈ r) || (x.dossier v).reserved s } := by
  simp only [dossier, withTable, Ledger.get_reserved_reserve, Dossier.mk.injEq, Ledger.held_reserve,
    Ledger.inside_reserve, Ledger.entered_reserve, and_true]
  funext s
  by_cases hs : s ∈ r <;> simp [hs]

theorem dossier_reserve_ne (hfree : x.table.ledger.unreserved r = true) (h : w ≠ v) :
    (x.withTable { x.table with ledger := x.table.ledger.reserve v r }).dossier w =
      x.dossier w := by
  simp only [dossier, withTable, Ledger.get_reserved_reserve, Dossier.mk.injEq, Ledger.held_reserve,
    Ledger.inside_reserve, Ledger.entered_reserve, and_true]
  funext s
  by_cases hs : s ∈ r
  · simp [hs, Ledger.unreserved_iff.1 hfree s hs, h.symm]
  · simp [hs]

end Site

/-! ### Bystanders -/

theorem Abort.Move.table_eq {x x' : Site} {a : Abort} {a' : Option Abort} (move : a.Move x x' a') :
    x'.table = x.table := by
  cases move with
  | raise f =>
    unfold Site.raise
    split <;> rfl
  | _ => rfl

theorem Abort.Move.events_eq {x x' : Site} {a : Abort} {a' : Option Abort}
    (move : a.Move x x' a') : x'.events = x.events := by
  cases move with
  | raise f =>
    unfold Site.raise
    split <;> rfl
  | _ => rfl

theorem Abort.Move.dossier_eq {x x' : Site} {a : Abort} {a' : Option Abort}
    (move : a.Move x x' a') (v : VehicleId) : x'.dossier v = x.dossier v :=
  Site.dossier_congr (by rw [move.table_eq]) move.events_eq v

/-- The number under which a life logs its events. -/
def Life.id? : Life → Option VehicleId
  | rejecting spec _ => some spec.id
  | p => p.vehicle?.map (·.id)

/-- The steps of a life leave the dossiers of the other vehicles alone. -/
theorem Life.Move.dossier_ne {x x' : Site} {p p' : Life} (hcoherent : x.table.Coherent)
    (move : p.Move x x' p') {w : VehicleId} (hw : p.id? ≠ some w) :
    x'.dossier w = x.dossier w := by
  have hne : ∀ {v : VehicleId}, p.id? = some v → w ≠ v := by
    rintro v hv rfl
    exact hw hv
  cases move with
  | logRejection | logArrival | logEntry | cross | logExit | logLeave =>
    exact Site.dossier_record_ne _ _ (hne rfl)
  | take hfree | takeBadly _ hfree =>
    exact Site.dossier_acquire_ne _ ((hcoherent.holder_eq _).symm.trans hfree) (hne rfl)
  | enter => exact Site.dossier_enter_ne (hne rfl)
  | @enterBadly v table violation hfailed =>
    rcases x.table.enter_fst v.id v.route with htable | htable
    · rw [hfailed] at htable
      subst htable
      rfl
    · rw [hfailed] at htable
      subst htable
      exact Site.dossier_enter_ne (hne rfl)
  | depart => exact Site.dossier_depart_ne (hne rfl)
  | vacate hheld =>
    exact Site.dossier_free_ne _ ((hcoherent.holder_eq _).symm.trans hheld) (hne rfl)
  | clear | clearBadly => exact Site.dossier_unreserve_ne (hne rfl)
  | abort move | abortEnd move => exact move.dossier_eq w
  | _ => rfl

/-- The vehicle that the scheduler deals with. -/
def Scheduler.Point.client? : Point → Option Vehicle
  | announce v _ | rouse v _ | await v .. | giveUp v .. | withdraw v _ | acknowledged v _
  | verify v _ => some v
  | _ => none

/-! ### Trails -/

namespace Vehicle

variable (v : Vehicle)

/-- The event with which a vehicle joins the queue. -/
def approachKind : Event.Kind := .approach v.vclass v.approach v.turn

/-- The trail of a vehicle that was granted its route. -/
def grantTrail (pass : Nat) : List Event.Kind := [v.approachKind, .grant v.route pass]

/-- The trail of a vehicle that has entered some segments. -/
def entryTrail (pass : Nat) (entered : List Segment) : List Event.Kind :=
  v.grantTrail pass ++ entered.map .enter

/-- The trail of a vehicle that has crossed and exited some segments. -/
def exitTrail (pass : Nat) (exited : List Segment) : List Event.Kind :=
  v.entryTrail pass v.route.segments ++ .cross :: exited.map .exit

/-- The trail of a vehicle that has left. -/
def wholeTrail (pass : Nat) : List Event.Kind := v.exitTrail pass v.route.segments ++ [.leave]

end Vehicle

namespace Event.Kind

/-- Whether something happened to a vehicle that was granted its route by it. -/
def isGrant : Kind → Bool
  | grant .. => true
  | _ => false

end Event.Kind

namespace Dossier

variable (d : Dossier)

/-- Whether a vehicle was granted its route. -/
def isGranted : Bool := d.trail.any Event.Kind.isGrant

/-- Whether a vehicle has left. -/
def hasLeft : Bool := d.trail.contains .leave

end Dossier

namespace Life

/-- The trails that fit a point in the life of a vehicle. -/
def Logged (v : Vehicle) (trail : List Event.Kind) : Life → Prop
  | start .. | arriving _ .lock | arriving _ .log => trail = []
  | rejecting .. => False
  | arriving _ .enqueue => trail = [v.approachKind]
  | arriving _ .count | arriving _ .notify | sleeping _ | woken _ =>
    trail = [v.approachKind] ∨ ∃ pass, trail = v.grantTrail pass
  | claiming _ s rest _ | entering _ s rest =>
    ∃ pass before, before ++ s :: rest = v.route.segments ∧ trail = v.entryTrail pass before
  | inside _ | acknowledging _ | crossing _ =>
    ∃ pass, trail = v.entryTrail pass v.route.segments
  | departing _ => ∃ pass, trail = v.exitTrail pass []
  | vacating _ todo =>
    ∃ pass before, before ++ todo = v.route.segments ∧ trail = v.exitTrail pass before
  | exiting _ s rest =>
    ∃ pass before, before ++ s :: rest = v.route.segments ∧ trail = v.exitTrail pass before
  | clearing _ | leaving _ => ∃ pass, trail = v.exitTrail pass v.route.segments
  | completing .. => ∃ pass, trail = v.wholeTrail pass
  -- Only the way in can fail.
  | aborting .. | ended (some _) =>
    ∃ pass before rest, before ++ rest = v.route.segments ∧ trail = v.entryTrail pass before
  | ended none =>
    trail = [] ∨ trail = [v.approachKind] ∨ (∃ pass, trail = v.grantTrail pass) ∨
      ∃ pass, trail = v.wholeTrail pass

/-- The segments that a vehicle holds at a point of its life. -/
def Has (s : Segment) : Life → Prop
  | claiming v s' rest _ => s ∈ v.route ∧ s ∉ s' :: rest
  | entering v _ rest => s ∈ v.route ∧ s ∉ rest
  | inside v | acknowledging v | crossing v | departing v => s ∈ v.route
  | vacating _ todo => s ∈ todo
  | exiting _ _ rest => s ∈ rest
  | _ => False

/-- Whether a life was cut short by a violation. -/
def hasFailed : Life → Bool
  | aborting .. | ended (some _) => true
  | _ => false

/-- Whether a vehicle is marked as inside. -/
def isInside : Life → Bool
  | acknowledging _ | crossing _ | departing _ => true
  | _ => false

/-- Whether a vehicle has been marked as inside. -/
def hasEntered : Life → Bool
  | acknowledging _ | crossing _ | departing _ | vacating .. | exiting .. | clearing _ | leaving _
  | completing .. => true
  | _ => false

/-- The books and the log fit a point in the life of a vehicle. -/
structure Fits (v : Vehicle) (d : Dossier) (p : Life) : Prop where
  /-- The log shows what has happened so far. -/
  logged : p.Logged v d.trail
  /-- The vehicle holds what it should. -/
  held : p.hasFailed = false → ∀ s, d.held s = true ↔ p.Has s
  /-- The vehicle is inside if it should be. -/
  inside : d.inside = if p.isInside then some v.route else none
  /-- A vehicle on its way out was inside. -/
  entered : p.hasEntered = true → d.entered = true

/-- Marks are no matter of the life itself. -/
theorem Fits.congr {v : Vehicle} {d d' : Dossier} {p : Life} (h : p.Fits v d)
    (htrail : d'.trail = d.trail) (hheld : d'.held = d.held) (hinside : d'.inside = d.inside)
    (hentered : d'.entered = d.entered) : p.Fits v d' := by
  refine ⟨?_, ?_, ?_, ?_⟩
  · rw [htrail]
    exact h.logged
  · rw [hheld]
    exact h.held
  · rw [hinside]
    exact h.inside
  · rw [hentered]
    exact h.entered

/-- A vehicle that waits for its grant has joined the queue, and nothing more. -/
theorem Fits.trail_of_waits {v : Vehicle} {d : Dossier} {p : Life} {channel : Nat} (h : p.Fits v d)
    (hwaits : p.waitsOn channel = true) (hungranted : d.isGranted = false) :
    d.trail = [v.approachKind] := by
  have htrail : d.trail = [v.approachKind] ∨ (∃ pass, d.trail = v.grantTrail pass) →
      d.trail = [v.approachKind] := by
    rintro (happroach | ⟨pass, hgrant⟩)
    · exact happroach
    · rw [Dossier.isGranted, hgrant] at hungranted
      cases hungranted
  have hlogged := h.logged
  unfold waitsOn at hwaits
  split at hwaits
  · exact htrail hlogged
  · exact htrail hlogged
  · exact htrail hlogged
  · cases hwaits

/-- A vehicle that waits is ready for its grant. -/
theorem Fits.grant {v : Vehicle} {d : Dossier} {p : Life} {channel : Nat} (h : p.Fits v d)
    (hwaits : p.waitsOn channel = true) (hungranted : d.isGranted = false) (pass : Nat) :
    p.Fits v { d with trail := d.trail ++ [.grant v.route pass] } := by
  refine ⟨?_, h.held, h.inside, h.entered⟩
  have htrail : d.trail ++ [.grant v.route pass] = v.grantTrail pass := by
    rw [h.trail_of_waits hwaits hungranted]
    rfl
  unfold waitsOn at hwaits
  split at hwaits
  · exact .inr ⟨pass, htrail⟩
  · exact .inr ⟨pass, htrail⟩
  · exact .inr ⟨pass, htrail⟩
  · cases hwaits

/-- A claim finds that the segment is not reserved for the vehicle. -/
def IsDenied (x : Site) : Life → Prop
  | claiming v s _ _ => x.table.ledger.reserved.get s ≠ some v.id
  | _ => False

theorem isInside_toClaim (v : Vehicle) (segments : List Segment) :
    (toClaim v segments).isInside = false := by
  cases segments <;> rfl

theorem hasEntered_toClaim (v : Vehicle) (segments : List Segment) :
    (toClaim v segments).hasEntered = false := by
  cases segments <;> rfl

theorem has_toClaim {v : Vehicle} {segments : List Segment} {s : Segment} :
    (toClaim v segments).Has s ↔ s ∈ v.route ∧ s ∉ segments := by
  cases segments with
  | nil => simp [toClaim, Has]
  | cons s' rest => rfl

theorem logged_toClaim {v : Vehicle} {before rest : List Segment} {pass : Nat}
    (h : before ++ rest = v.route.segments) :
    (toClaim v rest).Logged v (v.entryTrail pass before) := by
  cases rest with
  | nil =>
    rw [List.append_nil] at h
    exact ⟨pass, by rw [h]⟩
  | cons s rest => exact ⟨pass, before, h, rfl⟩

/-- A segment that a vehicle has still to go over is on its route, and none of the later ones. -/
theorem mem_of_split {v : Vehicle} {before rest : List Segment} {s : Segment}
    (h : before ++ s :: rest = v.route.segments) : s ∈ v.route ∧ s ∉ rest := by
  refine ⟨Route.mem_segments.1 (h ▸ by simp), ?_⟩
  have hnodup : (before ++ s :: rest).Nodup := h ▸ v.route.nodup_segments
  exact (List.nodup_cons.1 (List.nodup_append.1 hnodup).2.1).1

theorem append_split {before rest segments : List Segment} {s : Segment}
    (h : before ++ s :: rest = segments) : (before ++ [s]) ++ rest = segments := by
  rw [← h, List.append_assoc]
  rfl

/-! ### A route, segment by segment -/

section Way

variable {v : Vehicle} {d : Dossier} {s : Segment} {rest : List Segment}

/-- A granted vehicle that sets out has entered nothing and holds nothing. -/
theorem Fits.setOut (h : (woken v).Fits v d) (hgranted : d.isGranted = true) :
    (toClaim v v.route.segments).Fits v d := by
  refine ⟨?_, ?_, ?_, ?_⟩
  · rcases h.logged with happroach | ⟨pass, hgrant⟩
    · simp [Dossier.isGranted, happroach, Vehicle.approachKind, Event.Kind.isGrant] at hgranted
    · have hsplit : [] ++ v.route.segments = v.route.segments := rfl
      rw [hgrant, ← List.append_nil (v.grantTrail pass)]
      exact logged_toClaim hsplit
  · intro _ s
    rw [h.held rfl, has_toClaim, Route.mem_segments]
    exact ⟨False.elim, fun hs => hs.2 hs.1⟩
  · rw [isInside_toClaim]
    exact h.inside
  · rw [hasEntered_toClaim]
    exact nofun

/-- A vehicle that takes a segment holds it besides. -/
theorem Fits.take {point : Claim} (h : (claiming v s rest point).Fits v d) :
    (entering v s rest).Fits v { d with held := fun s' => decide (s' = s) || d.held s' } := by
  obtain ⟨pass, before, hsplit, htrail⟩ := h.logged
  obtain ⟨hroute, hrest⟩ := mem_of_split hsplit
  refine ⟨⟨pass, before, hsplit, htrail⟩, ?_, h.inside, nofun⟩
  intro _ s'
  rw [Bool.or_eq_true, decide_eq_true_iff, h.held rfl]
  by_cases hs : s' = s
  · subst hs
    simp [Has, hroute, hrest]
  · simp [Has, hs]

/-- The entry into a segment is logged before the next one is claimed. -/
theorem Fits.logEntry (h : (entering v s rest).Fits v d) :
    (toClaim v rest).Fits v { d with trail := d.trail ++ [.enter s] } := by
  obtain ⟨pass, before, hsplit, htrail⟩ := h.logged
  refine ⟨?_, ?_, ?_, ?_⟩
  · have hentry : v.entryTrail pass before ++ [.enter s] = v.entryTrail pass (before ++ [s]) := by
      simp [Vehicle.entryTrail]
    dsimp only
    rw [htrail, hentry]
    exact logged_toClaim (append_split hsplit)
  · intro _ s'
    rw [has_toClaim]
    exact h.held rfl s'
  · rw [isInside_toClaim]
    exact h.inside
  · rw [hasEntered_toClaim]
    exact nofun

/-- A vehicle that departs still holds its whole route. -/
theorem Fits.depart (h : (departing v).Fits v d) :
    (vacating v v.route.segments).Fits v { d with inside := none } := by
  obtain ⟨pass, htrail⟩ := h.logged
  refine ⟨⟨pass, [], rfl, htrail⟩, ?_, rfl, h.entered⟩
  intro _ s
  rw [Has, Route.mem_segments]
  exact h.held rfl s

/-- A vehicle that frees a segment holds the later ones. -/
theorem Fits.vacate (h : (vacating v (s :: rest)).Fits v d) :
    (exiting v s rest).Fits v { d with held := fun s' => !decide (s' = s) && d.held s' } := by
  obtain ⟨pass, before, hsplit, htrail⟩ := h.logged
  obtain ⟨-, hrest⟩ := mem_of_split hsplit
  refine ⟨⟨pass, before, hsplit, htrail⟩, ?_, h.inside, h.entered⟩
  intro _ s'
  rw [Bool.and_eq_true, Bool.not_eq_true', decide_eq_false_iff_not, h.held rfl]
  by_cases hs : s' = s
  · subst hs
    simp [Has, hrest]
  · simp [Has, hs]

/-- The exit from a segment is logged after the segment was freed. -/
theorem Fits.logExit (h : (exiting v s rest).Fits v d) :
    (vacating v rest).Fits v { d with trail := d.trail ++ [.exit s] } := by
  obtain ⟨pass, before, hsplit, htrail⟩ := h.logged
  refine ⟨⟨pass, before ++ [s], append_split hsplit, ?_⟩, h.held, h.inside, h.entered⟩
  dsimp only
  rw [htrail]
  simp [Vehicle.exitTrail]

/-- A vehicle with nothing left to free has exited its whole route. -/
theorem Fits.vacated (h : (vacating v []).Fits v d) : (clearing v).Fits v d := by
  obtain ⟨pass, before, hsplit, htrail⟩ := h.logged
  rw [List.append_nil] at hsplit
  refine ⟨⟨pass, by rw [htrail, hsplit]⟩, ?_, h.inside, h.entered⟩
  intro _ s
  simpa [Has] using h.held rfl s

end Way

/-- Books and log fit again after a step, unless it is a violation other than a denied claim. -/
theorem Move.fits {x x' : Site} {p p' : Life} {spec : VehicleSpec} {v : Vehicle}
    (hconcerns : p.Concerns spec) (hspec : Vehicle.ofSpec? spec spec.id = some v)
    (h : p.Fits v (x.dossier v.id))
    (hwoken : ∀ w, p = woken w → x.aborted = false → (x.dossier v.id).isGranted = true)
    (move : p.Move x x' p') (hviolation : ∀ violation, p' = abortingOver violation → p.IsDenied x) :
    p'.Fits v (x'.dossier v.id) := by
  have hvehicle : ∀ {w}, p.vehicle? = some w → w = v := by
    intro w hw
    exact Option.some.inj ((hconcerns.vehicle hw).symm.trans hspec)
  cases move with
  | recognize | lock | countArrival | notifyArrival | awake | look | queueUp =>
    exact ⟨h.logged, h.held, h.inside, h.entered⟩
  -- A vehicle with a known description is not rejected.
  | refuse console unknown =>
    obtain ⟨rfl, rfl⟩ := hconcerns
    rw [unknown] at hspec
    cases hspec
  | logRejection | countRejection | countRejected | notifyRejection => exact h.logged.elim
  | turnAway => exact ⟨.inl h.logged, h.held, h.inside, h.entered⟩
  | logArrival w =>
    obtain rfl := hvehicle rfl
    rw [Site.dossier_record]
    refine ⟨?_, h.held, h.inside, h.entered⟩
    have hlogged : (x.dossier w.id).trail = [] := h.logged
    simp [Logged, hlogged, Vehicle.approachKind]
  | enqueue => exact ⟨.inl h.logged, h.held, h.inside, h.entered⟩
  | turnBack =>
    refine ⟨?_, h.held, h.inside, h.entered⟩
    rcases h.logged with happroach | hgrant
    · exact .inr (.inl happroach)
    · exact .inr (.inr (.inl hgrant))
  | setOut w hunaborted =>
    obtain rfl := hvehicle rfl
    exact h.setOut (hwoken w rfl hunaborted)
  | denied =>
    obtain ⟨pass, before, hsplit, htrail⟩ := h.logged
    obtain rfl := hvehicle rfl
    exact ⟨⟨pass, before, _, hsplit, htrail⟩, nofun, h.inside, nofun⟩
  | take =>
    obtain rfl := hvehicle rfl
    rw [Site.dossier_acquire]
    exact h.take
  -- Of the violations only a denied claim is allowed for.
  | takeBadly violation _ hreserved => exact absurd hreserved (hviolation _ rfl)
  | enterBadly | vacateBadly | clearBadly => exact (hviolation _ rfl).elim
  | logEntry =>
    obtain rfl := hvehicle rfl
    rw [Site.dossier_record]
    exact h.logEntry
  | enter =>
    obtain rfl := hvehicle rfl
    rw [Site.dossier_enter]
    exact ⟨h.logged, h.held, rfl, fun _ => rfl⟩
  | acknowledge => exact ⟨h.logged, h.held, h.inside, h.entered⟩
  | cross w =>
    obtain rfl := hvehicle rfl
    obtain ⟨pass, htrail⟩ := h.logged
    rw [Site.dossier_record]
    refine ⟨⟨pass, ?_⟩, h.held, h.inside, h.entered⟩
    dsimp only
    rw [htrail]
    rfl
  | depart =>
    obtain rfl := hvehicle rfl
    rw [Site.dossier_depart]
    exact h.depart
  | vacate =>
    obtain rfl := hvehicle rfl
    rw [Site.dossier_free]
    exact h.vacate
  | logExit =>
    obtain rfl := hvehicle rfl
    rw [Site.dossier_record]
    exact h.logExit
  | vacated =>
    obtain rfl := hvehicle rfl
    exact h.vacated
  | clear w =>
    obtain rfl := hvehicle rfl
    rw [Site.dossier_unreserve]
    exact ⟨h.logged, h.held, h.inside, h.entered⟩
  | logLeave w =>
    obtain rfl := hvehicle rfl
    obtain ⟨pass, htrail⟩ := h.logged
    rw [Site.dossier_record]
    refine ⟨⟨pass, ?_⟩, h.held, h.inside, h.entered⟩
    dsimp only
    rw [htrail]
    rfl
  | countCompletion => exact ⟨h.logged, h.held, h.inside, h.entered⟩
  | notifyCompletion => exact ⟨.inr (.inr (.inr h.logged)), h.held, h.inside, nofun⟩
  | abort move | abortEnd move =>
    rw [move.dossier_eq]
    exact ⟨h.logged, nofun, h.inside, nofun⟩

end Life

end Junction
