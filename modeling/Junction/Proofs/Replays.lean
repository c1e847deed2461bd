import Junction.Proofs.Exclusion
import Junction.Replay

/-!
# The log of a run can be replayed

Events are recorded outside all locks, an exit only after the segment was freed. Yet the reservation
brackets everything that a vehicle records between its grant and its last exit, so at every moment
the log reads as if each event had happened when it was recorded.

## Main definitions

* `Replay.Reflects` — a replay shows what the trails of a log say
* `Event.Kind.CanFollow` — an event that can be replayed after a log
* `Scene.Logs` — the events that a step of a run can record
* `Event.Exclusive` — the logs in which the junction excludes vehicles from one another

## Main results

* `Replay.Reflects.step` — an event that can follow is replayed
* `Scene.Orderly.canFollow` — what an orderly run records can follow its log
* `Scene.exclusive_of_steps` — the log of a run is exclusive at every moment
-/

namespace Junction

/-! ### Replays and trails -/

/-- A trail has led into a segment and not out again. -/
def Event.Kind.IsInside (s : Segment) (trail : List Event.Kind) : Prop :=
  .enter s ∈ trail ∧ .exit s ∉ trail

/-- A replay shows what the trails of a log say. -/
structure Replay.Reflects (r : Replay) (events : List Event) : Prop where
  /-- A route is granted if the trail of the vehicle says so. -/
  granted : ∀ {v route}, r.granted.get? v = some route ↔
    ∃ pass, .grant route pass ∈ Event.trail v events
  /-- A vehicle is inside a segment if its trail says so. -/
  inside : ∀ {s v}, r.inside.get s = some v ↔ Event.Kind.IsInside s (Event.trail v events)

/-- What happens to a vehicle can be replayed after a log. -/
def Event.Kind.CanFollow (events : List Event) (v : VehicleId) : Event.Kind → Prop
  | grant .. => ∀ route pass, .grant route pass ∉ Event.trail v events
  | enter s =>
    (∃ route pass, s ∈ route ∧ .grant route pass ∈ Event.trail v events) ∧
      .exit s ∉ Event.trail v events ∧ ∀ w, ¬ IsInside s (Event.trail w events)
  | exit s => IsInside s (Event.trail v events)
  | _ => True

theorem Event.trail_append (v : VehicleId) (before after : List Event) :
    Event.trail v (before ++ after) = Event.trail v before ++ Event.trail v after := by
  simp [trail]

theorem Event.trail_cons (v : VehicleId) (ev : Event) (rest : List Event) :
    Event.trail v (ev :: rest) =
      (if ev.vehicle = v then [ev.kind] else []) ++ Event.trail v rest := by
  by_cases hv : ev.vehicle = v <;> simp [trail, hv]

@[simp] theorem Event.trail_nil (v : VehicleId) : Event.trail v [] = [] := rfl

theorem Event.mem_trail {v : VehicleId} {events : List Event} {kind : Event.Kind} :
    kind ∈ Event.trail v events ↔ ∃ ev ∈ events, ev.vehicle = v ∧ ev.kind = kind := by
  simp [trail, and_assoc]

namespace Replay

variable {r : Replay} {events : List Event} {v : VehicleId} {kind : Event.Kind}

theorem reflects_nil : Reflects {} [] := by
  refine ⟨?_, ?_⟩
  · intro v route
    simp [Event.trail, Roster.get?_empty]
  · intro s v
    cases s <;> simp [Event.Kind.IsInside, Event.trail, Trio.const, Trio.get]

/-- What does not concern grants and segments changes nothing. -/
theorem Reflects.append (h : r.Reflects events) {ev : Event}
    (hgrant : ∀ route pass, ev.kind ≠ .grant route pass) (henter : ∀ s, ev.kind ≠ .enter s)
    (hexit : ∀ s, ev.kind ≠ .exit s) : r.Reflects (events ++ [ev]) := by
  have hmem : ∀ {w kind}, kind ≠ ev.kind →
      (kind ∈ Event.trail w (events ++ [ev]) ↔ kind ∈ Event.trail w events) := by
    intro w kind hne
    rw [Event.trail_append, Event.trail_cons, List.mem_append]
    split <;> simp [hne]
  refine ⟨?_, ?_⟩
  · intro w route
    simp only [hmem (hgrant route _).symm]
    exact h.granted
  · intro s w
    rw [Event.Kind.IsInside, hmem (henter s).symm, hmem (hexit s).symm]
    exact h.inside

theorem Reflects.grant (h : r.Reflects events) {route : Route} {pass n : Nat}
    (hnone : ∀ route pass, Event.Kind.grant route pass ∉ Event.trail v events) :
    Reflects { r with granted := r.granted.insert v route }
      (events ++ [⟨n, v, .grant route pass⟩]) := by
  refine ⟨?_, ?_⟩
  · intro w route'
    simp only [Roster.get?_insert, Event.trail_append, Event.trail_cons, List.mem_append]
    by_cases hw : w = v
    · subst hw
      simp [hnone, eq_comm]
    · simp [hw, Ne.symm hw, h.granted]
  · intro s w
    rw [h.inside]
    by_cases hw : v = w <;> simp [Event.Kind.IsInside, Event.trail_append, Event.trail_cons, hw]

theorem Reflects.enter (h : r.Reflects events) {s : Segment} {n : Nat}
    (hexit : Event.Kind.exit s ∉ Event.trail v events)
    (hfree : ∀ w, ¬ Event.Kind.IsInside s (Event.trail w events)) :
    Reflects { r with inside := r.inside.set s (some v) } (events ++ [⟨n, v, .enter s⟩]) := by
  refine ⟨?_, ?_⟩
  · intro w route
    rw [h.granted]
    by_cases hw : v = w <;> simp [Event.trail_append, Event.trail_cons, hw]
  · intro s' w
    simp only [Trio.get_set]
    by_cases hs : s' = s
    · subst hs
      by_cases hw : v = w
      · subst hw
        simp [Event.Kind.IsInside, Event.trail_append, Event.trail_cons, hexit]
      · have hnot := hfree w
        simpa [Event.trail_append, Event.trail_cons, hw] using hnot
    · rw [if_neg hs, h.inside]
      by_cases hw : v = w <;>
        simp [Event.Kind.IsInside, Event.trail_append, Event.trail_cons, hw, hs]

theorem Reflects.exit (h : r.Reflects events) {s : Segment} {n : Nat}
    (hinside : Event.Kind.IsInside s (Event.trail v events)) :
    Reflects { r with inside := r.inside.set s none } (events ++ [⟨n, v, .exit s⟩]) := by
  have hv := h.inside.2 hinside
  refine ⟨?_, ?_⟩
  · intro w route
    rw [h.granted]
    by_cases hw : v = w <;> simp [Event.trail_append, Event.trail_cons, hw]
  · intro s' w
    simp only [Trio.get_set]
    by_cases hs : s' = s
    · subst hs
      by_cases hw : v = w
      · subst hw
        simp [Event.Kind.IsInside, Event.trail_append, Event.trail_cons]
      -- Nobody else is inside the segment.
      · have hnot : ¬ Event.Kind.IsInside s' (Event.trail w events) := by
          intro hw'
          have heq := (h.inside.2 hw').symm.trans hv
          exact hw (Option.some.inj heq).symm
        simpa [Event.trail_append, Event.trail_cons, hw] using hnot
    · rw [if_neg hs, h.inside]
      by_cases hw : v = w <;>
        simp [Event.Kind.IsInside, Event.trail_append, Event.trail_cons, hw, hs]

/-- An event that can follow a log is replayed after it. -/
theorem Reflects.step (h : r.Reflects events) (n : Nat) (hkind : kind.CanFollow events v) :
    ∃ r', r.step? ⟨n, v, kind⟩ = some r' ∧ r'.Reflects (events ++ [⟨n, v, kind⟩]) := by
  cases kind with
  | grant route pass =>
    have hnone : r.granted.get? v = none := by
      cases hget : r.granted.get? v with
      | none => rfl
      | some route' =>
        obtain ⟨pass', hmem⟩ := h.granted.1 hget
        exact absurd hmem (hkind route' pass')
    exact ⟨_, by simp [step?, hnone], h.grant hkind⟩
  | enter s =>
    obtain ⟨⟨route, pass, hs, hgranted⟩, hexit, hfree⟩ := hkind
    have hget : r.granted.get? v = some route := h.granted.2 ⟨pass, hgranted⟩
    have hnone : r.inside.get s = none := by
      cases hinside : r.inside.get s with
      | none => rfl
      | some w => exact absurd (h.inside.1 hinside) (hfree w)
    exact ⟨_, by simp [step?, hget, hnone, hs], h.enter hexit hfree⟩
  | exit s =>
    have hinside : r.inside.get s = some v := h.inside.2 hkind
    exact ⟨_, by simp [step?, hinside], h.exit hkind⟩
  | _ => exact ⟨r, rfl, h.append nofun nofun nofun⟩

/-- A log that can be replayed can be replayed with an event that can follow it. -/
theorem reflects_append (n : Nat) (h : ∃ r, ofEvents? events = some r ∧ r.Reflects events)
    (hkind : kind.CanFollow events v) :
    ∃ r, ofEvents? (events ++ [⟨n, v, kind⟩]) = some r ∧
      r.Reflects (events ++ [⟨n, v, kind⟩]) := by
  obtain ⟨r, hr, hreflects⟩ := h
  obtain ⟨r', hstep, hreflects'⟩ := hreflects.step n hkind
  refine ⟨r', ?_, hreflects'⟩
  rw [ofEvents?, play?_append]
  change (ofEvents? events).bind _ = _
  rw [hr]
  simp [play?, hstep]

end Replay

/-! ### Trails of lives -/

namespace Vehicle

/-- The trails that a vehicle of a run can leave. -/
inductive Trail (v : Vehicle) : List Event.Kind → Prop
  | unknown : Trail v []
  | approached : Trail v [v.approachKind]
  | entering (pass : Nat) {before rest : List Segment} (split : before ++ rest = v.route.segments) :
    Trail v (v.entryTrail pass before)
  | exiting (pass : Nat) {before rest : List Segment} (split : before ++ rest = v.route.segments) :
    Trail v (v.exitTrail pass before)
  | left (pass : Nat) : Trail v (v.wholeTrail pass)

variable {v : Vehicle} {pass : Nat} {before : List Segment} {s : Segment}

@[simp] theorem enter_mem_entryTrail : .enter s ∈ v.entryTrail pass before ↔ s ∈ before := by
  simp [entryTrail, grantTrail, approachKind]

@[simp] theorem exit_mem_entryTrail : .exit s ∈ v.entryTrail pass before ↔ False := by
  simp [entryTrail, grantTrail, approachKind]

@[simp] theorem leave_mem_entryTrail : .leave ∈ v.entryTrail pass before ↔ False := by
  simp [entryTrail, grantTrail, approachKind]

@[simp] theorem grant_mem_entryTrail {route : Route} {pass' : Nat} :
    .grant route pass' ∈ v.entryTrail pass before ↔ route = v.route ∧ pass' = pass := by
  simp [entryTrail, grantTrail, approachKind]

@[simp] theorem enter_mem_exitTrail : .enter s ∈ v.exitTrail pass before ↔ s ∈ v.route := by
  simp [exitTrail, Route.mem_segments]

@[simp] theorem exit_mem_exitTrail : .exit s ∈ v.exitTrail pass before ↔ s ∈ before := by
  simp [exitTrail]

@[simp] theorem leave_mem_exitTrail : .leave ∈ v.exitTrail pass before ↔ False := by
  simp [exitTrail]

@[simp] theorem grant_mem_exitTrail {route : Route} {pass' : Nat} :
    .grant route pass' ∈ v.exitTrail pass before ↔ route = v.route ∧ pass' = pass := by
  simp [exitTrail]

theorem Trail.route_of_grant {trail : List Event.Kind} (h : v.Trail trail) {route : Route}
    (hmem : .grant route pass ∈ trail) : route = v.route := by
  cases h with
  | unknown => cases hmem
  | approached => simp [approachKind] at hmem
  | entering pass' split => exact (grant_mem_entryTrail.1 hmem).1
  | exiting pass' split => exact (grant_mem_exitTrail.1 hmem).1
  | left pass' =>
    have hexit : .grant route pass ∈ v.exitTrail pass' v.route.segments := by
      simpa [wholeTrail] using hmem
    exact (grant_mem_exitTrail.1 hexit).1

/-- A vehicle enters segments of its route only, after it was granted the route. -/
theorem Trail.mem_of_enter {trail : List Event.Kind} (h : v.Trail trail)
    (hmem : .enter s ∈ trail) : s ∈ v.route ∧ trail.any Event.Kind.isGrant = true := by
  cases h with
  | unknown => cases hmem
  | approached => simp [approachKind] at hmem
  | entering pass split =>
    have hbefore := enter_mem_entryTrail.1 hmem
    exact ⟨Route.mem_segments.1 (split ▸ List.mem_append_left _ hbefore), rfl⟩
  | exiting pass split => exact ⟨enter_mem_exitTrail.1 hmem, rfl⟩
  | left pass =>
    refine ⟨?_, rfl⟩
    simpa [wholeTrail] using hmem

/-- Nothing is missing from the trail of a vehicle that has left. -/
theorem Trail.whole_of_leave {trail : List Event.Kind} (h : v.Trail trail)
    (hmem : .leave ∈ trail) : ∃ pass, trail = v.wholeTrail pass := by
  cases h with
  | unknown => cases hmem
  | approached => simp [approachKind] at hmem
  | entering pass split => simp at hmem
  | exiting pass split => simp at hmem
  | left pass => exact ⟨pass, rfl⟩

/-- A vehicle has exited its whole route before it leaves. -/
theorem Trail.exit_of_leave {trail : List Event.Kind} (h : v.Trail trail)
    (hmem : .leave ∈ trail) (hs : s ∈ v.route) : .exit s ∈ trail := by
  obtain ⟨pass, rfl⟩ := h.whole_of_leave hmem
  simp [wholeTrail, Route.mem_segments, hs]

end Vehicle

/-- A segment that a vehicle has still to go over is none of the earlier ones. -/
theorem Life.not_mem_of_split {v : Vehicle} {before rest : List Segment} {s : Segment}
    (h : before ++ s :: rest = v.route.segments) : s ∉ before := by
  have hnodup : (before ++ s :: rest).Nodup := h ▸ v.route.nodup_segments
  intro hs
  exact (List.nodup_append.1 hnodup).2.2 s hs s List.mem_cons_self rfl

theorem Life.Logged.trail {v : Vehicle} {trail : List Event.Kind} {p : Life}
    (h : p.Logged v trail) : v.Trail trail := by
  have hgrant : ∀ {trail}, trail = [v.approachKind] ∨ (∃ pass, trail = v.grantTrail pass) →
      v.Trail trail := by
    rintro trail (rfl | ⟨pass, rfl⟩)
    · exact .approached
    · have hnone : v.grantTrail pass = v.entryTrail pass [] := by simp [Vehicle.entryTrail]
      rw [hnone]
      exact .entering pass (List.nil_append _)
  cases p with
  | start => exact h ▸ .unknown
  | rejecting => exact h.elim
  | arriving w point =>
    cases point with
    | lock | log => exact h ▸ .unknown
    | enqueue => exact h ▸ .approached
    | count | notify => exact hgrant h
  | sleeping | woken => exact hgrant h
  | claiming | entering =>
    obtain ⟨pass, before, split, rfl⟩ := h
    exact .entering pass split
  | inside | acknowledging | crossing =>
    obtain ⟨pass, rfl⟩ := h
    exact .entering pass (List.append_nil _)
  | departing =>
    obtain ⟨pass, rfl⟩ := h
    exact .exiting pass (List.nil_append _)
  | vacating | exiting =>
    obtain ⟨pass, before, split, rfl⟩ := h
    exact .exiting pass split
  | clearing | leaving =>
    obtain ⟨pass, rfl⟩ := h
    exact .exiting pass (List.append_nil _)
  | completing =>
    obtain ⟨pass, rfl⟩ := h
    exact .left pass
  | aborting =>
    obtain ⟨pass, before, rest, split, rfl⟩ := h
    exact .entering pass split
  | ended failure =>
    cases failure with
    | some f =>
      obtain ⟨pass, before, rest, split, rfl⟩ := h
      exact .entering pass split
    | none =>
      rcases h with rfl | happroached | hgranted | ⟨pass, rfl⟩
      · exact .unknown
      · exact hgrant (.inl happroached)
      · exact hgrant (.inr hgranted)
      · exact .left pass

/-- A vehicle that has cleared its route has exited the whole route. -/
theorem Life.Logged.exit_of_hasReleased {v : Vehicle} {trail : List Event.Kind} {p : Life}
    {s : Segment} (h : p.Logged v trail) (hp : p.hasReleased = true) (hs : s ∈ v.route) :
    .exit s ∈ trail := by
  cases p with
  | leaving =>
    obtain ⟨pass, rfl⟩ := h
    simp [Route.mem_segments, hs]
  | completing =>
    obtain ⟨pass, rfl⟩ := h
    simp [Vehicle.wholeTrail, Route.mem_segments, hs]
  | _ => cases hp

/-! ### What a step records -/

/-- The events that a life can record at a point. -/
inductive Life.Logs : Life → Event.Kind → Prop
  | approach (v : Vehicle) : Logs (arriving v .log) v.approachKind
  | enter (v : Vehicle) (s : Segment) (rest : List Segment) : Logs (entering v s rest) (.enter s)
  | cross (v : Vehicle) : Logs (crossing v) .cross
  | exit (v : Vehicle) (s : Segment) (rest : List Segment) : Logs (exiting v s rest) (.exit s)
  | leave (v : Vehicle) : Logs (leaving v) .leave

theorem Life.Move.events_cases {x x' : Site} {p p' : Life} (move : p.Move x x' p') :
    x'.events = x.events ∨
      (∃ spec : VehicleSpec, x'.events = x.events ++
        [⟨x.events.length, spec.id, .reject spec.vclass spec.approach spec.turn⟩]) ∨
      ∃ v kind, p.vehicle? = some v ∧ p.Logs kind ∧
        x'.events = x.events ++ [⟨x.events.length, v.id, kind⟩] := by
  cases move with
  | logRejection spec => exact .inr (.inl ⟨spec, rfl⟩)
  | logArrival v => exact .inr (.inr ⟨v, _, rfl, .approach v, rfl⟩)
  | logEntry v s rest => exact .inr (.inr ⟨v, _, rfl, .enter v s rest, rfl⟩)
  | cross v => exact .inr (.inr ⟨v, _, rfl, .cross v, rfl⟩)
  | logExit v s rest => exact .inr (.inr ⟨v, _, rfl, .exit v s rest, rfl⟩)
  | logLeave v => exact .inr (.inr ⟨v, _, rfl, .leave v, rfl⟩)
  | abort move | abortEnd move => exact .inl move.events_eq
  | _ => exact .inl rfl

namespace Scene

/-- The events that a step of a run can record. -/
inductive Logs (specs : List VehicleSpec) (e : Scene) : VehicleId → Event.Kind → Prop
  | rejects (spec : VehicleSpec) :
    Logs specs e spec.id (.reject spec.vclass spec.approach spec.turn)
  | lives {i : Nat} {v : Vehicle} {p : Life} {kind : Event.Kind} (lives : e.Lives specs i v p)
    (logs : p.Logs kind) : Logs specs e v.id kind
  | grants {i : Nat} {v : Vehicle} {p : Life} (pass : Nat) (lives : e.Lives specs i v p)
    (point : e.point = .announce v ⟨v.id, v.route⟩) : Logs specs e v.id (.grant v.route pass)

variable {specs : List VehicleSpec} {e e' : Scene} {i j : Nat} {v w : Vehicle} {p q : Life}
variable {s : Segment} {id : VehicleId} {kind : Event.Kind}

namespace Orderly

/-- A step records one event at most. -/
theorem events_cases (h : e.Orderly specs) (move : e.Move e') :
    e'.site.events = e.site.events ∨
      ∃ id kind, e.Logs specs id kind ∧
        e'.site.events = e.site.events ++ [⟨e.site.events.length, id, kind⟩] := by
  cases move with
  | life j hq htasks hpoint move =>
    rcases move.events_cases with heq | ⟨spec, hevents⟩ | ⟨v, kind, hv, hlogs, hevents⟩
    · exact .inl heq
    · exact .inr ⟨_, _, .rejects spec, hevents⟩
    · have hlives : e.Lives specs j v _ := ⟨h.staffed.at_of_vehicle hq hv, hq⟩
      exact .inr ⟨_, _, .lives hlives hlogs, hevents⟩
  | abort j ha htasks hpoint move => exact .inl move.events_eq
  | scheduler htasks move =>
    cases h.deed move with
    | reserves w _ _ _ _ _ _ hevents => exact .inl hevents
    | grants w ticket pass hpoint _ hsite =>
      obtain ⟨hw, rfl⟩ := h.announced hpoint
      obtain ⟨j, q, hlives⟩ := h.lives_of_enrolled hw
      exact .inr ⟨_, _, .grants pass hlives hpoint, by rw [hsite]; rfl⟩
    | withdraws w ticket _ _ hsite => exact .inl (by rw [hsite]; rfl)
    | rests _ hevents => exact .inl hevents

/-- A vehicle that was granted its route and has not exited all of it has its grant in force. -/
theorem inForce_of_unexited (h : e.Orderly specs) (hlives : e.Lives specs i v p)
    (hgranted : (e.site.dossier v.id).isGranted = true) (hs : s ∈ v.route)
    (hexit : .exit s ∉ Event.trail v.id e.site.events) : e.InForce v p := by
  have hlogged := (h.fits hlives).logged
  refine ⟨.inr hgranted, ?_, ?_⟩
  · by_contra hreleased
    exact hexit (hlogged.exit_of_hasReleased (by simpa using hreleased) hs)
  · by_contra hleft
    exact hexit (hlogged.trail.exit_of_leave (by simpa [Dossier.hasLeft] using hleft) hs)

end Orderly

/-- Whatever is on record is about a vehicle of the run, or a rejection. -/
def Attributed (specs : List VehicleSpec) (e : Scene) : Prop :=
  ∀ ev ∈ e.site.events, (∃ v : Vehicle, v.Enrolled specs ∧ v.id = ev.vehicle) ∨
    ∃ vclass approach turn, ev.kind = .reject vclass approach turn

theorem Logs.attributed (h : e.Logs specs id kind) :
    (∃ v : Vehicle, v.Enrolled specs ∧ v.id = id) ∨
      ∃ vclass approach turn, kind = .reject vclass approach turn := by
  cases h with
  | rejects spec => exact .inr ⟨_, _, _, rfl⟩
  | lives hlives | grants _ hlives => exact .inl ⟨_, ⟨_, hlives.enrolled⟩, rfl⟩

theorem Attributed.exists_lives (h : e.Attributed specs) (horderly : e.Orderly specs)
    (hmem : kind ∈ Event.trail id e.site.events)
    (hkind : ∀ vclass approach turn, kind ≠ .reject vclass approach turn) :
    ∃ i v p, e.Lives specs i v p ∧ v.id = id := by
  obtain ⟨ev, hev, rfl, rfl⟩ := Event.mem_trail.1 hmem
  rcases h ev hev with ⟨v, hv, hid⟩ | ⟨vclass, approach, turn, heq⟩
  · obtain ⟨i, p, hlives⟩ := horderly.lives_of_enrolled hv
    exact ⟨i, v, p, hlives, hid⟩
  · exact absurd heq (hkind vclass approach turn)

namespace Orderly

/-- What a run records can follow its log. -/
theorem canFollow (h : e.Orderly specs) (hdistinct : (specs.map (·.id)).Nodup)
    (hattributed : e.Attributed specs) (hlogs : e.Logs specs id kind) :
    kind.CanFollow e.site.events id := by
  cases hlogs with
  | rejects spec => trivial
  | @grants i v p pass hlives hpoint =>
    have hpos := ungranted_pos_of_announce hpoint
    obtain ⟨-, -, hungranted⟩ := h.waits_of_ungranted hdistinct hlives hpos
    intro route pass' hmem
    have hgranted : (e.site.dossier v.id).isGranted = true := List.any_eq_true.2 ⟨_, hmem, rfl⟩
    rw [hungranted] at hgranted
    cases hgranted
  | @lives i v p kind hlives hlogs =>
    have hlogged := (h.fits hlives).logged
    cases hlogs with
    | enter w s rest =>
      obtain rfl := h.vehicle_eq hlives rfl
      obtain ⟨pass, before, hsplit, htrail⟩ := hlogged
      have htrail : Event.trail w.id e.site.events = w.entryTrail pass before := htrail
      obtain ⟨hroute, -⟩ := Life.mem_of_split hsplit
      have hbefore := Life.not_mem_of_split hsplit
      refine ⟨⟨w.route, pass, hroute, by simp [htrail]⟩, by simp [htrail], ?_⟩
      intro id' hinside
      -- Whoever is inside shares the segment while both grants are in force.
      obtain ⟨j, u, q, hlives', rfl⟩ := hattributed.exists_lives h hinside.1 nofun
      obtain ⟨hroute', hgranted'⟩ := (h.fits hlives').logged.trail.mem_of_enter hinside.1
      by_cases hij : i = j
      · subst hij
        obtain rfl := hlives.enrolled.unique hlives'.enrolled
        rw [htrail] at hinside
        exact hbefore (Vehicle.enter_mem_entryTrail.1 hinside.1)
      · have hgranted : (e.site.dossier w.id).isGranted = true := by
          rw [Dossier.isGranted]
          exact List.any_eq_true.2 ⟨.grant w.route pass, by simp [Site.dossier, htrail], rfl⟩
        have hforce := h.inForce_of_unexited hlives hgranted hroute (by simp [htrail])
        have hforce' := h.inForce_of_unexited hlives' hgranted' hroute' hinside.2
        have hdisjoint := h.disjoint hlives hlives' hij hforce hforce'
        exact Route.not_intersects_iff.1 hdisjoint s hroute hroute'
    | exit w s rest =>
      obtain rfl := h.vehicle_eq hlives rfl
      obtain ⟨pass, before, hsplit, htrail⟩ := hlogged
      have htrail : Event.trail w.id e.site.events = w.exitTrail pass before := htrail
      obtain ⟨hroute, -⟩ := Life.mem_of_split hsplit
      have hbefore := Life.not_mem_of_split hsplit
      rw [Event.Kind.CanFollow, Event.Kind.IsInside, htrail]
      simp [hroute, hbefore]
    | approach | cross | leave => trivial

/-- A vehicle exits a segment of the route that it was granted. -/
theorem mem_of_exit (h : e.Orderly specs) (hlogs : e.Logs specs id (.exit s)) {route : Route}
    {pass : Nat} (hmem : .grant route pass ∈ Event.trail id e.site.events) : s ∈ route := by
  cases hlogs with
  | @lives i v p kind hlives hlogs =>
    have hlogged := (h.fits hlives).logged
    obtain rfl := hlogged.trail.route_of_grant hmem
    cases hlogs with
    | exit w s rest =>
      obtain rfl := h.vehicle_eq hlives rfl
      obtain ⟨pass', before, hsplit, -⟩ := hlogged
      exact (Life.mem_of_split hsplit).1

/-- A route is granted after the vehicles with earlier grants that meet it have exited. -/
theorem exited_of_grant (h : e.Orderly specs) (hdistinct : (specs.map (·.id)).Nodup)
    (hattributed : e.Attributed specs) {route route' : Route} {pass pass' : Nat}
    {id' : VehicleId} (hlogs : e.Logs specs id' (.grant route' pass'))
    (hmem : .grant route pass ∈ Event.trail id e.site.events)
    (hmeet : route.intersects route' = true) (hs : s ∈ route) :
    .exit s ∈ Event.trail id e.site.events := by
  cases hlogs with
  | lives hlives hlogs => cases hlogs
  | @grants i v p pass hlives hpoint =>
    have hpos := ungranted_pos_of_announce hpoint
    obtain ⟨-, -, hungranted⟩ := h.waits_of_ungranted hdistinct hlives hpos
    obtain ⟨hreleased, hpresent⟩ := h.present_of_ungranted hdistinct hlives hpos
    have hforce : e.InForce v p :=
      ⟨.inl (by simp [hpoint, Scheduler.Point.announces]), hreleased, hpresent⟩
    obtain ⟨j, w, q, hlives', rfl⟩ := hattributed.exists_lives h hmem (by simp)
    obtain rfl := (h.fits hlives').logged.trail.route_of_grant hmem
    have hgranted : (e.site.dossier w.id).isGranted = true := List.any_eq_true.2 ⟨_, hmem, rfl⟩
    have hij : j ≠ i := by
      rintro rfl
      obtain rfl := hlives.enrolled.unique hlives'.enrolled
      rw [hungranted] at hgranted
      cases hgranted
    by_contra hexit
    have hforce' := h.inForce_of_unexited hlives' hgranted hs hexit
    rw [h.disjoint hlives' hlives hij hforce' hforce] at hmeet
    cases hmeet

end Orderly

end Scene

/-! ### Exclusive logs -/

/-- The log of a junction that excludes vehicles from one another. -/
structure Event.Exclusive (events : List Event) : Prop where
  /-- Each event carries its position. -/
  numbered : ∀ {i : Nat} {ev : Event}, events[i]? = some ev → ev.seq = i
  /-- No vehicle is granted two routes, each one enters free segments of its granted route only, and
  exits only what it is inside. -/
  replayed : (Replay.ofEvents? events).isSome = true
  /-- When a route is granted, each vehicle with an earlier grant that meets it has exited its whole
  route, and it exits nothing more. -/
  ordered : ∀ {before after : List Event} {n : Nat} {w : VehicleId} {route' : Route} {pass' : Nat},
    events = before ++ ⟨n, w, .grant route' pass'⟩ :: after →
    ∀ {v : VehicleId} {route : Route} {pass : Nat}, .grant route pass ∈ Event.trail v before →
      route.intersects route' = true →
      (∀ s ∈ route, .exit s ∈ Event.trail v before) ∧ ∀ s, .exit s ∉ Event.trail v after

theorem Event.exclusive_nil : Event.Exclusive [] := by
  refine ⟨nofun, rfl, ?_⟩
  intro before after n w route' pass' heq
  simp at heq

/-- An event keeps a log exclusive if it can follow the log, and if a grant comes after the exits of
the earlier ones that it meets. -/
theorem Event.Exclusive.append {events : List Event} {id : VehicleId} {kind : Event.Kind}
    (h : Event.Exclusive events)
    (hreplayed : (Replay.ofEvents? (events ++ [⟨events.length, id, kind⟩])).isSome = true)
    (hexit : ∀ {s}, kind = .exit s → .exit s ∉ Event.trail id events ∧
      ∀ {route pass}, .grant route pass ∈ Event.trail id events → s ∈ route)
    (hgrant : ∀ {route' pass'}, kind = .grant route' pass' → ∀ {v route pass},
      .grant route pass ∈ Event.trail v events → route.intersects route' = true →
        ∀ s ∈ route, .exit s ∈ Event.trail v events) :
    Event.Exclusive (events ++ [⟨events.length, id, kind⟩]) := by
  refine ⟨?_, hreplayed, ?_⟩
  · intro i ev hev
    rw [List.getElem?_append] at hev
    split at hev
    · exact h.numbered hev
    · next hle =>
      obtain ⟨hi, rfl⟩ := List.getElem?_eq_some_iff.1 hev
      simp only [List.length_singleton] at hi
      have hi : i = events.length := by omega
      simp [hi]
  · intro before after n w route' pass' heq v route pass hmem hmeet
    rcases List.eq_nil_or_concat after with rfl | ⟨after', ev, rfl⟩
    -- The last event is the grant.
    · obtain ⟨rfl, hlast⟩ := List.append_inj' heq rfl
      cases hlast
      exact ⟨hgrant rfl hmem hmeet, by simp⟩
    -- The last event comes after the grant.
    · rw [List.concat_eq_append, ← List.cons_append, ← List.append_assoc] at heq
      obtain ⟨rfl, hlast⟩ := List.append_inj' heq rfl
      cases hlast
      obtain ⟨hexited, hnone⟩ := h.ordered rfl hmem hmeet
      refine ⟨hexited, ?_⟩
      intro s hs
      rw [List.concat_eq_append, Event.trail_append, List.mem_append] at hs
      rcases hs with hs | hs
      · exact hnone s hs
      · simp only [Event.trail_cons, Event.trail_nil, List.append_nil] at hs
        split at hs
        · next hid =>
          obtain rfl : id = v := hid
          obtain rfl := List.mem_singleton.1 hs
          obtain ⟨hfresh, hroute⟩ := hexit rfl
          have hbefore : ∀ {kind}, kind ∈ Event.trail id before →
              kind ∈ Event.trail id (before ++ ⟨n, w, .grant route' pass'⟩ :: after') := by
            intro kind hkind
            rw [Event.trail_append]
            exact List.mem_append_left _ hkind
          exact hfresh (hbefore (hexited s (hroute (hbefore hmem))))
        · cases hs

namespace Scene

variable {specs : List VehicleSpec} {e e' : Scene}

/-- The invariant of the log of a run. -/
structure Recorded (specs : List VehicleSpec) (e : Scene) : Prop where
  /-- Whatever is on record is about a vehicle of the run, or a rejection. -/
  attributed : e.Attributed specs
  /-- The log can be replayed, and the replay shows what the trails say. -/
  reflected : ∃ r, Replay.ofEvents? e.site.events = some r ∧ r.Reflects e.site.events
  /-- The log is exclusive. -/
  exclusive : Event.Exclusive e.site.events

theorem Recorded.move (h : e.Recorded specs) (horderly : e.Orderly specs)
    (hdistinct : (specs.map (·.id)).Nodup) (move : e.Move e') : e'.Recorded specs := by
  rcases horderly.events_cases move with heq | ⟨id, kind, hlogs, heq⟩
  · refine ⟨?_, ?_, ?_⟩
    · unfold Attributed
      rw [heq]
      exact h.attributed
    · rw [heq]
      exact h.reflected
    · rw [heq]
      exact h.exclusive
  · have hfollows := horderly.canFollow hdistinct h.attributed hlogs
    have hreflected := Replay.reflects_append e.site.events.length h.reflected hfollows
    refine ⟨?_, ?_, ?_⟩
    · intro ev hev
      rw [heq, List.mem_append] at hev
      rcases hev with hev | hev
      · exact h.attributed ev hev
      · obtain rfl := List.mem_singleton.1 hev
        exact hlogs.attributed
    · rw [heq]
      exact hreflected
    · rw [heq]
      refine h.exclusive.append ?_ ?_ ?_
      · obtain ⟨r, hr, -⟩ := hreflected
        rw [hr]
        rfl
      · rintro s rfl
        exact ⟨hfollows.2, fun hmem => horderly.mem_of_exit hlogs hmem⟩
      · rintro route' pass' rfl v route pass hmem hmeet s hs
        exact horderly.exited_of_grant hdistinct h.attributed hlogs hmem hmeet hs

/-- The log of a run is exclusive at every moment, whatever the order of the steps and whoever
aborts the run. -/
theorem exclusive_of_steps (config : Config) (total : Nat) (console : Console)
    {specs : List VehicleSpec} (hdistinct : (specs.map (·.id)).Nodup) (faults : List Fault)
    (h : Relation.ReflTransGen Step (staged (.start config total console) specs faults) e) :
    Event.Exclusive e.site.events := by
  have hrecorded : e.Recorded specs := by
    induction h with
    | refl => exact ⟨nofun, ⟨{}, rfl, Replay.reflects_nil⟩, Event.exclusive_nil⟩
    | @tail e e' hsteps hstep ih =>
      have horderly := Orderly.reachable config total console hdistinct faults hsteps
      obtain ⟨move, -⟩ := move_of_step horderly.staffed.isRun hstep
      exact ih.move horderly hdistinct move
  exact hrecorded.exclusive

/-- Two vehicles with the same route cross one after the other, and somebody aborts the run. -/
theorem exclusive_of_two_rivals :
    Event.Exclusive
      (runWith [.task 1, .task 0, .scheduler, .task 2] 100
        (staged (.start {} 2 {}) [⟨0, 0, 0, 0⟩, ⟨1, 0, 0, 0⟩] [.noMemory])).site.events :=
  exclusive_of_steps {} 2 {} (by decide) [.noMemory] (steps_runWith _ 100 _)

end Scene

end Junction
