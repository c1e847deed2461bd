import Junction.Proofs.Releases

/-!
# Operations that do not get in each other's way

Every operation of the table ends with a check of the whole ledger, so in principle what one vehicle
does could change what another vehicle is answered. It does not, as long as the two work on
different segments and neither leaves the books inconsistent: what an operation does and answers
depends only on its own segments and on its own vehicle, and only these it changes.

An operation is therefore described by a change, which says what becomes of a segment and of the
vehicle's entries, whatever the rest of the table looks like. Changes for different vehicles on
disjoint routes commute.

## Main definitions

* `TableOperation`, `TableOperation.perform` — an operation that does not wait, and its outcome
* `SegmentTable.LooksAlike` — two tables in which a vehicle sees the same along a route
* `SegmentTable.Change`, `SegmentTable.Makes` — what an operation does to its segments and its
  vehicle

## Main results

* `SegmentTable.Makes.comm` — changes for different vehicles on disjoint routes commute
* `TableOperation.isLocalAt_perform` — an operation does the same on all tables that look alike to
  its vehicle
* `TableOperation.perform_comm` — operations of different vehicles on disjoint routes commute
-/

universe u u'

namespace Junction

/-! ### Operations -/

/-- An operation of the table that does not wait, for a vehicle. -/
inductive TableOperation (σ : Type u) where
  /-- Reserves a route. -/
  | reserve (r : Route)
  /-- Takes a segment if it is free. -/
  | tryAcquire (s : Segment)
  /-- Marks the vehicle as inside. -/
  | enter (r : Route)
  /-- Asks whether the vehicle has ever been inside. -/
  | hasEntered
  /-- Drops the reservations of a route. -/
  | cancel (r : Route)
  /-- Releases a route, with a callback that does not touch the table. -/
  | release (r : Route) (f : Segment → SegmentTable → σ → σ) (a : σ)

namespace TableOperation

variable {σ : Type u}

/-- What an operation answers if it does not fail. -/
inductive Reply where
  /-- A ticket, if there is one. -/
  | ticket (ticket : Option Ticket)
  /-- Yes or no. -/
  | answer (yes : Bool)
  /-- Nothing. -/
  | done
deriving DecidableEq, Repr

/-- The segments that an operation is about. -/
def route : TableOperation σ → Route
  | reserve r | enter r | cancel r | release r _ _ => r
  | tryAcquire s => .single s
  | hasEntered => .empty

/-- The table after an operation of a vehicle, and what the vehicle is answered. -/
def perform (t : SegmentTable) (v : VehicleId) :
    TableOperation σ → SegmentTable × Except Violation Reply
  | reserve r => ((t.reserve v r).1, (t.reserve v r).2.map .ticket)
  | tryAcquire s => ((t.tryAcquire s v).1, (t.tryAcquire s v).2.map .answer)
  | enter r => ((t.enter v r).1, (t.enter v r).2.map fun () => .done)
  | hasEntered => (t, .ok (.answer (t.hasEntered v)))
  | cancel r => (t.cancel ⟨v, r⟩, .ok .done)
  | release r f a =>
    let outcome := SegmentTable.release (SegmentTable.inert f) r v (t, a)
    (outcome.1.1, outcome.2.map fun () => .done)

theorem coherent_perform {t : SegmentTable} (h : t.Coherent) (v : VehicleId)
    (op : TableOperation σ) : (op.perform t v).1.Coherent := by
  cases op with
  | reserve r => exact h.reserve v r
  | tryAcquire s => exact h.tryAcquire s v
  | enter r => exact h.enter v r
  | hasEntered => exact h
  | cancel r => exact h.cancel ⟨v, r⟩
  | release r f a =>
    have hinert : ∀ s t a, SegmentTable.Coherent t → (SegmentTable.inert f s (t, a)).1.Coherent :=
      fun _ _ _ h => h
    have hstate : (t, a).1.Coherent := h
    exact SegmentTable.Coherent.release hinert r v hstate

end TableOperation

/-! ### Changes -/

theorem Route.mem_single {s s' : Segment} : s' ∈ single s ↔ s' = s := by
  cases s <;> cases s' <;> decide

namespace SegmentTable

variable {t t' t₁ t₂ : SegmentTable} {v w : VehicleId} {r r' : Route} {s : Segment}

/-- What the table says of one segment. -/
structure Cell where
  /-- The holder in the slot. -/
  holder : Option VehicleId
  /-- The holder in the books. -/
  held : Option VehicleId
  /-- The vehicle for which the segment is reserved. -/
  reserved : Option VehicleId
  /-- How often it was acquired. -/
  acquires : Nat
  /-- How often it was released. -/
  releases : Nat

/-- A segment without its reservation for a vehicle, unless it is held. -/
def Cell.withdrawn (v : VehicleId) (c : Cell) : Cell :=
  if c.reserved = some v ∧ c.held = none then { c with reserved := none } else c

/-- A segment taken by a vehicle. -/
def Cell.taken (v : VehicleId) (c : Cell) : Cell :=
  { c with holder := some v, held := some v, acquires := c.acquires + 1 }

/-- A segment freed by its holder. -/
def Cell.freed (c : Cell) : Cell :=
  { c with holder := none, held := none, releases := c.releases + 1 }

/-- What a table says of a segment. -/
def cell (t : SegmentTable) (s : Segment) : Cell :=
  ⟨t.holders.get s, t.ledger.held.get s, t.ledger.reserved.get s, t.ledger.acquires.get s,
    t.ledger.releases.get s⟩

theorem ext_cell (hcell : ∀ s, t.cell s = t'.cell s)
    (hinside : ∀ v, t.ledger.inside.get? v = t'.ledger.inside.get? v)
    (hentered : ∀ v, t.ledger.entered.get? v = t'.ledger.entered.get? v) : t = t' := by
  have hholders : t.holders = t'.holders :=
    Trio.ext_get fun s => congrArg Cell.holder (hcell s)
  have hheld : t.ledger.held = t'.ledger.held := Trio.ext_get fun s => congrArg Cell.held (hcell s)
  have hreserved : t.ledger.reserved = t'.ledger.reserved :=
    Trio.ext_get fun s => congrArg Cell.reserved (hcell s)
  have hacquires : t.ledger.acquires = t'.ledger.acquires :=
    Trio.ext_get fun s => congrArg Cell.acquires (hcell s)
  have hreleases : t.ledger.releases = t'.ledger.releases :=
    Trio.ext_get fun s => congrArg Cell.releases (hcell s)
  have hinside := Roster.ext_get? hinside
  have hentered := Roster.ext_get? hentered
  obtain ⟨holders, ⟨reserved, held, acquires, releases, inside, entered⟩⟩ := t
  obtain ⟨holders', ⟨reserved', held', acquires', releases', inside', entered'⟩⟩ := t'
  simp_all

theorem cell_cancel (t : SegmentTable) (v : VehicleId) (r : Route) (s : Segment) :
    (t.cancel ⟨v, r⟩).cell s = if s ∈ r then (t.cell s).withdrawn v else t.cell s := by
  simp only [cell, cancel, Ledger.get_reserved_unreserve, Ledger.held_unreserve,
    Ledger.acquires_unreserve, Ledger.releases_unreserve]
  by_cases hs : s ∈ r
  · by_cases hmine : t.ledger.reserved.get s = some v ∧ t.ledger.held.get s = none
    · rw [if_pos ⟨hs, hmine⟩, if_pos hs, Cell.withdrawn, if_pos hmine]
    · rw [if_neg fun h => hmine h.2, if_pos hs, Cell.withdrawn, if_neg hmine]
  · rw [if_neg fun h => hs h.1, if_neg hs]

/-- A vehicle sees the same along a route, of itself, and of where it holds segments. -/
structure LooksAlike (v : VehicleId) (r : Route) (t t' : SegmentTable) : Prop where
  /-- The segments of the route look the same. -/
  cell : ∀ s ∈ r, t'.cell s = t.cell s
  /-- The vehicle is inside with the same route or outside. -/
  inside : t'.ledger.inside.get? v = t.ledger.inside.get? v
  /-- It has been inside or not. -/
  entered : t'.ledger.entered.get? v = t.ledger.entered.get? v
  /-- It holds the same segments. -/
  held : ∀ s, t'.ledger.held.get s = some v ↔ t.ledger.held.get s = some v

theorem LooksAlike.refl (v : VehicleId) (r : Route) (t : SegmentTable) : LooksAlike v r t t :=
  ⟨fun _ _ => rfl, rfl, rfl, fun _ => Iff.rfl⟩

theorem LooksAlike.holder_eq (h : LooksAlike v r t t') (hs : s ∈ r) :
    t'.holders.get s = t.holders.get s :=
  congrArg Cell.holder (h.cell s hs)

theorem LooksAlike.reserved_eq (h : LooksAlike v r t t') (hs : s ∈ r) :
    t'.ledger.reserved.get s = t.ledger.reserved.get s :=
  congrArg Cell.reserved (h.cell s hs)

/-- What becomes of the segments of a route and of the entries of a vehicle. -/
structure Change where
  /-- What becomes of a segment. -/
  cell : Segment → Cell → Cell := fun _ c => c
  /-- What becomes of the vehicle inside. -/
  inside : Option Route → Option Route := id
  /-- What becomes of the note that it has been inside. -/
  entered : Option Unit → Option Unit := id

/-- A table undergoes a change along a route and for a vehicle, and nothing else changes. -/
structure Makes (g : Change) (v : VehicleId) (r : Route) (t t' : SegmentTable) : Prop where
  /-- The segments of the route are changed. -/
  cell : ∀ s, t'.cell s = if s ∈ r then g.cell s (t.cell s) else t.cell s
  /-- The vehicle's route inside is changed. -/
  inside : ∀ w, t'.ledger.inside.get? w =
    if w = v then g.inside (t.ledger.inside.get? w) else t.ledger.inside.get? w
  /-- The note on the vehicle is changed. -/
  entered : ∀ w, t'.ledger.entered.get? w =
    if w = v then g.entered (t.ledger.entered.get? w) else t.ledger.entered.get? w
  /-- No other vehicle gains or loses a segment. -/
  held : ∀ w, w ≠ v → ∀ s, t'.ledger.held.get s = some w ↔ t.ledger.held.get s = some w

theorem makes_nothing (v : VehicleId) (r : Route) (t : SegmentTable) : Makes {} v r t t :=
  ⟨fun _ => (ite_self _).symm, fun _ => (ite_self _).symm, fun _ => (ite_self _).symm,
    fun _ _ _ => Iff.rfl⟩

/-- Taking a free segment. -/
theorem makes_acquire (hfree : t.ledger.held.get s = none) :
    Makes { cell := fun _ => Cell.taken v } v (.single s) t
      ⟨t.holders.set s (some v), t.ledger.acquire s v⟩ := by
  refine ⟨?_, fun _ => (ite_self _).symm, fun _ => (ite_self _).symm, ?_⟩
  · intro s'
    by_cases hs : s' = s
    · simp [cell, Cell.taken, Ledger.get_held_acquire, Ledger.get_acquires_acquire,
        Route.mem_single, hs]
    · simp [cell, Ledger.get_held_acquire, Ledger.get_acquires_acquire, Route.mem_single, hs,
        Trio.get_set]
  · intro w hw s'
    by_cases hs : s' = s
    · simp [Ledger.get_held_acquire, hs, hfree, Ne.symm hw]
    · simp [Ledger.get_held_acquire, hs]

/-- A vehicle leaves, some segments are freed, and the marks of a route change. -/
def Change.vacating (segments : List Segment) (mark : Option VehicleId → Option VehicleId) :
    Change where
  cell s c := { if s ∈ segments then c.freed else c with reserved := mark c.reserved }
  inside _ := none

/-- Freeing segments of a route that the vehicle holds. -/
theorem Vacates.makes {segments : List Segment} {mark : Option VehicleId → Option VehicleId}
    (h : Vacates v segments t t') (hroute : ∀ s ∈ segments, s ∈ r)
    (hheld : ∀ s ∈ segments, t.ledger.held.get s = some v)
    (hmark : ∀ s, t'.ledger.reserved.get s =
      if s ∈ r then mark (t.ledger.reserved.get s) else t.ledger.reserved.get s) :
    Makes (.vacating segments mark) v r t t' := by
  refine ⟨?_, h.inside, ?_, ?_⟩
  · intro s
    by_cases hs : s ∈ segments
    · simp [cell, Change.vacating, Cell.freed, h.holders, h.held, h.releases, h.acquires, hmark, hs,
        hroute s hs]
    · by_cases hr : s ∈ r <;>
        simp [cell, Change.vacating, h.holders, h.held, h.releases, h.acquires, hmark, hs, hr]
  · intro w
    rw [h.entered]
    exact (ite_self _).symm
  · intro w hw s
    rw [h.held]
    by_cases hs : s ∈ segments
    · simp [hs, hheld s hs, Ne.symm hw]
    · simp [hs]

/-- A vehicle does not notice what another one does elsewhere. -/
theorem Makes.looksAlike {g : Change} (h : Makes g v r t t') (hvw : v ≠ w)
    (hdisjoint : r.intersects r' = false) : LooksAlike w r' t t' := by
  have hwv : w ≠ v := Ne.symm hvw
  refine ⟨?_, ?_, ?_, h.held w hwv⟩
  · intro s hs
    have hs' : s ∉ r := fun hr => Route.not_intersects_iff.1 hdisjoint s hr hs
    rw [h.cell, if_neg hs']
  · rw [h.inside, if_neg hwv]
  · rw [h.entered, if_neg hwv]

/-- Changes for different vehicles on disjoint routes commute. -/
theorem Makes.comm {g g' : Change} {t₁₂ t₂₁ : SegmentTable} (hvw : v ≠ w)
    (hdisjoint : r.intersects r' = false) (h₁ : Makes g v r t t₁) (h₁₂ : Makes g' w r' t₁ t₁₂)
    (h₂ : Makes g' w r' t t₂) (h₂₁ : Makes g v r t₂ t₂₁) : t₁₂ = t₂₁ := by
  apply ext_cell
  · intro s
    rw [h₁₂.cell, h₁.cell, h₂₁.cell, h₂.cell]
    by_cases hs : s ∈ r
    · have hs' := Route.not_intersects_iff.1 hdisjoint s hs
      simp [hs, hs']
    · simp [hs]
  · intro u
    rw [h₁₂.inside, h₁.inside, h₂₁.inside, h₂.inside]
    by_cases hu : u = v
    · simp [hu, hvw]
    · simp [hu]
  · intro u
    rw [h₁₂.entered, h₁.entered, h₂₁.entered, h₂.entered]
    by_cases hu : u = v
    · simp [hu, hvw]
    · simp [hu]

end SegmentTable

namespace TableOperation

open SegmentTable

variable {σ : Type u} {t : SegmentTable} {v w : VehicleId} {r : Route} {s : Segment}

/-! ### What an operation does -/

/-- An operation does the same, and answers the same, on all sound tables that look alike to its
vehicle; and it leaves them sound. While tables stay sound the check of the whole ledger passes, so
that nothing elsewhere in the books can change an answer. -/
def IsLocalAt (op : TableOperation σ) (v : VehicleId) (t : SegmentTable) : Prop :=
  ∃ g answer, ∀ t', t'.Coherent → t'.ledger.Sound → LooksAlike v op.route t t' →
    Makes g v op.route t' (op.perform t' v).1 ∧ (op.perform t' v).2 = answer ∧
      (op.perform t' v).1.ledger.Sound

theorem isLocalAt_reserve (t : SegmentTable) (v : VehicleId) (r : Route) :
    (reserve r : TableOperation σ).IsLocalAt v t := by
  by_cases hfree : ∀ s ∈ r, t.ledger.reserved.get s = none
  · refine ⟨{ cell := fun _ c => { c with reserved := some v } }, .ok (.ticket (some ⟨v, r⟩)), ?_⟩
    intro t' hcoherent hsound halike
    have hfree' : ∀ s ∈ r, t'.ledger.reserved.get s = none := fun s hs =>
      (halike.reserved_eq hs).trans (hfree s hs)
    have hafter := hsound.reserve (Ledger.unreserved_iff.2 hfree') v
    rw [perform, reserve_of_unreserved hsound hfree']
    refine ⟨⟨?_, fun _ => (ite_self _).symm, fun _ => (ite_self _).symm, fun _ _ _ => Iff.rfl⟩, rfl,
      hafter⟩
    intro s
    by_cases hs : s ∈ r <;> simp [SegmentTable.cell, Ledger.get_reserved_reserve, route, hs]
  · refine ⟨{}, .ok (.ticket none), ?_⟩
    intro t' _ hsound halike
    have hreserved : ∃ s ∈ r, t'.ledger.reserved.get s ≠ none := by
      simp only [Classical.not_forall] at hfree
      obtain ⟨s, hs, hmark⟩ := hfree
      exact ⟨s, hs, fun h => hmark ((halike.reserved_eq hs).symm.trans h)⟩
    rw [perform, reserve_of_reserved hreserved]
    exact ⟨makes_nothing v r t', rfl, hsound⟩

theorem isLocalAt_hasEntered (t : SegmentTable) (v : VehicleId) :
    (hasEntered : TableOperation σ).IsLocalAt v t := by
  refine ⟨{}, .ok (.answer (t.hasEntered v)), ?_⟩
  intro t' _ hsound halike
  refine ⟨makes_nothing v .empty t', ?_, hsound⟩
  rw [perform, SegmentTable.hasEntered, SegmentTable.hasEntered, Roster.contains, Roster.contains,
    halike.entered]

theorem isLocalAt_cancel (t : SegmentTable) (v : VehicleId) (r : Route) :
    (cancel r : TableOperation σ).IsLocalAt v t := by
  refine ⟨{ cell := fun _ => Cell.withdrawn v }, .ok .done, ?_⟩
  intro t' _ hsound _
  refine ⟨⟨t'.cell_cancel v r, ?_, ?_, ?_⟩, rfl, hsound.unreserve v r⟩
  · exact fun w => by simp [perform, SegmentTable.cancel]
  · exact fun w => by simp [perform, SegmentTable.cancel]
  · exact fun w _ s => by simp [perform, SegmentTable.cancel]

/-- A vehicle that takes a segment from sound books without complaint is not inside. -/
theorem outside_of_acquire (hcoherent : t.Coherent) (hsound : t.ledger.Sound)
    (hfree : t.holders.get s = none) (hreserved : t.ledger.reserved.get s = some v)
    (hok : ∀ w, (t.ledger.acquire s v).check ≠ .error (.incompleteEntry w)) :
    t.ledger.inside.get? v = none := by
  have hafter := hcoherent.acquire hfree hreserved
  have hconsistent := Ledger.consistent_of_check hafter.reserved_of_held hok
  have hroutes := (Ledger.consistent_iff hafter.reserved_of_held).1 hconsistent
  cases hinside : t.ledger.inside.get? v with
  | none => rfl
  | some r =>
    -- Its route would contain the segment now, and so before, when it did not hold the segment.
    have hs : s ∈ r := (hroutes v r hinside s).1 (by simp [Ledger.get_held_acquire])
    have hheld := (hsound.inside hinside s).2 hs
    rw [← hcoherent.holder_eq, hfree] at hheld
    cases hheld

theorem isLocalAt_tryAcquire (hcoherent : t.Coherent) (hsound : t.ledger.Sound) (s : Segment)
    (hok : ∀ w, ((tryAcquire s : TableOperation σ).perform t v).2 ≠ .error (.incompleteEntry w)) :
    (tryAcquire s : TableOperation σ).IsLocalAt v t := by
  have hs : s ∈ (tryAcquire s : TableOperation σ).route := Route.mem_single.2 rfl
  by_cases hreserved : t.ledger.reserved.get s = some v
  · by_cases hfree : t.holders.get s = none
    · have houtside : t.ledger.inside.get? v = none := by
        refine outside_of_acquire hcoherent hsound hfree hreserved fun w hcheck => hok w ?_
        rw [perform, tryAcquire_of_free hreserved hfree, hcheck]
        rfl
      refine ⟨{ cell := fun _ => Cell.taken v }, .ok (.answer true), ?_⟩
      intro t' hcoherent' hsound' halike
      have hreserved' := (halike.reserved_eq hs).trans hreserved
      have hfree' := (halike.holder_eq hs).trans hfree
      have hheld' := (hcoherent'.holder_eq s).symm.trans hfree'
      have hafter := hsound'.acquire hheld' hreserved' (halike.inside.trans houtside)
      rw [perform, tryAcquire_of_free hreserved' hfree', Ledger.check_eq_ok_iff.2 hafter.consistent]
      exact ⟨makes_acquire hheld', rfl, hafter⟩
    · refine ⟨{}, .ok (.answer false), ?_⟩
      intro t' _ hsound' halike
      rw [perform, tryAcquire_of_held ((halike.reserved_eq hs).trans hreserved)
        (halike.holder_eq hs ▸ hfree)]
      exact ⟨makes_nothing v _ t', rfl, hsound'⟩
  · refine ⟨{}, .error (.acquireWithoutGrant s v), ?_⟩
    intro t' _ hsound' halike
    rw [perform, tryAcquire_of_unreserved (halike.reserved_eq hs ▸ hreserved)]
    exact ⟨makes_nothing v _ t', rfl, hsound'⟩

theorem isLocalAt_enter (hcoherent : t.Coherent) (hsound : t.ledger.Sound) (r : Route)
    (hok : ∀ w, ((enter r : TableOperation σ).perform t v).2 ≠ .error (.incompleteEntry w)) :
    (enter r : TableOperation σ).IsLocalAt v t := by
  have henter : (t.enter v r).2 = .ok () := by
    by_cases hheld : ∀ s ∈ r, t.ledger.held.get s = some v
    · rw [perform, enter_of_held hheld] at hok
      rw [enter_of_held hheld]
      exact Ledger.check_eq_ok_iff.2 (Ledger.consistent_of_check
        (l := t.ledger.enter v r) hcoherent.reserved_of_held
        fun w hcheck => hok w (congrArg (Except.map fun _ => Reply.done) hcheck))
    · refine absurd ?_ (hok v)
      rw [perform, enter_of_lacking hheld]
      rfl
  have hheld := (hcoherent.enter_eq_ok_iff (hcoherent.sound_iff.1 hsound)).1 henter
  refine ⟨{ inside := fun _ => some r, entered := fun _ => some () }, .ok .done, ?_⟩
  intro t' hcoherent' hsound' halike
  have hheld' : ∀ s, t'.ledger.held.get s = some v ↔ s ∈ r := fun s =>
    (halike.held s).trans (hheld s)
  have hafter := hsound'.enter hheld'
  rw [perform, enter_of_held fun s => (hheld' s).2, Ledger.check_eq_ok_iff.2 hafter.consistent]
  refine ⟨⟨fun _ => (ite_self _).symm, fun w => t'.ledger.get?_inside_enter v w r, ?_,
    fun _ _ _ => Iff.rfl⟩, rfl, hafter⟩
  exact fun w => Roster.get?_insert t'.ledger.entered v w ()

theorem isLocalAt_release (t : SegmentTable) (v : VehicleId) (r : Route)
    (f : Segment → SegmentTable → σ → σ) (a : σ) : (release r f a).IsLocalAt v t := by
  -- How far a release gets is seen along its route, so it gets as far on every such table.
  rcases t.held_or_split v r with hheld | ⟨before, s, after, hsplit, hbefore, hs⟩
  · refine ⟨.vacating r.segments fun _ => none, .ok .done, ?_⟩
    intro t' hcoherent hsound halike
    have hheld' : ∀ s ∈ r, t'.holders.get s = some v := fun s hs =>
      (halike.holder_eq hs).trans (hheld s hs)
    have hbooks : ∀ s ∈ r, t'.ledger.held.get s = some v := fun s hs =>
      (hcoherent.holder_eq s).symm.trans (hheld' s hs)
    have hreserved : ∀ s ∈ r, t'.ledger.reserved.get s = some v := fun s hs =>
      hcoherent.reserved_of_held s v (hbooks s hs)
    obtain ⟨hafter, hok⟩ := sound_release_of_held (f := f) (a := a) hcoherent hsound hheld'
    refine ⟨?_, congrArg (Except.map fun _ => Reply.done) hok, hafter⟩
    rw [perform, release_of_held hheld']
    refine ((vacates_vacated t' v r.nodup_segments).unreserve r).makes ?_ ?_ ?_
    · exact fun s => Route.mem_segments.1
    · exact fun s hs => hbooks s (Route.mem_segments.1 hs)
    · exact get_reserved_unreserve_vacated (t := t'.depart v) hreserved
  · have hroute : ∀ s' ∈ before ++ s :: after, s' ∈ r := fun s' hs' =>
      Route.mem_segments.1 (hsplit ▸ hs')
    have hnodup : before.Nodup := (List.nodup_append.1 (hsplit ▸ r.nodup_segments)).1
    refine ⟨.vacating before id, .error (.releaseNotHeld s v), ?_⟩
    intro t' hcoherent hsound halike
    have hbefore' : ∀ s' ∈ before, t'.holders.get s' = some v := fun s' hs' =>
      (halike.holder_eq (hroute s' (List.mem_append_left _ hs'))).trans (hbefore s' hs')
    have hbooks : ∀ s' ∈ before, t'.ledger.held.get s' = some v := fun s' hs' =>
      (hcoherent.holder_eq s').symm.trans (hbefore' s' hs')
    have hs' : t'.holders.get s ≠ some v :=
      halike.holder_eq (hroute s (List.mem_append_right _ List.mem_cons_self)) ▸ hs
    rw [perform, release_of_split hsplit hbefore' hs']
    refine ⟨?_, rfl, sound_vacated (hsound.leave v) hnodup hbooks (t'.outside_depart v)⟩
    refine (vacates_vacated t' v hnodup).makes ?_ hbooks ?_
    · exact fun s' hs' => hroute s' (List.mem_append_left _ hs')
    · intro s'
      rw [reserved_vacated]
      exact (ite_self _).symm

/-- An operation that does not leave the books with an incomplete entry is local. -/
theorem isLocalAt_perform (hcoherent : t.Coherent) (hsound : t.ledger.Sound)
    (op : TableOperation σ) (hok : ∀ w, (op.perform t v).2 ≠ .error (.incompleteEntry w)) :
    op.IsLocalAt v t := by
  cases op with
  | reserve r => exact isLocalAt_reserve t v r
  | tryAcquire s => exact isLocalAt_tryAcquire hcoherent hsound s hok
  | enter r => exact isLocalAt_enter hcoherent hsound r hok
  | hasEntered => exact isLocalAt_hasEntered t v
  | cancel r => exact isLocalAt_cancel t v r
  | release r f a => exact isLocalAt_release t v r f a

/-! ### Operations of two vehicles -/

/-- Operations of different vehicles on disjoint routes commute, unless one of them alone leads to a
complaint about an incomplete entry: in either order each is answered as if it were alone, and the
table is the same in the end. -/
theorem perform_comm {σ' : Type u'} (h : t.Reachable) (hconsistent : t.ledger.Consistent)
    (hvw : v ≠ w) (op : TableOperation σ) (op' : TableOperation σ')
    (hdisjoint : op.route.intersects op'.route = false)
    (hop : ∀ u, (op.perform t v).2 ≠ .error (.incompleteEntry u))
    (hop' : ∀ u, (op'.perform t w).2 ≠ .error (.incompleteEntry u)) :
    (op'.perform (op.perform t v).1 w).2 = (op'.perform t w).2 ∧
      (op.perform (op'.perform t w).1 v).2 = (op.perform t v).2 ∧
      (op'.perform (op.perform t v).1 w).1 = (op.perform (op'.perform t w).1 v).1 := by
  have hcoherent := h.coherent
  have hsound := hcoherent.sound_iff.2 hconsistent
  have hdisjoint' : op'.route.intersects op.route = false :=
    (Route.intersects_comm _ _).trans hdisjoint
  obtain ⟨g, answer, hlocal⟩ := isLocalAt_perform hcoherent hsound op hop
  obtain ⟨g', answer', hlocal'⟩ := isLocalAt_perform hcoherent hsound op' hop'
  obtain ⟨hmakes, hanswer, hsound₁⟩ := hlocal t hcoherent hsound (.refl v op.route t)
  obtain ⟨hmakes', hanswer', hsound₂⟩ := hlocal' t hcoherent hsound (.refl w op'.route t)
  -- Neither vehicle notices that the other one came first.
  obtain ⟨hsecond, hsecondAnswer, -⟩ := hlocal' (op.perform t v).1 (coherent_perform hcoherent v op)
    hsound₁ (hmakes.looksAlike hvw hdisjoint)
  obtain ⟨hfirst, hfirstAnswer, -⟩ := hlocal (op'.perform t w).1 (coherent_perform hcoherent w op')
    hsound₂ (hmakes'.looksAlike (Ne.symm hvw) hdisjoint')
  exact ⟨hsecondAnswer.trans hanswer'.symm, hfirstAnswer.trans hanswer.symm,
    hmakes.comm hvw hdisjoint hsecond hmakes' hfirst⟩

/-- A vehicle goes in with one segment. -/
def goIn (s : Segment) : TableOperation Unit := .enter (.single s)

/-- A vehicle comes out of one segment and notes it. -/
def comeOut (s : Segment) : TableOperation (List Segment) :=
  .release (.single s) (fun s _ exits => exits ++ [s]) []

/-- One vehicle comes out and another one goes in, in whatever order. -/
theorem comeOut_comm_goIn :
    ((goIn .bc).perform ((comeOut .ab).perform halfway 0).1 1).2 = .ok .done ∧
      ((comeOut .ab).perform ((goIn .bc).perform halfway 1).1 0).2 = .ok .done ∧
      ((goIn .bc).perform ((comeOut .ab).perform halfway 0).1 1).1 =
        ((comeOut .ab).perform ((goIn .bc).perform halfway 1).1 0).1 :=
  perform_comm reachable_halfway (by decide) (by decide) (comeOut .ab) (goIn .bc) (by decide)
    (fun _ => nofun) (fun _ => nofun)

end TableOperation

end Junction
