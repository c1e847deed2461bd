import Junction.Procedure.Claim
import Junction.Proofs.Entries

/-!
# The slots and the books agree

The holder of a segment is written down twice, in its slot and in the ledger, and the ledger also
counts who took and who freed a segment. A table is coherent if the two holders agree, if every
holder has its reservation, and if the counters tell whether the segment is held. Nobody has to use
the table as it is meant to be used for that: every section that an operation runs under the locks
keeps a table coherent, whatever the vehicle and the route, and whether the operation succeeds or
fails half-way.

A desk takes calls of the operations of the table. A call runs in sections, and between two of them
other calls may be made and may run. A callback of a release is the time between two sections of the
release, so calls made from inside a callback need no rule of their own; and a blocked acquisition
is a call that has no next section until somebody frees its segment.

## Main definitions

* `SegmentTable.Coherent` — the two holders agree, holders have reservations, the counters balance
* `TableCall`, `TableCall.step` — a call of an operation of the table, and its next section
* `TableCall.Leads` — what the next section may make of the table
* `Desk`, `Desk.after` — the calls that are being served, and the desk after some actions

## Main results

* `SegmentTable.Coherent.take`, `SegmentTable.Coherent.vacate`, … — each section keeps a table
  coherent
* `TableCall.step_reaches` — a section of a call is one of these sections
* `SegmentTable.coherent_of_calls` — so does every sequence of calls, nested and blocked ones
  included, and every release with a callback
-/

universe u

namespace Junction

namespace SegmentTable

variable {t : SegmentTable}

/-- The slots and the books agree with each other. -/
structure Coherent (t : SegmentTable) : Prop where
  /-- The slot of a segment and the ledger name the same holder. -/
  holder_eq : ∀ s, t.holders.get s = t.ledger.held.get s
  /-- A held segment is reserved for its holder. -/
  reserved_of_held : ∀ s v, t.ledger.held.get s = some v → t.ledger.reserved.get s = some v
  /-- A segment was acquired once more than released while it is held, and as often otherwise. -/
  balance : ∀ s, t.ledger.acquires.get s =
    t.ledger.releases.get s + if (t.ledger.held.get s).isSome then 1 else 0

theorem coherent_empty : Coherent {} :=
  ⟨fun s => (by cases s <;> rfl), fun s v h => (by cases s <;> cases h),
    fun s => (by cases s <;> rfl)⟩

theorem granted_iff {s : Segment} {v : VehicleId} :
    t.granted s v = true ↔ t.ledger.reserved.get s = some v := by
  simp [granted]

/-! ### Sections -/

theorem Coherent.reserve (h : t.Coherent) (v : VehicleId) (r : Route) :
    (t.reserve v r).1.Coherent := by
  unfold SegmentTable.reserve
  split
  · next hfree =>
    refine ⟨h.holder_eq, ?_, h.balance⟩
    intro s w hheld
    have hreserved := h.reserved_of_held s w hheld
    rw [Ledger.get_reserved_reserve, if_neg, hreserved]
    -- A held segment has its mark already, so the new marks are elsewhere.
    intro hs
    rw [Ledger.unreserved_iff.1 hfree s hs] at hreserved
    cases hreserved
  · exact h

/-- What taking a segment comes to: it has a holder already, or it is not reserved for the vehicle,
or the vehicle takes it. -/
theorem take_cases (t : SegmentTable) (s : Segment) (v : VehicleId) :
    (∃ w, t.holders.get s = some w ∧ t.take s v = (t, none)) ∨
      (t.holders.get s = none ∧ t.ledger.reserved.get s ≠ some v ∧
        t.take s v = (t, some (.error (.acquireWithoutGrant s v)))) ∨
      (t.holders.get s = none ∧ t.ledger.reserved.get s = some v ∧
        t.take s v =
          (⟨t.holders.set s (some v), t.ledger.acquire s v⟩,
            some (t.ledger.acquire s v).check)) := by
  unfold SegmentTable.take
  cases hholder : t.holders.get s with
  | some w => exact .inl ⟨w, rfl, rfl⟩
  | none =>
    by_cases hgranted : t.granted s v = true
    · exact .inr (.inr ⟨rfl, granted_iff.1 hgranted, by simp [hgranted]⟩)
    · exact .inr (.inl ⟨rfl, fun h => hgranted (granted_iff.2 h), by simp [hgranted]⟩)

theorem Coherent.acquire (h : t.Coherent) {s : Segment} {v : VehicleId}
    (hfree : t.holders.get s = none) (hreserved : t.ledger.reserved.get s = some v) :
    Coherent ⟨t.holders.set s (some v), t.ledger.acquire s v⟩ := by
  -- The slot was free, so the books count one acquisition less than they will.
  have hheld : t.ledger.held.get s = none := (h.holder_eq s).symm.trans hfree
  refine ⟨?_, ?_, ?_⟩
  · intro s'
    simp only [Trio.get_set, Ledger.get_held_acquire, h.holder_eq]
  · intro s' w hw
    rw [Ledger.get_held_acquire] at hw
    split at hw
    · next hs' =>
      cases hw
      exact hs' ▸ hreserved
    · exact h.reserved_of_held s' w hw
  · intro s'
    rw [Ledger.get_acquires_acquire, Ledger.get_held_acquire, Ledger.releases_acquire]
    have hbalance := h.balance s'
    by_cases hs' : s' = s
    · subst hs'
      simpa [hheld] using hbalance
    · simpa [hs'] using hbalance

theorem Coherent.take (h : t.Coherent) (s : Segment) (v : VehicleId) :
    (t.take s v).1.Coherent := by
  rcases t.take_cases s v with ⟨w, -, htake⟩ | ⟨-, -, htake⟩ | ⟨hfree, hreserved, htake⟩
  · rw [htake]
    exact h
  · rw [htake]
    exact h
  · rw [htake]
    exact h.acquire hfree hreserved

theorem Coherent.tryAcquire (h : t.Coherent) (s : Segment) (v : VehicleId) :
    (t.tryAcquire s v).1.Coherent := by
  have htake := h.take s v
  unfold SegmentTable.tryAcquire
  split
  · split
    · next t' heq =>
      rw [heq] at htake
      exact htake
    · next t' result heq =>
      rw [heq] at htake
      exact htake
  · exact h

theorem Coherent.enter (h : t.Coherent) (v : VehicleId) (r : Route) :
    (t.enter v r).1.Coherent := by
  unfold SegmentTable.enter
  split
  · exact ⟨h.holder_eq, h.reserved_of_held, h.balance⟩
  · exact h

theorem Coherent.depart (h : t.Coherent) (v : VehicleId) : (t.depart v).Coherent :=
  ⟨h.holder_eq, h.reserved_of_held, h.balance⟩

theorem Coherent.vacate (h : t.Coherent) (s : Segment) (v : VehicleId) :
    (t.vacate s v).1.Coherent := by
  unfold SegmentTable.vacate
  split
  · next hholder =>
    have hheld : t.ledger.held.get s = some v := (h.holder_eq s).symm.trans hholder
    refine ⟨?_, ?_, ?_⟩
    · intro s'
      simp only [Trio.get_set, Ledger.get_held_free, h.holder_eq]
    · intro s' w hw
      rw [Ledger.get_held_free] at hw
      split at hw
      · cases hw
      · exact h.reserved_of_held s' w hw
    · intro s'
      rw [Ledger.get_releases_free, Ledger.get_held_free, Ledger.acquires_free]
      have hbalance := h.balance s'
      by_cases hs' : s' = s
      · subst hs'
        simpa [hheld] using hbalance
      · simpa [hs'] using hbalance
  · exact h

/-- Withdrawn marks are marks of free segments. -/
theorem Coherent.withdraw (h : t.Coherent) (v : VehicleId) (r : Route) :
    Coherent { t with ledger := t.ledger.unreserve v r } := by
  refine ⟨?_, ?_, ?_⟩
  · intro s
    rw [Ledger.held_unreserve]
    exact h.holder_eq s
  · intro s w hw
    rw [Ledger.held_unreserve] at hw
    rw [Ledger.get_reserved_unreserve, if_neg (by simp [hw])]
    exact h.reserved_of_held s w hw
  · intro s
    rw [Ledger.acquires_unreserve, Ledger.releases_unreserve, Ledger.held_unreserve]
    exact h.balance s

theorem Coherent.unreserve (h : t.Coherent) (v : VehicleId) (r : Route) :
    (t.unreserve v r).1.Coherent :=
  h.withdraw v r

theorem Coherent.cancel (h : t.Coherent) (ticket : Ticket) : (t.cancel ticket).Coherent :=
  h.withdraw ticket.vehicle ticket.route

/-! ### Releases with a callback -/

section Callback

variable {σ : Type u} {onRelease : Segment → SegmentTable × σ → SegmentTable × σ}

theorem Coherent.vacateEach
    (hcallback : ∀ s t a, Coherent t → (onRelease s (t, a)).1.Coherent) {v : VehicleId}
    (segments : List Segment) {state : SegmentTable × σ} (h : state.1.Coherent) :
    (SegmentTable.vacateEach onRelease v segments state).1.1.Coherent := by
  induction segments generalizing state with
  | nil => exact h
  | cons s rest ih =>
    obtain ⟨t, a⟩ := state
    have hvacate := Coherent.vacate h s v
    rw [SegmentTable.vacateEach]
    -- The segment is freed, the callback runs, and then the others are freed.
    split
    · next t' heq =>
      rw [heq] at hvacate
      exact ih (hcallback s t' a hvacate)
    · next t' violation heq =>
      rw [heq] at hvacate
      exact hvacate

/-- A release keeps the table coherent if its callback does. -/
theorem Coherent.release
    (hcallback : ∀ s t a, Coherent t → (onRelease s (t, a)).1.Coherent) (r : Route)
    (v : VehicleId) {state : SegmentTable × σ} (h : state.1.Coherent) :
    (SegmentTable.release onRelease r v state).1.1.Coherent := by
  have hfreed :
      (SegmentTable.vacateEach onRelease v r.segments (state.1.depart v, state.2)).1.1.Coherent :=
    Coherent.vacateEach hcallback r.segments (h.depart v)
  unfold SegmentTable.release
  split
  · next t a heq =>
    rw [heq] at hfreed
    exact Coherent.unreserve hfreed v r
  · next state' violation heq =>
    rw [heq] at hfreed
    exact hfreed

end Callback

end SegmentTable

/-! ### Calls -/

/-- Where a call of a release stands. -/
inductive Release where
  /-- The vehicle still counts as inside. -/
  | depart
  /-- Some segments are still to be freed; the callback of the one freed last may be running. -/
  | vacate (todo : List Segment)
deriving DecidableEq, Repr, Inhabited

/-- A call of an operation of the table, at a moment when it holds no lock. -/
inductive TableCall where
  /-- Reserves a route. -/
  | reserve (v : VehicleId) (r : Route)
  /-- Takes a segment if it is free, having looked at the reservation already or not yet. -/
  | tryAcquire (s : Segment) (v : VehicleId) (looked : Bool)
  /-- Takes a segment, waiting until it is free. -/
  | acquire (s : Segment) (v : VehicleId) (point : Claim)
  /-- Marks a vehicle as inside. -/
  | enter (v : VehicleId) (r : Route)
  /-- Releases a route. -/
  | release (v : VehicleId) (r : Route) (point : Release)
  /-- Drops the reservation of a ticket. -/
  | cancel (ticket : Ticket)
deriving DecidableEq, Repr

namespace TableCall

/-- The call before its first section. -/
def opened : TableCall → TableCall
  | tryAcquire s v _ => tryAcquire s v false
  | acquire s v _ => acquire s v .check
  | release v r _ => release v r .depart
  | c => c

/-- The next section of a call. -/
def step (x : Site) : TableCall → Progress TableCall (Except Violation Unit)
  | reserve v r =>
    let (table, result) := x.table.reserve v r
    .done (x.withTable table) (result.map fun _ => ())
  | tryAcquire s v false =>
    if x.table.granted s v then .next x (tryAcquire s v true)
    else .done x (.error (.acquireWithoutGrant s v))
  | tryAcquire s v true =>
    match x.table.take s v with
    | (table, none) => .done (x.withTable table) (.ok ())
    | (table, some result) => .done (x.withTable table) result
  | acquire s v point =>
    match point.step s v x with
    | .blocked => .blocked
    | .next x point => .next x (acquire s v point)
    | .done x result => .done x result
  | enter v r =>
    let (table, result) := x.table.enter v r
    .done (x.withTable table) result
  | release v r .depart => .next (x.withTable (x.table.depart v)) (release v r (.vacate r.segments))
  | release v r (.vacate (s :: rest)) =>
    match x.table.vacate s v with
    | (table, .ok ()) => .next (x.withTable table) (release v r (.vacate rest))
    | (table, .error violation) => .done (x.withTable table) (.error violation)
  | release v r (.vacate []) =>
    let (table, result) := x.table.unreserve v r
    .done (x.withTable table) result
  | cancel ticket => .done (x.withTable (x.table.cancel ticket)) (.ok ())

end TableCall

/-- A site and the calls of operations of its table that have not returned. -/
structure Desk where
  /-- The site whose table is served. -/
  site : Site
  /-- The calls, in the order in which they were made. -/
  calls : List TableCall := []

namespace Desk

/-- What can happen at a desk. -/
inductive Action where
  /-- Somebody makes a call, possibly from inside a callback. -/
  | make (call : TableCall)
  /-- The call at a place runs its next section, if it has one. -/
  | run (place : Nat)

/-- The desk after an action. -/
def act (d : Desk) : Action → Desk
  | .make call => { d with calls := d.calls ++ [call.opened] }
  | .run place =>
    match d.calls[place]? with
    | none => d
    | some call =>
      match call.step d.site with
      | .blocked => d
      | .next site call => ⟨site, d.calls.set place call⟩
      | .done site _ => ⟨site, d.calls.eraseIdx place⟩

/-- The desk after some actions. -/
def after (d : Desk) (actions : List Action) : Desk := actions.foldl act d

end Desk

/-- The step of a procedure leads to a site with a property, if it is possible at all. -/
def Progress.Reaches {π ρ : Type} (p : Progress π ρ) (P : Site → Prop) : Prop :=
  match p with
  | .blocked => True
  | .next site _ | .done site _ => P site

theorem Progress.Reaches.mono {π ρ : Type} {p : Progress π ρ} {P Q : Site → Prop}
    (h : p.Reaches P) (hPQ : ∀ x, P x → Q x) : p.Reaches Q := by
  cases p with
  | blocked => trivial
  | next x point => exact hPQ x h
  | done x result => exact hPQ x h

/-- A section of a claim does nothing, or it does what taking the segment does. -/
theorem Claim.step_reaches (x : Site) (s : Segment) (v : VehicleId) (point : Claim) :
    (point.step s v x).Reaches fun y => y = x ∨ y = x.withTable (x.table.take s v).1 := by
  cases point with
  | check =>
    rw [Claim.step]
    split <;> exact .inl rfl
  | attempt =>
    rw [Claim.step]
    split <;> next heq => exact .inr (by rw [heq])
  | wait =>
    rw [Claim.step]
    split
    · trivial
    · next heq => exact .inr (by rw [heq])

/-- What the next section of a call may make of the table. -/
inductive TableCall.Leads (t : SegmentTable) : TableCall → SegmentTable → Prop
  /-- A reservation. -/
  | reserve (v : VehicleId) (r : Route) : Leads t (.reserve v r) (t.reserve v r).1
  /-- A try that only looks at the reservation. -/
  | look (s : Segment) (v : VehicleId) (looked : Bool) : Leads t (.tryAcquire s v looked) t
  /-- A try. -/
  | tryAcquire (s : Segment) (v : VehicleId) (looked : Bool) :
      Leads t (.tryAcquire s v looked) (t.take s v).1
  /-- An acquisition that only looks at the reservation. -/
  | check (s : Segment) (v : VehicleId) (point : Claim) : Leads t (.acquire s v point) t
  /-- An acquisition. -/
  | acquire (s : Segment) (v : VehicleId) (point : Claim) :
      Leads t (.acquire s v point) (t.take s v).1
  /-- An entry. -/
  | enter (v : VehicleId) (r : Route) : Leads t (.enter v r) (t.enter v r).1
  /-- The beginning of a release. -/
  | depart (v : VehicleId) (r : Route) : Leads t (.release v r .depart) (t.depart v)
  /-- A release that frees its next segment. -/
  | vacate (v : VehicleId) (r : Route) (s : Segment) (rest : List Segment) :
      Leads t (.release v r (.vacate (s :: rest))) (t.vacate s v).1
  /-- The end of a release. -/
  | unreserve (v : VehicleId) (r : Route) :
      Leads t (.release v r (.vacate [])) (t.unreserve v r).1
  /-- A withdrawal. -/
  | cancel (ticket : Ticket) : Leads t (.cancel ticket) (t.cancel ticket)

/-- A section of a call changes nothing but the table. -/
theorem TableCall.step_reaches (x : Site) (call : TableCall) :
    (call.step x).Reaches fun y => ∃ t, call.Leads x.table t ∧ y = x.withTable t := by
  cases call with
  | reserve v r => exact ⟨_, .reserve v r, rfl⟩
  | tryAcquire s v looked =>
    cases looked with
    | false =>
      rw [TableCall.step]
      split <;> exact ⟨_, .look s v false, rfl⟩
    | true =>
      rw [TableCall.step]
      split <;> next heq => exact ⟨_, .tryAcquire s v true, by rw [heq]⟩
  | acquire s v point =>
    have hclaim : (point.step s v x).Reaches fun y =>
        ∃ t, (acquire s v point).Leads x.table t ∧ y = x.withTable t := by
      refine (Claim.step_reaches x s v point).mono ?_
      rintro y (rfl | rfl)
      · exact ⟨_, .check s v point, rfl⟩
      · exact ⟨_, .acquire s v point, rfl⟩
    rw [TableCall.step]
    split
    · trivial
    · next heq => rwa [heq] at hclaim
    · next heq => rwa [heq] at hclaim
  | enter v r => exact ⟨_, .enter v r, rfl⟩
  | release v r point =>
    cases point with
    | depart => exact ⟨_, .depart v r, rfl⟩
    | vacate todo =>
      cases todo with
      | nil => exact ⟨_, .unreserve v r, rfl⟩
      | cons s rest =>
        rw [TableCall.step]
        split <;> next heq => exact ⟨_, .vacate v r s rest, by rw [heq]⟩
  | cancel ticket => exact ⟨_, .cancel ticket, rfl⟩

/-- A relation between a table and what a section makes of it holds of the site, too. -/
theorem TableCall.step_reaches_of_leads {x : Site} {call : TableCall} {P : SegmentTable → Prop}
    (h : ∀ t, call.Leads x.table t → P t) : (call.step x).Reaches (P ·.table) := by
  refine (call.step_reaches x).mono ?_
  rintro y ⟨t, hleads, rfl⟩
  exact h t hleads

/-- Every section of a call keeps the table coherent. -/
theorem TableCall.coherent_step {x : Site} (h : x.table.Coherent) (call : TableCall) :
    (call.step x).Reaches (·.table.Coherent) := by
  refine step_reaches_of_leads fun t hleads => ?_
  cases hleads with
  | look | check => exact h
  | reserve v r => exact h.reserve v r
  | tryAcquire s v | acquire s v => exact h.take s v
  | enter v r => exact h.enter v r
  | depart v => exact h.depart v
  | vacate v r s => exact h.vacate s v
  | unreserve v r => exact h.unreserve v r
  | cancel ticket => exact h.cancel ticket

theorem Desk.coherent_act {d : Desk} (h : d.site.table.Coherent) (action : Desk.Action) :
    (d.act action).site.table.Coherent := by
  cases action with
  | make call => exact h
  | run place =>
    unfold Desk.act
    dsimp only
    -- A place without a call changes nothing, and neither does a blocked call.
    split
    · exact h
    · next call _ =>
      have hstep := TableCall.coherent_step h call
      split
      · exact h
      · next site call' heq =>
        rw [heq] at hstep
        exact hstep
      · next site result heq =>
        rw [heq] at hstep
        exact hstep

theorem Desk.coherent_after {d : Desk} (h : d.site.table.Coherent)
    (actions : List Desk.Action) : (d.after actions).site.table.Coherent := by
  induction actions generalizing d with
  | nil => exact h
  | cons action rest ih => exact ih (Desk.coherent_act h action)

/-- Whatever operations are called in whatever order, nested in callbacks or resumed after a wait,
and whether they succeed or fail: at every moment at which no lock is held, slot and ledger name the
same holders, each holder has its reservation, and the counters balance. The same goes for a release
whose callback is a function that keeps coherent tables coherent. -/
theorem SegmentTable.coherent_of_calls (config : Config) (total : Nat) (console : Console) :
    (∀ actions : List Desk.Action,
      ((Desk.mk (.start config total console) []).after actions).site.table.Coherent) ∧
    ∀ {σ : Type u} (onRelease : Segment → SegmentTable × σ → SegmentTable × σ),
      (∀ s t a, Coherent t → (onRelease s (t, a)).1.Coherent) →
      ∀ r v t a, Coherent t → (release onRelease r v (t, a)).1.1.Coherent :=
  ⟨Desk.coherent_after coherent_empty, fun _ hcallback r v _ _ h =>
    Coherent.release hcallback r v h⟩

/-- A callback that tries to take the freed segment for another vehicle, and counts. The try is
refused, because the segment stays reserved for the first vehicle until all of its route is free. -/
theorem SegmentTable.coherent_of_retaking :
    (release (fun s (state : SegmentTable × Nat) => ((state.1.tryAcquire s 1).1, state.2 + 1))
      (.single .ab) 0
      (((({} : SegmentTable).reserve 0 (.single .ab)).1.take .ab 0).1, 0)).1.1.Coherent :=
  (coherent_of_calls {} 0 {}).2
    (fun s state => ((state.1.tryAcquire s 1).1, state.2 + 1))
    (fun s _ _ h => Coherent.tryAcquire h s 1) (.single .ab) 0 _ 0
    ((coherent_empty.reserve 0 (.single .ab)).take .ab 0)

end Junction
