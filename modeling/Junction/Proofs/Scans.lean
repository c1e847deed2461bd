import Mathlib.Data.Nat.Basic
import Mathlib.Logic.Relation
import Junction.Proofs.Admissions
import Junction.Proofs.Consistency
import Junction.Proofs.Moves

/-!
# A scan of the scheduler is an admission

A scan takes the scheduler many steps: three moves of waiting zones, and a step for each level and
each question about a vehicle. While nobody else takes a step, it comes to the same as moving the
zones and then admitting the first vehicle whose route can be reserved. Other steps may fall between
the questions; that is then the admission with a predicate that knows of these steps.

If a reservation fails, the scheduler counts it as a refusal and goes on with the scan, and only
afterwards does it end with the first error. So it must not let anybody in after an error, since
nobody would ever wake this vehicle. It does not: an error means that the books were inconsistent
before the scan, and on a table that operations have led to, a reservation never repairs the books.

## Main definitions

* `Scheduler.reserving` — what the scheduler asks of a vehicle
* `Scheduler.Puts` — steps that put the questions of a predicate
* `Scheduler.scan` — the zones are moved, and the first vehicle is let in that fits
* `Scheduler.questions`, `Scheduler.reserveError?` — the questions of a scan, and their errors

## Main results

* `Scheduler.Puts.scan`, `Scheduler.alone_scan` — the steps of a scan are an admission
* `SegmentTable.Coherent.problem?_reserve` — a reservation neither repairs nor spoils the books
* `Scheduler.admits_nobody_of_error` — every scan in which a reservation fails
-/

universe u

namespace Junction

/-- A route cannot be reserved if it meets a mark. -/
theorem Ledger.unreserved_eq_false_iff {l : Ledger} {r : Route} :
    l.unreserved r = false ↔ ∃ s ∈ r, l.reserved.get s ≠ none := by
  rw [← Bool.not_eq_true, unreserved_iff]
  push Not
  rfl

namespace Scheduler

open WaitingQueue (asks stateAfter Refuses)

/-- What the scheduler asks of a vehicle: whether its route can be reserved. An error counts as a
refusal, and the first one is kept. -/
def reserving (v : Vehicle) (state : SegmentTable × Option Violation) :
    Option Ticket × SegmentTable × Option Violation :=
  let (table, fault) := state
  match table.reserve v.id v.route with
  | (table, .ok ticket) => (ticket, table, fault)
  | (table, .error violation) => (none, table, fault.or (some violation))

/-- The scheduler takes a step and nobody else does. -/
def Alone (supervised : Bool) (p p' : Site × Scheduler) : Prop := p.2.step? supervised p.1 = some p'

/-- Where the scheduler goes from a scan. An error ends it, and otherwise it grants or rests. -/
def leaveScan (supervised : Bool) (x : Site) (c : Scheduler) (seen : Nat)
    (admitted : Option (Vehicle × Ticket)) (fault : Option Violation) : Site × Scheduler :=
  match fault, admitted with
  | some violation, _ => (x, { c with point := failed supervised violation })
  | none, some (v, ticket) =>
    let (x, c) := c.transition x .granting
    (x, { c with point := .announce v ticket })
  | none, none =>
    let (x, c) := c.transition x .idle
    (x, { c with pass := c.pass + 1, point := .rest seen })

variable {supervised : Bool} {v : Vehicle}

theorem reserving_of_ok {t table : SegmentTable} {ticket : Option Ticket}
    (h : t.reserve v.id v.route = (table, .ok ticket)) (fault : Option Violation) :
    reserving v (t, fault) = (ticket, table, fault) := by
  simp only [reserving, h]

theorem reserving_of_error {t table : SegmentTable} {violation : Violation}
    (h : t.reserve v.id v.route = (table, .error violation)) (fault : Option Violation) :
    reserving v (t, fault) = (none, table, fault.or (some violation)) := by
  simp only [reserving, h]

theorem reserving_of_marked {t : SegmentTable} {fault : Option Violation}
    (h : t.ledger.unreserved v.route = false) : reserving v (t, fault) = (none, t, fault) := by
  have hreserve : t.reserve v.id v.route = (t, .ok none) := by
    rw [SegmentTable.reserve, if_neg (Bool.eq_false_iff.1 h)]
  rw [reserving_of_ok hreserve]

/-! ### The steps of a scan -/

/-- The scheduler stands in a scan, before its question about the vehicle at a place of a level. -/
def asking (x : Site) (c : Scheduler) (seen : Nat) (level : VehicleClass) (place : Nat)
    (state : SegmentTable × Option Violation) : Site × Scheduler :=
  (x.withTable state.1, { c with point := .scan seen level place state.2 })

/-- Steps of some kind put the questions of a predicate: they lead past each vehicle that the
predicate refuses, and out of the scan at a vehicle that fits. Of the state of the predicate, the
scheduler knows the table and the first error. -/
structure Puts (supervised : Bool) (R : Site × Scheduler → Site × Scheduler → Prop) {σ : Type u}
    (fits : Vehicle → σ → Option Ticket × σ) (view : σ → SegmentTable × Option Violation) :
    Prop where
  /-- The scheduler's own steps are of this kind. -/
  alone : ∀ {p p'}, Alone supervised p p' → R p p'
  /-- The scheduler goes past a vehicle that is refused. -/
  refuse : ∀ (x : Site) (c : Scheduler) (seen : Nat) {level place v a},
    (x.queue.levels.get level)[place]? = some v → (fits v a).1 = none →
      Relation.ReflTransGen R (asking x c seen level place (view a))
        (asking x c seen level (place + 1) (view (fits v a).2))
  /-- The scheduler leaves the scan with a vehicle that fits. -/
  fit : ∀ (x : Site) (c : Scheduler) (seen : Nat) {level place v ticket a},
    (x.queue.levels.get level)[place]? = some v → (fits v a).1 = some ticket →
      Relation.ReflTransGen R (asking x c seen level place (view a))
        (leaveScan supervised
          { x with
            queue := x.queue.withLevel level ((x.queue.levels.get level).eraseIdx place)
            table := (view (fits v a).2).1
            scanned := none }
          c seen (some (v, ticket)) (view (fits v a).2).2)

/-- Alone, the scheduler puts the questions whether a route can be reserved. -/
theorem puts_reserving (supervised : Bool) :
    Puts supervised (Alone supervised) reserving id where
  alone := id
  refuse := by
    rintro x c seen level place v ⟨t, fault⟩ hasked hrefused
    refine .single ?_
    simp only [Alone, asking, step?, Site.withTable, id_eq, hasked]
    cases hreserve : t.reserve v.id v.route with
    | mk table result =>
      cases result with
      | ok ticket =>
        rw [reserving_of_ok hreserve] at hrefused ⊢
        obtain rfl : ticket = none := hrefused
        rfl
      | error violation => rw [reserving_of_error hreserve]
  fit := by
    rintro x c seen level place v ticket ⟨t, fault⟩ hasked hfit
    refine .single ?_
    simp only [Alone, asking, step?, Site.withTable, id_eq, hasked]
    cases hreserve : t.reserve v.id v.route with
    | mk table result =>
      cases result with
      | ok ticket' =>
        rw [reserving_of_ok hreserve] at hfit ⊢
        obtain rfl : ticket' = some ticket := hfit
        cases fault <;> rfl
      | error violation =>
        rw [reserving_of_error hreserve] at hfit
        cases hfit

/-- After the last level, the scheduler leaves the scan without having let anybody in. -/
theorem endLevel_of_last {level : VehicleClass} (hlast : level.next? = none) (x : Site)
    (c : Scheduler) (seen : Nat) (fault : Option Violation) :
    endLevel supervised x c seen level fault =
      leaveScan supervised { x with scanned := none } c seen none fault := by
  unfold endLevel
  rw [hlast]
  cases fault <;> rfl

namespace Puts

variable {R : Site × Scheduler → Site × Scheduler → Prop} {σ : Type u}
variable {fits : Vehicle → σ → Option Ticket × σ} {view : σ → SegmentTable × Option Violation}
variable {a : σ} {level : VehicleClass}

/-- The scheduler goes past vehicles of a level that are refused. -/
theorem refuses (h : Puts supervised R fits view) (x : Site) (c : Scheduler) (seen : Nat)
    {asked vehicles rest : List Vehicle}
    (hlevel : x.queue.levels.get level = asked ++ (vehicles ++ rest))
    (hrefused : Refuses fits vehicles a) :
    Relation.ReflTransGen R (asking x c seen level asked.length (view a))
      (asking x c seen level (asked ++ vehicles).length (view (stateAfter fits vehicles a))) := by
  induction vehicles generalizing asked a with
  | nil =>
    rw [List.append_nil]
    exact .refl
  | cons v vehicles ih =>
    obtain ⟨hv, hrest⟩ := WaitingQueue.refuses_cons.1 hrefused
    have hasked : (x.queue.levels.get level)[asked.length]? = some v := by simp [hlevel]
    have hlevel' : x.queue.levels.get level = (asked ++ [v]) ++ (vehicles ++ rest) := by
      rw [hlevel, List.append_assoc]
      rfl
    have hgo := ih hlevel' hrest
    rw [List.append_assoc, List.length_append] at hgo
    exact (h.refuse x c seen hasked hv).trans hgo

/-- The scheduler goes past a level in which everybody is refused. -/
theorem refuses_level (h : Puts supervised R fits view) (x : Site) (c : Scheduler) (seen : Nat)
    (hrefused : Refuses fits (x.queue.levels.get level) a) :
    Relation.ReflTransGen R (asking x c seen level 0 (view a))
      (endLevel supervised
        (x.withTable (view (stateAfter fits (x.queue.levels.get level) a)).1) c seen level
        (view (stateAfter fits (x.queue.levels.get level) a)).2) := by
  have hlevel : x.queue.levels.get level = [] ++ (x.queue.levels.get level ++ []) := by simp
  have hpast := h.refuses x c seen hlevel hrefused
  refine hpast.tail (h.alone ?_)
  simp only [Alone, asking, step?, Site.withTable, List.nil_append,
    List.getElem?_eq_none_iff.2 le_rfl]
  unfold endLevel
  cases level.next? <;> cases (view (stateAfter fits _ _)).2 <;> rfl

theorem next (h : Puts supervised R fits view) (x : Site) (c : Scheduler) (seen : Nat)
    {level' : VehicleClass} (hnext : level.next? = some level')
    (hrefused : Refuses fits (x.queue.levels.get level) a) :
    Relation.ReflTransGen R (asking x c seen level 0 (view a))
      (asking { x with scanned := some level' } c seen level' 0
        (view (stateAfter fits (x.queue.levels.get level) a))) := by
  have hend := h.refuses_level x c seen hrefused
  simp only [endLevel, hnext] at hend
  exact hend.tail (h.alone rfl)

/-- The scheduler goes past the levels before a level. -/
theorem ahead (h : Puts supervised R fits view) (x : Site) (c : Scheduler) (seen : Nat)
    (level : VehicleClass) (hrefused : Refuses fits (x.queue.ahead level) a) :
    Relation.ReflTransGen R
      (asking { x with scanned := some .ambulance } c seen .ambulance 0 (view a))
      (asking { x with scanned := some level } c seen level 0
        (view (stateAfter fits (x.queue.ahead level) a))) := by
  cases level with
  | ambulance => exact .refl
  | car =>
    have hahead : x.queue.ahead .car = x.queue.levels.get .ambulance := List.append_nil _
    rw [hahead] at hrefused ⊢
    exact h.next { x with scanned := some .ambulance } c seen rfl hrefused
  | truck =>
    have hahead : x.queue.ahead .truck =
        x.queue.levels.get .ambulance ++ x.queue.levels.get .car := by
      simp [WaitingQueue.ahead, WaitingQueue.among, VehicleClass.earlier, VehicleClass.all,
        VehicleClass.level]
    rw [hahead, WaitingQueue.refuses_append] at hrefused
    rw [hahead, WaitingQueue.stateAfter_append]
    exact (h.next { x with scanned := some .ambulance } c seen rfl hrefused.1).trans
      (h.next { x with scanned := some .car } c seen rfl hrefused.2)

/-- From its first question on, the scheduler does what an admission with the predicate does. -/
theorem admitFirst (h : Puts supervised R fits view) (x : Site) (c : Scheduler) (seen : Nat)
    (a : σ) :
    Relation.ReflTransGen R
      (asking { x with scanned := some .ambulance } c seen .ambulance 0 (view a))
      (leaveScan supervised
        { x with
          queue := (x.queue.admitFirst fits a).1
          table := (view (x.queue.admitFirst fits a).2.2).1
          scanned := none }
        c seen (x.queue.admitFirst fits a).2.1 (view (x.queue.admitFirst fits a).2.2).2) := by
  rcases WaitingQueue.refuses_or_fits_candidates fits x.queue a with
    hrefused | ⟨level, before, v, after, ticket, hlevel, hbefore, hv⟩
  · rw [WaitingQueue.admitFirst_of_refuses hrefused]
    have hcandidates : x.queue.candidates = x.queue.ahead .truck ++ x.queue.levels.get .truck := by
      rw [x.queue.candidates_eq .truck]
      exact congrArg _ (List.append_nil _)
    rw [hcandidates, WaitingQueue.refuses_append] at hrefused
    rw [hcandidates, WaitingQueue.stateAfter_append]
    have hend := h.refuses_level { x with scanned := some .truck } c seen hrefused.2
    rw [endLevel_of_last rfl] at hend
    exact (h.ahead x c seen .truck hrefused.1).trans hend
  · rw [WaitingQueue.admitFirst_of_fits hlevel hbefore hv]
    rw [WaitingQueue.refuses_append] at hbefore
    rw [WaitingQueue.stateAfter_append] at hv
    rw [WaitingQueue.stateAfter_append, WaitingQueue.stateAfter_append]
    have hlevel' : x.queue.levels.get level = [] ++ (before ++ v :: after) := hlevel
    have hpast := h.refuses { x with scanned := some level } c seen hlevel' hbefore.2
    have hasked : (x.queue.levels.get level)[before.length]? = some v := by simp [hlevel]
    have hfit := h.fit { x with scanned := some level } c seen hasked hv
    have hclosed : (x.queue.levels.get level).eraseIdx before.length = before ++ after := by
      rw [hlevel, List.eraseIdx_append_of_length_le le_rfl, Nat.sub_self, List.eraseIdx_cons_zero]
    rw [hclosed] at hfit
    exact ((h.ahead x c seen level hbefore.1).trans hpast).trans hfit

end Puts

/-- A scan of a queue: the waiting zones are moved into the levels, and then the first vehicle is
let in whose route can be reserved. -/
def scan (q : WaitingQueue) (t : SegmentTable) :
    WaitingQueue × Option (Vehicle × Ticket) × SegmentTable × Option Violation :=
  q.consume.1.admitFirst reserving (t, none)

/-- From the start of a scan on, the scheduler moves the waiting zones into the levels and then does
what an admission with the predicate does. -/
theorem Puts.scan {R : Site × Scheduler → Site × Scheduler → Prop} {σ : Type u}
    {fits : Vehicle → σ → Option Ticket × σ} {view : σ → SegmentTable × Option Violation}
    (h : Puts supervised R fits view) (x : Site) {c : Scheduler} (hpoint : c.point = .look) {a : σ}
    (hview : view a = (x.table, none)) :
    ∃ console, Relation.ReflTransGen R (x, c)
      (leaveScan supervised
        { x with
          queue := (x.queue.consume.1.admitFirst fits a).1
          table := (view (x.queue.consume.1.admitFirst fits a).2.2).1
          scanned := none
          console }
        { c with state := .scanning } x.epoch (x.queue.consume.1.admitFirst fits a).2.1
        (view (x.queue.consume.1.admitFirst fits a).2.2).2) := by
  obtain ⟨console, htransition⟩ := transition_fst x c .scanning
  have hlook : Alone supervised (x, c) ({ x with console },
      { c with state := .scanning, point := .gather x.epoch .ambulance }) := by
    simp only [Alone, step?, hpoint, htransition]
  have hmoves : Relation.ReflTransGen (Alone supervised) ({ x with console },
      { c with state := .scanning, point := .gather x.epoch .ambulance })
      ({ x with queue := x.queue.consume.1, scanned := some .ambulance, console },
        { c with state := .scanning, point := .scan x.epoch .ambulance 0 none }) := by
    -- Three moves of a waiting zone, and the first level is locked.
    iterate 4 refine .head (show Alone supervised _ _ from rfl) ?_
    exact .refl
  have hadmit := h.admitFirst { x with queue := x.queue.consume.1, console }
    { c with state := .scanning } x.epoch a
  rw [hview] at hadmit
  have hmoved := Relation.ReflTransGen.mono (fun _ _ => h.alone) _ _ hmoves
  exact ⟨console, .head (h.alone hlook) (hmoved.trans hadmit)⟩

/-- Alone, the scheduler scans the queue. -/
theorem alone_scan (supervised : Bool) (x : Site) {c : Scheduler} (hpoint : c.point = .look) :
    ∃ console, Relation.ReflTransGen (Alone supervised) (x, c)
      (leaveScan supervised
        { x with
          queue := (scan x.queue x.table).1
          table := (scan x.queue x.table).2.2.1
          scanned := none
          console }
        { c with state := .scanning } x.epoch (scan x.queue x.table).2.1
        (scan x.queue x.table).2.2.2) :=
  (puts_reserving supervised).scan x hpoint rfl

end Scheduler

/-! ### Reservations and the check -/

namespace Ledger

variable {l : Ledger} {r : Route}

/-- While holders have their reservations, the check finds the same before and after a
reservation. -/
theorem problem?_reserve (hreserved : ∀ s v, l.held.get s = some v → l.reserved.get s = some v)
    (hfree : l.unreserved r = true) (v : VehicleId) : (l.reserve v r).problem? = l.problem? := by
  have hmarks : ∀ s w, (l.reserve v r).held.get s = some w →
      (l.reserve v r).reserved.get s = some w := by
    intro s w hheld
    have hmark := hreserved s w hheld
    rw [get_reserved_reserve, if_neg, hmark]
    intro hs
    rw [unreserved_iff.1 hfree s hs] at hmark
    cases hmark
  rw [problem?_eq hreserved, problem?_eq hmarks]
  rfl

end Ledger

namespace SegmentTable

variable {t : SegmentTable}

/-- On a coherent table, a reservation neither repairs nor spoils the books. -/
theorem Coherent.problem?_reserve (h : t.Coherent) (v : VehicleId) (r : Route) :
    (t.reserve v r).1.ledger.problem? = t.ledger.problem? := by
  unfold SegmentTable.reserve
  split
  · next hfree => exact Ledger.problem?_reserve h.reserved_of_held hfree v
  · rfl

/-- On a coherent table, a reservation that does not find the route reserved finds what the check
has found before. -/
theorem Coherent.reserve_snd (h : t.Coherent) (v : VehicleId) (r : Route) :
    (t.reserve v r).2 = .ok none ∨ (t.reserve v r).2 =
      match t.ledger.problem? with
      | none => .ok (some ⟨v, r⟩)
      | some violation => .error violation := by
  unfold SegmentTable.reserve
  split
  · next hfree =>
    apply Or.inr
    simp only [Ledger.check, Ledger.problem?_reserve h.reserved_of_held hfree]
    cases t.ledger.problem? <;> rfl
  · exact .inl rfl

end SegmentTable

namespace Scheduler

open WaitingQueue (Ask asks noting stateAfter Refuses)

variable {t : SegmentTable} {v : Vehicle} {fault : Option Violation} {vehicles : List Vehicle}

/-! ### Errors -/

/-- The error with which the reservation of the route of a vehicle fails, if it does. -/
def reserveError? (t : SegmentTable) (v : Vehicle) : Option Violation :=
  match (t.reserve v.id v.route).2 with
  | .ok _ => none
  | .error violation => some violation

theorem reserving_fst_eq_none (h : t.Coherent) (hproblem : t.ledger.problem? ≠ none) :
    (reserving v (t, fault)).1 = none := by
  obtain ⟨violation, hviolation⟩ := Option.ne_none_iff_exists'.1 hproblem
  -- A reservation that is made fails by its check, so no answer is a ticket.
  have hresult := h.reserve_snd v.id v.route
  rw [hviolation] at hresult
  unfold reserving
  cases hreserve : t.reserve v.id v.route with
  | mk table result =>
    rw [hreserve] at hresult
    rcases hresult with rfl | rfl <;> simp only [hreserve]

theorem reserving_snd (v : Vehicle) (t : SegmentTable) (fault : Option Violation) :
    (reserving v (t, fault)).2 =
      ((t.reserve v.id v.route).1, fault.or (reserveError? t v)) := by
  unfold reserving reserveError?
  cases hreserve : t.reserve v.id v.route with
  | mk table result => cases result <;> simp [hreserve]

/-- The scheduler keeps the first error of its questions. -/
theorem fault_stateAfter (vehicles : List Vehicle) (t : SegmentTable) (fault : Option Violation) :
    (stateAfter reserving vehicles (t, fault)).2 =
      fault.or ((asks reserving vehicles (t, fault)).findSome? fun ask =>
        reserveError? ask.state.1 ask.vehicle) := by
  induction vehicles generalizing t fault with
  | nil => simp [stateAfter, asks]
  | cons v rest ih =>
    have hrest := ih (t.reserve v.id v.route).1 (fault.or (reserveError? t v))
    rw [← reserving_snd, Option.or_assoc] at hrest
    rw [asks, List.findSome?_cons]
    refine hrest.trans ?_
    cases reserveError? t v <;> rfl

/-- Before every question of a scan the table is coherent, and the check finds the same. -/
theorem problem?_asks (h : t.Coherent) (vehicles : List Vehicle) (fault : Option Violation) :
    ∀ ask ∈ asks reserving vehicles (t, fault),
      (ask.state.1.Coherent ∧ ask.state.1.ledger.problem? = t.ledger.problem?) ∧
        ask.answer = (reserving ask.vehicle ask.state).1 := by
  refine (WaitingQueue.forall_asks (P := fun state : SegmentTable × Option Violation =>
    state.1.Coherent ∧ state.1.ledger.problem? = t.ledger.problem?) ?_ ⟨h, rfl⟩ vehicles).1
  rintro v ⟨t', fault'⟩ ⟨hcoherent, hproblem⟩
  rw [reserving_snd]
  exact ⟨hcoherent.reserve _ _, (hcoherent.problem?_reserve _ _).trans hproblem⟩

/-- On a coherent table with inconsistent books no route can be reserved. -/
theorem refuses_of_problem (h : t.Coherent) (hproblem : t.ledger.problem? ≠ none)
    (vehicles : List Vehicle) (fault : Option Violation) :
    Refuses reserving vehicles (t, fault) := by
  intro ask hask
  obtain ⟨⟨hcoherent, hsame⟩, hanswer⟩ := problem?_asks h vehicles fault ask hask
  rw [hanswer]
  exact reserving_fst_eq_none hcoherent (hsame ▸ hproblem)

/-- On a coherent table with consistent books no reservation fails. -/
theorem reserveError?_eq_none (h : t.Coherent) (hproblem : t.ledger.problem? = none) (v : Vehicle) :
    reserveError? t v = none := by
  have hresult := h.reserve_snd v.id v.route
  rw [hproblem] at hresult
  unfold reserveError?
  rcases hresult with hresult | hresult <;> rw [hresult]

/-- The questions of a scan. -/
def questions (q : WaitingQueue) (t : SegmentTable) :
    List (Ask (SegmentTable × Option Violation) Ticket) :=
  (q.consume.1.admitFirst (noting reserving) ((t, none), [])).2.2.2

/-- If a question of a scan meets an error, then the books were inconsistent before the scan. -/
theorem problem_of_error {q : WaitingQueue} (h : t.Coherent)
    (herror : ∃ ask ∈ questions q t, reserveError? ask.state.1 ask.vehicle ≠ none) :
    t.ledger.problem? ≠ none := by
  intro hnone
  obtain ⟨ask, hask, hne⟩ := herror
  obtain ⟨_, _, _, calls, hnoted, hcourse, -⟩ :=
    WaitingQueue.course_noting reserving q.consume.1 (t, none)
  obtain ⟨vehicles, rfl⟩ := hcourse.calls_eq
  rw [questions, hnoted] at hask
  obtain ⟨⟨hcoherent, hsame⟩, -⟩ := problem?_asks h vehicles none ask hask
  exact hne (reserveError?_eq_none hcoherent (hsame.trans hnone) ask.vehicle)

/-- On a coherent table with inconsistent books, a scan asks about everybody and lets nobody in. -/
theorem scan_of_problem (h : t.Coherent) (hproblem : t.ledger.problem? ≠ none) (q : WaitingQueue) :
    scan q t = (q.consume.1, none, stateAfter reserving q.consume.1.candidates (t, none)) ∧
      questions q t = asks reserving q.consume.1.candidates (t, none) := by
  have hrefused := refuses_of_problem h hproblem q.consume.1.candidates none
  refine ⟨WaitingQueue.admitFirst_of_refuses hrefused, ?_⟩
  rw [questions, WaitingQueue.admitFirst_noting_of_refuses hrefused]

/-- If a reservation fails during a scan, then nobody is let in, although the scheduler goes on to
ask about all others; and the scheduler fails with the first error, in the middle of its scan. It
has moved vehicles from the zones into the levels and has marked segments, and nothing else: nobody
has left the queue, no grant was logged, and nobody was woken. -/
theorem admits_nobody_of_error (supervised : Bool) (x : Site) {c : Scheduler}
    (h : x.table.Reachable) (hpoint : c.point = .look)
    (herror : ∃ ask ∈ questions x.queue x.table, reserveError? ask.state.1 ask.vehicle ≠ none) :
    (scan x.queue x.table).2.1 = none ∧
      (questions x.queue x.table).map Ask.vehicle = x.queue.consume.1.candidates ∧
      (∀ cl, (scan x.queue x.table).1.line cl = x.queue.line cl) ∧
      ∃ violation console,
        (questions x.queue x.table).findSome? (fun ask => reserveError? ask.state.1 ask.vehicle) =
          some violation ∧
        Relation.ReflTransGen (Alone supervised) (x, c)
          ({ x with
              queue := (scan x.queue x.table).1
              table := (scan x.queue x.table).2.2.1
              scanned := none
              console },
            ⟨.scanning, c.pass, failed supervised violation⟩) := by
  obtain ⟨hscan, hquestions⟩ :=
    scan_of_problem h.coherent (problem_of_error h.coherent herror) x.queue
  obtain ⟨violation, hviolation⟩ : ∃ violation, (questions x.queue x.table).findSome?
      (fun ask => reserveError? ask.state.1 ask.vehicle) = some violation := by
    refine Option.ne_none_iff_exists'.1 fun hnone => ?_
    obtain ⟨ask, hask, hne⟩ := herror
    exact hne (List.findSome?_eq_none_iff.1 hnone ask hask)
  -- The first error of the questions is the one that the scheduler has kept.
  have hfault : (scan x.queue x.table).2.2.2 = some violation := by
    rw [hscan]
    exact (fault_stateAfter _ _ _).trans (hquestions ▸ hviolation)
  obtain ⟨console, halone⟩ := alone_scan supervised x hpoint
  rw [hfault] at halone
  refine ⟨by rw [hscan], ?_, fun cl => ?_, violation, console, hviolation, halone⟩
  · rw [hquestions, WaitingQueue.map_vehicle_asks]
  · simp only [hscan, WaitingQueue.line, WaitingQueue.zone_consume, WaitingQueue.levels_consume,
      List.append_nil]

/-- A table with a vehicle inside that holds a segment outside its route. -/
def astray : SegmentTable :=
  ((Desk.start {} 0 {}).after
    [.make (.reserve 0 (.single .ab)), .run 0, .make (.tryAcquire .ab 0 false), .run 0, .run 0,
      .make (.enter 0 .empty), .run 0]).site.table

theorem reachable_astray : astray.Reachable := ⟨{}, 0, {}, _, rfl⟩

/-- A site with such a table, an ambulance that meets the held segment, and a car and a truck that
do not. -/
def strayed : Site :=
  { Site.start {} 3 {} with
    table := astray
    queue := (({} : WaitingQueue).enqueue ⟨3, .truck, .c, .right, 3⟩).consume.1
      |>.enqueue ⟨2, .car, .b, .left, 2⟩ |>.enqueue ⟨1, .ambulance, .a, .right, 1⟩ }

/-- The car is not let in, and neither is the truck. -/
theorem admits_nobody_astray :
    (∃ ask ∈ questions strayed.queue astray, reserveError? ask.state.1 ask.vehicle ≠ none) ∧
      (scan strayed.queue astray).2.1 = none ∧
      ∃ violation console, Relation.ReflTransGen (Alone false) (strayed, ⟨.idle, 0, .look⟩)
        ({ strayed with
            queue := (scan strayed.queue astray).1
            table := (scan strayed.queue astray).2.2.1
            scanned := none
            console },
          ⟨.scanning, 0, .ended (some violation)⟩) := by
  have herror : ∃ ask ∈ questions strayed.queue astray,
      reserveError? ask.state.1 ask.vehicle ≠ none := by
    decide
  obtain ⟨hnobody, -, -, violation, console, -, halone⟩ :=
    admits_nobody_of_error false strayed (c := ⟨.idle, 0, .look⟩) reachable_astray rfl herror
  exact ⟨herror, hnobody, violation, console, halone⟩

end Scheduler

end Junction
