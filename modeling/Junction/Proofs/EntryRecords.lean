import Junction.Proofs.Consistency

/-!
# Which entries a table remembers

A table remembers who has entered. An entry is booked once the vehicle is found to hold every
segment of its route, and only then are the books checked; the booking stays if the check fails. So
a table remembers more than the entries that succeeded: it remembers the vehicles that once called
for an entry while they held the route that they named, whatever the call returned.

The memory is right about a vehicle that never enters with less than it holds, and never while the
books are wrong already. A vehicle that holds more than the route it enters with is told that its
entry is incomplete, and is remembered all the same.

## Main definitions

* `Return`, `Desk.returns` — a call that has returned, and those that some actions have led to
* `TableCall.BooksEntry` — the calls that will be remembered
* `SegmentTable.RemembersEntries` — what the memory of a table says of the calls that have returned

## Main results

* `Desk.hasEntered_after` — the vehicles remembered are those whose entries were booked
* `SegmentTable.remembersEntries_after` — what every table remembers, after whatever calls
* `SegmentTable.not_hasEntered_iff_succeeded` — it may remember an entry that has failed
-/

namespace Junction

/-! ### Sections -/

namespace SegmentTable

variable (t : SegmentTable) (v w : VehicleId) (r : Route) (s : Segment)

theorem entered_reserve : (t.reserve v r).1.ledger.entered = t.ledger.entered := by
  unfold reserve
  split <;> rfl

theorem entered_take : (t.take s v).1.ledger.entered = t.ledger.entered := by
  rcases t.take_cases s v with ⟨w, -, htake⟩ | ⟨-, -, htake⟩ | ⟨-, -, htake⟩ <;> rw [htake]
  rfl

theorem entered_vacate : (t.vacate s v).1.ledger.entered = t.ledger.entered := by
  unfold vacate
  split <;> rfl

/-- An entry is remembered if the vehicle holds its route, and changes nothing otherwise. -/
theorem hasEntered_enter : (t.enter v r).1.hasEntered w = true ↔
    t.hasEntered w = true ∨ v = w ∧ ∀ s ∈ r, t.ledger.held.get s = some v := by
  by_cases hheld : ∀ s ∈ r, t.ledger.held.get s = some v
  · rw [enter_of_held hheld, hasEntered, Ledger.contains_entered_enter, Bool.or_eq_true,
      decide_eq_true_iff, or_comm, and_iff_left hheld, eq_comm (a := w)]
    rfl
  · rw [enter_of_lacking hheld]
    exact (or_iff_left fun h => hheld h.2).symm

end SegmentTable

namespace TableCall

variable {x y : Site} {t : SegmentTable} {v : VehicleId} {c c' : TableCall}

/-- The call is for an entry of a vehicle that holds the route that it names. -/
def BooksEntry (c : TableCall) (t : SegmentTable) (v : VehicleId) : Prop :=
  ∃ r, c = enter v r ∧ ∀ s ∈ r, t.ledger.held.get s = some v

theorem booksEntry_enter {w : VehicleId} {r : Route} :
    (enter v r).BooksEntry t w ↔ v = w ∧ ∀ s ∈ r, t.ledger.held.get s = some v := by
  constructor
  · rintro ⟨r', heq, hheld⟩
    cases heq
    exact ⟨rfl, hheld⟩
  · rintro ⟨rfl, hheld⟩
    exact ⟨r, rfl, hheld⟩

/-- Only entries touch the memory. -/
theorem Leads.entered_eq {t' : SegmentTable} (h : c.Leads t t') (hcall : ∀ v r, c ≠ .enter v r) :
    t'.ledger.entered = t.ledger.entered := by
  cases h with
  | look | check | depart => rfl
  | reserve v r => exact t.entered_reserve v r
  | tryAcquire s v | acquire s v => exact t.entered_take v s
  | enter v r => exact absurd rfl (hcall v r)
  | vacate v r s => exact t.entered_vacate v s
  | unreserve v r => exact t.ledger.entered_unreserve v r
  | cancel ticket => exact t.ledger.entered_unreserve ticket.vehicle ticket.route

/-- A section remembers the vehicle whose entry it books, and forgets nobody. -/
theorem Leads.hasEntered_iff {t' : SegmentTable} (h : c.Leads t t') (v : VehicleId) :
    t'.hasEntered v = true ↔ t.hasEntered v = true ∨ c.BooksEntry t v := by
  by_cases hcall : ∃ w r, c = .enter w r
  · obtain ⟨w, r, rfl⟩ := hcall
    cases h
    rw [booksEntry_enter]
    exact t.hasEntered_enter w v r
  · have hentered := h.entered_eq fun w r heq => hcall ⟨w, r, heq⟩
    rw [SegmentTable.hasEntered, hentered, ← SegmentTable.hasEntered]
    exact (or_iff_left fun ⟨r, heq, _⟩ => hcall ⟨v, r, heq⟩).symm

/-- A call that goes on is not for an entry. -/
theorem not_booksEntry_of_next (h : c.step x = .next y c') : ¬ c.BooksEntry t v := by
  rintro ⟨r, rfl, -⟩
  cases h

end TableCall

/-! ### Calls that have returned -/

/-- A call that has returned. -/
structure Return where
  /-- The call, before its last section. -/
  call : TableCall
  /-- The table that its last section found. -/
  found : SegmentTable
  /-- What it returned. -/
  result : Except Violation Unit

namespace Desk

variable {d : Desk} {actions : List Action} {action : Action} {e : Return} {v : VehicleId}

/-- The call that returns by an action, if any does. -/
def returned? (d : Desk) : Action → Option Return
  | .make _ => none
  | .run place =>
    match d.calls[place]? with
    | none => none
    | some call =>
      match call.step d.site with
      | .blocked | .next _ _ => none
      | .done _ result => some ⟨call, d.site.table, result⟩

/-- The calls that return by some actions, in order. -/
def returns (d : Desk) : List Action → List Return
  | [] => []
  | action :: rest => (d.returned? action).toList ++ (d.act action).returns rest

theorem mem_returns_cons {rest : List Action} :
    e ∈ d.returns (action :: rest) ↔
      d.returned? action = some e ∨ e ∈ (d.act action).returns rest := by
  rw [returns, List.mem_append, Option.mem_toList]

/-- A call that returns by an action has run its last section at the desk. -/
theorem step_of_returned? (h : d.returned? action = some e) :
    e.found = d.site.table ∧ ∃ x, e.call.step d.site = .done x e.result := by
  cases action with
  | make call => cases h
  | run place =>
    rw [returned?] at h
    split at h
    · cases h
    · next call _ =>
      cases hstep : call.step d.site with
      | blocked | next =>
        rw [hstep] at h
        cases h
      | done x result =>
        rw [hstep] at h
        cases h
        exact ⟨rfl, x, hstep⟩

/-- A call that has returned by some actions ran its last section after some of them. -/
theorem step_of_mem_returns (h : e ∈ d.returns actions) :
    ∃ before, before <+: actions ∧ e.found = (d.after before).site.table ∧
      ∃ x, e.call.step (d.after before).site = .done x e.result := by
  induction actions generalizing d with
  | nil => cases h
  | cons action rest ih =>
    -- The call returns by the first action, or it returns at the desk that this one leaves.
    rcases mem_returns_cons.1 h with hnow | hlater
    · obtain ⟨hfound, hstep⟩ := step_of_returned? hnow
      exact ⟨[], List.nil_prefix, hfound, hstep⟩
    · obtain ⟨before, hprefix, hfound, hstep⟩ := ih hlater
      exact ⟨action :: before, List.cons_prefix_cons.2 ⟨rfl, hprefix⟩, hfound, hstep⟩

/-- An action remembers the vehicle whose entry it books, and forgets nobody. -/
theorem hasEntered_act (d : Desk) (action : Action) (v : VehicleId) :
    (d.act action).site.table.hasEntered v = true ↔ d.site.table.hasEntered v = true ∨
      ∃ e, d.returned? action = some e ∧ e.call.BooksEntry e.found v := by
  cases action with
  | make call => simp [act, returned?]
  | run place =>
    unfold act returned?
    dsimp only
    cases d.calls[place]? with
    | none => simp
    | some call =>
      have hsection : (call.step d.site).Reaches fun y => y.table.hasEntered v = true ↔
          d.site.table.hasEntered v = true ∨ call.BooksEntry d.site.table v :=
        TableCall.step_reaches_of_leads fun t hleads => hleads.hasEntered_iff v
      dsimp only
      cases hstep : call.step d.site with
      | blocked => simp
      | next x c =>
        -- Entries have a single section, so a call that goes on has booked none.
        rw [hstep] at hsection
        simpa [TableCall.not_booksEntry_of_next hstep, Progress.Reaches] using hsection
      | done x result =>
        rw [hstep] at hsection
        simpa [Progress.Reaches] using hsection

/-- The vehicles remembered are those remembered before, and those whose entries were booked since
then. -/
theorem hasEntered_after (d : Desk) (actions : List Action) (v : VehicleId) :
    (d.after actions).site.table.hasEntered v = true ↔ d.site.table.hasEntered v = true ∨
      ∃ e ∈ d.returns actions, e.call.BooksEntry e.found v := by
  induction actions generalizing d with
  | nil => simp [after, returns]
  | cons action rest ih =>
    have hrest := ih (d.act action)
    rw [hasEntered_act, or_assoc] at hrest
    refine hrest.trans (or_congr_right ?_)
    constructor
    · rintro (⟨e, hnow, hbooks⟩ | ⟨e, hlater, hbooks⟩)
      · exact ⟨e, mem_returns_cons.2 (.inl hnow), hbooks⟩
      · exact ⟨e, mem_returns_cons.2 (.inr hlater), hbooks⟩
    · rintro ⟨e, he, hbooks⟩
      rcases mem_returns_cons.1 he with hnow | hlater
      · exact .inl ⟨e, hnow, hbooks⟩
      · exact .inr ⟨e, hlater, hbooks⟩

end Desk

/-! ### What the memory is worth -/

namespace SegmentTable

variable {t : SegmentTable} {v : VehicleId} {r : Route} {s : Segment}

/-- A vehicle that enters with less than it holds is told that its entry is incomplete. -/
theorem Coherent.enter_of_excess (h : t.Coherent) (hconsistent : t.ledger.Consistent)
    (hheld : ∀ s ∈ r, t.ledger.held.get s = some v) (hexcess : t.ledger.held.get s = some v)
    (hs : s ∉ r) : (t.enter v r).2 = .error (.incompleteEntry v) := by
  have hroutes := (Ledger.consistent_iff h.reserved_of_held).1 hconsistent
  rw [enter_of_held hheld]
  refine Ledger.check_eq_error_of_stray (s := s) h.reserved_of_held (fun s' => ?_) ?_
  · -- Nobody else strayed before the entry, and their routes are what they were.
    by_cases hv : t.ledger.held.get s' = some v ∧ s' ∉ r
    · right
      simp [Ledger.strayProblem?, Ledger.get?_inside_enter, hv]
    · left
      refine Ledger.strayProblem?_eq_none_iff.2 fun w hw r' hr' => ?_
      rw [Ledger.get?_inside_enter] at hr'
      split at hr'
      · next heq =>
        cases hr'
        exact Decidable.of_not_not fun hs' => hv ⟨heq ▸ hw, hs'⟩
      · exact (hroutes w r' hr' s').1 hw
  · intro hnone
    refine hs (Ledger.strayProblem?_eq_none_iff.1 hnone v hexcess r ?_)
    rw [Ledger.get?_inside_enter, if_pos rfl]

/-- What the memory of a table says of the calls that have returned. -/
structure RemembersEntries (t : SegmentTable) (returns : List Return) : Prop where
  /-- A vehicle is remembered if and only if it once called for an entry while it held the route
  that it named. -/
  booked : ∀ v, t.hasEntered v = true ↔ ∃ e ∈ returns, e.call.BooksEntry e.found v
  /-- An entry that succeeded is remembered, and it was that of a vehicle that held precisely its
  route. -/
  succeeded : ∀ e ∈ returns, ∀ v r, e.call = .enter v r → e.result = .ok () →
    t.hasEntered v = true ∧ ∀ s, e.found.ledger.held.get s = some v ↔ s ∈ r
  /-- A vehicle that entered with less than it held was told that its entry is incomplete, and is
  remembered all the same. -/
  excess : ∀ e ∈ returns, ∀ v r, e.call = .enter v r → e.found.ledger.Consistent →
    (∀ s ∈ r, e.found.ledger.held.get s = some v) →
    (∃ s, e.found.ledger.held.get s = some v ∧ s ∉ r) →
    e.result = .error (.incompleteEntry v) ∧ t.hasEntered v = true
  /-- Of a vehicle that only entered while the books were right, and never with less than it held,
  the memory tells whether an entry succeeded. -/
  accurate : ∀ v, (∀ e ∈ returns, ∀ r, e.call = .enter v r → e.found.ledger.Consistent ∧
      ∀ s, e.found.ledger.held.get s = some v → s ∈ r) →
    (t.hasEntered v = true ↔ ∃ e ∈ returns, ∃ r, e.call = .enter v r ∧ e.result = .ok ())

/-- An entry that has returned is that of the table that it found. -/
theorem enter_of_mem_returns {d : Desk} {actions : List Desk.Action} {e : Return}
    (hd : d.site.table.Coherent) (he : e ∈ d.returns actions) (hcall : e.call = .enter v r) :
    e.found.Coherent ∧ (e.found.enter v r).2 = e.result := by
  obtain ⟨before, -, hfound, x, hstep⟩ := Desk.step_of_mem_returns he
  rw [hfound]
  rw [hcall, TableCall.step] at hstep
  injection hstep with _ hresult
  exact ⟨Desk.coherent_after hd before, hresult⟩

/-- A table that remembers the vehicles whose entries were booked is right about the entries of
coherent tables. -/
theorem remembersEntries_of_booked {returns : List Return}
    (hbooked : ∀ v, t.hasEntered v = true ↔ ∃ e ∈ returns, e.call.BooksEntry e.found v)
    (henter : ∀ e ∈ returns, ∀ v r, e.call = .enter v r →
      e.found.Coherent ∧ (e.found.enter v r).2 = e.result) : t.RemembersEntries returns := by
  have hsucceeded : ∀ e ∈ returns, ∀ v r, e.call = .enter v r → e.result = .ok () →
      ∀ s, e.found.ledger.held.get s = some v ↔ s ∈ r := by
    intro e he v r hcall hok
    obtain ⟨hcoherent, hresult⟩ := henter e he v r hcall
    exact hcoherent.held_iff_of_enter (hresult.trans hok)
  have hremembered : ∀ e ∈ returns, ∀ v r, e.call = .enter v r →
      (∀ s ∈ r, e.found.ledger.held.get s = some v) → t.hasEntered v = true :=
    fun e he v r hcall hheld => (hbooked v).2 ⟨e, he, r, hcall, hheld⟩
  refine ⟨hbooked, ?_, ?_, ?_⟩
  · intro e he v r hcall hok
    have hheld := hsucceeded e he v r hcall hok
    exact ⟨hremembered e he v r hcall fun s => (hheld s).2, hheld⟩
  · rintro e he v r hcall hconsistent hheld ⟨s, hexcess, hs⟩
    obtain ⟨hcoherent, hresult⟩ := henter e he v r hcall
    exact ⟨hresult.symm.trans (hcoherent.enter_of_excess hconsistent hheld hexcess hs),
      hremembered e he v r hcall hheld⟩
  · intro v hcareful
    constructor
    · intro hentered
      obtain ⟨e, he, r, hcall, hheld⟩ := (hbooked v).1 hentered
      obtain ⟨hcoherent, hresult⟩ := henter e he v r hcall
      obtain ⟨hconsistent, hwithin⟩ := hcareful e he r hcall
      refine ⟨e, he, r, hcall, hresult.symm.trans ?_⟩
      exact (hcoherent.enter_eq_ok_iff hconsistent).2 fun s => ⟨hwithin s, hheld s⟩
    · rintro ⟨e, he, r, hcall, hok⟩
      exact hremembered e he v r hcall fun s => (hsucceeded e he v r hcall hok s).2

/-- Whatever operations are called in whatever order, nested in callbacks or resumed after a wait,
the table remembers precisely the vehicles that called for an entry while they held the route that
they named. These are the ones whose entries succeeded, and those who were told afterwards that the
books are wrong. -/
theorem remembersEntries_after (config : Config) (total : Nat) (console : Console)
    (actions : List Desk.Action) :
    ((Desk.start config total console).after actions).site.table.RemembersEntries
      ((Desk.start config total console).returns actions) := by
  refine remembersEntries_of_booked (fun v => ?_) fun e he v r =>
    enter_of_mem_returns coherent_empty he
  -- Nobody is remembered at first.
  exact (Desk.hasEntered_after _ actions v).trans (or_iff_right nofun)

/-- A vehicle takes two segments and enters with one of them. -/
def undershooting : List Desk.Action :=
  [.make (.reserve 0 ⟨true, true, false⟩), .run 0, .make (.tryAcquire .ab 0 false), .run 0, .run 0,
    .make (.tryAcquire .bc 0 false), .run 0, .run 0, .make (.enter 0 (.single .ab)), .run 0]

/-- The only entry of the vehicle fails, and yet the vehicle is remembered. -/
theorem not_hasEntered_iff_succeeded :
    ¬ (((Desk.start {} 0 {}).after undershooting).site.table.hasEntered 0 = true ↔
      ∃ e ∈ (Desk.start {} 0 {}).returns undershooting, ∃ r,
        e.call = .enter 0 r ∧ e.result = .ok ()) := by
  have hreturns : ((Desk.start {} 0 {}).returns undershooting).map (fun e => (e.call, e.result)) =
      [(.reserve 0 ⟨true, true, false⟩, .ok ()), (.tryAcquire .ab 0 true, .ok ()),
        (.tryAcquire .bc 0 true, .ok ()),
        (.enter 0 (.single .ab), .error (.incompleteEntry 0))] := rfl
  have hentered : ((Desk.start {} 0 {}).after undershooting).site.table.hasEntered 0 = true := by
    decide
  rintro hiff
  obtain ⟨e, he, r, hcall, hok⟩ := hiff.1 hentered
  have hmem := List.mem_map_of_mem (f := fun e : Return => (e.call, e.result)) he
  rw [hreturns, hcall, hok] at hmem
  simp at hmem

end SegmentTable

end Junction
