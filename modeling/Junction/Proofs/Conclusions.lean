import Junction.Proofs.Coherence
import Junction.Proofs.Aborts

/-!
# What a conclusion says

A run may be concluded after any history. The conclusion is the fault of the abort that came first,
or else the first segment in cycle order that somebody still holds or has reserved, or else a
report. It never looks at the counters, and yet the counters of every report agree: the books
balance because slots and books are coherent after every section of every operation, and nobody
holds a segment of a clear table.

A yard is a site with calls of all the operations that it offers, those of the table among them. As
at a desk, other calls may be made and may run between two sections of a call, so a sequence of
operations is the special case in which each call runs to its end before the next one is made.

## Main definitions

* `SiteCall`, `SiteCall.step` — a call of an operation of the site, and its next section
* `Yard`, `Yard.after` — the calls under way, with the faults of the aborts in the order of the lock
* `Yard.Concludes` — what is promised of the conclusion

## Main results

* `SiteCall.kept_step` — each section keeps the table coherent and the first fault
* `Yard.concludes_after_calls` — the conclusion after any calls
-/

namespace Junction

/-- A segment that nobody holds and nobody has reserved. -/
def Ledger.IsFree (l : Ledger) (s : Segment) : Prop :=
  l.held.get s = none ∧ l.reserved.get s = none

instance (l : Ledger) (s : Segment) : Decidable (l.IsFree s) :=
  inferInstanceAs (Decidable (_ ∧ _))

namespace Ledger

variable {l : Ledger}

theorem not_isFree_iff {s : Segment} :
    ¬ l.IsFree s ↔ ((l.held.get s).isSome || (l.reserved.get s).isSome) = true := by
  simp only [IsFree, ← Option.not_isSome_iff_eq_none, Bool.or_eq_true]
  tauto

theorem leaked?_eq_none_iff : l.leaked? = none ↔ ∀ s, l.IsFree s := by
  rw [leaked?, List.find?_eq_none]
  constructor
  · intro h s
    by_contra hs
    exact h s (by cases s <;> decide) (not_isFree_iff.1 hs)
  · intro h s _ hs
    exact not_isFree_iff.2 hs (h s)

/-- The leaked segment is the first one in cycle order that is not free. -/
theorem leaked?_eq_some {s : Segment} (hs : ¬ l.IsFree s)
    (hbefore : ∀ s', Threefold.position s' < Threefold.position s → l.IsFree s') :
    l.leaked? = some s := by
  have hfree : ∀ s', Threefold.position s' < Threefold.position s →
      ((l.held.get s').isSome || (l.reserved.get s').isSome) = false := by
    intro s' hlt
    simp [(hbefore s' hlt).1, (hbefore s' hlt).2]
  rw [not_isFree_iff] at hs
  cases s with
  | ab => simp only [leaked?, Segment.all, List.find?_cons, hs]
  | bc => simp only [leaked?, Segment.all, List.find?_cons, hs, hfree .ab (by decide)]
  | ca =>
    simp only [leaked?, Segment.all, List.find?_cons, hs, hfree .ab (by decide),
      hfree .bc (by decide)]

end Ledger

theorem Occupancy.isClear_iff {o : Occupancy} :
    o.isClear = true ↔ ∀ s, o.held.get s = none ∧ o.reserved.get s = none := by
  simp only [isClear, Bool.and_eq_true, Trio.toList, List.all_cons, List.all_nil,
    Option.isNone_iff_eq_none, Bool.and_true]
  constructor
  · rintro ⟨⟨h₁, h₂, h₃⟩, h₁', h₂', h₃'⟩ s
    cases s with
    | ab => exact ⟨h₁, h₁'⟩
    | bc => exact ⟨h₂, h₂'⟩
    | ca => exact ⟨h₃, h₃'⟩
  · intro h
    exact ⟨⟨(h .ab).1, (h .bc).1, (h .ca).1⟩, (h .ab).2, (h .bc).2, (h .ca).2⟩

theorem Occupancy.isBalanced_iff {o : Occupancy} :
    o.isBalanced = true ↔ ∀ s, o.acquires.get s = o.releases.get s := by
  rw [isBalanced, beq_iff_eq]
  exact ⟨fun h s => by rw [h], Trio.ext_get⟩

/-! ### Calls -/

/-- A call of an operation of the site, at a moment when it is between two sections. -/
inductive SiteCall where
  /-- A vehicle joins the queue. -/
  | arrive (v : Vehicle) (point : Arrival)
  /-- A vehicle is retired without admission. -/
  | reject (spec : VehicleSpec) (point : Rejection)
  /-- A vehicle has crossed. -/
  | complete (point : Completion)
  /-- The run is aborted with a fault. -/
  | abort (fault : Fault) (point : Abort)
  /-- An event is logged. -/
  | record (v : VehicleId) (kind : Event.Kind)
  /-- A grant is acknowledged. -/
  | acknowledge
  /-- An acknowledgment is taken. -/
  | takeAck
  /-- An operation of the table. -/
  | table (call : TableCall)
  /-- An operation of the queue. A scan that reserves routes is made of the reservations and of the
  removal of the vehicle that it has found. -/
  | queue (change : WaitingQueue → WaitingQueue)
  /-- The run is concluded. -/
  | conclude

/-- A step of a procedure as a section of a call; what it returns is of no interest. -/
def Progress.during {π ρ π' : Type} (p : Progress π ρ) (call : π → π') : Progress π' Unit :=
  match p with
  | .blocked => .blocked
  | .next site point => .next site (call point)
  | .done site _ => .done site ()

theorem Progress.reaches_during {π ρ π' : Type} {p : Progress π ρ} {call : π → π'}
    {P : Site → Prop} (h : p.Reaches P) : (p.during call).Reaches P := by
  cases p with
  | blocked => trivial
  | next site point => exact h
  | done site result => exact h

namespace SiteCall

/-- The call before its first section. -/
def opened : SiteCall → SiteCall
  | arrive v _ => arrive v .lock
  | reject spec _ => reject spec .log
  | complete _ => complete .count
  | abort fault _ => abort fault (.raise fault)
  | table call => table call.opened
  | call => call

/-- The next section of a call. -/
def step (x : Site) : SiteCall → Progress SiteCall Unit
  | arrive v point => (point.step v x).during (arrive v)
  | reject spec point => (point.step spec x).during (reject spec)
  | complete point => (point.step x).during complete
  | abort fault point => (point.step x).during (abort fault)
  | record v kind => .done (x.record v kind) ()
  | acknowledge => .done x.acknowledge ()
  | takeAck =>
    match x.takeAck? with
    | none => .blocked
    | some x => .done x ()
  | table call => (call.step x).during table
  | queue change => .done (x.withQueue (change x.queue)) ()
  | conclude => .done x.conclude.1 ()

/-- The fault that the next section of a call brings under the lock of the fault. -/
def brought : SiteCall → List Fault
  | abort _ (.raise fault) => [fault]
  | _ => []

end SiteCall

/-- A site and the calls of its operations that have not returned. -/
structure Yard where
  /-- The site. -/
  site : Site
  /-- The calls, in the order in which they were made. -/
  calls : List SiteCall := []
  /-- The faults of the aborts that have had the lock of the fault, in that order. -/
  raised : List Fault := []

namespace Yard

/-- What can happen in a yard. -/
inductive Action where
  /-- Somebody makes a call, possibly in the middle of another one. -/
  | make (call : SiteCall)
  /-- The call at a place runs its next section, if it has one. -/
  | run (place : Nat)

/-- The yard after an action. -/
def act (y : Yard) : Action → Yard
  | .make call => { y with calls := y.calls ++ [call.opened] }
  | .run place =>
    match y.calls[place]? with
    | none => y
    | some call =>
      match call.step y.site with
      | .blocked => y
      | .next site call' => ⟨site, y.calls.set place call', y.raised ++ call.brought⟩
      | .done site _ => ⟨site, y.calls.eraseIdx place, y.raised ++ call.brought⟩

/-- The yard after some actions. -/
def after (y : Yard) (actions : List Action) : Yard := actions.foldl act y

/-- The yard before the first call. -/
def start (config : Config) (total : Nat) (console : Console) : Yard :=
  { site := .start config total console }

end Yard

/-! ### Sections -/

/-- What a section leaves as it was: the table stays coherent, and the fault of the site is the
first of those brought under the lock. -/
structure Site.Kept (brought : List Fault) (x x' : Site) : Prop where
  /-- The table stays coherent. -/
  coherent : x.table.Coherent → x'.table.Coherent
  /-- A new fault is kept if there was none. -/
  fault : x'.fault = x.fault.or brought.head?

theorem Site.Kept.of_coherent {x x' : Site} (hcoherent : x.table.Coherent → x'.table.Coherent)
    (hfault : x'.fault = x.fault) : Kept [] x x' :=
  ⟨hcoherent, by rw [hfault, List.head?_nil, Option.or_none]⟩

theorem Site.Kept.of_eq {x x' : Site} (htable : x'.table = x.table) (hfault : x'.fault = x.fault) :
    Kept [] x x' :=
  .of_coherent (fun h => htable ▸ h) hfault

theorem Site.table_conclude (x : Site) : x.conclude.1.table = x.table := by
  unfold conclude
  split
  · rfl
  · split <;> rfl

theorem Site.fault_conclude (x : Site) : x.conclude.1.fault = x.fault := by
  unfold conclude
  split
  · rfl
  · split <;> rfl

/-- The table's operations know nothing of the fault. -/
theorem TableCall.fault_step (x : Site) (call : TableCall) :
    (call.step x).Reaches (·.fault = x.fault) := by
  refine (call.step_reaches x).mono ?_
  rintro y ⟨t, -, rfl⟩
  rfl

theorem Arrival.kept_step (x : Site) (v : Vehicle) (point : Arrival) :
    (point.step v x).Reaches (Site.Kept [] x) := by
  cases point with
  | lock =>
    rw [Arrival.step]
    split
    · exact trivial
    · split <;> exact .of_eq rfl rfl
  | _ => exact .of_eq rfl rfl

theorem Abort.kept_step (x : Site) (fault : Fault) (point : Abort) :
    (point.step x).Reaches (Site.Kept (SiteCall.abort fault point).brought x) := by
  cases point with
  | raise f =>
    rw [Abort.step]
    split
    · exact trivial
    · refine ⟨?_, x.fault_raise f⟩
      have htable : (x.raise f).table = x.table := by
        unfold Site.raise
        split <;> rfl
      exact fun h => htable ▸ h
  | gather c =>
    rw [Abort.step]
    split
    · exact .of_eq rfl rfl
    · split
      · exact trivial
      · exact .of_eq rfl rfl
  | drain c drained =>
    rw [Abort.step]
    split
    · exact trivial
    · exact .of_eq rfl rfl
  | wake drained => cases drained <;> exact .of_eq rfl rfl
  | _ => exact .of_eq rfl rfl

/-- Every section of a call keeps the table coherent, and keeps the fault unless it is the first
one. -/
theorem SiteCall.kept_step (x : Site) (call : SiteCall) :
    (call.step x).Reaches (Site.Kept call.brought x) := by
  cases call with
  | arrive v point => exact Progress.reaches_during (Arrival.kept_step x v point)
  | reject spec point =>
    refine Progress.reaches_during ?_
    cases point <;> exact .of_eq rfl rfl
  | complete point =>
    refine Progress.reaches_during ?_
    cases point <;> exact .of_eq rfl rfl
  | abort fault point => exact Progress.reaches_during (Abort.kept_step x fault point)
  | takeAck =>
    rw [SiteCall.step]
    cases htake : x.takeAck? with
    | none => exact trivial
    | some x' =>
      unfold Site.takeAck? at htake
      split at htake
      · cases htake
        exact .of_eq rfl rfl
      · cases htake
  | table call =>
    refine Progress.reaches_during ?_
    have hcoherent := fun h => TableCall.coherent_step (x := x) h call
    have hfault := TableCall.fault_step x call
    -- Both facts are about what the same section comes to.
    generalize call.step x = p at hcoherent hfault
    cases p with
    | blocked => trivial
    | next x' call' => exact .of_coherent hcoherent hfault
    | done x' result => exact .of_coherent hcoherent hfault
  | conclude => exact .of_eq x.table_conclude x.fault_conclude
  | record v kind => exact .of_eq rfl rfl
  | acknowledge => exact .of_eq rfl rfl
  | queue change => exact .of_eq rfl rfl

/-! ### Conclusions -/

namespace Yard

/-- A yard whose table is coherent and whose site keeps the first fault that was raised. -/
structure Faithful (y : Yard) : Prop where
  /-- Slots and books agree. -/
  coherent : y.site.table.Coherent
  /-- The fault of the site is the first one. -/
  fault : y.site.fault = y.raised.head?

variable {y : Yard}

theorem Faithful.kept (h : y.Faithful) {brought : List Fault} {x : Site}
    (hkept : y.site.Kept brought x) (calls : List SiteCall) :
    Faithful ⟨x, calls, y.raised ++ brought⟩ := by
  refine ⟨hkept.coherent h.coherent, ?_⟩
  rw [hkept.fault, h.fault, List.head?_append]

theorem Faithful.act (h : y.Faithful) (action : Action) : (y.act action).Faithful := by
  cases action with
  | make call => exact ⟨h.coherent, h.fault⟩
  | run place =>
    unfold Yard.act
    dsimp only
    split
    · exact h
    · next call _ =>
      have hstep := call.kept_step y.site
      split
      · exact h
      · next site call' heq =>
        rw [heq] at hstep
        exact h.kept hstep _
      · next site result heq =>
        rw [heq] at hstep
        exact h.kept hstep _

theorem Faithful.after (h : y.Faithful) (actions : List Action) : (y.after actions).Faithful := by
  induction actions generalizing y with
  | nil => exact h
  | cons action rest ih => exact ih (h.act action)

theorem faithful_start (config : Config) (total : Nat) (console : Console) :
    (start config total console).Faithful :=
  ⟨SegmentTable.coherent_empty, rfl⟩

/-- What is promised of the conclusion of a run. -/
structure Concludes (y : Yard) : Prop where
  /-- After an abort it is the fault of the first one. -/
  faulty : ∀ f rest, y.raised = f :: rest → y.site.conclude.2 = .error f
  /-- Without an abort it is the first segment in cycle order that is not free. -/
  leaked : y.raised = [] → ∀ s, ¬ y.site.table.ledger.IsFree s →
    (∀ s', Threefold.position s' < Threefold.position s → y.site.table.ledger.IsFree s') →
    y.site.conclude.2 = .error (.protocolViolation (.leakedHold s))
  /-- Without an abort and with all segments free it is the report. -/
  sound : y.raised = [] → (∀ s, y.site.table.ledger.IsFree s) →
    y.site.conclude.2 = .ok y.site.report
  /-- A report is about a clear table whose counters agree. -/
  accounted : ∀ report, y.site.conclude.2 = .ok report →
    report = y.site.report ∧ report.occupancy.isClear = true ∧
      report.occupancy.isBalanced = true

theorem Faithful.fault_eq_none (h : y.Faithful) (hraised : y.raised = []) :
    y.site.fault = none := by
  rw [h.fault, hraised, List.head?_nil]

/-- On a coherent table with every segment free, the counters agree. -/
theorem Faithful.isBalanced (h : y.Faithful) (hfree : ∀ s, y.site.table.ledger.IsFree s) :
    y.site.report.occupancy.isBalanced = true := by
  refine Occupancy.isBalanced_iff.2 fun s => ?_
  have hbalance := h.coherent.balance s
  rwa [(hfree s).1] at hbalance

theorem Faithful.accounted (h : y.Faithful) {report : Report}
    (hreport : y.site.conclude.2 = .ok report) :
    report = y.site.report ∧ report.occupancy.isClear = true ∧
      report.occupancy.isBalanced = true := by
  unfold Site.conclude at hreport
  split at hreport
  · cases hreport
  · split at hreport
    · cases hreport
    · next hleaked =>
      cases hreport
      have hfree := Ledger.leaked?_eq_none_iff.1 hleaked
      exact ⟨rfl, Occupancy.isClear_iff.2 hfree, h.isBalanced hfree⟩

theorem Faithful.concludes (h : y.Faithful) : y.Concludes := by
  refine ⟨?_, ?_, ?_, fun report => h.accounted⟩
  · intro f rest hraised
    have hfault : y.site.fault = some f := by rw [h.fault, hraised, List.head?_cons]
    simp only [Site.conclude, hfault]
  · intro hraised s hs hbefore
    simp only [Site.conclude, h.fault_eq_none hraised, Ledger.leaked?_eq_some hs hbefore]
  · intro hraised hfree
    simp only [Site.conclude, h.fault_eq_none hraised, Ledger.leaked?_eq_none_iff.2 hfree]

/-- Whatever operations are called in whatever order, and whether they succeed or fail, in turn or
in the middle of each other: the conclusion is the fault of the abort that had the lock first, or
else the first segment that is held or reserved, or else the report; and every report is about a
clear table on which each segment was acquired as often as released. -/
theorem concludes_after_calls (config : Config) (total : Nat) (console : Console)
    (actions : List Action) : ((start config total console).after actions).Concludes :=
  ((faithful_start config total console).after actions).concludes

end Yard

end Junction
