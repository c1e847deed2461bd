import Mathlib.Data.Prod.Basic
import Junction.Rehearsal

/-!
# The volume changes what is written and nothing else

A run may be verbose or not, and its console may be quiet or not. Whatever it is, the run says the
same: there is one transcript of all that the members of a run have to say, and the volume selects
the entries of the transcript that are written.

Two runs at different volumes are compared step by step. They are alike if they differ in their
volumes and in what was written only, and if both have written their part of one transcript.

## Main definitions

* `Volume`, `Volume.part` — a volume, and what is written at it of a transcript
* `Site.under` — a site at a volume, after a transcript
* `Site.Alike`, `Scene.Alike` — what differs in the volume only

## Main results

* `Task.alike_step?`, `Scheduler.alike_step?` — the members do the same on alike sites
* `Scene.Alike.step?` — the same step leads from alike scenes to alike ones
* `Config.alike_run` — a whole run comes to the same result
-/

namespace Junction

/-- Whether an entry carries a level. -/
def Console.Entry.isLeveled : Console.Entry → Bool
  | plain _ => false
  | leveled _ _ => true

/-- Whether an entry is a debug line. -/
def Console.Entry.isDebug : Console.Entry → Bool
  | leveled .debug _ => true
  | _ => false

/-- How much of a run is written. -/
structure Volume where
  /-- Whether every event is echoed. -/
  verbose : Bool
  /-- Whether the console drops entries with a level. -/
  quiet : Bool
deriving DecidableEq, Repr

namespace Volume

/-- Whether an entry of the transcript is written. -/
def shows (a : Volume) : Console.Entry → Bool
  | .plain _ => true
  | .leveled .debug _ => a.verbose && !a.quiet
  | .leveled _ _ => !a.quiet

/-- What is written of a transcript. -/
def part (a : Volume) (said : List Console.Entry) : List Console.Entry := said.filter a.shows

theorem part_append (a : Volume) (said more : List Console.Entry) :
    a.part (said ++ more) = a.part said ++ a.part more :=
  List.filter_append ..

/-- A quiet console drops the entries with a level. -/
theorem part_quiet (verbose : Bool) (said : List Console.Entry) :
    part ⟨verbose, true⟩ said = (part ⟨verbose, false⟩ said).filter (!·.isLeveled) := by
  rw [part, part, List.filter_filter]
  refine List.filter_congr fun entry _ => ?_
  cases entry with
  | plain text => rfl
  | leveled level text => cases level <;> simp [shows, Console.Entry.isLeveled]

/-- A run that is not verbose drops the debug lines. -/
theorem part_terse (quiet : Bool) (said : List Console.Entry) :
    part ⟨false, quiet⟩ said = (part ⟨true, quiet⟩ said).filter (!·.isDebug) := by
  rw [part, part, List.filter_filter]
  refine List.filter_congr fun entry _ => ?_
  cases entry with
  | plain text => rfl
  | leveled level text => cases level <;> simp [shows, Console.Entry.isDebug]

theorem drop_part (a : Volume) (said more : List Console.Entry) :
    (a.part (said ++ more)).drop (a.part said).length = a.part more := by
  rw [part_append, List.drop_left]

/-- The console of a run at a volume that has said something. -/
def console (a : Volume) (said : List Console.Entry) : Console := ⟨a.quiet, a.part said⟩

/-- A message other than a debug line depends on the console alone. -/
theorem report_console (a : Volume) (said : List Console.Entry) {level : Console.Level}
    (h : level ≠ .debug) (text : Option String) :
    (a.console said).report level text = a.console (said ++ [.leveled level text]) := by
  obtain ⟨verbose, quiet⟩ := a
  have hshows : shows ⟨verbose, quiet⟩ (.leveled level text) = !quiet := by
    cases level with
    | debug => exact absurd rfl h
    | _ => rfl
  cases quiet <;> simp [console, Console.report, Console.write, part, hshows]

/-- A debug line depends on the run, too. -/
theorem debug_console (a : Volume) (said : List Console.Entry) (text : String) :
    (if a.verbose then (a.console said).debug text else a.console said) =
      a.console (said ++ [.leveled .debug (some text)]) := by
  obtain ⟨verbose, quiet⟩ := a
  cases verbose <;> cases quiet <;>
    simp [console, Console.debug, Console.report, Console.write, part, shows]

end Volume

theorem rel_map {α β γ δ : Type} {R : α → β → Prop} {S : γ → δ → Prop} {o : Option α}
    {o' : Option β} (h : Option.Rel R o o') {f : α → γ} {g : β → δ}
    (hfg : ∀ x y, R x y → S (f x) (g y)) : Option.Rel S (o.map f) (o'.map g) := by
  cases h with
  | none => exact .none
  | some h => exact .some (hfg _ _ h)

theorem rel_ite {α β : Type} {R : α → β → Prop} {c : Prop} [Decidable c] {o p : Option α}
    {o' p' : Option β} (h : Option.Rel R o o') (h' : Option.Rel R p p') :
    Option.Rel R (if c then o else p) (if c then o' else p') := by
  split
  · exact h
  · exact h'

/-! ### Sites -/

namespace Site

/-- A site at a volume, after a transcript. -/
def under (x : Site) (a : Volume) (said : List Console.Entry) : Site :=
  { x with
    config := { x.config with verbose := a.verbose }
    console := a.console said }

/-- Two sites are one at two volumes. What both runs have said starts with what was heard of them so
far. -/
def Alike (a b : Volume) (heard : List Console.Entry) (x y : Site) : Prop :=
  ∃ (z : Site) (said : List Console.Entry),
    x = z.under a (heard ++ said) ∧ y = z.under b (heard ++ said)

variable {a b : Volume} {heard : List Console.Entry} {x y : Site}

/-- The site of a run that says one thing more. -/
theorem under_console (x : Site) (a : Volume) (said : List Console.Entry) {c : Console}
    {entry : Console.Entry} (h : c = a.console (said ++ [entry])) :
    { x.under a said with console := c } = x.under a (said ++ [entry]) := by
  rw [h]
  rfl

@[simp] theorem table_under (x : Site) (a : Volume) (said : List Console.Entry) :
    (x.under a said).table = x.table := rfl

@[simp] theorem queue_under (x : Site) (a : Volume) (said : List Console.Entry) :
    (x.under a said).queue = x.queue := rfl

@[simp] theorem fault_under (x : Site) (a : Volume) (said : List Console.Entry) :
    (x.under a said).fault = x.fault := rfl

theorem record_under (x : Site) (a : Volume) (said : List Console.Entry) (v : VehicleId)
    (kind : Event.Kind) :
    (x.under a said).record v kind =
      (x.record v kind).under a
        (said ++ [.leveled .debug (some (Event.text ⟨x.events.length, v, kind⟩))]) :=
  (x.record v kind).under_console a said (a.debug_console said _)

theorem warn_under (x : Site) (a : Volume) (said : List Console.Entry) (text : String) :
    { x.under a said with console := (x.under a said).console.warn text } =
      x.under a (said ++ [.leveled .warning (some text)]) :=
  x.under_console a said (a.report_console said (by decide) _)

theorem info_under (x : Site) (a : Volume) (said : List Console.Entry) (text : String) :
    { x.under a said with console := (x.under a said).console.info text } =
      x.under a (said ++ [.leveled .info (some text)]) :=
  x.under_console a said (a.report_console said (by decide) _)

theorem debug_under (x : Site) (a : Volume) (said : List Console.Entry) (text : String) :
    (if a.verbose then { x.under a said with console := (x.under a said).console.debug text }
      else x.under a said) = x.under a (said ++ [.leveled .debug (some text)]) := by
  rw [← x.under_console a said (a.debug_console said text)]
  split <;> rfl

theorem Alike.intro (z : Site) (said : List Console.Entry) (hx : x = z.under a said)
    (hy : y = z.under b said) : x.Alike a b [] y :=
  ⟨z, said, hx, hy⟩

theorem alike_of_said (z : Site) {said : List Console.Entry} {entry : Console.Entry}
    (hx : x = z.under a (heard ++ said ++ [entry]))
    (hy : y = z.under b (heard ++ said ++ [entry])) :
    x.Alike a b heard y :=
  ⟨z, said ++ [entry], by rw [hx, List.append_assoc], by rw [hy, List.append_assoc]⟩

namespace Alike

theorem table (h : x.Alike a b heard y) : x.table = y.table := by
  obtain ⟨z, said, rfl, rfl⟩ := h
  rfl

theorem queue (h : x.Alike a b heard y) : x.queue = y.queue := by
  obtain ⟨z, said, rfl, rfl⟩ := h
  rfl

theorem withTable (h : x.Alike a b heard y) (table : SegmentTable) :
    (x.withTable table).Alike a b heard (y.withTable table) := by
  obtain ⟨z, said, rfl, rfl⟩ := h
  exact ⟨z.withTable table, said, rfl, rfl⟩

theorem withQueue (h : x.Alike a b heard y) (queue : WaitingQueue) :
    (x.withQueue queue).Alike a b heard (y.withQueue queue) := by
  obtain ⟨z, said, rfl, rfl⟩ := h
  exact ⟨z.withQueue queue, said, rfl, rfl⟩

theorem wake (h : x.Alike a b heard y) (channel : Nat) :
    (x.wake channel).Alike a b heard (y.wake channel) := by
  obtain ⟨z, said, rfl, rfl⟩ := h
  exact ⟨z.wake channel, said, rfl, rfl⟩

theorem acknowledge (h : x.Alike a b heard y) :
    x.acknowledge.Alike a b heard y.acknowledge := by
  obtain ⟨z, said, rfl, rfl⟩ := h
  exact ⟨z.acknowledge, said, rfl, rfl⟩

theorem record (h : x.Alike a b heard y) (v : VehicleId) (kind : Event.Kind) :
    (x.record v kind).Alike a b heard (y.record v kind) := by
  obtain ⟨z, said, rfl, rfl⟩ := h
  exact alike_of_said _ (z.record_under a _ v kind) (z.record_under b _ v kind)

theorem warn (h : x.Alike a b heard y) (text : String) :
    Alike a b heard { x with console := x.console.warn text }
      { y with console := y.console.warn text } := by
  obtain ⟨z, said, rfl, rfl⟩ := h
  exact alike_of_said _ (z.warn_under a _ text) (z.warn_under b _ text)

theorem info (h : x.Alike a b heard y) (text : String) :
    Alike a b heard { x with console := x.console.info text }
      { y with console := y.console.info text } := by
  obtain ⟨z, said, rfl, rfl⟩ := h
  exact alike_of_said _ (z.info_under a _ text) (z.info_under b _ text)

theorem raise (h : x.Alike a b heard y) (fault : Fault) :
    (x.raise fault).Alike a b heard (y.raise fault) := by
  obtain ⟨z, said, rfl, rfl⟩ := h
  unfold Site.raise
  simp only [fault_under]
  split
  · exact ⟨{ z with faultLocked := true }, said, rfl, rfl⟩
  · exact warn ⟨{ z with faultLocked := true, fault := some fault }, said, rfl, rfl⟩ _

theorem takeWake? (h : x.Alike a b heard y) (channel : Nat) :
    Option.Rel (Site.Alike a b heard) (x.takeWake? channel) (y.takeWake? channel) := by
  obtain ⟨z, said, rfl, rfl⟩ := h
  let z' := { z with wakes := z.wakes.set channel (z.wakes.get channel - 1) }
  exact rel_ite (.some ⟨z', said, rfl, rfl⟩) .none

theorem takeAck? (h : x.Alike a b heard y) :
    Option.Rel (Site.Alike a b heard) x.takeAck? y.takeAck? := by
  obtain ⟨z, said, rfl, rfl⟩ := h
  exact rel_ite (.some ⟨{ z with acks := z.acks - 1 }, said, rfl, rfl⟩) .none

end Alike

end Site

/-! ### Procedures -/

/-- Two procedures do the same on sites that are alike. -/
inductive Progress.Alike (a b : Volume) (heard : List Console.Entry) {π ρ : Type} :
    Progress π ρ → Progress π ρ → Prop
  | blocked : Alike a b heard .blocked .blocked
  | next {x y : Site} {point : π} (site : x.Alike a b heard y) :
      Alike a b heard (.next x point) (.next y point)
  | done {x y : Site} {result : ρ} (site : x.Alike a b heard y) :
      Alike a b heard (.done x result) (.done y result)

section Procedures

variable {a b : Volume} {heard : List Console.Entry} {x y : Site} {π ρ π' ρ' : Type}

namespace Progress

theorem Alike.within {p p' : Progress π ρ} (h : p.Alike a b heard p') (inner : π → π')
    (after : ρ → π') :
    Alike a b heard (p.within inner after : Progress π' ρ') (p'.within inner after) := by
  cases h with
  | blocked => exact .blocked
  | next site => exact .next site
  | done site => exact .next site

theorem Alike.ite {p p' q q' : Progress π ρ} {c : Prop} [Decidable c] (h : p.Alike a b heard p')
    (h' : q.Alike a b heard q') :
    Alike a b heard (if c then p else q) (if c then p' else q') := by
  split
  · exact h
  · exact h'

end Progress

theorem Abort.alike_step (h : x.Alike a b heard y) (p : Abort) :
    (p.step x).Alike a b heard (p.step y) := by
  have hraised := h.raise
  obtain ⟨z, said, rfl, rfl⟩ := h
  cases p with
  | raise fault => exact .ite .blocked (.next (hraised fault))
  | flag => exact .next ⟨{ z with aborted := true }, said, rfl, rfl⟩
  | gather c =>
    exact .ite (.next ⟨z, said, rfl, rfl⟩)
      (.ite .blocked (.next ⟨z.withQueue (z.queue.gather c), said, rfl, rfl⟩))
  | drain c drained =>
    exact .ite .blocked (.next ⟨z.withQueue (z.queue.drainLevel c).1, said, rfl, rfl⟩)
  | unlock drained => exact .next ⟨{ z with faultLocked := false }, said, rfl, rfl⟩
  | notify drained => exact .next ⟨z.notify, said, rfl, rfl⟩
  | acknowledge drained => exact .next ⟨z.acknowledge, said, rfl, rfl⟩
  | wake drained =>
    cases drained with
    | nil => exact .done ⟨z, said, rfl, rfl⟩
    | cons v rest => exact .next ⟨z.wake v.channel, said, rfl, rfl⟩

theorem Arrival.alike_step (h : x.Alike a b heard y) (v : Vehicle) (p : Arrival) :
    (p.step v x).Alike a b heard (p.step v y) := by
  have hrecorded := h.record
  obtain ⟨z, said, rfl, rfl⟩ := h
  cases p with
  | lock =>
    exact .ite .blocked (.ite (.done ⟨z, said, rfl, rfl⟩)
      (.next ⟨{ z with faultLocked := true }, said, rfl, rfl⟩))
  | log => exact .next (hrecorded _ _)
  | enqueue =>
    exact .next ⟨{ z with queue := z.queue.enqueue v, faultLocked := false }, said, rfl, rfl⟩
  | count => exact .next ⟨z.countArrival, said, rfl, rfl⟩
  | notify => exact .done ⟨z.notify, said, rfl, rfl⟩

theorem Rejection.alike_step (h : x.Alike a b heard y) (spec : VehicleSpec) (p : Rejection) :
    (p.step spec x).Alike a b heard (p.step spec y) := by
  have hrecorded := h.record
  obtain ⟨z, said, rfl, rfl⟩ := h
  cases p with
  | log => exact .next (hrecorded _ _)
  | count => exact .next ⟨z.countRejection, said, rfl, rfl⟩
  | countArrival => exact .next ⟨z.countArrival, said, rfl, rfl⟩
  | notify => exact .done ⟨z.notify, said, rfl, rfl⟩

theorem Completion.alike_step (h : x.Alike a b heard y) (p : Completion) :
    (p.step x).Alike a b heard (p.step y) := by
  obtain ⟨z, said, rfl, rfl⟩ := h
  cases p with
  | count => exact .next ⟨z.countCompletion, said, rfl, rfl⟩
  | notify => exact .done ⟨z.notify, said, rfl, rfl⟩

theorem Claim.alike_step (h : x.Alike a b heard y) (s : Segment) (v : VehicleId) (p : Claim) :
    (p.step s v x).Alike a b heard (p.step s v y) := by
  obtain ⟨z, said, rfl, rfl⟩ := h
  cases p with
  | check => exact .ite (.next ⟨z, said, rfl, rfl⟩) (.done ⟨z, said, rfl, rfl⟩)
  | attempt =>
    simp only [Claim.step, Site.table_under]
    split
    · next table heq => exact .next ⟨z.withTable table, said, rfl, rfl⟩
    · next table result heq => exact .done ⟨z.withTable table, said, rfl, rfl⟩
  | wait =>
    simp only [Claim.step, Site.table_under]
    split
    · exact .blocked
    · next table result heq => exact .done ⟨z.withTable table, said, rfl, rfl⟩

theorem Life.alike_step (h : x.Alike a b heard y) (supervised : Bool) (p : Life) :
    (p.step supervised x).Alike a b heard (p.step supervised y) := by
  have hrecorded := h.record
  have hwarned := h.warn
  cases p with
  | start spec channel =>
    cases hspec : Vehicle.ofSpec? spec channel with
    | some v => simpa only [step, hspec] using .next h
    | none => simpa only [step, hspec] using .next (hwarned _)
  | rejecting spec p => exact (p.alike_step h spec).within _ _
  | arriving v p => exact (p.alike_step h v).within _ _
  | claiming v s rest p => exact (p.alike_step h s v.id).within _ _
  | completing v p => exact (p.alike_step h).within _ _
  | aborting fault p => exact (p.alike_step h).within _ _
  | entering v s rest => exact .next (hrecorded _ _)
  | crossing v => exact .next (hrecorded _ _)
  | exiting v s rest => exact .next (hrecorded _ _)
  | leaving v => exact .next (hrecorded _ _)
  | ended failure => exact .blocked
  | sleeping v =>
    have hwoken := h.takeWake? v.channel
    simp only [step]
    generalize x.takeWake? v.channel = x', y.takeWake? v.channel = y' at hwoken ⊢
    cases hwoken with
    | none => exact .blocked
    | some site => exact .next site
  | woken v =>
    obtain ⟨z, said, rfl, rfl⟩ := h
    exact .next ⟨z, said, rfl, rfl⟩
  | inside v =>
    obtain ⟨z, said, rfl, rfl⟩ := h
    simp only [step, Site.table_under]
    split
    · next table heq => exact .next ⟨z.withTable table, said, rfl, rfl⟩
    · next table violation heq => exact .next ⟨z.withTable table, said, rfl, rfl⟩
  | acknowledging v =>
    obtain ⟨z, said, rfl, rfl⟩ := h
    exact .next ⟨z.acknowledge, said, rfl, rfl⟩
  | departing v =>
    obtain ⟨z, said, rfl, rfl⟩ := h
    exact .next ⟨z.withTable (z.table.depart v.id), said, rfl, rfl⟩
  | vacating v todo =>
    obtain ⟨z, said, rfl, rfl⟩ := h
    cases todo with
    | nil => exact .next ⟨z, said, rfl, rfl⟩
    | cons s rest =>
      simp only [step, Site.table_under]
      split
      · next table heq => exact .next ⟨z.withTable table, said, rfl, rfl⟩
      · next table violation heq => exact .next ⟨z.withTable table, said, rfl, rfl⟩
  | clearing v =>
    obtain ⟨z, said, rfl, rfl⟩ := h
    simp only [step, Site.table_under]
    split
    · next table heq => exact .next ⟨z.withTable table, said, rfl, rfl⟩
    · next table violation heq => exact .next ⟨z.withTable table, said, rfl, rfl⟩

end Procedures

/-! ### Members -/

/-- Two sites are alike, and what comes with them is the same. -/
def Site.AlikeWith (a b : Volume) (heard : List Console.Entry) {τ : Type} (p q : Site × τ) : Prop :=
  p.1.Alike a b heard q.1 ∧ p.2 = q.2

section Members

variable {a b : Volume} {heard : List Console.Entry} {x y : Site}

theorem Task.alike_ofProgress {π ρ : Type} {p q : Progress π ρ} (h : p.Alike a b heard q)
    (inner : π → Task) (after : ρ → Task) :
    Option.Rel (Site.AlikeWith a b heard) (ofProgress inner after p)
      (ofProgress inner after q) := by
  cases h with
  | blocked => exact .none
  | next site => exact .some ⟨site, rfl⟩
  | done site => exact .some ⟨site, rfl⟩

theorem Task.alike_step? (h : x.Alike a b heard y) (supervised : Bool) (task : Task) :
    Option.Rel (Site.AlikeWith a b heard) (task.step? supervised x) (task.step? supervised y) := by
  cases task with
  | life point => exact alike_ofProgress (point.alike_step h supervised) _ _
  | arrive v point => exact alike_ofProgress (point.alike_step h v) _ _
  | reject spec point => exact alike_ofProgress (point.alike_step h spec) _ _
  | complete point => exact alike_ofProgress (point.alike_step h) _ _
  | abort point => exact alike_ofProgress (point.alike_step h) _ _
  | claim s v point => exact alike_ofProgress (point.alike_step h s v) _ _
  | sleep v => exact rel_map (h.takeWake? v.channel) fun _ _ site => ⟨site, rfl⟩
  | ended joined => exact .none
  | failed fault => exact .none

namespace Scheduler

theorem alike_transition (h : x.Alike a b heard y) (c : Scheduler) (state : State) :
    (c.transition x state).1.Alike a b heard (c.transition y state).1 := by
  obtain ⟨z, said, rfl, rfl⟩ := h
  by_cases hstate : c.state = state
  · simp only [transition, hstate, ne_eq, not_true_eq_false, false_and, if_false]
    exact ⟨z, said, rfl, rfl⟩
  · simp only [transition, hstate, ne_eq, not_false_eq_true, true_and]
    exact Site.alike_of_said _ (z.debug_under a _ _) (z.debug_under b _ _)

theorem alike_endLevel (h : x.Alike a b heard y) (supervised : Bool) (c : Scheduler) (seen : Nat)
    (level : VehicleClass) (fault : Option Violation) :
    Site.AlikeWith a b heard (c.endLevel supervised x seen level fault)
      (c.endLevel supervised y seen level fault) := by
  have hunlocked : Site.Alike a b heard { x with scanned := none } { y with scanned := none } := by
    obtain ⟨z, said, rfl, rfl⟩ := h
    exact ⟨{ z with scanned := none }, said, rfl, rfl⟩
  unfold endLevel
  cases level.next? with
  | some level => exact ⟨hunlocked, rfl⟩
  | none =>
    cases fault with
    | some violation => exact ⟨hunlocked, rfl⟩
    | none => exact ⟨alike_transition hunlocked c .idle, rfl⟩

theorem alike_endScan (h : x.Alike a b heard y) (supervised : Bool) (c : Scheduler)
    (level : VehicleClass) (place : Nat) (v : Vehicle) (ticket : Ticket)
    (fault : Option Violation) :
    Site.AlikeWith a b heard (c.endScan supervised x level place v ticket fault)
      (c.endScan supervised y level place v ticket fault) := by
  obtain ⟨z, said, rfl, rfl⟩ := h
  let levels := z.queue.levels.set level ((z.queue.levels.get level).eraseIdx place)
  let z' := { z with queue := { z.queue with levels }, scanned := none }
  have hadmitted : Site.Alike a b heard (z'.under a (heard ++ said)) (z'.under b (heard ++ said)) :=
    ⟨z', said, rfl, rfl⟩
  cases fault with
  | some violation => exact ⟨hadmitted, rfl⟩
  | none => exact ⟨alike_transition hadmitted c .granting, rfl⟩

theorem alike_step? (h : x.Alike a b heard y) (supervised : Bool) (c : Scheduler) :
    Option.Rel (Site.AlikeWith a b heard) (c.step? supervised x) (c.step? supervised y) := by
  have hendLevel := alike_endLevel h supervised c
  have htransition := alike_transition h c
  have hrecorded := h.record
  have htaken := h.takeAck?
  have habort := fun point : Abort => point.alike_step h
  unfold step?
  cases c.point with
  | aborting violation point =>
    have haborted := habort point
    simp only
    generalize point.step x = p, point.step y = q at haborted ⊢
    cases haborted with
    | blocked => exact .none
    | next site => exact .some ⟨site, rfl⟩
    | done site => exact .some ⟨site, rfl⟩
  | giveUp v ticket point =>
    have haborted := habort point
    simp only
    generalize point.step x = p, point.step y = q at haborted ⊢
    cases haborted with
    | blocked => exact .none
    | next site => exact .some ⟨site, rfl⟩
    | done site => exact .some ⟨site, rfl⟩
  | await v ticket retries => exact rel_map htaken fun _ _ site => ⟨site, rfl⟩
  | announce v ticket => exact .some ⟨hrecorded _ _, rfl⟩
  | ended failure => exact .none
  | look =>
    obtain ⟨z, said, rfl, rfl⟩ := h
    exact .some ⟨htransition .scanning, rfl⟩
  | scan seen level place fault =>
    obtain ⟨z, said, rfl, rfl⟩ := h
    simp only [Site.queue_under, Site.table_under]
    cases (z.queue.levels.get level)[place]? with
    | none => exact .some (hendLevel seen level fault)
    | some v =>
      have hwritten (table : SegmentTable) : Site.Alike a b heard
          ((z.under a (heard ++ said)).withTable table)
          ((z.under b (heard ++ said)).withTable table) :=
        ⟨z.withTable table, said, rfl, rfl⟩
      simp only
      split
      · next table ticket heq => exact .some (alike_endScan (hwritten table) ..)
      · next table heq => exact .some ⟨hwritten table, rfl⟩
      · next table violation heq => exact .some ⟨hwritten table, rfl⟩
  | test =>
    have hdone := htransition .done
    obtain ⟨z, said, rfl, rfl⟩ := h
    exact rel_ite (.some ⟨hdone, rfl⟩) (.some ⟨⟨z, said, rfl, rfl⟩, rfl⟩)
  | holdSleep seen =>
    obtain ⟨z, said, rfl, rfl⟩ := h
    exact rel_ite .none (.some ⟨⟨z, said, rfl, rfl⟩, rfl⟩)
  | sleep seen =>
    obtain ⟨z, said, rfl, rfl⟩ := h
    exact rel_ite .none (.some ⟨⟨z, said, rfl, rfl⟩, rfl⟩)
  | hold => obtain ⟨z, said, rfl, rfl⟩ := h; exact .some ⟨⟨z, said, rfl, rfl⟩, rfl⟩
  | holdTest seen => obtain ⟨z, said, rfl, rfl⟩ := h; exact .some ⟨⟨z, said, rfl, rfl⟩, rfl⟩
  | gather seen level =>
    obtain ⟨z, said, rfl, rfl⟩ := h
    exact .some ⟨⟨z.withQueue (z.queue.gather level), said, rfl, rfl⟩, rfl⟩
  | lock seen level fault =>
    obtain ⟨z, said, rfl, rfl⟩ := h
    exact .some ⟨⟨{ z with scanned := some level }, said, rfl, rfl⟩, rfl⟩
  | rest seen =>
    obtain ⟨z, said, rfl, rfl⟩ := h
    exact .some ⟨⟨{ z with passes := c.pass }, said, rfl, rfl⟩, rfl⟩
  | rouse v ticket =>
    obtain ⟨z, said, rfl, rfl⟩ := h
    exact .some ⟨⟨z.wake v.channel, said, rfl, rfl⟩, rfl⟩
  | withdraw v ticket =>
    obtain ⟨z, said, rfl, rfl⟩ := h
    exact .some ⟨⟨z.withTable (z.table.cancel ticket), said, rfl, rfl⟩, rfl⟩
  | acknowledged v ticket => obtain ⟨z, said, rfl, rfl⟩ := h; exact .some ⟨⟨z, said, rfl, rfl⟩, rfl⟩
  | verify v ticket => obtain ⟨z, said, rfl, rfl⟩ := h; exact .some ⟨⟨z, said, rfl, rfl⟩, rfl⟩

theorem alike_timeout? (h : x.Alike a b heard y) (c : Scheduler) :
    Option.Rel (Site.AlikeWith a b heard) (c.timeout? x) (c.timeout? y) := by
  have hwarned := h.warn
  unfold timeout?
  split
  · next v ticket retries heq =>
    obtain ⟨z, said, rfl, rfl⟩ := h
    exact rel_ite (.some ⟨hwarned _, rfl⟩) .none
  · exact .none

end Scheduler

end Members

/-! ### Releases -/

namespace SegmentTable

variable {σ τ : Type} (R : σ → τ → Prop) {f : Segment → SegmentTable × σ → SegmentTable × σ}
  {g : Segment → SegmentTable × τ → SegmentTable × τ}

/-- Callbacks that do the same to the table, and keep a relation between their states, do so over a
release of segments, too. -/
theorem vacateEach_alike
    (hfg : ∀ s t p q, R p q → (f s (t, p)).1 = (g s (t, q)).1 ∧ R (f s (t, p)).2 (g s (t, q)).2)
    (v : VehicleId) (segments : List Segment) (t : SegmentTable) {p : σ} {q : τ} (h : R p q) :
    (vacateEach f v segments (t, p)).1.1 = (vacateEach g v segments (t, q)).1.1 ∧
      R (vacateEach f v segments (t, p)).1.2 (vacateEach g v segments (t, q)).1.2 ∧
      (vacateEach f v segments (t, p)).2 = (vacateEach g v segments (t, q)).2 := by
  induction segments generalizing t p q with
  | nil => exact ⟨rfl, h, rfl⟩
  | cons s rest ih =>
    unfold vacateEach
    split
    · next t heq =>
      obtain ⟨htable, hnext⟩ := hfg s t p q h
      have hrest := ih (f s (t, p)).1 hnext
      rwa [Prod.mk.eta, htable, Prod.mk.eta] at hrest
    · exact ⟨rfl, h, rfl⟩

theorem release_alike
    (hfg : ∀ s t p q, R p q → (f s (t, p)).1 = (g s (t, q)).1 ∧ R (f s (t, p)).2 (g s (t, q)).2)
    (r : Route) (v : VehicleId) (t : SegmentTable) {p : σ} {q : τ} (h : R p q) :
    (release f r v (t, p)).1.1 = (release g r v (t, q)).1.1 ∧
      R (release f r v (t, p)).1.2 (release g r v (t, q)).1.2 ∧
      (release f r v (t, p)).2 = (release g r v (t, q)).2 := by
  have hvacated := vacateEach_alike R hfg v r.segments (t.depart v) h
  unfold release
  simp only
  generalize vacateEach f v r.segments (t.depart v, p) = x,
    vacateEach g v r.segments (t.depart v, q) = y at hvacated ⊢
  obtain ⟨⟨t, p⟩, result⟩ := x
  obtain ⟨⟨_, q⟩, _⟩ := y
  obtain ⟨rfl, h, rfl⟩ := hvacated
  cases result with
  | ok _ => exact ⟨rfl, h, rfl⟩
  | error violation => exact ⟨rfl, h, rfl⟩

end SegmentTable

/-! ### Scenes -/

/-- The members of two scenes are the same, and the sites are alike. -/
inductive Scene.Alike (a b : Volume) (heard : List Console.Entry) : Scene → Scene → Prop
  | mk {x y : Site} (site : x.Alike a b heard y) (scheduler : Option Scheduler)
      (tasks : Table Task) (supervised : Bool) :
      Alike a b heard ⟨x, scheduler, tasks, supervised⟩ ⟨y, scheduler, tasks, supervised⟩

namespace Scene

variable {a b : Volume} {heard : List Console.Entry} {e e' : Scene}

namespace Alike

theorem step? (h : e.Alike a b heard e') (actor : Actor) :
    Option.Rel (Scene.Alike a b heard) (e.step? actor) (e'.step? actor) := by
  obtain ⟨site, scheduler, tasks, supervised⟩ := h
  have hnext (task : Option Scheduler) (tasks : Table Task) {x y : Site}
      (site : x.Alike a b heard y) : Scene.Alike a b heard ⟨x, task, tasks, supervised⟩
        ⟨y, task, tasks, supervised⟩ := ⟨site, task, tasks, supervised⟩
  cases actor with
  | scheduler =>
    cases scheduler with
    | none => exact .none
    | some c =>
      refine rel_map (c.alike_step? site supervised) ?_
      rintro ⟨x, c⟩ ⟨y, _⟩ ⟨site, rfl⟩
      exact ⟨site, some c, tasks, supervised⟩
  | task i =>
    refine rel_map ((tasks.get i).alike_step? site supervised) ?_
    rintro ⟨x, task⟩ ⟨y, _⟩ ⟨site, rfl⟩
    exact ⟨site, scheduler, tasks.set i task, supervised⟩
  | clock =>
    cases scheduler with
    | none => exact .none
    | some c =>
      refine rel_map (c.alike_timeout? site) ?_
      rintro ⟨x, c⟩ ⟨y, _⟩ ⟨site, rfl⟩
      exact ⟨site, some c, tasks, supervised⟩

/-- The members of alike scenes can take the same steps, in any order. -/
theorem steps (h : e.Alike a b heard e') (actors : List Actor) :
    Scene.Alike a b heard (actors.foldl (fun e actor => (e.step? actor).getD e) e)
      (actors.foldl (fun e actor => (e.step? actor).getD e) e') := by
  induction actors generalizing e e' with
  | nil => exact h
  | cons actor rest ih =>
    refine ih ?_
    have hstep := h.step? actor
    simp only
    generalize e.step? actor = o, e'.step? actor = o' at hstep ⊢
    cases hstep with
    | none => exact h
    | some h => exact h

theorem firstStep? (h : e.Alike a b heard e') (actors : List Actor) :
    Option.Rel (Scene.Alike a b heard) (e.firstStep? actors) (e'.firstStep? actors) := by
  induction actors with
  | nil => exact .none
  | cons actor actors ih =>
    have hstep := h.step? actor
    unfold Scene.firstStep? at ih ⊢
    simp only [List.findSome?_cons]
    generalize e.step? actor = o, e'.step? actor = o' at hstep ⊢
    cases hstep with
    | none => exact ih
    | some h => exact .some h

theorem runWith (actors : List Actor) (limit : Nat) (h : e.Alike a b heard e') :
    (runWith actors limit e).Alike a b heard (Scene.runWith actors limit e') := by
  induction limit generalizing e e' with
  | zero => exact h
  | succ limit ih =>
    have hstep := h.firstStep? actors
    unfold Scene.runWith
    generalize e.firstStep? actors = o, e'.firstStep? actors = o' at hstep ⊢
    cases hstep with
    | none => exact h
    | some h => exact ih h

theorem tasks (h : e.Alike a b heard e') : e.tasks = e'.tasks := by
  obtain ⟨site, scheduler, tasks, supervised⟩ := h
  rfl

theorem site (h : e.Alike a b heard e') : e.site.Alike a b heard e'.site := by
  obtain ⟨site, scheduler, tasks, supervised⟩ := h
  exact site

theorem budget (h : e.Alike a b heard e') : e.budget = e'.budget := by
  obtain ⟨⟨z, said, rfl, rfl⟩, scheduler, tasks, supervised⟩ := h
  rfl

theorem settle (h : e.Alike a b heard e') : e.settle.Alike a b heard e'.settle := by
  have hmembers : e.members = e'.members := by
    obtain ⟨site, scheduler, tasks, supervised⟩ := h
    rfl
  unfold Scene.settle
  rw [h.budget, hmembers]
  exact h.runWith ..

theorem finish (h : e.Alike a b heard e') (i : Nat) :
    (e.finish i).Alike a b heard (e'.finish i) := by
  unfold Scene.finish
  rw [h.budget]
  exact h.runWith ..

theorem settleWithClock (h : e.Alike a b heard e') (limit : Nat) :
    (e.settleWithClock limit).Alike a b heard (e'.settleWithClock limit) := by
  induction limit generalizing e e' with
  | zero => exact h.settle
  | succ limit ih =>
    have hstep := h.settle.step? .clock
    unfold Scene.settleWithClock
    simp only
    generalize e.settle.step? .clock = o, e'.settle.step? .clock = o' at hstep ⊢
    cases hstep with
    | none => exact h.settle
    | some h => exact ih h

end Alike

theorem alike_ofSpecs {x y : Site} (h : x.Alike a b heard y) (specs : List VehicleSpec) :
    (ofSpecs x specs).Alike a b heard (ofSpecs y specs) := by
  have hscheduler : Scheduler.start x = Scheduler.start y := by
    obtain ⟨z, said, rfl, rfl⟩ := h
    rfl
  unfold ofSpecs
  rw [hscheduler]
  exact ⟨h, _, _, true⟩

end Scene

/-! ### Runs -/

/-- The result of a run does not depend on its volume. -/
theorem Site.Alike.conclude {a b : Volume} {heard : List Console.Entry} {x y : Site}
    (h : x.Alike a b heard y) : Site.AlikeWith a b heard x.conclude y.conclude := by
  have hwarned := h.warn
  have hinformed := h.info
  have hfault : x.fault = y.fault := by obtain ⟨z, said, rfl, rfl⟩ := h; rfl
  have hleaked : x.table.ledger.leaked? = y.table.ledger.leaked? := by
    obtain ⟨z, said, rfl, rfl⟩ := h; rfl
  have hreport : x.report = y.report := by obtain ⟨z, said, rfl, rfl⟩ := h; rfl
  -- Fault and books are the same, so both runs take the same branch; all others are impossible.
  unfold Site.conclude
  rw [hreport]
  split
  · next fault hx =>
    split
    · next fault' hy =>
      cases hx.symm.trans (hfault.trans hy)
      exact ⟨hwarned _, rfl⟩
    · next hy => cases hx.symm.trans (hfault.trans hy)
  · next hx =>
    have hy : y.fault = none := hfault.symm.trans hx
    split
    · next s hs =>
      have hs : y.table.ledger.leaked? = some s := hleaked.symm.trans hs
      split
      · next fault hy' => cases hy.symm.trans hy'
      · split
        · next s' hs' =>
          cases hs.symm.trans hs'
          exact ⟨h, rfl⟩
        · next hs' => cases hs.symm.trans hs'
    · next hs =>
      have hs : y.table.ledger.leaked? = none := hleaked.symm.trans hs
      split
      · next fault hy' => cases hy.symm.trans hy'
      · split
        · next s' hs' => cases hs.symm.trans hs'
        · exact ⟨hinformed _, rfl⟩

/-- A whole run comes to the same result at all volumes. -/
theorem Config.alike_run (config : Config) (before : List Console.Entry) (a b : Volume) :
    ∃ transcript result,
      Config.run { config with verbose := a.verbose } (a.console before) =
        (a.console transcript, result) ∧
      Config.run { config with verbose := b.verbose } (b.console before) =
        (b.console transcript, result) := by
  have hvalid (c : Volume) : validate { config with verbose := c.verbose } = config.validate := rfl
  have htraffic (c : Volume) : traffic { config with verbose := c.verbose } = config.traffic := rfl
  unfold Config.run
  rw [hvalid, hvalid, htraffic, htraffic]
  cases config.validate with
  | error fault => exact ⟨before, _, rfl, rfl⟩
  | ok _ =>
    cases config.traffic with
    | error problem => exact ⟨before, _, rfl, rfl⟩
    | ok specs =>
      -- Both runs start from one site, after a message that each console writes or drops.
      let x := Site.start config specs.length {}
      let message := config.startMessage specs.length
      have hstart (c : Volume) : Site.start { config with verbose := c.verbose } specs.length
          ((c.console before).info message) =
            x.under c (before ++ [.leveled .info (some message)]) :=
        congrArg (Site.start { config with verbose := c.verbose } specs.length)
          (c.report_console before (by decide) message)
      have hsite := Site.Alike.intro x _ (hstart a) (hstart b)
      obtain ⟨⟨z, said, hx, hy⟩, hresult⟩ :=
        ((Scene.alike_ofSpecs hsite specs).settleWithClock config.grantRetries).site.conclude
      refine ⟨said, _, Prod.ext (congrArg Site.console hx) rfl,
        Prod.ext (congrArg Site.console hy) ?_⟩
      exact congrArg (Except.mapError RunProblem.fault) hresult.symm

end Junction
