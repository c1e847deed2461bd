import Mathlib.Algebra.GroupWithZero.Nat
import Mathlib.Data.List.Basic
import Junction.WaitingQueue

/-!
# The queue is three lines

The vehicles of a class wait in two places, the level and the waiting zone, and each of the two has
operations of its own. Seen from outside there is one line per class: its level, with its zone
behind it. An arrival joins the line of its class at the back, the moves from the zones into the
levels are not seen at all, an admission takes one vehicle out of the part of a line that lies in
its level, and a removal of all empties the three lines one after the other.

So whatever is done with a queue, each line consists of vehicles of its own class in the order in
which they have arrived, and everybody who has arrived was let in, was removed, or waits.

## Main definitions

* `WaitingQueue.line` — the vehicles of a class that wait, in order
* `WaitingQueue.Usage`, `WaitingQueue.Outcome`, `WaitingQueue.use` — an operation and its result
* `WaitingQueue.Serves` — what an operation does to the lines
* `WaitingQueue.Accounts` — how the lines agree with all arrivals and departures so far

## Main results

* `WaitingQueue.serves_use` — every operation of every queue
* `WaitingQueue.lines_of_usages` — every history of operations
-/

universe u v

namespace Junction.WaitingQueue

variable {q q' : WaitingQueue} {c c' : VehicleClass}

/-- The vehicles of a class that wait: those in its level, and behind them those in its zone. -/
def line (q : WaitingQueue) (c : VehicleClass) : List Vehicle := q.levels.get c ++ q.zone.get c

/-- All vehicles that wait, line by line. -/
def lines (q : WaitingQueue) : List Vehicle := VehicleClass.all.flatMap q.line

theorem ext_parts (hzone : ∀ c, q'.zone.get c = q.zone.get c)
    (hlevels : ∀ c, q'.levels.get c = q.levels.get c) : q' = q := by
  obtain ⟨zone, levels⟩ := q
  obtain ⟨zone', levels'⟩ := q'
  obtain rfl : zone' = zone := Trio.ext_get hzone
  obtain rfl : levels' = levels := Trio.ext_get hlevels
  rfl

/-! ### What the operations do to the two parts -/

section Parts

theorem zone_enqueue (v : Vehicle) (c : VehicleClass) :
    (q.enqueue v).zone.get c = if c = v.vclass then q.zone.get c ++ [v] else q.zone.get c := by
  rw [enqueue, Trio.get_set]
  split
  · next hc => rw [hc]
  · rfl

theorem levels_enqueue (v : Vehicle) : (q.enqueue v).levels = q.levels := rfl

theorem zone_gather : (q.gather c).zone.get c' = if c' = c then [] else q.zone.get c' := by
  rw [gather, Trio.get_set]

theorem levels_gather :
    (q.gather c).levels.get c' = if c' = c then q.line c' else q.levels.get c' := by
  rw [gather, Trio.get_set]
  split
  · next hc => rw [hc, line]
  · rfl

theorem zone_consume (c : VehicleClass) : q.consume.1.zone.get c = [] := by
  simp only [consume, VehicleClass.all, List.foldl_cons, List.foldl_nil, zone_gather]
  cases c <;> rfl

/-- Everybody who waits is in a level after the moves. -/
theorem levels_consume (c : VehicleClass) : q.consume.1.levels.get c = q.line c := by
  simp only [consume, VehicleClass.all, List.foldl_cons, List.foldl_nil, levels_gather, line,
    zone_gather]
  cases c <;> rfl

/-- The number of vehicles in the levels. -/
def considered (q : WaitingQueue) : Nat := q.levels.toList.flatten.length

theorem length_flatten (t : Trio VehicleClass (List Vehicle)) :
    t.toList.flatten.length = (VehicleClass.all.map fun c => (t.get c).length).sum := by
  rw [Trio.toList_eq_map_get, List.length_flatten, List.map_map]
  rfl

theorem considered_consume : q.consume.1.considered = q.considered + q.consume.2 := by
  change q.consume.1.levels.toList.flatten.length =
    q.levels.toList.flatten.length + q.zone.toList.flatten.length
  simp only [length_flatten, levels_consume, line, VehicleClass.all, List.map_cons, List.map_nil,
    List.sum_cons, List.sum_nil, List.length_append]
  omega

theorem size_eq_length_lines : q.size = q.lines.length := by
  simp only [size, length_flatten, lines, line, VehicleClass.all, List.map_cons, List.map_nil,
    List.sum_cons, List.sum_nil, List.length_flatMap, List.length_append]
  omega

theorem drain_fst : q.drain.1 = {} := by
  refine ext_parts (fun c => ?_) fun c => ?_
  · simpa [drain, drainLevel, VehicleClass.all] using zone_consume c
  · simp only [drain, drainLevel, VehicleClass.all, List.foldl_cons, List.foldl_nil, Trio.get_set,
      Trio.get_const]
    cases c <;> rfl

theorem drain_snd : q.drain.2 = q.lines := by
  simp only [drain, drainLevel, VehicleClass.all, List.foldl_cons, List.foldl_nil, Trio.get_set,
    levels_consume, lines, List.flatMap_cons, List.flatMap_nil]
  simp

end Parts

/-! ### Admission -/

section Admission

variable {σ : Type u} {ρ : Type v} {fits : Vehicle → σ → Option ρ × σ} {a a' : σ} {v : Vehicle}
variable {r : ρ}

/-- The list without the vehicle that fits is the list with this vehicle taken out of its place. -/
theorem firstFit_eq_some {l others : List Vehicle}
    (h : firstFit fits l a = (some (v, r, others), a')) :
    ∃ before after, l = before ++ v :: after ∧ others = before ++ after := by
  fun_induction firstFit fits l a generalizing others a' with
  | case1 => cases h
  | case2 w rest a r' a₁ hfits =>
    cases h
    exact ⟨[], rest, rfl, rfl⟩
  | case3 w rest a a₁ hfits w' r' rest' a₂ heq ih =>
    cases h
    obtain ⟨before, after, rfl, rfl⟩ := ih heq
    exact ⟨w :: before, after, rfl, rfl⟩
  | case4 => cases h

/-- A scan leaves the queue as it is, or takes one vehicle out of one level. -/
theorem admitAmong_cases (fits : Vehicle → σ → Option ρ × σ) (classes : List VehicleClass) (a : σ) :
    ((q.admitAmong fits classes a).1 = q ∧ (q.admitAmong fits classes a).2.1 = none) ∨
      ∃ c before v r after, q.levels.get c = before ++ v :: after ∧
        (q.admitAmong fits classes a).1 = { q with levels := q.levels.set c (before ++ after) } ∧
        (q.admitAmong fits classes a).2.1 = some (v, r) := by
  fun_induction admitAmong fits q classes a with
  | case1 => exact .inl ⟨rfl, rfl⟩
  | case2 c classes a v r others a' heq =>
    obtain ⟨before, after, hlevel, rfl⟩ := firstFit_eq_some heq
    exact .inr ⟨c, before, v, r, after, hlevel, rfl, rfl⟩
  | case3 c classes a a' heq ih => exact ih

end Admission

/-! ### Operations -/

/-- An operation of the queue. -/
inductive Usage : Type 1 where
  /-- A vehicle arrives. -/
  | enqueue (v : Vehicle)
  /-- The waiting zones are moved into the levels. -/
  | consume
  /-- The first vehicle that fits is let in. The predicate may answer as it likes, also depending on
  what it was asked before. -/
  | letIn {σ ρ : Type} (fits : Vehicle → σ → Option ρ × σ) (a : σ)
  /-- Everybody is removed. -/
  | drain

/-- What an operation returns. -/
inductive Outcome where
  /-- Nothing. -/
  | joined
  /-- How many vehicles were moved. -/
  | moved (count : Nat)
  /-- The vehicle that was let in, if there is one. -/
  | admitted (v : Option Vehicle)
  /-- The vehicles that were removed. -/
  | drained (vehicles : List Vehicle)
deriving DecidableEq, Repr

/-- Uses the queue. -/
def use (q : WaitingQueue) : Usage → WaitingQueue × Outcome
  | .enqueue v => (q.enqueue v, .joined)
  | .consume => (q.consume.1, .moved q.consume.2)
  | .letIn fits a =>
    ((q.admitFirst fits a).1, .admitted ((q.admitFirst fits a).2.1.map (·.1)))
  | .drain => (q.drain.1, .drained q.drain.2)

/-- Uses the queue again and again. -/
def useAll (q : WaitingQueue) : List Usage → WaitingQueue × List Outcome
  | [] => (q, [])
  | usage :: rest =>
    let (q, outcome) := q.use usage
    let (q, outcomes) := q.useAll rest
    (q, outcome :: outcomes)

/-- What an operation that returns something does to the three lines. -/
def Serves (q q' : WaitingQueue) : Usage → Outcome → Prop
  | .enqueue v, .joined => ∀ c, q'.line c = if c = v.vclass then q.line c ++ [v] else q.line c
  | .consume, .moved count =>
    (∀ c, q'.line c = q.line c) ∧ (∀ c, q'.zone.get c = []) ∧
      q'.considered = q.considered + count
  | .letIn .., .admitted none => q' = q
  | .letIn .., .admitted (some v) =>
    ∃ c before after, q.levels.get c = before ++ v :: after ∧
      q' = { q with levels := q.levels.set c (before ++ after) }
  | .drain, .drained vehicles =>
    vehicles = q.line .ambulance ++ q.line .car ++ q.line .truck ∧
      ∀ c, q'.zone.get c = [] ∧ q'.levels.get c = []
  | _, _ => False

/-- Every operation treats the lines as it should. -/
theorem serves_use (q : WaitingQueue) (usage : Usage) :
    q.Serves (q.use usage).1 usage (q.use usage).2 := by
  cases usage with
  | enqueue v =>
    intro c
    simp only [use, line, zone_enqueue, levels_enqueue]
    split
    · rw [List.append_assoc]
    · rfl
  | consume =>
    refine ⟨fun c => ?_, zone_consume, considered_consume⟩
    simp only [use, line, zone_consume, levels_consume, List.append_nil]
  | letIn fits a =>
    unfold use admitFirst
    rcases q.admitAmong_cases fits VehicleClass.all a with
      ⟨hsame, hnone⟩ | ⟨c, before, v, r, after, hlevel, hleft, hsome⟩
    · simp only [hsame, hnone, Option.map_none, Serves]
    · simp only [hleft, hsome, Option.map_some, Serves]
      exact ⟨c, before, after, hlevel, rfl⟩
  | drain =>
    refine ⟨?_, fun c => ?_⟩
    · simp [drain_snd, lines, VehicleClass.all]
    · simp only [use, drain_fst, Trio.get_const, and_self]

/-! ### Histories -/

/-- The vehicles that arrive by an operation. -/
def Usage.arrivals : Usage → List Vehicle
  | enqueue v => [v]
  | _ => []

/-- The vehicles that leave the queue by an operation. -/
def Outcome.departures : Outcome → List Vehicle
  | admitted v => v.toList
  | drained vehicles => vehicles
  | _ => []

/-- The vehicles of a class among some vehicles. -/
def ofClass (c : VehicleClass) (vehicles : List Vehicle) : List Vehicle :=
  vehicles.filter (·.vclass = c)

theorem ofClass_append (c : VehicleClass) (l l' : List Vehicle) :
    ofClass c (l ++ l') = ofClass c l ++ ofClass c l' :=
  List.filter_append ..

theorem ofClass_singleton (c : VehicleClass) (v : Vehicle) :
    ofClass c [v] = if c = v.vclass then [v] else [] := by
  simp [ofClass, List.filter_singleton, eq_comm]

/-- The lines agree with the vehicles that have arrived and those that have left, both in order. -/
structure Accounts (q : WaitingQueue) (arrived left : List Vehicle) : Prop where
  /-- Nobody waits in the line of another class. -/
  filed : ∀ c, ∀ v ∈ q.line c, v.vclass = c
  /-- Each line stands in the order of arrival. -/
  order : ∀ c, (q.line c).Sublist (ofClass c arrived)
  /-- Whoever has arrived has left or waits in the line of its class, and nobody does so twice. -/
  complete : ∀ c, (ofClass c arrived).Perm (ofClass c left ++ q.line c)

namespace Accounts

variable {arrived left : List Vehicle} {v : Vehicle}

theorem empty : Accounts {} [] [] := by
  refine ⟨fun c => ?_, fun c => ?_, fun c => ?_⟩ <;> simp [line, ofClass]

/-- A line is what the vehicles of its class are among all that wait. -/
theorem ofClass_lines (h : q.Accounts arrived left) (c : VehicleClass) :
    ofClass c q.lines = q.line c := by
  have hown : ofClass c (q.line c) = q.line c :=
    List.filter_eq_self.2 fun v hv => decide_eq_true (h.filed c v hv)
  have hother : ∀ c', c' ≠ c → ofClass c (q.line c') = [] := fun c' hc' =>
    List.filter_eq_nil_iff.2 fun v hv => by simpa [h.filed c' v hv] using hc'
  simp only [lines, VehicleClass.all, List.flatMap_cons, List.flatMap_nil, ofClass_append,
    List.append_nil]
  cases c <;> simp [hown, hother]

/-- The number of waiting vehicles is that of the arrivals less that of the departures. -/
theorem size_eq (h : q.Accounts arrived left) : q.size + left.length = arrived.length := by
  -- Every vehicle has one of the three classes, so a list can be counted class by class.
  have hclasses : ∀ l : List Vehicle,
      l.length = (ofClass .ambulance l).length + (ofClass .car l).length +
        (ofClass .truck l).length := by
    intro l
    induction l with
    | nil => rfl
    | cons v rest ih =>
      simp only [ofClass, List.filter_cons, List.length_cons] at ih ⊢
      cases v.vclass <;> simp <;> omega
  have hlength : ∀ c, (ofClass c arrived).length =
      (ofClass c left).length + (q.line c).length := by
    intro c
    rw [(h.complete c).length_eq, List.length_append]
  rw [size_eq_length_lines, hclasses arrived, hclasses left, hclasses q.lines]
  simp only [h.ofClass_lines, hlength]
  omega

theorem of_same_lines (h : q.Accounts arrived left) (hlines : ∀ c, q'.line c = q.line c) :
    q'.Accounts arrived left :=
  ⟨fun c => hlines c ▸ h.filed c, fun c => hlines c ▸ h.order c, fun c => hlines c ▸ h.complete c⟩

theorem enqueue (h : q.Accounts arrived left)
    (hline : ∀ c, q'.line c = if c = v.vclass then q.line c ++ [v] else q.line c) :
    q'.Accounts (arrived ++ [v]) left := by
  refine ⟨fun c w hw => ?_, fun c => ?_, fun c => ?_⟩
  · rw [hline] at hw
    split at hw
    · next hc =>
      rcases List.mem_append.1 hw with hw | hw
      · exact h.filed c w hw
      · rw [List.mem_singleton.1 hw, hc]
    · exact h.filed c w hw
  · rw [hline, ofClass_append, ofClass_singleton]
    split
    · exact (h.order c).append_right [v]
    · exact (h.order c).trans (List.sublist_append_left _ _)
  · rw [hline, ofClass_append, ofClass_singleton]
    split
    · rw [← List.append_assoc]
      exact (h.complete c).append_right [v]
    · rw [List.append_nil]
      exact h.complete c

theorem letIn (h : q.Accounts arrived left) {before after : List Vehicle}
    (hlevel : q.levels.get c = before ++ v :: after)
    (hleft : q' = { q with levels := q.levels.set c (before ++ after) }) :
    q'.Accounts arrived (left ++ [v]) := by
  have hv : v.vclass = c := h.filed c v (by simp [line, hlevel])
  have hown : q'.line c = before ++ after ++ q.zone.get c := by
    rw [line, hleft, Trio.get_set, if_pos rfl]
  have hother : ∀ c', c' ≠ c → q'.line c' = q.line c' := fun c' hc' => by
    simp [line, hleft, Trio.get_set, hc']
  -- One line has lost a vehicle, and the other two are as they were.
  have hsub : ∀ c', (q'.line c').Sublist (q.line c') := by
    intro c'
    by_cases hc' : c' = c
    · rw [hc', hown, line, hlevel]
      exact ((List.Sublist.refl before).append (List.sublist_cons_self v after)).append_right _
    · rw [hother c' hc']
  refine ⟨fun c' w hw => h.filed c' w ((hsub c').subset hw), fun c' => (hsub c').trans (h.order c'),
    fun c' => ?_⟩
  rw [ofClass_append, ofClass_singleton, hv]
  split
  · next hc' =>
    subst hc'
    have hline : (q.line c').Perm (v :: q'.line c') := by
      rw [hown, line, hlevel]
      simp only [List.append_assoc, List.cons_append]
      exact List.perm_middle
    rw [List.append_assoc, List.singleton_append]
    exact (h.complete c').trans (hline.append_left _)
  · next hc' =>
    rw [List.append_nil, hother c' hc']
    exact h.complete c'

theorem drain (h : q.Accounts arrived left) (hlines : ∀ c, q'.line c = []) :
    q'.Accounts arrived (left ++ q.lines) := by
  refine ⟨fun c v hv => ?_, fun c => ?_, fun c => ?_⟩
  · rw [hlines] at hv
    cases hv
  · rw [hlines]
    exact List.nil_sublist _
  · rw [hlines, List.append_nil, ofClass_append, h.ofClass_lines]
    exact h.complete c

/-- Every operation keeps the account. -/
theorem use (h : q.Accounts arrived left) (usage : Usage) :
    (q.use usage).1.Accounts (arrived ++ usage.arrivals)
      (left ++ (q.use usage).2.departures) := by
  have hserves := q.serves_use usage
  cases usage with
  | enqueue v =>
    simpa [Outcome.departures, Usage.arrivals, WaitingQueue.use] using h.enqueue hserves
  | consume =>
    simpa [Outcome.departures, Usage.arrivals, WaitingQueue.use] using h.of_same_lines hserves.1
  | letIn fits a =>
    simp only [Usage.arrivals, List.append_nil]
    generalize q.use (.letIn fits a) = result at hserves ⊢
    obtain ⟨q', outcome⟩ := result
    cases outcome with
    | admitted v =>
      cases v with
      | none => simpa [Outcome.departures, show q' = q from hserves] using h
      | some v =>
        obtain ⟨c, before, after, hlevel, hleft⟩ := hserves
        exact h.letIn hlevel hleft
    | _ => exact hserves.elim
  | drain =>
    have hempty : ∀ c, (q.use .drain).1.line c = [] := fun c => by
      rw [line, (hserves.2 c).1, (hserves.2 c).2, List.append_nil]
    simpa [Outcome.departures, Usage.arrivals, WaitingQueue.use, drain_snd] using h.drain hempty

theorem useAll (h : q.Accounts arrived left) (usages : List Usage) :
    (q.useAll usages).1.Accounts (arrived ++ usages.flatMap Usage.arrivals)
      (left ++ (q.useAll usages).2.flatMap Outcome.departures) := by
  induction usages generalizing q arrived left with
  | nil => simpa [WaitingQueue.useAll] using h
  | cons usage rest ih =>
    have hrest := ih (h.use usage)
    simpa only [WaitingQueue.useAll, List.flatMap_cons, List.append_assoc] using hrest

end Accounts

/-- Whatever was done with a queue, any operation then treats the three lines as it should: an
arrival joins the line of its class, the moves into the levels change no line, an admission takes
one vehicle out of a level at most, and a removal of all returns the lines one after the other. And
the lines agree with all arrivals and departures up to then. -/
theorem lines_of_usages (usages : List Usage) (usage : Usage) :
    let (q, outcomes) := useAll {} usages
    let arrived := usages.flatMap Usage.arrivals
    let left := outcomes.flatMap Outcome.departures
    q.Serves (q.use usage).1 usage (q.use usage).2 ∧ q.Accounts arrived left ∧
      q.size + left.length = arrived.length := by
  have haccounts := Accounts.empty.useAll usages
  rw [List.nil_append, List.nil_append] at haccounts
  exact ⟨serves_use _ usage, haccounts, haccounts.size_eq⟩

end Junction.WaitingQueue
