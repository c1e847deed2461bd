import Junction.Proofs.Lines

/-!
# Whom an admission asks about, and whom it lets in

An admission looks for the first vehicle that fits. Whether a vehicle fits is answered by a
predicate with a state of its own, so an answer may depend on everything that was asked before. It
matters therefore which vehicles the predicate is asked about, in which order and how often: the
scheduler asks whether a route can be reserved, and reserves it by asking.

This file records the calls of the predicate. They are calls about the vehicles in the levels, class
by class and in the order of arrival within a class, each vehicle once; the last one is about the
vehicle that is let in, or about the last vehicle of all.

## Main definitions

* `WaitingQueue.among`, `WaitingQueue.ahead`, `WaitingQueue.candidates` — the vehicles in the levels
* `WaitingQueue.Ask`, `WaitingQueue.noting` — a call of the predicate, and the record of its calls
* `WaitingQueue.asks`, `WaitingQueue.stateAfter`, `WaitingQueue.Refuses` — calls about some vehicles
  in turn
* `WaitingQueue.Course` — the two ways in which an admission can go

## Main results

* `WaitingQueue.refuses_or_fits` — somebody fits, or everybody is refused
* `WaitingQueue.course_of_admitFirst` — every admission, for every predicate
-/

universe u v

namespace Junction

namespace VehicleClass

/-- The classes served before a class. -/
def earlier (c : VehicleClass) : List VehicleClass := all.take c.level

/-- The classes served after a class. -/
def later (c : VehicleClass) : List VehicleClass := all.drop (c.level + 1)

theorem all_eq (c : VehicleClass) : all = c.earlier ++ c :: c.later := by cases c <;> rfl

theorem notMem_earlier (c : VehicleClass) : c ∉ c.earlier := by cases c <;> decide

theorem notMem_later (c : VehicleClass) : c ∉ c.later := by cases c <;> decide

/-- A class occurs only once among all. -/
theorem eq_earlier {c : VehicleClass} {before after : List VehicleClass}
    (h : all = before ++ c :: after) : before = c.earlier := by
  match before with
  | [] =>
    cases h
    rfl
  | [_] =>
    cases h
    rfl
  | [_, _] =>
    cases h
    rfl
  | _ :: _ :: _ :: _ => simp [all] at h

end VehicleClass

namespace WaitingQueue

variable {q : WaitingQueue} {c : VehicleClass} {classes : List VehicleClass}

/-! ### The vehicles in the levels -/

/-- The vehicles in the levels of some classes, level by level. -/
def among (q : WaitingQueue) (classes : List VehicleClass) : List Vehicle :=
  classes.flatMap q.levels.get

/-- All vehicles in the levels, in the order in which they are served. -/
def candidates (q : WaitingQueue) : List Vehicle := q.among VehicleClass.all

/-- The vehicles in the levels of the classes served before a class. -/
def ahead (q : WaitingQueue) (c : VehicleClass) : List Vehicle := q.among c.earlier

theorem among_append (q : WaitingQueue) (classes classes' : List VehicleClass) :
    q.among (classes ++ classes') = q.among classes ++ q.among classes' :=
  List.flatMap_append

theorem among_cons (q : WaitingQueue) (c : VehicleClass) (classes : List VehicleClass) :
    q.among (c :: classes) = q.levels.get c ++ q.among classes :=
  List.flatMap_cons

theorem candidates_eq (q : WaitingQueue) (c : VehicleClass) :
    q.candidates = q.ahead c ++ (q.levels.get c ++ q.among c.later) := by
  rw [candidates, c.all_eq, among_append, among_cons, ahead]

/-- The queue with the level of a class replaced. -/
def withLevel (q : WaitingQueue) (c : VehicleClass) (level : List Vehicle) : WaitingQueue :=
  { q with levels := q.levels.set c level }

theorem levels_withLevel (q : WaitingQueue) (c c' : VehicleClass) (level : List Vehicle) :
    (q.withLevel c level).levels.get c' = if c' = c then level else q.levels.get c' :=
  Trio.get_set ..

/-! ### Calls of a predicate -/

section Calls

variable {σ : Type u} {ρ : Type v}

/-- A call of the predicate of an admission. -/
structure Ask (σ : Type u) (ρ : Type v) where
  /-- The vehicle in question. -/
  vehicle : Vehicle
  /-- The state of the predicate before the call: what its earlier calls have come to. -/
  state : σ
  /-- The answer. -/
  answer : Option ρ

variable (fits : Vehicle → σ → Option ρ × σ)

/-- The predicate with a record of its calls. -/
def noting (v : Vehicle) (state : σ × List (Ask σ ρ)) : Option ρ × σ × List (Ask σ ρ) :=
  let (a, calls) := state
  let (answer, a') := fits v a
  (answer, a', calls ++ [⟨v, a, answer⟩])

/-- The calls about some vehicles, one after the other. -/
def asks : List Vehicle → σ → List (Ask σ ρ)
  | [], _ => []
  | v :: rest, a => ⟨v, a, (fits v a).1⟩ :: asks rest (fits v a).2

/-- What the calls about some vehicles come to. -/
def stateAfter (vehicles : List Vehicle) (a : σ) : σ :=
  vehicles.foldl (fun a v => (fits v a).2) a

/-- None of some vehicles fits when they are asked about one after the other. -/
def Refuses (vehicles : List Vehicle) (a : σ) : Prop :=
  ∀ ask ∈ asks fits vehicles a, ask.answer = none

variable {fits} {a : σ} {v : Vehicle} {r : ρ} {vehicles before after rest : List Vehicle}

theorem map_vehicle_asks (vehicles : List Vehicle) (a : σ) :
    (asks fits vehicles a).map Ask.vehicle = vehicles := by
  induction vehicles generalizing a with
  | nil => rfl
  | cons v rest ih => rw [asks, List.map_cons, ih]

theorem stateAfter_append (vehicles rest : List Vehicle) (a : σ) :
    stateAfter fits (vehicles ++ rest) a = stateAfter fits rest (stateAfter fits vehicles a) :=
  List.foldl_append

theorem asks_append (vehicles rest : List Vehicle) (a : σ) :
    asks fits (vehicles ++ rest) a =
      asks fits vehicles a ++ asks fits rest (stateAfter fits vehicles a) := by
  induction vehicles generalizing a with
  | nil => rfl
  | cons v vehicles ih =>
    rw [List.cons_append, asks, ih, asks]
    rfl

theorem refuses_nil (a : σ) : Refuses fits [] a := fun _ h => nomatch h

theorem refuses_cons :
    Refuses fits (v :: rest) a ↔ (fits v a).1 = none ∧ Refuses fits rest (fits v a).2 :=
  List.forall_mem_cons

theorem refuses_append :
    Refuses fits (vehicles ++ rest) a ↔
      Refuses fits vehicles a ∧ Refuses fits rest (stateAfter fits vehicles a) := by
  rw [Refuses, asks_append, List.forall_mem_append, Refuses, Refuses]

/-- What holds of the state of the predicate before the calls, and is kept by each call, holds
before every call and after the last one. -/
theorem forall_asks {P : σ → Prop} (hstep : ∀ v a, P a → P (fits v a).2) (h : P a)
    (vehicles : List Vehicle) :
    (∀ ask ∈ asks fits vehicles a,
      P ask.state ∧ ask.answer = (fits ask.vehicle ask.state).1) ∧
      P (stateAfter fits vehicles a) := by
  induction vehicles generalizing a with
  | nil => exact ⟨fun _ hask => (nomatch hask), h⟩
  | cons v rest ih =>
    obtain ⟨hrest, hafter⟩ := ih (hstep v a h)
    exact ⟨List.forall_mem_cons.2 ⟨⟨h, rfl⟩, hrest⟩, hafter⟩

/-! ### The calls of an admission -/

theorem firstFit_of_refuses (h : Refuses fits vehicles a) :
    firstFit fits vehicles a = (none, stateAfter fits vehicles a) := by
  induction vehicles generalizing a with
  | nil => rfl
  | cons v rest ih =>
    obtain ⟨hv, hrest⟩ := refuses_cons.1 h
    rw [firstFit, show fits v a = (none, (fits v a).2) from Prod.ext hv rfl]
    simp only [ih hrest]
    rfl

theorem firstFit_of_fits (hbefore : Refuses fits before a)
    (hv : (fits v (stateAfter fits before a)).1 = some r) (after : List Vehicle) :
    firstFit fits (before ++ v :: after) a =
      (some (v, r, before ++ after), stateAfter fits (before ++ [v]) a) := by
  induction before generalizing a with
  | nil =>
    rw [List.nil_append, firstFit, show fits v a = (some r, (fits v a).2) from Prod.ext hv rfl]
    rfl
  | cons w before ih =>
    obtain ⟨hw, hrest⟩ := refuses_cons.1 hbefore
    rw [List.cons_append, firstFit, show fits w a = (none, (fits w a).2) from Prod.ext hw rfl]
    simp only [ih hrest hv]
    rfl

theorem admitAmong_of_refuses (h : Refuses fits (q.among classes) a) :
    q.admitAmong fits classes a = (q, none, stateAfter fits (q.among classes) a) := by
  induction classes generalizing a with
  | nil => rfl
  | cons c classes ih =>
    rw [among_cons, refuses_append] at h
    simp only [admitAmong, firstFit_of_refuses h.1, ih h.2, among_cons, stateAfter_append]

theorem admitAmong_of_fits (hlevel : q.levels.get c = before ++ v :: after)
    (hbefore : Refuses fits (q.among classes ++ before) a)
    (hv : (fits v (stateAfter fits (q.among classes ++ before) a)).1 = some r)
    (others : List VehicleClass) :
    q.admitAmong fits (classes ++ c :: others) a =
      (q.withLevel c (before ++ after), some (v, r),
        stateAfter fits (q.among classes ++ before ++ [v]) a) := by
  induction classes generalizing a with
  | nil =>
    have hfit := firstFit_of_fits hbefore hv after
    rw [among, List.flatMap_nil, List.nil_append] at hfit
    simp only [List.nil_append, admitAmong, hlevel, hfit]
    rfl
  | cons c' classes ih =>
    -- The level of `c'` is refused as a whole, so the scan goes on with what it has learnt there.
    rw [among_cons, List.append_assoc, refuses_append] at hbefore
    rw [among_cons, List.append_assoc, stateAfter_append] at hv
    simp only [List.cons_append, admitAmong, firstFit_of_refuses hbefore.1, ih hbefore.2 hv,
      among_cons, List.append_assoc, stateAfter_append]

/-- Everybody on a list is refused, or somebody fits and everybody before is refused. -/
theorem refuses_or_fits (fits : Vehicle → σ → Option ρ × σ) (vehicles : List Vehicle) (a : σ) :
    Refuses fits vehicles a ∨ ∃ before v after r, vehicles = before ++ v :: after ∧
      Refuses fits before a ∧ (fits v (stateAfter fits before a)).1 = some r := by
  induction vehicles generalizing a with
  | nil => exact .inl (refuses_nil a)
  | cons w rest ih =>
    cases hw : (fits w a).1 with
    | some r => exact .inr ⟨[], w, rest, r, rfl, refuses_nil a, hw⟩
    | none =>
      rcases ih (fits w a).2 with hrest | ⟨before, v, after, r, rfl, hbefore, hv⟩
      · exact .inl (refuses_cons.2 ⟨hw, hrest⟩)
      · exact .inr ⟨w :: before, v, after, r, rfl, refuses_cons.2 ⟨hw, hbefore⟩, hv⟩

/-- Everybody in the levels of some classes is refused, or somebody in one of these levels fits and
everybody before is refused. -/
theorem refuses_or_fits_among (fits : Vehicle → σ → Option ρ × σ) (q : WaitingQueue)
    (classes : List VehicleClass) (a : σ) :
    Refuses fits (q.among classes) a ∨ ∃ earlier c later before v after r,
      classes = earlier ++ c :: later ∧ q.levels.get c = before ++ v :: after ∧
        Refuses fits (q.among earlier ++ before) a ∧
        (fits v (stateAfter fits (q.among earlier ++ before) a)).1 = some r := by
  induction classes generalizing a with
  | nil => exact .inl (refuses_nil a)
  | cons c classes ih =>
    rcases refuses_or_fits fits (q.levels.get c) a with
      hrefused | ⟨before, v, after, r, hlevel, hbefore, hv⟩
    · rcases ih (stateAfter fits (q.levels.get c) a) with
        hrest | ⟨earlier, c', later, before, v, after, r, rfl, hlevel, hbefore, hv⟩
      · exact .inl (among_cons q c classes ▸ refuses_append.2 ⟨hrefused, hrest⟩)
      · refine .inr ⟨c :: earlier, c', later, before, v, after, r, rfl, hlevel, ?_, ?_⟩
        · rw [among_cons, List.append_assoc, refuses_append]
          exact ⟨hrefused, hbefore⟩
        · rw [among_cons, List.append_assoc, stateAfter_append]
          exact hv
    · exact .inr ⟨[], c, classes, before, v, after, r, rfl, hlevel, hbefore, hv⟩

/-! ### The two ways in which an admission can go -/

/-- The course of an admission: the queue that it leaves, whom it lets in with which answer, what
the predicate has come to, and the calls of the predicate. -/
inductive Course (fits : Vehicle → σ → Option ρ × σ) (q : WaitingQueue) (a : σ) :
    WaitingQueue → Option (Vehicle × ρ) → σ → List (Ask σ ρ) → Prop
  /-- Everybody in the levels is asked about and refused, and the queue stays as it is. -/
  | nobody (refused : Refuses fits q.candidates a) :
      Course fits q a q none (stateAfter fits q.candidates a) (asks fits q.candidates a)
  /-- Everybody before a vehicle is asked about and refused, and the vehicle, which fits, is the
  last one that is asked about. Its place in its level is closed. -/
  | somebody {c : VehicleClass} {before after : List Vehicle} {v : Vehicle} {r : ρ}
      (level : q.levels.get c = before ++ v :: after)
      (refused : Refuses fits (q.ahead c ++ before) a)
      (fit : (fits v (stateAfter fits (q.ahead c ++ before) a)).1 = some r) :
      Course fits q a (q.withLevel c (before ++ after)) (some (v, r))
        (stateAfter fits (q.ahead c ++ before ++ [v]) a)
        (asks fits (q.ahead c ++ before ++ [v]) a)

theorem admitFirst_of_refuses (h : Refuses fits q.candidates a) :
    q.admitFirst fits a = (q, none, stateAfter fits q.candidates a) :=
  admitAmong_of_refuses h

theorem admitFirst_of_fits (hlevel : q.levels.get c = before ++ v :: after)
    (hbefore : Refuses fits (q.ahead c ++ before) a)
    (hv : (fits v (stateAfter fits (q.ahead c ++ before) a)).1 = some r) :
    q.admitFirst fits a = (q.withLevel c (before ++ after), some (v, r),
      stateAfter fits (q.ahead c ++ before ++ [v]) a) := by
  rw [admitFirst, c.all_eq]
  exact admitAmong_of_fits hlevel hbefore hv c.later

/-- Everybody in the levels is refused, or somebody fits and everybody before is refused. -/
theorem refuses_or_fits_candidates (fits : Vehicle → σ → Option ρ × σ) (q : WaitingQueue) (a : σ) :
    Refuses fits q.candidates a ∨ ∃ c before v after r, q.levels.get c = before ++ v :: after ∧
      Refuses fits (q.ahead c ++ before) a ∧
      (fits v (stateAfter fits (q.ahead c ++ before) a)).1 = some r := by
  rcases refuses_or_fits_among fits q VehicleClass.all a with
    hrefused | ⟨earlier, c, later, before, v, after, r, hall, hlevel, hbefore, hv⟩
  · exact .inl hrefused
  · obtain rfl := VehicleClass.eq_earlier hall
    exact .inr ⟨c, before, v, after, r, hlevel, hbefore, hv⟩

/-! ### The record -/

theorem stateAfter_noting (vehicles : List Vehicle) (a : σ) (calls : List (Ask σ ρ)) :
    stateAfter (noting fits) vehicles (a, calls) =
      (stateAfter fits vehicles a, calls ++ asks fits vehicles a) := by
  induction vehicles generalizing a calls with
  | nil => simp [stateAfter, asks]
  | cons v rest ih =>
    have hrest := ih (fits v a).2 (calls ++ [⟨v, a, (fits v a).1⟩])
    rw [List.append_assoc] at hrest
    exact hrest

theorem refuses_noting {calls : List (Ask σ ρ)} :
    Refuses (noting fits) vehicles (a, calls) ↔ Refuses fits vehicles a := by
  induction vehicles generalizing a calls with
  | nil => exact ⟨fun _ => refuses_nil _, fun _ => refuses_nil _⟩
  | cons v rest ih =>
    rw [refuses_cons, refuses_cons]
    exact and_congr_right fun _ => ih

theorem noting_fst (v : Vehicle) (state : σ × List (Ask σ ρ)) :
    (noting fits v state).1 = (fits v state.1).1 := rfl

theorem admitFirst_noting_of_refuses (h : Refuses fits q.candidates a) :
    q.admitFirst (noting fits) (a, []) =
      (q, none, stateAfter fits q.candidates a, asks fits q.candidates a) := by
  rw [admitFirst_of_refuses (refuses_noting.2 h), stateAfter_noting, List.nil_append]

theorem admitFirst_noting_of_fits (hlevel : q.levels.get c = before ++ v :: after)
    (hbefore : Refuses fits (q.ahead c ++ before) a)
    (hv : (fits v (stateAfter fits (q.ahead c ++ before) a)).1 = some r) :
    q.admitFirst (noting fits) (a, []) = (q.withLevel c (before ++ after), some (v, r),
      stateAfter fits (q.ahead c ++ before ++ [v]) a,
      asks fits (q.ahead c ++ before ++ [v]) a) := by
  have hnoted : (noting fits v
      (stateAfter (noting fits) (q.ahead c ++ before) (a, []))).1 = some r := by
    rw [noting_fst, stateAfter_noting]
    exact hv
  rw [admitFirst_of_fits hlevel (refuses_noting.2 hbefore) hnoted, stateAfter_noting,
    List.nil_append]

/-- The record changes nothing about an admission, and it is that of the course. -/
theorem course_noting (fits : Vehicle → σ → Option ρ × σ) (q : WaitingQueue) (a : σ) :
    ∃ q' admitted a' calls, q.admitFirst (noting fits) (a, []) = (q', admitted, a', calls) ∧
      q.Course fits a q' admitted a' calls ∧
      ∀ zone, { q with zone }.admitFirst fits a = ({ q' with zone }, admitted, a') := by
  rcases refuses_or_fits_candidates fits q a with
    hrefused | ⟨c, before, v, after, r, hlevel, hbefore, hv⟩
  · exact ⟨_, _, _, _, admitFirst_noting_of_refuses hrefused, .nobody hrefused,
      fun zone => admitFirst_of_refuses (q := { q with zone }) hrefused⟩
  · exact ⟨_, _, _, _, admitFirst_noting_of_fits hlevel hbefore hv, .somebody hlevel hbefore hv,
      fun zone => admitFirst_of_fits (q := { q with zone }) hlevel hbefore hv⟩

namespace Course

variable {q' : WaitingQueue} {admitted : Option (Vehicle × ρ)} {a' : σ} {calls : List (Ask σ ρ)}

theorem calls_eq (h : q.Course fits a q' admitted a' calls) :
    ∃ vehicles, calls = asks fits vehicles a := by
  cases h with
  | nobody => exact ⟨_, rfl⟩
  | somebody => exact ⟨_, rfl⟩

/-- The calls are about the first vehicles in the levels. -/
theorem vehicles_prefix (h : q.Course fits a q' admitted a' calls) :
    calls.map Ask.vehicle <+: q.candidates := by
  cases h with
  | nobody =>
    refine ⟨[], ?_⟩
    rw [map_vehicle_asks, List.append_nil]
  | @somebody c before after v r hlevel =>
    rw [map_vehicle_asks, q.candidates_eq c, hlevel]
    exact ⟨after ++ q.among c.later, by simp⟩

/-- Nobody is let in exactly if everybody is refused. -/
theorem eq_none_iff (h : q.Course fits a q' admitted a' calls) :
    admitted = none ↔ Refuses fits q.candidates a := by
  cases h with
  | nobody hrefused => exact iff_of_true rfl hrefused
  | @somebody c before after v r hlevel hbefore hv =>
    -- Whoever was let in is among those in the levels, and was not refused.
    refine iff_of_false (Option.some_ne_none _) fun hrefused => ?_
    rw [q.candidates_eq c, hlevel, List.append_assoc, List.cons_append, ← List.append_assoc,
      refuses_append, refuses_cons, hv] at hrefused
    cases hrefused.2.1

end Course

/-- Whatever is in the levels and whatever the predicate answers, also depending on its earlier
calls: an admission asks about the vehicles in the levels in order, each once, and stops at the
first one that fits; it takes that one out of its place and nobody else. It lets nobody in exactly
if everybody is refused. The record of the calls changes nothing, and neither does what is in the
waiting zones. -/
theorem course_of_admitFirst (fits : Vehicle → σ → Option ρ × σ) (q : WaitingQueue) (a : σ) :
    let (q', admitted, a', calls) := q.admitFirst (noting fits) (a, [])
    q.Course fits a q' admitted a' calls ∧ calls.map Ask.vehicle <+: q.candidates ∧
      (admitted = none ↔ Refuses fits q.candidates a) ∧
      q.admitFirst fits a = (q', admitted, a') ∧
      ∀ zone, { q with zone }.admitFirst fits a = ({ q' with zone }, admitted, a') := by
  obtain ⟨q', admitted, a', calls, hnoted, hcourse, hzones⟩ := course_noting fits q a
  -- Nobody is taken from a waiting zone, so the zones of the old queue do for the new one.
  have hsame : q' = { q' with zone := q.zone } := by
    cases hcourse <;> rfl
  rw [hnoted]
  refine ⟨hcourse, hcourse.vehicles_prefix, hcourse.eq_none_iff, ?_, hzones⟩
  rw [hsame]
  exact hzones q.zone

end Calls

end WaitingQueue

end Junction
