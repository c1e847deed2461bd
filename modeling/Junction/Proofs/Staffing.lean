import Mathlib.Data.List.Nodup
import Mathlib.Logic.Relation
import Junction.Proofs.Moves

/-!
# Who takes part in a run

A run is staged with a scheduler, one life for each description and, possibly, tasks that abort it
from outside. Which vehicles take part is settled by the descriptions alone; whoever is met in the
queue, in the hands of an abort or in those of the scheduler is one of them, and each life stays
with the vehicle of its description.

## Main definitions

* `Scene.staged` — a run together with tasks that abort it
* `Vehicle.At`, `Vehicle.Enrolled` — the vehicles that take part
* `Scene.Staffed` — everybody at work is one of them

## Main results

* `Vehicle.At.eq_of_id` — vehicles of distinct numbers are told apart by their numbers
* `Scene.Staffed.reachable` — every scene that a staged run can reach is staffed
-/

namespace Junction

/-! ### Enrollment -/

namespace Vehicle

/-- The vehicle of the description at a place. -/
def At (specs : List VehicleSpec) (i : Nat) (v : Vehicle) : Prop :=
  ∃ spec, specs[i]? = some spec ∧ ofSpec? spec spec.id = some v

/-- The vehicle of one of the descriptions. -/
def Enrolled (specs : List VehicleSpec) (v : Vehicle) : Prop := ∃ i, v.At specs i

theorem id_of_ofSpec? {spec : VehicleSpec} {channel : Nat} {v : Vehicle}
    (h : ofSpec? spec channel = some v) : v.id = spec.id ∧ v.channel = channel := by
  simp only [ofSpec?, Option.bind_eq_bind, Option.bind_eq_some_iff, Option.pure_def] at h
  obtain ⟨vclass, -, approach, -, turn, -, h⟩ := h
  cases h
  exact ⟨rfl, rfl⟩

variable {specs : List VehicleSpec} {i j : Nat} {v w : Vehicle}

theorem At.channel (h : v.At specs i) : v.channel = v.id := by
  obtain ⟨spec, -, hspec⟩ := h
  obtain ⟨hid, hchannel⟩ := id_of_ofSpec? hspec
  rw [hid, hchannel]

theorem At.unique (hv : v.At specs i) (hw : w.At specs i) : v = w := by
  obtain ⟨spec, hspec, hv⟩ := hv
  obtain ⟨spec', hspec', hw⟩ := hw
  obtain rfl := Option.some.inj (hspec.symm.trans hspec')
  exact Option.some.inj (hv.symm.trans hw)

end Vehicle

/-- Descriptions with distinct numbers are told apart by their numbers. -/
theorem VehicleSpec.place_of_id {specs : List VehicleSpec} (hdistinct : (specs.map (·.id)).Nodup)
    {i j : Nat} {spec spec' : VehicleSpec} (hi : specs[i]? = some spec)
    (hj : specs[j]? = some spec') (hid : spec.id = spec'.id) : i = j := by
  obtain ⟨hlt, rfl⟩ := List.getElem?_eq_some_iff.1 hi
  obtain ⟨hlt', rfl⟩ := List.getElem?_eq_some_iff.1 hj
  have hi' : i < (specs.map (·.id)).length := by simpa
  have hj' : j < (specs.map (·.id)).length := by simpa
  have heq : (specs.map (·.id))[i] = (specs.map (·.id))[j] := by simpa using hid
  exact hdistinct.getElem_inj_iff.1 heq

theorem Vehicle.At.eq_of_id {specs : List VehicleSpec} (hdistinct : (specs.map (·.id)).Nodup)
    {i j : Nat} {v w : Vehicle} (hv : v.At specs i) (hw : w.At specs j) (hid : v.id = w.id) :
    i = j ∧ v = w := by
  obtain ⟨spec, hspec, hv'⟩ := hv
  obtain ⟨spec', hspec', hw'⟩ := hw
  have hij : i = j := VehicleSpec.place_of_id hdistinct hspec hspec' <| by
    rw [← (id_of_ofSpec? hv').1, hid, (id_of_ofSpec? hw').1]
  subst hij
  exact ⟨rfl, At.unique ⟨spec, hspec, hv'⟩ ⟨spec', hspec', hw'⟩⟩

/-! ### What everybody has at hand -/

namespace WaitingQueue

/-- Every vehicle of a queue has a property. -/
def All (P : Vehicle → Prop) (q : WaitingQueue) : Prop :=
  ∀ c, (∀ v ∈ q.zone.get c, P v) ∧ ∀ v ∈ q.levels.get c, P v

variable {P : Vehicle → Prop} {q : WaitingQueue}

theorem All.enqueue (h : q.All P) {v : Vehicle} (hv : P v) : (q.enqueue v).All P := by
  refine fun c => ⟨fun w hw => ?_, (h c).2⟩
  rw [WaitingQueue.enqueue, Trio.get_set] at hw
  split at hw
  · next hc =>
    rcases List.mem_append.1 hw with hw | hw
    · exact (h v.vclass).1 w hw
    · exact List.mem_singleton.1 hw ▸ hv
  · exact (h c).1 w hw

theorem All.gather (h : q.All P) (c : VehicleClass) : (q.gather c).All P := by
  refine fun c' => ⟨fun v hv => ?_, fun v hv => ?_⟩
  · rw [WaitingQueue.gather, Trio.get_set] at hv
    split at hv
    · cases hv
    · exact (h c').1 v hv
  · rw [WaitingQueue.gather, Trio.get_set] at hv
    split at hv
    · rcases List.mem_append.1 hv with hv | hv
      · exact (h c).2 v hv
      · exact (h c).1 v hv
    · exact (h c').2 v hv

theorem All.drainLevel (h : q.All P) (c : VehicleClass) : (q.drainLevel c).1.All P := by
  refine fun c' => ⟨(h c').1, fun v hv => ?_⟩
  rw [WaitingQueue.drainLevel, Trio.get_set] at hv
  split at hv
  · cases hv
  · exact (h c').2 v hv

theorem All.without (h : q.All P) (c : VehicleClass) (place : Nat) : (q.without c place).All P := by
  refine fun c' => ⟨(h c').1, fun v hv => ?_⟩
  rw [WaitingQueue.without, Trio.get_set] at hv
  split at hv
  · exact (h c).2 v (List.mem_of_mem_eraseIdx hv)
  · exact (h c').2 v hv

end WaitingQueue

namespace Abort

/-- The vehicles that an abort still has to wake; none once it has ended. -/
def handOf (a : Option Abort) : List Vehicle := a.elim [] drained

@[simp] theorem handOf_some (a : Abort) : handOf (some a) = a.drained := rfl

@[simp] theorem handOf_none : handOf none = [] := rfl

end Abort

/-- The vehicles that a task has taken out of the queue and not woken yet. -/
def Task.hand : Task → List Vehicle
  | life (.aborting _ a) | abort a => a.drained
  | _ => []

@[simp] theorem Task.hand_ofAbort (a : Option Abort) : (ofAbort a).hand = Abort.handOf a := by
  cases a <;> rfl

/-- The hands of the scheduler hold vehicles with a property, and its ticket is that of the vehicle
it has let in. -/
def Scheduler.Point.Proper (P : Vehicle → Prop) : Point → Prop
  | announce v ticket | rouse v ticket | await v ticket _ | withdraw v ticket
  | acknowledged v ticket | verify v ticket => P v ∧ ticket = ⟨v.id, v.route⟩
  | giveUp v ticket a => P v ∧ ticket = ⟨v.id, v.route⟩ ∧ ∀ w ∈ a.drained, P w
  | aborting _ a => ∀ w ∈ a.drained, P w
  | _ => True

/-- A life concerns the vehicle of a description. -/
def Life.Concerns (spec : VehicleSpec) : Life → Prop
  | start spec' channel => spec' = spec ∧ channel = spec.id
  | rejecting spec' _ => spec' = spec ∧ Vehicle.ofSpec? spec spec.id = none
  | arriving v _ | sleeping v | woken v | claiming v .. | entering v .. | inside v
  | acknowledging v | crossing v | departing v | vacating v _ | exiting v .. | clearing v
  | leaving v | completing v _ => Vehicle.ofSpec? spec spec.id = some v
  | aborting fault _ => fault ≠ .invalidArgument ∧ Vehicle.ofSpec? spec spec.id ≠ none
  | ended failure => failure = some .invalidArgument ↔ Vehicle.ofSpec? spec spec.id = none

/-- The vehicle of a life that has a vehicle. -/
def Life.vehicle? : Life → Option Vehicle
  | arriving v _ | sleeping v | woken v | claiming v .. | entering v .. | inside v
  | acknowledging v | crossing v | departing v | vacating v _ | exiting v .. | clearing v
  | leaving v | completing v _ => some v
  | _ => none

@[simp] theorem Life.vehicle?_toClaim (v : Vehicle) (segments : List Segment) :
    (toClaim v segments).vehicle? = some v := by
  cases segments <;> rfl

@[simp] theorem Life.concerns_toClaim {spec : VehicleSpec} {v : Vehicle} {segments : List Segment} :
    (toClaim v segments).Concerns spec ↔ Vehicle.ofSpec? spec spec.id = some v := by
  cases segments <;> rfl

@[simp] theorem Life.hand_toClaim (v : Vehicle) (segments : List Segment) :
    (Task.life (toClaim v segments)).hand = [] := by
  cases segments <;> rfl

theorem Life.Concerns.vehicle {spec : VehicleSpec} {p : Life} {v : Vehicle} (h : p.Concerns spec)
    (hv : p.vehicle? = some v) : Vehicle.ofSpec? spec spec.id = some v := by
  cases p <;> first | exact Option.some.inj hv ▸ h | cases hv

/-! ### Steps -/

section Steps

variable {P : Vehicle → Prop} {x x' : Site}

theorem Abort.Move.all {a : Abort} {a' : Option Abort} (move : a.Move x x' a')
    (hqueue : x.queue.All P) (hhand : ∀ v ∈ a.drained, P v) :
    x'.queue.All P ∧ ∀ v ∈ handOf a', P v := by
  cases move with
  | raise f =>
    refine ⟨?_, hhand⟩
    unfold Site.raise
    split <;> exact hqueue
  | skip c => exact ⟨hqueue, by simp⟩
  | gather c => exact ⟨hqueue.gather c, by simp⟩
  | drain c vehicles =>
    refine ⟨hqueue.drainLevel c, ?_⟩
    intro v hv
    rw [handOf_some, drained_afterDrain] at hv
    rcases List.mem_append.1 hv with hv | hv
    · exact hhand v hv
    · exact (hqueue c).2 v hv
  | wake v rest => exact ⟨hqueue, fun w hw => hhand w (List.mem_cons_of_mem v hw)⟩
  | flag | unlock _ | notify _ | acknowledge _ | finish => exact ⟨hqueue, hhand⟩

theorem Life.Move.all {p p' : Life} (move : p.Move x x' p') (hqueue : x.queue.All P)
    (hhand : ∀ v ∈ (Task.life p).hand, P v) (hvehicle : ∀ v, p.vehicle? = some v → P v) :
    x'.queue.All P ∧ ∀ v ∈ (Task.life p').hand, P v := by
  cases move with
  | enqueue v => exact ⟨hqueue.enqueue (hvehicle v rfl), nofun⟩
  | setOut | logEntry => exact ⟨hqueue, by simp⟩
  | abort move => exact move.all hqueue hhand
  | abortEnd move => exact ⟨(move.all hqueue hhand).1, nofun⟩
  | _ => exact ⟨hqueue, nofun⟩

theorem Life.Move.concerns {p p' : Life} {spec : VehicleSpec} (move : p.Move x x' p')
    (h : p.Concerns spec) : p'.Concerns spec := by
  cases move with
  | recognize hv =>
    obtain ⟨rfl, rfl⟩ := h
    exact hv
  | refuse console hnone =>
    obtain ⟨rfl, rfl⟩ := h
    exact ⟨rfl, hnone⟩
  -- Only a rejection ends with the fault of an invalid argument.
  | notifyRejection spec' => exact ⟨fun _ => h.2, fun _ => rfl⟩
  | turnAway v | turnBack v | notifyCompletion v =>
    exact ⟨nofun, fun hnone => absurd (h.symm.trans hnone) nofun⟩
  | setOut | logEntry => exact concerns_toClaim.2 h
  | denied | takeBadly | enterBadly | vacateBadly | clearBadly =>
    exact ⟨nofun, fun hnone => absurd (h.symm.trans hnone) nofun⟩
  | abortEnd =>
    exact ⟨fun heq => absurd (Option.some.inj heq) h.1, fun hnone => absurd hnone h.2⟩
  | _ => exact h

theorem Scheduler.Move.all {pt pt' : Scheduler.Point} (move : Scheduler.Move x pt x' pt')
    (hqueue : x.queue.All P) (hpoint : pt.Proper P) : x'.queue.All P ∧ pt'.Proper P := by
  cases move with
  | gather seen c =>
    refine ⟨hqueue.gather c, ?_⟩
    cases c <;> trivial
  -- The vehicle comes from the queue, and the ticket is made for it.
  | letIn console hasked =>
    exact ⟨hqueue.without _ _, (hqueue _).2 _ (List.mem_of_getElem? hasked), rfl⟩
  | letInBadly => exact ⟨hqueue.without _ _, nofun⟩
  | nobodyBadly | unverified => exact ⟨hqueue, nofun⟩
  | losePatience => exact ⟨hqueue, hpoint.1, hpoint.2, nofun⟩
  | withdraw => exact ⟨hqueue, nofun⟩
  | giveUp move =>
    obtain ⟨hqueue', hhand⟩ := move.all hqueue hpoint.2.2
    exact ⟨hqueue', hpoint.1, hpoint.2.1, hhand⟩
  | givenUp move => exact ⟨(move.all hqueue hpoint.2.2).1, hpoint.1, hpoint.2.1⟩
  | abort move => exact move.all hqueue hpoint
  | abortEnd move => exact ⟨(move.all hqueue hpoint).1, trivial⟩
  | announce | rouse | takeAck | retry | confirm => exact ⟨hqueue, hpoint⟩
  | _ => exact ⟨hqueue, trivial⟩

end Steps

/-! ### Staged runs -/

namespace Scene

/-- Steps in one particular order are steps. -/
theorem steps_runWith (actors : List Actor) (limit : Nat) (e : Scene) :
    Relation.ReflTransGen Step e (runWith actors limit e) := by
  induction limit generalizing e with
  | zero => exact .refl
  | succ limit ih =>
    unfold runWith
    cases hstep : e.firstStep? actors with
    | none => exact .refl
    | some e' =>
      obtain ⟨actor, -, hactor⟩ := List.exists_of_findSome?_eq_some hstep
      exact .head ⟨actor, hactor⟩ (ih e')

/-- The scene of a run before its first step, with some tasks besides that abort it. -/
def staged (x : Site) (specs : List VehicleSpec) (faults : List Fault) : Scene where
  site := x
  scheduler := some (.start x)
  tasks :=
    ⟨(specs.map fun spec => .life (.start spec spec.id)) ++ faults.map fun f => .abort (.raise f)⟩
  supervised := true

theorem staged_nil (x : Site) (specs : List VehicleSpec) : staged x specs [] = ofSpecs x specs := by
  simp [staged, ofSpecs]

/-- The tasks before the first step: a life for each description, an abort for each fault, and
nothing more. -/
theorem staged_get (x : Site) (specs : List VehicleSpec) (faults : List Fault) (i : Nat) :
    (∃ spec, specs[i]? = some spec ∧
        (staged x specs faults).tasks.get i = .life (.start spec spec.id)) ∨
      (specs[i]? = none ∧
        ((∃ f ∈ faults, (staged x specs faults).tasks.get i = .abort (.raise f)) ∨
          (staged x specs faults).tasks.get i = .ended true)) := by
  cases hspec : specs[i]? with
  | some spec =>
    obtain ⟨hlt, rfl⟩ := List.getElem?_eq_some_iff.1 hspec
    refine .inl ⟨specs[i], rfl, ?_⟩
    simp [staged, Table.get, List.getElem?_append_left, hlt]
  | none =>
    have hle := List.getElem?_eq_none_iff.1 hspec
    refine .inr ⟨rfl, ?_⟩
    -- Past the lives stand the aborts.
    cases hfault : faults[i - specs.length]? with
    | some f =>
      refine .inl ⟨f, List.mem_of_getElem? hfault, ?_⟩
      simp [staged, Table.get, List.getElem?_append_right, hle, hfault]
    | none =>
      apply Or.inr
      simp [staged, Table.get, List.getElem?_append_right, hle, hfault]
      rfl

/-- Everybody at work in a scene takes part in the run of the descriptions. -/
structure Staffed (specs : List VehicleSpec) (e : Scene) : Prop where
  /-- The tasks are lives and aborts. -/
  isRun : e.IsRun
  /-- Each description has a life, which concerns its vehicle. -/
  life : ∀ {i spec}, specs[i]? = some spec → ∃ p, e.tasks.get i = .life p ∧ p.Concerns spec
  /-- There are no other lives. -/
  spec : ∀ {i p}, e.tasks.get i = .life p → ∃ spec, specs[i]? = some spec
  /-- The queue holds vehicles of the run. -/
  queue : e.site.queue.All (Vehicle.Enrolled specs)
  /-- The tasks wake vehicles of the run. -/
  hands : ∀ i, ∀ v ∈ (e.tasks.get i).hand, v.Enrolled specs
  /-- The scheduler deals with vehicles of the run. -/
  point : e.point.Proper (Vehicle.Enrolled specs)

namespace Staffed

variable {specs : List VehicleSpec} {e e' : Scene} {i : Nat} {p : Life} {v : Vehicle}

theorem concerns (h : e.Staffed specs) (hp : e.tasks.get i = .life p) :
    ∃ spec, specs[i]? = some spec ∧ p.Concerns spec := by
  obtain ⟨spec, hspec⟩ := h.spec hp
  obtain ⟨p', hp', hconcerns⟩ := h.life hspec
  rw [hp] at hp'
  cases hp'
  exact ⟨spec, hspec, hconcerns⟩

theorem at_of_vehicle (h : e.Staffed specs) (hp : e.tasks.get i = .life p)
    (hv : p.vehicle? = some v) : v.At specs i := by
  obtain ⟨spec, hspec, hconcerns⟩ := h.concerns hp
  exact ⟨spec, hspec, hconcerns.vehicle hv⟩

theorem life_of_at (h : e.Staffed specs) (hv : v.At specs i) : ∃ p, e.tasks.get i = .life p := by
  obtain ⟨spec, hspec, -⟩ := hv
  obtain ⟨p, hp, -⟩ := h.life hspec
  exact ⟨p, hp⟩

theorem move (h : e.Staffed specs) (hrun : e'.IsRun) (move : e.Move e') : e'.Staffed specs := by
  cases move with
  | scheduler htasks move =>
    obtain ⟨hqueue, hpoint⟩ := move.all h.queue h.point
    refine ⟨hrun, ?_, ?_, hqueue, ?_, hpoint⟩
    · rw [htasks]
      exact h.life
    · rw [htasks]
      exact h.spec
    · rw [htasks]
      exact h.hands
  | life i hp htasks hpoint move =>
    have hhand := h.hands i
    rw [hp] at hhand
    obtain ⟨hqueue, hhand'⟩ := move.all h.queue hhand fun v hv => ⟨i, h.at_of_vehicle hp hv⟩
    refine ⟨hrun, ?_, ?_, hqueue, ?_, ?_⟩
    · intro j spec hspec
      rw [htasks, Table.get_set]
      split
      -- The life that takes the step goes on with its own description.
      · next hji =>
        obtain ⟨spec', hspec', hconcerns⟩ := h.concerns hp
        obtain rfl := Option.some.inj (hspec'.symm.trans (hji ▸ hspec))
        exact ⟨_, rfl, move.concerns hconcerns⟩
      · exact h.life hspec
    · intro j p hj
      rw [htasks, Table.get_set] at hj
      split at hj
      · next hji => exact hji ▸ h.spec hp
      · exact h.spec hj
    · intro j
      rw [htasks, Table.get_set]
      split
      · exact hhand'
      · exact h.hands j
    · rw [hpoint]
      exact h.point
  | abort i ha htasks hpoint move =>
    have hhand := h.hands i
    rw [ha] at hhand
    obtain ⟨hqueue, hhand'⟩ := move.all h.queue hhand
    refine ⟨hrun, ?_, ?_, hqueue, ?_, ?_⟩
    · intro j spec hspec
      obtain ⟨p, hp, hconcerns⟩ := h.life hspec
      -- The step of an abort cannot overwrite a life.
      refine ⟨p, ?_, hconcerns⟩
      rw [htasks, Table.get_set_ne _ _ fun hji => ?_]
      · exact hp
      · rw [hji, ha] at hp
        cases hp
    · intro j p hj
      rw [htasks, Table.get_set] at hj
      split at hj
      · cases ‹Option Abort› <;> cases hj
      · exact h.spec hj
    · intro j
      rw [htasks, Table.get_set]
      split
      · rw [Task.hand_ofAbort]
        exact hhand'
      · exact h.hands j
    · rw [hpoint]
      exact h.point

theorem staged (x : Site) (hqueue : x.queue = {}) (specs : List VehicleSpec)
    (faults : List Fault) : (Scene.staged x specs faults).Staffed specs := by
  have hget := staged_get x specs faults
  refine ⟨⟨rfl, ?_⟩, ?_, ?_, ?_, ?_, ?_⟩
  · intro i
    rcases hget i with ⟨spec, -, hi⟩ | ⟨-, ⟨f, -, hi⟩ | hi⟩ <;> rw [hi] <;> trivial
  · intro i spec hspec
    rcases hget i with ⟨spec', hspec', hi⟩ | ⟨hnone, -⟩
    · obtain rfl := Option.some.inj (hspec'.symm.trans hspec)
      exact ⟨_, hi, rfl, rfl⟩
    · rw [hspec] at hnone
      cases hnone
  · intro i p hp
    rcases hget i with ⟨spec, hspec, -⟩ | ⟨-, ⟨f, -, hi⟩ | hi⟩
    · exact ⟨spec, hspec⟩
    · rw [hi] at hp
      cases hp
    · rw [hi] at hp
      cases hp
  · change x.queue.All _
    rw [hqueue]
    intro c
    cases c <;> exact ⟨nofun, nofun⟩
  · intro i
    rcases hget i with ⟨spec, -, hi⟩ | ⟨-, ⟨f, -, hi⟩ | hi⟩ <;> rw [hi] <;> exact nofun
  · change (Scheduler.start x).point.Proper _
    unfold Scheduler.start
    dsimp only
    split <;> trivial

/-- Every scene that a staged run can reach is staffed. -/
theorem reachable (x : Site) (hqueue : x.queue = {}) (specs : List VehicleSpec)
    (faults : List Fault)
    (h : Relation.ReflTransGen Step (Scene.staged x specs faults) e) : e.Staffed specs := by
  induction h with
  | refl => exact staged x hqueue specs faults
  | tail _ hstep ih =>
    obtain ⟨hmove, hrun⟩ := move_of_step ih.isRun hstep
    exact ih.move hrun hmove

end Staffed

end Scene

end Junction
