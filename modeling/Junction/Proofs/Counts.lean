import Junction.Proofs.Violations

/-!
# What is counted in a run without a fault

As long as nobody has raised a fault, every life keeps to the way from its arrival to its
completion, or to its rejection. The counters of the site then tell how many lives have come past
the points where they are counted.

## Main definitions

* `Life.Stride` — a step of a life in a run without a fault
* `Scene.Stride` — a step of a run without a fault
* `Scene.Counted` — the counters agree with the lives

## Main results

* `Scene.Lawful.stride` — a step that leaves a run without a fault is one
* `Scene.Counted.move` — each step keeps the counters in agreement
-/

namespace Junction

namespace Life

/-- Whether a life has still to tell the scheduler that its vehicle is there. -/
def isComing : Life → Bool
  | start .. | rejecting .. | arriving .. => true
  | _ => false

/-- Whether the arrival of a vehicle was counted, given that there is no fault. -/
def hasArrived : Life → Bool
  | start .. => false
  | rejecting _ point => decide (point = .notify)
  | arriving _ point => decide (point = .notify)
  | _ => true

/-- Whether the rejection of a vehicle was counted. -/
def hasRejected : Life → Bool
  | rejecting _ .countArrival | rejecting _ .notify | ended (some _) => true
  | _ => false

/-- Whether the completion of a vehicle was counted, given that there is no fault. -/
def hasCompleted : Life → Bool
  | completing _ .notify | ended none => true
  | _ => false

/-- Whether a life has locked the fault to join the queue. -/
def isLocking : Life → Bool
  | arriving _ .log | arriving _ .enqueue => true
  | _ => false

/-- A step of a life in a run without a fault. -/
structure Stride (x : Site) (p : Life) (x' : Site) (p' : Life) : Prop where
  /-- It is a step. -/
  move : p.Move x x' p'
  /-- There is no fault. -/
  sound : x.fault = none
  /-- The run is not aborted. -/
  unaborted : x.aborted = false
  /-- The life is not aborting the run. -/
  before : (Task.life p).abort? = none
  /-- Nor does it start to. -/
  after : (Task.life p').abort? = none

namespace Stride

variable {x x' : Site} {p p' : Life}

theorem counts (h : Stride x p x' p') :
    x'.arrivals + p.hasArrived.toNat = x.arrivals + p'.hasArrived.toNat ∧
      x'.rejections + p.hasRejected.toNat = x.rejections + p'.hasRejected.toNat ∧
      x'.completions + p.hasCompleted.toNat = x.completions + p'.hasCompleted.toNat := by
  obtain ⟨move, hsound, hunaborted, hbefore, hafter⟩ := h
  cases move with
  | turnAway v hfaulty =>
    rw [hsound] at hfaulty
    cases hfaulty
  | turnBack v haborted =>
    rw [hunaborted] at haborted
    cases haborted
  | denied | takeBadly | enterBadly | vacateBadly | clearBadly => cases hafter
  | abort | abortEnd => cases hbefore
  | setOut | logEntry =>
    unfold toClaim
    split <;> exact ⟨rfl, rfl, rfl⟩
  | _ => exact ⟨rfl, rfl, rfl⟩

/-- A life that tells the scheduler something changes the epoch; any other one still has to tell
what it had to tell. -/
theorem epoch (h : Stride x p x' p') :
    x'.epoch = x.epoch + 1 ∨
      x'.epoch = x.epoch ∧ (p.isComing = true → p'.isComing = true) ∧
        (p.hasReleased = true → p'.hasReleased = true) := by
  obtain ⟨move, hsound, hunaborted, hbefore, hafter⟩ := h
  cases move with
  | turnAway v hfaulty =>
    rw [hsound] at hfaulty
    cases hfaulty
  | denied | takeBadly | enterBadly | vacateBadly | clearBadly => cases hafter
  | abort | abortEnd => cases hbefore
  | notifyRejection | notifyArrival | notifyCompletion => exact .inl rfl
  | setOut | logEntry => exact .inr ⟨rfl, nofun, nofun⟩
  | clear => exact .inr ⟨rfl, nofun, fun _ => rfl⟩
  | _ => exact .inr ⟨rfl, id, id⟩

theorem queue (h : Stride x p x' p') :
    x'.queue = x.queue ∨
      ∃ v, p = .arriving v .enqueue ∧ p' = .arriving v .count ∧
        x'.queue = x.queue.enqueue v := by
  obtain ⟨move, -, -, hbefore, -⟩ := h
  cases move with
  | enqueue v => exact .inr ⟨v, rfl, rfl, rfl⟩
  | abort | abortEnd => cases hbefore
  | _ => exact .inl rfl

theorem locked (h : Stride x p x' p') (hlocked : x'.faultLocked = true) :
    p'.isLocking = true ∨ x.faultLocked = true ∧ p.isLocking = false := by
  obtain ⟨move, -, -, hbefore, hafter⟩ := h
  cases move with
  | lock | logArrival => exact .inl rfl
  | enqueue => cases hlocked
  | abort | abortEnd => cases hbefore
  | _ => exact .inr ⟨hlocked, rfl⟩

theorem total (h : Stride x p x' p') : x'.total = x.total := by
  obtain ⟨move, -, -, hbefore, -⟩ := h
  cases move with
  | abort | abortEnd => cases hbefore
  | _ => rfl

/-- A run that is done stays done. -/
theorem isDone (h : Stride x p x' p') (hdone : x.isDone = true) : x'.isDone = true := by
  obtain ⟨move, -, -, hbefore, -⟩ := h
  have hmore : ∀ n m, x.isDone = true →
      decide (x.total ≤ x.completions + n + (x.rejections + m)) = true := by
    intro n m hdone
    have hle : x.total ≤ x.completions + x.rejections := of_decide_eq_true hdone
    exact decide_eq_true (by omega)
  cases move with
  | countRejection => exact hmore 0 1 hdone
  | countCompletion => exact hmore 1 0 hdone
  | abort | abortEnd => cases hbefore
  | _ => exact hdone

/-- A vehicle ends after it has left. -/
theorem of_ended (h : Stride x p x' p') (hp' : p' = .ended none) :
    ∃ v, p = .completing v .notify := by
  obtain ⟨move, hsound, hunaborted, hbefore, -⟩ := h
  cases move with
  | notifyCompletion v => exact ⟨v, rfl⟩
  | turnAway v hfaulty =>
    rw [hsound] at hfaulty
    cases hfaulty
  | turnBack v haborted =>
    rw [hunaborted] at haborted
    cases haborted
  | setOut | logEntry =>
    unfold toClaim at hp'
    split at hp' <;> cases hp'
  | _ => cases hp'

end Stride

end Life

/-- How many lives of a task have a property. -/
def Task.count (f : Life → Bool) : Task → Nat
  | life p => (f p).toNat
  | _ => 0

/-- A scheduler that is not busy with an abort leaves counters, epoch and fault alone. -/
theorem Scheduler.Move.frame {x x' : Site} {pt pt' : Scheduler.Point}
    (move : Scheduler.Move x pt x' pt') (hidle : pt.abort? = none) :
    x'.arrivals = x.arrivals ∧ x'.rejections = x.rejections ∧ x'.completions = x.completions ∧
      x'.epoch = x.epoch ∧ x'.total = x.total ∧ x'.faultLocked = x.faultLocked := by
  cases move with
  | giveUp | givenUp | abort | abortEnd => cases hidle
  | _ => exact ⟨rfl, rfl, rfl, rfl, rfl, rfl⟩

/-- A scheduler that is busy with an abort does nothing else. -/
theorem Scheduler.Move.of_abort {x x' : Site} {pt pt' : Scheduler.Point}
    (move : Scheduler.Move x pt x' pt') {a : Abort} (ha : pt.abort? = some a) :
    ∃ a', a.Move x x' a' := by
  cases move with
  | giveUp move | givenUp move | abort move | abortEnd move =>
    cases ha
    exact ⟨_, move⟩
  | _ => cases ha

namespace Scene

/-- A step of a run without a fault. -/
inductive Stride (e e' : Scene) : Prop
  | scheduler (tasks : e'.tasks = e.tasks) (idle : e.point.abort? = none)
    (move : Scheduler.Move e.site e.point e'.site e'.point)
  | life (i : Nat) {p p' : Life} (before : e.tasks.get i = .life p)
    (tasks : e'.tasks = e.tasks.set i (.life p')) (point : e'.point = e.point)
    (stride : p.Stride e.site e'.site p')

variable {specs : List VehicleSpec} {faults : List Fault} {e e' : Scene} {i : Nat}
variable {v : Vehicle} {p : Life}

/-- Without a fault the flag is not set. -/
theorem Flagged.unaborted (h : e.Flagged) (hsound : e.site.fault = none) :
    e.site.aborted = false := by
  by_contra haborted
  have hfault := h.fault (by simpa using haborted)
  rw [hsound] at hfault
  cases hfault

/-- A step of an abort leaves a fault. -/
theorem Flagged.fault_of_abort (h : e.Flagged) {a : Abort} {a' : Option Abort} {x' : Site}
    (ha : e.HasAbort a) (move : a.Move e.site x' a') : x'.fault.isSome = true := by
  cases hraising : a.isRaising with
  | false =>
    have hfault := h.raised ha hraising
    rcases move.fault_cases with heq | ⟨f, -, -, heq⟩
    · rwa [heq]
    · rw [heq]
      obtain ⟨f', hf'⟩ := Option.isSome_iff_exists.1 hfault
      rw [hf']
      rfl
  | true =>
    cases a with
    | raise f =>
      cases move
      rw [Site.fault_raise]
      cases e.site.fault <;> rfl
    | _ => cases hraising

/-- Without a fault no life aborts the run. -/
theorem Lawful.abort?_life (h : e.Lawful faults) (horderly : e.Orderly specs)
    (hsound : e.site.fault = none) (hlife : e.tasks.get i = .life p) :
    (Task.life p).abort? = none := by
  cases p with
  | aborting f a =>
    obtain ⟨spec, -, hne, -⟩ := horderly.staffed.concerns hlife
    rcases h.lives hlife rfl with heq | ⟨-, haborted⟩
    · exact absurd heq hne
    · rw [horderly.flagged.unaborted hsound] at haborted
      cases haborted
  | _ => rfl

theorem Lawful.stride (h : e.Lawful faults) (horderly : e.Orderly specs) (move : e.Move e')
    (h' : e'.Lawful faults) (horderly' : e'.Orderly specs) (hsound : e'.site.fault = none) :
    e.Stride e' := by
  -- A fault stays, so there was none before the step either.
  have hbefore : e.site.fault = none := by
    by_contra hfault
    rw [← move.fault_eq (Option.isSome_iff_ne_none.2 hfault)] at hfault
    exact hfault hsound
  -- Every section of an abort leaves a fault behind.
  have habort : ∀ {a a'}, e.HasAbort a → a.Move e.site e'.site a' → False := by
    intro a a' ha hmove
    have hfault := horderly.flagged.fault_of_abort ha hmove
    rw [hsound] at hfault
    cases hfault
  cases move with
  | scheduler htasks move =>
    refine .scheduler htasks ?_ move
    by_contra hidle
    obtain ⟨a, ha⟩ := Option.ne_none_iff_exists'.1 hidle
    obtain ⟨a', hmove⟩ := move.of_abort ha
    exact habort (.inr ha) hmove
  | @life i p p' hp htasks hpoint move =>
    have hp' : e'.tasks.get i = .life p' := by rw [htasks, Table.get_set, if_pos rfl]
    exact .life i hp htasks hpoint
      ⟨move, hbefore, horderly.flagged.unaborted hbefore, h.abort?_life horderly hbefore hp,
        h'.abort?_life horderly' hsound hp'⟩
  | abort i ha htasks hpoint move => exact (habort (.inl ⟨i, ha ▸ rfl⟩) move).elim

/-! ### Counters -/

/-- The counters agree with the lives. -/
structure Counted (specs : List VehicleSpec) (e : Scene) : Prop where
  /-- Everybody is expected. -/
  total : e.site.total = specs.length
  /-- Arrivals are counted. -/
  arrivals : e.site.arrivals = e.tasks.tally (Task.count Life.hasArrived)
  /-- Rejections are counted. -/
  rejections : e.site.rejections = e.tasks.tally (Task.count Life.hasRejected)
  /-- Completions are counted. -/
  completions : e.site.completions = e.tasks.tally (Task.count Life.hasCompleted)
  /-- A vehicle has left before it ends. -/
  left : ∀ {i v}, e.Lives specs i v (.ended none) → (e.site.dossier v.id).hasLeft = true

namespace Counted

theorem left_move (h : e.Counted specs) (horderly : e.Orderly specs)
    (hdistinct : (specs.map (·.id)).Nodup) (stride : e.Stride e')
    (hlives : e'.Lives specs i v (.ended none)) : (e'.site.dossier v.id).hasLeft = true := by
  cases stride with
  | scheduler htasks idle move =>
    rw [horderly.hasLeft_scheduler move]
    exact h.left ⟨hlives.enrolled, htasks ▸ hlives.life⟩
  | life j hq htasks hpoint stride =>
    rcases horderly.lives_of_life hdistinct hq htasks stride.move hlives with
      ⟨rfl, rfl, hlives⟩ | ⟨-, hlives, hdossier⟩
    · obtain ⟨w, rfl⟩ := stride.of_ended rfl
      obtain ⟨pass, hlogged⟩ := (horderly.fits hlives).logged
      apply stride.move.hasLeft
      simp [Dossier.hasLeft, hlogged, Vehicle.wholeTrail]
    · rw [hdossier]
      exact h.left hlives

/-- Each step of a run without a fault keeps the counters in agreement. -/
theorem move (h : e.Counted specs) (horderly : e.Orderly specs)
    (hdistinct : (specs.map (·.id)).Nodup) (stride : e.Stride e') : e'.Counted specs := by
  have hleft := fun {i v} => h.left_move (i := i) (v := v) horderly hdistinct stride
  cases stride with
  | scheduler htasks idle move =>
    obtain ⟨harrivals, hrejections, hcompletions, -, htotal, -⟩ := move.frame idle
    refine ⟨?_, ?_, ?_, ?_, hleft⟩
    · rw [htotal, h.total]
    · rw [harrivals, htasks, h.arrivals]
    · rw [hrejections, htasks, h.rejections]
    · rw [hcompletions, htasks, h.completions]
  | @life j q q' hq htasks hpoint stride =>
    obtain ⟨harrivals, hrejections, hcompletions⟩ := stride.counts
    -- One life has gone on, so a tally changes by what this life counts.
    have htally : ∀ f : Life → Bool, e'.tasks.tally (Task.count f) + (f q).toNat =
        e.tasks.tally (Task.count f) + (f q').toNat := by
      intro f
      have hset := e.tasks.tally_set (f := Task.count f) rfl j (.life q')
      rw [hq] at hset
      rw [htasks]
      exact hset
    refine ⟨?_, ?_, ?_, ?_, hleft⟩
    · rw [stride.total, h.total]
    · have hset := htally Life.hasArrived
      have hold := h.arrivals
      omega
    · have hset := htally Life.hasRejected
      have hold := h.rejections
      omega
    · have hset := htally Life.hasCompleted
      have hold := h.completions
      omega

theorem staged (config : Config) (console : Console) (specs : List VehicleSpec)
    (faults : List Fault) :
    (Scene.staged (.start config specs.length console) specs faults).Counted specs where
  total := rfl
  arrivals := (staged_tally _ specs faults (fun _ => rfl) (fun _ => rfl) rfl).symm
  rejections := (staged_tally _ specs faults (fun _ => rfl) (fun _ => rfl) rfl).symm
  completions := (staged_tally _ specs faults (fun _ => rfl) (fun _ => rfl) rfl).symm
  left hlives := by
    have hlife := hlives.life
    rcases staged_get (.start config specs.length console) specs faults _ with
      ⟨spec, -, htask⟩ | ⟨-, ⟨f, -, htask⟩ | htask⟩ <;> rw [htask] at hlife <;> cases hlife

end Counted

end Scene

end Junction
