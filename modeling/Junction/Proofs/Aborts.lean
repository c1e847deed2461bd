import Junction.Proofs.Staffing

/-!
# What an abort leaves behind

An abort keeps its fault before it sets the flag of the run, and sets the flag before it touches the
queue. Neither is ever taken back: the first fault stays the fault of the run, and the flag stays
set.

## Main definitions

* `Scene.HasAbort` — the aborts that are under way
* `Scene.Flagged` — the fault and the flag that must be there, given where the aborts stand

## Main results

* `Scene.Move.fault_eq`, `Scene.Move.aborted` — fault and flag stay
* `Scene.Flagged.move` — they are there after each step
-/

namespace Junction

/-- The abort that a task is busy with. -/
def Task.abort? : Task → Option Abort
  | life (.aborting _ a) | abort a => some a
  | _ => none

/-- The abort that the scheduler is busy with. -/
def Scheduler.Point.abort? : Point → Option Abort
  | giveUp _ _ a | aborting _ a => some a
  | _ => none

@[simp] theorem Task.abort?_ofAbort (a : Option Abort) : (ofAbort a).abort? = a := by
  cases a <;> rfl

@[simp] theorem Task.abort?_toClaim (v : Vehicle) (segments : List Segment) :
    (life (.toClaim v segments)).abort? = none := by
  cases segments <;> rfl

/-- A task that does not abort the run has nobody in its hand. -/
theorem Task.hand_of_idle {task : Task} (h : task.abort? = none) : task.hand = [] := by
  cases task with
  | life p =>
    cases p with
    | aborting f a => cases h
    | _ => rfl
  | abort a => cases h
  | _ => rfl

/-! ### Steps -/

theorem Site.fault_raise (x : Site) (f : Fault) : (x.raise f).fault = x.fault.or (some f) := by
  unfold raise
  split
  · next heq => rw [heq]; rfl
  · next heq => rw [heq]; rfl

theorem Site.aborted_raise (x : Site) (f : Fault) : (x.raise f).aborted = x.aborted := by
  unfold raise
  split <;> rfl

section Steps

variable {x x' : Site}

/-- A fault is kept by the first abort only. -/
theorem Abort.Move.fault_cases {a : Abort} {a' : Option Abort} (move : a.Move x x' a') :
    x'.fault = x.fault ∨ ∃ f, a = .raise f ∧ a' = some .flag ∧ x'.fault = x.fault.or (some f) := by
  cases move with
  | raise f => exact .inr ⟨f, rfl, rfl, x.fault_raise f⟩
  | _ => exact .inl rfl

theorem Abort.Move.aborted {a : Abort} {a' : Option Abort} (move : a.Move x x' a')
    (h : x.aborted = true) : x'.aborted = true := by
  cases move with
  | raise f => rw [Site.aborted_raise, h]
  | flag => rfl
  | _ => exact h

theorem Abort.Move.isRaising_eq {a a' : Abort} (move : a.Move x x' (some a')) :
    a'.isRaising = false := by
  cases move with
  | skip c | gather c => exact isRaising_afterGather c
  | drain c => exact isRaising_afterDrain c _
  | _ => rfl

/-- The flag is set by an abort that has kept its fault. -/
theorem Abort.Move.aborted_cases {a : Abort} {a' : Option Abort} (move : a.Move x x' a') :
    x'.aborted = x.aborted ∨ a.isRaising = false := by
  cases move with
  | raise f => exact .inl (x.aborted_raise f)
  | _ => exact .inr rfl

theorem Abort.Move.flagged {a a' : Abort} (move : a.Move x x' (some a'))
    (h : a.hasFlagged = true → x.aborted = true) (hflagged : a'.hasFlagged = true) :
    x'.aborted = true := by
  cases move with
  | raise f => cases hflagged
  | flag => rfl
  | _ => exact h rfl

theorem Abort.Move.raised {a a' : Abort} (move : a.Move x x' (some a'))
    (h : a.isRaising = false → x.fault.isSome = true) : x'.fault.isSome = true := by
  cases move with
  | raise f =>
    rw [Site.fault_raise]
    cases x.fault <;> rfl
  | _ => exact h rfl

/-- A step of a life is a step of its abort, or leaves fault and flag alone and starts an abort at
most. -/
theorem Life.Move.abort_cases {p p' : Life} (move : p.Move x x' p') :
    (x'.fault = x.fault ∧ x'.aborted = x.aborted ∧
        ∀ a, (Task.life p').abort? = some a → a.isRaising = true) ∨
      ∃ a a', (Task.life p).abort? = some a ∧ a.Move x x' a' ∧ (Task.life p').abort? = a' := by
  cases move with
  -- A violation starts an abort, which has its fault still to keep.
  | denied | takeBadly | enterBadly | vacateBadly | clearBadly =>
    refine .inl ⟨rfl, rfl, ?_⟩
    intro a ha
    cases ha
    rfl
  | setOut | logEntry => exact .inl ⟨rfl, rfl, by simp⟩
  | abort move => exact .inr ⟨_, _, rfl, move, rfl⟩
  | abortEnd move => exact .inr ⟨_, _, rfl, move, rfl⟩
  | _ => exact .inl ⟨rfl, rfl, nofun⟩

theorem Scheduler.Move.abort_cases {pt pt' : Scheduler.Point} (move : Scheduler.Move x pt x' pt') :
    (x'.fault = x.fault ∧ x'.aborted = x.aborted ∧
        ∀ a, pt'.abort? = some a → a.isRaising = true) ∨
      ∃ a a', pt.abort? = some a ∧ a.Move x x' a' ∧ pt'.abort? = a' := by
  cases move with
  | letInBadly | nobodyBadly | losePatience | withdraw | unverified =>
    refine .inl ⟨rfl, rfl, ?_⟩
    intro a ha
    cases ha
    rfl
  | gather seen c =>
    refine .inl ⟨rfl, rfl, ?_⟩
    intro a ha
    cases c <;> cases ha
  | giveUp move | givenUp move | abort move | abortEnd move => exact .inr ⟨_, _, rfl, move, rfl⟩
  | _ => exact .inl ⟨rfl, rfl, nofun⟩

end Steps

/-! ### Scenes -/

namespace Scene

variable {e e' : Scene}

/-- An abort is under way, in a task or at the scheduler. -/
def HasAbort (e : Scene) (a : Abort) : Prop :=
  (∃ i, (e.tasks.get i).abort? = some a) ∨ e.point.abort? = some a

theorem abort?_task_of_idle (h : ∀ a, ¬ e.HasAbort a) (i : Nat) :
    (e.tasks.get i).abort? = none := by
  by_contra hsome
  obtain ⟨a, ha⟩ := Option.ne_none_iff_exists'.1 hsome
  exact h a (.inl ⟨i, ha⟩)

theorem abort?_point_of_idle (h : ∀ a, ¬ e.HasAbort a) : e.point.abort? = none := by
  by_contra hsome
  obtain ⟨a, ha⟩ := Option.ne_none_iff_exists'.1 hsome
  exact h a (.inr ha)

/-- A step of a run is a step of an abort, or leaves fault and flag alone and starts an abort at
most. -/
theorem Move.abort_cases (move : e.Move e') :
    (e'.site.fault = e.site.fault ∧ e'.site.aborted = e.site.aborted ∧
        ∀ b, e'.HasAbort b → e.HasAbort b ∨ b.isRaising = true) ∨
      ∃ a a', e.HasAbort a ∧ a.Move e.site e'.site a' ∧
        ∀ b, e'.HasAbort b → e.HasAbort b ∨ a' = some b := by
  cases move with
  | scheduler htasks move =>
    rcases move.abort_cases with ⟨hfault, haborted, hnew⟩ | ⟨a, a', ha, hmove, ha'⟩
    · refine .inl ⟨hfault, haborted, ?_⟩
      intro b hb
      rcases hb with ⟨i, hi⟩ | hb
      · exact .inl (.inl ⟨i, htasks ▸ hi⟩)
      · exact .inr (hnew b hb)
    · refine .inr ⟨a, a', .inr ha, hmove, ?_⟩
      intro b hb
      rcases hb with ⟨i, hi⟩ | hb
      · exact .inl (.inl ⟨i, htasks ▸ hi⟩)
      · exact .inr (ha'.symm.trans hb)
  | life i hp htasks hpoint move =>
    rcases move.abort_cases with ⟨hfault, haborted, hnew⟩ | ⟨a, a', ha, hmove, ha'⟩
    · refine .inl ⟨hfault, haborted, ?_⟩
      intro b hb
      rcases hb with ⟨j, hj⟩ | hb
      -- An abort after the step stood there before, or it belongs to the life itself.
      · rw [htasks, Table.get_set] at hj
        split at hj
        · exact .inr (hnew b hj)
        · exact .inl (.inl ⟨j, hj⟩)
      · exact .inl (.inr (hpoint ▸ hb))
    · refine .inr ⟨a, a', .inl ⟨i, hp ▸ ha⟩, hmove, ?_⟩
      intro b hb
      rcases hb with ⟨j, hj⟩ | hb
      · rw [htasks, Table.get_set] at hj
        split at hj
        · exact .inr (ha'.symm.trans hj)
        · exact .inl (.inl ⟨j, hj⟩)
      · exact .inl (.inr (hpoint ▸ hb))
  | @abort i a a' ha htasks hpoint move =>
    refine .inr ⟨a, a', .inl ⟨i, ha ▸ rfl⟩, move, ?_⟩
    intro b hb
    rcases hb with ⟨j, hj⟩ | hb
    · rw [htasks, Table.get_set] at hj
      split at hj
      · rw [Task.abort?_ofAbort] at hj
        exact .inr hj
      · exact .inl (.inl ⟨j, hj⟩)
    · exact .inl (.inr (hpoint ▸ hb))

theorem Move.aborted (move : e.Move e') (h : e.site.aborted = true) : e'.site.aborted = true := by
  rcases move.abort_cases with ⟨-, haborted, -⟩ | ⟨a, a', -, hmove, -⟩
  · rw [haborted, h]
  · exact hmove.aborted h

/-- The first fault stays the fault of the run. -/
theorem Move.fault_eq (move : e.Move e') (h : e.site.fault.isSome = true) :
    e'.site.fault = e.site.fault := by
  rcases move.abort_cases with ⟨hfault, -⟩ | ⟨a, a', -, hmove, -⟩
  · exact hfault
  · rcases hmove.fault_cases with hfault | ⟨f, -, -, hfault⟩
    · exact hfault
    · obtain ⟨f', hf'⟩ := Option.isSome_iff_exists.1 h
      rw [hfault, hf']
      rfl

/-- The fault and the flag are there as soon as they must be. -/
structure Flagged (e : Scene) : Prop where
  /-- An abort that has kept its fault leaves a fault. -/
  raised : ∀ {a}, e.HasAbort a → a.isRaising = false → e.site.fault.isSome = true
  /-- An abort that has set the flag leaves the flag. -/
  flagged : ∀ {a}, e.HasAbort a → a.hasFlagged = true → e.site.aborted = true
  /-- The flag is set with a fault only. -/
  fault : e.site.aborted = true → e.site.fault.isSome = true

theorem Flagged.move (h : e.Flagged) (move : e.Move e') : e'.Flagged := by
  rcases move.abort_cases with ⟨hfault, haborted, hnew⟩ | ⟨a, a', ha, hmove, hnew⟩
  -- Fault and flag are as before, and new aborts have done nothing yet.
  · refine ⟨?_, ?_, ?_⟩
    · intro b hb hraising
      rcases hnew b hb with hb | hraising'
      · rw [hfault]
        exact h.raised hb hraising
      · rw [hraising] at hraising'
        cases hraising'
    · intro b hb hflagged
      rcases hnew b hb with hb | hraising
      · rw [haborted]
        exact h.flagged hb hflagged
      · cases b with
        | raise f => cases hflagged
        | _ => cases hraising
    · rw [haborted, hfault]
      exact h.fault
  -- A fault stays, and so does the flag.
  · have hfault : e.site.fault.isSome = true → e'.site.fault.isSome = true := by
      intro hsome
      rwa [move.fault_eq hsome]
    refine ⟨?_, ?_, ?_⟩
    · intro b hb hraising
      rcases hnew b hb with hb | rfl
      · exact hfault (h.raised hb hraising)
      · exact hmove.raised (h.raised ha)
    · intro b hb hflagged
      rcases hnew b hb with hb | rfl
      · exact move.aborted (h.flagged hb hflagged)
      · exact hmove.flagged (h.flagged ha) hflagged
    · intro haborted
      rcases hmove.aborted_cases with heq | hraising
      · exact hfault (h.fault (heq ▸ haborted))
      · exact hfault (h.raised ha hraising)

/-- Before the first step no abort has kept its fault. -/
theorem isRaising_of_staged {x : Site} {specs : List VehicleSpec} {faults : List Fault} {a : Abort}
    (h : (staged x specs faults).HasAbort a) : a.isRaising = true := by
  rcases h with ⟨i, hi⟩ | ha
  · rcases staged_get x specs faults i with ⟨spec, -, htask⟩ | ⟨-, ⟨f, -, htask⟩ | htask⟩
    · rw [htask] at hi
      cases hi
    · rw [htask] at hi
      cases hi
      rfl
    · rw [htask] at hi
      cases hi
  · change (Scheduler.start x).point.abort? = some a at ha
    unfold Scheduler.start at ha
    dsimp only at ha
    split at ha <;> cases ha

theorem Flagged.staged (x : Site) (haborted : x.aborted = false) (specs : List VehicleSpec)
    (faults : List Fault) : (Scene.staged x specs faults).Flagged := by
  refine ⟨?_, ?_, ?_⟩
  · intro a ha hnot
    rw [isRaising_of_staged ha] at hnot
    cases hnot
  · intro a ha hflagged
    have hraise := isRaising_of_staged ha
    cases a with
    | raise f => cases hflagged
    | _ => cases hraise
  · intro h
    change x.aborted = true at h
    rw [haborted] at h
    cases h

end Scene

end Junction
