import Junction.Proofs.Enrollment

/-!
# No change is missed on a condition variable

Any number of threads share a value. Some wait until conditions on it cease to hold, with or without
a deadline; others change it while they have the lock, and end each such use with a broadcast. The
conditions may be any functions of the value.

Between two changes nobody but threads whose conditions hold comes onto the list of the condition
variable, and a change is followed by a broadcast, which empties the list, before the lock is free
again. So whenever the lock is free, everybody on the list has reason to be there.

## Main definitions

* `Forum`, `Forum.after` — threads that share a value, and what they have come to after some actions
* `Forum.IsPrompt` — what is promised of a forum

## Main results

* `Forum.IsGood.act` — what every action preserves
* `Forum.isPrompt_after` — every forum is prompt after any actions
-/

namespace Junction.Sync

namespace Monitors

variable {s s' : Monitors} {t : ThreadId} {m : Nat}

/-- A thread comes to leave a mutex that it was about to leave before, that it keeps, or that it has
used and does not keep. -/
theorem Move.leaving_cases (move : s.Move t s') (hleaving : s'.standing t = .leaving m) :
    s.standing t = .leaving m ∨ (∃ last, s.point t = .idle last ∧ m ∈ s.guards t) ∨
      ∃ r, s.point t = .inside r ∧ r.leave (s.mutexes.get r.mutex).value ≠ .keep := by
  cases move with
  | leave m' leave idle kept leaves =>
    obtain rfl : m' = m := by simpa [standing, Point.standing] using hleaving
    exact .inr (.inl ⟨_, idle, kept⟩)
  | serve r timedOut inside admits leaves => exact .inr (.inr ⟨r, inside, leaves⟩)
  | expire p expired =>
    refine .inl ?_
    rwa [standing, point_goTo, if_pos rfl, Point.standing_expired expired] at hleaving
  | nudge | retire => exact .inl hleaving
  | _ => simp_all [standing, Point.standing]

/-- A thread keeps a lock until it leaves. -/
theorem Move.guards_cases (move : s.Move t s') (hkept : m ∈ s.guards t) :
    m ∈ s'.guards t ∨ s.standing t = .leaving m := by
  cases move with
  | release m' woken outcome releasing =>
    by_cases hm : m = m'
    · exact .inr (by simp [standing, releasing, Point.standing, hm])
    · exact .inl (by simp [hkept, hm])
  | _ => exact .inl (by simp [hkept])

end Monitors

/-! ### Forums -/

/-- Threads that share one value: a mutex and a condition variable, both with the number `0`. -/
structure Forum where
  /-- The threads and what they share. -/
  monitors : Monitors
  /-- Whether the value was changed by the thread that has the lock, who has not begun to leave. -/
  changed : Bool := false

namespace Forum

/-- What can happen in a forum. -/
inductive Action where
  /-- A thread waits while a condition holds, and keeps the lock. -/
  | wait (t : ThreadId) (condition : Int → Bool)
  /-- The same with a deadline. -/
  | waitUntil (t : ThreadId) (condition : Int → Bool)
  /-- A thread takes the lock. -/
  | lock (t : ThreadId)
  /-- A thread takes the lock if it is free. -/
  | tryLock (t : ThreadId)
  /-- A thread that keeps the lock changes the value. -/
  | change (t : ThreadId) (f : Int → Int)
  /-- A thread leaves the lock; if it has changed the value, with a broadcast. -/
  | leave (t : ThreadId) (leave : Leave)
  /-- A thread goes on, if it can. -/
  | go (t : ThreadId)
  /-- The deadline of a thread passes, if it has one. -/
  | expire (t : ThreadId)

/-- A forum before anything has happened. -/
def start (value : Int) : Forum where
  monitors := { mutexes := ⟨[{ value }]⟩ }

/-- The forum after a step, if it was possible. -/
def proceed (x : Forum) (monitors? : Option Monitors) (changed : Bool) : Forum :=
  match monitors? with
  | some monitors => ⟨monitors, changed⟩
  | none => x

/-- The forum after an action. -/
def act (x : Forum) : Action → Forum
  | .wait t condition =>
    let r := Workers.keeping 0 (.whileHolds 0 condition)
    x.proceed (x.monitors.start? t (.request r)) x.changed
  | .waitUntil t condition =>
    let r := Workers.keeping 0 (.whileHoldsUntil 0 condition false)
    x.proceed (x.monitors.start? t (.request r)) x.changed
  | .lock t =>
    x.proceed (x.monitors.start? t (.request (Workers.keeping 0 .direct))) x.changed
  | .tryLock t => x.proceed (x.monitors.start? t (.tryLock 0)) x.changed
  | .change t f => x.proceed (x.monitors.start? t (.amend 0 f)) true
  | .leave t leave =>
    if x.changed ∧ leave ≠ .broadcast 0 then x
    else x.proceed (x.monitors.start? t (.leave 0 leave)) false
  | .go t => x.proceed (x.monitors.step? t) x.changed
  | .expire t => x.proceed (x.monitors.expire? t) x.changed

/-- The forum after some actions. -/
def after (x : Forum) (actions : List Action) : Forum := actions.foldl act x

/-- The shared value. -/
def value (x : Forum) : Int := (x.monitors.mutexes.get 0).value

/-- The use of the mutex that a thread is about to come to. -/
def request? (x : Forum) (t : ThreadId) : Option Request := (x.monitors.point t).request?

/-- What is promised of a forum. -/
structure IsPrompt (x : Forum) : Prop where
  /-- While the lock is free, everybody on the list waits there for a condition to cease that
  holds. -/
  listed : (x.monitors.mutexes.get 0).locked = false → ∀ h ∈ x.monitors.condvars.get 0,
    (x.monitors.point h.owner).awaits? = some (0, h) ∧
      ∃ r condition, x.request? h.owner = some r ∧ r.condition? = some condition ∧
        condition x.value = true
  /-- Whoever returns from the lock or from a wait has found the value as it is, and holds the lock.
  The condition has ceased to hold, unless the time ran out. -/
  returned : ∀ t r s', x.monitors.point t = .inside r → x.monitors.step? t = some s' →
    ∀ last, s'.point t = .idle last → ∃ value timedOut, last = some (.entered value timedOut) ∧
      (s'.mutexes.get 0).value = value ∧ (s'.mutexes.get 0).isHeldBy t = true ∧
      ∀ condition, r.condition? = some condition → condition value = timedOut
  /-- Whoever waits is on the list, or can go on, or somebody who can go on has it still to
  unpark. -/
  heard : ∀ t h, (x.monitors.point t).awaits? = some (0, h) → h ∈ x.monitors.condvars.get 0 ∨
    ∃ u, (x.monitors.step? u).isSome = true ∧ (u = t ∨ h ∈ (x.monitors.point u).wakes)
  /-- If nobody can go on and the lock is free, then everybody who sleeps has reason to. -/
  blocked : (∀ t, x.monitors.step? t = none) → (x.monitors.mutexes.get 0).locked = false →
    ∀ t r h, x.monitors.point t = .asleep r h → ∀ condition, r.condition? = some condition →
      condition x.value = true

/-! ### What holds all the time -/

/-- A use of the shared mutex that changes nothing and keeps the lock. -/
def IsVisit (r : Request) : Prop :=
  (∃ entry, r = Workers.keeping 0 entry) ∧ ∀ c, r.condvar? = some c → c = 0

theorem IsVisit.expire {r : Request} (h : IsVisit r) : IsVisit r.expire := by
  obtain ⟨⟨entry, rfl⟩, hcondvar⟩ := h
  refine ⟨?_, fun c hc => hcondvar c (by simpa using hc)⟩
  unfold Request.expire
  split
  · exact ⟨_, rfl⟩
  · exact ⟨_, rfl⟩

/-- Somebody has changed the value, and has still to tell so. -/
def IsPending (x : Forum) : Prop :=
  (∃ t outcome, x.monitors.point t = .leaving 0 (.broadcast 0) outcome) ∨
    x.changed = true ∧ ∃ t, 0 ∈ x.monitors.guards t ∧ x.monitors.standing t ≠ .leaving 0

/-- What holds after any actions. -/
structure IsGood (x : Forum) : Prop where
  /-- Locks are fair. -/
  fair : x.monitors.Fair
  /-- Lists are right. -/
  listed : x.monitors.Listed
  /-- Nobody changes the value when he is let in. -/
  visits : ∀ t r, x.request? t = some r → IsVisit r
  /-- There is no other mutex to leave. -/
  leaving : ∀ t m, x.monitors.standing t = .leaving m → m = 0
  /-- The conditions of all who are on the list hold, unless a broadcast is to come. -/
  announced : ∀ h ∈ x.monitors.condvars.get 0, ∀ r condition, x.request? h.owner = some r →
    r.condition? = some condition → condition x.value = true ∨ x.IsPending

namespace IsGood

variable {x : Forum} {t : ThreadId} {s' : Monitors} {changed : Bool} (hgood : x.IsGood)
include hgood

/-- While the lock is free, nobody has anything to tell. -/
theorem not_isPending (hfree : (x.monitors.mutexes.get 0).locked = false) : ¬ x.IsPending := by
  rintro (⟨t, outcome, hpoint⟩ | ⟨-, t, hkept, -⟩)
  · have hleaving : x.monitors.standing t = .leaving 0 := by
      rw [Monitors.standing, hpoint, Point.standing]
    exact hgood.fair.not_owns hfree t (.inr (.inl hleaving))
  · exact hgood.fair.not_owns hfree t (.inl hkept)

/-- A step that begins no other use of the mutex than a visit, keeps the conditions on the list true
or a broadcast to come, and leaves no other mutex. -/
theorem of_move (move : x.monitors.Move t s')
    (hvisit : ∀ r, s'.point t = .entering r → (∃ last, x.monitors.point t = .idle last) → IsVisit r)
    (hleaving : ∀ m, s'.standing t = .leaving m → m = 0)
    (hannounced : IsPending ⟨s', changed⟩ ∨ s'.condvars.get 0 = [] ∨
      (s'.mutexes.get 0).value = x.value ∧ (x.IsPending → IsPending ⟨s', changed⟩)) :
    IsGood ⟨s', changed⟩ := by
  have hvisits : ∀ u r, (s'.point u).request? = some r → IsVisit r := by
    intro u r hr
    rcases move.request_cases hr with ⟨r₀, hr₀, rfl | rfl⟩ | ⟨rfl, hidle, hentering⟩
    · exact hgood.visits u _ hr₀
    · exact (hgood.visits u _ hr₀).expire
    · exact hvisit r hentering hidle
  refine ⟨hgood.fair.move move, hgood.listed.move hgood.fair move, hvisits, ?_, ?_⟩
  · intro u m hstanding
    by_cases hu : u = t
    · exact hleaving m (hu ▸ hstanding)
    · exact hgood.leaving u m (Monitors.Fair.standing_other move hu ▸ hstanding)
  · intro h hh r condition hr hcondition
    rcases hannounced with hpending | hempty | ⟨hvalue, hpending⟩
    · exact .inr hpending
    · simp [hempty] at hh
    · have hvalue : Forum.value ⟨s', changed⟩ = x.value := hvalue
      rw [hvalue]
      -- Whoever is on the list was there before, or has just found its condition true.
      rcases hgood.listed.mem_cases hgood.fair move hh with
        hold | ⟨rfl, r₀, hwaits, hinside, henrolled, -⟩
      · have hown := hgood.listed.awaits 0 h hold
        rcases move.request_cases hr with ⟨r₀, hr₀, hsame⟩ | ⟨rfl, ⟨last, hidle⟩, -⟩
        · have hcondition₀ : r₀.condition? = some condition := by
            rcases hsame with rfl | rfl
            · exact hcondition
            · simpa using hcondition
          exact (hgood.announced h hold r₀ condition hr₀ hcondition₀).imp_right hpending
        · simp [hidle, Point.awaits?] at hown
      · obtain ⟨-, condition₀, hcondition₀, hholds⟩ := hwaits.condition
        obtain rfl : r = r₀ := by simpa [request?, henrolled, Point.request?, eq_comm] using hr
        obtain rfl : condition₀ = condition := Option.some.inj (hcondition₀.symm.trans hcondition)
        -- The newcomer has looked at the one value there is.
        obtain ⟨⟨entry, rfl⟩, -⟩ :=
          hgood.visits h.owner r (by simp [request?, hinside, Point.request?])
        exact .inl hholds

/-- A step that neither changes the value nor begins or ends a use of the mutex. -/
theorem of_calm (move : x.monitors.Move t s')
    (hvisit : ∀ r, s'.point t = .entering r → (∃ last, x.monitors.point t = .idle last) → IsVisit r)
    (hcalm : ∀ m, s'.standing t = .leaving m → x.monitors.standing t = .leaving m)
    (hsilent : ∀ outcome, x.monitors.point t ≠ .leaving 0 (.broadcast 0) outcome)
    (hvalue : (s'.mutexes.get 0).value = x.value) : IsGood ⟨s', x.changed⟩ := by
  refine hgood.of_move move hvisit (fun m hm => hgood.leaving t m (hcalm m hm))
    (.inr (.inr ⟨hvalue, ?_⟩))
  rintro (⟨u, outcome, hpoint⟩ | ⟨hchanged, u, hkept, hstays⟩)
  · have hu : u ≠ t := by
      rintro rfl
      exact hsilent outcome hpoint
    exact .inl ⟨u, outcome, (move.point_other hu).trans hpoint⟩
  · refine .inr ⟨hchanged, u, ?_⟩
    by_cases hu : u = t
    · subst hu
      exact ⟨(move.guards_cases hkept).resolve_right hstays, fun hm => hstays (hcalm 0 hm)⟩
    · rw [Monitors.Fair.standing_other move hu]
      exact ⟨move.guards_other hu ▸ hkept, hstays⟩

/-- A thread between two things to do is about to leave nothing. -/
theorem of_idle {last : Option Outcome} (move : x.monitors.Move t s')
    (hidle : x.monitors.point t = .idle last)
    (hvisit : ∀ r, s'.point t = .entering r → IsVisit r) (haway : s'.standing t = .away)
    (hvalue : (s'.mutexes.get 0).value = x.value) : IsGood ⟨s', x.changed⟩ := by
  refine hgood.of_calm move (fun r hr _ => hvisit r hr) (fun m hm => ?_) (fun outcome hpoint => ?_)
    hvalue
  · simp [haway] at hm
  · simp [hidle] at hpoint

theorem request {r : Request} (hr : IsVisit r) :
    IsGood (x.proceed (x.monitors.start? t (.request r)) x.changed) := by
  unfold proceed
  split
  · next monitors heq =>
    have move := Monitors.move_of_start heq nofun
    unfold Monitors.start? at heq
    split at heq
    · next last hidle =>
      cases heq
      refine hgood.of_idle move hidle ?_ (by simp [Monitors.standing, Point.standing]) rfl
      intro r' hr'
      obtain rfl : r = r' := by simpa using hr'
      exact hr
    · cases heq
  · exact hgood

theorem tryLock (t : ThreadId) :
    IsGood (x.proceed (x.monitors.start? t (.tryLock 0)) x.changed) := by
  unfold proceed
  split
  · next monitors heq =>
    have move := Monitors.move_of_start heq nofun
    unfold Monitors.start? at heq
    split at heq
    · next last hidle =>
      dsimp only at heq
      split at heq
      · cases heq
        exact hgood.of_idle move hidle (by simp) (by simp [Monitors.standing, Point.standing]) rfl
      · next mutex hmutex =>
        obtain ⟨-, rfl⟩ := Mutex.tryLock_eq_some hmutex
        cases heq
        refine hgood.of_idle move hidle (by simp) (by simp [Monitors.standing, Point.standing]) ?_
        simp [Mutex.takenBy, value]
    · cases heq
  · exact hgood

/-- Whoever changes the value keeps the lock, and has still to tell. -/
theorem change (t : ThreadId) (f : Int → Int) :
    IsGood (x.proceed (x.monitors.start? t (.amend 0 f)) true) := by
  unfold proceed
  split
  · next monitors heq =>
    have move := Monitors.move_of_start heq nofun
    unfold Monitors.start? at heq
    split at heq
    · next last hidle =>
      dsimp only at heq
      split at heq
      · next hkept =>
        cases heq
        refine hgood.of_move move (by simp) (by simp [Monitors.standing, Point.standing]) (.inl ?_)
        exact .inr ⟨rfl, t, by simpa using hkept, by simp [Monitors.standing, Point.standing]⟩
      · cases heq
    · cases heq
  · exact hgood

/-- Whoever leaves without a broadcast has nothing to tell. -/
theorem leave (t : ThreadId) {leave : Leave} (hleave : x.changed = true → leave = .broadcast 0) :
    IsGood (x.proceed (x.monitors.start? t (.leave 0 leave)) false) := by
  unfold proceed
  split
  · next monitors heq =>
    have move := Monitors.move_of_start heq nofun
    unfold Monitors.start? at heq
    split at heq
    · next last hidle =>
      dsimp only at heq
      split at heq
      · cases heq
        refine hgood.of_move move (by simp) ?_ ?_
        · simp [Monitors.standing, Point.standing, eq_comm]
        -- A broadcast is still to come; without one, this thread had no change to tell of.
        · by_cases hbroadcast : leave = .broadcast 0
          · exact .inl (.inl ⟨t, .left, by simp [hbroadcast]⟩)
          · refine .inr (.inr ⟨rfl, ?_⟩)
            rintro (⟨u, outcome, hpoint⟩ | ⟨hchanged, -⟩)
            · have hu : u ≠ t := by
                rintro rfl
                simp [hidle] at hpoint
              exact .inl ⟨u, outcome, by simpa [hu] using hpoint⟩
            · exact absurd (hleave hchanged) hbroadcast
      · cases heq
    · cases heq
  · exact hgood

/-- A thread that is let in changes nothing, and one that broadcasts empties the list. -/
theorem go (t : ThreadId) : IsGood (x.proceed (x.monitors.step? t) x.changed) := by
  unfold proceed
  split
  · next monitors heq =>
    have move := Monitors.move_of_step heq
    have hidle := Monitors.not_idle_of_step heq
    have hvisit : ∀ r, x.monitors.point t = .inside r → IsVisit r :=
      fun r hr => hgood.visits t r (by simp [request?, hr, Point.request?])
    have hcalm : ∀ m, monitors.standing t = .leaving m → x.monitors.standing t = .leaving m := by
      intro m hm
      rcases move.leaving_cases hm with hm | ⟨last, hlast, -⟩ | ⟨r, hr, hleaves⟩
      · exact hm
      · exact absurd hlast (hidle last)
      · obtain ⟨⟨entry, rfl⟩, -⟩ := hvisit r hr
        exact absurd rfl hleaves
    have hbusy : ¬ ∃ last, x.monitors.point t = .idle last := not_exists.2 hidle
    -- A broadcast empties the list, and no other step changes the value.
    by_cases hbroadcast : ∃ outcome, x.monitors.point t = .leaving 0 (.broadcast 0) outcome
    · obtain ⟨outcome, hpoint⟩ := hbroadcast
      refine hgood.of_move move (fun r _ hlast => absurd hlast hbusy)
        (fun m hm => hgood.leaving t m (hcalm m hm)) (.inr (.inl ?_))
      simp only [Monitors.step?, hpoint, Option.some.injEq] at heq
      simp [← heq]
    · refine hgood.of_calm move (fun r _ hlast => absurd hlast hbusy) hcalm
        (fun outcome hpoint => hbroadcast ⟨outcome, hpoint⟩) ?_
      rcases move.value_cases 0 with hvalue | ⟨last, hlast⟩ | ⟨r, timedOut, hr, -, hvalue⟩
      · exact hvalue
      · exact absurd hlast (hidle last)
      · obtain ⟨⟨entry, rfl⟩, -⟩ := hvisit r hr
        exact hvalue
  · exact hgood

theorem expire (t : ThreadId) : IsGood (x.proceed (x.monitors.expire? t) x.changed) := by
  unfold proceed
  split
  · next monitors heq =>
    have move := Monitors.move_of_expire heq
    rw [Monitors.expire?_eq, Option.map_eq_some_iff] at heq
    obtain ⟨p, hp, rfl⟩ := heq
    refine hgood.of_calm move ?_ ?_ ?_ rfl
    · rintro r - ⟨last, hidle⟩
      rw [hidle] at hp
      cases hp
    · intro m hm
      rwa [Monitors.standing, Monitors.point_goTo, if_pos rfl, Point.standing_expired hp] at hm
    · intro outcome hpoint
      rw [hpoint] at hp
      cases hp
  · exact hgood

theorem act (action : Action) : (x.act action).IsGood := by
  have hvisit : ∀ entry : Entry, (∀ c, (Workers.keeping 0 entry).condvar? = some c → c = 0) →
      IsVisit (Workers.keeping 0 entry) := fun entry hcondvar => ⟨⟨entry, rfl⟩, hcondvar⟩
  cases action with
  | wait t condition | waitUntil t condition =>
    refine hgood.request (hvisit _ ?_)
    simp [Request.condvar?, Monitors.waitOf, Workers.keeping, eq_comm]
  | lock t =>
    exact hgood.request (hvisit _ (by simp [Request.condvar?, Monitors.waitOf, Workers.keeping]))
  | tryLock t => exact hgood.tryLock t
  | change t f => exact hgood.change t f
  | leave t leave =>
    unfold Forum.act
    dsimp only
    split
    · exact hgood
    · next hallowed =>
      exact hgood.leave t fun hchanged => Decidable.byContradiction
        fun hleave => hallowed ⟨hchanged, hleave⟩
  | go t => exact hgood.go t
  | expire t => exact hgood.expire t

theorem after (actions : List Action) : (x.after actions).IsGood := by
  induction actions generalizing x with
  | nil => exact hgood
  | cons action rest ih => exact ih (hgood.act action)

/-- A thread that returns has found the condition as it is, and has the lock. -/
theorem returned {r : Request} {last : Option Outcome} (hinside : x.monitors.point t = .inside r)
    (hstep : x.monitors.step? t = some s') (hlast : s'.point t = .idle last) :
    ∃ value timedOut, last = some (.entered value timedOut) ∧
      (s'.mutexes.get 0).value = value ∧ (s'.mutexes.get 0).isHeldBy t = true ∧
      ∀ condition, r.condition? = some condition → condition value = timedOut := by
  have move := Monitors.move_of_step hstep
  have hfair := hgood.fair.move move
  obtain ⟨⟨entry, hr⟩, -⟩ := hgood.visits t r (by simp [request?, hinside, Point.request?])
  cases move with
  | keep r' timedOut inside admits keeps =>
    obtain rfl : r' = r := by simpa [hinside, eq_comm] using inside
    refine ⟨_, timedOut, by simpa [eq_comm] using hlast, ?_, ?_, fun _ => admits.condition⟩
    · simp [hr, Workers.keeping, Mutex.withValue]
    · exact hfair.isHeldBy_iff.2 (.inl (by simp [hr, Workers.keeping]))
  | expire p expired =>
    rw [hinside] at expired
    cases expired
    simp at hlast
  | _ => simp_all

theorem isPrompt : x.IsPrompt := by
  have hlisted : (x.monitors.mutexes.get 0).locked = false → ∀ h ∈ x.monitors.condvars.get 0,
      (x.monitors.point h.owner).awaits? = some (0, h) ∧
        ∃ r condition, x.request? h.owner = some r ∧ r.condition? = some condition ∧
          condition x.value = true := by
    intro hfree h hh
    have hawaits := hgood.listed.awaits 0 h hh
    obtain ⟨r, hr, hcondvar⟩ := Point.request?_of_awaits hawaits
    obtain ⟨condition, hcondition⟩ := Request.exists_condition hcondvar
    exact ⟨hawaits, r, condition, hr, hcondition,
      (hgood.announced h hh r condition hr hcondition).resolve_right (hgood.not_isPending hfree)⟩
  refine ⟨hlisted, fun t r s' hinside hstep last hlast => hgood.returned hinside hstep hlast,
    fun t h hawaits => hgood.listed.isSome_step? hawaits, ?_⟩
  -- Nobody can go on to unpark the sleeper, so it is on the list, where all conditions hold.
  intro hstill hfree t r h hasleep condition hcondition
  have hr : x.request? t = some r := by simp [request?, hasleep, Point.request?]
  obtain ⟨c, hcondvar⟩ := Request.exists_condvar hcondition
  obtain rfl := (hgood.visits t r hr).2 c hcondvar
  have hawaits : (x.monitors.point t).awaits? = some (0, h) := by
    simp [hasleep, Point.awaits?, hcondvar]
  rcases hgood.listed.isSome_step? hawaits with hh | ⟨u, hstep, -⟩
  · obtain ⟨-, r', condition', hr', hcondition', hholds⟩ := hlisted hfree h hh
    have howner := hgood.fair.numbered.owner t h (Point.handle?_of_awaits hawaits)
    rw [howner, hr] at hr'
    cases hr'
    cases hcondition.symm.trans hcondition'
    exact hholds
  · simp [hstill u] at hstep

end IsGood

theorem isFresh_start (value : Int) : (start value).monitors.IsFresh := by
  refine ⟨fun _ => rfl, fun _ => rfl, fun m => ?_, fun _ => rfl, fun _ => rfl⟩
  cases m <;> exact ⟨rfl, rfl, rfl⟩

theorem isGood_start (value : Int) : (start value).IsGood := by
  have hfresh := isFresh_start value
  refine ⟨hfresh.fair, hfresh.listed, ?_, ?_, ?_⟩
  · simp [request?, hfresh.idle, Point.request?]
  · simp [hfresh.standing]
  · simp [hfresh.condvars]

/-- However many threads wait for conditions to cease and change the value, in whatever order they
go on and whenever their deadlines pass: while the lock is free, the conditions of all who are on
the list of the condition variable hold; every wait that returns in time returns with the lock and
with its condition no longer true; and nobody who waits is forgotten. -/
theorem isPrompt_after (value : Int) (actions : List Action) :
    ((start value).after actions).IsPrompt :=
  ((isGood_start value).after actions).isPrompt

/-- A thread waits until the value is positive, another one sees to it, and the first one returns
with the lock. -/
example :
    let waits := [.wait 0 (· < 1), .go 0, .go 0, .go 0, .go 0]
    let changes := [.lock 1, .go 1, .go 1, .change 1 (· + 1), .leave 1 (.broadcast 0), .go 1, .go 1]
    let x := (start 0).after (waits ++ changes ++ [.go 1, .go 1, .go 0, .go 0, .go 0])
    ((start 0).after waits).monitors.condvars.get 0 = [⟨0, 0⟩] ∧
      x.monitors.condvars.get 0 = [] ∧ x.monitors.guards 0 = [0] ∧ x.value = 1 := by
  decide

end Forum

end Junction.Sync
