import Junction.Proofs.Ownership

/-!
# Locks change hands in turn

The holder that a mutex names is its owner, and every way of letting a lock go is the same release,
which names the first waiter. So a step either leaves all locks with their owners, or takes a free
lock, or joins the waiters of a taken one, or lets a lock go; and in none of these ways does a lock
come to have two owners, or lose a waiter.

## Main definitions

* `Mutex.Sound` — a mutex that agrees with itself
* `Monitors.Fair` — holders are owners, waiters wait, and whoever was handed a lock will hear of it
* `Monitors.Turn` — the four ways in which a step treats the locks

## Main results

* `Monitors.Fair.turn` — every step is of one of the four ways
* `Monitors.Fair.move` — every step keeps the locks fair
-/

namespace Junction.Sync

/-! ### Mutexes -/

namespace Mutex

/-- Two mutexes differ in their values at most. -/
structure SameLock (m m' : Mutex) : Prop where
  /-- Both are locked, or neither is. -/
  locked : m'.locked = m.locked
  /-- They have the same holder. -/
  holder : m'.holder = m.holder
  /-- They have the same waiters. -/
  waiters : m'.waiters = m.waiters

/-- A mutex names a holder if and only if it is locked, and nobody waits for a free lock. -/
structure Sound (m : Mutex) : Prop where
  /-- There is a holder if and only if the mutex is locked. -/
  locked_eq : m.locked = m.holder.isSome
  /-- Nobody waits for a free lock. -/
  waiters_of_free : m.locked = false → m.waiters = []

variable {m m' : Mutex}

theorem Sound.of_same (h : m.Sound) (same : m.SameLock m') : m'.Sound := by
  refine ⟨?_, ?_⟩
  · rw [same.locked, same.holder]
    exact h.locked_eq
  · rw [same.locked, same.waiters]
    exact h.waiters_of_free

theorem sound_takenBy (m : Mutex) (t : ThreadId) : (m.takenBy t).Sound := ⟨rfl, nofun⟩

theorem Sound.joinedBy (h : m.Sound) (hlocked : m.locked = true) (handle : ParkHandle) :
    (m.joinedBy handle).Sound :=
  ⟨h.locked_eq, fun hfree => absurd (hlocked.symm.trans hfree) (by decide)⟩

theorem sound_release (hlocked : m.locked = true) : m.release.1.Sound := by
  unfold Mutex.release
  split
  · next heq => exact ⟨rfl, fun _ => heq⟩
  · exact ⟨hlocked, fun hfree => absurd (hlocked.symm.trans hfree) (by decide)⟩

end Mutex

namespace Monitors

variable {s s' : Monitors} {t u : ThreadId} {m : Nat} {h : ParkHandle}

/-! ### Turns -/

/-- Holders are owners, waiters wait, and whoever was handed a lock will hear of it. -/
structure Fair (s : Monitors) : Prop where
  /-- Handles are not mixed up. -/
  numbered : s.Numbered
  /-- Each mutex agrees with itself. -/
  sound : ∀ m, (s.mutexes.get m).Sound
  /-- The holder of a mutex is its owner. -/
  holder_iff : ∀ t m, (s.mutexes.get m).holder = some t ↔ s.Owns t m
  /-- The owner of a handle among the waiters waits by it. -/
  waits : ∀ m, ∀ h ∈ s.waiters m, s.standing h.owner = .waiting m h
  /-- No handle is twice among the waiters. -/
  nodup : ∀ m, (s.waiters m).Nodup
  /-- No waiter is woken before it is handed the lock. -/
  silent : ∀ m, ∀ h ∈ s.waiters m, ¬ s.IsDestined h.id
  /-- A thread that was handed a lock is woken. -/
  alerted : ∀ t m h, s.standing t = .waiting m h → h ∉ s.waiters m → s.IsAlerted h
  /-- A thread that needs a lock for something does not keep the same lock already. -/
  apart : ∀ t m, s.HasEntered t m → m ∉ s.guards t

/-- The four ways in which a step of a thread treats the locks. -/
inductive Turn (s : Monitors) (t : ThreadId) (s' : Monitors) : Prop
  /-- All locks stay with their owners. -/
  | still (locks : ∀ m, (s.mutexes.get m).SameLock (s'.mutexes.get m))
      (owns : ∀ m, s'.Owns t m ↔ s.Owns t m)
      (waited : ∀ m h, s'.standing t = .waiting m h → s.standing t = .waiting m h)
      (waits : ∀ m h, s.standing t = .waiting m h → h ∈ s.waiters m → s'.standing t = .waiting m h)
      (apart : ∀ m, s'.HasEntered t m → m ∉ s'.guards t)
  /-- The thread takes a lock that is free. -/
  | take (m : Nat) (free : (s.mutexes.get m).locked = false)
      (table : s'.mutexes = s.mutexes.set m ((s.mutexes.get m).takenBy t))
      (owns : ∀ m', s'.Owns t m' ↔ s.Owns t m' ∨ m' = m)
      (away : s.standing t = .away) (unparked : ∀ m' h, s'.standing t ≠ .waiting m' h)
      (apart : ∀ m', s'.HasEntered t m' → m' ∉ s'.guards t)
  /-- The thread joins the waiters of a taken lock with a new handle. -/
  | join (m : Nat) (h : ParkHandle) (locked : (s.mutexes.get m).locked = true)
      (new : h = ⟨s.parking.issued, t⟩)
      (table : s'.mutexes = s.mutexes.set m ((s.mutexes.get m).joinedBy h))
      (away : s.standing t = .away) (waits : s'.standing t = .waiting m h)
      (guards : s'.guards t = s.guards t)
  /-- The thread lets a lock go, and has the first waiter to unpark. -/
  | release (m : Nat) (owned : s.Owns t m)
      (table : s'.mutexes = s.mutexes.set m (s.mutexes.get m).release.1)
      (unparked : ∀ m' h, s.standing t ≠ .waiting m' h) (away : s'.standing t = .away)
      (guards : ∀ m', m' ∈ s'.guards t ↔ s.Owns t m' ∧ m' ≠ m)
      (heir : ∀ h, (s.waiters m).head? = some h → h ∈ (s'.point t).wakes)

namespace Fair

theorem locked_iff (hfair : s.Fair) : (s.mutexes.get m).locked = true ↔ ∃ t, s.Owns t m := by
  simp only [(hfair.sound m).locked_eq, Option.isSome_iff_exists, hfair.holder_iff]

theorem not_owns (hfair : s.Fair) (hfree : (s.mutexes.get m).locked = false) (t : ThreadId) :
    ¬ s.Owns t m := by
  intro howns
  rw [hfair.locked_iff.2 ⟨t, howns⟩] at hfree
  cases hfree

theorem owner_unique (hfair : s.Fair) (ht : s.Owns t m) (hu : s.Owns u m) : t = u := by
  rw [← hfair.holder_iff] at ht hu
  exact Option.some.inj (ht.symm.trans hu)

/-- A step that changes neither locks nor standing leaves all locks with their owners. -/
theorem still_of_eq (hfair : s.Fair) (locks : ∀ m, (s.mutexes.get m).SameLock (s'.mutexes.get m))
    (hstanding : s'.standing t = s.standing t) (hguards : s'.guards t = s.guards t) :
    s.Turn t s' := by
  have hwaiters : ∀ m h, s.standing t = .waiting m h → (h ∈ s'.waiters m ↔ h ∈ s.waiters m) :=
    fun m _ _ => by rw [waiters, (locks m).waiters, waiters]
  refine .still locks (fun m => owns_congr hguards hstanding (hwaiters m)) ?_ ?_ ?_
  · intro m h hwaiting
    rwa [hstanding] at hwaiting
  · intro m h hwaiting _
    rwa [hstanding]
  · intro m hentered
    rw [hasEntered_congr hstanding (hwaiters m)] at hentered
    rw [hguards]
    exact hfair.apart t m hentered

theorem sameLock_refl (m : Nat) : (s.mutexes.get m).SameLock (s.mutexes.get m) := ⟨rfl, rfl, rfl⟩

/-- A new value leaves the lock as it was. -/
theorem sameLock_withValue (m m' : Nat) (value : Int) :
    (s.mutexes.get m').SameLock ((s.mutexes.set m ((s.mutexes.get m).withValue value)).get m') := by
  rw [Table.get_set]
  split
  · next heq =>
    rw [heq]
    exact ⟨rfl, rfl, rfl⟩
  · exact sameLock_refl m'

/-- Every step is of one of the four ways. -/
theorem turn (hfair : s.Fair) (move : s.Move t s') : s.Turn t s' := by
  cases move with
  | seize m idle unlocked =>
    have haway : s.standing t = .away := by simp [standing, idle, Point.standing]
    refine .take m unlocked (by simp) ?_ haway (by simp [standing, Point.standing]) ?_
    · intro m'
      rw [owns_of_away haway, owns_of_away (by simp [standing, Point.standing])]
      simp [or_comm]
    · simp [HasEntered, standing, Point.standing]
  | leave m leave idle kept leaves =>
    have haway : s.standing t = .away := by simp [standing, idle, Point.standing]
    refine .still (fun m => sameLock_refl m) ?_ ?_ ?_ ?_
    · intro m'
      rw [owns_of_away haway, owns_of_leaving (n := m) (by simp [standing, Point.standing]),
        guards_goTo]
      exact or_iff_left_of_imp fun hm' => hm' ▸ kept
    · simp [standing, Point.standing]
    · simp [haway]
    · simp [HasEntered, standing, Point.standing]
  | take r entering unlocked =>
    have haway : s.standing t = .away := by simp [standing, entering, Point.standing]
    have hfree := hfair.not_owns unlocked t
    rw [owns_of_away haway] at hfree
    refine .take r.mutex unlocked (by simp) ?_ haway (by simp [standing, Point.standing]) ?_
    · intro m'
      rw [owns_of_away haway, owns_of_entered (n := r.mutex) (by simp [standing, Point.standing])]
      simp
    · simpa [HasEntered, standing, Point.standing] using hfree
  | join r entering locked =>
    have haway : s.standing t = .away := by simp [standing, entering, Point.standing]
    exact .join r.mutex _ locked rfl (by simp) haway (by simp [standing, Point.standing]) (by simp)
  | inherit r h queued unparked =>
    have hwaiting : s.standing t = .waiting r.mutex h := by simp [standing, queued, Point.standing]
    -- A waiter would not have been woken.
    have hnot : h ∉ s.waiters r.mutex := fun hh => hfair.silent _ h hh (.inl unparked)
    refine .still (fun m => sameLock_refl m) ?_ ?_ ?_ ?_
    · intro m'
      rw [owns_of_waiting hwaiting,
        owns_of_entered (n := r.mutex) (by simp [standing, Point.standing])]
      simp [hnot]
    · simp [standing, Point.standing]
    · intro m h' hwaiting' hh'
      rw [hwaiting] at hwaiting'
      cases hwaiting'
      exact absurd hh' hnot
    · intro m hentered
      have hm : r.mutex = m := by simpa [HasEntered, standing, Point.standing] using hentered
      simpa using hfair.apart t m (.inr ⟨h, hm ▸ hwaiting, hm ▸ hnot⟩)
  | keep r timedOut inside admits keeps =>
    have hentered : s.standing t = .entered r.mutex := by simp [standing, inside, Point.standing]
    refine .still (sameLock_withValue r.mutex · _) ?_ ?_ ?_ ?_
    · intro m'
      rw [owns_of_entered hentered, owns_of_away (by simp [standing, Point.standing])]
      simp [or_comm]
    · simp [standing, Point.standing]
    · simp [hentered]
    · simp [HasEntered, standing, Point.standing]
  | serve r timedOut inside admits leaves =>
    have hentered : s.standing t = .entered r.mutex := by simp [standing, inside, Point.standing]
    refine .still (sameLock_withValue r.mutex · _) ?_ ?_ ?_ ?_
    · intro m'
      rw [owns_of_entered hentered,
        owns_of_leaving (n := r.mutex) (by simp [standing, Point.standing])]
      simp
    · simp [standing, Point.standing]
    · simp [hentered]
    · simp [HasEntered, standing, Point.standing]
  | yield r h enrolled =>
    have hentered : s.standing t = .entered r.mutex := by simp [standing, enrolled, Point.standing]
    have happart := hfair.apart t r.mutex (.inl hentered)
    refine .release r.mutex ((owns_of_entered hentered).2 (.inr rfl)) (by simp) (by simp [hentered])
      (by simp [standing, Point.standing]) ?_ ?_
    · intro m'
      rw [owns_of_entered hentered, guards_goTo, guards_setMutex]
      constructor
      · intro hm'
        exact ⟨.inl hm', fun heq => happart (heq ▸ hm')⟩
      · rintro ⟨hm' | hm', hne⟩
        · exact hm'
        · exact absurd hm' hne
    · intro h' hhead
      simpa [Point.wakes, Mutex.release_snd, waiters] using hhead
  | release m woken outcome releasing =>
    have hleaving : s.standing t = .leaving m := by simp [standing, releasing, Point.standing]
    refine .release m ((owns_of_leaving hleaving).2 (.inr rfl)) (by simp) (by simp [hleaving])
      (by simp [standing, Point.standing]) ?_ ?_
    · intro m'
      rw [owns_of_leaving hleaving]
      simp only [guards_goTo, guards_setGuards, if_pos, List.mem_filter, bne_iff_ne]
      constructor
      · rintro ⟨hm', hne⟩
        exact ⟨.inl hm', hne⟩
      · rintro ⟨hm' | hm', hne⟩
        · exact ⟨hm', hne⟩
        · exact absurd hm' hne
    · intro h hhead
      have hheir : (s.mutexes.get m).release.2 = some h := Mutex.release_snd.trans hhead
      simp [Point.wakes, hheir]
  | amend m value idle kept =>
    exact hfair.still_of_eq (sameLock_withValue m · value)
      (by simp [standing, idle, Point.standing]) (by simp)
  | expire p expired =>
    exact hfair.still_of_eq (fun m => sameLock_refl m)
      (by simp [standing, Point.standing_expired expired]) (by simp)
  | nudge | retire => exact hfair.still_of_eq (fun m => sameLock_refl m) rfl rfl
  | _ =>
    exact hfair.still_of_eq (fun m => sameLock_refl m) (by simp_all [standing, Point.standing])
      (by simp)

/-! ### What a step keeps -/

theorem handle?_of_waits (hfair : s.Fair) (hh : h ∈ s.waiters m) :
    (s.point h.owner).handle? = some h :=
  Point.handle?_of_waiting (hfair.waits m h hh)

/-- A handle waits for one lock only, and handles are told apart by their numbers. -/
theorem eq_of_id (hfair : s.Fair) {m' : Nat} {h' : ParkHandle} (hh : h ∈ s.waiters m)
    (hh' : h' ∈ s.waiters m') (hid : h.id = h'.id) : m = m' ∧ h = h' := by
  have howner : h.owner = h'.owner :=
    hfair.numbered.distinct _ _ h h' (hfair.handle?_of_waits hh) (hfair.handle?_of_waits hh') hid
  have hwaits := (hfair.waits m h hh).symm.trans (howner ▸ hfair.waits m' h' hh')
  exact ⟨(Standing.waiting.inj hwaits).1, (Standing.waiting.inj hwaits).2⟩

/-- The first waiter is nowhere among the others. -/
theorem mem_tail_waiters_iff (hfair : s.Fair) :
    h ∈ (s.waiters m).tail ↔ h ∈ s.waiters m ∧ (s.waiters m).head? ≠ some h := by
  have hnodup := hfair.nodup m
  cases hwaiters : s.waiters m with
  | nil => simp
  | cons first rest =>
    rw [hwaiters, List.nodup_cons] at hnodup
    rw [List.tail_cons, List.head?_cons, List.mem_cons, ne_eq, Option.some.injEq]
    constructor
    · intro hh
      exact ⟨.inr hh, fun heq => hnodup.1 (heq ▸ hh)⟩
    · rintro ⟨rfl | hh, hne⟩
      · exact absurd rfl hne
      · exact hh

/-- A handle that stays among the waiters is not woken. -/
theorem silent_of_stays (hfair : s.Fair) (move : s.Move t s') (hh : h ∈ s.waiters m)
    (hh' : h ∈ s'.waiters m) : ¬ s'.IsDestined h.id := by
  intro hdestined
  rcases move.destined_cases hdestined with
    hdestined | ⟨-, hid, -⟩ | ⟨h₁, hloose, hid⟩ | ⟨m₁, h₁, hhead, htail, hid⟩
  · exact hfair.silent m h hh hdestined
  · exact Nat.ne_of_lt (hfair.numbered.enlisted m h hh) hid
  · exact hloose.unused h.owner h (hfair.handle?_of_waits hh) hid.symm
  · obtain ⟨rfl, rfl⟩ := hfair.eq_of_id (List.mem_of_mem_head? hhead) hh hid
    -- The first waiter is no longer among the waiters.
    rw [htail, hfair.mem_tail_waiters_iff] at hh'
    exact hh'.2 hhead

/-- A new handle is not woken, unless its owner wants to wait on a condition variable. -/
theorem silent_of_new (hfair : s.Fair) (move : s.Move t s') (haway : s.standing t = .away) :
    ¬ s'.IsDestined s.parking.issued := by
  intro hdestined
  rcases move.destined_cases hdestined with
    hdestined | ⟨⟨r, hinside⟩, -⟩ | ⟨h, hloose, hid⟩ | ⟨m, h, hhead, -, hid⟩
  · exact Nat.lt_irrefl _ (hfair.numbered.destined _ hdestined)
  · rw [standing, hinside] at haway
    cases haway
  · exact Nat.ne_of_lt hloose.issued hid
  · exact Nat.ne_of_lt (hfair.numbered.enlisted m h (List.mem_of_mem_head? hhead)) hid

theorem standing_other (move : s.Move t s') (hu : u ≠ t) : s'.standing u = s.standing u := by
  rw [standing, move.point_other hu, standing]

section Other

variable (move : s.Move t s') (hu : u ≠ t)
  (hwaiters : ∀ h, s.standing u = .waiting m h → (h ∈ s'.waiters m ↔ h ∈ s.waiters m))
include move hu hwaiters

theorem owns_other : s'.Owns u m ↔ s.Owns u m :=
  owns_congr (move.guards_other hu) (standing_other move hu) hwaiters

theorem hasEntered_other : s'.HasEntered u m ↔ s.HasEntered u m :=
  hasEntered_congr (standing_other move hu) hwaiters

end Other

section Turns

variable (hfair : s.Fair) (move : s.Move t s')
include hfair move

/-- A step keeps the locks fair if holders are owners after it, if only the thread itself joins the
waiters, and if it has to wake whoever leaves them. -/
theorem of_waiters (sound : ∀ m, (s'.mutexes.get m).Sound)
    (holder_iff : ∀ u m, (s'.mutexes.get m).holder = some u ↔ s'.Owns u m)
    (nodup : ∀ m, (s'.waiters m).Nodup)
    (apart : ∀ u m, s'.HasEntered u m → m ∉ s'.guards u)
    (joins : ∀ m, ∀ h ∈ s'.waiters m, h ∈ s.waiters m ∨
      s'.standing h.owner = .waiting m h ∧ ¬ s'.IsDestined h.id)
    (quits : ∀ m, ∀ h ∈ s.waiters m, h ∈ s'.waiters m ∨ h ∈ (s'.point t).wakes)
    (waits : ∀ m h, s.standing t = .waiting m h → h ∈ s.waiters m → s'.standing t = .waiting m h)
    (waited : ∀ m h, s'.standing t = .waiting m h → h ∉ s'.waiters m →
      s.standing t = .waiting m h ∧ h ∉ s.waiters m) : s'.Fair := by
  refine ⟨hfair.numbered.move move, sound, holder_iff, ?_, nodup, ?_, ?_, apart⟩
  · intro m h hh
    rcases joins m h hh with hold | ⟨hnew, -⟩
    · by_cases hu : h.owner = t
      · rw [hu]
        exact waits m h (hu ▸ hfair.waits m h hold) hold
      · rw [standing_other move hu]
        exact hfair.waits m h hold
    · exact hnew
  · intro m h hh
    rcases joins m h hh with hold | ⟨-, hnew⟩
    · exact hfair.silent_of_stays move hold hh
    · exact hnew
  · intro u m h hwaiting hnot
    by_cases hu : u = t
    · obtain ⟨hwaiting, hnot⟩ := waited m h (hu ▸ hwaiting) hnot
      exact move.alerted (hfair.alerted t m h hwaiting hnot)
    · rw [standing_other move hu] at hwaiting
      -- Whoever leaves the waiters in this step is woken by it; all others were alerted before.
      by_cases hh : h ∈ s.waiters m
      · exact .inr ⟨t, (quits m h hh).resolve_left hnot⟩
      · exact move.alerted (hfair.alerted u m h hwaiting hh)

/-- A step that changes no list of waiters. -/
theorem of_same_waiters (hwaiters : ∀ m, s'.waiters m = s.waiters m)
    (sound : ∀ m, (s'.mutexes.get m).Sound)
    (holder_iff : ∀ u m, (s'.mutexes.get m).holder = some u ↔ s'.Owns u m)
    (waits : ∀ m h, s.standing t = .waiting m h → h ∈ s.waiters m → s'.standing t = .waiting m h)
    (waited : ∀ m h, s'.standing t = .waiting m h → s.standing t = .waiting m h)
    (apart : ∀ m, s'.HasEntered t m → m ∉ s'.guards t) : s'.Fair := by
  refine hfair.of_waiters move sound holder_iff ?_ ?_ ?_ ?_ waits ?_
  · intro m
    rw [hwaiters m]
    exact hfair.nodup m
  · intro u m hentered
    by_cases hu : u = t
    · exact hu ▸ apart m (hu ▸ hentered)
    · rw [hasEntered_other move hu fun h _ => by rw [hwaiters m]] at hentered
      rw [move.guards_other hu]
      exact hfair.apart u m hentered
  · intro m h hh
    exact .inl (hwaiters m ▸ hh)
  · intro m h hh
    exact .inl ((hwaiters m).symm ▸ hh)
  · intro m h hwaiting hnot
    exact ⟨waited m h hwaiting, hwaiters m ▸ hnot⟩

theorem of_still (locks : ∀ m, (s.mutexes.get m).SameLock (s'.mutexes.get m))
    (owns : ∀ m, s'.Owns t m ↔ s.Owns t m)
    (waited : ∀ m h, s'.standing t = .waiting m h → s.standing t = .waiting m h)
    (waits : ∀ m h, s.standing t = .waiting m h → h ∈ s.waiters m → s'.standing t = .waiting m h)
    (apart : ∀ m, s'.HasEntered t m → m ∉ s'.guards t) : s'.Fair := by
  have hwaiters : ∀ m, s'.waiters m = s.waiters m := fun m => (locks m).waiters
  refine hfair.of_same_waiters move hwaiters (fun m => (hfair.sound m).of_same (locks m)) ?_ waits
    waited apart
  intro u m
  rw [(locks m).holder, hfair.holder_iff]
  by_cases hu : u = t
  · exact hu ▸ (owns m).symm
  · exact (owns_other move hu fun h _ => by rw [hwaiters m]).symm

omit hfair move in
theorem waiters_of_take (table : s'.mutexes = s.mutexes.set m ((s.mutexes.get m).takenBy t))
    (m' : Nat) : s'.waiters m' = s.waiters m' := by
  rw [waiters, table, Table.get_set, waiters]
  split
  · next hm' => rw [hm', Mutex.takenBy]
  · rfl

/-- A thread that takes a free lock becomes its owner. -/
theorem of_take (free : (s.mutexes.get m).locked = false)
    (table : s'.mutexes = s.mutexes.set m ((s.mutexes.get m).takenBy t))
    (owns : ∀ m', s'.Owns t m' ↔ s.Owns t m' ∨ m' = m)
    (away : s.standing t = .away) (unparked : ∀ m' h, s'.standing t ≠ .waiting m' h)
    (apart : ∀ m', s'.HasEntered t m' → m' ∉ s'.guards t) : s'.Fair := by
  have hwaiters := waiters_of_take table
  refine hfair.of_same_waiters move hwaiters ?_ ?_ ?_ ?_ apart
  · intro m'
    rw [table, Table.get_set]
    split
    · exact Mutex.sound_takenBy _ t
    · exact hfair.sound m'
  · intro u m'
    have howns : s'.Owns u m' ↔ s.Owns u m' ∨ u = t ∧ m' = m := by
      by_cases hu : u = t
      · simp [hu, owns]
      · simp [hu, owns_other move hu fun h _ => by rw [hwaiters m']]
    rw [howns, table, Table.get_set]
    split
    · next hm' =>
      subst hm'
      simp [Mutex.takenBy, hfair.not_owns free u, eq_comm]
    · next hm' => simp [hm', hfair.holder_iff]
  · intro m' h hwaiting
    rw [away] at hwaiting
    cases hwaiting
  · intro m' h hwaiting
    exact absurd hwaiting (unparked m' h)

section Join

variable (new : h = ⟨s.parking.issued, t⟩)
  (table : s'.mutexes = s.mutexes.set m ((s.mutexes.get m).joinedBy h))
include new table

omit hfair move new in
theorem waiters_of_join (m' : Nat) :
    s'.waiters m' = if m' = m then s.waiters m ++ [h] else s.waiters m' := by
  rw [waiters, table, Table.get_set]
  split <;> rfl

omit move in
/-- The new handle is not one by which somebody else waits. -/
theorem mem_waiters_of_join {m' : Nat} {h' : ParkHandle}
    (hwaiting : s.standing u = .waiting m' h') : h' ∈ s'.waiters m' ↔ h' ∈ s.waiters m' := by
  have hne : h' ≠ h := by
    rintro rfl
    have hlt := hfair.numbered.issued u h' (Point.handle?_of_waiting hwaiting)
    rw [new] at hlt
    exact Nat.lt_irrefl _ hlt
  rw [waiters_of_join table m']
  split
  · next hm' => simp [hm', hne]
  · rfl

/-- A thread that joins the waiters of a taken lock changes nothing for the others. -/
theorem owns_of_join (hu : u ≠ t) (m' : Nat) : s'.Owns u m' ↔ s.Owns u m' :=
  owns_other move hu fun _ hwaiting => hfair.mem_waiters_of_join new table hwaiting

/-- A thread that joins the waiters of a taken lock waits behind all others. -/
theorem of_join (locked : (s.mutexes.get m).locked = true) (away : s.standing t = .away)
    (waits : s'.standing t = .waiting m h) (guards : s'.guards t = s.guards t) : s'.Fair := by
  have hwaiters := waiters_of_join table
  have hmem : h ∈ s'.waiters m := by simp [hwaiters]
  refine hfair.of_waiters move ?_ ?_ ?_ ?_ ?_ ?_ ?_ ?_
  · intro m'
    rw [table, Table.get_set]
    split
    · exact (hfair.sound m).joinedBy locked h
    · exact hfair.sound m'
  · intro u m'
    have hholder : (s'.mutexes.get m').holder = (s.mutexes.get m').holder := by
      rw [table, Table.get_set]
      split
      · next hm' => rw [hm', Mutex.joinedBy]
      · rfl
    rw [hholder, hfair.holder_iff]
    by_cases hu : u = t
    · rw [hu, owns_of_away away, owns_of_waiting waits, guards]
      simp [hmem]
    · exact (hfair.owns_of_join move new table hu m').symm
  · intro m'
    rw [hwaiters m']
    split
    · refine List.nodup_append.2 ⟨hfair.nodup m, by simp, ?_⟩
      intro h₁ hh₁ h₂ hh₂ heq
      have hlt := hfair.numbered.enlisted m h₁ hh₁
      rw [heq, List.mem_singleton.1 hh₂, new] at hlt
      exact Nat.lt_irrefl _ hlt
    · exact hfair.nodup m'
  · intro u m' hentered
    by_cases hu : u = t
    · subst hu
      simp only [HasEntered, waits, reduceCtorEq, Standing.waiting.injEq, false_or] at hentered
      obtain ⟨_, ⟨rfl, rfl⟩, hnot⟩ := hentered
      exact absurd hmem hnot
    · rw [hasEntered_other move hu fun _ => hfair.mem_waiters_of_join new table] at hentered
      rw [move.guards_other hu]
      exact hfair.apart u m' hentered
  · intro m' h' hh'
    rw [hwaiters m'] at hh'
    split at hh'
    · next hm' =>
      rcases List.mem_append.1 hh' with hh' | hh'
      · exact .inl (hm' ▸ hh')
      · obtain rfl := List.mem_singleton.1 hh'
        have howner : h'.owner = t := by rw [new]
        exact .inr ⟨by rw [howner, hm', waits], new ▸ hfair.silent_of_new move away⟩
    · exact .inl hh'
  · intro m' h' hh'
    rw [hwaiters m']
    split
    · next hm' => exact .inl (List.mem_append_left _ (hm' ▸ hh'))
    · exact .inl hh'
  · intro m' h' hwaiting
    rw [away] at hwaiting
    cases hwaiting
  · intro m' h' hwaiting hnot
    rw [waits] at hwaiting
    cases hwaiting
    exact absurd hmem hnot

end Join

section Release

variable (owned : s.Owns t m)
  (table : s'.mutexes = s.mutexes.set m (s.mutexes.get m).release.1)
include owned table

omit hfair move owned in
theorem waiters_of_release (m' : Nat) :
    s'.waiters m' = if m' = m then (s.waiters m).tail else s.waiters m' := by
  rw [waiters, table, Table.get_set]
  split
  · exact Mutex.waiters_release
  · rfl

/-- Nobody but the first waiter gets a lock that is let go. -/
theorem hasEntered_of_release (hu : u ≠ t) :
    s'.HasEntered u m ↔ ∃ h, (s.waiters m).head? = some h ∧ h.owner = u := by
  have hnot : ¬ s.HasEntered u m :=
    fun hentered => hu (hfair.owner_unique (.inr (.inr hentered)) owned)
  rw [HasEntered, standing_other move hu, waiters_of_release table, if_pos rfl]
  constructor
  · rintro (hstanding | ⟨h, hwaiting, hout⟩)
    · exact absurd (.inl hstanding) hnot
    · have hh : h ∈ s.waiters m := Decidable.byContradiction
        fun hh => hnot (.inr ⟨h, hwaiting, hh⟩)
      have hhead : (s.waiters m).head? = some h := Decidable.byContradiction
        fun hhead => hout (hfair.mem_tail_waiters_iff.2 ⟨hh, hhead⟩)
      exact ⟨h, hhead, hfair.numbered.owner u h (Point.handle?_of_waiting hwaiting)⟩
  · rintro ⟨h, hhead, rfl⟩
    refine .inr ⟨h, hfair.waits m h (List.mem_of_mem_head? hhead), ?_⟩
    exact fun hh => (hfair.mem_tail_waiters_iff.1 hh).2 hhead

/-- The first waiter is the next owner. -/
theorem owns_of_release (hu : u ≠ t) :
    s'.Owns u m ↔ ∃ h, (s.waiters m).head? = some h ∧ h.owner = u := by
  have hnot : ¬ s.Owns u m := fun howns => hu (hfair.owner_unique howns owned)
  rw [Owns, move.guards_other hu, standing_other move hu,
    hfair.hasEntered_of_release move owned table hu]
  constructor
  · rintro (hkept | hleaving | hheir)
    · exact absurd (.inl hkept) hnot
    · exact absurd (.inr (.inl hleaving)) hnot
    · exact hheir
  · exact fun hheir => .inr (.inr hheir)

/-- A thread that lets a lock go leaves it to the first waiter, if there is one. -/
theorem of_release (unparked : ∀ m' h, s.standing t ≠ .waiting m' h)
    (away : s'.standing t = .away)
    (guards : ∀ m', m' ∈ s'.guards t ↔ s.Owns t m' ∧ m' ≠ m)
    (heir : ∀ h, (s.waiters m).head? = some h → h ∈ (s'.point t).wakes) : s'.Fair := by
  have hwaiters := waiters_of_release table
  have hother : ∀ {m'}, m' ≠ m → ∀ u h, s.standing u = .waiting m' h →
      (h ∈ s'.waiters m' ↔ h ∈ s.waiters m') :=
    fun hm' _ _ _ => by rw [hwaiters, if_neg hm']
  -- The first waiter is another thread.
  have hheir : ∀ h, (s.waiters m).head? = some h → h.owner ≠ t := by
    intro h hhead howner
    exact unparked m h (howner ▸ hfair.waits m h (List.mem_of_mem_head? hhead))
  refine hfair.of_waiters move ?_ ?_ ?_ ?_ ?_ ?_ ?_ ?_
  · intro m'
    rw [table, Table.get_set]
    split
    · exact Mutex.sound_release (hfair.locked_iff.2 ⟨t, owned⟩)
    · exact hfair.sound m'
  · intro u m'
    by_cases hm' : m' = m
    · subst hm'
      rw [table, Table.get_set_self, Mutex.holder_release, Option.map_eq_some_iff]
      by_cases hu : u = t
      · subst hu
        rw [owns_of_away away, guards]
        constructor
        · rintro ⟨h, hhead, howner⟩
          exact absurd howner (hheir h hhead)
        · exact fun hkept => absurd rfl hkept.2
      · exact (hfair.owns_of_release move owned table hu).symm
    · rw [table, Table.get_set_ne _ _ hm', hfair.holder_iff]
      by_cases hu : u = t
      · subst hu
        rw [owns_of_away away, guards]
        simp [hm']
      · exact (owns_other move hu (hother hm' u)).symm
  · intro m'
    rw [hwaiters m']
    split
    · exact (hfair.nodup m).tail
    · exact hfair.nodup m'
  · intro u m' hentered
    by_cases hu : u = t
    · simp [HasEntered, hu, away] at hentered
    · rw [move.guards_other hu]
      by_cases hm' : m' = m
      · subst hm'
        exact fun hkept => hu (hfair.owner_unique (.inl hkept) owned)
      · exact hfair.apart u m' ((hasEntered_other move hu (hother hm' u)).1 hentered)
  · intro m' h hh
    rw [hwaiters m'] at hh
    split at hh
    · next hm' => exact .inl (hm' ▸ List.mem_of_mem_tail hh)
    · exact .inl hh
  · intro m' h hh
    rw [hwaiters m']
    split
    · next hm' =>
      subst hm'
      by_cases hhead : (s.waiters m').head? = some h
      · exact .inr (heir h hhead)
      · exact .inl (hfair.mem_tail_waiters_iff.2 ⟨hh, hhead⟩)
    · exact .inl hh
  · intro m' h hwaiting
    exact absurd hwaiting (unparked m' h)
  · intro m' h hwaiting
    rw [away] at hwaiting
    cases hwaiting

end Release

end Turns

/-- Every step keeps the locks fair. -/
theorem move (hfair : s.Fair) (move : s.Move t s') : s'.Fair := by
  cases hfair.turn move with
  | still locks owns waited waits apart => exact hfair.of_still move locks owns waited waits apart
  | take m free table owns away unparked apart =>
    exact hfair.of_take move free table owns away unparked apart
  | join m h locked new table away waits guards =>
    exact hfair.of_join move new table locked away waits guards
  | release m owned table unparked away guards heir =>
    exact hfair.of_release move owned table unparked away guards heir

end Fair

end Monitors

end Junction.Sync
