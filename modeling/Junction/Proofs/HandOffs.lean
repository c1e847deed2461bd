import Junction.Proofs.Fairness
import Junction.Proofs.Tasks

/-!
# Locks are handed on in the order of arrival

Workers are watched while they are told what to do, go on, and run out of time, in any order. Some
take locks and try to, some unlock what they keep, some let a lock go by a panic, and some end with
locks in their hands, which are given back one after the other. The watch keeps a register for each
mutex: with which handles threads have parked at it, and which of these threads have become its
owners while they were parked.

At every moment the owners of a mutex, seen from the threads, are what the mutex says: there is one
if it is locked and none if it is not. And the second list of the register is the beginning of the
first one; what is left of it are the waiters of the mutex. So nobody is skipped, served twice or
overtaken, and nobody is left behind at a free lock.

## Main definitions

* `Register` — who has parked at a mutex, and who was handed its lock, in order
* `Watch`, `Watch.after` — workers with the registers of their mutexes, and both after some actions
* `Monitors.IsFairAt` — what is promised of a mutex

## Main results

* `Workers.kept_begin`, `Workers.kept_step` — what a worker does is one deed of its thread
* `Watch.isFairAt_after` — every mutex is fair after any actions
-/

namespace Junction.Sync

namespace Monitors

/-! ### Registers -/

/-- Who has parked at a mutex, and who has got its lock there. -/
structure Register where
  /-- The handles with which threads have parked, in the order in which they did. -/
  joined : List ParkHandle := []
  /-- Those of them whose threads became owners, in the order in which they did. -/
  served : List ParkHandle := []
deriving DecidableEq, Repr

/-- The handle with which a thread has parked at a mutex in one step. -/
def joining (s s' : Monitors) (t : ThreadId) (m : Nat) : List ParkHandle :=
  match s'.standing t with
  | .waiting m' h => if m' = m ∧ s.standing t ≠ .waiting m' h then [h] else []
  | _ => []

/-- A thread has waited for a mutex with a handle, and became its owner in one step. -/
def BecomesOwner (s s' : Monitors) (m : Nat) (h : ParkHandle) : Prop :=
  s.standing h.owner = .waiting m h ∧ ¬ s.Owns h.owner m ∧ s'.Owns h.owner m

instance (s s' : Monitors) (m : Nat) (h : ParkHandle) : Decidable (s.BecomesOwner s' m h) :=
  inferInstanceAs (Decidable (_ ∧ _ ∧ _))

/-- The register of a mutex after a step of a thread. -/
def Register.observe (g : Register) (m : Nat) (s s' : Monitors) (t : ThreadId) : Register where
  joined := g.joined ++ s.joining s' t m
  served := g.served ++ g.joined.filter (s.BecomesOwner s' m ·)

/-- The register agrees with the waiters of the mutex. -/
structure Recorded (s : Monitors) (m : Nat) (g : Register) : Prop where
  /-- Whoever has parked was served or still waits, in this order. -/
  order : g.joined = g.served ++ s.waiters m
  /-- No handle has parked twice. -/
  nodup : g.joined.Nodup
  /-- All of them were issued. -/
  issued : ∀ h ∈ g.joined, h.id < s.parking.issued
  /-- No parked thread was missed. -/
  parked : ∀ t h, s.standing t = .waiting m h → h ∈ g.joined

variable {s s' : Monitors} {t u : ThreadId} {m : Nat} {h : ParkHandle} {g : Register}

theorem joining_of_not_waiting (hnot : ∀ m h, s'.standing t ≠ .waiting m h) :
    s.joining s' t m = [] := by
  unfold joining
  split
  · next m' h heq => exact absurd heq (hnot m' h)
  · rfl

theorem joining_of_waited
    (hwaited : ∀ m h, s'.standing t = .waiting m h → s.standing t = .waiting m h) :
    s.joining s' t m = [] := by
  unfold joining
  split
  · next m' h heq => rw [if_neg fun hnew => hnew.2 (hwaited m' h heq)]
  · rfl

theorem joined_observe : (g.observe m s s' t).joined = g.joined ++ s.joining s' t m := rfl

theorem served_observe_eq_self (hserved : ∀ h, ¬ s.BecomesOwner s' m h) :
    (g.observe m s s' t).served = g.served := by
  have hfilter : g.joined.filter (s.BecomesOwner s' m ·) = [] := by
    simp [hserved]
  rw [Register.observe, hfilter, List.append_nil]

/-- A thread that is parked after a step was so before, or it is recorded now. -/
theorem mem_joined_observe (move : s.Move t s')
    (hparked : ∀ u h, s.standing u = .waiting m h → h ∈ g.joined)
    (hwaiting : s'.standing u = .waiting m h) : h ∈ (g.observe m s s' t).joined := by
  rw [joined_observe, List.mem_append]
  by_cases hold : s.standing u = .waiting m h
  · exact .inl (hparked u h hold)
  · have hu : u = t := Decidable.byContradiction
      fun hu => hold (Fair.standing_other move hu ▸ hwaiting)
    subst hu
    exact .inr (by simp [joining, hwaiting, hold])

/-- One parked thread becomes an owner. -/
theorem served_observe_eq_append (hnodup : g.joined.Nodup) (hh : h ∈ g.joined)
    (hserved : ∀ h', s.BecomesOwner s' m h' ↔ h' = h) :
    (g.observe m s s' t).served = g.served ++ [h] := by
  have hfilter : g.joined.filter (s.BecomesOwner s' m ·) = g.joined.filter (· == h) :=
    List.filter_congr fun h' _ => decide_eq_decide.2 (hserved h')
  rw [Register.observe, hfilter, List.filter_beq, hnodup.count, if_pos hh, List.replicate_one]

/-- A thread whose own ownership has not changed in a step did not become an owner there. -/
theorem not_becomesOwner (howns : s'.Owns h.owner m → s.Owns h.owner m) :
    ¬ s.BecomesOwner s' m h := fun hbecomes => hbecomes.2.1 (howns hbecomes.2.2)

namespace Recorded

variable (hrecorded : s.Recorded m g) (hfair : s.Fair) (move : s.Move t s')
include hrecorded move

/-- Nothing is to be recorded of a mutex whose waiters stay, if nobody parks or gets the lock. -/
theorem of_same_waiters (hwaiters : s'.waiters m = s.waiters m)
    (hjoining : s.joining s' t m = []) (hserved : ∀ h, ¬ s.BecomesOwner s' m h) :
    s'.Recorded m (g.observe m s s' t) := by
  have hjoined : (g.observe m s s' t).joined = g.joined := by
    rw [joined_observe, hjoining, List.append_nil]
  refine ⟨?_, hjoined ▸ hrecorded.nodup, ?_, fun u h => mem_joined_observe move hrecorded.parked⟩
  · rw [hjoined, served_observe_eq_self hserved, hwaiters, hrecorded.order]
  · intro h hh
    exact Nat.lt_of_lt_of_le (hrecorded.issued h (hjoined ▸ hh)) move.issued_le

include hfair

theorem of_join {m' : Nat} (new : h = ⟨s.parking.issued, t⟩)
    (table : s'.mutexes = s.mutexes.set m' ((s.mutexes.get m').joinedBy h))
    (away : s.standing t = .away) (waits : s'.standing t = .waiting m' h) :
    s'.Recorded m (g.observe m s s' t) := by
  have hwaiters := Fair.waiters_of_join table m
  have hserved : ∀ h', ¬ s.BecomesOwner s' m h' := by
    intro h' hbecomes
    have hu : h'.owner ≠ t := by
      intro howner
      rw [BecomesOwner, howner, away] at hbecomes
      cases hbecomes.1
    exact not_becomesOwner (hfair.owns_of_join move new table hu m).1 hbecomes
  by_cases hm : m' = m
  · subst hm
    have hjoining : s.joining s' t m' = [h] := by simp [joining, waits, away]
    rw [if_pos rfl] at hwaiters
    refine ⟨?_, ?_, ?_, fun u h => mem_joined_observe move hrecorded.parked⟩
    · rw [joined_observe, served_observe_eq_self hserved, hjoining, hwaiters, hrecorded.order,
        List.append_assoc]
    · rw [joined_observe, hjoining]
      refine List.nodup_append.2 ⟨hrecorded.nodup, by simp, ?_⟩
      intro h₁ hh₁ h₂ hh₂ heq
      have hlt := hrecorded.issued h₁ hh₁
      rw [heq, List.mem_singleton.1 hh₂, new] at hlt
      exact Nat.lt_irrefl _ hlt
    · rw [joined_observe, hjoining]
      intro h₁ hh₁
      rcases List.mem_append.1 hh₁ with hh₁ | hh₁
      · exact Nat.lt_of_lt_of_le (hrecorded.issued h₁ hh₁) move.issued_le
      · rw [List.mem_singleton.1 hh₁]
        have hhandle := Point.handle?_of_waiting (p := s'.point t) waits
        exact (hfair.numbered.move move).issued t h hhandle
  · rw [if_neg (Ne.symm hm)] at hwaiters
    refine hrecorded.of_same_waiters move hwaiters ?_ hserved
    simp [joining, waits, hm]

theorem of_release {m' : Nat} (owned : s.Owns t m')
    (table : s'.mutexes = s.mutexes.set m' (s.mutexes.get m').release.1)
    (unparked : ∀ m h, s.standing t ≠ .waiting m h) (away : s'.standing t = .away) :
    s'.Recorded m (g.observe m s s' t) := by
  have hwaiters := Fair.waiters_of_release table m
  have hjoining : s.joining s' t m = [] := joining_of_not_waiting (by simp [away])
  have hparked : ∀ h, s.standing h.owner = .waiting m h → h.owner ≠ t :=
    fun h hwaiting howner => unparked m h (howner ▸ hwaiting)
  by_cases hm : m = m'
  · subst hm
    rw [if_pos rfl] at hwaiters
    -- The first waiter is the only one who becomes an owner.
    have hbecomes : ∀ h, s.BecomesOwner s' m h ↔ (s.waiters m).head? = some h := by
      intro h
      constructor
      · rintro ⟨hwaiting, -, howns⟩
        rw [hfair.owns_of_release move owned table (hparked h hwaiting)] at howns
        obtain ⟨h₁, hhead, howner⟩ := howns
        have hwaits := hfair.waits m h₁ (List.mem_of_mem_head? hhead)
        rw [howner, hwaiting] at hwaits
        rw [hhead, (Standing.waiting.inj hwaits).2]
      · intro hhead
        have hwaiting := hfair.waits m h (List.mem_of_mem_head? hhead)
        have hu := hparked h hwaiting
        exact ⟨hwaiting, fun howns => hu (hfair.owner_unique howns owned),
          (hfair.owns_of_release move owned table hu).2 ⟨h, hhead, rfl⟩⟩
    have hjoined : (g.observe m s s' t).joined = g.joined := by
      rw [joined_observe, hjoining, List.append_nil]
    refine ⟨?_, hjoined ▸ hrecorded.nodup, ?_,
      fun u h => mem_joined_observe move hrecorded.parked⟩
    · rw [hjoined, hwaiters, hrecorded.order]
      cases hlist : s.waiters m with
      | nil => rw [served_observe_eq_self (by simp [hbecomes, hlist]), List.tail_nil]
      | cons h rest =>
        have hh : h ∈ g.joined := by simp [hrecorded.order, hlist]
        rw [served_observe_eq_append hrecorded.nodup hh (by simp [hbecomes, hlist, eq_comm]),
          List.tail_cons, List.append_assoc, List.singleton_append]
    · intro h hh
      exact Nat.lt_of_lt_of_le (hrecorded.issued h (hjoined ▸ hh)) move.issued_le
  · rw [if_neg hm] at hwaiters
    refine hrecorded.of_same_waiters move hwaiters hjoining ?_
    intro h hbecomes
    have howns := Fair.owns_other (m := m) move (hparked h hbecomes.1) fun _ _ => by rw [hwaiters]
    exact not_becomesOwner howns.1 hbecomes

end Recorded

/-- Every step keeps the register in agreement with the waiters. -/
theorem Recorded.move (hrecorded : s.Recorded m g) (hfair : s.Fair) (move : s.Move t s') :
    s'.Recorded m (g.observe m s s' t) := by
  cases hfair.turn move with
  | still locks owns waited waits apart =>
    refine hrecorded.of_same_waiters move (locks m).waiters (joining_of_waited waited) ?_
    intro h
    by_cases hu : h.owner = t
    · exact not_becomesOwner (hu ▸ (owns m).1)
    · exact not_becomesOwner (Fair.owns_other move hu fun _ _ => by
        rw [waiters, (locks m).waiters, waiters]).1
  | take m' free table owns away unparked apart =>
    have hwaiters := Fair.waiters_of_take table m
    refine hrecorded.of_same_waiters move hwaiters (joining_of_not_waiting unparked) ?_
    intro h hbecomes
    have hu : h.owner ≠ t := by
      intro howner
      rw [BecomesOwner, howner, away] at hbecomes
      cases hbecomes.1
    exact not_becomesOwner (Fair.owns_other move hu fun _ _ => by rw [hwaiters]).1 hbecomes
  | join m' h locked new table away waits guards =>
    exact hrecorded.of_join hfair move new table away waits
  | release m' owned table unparked away guards heir =>
    exact hrecorded.of_release hfair move owned table unparked away

/-! ### Deeds -/

/-- What a thread does between two looks at it: nothing, or one step, after which it may have
unparked a loose handle at once. -/
inductive Deed (s : Monitors) (t : ThreadId) : Monitors → Prop
  | rest : Deed s t s
  | move {s' : Monitors} (move : s.Move t s') : Deed s t s'
  | nudge {s' : Monitors} (h : ParkHandle) (move : s.Move t s') (loose : s'.IsLoose h) :
      Deed s t (s'.withParking (s'.parking.unpark h))

theorem Fair.deed (hfair : s.Fair) (deed : s.Deed t s') : s'.Fair := by
  cases deed with
  | rest => exact hfair
  | move move => exact hfair.move move
  | nudge h move loose => exact (hfair.move move).move (.nudge (t := t) h loose)

theorem IsLoose.deed (hloose : s.IsLoose h) (deed : s.Deed t s') : s'.IsLoose h := by
  cases deed with
  | rest => exact hloose
  | move move => exact hloose.move move
  | nudge h' move loose => exact (hloose.move move).move (.nudge (t := t) h' loose)

theorem Recorded.deed (hrecorded : s.Recorded m g) (hfair : s.Fair) (deed : s.Deed t s') :
    s'.Recorded m (g.observe m s s' t) := by
  cases deed with
  | rest =>
    have hjoined : (g.observe m s s t).joined = g.joined := by
      rw [joined_observe, joining_of_waited fun _ _ => id, List.append_nil]
    have hserved : (g.observe m s s t).served = g.served :=
      served_observe_eq_self fun _ => not_becomesOwner id
    refine ⟨?_, ?_, ?_, ?_⟩
    · rw [hjoined, hserved, hrecorded.order]
    · exact hjoined ▸ hrecorded.nodup
    · exact hjoined ▸ hrecorded.issued
    · exact hjoined ▸ hrecorded.parked
  | move move => exact hrecorded.move hfair move
  | nudge h move loose =>
    -- An unparking is no matter of locks.
    have hmoved := hrecorded.move hfair move
    refine ⟨hmoved.order, hmoved.nodup, fun h' hh' => ?_, hmoved.parked⟩
    rw [parking_withParking, Parking.issued_unpark]
    exact hmoved.issued h' hh'

/-! ### Beginnings -/

/-- Nothing has happened yet: all locks are free, and no handle is anywhere. -/
structure IsFresh (s : Monitors) : Prop where
  /-- No thread does anything. -/
  idle : ∀ t, s.point t = .idle none
  /-- No thread keeps a lock. -/
  guards : ∀ t, s.guards t = []
  /-- No mutex is locked. -/
  mutexes : ∀ m, Mutex.SameLock {} (s.mutexes.get m)
  /-- Nobody waits on a condition variable. -/
  condvars : ∀ c, s.condvars.get c = []
  /-- No handle was unparked. -/
  tokens : ∀ i, s.parking.tokens.get i = false

namespace IsFresh

variable (hfresh : s.IsFresh)
include hfresh

theorem standing (t : ThreadId) : s.standing t = .away := by
  rw [Monitors.standing, hfresh.idle]
  rfl

theorem waiters (m : Nat) : s.waiters m = [] := (hfresh.mutexes m).waiters

theorem not_owns (t : ThreadId) (m : Nat) : ¬ s.Owns t m := by
  simp [owns_of_away (hfresh.standing t), hfresh.guards]

theorem not_isDestined (i : Nat) : ¬ s.IsDestined i := by
  rintro (htoken | ⟨c, h, hh, -⟩ | ⟨u, h, hh, -⟩)
  · simp [hfresh.tokens] at htoken
  · simp [hfresh.condvars] at hh
  · simp [hfresh.idle, Point.wakes] at hh

theorem numbered : s.Numbered := by
  refine ⟨?_, ?_, ?_, ?_, fun i hi => absurd hi (hfresh.not_isDestined i), ?_⟩
  · simp [hfresh.idle, Point.handle?]
  · simp [hfresh.idle, Point.handle?]
  · simp [hfresh.idle, Point.handle?]
  · simp [hfresh.waiters]
  · simp [hfresh.idle]

theorem fair : s.Fair := by
  refine ⟨hfresh.numbered, ?_, ?_, ?_, ?_, ?_, ?_, ?_⟩
  · exact fun m => Mutex.Sound.of_same ⟨rfl, fun _ => rfl⟩ (hfresh.mutexes m)
  · simp [(hfresh.mutexes _).holder, hfresh.not_owns]
  · simp [hfresh.waiters]
  · simp [hfresh.waiters]
  · simp [hfresh.waiters]
  · simp [hfresh.standing]
  · simp [hfresh.guards]

theorem recorded (m : Nat) : s.Recorded m {} := by
  refine ⟨(hfresh.waiters m).symm, List.nodup_nil, nofun, ?_⟩
  simp [hfresh.standing]

end IsFresh

/-! ### Promises -/

/-- What is promised of a mutex, given its register. -/
structure IsFairAt (s : Monitors) (m : Nat) (g : Register) : Prop where
  /-- No two threads own the lock. -/
  exclusive : ∀ t u, s.Owns t m → s.Owns u m → t = u
  /-- A free lock has no holder, no waiter and no owner. -/
  free : (s.mutexes.get m).locked = false →
    (s.mutexes.get m).holder = none ∧ (s.mutexes.get m).waiters = [] ∧ ∀ t, ¬ s.Owns t m
  /-- A taken lock has an owner, and is held by this thread and no other. -/
  taken : (s.mutexes.get m).locked = true →
    ∃ t, s.Owns t m ∧ ∀ u, (s.mutexes.get m).isHeldBy u = true ↔ u = t
  /-- The lock is refused to whoever tries to take it if and only if somebody owns it. -/
  refused : ∀ t, (s.mutexes.get m).tryLock t = none ↔ ∃ u, s.Owns u m
  /-- Parked threads become owners in the order in which they have parked, and the others wait. -/
  order : g.joined = g.served ++ (s.mutexes.get m).waiters
  /-- None of them becomes an owner twice. -/
  nodup : g.joined.Nodup
  /-- A parked thread waits, or owns the lock; then it can go on, or somebody who can go on has it
  still to unpark. -/
  heard : ∀ t h, s.standing t = .waiting m h → h ∈ (s.mutexes.get m).waiters ∨
    h ∈ g.served ∧ s.Owns t m ∧ ∃ u, (s.step? u).isSome = true ∧ (u = t ∨ h ∈ (s.point u).wakes)

theorem isSome_step?_of_wakes (hh : h ∈ (s.point t).wakes) : (s.step? t).isSome = true := by
  unfold step?
  cases hpoint : s.point t with
  | yielding r h' next => cases next <;> rfl
  | releasing m woken outcome => rfl
  | waking handles outcome => cases handles <;> rfl
  | _ => simp [hpoint, Point.wakes] at hh

theorem isSome_step?_of_unparked (hwaiting : s.standing t = .waiting m h)
    (hunparked : s.parking.isUnparked h = true) : (s.step? t).isSome = true := by
  unfold standing at hwaiting
  unfold step?
  cases hpoint : s.point t with
  | queued r h' =>
    rw [hpoint] at hwaiting
    cases hwaiting
    simp [hunparked]
  | _ =>
    rw [hpoint] at hwaiting
    cases hwaiting

theorem Fair.isHeldBy_iff (hfair : s.Fair) :
    (s.mutexes.get m).isHeldBy t = true ↔ s.Owns t m := by
  rw [← hfair.holder_iff, Mutex.isHeldBy, beq_iff_eq]

theorem Fair.isFairAt (hfair : s.Fair) (hrecorded : s.Recorded m g) : s.IsFairAt m g := by
  refine ⟨fun t u => hfair.owner_unique, ?_, ?_, ?_, hrecorded.order, hrecorded.nodup, ?_⟩
  · intro hfree
    refine ⟨?_, (hfair.sound m).waiters_of_free hfree, hfair.not_owns hfree⟩
    have hlocked := (hfair.sound m).locked_eq
    rw [hfree] at hlocked
    exact Option.isSome_eq_false_iff.1 hlocked.symm |> Option.isNone_iff_eq_none.1
  · intro hlocked
    obtain ⟨t, howns⟩ := hfair.locked_iff.1 hlocked
    refine ⟨t, howns, fun u => ?_⟩
    rw [hfair.isHeldBy_iff]
    exact ⟨fun hu => hfair.owner_unique hu howns, fun hu => hu ▸ howns⟩
  · intro t
    rw [Mutex.tryLock_eq_none_iff, hfair.locked_iff]
  · intro t h hwaiting
    by_cases hh : h ∈ s.waiters m
    · exact .inl hh
    · have hjoined := hrecorded.parked t h hwaiting
      rw [hrecorded.order, List.mem_append] at hjoined
      refine .inr ⟨hjoined.resolve_right hh, .inr (.inr (.inr ⟨h, hwaiting, hh⟩)), ?_⟩
      rcases hfair.alerted t m h hwaiting hh with hunparked | ⟨u, hwakes⟩
      · exact ⟨t, isSome_step?_of_unparked hwaiting hunparked, .inl rfl⟩
      · exact ⟨u, isSome_step?_of_wakes hwakes, .inr hwakes⟩

end Monitors

/-! ### Workers -/

namespace Workers

variable {s s' : Workers} {w : ThreadId}

/-- What a worker does leaves its thread with one deed, and only loose handles where others find
them. -/
structure Kept (s : Workers) (w : ThreadId) (s' : Workers) : Prop where
  /-- One deed of the thread. -/
  deed : s.monitors.Deed w s'.monitors
  /-- A new handle is loose. -/
  left : ∀ u h, (s'.workers.get u).left = some h →
    (s.workers.get u).left = some h ∨ s'.monitors.IsLoose h

/-- The handles that workers have left are loose. -/
def Tidy (s : Workers) : Prop :=
  ∀ u h, (s.workers.get u).left = some h → s.monitors.IsLoose h

theorem Tidy.kept (htidy : s.Tidy) (hkept : s.Kept w s') : s'.Tidy := by
  intro u h hleft
  rcases hkept.left u h hleft with hold | hnew
  · exact (htidy u h hold).deed hkept.deed
  · exact hnew

theorem SameThreads.kept (same : s.SameThreads s') : s.Kept w s' := by
  refine ⟨same.monitors ▸ .rest, fun u h hleft => .inl ?_⟩
  rwa [same.left] at hleft

theorem Kept.trans_same {s'' : Workers} (hkept : s.Kept w s') (same : s'.SameThreads s'') :
    s.Kept w s'' := by
  refine ⟨same.monitors ▸ hkept.deed, fun u h hleft => ?_⟩
  rw [same.left] at hleft
  rw [same.monitors]
  exact hkept.left u h hleft

/-- A step of the thread, with the workers as they were. -/
theorem kept_of_move {monitors : Monitors} (move : s.monitors.Move w monitors) :
    s.Kept w { s with monitors } :=
  ⟨.move move, fun _ _ => .inl⟩

/-- A worker begins something, or cannot do so. -/
theorem act_cases (s : Workers) (w : ThreadId) (command : Command) (what : Act)
    (hloose : ∀ h, what = .unpark h → s.monitors.IsLoose h) :
    s.SameThreads (s.act w command what) ∨
      ∃ monitors, s.monitors.Move w monitors ∧
        SameThreads { s with monitors } (s.act w command what) := by
  unfold act
  split
  · next monitors heq =>
    exact .inr ⟨monitors, Monitors.move_of_start heq hloose, SameThreads.assign _⟩
  · exact .inl (SameThreads.reply _)

theorem kept_act (s : Workers) (w : ThreadId) (command : Command) (what : Act)
    (hloose : ∀ h, what = .unpark h → s.monitors.IsLoose h) :
    s.Kept w (s.act w command what) := by
  rcases act_cases s w command what hloose with same | ⟨monitors, move, same⟩
  · exact same.kept
  · exact (kept_of_move move).trans_same same

/-- A worker that parks leaves a handle that is loose, or unparks it at once. -/
theorem kept_park (hfair : s.monitors.Fair) (command : Command) (timed now : Bool) :
    s.Kept w ((s.act w command (.park timed)).leaveHandle w now) := by
  have hact := kept_act s w command (.park timed) nofun
  have hparked := (hfair.deed hact.deed).numbered.parked w
  unfold leaveHandle
  split
  · next h expired hpoint =>
    have hloose := hparked h expired hpoint
    split
    · refine ⟨?_, fun u h' hleft =>
        (hact.left u h' hleft).imp_right fun hnew => hnew.move (.nudge (t := w) h hloose)⟩
      rcases act_cases s w command (.park timed) nofun with same | ⟨monitors, move, same⟩
      · rw [same.monitors] at hloose ⊢
        exact .move (.nudge h hloose)
      · rw [same.monitors] at hloose ⊢
        exact .nudge h move hloose
    · refine ⟨hact.deed, fun u h' hleft => ?_⟩
      simp only [update, Table.get_set] at hleft
      split at hleft
      · cases hleft
        exact .inr hloose
      · exact hact.left u h' hleft
  · exact hact

/-- A worker that unparks a handle takes it from where it was left. -/
theorem kept_unpark (htidy : s.Tidy) (other : ThreadId) (command : Command) {h : ParkHandle}
    (hleft : (s.workers.get other).left = some h) :
    s.Kept w ((s.update other ({ · with left := none })).act w command (.unpark h)) := by
  have hact := kept_act (s.update other ({ · with left := none })) w command (.unpark h)
    (by rintro _ ⟨⟩; exact htidy other h hleft)
  refine ⟨hact.deed, fun u h' hleft' => ?_⟩
  rcases hact.left u h' hleft' with hold | hnew
  · simp only [update, Table.get_set] at hold
    split at hold
    · cases hold
    · exact .inl hold
  · exact .inr hnew

/-- However a worker begins, it begins with one deed. -/
theorem Onset.kept {command : Command} (onset : s.Onset w command s') (hfair : s.monitors.Fair)
    (htidy : s.Tidy) : s.Kept w s' := by
  cases onset with
  | rest same => exact same.kept
  | @act s₁ what same tasks harmless =>
    have hact := kept_act s₁ w command what fun h heq => absurd heq (harmless h)
    refine ⟨same.monitors ▸ hact.deed, fun u h hleft => ?_⟩
    rw [← same.left]
    exact hact.left u h hleft
  | park timed now => exact kept_park hfair command timed now
  | unpark other h left => exact kept_unpark htidy other command left

/-- Whatever a worker is told to do, it begins with one deed. -/
theorem kept_begin (hfair : s.monitors.Fair) (htidy : s.Tidy) (command : Command) :
    s.Kept w (s.begin w command) :=
  (onset_begin s w command).kept hfair htidy

/-- Whenever a worker goes on, it does one deed. -/
theorem kept_step (h : s.step? w = some s') : s.Kept w s' := by
  cases pursuit_of_step h with
  | step hstep => exact kept_of_move (Monitors.move_of_step hstep)
  | rest _ _ same => exact same.kept
  | giveBack _ harmless start same =>
    have move := Monitors.move_of_start start fun h heq => absurd heq (harmless h)
    exact (kept_of_move move).trans_same same
  | finish =>
    exact (kept_of_move .retire).trans_same (SameThreads.trans (.reply _) (.assign _))

theorem kept_expire {monitors : Monitors} (h : s.monitors.expire? w = some monitors) :
    s.Kept w { s with monitors } :=
  kept_of_move (Monitors.move_of_expire h)

theorem isFresh_start (count : Nat) (mutexes : List Int) (condvars : Nat) (permits : List Nat)
    (spins : List Int) : (start count mutexes condvars permits spins).monitors.IsFresh := by
  refine ⟨fun _ => rfl, fun _ => rfl, fun m => ?_, fun _ => rfl, fun _ => rfl⟩
  simp only [start, Table.get, List.getElem?_map]
  cases (mutexes ++ permits.map Int.ofNat)[m]? <;> exact ⟨rfl, rfl, rfl⟩

end Workers

/-! ### Watches -/

/-- Workers, and the registers of their mutexes. -/
structure Watch where
  /-- The workers. -/
  workers : Workers
  /-- The register of each mutex. -/
  registers : Nat → Monitors.Register := fun _ => {}

namespace Watch

/-- What can happen under a watch. -/
inductive Action where
  /-- A worker that waits for a command is told to do something. -/
  | tell (w : ThreadId) (command : Workers.Command)
  /-- A worker goes on, if it can. -/
  | go (w : ThreadId)
  /-- The deadline of a worker passes, if it has one. -/
  | expire (w : ThreadId)
deriving DecidableEq, Repr

/-- The watch after a deed of a worker. -/
def see (x : Watch) (w : ThreadId) (workers : Workers) : Watch where
  workers := workers
  registers m := (x.registers m).observe m x.workers.monitors workers.monitors w

/-- The watch after an action. -/
def act (x : Watch) : Action → Watch
  | .tell w command =>
    match (x.workers.workers.get w).task with
    | .waiting => x.see w (x.workers.begin w command)
    | _ => x
  | .go w =>
    match x.workers.step? w with
    | none => x
    | some workers => x.see w workers
  | .expire w =>
    match x.workers.monitors.expire? w with
    | none => x
    | some monitors => x.see w { x.workers with monitors }

/-- The watch after some actions. -/
def after (x : Watch) (actions : List Action) : Watch := actions.foldl act x

/-- Locks are fair, registers are right, and no handle lies where it should not. -/
structure IsGood (x : Watch) : Prop where
  /-- All locks are fair. -/
  fair : x.workers.monitors.Fair
  /-- Workers have left nothing but loose handles. -/
  tidy : x.workers.Tidy
  /-- All registers are right. -/
  recorded : ∀ m, x.workers.monitors.Recorded m (x.registers m)

variable {x : Watch} {w : ThreadId}

theorem IsGood.see (hgood : x.IsGood) {workers : Workers} (hkept : x.workers.Kept w workers) :
    (x.see w workers).IsGood :=
  ⟨hgood.fair.deed hkept.deed, hgood.tidy.kept hkept,
    fun m => (hgood.recorded m).deed hgood.fair hkept.deed⟩

theorem IsGood.act (hgood : x.IsGood) (action : Action) : (x.act action).IsGood := by
  cases action with
  | tell w command =>
    unfold Watch.act
    dsimp only
    split
    · exact hgood.see (Workers.kept_begin hgood.fair hgood.tidy command)
    · exact hgood
  | go w =>
    unfold Watch.act
    dsimp only
    split
    · exact hgood
    · next workers heq => exact hgood.see (Workers.kept_step heq)
  | expire w =>
    unfold Watch.act
    dsimp only
    split
    · exact hgood
    · next monitors heq => exact hgood.see (Workers.kept_expire heq)

theorem IsGood.after (hgood : x.IsGood) (actions : List Action) : (x.after actions).IsGood := by
  induction actions generalizing x with
  | nil => exact hgood
  | cons action rest ih => exact ih (hgood.act action)

theorem isGood_start (count : Nat) (mutexes : List Int) (condvars : Nat) (permits : List Nat)
    (spins : List Int) : IsGood { workers := .start count mutexes condvars permits spins } := by
  have hfresh := Workers.isFresh_start count mutexes condvars permits spins
  exact ⟨hfresh.fair, nofun, hfresh.recorded⟩

/-- However many workers there are and in whatever order they take locks, try to, unlock, let locks
go in a panic or end with locks in their hands: each mutex has one owner if it is locked, and
neither owner nor waiter if it is not, and the threads that have parked at it become owners in the
order in which they have parked. -/
theorem isFairAt_after (count : Nat) (mutexes : List Int) (condvars : Nat) (permits : List Nat)
    (spins : List Int) (actions : List Action) (m : Nat) :
    let x := Watch.after { workers := .start count mutexes condvars permits spins } actions
    x.workers.monitors.IsFairAt m (x.registers m) :=
  have hgood := (isGood_start count mutexes condvars permits spins).after actions
  hgood.fair.isFairAt (hgood.recorded m)

/-- Two workers park at a mutex that a third one keeps. It lets the lock go in a panic, and the
first of the two unlocks; the other one owns the lock before it has noticed. -/
example :
    let steps := [.go 0, .go 0, .go 0, .tell 1 (.lock 0), .go 1, .tell 2 (.lock 0), .go 2,
      .tell 0 (.abandon 0), .go 0, .go 0, .go 0, .go 1, .go 1, .go 1, .tell 1 (.unlock 0), .go 1,
      .go 1]
    let x := Watch.after { workers := .start 3 [0] 0 [] [] } (.tell 0 (.lock 0) :: steps)
    (x.registers 0).served = [⟨0, 1⟩, ⟨1, 2⟩] ∧ x.workers.monitors.Owns 2 0 := by
  decide

end Watch

end Junction.Sync
