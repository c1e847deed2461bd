import Junction.Proofs.MonitorMoves

/-!
# Who owns a lock

A thread owns the lock of a mutex if it keeps it, if it is on its way in or out with the lock in its
hands, or if it was handed the lock while it was parked. The last one is seen by the waiters alone:
the thread still waits by a handle that is no longer among them.

Nobody can take a waiting thread for another one, or wake it by mistake, since handles are numbered
and each of them is in one place only.

## Main definitions

* `Standing` — what the point of a thread says about locks
* `Monitors.Owns` — a thread owns the lock of a mutex
* `Monitors.Numbered` — handles are not mixed up

## Main results

* `Monitors.Move.destined_cases` — who can come to be woken in one step
* `Monitors.Numbered.move` — no step mixes handles up
-/

namespace Junction.Sync

/-! ### Standing -/

/-- What the point of a thread says about locks. -/
inductive Standing where
  /-- The thread has no lock in its hands and waits for none. -/
  | away
  /-- The thread has parked at a locked mutex, with a handle. -/
  | waiting (m : Nat) (h : ParkHandle)
  /-- The thread has a lock in its hands, and has still to do what it needs it for. -/
  | entered (m : Nat)
  /-- The thread has a lock in its hands, and is about to leave. -/
  | leaving (m : Nat)
deriving DecidableEq, Repr

namespace Point

/-- The standing of a thread at a point. -/
def standing : Point → Standing
  | queued r h => .waiting r.mutex h
  | inside r | enrolled r _ => .entered r.mutex
  | leaving m .. | releasing m .. => .leaving m
  | _ => .away

variable {p p' : Point}

theorem standing_expired (h : p.expired? = some p') : p'.standing = p.standing := by
  cases p with
  | parked handle expired =>
    cases expired with
    | none => cases h
    | some passed =>
      cases h
      rfl
  | queued | inside | enrolled =>
    cases h
    simp [standing]
  | _ => cases h <;> rfl

theorem handle?_of_waiting {m : Nat} {h : ParkHandle} (hwaiting : p.standing = .waiting m h) :
    p.handle? = some h := by
  cases p with
  | queued r h' =>
    cases hwaiting
    rfl
  | _ => cases hwaiting

end Point

namespace Monitors

/-- The handles of the threads that wait for the lock of a mutex. -/
def waiters (s : Monitors) (m : Nat) : List ParkHandle := (s.mutexes.get m).waiters

/-- The standing of a thread. -/
def standing (s : Monitors) (t : ThreadId) : Standing := (s.point t).standing

/-- A thread has a lock for something that it has still to do: it is past the lock, or it was handed
the lock and has not noticed yet. -/
def HasEntered (s : Monitors) (t : ThreadId) (m : Nat) : Prop :=
  s.standing t = .entered m ∨ ∃ h, s.standing t = .waiting m h ∧ h ∉ s.waiters m

/-- A thread owns the lock of a mutex. -/
def Owns (s : Monitors) (t : ThreadId) (m : Nat) : Prop :=
  m ∈ s.guards t ∨ s.standing t = .leaving m ∨ s.HasEntered t m

instance (s : Monitors) (t : ThreadId) (m : Nat) : Decidable (s.HasEntered t m) :=
  match hstanding : s.standing t with
  | .entered m' => decidable_of_iff (m' = m) (by simp [HasEntered, hstanding])
  | .waiting m' h =>
    decidable_of_iff (m' = m ∧ h ∉ s.waiters m) (by simp [HasEntered, hstanding, and_assoc])
  | .away => isFalse (by simp [HasEntered, hstanding])
  | .leaving _ => isFalse (by simp [HasEntered, hstanding])

instance (s : Monitors) (t : ThreadId) (m : Nat) : Decidable (s.Owns t m) :=
  inferInstanceAs (Decidable (_ ∨ _ ∨ _))

variable {s s' : Monitors} {t u : ThreadId} {m : Nat} {h : ParkHandle}

theorem hasEntered_congr (hstanding : s'.standing t = s.standing t)
    (hwaiters : ∀ h, s.standing t = .waiting m h → (h ∈ s'.waiters m ↔ h ∈ s.waiters m)) :
    s'.HasEntered t m ↔ s.HasEntered t m := by
  rw [HasEntered, HasEntered, hstanding]
  refine or_congr_right (exists_congr fun h => and_congr_right fun hwaiting => ?_)
  exact not_congr (hwaiters h hwaiting)

theorem owns_congr (hguards : s'.guards t = s.guards t) (hstanding : s'.standing t = s.standing t)
    (hwaiters : ∀ h, s.standing t = .waiting m h → (h ∈ s'.waiters m ↔ h ∈ s.waiters m)) :
    s'.Owns t m ↔ s.Owns t m := by
  rw [Owns, Owns, hguards, hstanding, hasEntered_congr hstanding hwaiters]

theorem owns_of_away (haway : s.standing t = .away) : s.Owns t m ↔ m ∈ s.guards t := by
  simp [Owns, HasEntered, haway]

theorem owns_of_entered {n : Nat} (hentered : s.standing t = .entered n) :
    s.Owns t m ↔ m ∈ s.guards t ∨ m = n := by
  simp [Owns, HasEntered, hentered, eq_comm]

theorem owns_of_leaving {n : Nat} (hleaving : s.standing t = .leaving n) :
    s.Owns t m ↔ m ∈ s.guards t ∨ m = n := by
  simp [Owns, HasEntered, hleaving, eq_comm]

/-- The handle of a parked thread among the waiters tells that the thread has not been handed the
lock. -/
theorem owns_of_waiting {m' : Nat} (hwaiting : s.standing t = .waiting m' h) :
    s.Owns t m ↔ m ∈ s.guards t ∨ m = m' ∧ h ∉ s.waiters m' := by
  simp only [Owns, HasEntered, hwaiting, Standing.waiting.injEq, reduceCtorEq, false_or]
  constructor
  · rintro (hkept | ⟨_, ⟨rfl, rfl⟩, hnot⟩)
    · exact .inl hkept
    · exact .inr ⟨rfl, hnot⟩
  · rintro (hkept | ⟨rfl, hnot⟩)
    · exact .inl hkept
    · exact .inr ⟨h, ⟨rfl, rfl⟩, hnot⟩

/-! ### Handles -/

/-- A handle with a number was unparked, or is on a list of a condition variable, or some thread has
it still to unpark. -/
def IsDestined (s : Monitors) (i : Nat) : Prop :=
  s.parking.tokens.get i = true ∨ (∃ c, ∃ h ∈ s.condvars.get c, h.id = i) ∨
    ∃ u, ∃ h ∈ (s.point u).wakes, h.id = i

/-- A handle was unparked, or some thread has it still to unpark. -/
def IsAlerted (s : Monitors) (h : ParkHandle) : Prop :=
  s.parking.isUnparked h = true ∨ ∃ u, h ∈ (s.point u).wakes

/-- Handles are numbered in the order in which they were issued, and no two threads share one. -/
structure Numbered (s : Monitors) : Prop where
  /-- A thread waits by a handle of its own. -/
  owner : ∀ t h, (s.point t).handle? = some h → h.owner = t
  /-- The handle was issued. -/
  issued : ∀ t h, (s.point t).handle? = some h → h.id < s.parking.issued
  /-- No other thread waits by it. -/
  distinct : ∀ t t' h h', (s.point t).handle? = some h → (s.point t').handle? = some h' →
    h.id = h'.id → t = t'
  /-- The waiters of a mutex are handles that were issued. -/
  enlisted : ∀ m, ∀ h ∈ s.waiters m, h.id < s.parking.issued
  /-- So are the handles that were unparked or will be. -/
  destined : ∀ i, s.IsDestined i → i < s.parking.issued
  /-- The handle of a plain parking is loose. -/
  parked : ∀ t h expired, s.point t = .parked h expired → s.IsLoose h

/-- Only a new handle joins the waiters of a mutex. -/
theorem Move.waiters_cases (move : s.Move t s') (hh : h ∈ s'.waiters m) :
    h ∈ s.waiters m ∨ (h = ⟨s.parking.issued, t⟩ ∧ s.parking.issued < s'.parking.issued) := by
  cases move with
  | join r entering locked =>
    simp only [waiters, mutexes_goTo, mutexes_setMutex, mutexes_withParking, Table.get_set] at hh
    split at hh
    · next hm =>
      rcases List.mem_append.1 hh with hh | hh
      · exact .inl (hm ▸ hh)
      · exact .inr ⟨List.mem_singleton.1 hh, by simp⟩
    · exact .inl hh
  | yield r h' enrolled =>
    simp only [waiters, mutexes_goTo, mutexes_setMutex, Table.get_set] at hh
    split at hh
    · next hm =>
      rw [Mutex.waiters_release] at hh
      exact .inl (hm ▸ List.mem_of_mem_tail hh)
    · exact .inl hh
  | release m' woken outcome releasing =>
    simp only [waiters, mutexes_goTo, mutexes_setGuards, mutexes_setMutex, Table.get_set] at hh
    split at hh
    · next hm =>
      rw [Mutex.waiters_release] at hh
      exact .inl (hm ▸ List.mem_of_mem_tail hh)
    · exact .inl hh
  | seize | amend | take | keep | serve =>
    simp only [waiters, mutexes_goTo, mutexes_setGuards, mutexes_setMutex, Table.get_set] at hh
    split at hh
    · next hm => exact .inl (hm ▸ hh)
    · exact .inl hh
  | _ => exact .inl hh

/-- A thread that has a handle to unpark has had it before, or takes it off a condition variable or
from the head of the waiters of a mutex, or it is loose. -/
theorem Move.wakes_cases (move : s.Move t s') (hh : h ∈ (s'.point u).wakes) :
    h ∈ (s.point u).wakes ∨ (∃ c, h ∈ s.condvars.get c) ∨ s.IsLoose h ∨
      ∃ m, (s.waiters m).head? = some h ∧ s'.waiters m = (s.waiters m).tail := by
  by_cases hu : u = t
  · subst hu
    cases move with
    | expire p expired =>
      left
      simpa [Point.wakes_expired expired] using hh
    | yield r h' enrolled =>
      have hhead : (s.waiters r.mutex).head? = some h := by
        simpa [waiters, Point.wakes, Mutex.release_snd] using hh
      exact .inr (.inr (.inr ⟨r.mutex, hhead, by simp [waiters, Mutex.waiters_release]⟩))
    | release m woken outcome releasing =>
      simp only [point_goTo, if_pos, Point.wakes, Mutex.release_snd, List.mem_append,
        Option.mem_toList] at hh
      rcases hh with hh | hh
      · exact .inr (.inr (.inr ⟨m, hh, by simp [waiters, Mutex.waiters_release]⟩))
      · exact .inl (by simpa [Point.wakes, releasing] using hh)
    | unpark h' idle loose =>
      have hh' : h = h' := by simpa [Point.wakes] using hh
      exact .inr (.inr (.inl (hh' ▸ loose)))
    | signal m c outcome leaving =>
      have hhead : (s.condvars.get c).head? = some h := by simpa [Point.wakes] using hh
      exact .inr (.inl ⟨c, List.mem_of_mem_head? hhead⟩)
    | broadcast m c outcome leaving => exact .inr (.inl ⟨c, by simpa [Point.wakes] using hh⟩)
    | _ => simp_all [Point.wakes]
  · rw [move.point_other hu] at hh
    exact .inl hh

/-- A handle that was unparked, or will be, stays so. -/
theorem Move.alerted (move : s.Move t s') (halerted : s.IsAlerted h) : s'.IsAlerted h := by
  rcases halerted with htoken | ⟨u, hh⟩
  · exact .inl (move.token htoken)
  · by_cases hu : u = t
    · subst hu
      cases move with
      | expire p expired => exact .inr ⟨u, by simpa [Point.wakes_expired expired] using hh⟩
      | handOver r h' next yielding =>
        have hnext : h = next := by simpa [yielding, Point.wakes, eq_comm] using hh
        exact .inl (by simp [Parking.isUnparked, hnext])
      | wake h' rest outcome waking =>
        simp only [waking, Point.wakes, List.mem_cons] at hh
        rcases hh with rfl | hh
        · exact .inl (by simp [Parking.isUnparked])
        · exact .inr ⟨u, by simpa [Point.wakes] using hh⟩
      | release m woken outcome releasing =>
        refine .inr ⟨u, ?_⟩
        simp only [releasing, Point.wakes] at hh
        simp [Point.wakes, hh]
      | nudge | retire => exact .inr ⟨u, hh⟩
      | _ => simp_all [Point.wakes]
    · exact .inr ⟨u, by rwa [move.point_other hu]⟩

/-- What becomes destined was so, or is new, or loose, or the first waiter of a mutex. -/
theorem Move.destined_cases (move : s.Move t s') {i : Nat} (hi : s'.IsDestined i) :
    s.IsDestined i ∨
      ((∃ r, s.point t = .inside r) ∧ i = s.parking.issued ∧
        s.parking.issued < s'.parking.issued) ∨
      (∃ h, s.IsLoose h ∧ h.id = i) ∨
      ∃ m h, (s.waiters m).head? = some h ∧ s'.waiters m = (s.waiters m).tail ∧ h.id = i := by
  rcases hi with htoken | ⟨c, h, hh, rfl⟩ | ⟨u, h, hh, rfl⟩
  · rcases move.token_cases htoken with htoken | ⟨h, hh, hi⟩ | hloose
    · exact .inl (.inl htoken)
    · exact .inl (.inr (.inr ⟨t, h, hh, hi⟩))
    · exact .inr (.inr (.inl hloose))
  · rcases move.listed_cases hh with hh | ⟨hinside, hnew, hlt⟩
    · exact .inl (.inr (.inl ⟨c, h, hh, rfl⟩))
    · exact .inr (.inl ⟨hinside, by rw [hnew], hlt⟩)
  · rcases move.wakes_cases hh with hh | ⟨c, hh⟩ | hloose | ⟨m, hhead, htail⟩
    · exact .inl (.inr (.inr ⟨u, h, hh, rfl⟩))
    · exact .inl (.inr (.inl ⟨c, h, hh, rfl⟩))
    · exact .inr (.inr (.inl ⟨h, hloose, rfl⟩))
    · exact .inr (.inr (.inr ⟨m, h, hhead, htail, rfl⟩))

theorem IsLoose.move (hloose : s.IsLoose h) (move : s.Move t s') : s'.IsLoose h := by
  refine ⟨Nat.lt_of_lt_of_le hloose.issued move.issued_le, ?_, ?_⟩
  · intro u h' hh'
    rcases move.handle_cases hh' with hh' | ⟨-, rfl, -⟩
    · exact hloose.unused u h' hh'
    · exact Nat.ne_of_gt hloose.issued
  · intro c h' hh'
    rcases move.listed_cases hh' with hh' | ⟨-, rfl, -⟩
    · exact hloose.unlisted c h' hh'
    · exact Nat.ne_of_gt hloose.issued

theorem Numbered.move (hnumbered : s.Numbered) (move : s.Move t s') : s'.Numbered := by
  have hle := move.issued_le
  refine ⟨?_, ?_, ?_, ?_, ?_, ?_⟩
  · intro u h hh
    rcases move.handle_cases hh with hh | ⟨rfl, rfl, -⟩
    · exact hnumbered.owner u h hh
    · rfl
  · intro u h hh
    rcases move.handle_cases hh with hh | ⟨rfl, rfl, hlt⟩
    · exact Nat.lt_of_lt_of_le (hnumbered.issued u h hh) hle
    · exact hlt
  -- A new handle has a number that no thread has had before.
  · intro u u' h h' hh hh' hid
    rcases move.handle_cases hh with hh | ⟨rfl, rfl, -⟩
    · rcases move.handle_cases hh' with hh' | ⟨rfl, rfl, -⟩
      · exact hnumbered.distinct u u' h h' hh hh' hid
      · exact absurd hid (Nat.ne_of_lt (hnumbered.issued u h hh))
    · rcases move.handle_cases hh' with hh' | ⟨rfl, rfl, -⟩
      · exact absurd hid.symm (Nat.ne_of_lt (hnumbered.issued u' h' hh'))
      · rfl
  · intro m h hh
    rcases move.waiters_cases hh with hh | ⟨rfl, hlt⟩
    · exact Nat.lt_of_lt_of_le (hnumbered.enlisted m h hh) hle
    · exact hlt
  · intro i hi
    rcases move.destined_cases hi with
      hi | ⟨-, rfl, hlt⟩ | ⟨h, hloose, rfl⟩ | ⟨m, h, hhead, -, rfl⟩
    · exact Nat.lt_of_lt_of_le (hnumbered.destined i hi) hle
    · exact hlt
    · exact Nat.lt_of_lt_of_le hloose.issued hle
    · exact Nat.lt_of_lt_of_le (hnumbered.enlisted m h (List.mem_of_mem_head? hhead)) hle
  -- A plain parking issues a handle, and no handle that was issued before is the new one.
  · intro u h expired hparked
    rcases move.parked_cases hparked with ⟨expired', hparked'⟩ | ⟨rfl, rfl, hlt, hcondvars⟩
    · exact (hnumbered.parked u h expired' hparked').move move
    · refine ⟨hlt, ?_, ?_⟩
      · intro u' h' hh'
        rcases move.handle_cases hh' with hh' | ⟨rfl, -, -⟩
        · exact Nat.ne_of_lt (hnumbered.issued u' h' hh')
        · rw [hparked] at hh'
          cases hh'
      · intro c h' hh'
        rw [hcondvars] at hh'
        exact Nat.ne_of_lt (hnumbered.destined h'.id (.inr (.inl ⟨c, h', hh', rfl⟩)))

end Monitors

end Junction.Sync
