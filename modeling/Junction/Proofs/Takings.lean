import Junction.Proofs.HandOffs
import Junction.Proofs.Enrollment

/-!
# What a thread takes off the value of a mutex

A use of a mutex may begin with a long wait, in which the thread gets the lock, finds that its
condition holds and gives the lock up again, any number of times. It takes something off the value
of the mutex only once, in the step in which the test lets it through, and that is the step in which
it is found out whether the use was in vain. Whoever is told that the time is up has the lock at
that moment, and the condition still holds.

## Main definitions

* `Request.toll` — what a use of a mutex takes off the value that it finds
* `Visit` — how far a thread has come with a use of a mutex, and what it has taken by then

## Main results

* `Monitors.Move.admitted` — a thread comes to an outcome with the lock in its hands
* `Visit.move` — every step keeps what a thread has taken in agreement with its point
-/

namespace Junction.Sync

namespace Request

/-- What a use of a mutex takes off the value that it finds. -/
def toll (r : Request) (value : Int) (timedOut : Bool) : Int := value - r.change timedOut value

theorem toll_expire (r : Request) : r.expire.toll = r.toll := by
  unfold expire
  split <;> rfl

@[simp] theorem expire_expire (r : Request) : r.expire.expire = r.expire := by
  cases hentry : r.entry <;> simp [expire, hentry]

end Request

namespace Point

/-- What came of the thing that a thread has done. -/
def outcome? : Point → Option Outcome
  | idle last => last
  | leaving _ _ outcome | releasing _ _ outcome | waking _ outcome => some outcome
  | _ => none

variable {p p' : Point}

theorem outcome?_of_request {r : Request} (h : p.request? = some r) : p.outcome? = none := by
  cases p <;> first | rfl | cases h

/-- Nobody who has something behind him has a deadline. -/
theorem expired?_of_outcome {outcome : Outcome} (h : p.outcome? = some outcome) :
    p.expired? = none := by
  cases p <;> first | rfl | cases h

end Point

namespace Monitors

variable {s s' : Monitors} {t : ThreadId} {m : Nat} {r : Request}

/-- The value of a mutex. -/
def value (s : Monitors) (m : Nat) : Int := (s.mutexes.get m).value

/-- A thread that is neither between two things to do nor at the test of a condition changes no
value. -/
theorem Move.value_eq (move : s.Move t s') (hbusy : ∀ last, s.point t ≠ .idle last)
    (houtside : ∀ r, s.point t ≠ .inside r) (m : Nat) : s'.value m = s.value m := by
  rcases move.value_cases m with hvalue | ⟨last, hidle⟩ | ⟨r, _, hinside, -⟩
  · exact hvalue
  · exact absurd hidle (hbusy last)
  · exact absurd hinside (houtside r)

/-- A thread comes to an outcome of a use of a mutex at the test of the condition. It has the lock
then, and keeps it at first. -/
theorem Move.admitted (move : s.Move t s') (hr : (s.point t).request? = some r) {outcome : Outcome}
    (houtcome : (s'.point t).outcome? = some outcome) :
    ∃ timedOut, s.point t = .inside r ∧ r.Admits (s.value r.mutex) timedOut ∧
      outcome = .entered (s.value r.mutex) timedOut ∧ s'.Owns t r.mutex ∧
        ∀ m, s.value m - s'.value m =
          if m = r.mutex then r.toll (s.value r.mutex) timedOut else 0 := by
  cases move with
  | keep r' timedOut inside admits keeps =>
    obtain rfl : r' = r := by simpa [inside, Point.request?] using hr
    refine ⟨timedOut, inside, admits, ?_, .inl (by simp), fun m => ?_⟩
    · simpa [Point.outcome?, value, eq_comm] using houtcome
    · simp only [value, mutexes_goTo, mutexes_setGuards, mutexes_setMutex, Table.get_set]
      split
      · next hm => rw [hm, Request.toll, Mutex.withValue]
      · exact Int.sub_self _
  | serve r' timedOut inside admits leaves =>
    obtain rfl : r' = r := by simpa [inside, Point.request?] using hr
    refine ⟨timedOut, inside, admits, ?_, .inr (.inl (by simp [standing, Point.standing])),
      fun m => ?_⟩
    · simpa [Point.outcome?, value, eq_comm] using houtcome
    · simp only [value, mutexes_goTo, mutexes_setMutex, Table.get_set]
      split
      · next hm => rw [hm, Request.toll, Mutex.withValue]
      · exact Int.sub_self _
  | expire p expired =>
    have hrequest := Point.request?_expired expired
    rw [hr, Option.map_some] at hrequest
    simp [Point.outcome?_of_request hrequest] at houtcome
  | nudge | retire =>
    exact absurd (houtcome.symm.trans (Point.outcome?_of_request hr)) (Option.some_ne_none _)
  | _ => simp_all [Point.request?, Point.outcome?]

/-- A thread goes on with a use of a mutex and changes no value, or comes to its outcome. -/
theorem Move.request_next (move : s.Move t s') (hr : (s.point t).request? = some r) :
    (∃ outcome, (s'.point t).outcome? = some outcome) ∨
      ((s'.point t).request? = some r ∨ (s'.point t).request? = some r.expire) ∧
        ∀ m, s'.value m = s.value m := by
  have hbusy : ∀ last, s.point t ≠ .idle last := by
    intro last hidle
    simp [hidle, Point.request?] at hr
  have hvalue := move.value_eq hbusy
  cases move with
  | keep | serve => exact .inl ⟨_, by rw [point_goTo, if_pos rfl, Point.outcome?]⟩
  | expire p expired =>
    refine .inr ⟨.inr ?_, fun _ => rfl⟩
    rw [point_goTo, if_pos rfl, Point.request?_expired expired, hr, Option.map_some]
  | nudge | retire => exact .inr ⟨.inl hr, fun _ => rfl⟩
  | enroll r' c inside =>
    exact .inr ⟨.inl (by simpa [inside, Point.request?] using hr), fun _ => rfl⟩
  | _ => simp_all [Point.request?]

/-- A thread that has come to an outcome keeps it, and changes no value, until the next thing that
it begins. -/
theorem Move.outcome_next (move : s.Move t s') (hbusy : ∀ last, s.point t ≠ .idle last)
    {outcome : Outcome} (houtcome : (s.point t).outcome? = some outcome) :
    (s'.point t).outcome? = some outcome ∧ ∀ m, s'.value m = s.value m := by
  have hvalue := move.value_eq hbusy fun r hinside => by simp [hinside, Point.outcome?] at houtcome
  refine ⟨?_, hvalue⟩
  cases move with
  | expire p expired =>
    rw [Point.expired?_of_outcome houtcome] at expired
    cases expired
  | nudge | retire => exact houtcome
  | _ => simp_all [Point.outcome?]

end Monitors

/-! ### Visits -/

/-- How far a thread has come with a use of a mutex, and what it has taken off the values of the
mutexes since it has begun. -/
inductive Visit (r : Request) (p : Point) (takings : Nat → Int) : Prop
  /-- It has still to be let in, and has taken nothing. -/
  | ahead (r' : Request) (same : r' = r ∨ r' = r.expire) (request : p.request? = some r')
      (none : ∀ m, takings m = 0)
  /-- It was let in, and has taken what it was to take. -/
  | behind (value : Int) (timedOut : Bool) (outcome : p.outcome? = some (.entered value timedOut))
      (all : ∀ m, takings m = if m = r.mutex then r.toll value timedOut else 0)

namespace Visit

open Monitors

variable {s s' : Monitors} {t : ThreadId} {r : Request} {takings : Nat → Int}

/-- Every step keeps what a thread has taken in agreement with its point. -/
theorem move (hvisit : Visit r (s.point t) takings) (move : s.Move t s')
    (hbusy : ∀ last, s.point t ≠ .idle last) :
    Visit r (s'.point t) fun m => takings m + (s.value m - s'.value m) := by
  cases hvisit with
  | ahead r' same request none =>
    -- The one step in which the thread is let in is the one that takes something.
    simp only [none, Int.zero_add]
    rcases move.request_next request with ⟨outcome, houtcome⟩ | ⟨hnext, hvalue⟩
    · obtain ⟨timedOut, -, -, rfl, -, htaken⟩ := move.admitted request houtcome
      refine .behind _ timedOut houtcome fun m => ?_
      rcases same with rfl | rfl
      · exact htaken m
      · rw [htaken, Request.mutex_expire, Request.toll_expire]
    · have hzero (m : Nat) : s.value m - s'.value m = 0 := by rw [hvalue, Int.sub_self]
      rcases hnext with hnext | hnext
      · exact .ahead r' same hnext hzero
      · refine .ahead r'.expire (.inr ?_) hnext hzero
        rcases same with rfl | rfl <;> simp
  | behind value timedOut outcome all =>
    -- Unlocking and waking take nothing more.
    obtain ⟨houtcome, hvalue⟩ := move.outcome_next hbusy outcome
    refine .behind value timedOut houtcome fun m => ?_
    rw [hvalue, Int.sub_self, Int.add_zero, all]

end Visit

end Junction.Sync
