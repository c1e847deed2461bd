import Junction.Proofs.Enrollment
import Junction.Proofs.PublishedStates

/-!
# Monitors on the host

A step of monitors unparks a handle at one stroke, and a thread that is parked there goes on at one
stroke too. On the host both take several steps. Every step of monitors is nevertheless a run of the
host, one in which nobody steps in between, and so all that is known of the host is known of
monitors: its tokens and its published states are theirs.

On the host each handle is unparked once. Monitors keep to that since a handle has one place: it is
among the waiters of a mutex, on the list of a condition variable, or with the thread that has to
unpark it.

## Main definitions

* `Monitors.Gist` — what the host sees of a step of monitors
* `Host.Mirrors` — the threads of a host stand where those of monitors do

## Main results

* `Monitors.gist_of_step`, `Monitors.gist_of_start` — every step is of one of five kinds
* `Host.Mirrors.exists_after` — every step of monitors is a run of the host
-/

namespace Junction.Sync

open Host (Stay)

/-! ### Steps of monitors, seen from the host -/

/-- Whether the deadline of a request has passed, if it has one. -/
def Request.deadline? (r : Request) : Option Bool :=
  match r.entry with
  | .whileHoldsUntil _ _ expired => some expired
  | _ => none

theorem Request.deadline?_of_waitOf {r : Request} {c : Nat}
    (h : Monitors.waitOf r = some (c, true)) : r.deadline? = some true := by
  unfold Monitors.waitOf at h
  unfold deadline?
  split at h <;> simp_all

theorem Request.deadline?_of_waits {r : Request} {value : Int} {c : Nat} (h : r.Waits value c) :
    r.deadline? ≠ some true := by
  unfold Waits at h
  unfold deadline?
  split at h <;> simp_all

theorem Request.deadline?_expire (r : Request) :
    r.expire.deadline? = r.deadline?.map fun _ => true := by
  cases hentry : r.entry <;> simp [expire, deadline?, hentry]

namespace Point

/-- The parking of a thread at a point, if it parks there. A thread that has put its handle onto a
list parks, though it has still to give up the mutex. -/
def stay? : Point → Option Stay
  | queued _ h => some ⟨h, none⟩
  | enrolled r h | yielding r h _ | asleep r h => some ⟨h, r.deadline?⟩
  | parked h expired => some ⟨h, expired⟩
  | _ => none

/-- A deadline leaves a thread where it parks, or lets its parking expire. -/
theorem stay?_expired {p p' : Point} (h : p.expired? = some p') :
    p'.stay? = p.stay? ∨ ∃ stay, p.stay? = some stay ∧ stay.expired.isSome = true ∧
      p'.stay? = some { stay with expired := some true } := by
  cases p with
  | enrolled r handle | yielding r handle next | asleep r handle =>
    cases h
    cases hdeadline : r.deadline? with
    | none => simp [stay?, Request.deadline?_expire, hdeadline]
    | some expired => exact .inr ⟨_, rfl, by simp [hdeadline], by
        simp [stay?, Request.deadline?_expire, hdeadline]⟩
  | parked handle expired =>
    cases expired with
    | none => cases h
    | some expired =>
      cases h
      exact .inr ⟨_, rfl, rfl, rfl⟩
  | _ => cases h <;> exact .inl rfl

end Point

namespace Monitors

variable {s s' : Monitors} {t u : ThreadId} {h : ParkHandle}

/-- What the host sees of a step of monitors. -/
inductive Gist (s : Monitors) (t : ThreadId) (s' : Monitors) : Prop
  /-- Nothing: the thread parks if it has parked, and may have taken handles to unpark, from the
  head of the waiters of a mutex or from the list of a condition variable. -/
  | quiet (taken : List ParkHandle) (parking : s'.parking = s.parking)
      (stay : (s'.point t).stay? = (s.point t).stay?)
      (wakes : (s'.point t).wakes = taken ++ (s.point t).wakes)
      (source : (∃ m, taken.Sublist (s.waiters m)) ∨ ∃ c, taken.Sublist (s.condvars.get c))
  /-- The deadline of a parking passes. -/
  | expire (stay : Stay) (parking : s'.parking = s.parking)
      (parks : (s.point t).stay? = some stay) (timed : stay.expired.isSome = true)
      (late : (s'.point t).stay? = some { stay with expired := some true })
      (wakes : (s'.point t).wakes = (s.point t).wakes)
  /-- The thread parks with a new handle. -/
  | park (expired : Option Bool) (early : expired ≠ some true)
      (parking : s'.parking = (s.parking.issue t).1) (awake : (s.point t).stay? = none)
      (parks : (s'.point t).stay? = some ⟨(s.parking.issue t).2, expired⟩)
      (wakes : (s'.point t).wakes = (s.point t).wakes)
  /-- The thread unparks a handle that it had to unpark. -/
  | unpark (h : ParkHandle) (parking : s'.parking = s.parking.unpark h)
      (stay : (s'.point t).stay? = (s.point t).stay?)
      (wakes : (s.point t).wakes = h :: (s'.point t).wakes)
  /-- The thread goes on after a parking. -/
  | resume (stay : Stay) (parking : s'.parking = s.parking.resume t)
      (parks : (s.point t).stay? = some stay)
      (ready : s.parking.isUnparked stay.handle = true ∨ stay.expired = some true)
      (awake : (s'.point t).stay? = none) (wakes : (s'.point t).wakes = (s.point t).wakes)

theorem head_sublist (handles : List ParkHandle) : handles.head?.toList.Sublist handles := by
  rw [← List.take_one]
  exact List.take_sublist 1 handles

/-- A step in which the host sees nothing, and no handle is taken. -/
theorem Gist.still (parking : s'.parking = s.parking)
    (stay : (s'.point t).stay? = (s.point t).stay?)
    (wakes : (s'.point t).wakes = (s.point t).wakes) : s.Gist t s' :=
  .quiet [] parking stay wakes (.inl ⟨0, List.nil_sublist _⟩)

theorem gist_of_expired {p : Point} (expired : (s.point t).expired? = some p) :
    s.Gist t (s.goTo t p) := by
  have hpoint : (s.goTo t p).point t = p := by simp
  rcases Point.stay?_expired expired with hstay | ⟨stay, hparks, htimed, hlate⟩
  · exact .still rfl (by rw [hpoint, hstay]) (by rw [hpoint, Point.wakes_expired expired])
  · exact .expire stay rfl hparks htimed (by rw [hpoint, hlate])
      (by rw [hpoint, Point.wakes_expired expired])

/-- What the host sees of a step that begins nothing. -/
theorem Move.gist (move : s.Move t s') (hbusy : ∀ last, s.point t ≠ .idle last)
    (hmoved : s'.point t ≠ s.point t) : s.Gist t s' := by
  cases move with
  | request _ idle | refused _ idle | seize _ idle | amend _ _ idle | leave _ _ idle
  | park _ idle | unpark _ idle => exact absurd idle (hbusy _)
  | nudge | retire => exact absurd rfl hmoved
  | take | keep | serve | sleep | withdraw | retry | unlock | finish =>
    refine .still rfl ?_ ?_
    · simp_all [Point.stay?]
    · simp_all [Point.wakes]
  | join r entering =>
    exact .park none (by simp) rfl (by rw [entering]; rfl) (by simp [Point.stay?])
      (by simp [entering, Point.wakes])
  | enroll r c inside waits =>
    exact .park r.deadline? (Request.deadline?_of_waits waits) rfl (by rw [inside]; rfl)
      (by simp [Point.stay?]) (by simp [inside, Point.wakes])
  | inherit r h queued unparked =>
    exact .resume ⟨h, none⟩ rfl (by rw [queued]; rfl) (.inl unparked) (by simp [Point.stay?])
      (by simp [queued, Point.wakes])
  | rouse r h asleep unparked =>
    exact .resume ⟨h, r.deadline?⟩ rfl (by rw [asleep]; rfl) (.inl unparked) (by simp [Point.stay?])
      (by simp [asleep, Point.wakes])
  | tire r h c asleep waiting expired =>
    exact .resume ⟨h, r.deadline?⟩ rfl (by rw [asleep]; rfl)
      (.inr (Request.deadline?_of_waitOf expired)) (by simp [Point.stay?])
      (by simp [asleep, Point.wakes])
  | resume h expired parked unparked =>
    exact .resume ⟨h, expired⟩ rfl (by rw [parked]; rfl) (.inl unparked) (by simp [Point.stay?])
      (by simp [parked, Point.wakes])
  | oversleep h parked waiting =>
    exact .resume ⟨h, some true⟩ rfl (by rw [parked]; rfl) (.inr rfl) (by simp [Point.stay?])
      (by simp [parked, Point.wakes])
  | yield r h enrolled =>
    refine .quiet (s.waiters r.mutex).head?.toList rfl (by simp [enrolled, Point.stay?]) ?_
      (.inl ⟨r.mutex, head_sublist _⟩)
    simp [enrolled, Point.wakes, Mutex.release_snd, waiters]
  | release m woken outcome releasing =>
    refine .quiet (s.waiters m).head?.toList rfl (by simp [releasing, Point.stay?]) ?_
      (.inl ⟨m, head_sublist _⟩)
    simp [releasing, Point.wakes, Mutex.release_snd, waiters]
  | signal m c outcome leaving =>
    exact .quiet (s.condvars.get c).head?.toList rfl (by simp [leaving, Point.stay?])
      (by simp [leaving, Point.wakes]) (.inr ⟨c, head_sublist _⟩)
  | broadcast m c outcome leaving =>
    exact .quiet (s.condvars.get c) rfl (by simp [leaving, Point.stay?])
      (by simp [leaving, Point.wakes]) (.inr ⟨c, .refl _⟩)
  | handOver r h next yielding =>
    exact .unpark next rfl (by simp [yielding, Point.stay?]) (by simp [yielding, Point.wakes])
  | wake h rest outcome waking =>
    exact .unpark h rfl (by simp [waking, Point.stay?]) (by simp [waking, Point.wakes])
  | expire p expired => exact gist_of_expired expired

/-- Whatever the test of a condition has found, the thread is past it. -/
theorem point_admitted_ne (r : Request) : (s.admitted t r).point t ≠ .inside r := by
  have hserve (timedOut : Bool) : (s.serve t r timedOut).point t ≠ .inside r := by
    unfold serve
    dsimp only
    split <;> simp
  unfold admitted
  dsimp only
  split
  · exact hserve false
  · split
    · simp [enroll]
    · exact hserve false
  · split
    · split
      · exact hserve true
      · simp [enroll]
    · exact hserve false

/-- A thread that goes on comes to another point. -/
theorem point_ne_of_step (h : s.step? t = some s') : s'.point t ≠ s.point t := by
  unfold step? at h
  split at h
  · cases h
  · next r hpoint =>
    rw [hpoint]
    split at h <;> cases h <;> simp
  · next r handle hpoint =>
    rw [hpoint]
    split at h <;> cases h
    simp
  · next r hpoint =>
    cases h
    rw [hpoint]
    exact point_admitted_ne r
  all_goals
    next hpoint =>
    rw [hpoint]
    (repeat' split at h) <;> cases h <;> simp

/-- Every step of a thread that goes on is of one of five kinds. -/
theorem gist_of_step (h : s.step? t = some s') : s.Gist t s' :=
  (move_of_step h).gist (not_idle_of_step h) (point_ne_of_step h)

/-- So is every thing that a thread begins, unless it unparks a loose handle. -/
theorem gist_of_start {act : Act} (h : s.start? t act = some s')
    (hact : ∀ handle, act ≠ .unpark handle) : s.Gist t s' := by
  unfold start? at h
  split at h
  · next last hidle =>
    cases act with
    | unpark handle => exact absurd rfl (hact handle)
    | request | amend | leave =>
      dsimp only at h
      (repeat' split at h) <;> cases h
      exact .still rfl (by simp [hidle, Point.stay?]) (by simp [hidle, Point.wakes])
    | tryLock m =>
      dsimp only at h
      split at h <;> cases h <;>
        exact .still rfl (by simp [hidle, Point.stay?]) (by simp [hidle, Point.wakes])
    | park timed =>
      cases h
      exact .park (if timed then some false else none) (by split <;> simp) rfl (by rw [hidle]; rfl)
        (by simp [Point.stay?]) (by simp [hidle, Point.wakes])
  · cases h

/-- A handle is among the waiters of a mutex, on the list of a condition variable, or with a thread
that has to unpark it. -/
def IsPlaced (s : Monitors) (h : ParkHandle) : Prop :=
  (∃ u, h ∈ (s.point u).wakes) ∨ (∃ m, h ∈ s.waiters m) ∨ ∃ c, h ∈ s.condvars.get c

/-- A thread that has a handle to unpark has had it before, or has found it at its place. -/
theorem Gist.wakes_cases (gist : s.Gist t s') (move : s.Move t s')
    (hh : h ∈ (s'.point u).wakes) :
    h ∈ (s.point u).wakes ∨ (∃ m, h ∈ s.waiters m) ∨ ∃ c, h ∈ s.condvars.get c := by
  by_cases hu : u = t
  · subst hu
    cases gist with
    | quiet taken parking stay wakes source =>
      rw [wakes, List.mem_append] at hh
      rcases hh with hh | hh
      · rcases source with ⟨m, hsub⟩ | ⟨c, hsub⟩
        · exact .inr (.inl ⟨m, hsub.subset hh⟩)
        · exact .inr (.inr ⟨c, hsub.subset hh⟩)
      · exact .inl hh
    | expire _ _ _ _ _ wakes | park _ _ _ _ _ wakes | resume _ _ _ _ _ wakes =>
      exact .inl (wakes ▸ hh)
    | unpark h' _ _ wakes =>
      rw [wakes]
      exact .inl (List.mem_cons_of_mem h' hh)
  · rw [move.point_other hu] at hh
    exact .inl hh

/-- A handle that has a place has had one before, or is new. -/
theorem Gist.placed_cases (gist : s.Gist t s') (move : s.Move t s') (hplaced : s'.IsPlaced h) :
    s.IsPlaced h ∨ h = ⟨s.parking.issued, t⟩ ∧ s.parking.issued < s'.parking.issued := by
  rcases hplaced with ⟨u, hh⟩ | ⟨m, hh⟩ | ⟨c, hh⟩
  · exact .inl ((gist.wakes_cases move hh).imp_left fun hh => ⟨u, hh⟩)
  · exact (move.waiters_cases hh).imp_left fun hh => .inr (.inl ⟨m, hh⟩)
  · rcases move.listed_cases hh with hh | ⟨-, hnew⟩
    · exact .inl (.inr (.inr ⟨c, hh⟩))
    · exact .inr hnew

/-- A loose handle that nobody has unparked, nor has to, stays so. -/
theorem Gist.not_isCalled (gist : s.Gist t s') (move : s.Move t s') (hfair : s.Fair)
    (hloose : s.IsLoose h) (hcalled : ¬ s.IsCalled h.id) : ¬ s'.IsCalled h.id := by
  rintro (htoken | ⟨u, h', hh', hid⟩)
  · cases gist with
    | unpark h' parking stay wakes =>
      rw [parking, Parking.tokens_unpark, Table.get_set] at htoken
      split at htoken
      · next hid => exact hcalled (.inr ⟨t, h', wakes ▸ List.mem_cons_self, hid.symm⟩)
      · exact hcalled (.inl htoken)
    | quiet _ parking | expire _ parking | park _ _ parking | resume _ parking =>
      rw [parking] at htoken
      exact hcalled (.inl htoken)
  · rcases gist.wakes_cases move hh' with hh' | ⟨m, hh'⟩ | ⟨c, hh'⟩
    · exact hcalled (.inr ⟨u, h', hh', hid⟩)
    · exact hloose.unused _ h' (Point.handle?_of_waiting (hfair.waits m h' hh')) hid
    · exact hloose.unlisted c h' hh' hid

/-- No two threads have the same handle to unpark, and none has it twice. -/
structure Single (s : Monitors) : Prop where
  /-- No thread has a handle to unpark twice. -/
  nodup : ∀ t, (s.point t).wakes.Nodup
  /-- No two threads have the same handle to unpark. -/
  apart : ∀ t u, t ≠ u → ∀ h ∈ (s.point t).wakes, h ∉ (s.point u).wakes

theorem Single.next (hsingle : s.Single) (hother : ∀ u, u ≠ t → s'.point u = s.point u)
    (hnodup : (s'.point t).wakes.Nodup)
    (hwakes : ∀ h ∈ (s'.point t).wakes, h ∈ (s.point t).wakes ∨ ∀ u, h ∉ (s.point u).wakes) :
    s'.Single := by
  have hapart (u : ThreadId) (hu : u ≠ t) (h : ParkHandle) (hh : h ∈ (s'.point t).wakes) :
      h ∉ (s'.point u).wakes := by
    rw [hother u hu]
    rcases hwakes h hh with hh | hnew
    · exact hsingle.apart t u hu.symm h hh
    · exact hnew u
  constructor
  case nodup =>
    intro u
    by_cases hu : u = t
    · exact hu ▸ hnodup
    · rw [hother u hu]
      exact hsingle.nodup u
  case apart =>
    intro u v huv h hh hh'
    by_cases hu : u = t
    · subst hu
      exact hapart v huv.symm h hh hh'
    · by_cases hv : v = t
      · subst hv
        exact hapart u huv h hh' hh
      · rw [hother u hu] at hh
        rw [hother v hv] at hh'
        exact hsingle.apart u v huv h hh hh'

/-- Nobody has unparked the handles that a thread takes from their place, nor has to. -/
theorem not_isCalled_of_taken (hfair : s.Fair) (hlisted : s.Listed) {taken : List ParkHandle}
    (source : (∃ m, taken.Sublist (s.waiters m)) ∨ ∃ c, taken.Sublist (s.condvars.get c))
    (hh : h ∈ taken) : ¬ s.IsCalled h.id := by
  rcases source with ⟨m, hsub⟩ | ⟨c, hsub⟩
  · intro hcalled
    refine hfair.silent m h (hsub.subset hh) ?_
    rcases hcalled with htoken | hwakes
    · exact .inl htoken
    · exact .inr (.inr hwakes)
  · exact hlisted.quiet c h (hsub.subset hh)

theorem nodup_of_taken (hfair : s.Fair) (hlisted : s.Listed) {taken : List ParkHandle}
    (source : (∃ m, taken.Sublist (s.waiters m)) ∨ ∃ c, taken.Sublist (s.condvars.get c)) :
    taken.Nodup := by
  rcases source with ⟨m, hsub⟩ | ⟨c, hsub⟩
  · exact hsub.nodup (hfair.nodup m)
  · exact hsub.nodup (hlisted.nodup c)

theorem Single.gist (hsingle : s.Single) (hfair : s.Fair) (hlisted : s.Listed)
    (move : s.Move t s') (gist : s.Gist t s') : s'.Single := by
  cases gist with
  | quiet taken parking stay wakes source =>
    -- Nobody has a handle to unpark that is still at its place.
    have hcalled (h : ParkHandle) (hh : h ∈ taken) (u : ThreadId) : h ∉ (s.point u).wakes :=
      fun hh' => not_isCalled_of_taken hfair hlisted source hh (.inr ⟨u, h, hh', rfl⟩)
    refine hsingle.next (fun _ => move.point_other) ?_ fun h hh => ?_
    · rw [wakes, List.nodup_append]
      refine ⟨nodup_of_taken hfair hlisted source, hsingle.nodup t, fun h hh h' hh' heq => ?_⟩
      exact hcalled h hh t (heq ▸ hh')
    · rw [wakes, List.mem_append] at hh
      exact hh.symm.imp_right (hcalled h)
  | expire _ _ _ _ _ wakes | park _ _ _ _ _ wakes | resume _ _ _ _ _ wakes =>
    refine hsingle.next (fun _ => move.point_other) (wakes ▸ hsingle.nodup t) fun h hh => ?_
    exact .inl (wakes ▸ hh)
  | unpark h _ _ wakes =>
    have hnodup := hsingle.nodup t
    rw [wakes] at hnodup
    refine hsingle.next (fun _ => move.point_other) hnodup.of_cons fun h' hh' => .inl ?_
    rw [wakes]
    exact List.mem_cons_of_mem h hh'

end Monitors

/-! ### Runs of the host -/

namespace Host

variable {s s' : Host} {t u : ThreadId} {h : ParkHandle} {p : Stay}

theorem act_of_step {action : Action} (hstep : s.step? action = some s') : s.act action = s' := by
  rw [act, hstep, Option.getD_some]

/-- One thread comes to another point, and tokens and published states change. The handles are what
they were. -/
structure Turns (s : Host) (t : ThreadId) (q : Point) (parking : Parking) (s' : Host) : Prop where
  /-- The tokens and the published states. -/
  parking : s'.parking = parking
  /-- No handle is issued. -/
  handles : s'.handles = s.handles
  /-- No handle is unparked. -/
  call : ∀ h, s'.call h = s.call h
  /-- The thread comes to the point. -/
  point : ∀ u, s'.point u = if u = t then q else s.point u

theorem act_goTo {action : Action} {q : Point} (hstep : s.step? action = some (s.goTo t q)) :
    s.Turns t q s.parking (s.act action) := by
  rw [act_of_step hstep]
  exact ⟨rfl, rfl, fun _ => rfl, fun u => s.point_goTo t u q⟩

theorem Turns.trans {s'' : Host} {q q' : Point} {parking parking' : Parking}
    (turns : s.Turns t q parking s') (turns' : s'.Turns t q' parking' s'') :
    s.Turns t q' parking' s'' := by
  refine ⟨turns'.parking, turns'.handles.trans turns.handles,
    fun h => (turns'.call h).trans (turns.call h), fun u => ?_⟩
  rw [turns'.point, turns.point]
  split <;> rfl

theorem Turns.point_self {q : Point} {parking : Parking} (turns : s.Turns t q parking s') :
    s'.point t = q := by
  rw [turns.point, if_pos rfl]

/-- A thread that is about to go on does so. -/
theorem turns_leave {woken : Bool} (hpoint : s.point t = .parked (.leaving woken) p) :
    s.Turns t (.running (some (p, woken))) (s.parking.resume t) (s.act (.go t)) := by
  have hleave : s.act (.go t) =
      (s.withParking (s.parking.resume t)).goTo t (.running (some (p, woken))) :=
    act_of_step (by simp [step?, go?, hpoint])
  rw [hleave]
  exact ⟨rfl, rfl, fun _ => rfl, fun u => point_goTo _ t u _⟩

/-- A parked thread goes on if its token is set, or after its deadline. -/
theorem exists_turns_resume (hpoint : s.point t = .parked .looking p)
    (hover : s.parking.isUnparked p.handle = true ∨ p.expired = some true) :
    ∃ actions woken, s.Turns t (.running (some (p, woken))) (s.parking.resume t)
      (s.after actions) := by
  cases hunparked : s.parking.isUnparked p.handle with
  | true =>
    have hear : s.Turns t (.parked (.leaving true) p) s.parking (s.act (.go t)) :=
      act_goTo (by simp [step?, go?, hpoint, hunparked])
    have hleave := turns_leave hear.point_self
    rw [hear.parking] at hleave
    exact ⟨[.go t, .go t], true, hear.trans hleave⟩
  | false =>
    have hexpired := hover.resolve_left (by simp [hunparked])
    have miss : s.Turns t (.parked .missed p) s.parking (s.act (.go t)) :=
      act_goTo (by simp [step?, go?, hpoint, hunparked])
    have tire : (s.act (.go t)).Turns t (.parked (.leaving false) p) (s.act (.go t)).parking
        (s.after [.go t, .go t]) :=
      act_goTo (by simp [step?, go?, miss.point_self, hexpired])
    have hleave := turns_leave tire.point_self
    rw [tire.parking, miss.parking] at hleave
    rw [miss.parking] at tire
    exact ⟨[.go t, .go t, .go t], false, (miss.trans tire).trans hleave⟩

theorem turns_expire (hpoint : s.point t = .parked .looking p) (htimed : p.expired.isSome = true) :
    s.Turns t (.parked .looking { p with expired := some true }) s.parking
      (s.after [.expire t]) := by
  obtain ⟨expired, hexpired⟩ := Option.isSome_iff_exists.1 htimed
  exact act_goTo (by simp [step?, expire?, hpoint, Point.expired?, hexpired])

theorem turns_finish {last : Option (Stay × Bool)} (hpoint : s.point t = .running last) :
    s.Turns t .ended (s.parking.finish t) (s.after [.finish t]) := by
  have hfinish : s.after [.finish t] = (s.withParking (s.parking.finish t)).goTo t .ended :=
    act_of_step (by simp [step?, finish?, hpoint])
  rw [hfinish]
  exact ⟨rfl, rfl, fun _ => rfl, fun u => point_goTo _ t u _⟩

theorem after_park {last : Option (Stay × Bool)} (hpoint : s.point t = .running last)
    {expired : Option Bool} (hearly : expired ≠ some true) :
    s.after [.park t expired.isSome] =
      (s.issueFor t).goTo t (.parked .looking ⟨(s.parking.issue t).2, expired⟩) := by
  refine act_of_step ?_
  rcases expired with _ | _ | _
  · simp [step?, park?, hpoint]
  · simp [step?, park?, hpoint]
  · exact absurd rfl hearly

/-- Somebody unparks a handle, and nobody steps in. -/
def unparking (h : ParkHandle) : List Action :=
  [.unpark h, .carryOn h, .carryOn h, .carryOn h]

/-- All sections of an unparking without a gap come to what monitors do at one stroke. -/
structure Unparks (s : Host) (h : ParkHandle) (s' : Host) : Prop where
  /-- The token is set, and the owner does not count as parked. -/
  parking : s'.parking = s.parking.unpark h
  /-- No handle is issued. -/
  handles : s'.handles = s.handles
  /-- The handle is unparked, and no other one. -/
  call : ∀ h', s'.call h' = if h'.id = h.id then .done else s.call h'
  /-- All threads are where they were. -/
  point : ∀ t, s'.point t = s.point t

theorem unparks_unparking (hissued : h ∈ s.handles) (huntouched : s.call h = .untouched) :
    s.Unparks h (s.after (unparking h)) := by
  have heq : s.after (unparking h) =
      (((((s.setCall h .begun).withParking (s.parking.ready h)).setCall h .readied).withParking
        (s.parking.unpark h)).setCall h .stored |>.setPermit h.owner true).setCall h .done := by
    simp [unparking, after, act, step?, unpark?, carryOn?, hissued, huntouched, unpark_eq]
  rw [heq]
  refine ⟨rfl, rfl, fun h' => ?_, fun _ => rfl⟩
  simp only [call_setCall, call_setPermit, call_withParking]
  split <;> rfl

/-- A thread stands where it does on the host if it parks, or if it does not. -/
def Point.Fits (q : Point) : Option Stay → Prop
  | some p => q = .parked .looking p
  | none => ∃ last, q = .running last

/-- Nobody is amid the unparking of a handle. The threads of the host that are live stand where
those of the monitors do, and the host knows all handles of the monitors. -/
structure Mirrors (s : Host) (live : ThreadId → Prop) (x : Monitors) : Prop where
  /-- The host is sound. -/
  sound : s.Sound
  /-- The tokens and the published states are the same. -/
  parking : s.parking = x.parking
  /-- Each handle is unparked to the end, or not at all. -/
  settled : ∀ h, s.call h = .untouched ∨ s.call h = .done
  /-- A live thread parks on the host if and only if it does so in the monitors. -/
  points : ∀ t, live t → (s.point t).Fits (x.point t).stay?
  /-- A handle that has a place was issued. -/
  placed : ∀ h, x.IsPlaced h → h ∈ s.handles
  /-- Nobody shares the handles that he has to unpark. -/
  single : x.Single
  /-- Nobody has to unpark a handle again. -/
  unset : ∀ t, ∀ h ∈ (x.point t).wakes, x.parking.isUnparked h = false

namespace Mirrors

variable {live : ThreadId → Prop} {x x' : Monitors}

theorem untouched (hmirrors : s.Mirrors live x) (hunset : x.parking.isUnparked h = false) :
    s.call h = .untouched := by
  refine (hmirrors.settled h).resolve_right fun hdone => ?_
  have hset := (hmirrors.sound.token_iff h).2 (.inr hdone)
  rw [hmirrors.parking, hunset] at hset
  cases hset

/-- A handle is unparked that nobody has to unpark from now on. -/
theorem of_unparks (hmirrors : s.Mirrors live x) (hissued : h ∈ s.handles)
    (hunset : x.parking.isUnparked h = false) (hparking : x'.parking = x.parking.unpark h)
    (hstay : ∀ u, (x'.point u).stay? = (x.point u).stay?)
    (hplaced : ∀ h', x'.IsPlaced h' → x.IsPlaced h') (hsingle : x'.Single)
    (hwakes : ∀ u, ∀ h' ∈ (x'.point u).wakes, h' ∈ (x.point u).wakes ∧ h' ≠ h) :
    (s.after (unparking h)).Mirrors live x' := by
  -- No section has run of the unparking, since the token is not set.
  have unparks := unparks_unparking hissued (hmirrors.untouched hunset)
  constructor
  case sound => exact hmirrors.sound.after (unparking h)
  case parking => rw [unparks.parking, hparking, hmirrors.parking]
  case settled =>
    intro h'
    rw [unparks.call]
    split
    · exact .inr rfl
    · exact hmirrors.settled h'
  case points =>
    intro u hlive
    rw [unparks.point, hstay]
    exact hmirrors.points u hlive
  case placed =>
    intro h' hh'
    rw [unparks.handles]
    exact hmirrors.placed h' (hplaced h' hh')
  case single => exact hsingle
  case unset =>
    intro u h' hh'
    obtain ⟨hold, hne⟩ := hwakes u h' hh'
    have hid : h'.id ≠ h.id := fun hid =>
      hne (hmirrors.sound.distinct (hmirrors.placed h' (.inl ⟨u, hold⟩)) hissued hid)
    rw [hparking, Parking.isUnparked_unpark, if_neg hid]
    exact hmirrors.unset u h' hold

section Steps

variable (hmirrors : s.Mirrors live x) (hfair : x.Fair) (hlisted : x.Listed)
  (move : x.Move t x') (gist : x.Gist t x')

include hmirrors hfair hlisted move gist

/-- As long as no token is set, nobody gets a handle to unpark whose token is set. -/
theorem unset_of_tokens (htokens : x'.parking.tokens = x.parking.tokens) (u : ThreadId)
    (hh : h ∈ (x'.point u).wakes) : x'.parking.isUnparked h = false := by
  rw [Parking.isUnparked, htokens]
  by_cases hu : u = t
  · subst hu
    cases gist with
    | quiet taken _ _ wakes source =>
      rw [wakes, List.mem_append] at hh
      rcases hh with hh | hh
      -- Whoever is still at his place was not unparked.
      · have hcalled := Monitors.not_isCalled_of_taken hfair hlisted source hh
        exact Bool.eq_false_iff.2 fun hset => hcalled (.inl hset)
      · exact hmirrors.unset u h hh
    | expire _ _ _ _ _ wakes | park _ _ _ _ _ wakes | resume _ _ _ _ _ wakes =>
      exact hmirrors.unset u h (wakes ▸ hh)
    | unpark h' _ _ wakes =>
      refine hmirrors.unset u h ?_
      rw [wakes]
      exact List.mem_cons_of_mem h' hh
  · rw [move.point_other hu] at hh
    exact hmirrors.unset u h hh

/-- A thread comes to a point of the host, and no handle is issued or unparked. -/
theorem of_turns {actions : List Action} {q : Point}
    (turns : s.Turns t q x'.parking (s.after actions))
    (hfits : live t → q.Fits (x'.point t).stay?)
    (hissued : x'.parking.issued = x.parking.issued)
    (htokens : x'.parking.tokens = x.parking.tokens) : (s.after actions).Mirrors live x' where
  sound := hmirrors.sound.after actions
  parking := turns.parking
  settled h := by
    rw [turns.call]
    exact hmirrors.settled h
  points u hlive := by
    rw [turns.point]
    split
    · next hu => exact hu ▸ hfits (hu ▸ hlive)
    · next hu =>
      rw [move.point_other hu]
      exact hmirrors.points u hlive
  placed h hplaced := by
    rw [turns.handles]
    refine hmirrors.placed h ((gist.placed_cases move hplaced).resolve_right fun ⟨_, hlt⟩ => ?_)
    exact Nat.ne_of_lt hlt hissued.symm
  single := hmirrors.single.gist hfair hlisted move gist
  unset u _ hh := unset_of_tokens hmirrors hfair hlisted move gist htokens u hh

/-- A thread parks with a new handle. -/
theorem of_park {last : Option (Stay × Bool)} {expired : Option Bool}
    (hrunning : s.point t = .running last) (hearly : expired ≠ some true)
    (hparking : x'.parking = (x.parking.issue t).1)
    (hparks : (x'.point t).stay? = some ⟨(x.parking.issue t).2, expired⟩) :
    (s.after [.park t expired.isSome]).Mirrors live x' := by
  have hsound := hmirrors.sound.after [.park t expired.isSome]
  rw [after_park hrunning hearly] at hsound ⊢
  constructor
  case sound => exact hsound
  case parking => rw [parking_goTo, parking_issueFor, hparking, hmirrors.parking]
  case settled => exact hmirrors.settled
  case points =>
    intro u hlive
    rw [point_goTo, point_issueFor]
    split
    · next hu => rw [hu, hparks, hmirrors.parking, Point.Fits]
    · next hu =>
      rw [move.point_other hu]
      exact hmirrors.points u hlive
  case placed =>
    intro h hplaced
    rw [handles_goTo, handles_issueFor, List.mem_append, hmirrors.parking]
    exact (gist.placed_cases move hplaced).imp (hmirrors.placed h) fun hnew => by simp [hnew.1]
  case single => exact hmirrors.single.gist hfair hlisted move gist
  case unset =>
    intro u h hh
    exact hmirrors.unset_of_tokens hfair hlisted move gist (by rw [hparking]; rfl) u hh

/-- A thread unparks a handle that it had to unpark. -/
theorem of_unpark (hparking : x'.parking = x.parking.unpark h)
    (hstay : (x'.point t).stay? = (x.point t).stay?)
    (hwakes : (x.point t).wakes = h :: (x'.point t).wakes) :
    (s.after (unparking h)).Mirrors live x' := by
  have hmem : h ∈ (x.point t).wakes := hwakes ▸ List.mem_cons_self
  have hnodup := hmirrors.single.nodup t
  refine hmirrors.of_unparks (hmirrors.placed h (.inl ⟨t, hmem⟩)) (hmirrors.unset t h hmem)
    hparking (fun u => ?_) (fun h' hplaced => ?_) (hmirrors.single.gist hfair hlisted move gist)
    fun u h' hh' => ?_
  · by_cases hu : u = t
    · rw [hu, hstay]
    · rw [move.point_other hu]
  · refine (gist.placed_cases move hplaced).resolve_right fun ⟨_, hlt⟩ => ?_
    rw [hparking, Parking.issued_unpark] at hlt
    exact Nat.lt_irrefl _ hlt
  · by_cases hu : u = t
    · subst hu
      rw [hwakes] at hnodup ⊢
      exact ⟨List.mem_cons_of_mem h hh', fun heq => hnodup.notMem (heq ▸ hh')⟩
    · rw [move.point_other hu] at hh'
      exact ⟨hh', fun heq => hmirrors.single.apart t u (Ne.symm hu) h hmem (heq ▸ hh')⟩

/-- Every step of monitors is a run of the host. -/
theorem exists_after (hlive : live t) : ∃ actions, (s.after actions).Mirrors live x' := by
  have hpoint := hmirrors.points t hlive
  have hof {actions : List Action} {q : Point}
      (turns : s.Turns t q x'.parking (s.after actions)) :=
    hmirrors.of_turns hfair hlisted move gist turns
  -- A short run for each kind. Only the last two kinds change handles or tokens.
  have kind := gist
  cases kind with
  | quiet taken parking stay wakes source =>
    have turns : s.Turns t (s.point t) x'.parking (s.after []) :=
      ⟨hmirrors.parking.trans parking.symm, rfl, fun _ => rfl, fun u => by
        split
        · next hu => exact hu ▸ rfl
        · rfl⟩
    exact ⟨[], hof turns (fun _ => stay ▸ hpoint) (by rw [parking]) (by rw [parking])⟩
  | expire stay parking parks timed late wakes =>
    rw [parks] at hpoint
    have turns := turns_expire hpoint timed
    rw [hmirrors.parking, ← parking] at turns
    exact ⟨_, hof turns (fun _ => by rw [late]; rfl) (by rw [parking]) (by rw [parking])⟩
  | resume stay parking parks ready awake wakes =>
    rw [parks] at hpoint
    obtain ⟨actions, woken, turns⟩ := exists_turns_resume hpoint (hmirrors.parking ▸ ready)
    rw [hmirrors.parking, ← parking] at turns
    refine ⟨actions, hof turns (fun _ => ?_) (by rw [parking]; rfl) (by rw [parking]; rfl)⟩
    rw [awake]
    exact ⟨_, rfl⟩
  | park expired early parking awake parks wakes =>
    rw [awake] at hpoint
    obtain ⟨last, hrunning⟩ := hpoint
    exact ⟨_, hmirrors.of_park hfair hlisted move gist hrunning early parking parks⟩
  | unpark h parking stay wakes =>
    exact ⟨_, hmirrors.of_unpark hfair hlisted move gist parking stay wakes⟩

end Steps

theorem mono {live' : ThreadId → Prop} (hmirrors : s.Mirrors live x)
    (hlive : ∀ t, live' t → live t) : s.Mirrors live' x where
  sound := hmirrors.sound
  parking := hmirrors.parking
  settled := hmirrors.settled
  points t ht := hmirrors.points t (hlive t ht)
  placed := hmirrors.placed
  single := hmirrors.single
  unset := hmirrors.unset

/-- Somebody unparks a handle that nobody has to unpark. -/
theorem of_nudge (hmirrors : s.Mirrors live x) (hissued : h ∈ s.handles)
    (hcalled : ¬ x.IsCalled h.id) :
    (s.after (unparking h)).Mirrors live (x.withParking (x.parking.unpark h)) := by
  refine hmirrors.of_unparks hissued (Bool.eq_false_iff.2 fun hset => hcalled (.inl hset)) rfl
    (fun _ => rfl) (fun _ => id) ⟨hmirrors.single.nodup, hmirrors.single.apart⟩
    fun u h' hh' => ⟨hh', ?_⟩
  rintro rfl
  exact hcalled (.inr ⟨u, h', hh', rfl⟩)

/-- A thread gets a handle to unpark that nobody else has to unpark. -/
theorem of_entrust (hmirrors : s.Mirrors live x) {last : Option Outcome}
    (hidle : x.point t = .idle last) (hissued : h ∈ s.handles) (hcalled : ¬ x.IsCalled h.id) :
    s.Mirrors live (x.goTo t (.waking [h] .left)) := by
  have hother (u : ThreadId) (hu : u ≠ t) : (x.goTo t (.waking [h] .left)).point u = x.point u := by
    rw [Monitors.point_goTo, if_neg hu]
  have hself : ((x.goTo t (.waking [h] .left)).point t).wakes = [h] := by simp [Point.wakes]
  have hwakes (u : ThreadId) (h' : ParkHandle)
      (hh' : h' ∈ ((x.goTo t (.waking [h] .left)).point u).wakes) :
      h' = h ∨ h' ∈ (x.point u).wakes := by
    by_cases hu : u = t
    · rw [hu, hself] at hh'
      exact .inl (List.mem_singleton.1 hh')
    · rw [hother u hu] at hh'
      exact .inr hh'
  constructor
  case sound => exact hmirrors.sound
  case parking => exact hmirrors.parking
  case settled => exact hmirrors.settled
  case points =>
    intro u hlive
    have hfits := hmirrors.points u hlive
    by_cases hu : u = t
    · subst hu
      rw [hidle] at hfits
      rw [Monitors.point_goTo, if_pos rfl]
      exact hfits
    · rwa [hother u hu]
  case placed =>
    rintro h' (⟨u, hh'⟩ | hplaced)
    · rcases hwakes u h' hh' with rfl | hold
      · exact hissued
      · exact hmirrors.placed h' (.inl ⟨u, hold⟩)
    · exact hmirrors.placed h' (.inr hplaced)
  case single =>
    have hnodup : ((x.goTo t (.waking [h] .left)).point t).wakes.Nodup := by
      rw [hself]
      exact List.nodup_singleton h
    refine hmirrors.single.next hother hnodup fun h' hh' => ?_
    rw [hself, List.mem_singleton] at hh'
    subst hh'
    exact .inr fun u hmem => hcalled (.inr ⟨u, h', hmem, rfl⟩)
  case unset =>
    intro u h' hh'
    rcases hwakes u h' hh' with rfl | hold
    · exact Bool.eq_false_iff.2 fun hset => hcalled (.inl hset)
    · exact hmirrors.unset u h' hold

/-- A thread that is between two things to do ends. -/
theorem of_retire (hmirrors : s.Mirrors live x) {last : Option Outcome}
    (hidle : x.point t = .idle last) (hlive : live t) :
    (s.after [.finish t]).Mirrors (fun u => live u ∧ u ≠ t)
      (x.withParking (x.parking.finish t)) := by
  have hpoint := hmirrors.points t hlive
  rw [hidle] at hpoint
  obtain ⟨last, hrunning⟩ := hpoint
  have turns := turns_finish hrunning
  constructor
  case sound => exact hmirrors.sound.after [.finish t]
  case parking => rw [turns.parking, hmirrors.parking, Monitors.parking_withParking]
  case settled =>
    intro h
    rw [turns.call]
    exact hmirrors.settled h
  case points =>
    intro u hu
    rw [turns.point, if_neg hu.2]
    exact hmirrors.points u hu.1
  case placed =>
    intro h hplaced
    rw [turns.handles]
    exact hmirrors.placed h hplaced
  case single => exact ⟨hmirrors.single.nodup, hmirrors.single.apart⟩
  case unset => exact hmirrors.unset

end Mirrors

end Host

end Junction.Sync
