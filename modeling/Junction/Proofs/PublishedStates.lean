import Mathlib.Data.List.Pairwise
import Junction.Proofs.WakePermits

/-!
# What a published state tells

A thread publishes that it is parked when it gets a handle, and that it runs when it goes on.
Whoever unparks a handle makes the owner runnable if it is published as parked. There is one
published state for all handles of a thread, and nobody asks whether the handle is the one that the
owner sleeps on. So a thread that has given up a parking and has parked again counts as runnable as
soon as its old handle is unparked, and sleeps on.

Between two parkings this is all that can go wrong: the published state of a thread is known from
where it stands and from which of its handles were unparked since it has parked, and it is the right
one unless an old one is among them.

## Main definitions

* `Host.IsHonest` — what published states are meant to tell
* `Vigil` — a host, with the handles of each thread that were unparked since it has parked
* `Vigil.Publishes` — what published states do tell

## Main results

* `Host.not_isHonest_after` — an old handle makes a thread runnable that sleeps on a new one
* `Vigil.Publishes.next` — every step keeps what published states tell
* `Vigil.publishes_after` — what published states tell after any actions
-/

namespace Junction.Sync

theorem Parking.get_states_ready (p : Parking) (h : ParkHandle) (t : ThreadId) :
    (p.ready h).states.get t =
      if t = h.owner ∧ p.states.get t = some .parked then some .runnable else p.states.get t := by
  unfold ready
  by_cases hparked : p.states.get h.owner = some .parked
  · rw [if_pos hparked, publish, Table.get_set]
    split
    · next heq => simp [heq, hparked]
    · next hne => simp [hne]
  · rw [if_neg hparked, if_neg]
    rintro ⟨rfl, hstate⟩
    exact hparked hstate

namespace Host

variable {s s' : Host} {t u : ThreadId} {h h' : ParkHandle} {phase : Phase} {p : Stay}

/-! ### What is meant -/

/-- Whoever unparks a handle has looked at the published state of its owner. -/
def Call.HasReadied (c : Call) : Prop := c = .readied ∨ c.HasStored

/-- What published states are meant to tell. -/
structure IsHonest (s : Host) : Prop where
  /-- A thread counts as parked from the issue of its handle on, as long as it parks and nobody has
  unparked this handle. -/
  parked_iff : ∀ t, s.parking.states.get t = some .parked ↔
    ∃ phase p, s.point t = .parked phase p ∧ ¬(s.call p.handle).HasReadied
  /-- Nobody counts as runnable who sleeps on a handle that nobody has unparked. -/
  asleep : ∀ t p, s.point t = .parked .asleep p → s.call p.handle = .untouched →
    s.parking.states.get t ≠ some .runnable

/-- A thread gives up a parking and parks again, and then somebody unparks the first handle. -/
def staleUnparking : List Action :=
  [.make 0, .begin 0, .park 0 true, .expire 0, .go 0, .go 0, .go 0, .park 0 false, .go 0, .go 0,
    .unpark ⟨0, 0⟩, .carryOn ⟨0, 0⟩]

/-- A thread that sleeps on a handle that nobody has unparked can count as runnable. -/
theorem not_isHonest_after : ¬∀ actions, (({} : Host).after actions).IsHonest := by
  intro hhonest
  have hpoint : (({} : Host).after staleUnparking).point 0 = .parked .asleep ⟨⟨1, 0⟩, none⟩ := by
    decide
  have hcall : (({} : Host).after staleUnparking).call ⟨1, 0⟩ = .untouched := by decide
  exact (hhonest staleUnparking).asleep 0 _ hpoint hcall (by decide)

/-! ### Latest handles -/

/-- No handle of a thread is later than its latest one. -/
theorem Sound.id_le_of_lastHandle? (hsound : s.Sound) (hlast : s.lastHandle? t = some h)
    (hissued : h' ∈ s.handles) (howner : h'.owner = t) : h'.id ≤ h.id := by
  have hsorted : (s.handles.map (·.id)).Pairwise (· < ·) :=
    hsound.numbered ▸ List.pairwise_lt_range
  have hsorted : (s.handles.filter (·.owner = t)).Pairwise (·.id < ·.id) :=
    (List.pairwise_map.1 hsorted).filter _
  obtain ⟨before, heq⟩ := List.getLast?_eq_some_iff.1 hlast
  have hmem : h' ∈ s.handles.filter (·.owner = t) := by simp [hissued, howner]
  rw [heq, List.mem_append, List.mem_singleton] at hmem
  rw [heq, List.pairwise_append] at hsorted
  rcases hmem with hmem | rfl
  · exact Nat.le_of_lt (hsorted.2.2 h' hmem h (List.mem_singleton_self h))
  · exact Nat.le_refl _

/-- A new handle is not the latest one of before. -/
theorem Sound.lastHandle?_issueFor_ne (hsound : s.Sound) :
    (s.issueFor t).lastHandle? t ≠ s.lastHandle? t := by
  rw [lastHandle?_issueFor, if_pos rfl]
  intro heq
  have hissued := hsound.issued (mem_of_lastHandle? heq.symm).1
  exact Nat.lt_irrefl _ hissued

/-- The state that a thread publishes, given where it stands and whether a handle of it was unparked
since it has parked. -/
def Point.state (stirred : Bool) : Point → Option ThreadState
  | absent | ended => none
  | made => some .runnable
  | running _ => some .running
  | parked .. => some (if stirred then .runnable else .parked)

/-! ### Steps -/

/-- A step at which nobody gets a handle and nobody looks at a published state. -/
structure Calm (s s' : Host) : Prop where
  /-- No handle is issued. -/
  handles : s'.handles = s.handles
  /-- Nobody has looked at the published state who had not done so before. -/
  readied_iff : ∀ h, (s'.call h).HasReadied ↔ (s.call h).HasReadied
  /-- Whoever parks has done so before. -/
  parked : ∀ t phase p, s'.point t = .parked phase p →
    ∃ phase₀ p₀, s.point t = .parked phase₀ p₀ ∧ p₀.handle = p.handle
  /-- Whoever goes on publishes it. -/
  state_eq : ∀ t stirred, s.parking.states.get t = (s.point t).state stirred →
    s'.parking.states.get t = (s'.point t).state stirred

theorem calm_refl (s : Host) : s.Calm s :=
  ⟨rfl, fun _ => .rfl, fun _ phase p hparked => ⟨phase, p, hparked, rfl⟩, fun _ _ => id⟩

/-- A thread that changes the published state does so to what is right at its next point. -/
theorem calm_of_move (move : s.Move s') :
    s.Calm s' ∨
      (∃ t expired,
        s' = (s.issueFor t).goTo t (.parked .looking ⟨(s.parking.issue t).2, expired⟩)) ∨
      ∃ h ∈ s.handles, s.call h = .begun ∧
        s' = (s.withParking (s.parking.ready h)).setCall h .readied := by
  cases move with
  | park t expired => exact .inr (.inl ⟨t, expired, rfl⟩)
  | ready h hissued hbegun => exact .inr (.inr ⟨h, hissued, hbegun, rfl⟩)
  | unpark h _ hcall | store h _ hcall | permit h _ hcall =>
    refine .inl ⟨rfl, fun h' => ?_, fun _ phase p hparked => ⟨phase, p, hparked, rfl⟩,
      fun _ _ => id⟩
    simp only [call_setCall]
    split
    · next hid => simp [call_congr hid, hcall, Call.HasReadied, Call.HasStored]
    · rfl
  | make t hpoint | begin t hpoint | finish t hpoint | leave t _ _ hpoint =>
    refine .inl ⟨rfl, fun _ => .rfl, fun u phase p hparked => ?_, fun u b hstate => ?_⟩
    · simp only [point_goTo] at hparked
      split at hparked
      · cases hparked
      · exact ⟨phase, p, hparked, rfl⟩
    · simp only [parking_goTo, parking_withParking, point_goTo, Parking.publish, Parking.resume,
        Parking.finish, Table.get_set]
      split
      · rfl
      · exact hstate
  | hear t p hpoint | miss t p hpoint | tire t p hpoint | sleep t p hpoint | wake t p hpoint
  | stir t p hpoint | expire t p hpoint =>
    refine .inl ⟨rfl, fun _ => .rfl, fun u phase p' hparked => ?_, fun u b hstate => ?_⟩
    · simp only [point_goTo] at hparked
      split at hparked
      · next heq =>
        cases hparked
        exact ⟨_, p, by rw [heq, hpoint], rfl⟩
      · exact ⟨phase, p', hparked, rfl⟩
    · simp only [point_goTo]
      split
      · next heq =>
        rw [heq, hpoint] at hstate
        exact heq ▸ hstate
      · exact hstate

end Host

/-- A host, with the handles of each thread that were unparked since it has parked: whoever unparks
such a handle has looked at the published state by now. -/
structure Vigil where
  /-- The host. -/
  host : Host := {}
  /-- The handles of a thread that were unparked. -/
  stirred : ThreadId → List ParkHandle := fun _ => []

namespace Vigil

open Host

variable {v : Vigil} {s' : Host} {t u : ThreadId} {h h' : ParkHandle} {phase : Phase} {p : Stay}

/-- The host goes over to another one. With a new handle of a thread the old ones are forgotten. -/
def next (v : Vigil) (s' : Host) : Vigil where
  host := s'
  stirred t :=
    if s'.lastHandle? t = v.host.lastHandle? t then
      v.stirred t ++ s'.handles.filter fun h =>
        h.owner = t ∧ v.host.call h = .begun ∧ s'.call h = .readied
    else []

/-- The vigil after some actions. -/
def after (v : Vigil) (actions : List Action) : Vigil :=
  actions.foldl (fun v action => v.next (v.host.act action)) v

theorem host_after (actions : List Action) : (v.after actions).host = v.host.after actions := by
  induction actions generalizing v with
  | nil => rfl
  | cons action actions ih => exact ih

theorem mem_stirred_next : h ∈ (v.next s').stirred t ↔
    s'.lastHandle? t = v.host.lastHandle? t ∧ (h ∈ v.stirred t ∨
      h ∈ s'.handles ∧ h.owner = t ∧ v.host.call h = .begun ∧ s'.call h = .readied) := by
  simp only [next]
  split <;> simp_all

/-- Between hosts of which the second has no new handle of a thread, and nobody has looked at the
published state of the thread, nothing changes for the thread. -/
theorem stirred_next_eq (hlast : s'.lastHandle? t = v.host.lastHandle? t)
    (hcalm : ∀ h, h.owner = t → v.host.call h = .begun → s'.call h ≠ .readied) :
    (v.next s').stirred t = v.stirred t := by
  simp only [next, if_pos hlast, List.append_right_eq_self, List.filter_eq_nil_iff,
    decide_eq_true_eq]
  exact fun h _ ⟨howner, hbegun, hreadied⟩ => hcalm h howner hbegun hreadied

/-- What is known of a vigil. -/
structure Exact (v : Vigil) : Prop where
  /-- The host is sound. -/
  sound : v.host.Sound
  /-- The published state of a thread. -/
  state_eq : ∀ t,
    v.host.parking.states.get t = (v.host.point t).state !(v.stirred t).isEmpty
  /-- The handle of a parking is among those that were unparked if it was. -/
  own : ∀ t phase p, v.host.point t = .parked phase p →
    (p.handle ∈ v.stirred t ↔ (v.host.call p.handle).HasReadied)
  /-- They are handles of the thread. -/
  issued : ∀ t, ∀ h ∈ v.stirred t, h ∈ v.host.handles ∧ h.owner = t

namespace Exact

variable (hexact : v.Exact)
include hexact

theorem mem_stirred_ready (hissued : h ∈ v.host.handles) (hbegun : v.host.call h = .begun) :
    h' ∈ (v.next ((v.host.withParking (v.host.parking.ready h)).setCall h .readied)).stirred t ↔
      h' ∈ v.stirred t ∨ h' = h ∧ t = h.owner := by
  rw [mem_stirred_next]
  simp only [handles_setCall, handles_withParking, call_setCall, call_withParking]
  constructor
  · rintro ⟨-, hmem | ⟨hissued', howner, hbegun', hreadied⟩⟩
    · exact .inl hmem
    · split at hreadied
      · next hid =>
        have heq := hexact.sound.distinct hissued' hissued hid
        exact .inr ⟨heq, by rw [← howner, heq]⟩
      · rw [hbegun'] at hreadied
        cases hreadied
  · rintro (hmem | ⟨rfl, rfl⟩)
    · exact ⟨rfl, .inl hmem⟩
    · exact ⟨rfl, .inr ⟨hissued, rfl, hbegun, if_pos rfl⟩⟩

theorem next_calm (calm : v.host.Calm s') (hsound : s'.Sound) : (v.next s').Exact := by
  have hstirred (t : ThreadId) : (v.next s').stirred t = v.stirred t := by
    refine stirred_next_eq ?_ fun h _ hbegun hreadied => ?_
    · rw [lastHandle?, lastHandle?, calm.handles]
    · have := (calm.readied_iff h).1 (.inl hreadied)
      simp [hbegun, Call.HasReadied, Call.HasStored] at this
  constructor
  case sound => exact hsound
  case state_eq =>
    intro t
    rw [hstirred]
    exact calm.state_eq t _ (hexact.state_eq t)
  case own =>
    intro t phase p hparked
    obtain ⟨phase₀, p₀, hparked₀, hhandle⟩ := calm.parked t phase p hparked
    rw [hstirred, ← hhandle]
    exact (hexact.own t phase₀ p₀ hparked₀).trans (calm.readied_iff p₀.handle).symm
  case issued =>
    intro t h hmem
    rw [hstirred] at hmem
    change h ∈ s'.handles ∧ h.owner = t
    rw [calm.handles]
    exact hexact.issued t h hmem

theorem next_park {expired : Option Bool}
    (heq : s' = (v.host.issueFor u).goTo u (.parked .looking ⟨(v.host.parking.issue u).2, expired⟩))
    (hsound : s'.Sound) : (v.next s').Exact := by
  -- With its new handle the thread forgets who has unparked the old ones.
  have hself : (v.next s').stirred u = [] := by
    subst heq
    exact if_neg hexact.sound.lastHandle?_issueFor_ne
  have hother (t : ThreadId) (hne : t ≠ u) : (v.next s').stirred t = v.stirred t := by
    subst heq
    refine stirred_next_eq ?_ fun h _ hbegun hreadied => ?_
    · rw [lastHandle?_goTo, lastHandle?_issueFor, if_neg hne]
    · simp [hbegun] at hreadied
  subst heq
  constructor
  case sound => exact hsound
  case state_eq =>
    intro t
    by_cases htu : t = u
    · subst htu
      rw [hself]
      simp [Vigil.next, Parking.issue, Parking.publish, Point.state]
    · rw [hother t htu]
      simpa [Vigil.next, Parking.issue, Parking.publish, Table.get_set, htu]
        using hexact.state_eq t
  case own =>
    intro t phase p hparked
    by_cases htu : t = u
    · subst htu
      simp only [Vigil.next, point_goTo, if_pos] at hparked
      cases hparked
      rw [hself]
      -- Nobody can have unparked a new handle.
      have hcall : v.host.call ⟨v.host.parking.issued, t⟩ = .untouched :=
        hexact.sound.known _ (Nat.le_refl _)
      simp [Vigil.next, hcall, Call.HasReadied, Call.HasStored]
    · simp only [Vigil.next, point_goTo, if_neg htu] at hparked
      rw [hother t htu]
      exact hexact.own t phase p hparked
  case issued =>
    intro t h hmem
    by_cases htu : t = u
    · subst htu
      rw [hself] at hmem
      cases hmem
    · rw [hother t htu] at hmem
      obtain ⟨hissued, howner⟩ := hexact.issued t h hmem
      exact ⟨List.mem_append_left _ hissued, howner⟩

theorem next_ready (hissued : h ∈ v.host.handles) (hbegun : v.host.call h = .begun)
    (heq : s' = (v.host.withParking (v.host.parking.ready h)).setCall h .readied)
    (hsound : s'.Sound) : (v.next s').Exact := by
  have hmem (t : ThreadId) (h' : ParkHandle) :
      h' ∈ (v.next s').stirred t ↔ h' ∈ v.stirred t ∨ h' = h ∧ t = h.owner :=
    heq ▸ hexact.mem_stirred_ready hissued hbegun
  have hself : ((v.next s').stirred h.owner).isEmpty = false :=
    List.isEmpty_eq_false_iff_exists_mem.2 ⟨h, (hmem h.owner h).2 (.inr ⟨rfl, rfl⟩)⟩
  have hother (t : ThreadId) (hne : t ≠ h.owner) :
      ((v.next s').stirred t).isEmpty = (v.stirred t).isEmpty := by
    rw [Bool.eq_iff_iff]
    simp [List.eq_nil_iff_forall_not_mem, hmem, hne]
  subst heq
  constructor
  case sound => exact hsound
  case state_eq =>
    intro t
    have hstate := hexact.state_eq t
    change (v.host.parking.ready h).states.get t = (v.host.point t).state _
    rw [Parking.get_states_ready]
    by_cases howner : t = h.owner
    · rw [howner] at hstate ⊢
      rw [hself, hstate]
      cases v.host.point h.owner <;> cases (v.stirred h.owner).isEmpty <;> simp [Point.state]
    · rw [hother t howner, if_neg (howner ·.1), hstate]
  case own =>
    intro t phase p hparked
    have hmine := mem_of_lastHandle? (hexact.sound.own t p (congrArg Point.stay? hparked))
    rw [hmem, hexact.own t phase p hparked]
    simp only [Vigil.next, call_setCall, call_withParking]
    split
    · next hid =>
      have hsame := hexact.sound.distinct hmine.1 hissued hid
      simp [hsame, ← hmine.2, Call.HasReadied]
    · next hid =>
      have hne : p.handle ≠ h := fun heq => hid (congrArg _ heq)
      simp [hne]
  case issued =>
    intro t h' hstirred
    rcases (hmem t h').1 hstirred with hstirred | ⟨rfl, rfl⟩
    · exact hexact.issued t h' hstirred
    · exact ⟨hissued, rfl⟩

/-- Every step keeps what published states tell. -/
theorem next (move : v.host.Move s') : (v.next s').Exact := by
  have hsound := hexact.sound.move move
  obtain calm | ⟨u, expired, heq⟩ | ⟨h, hissued, hbegun, heq⟩ := calm_of_move move
  · exact hexact.next_calm calm hsound
  · exact hexact.next_park heq hsound
  · exact hexact.next_ready hissued hbegun heq hsound

theorem act (action : Action) : (v.next (v.host.act action)).Exact := by
  unfold Host.act
  cases hstep : v.host.step? action with
  | none => exact hexact.next_calm (calm_refl v.host) hexact.sound
  | some s' => exact hexact.next (move_of_step hstep)

theorem after (actions : List Action) : (v.after actions).Exact := by
  induction actions generalizing v with
  | nil => exact hexact
  | cons action actions ih => exact ih (hexact.act action)

end Exact

theorem exact_empty : ({} : Vigil).Exact where
  sound := sound_empty
  state_eq t := rfl
  own t phase p hparked := by
    rw [point_empty] at hparked
    cases hparked
  issued t h hmem := by cases hmem

/-! ### What published states tell -/

/-- What published states do tell. -/
structure Publishes (v : Vigil) : Prop where
  /-- The published state is known from where a thread stands, and from whether a handle of it was
  unparked since it has parked. -/
  state_eq : ∀ t,
    v.host.parking.states.get t = (v.host.point t).state !(v.stirred t).isEmpty
  /-- The handle by which a thread parks is among those that were unparked if it was. -/
  own : ∀ t phase p, v.host.point t = .parked phase p →
    (p.handle ∈ v.stirred t ↔ (v.host.call p.handle).HasReadied)
  /-- The others among them are handles of earlier parkings of the thread. -/
  older : ∀ t phase p, v.host.point t = .parked phase p → ∀ h ∈ v.stirred t, h ≠ p.handle →
    h ∈ v.host.handles ∧ h.owner = t ∧ h.id < p.handle.id
  /-- Published states are right unless a handle of an earlier parking was unparked. -/
  honest : (∀ t phase p, v.host.point t = .parked phase p → ∀ h ∈ v.stirred t, h = p.handle) →
    v.host.IsHonest

namespace Exact

variable (hexact : v.Exact)
include hexact

theorem older (hparked : v.host.point t = .parked phase p) (hmem : h ∈ v.stirred t)
    (hne : h ≠ p.handle) : h ∈ v.host.handles ∧ h.owner = t ∧ h.id < p.handle.id := by
  obtain ⟨hissued, howner⟩ := hexact.issued t h hmem
  have hlast := hexact.sound.own t p (congrArg Point.stay? hparked)
  have hle := hexact.sound.id_le_of_lastHandle? hlast hissued howner
  have hid : h.id ≠ p.handle.id := fun hid =>
    hne (hexact.sound.distinct hissued (mem_of_lastHandle? hlast).1 hid)
  exact ⟨hissued, howner, Nat.lt_of_le_of_ne hle hid⟩

/-- If only its own handle was unparked, a parked thread counts as parked until then. -/
theorem isEmpty_stirred (hown : ∀ h ∈ v.stirred t, h = p.handle)
    (hparked : v.host.point t = .parked phase p) :
    (v.stirred t).isEmpty = true ↔ ¬(v.host.call p.handle).HasReadied := by
  rw [← hexact.own t phase p hparked, List.isEmpty_iff]
  constructor
  · intro hnil
    simp [hnil]
  · intro hnot
    exact List.eq_nil_iff_forall_not_mem.2 fun h hmem => hnot (hown h hmem ▸ hmem)

theorem isHonest
    (hown : ∀ t phase p, v.host.point t = .parked phase p → ∀ h ∈ v.stirred t, h = p.handle) :
    v.host.IsHonest where
  parked_iff t := by
    rw [hexact.state_eq t]
    cases hpoint : v.host.point t with
    | parked phase p =>
      have hempty := hexact.isEmpty_stirred (hown t phase p hpoint) hpoint
      cases hstirred : (v.stirred t).isEmpty <;> simp_all [Point.state]
    | _ => simp [Point.state]
  asleep t p hasleep huntouched := by
    have hempty := hexact.isEmpty_stirred (hown t .asleep p hasleep) hasleep
    have huncalled : ¬(v.host.call p.handle).HasReadied := by
      simp [huntouched, Call.HasReadied, Call.HasStored]
    rw [hexact.state_eq t, hasleep, hempty.2 huncalled]
    simp [Point.state]

theorem publishes : v.Publishes where
  state_eq := hexact.state_eq
  own := hexact.own
  older _ _ _ hparked _ hmem hne := hexact.older hparked hmem hne
  honest := hexact.isHonest

end Exact

/-- After any actions the published states tell where the threads of the host stand, and whether a
handle of theirs was unparked since they have parked. -/
theorem publishes_after (actions : List Action) :
    (({} : Vigil).after actions).host = ({} : Host).after actions ∧
      (({} : Vigil).after actions).Publishes :=
  ⟨host_after actions, (exact_empty.after actions).publishes⟩

end Vigil

end Junction.Sync
