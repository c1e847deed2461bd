import Mathlib.Data.List.Nodup
import Junction.Proofs.MonitorMoves
import Junction.Sync.Host

/-!
# Nobody is woken by mistake, and nobody in vain

Threads park on the host any number of times, and handles are unparked at any time, old ones and new
ones. A thread goes on from a parking only after the token of the handle of this parking was set, or
after its deadline. The permit of the host is shared by all handles of a thread, so it may be there
for the sake of an old one; then the thread looks at its token, and sleeps again.

That nobody sleeps on in spite of being unparked needs the order of the sections. The token is set
before the permit is given, and a thread that is on its way to sleep has found the token not set; so
a thread on its way whose handle is unparked to the end has its permit still.

## Main definitions

* `Host.Move` — what one step of a host can be
* `Host.Sound` — what every step preserves
* `Host.IsWakeful` — what is promised of a host

## Main results

* `Host.move_of_step` — every step follows one of the rules
* `Host.Sound.move` — every step keeps a host sound
* `Host.isWakeful_after` — every host is wakeful after any actions
-/

namespace Junction.Sync

namespace Parking

@[simp] theorem issued_publish (p : Parking) (t : ThreadId) (state : ThreadState) :
    (p.publish t state).issued = p.issued := rfl

@[simp] theorem tokens_publish (p : Parking) (t : ThreadId) (state : ThreadState) :
    (p.publish t state).tokens = p.tokens := rfl

@[simp] theorem issued_ready (p : Parking) (h : ParkHandle) : (p.ready h).issued = p.issued := by
  unfold ready
  split <;> rfl

@[simp] theorem issued_setToken (p : Parking) (h : ParkHandle) :
    (p.setToken h).issued = p.issued := rfl

@[simp] theorem tokens_setToken (p : Parking) (h : ParkHandle) :
    (p.setToken h).tokens = p.tokens.set h.id true := rfl

end Parking

namespace Host

variable {s s' : Host} {t u : ThreadId} {h h' : ParkHandle} {phase : Phase} {p : Stay}

/-! ### What a change shows -/

section Changes

@[simp] theorem point_goTo (s : Host) (t u : ThreadId) (q : Point) :
    (s.goTo t q).point u = if u = t then q else s.point u := by
  simp only [point, goTo, Table.get_set]

@[simp] theorem parking_goTo (s : Host) (t : ThreadId) (q : Point) :
    (s.goTo t q).parking = s.parking := rfl

@[simp] theorem handles_goTo (s : Host) (t : ThreadId) (q : Point) :
    (s.goTo t q).handles = s.handles := rfl

@[simp] theorem call_goTo (s : Host) (t : ThreadId) (q : Point) (h : ParkHandle) :
    (s.goTo t q).call h = s.call h := rfl

@[simp] theorem permits_goTo (s : Host) (t : ThreadId) (q : Point) :
    (s.goTo t q).permits = s.permits := rfl

@[simp] theorem point_withParking (s : Host) (parking : Parking) :
    (s.withParking parking).point t = s.point t := rfl

@[simp] theorem parking_withParking (s : Host) (parking : Parking) :
    (s.withParking parking).parking = parking := rfl

@[simp] theorem handles_withParking (s : Host) (parking : Parking) :
    (s.withParking parking).handles = s.handles := rfl

@[simp] theorem call_withParking (s : Host) (parking : Parking) (h : ParkHandle) :
    (s.withParking parking).call h = s.call h := rfl

@[simp] theorem permits_withParking (s : Host) (parking : Parking) :
    (s.withParking parking).permits = s.permits := rfl

@[simp] theorem point_issueFor (s : Host) (u : ThreadId) :
    (s.issueFor u).point t = s.point t := rfl

@[simp] theorem parking_issueFor (s : Host) (t : ThreadId) :
    (s.issueFor t).parking = (s.parking.issue t).1 := rfl

@[simp] theorem handles_issueFor (s : Host) (t : ThreadId) :
    (s.issueFor t).handles = s.handles ++ [(s.parking.issue t).2] := rfl

@[simp] theorem call_issueFor (s : Host) (t : ThreadId) (h : ParkHandle) :
    (s.issueFor t).call h = s.call h := rfl

@[simp] theorem permits_issueFor (s : Host) (t : ThreadId) :
    (s.issueFor t).permits = s.permits := rfl

@[simp] theorem point_setCall (s : Host) (h : ParkHandle) (call : Call) :
    (s.setCall h call).point t = s.point t := rfl

@[simp] theorem parking_setCall (s : Host) (h : ParkHandle) (call : Call) :
    (s.setCall h call).parking = s.parking := rfl

@[simp] theorem handles_setCall (s : Host) (h : ParkHandle) (call : Call) :
    (s.setCall h call).handles = s.handles := rfl

@[simp] theorem call_setCall (s : Host) (h h' : ParkHandle) (call : Call) :
    (s.setCall h call).call h' = if h'.id = h.id then call else s.call h' := by
  simp only [Host.call, setCall, Table.get_set]

@[simp] theorem permits_setCall (s : Host) (h : ParkHandle) (call : Call) :
    (s.setCall h call).permits = s.permits := rfl

@[simp] theorem point_setPermit (s : Host) (u : ThreadId) (permit : Bool) :
    (s.setPermit u permit).point t = s.point t := rfl

@[simp] theorem parking_setPermit (s : Host) (u : ThreadId) (permit : Bool) :
    (s.setPermit u permit).parking = s.parking := rfl

@[simp] theorem handles_setPermit (s : Host) (u : ThreadId) (permit : Bool) :
    (s.setPermit u permit).handles = s.handles := rfl

@[simp] theorem call_setPermit (s : Host) (u : ThreadId) (permit : Bool) (h : ParkHandle) :
    (s.setPermit u permit).call h = s.call h := rfl

@[simp] theorem permits_setPermit (s : Host) (u : ThreadId) (permit : Bool) :
    (s.setPermit u permit).permits = s.permits.set u permit := rfl

theorem call_congr (hid : h.id = h'.id) : s.call h = s.call h' := by
  rw [Host.call, Host.call, hid]

end Changes

/-! ### Rules -/

/-- What one step of a host can be. -/
inductive Move (s : Host) : Host → Prop
  -- A thread that does not park.
  | make (t : ThreadId) (absent : s.point t = .absent) :
      Move s ((s.withParking (s.parking.publish t .runnable)).goTo t .made)
  | begin (t : ThreadId) (made : s.point t = .made) :
      Move s ((s.withParking (s.parking.resume t)).goTo t (.running none))
  | finish {last : Option (Stay × Bool)} (t : ThreadId) (running : s.point t = .running last) :
      Move s ((s.withParking (s.parking.finish t)).goTo t .ended)
  -- A thread that parks.
  | park {last : Option (Stay × Bool)} (t : ThreadId) (expired : Option Bool)
      (running : s.point t = .running last) (early : expired ≠ some true) :
      Move s ((s.issueFor t).goTo t (.parked .looking ⟨(s.parking.issue t).2, expired⟩))
  | hear (t : ThreadId) (p : Stay) (looking : s.point t = .parked .looking p)
      (unparked : s.parking.isUnparked p.handle = true) :
      Move s (s.goTo t (.parked (.leaving true) p))
  | miss (t : ThreadId) (p : Stay) (looking : s.point t = .parked .looking p)
      (waiting : s.parking.isUnparked p.handle = false) : Move s (s.goTo t (.parked .missed p))
  | tire (t : ThreadId) (p : Stay) (missed : s.point t = .parked .missed p)
      (expired : p.expired = some true) : Move s (s.goTo t (.parked (.leaving false) p))
  | sleep (t : ThreadId) (p : Stay) (missed : s.point t = .parked .missed p) :
      Move s (s.goTo t (.parked .asleep p))
  | wake (t : ThreadId) (p : Stay) (asleep : s.point t = .parked .asleep p) :
      Move s ((s.setPermit t false).goTo t (.parked .looking p))
  | stir (t : ThreadId) (p : Stay) (asleep : s.point t = .parked .asleep p) :
      Move s (s.goTo t (.parked .looking p))
  | leave (t : ThreadId) (p : Stay) (woken : Bool)
      (leaving : s.point t = .parked (.leaving woken) p) :
      Move s ((s.withParking (s.parking.resume t)).goTo t (.running (some (p, woken))))
  | expire {phase : Phase} (t : ThreadId) (p : Stay) (parked : s.point t = .parked phase p) :
      Move s (s.goTo t (.parked phase { p with expired := some true }))
  -- The unparking of a handle.
  | unpark (h : ParkHandle) (issued : h ∈ s.handles) (untouched : s.call h = .untouched) :
      Move s (s.setCall h .begun)
  | ready (h : ParkHandle) (issued : h ∈ s.handles) (begun : s.call h = .begun) :
      Move s ((s.withParking (s.parking.ready h)).setCall h .readied)
  | store (h : ParkHandle) (issued : h ∈ s.handles) (readied : s.call h = .readied) :
      Move s ((s.withParking (s.parking.setToken h)).setCall h .stored)
  | permit (h : ParkHandle) (issued : h ∈ s.handles) (stored : s.call h = .stored) :
      Move s ((s.setPermit h.owner true).setCall h .done)

theorem move_of_go (hstep : s.go? t = some s') : s.Move s' := by
  unfold go? at hstep
  split at hstep
  · next p hpoint =>
    split at hstep
    · next hunparked =>
      cases hstep
      exact .hear t p hpoint hunparked
    · next hwaiting =>
      cases hstep
      exact .miss t p hpoint (by simpa using hwaiting)
  · next p hpoint =>
    split at hstep
    · next hexpired =>
      cases hstep
      exact .tire t p hpoint hexpired
    · cases hstep
      exact .sleep t p hpoint
  · next p hpoint =>
    split at hstep
    · cases hstep
      exact .wake t p hpoint
    · split at hstep
      · cases hstep
        exact .stir t p hpoint
      · cases hstep
  · next woken p hpoint =>
    cases hstep
    exact .leave t p woken hpoint
  · cases hstep

theorem move_of_carryOn (hstep : s.carryOn? h = some s') : s.Move s' := by
  unfold carryOn? at hstep
  split at hstep
  · next hissued =>
    split at hstep
    · next hbegun =>
      cases hstep
      exact .ready h hissued hbegun
    · next hreadied =>
      cases hstep
      exact .store h hissued hreadied
    · next hstored =>
      cases hstep
      exact .permit h hissued hstored
    · cases hstep
  · cases hstep

/-- Every step follows one of the rules. -/
theorem move_of_step {action : Action} (hstep : s.step? action = some s') : s.Move s' := by
  cases action with
  | make t =>
    simp only [step?, make?] at hstep
    split at hstep
    · next hpoint =>
      cases hstep
      exact .make t hpoint
    · cases hstep
  | begin t =>
    simp only [step?, begin?] at hstep
    split at hstep
    · next hpoint =>
      cases hstep
      exact .begin t hpoint
    · cases hstep
  | park t timed =>
    simp only [step?, park?] at hstep
    split at hstep
    · next hpoint =>
      cases hstep
      exact .park t _ hpoint (by cases timed <;> simp)
    · cases hstep
  | unpark h =>
    simp only [step?, unpark?] at hstep
    split at hstep
    · next hknown =>
      cases hstep
      exact .unpark h hknown.1 hknown.2
    · cases hstep
  | carryOn h => exact move_of_carryOn hstep
  | go t => exact move_of_go hstep
  | rouse t =>
    simp only [step?, rouse?] at hstep
    split at hstep
    · next p hpoint =>
      cases hstep
      exact .stir t p hpoint
    · cases hstep
  | expire t =>
    obtain ⟨q, hq, rfl⟩ := Option.map_eq_some_iff.1 hstep
    cases hpoint : s.point t with
    | parked phase p =>
      rw [hpoint] at hq
      obtain ⟨b, -, rfl⟩ := Option.map_eq_some_iff.1 hq
      exact .expire t p hpoint
    | _ =>
      rw [hpoint] at hq
      cases hq
  | finish t =>
    simp only [step?, finish?] at hstep
    split at hstep
    · next hpoint =>
      cases hstep
      exact .finish t hpoint
    · cases hstep

/-! ### Invariants -/

/-- The parking of a thread that parks, or has parked before it runs. -/
def Point.stay? : Point → Option Stay
  | running last => last.map Prod.fst
  | parked _ p => some p
  | _ => none

/-- The latest handle of a thread. -/
def lastHandle? (s : Host) (t : ThreadId) : Option ParkHandle :=
  (s.handles.filter (·.owner = t)).getLast?

/-- The token of a handle has been set by whoever unparks it. -/
def Call.HasStored (c : Call) : Prop := c = .stored ∨ c = .done

/-- A thread with a phase is on its way to sleep, or sleeps. -/
def Phase.IsDozing (phase : Phase) : Prop := phase = .missed ∨ phase = .asleep

/-- The last parking of a thread is over, and it was woken or not. -/
def Point.Returns (q : Point) (woken : Bool) (p : Stay) : Prop :=
  q = .parked (.leaving woken) p ∨ q = .running (some (p, woken))

/-- Handles are not mixed up, and nobody who is unparked sleeps without a permit. -/
structure Sound (s : Host) : Prop where
  /-- Handles are numbered in the order in which they are issued. -/
  numbered : s.handles.map (·.id) = List.range s.parking.issued
  /-- A thread parks by its latest handle. -/
  own : ∀ t p, (s.point t).stay? = some p → s.lastHandle? t = some p.handle
  /-- Nobody unparks a handle that was not issued. -/
  known : ∀ h, s.parking.issued ≤ h.id → s.call h = .untouched
  /-- A token is set if and only if whoever unparks the handle has set it. -/
  token_iff : ∀ h, s.parking.isUnparked h = true ↔ (s.call h).HasStored
  /-- A thread on its way to sleep whose handle is unparked to the end has a permit. -/
  permit : ∀ t phase p, s.point t = .parked phase p → phase.IsDozing →
    s.call p.handle = .done → s.permits.get t = true
  /-- A thread that was woken was so by its own handle. -/
  woken : ∀ t p, (s.point t).Returns true p → (s.call p.handle).HasStored
  /-- A thread that has given up has done so after its deadline. -/
  late : ∀ t p, (s.point t).Returns false p → p.expired = some true

@[simp] theorem lastHandle?_goTo (s : Host) (t u : ThreadId) (q : Point) :
    (s.goTo t q).lastHandle? u = s.lastHandle? u := rfl

theorem lastHandle?_issueFor (s : Host) (t u : ThreadId) :
    (s.issueFor u).lastHandle? t =
      if t = u then some (s.parking.issue u).2 else s.lastHandle? t := by
  simp only [lastHandle?, handles_issueFor, List.filter_append]
  split
  · next heq => simp [heq]
  · next hne => simp [Ne.symm hne]

theorem mem_of_lastHandle? (hlast : s.lastHandle? t = some h) :
    h ∈ s.handles ∧ h.owner = t := by
  simpa using List.mem_filter.1 (List.mem_of_getLast? hlast)

namespace Move

/-- Handles are issued by parking only, one at a time. -/
theorem handles_cases (move : s.Move s') :
    (s'.handles = s.handles ∧ s'.parking.issued = s.parking.issued) ∨
      ∃ t, s'.handles = s.handles ++ [⟨s.parking.issued, t⟩] ∧
        s'.parking.issued = s.parking.issued + 1 := by
  cases move with
  | park t => exact .inr ⟨t, rfl, rfl⟩
  | ready h => exact .inl ⟨rfl, by simp⟩
  | _ => exact .inl ⟨rfl, rfl⟩

theorem handles_subset (move : s.Move s') : s.handles ⊆ s'.handles := by
  obtain ⟨heq, -⟩ | ⟨t, heq, -⟩ := move.handles_cases <;> simp [heq]

/-- Nobody gets on with the unparking of a handle that was not issued. -/
theorem call_eq (move : s.Move s') (hnew : ∀ h' ∈ s.handles, h'.id ≠ h.id) :
    s'.call h = s.call h := by
  cases move with
  | unpark h' hissued | ready h' hissued | store h' hissued | permit h' hissued =>
    have hother : h.id ≠ h'.id := (hnew h' hissued).symm
    simp [hother]
  | _ => rfl

/-- What has been stored of a handle stays so. -/
theorem hasStored (move : s.Move s') (hstored : (s.call h).HasStored) :
    (s'.call h).HasStored := by
  cases move with
  | unpark h' _ hcall | ready h' _ hcall | store h' _ hcall | permit h' _ hcall =>
    simp only [call_setCall, call_withParking, call_setPermit]
    split
    · next hid =>
      rw [← call_congr hid] at hcall
      simp_all [Call.HasStored]
    · exact hstored
  | _ => exact hstored

/-- A thread goes on with a parking, or begins one with a new handle. -/
theorem stay_cases (move : s.Move s') (hstay : (s'.point t).stay? = some p) :
    s'.lastHandle? t = some p.handle ∨
      s'.lastHandle? t = s.lastHandle? t ∧
        ∃ p₀, (s.point t).stay? = some p₀ ∧ p₀.handle = p.handle := by
  cases move with
  | park u =>
    rw [lastHandle?_goTo, lastHandle?_issueFor]
    simp only [point_goTo] at hstay
    split at hstay
    · next heq =>
      cases hstay
      exact .inl (if_pos heq)
    · next hne => exact .inr ⟨if_neg hne, p, hstay, rfl⟩
  | ready | store | permit | unpark => exact .inr ⟨rfl, p, hstay, rfl⟩
  | expire u q hparked =>
    refine .inr ⟨rfl, ?_⟩
    simp only [point_goTo] at hstay
    split at hstay
    · next heq =>
      cases hstay
      exact ⟨q, by rw [heq, hparked]; rfl, rfl⟩
    · exact ⟨p, hstay, rfl⟩
  | _ =>
    refine .inr ⟨rfl, ?_⟩
    simp only [point_goTo] at hstay
    split at hstay
    · simp_all [Point.stay?]
    · exact ⟨p, hstay, rfl⟩

/-- A parking comes to its end because its token is set, or else after its deadline. -/
theorem returns_cases {woken : Bool} (move : s.Move s') (hreturns : (s'.point t).Returns woken p) :
    (∃ p₀, (s.point t).Returns woken p₀ ∧ p₀.handle = p.handle ∧
        (p₀.expired = some true → p.expired = some true)) ∨
      (woken = true ∧ s.parking.isUnparked p.handle = true) ∨
      (woken = false ∧ p.expired = some true) := by
  unfold Point.Returns at hreturns ⊢
  cases move <;> simp at hreturns <;> grind

end Move

namespace Sound

variable (hsound : s.Sound)
include hsound

theorem issued (hmem : h ∈ s.handles) : h.id < s.parking.issued := by
  rw [← List.mem_range, ← hsound.numbered]
  exact List.mem_map_of_mem hmem

/-- No two handles share a number. -/
theorem distinct (hmem : h ∈ s.handles) (hmem' : h' ∈ s.handles) (hid : h.id = h'.id) :
    h = h' :=
  List.inj_on_of_nodup_map (hsound.numbered ▸ List.nodup_range) hmem hmem' hid

theorem numbered_move (move : s.Move s') :
    s'.handles.map (·.id) = List.range s'.parking.issued := by
  obtain ⟨heq, hissued⟩ | ⟨t, heq, hissued⟩ := move.handles_cases
  · rw [heq, hissued, hsound.numbered]
  · rw [heq, hissued, List.range_succ, List.map_append, hsound.numbered]
    rfl

theorem own_move (move : s.Move s') (hstay : (s'.point t).stay? = some p) :
    s'.lastHandle? t = some p.handle := by
  obtain hlast | ⟨heq, p₀, hstay, hhandle⟩ := move.stay_cases hstay
  · exact hlast
  · rw [heq, hsound.own t p₀ hstay, hhandle]

theorem known_move (move : s.Move s') (hnew : s'.parking.issued ≤ h.id) :
    s'.call h = .untouched := by
  have hold : s.parking.issued ≤ h.id := by
    obtain ⟨-, heq⟩ | ⟨t, -, heq⟩ := move.handles_cases <;> omega
  rw [move.call_eq fun h' hmem => Nat.ne_of_lt (Nat.lt_of_lt_of_le (hsound.issued hmem) hold)]
  exact hsound.known h hold

theorem token_move (move : s.Move s') (h : ParkHandle) :
    s'.parking.isUnparked h = true ↔ (s'.call h).HasStored := by
  have htoken := hsound.token_iff h
  cases move with
  | unpark h' _ hcall | ready h' _ hcall | store h' _ hcall | permit h' _ hcall =>
    by_cases hid : h.id = h'.id
    · rw [call_congr hid] at htoken
      simp_all [Parking.isUnparked, Parking.tokens_ready, Call.HasStored]
    · simpa [Parking.isUnparked, Parking.tokens_ready, Table.get_set, hid] using htoken
  | _ => exact htoken

theorem woken_move (move : s.Move s') (hreturns : (s'.point t).Returns true p) :
    (s'.call p.handle).HasStored := by
  obtain ⟨p₀, hreturns, heq, -⟩ | ⟨-, hunparked⟩ | ⟨hfalse, -⟩ := move.returns_cases hreturns
  · rw [← heq]
    exact move.hasStored (hsound.woken t p₀ hreturns)
  · exact move.hasStored ((hsound.token_iff p.handle).1 hunparked)
  · cases hfalse

theorem late_move (move : s.Move s') (hreturns : (s'.point t).Returns false p) :
    p.expired = some true := by
  obtain ⟨p₀, hreturns, -, hexpired⟩ | ⟨hfalse, -⟩ | ⟨-, hexpired⟩ := move.returns_cases hreturns
  · exact hexpired (hsound.late t p₀ hreturns)
  · cases hfalse
  · exact hexpired

theorem permit_move (move : s.Move s') (hparked : s'.point t = .parked phase p)
    (hdozing : phase.IsDozing) (hdone : s'.call p.handle = .done) :
    s'.permits.get t = true := by
  have hpermit := hsound.permit t
  cases move with
  | miss u q hlooking hwaiting =>
    simp only [point_goTo] at hparked
    split at hparked
    · cases hparked
      have hunparked := (hsound.token_iff p.handle).2 (.inr hdone)
      rw [hwaiting] at hunparked
      cases hunparked
    · exact hpermit phase p hparked hdozing hdone
  | permit h hissued hstored =>
    have hstay : (s.point t).stay? = some p := congrArg Point.stay? hparked
    obtain ⟨hmem, howner⟩ := mem_of_lastHandle? (hsound.own t p hstay)
    simp only [permits_setCall, permits_setPermit, Table.get_set]
    by_cases hid : p.handle.id = h.id
    · rw [← hsound.distinct hmem hissued hid, howner, if_pos rfl]
    · simp only [call_setCall, if_neg hid] at hdone
      split
      · rfl
      · exact hpermit phase p hparked hdozing hdone
  | unpark h | ready h | store h =>
    simp only [call_setCall] at hdone
    split at hdone
    · cases hdone
    · exact hpermit phase p hparked hdozing hdone
  | _ =>
    unfold Phase.IsDozing at *
    simp [Table.get_set] at *
    grind

/-- Every step keeps a host sound. -/
theorem move (move : s.Move s') : s'.Sound where
  numbered := hsound.numbered_move move
  own _ _ hstay := hsound.own_move move hstay
  known _ hnew := hsound.known_move move hnew
  token_iff := hsound.token_move move
  permit _ _ _ hparked hdozing hdone := hsound.permit_move move hparked hdozing hdone
  woken _ _ hreturns := hsound.woken_move move hreturns
  late _ _ hreturns := hsound.late_move move hreturns

theorem act (action : Action) : (s.act action).Sound := by
  unfold Host.act
  cases hstep : s.step? action with
  | none => exact hsound
  | some s' => exact hsound.move (move_of_step hstep)

theorem after (actions : List Action) : (s.after actions).Sound := by
  induction actions generalizing s with
  | nil => exact hsound
  | cons action actions ih => exact ih (hsound.act action)

end Sound

theorem point_empty (t : ThreadId) : ({} : Host).point t = .absent := rfl

theorem call_empty (h : ParkHandle) : ({} : Host).call h = .untouched := rfl

theorem isUnparked_empty (h : ParkHandle) : ({} : Parking).isUnparked h = false := rfl

theorem sound_empty : ({} : Host).Sound where
  numbered := rfl
  own t p hstay := by
    rw [point_empty] at hstay
    cases hstay
  known h _ := call_empty h
  token_iff h := by simp [call_empty, isUnparked_empty, Call.HasStored]
  permit t phase p hparked := by
    rw [point_empty] at hparked
    cases hparked
  woken t p hreturns := by simp [point_empty, Point.Returns] at hreturns
  late t p hreturns := by simp [point_empty, Point.Returns] at hreturns

/-! ### Wakefulness -/

/-- A parked thread that cannot go on sleeps, without a permit and before its deadline. -/
theorem asleep_of_go? (hparked : s.point t = .parked phase p) (hstuck : s.go? t = none) :
    phase = .asleep ∧ s.permits.get t = false ∧ p.expired ≠ some true := by
  rw [go?, hparked] at hstuck
  cases phase with
  | looking | missed =>
    -- It can go on either way.
    dsimp only at hstuck
    split at hstuck <;> cases hstuck
  | asleep =>
    dsimp only at hstuck
    split at hstuck
    · cases hstuck
    · next hpermit =>
      split at hstuck
      · cases hstuck
      · next hearly => exact ⟨rfl, by simpa using hpermit, hearly⟩
  | leaving woken => cases hstuck

/-- A handle whose unparking does not go on is unparked to the end, or not at all. -/
theorem call_of_carryOn? (hissued : h ∈ s.handles) (hstuck : s.carryOn? h = none) :
    s.call h = .untouched ∨ s.call h = .done := by
  rw [carryOn?, if_pos hissued] at hstuck
  cases hcall : s.call h <;> simp_all

/-- What is promised of parking on a host. -/
structure IsWakeful (s : Host) : Prop where
  /-- No two handles share a number. -/
  distinct : (s.handles.map (·.id)).Nodup
  /-- The parking of a thread has the latest handle of the thread. -/
  own : ∀ t p, (s.point t).stay? = some p → s.lastHandle? t = some p.handle
  /-- A thread that was woken was so because the handle of this very parking was unparked. -/
  woken : ∀ t p, s.point t = .running (some (p, true)) → (s.call p.handle).HasStored
  /-- A thread that was not woken has reached its deadline. -/
  late : ∀ t p, s.point t = .running (some (p, false)) → p.expired = some true
  /-- A parking without a deadline is over only because its handle was unparked. -/
  plain : ∀ t p woken, s.point t = .running (some (p, woken)) → p.expired = none →
    (s.call p.handle).HasStored
  /-- If nobody can go on, nobody who parks has an unparked handle or a deadline in the past. -/
  asleep : (∀ t, s.go? t = none) → (∀ h, s.carryOn? h = none) → ∀ t phase p,
    s.point t = .parked phase p →
    phase = .asleep ∧ s.call p.handle = .untouched ∧ p.expired ≠ some true

theorem Sound.isWakeful (hsound : s.Sound) : s.IsWakeful where
  distinct := hsound.numbered ▸ List.nodup_range
  own := hsound.own
  woken t p hpoint := hsound.woken t p (.inr hpoint)
  late t p hpoint := hsound.late t p (.inr hpoint)
  plain t p woken hpoint hplain := by
    cases woken with
    | true => exact hsound.woken t p (.inr hpoint)
    | false =>
      have hexpired := hsound.late t p (.inr hpoint)
      rw [hplain] at hexpired
      cases hexpired
  asleep hgo hcarryOn t phase p hparked := by
    obtain ⟨rfl, hpermit, hearly⟩ := asleep_of_go? hparked (hgo t)
    obtain ⟨hissued, -⟩ := mem_of_lastHandle? (hsound.own t p (by rw [hparked]; rfl))
    rcases call_of_carryOn? hissued (hcarryOn p.handle) with hcall | hcall
    · exact ⟨rfl, hcall, hearly⟩
    · -- The permit of the last section is still there.
      have hgiven := hsound.permit t .asleep p hparked (.inr rfl) hcall
      rw [hpermit] at hgiven
      cases hgiven

/-- Every host is wakeful after any actions: whoever goes on was woken by its own handle or has
reached its deadline, and nobody who was unparked is left asleep. -/
theorem isWakeful_after (actions : List Action) : (({} : Host).after actions).IsWakeful :=
  (sound_empty.after actions).isWakeful

end Host

end Junction.Sync
