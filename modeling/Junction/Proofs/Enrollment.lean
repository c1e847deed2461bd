import Junction.Proofs.HandOffs

/-!
# Who waits on a condition variable

A thread that waits on a condition variable puts a handle onto its list, and whoever takes the
handle off the list has it to unpark. So a waiting thread is on the list or will hear that it is
no longer there, whatever happens between the test of its condition and its sleep, and also if its
time runs out at the moment at which it is signalled.

## Main definitions

* `Point.awaits?` — the condition variable on which a thread waits, and its handle
* `Monitors.Listed` — the lists of the condition variables are right
* `Monitors.Roll` — the four ways in which a step treats the lists

## Main results

* `Monitors.Listed.roll` — every step is of one of the four ways
* `Monitors.Listed.move` — every step keeps the lists right
* `Monitors.Listed.heard` — nobody who waits is forgotten
-/

namespace Junction.Sync

/-! ### Requests and points -/

namespace Request

/-- The condition variable on which a request may have to wait. -/
def condvar? (r : Request) : Option Nat := (Monitors.waitOf r).map (·.1)

/-- The condition that a request waits to cease. -/
def condition? (r : Request) : Option (Int → Bool) :=
  match r.entry with
  | .direct => none
  | .whileHolds _ condition | .whileHoldsUntil _ condition _ => some condition

variable {r : Request} {value : Int}

@[simp] theorem condvar?_expire (r : Request) : r.expire.condvar? = r.condvar? := by
  unfold expire
  split
  · next heq => simp [condvar?, Monitors.waitOf, heq]
  · rfl

@[simp] theorem condition?_expire (r : Request) : r.expire.condition? = r.condition? := by
  unfold expire
  split
  · next heq => simp [condition?, heq]
  · rfl

theorem exists_condition {c : Nat} (h : r.condvar? = some c) :
    ∃ condition, r.condition? = some condition := by
  unfold condvar? Monitors.waitOf at h
  unfold condition?
  cases hentry : r.entry with
  | direct => simp [hentry] at h
  | whileHolds c condition => exact ⟨condition, rfl⟩
  | whileHoldsUntil c condition expired => exact ⟨condition, rfl⟩

theorem exists_condvar {condition : Int → Bool} (h : r.condition? = some condition) :
    ∃ c, r.condvar? = some c := by
  unfold condition? at h
  unfold condvar? Monitors.waitOf
  cases hentry : r.entry with
  | direct => simp [hentry] at h
  | whileHolds c condition => exact ⟨c, rfl⟩
  | whileHoldsUntil c condition expired => exact ⟨c, rfl⟩

/-- A request that has to wait does so because its condition holds. -/
theorem Waits.condition {c : Nat} (h : r.Waits value c) :
    r.condvar? = some c ∧ ∃ condition, r.condition? = some condition ∧ condition value = true := by
  unfold Waits at h
  unfold condvar? condition? Monitors.waitOf
  cases hentry : r.entry with
  | direct =>
    rw [hentry] at h
    exact absurd h id
  | whileHolds c' condition =>
    rw [hentry] at h
    obtain ⟨hholds, rfl⟩ := h
    exact ⟨rfl, condition, rfl, hholds⟩
  | whileHoldsUntil c' condition expired =>
    rw [hentry] at h
    obtain ⟨hholds, -, rfl⟩ := h
    exact ⟨rfl, condition, rfl, hholds⟩

/-- A request that may go on in time does so because its condition has ceased to hold. -/
theorem Admits.condition {timedOut : Bool} (h : r.Admits value timedOut) {condition : Int → Bool}
    (hcondition : r.condition? = some condition) : condition value = timedOut := by
  unfold Admits at h
  unfold condition? at hcondition
  split at h
  · next heq => simp [heq] at hcondition
  · next c' condition' heq =>
    obtain rfl : condition' = condition := by simpa [heq] using hcondition
    rw [h.1, h.2]
  · next c' condition' expired heq =>
    obtain rfl : condition' = condition := by simpa [heq] using hcondition
    exact h.1

end Request

namespace Point

/-- The use of a mutex that a thread is about to come to. -/
def request? : Point → Option Request
  | entering r | queued r _ | inside r | enrolled r _ | yielding r _ _ | asleep r _
  | withdrawing r _ => some r
  | _ => none

/-- The condition variable on which a thread waits, with the handle by which it does. -/
def awaits? : Point → Option (Nat × ParkHandle)
  | enrolled r h | yielding r h _ | asleep r h | withdrawing r h => r.condvar?.map (·, h)
  | _ => none

variable {p p' : Point} {c : Nat} {h : ParkHandle}

theorem request?_expired (h : p.expired? = some p') :
    p'.request? = p.request?.map Request.expire := by
  cases p with
  | parked handle expired =>
    cases expired with
    | none => cases h
    | some passed =>
      cases h
      rfl
  | _ => cases h <;> rfl

theorem awaits?_expired (h : p.expired? = some p') : p'.awaits? = p.awaits? := by
  cases p with
  | parked handle expired =>
    cases expired with
    | none => cases h
    | some passed =>
      cases h
      rfl
  | enrolled | yielding | asleep | withdrawing =>
    cases h
    simp [awaits?]
  | _ => cases h <;> rfl

theorem handle?_of_awaits (hawaits : p.awaits? = some (c, h)) : p.handle? = some h := by
  cases p with
  | enrolled | yielding | asleep | withdrawing =>
    obtain ⟨c', -, heq⟩ := Option.map_eq_some_iff.1 hawaits
    cases heq
    rfl
  | _ => cases hawaits

theorem awaits?_of_leaving {m : Nat} (hleaving : p.standing = .leaving m) : p.awaits? = none := by
  cases p with
  | leaving | releasing => rfl
  | _ => cases hleaving

/-- A thread that waits does so for the sake of a request. -/
theorem request?_of_awaits (hawaits : p.awaits? = some (c, h)) :
    ∃ r, p.request? = some r ∧ r.condvar? = some c := by
  cases p with
  | enrolled r | yielding r | asleep r | withdrawing r =>
    obtain ⟨c', hcondvar, heq⟩ := Option.map_eq_some_iff.1 hawaits
    cases heq
    exact ⟨r, rfl, hcondvar⟩
  | _ => cases hawaits

end Point

namespace Monitors

variable {s s' : Monitors} {t u : ThreadId} {c c' m : Nat} {h h' : ParkHandle} {r : Request}

/-- A thread comes to a use of a mutex that it was about to come to before, or has just begun. -/
theorem Move.request_cases (move : s.Move t s') (hr : (s'.point u).request? = some r) :
    (∃ r₀, (s.point u).request? = some r₀ ∧ (r = r₀ ∨ r = r₀.expire)) ∨
      (u = t ∧ (∃ last, s.point t = .idle last) ∧ s'.point t = .entering r) := by
  by_cases hu : u = t
  · subst hu
    cases move with
    | request r' idle => exact .inr ⟨rfl, ⟨_, idle⟩, by simpa [Point.request?] using hr⟩
    | expire p expired =>
      rw [point_goTo, if_pos rfl, Point.request?_expired expired, Option.map_eq_some_iff] at hr
      obtain ⟨r₀, hr₀, rfl⟩ := hr
      exact .inl ⟨r₀, hr₀, .inr rfl⟩
    | nudge | retire => exact .inl ⟨r, hr, .inl rfl⟩
    | _ =>
      left
      refine ⟨r, ?_, .inl rfl⟩
      simp_all [Point.request?]
  · rw [move.point_other hu] at hr
    exact .inl ⟨r, hr, .inl rfl⟩

/-! ### Lists -/

/-- A handle with a number was unparked, or some thread has it still to unpark. -/
def IsCalled (s : Monitors) (i : Nat) : Prop :=
  s.parking.tokens.get i = true ∨ ∃ u, ∃ h ∈ (s.point u).wakes, h.id = i

/-- The lists of the condition variables are right. -/
structure Listed (s : Monitors) : Prop where
  /-- Whoever is on a list waits there. -/
  awaits : ∀ c, ∀ h ∈ s.condvars.get c, (s.point h.owner).awaits? = some (c, h)
  /-- No handle is on a list twice. -/
  nodup : ∀ c, (s.condvars.get c).Nodup
  /-- Nobody on a list was woken, or is about to be. -/
  quiet : ∀ c, ∀ h ∈ s.condvars.get c, ¬ s.IsCalled h.id
  /-- Whoever waits and is not on the list was woken, or is about to be. -/
  heard : ∀ t c h, (s.point t).awaits? = some (c, h) → h ∈ s.condvars.get c ∨ s.IsAlerted h

/-- The four ways in which a step of a thread treats the lists of the condition variables. -/
inductive Roll (s : Monitors) (t : ThreadId) (s' : Monitors) : Prop
  /-- Nobody comes, and nobody goes. -/
  | still (condvars : s'.condvars = s.condvars)
      (awaits : (s'.point t).awaits? = (s.point t).awaits?)
      (wakes : ∀ h ∈ (s'.point t).wakes,
        h ∈ (s.point t).wakes ∨ s.IsLoose h ∨ ∃ m, h ∈ s.waiters m)
  /-- The thread puts a new handle onto a list, because its condition holds. -/
  | enroll (r : Request) (c : Nat) (h : ParkHandle) (inside : s.point t = .inside r)
      (waits : r.Waits (s.mutexes.get r.mutex).value c) (new : h = ⟨s.parking.issued, t⟩)
      (condvars : s'.condvars = s.condvars.set c (s.condvars.get c ++ [h]))
      (mutexes : s'.mutexes = s.mutexes) (enrolled : s'.point t = .enrolled r h)
  /-- The thread is woken or has given up, and its handle is on no list any more. -/
  | quit (r : Request) (c : Nat) (h : ParkHandle) (awaits : (s.point t).awaits? = some (c, h))
      (condvars : ∀ c', s'.condvars.get c' = (s.condvars.get c').filter (· != h))
      (entering : s'.point t = .entering r)
  /-- The thread has the mutex and takes handles off a list, to unpark them. -/
  | take (c m : Nat) (taken kept : List ParkHandle) (leaving : s.standing t = .leaving m)
      (list : s.condvars.get c = taken ++ kept) (condvars : s'.condvars = s.condvars.set c kept)
      (awaits : (s'.point t).awaits? = none) (wakes : (s'.point t).wakes = taken)

namespace Listed

variable (hlisted : s.Listed) (hfair : s.Fair)
include hlisted hfair

/-- A handle on a list is on no other list, and nobody else has it. -/
theorem eq_of_id (hh : h ∈ s.condvars.get c) (hawaits : (s.point t).awaits? = some (c', h'))
    (hid : h.id = h'.id) : h = h' ∧ c = c' ∧ t = h.owner := by
  have hown := hlisted.awaits c h hh
  have howner := hfair.numbered.distinct _ _ h h' (Point.handle?_of_awaits hown)
    (Point.handle?_of_awaits hawaits) hid
  rw [← howner, hown] at hawaits
  cases hawaits
  exact ⟨rfl, rfl, howner.symm⟩

/-- A handle by which a thread waits is on no other list. -/
theorem condvar_of_mem (hawaits : (s.point t).awaits? = some (c, h)) (hh : h ∈ s.condvars.get c') :
    c' = c :=
  (hlisted.eq_of_id hfair hh hawaits rfl).2.1

omit hfair in
/-- A handle that was unparked is on no list. -/
theorem filter_of_unparked (hunparked : s.parking.isUnparked h = true) (c : Nat) :
    (s.condvars.get c).filter (· != h) = s.condvars.get c := by
  refine List.filter_eq_self.2 fun h' hh' => ?_
  have hne : h' ≠ h := by
    rintro rfl
    exact hlisted.quiet c h' hh' (.inl hunparked)
  simpa using hne

theorem filter_of_other (hawaits : (s.point t).awaits? = some (c, h)) (hc : c' ≠ c) :
    (s.condvars.get c').filter (· != h) = s.condvars.get c' := by
  refine List.filter_eq_self.2 fun h' hh' => ?_
  have hne : h' ≠ h := by
    rintro rfl
    exact hc (hlisted.condvar_of_mem hfair hawaits hh')
  simpa using hne

/-- Every step is of one of the four ways. -/
theorem roll (move : s.Move t s') : s.Roll t s' := by
  cases move with
  | enroll r c inside waits => exact .enroll r c _ inside waits rfl rfl rfl (by simp)
  | rouse r h asleep unparked =>
    cases hcondvar : r.condvar? with
    | none => exact .still rfl (by simp [asleep, Point.awaits?, hcondvar]) (by simp [Point.wakes])
    | some c =>
      exact .quit r c h (by simp [asleep, Point.awaits?, hcondvar])
        (fun c' => (hlisted.filter_of_unparked unparked c').symm) (by simp)
  | withdraw r h c expired withdrawing waits =>
    have hawaits : (s.point t).awaits? = some (c, h) := by
      simp [withdrawing, Point.awaits?, Request.condvar?, waits]
    refine .quit r c h hawaits (fun c' => ?_) (by simp)
    simp only [condvars_goTo, condvars_setCondvar, Table.get_set]
    split
    · next hc => rw [hc]
    · next hc => exact (hlisted.filter_of_other hfair hawaits hc).symm
  | retry r h withdrawing direct =>
    refine .still rfl ?_ (by simp [Point.wakes])
    simp [withdrawing, Point.awaits?, Request.condvar?, direct]
  | signal m c outcome leaving =>
    refine .take c m (s.condvars.get c).head?.toList (s.condvars.get c).tail ?_ ?_ rfl ?_ ?_
    · simp [standing, leaving, Point.standing]
    · cases s.condvars.get c <;> rfl
    · simp [Point.awaits?]
    · simp [Point.wakes]
  | broadcast m c outcome leaving =>
    refine .take c m (s.condvars.get c) [] ?_ (List.append_nil _).symm rfl ?_ ?_
    · simp [standing, leaving, Point.standing]
    · simp [Point.awaits?]
    · simp [Point.wakes]
  | yield r h enrolled =>
    refine .still rfl (by simp [enrolled, Point.awaits?]) fun h' hh' => .inr (.inr ⟨r.mutex, ?_⟩)
    have hhead : (s.waiters r.mutex).head? = some h' := by
      simpa [waiters, Point.wakes, Mutex.release_snd] using hh'
    exact List.mem_of_mem_head? hhead
  | release m woken outcome releasing =>
    refine .still rfl (by simp [releasing, Point.awaits?]) fun h' hh' => ?_
    simp only [point_goTo, if_pos, Point.wakes, Mutex.release_snd, List.mem_append,
      Option.mem_toList] at hh'
    rcases hh' with hhead | hwoken
    · exact .inr (.inr ⟨m, List.mem_of_mem_head? hhead⟩)
    · exact .inl (by simpa [releasing, Point.wakes] using hwoken)
  | unpark h idle loose =>
    refine .still rfl (by simp [idle, Point.awaits?]) fun h' hh' => .inr (.inl ?_)
    obtain rfl : h' = h := by simpa [Point.wakes] using hh'
    exact loose
  | expire p expired =>
    refine .still rfl (by simpa using Point.awaits?_expired expired) fun h hh => .inl ?_
    simpa [Point.wakes_expired expired] using hh
  | nudge | retire => exact .still rfl rfl fun h hh => .inl hh
  | _ =>
    refine .still rfl ?_ fun h hh => .inl ?_
    · simp_all [Point.awaits?]
    · simp_all [Point.wakes]

/-- Nobody on a list is called by a step that takes no handle off a list. -/
theorem quiet_of_stays (move : s.Move t s') (hh : h ∈ s.condvars.get c)
    (hwakes : ∀ h' ∈ (s'.point t).wakes, h'.id = h.id →
      h' ∈ (s.point t).wakes ∨ s.IsLoose h' ∨ ∃ m, h' ∈ s.waiters m) : ¬ s'.IsCalled h.id := by
  have hquiet := hlisted.quiet c h hh
  have hloose : ∀ h', s.IsLoose h' → h'.id ≠ h.id := fun h' loose hid =>
    loose.unlisted c h hh hid.symm
  rintro (htoken | ⟨u, h', hh', hid⟩)
  · rcases move.token_cases htoken with htoken | ⟨h', hh', hid⟩ | ⟨h', loose, hid⟩
    · exact hquiet (.inl htoken)
    · exact hquiet (.inr ⟨t, h', hh', hid⟩)
    · exact hloose h' loose hid
  · by_cases hu : u = t
    · subst hu
      rcases hwakes h' hh' hid with hold | loose | ⟨m, hwaiter⟩
      · exact hquiet (.inr ⟨u, h', hold, hid⟩)
      · exact hloose h' loose hid
      · exact hfair.silent m h' hwaiter (.inr (.inl ⟨c, h, hh, hid.symm⟩))
    · rw [move.point_other hu] at hh'
      exact hquiet (.inr ⟨u, h', hh', hid⟩)

omit hlisted in
/-- A new handle is not called by the step that makes it. -/
theorem not_isCalled_new (move : s.Move t s') (hwakes : (s'.point t).wakes = []) :
    ¬ s'.IsCalled s.parking.issued := by
  have hdestined : ∀ i, s.IsDestined i → i ≠ s.parking.issued :=
    fun i hi => Nat.ne_of_lt (hfair.numbered.destined i hi)
  rintro (htoken | ⟨u, h, hh, hid⟩)
  · rcases move.token_cases htoken with htoken | ⟨h, hh, hid⟩ | ⟨h, loose, hid⟩
    · exact hdestined _ (.inl htoken) rfl
    · exact hdestined _ (.inr (.inr ⟨t, h, hh, hid⟩)) rfl
    · exact Nat.ne_of_lt loose.issued hid
  · have hu : u ≠ t := by
      rintro rfl
      rw [hwakes] at hh
      cases hh
    rw [move.point_other hu] at hh
    exact hdestined _ (.inr (.inr ⟨u, h, hh, hid⟩)) rfl

theorem of_still (move : s.Move t s') (condvars : s'.condvars = s.condvars)
    (awaits : (s'.point t).awaits? = (s.point t).awaits?)
    (wakes : ∀ h ∈ (s'.point t).wakes,
      h ∈ (s.point t).wakes ∨ s.IsLoose h ∨ ∃ m, h ∈ s.waiters m) : s'.Listed := by
  have hawaits : ∀ u, (s'.point u).awaits? = (s.point u).awaits? := by
    intro u
    by_cases hu : u = t
    · rw [hu, awaits]
    · rw [move.point_other hu]
  refine ⟨?_, ?_, ?_, ?_⟩
  · intro c h hh
    rw [hawaits]
    exact hlisted.awaits c h (condvars ▸ hh)
  · intro c
    exact condvars ▸ hlisted.nodup c
  · intro c h hh
    exact hlisted.quiet_of_stays hfair move (condvars ▸ hh) fun h' hh' _ => wakes h' hh'
  · intro u c h hawaiting
    rw [hawaits] at hawaiting
    rw [condvars]
    exact (hlisted.heard u c h hawaiting).imp_right move.alerted

theorem of_enroll (move : s.Move t s') (inside : s.point t = .inside r)
    (waits : r.Waits (s.mutexes.get r.mutex).value c) (new : h = ⟨s.parking.issued, t⟩)
    (condvars : s'.condvars = s.condvars.set c (s.condvars.get c ++ [h]))
    (enrolled : s'.point t = .enrolled r h) : s'.Listed := by
  have hmem : ∀ {c' h'}, h' ∈ s'.condvars.get c' →
      h' ∈ s.condvars.get c' ∨ c' = c ∧ h' = h := by
    intro c' h' hh'
    rw [condvars, Table.get_set] at hh'
    split at hh'
    · next hc =>
      rcases List.mem_append.1 hh' with hh' | hh'
      · exact .inl (hc ▸ hh')
      · exact .inr ⟨hc, List.mem_singleton.1 hh'⟩
    · exact .inl hh'
  have hawaits : (s'.point t).awaits? = some (c, h) := by
    simp [enrolled, Point.awaits?, waits.condition.1]
  have hwakes : (s'.point t).wakes = [] := by simp [enrolled, Point.wakes]
  refine ⟨?_, ?_, ?_, ?_⟩
  · intro c' h' hh'
    rcases hmem hh' with hold | ⟨rfl, rfl⟩
    · have hown := hlisted.awaits c' h' hold
      have hu : h'.owner ≠ t := by
        intro howner
        rw [howner, inside] at hown
        cases hown
      rw [move.point_other hu]
      exact hown
    · rw [show h'.owner = t by rw [new]]
      exact hawaits
  · intro c'
    rw [condvars, Table.get_set]
    split
    · refine List.nodup_append.2 ⟨hlisted.nodup c, by simp, ?_⟩
      intro h₁ hh₁ h₂ hh₂ heq
      -- Every handle on a list was issued before the new one.
      have hlt := hfair.numbered.destined h₁.id (.inr (.inl ⟨c, h₁, hh₁, rfl⟩))
      rw [heq, List.mem_singleton.1 hh₂, new] at hlt
      exact Nat.lt_irrefl _ hlt
    · exact hlisted.nodup c'
  · intro c' h' hh'
    rcases hmem hh' with hold | ⟨-, rfl⟩
    · exact hlisted.quiet_of_stays hfair move hold fun h₁ hh₁ _ => by simp [hwakes] at hh₁
    · rw [show h'.id = s.parking.issued by rw [new]]
      exact not_isCalled_new hfair move hwakes
  · intro u c' h' hawaiting
    have hstays : ∀ {h'}, h' ∈ s.condvars.get c' → h' ∈ s'.condvars.get c' := by
      intro h' hh'
      rw [condvars, Table.get_set]
      split
      · next hc => exact List.mem_append_left _ (hc ▸ hh')
      · exact hh'
    by_cases hu : u = t
    · rw [hu, hawaits] at hawaiting
      cases hawaiting
      exact .inl (by simp [condvars])
    · rw [move.point_other hu] at hawaiting
      exact (hlisted.heard u c' h' hawaiting).imp hstays move.alerted

theorem of_quit (move : s.Move t s') (awaits : (s.point t).awaits? = some (c, h))
    (condvars : ∀ c', s'.condvars.get c' = (s.condvars.get c').filter (· != h))
    (entering : s'.point t = .entering r) : s'.Listed := by
  have hmem : ∀ {c' h'}, h' ∈ s'.condvars.get c' ↔ h' ∈ s.condvars.get c' ∧ h' ≠ h := by
    intro c' h'
    simp [condvars]
  refine ⟨?_, ?_, ?_, ?_⟩
  · intro c' h' hh'
    obtain ⟨hold, hne⟩ := hmem.1 hh'
    have hown := hlisted.awaits c' h' hold
    have hu : h'.owner ≠ t := by
      intro howner
      rw [howner, awaits] at hown
      cases hown
      exact hne rfl
    rw [move.point_other hu]
    exact hown
  · intro c'
    rw [condvars]
    exact (hlisted.nodup c').filter _
  · intro c' h' hh'
    refine hlisted.quiet_of_stays hfair move (hmem.1 hh').1 fun h₁ hh₁ _ => ?_
    simp [entering, Point.wakes] at hh₁
  · intro u c' h' hawaiting
    have hu : u ≠ t := by
      rintro rfl
      simp [entering, Point.awaits?] at hawaiting
    rw [move.point_other hu] at hawaiting
    refine (hlisted.heard u c' h' hawaiting).imp (fun hh' => hmem.2 ⟨hh', ?_⟩) move.alerted
    rintro rfl
    -- The handle of another thread is another handle.
    exact hu (hfair.numbered.distinct u t h' h' (Point.handle?_of_awaits hawaiting)
      (Point.handle?_of_awaits awaits) rfl)

theorem of_take (move : s.Move t s') {taken kept : List ParkHandle}
    (leaving : s.standing t = .leaving m) (list : s.condvars.get c = taken ++ kept)
    (condvars : s'.condvars = s.condvars.set c kept) (awaits : (s'.point t).awaits? = none)
    (wakes : (s'.point t).wakes = taken) : s'.Listed := by
  have hmem : ∀ {c' h'}, h' ∈ s'.condvars.get c' ↔
      h' ∈ s.condvars.get c' ∧ (c' = c → h' ∈ kept) := by
    intro c' h'
    rw [condvars, Table.get_set]
    split
    · next hc => simp +contextual [hc, list]
    · next hc => simp [hc]
  have hnodup := list ▸ hlisted.nodup c
  refine ⟨?_, ?_, ?_, ?_⟩
  · intro c' h' hh'
    have hown := hlisted.awaits c' h' (hmem.1 hh').1
    have hu : h'.owner ≠ t := by
      intro howner
      rw [howner, Point.awaits?_of_leaving leaving] at hown
      cases hown
    rw [move.point_other hu]
    exact hown
  · intro c'
    rw [condvars, Table.get_set]
    split
    · exact (List.nodup_append.1 hnodup).2.1
    · exact hlisted.nodup c'
  · intro c' h' hh'
    obtain ⟨hold, hkept⟩ := hmem.1 hh'
    refine hlisted.quiet_of_stays hfair move hold fun h₁ hh₁ hid => ?_
    have hlist : h₁ ∈ s.condvars.get c := by rw [list]; exact List.mem_append_left _ (wakes ▸ hh₁)
    -- A handle is on one list only, and there only once, so none that stays was taken.
    obtain ⟨rfl, rfl, -⟩ := hlisted.eq_of_id hfair hlist (hlisted.awaits c' h' hold) hid
    exact absurd rfl ((List.nodup_append.1 hnodup).2.2 h₁ (wakes ▸ hh₁) h₁ (hkept rfl))
  · intro u c' h' hawaiting
    have hu : u ≠ t := by
      rintro rfl
      simp [awaits] at hawaiting
    rw [move.point_other hu] at hawaiting
    rcases hlisted.heard u c' h' hawaiting with hh' | halerted
    · by_cases htaken : c' = c ∧ h' ∈ taken
      · exact .inr (.inr ⟨t, wakes ▸ htaken.2⟩)
      · refine .inl (hmem.2 ⟨hh', ?_⟩)
        rintro rfl
        rw [list, List.mem_append] at hh'
        exact hh'.resolve_left fun hh' => htaken ⟨rfl, hh'⟩
    · exact .inr (move.alerted halerted)

/-- Every step keeps the lists right. -/
theorem move (move : s.Move t s') : s'.Listed := by
  cases hlisted.roll hfair move with
  | still condvars awaits wakes => exact hlisted.of_still hfair move condvars awaits wakes
  | enroll r c h inside waits new condvars mutexes enrolled =>
    exact hlisted.of_enroll hfair move inside waits new condvars enrolled
  | quit r c h awaits condvars entering => exact hlisted.of_quit hfair move awaits condvars entering
  | take c m taken kept leaving list condvars awaits wakes =>
    exact hlisted.of_take hfair move leaving list condvars awaits wakes

end Listed

/-- Whoever is on a list after a step was there before, or has just found that his condition
holds. -/
theorem Listed.mem_cases (hlisted : s.Listed) (hfair : s.Fair) (move : s.Move t s')
    (hh : h ∈ s'.condvars.get c) :
    h ∈ s.condvars.get c ∨ h.owner = t ∧
      ∃ r, r.Waits (s.mutexes.get r.mutex).value c ∧ s.point t = .inside r ∧
        s'.point t = .enrolled r h ∧ s'.mutexes = s.mutexes := by
  cases hlisted.roll hfair move with
  | still condvars awaits wakes => exact .inl (condvars ▸ hh)
  | enroll r c' h' inside waits new condvars mutexes enrolled =>
    rw [condvars, Table.get_set] at hh
    split at hh
    · next hc =>
      rcases List.mem_append.1 hh with hh | hh
      · exact .inl (hc ▸ hh)
      · obtain rfl := List.mem_singleton.1 hh
        exact .inr ⟨by rw [new], r, hc ▸ waits, inside, enrolled, mutexes⟩
    · exact .inl hh
  | quit r c' h' awaits condvars entering =>
    rw [condvars, List.mem_filter] at hh
    exact .inl hh.1
  | take c' m taken kept leaving list condvars awaits wakes =>
    rw [condvars, Table.get_set] at hh
    split at hh
    · next hc =>
      rw [hc, list]
      exact .inl (List.mem_append_right _ hh)
    · exact .inl hh

/-! ### Beginnings and standstills -/

theorem IsFresh.listed (hfresh : s.IsFresh) : s.Listed := by
  refine ⟨?_, ?_, ?_, ?_⟩
  · simp [hfresh.condvars]
  · simp [hfresh.condvars]
  · simp [hfresh.condvars]
  · simp [hfresh.idle, Point.awaits?]

/-- A thread that waits can go on once its handle was unparked. -/
theorem isSome_step?_of_called (hawaits : (s.point t).awaits? = some (c, h))
    (hunparked : s.parking.isUnparked h = true) : (s.step? t).isSome = true := by
  unfold step?
  cases hpoint : s.point t with
  | enrolled r h' => rfl
  | yielding r h' next => cases next <;> rfl
  | withdrawing r h' =>
    dsimp only
    split <;> rfl
  | asleep r h' =>
    obtain rfl : h' = h := by
      have hhandle := Point.handle?_of_awaits hawaits
      rw [hpoint] at hhandle
      exact Option.some.inj hhandle
    simp [hunparked]
  | _ => simp [hpoint, Point.awaits?] at hawaits

/-- Whoever waits is on the list, or can go on, or somebody who can go on has it still to unpark. -/
theorem Listed.isSome_step? (hlisted : s.Listed) (hawaits : (s.point t).awaits? = some (c, h)) :
    h ∈ s.condvars.get c ∨
      ∃ u, (s.step? u).isSome = true ∧ (u = t ∨ h ∈ (s.point u).wakes) := by
  refine (hlisted.heard t c h hawaits).imp_right ?_
  rintro (hunparked | ⟨u, hwakes⟩)
  · exact ⟨t, isSome_step?_of_called hawaits hunparked, .inl rfl⟩
  · exact ⟨u, isSome_step?_of_wakes hwakes, .inr hwakes⟩

end Monitors

end Junction.Sync
