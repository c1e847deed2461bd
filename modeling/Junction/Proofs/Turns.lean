import Mathlib.Data.List.Perm.Subperm
import Mathlib.Tactic.Tauto
import Junction.Proofs.Pools

/-!
# Permits go to those who wait in their turn

Somebody who comes late may take the permit that a waiting thread was woken for, and then the thread
has to wait anew, behind those who have come after it. This does not happen if an operation begins
only when nobody can go on any more. Then a permit that is added meets no newcomer: it goes to the
first one on the list.

Deadlines are another matter. A thread whose deadline passes while a permit is on its way looks at
the permits once more, and may find that one. But it is the only thing that can come between: two
threads whose deadlines have not passed get their permits in the order in which they have blocked,
and a thread has to wait anew only if somebody late has got the permit that it was woken for. And if
deadlines, too, pass only when nobody can go on, then nothing comes between at all, and nobody who
has blocked has to do so again before it gets its permit.

## Main definitions

* `Pool.afterRests` — a pool after actions that wait until nobody can go on
* `Monitors.Ordered`, `Monitors.Punctual` — who can get to the permits, without and with
  well-behaved deadlines
* `Monitors.Steady` — who has had to wait anew, and for whose sake
* `Pool.IsInTurn`, `Pool.IsPunctual` — what is promised in both cases

## Main results

* `Monitors.Ordered.pass`, `Monitors.Ordered.enroll`, `Monitors.Ordered.signal`,
  `Monitors.Ordered.keeps` — what the steps of a thread preserve
* `Pool.isSound_and_isInTurn` — permits are neither lost nor made up, and go to those who wait in
  their turn
* `Pool.exists_vain_signal_and_overtaken` — a full semaphore, and a thread that somebody late has
  made wait anew
-/

namespace Junction.Sync

open Workers (Command)

namespace Monitors

variable {s s' : Monitors} {t u w : ThreadId} {r : Request} {command : Command}
  {queue : List ThreadId}

/-! ### Orders -/

/-- If those who are not on a list are late, then nobody but late ones is before the first one of
the list. -/
theorem pairwise_of_sublist {owners : List ThreadId} {IsLate : ThreadId → Prop}
    (hnodup : queue.Nodup) (hsublist : owners.Sublist queue)
    (hlate : ∀ w ∈ queue, w ∈ owners ∨ IsLate w) :
    queue.Pairwise fun u w => w ∈ owners.tail ∨ IsLate w ∨ IsLate u := by
  cases owners with
  | nil =>
    exact List.pairwise_of_forall_mem_list fun u _ w hw =>
      .inr (.inl ((hlate w hw).resolve_left List.not_mem_nil))
  | cons first rest =>
    obtain ⟨before, after, rfl, hfirst, hrest⟩ := List.cons_sublist_iff.1 hsublist
    have hdisjoint := (List.nodup_append.1 hnodup).2.2
    -- It is only the first one that has somebody before it who is not on the list any more.
    have hother : ∀ w ∈ before ++ after, w ≠ first → w ∈ rest ∨ IsLate w := fun w hw hne =>
      (hlate w hw).imp_left fun howner => (List.mem_cons.1 howner).resolve_left hne
    have hafter : ∀ w ∈ after, w ∈ rest ∨ IsLate w := fun w hw =>
      hother w (List.mem_append_right _ hw) fun heq => hdisjoint first hfirst w hw heq.symm
    refine List.pairwise_append.2 ⟨?_, ?_, ?_⟩
    · refine (List.nodup_append.1 hnodup).1.imp_of_mem fun {u w} hu hw hne => ?_
      by_cases hwf : w = first
      · subst hwf
        refine .inr (.inr ((hother u (List.mem_append_left _ hu) hne).resolve_left fun hin => ?_))
        exact hdisjoint u hu u (hrest.subset hin) rfl
      · exact (hother w (List.mem_append_left _ hw) hwf).imp_right .inl
    · exact List.pairwise_of_forall_mem_list fun u _ w hw => (hafter w hw).imp_right .inl
    · exact fun u _ w hw => (hafter w hw).imp_right .inl

/-- The threads that are on the list, in this order. -/
def owners (s : Monitors) : List ThreadId := s.line.map (·.owner)

/-- The deadline of a thread has passed. -/
def IsLate (s : Monitors) (t : ThreadId) : Prop := (s.point t).isLate = true

/-- A thread was woken, and its deadline has not passed. -/
def IsWoken (s : Monitors) (t : ThreadId) : Prop := t ∉ s.owners ∧ ¬ s.IsLate t

/-- A thread has begun to use the semaphore, and has neither been on the list nor finished with the
permits. -/
def IsNew (s : Monitors) (queue : List ThreadId) (t : ThreadId) : Prop :=
  (s.point t).isSignalling = true ∨ (s.point t).request?.isSome = true ∧ t ∉ queue

/-- Who can get to the permits, as far as the threads in a queue are concerned. -/
structure Ordered (s : Monitors) (queue : List ThreadId) : Prop where
  /-- Nobody is twice in the queue. -/
  nodup : queue.Nodup
  /-- The list is in the order of the queue. -/
  sublist : s.owners.Sublist queue
  /-- Everybody in the queue wants a permit. -/
  asks : ∀ w ∈ queue, ((s.point w).request?.bind Request.condvar?).isSome = true
  /-- Everybody who waits is in the queue. -/
  waits : ∀ w h, (s.point w).awaits? = some (0, h) → w ∈ queue
  /-- There is one newcomer at most. -/
  alone : ∀ u w, s.IsNew queue u → s.IsNew queue w → u = w
  /-- One thread at most was woken. -/
  lone : ∀ u ∈ queue, ∀ w ∈ queue, s.IsWoken u → s.IsWoken w → u = w
  /-- While there is a newcomer, nobody else was woken. -/
  listed : ∀ u, s.IsNew queue u → ∀ w ∈ queue, w ∈ s.owners ∨ s.IsLate w
  /-- A newcomer meets no permit that somebody waits for. -/
  vacant : ∀ u, s.IsNew queue u → (s.point u).request?.isSome = true → 0 < s.permits → queue = []
  /-- Nobody was woken for a permit before another one whose deadline has not passed either. -/
  turns : 0 < s.permits → queue.Pairwise fun u w => w ∈ s.owners ∨ s.IsLate w ∨ s.IsLate u

theorem Ordered.not_isWoken (hordered : s.Ordered queue) (hu : s.IsNew queue u) (hw : w ∈ queue) :
    ¬ s.IsWoken w :=
  fun hwoken => (hordered.listed u hu w hw).elim hwoken.1 hwoken.2

/-- What a step keeps of its own thread, it keeps of all threads. -/
theorem Move.point_congr {α : Type} (move : s.Move t s') (f : Point → α)
    (hf : f (s'.point t) = f (s.point t)) (u : ThreadId) : f (s'.point u) = f (s.point u) := by
  by_cases hut : u = t
  · rw [hut, hf]
  · rw [move.point_other hut]

theorem isLate_other (move : s.Move t s') (hu : u ≠ t) : s'.IsLate u ↔ s.IsLate u := by
  rw [IsLate, move.point_other hu, IsLate]

/-- What those who were woken in vain owe to those who have got a permit after their deadline. -/
structure Steady (s : Monitors) (queue : List ThreadId) (returns late : Nat) : Prop where
  /-- Nobody has had to wait anew but for a permit that somebody late has got. -/
  settled : returns ≤ late
  /-- Whoever was woken finds a permit, unless somebody late has got it. -/
  woken : ∀ w ∈ queue, s.IsWoken w → (returns : Int) < late + s.permits
  /-- So will whoever is about to be woken. -/
  signalling : ∀ u, (s.point u).isSignalling = true → (returns : Int) < late + s.permits

/-- What holds in addition if deadlines, too, pass only when nobody can go on. -/
structure Punctual (s : Monitors) (queue : List ThreadId) : Prop where
  /-- While somebody in the queue is late, there is neither a permit nor a newcomer. -/
  late : ∀ w ∈ queue, s.IsLate w → s.permits = 0 ∧ ∀ u, ¬ s.IsNew queue u
  /-- Whoever was woken finds a permit. -/
  woken : ∀ w ∈ queue, s.IsWoken w → 0 < s.permits

/-! ### At the permits -/

section Inside

variable (hordered : s.Ordered queue) (hlisted : s.Listed) (inside : s.point t = .inside r)
include inside

theorem isNew_of_inside (ht : t ∉ queue) : s.IsNew queue t :=
  .inr ⟨by rw [inside]; rfl, ht⟩

include hlisted in
theorem not_mem_owners_of_inside : t ∉ s.owners := by
  intro ht
  obtain ⟨h, hh, rfl⟩ := List.mem_map.1 ht
  have hawaits := hlisted.awaits 0 h hh
  rw [inside] at hawaits
  cases hawaits

include hlisted in
/-- A thread at the permits is not on the list, so it was woken or is late. -/
theorem isWoken_of_inside : s.IsWoken t ↔ r.isLate = false := by
  rw [IsWoken, IsLate, Point.isLate, inside, Point.request?, Option.any_some, Bool.not_eq_true]
  exact and_iff_right (not_mem_owners_of_inside hlisted inside)

include hordered

/-- Whoever comes to the permits beside a newcomer comes from the queue. -/
theorem Ordered.mem_of_isNew (hut : u ≠ t) (hu : s.IsNew queue u) : t ∈ queue := by
  by_contra ht
  exact hut (hordered.alone u t hu (isNew_of_inside inside ht))

/-- So does whoever comes there while somebody was woken. -/
theorem Ordered.mem_of_isWoken (hw : w ∈ queue) (hwoken : s.IsWoken w) : t ∈ queue := by
  by_contra ht
  exact hordered.not_isWoken (isNew_of_inside inside ht) hw hwoken

include hlisted in
/-- Only a late one can be at the permits while somebody is about to signal. -/
theorem Ordered.isLate_of_signalling (hu : (s.point u).isSignalling = true) :
    t ∈ queue ∧ r.isLate = true := by
  have hnew : s.IsNew queue u := .inl hu
  have hut : u ≠ t := by
    rintro rfl
    rw [inside] at hu
    cases hu
  have ht := hordered.mem_of_isNew inside hut hnew
  refine ⟨ht, eq_true_of_ne_false fun hlate => ?_⟩
  exact hordered.not_isWoken hnew ht ((isWoken_of_inside hlisted inside).2 hlate)

end Inside

section Pass

variable (hordered : s.Ordered queue) (move : s.Move t s') (hlisted : s.Listed)
  (hnonneg : 0 ≤ s.permits) {timedOut : Bool} (inside : s.point t = .inside r)
  (asks : Ask command r) (admits : r.Admits s.permits timedOut)
  (point : s'.point t = .leaving 0 (r.leave s.permits) (.entered s.permits timedOut))
  (permits : s'.permits = r.change timedOut s.permits) (line : s'.line = s.line)

include hordered inside asks in
/-- Nobody in the queue adds a permit. -/
theorem Ordered.given_eq_zero (ht : t ∈ queue) (outcome : Outcome) : given command outcome = 0 := by
  have hcondvar := hordered.asks t ht
  rw [inside, Point.request?, Option.bind_some] at hcondvar
  obtain ⟨c, hc⟩ := Option.isSome_iff_exists.1 hcondvar
  exact asks.given_of_waited hc outcome

include asks admits permits in
theorem permits_of_pass : s'.permits + taken command (.entered s.permits timedOut) =
    s.permits + given command (.entered s.permits timedOut) :=
  permits ▸ asks.change admits

include hordered move inside asks point in
theorem Ordered.isNew_of_pass (hu : s'.IsNew (queue.erase t) u) : s.IsNew queue u := by
  by_cases hut : u = t
  · subst hut
    refine isNew_of_inside inside fun ht => ?_
    rw [IsNew, point, asks.leave _ timedOut, if_pos (hordered.given_eq_zero inside asks ht _)] at hu
    simp [Point.isSignalling, Point.request?] at hu
  · rw [IsNew, move.point_other hut] at hu
    exact hu.imp_right (And.imp_right fun hout hin =>
      hout (hordered.nodup.mem_erase_iff.2 ⟨hut, hin⟩))

include move line in
theorem isWoken_of_pass (hwt : w ≠ t) : s'.IsWoken w ↔ s.IsWoken w := by
  rw [IsWoken, owners, line, isLate_other move hwt, IsWoken, owners]

include hordered move hlisted hnonneg inside asks admits point permits line

/-- A thread goes its way from the permits. -/
theorem Ordered.pass : s'.Ordered (queue.erase t) := by
  have howners : s'.owners = s.owners := by rw [owners, line, owners]
  have haway := not_mem_owners_of_inside hlisted inside
  have hmem : ∀ {w}, w ∈ queue.erase t ↔ w ≠ t ∧ w ∈ queue := hordered.nodup.mem_erase_iff
  have hchange := permits_of_pass asks admits permits
  have hgiven := fun ht => hordered.given_eq_zero inside asks ht (.entered s.permits timedOut)
  have hnew : ∀ {u}, s'.IsNew (queue.erase t) u → s.IsNew queue u :=
    hordered.isNew_of_pass move inside asks point
  refine ⟨hordered.nodup.erase t, ?_, fun w hw => ?_, fun w h hw => ?_, ?_, fun u hu w hw => ?_, ?_,
    ?_, fun hpos => ?_⟩
  · rw [howners, ← List.erase_of_not_mem haway]
    exact hordered.sublist.erase t
  · obtain ⟨hwt, hw⟩ := hmem.1 hw
    rw [move.point_other hwt]
    exact hordered.asks w hw
  · have hwt : w ≠ t := by
      rintro rfl
      simp [point, Point.awaits?] at hw
    rw [move.point_other hwt] at hw
    exact hmem.2 ⟨hwt, hordered.waits w h hw⟩
  · exact fun u w hu hw => hordered.alone u w (hnew hu) (hnew hw)
  · rw [isWoken_of_pass move line (hmem.1 hu).1, isWoken_of_pass move line (hmem.1 hw).1]
    exact hordered.lone u (hmem.1 hu).2 w (hmem.1 hw).2
  · intro u hu w hw
    obtain ⟨hwt, hw⟩ := hmem.1 hw
    rw [howners, isLate_other move hwt]
    exact hordered.listed u (hnew hu) w hw
  · intro u hu hr hpos
    have hut : u ≠ t := by
      rintro rfl
      rw [point] at hr
      cases hr
    have ht := hordered.mem_of_isNew inside hut (hnew hu)
    have hzero := hgiven ht
    rw [move.point_other hut] at hr
    rw [hordered.vacant u (hnew hu) hr (by omega)] at ht
    cases ht
  · by_cases ht : t ∈ queue
    · have hzero := hgiven ht
      have hturns := (hordered.turns (by omega)).sublist (List.erase_sublist (a := t))
      refine hturns.imp_of_mem fun {u w} hu hw => ?_
      rw [howners, isLate_other move (hmem.1 hu).1, isLate_other move (hmem.1 hw).1]
      exact id
    · have hself := isNew_of_inside inside ht
      by_cases hzero : given command (.entered s.permits timedOut) = 0
      · rw [hordered.vacant t hself (by rw [inside]; rfl) (by omega)]
        exact List.Pairwise.nil
      · -- The permit is new, and nobody was woken yet.
        refine List.pairwise_of_forall_mem_list fun u _ w hw => ?_
        rw [howners, ← or_assoc, isLate_other move (hmem.1 hw).1]
        exact .inl (hordered.listed t hself w (hmem.1 hw).2)

/-- If a permit goes to somebody late, then whoever was woken may have to wait anew. -/
theorem Steady.pass {returns late : Nat} (hsteady : s.Steady queue returns late) :
    s'.Steady (queue.erase t) returns
      (late + if r.isLate then taken command (.entered s.permits timedOut) else 0) := by
  have hchange := permits_of_pass asks admits permits
  have hsettled := hsteady.settled
  -- What a late one takes from the permits, it adds to what is owed.
  have hlate : t ∈ queue → r.isLate = true → (returns : Int) < late + s.permits →
      (returns : Int) < ↑(late + if r.isLate then taken command (.entered s.permits timedOut)
        else 0) + s'.permits := by
    intro ht hlate hroom
    have hzero := hordered.given_eq_zero inside asks ht (.entered s.permits timedOut)
    rw [if_pos hlate]
    omega
  refine ⟨Nat.le_add_right_of_le hsettled, fun w hw hw' => ?_, fun u hu => ?_⟩
  · obtain ⟨hwt, hw⟩ := hordered.nodup.mem_erase_iff.1 hw
    rw [isWoken_of_pass move line hwt] at hw'
    have ht := hordered.mem_of_isWoken inside hw hw'
    refine hlate ht (eq_true_of_ne_false fun hearly => ?_) (hsteady.woken w hw hw')
    have hself := (isWoken_of_inside hlisted inside).2 hearly
    exact hwt (hordered.lone w hw t ht hw' hself)
  · by_cases hut : u = t
    · -- The permit is new.
      rw [hut, point, asks.leave _ timedOut] at hu
      split at hu
      · cases hu
      · next hne =>
        obtain ⟨hone, hnone⟩ := asks.taken_of_given hne
        split <;> omega
    · rw [move.point_other hut] at hu
      obtain ⟨ht, hr⟩ := hordered.isLate_of_signalling hlisted inside hu
      exact hlate ht hr (hsteady.signalling u hu)

theorem Punctual.pass (hpunctual : s.Punctual queue) : s'.Punctual (queue.erase t) := by
  have hmem : ∀ {w}, w ∈ queue.erase t ↔ w ≠ t ∧ w ∈ queue := hordered.nodup.mem_erase_iff
  have hchange := permits_of_pass asks admits permits
  have htaken := asks.taken_le admits hnonneg
  refine ⟨fun w hw hlate => ?_, fun w hw hw' => ?_⟩
  · obtain ⟨hwt, hw⟩ := hmem.1 hw
    obtain ⟨hnone, hnew⟩ := hpunctual.late w hw ((isLate_other move hwt).1 hlate)
    have ht : t ∈ queue := by
      by_contra ht
      exact hnew t (isNew_of_inside inside ht)
    have hzero := hordered.given_eq_zero inside asks ht (.entered s.permits timedOut)
    exact ⟨by omega, fun u hu => hnew u (hordered.isNew_of_pass move inside asks point hu)⟩
  · exfalso
    obtain ⟨hwt, hw⟩ := hmem.1 hw
    rw [isWoken_of_pass move line hwt] at hw'
    have ht := hordered.mem_of_isWoken inside hw hw'
    -- It is not for a late one that a permit is there.
    have hself : s.IsWoken t := by
      refine ⟨not_mem_owners_of_inside hlisted inside, fun hlate => ?_⟩
      exact absurd (hpunctual.late t ht hlate).1 (ne_of_gt (hpunctual.woken w hw hw'))
    exact hwt (hordered.lone w hw t ht hw' hself)

end Pass

section Enroll

variable (hordered : s.Ordered queue) (move : s.Move t s') (hlisted : s.Listed) {h : ParkHandle}
  (inside : s.point t = .inside r) (asks : Ask command r) (waits : r.Waits s.permits 0)
  (owner : h.owner = t) (point : s'.point t = .enrolled r h) (permits : s'.permits = s.permits)
  (line : s'.line = s.line ++ [h])

include hordered in
theorem Ordered.mem_of_enroll : w ∈ queue.erase t ++ [t] ↔ w = t ∨ w ∈ queue := by
  rw [List.mem_append, hordered.nodup.mem_erase_iff, List.mem_singleton]
  tauto

include hordered move point in
theorem Ordered.isNew_of_enroll (hu : s'.IsNew (queue.erase t ++ [t]) u) :
    s.IsNew queue u := by
  by_cases hut : u = t
  · rw [hut, IsNew, point] at hu
    simp [Point.isSignalling] at hu
  · rw [IsNew, move.point_other hut] at hu
    exact hu.imp_right (And.imp_right fun hout hin => hout (hordered.mem_of_enroll.2 (.inr hin)))

include hlisted inside waits

/-- Nobody has to wait after its deadline. -/
theorem isWoken_of_enroll : s.IsWoken t := (isWoken_of_inside hlisted inside).2 waits.isLate

include hordered move owner line

/-- Nobody else was woken. -/
theorem Ordered.not_isWoken_of_enroll (hw : w ∈ queue.erase t ++ [t]) : ¬ s'.IsWoken w := by
  have howners : s'.owners = s.owners ++ [t] := by simp [owners, line, owner]
  rintro ⟨hout, hlate⟩
  rw [howners, List.mem_append, List.mem_singleton, not_or] at hout
  have hw := (hordered.mem_of_enroll.1 hw).resolve_left hout.2
  have hwoken : s.IsWoken w := ⟨hout.1, mt (isLate_other move hout.2).2 hlate⟩
  have ht := hordered.mem_of_isWoken inside hw hwoken
  exact hout.2 (hordered.lone w hw t ht hwoken (isWoken_of_enroll hlisted inside waits))

include asks point permits

/-- A thread that has found no permit goes behind all others. -/
theorem Ordered.enroll : s'.Ordered (queue.erase t ++ [t]) := by
  have howners : s'.owners = s.owners ++ [t] := by simp [owners, line, owner]
  have haway := not_mem_owners_of_inside hlisted inside
  have hnone : s'.permits = 0 := permits.trans (asks.waits waits).2
  have hmem : ∀ {w}, w ∈ queue.erase t ++ [t] ↔ w = t ∨ w ∈ queue := hordered.mem_of_enroll
  have hnew : ∀ {u}, s'.IsNew (queue.erase t ++ [t]) u → s.IsNew queue u :=
    hordered.isNew_of_enroll move point
  refine ⟨?_, ?_, fun w hw => ?_, fun w h' hw => ?_, ?_, fun u hu w hw hu' => ?_, ?_, ?_,
    fun hpos => ?_⟩
  · refine List.nodup_append.2 ⟨hordered.nodup.erase t, List.nodup_singleton t, ?_⟩
    rintro u hu _ hw rfl
    exact (hordered.nodup.mem_erase_iff.1 hu).1 (List.mem_singleton.1 hw)
  · rw [howners, ← List.erase_of_not_mem haway]
    exact (hordered.sublist.erase t).append_right [t]
  · by_cases hwt : w = t
    · rw [hwt, point, Point.request?, Option.bind_some, waits.condition.1]
      rfl
    · rw [move.point_other hwt]
      exact hordered.asks w ((hmem.1 hw).resolve_left hwt)
  · by_cases hwt : w = t
    · exact hmem.2 (.inl hwt)
    · rw [move.point_other hwt] at hw
      exact hmem.2 (.inr (hordered.waits w h' hw))
  · exact fun u w hu hw => hordered.alone u w (hnew hu) (hnew hw)
  · exact absurd hu' (hordered.not_isWoken_of_enroll move hlisted inside waits owner line hu)
  · intro u hu w hw
    rw [howners, List.mem_append, List.mem_singleton]
    by_cases hwt : w = t
    · exact .inl (.inr hwt)
    · rw [isLate_other move hwt]
      exact (hordered.listed u (hnew hu) w ((hmem.1 hw).resolve_left hwt)).imp_left .inl
  · intro u hu hr hpos
    exact absurd hnone (ne_of_gt hpos)
  · exact absurd hnone (ne_of_gt hpos)

omit permits in
/-- Whoever was woken in vain has to wait anew. -/
theorem Steady.enroll {returns late : Nat} (hsteady : s.Steady queue returns late) :
    s'.Steady (queue.erase t ++ [t]) (returns + queue.count t) late := by
  have hnone : s.permits = 0 := (asks.waits waits).2
  refine ⟨?_, fun w hw hw' => ?_, fun u hu => ?_⟩
  · by_cases ht : t ∈ queue
    · have hroom := hsteady.woken t ht (isWoken_of_enroll hlisted inside waits)
      rw [List.count_eq_one_of_mem hordered.nodup ht]
      omega
    · rw [List.count_eq_zero_of_not_mem ht]
      exact hsteady.settled
  · exact absurd hw' (hordered.not_isWoken_of_enroll move hlisted inside waits owner line hw)
  · exfalso
    have hut : u ≠ t := by
      rintro rfl
      rw [point] at hu
      cases hu
    rw [move.point_other hut] at hu
    have hlate := (hordered.isLate_of_signalling hlisted inside hu).2
    exact Bool.false_ne_true (waits.isLate.symm.trans hlate)

omit asks in
theorem Punctual.enroll (hpunctual : s.Punctual queue) :
    s'.Punctual (queue.erase t ++ [t]) := by
  refine ⟨fun w hw hlate => ?_, fun w hw hw' => ?_⟩
  · have hwt : w ≠ t := by
      rintro rfl
      rw [IsLate, point, Point.isLate, Point.request?, Option.any_some, waits.isLate] at hlate
      cases hlate
    have hw := (hordered.mem_of_enroll.1 hw).resolve_left hwt
    obtain ⟨hnone, hnew⟩ := hpunctual.late w hw ((isLate_other move hwt).1 hlate)
    exact ⟨permits.trans hnone, fun u hu => hnew u (hordered.isNew_of_enroll move point hu)⟩
  · exact absurd hw' (hordered.not_isWoken_of_enroll move hlisted inside waits owner line hw)

end Enroll

/-! ### At the list -/

section Signal

variable (hordered : s.Ordered queue) (move : s.Move t s') {outcome : Outcome}
  (point : s.point t = .leaving 0 (.signal 0) outcome)
  (releasing : s'.point t = .releasing 0 s.line.head?.toList outcome)
  (line : s'.line = s.line.tail)

include point in
theorem isNew_of_signal : s.IsNew queue t := .inl (by rw [point]; rfl)

include hordered move point releasing

theorem Ordered.not_isNew_of_signal (u : ThreadId) : ¬ s'.IsNew queue u := by
  intro hu
  by_cases hut : u = t
  · rw [hut, IsNew, releasing] at hu
    simp [Point.isSignalling, Point.request?] at hu
  · rw [IsNew, move.point_other hut] at hu
    exact hut (hordered.alone u t hu (isNew_of_signal point))

include line

/-- A thread that has added a permit wakes the first one on the list, and everybody before that one
in the queue is late. -/
theorem Ordered.signal : s'.Ordered queue := by
  have howners : s'.owners = s.owners.tail := by rw [owners, line, owners, List.map_tail]
  have hlisted := hordered.listed t (isNew_of_signal point)
  have hnone := hordered.not_isNew_of_signal move point releasing
  have hne : ∀ {w}, w ∈ queue → w ≠ t := by
    rintro w hw rfl
    have hasks := hordered.asks w hw
    rw [point] at hasks
    cases hasks
  refine ⟨hordered.nodup, ?_, fun w hw => ?_, fun w h hw => ?_, fun u _ hu => absurd hu (hnone u),
    fun u hu w hw hu' hw' => ?_, fun u hu => absurd hu (hnone u), fun u hu => absurd hu (hnone u),
    fun hpos => ?_⟩
  · rw [howners]
    exact (List.tail_sublist _).trans hordered.sublist
  · rw [move.point_other (hne hw)]
    exact hordered.asks w hw
  · have hwt : w ≠ t := by
      rintro rfl
      rw [releasing] at hw
      cases hw
    rw [move.point_other hwt] at hw
    exact hordered.waits w h hw
  · have hfirst : ∀ v ∈ queue, s'.IsWoken v → s.owners.head? = some v := by
      rintro v hv ⟨hout, hlate⟩
      have howner := (hlisted v hv).resolve_right (mt (isLate_other move (hne hv)).2 hlate)
      rw [howners] at hout
      cases hlist : s.owners with
      | nil => simp [hlist] at howner
      | cons first rest =>
        rw [hlist, List.tail_cons] at hout
        rw [hlist, List.mem_cons] at howner
        rw [List.head?_cons, howner.resolve_right hout]
    exact Option.some.inj ((hfirst u hu hu').symm.trans (hfirst w hw hw'))
  · have hturns := pairwise_of_sublist hordered.nodup hordered.sublist hlisted
    refine hturns.imp_of_mem fun {u w} hu hw => ?_
    rw [howners, isLate_other move (hne hu), isLate_other move (hne hw)]
    exact id

omit line in
/-- There is a permit for whoever is woken. -/
theorem Steady.signal {returns late : Nat} (hsteady : s.Steady queue returns late)
    (permits : s'.permits = s.permits) : s'.Steady queue returns late := by
  have hroom := hsteady.signalling t (by rw [point]; rfl)
  refine ⟨hsteady.settled, fun w _ _ => permits ▸ hroom, fun u hu => ?_⟩
  exact absurd (.inl hu) (hordered.not_isNew_of_signal move point releasing u)

omit hordered line in
theorem Punctual.signal (hpunctual : s.Punctual queue) (permits : s'.permits = s.permits)
    (hpos : 0 < s.permits) : s'.Punctual queue := by
  have hself : s.IsNew queue t := isNew_of_signal point
  refine ⟨fun w hw hlate => ?_, fun _ _ _ => permits ▸ hpos⟩
  have hwt : w ≠ t := by
    rintro rfl
    rw [IsLate, releasing] at hlate
    cases hlate
  exact absurd hself ((hpunctual.late w hw ((isLate_other move hwt).1 hlate)).2 t)

end Signal

/-- A step that brings nobody to the permits who has not been on the way there, and takes nobody but
late ones off the list. -/
structure Keeps (s : Monitors) (t : ThreadId) (s' : Monitors) : Prop where
  /-- The permits stay. -/
  permits : s'.permits = s.permits
  /-- Nobody comes onto the list. -/
  sublist : s'.owners.Sublist s.owners
  /-- Whoever leaves it is late. -/
  kept : ∀ w ∈ s.owners, w ∈ s'.owners ∨ s'.IsLate w
  /-- Whoever is late stays late. -/
  late : ∀ w, s.IsLate w → s'.IsLate w
  /-- The thread is about to signal if it was so before. -/
  signalling : (s'.point t).isSignalling = (s.point t).isSignalling
  /-- It has something to do with the mutex if this was so before. -/
  request : (s'.point t).request?.isSome = (s.point t).request?.isSome
  /-- It may have to wait where it might have had to before. -/
  condvar : (s'.point t).request?.bind Request.condvar? =
    (s.point t).request?.bind Request.condvar?
  /-- It waits if it has done so before. -/
  awaits : ∀ h, (s'.point t).awaits? = some (0, h) → (s.point t).awaits? = some (0, h)

section Keeps

variable (move : s.Move t s')
include move

/-- A thread was woken or has given up, and is to look at the permits again. -/
theorem keeps_of_quit (hfair : s.Fair) {h : ParkHandle}
    (awaits : (s.point t).awaits? = some (0, h)) (request : (s.point t).request? = some r)
    (point : s'.point t = .entering r) (permits : s'.permits = s.permits)
    (line : s'.line = s.line.filter (· != h)) (reason : s'.line = s.line ∨ r.isLate = true) :
    s.Keeps t s' := by
  have hrequest : (s'.point t).request? = (s.point t).request? := by
    rw [point, request, Point.request?]
  have hlate : ∀ w, s'.IsLate w ↔ s.IsLate w := by
    intro w
    by_cases hwt : w = t
    · rw [hwt, IsLate, Point.isLate, hrequest, IsLate, Point.isLate]
    · exact isLate_other move hwt
  refine ⟨permits, ?_, fun w hw => ?_, fun w => (hlate w).2, ?_, ?_, ?_, fun h' hh' => ?_⟩
  · rw [owners, line]
    exact List.filter_sublist.map _
  · rcases reason with hsame | hr
    · exact .inl (by rwa [owners, hsame])
    · obtain ⟨h', hh', rfl⟩ := List.mem_map.1 hw
      by_cases hne : h' = h
      · right
        have howner := hfair.numbered.owner t h (Point.handle?_of_awaits awaits)
        rw [hne, howner, hlate, IsLate, Point.isLate, request, Option.any_some, hr]
      · rw [owners, line]
        exact .inl (List.mem_map_of_mem (List.mem_filter.2 ⟨hh', by simpa using hne⟩))
  · rw [point, Point.isSignalling_of_request request]
    rfl
  · rw [hrequest]
  · rw [hrequest]
  · rw [point] at hh'
    cases hh'

/-- A thread does something of which the others know nothing, or its deadline passes. -/
theorem keeps_of_other (permits : s'.permits = s.permits) (line : s'.line = s.line)
    (request : (s'.point t).request? = (s.point t).request? ∨
      (s'.point t).request? = (s.point t).request?.map Request.expire)
    (awaits : (s'.point t).awaits? = (s.point t).awaits?)
    (signalling : (s'.point t).isSignalling = (s.point t).isSignalling) : s.Keeps t s' := by
  have howners : s'.owners = s.owners := by rw [owners, line, owners]
  refine ⟨permits, by rw [howners], fun w hw => .inl (howners ▸ hw), fun w hw => ?_, signalling, ?_,
    ?_, fun h hh => awaits ▸ hh⟩
  · by_cases hwt : w = t
    · subst hwt
      rw [IsLate, Point.isLate] at hw ⊢
      rcases request with hrequest | hrequest <;> rw [hrequest]
      · exact hw
      · cases hr : (s.point w).request? with
        | none => simp [hr] at hw
        | some r =>
          rw [hr, Option.any_some] at hw
          rw [Option.map_some, Option.any_some, Request.isLate_expire hw]
    · exact (isLate_other move hwt).2 hw
  · rcases request with hrequest | hrequest <;> simp [hrequest]
  · rcases request with hrequest | hrequest <;> rw [hrequest]
    cases (s.point t).request? <;> simp

variable (hkeeps : s.Keeps t s')
include hkeeps

theorem Keeps.isNew_iff : s'.IsNew queue u ↔ s.IsNew queue u := by
  rw [IsNew, IsNew, move.point_congr _ hkeeps.signalling,
    move.point_congr (·.request?.isSome) hkeeps.request]

omit move in
theorem Keeps.isWoken (hw : s'.IsWoken w) : s.IsWoken w :=
  ⟨fun howner => (hkeeps.kept w howner).elim hw.1 hw.2, fun hlate => hw.2 (hkeeps.late w hlate)⟩

theorem Ordered.keeps (hordered : s.Ordered queue) : s'.Ordered queue := by
  have hnew : ∀ {u}, s'.IsNew queue u ↔ s.IsNew queue u := hkeeps.isNew_iff move
  refine ⟨hordered.nodup, hkeeps.sublist.trans hordered.sublist, fun w hw => ?_, fun w h hw => ?_,
    fun u w hu hw => hordered.alone u w (hnew.1 hu) (hnew.1 hw), fun u hu w hw hu' hw' => ?_,
    fun u hu w hw => ?_, fun u hu hr hpos => ?_, fun hpos => ?_⟩
  · rw [move.point_congr (·.request?.bind Request.condvar?) hkeeps.condvar]
    exact hordered.asks w hw
  · by_cases hwt : w = t
    · subst hwt
      exact hordered.waits w h (hkeeps.awaits h hw)
    · rw [move.point_other hwt] at hw
      exact hordered.waits w h hw
  · exact hordered.lone u hu w hw (hkeeps.isWoken hu') (hkeeps.isWoken hw')
  · rcases hordered.listed u (hnew.1 hu) w hw with howner | hlate
    · exact hkeeps.kept w howner
    · exact .inr (hkeeps.late w hlate)
  · rw [move.point_congr (·.request?.isSome) hkeeps.request] at hr
    exact hordered.vacant u (hnew.1 hu) hr (hkeeps.permits ▸ hpos)
  · refine (hordered.turns (hkeeps.permits ▸ hpos)).imp fun {u w} => ?_
    rintro (howner | hlate | hlate)
    · exact (hkeeps.kept w howner).imp_right .inl
    · exact .inr (.inl (hkeeps.late w hlate))
    · exact .inr (.inr (hkeeps.late u hlate))

theorem Steady.keeps {returns late : Nat} (hsteady : s.Steady queue returns late) :
    s'.Steady queue returns late := by
  refine ⟨hsteady.settled, fun w hw hw' => ?_, fun u hu => ?_⟩
  · exact hkeeps.permits ▸ hsteady.woken w hw (hkeeps.isWoken hw')
  · rw [move.point_congr _ hkeeps.signalling] at hu
    exact hkeeps.permits ▸ hsteady.signalling u hu

/-- If the deadline of a thread passes in such a step, then there must be neither a permit nor a
newcomer. -/
theorem Punctual.keeps (hpunctual : s.Punctual queue) (hlate : ∀ w ∈ queue, s'.IsLate w →
    s.IsLate w ∨ s.permits = 0 ∧ ∀ u, ¬ s.IsNew queue u) : s'.Punctual queue := by
  refine ⟨fun w hw hw' => ?_, fun w hw hw' => ?_⟩
  · simp only [hkeeps.isNew_iff move, hkeeps.permits]
    exact (hlate w hw hw').elim (hpunctual.late w hw) id
  · exact hkeeps.permits ▸ hpunctual.woken w hw (hkeeps.isWoken hw')

end Keeps

/-! ### At the beginning of an operation -/

section Begin

variable (hordered : s.Ordered queue) {last : Option Outcome} (idle : s.point t = .idle last)
  (howners : ∀ w ∈ queue, w ∈ s.owners)
include hordered idle howners

/-- A thread begins to use the semaphore when nobody else is on the way to the permits. -/
theorem Ordered.begin (hnew : ∀ u, ¬ s.IsNew queue u) (hvacant : 0 < s.permits → queue = []) :
    (s.goTo t (.entering r)).Ordered queue := by
  have move : s.Move t (s.goTo t (.entering r)) := .request r idle
  have hne : ∀ {w}, w ∈ queue → w ≠ t := by
    rintro w hw rfl
    have hasks := hordered.asks w hw
    rw [idle] at hasks
    cases hasks
  have honly : ∀ {u}, (s.goTo t (.entering r)).IsNew queue u → u = t := by
    intro u hu
    by_contra hut
    rw [IsNew, move.point_other hut] at hu
    exact hnew u hu
  refine ⟨hordered.nodup, hordered.sublist, fun w hw => ?_, fun w h hw => ?_, fun u w hu hw => ?_,
    fun u hu _ _ hu' _ => absurd (howners u hu) hu'.1, fun u _ w hw => .inl (howners w hw),
    fun _ _ _ => hvacant, fun hpos => ?_⟩
  · rw [move.point_other (hne hw)]
    exact hordered.asks w hw
  · have hwt : w ≠ t := by
      rintro rfl
      simp [Point.awaits?] at hw
    rw [move.point_other hwt] at hw
    exact hordered.waits w h hw
  · rw [honly hu, honly hw]
  · rw [hvacant hpos]
    exact List.Pairwise.nil

omit hordered in
theorem Steady.begin {returns late : Nat} (hsteady : s.Steady queue returns late)
    (hnew : ∀ u, ¬ s.IsNew queue u) : (s.goTo t (.entering r)).Steady queue returns late := by
  refine ⟨hsteady.settled, fun w hw hw' => absurd (howners w hw) hw'.1, fun u hu => ?_⟩
  by_cases hut : u = t
  · rw [hut, point_goTo, if_pos rfl] at hu
    cases hu
  · rw [Move.point_other (.request r idle) hut] at hu
    exact absurd (.inl hu) (hnew u)

theorem Punctual.begin (hlate : ∀ w ∈ queue, ¬ s.IsLate w) :
    (s.goTo t (.entering r)).Punctual queue := by
  refine ⟨fun w hw hlate' => ?_, fun w hw hw' => absurd (howners w hw) hw'.1⟩
  have hwt : w ≠ t := by
    rintro rfl
    have hasks := hordered.asks w hw
    rw [idle] at hasks
    cases hasks
  exact absurd ((isLate_other (.request r idle) hwt).1 hlate') (hlate w hw)

end Begin

end Monitors

namespace Pool

/-! ### Rests -/

/-- A worker is told to do something, and goes on for some steps. -/
def turn (w : ThreadId) (operation : Operation) (steps : Nat) : List Action :=
  .tell w operation :: List.replicate steps (.go w)

/-- Whether nobody can go on. -/
def rests (x : Pool) : Bool := x.workers.all.all fun w => (x.workers.step? w).isNone

/-- Whether an action has to wait until nobody can go on. Every operation has to, and deadlines have
to if they are punctual. -/
def Action.waits (punctual : Bool) : Action → Bool
  | .tell .. => true
  | .go _ => false
  | .expire _ => punctual

/-- The pool after an action, if the action has not come too soon. -/
def attend (punctual : Bool) (x : Pool) (action : Action) : Pool :=
  if action.waits punctual && !x.rests then x else x.act action

/-- The pool after some actions, without those that have come too soon. -/
def afterRests (punctual : Bool) (x : Pool) (actions : List Action) : Pool :=
  actions.foldl (attend punctual) x

/-- The deadline of a worker has passed, and it still wants a permit. -/
def IsLate (x : Pool) (w : ThreadId) : Prop := x.monitors.IsLate w

/-- What is promised of a pool in which operations begin only when nobody can go on. -/
structure IsInTurn (x : Pool) : Prop where
  /-- If nobody can go on, then the queue is the list, and everybody who has not finished is
  there. -/
  rest : x.rests = true →
    x.queue = x.line.map (·.owner) ∧ ∀ w, w ∈ x.queue ↔ x.task w ≠ .waiting
  /-- Whoever gets a permit when there is a queue has waited there longer than all others, but for
  those whose deadlines have passed, or its own deadline has passed. -/
  turn : ∀ w, x.takes < (x.act (.go w)).takes → x.queue = [] ∨ ∃ before after,
    x.queue = before ++ w :: after ∧ (x.IsLate w ∨ ∀ u ∈ before, x.IsLate u)
  /-- For each permit that is got after a deadline, somebody may have to wait anew, and nobody has
  to otherwise. -/
  anew : x.returns ≤ x.lateTakes

/-- What is promised in addition if deadlines, too, pass only when nobody can go on. -/
structure IsPunctual (x : Pool) : Prop where
  /-- Whoever gets a permit when there is a queue is the first one there. -/
  first : ∀ w, x.takes < (x.act (.go w)).takes → x.queue = [] ∨ x.queue.head? = some w
  /-- Whoever is in the queue stays where it is until it leaves. -/
  once : ∀ w ∈ x.queue,
    (x.act (.go w)).queue = x.queue ∨ (x.act (.go w)).queue = x.queue.erase w

variable {x : Pool} {w : ThreadId} {initial : Nat} {punctual : Bool}

/-- A worker that goes on takes a step of its thread, or it is done, of which a semaphore knows
nothing. -/
theorem IsGood.go_cases (hgood : x.IsGood initial) (w : ThreadId) :
    (∃ workers : Workers, workers.monitors = x.monitors ∧ x.act (.go w) = { x with workers }) ∨
    ∃ command s', x.task w = .doing command ∧ x.monitors.step? w = some s' ∧
      x.monitors.Stride w command s' ∧
        x.act (.go w) = x.observe w { x.workers with monitors := s' } := by
  unfold Pool.act
  dsimp only
  split
  · next workers heq =>
    obtain ⟨command, htask, ⟨s', hstep, rfl⟩ | ⟨⟨last, hlast⟩, hassigned⟩⟩ :=
      hgood.sharing.step?_cases heq
    · exact .inr ⟨command, s', htask, hstep, hgood.sharing.stride htask
        (Monitors.move_of_step hstep) (Monitors.not_idle_of_step hstep), rfl⟩
    · exact .inl ⟨workers, hassigned.monitors, observe_of_inside (by simp [hlast])⟩
  · exact .inl ⟨x.workers, rfl, rfl⟩

theorem IsGood.still_of_rests (hgood : x.IsGood initial) (hrests : x.rests = true) (w : ThreadId) :
    x.workers.step? w = none := by
  cases hstep : x.workers.step? w with
  | none => rfl
  | some workers =>
    obtain ⟨command, htask, -⟩ := hgood.sharing.step?_cases hstep
    have hw := hgood.sharing.lt_count htask
    rw [rests, List.all_eq_true] at hrests
    have hnone := hrests w (List.mem_range.2 hw)
    rw [hstep] at hnone
    cases hnone

/-- What holds after any actions that have not come too soon. -/
structure IsInOrder (punctual : Bool) (initial : Nat) (x : Pool) : Prop where
  /-- The pool is as pools are. -/
  good : x.IsGood initial
  /-- The queue is in order. -/
  ordered : x.monitors.Ordered x.queue
  /-- Nobody has waited anew without a reason. -/
  steady : x.monitors.Steady x.queue x.returns x.lateTakes
  /-- Deadlines are punctual. -/
  punctual : punctual = true → x.monitors.Punctual x.queue

namespace IsInOrder

/-- It is the threads that have to be in order. -/
theorem of_monitors {workers : Workers} {monitors : Monitors}
    (hgood : IsGood initial { x with workers }) (hmonitors : workers.monitors = monitors)
    (hordered : monitors.Ordered x.queue) (hsteady : monitors.Steady x.queue x.returns x.lateTakes)
    (hpunctual : punctual = true → monitors.Punctual x.queue) :
    IsInOrder punctual initial { x with workers } := by
  subst hmonitors
  exact ⟨hgood, hordered, hsteady, hpunctual⟩

variable (horder : x.IsInOrder punctual initial)
include horder

theorem busy_of_mem (hw : w ∈ x.queue) (last : Option Outcome) : x.point w ≠ .idle last := by
  intro hidle
  have hasks := horder.ordered.asks w hw
  rw [show x.monitors.point w = _ from hidle] at hasks
  cases hasks

section Rest

variable (hrests : x.rests = true)
include hrests

theorem mem_owners_of_busy (hbusy : ∀ last, x.point w ≠ .idle last) :
    w ∈ x.monitors.owners ∧ w ∈ x.queue ∧ ¬ x.IsLate w ∧ (x.point w).isSignalling = false := by
  have hstill := horder.good.still_of_rests hrests
  obtain ⟨command, htask⟩ := horder.good.sharing.doing_of_busy hbusy
  obtain ⟨r, h, hh, hasleep, howner⟩ := horder.good.sharing.asleep_of_still hstill htask
  refine ⟨List.mem_map.2 ⟨h, hh, howner⟩, ?_, fun hlate => ?_,
    congrArg Point.isSignalling hasleep⟩
  · exact horder.ordered.waits w h (howner ▸ horder.good.sharing.listed.awaits 0 h hh)
  · rw [IsLate, Monitors.IsLate, hasleep] at hlate
    have hstep := Monitors.isSome_step?_of_late hasleep hlate
    rw [Workers.step?_eq_none (hstill w)] at hstep
    cases hstep

theorem not_isNew_of_rests (u : ThreadId) : ¬ x.monitors.IsNew x.queue u := by
  intro hnew
  have hbusy : ∀ last, x.point u ≠ .idle last := by
    intro last hidle
    rw [Monitors.IsNew, show x.monitors.point u = _ from hidle] at hnew
    simp [Point.isSignalling, Point.request?] at hnew
  obtain ⟨-, hqueue, -, hsignalling⟩ := horder.mem_owners_of_busy hrests hbusy
  rcases hnew with hnew | ⟨-, hout⟩
  · exact Bool.false_ne_true (hsignalling.symm.trans hnew)
  · exact hout hqueue

theorem queue_of_rests (hpos : 0 < x.permits) : x.queue = [] := by
  have hline := horder.good.line_of_still (horder.good.still_of_rests hrests) hpos
  refine List.eq_nil_iff_forall_not_mem.2 fun w hw => ?_
  have howner := (horder.mem_owners_of_busy hrests (horder.busy_of_mem hw)).1
  rw [Monitors.owners, show x.monitors.line = [] from hline] at howner
  cases howner

end Rest

/-- Nothing has happened to the threads. -/
theorem congr {workers : Workers} (hgood : IsGood initial { x with workers })
    (hmonitors : workers.monitors = x.monitors) : IsInOrder punctual initial { x with workers } :=
  of_monitors hgood hmonitors horder.ordered horder.steady horder.punctual

theorem tell (hrests : x.rests = true) (w : ThreadId) (operation : Operation) :
    (x.act (.tell w operation)).IsInOrder punctual initial := by
  have hgood := horder.good.act (.tell w operation)
  unfold Pool.act at hgood ⊢
  dsimp only at hgood ⊢
  split
  · next htold =>
    rw [if_pos htold] at hgood
    obtain ⟨last, hidle⟩ := horder.good.sharing.idle_of_waiting htold.2
    rcases begin_cases horder.good.sharing htold.2 operation with
      hassigned | ⟨command, r, asks, hassigned⟩
    · exact horder.congr hgood hassigned.monitors
    · have hlisted := fun u hu => horder.mem_owners_of_busy hrests (horder.busy_of_mem (w := u) hu)
      have howners : ∀ u ∈ x.queue, u ∈ x.monitors.owners := fun u hu => (hlisted u hu).1
      have hnew := horder.not_isNew_of_rests hrests
      exact of_monitors hgood hassigned.monitors
        (horder.ordered.begin hidle howners hnew (horder.queue_of_rests hrests))
        (Monitors.Steady.begin hidle howners horder.steady hnew) fun _ =>
          Monitors.Punctual.begin horder.ordered hidle howners fun u hu => (hlisted u hu).2.2.1
  · exact horder

theorem go (w : ThreadId) : (x.act (.go w)).IsInOrder punctual initial := by
  have hgood := horder.good.act (.go w)
  rcases horder.good.go_cases w with
    ⟨workers, hmonitors, hact⟩ | ⟨command, s', htask, hstep, hstride, hact⟩
  · rw [hact] at hgood ⊢
    exact horder.congr hgood hmonitors
  · have move := Monitors.move_of_step hstep
    have hfair := horder.good.sharing.fair
    have hlisted := horder.good.sharing.listed
    have hnonneg := horder.good.counted.nonneg
    -- A step makes nobody late.
    have hlate : ∀ u ∈ x.queue, s'.IsLate u →
        x.monitors.IsLate u ∨ x.permits = 0 ∧ ∀ v, ¬ x.monitors.IsNew x.queue v :=
      fun u _ hu => .inl (Monitors.isLate_of_step hstep hu)
    rw [hact] at hgood ⊢
    cases hstride with
    | pass r timedOut inside asks admits point permits line =>
      rw [observe_of_leaving htask inside point] at hgood ⊢
      exact ⟨hgood, horder.ordered.pass move hlisted hnonneg inside asks admits point permits line,
        Monitors.Steady.pass horder.ordered move hlisted hnonneg inside asks admits point permits
          line horder.steady,
        fun hpunctual => Monitors.Punctual.pass horder.ordered move hlisted hnonneg inside asks
          admits point permits line (horder.punctual hpunctual)⟩
    | enroll r h inside asks waits owner point permits line =>
      rw [observe_of_enrolled htask inside point] at hgood ⊢
      exact ⟨hgood, horder.ordered.enroll move hlisted inside asks waits owner point permits line,
        Monitors.Steady.enroll horder.ordered move hlisted inside asks waits owner point line
          horder.steady,
        fun hpunctual => Monitors.Punctual.enroll horder.ordered move hlisted inside waits owner
          point permits line (horder.punctual hpunctual)⟩
    | signal outcome point releasing permits line =>
      rw [observe_of_inside (by simp [point])] at hgood ⊢
      have hpos := horder.good.counted.signalled w (by rw [point]; rfl)
      exact ⟨hgood, horder.ordered.signal move point releasing line,
        Monitors.Steady.signal horder.ordered move point releasing horder.steady permits,
        fun hpunctual => Monitors.Punctual.signal move point releasing (horder.punctual hpunctual)
          permits hpos⟩
    | quit r h awaits request point permits line reason =>
      rw [observe_of_inside fun r hinside => by simp [hinside, Point.awaits?] at awaits]
        at hgood ⊢
      have hkeeps := Monitors.keeps_of_quit move hfair awaits request point permits line reason
      exact ⟨hgood, Monitors.Ordered.keeps move hkeeps horder.ordered,
        Monitors.Steady.keeps move hkeeps horder.steady,
        fun hpunctual => Monitors.Punctual.keeps move hkeeps (horder.punctual hpunctual) hlate⟩
    | other permits line request awaits inside signalling =>
      rw [observe_of_inside inside] at hgood ⊢
      have hkeeps := Monitors.keeps_of_other move permits line request awaits signalling
      exact ⟨hgood, Monitors.Ordered.keeps move hkeeps horder.ordered,
        Monitors.Steady.keeps move hkeeps horder.steady,
        fun hpunctual => Monitors.Punctual.keeps move hkeeps (horder.punctual hpunctual) hlate⟩

theorem expire (hpunctual : punctual = true → x.rests = true) (w : ThreadId) :
    (x.act (.expire w)).IsInOrder punctual initial := by
  have hgood := horder.good.act (.expire w)
  unfold Pool.act at hgood ⊢
  dsimp only at hgood ⊢
  split
  · next monitors heq =>
    rw [heq] at hgood
    dsimp only at hgood
    have move := Monitors.move_of_expire heq
    rw [Monitors.expire?_eq, Option.map_eq_some_iff] at heq
    obtain ⟨p, hp, rfl⟩ := heq
    have hpoint : (x.monitors.goTo w p).point w = p := by simp
    have hstays : ∀ r, x.point w = .inside r →
        ∃ r', (x.monitors.goTo w p).point w = .inside r' := by
      intro r hinside
      rw [show x.monitors.point w = _ from hinside] at hp
      cases hp
      exact ⟨_, hpoint⟩
    rw [observe_of_inside hstays] at hgood ⊢
    have hkeeps := Monitors.keeps_of_other move rfl rfl
      (.inr (by rw [hpoint, Point.request?_expired hp]))
      (by rw [hpoint, Point.awaits?_expired hp])
      (by rw [hpoint, Point.isSignalling_expired hp])
    refine ⟨hgood, Monitors.Ordered.keeps move hkeeps horder.ordered,
      Monitors.Steady.keeps move hkeeps horder.steady, fun hstrict => ?_⟩
    refine Monitors.Punctual.keeps move hkeeps (horder.punctual hstrict) fun u hu _ => .inr ?_
    have hrests := hpunctual hstrict
    refine ⟨?_, horder.not_isNew_of_rests hrests⟩
    -- Nobody is in the queue while there are permits.
    by_contra hne
    have hpos := lt_of_le_of_ne horder.good.counted.nonneg (Ne.symm hne)
    rw [horder.queue_of_rests hrests hpos] at hu
    cases hu
  · exact horder

theorem attend (action : Action) : (x.attend punctual action).IsInOrder punctual initial := by
  unfold Pool.attend
  split
  · exact horder
  · next hsoon =>
    have hrests : action.waits punctual = true → x.rests = true := by
      intro hwaits
      simpa [hwaits] using hsoon
    cases action with
    | tell w operation => exact horder.tell (hrests rfl) w operation
    | go w => exact horder.go w
    | expire w => exact horder.expire hrests w

theorem afterRests (actions : List Action) :
    (x.afterRests punctual actions).IsInOrder punctual initial := by
  induction actions generalizing x with
  | nil => exact horder
  | cons action rest ih => exact ih (horder.attend action)

/-- A permit is taken by a thread that finds one. -/
theorem inside_of_takes (htakes : x.takes < (x.act (.go w)).takes) :
    0 < x.permits ∧ ∃ r, x.point w = .inside r := by
  rcases horder.good.go_cases w with ⟨workers, -, hact⟩ | ⟨command, s', htask, -, hstride, hact⟩
  · rw [hact] at htakes
    exact absurd htakes (Nat.lt_irrefl _)
  · rw [hact] at htakes
    cases hstride with
    | pass r timedOut inside asks admits point =>
      rw [observe_of_leaving htask inside point] at htakes
      have hle := asks.taken_le admits horder.good.counted.nonneg
      have hpos : x.takes < x.takes + taken command (.entered x.monitors.permits timedOut) := htakes
      exact ⟨lt_of_lt_of_le (by omega) hle, r, inside⟩
    | enroll r h inside asks waits owner point =>
      rw [observe_of_enrolled htask inside point] at htakes
      exact absurd htakes (Nat.lt_irrefl _)
    | signal outcome point =>
      rw [observe_of_inside (by simp [point])] at htakes
      exact absurd htakes (Nat.lt_irrefl _)
    | quit r h awaits =>
      rw [observe_of_inside fun r hinside => by simp [hinside, Point.awaits?] at awaits] at htakes
      exact absurd htakes (Nat.lt_irrefl _)
    | other permits line request awaits inside =>
      rw [observe_of_inside inside] at htakes
      exact absurd htakes (Nat.lt_irrefl _)

/-- Whoever takes a permit does so before all others whose deadlines have not passed, if its own has
not passed either. -/
theorem turn (htakes : x.takes < (x.act (.go w)).takes) : x.queue = [] ∨ ∃ before after,
    x.queue = before ++ w :: after ∧ (x.IsLate w ∨ ∀ u ∈ before, x.IsLate u) := by
  obtain ⟨hpos, r, hinside⟩ := horder.inside_of_takes htakes
  by_cases hw : w ∈ x.queue
  · obtain ⟨before, after, hqueue⟩ := List.append_of_mem hw
    refine .inr ⟨before, after, hqueue, or_iff_not_imp_left.2 fun hlate u hu => ?_⟩
    have haway := Monitors.not_mem_owners_of_inside horder.good.sharing.listed hinside
    have hturns := horder.ordered.turns hpos
    rw [hqueue, List.pairwise_append] at hturns
    exact ((hturns.2.2 u hu w List.mem_cons_self).resolve_left haway).resolve_left hlate
  · refine .inl (horder.ordered.vacant w (Monitors.isNew_of_inside hinside hw) ?_ hpos)
    exact congrArg (·.request?.isSome) hinside

theorem isInTurn : x.IsInTurn := by
  refine ⟨fun hrests => ⟨?_, fun w => ⟨fun hw htask => ?_, fun htask => ?_⟩⟩, fun w => horder.turn,
    horder.steady.settled⟩
  · have hsubset : x.queue ⊆ x.monitors.owners := fun w hw =>
      (horder.mem_owners_of_busy hrests (horder.busy_of_mem hw)).1
    have hlength := (List.subperm_of_subset horder.ordered.nodup hsubset).length_le
    exact (horder.ordered.sublist.eq_of_length_le hlength).symm
  · obtain ⟨last, hidle⟩ := horder.good.sharing.idle_of_waiting htask
    exact horder.busy_of_mem hw last hidle
  · obtain ⟨command, hdoing⟩ := (horder.good.sharing.waiting_or_doing w).resolve_left htask
    obtain ⟨r, h, hh, -, howner⟩ :=
      horder.good.sharing.asleep_of_still (horder.good.still_of_rests hrests) hdoing
    exact horder.ordered.sublist.subset (List.mem_map.2 ⟨h, hh, howner⟩)

theorem isPunctual (hpunctual : x.monitors.Punctual x.queue) : x.IsPunctual := by
  refine ⟨fun w htakes => ?_, fun w hw => ?_⟩
  · obtain ⟨hpos, r, hinside⟩ := horder.inside_of_takes htakes
    refine (horder.turn htakes).imp_right ?_
    rintro ⟨before, after, hqueue, hlate⟩
    -- Nobody is late while there are permits.
    have hnot : ∀ u ∈ x.queue, ¬ x.IsLate u := fun u hu hu' =>
      absurd (hpunctual.late u hu hu').1 (ne_of_gt hpos)
    cases before with
    | nil => rw [hqueue, List.nil_append, List.head?_cons]
    | cons u before =>
      rcases hlate with hlate | hlate
      · exact absurd hlate (hnot w (by rw [hqueue]; simp))
      · exact absurd (hlate u List.mem_cons_self) (hnot u (by rw [hqueue]; simp))
  · rcases horder.good.go_cases w with ⟨workers, -, hact⟩ | ⟨command, s', htask, -, hstride, hact⟩
    · rw [hact]
      exact .inl rfl
    · rw [hact]
      cases hstride with
      | pass r timedOut inside asks admits point =>
        rw [observe_of_leaving htask inside point]
        exact .inr rfl
      | enroll r h inside asks waits =>
        -- Whoever was woken has not come in vain.
        have hwoken := Monitors.isWoken_of_enroll horder.good.sharing.listed inside waits
        exact absurd (asks.waits waits).2 (ne_of_gt (hpunctual.woken w hw hwoken))
      | signal outcome point =>
        rw [observe_of_inside (by simp [point])]
        exact .inl rfl
      | quit r h awaits =>
        rw [observe_of_inside fun r hinside => by simp [hinside, Point.awaits?] at awaits]
        exact .inl rfl
      | other permits line request awaits inside =>
        rw [observe_of_inside inside]
        exact .inl rfl

end IsInOrder

theorem isInOrder_start (punctual : Bool) (count permits : Nat) :
    (start count permits).IsInOrder punctual permits := by
  have hidle : ∀ w, (start count permits).monitors.point w = .idle none := fun _ => rfl
  have hnew : ∀ w, ¬ (start count permits).monitors.IsNew [] w := by
    simp [Monitors.IsNew, hidle, Point.isSignalling, Point.request?]
  have hqueue : ∀ w, w ∉ (start count permits).queue := fun _ => List.not_mem_nil
  refine ⟨isGood_start count permits, ?_, ?_, fun _ => ?_⟩
  · refine ⟨List.nodup_nil, List.Sublist.refl _, ?_, ?_, ?_, ?_, ?_, ?_, fun _ => List.Pairwise.nil⟩
    · exact fun w hw => absurd hw (hqueue w)
    · simp [hidle, Point.awaits?]
    · exact fun u _ hu => absurd hu (hnew u)
    · exact fun u hu => absurd hu (hqueue u)
    · exact fun u hu => absurd hu (hnew u)
    · exact fun u hu => absurd hu (hnew u)
  · exact ⟨Nat.le_refl _, fun w hw => absurd hw (hqueue w), fun u hu => absurd (.inl hu) (hnew u)⟩
  · exact ⟨fun w hw => absurd hw (hqueue w), fun w hw => absurd hw (hqueue w)⟩

/-- Two workers wait in this order, a third one signals, and the first one gets the permit. -/
example :
    let x := (start 3 0).afterRests true (turn 0 .wait 4 ++ turn 1 .wait 4 ++ turn 2 .signal 7)
    let y := x.afterRests true [.go 0, .go 0, .go 0]
    x.queue = [0, 1] ∧ x.takes = 0 ∧ y.queue = [1] ∧ y.takes = 1 := by
  decide +kernel

end Pool

end Junction.Sync
