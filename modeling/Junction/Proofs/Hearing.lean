import Junction.Proofs.Counts

/-!
# The scheduler hears of what happens during a scan

The scheduler notes the epoch before it looks for somebody to let in, and sleeps until the epoch
changes. So whatever it has gone past without success is still as it was, or somebody has still to
change the epoch.

## Main definitions

* `Scheduler.Point.hasGathered`, `Scheduler.Point.hasAsked` — what a scan has gone past
* `Scene.Heard` — the scheduler misses nothing that happens after it has noted the epoch

## Main results

* `Scene.Heard.move` — each step of a run without a fault keeps that so
-/

namespace Junction

namespace VehicleClass

theorem level_of_next {c c' : VehicleClass} (h : c.next? = some c') : c'.level = c.level + 1 := by
  cases c <;> cases h <;> rfl

theorem level_le_of_last {c : VehicleClass} (h : c.next? = none) (c' : VehicleClass) :
    c'.level ≤ c.level := by
  cases c with
  | truck => cases c' <;> decide
  | _ => cases h

theorem level_inj {c c' : VehicleClass} (h : c.level = c'.level) : c = c' := by
  cases c <;> cases c' <;> first | rfl | cases h

end VehicleClass

namespace Scheduler.Point

/-- The epoch that the scheduler has noted. -/
def seen? : Point → Option Nat
  | holdTest seen | holdSleep seen | gather seen _ | lock seen _ _ | scan seen .. | rest seen
  | sleep seen => some seen
  | _ => none

/-- Whether a scan has gone past the waiting zone of a class. -/
def hasGathered (c : VehicleClass) : Point → Bool
  | gather _ c' => decide (c.level < c'.level)
  | lock .. | scan .. | rest _ | sleep _ => true
  | _ => false

/-- Whether a scan has gone past a place of the level of a class. -/
def hasAsked (c : VehicleClass) (place : Nat) : Point → Bool
  | lock _ c' _ => decide (c.level < c'.level)
  | scan _ c' place' _ => decide (c.level < c'.level ∨ c = c' ∧ place < place')
  | rest _ | sleep _ => true
  | _ => false

/-- A scan has gone past the earlier levels, and past the earlier places of its own. -/
theorem hasAsked_scan {seen : Nat} {c c' : VehicleClass} {place place' : Nat}
    {fault : Option Violation} (hlevel : c.level ≤ c'.level) (hplace : c = c' → place < place') :
    (scan seen c' place' fault).hasAsked c place = true := by
  have hpast : c.level < c'.level ∨ c = c' ∧ place < place' := by
    by_cases hc : c = c'
    · exact .inr ⟨hc, hplace hc⟩
    · have hne : c.level ≠ c'.level := fun heq => hc (VehicleClass.level_inj heq)
      exact .inl (by omega)
  simpa [hasAsked] using hpast

end Scheduler.Point

/-! ### Steps -/

section Steps

variable {x x' : Site} {pt pt' : Scheduler.Point}

/-- The scheduler notes the epoch as it is. -/
theorem Scheduler.Move.seen (move : Scheduler.Move x pt x' pt') {n : Nat}
    (hseen : pt'.seen? = some n) : n = x.epoch ∨ pt.seen? = some n := by
  cases move with
  | hold | look =>
    cases hseen
    exact .inl rfl
  | gather seen c =>
    apply Or.inr
    cases c <;> exact hseen
  | missing | lock | refuse | refuseBadly | nextLevel | nobody | rest => exact .inr hseen
  | _ => cases hseen

/-- The scheduler goes past a waiting zone when it has emptied the zone. -/
theorem Scheduler.Move.gathered (move : Scheduler.Move x pt x' pt') (hidle : pt.abort? = none)
    {n : Nat} (hseen : pt'.seen? = some n) {c : VehicleClass} (hgathered : pt'.hasGathered c = true)
    {v : Vehicle} (hv : v ∈ x'.queue.zone.get c) :
    pt.seen? = some n ∧ pt.hasGathered c = true ∧ v ∈ x.queue.zone.get c := by
  cases move with
  | gather seen c₀ =>
    rw [Site.withQueue, WaitingQueue.gather, Trio.get_set] at hv
    split at hv
    · cases hv
    · next hne =>
      have hlevel : c.level ≠ c₀.level := fun heq => hne (VehicleClass.level_inj heq)
      have hlt : c.level < c₀.level := by
        cases hnext : c₀.next? with
        | some c₁ =>
          have hle : c.level < c₁.level := by
            simpa [Scheduler.afterGather, hnext, Scheduler.Point.hasGathered] using hgathered
          rw [VehicleClass.level_of_next hnext] at hle
          omega
        | none =>
          have hle := VehicleClass.level_le_of_last hnext c
          omega
      refine ⟨?_, by simpa [Scheduler.Point.hasGathered] using hlt, hv⟩
      cases c₀ <;> exact hseen
  | lock | refuse | refuseBadly | nextLevel | nobody | rest => exact ⟨hseen, rfl, hv⟩
  | look => simp [Scheduler.Point.hasGathered, VehicleClass.level] at hgathered
  | abort | abortEnd | giveUp | givenUp => cases hidle
  | _ => cases hgathered

/-- The scheduler goes past a vehicle of a level when a segment of the route is reserved. -/
theorem Scheduler.Move.asked (move : Scheduler.Move x pt x' pt') (hsound : x.table.ledger.Sound)
    (hidle : pt.abort? = none) {n : Nat} (hseen : pt'.seen? = some n) {c : VehicleClass}
    {place : Nat} (hasked : pt'.hasAsked c place = true) {v : Vehicle}
    (hv : (x'.queue.levels.get c)[place]? = some v) :
    x'.table = x.table ∧
      (x.table.ledger.unreserved v.route = false ∨
        pt.seen? = some n ∧ pt.hasAsked c place = true ∧
          (x.queue.levels.get c)[place]? = some v) := by
  cases move with
  | refuseBadly _ _ hfree hinconsistent =>
    exact absurd (hsound.reserve hfree _).consistent hinconsistent
  | gather seen c₀ => cases c₀ <;> simp [Scheduler.afterGather, VehicleClass.next?,
      Scheduler.Point.hasAsked, VehicleClass.level] at hasked
  | lock seen c₀ =>
    have hlt : c.level < c₀.level := by simpa [Scheduler.Point.hasAsked] using hasked
    exact ⟨rfl, .inr ⟨hseen, by simpa [Scheduler.Point.hasAsked] using hlt, hv⟩⟩
  | @refuse seen c₀ place₀ fault w hw hreserved =>
    refine ⟨rfl, ?_⟩
    have hpast : c.level < c₀.level ∨ c = c₀ ∧ place < place₀ + 1 := by
      simpa [Scheduler.Point.hasAsked] using hasked
    by_cases hnew : c = c₀ ∧ place = place₀
    · obtain ⟨rfl, rfl⟩ := hnew
      rw [hw] at hv
      cases hv
      exact .inl hreserved
    · refine .inr ⟨hseen, Scheduler.Point.hasAsked_scan ?_ ?_, hv⟩
      · rcases hpast with hlt | ⟨rfl, -⟩
        · exact Nat.le_of_lt hlt
        · exact Nat.le_refl _
      · rintro rfl
        have hne : place ≠ place₀ := fun heq => hnew ⟨rfl, heq⟩
        omega
  -- At the end of a level all its places have been asked about.
  | @nextLevel seen c₀ c₁ place₀ fault hnext hall =>
    refine ⟨rfl, .inr ⟨hseen, Scheduler.Point.hasAsked_scan ?_ ?_, hv⟩⟩
    · have hlt : c.level < c₁.level := by simpa [Scheduler.Point.hasAsked] using hasked
      rw [VehicleClass.level_of_next hnext] at hlt
      omega
    · rintro rfl
      exact Nat.lt_of_lt_of_le (List.getElem?_eq_some_iff.1 hv).1 hall
  | @nobody seen c₀ place₀ console hlast hall =>
    refine ⟨rfl, .inr ⟨hseen, Scheduler.Point.hasAsked_scan ?_ ?_, hv⟩⟩
    · exact VehicleClass.level_le_of_last hlast c
    · rintro rfl
      exact Nat.lt_of_lt_of_le (List.getElem?_eq_some_iff.1 hv).1 hall
  | rest => exact ⟨rfl, .inr ⟨hseen, rfl, hv⟩⟩
  | abort | abortEnd | giveUp | givenUp => cases hidle
  | _ => cases hasked

/-- The scheduler ends without a failure when all is done, or the run aborted. -/
theorem Scheduler.Move.of_ended (move : Scheduler.Move x pt x' pt') (hpt' : pt' = .ended none) :
    x.isDone = true ∨ x.aborted = true := by
  cases move with
  | finish console hover => exact hover
  | gather seen c => cases c <;> cases hpt'
  | _ => cases hpt'

/-- The scheduler goes to sleep in its hold while arrivals are missing. -/
theorem Scheduler.Move.of_holdSleep (move : Scheduler.Move x pt x' pt') {n : Nat}
    (hpt' : pt' = .holdSleep n) : x.arrivals < x.total := by
  cases move with
  | missing seen hsome => exact hsome
  | gather seen c => cases c <;> cases hpt'
  | _ => cases hpt'

end Steps

namespace Scene

variable {specs : List VehicleSpec} {e e' : Scene} {i : Nat} {v : Vehicle} {p : Life}

/-- Some life has a property. -/
def HasLife (e : Scene) (f : Life → Bool) : Prop :=
  ∃ i p, e.tasks.get i = .life p ∧ f p = true

/-- The scheduler misses nothing of what happens after it has noted the epoch. -/
structure Heard (specs : List VehicleSpec) (e : Scene) : Prop where
  /-- The epoch that it has noted is not one to come. -/
  seen : ∀ {n}, e.point.seen? = some n → n ≤ e.site.epoch
  /-- In its hold it sleeps while somebody has still to come. -/
  held : e.point = .holdSleep e.site.epoch → e.HasLife Life.isComing
  /-- Who is in a zone that it has gone past has still to tell it. -/
  gathered : ∀ {c v}, e.point.seen? = some e.site.epoch → e.point.hasGathered c = true →
    v ∈ e.site.queue.zone.get c → ∃ i p, e.Lives specs i v p ∧ p.isComing = true
  /-- Whom it has gone past in a level meets a reserved segment, unless somebody has still to tell
  that the segment is free. -/
  asked : ∀ {c place v}, e.point.seen? = some e.site.epoch → e.point.hasAsked c place = true →
    (e.site.queue.levels.get c)[place]? = some v →
      e.site.table.ledger.unreserved v.route = false ∨ e.HasLife Life.hasReleased
  /-- It ends when all is done. -/
  done : e.point = .ended none → e.site.isDone = true
  /-- The fault is locked by somebody who joins the queue. -/
  locked : e.site.faultLocked = true → e.HasLife Life.isLocking

/-- Without a fault a life has not arrived before all are counted. -/
theorem Counted.hasLife_coming (h : e.Counted specs) (hstaffed : e.Staffed specs)
    (hmissing : e.site.arrivals < e.site.total) : e.HasLife Life.isComing := by
  by_contra hnone
  have harrived : ∀ i < specs.length, Task.count Life.hasArrived (e.tasks.get i) = 1 := by
    intro i hi
    obtain ⟨p, hp, -⟩ := hstaffed.life (List.getElem?_eq_getElem hi)
    have hcoming : p.isComing ≠ true := fun hcoming => hnone ⟨i, p, hp, hcoming⟩
    rw [hp]
    cases p with
    | start | rejecting | arriving => exact absurd rfl hcoming
    | _ => rfl
  have hle := Table.le_tally_of_forall rfl harrived
  have htotal := h.total
  have harrivals := h.arrivals
  omega

namespace Heard

/-- What a life with a property turns into. -/
theorem hasLife_set {f : Life → Bool} {j : Nat} {q q' : Life} (hq : e.tasks.get j = .life q)
    (htasks : e'.tasks = e.tasks.set j (.life q')) (hf : f q = true → f q' = true)
    (h : e.HasLife f) : e'.HasLife f := by
  obtain ⟨i, p, hp, hfp⟩ := h
  by_cases hij : i = j
  · subst hij
    cases hp.symm.trans hq
    exact ⟨i, q', by rw [htasks, Table.get_set, if_pos rfl], hf hfp⟩
  · exact ⟨i, p, by rw [htasks, Table.get_set, if_neg hij, hp], hfp⟩

/-- The scheduler is still up to date after a step of a life only if the life has told it
nothing. -/
theorem still_of_seen (h : e.Heard specs) {q q' : Life}
    (stride : q.Stride e.site e'.site q') (hseen : e.point.seen? = some e'.site.epoch) :
    e'.site.epoch = e.site.epoch ∧ (q.isComing = true → q'.isComing = true) ∧
      (q.hasReleased = true → q'.hasReleased = true) := by
  rcases stride.epoch with hepoch | hstill
  · have hle := h.seen hseen
    omega
  · exact hstill

/-- Who is in a zone after a step of a life was there before, or has just come. -/
theorem gathered_life (h : e.Heard specs) (horderly : e.Orderly specs) {j : Nat} {q q' : Life}
    (hq : e.tasks.get j = .life q) (htasks : e'.tasks = e.tasks.set j (.life q'))
    (stride : q.Stride e.site e'.site q') {c : VehicleClass}
    (hseen : e.point.seen? = some e'.site.epoch) (hgathered : e.point.hasGathered c = true)
    (hv : v ∈ e'.site.queue.zone.get c) : ∃ i p, e'.Lives specs i v p ∧ p.isComing = true := by
  obtain ⟨hepoch, hcoming, -⟩ := h.still_of_seen stride hseen
  have hget : e'.tasks.get j = .life q' := by rw [htasks, Table.get_set, if_pos rfl]
  have hold : v ∈ e.site.queue.zone.get c → ∃ i p, e'.Lives specs i v p ∧ p.isComing = true := by
    intro hv
    obtain ⟨i, p, hlives, hp⟩ := h.gathered (hepoch ▸ hseen) hgathered hv
    by_cases hij : i = j
    · subst hij
      cases hlives.life.symm.trans hq
      exact ⟨i, q', ⟨hlives.enrolled, hget⟩, hcoming hp⟩
    · have hlife : e'.tasks.get i = .life p := by
        rw [htasks, Table.get_set, if_neg hij, hlives.life]
      exact ⟨i, p, ⟨hlives.enrolled, hlife⟩, hp⟩
  rcases stride.queue with hqueue | ⟨w, rfl, rfl, hqueue⟩
  · exact hold (hqueue ▸ hv)
  · rw [hqueue, WaitingQueue.enqueue, Trio.get_set] at hv
    split at hv
    · next hc =>
      rcases List.mem_append.1 hv with hv | hv
      · exact hold (hc ▸ hv)
      -- The vehicle that has just joined the queue has still to tell the scheduler.
      · obtain rfl := List.mem_singleton.1 hv
        exact ⟨j, _, ⟨horderly.staffed.at_of_vehicle hq rfl, hget⟩, rfl⟩
    · exact hold hv

/-- Whom a scan has gone past still meets a reserved segment after a step of a life, unless the life
has just freed one and has still to tell so. -/
theorem asked_life (h : e.Heard specs) {j : Nat} {q q' : Life}
    (hq : e.tasks.get j = .life q) (htasks : e'.tasks = e.tasks.set j (.life q'))
    (stride : q.Stride e.site e'.site q') {c : VehicleClass}
    {place : Nat} (hseen : e.point.seen? = some e'.site.epoch)
    (hasked : e.point.hasAsked c place = true)
    (hv : (e'.site.queue.levels.get c)[place]? = some v) :
    e'.site.table.ledger.unreserved v.route = false ∨ e'.HasLife Life.hasReleased := by
  obtain ⟨hepoch, -, hreleased⟩ := h.still_of_seen stride hseen
  have hold : (e.site.queue.levels.get c)[place]? = some v := by
    rcases stride.queue with hqueue | ⟨w, -, -, hqueue⟩
    · exact hqueue ▸ hv
    · rwa [hqueue] at hv
  rcases h.asked (hepoch ▸ hseen) hasked hold with hblocked | hlife
  · cases hq' : q'.hasReleased with
    | true => exact .inr ⟨j, q', by rw [htasks, Table.get_set, if_pos rfl], hq'⟩
    | false =>
      apply Or.inl
      rw [Bool.eq_false_iff] at hblocked ⊢
      intro hfree
      apply hblocked
      rw [Ledger.unreserved_iff]
      intro s hs
      -- A segment that is reserved stays so while nobody clears a route.
      by_contra hreserved
      obtain ⟨id, hid⟩ := Option.ne_none_iff_exists'.1 hreserved
      have hviolation : ∀ violation, q' = Life.abortingOver violation → q.IsDenied e.site := by
        rintro violation rfl
        cases stride.after
      have hstill := stride.move.reserved_eq hq' hviolation (Site.dossier_reserved.2 hid)
      rw [Site.dossier_reserved, Ledger.unreserved_iff.1 hfree s hs] at hstill
      cases hstill
  · exact .inr (hasLife_set hq htasks hreleased hlife)

theorem life_move (h : e.Heard specs) (horderly : e.Orderly specs) {j : Nat} {q q' : Life}
    (hq : e.tasks.get j = .life q) (htasks : e'.tasks = e.tasks.set j (.life q'))
    (hpoint : e'.point = e.point) (stride : q.Stride e.site e'.site q') : e'.Heard specs := by
  refine {
    seen := ?_
    held := ?_
    gathered := ?_
    asked := ?_
    done := fun hended => stride.isDone (h.done (hpoint ▸ hended))
    locked := ?_ }
  · intro n hseen
    have hle := h.seen (hpoint ▸ hseen)
    rcases stride.epoch with hepoch | ⟨hepoch, -⟩ <;> omega
  · intro hheld
    rw [hpoint] at hheld
    obtain ⟨hepoch, hcoming, -⟩ := h.still_of_seen stride (by rw [hheld]; rfl)
    exact hasLife_set hq htasks hcoming (h.held (hepoch ▸ hheld))
  · intro c v hseen hgathered hv
    rw [hpoint] at hseen hgathered
    exact h.gathered_life horderly hq htasks stride hseen hgathered hv
  · intro c place v hseen hasked hv
    rw [hpoint] at hseen hasked
    exact h.asked_life hq htasks stride hseen hasked hv
  · intro hlocked
    rcases stride.locked hlocked with hq' | ⟨hlocked, hnot⟩
    · exact ⟨j, q', by rw [htasks, Table.get_set, if_pos rfl], hq'⟩
    · apply hasLife_set hq htasks ?_ (h.locked hlocked)
      intro hq
      rw [hnot] at hq
      cases hq

theorem scheduler_move (h : e.Heard specs) (horderly : e.Orderly specs) (hcounted : e.Counted specs)
    (hsound : e.site.fault = none) (htasks : e'.tasks = e.tasks) (hidle : e.point.abort? = none)
    (move : Scheduler.Move e.site e.point e'.site e'.point) : e'.Heard specs := by
  obtain ⟨-, hrejections, hcompletions, hepoch, htotal, hlocked'⟩ := move.frame hidle
  have hlife : ∀ {f}, e.HasLife f → e'.HasLife f := by
    rintro f ⟨i, p, hp, hfp⟩
    exact ⟨i, p, htasks ▸ hp, hfp⟩
  refine {
    seen := ?_
    held := ?_
    gathered := ?_
    asked := ?_
    done := ?_
    locked := ?_ }
  · intro n hseen
    rw [hepoch]
    rcases move.seen hseen with rfl | hseen
    · exact Nat.le_refl _
    · exact h.seen hseen
  · intro hheld
    exact hlife (hcounted.hasLife_coming horderly.staffed (move.of_holdSleep hheld))
  · intro c v hseen hgathered hv
    obtain ⟨hseen, hgathered, hv⟩ := move.gathered hidle hseen hgathered hv
    obtain ⟨i, p, hlives, hp⟩ := h.gathered (hepoch ▸ hseen) hgathered hv
    exact ⟨i, p, ⟨hlives.enrolled, htasks ▸ hlives.life⟩, hp⟩
  · intro c place v hseen hasked hv
    obtain ⟨htable, hblocked⟩ := move.asked horderly.sound hidle hseen hasked hv
    rw [htable]
    rcases hblocked with hblocked | ⟨hseen, hasked, hv⟩
    · exact .inl hblocked
    · exact (h.asked (hepoch ▸ hseen) hasked hv).imp_right hlife
  · intro hended
    have hdone : e.site.isDone = true := by
      apply (move.of_ended hended).resolve_right
      rw [horderly.flagged.unaborted hsound]
      exact nofun
    rwa [Site.isDone, htotal, hcompletions, hrejections]
  · intro hlocked
    exact hlife (h.locked (hlocked' ▸ hlocked))

/-- Each step of a run without a fault is heard of. -/
theorem move (h : e.Heard specs) (horderly : e.Orderly specs) (hcounted : e.Counted specs)
    (hsound : e.site.fault = none) (stride : e.Stride e') : e'.Heard specs := by
  cases stride with
  | scheduler htasks idle move =>
    exact h.scheduler_move horderly hcounted hsound htasks idle move
  | life j hq htasks hpoint stride => exact h.life_move horderly hq htasks hpoint stride

theorem staged (config : Config) (total : Nat) (console : Console) (specs : List VehicleSpec)
    (faults : List Fault) :
    (Scene.staged (.start config total console) specs faults).Heard specs := by
  have hpoint := point_staged config total console specs faults
  refine {
    seen := ?_
    held := ?_
    gathered := ?_
    asked := ?_
    done := ?_
    locked := nofun }
  · intro n hseen
    rcases hpoint with heq | heq <;> rw [heq] at hseen <;> cases hseen
  · intro hheld
    rcases hpoint with heq | heq <;> rw [heq] at hheld <;> cases hheld
  · intro c v hseen hgathered hv
    rcases hpoint with heq | heq <;> rw [heq] at hseen <;> cases hseen
  · intro c place v hseen hasked hv
    rcases hpoint with heq | heq <;> rw [heq] at hseen <;> cases hseen
  · intro hended
    rcases hpoint with heq | heq <;> rw [heq] at hended <;> cases hended

end Heard

end Scene

end Junction
