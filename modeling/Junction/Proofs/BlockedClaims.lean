import Mathlib.Data.List.Perm.Basic
import Junction.Proofs.Consistency

/-!
# Acquisitions that wait

An acquisition that finds its segment held waits, and a release of the segment wakes all who wait
for it. Suppose that whoever is woken goes on until it returns or waits again before anything else
happens, and before the callback of the release goes on; and that every other operation runs to its
end without a break, but for the callbacks of releases, in which anything may happen.

Then an acquisition looks at the reservation of its segment and at the holder in one go, and a held
segment is reserved for its holder: so whoever waits, waits for a hold of its own vehicle. When the
segment becomes free, the reservation is still there, and the first to go on takes the segment; the
others find it held again.

## Main definitions

* `TableCall.isUrgent` — a call that has to go on before anything else happens
* `Desk.admits`, `Desk.attendAll` — actions that respect urgent calls, and the desk after them
* `Desk.IsAttended` — the invariant of such a desk
* `Desk.AttendsWaiters` — what is promised of waiting calls

## Main results

* `Desk.IsAttended.attend` — what every action preserves
* `Desk.attendsWaiters_after` — waiting calls at every attended desk
-/

namespace Junction

/-! ### Urgent calls -/

namespace TableCall

/-- Whether a call waits for a segment. -/
def waitsFor (s : Segment) : TableCall → Bool
  | acquire s' _ .wait => s' == s
  | _ => false

/-- Whether a call has to go on before anything else may happen. A release rests between its
sections, while its callback runs; an acquisition rests while it waits for a segment with a
holder. -/
def isUrgent (t : SegmentTable) : TableCall → Bool
  | release .. => false
  | acquire s _ .wait => (t.holders.get s).isNone
  | _ => true

/-- An acquisition that has looked at the reservation of its segment still has it. -/
def IsGranted (t : SegmentTable) : TableCall → Prop
  | acquire s v .attempt | acquire s v .wait => t.ledger.reserved.get s = some v
  | _ => True

theorem eq_of_waitsFor {s : Segment} {c : TableCall} (h : c.waitsFor s = true) :
    ∃ v, c = acquire s v .wait := by
  unfold waitsFor at h
  split at h
  · next s' v =>
    obtain rfl : s' = s := by simpa using h
    exact ⟨v, rfl⟩
  · cases h

end TableCall

namespace Desk

/-- Whether no call is urgent. -/
def isSettled (d : Desk) : Bool := d.calls.all fun c => !c.isUrgent d.site.table

/-- Whether an action may happen: urgent calls go first. -/
def admits (d : Desk) : Action → Bool
  | .make _ => d.isSettled
  | .run place => d.isSettled || (d.calls[place]?).any (·.isUrgent d.site.table)

/-- The desk after an action, if the action may happen. -/
def attend (d : Desk) (action : Action) : Desk := if d.admits action then d.act action else d

/-- The desk after those of some actions that may happen. -/
def attendAll (d : Desk) (actions : List Action) : Desk := actions.foldl attend d

/-- How many calls wait for a segment. -/
def waiting (d : Desk) (s : Segment) : Nat := d.calls.countP (·.waitsFor s)

theorem isSettled_iff {d : Desk} :
    d.isSettled = true ↔ ∀ c ∈ d.calls, c.isUrgent d.site.table = false := by
  simp [isSettled]

/-- What running the call at a place comes to: nothing, or the call goes on, or it returns. -/
theorem act_run_cases (d : Desk) (place : Nat) :
    d.act (.run place) = d ∨ ∃ call, d.calls[place]? = some call ∧
      ((∃ x c, call.step d.site = .next x c ∧ d.act (.run place) = ⟨x, d.calls.set place c⟩) ∨
        ∃ x result, call.step d.site = .done x result ∧
          d.act (.run place) = ⟨x, d.calls.eraseIdx place⟩) := by
  unfold act
  dsimp only
  cases hcall : d.calls[place]? with
  | none => exact .inl rfl
  | some call =>
    dsimp only
    cases hstep : call.step d.site with
    | blocked => exact .inl rfl
    | next x c => exact .inr ⟨call, rfl, .inl ⟨x, c, hstep, rfl⟩⟩
    | done x result => exact .inr ⟨call, rfl, .inr ⟨x, result, hstep, rfl⟩⟩

end Desk

/-! ### Sections that free no segment -/

namespace SegmentTable

variable {t t' : SegmentTable} {v : VehicleId} {r : Route} {s : Segment}

/-- Every holder stays, and reservations of held segments stay. -/
structure Fills (t t' : SegmentTable) : Prop where
  /-- Holders stay. -/
  holders : ∀ {s w}, t.holders.get s = some w → t'.holders.get s = some w
  /-- If a segment has a holder afterwards, its reservation has not changed. -/
  reserved : ∀ {s w}, t'.holders.get s ≠ none → t.ledger.reserved.get s = some w →
    t'.ledger.reserved.get s = some w

theorem Fills.refl (t : SegmentTable) : t.Fills t := ⟨id, fun _ => id⟩

theorem fills_reserve (t : SegmentTable) (v : VehicleId) (r : Route) :
    t.Fills (t.reserve v r).1 := by
  unfold reserve
  split
  · next hfree =>
    refine ⟨id, ?_⟩
    intro s w _ hreserved
    rw [Ledger.get_reserved_reserve, if_neg, hreserved]
    -- Only segments without a reservation get one.
    intro hs
    rw [Ledger.unreserved_iff.1 hfree s hs] at hreserved
    cases hreserved
  · exact Fills.refl t

theorem fills_acquire (hfree : t.holders.get s = none) (v : VehicleId) :
    t.Fills ⟨t.holders.set s (some v), t.ledger.acquire s v⟩ := by
  refine ⟨?_, fun _ => id⟩
  intro s' w hholder
  have hne : s' ≠ s := by
    rintro rfl
    rw [hfree] at hholder
    cases hholder
  rw [Trio.get_set_ne _ _ hne, hholder]

theorem fills_take (t : SegmentTable) (s : Segment) (v : VehicleId) : t.Fills (t.take s v).1 := by
  rcases t.take_cases s v with ⟨w, -, htake⟩ | ⟨-, -, htake⟩ | ⟨hfree, -, htake⟩
  · rw [htake]
    exact Fills.refl t
  · rw [htake]
    exact Fills.refl t
  · rw [htake]
    exact fills_acquire hfree v

theorem fills_enter (t : SegmentTable) (v : VehicleId) (r : Route) : t.Fills (t.enter v r).1 := by
  unfold enter
  split
  · exact ⟨id, fun _ => id⟩
  · exact Fills.refl t

/-- A withdrawal drops no reservation of a held segment. -/
theorem Coherent.fills_withdraw (h : t.Coherent) (v : VehicleId) (r : Route) :
    t.Fills { t with ledger := t.ledger.unreserve v r } := by
  refine ⟨id, ?_⟩
  intro s w hholder hreserved
  rw [h.holder_eq] at hholder
  rw [Ledger.get_reserved_unreserve, if_neg fun hdropped => hholder hdropped.2.2, hreserved]

end SegmentTable

namespace TableCall

variable {x x' : Site} {s : Segment} {v : VehicleId} {c c' : TableCall}

/-- A release that frees a segment is the only call whose section takes a holder away. -/
theorem fills_step (h : x.table.Coherent) (c : TableCall) :
    (∃ v r s rest, c = release v r (.vacate (s :: rest)) ∧ x.table.holders.get s = some v) ∨
      (c.step x).Reaches (x.table.Fills ·.table) := by
  by_cases hfrees :
      ∃ v r s rest, c = release v r (.vacate (s :: rest)) ∧ x.table.holders.get s = some v
  · exact .inl hfrees
  · refine .inr (step_reaches_of_leads fun t hleads => ?_)
    cases hleads with
    | look | check => exact .refl _
    | reserve v r => exact x.table.fills_reserve v r
    | tryAcquire s v | acquire s v => exact x.table.fills_take s v
    | enter v r => exact x.table.fills_enter v r
    | depart v r => exact ⟨id, fun _ => id⟩
    | vacate v r s rest =>
      rw [SegmentTable.vacate_of_not_held fun hheld => hfrees ⟨v, r, s, rest, rfl, hheld⟩]
      exact .refl _
    | unreserve v r => exact h.fills_withdraw v r
    | cancel ticket => exact h.fills_withdraw _ _

/-- A call that goes on has looked at its reservation if it is about to take its segment or to wait
for it. -/
theorem isGranted_of_next (hgranted : c.IsGranted x.table) (hstep : c.step x = .next x' c') :
    c'.IsGranted x'.table := by
  cases c with
  | reserve v r => cases hstep
  | tryAcquire s v looked =>
    cases looked with
    | false =>
      rw [step] at hstep
      split at hstep <;> cases hstep
      exact trivial
    | true =>
      rw [step] at hstep
      split at hstep <;> cases hstep
  | acquire s v point =>
    cases point with
    | check =>
      rw [step, Claim.step] at hstep
      by_cases hlook : x.table.granted s v = true
      · simp only [hlook, ↓reduceIte] at hstep
        cases hstep
        exact SegmentTable.granted_iff.1 hlook
      · simp [hlook] at hstep
    | attempt =>
      rw [step, Claim.step] at hstep
      rcases x.table.take_cases s v with ⟨w, -, htake⟩ | ⟨-, -, htake⟩ | ⟨-, -, htake⟩
      · simp only [htake] at hstep
        cases hstep
        exact hgranted
      · simp [htake] at hstep
      · simp [htake] at hstep
    | wait =>
      rw [step, Claim.step] at hstep
      rcases x.table.take_cases s v with ⟨w, -, htake⟩ | ⟨-, -, htake⟩ | ⟨-, -, htake⟩ <;>
        simp [htake] at hstep
  | enter v r => cases hstep
  | release v r point =>
    cases point with
    | depart =>
      cases hstep
      exact trivial
    | vacate todo =>
      cases todo with
      | nil => cases hstep
      | cons s rest =>
        rw [step] at hstep
        split at hstep <;> cases hstep
        exact trivial
  | cancel ticket => cases hstep

/-- A waiting call whose segment is free and reserved for its vehicle takes the segment. -/
theorem step_wait_of_free (hfree : x.table.holders.get s = none)
    (hreserved : x.table.ledger.reserved.get s = some v) :
    (acquire s v .wait).step x =
      .done (x.withTable ⟨x.table.holders.set s (some v), x.table.ledger.acquire s v⟩)
        (x.table.ledger.acquire s v).check := by
  simp only [step, Claim.step, SegmentTable.take_of_free hreserved hfree]

/-- A waiting call is blocked exactly while its segment has a holder. -/
theorem step_wait_eq_blocked_iff :
    (acquire s v .wait).step x = .blocked ↔ x.table.holders.get s ≠ none := by
  rcases x.table.take_cases s v with ⟨w, hholder, htake⟩ | ⟨hfree, -, htake⟩ | ⟨hfree, -, htake⟩
  · simp [step, Claim.step, htake, hholder]
  · simp [step, Claim.step, htake, hfree]
  · simp [step, Claim.step, htake, hfree]

/-- A call that rests is not made urgent by a section that frees no segment. -/
theorem isUrgent_of_fills {t t' : SegmentTable} (h : t.Fills t') (hurgent : c.isUrgent t' = true) :
    c.isUrgent t = true := by
  unfold isUrgent at hurgent ⊢
  split
  · exact hurgent
  · next s v =>
    dsimp only at hurgent
    rw [Option.isNone_iff_eq_none] at hurgent ⊢
    cases hholder : t.holders.get s with
    | none => rfl
    | some w =>
      rw [h.holders hholder] at hurgent
      cases hurgent
  · rfl

/-- A call that rests after such a section still has its reservation. -/
theorem isGranted_of_fills {t t' : SegmentTable} (h : t.Fills t') (hgranted : c.IsGranted t)
    (hrests : c.isUrgent t' = false) : c.IsGranted t' := by
  cases c with
  | acquire s v point =>
    cases point with
    | check => trivial
    | attempt => cases hrests
    | wait =>
      refine h.reserved (fun hholder => ?_) hgranted
      simp [isUrgent, hholder] at hrests
  | _ => trivial

/-- A call that rests is made urgent by a section that frees a segment only if it waits for it. -/
theorem waitsFor_of_freed {t : SegmentTable} (hrests : c.isUrgent t = false)
    (hurgent : c.isUrgent (t.freed s) = true) : c.waitsFor s = true := by
  unfold isUrgent at hrests hurgent
  split at hrests
  · cases hurgent
  · next s' v =>
    dsimp only at hurgent
    rw [SegmentTable.get_holders_freed] at hurgent
    split at hurgent
    · next hs => simp [waitsFor, hs]
    · rw [hrests] at hurgent
      cases hurgent
  · cases hrests

theorem isGranted_freed {t : SegmentTable} (s : Segment) (h : c.IsGranted t) :
    c.IsGranted (t.freed s) := by
  cases c with
  | acquire s' v point => cases point <;> exact h
  | _ => trivial

end TableCall

/-! ### Attended desks -/

namespace Desk

variable {d : Desk} {x : Site} {place : Nat} {call c : TableCall} {s : Segment} {v : VehicleId}
  {t : SegmentTable}

/-- What the discipline keeps true: a call that is about to take its segment, or to wait for it, has
its reservation; and unless all who wait for one free segment are urgent, only one call is. -/
structure IsAttended (d : Desk) : Prop where
  /-- Slots and books agree. -/
  coherent : d.site.table.Coherent
  /-- Acquisitions that have looked at their reservations have them. -/
  granted : ∀ c ∈ d.calls, c.IsGranted d.site.table
  /-- Two urgent calls wait for the same segment. -/
  urgent : ∀ {i j : Nat} {c c' : TableCall}, d.calls[i]? = some c → d.calls[j]? = some c' →
    c.isUrgent d.site.table = true → c'.isUrgent d.site.table = true →
    i = j ∨ ∃ s, c.waitsFor s = true ∧ c'.waitsFor s = true

/-- The calls at all places but one rest. -/
def RestsBeside (d : Desk) (place : Nat) (t : SegmentTable) : Prop :=
  ∀ i c, i ≠ place → d.calls[i]? = some c → c.isUrgent t = false ∧ c.IsGranted t

theorem IsAttended.restsBeside (h : d.IsAttended) (hadmits : d.admits (.run place) = true)
    (hcall : d.calls[place]? = some call) (hfills : d.site.table.Fills t)
    (htaken : ∀ s, call.waitsFor s = true → d.site.table.holders.get s = none →
      t.holders.get s ≠ none) : d.RestsBeside place t := by
  intro i c hi hc
  have hrests : c.isUrgent t = false := by
    refine Bool.eq_false_iff.2 fun hurgent => ?_
    have hbefore := TableCall.isUrgent_of_fills hfills hurgent
    simp only [admits, hcall, Option.any_some, Bool.or_eq_true] at hadmits
    rcases hadmits with hsettled | hcallUrgent
    · rw [isSettled_iff.1 hsettled c (List.mem_of_getElem? hc)] at hbefore
      cases hbefore
    · -- Both wait for the segment that the call at the place has just taken.
      rcases h.urgent hc hcall hbefore hcallUrgent with heq | ⟨s, hwaits, hcallWaits⟩
      · exact hi heq
      · obtain ⟨v, rfl⟩ := TableCall.eq_of_waitsFor hwaits
        exact htaken s hcallWaits (Option.isNone_iff_eq_none.1 hbefore)
          (Option.isNone_iff_eq_none.1 hurgent)
  exact ⟨hrests, TableCall.isGranted_of_fills hfills (h.granted c (List.mem_of_getElem? hc)) hrests⟩

/-- A desk where only the call at one place can be urgent is attended. -/
theorem isAttended_of_place (place : Nat) (hcoherent : d.site.table.Coherent)
    (hgranted : ∀ c ∈ d.calls, c.IsGranted d.site.table)
    (hplace : ∀ (i : Nat) c, d.calls[i]? = some c → c.isUrgent d.site.table = true → i = place) :
    d.IsAttended :=
  ⟨hcoherent, hgranted, fun hi hj hci hcj =>
    .inl ((hplace _ _ hi hci).trans (hplace _ _ hj hcj).symm)⟩

theorem RestsBeside.set (h : d.RestsBeside place x.table) (hcoherent : x.table.Coherent)
    (hc : c.IsGranted x.table) : IsAttended ⟨x, d.calls.set place c⟩ := by
  refine isAttended_of_place place hcoherent ?_ ?_
  · intro c' hc'
    obtain ⟨i, hi⟩ := List.mem_iff_getElem?.1 hc'
    by_cases hplace : place = i
    · rw [List.getElem?_set, if_pos hplace] at hi
      split at hi <;> cases hi
      exact hc
    · rw [List.getElem?_set_ne hplace] at hi
      exact (h i c' (Ne.symm hplace) hi).2
  · -- The calls at all other places rest.
    intro i c' hc' hurgent
    refine Decidable.byContradiction fun hplace => ?_
    rw [List.getElem?_set_ne (Ne.symm hplace)] at hc'
    rw [(h i c' hplace hc').1] at hurgent
    cases hurgent

theorem RestsBeside.rests (h : d.RestsBeside place t) (hc : c ∈ d.calls.eraseIdx place) :
    c.isUrgent t = false ∧ c.IsGranted t := by
  obtain ⟨i, hi, hc⟩ := List.mem_eraseIdx_iff_getElem?.1 hc
  exact h i c hi hc

theorem RestsBeside.eraseIdx (h : d.RestsBeside place x.table) (hcoherent : x.table.Coherent) :
    IsAttended ⟨x, d.calls.eraseIdx place⟩ := by
  refine ⟨hcoherent, fun c hc => (h.rests hc).2, ?_⟩
  intro i j ci cj hi _ hci _
  rw [(h.rests (List.mem_of_getElem? hi)).1] at hci
  cases hci

/-! ### Freed segments -/

theorem settled_of_admits (hadmits : d.admits (.run place) = true)
    (hcall : d.calls[place]? = some call) (hrests : call.isUrgent d.site.table = false) :
    d.isSettled = true := by
  simpa [admits, hcall, hrests] using hadmits

/-- The desk after the section of a release that frees a segment. -/
def afterFreeing (d : Desk) (place : Nat) (s : Segment) (v : VehicleId) (r : Route)
    (rest : List Segment) : Desk :=
  ⟨d.site.withTable (d.site.table.freed s), d.calls.set place (.release v r (.vacate rest))⟩

theorem act_eq_afterFreeing {r : Route} {rest : List Segment}
    (hcall : d.calls[place]? = some (.release v r (.vacate (s :: rest))))
    (hholder : d.site.table.holders.get s = some v) :
    d.act (.run place) = d.afterFreeing place s v r rest := by
  simp only [act, hcall, TableCall.step, SegmentTable.vacate_of_held hholder]
  rfl

section Freeing

variable {r : Route} {rest : List Segment}

theorem mem_afterFreeing (hc : c ∈ (d.afterFreeing place s v r rest).calls) :
    c ∈ d.calls ∨ c = .release v r (.vacate rest) :=
  List.mem_or_eq_of_mem_set hc

/-- Only those who wait for the freed segment are urgent. -/
theorem waitsFor_of_afterFreeing (hsettled : d.isSettled = true)
    (hc : c ∈ (d.afterFreeing place s v r rest).calls)
    (hurgent : c.isUrgent (d.afterFreeing place s v r rest).site.table = true) :
    c.waitsFor s = true := by
  rcases mem_afterFreeing hc with hc | rfl
  · exact TableCall.waitsFor_of_freed (isSettled_iff.1 hsettled c hc) hurgent
  · cases hurgent

theorem waiting_afterFreeing
    (hcall : d.calls[place]? = some (.release v r (.vacate (s :: rest)))) :
    (d.afterFreeing place s v r rest).waiting s = d.waiting s := by
  obtain ⟨hlt, hget⟩ := List.getElem?_eq_some_iff.1 hcall
  simp [waiting, afterFreeing, List.countP_set hlt, hget, TableCall.waitsFor]

theorem IsAttended.afterFreeing (h : d.IsAttended) (hsettled : d.isSettled = true)
    (hholder : d.site.table.holders.get s = some v) :
    (d.afterFreeing place s v r rest).IsAttended := by
  refine ⟨?_, ?_, ?_⟩
  · have hcoherent := h.coherent.vacate s v
    rw [SegmentTable.vacate_of_held hholder] at hcoherent
    exact hcoherent
  · intro c hc
    rcases mem_afterFreeing hc with hc | rfl
    · exact TableCall.isGranted_freed s (h.granted c hc)
    · trivial
  · intro i j c c' hi hj hc hc'
    exact .inr ⟨s, waitsFor_of_afterFreeing hsettled (List.mem_of_getElem? hi) hc,
      waitsFor_of_afterFreeing hsettled (List.mem_of_getElem? hj) hc'⟩

end Freeing

/-! ### Actions -/

theorem IsAttended.make (h : d.IsAttended) (hsettled : d.isSettled = true) (call : TableCall) :
    (d.act (.make call)).IsAttended := by
  refine isAttended_of_place d.calls.length h.coherent ?_ ?_
  · intro c hc
    rcases List.mem_append.1 hc with hc | hc
    · exact h.granted c hc
    · obtain rfl := List.mem_singleton.1 hc
      cases call <;> trivial
  · -- Only the new call is urgent, and it stands at the end.
    intro i c hc hurgent
    have hlast : (d.calls ++ [call.opened])[i]? = some c := hc
    rw [List.getElem?_append] at hlast
    split at hlast
    · have hrests := isSettled_iff.1 hsettled c (List.mem_of_getElem? hlast)
      exact absurd (hrests.symm.trans hurgent) Bool.false_ne_true
    · have hlt := (List.getElem?_eq_some_iff.1 hlast).1
      rw [List.length_singleton] at hlt
      omega

/-- A waiting call that goes on fills its segment. -/
theorem IsAttended.fills_wait (h : d.IsAttended) (hcall : d.calls[place]? = some call)
    (hwaits : call.waitsFor s = true) (hfree : d.site.table.holders.get s = none) :
    ∃ v, call = .acquire s v .wait ∧ call.step d.site =
      .done (d.site.withTable
        ⟨d.site.table.holders.set s (some v), d.site.table.ledger.acquire s v⟩)
        (d.site.table.ledger.acquire s v).check := by
  obtain ⟨v, rfl⟩ := TableCall.eq_of_waitsFor hwaits
  have hreserved := h.granted _ (List.mem_of_getElem? hcall)
  exact ⟨v, rfl, TableCall.step_wait_of_free hfree hreserved⟩

/-- Whatever may happen at an attended desk leaves it attended. -/
theorem IsAttended.act (h : d.IsAttended) {action : Action} (hadmits : d.admits action = true) :
    (d.act action).IsAttended := by
  cases action with
  | make call => exact h.make hadmits call
  | run place =>
    rcases d.act_run_cases place with hact | ⟨call, hcall, hact⟩
    · rwa [hact]
    rcases TableCall.fills_step h.coherent call with ⟨v, r, s, rest, rfl, hholder⟩ | hfills
    · rw [act_eq_afterFreeing hcall hholder]
      exact h.afterFreeing (settled_of_admits hadmits hcall rfl) hholder
    -- A section that frees nothing makes no other call urgent.
    · have hcoherent := TableCall.coherent_step h.coherent call
      have hgranted := h.granted call (List.mem_of_getElem? hcall)
      rcases hact with ⟨x, c, hstep, hact⟩ | ⟨x, result, hstep, hact⟩
      · rw [hstep] at hfills hcoherent
        rw [hact]
        refine (h.restsBeside hadmits hcall hfills ?_).set hcoherent
          (TableCall.isGranted_of_next hgranted hstep)
        intro s hwaits hfree
        obtain ⟨v, -, hdone⟩ := h.fills_wait hcall hwaits hfree
        rw [hdone] at hstep
        cases hstep
      · rw [hstep] at hfills hcoherent
        rw [hact]
        refine (h.restsBeside hadmits hcall hfills ?_).eraseIdx hcoherent
        intro s hwaits hfree
        obtain ⟨v, -, hdone⟩ := h.fills_wait hcall hwaits hfree
        rw [hdone] at hstep
        cases hstep
        simp [Site.withTable]

theorem IsAttended.attend (h : d.IsAttended) (action : Action) : (d.attend action).IsAttended := by
  unfold Desk.attend
  split
  · next hadmits => exact h.act hadmits
  · exact h

theorem IsAttended.attendAll (h : d.IsAttended) (actions : List Action) :
    (d.attendAll actions).IsAttended := by
  induction actions generalizing d with
  | nil => exact h
  | cons action rest ih => exact ih (h.attend action)

theorem isAttended_start (config : Config) (total : Nat) (console : Console) :
    (start config total console).IsAttended :=
  ⟨SegmentTable.coherent_empty, nofun, fun hi => nomatch hi⟩

/-! ### Waiting calls -/

/-- The waiting call at a place takes its segment for its vehicle, and returns. -/
structure TakesOver (s : Segment) (v : VehicleId) (place : Nat) (d d' : Desk) : Prop where
  /-- The call returns, and not for want of a reservation. -/
  returns : ∃ result, (TableCall.acquire s v .wait).step d.site = .done d'.site result ∧
    d'.calls = d.calls.eraseIdx place ∧ ∀ s' w, result ≠ .error (.acquireWithoutGrant s' w)
  /-- The vehicle holds the segment, which is still reserved for it. -/
  held : d'.site.table.ledger.held.get s = some v ∧ d'.site.table.ledger.reserved.get s = some v
  /-- One call less waits for the segment. -/
  waiting : d'.waiting s + 1 = d.waiting s
  /-- Those who wait on are blocked, and no other call is urgent. -/
  blocked : d'.isSettled = true ∧ ∀ c ∈ d'.calls, c.waitsFor s = true → c.step d'.site = .blocked

/-- A segment that was just freed goes to one of those who wait for it. -/
structure HandsOver (s : Segment) (v : VehicleId) (d : Desk) : Prop where
  /-- Nothing may happen but that a call goes on that waits for the segment. -/
  admits : ∀ action, d.admits action = true →
    ∃ place : Nat, action = .run place ∧ d.calls[place]? = some (.acquire s v .wait)
  /-- There is such a call. -/
  exists_waiting : ∃ place : Nat, d.calls[place]? = some (.acquire s v .wait)
  /-- Whichever goes on takes the segment. -/
  takesOver : ∀ place : Nat, d.calls[place]? = some (.acquire s v .wait) →
    d.admits (.run place) = true ∧ TakesOver s v place d (d.act (.run place))

/-- What is promised of waiting calls. -/
structure AttendsWaiters (d : Desk) : Prop where
  /-- A blocked call is blocked by a hold of its own vehicle. -/
  blocked : ∀ s v, TableCall.acquire s v .wait ∈ d.calls →
    (TableCall.acquire s v .wait).step d.site = .blocked →
    d.site.table.ledger.held.get s = some v
  /-- When a release frees a segment for which calls wait, it goes to one of them, while the release
  has still to drop its reservations; all the calls have waited for the vehicle of the release. -/
  handsOver : ∀ place v r s rest, d.admits (.run place) = true →
    d.calls[place]? = some (.release v r (.vacate (s :: rest))) →
    d.site.table.holders.get s = some v → 0 < d.waiting s →
    (d.act (.run place)).waiting s = d.waiting s ∧
      (d.act (.run place)).calls[place]? = some (.release v r (.vacate rest)) ∧
      HandsOver s v (d.act (.run place))
  /-- A held segment stays with its holder and reserved for it until a release frees it; so it does
  when a release drops its reservations. -/
  kept : ∀ action s w, d.admits action = true → d.site.table.ledger.held.get s = some w →
    (∃ place v r rest, action = .run place ∧
      d.calls[place]? = some (.release v r (.vacate (s :: rest)))) ∨
    ((d.act action).site.table.ledger.held.get s = some w ∧
      (d.act action).site.table.ledger.reserved.get s = some w)

theorem waiting_pos_iff : 0 < d.waiting s ↔ ∃ c ∈ d.calls, c.waitsFor s = true :=
  List.countP_pos_iff

/-- The calls that wait for a segment are of the vehicle for which it is reserved. -/
theorem IsAttended.eq_of_waitsFor (h : d.IsAttended) (hc : c ∈ d.calls)
    (hwaits : c.waitsFor s = true) (hreserved : d.site.table.ledger.reserved.get s = some v) :
    c = .acquire s v .wait := by
  obtain ⟨w, rfl⟩ := TableCall.eq_of_waitsFor hwaits
  have hw : d.site.table.ledger.reserved.get s = some w := h.granted _ hc
  rw [Option.some.inj (hw.symm.trans hreserved)]

theorem IsAttended.held_of_blocked (h : d.IsAttended) (hc : .acquire s v .wait ∈ d.calls)
    (hblocked : (TableCall.acquire s v .wait).step d.site = .blocked) :
    d.site.table.ledger.held.get s = some v := by
  have hholder := TableCall.step_wait_eq_blocked_iff.1 hblocked
  rw [h.coherent.holder_eq] at hholder
  obtain ⟨w, hheld⟩ := Option.ne_none_iff_exists'.1 hholder
  -- The segment is reserved for its holder, and for the vehicle of the call.
  have hw := h.coherent.reserved_of_held s w hheld
  have hv : d.site.table.ledger.reserved.get s = some v := h.granted _ hc
  rw [hheld, Option.some.inj (hw.symm.trans hv)]

theorem waiting_eraseIdx (hcall : d.calls[place]? = some call) (hwaits : call.waitsFor s = true)
    (x : Site) : waiting ⟨x, d.calls.eraseIdx place⟩ s + 1 = d.waiting s := by
  obtain ⟨hlt, rfl⟩ := List.getElem?_eq_some_iff.1 hcall
  have hperm := (List.getElem_cons_eraseIdx_perm hlt).countP_eq (·.waitsFor s)
  rwa [List.countP_cons_of_pos hwaits] at hperm

/-- A waiting call at a desk where its segment is free takes the segment over. -/
theorem IsAttended.takesOver (h : d.IsAttended)
    (hcall : d.calls[place]? = some (.acquire s v .wait))
    (hfree : d.site.table.holders.get s = none) :
    d.admits (.run place) = true ∧ TakesOver s v place d (d.act (.run place)) := by
  have hadmits : d.admits (.run place) = true := by
    simp [admits, hcall, TableCall.isUrgent, hfree]
  have hwaits : (TableCall.acquire s v .wait).waitsFor s = true := by simp [TableCall.waitsFor]
  have hreserved : d.site.table.ledger.reserved.get s = some v :=
    h.granted _ (List.mem_of_getElem? hcall)
  have hstep := TableCall.step_wait_of_free hfree hreserved
  have hcoherent := h.coherent.acquire hfree hreserved
  have hact : d.act (.run place) =
      ⟨d.site.withTable ⟨d.site.table.holders.set s (some v), d.site.table.ledger.acquire s v⟩,
        d.calls.eraseIdx place⟩ := by
    simp only [Desk.act, hcall, hstep]
  have hrests := h.restsBeside hadmits hcall (SegmentTable.fills_acquire hfree v) (by
    intro s' hwaits' _
    obtain rfl : s = s' := by simpa [TableCall.waitsFor] using hwaits'
    simp)
  rw [hact]
  refine ⟨hadmits, ⟨_, hstep, rfl, ?_⟩, ⟨?_, hreserved⟩, waiting_eraseIdx hcall hwaits _, ?_, ?_⟩
  · intro s' w hresult
    obtain ⟨u, hu⟩ := Ledger.exists_incompleteEntry hcoherent.reserved_of_held hresult
    cases hu
  · simp [Site.withTable, Ledger.get_held_acquire]
  · exact isSettled_iff.2 fun c hc => (hrests.rests hc).1
  · intro c hc hcWaits
    obtain ⟨w, rfl⟩ := TableCall.eq_of_waitsFor hcWaits
    exact TableCall.step_wait_eq_blocked_iff.2 (by simp [Site.withTable])

/-- After a freeing, the segment is handed over. -/
theorem IsAttended.handsOver (h : d.IsAttended) {r : Route} {rest : List Segment}
    (hadmits : d.admits (.run place) = true)
    (hcall : d.calls[place]? = some (.release v r (.vacate (s :: rest))))
    (hholder : d.site.table.holders.get s = some v) (hwaiting : 0 < d.waiting s) :
    HandsOver s v (d.afterFreeing place s v r rest) := by
  have hsettled := settled_of_admits hadmits hcall rfl
  have hattended : (d.afterFreeing place s v r rest).IsAttended := h.afterFreeing hsettled hholder
  have hfree : (d.afterFreeing place s v r rest).site.table.holders.get s = none := by
    simp [Desk.afterFreeing, Site.withTable, SegmentTable.get_holders_freed]
  have hreserved : (d.afterFreeing place s v r rest).site.table.ledger.reserved.get s = some v :=
    h.coherent.reserved_of_held s v ((h.coherent.holder_eq s).symm.trans hholder)
  have hwaiting' : 0 < (d.afterFreeing place s v r rest).waiting s := by
    rwa [waiting_afterFreeing hcall]
  obtain ⟨c, hc, hcWaits⟩ := waiting_pos_iff.1 hwaiting'
  obtain rfl := hattended.eq_of_waitsFor hc hcWaits hreserved
  refine ⟨?_, List.mem_iff_getElem?.1 hc, fun place' hcall' => hattended.takesOver hcall' hfree⟩
  intro action haction
  -- The waiting call is urgent, so only urgent calls may run, and they all wait for the segment.
  have hunsettled : (d.afterFreeing place s v r rest).isSettled = false := by
    refine Bool.eq_false_iff.2 fun hsettled' => ?_
    have hrests := isSettled_iff.1 hsettled' _ hc
    simp [TableCall.isUrgent, hfree] at hrests
  cases action with
  | make call =>
    rw [Desk.admits, hunsettled] at haction
    cases haction
  | run place' =>
    rw [Desk.admits, hunsettled, Bool.false_or, Option.any_eq_true] at haction
    obtain ⟨c', hc', hurgent⟩ := haction
    have hmem := List.mem_of_getElem? hc'
    have hwaits := waitsFor_of_afterFreeing hsettled hmem hurgent
    obtain rfl := hattended.eq_of_waitsFor hmem hwaits hreserved
    exact ⟨place', rfl, hc'⟩

/-- A held segment stays held until a release frees it. -/
theorem IsAttended.held_act (h : d.IsAttended) (action : Action)
    (hheld : d.site.table.ledger.held.get s = some v) :
    (∃ place v r rest, action = .run place ∧
      d.calls[place]? = some (.release v r (.vacate (s :: rest)))) ∨
    (d.act action).site.table.ledger.held.get s = some v := by
  cases action with
  | make call => exact .inr hheld
  | run place =>
    rcases d.act_run_cases place with hact | ⟨call, hcall, hact⟩
    · exact .inr (by rwa [hact])
    have hcoherent := TableCall.coherent_step h.coherent call
    -- Only a section that frees a segment takes a holder from one, and it names the segment.
    rcases TableCall.fills_step h.coherent call with ⟨u, r, s', rest, rfl, hholder⟩ | hfills
    · by_cases hs : s = s'
      · exact .inl ⟨place, u, r, rest, rfl, hs ▸ hcall⟩
      · rw [act_eq_afterFreeing hcall hholder]
        right
        simpa [Desk.afterFreeing, Site.withTable, SegmentTable.freed, Ledger.get_held_free, hs]
          using hheld
    · rw [← h.coherent.holder_eq] at hheld
      right
      rcases hact with ⟨x, c, hstep, hact⟩ | ⟨x, result, hstep, hact⟩
      · rw [hstep] at hcoherent hfills
        rw [hact]
        exact (hcoherent.holder_eq s).symm.trans (hfills.holders hheld)
      · rw [hstep] at hcoherent hfills
        rw [hact]
        exact (hcoherent.holder_eq s).symm.trans (hfills.holders hheld)

/-- On whatever desk: while urgent calls go first, whoever waits for a segment waits for a hold of
its own vehicle, and a freed segment goes to exactly one of those who wait for it, with its
reservation. -/
theorem attendsWaiters_after (config : Config) (total : Nat) (console : Console)
    (actions : List Action) :
    ((start config total console).attendAll actions).AttendsWaiters := by
  have h := (isAttended_start config total console).attendAll actions
  generalize (start config total console).attendAll actions = d at h
  refine ⟨fun s v hc => h.held_of_blocked hc, ?_, ?_⟩
  · intro place v r s rest hadmits hcall hholder hwaiting
    have hhands := h.handsOver hadmits hcall hholder hwaiting
    have hlt := (List.getElem?_eq_some_iff.1 hcall).1
    rw [act_eq_afterFreeing hcall hholder]
    exact ⟨waiting_afterFreeing hcall, List.getElem?_set_self hlt, hhands⟩
  · intro action s w hadmits hheld
    have hcoherent := (h.act hadmits).coherent
    exact (h.held_act action hheld).imp_right fun hafter =>
      ⟨hafter, hcoherent.reserved_of_held s w hafter⟩

/-- Two acquisitions wait for a segment; after its release the second one goes on and takes it,
which the first one cannot then do. -/
example :
    let d := (start {} 0 {}).attendAll
      [.make (.reserve 0 (.single .ab)), .run 0, .make (.tryAcquire .ab 0 false), .run 0, .run 0,
        .make (.acquire .ab 0 .check), .run 0, .run 0, .make (.acquire .ab 0 .check), .run 1,
        .run 1, .make (.release 0 (.single .ab) .depart), .run 2, .run 2, .run 1, .run 0]
    d.calls = [.acquire .ab 0 .wait, .release 0 (.single .ab) (.vacate [])] ∧
      d.site.table.ledger.held.get .ab = some 0 := by
  decide

end Desk

end Junction
