import Junction.Proofs.Consistency

/-!
# What a failed acquisition has taken

An acquisition fails in two ways. If the segment is not reserved for the vehicle, it is refused and
nothing changes. If the segment is reserved and free, the vehicle takes it first and the books are
checked then; should the check complain, the acquisition fails, and the vehicle holds the segment
all the same. With books that were right before, that happens precisely to a vehicle inside, which
takes a segment beyond its route.

The look at the reservation and the taking are sections of their own, and other operations may run
between them. Whichever section ends an acquisition with an error, it has either changed nothing or
taken the segment, and no section before it has changed anything.

## Main definitions

* `SegmentTable.Takes` — a vehicle has taken a segment, and nothing else has changed
* `SegmentTable.FailsWith` — what an acquisition that fails has done
* `Claim.outright?` — an acquisition that does not wait
* `SegmentTable.FailsOpenly` — what the acquisitions of a table promise in case they fail

## Main results

* `Claim.outright?_eq` — an acquisition that does not wait is a try
* `SegmentTable.Coherent.check_acquire_of_inside` — the complaint about a vehicle inside
* `SegmentTable.failsOpenly_of_reachable` — acquisitions of every reachable table fail openly
* `SegmentTable.failed_overreaching` — a failed acquisition that has taken its segment
-/

namespace Junction

namespace SegmentTable

variable {t t' : SegmentTable} {v w : VehicleId} {s : Segment} {r : Route} {violation : Violation}

/-! ### Failures -/

/-- A vehicle has taken a segment, and nothing else has changed. -/
structure Takes (t t' : SegmentTable) (s : Segment) (v : VehicleId) : Prop where
  /-- The vehicle is in the slot of the segment. -/
  holders : ∀ s', t'.holders.get s' = if s' = s then some v else t.holders.get s'
  /-- The vehicle is the holder in the books. -/
  held : ∀ s', t'.ledger.held.get s' = if s' = s then some v else t.ledger.held.get s'
  /-- The acquisition was counted. -/
  acquires : ∀ s', t'.ledger.acquires.get s' =
    if s' = s then t.ledger.acquires.get s + 1 else t.ledger.acquires.get s'
  /-- The reservations are the same. -/
  reserved : t'.ledger.reserved = t.ledger.reserved
  /-- The releases are the same. -/
  releases : t'.ledger.releases = t.ledger.releases
  /-- The vehicles inside are the same, with the same routes. -/
  inside : t'.ledger.inside = t.ledger.inside
  /-- The vehicles remembered are the same. -/
  entered : t'.ledger.entered = t.ledger.entered

/-- What an acquisition that fails has done to the table. -/
inductive FailsWith (t : SegmentTable) (s : Segment) (v : VehicleId) :
    SegmentTable → Violation → Prop
  /-- The segment is not reserved for the vehicle, and nothing has changed. -/
  | refused (hreserved : t.ledger.reserved.get s ≠ some v) :
      FailsWith t s v t (.acquireWithoutGrant s v)
  /-- The segment was reserved for the vehicle and free, the vehicle has taken it, and the check
  complains of somebody's entry. -/
  | taken {t' : SegmentTable} {w : VehicleId} (hreserved : t.ledger.reserved.get s = some v)
      (hfree : t.holders.get s = none) (htakes : t.Takes t' s v)
      (hcheck : t'.ledger.check = .error (.incompleteEntry w)) :
      FailsWith t s v t' (.incompleteEntry w)

theorem takes_acquire (t : SegmentTable) (s : Segment) (v : VehicleId) :
    t.Takes ⟨t.holders.set s (some v), t.ledger.acquire s v⟩ s v :=
  ⟨fun _ => Trio.get_set .., fun s' => t.ledger.get_held_acquire v s s',
    fun s' => t.ledger.get_acquires_acquire v s s', rfl, rfl, rfl, rfl⟩

/-- A failed attempt to take a segment was refused or has taken it. -/
theorem Coherent.failsWith_take (h : t.Coherent)
    (herror : (t.take s v).2 = some (.error violation)) :
    t.FailsWith s v (t.take s v).1 violation := by
  rcases t.take_cases s v with ⟨w, -, htake⟩ | ⟨-, hreserved, htake⟩ | ⟨hfree, hreserved, htake⟩
  · rw [htake] at herror
    cases herror
  · rw [htake] at herror ⊢
    cases herror
    exact .refused hreserved
  -- The check comes after the writes, and holders have their reservations then, too.
  · rw [htake] at herror ⊢
    have hcheck : (t.ledger.acquire s v).check = .error violation := Option.some.inj herror
    obtain ⟨w, rfl⟩ :=
      Ledger.exists_incompleteEntry (h.acquire hfree hreserved).reserved_of_held hcheck
    exact .taken hreserved hfree (t.takes_acquire s v) hcheck

/-- What a try comes to: it is refused, or what it does is to take the segment. -/
theorem tryAcquire_cases (t : SegmentTable) (s : Segment) (v : VehicleId) :
    (t.ledger.reserved.get s ≠ some v ∧
        t.tryAcquire s v = (t, .error (.acquireWithoutGrant s v))) ∨
      (t.ledger.reserved.get s = some v ∧ t.tryAcquire s v =
        ((t.take s v).1, ((t.take s v).2.elim (.ok false)) fun result =>
          result.map fun _ => true)) := by
  by_cases hreserved : t.ledger.reserved.get s = some v
  · refine .inr ⟨hreserved, ?_⟩
    rw [tryAcquire, if_pos (granted_iff.2 hreserved)]
    generalize t.take s v = taking
    obtain ⟨t', result⟩ := taking
    cases result <;> rfl
  · exact .inl ⟨hreserved, tryAcquire_of_unreserved hreserved⟩

theorem Coherent.failsWith_tryAcquire (h : t.Coherent)
    (herror : (t.tryAcquire s v).2 = .error violation) :
    t.FailsWith s v (t.tryAcquire s v).1 violation := by
  rcases t.tryAcquire_cases s v with ⟨hreserved, htry⟩ | ⟨-, htry⟩
  · rw [htry] at herror ⊢
    cases herror
    exact .refused hreserved
  · rw [htry] at herror ⊢
    refine h.failsWith_take ?_
    cases htaking : (t.take s v).2 with
    | none =>
      rw [htaking] at herror
      cases herror
    | some result =>
      rw [htaking] at herror
      cases result with
      | ok done => cases herror
      | error found =>
        cases herror
        rfl

/-! ### Vehicles inside -/

/-- If a vehicle inside takes a free segment, the check complains of it. -/
theorem Coherent.check_acquire_of_inside (h : t.Coherent) (hconsistent : t.ledger.Consistent)
    (hfree : t.holders.get s = none) (hreserved : t.ledger.reserved.get s = some v)
    (hinside : t.ledger.inside.get? v = some r) :
    (t.ledger.acquire s v).check = .error (.incompleteEntry v) := by
  have hroutes := (Ledger.consistent_iff h.reserved_of_held).1 hconsistent
  -- The segment was free, so it is not on the route.
  have hs : s ∉ r := by
    intro hs
    have hheld := (h.holder_eq s).trans ((hroutes v r hinside s).2 hs)
    rw [hfree] at hheld
    cases hheld
  have hstray : (t.ledger.acquire s v).strayProblem? s = some (.incompleteEntry v) := by
    simp [Ledger.strayProblem?, Ledger.get_held_acquire, hinside, hs]
  refine Ledger.check_eq_error_of_stray (h.acquire hfree hreserved).reserved_of_held
    (fun s' => ?_) (s := s) (by simp [hstray])
  by_cases hs' : s' = s
  · exact .inr (hs' ▸ hstray)
  · -- All other segments have the holders that they had.
    left
    refine Ledger.strayProblem?_eq_none_iff.2 fun w hw r' hr' => ?_
    rw [Ledger.get_held_acquire, if_neg hs'] at hw
    exact (hroutes w r' hr' s').1 hw

/-- With consistent books, an acquisition that fails after it has taken the segment is that of a
vehicle inside, and the complaint is about this vehicle. -/
theorem Coherent.tryAcquire_eq_incompleteEntry_iff (h : t.Coherent)
    (hconsistent : t.ledger.Consistent) :
    (t.tryAcquire s v).2 = .error (.incompleteEntry w) ↔ w = v ∧ t.ledger.inside.get? v ≠ none ∧
      t.ledger.reserved.get s = some v ∧ t.holders.get s = none := by
  constructor
  · intro herror
    have hinside : t.ledger.inside.get? v ≠ none := by
      -- A vehicle outside fails for want of a reservation only.
      intro houtside
      rcases (h.sound_tryAcquire (h.sound_iff.2 hconsistent) s houtside).2 with ⟨taken, hok⟩ | hno
      · rw [hok] at herror
        cases herror
      · rw [hno] at herror
        cases herror
    obtain ⟨r, hr⟩ := Option.ne_none_iff_exists'.1 hinside
    have hfails := h.failsWith_tryAcquire herror
    generalize (t.tryAcquire s v).1 = t' at hfails
    cases hfails with
    | taken hreserved hfree htakes hcheck =>
      rw [tryAcquire_of_free hreserved hfree,
        h.check_acquire_of_inside hconsistent hfree hreserved hr] at herror
      cases herror
      exact ⟨rfl, hinside, hreserved, hfree⟩
  · rintro ⟨rfl, hinside, hreserved, hfree⟩
    obtain ⟨r, hr⟩ := Option.ne_none_iff_exists'.1 hinside
    rw [tryAcquire_of_free hreserved hfree,
      h.check_acquire_of_inside hconsistent hfree hreserved hr]
    rfl

end SegmentTable

/-! ### Acquisitions in sections -/

/-- An acquisition from its beginning to its end, if it does not have to wait. -/
def Claim.outright? (s : Segment) (v : VehicleId) (x : Site) :
    Option (Site × Except Violation Unit) :=
  match Claim.check.step s v x with
  | .blocked => none
  | .done x result => some (x, result)
  | .next x point =>
    match point.step s v x with
    | .blocked | .next _ _ => none
    | .done x result => some (x, result)

/-- An acquisition that does not wait is a try. -/
theorem Claim.outright?_eq (s : Segment) (v : VehicleId) (x : Site) :
    Claim.outright? s v x =
      match x.table.tryAcquire s v with
      | (_, .ok false) => none
      | (table, .ok true) => some (x.withTable table, .ok ())
      | (table, .error violation) => some (x.withTable table, .error violation) := by
  rcases x.table.tryAcquire_cases s v with ⟨hreserved, htry⟩ | ⟨hreserved, htry⟩
  · rw [htry, outright?, Claim.step, if_neg fun h => hreserved (SegmentTable.granted_iff.1 h)]
    rfl
  · rw [htry, outright?, Claim.step, if_pos (SegmentTable.granted_iff.2 hreserved)]
    dsimp only
    rw [Claim.step]
    generalize x.table.take s v = taking
    obtain ⟨table, result⟩ := taking
    rcases result with - | - | - <;> rfl

/-- The call is an acquisition of a segment by a vehicle, be it a mere try or not. -/
def TableCall.IsAcquisition (s : Segment) (v : VehicleId) (c : TableCall) : Prop :=
  (∃ looked, c = .tryAcquire s v looked) ∨ ∃ point, c = .acquire s v point

/-- A section of a claim that ends it with an error was refused or has taken the segment. -/
theorem Claim.failsWith_step {x x' : Site} {s : Segment} {v : VehicleId} {point : Claim}
    {violation : Violation} (h : x.table.Coherent)
    (hstep : point.step s v x = .done x' (.error violation)) :
    x.table.FailsWith s v x'.table violation := by
  have htake := @SegmentTable.Coherent.failsWith_take x.table v s violation h
  cases point with
  | check =>
    rw [Claim.step] at hstep
    split at hstep
    · cases hstep
    · next hgranted =>
      cases hstep
      exact .refused fun hreserved => hgranted (SegmentTable.granted_iff.2 hreserved)
  | attempt | wait =>
    rw [Claim.step] at hstep
    split at hstep
    · cases hstep
    · next table result heq =>
      cases hstep
      rw [heq] at htake
      exact htake rfl

namespace TableCall

variable {x x' : Site} {s : Segment} {v : VehicleId} {c c' : TableCall} {violation : Violation}

/-- A section after which an acquisition goes on has changed nothing. -/
theorem IsAcquisition.table_of_next (h : c.IsAcquisition s v) (hstep : c.step x = .next x' c') :
    x'.table = x.table := by
  rcases h with ⟨looked, rfl⟩ | ⟨point, rfl⟩
  · cases looked with
    | false =>
      rw [step] at hstep
      split at hstep <;> cases hstep
      rfl
    | true =>
      rw [step] at hstep
      split at hstep <;> cases hstep
  · rw [step] at hstep
    split at hstep <;> cases hstep
    next hclaim => exact Claim.table_of_next hclaim

/-- A section that ends an acquisition with an error was refused or has taken the segment. -/
theorem IsAcquisition.failsWith_step (h : c.IsAcquisition s v) (hcoherent : x.table.Coherent)
    (hstep : c.step x = .done x' (.error violation)) :
    x.table.FailsWith s v x'.table violation := by
  rcases h with ⟨looked, rfl⟩ | ⟨point, rfl⟩
  · cases looked with
    | false =>
      rw [step] at hstep
      split at hstep
      · cases hstep
      · next hgranted =>
        cases hstep
        exact .refused fun hreserved => hgranted (SegmentTable.granted_iff.2 hreserved)
    | true =>
      have htake := @SegmentTable.Coherent.failsWith_take x.table v s violation hcoherent
      rw [step] at hstep
      split at hstep
      · cases hstep
      · next table result heq =>
        cases hstep
        rw [heq] at htake
        exact htake rfl
  · rw [step] at hstep
    split at hstep <;> cases hstep
    next hclaim => exact Claim.failsWith_step hcoherent hclaim

end TableCall

namespace SegmentTable

/-- What the acquisitions of a table promise in case they fail. -/
structure FailsOpenly (t : SegmentTable) : Prop where
  /-- A try that fails was refused or has taken the segment. -/
  tries : ∀ s v violation, (t.tryAcquire s v).2 = .error violation →
    t.FailsWith s v (t.tryAcquire s v).1 violation
  /-- So does an acquisition that fails and did not have to wait. -/
  acquires : ∀ (x : Site) s v x' violation, x.table = t →
    Claim.outright? s v x = some (x', .error violation) → t.FailsWith s v x'.table violation
  /-- Whatever happens between the sections of either, and after a wait or not, the section that
  fails has done nothing else, and those before it have done nothing. -/
  sections : ∀ (x : Site) s v (c : TableCall), x.table = t → c.IsAcquisition s v →
    (∀ x' c', c.step x = .next x' c' → x'.table = t) ∧
      ∀ x' violation, c.step x = .done x' (.error violation) → t.FailsWith s v x'.table violation
  /-- With consistent books, those that fail after they have taken the segment are precisely those
  of vehicles inside, and the complaint is about the vehicle itself. -/
  overreaches : t.ledger.Consistent → ∀ s v w,
    (t.tryAcquire s v).2 = .error (.incompleteEntry w) ↔ w = v ∧ t.ledger.inside.get? v ≠ none ∧
      t.ledger.reserved.get s = some v ∧ t.holders.get s = none

/-- On every table that calls of the operations lead to, an acquisition that fails for want of a
reservation changes nothing. The only other failure is a complaint of the check about an incomplete
entry; it comes after the vehicle has taken the segment, which it keeps, and nothing else has
changed. -/
theorem failsOpenly_of_reachable {t : SegmentTable} (h : t.Reachable) : t.FailsOpenly := by
  have hcoherent := h.coherent
  refine ⟨fun s v violation => hcoherent.failsWith_tryAcquire, ?_, ?_,
    fun hconsistent s v w => hcoherent.tryAcquire_eq_incompleteEntry_iff hconsistent⟩
  · rintro x s v x' violation rfl houtright
    have htries := @Coherent.failsWith_tryAcquire x.table v s violation hcoherent
    rw [Claim.outright?_eq] at houtright
    split at houtright <;> cases houtright
    next heq =>
      rw [heq] at htries
      exact htries rfl
  · rintro x s v c rfl hacquisition
    exact ⟨fun x' c' => hacquisition.table_of_next,
      fun x' violation => hacquisition.failsWith_step hcoherent⟩

/-- A site with a vehicle inside that has reserved a second segment. -/
def overreaching : Site :=
  ((Desk.start {} 0 {}).after
    [.make (.reserve 0 (.single .ab)), .run 0, .make (.tryAcquire .ab 0 false), .run 0, .run 0,
      .make (.enter 0 (.single .ab)), .run 0, .make (.reserve 0 (.single .bc)), .run 0]).site

theorem reachable_overreaching : overreaching.table.Reachable := ⟨{}, 0, {}, _, rfl⟩

/-- The vehicle takes the second segment, the books are wrong from then on, and the try fails; so
does an acquisition that does not wait. -/
theorem failed_overreaching :
    overreaching.table.Reachable ∧
      (overreaching.table.tryAcquire .bc 0).2 = .error (.incompleteEntry 0) ∧
      (Claim.outright? .bc 0 overreaching).map (·.2) = some (.error (.incompleteEntry 0)) ∧
      overreaching.table.ledger.held = ⟨some 0, none, none⟩ ∧
      (overreaching.table.tryAcquire .bc 0).1.ledger.held = ⟨some 0, some 0, none⟩ ∧
      overreaching.table.ledger.acquires = ⟨1, 0, 0⟩ ∧
      (overreaching.table.tryAcquire .bc 0).1.ledger.acquires = ⟨1, 1, 0⟩ ∧
      overreaching.table.ledger.check = .ok () ∧
      (overreaching.table.tryAcquire .bc 0).1.ledger.check = .error (.incompleteEntry 0) :=
  ⟨reachable_overreaching, rfl, rfl, rfl, rfl, rfl, rfl, rfl, rfl⟩

/-- The vehicle takes the second segment in vain, and is refused the third one. -/
theorem failsOpenly_overreaching :
    overreaching.table.ledger.Consistent ∧
      overreaching.table.FailsWith .bc 0 (overreaching.table.tryAcquire .bc 0).1
        (.incompleteEntry 0) ∧
      overreaching.table.FailsWith .ca 0 overreaching.table (.acquireWithoutGrant .ca 0) := by
  have hopenly := failsOpenly_of_reachable reachable_overreaching
  exact ⟨by decide, hopenly.tries .bc 0 _ rfl, hopenly.tries .ca 0 _ rfl⟩

end SegmentTable

end Junction
