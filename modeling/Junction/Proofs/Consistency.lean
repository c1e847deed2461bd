import Junction.Proofs.Coherence

/-!
# What the check of the books finds

The check of the ledger asks four things: whether every holder has its reservation, whether a
vehicle inside holds a segment outside its route, whether the routes inside are disjoint, and
whether every vehicle inside holds its whole route. On a coherent table the first and the third
never decide anything: holders have their reservations, and two vehicles cannot hold the same
segment. So the check passes exactly if every vehicle inside holds precisely its route.

From this it follows which operations can spoil consistent books. A reservation, a withdrawal and a
release cannot, and neither can an acquisition by a vehicle that is not inside; only an entry with
less than what the vehicle holds, and an acquisition by a vehicle inside, can.

## Main definitions

* `Ledger.RoutesHeld` — every vehicle inside holds precisely its route
* `Ledger.strayProblem?`, `Ledger.gapProblem?` — the two tests that decide
* `SegmentTable.inert` — a callback that looks at the table but does not touch it
* `SegmentTable.vacated` — a table with some segments freed
* `SegmentTable.Reachable` — the tables that calls of the operations lead to
* `SegmentTable.KeepsBooks` — what the check and the operations promise each other

## Main results

* `Ledger.problem?_eq` — the check without the tests that decide nothing
* `SegmentTable.vacateEach_append` — freeing segments that the vehicle holds
* `SegmentTable.keepsBooks_of_reachable` — every reachable table keeps its books
-/

universe u

namespace Junction

namespace Ledger

variable {l : Ledger} {v : VehicleId} {r : Route} {s : Segment}

/-! ### The tests that decide -/

/-- Every vehicle inside holds precisely the segments of its route. -/
def RoutesHeld (l : Ledger) : Prop :=
  ∀ v r, l.inside.get? v = some r → ∀ s, l.held.get s = some v ↔ s ∈ r

/-- The holder of a segment is inside with a route that leaves the segment out. -/
def strayProblem? (l : Ledger) (s : Segment) : Option Violation :=
  match l.held.get s with
  | none => none
  | some v =>
    match l.inside.get? v with
    | some r => if s ∈ r then none else some (.incompleteEntry v)
    | none => none

/-- A vehicle inside does not hold its whole route. -/
def gapProblem? (l : Ledger) (entry : VehicleId × Route) : Option Violation :=
  if ∀ s ∈ entry.2.segments, l.held.get s = some entry.1 then none
  else some (.incompleteEntry entry.1)

theorem strayProblem?_eq_none_iff :
    l.strayProblem? s = none ↔
      ∀ v, l.held.get s = some v → ∀ r, l.inside.get? v = some r → s ∈ r := by
  unfold strayProblem?
  cases l.held.get s with
  | none => simp
  | some v =>
    dsimp only
    cases hinside : l.inside.get? v <;> simp [hinside]

theorem gapProblem?_eq_none_iff :
    l.gapProblem? (v, r) = none ↔ ∀ s ∈ r, l.held.get s = some v := by
  simp [gapProblem?]

/-- A holder with its reservation passes the test on reservations. -/
theorem heldProblem?_eq (hreserved : ∀ v, l.held.get s = some v → l.reserved.get s = some v) :
    l.heldProblem? s = l.strayProblem? s := by
  unfold heldProblem? strayProblem?
  cases hheld : l.held.get s with
  | none => rfl
  | some v => exact if_pos (hreserved v hheld)

/-- While holders have their reservations, the test on disjoint routes finds no entry that the test
on whole routes does not find. -/
theorem entryProblem?_eq (hreserved : ∀ s v, l.held.get s = some v → l.reserved.get s = some v)
    {entries : List (VehicleId × Route)} (hascending : entries.Pairwise fun p q => p.1 < q.1)
    {covered : Route}
    (hcovered : ∀ s ∈ covered, ∀ entry ∈ entries, l.held.get s ≠ some entry.1) :
    l.entryProblem? covered entries = entries.findSome? l.gapProblem? := by
  induction entries generalizing covered with
  | nil => rfl
  | cons entry rest ih =>
    obtain ⟨v, r⟩ := entry
    obtain ⟨hbefore, hrest⟩ := List.pairwise_cons.1 hascending
    rw [entryProblem?, List.findSome?_cons]
    by_cases hwhole : ∀ s ∈ r, l.held.get s = some v
    · -- A covered segment has another holder, so the route meets none.
      have hdisjoint : covered.intersects r = false :=
        Route.not_intersects_iff.2 fun s hs hr =>
          hcovered s hs (v, r) List.mem_cons_self (hwhole s hr)
      have howns : r.segments.any (fun s => !l.owns v s) = false := by
        simp only [List.any_eq_false, Route.mem_segments, Bool.not_eq_true', Bool.not_eq_false,
          owns, Bool.and_eq_true, beq_iff_eq]
        exact fun s hs => ⟨hwhole s hs, hreserved s v (hwhole s hs)⟩
      rw [gapProblem?_eq_none_iff.2 hwhole, hdisjoint, howns, if_neg (by simp)]
      apply ih hrest
      intro s hs entry hentry hheld
      rcases Route.mem_union.1 hs with hs | hs
      · exact hcovered s hs entry (List.mem_cons_of_mem _ hentry) hheld
      -- The entries ascend, so the holder of the new segments does not come again.
      · have hv : v = entry.1 := Option.some.inj ((hwhole s hs).symm.trans hheld)
        exact absurd (hbefore entry hentry) (by simp [hv])
    · have hlacks : r.segments.any (fun s => !l.owns v s) = true := by
        refine Bool.of_not_eq_false fun hall => hwhole fun s hs => ?_
        have howns := List.any_eq_false.1 hall s (Route.mem_segments.2 hs)
        simp only [owns, Bool.not_eq_true', Bool.not_eq_false, Bool.and_eq_true, beq_iff_eq]
          at howns
        exact howns.1
      have hgap : l.gapProblem? (v, r) = some (.incompleteEntry v) := by
        simp only [gapProblem?, Route.mem_segments, hwhole, ↓reduceIte]
      rw [hgap, hlacks, Bool.or_true, if_pos rfl]

/-- While holders have their reservations, the check is that of stray holders and of gaps. -/
theorem problem?_eq (hreserved : ∀ s v, l.held.get s = some v → l.reserved.get s = some v) :
    l.problem? =
      (Segment.all.findSome? l.strayProblem?).or (l.inside.entries.findSome? l.gapProblem?) := by
  have hheld : l.heldProblem? = l.strayProblem? := funext fun s => heldProblem?_eq (hreserved s)
  have hentries : l.entryProblem? .empty l.inside.entries =
      l.inside.entries.findSome? l.gapProblem? :=
    entryProblem?_eq hreserved l.inside.ascending fun s hs => absurd hs (Route.not_mem_empty s)
  rw [problem?, hheld, hentries]

theorem consistent_iff (hreserved : ∀ s v, l.held.get s = some v → l.reserved.get s = some v) :
    l.Consistent ↔ l.RoutesHeld := by
  rw [Consistent, problem?_eq hreserved, Option.or_eq_none_iff, List.findSome?_eq_none_iff,
    List.findSome?_eq_none_iff]
  constructor
  · rintro ⟨hstray, hgap⟩ v r hinside s
    constructor
    · intro hheld
      exact strayProblem?_eq_none_iff.1 (hstray s (Segment.mem_all s)) v hheld r hinside
    · exact gapProblem?_eq_none_iff.1 (hgap (v, r) (Roster.mem_entries_iff.2 hinside)) s
  · intro h
    refine ⟨fun s _ => strayProblem?_eq_none_iff.2 ?_, ?_⟩
    · exact fun v hheld r hinside => (h v r hinside s).1 hheld
    · rintro ⟨v, r⟩ hentry
      exact gapProblem?_eq_none_iff.2 fun s => (h v r (Roster.mem_entries_iff.1 hentry) s).2

/-- While holders have their reservations, the check complains of incomplete entries only. -/
theorem exists_incompleteEntry
    (hreserved : ∀ s v, l.held.get s = some v → l.reserved.get s = some v) {violation : Violation}
    (h : l.check = .error violation) : ∃ v, violation = .incompleteEntry v := by
  have hproblem : l.problem? = some violation := by
    unfold check at h
    cases hp : l.problem? with
    | none => simp [hp] at h
    | some p => simpa [hp] using h
  rw [problem?_eq hreserved, Option.or_eq_some_iff] at hproblem
  rcases hproblem with hstray | ⟨-, hgap⟩
  · obtain ⟨s, -, hs⟩ := List.exists_of_findSome?_eq_some hstray
    unfold strayProblem? at hs
    split at hs
    · cases hs
    · next v _ =>
      split at hs
      · split at hs
        · cases hs
        · exact ⟨v, (Option.some.inj hs).symm⟩
      · cases hs
  · obtain ⟨entry, -, hentry⟩ := List.exists_of_findSome?_eq_some hgap
    unfold gapProblem? at hentry
    split at hentry
    · cases hentry
    · exact ⟨entry.1, (Option.some.inj hentry).symm⟩

/-- If the only stray holder is one vehicle, the check complains of this vehicle. -/
theorem check_eq_error_of_stray
    (hreserved : ∀ s v, l.held.get s = some v → l.reserved.get s = some v)
    (honly : ∀ s, l.strayProblem? s = none ∨ l.strayProblem? s = some (.incompleteEntry v))
    (hstray : l.strayProblem? s ≠ none) : l.check = .error (.incompleteEntry v) := by
  -- The check looks for stray holders first.
  have hfound : Segment.all.findSome? l.strayProblem? = some (.incompleteEntry v) := by
    cases hfind : Segment.all.findSome? l.strayProblem? with
    | none => exact absurd (List.findSome?_eq_none_iff.1 hfind s (Segment.mem_all s)) hstray
    | some violation =>
      obtain ⟨s', -, hs'⟩ := List.exists_of_findSome?_eq_some hfind
      rcases honly s' with hnone | hsome
      · rw [hnone] at hs'
        cases hs'
      · exact hs'.symm.trans hsome
  rw [check, problem?_eq hreserved, hfound, Option.some_or]

/-- While holders have their reservations, books without incomplete entries are consistent. -/
theorem consistent_of_check
    (hreserved : ∀ s v, l.held.get s = some v → l.reserved.get s = some v)
    (hok : ∀ v, l.check ≠ .error (.incompleteEntry v)) : l.Consistent := by
  cases hcheck : l.check with
  | ok _ => exact check_eq_ok_iff.1 hcheck
  | error violation =>
    obtain ⟨v, rfl⟩ := exists_incompleteEntry hreserved hcheck
    exact absurd hcheck (hok v)

namespace Sound

theorem leave (h : l.Sound) (v : VehicleId) : (l.leave v).Sound := by
  refine ⟨h.reserved, ?_⟩
  intro w r hw
  rw [get?_inside_leave] at hw
  split at hw
  · cases hw
  · exact h.inside hw

theorem free (h : l.Sound) (hheld : l.held.get s = some v) (houtside : l.inside.get? v = none) :
    (l.free s).Sound := by
  refine ⟨?_, ?_⟩
  · intro s' w hw
    rw [get_held_free] at hw
    split at hw
    · cases hw
    · exact h.reserved hw
  · intro w r hr s'
    rw [inside_free] at hr
    rw [get_held_free, ← h.inside hr s']
    split
    · -- Whoever is inside is not the vehicle that gives the segment up.
      next hs =>
      subst hs
      have hne : v ≠ w := by
        rintro rfl
        rw [houtside] at hr
        cases hr
      simp [hheld, hne]
    · rfl

end Sound

end Ledger

/-- The step of a procedure ends it with a result that has a property, if it ends it at all. -/
def Progress.Returns {π ρ : Type} (p : Progress π ρ) (P : ρ → Prop) : Prop :=
  match p with
  | .done _ result => P result
  | .blocked | .next _ _ => True

namespace SegmentTable

variable {t : SegmentTable} {v : VehicleId} {r : Route} {s : Segment}

/-- The books of a coherent table are sound exactly if the check passes. -/
theorem Coherent.sound_iff (h : t.Coherent) : t.ledger.Sound ↔ t.ledger.Consistent := by
  rw [Ledger.consistent_iff h.reserved_of_held]
  constructor
  · exact fun hsound v r hinside => hsound.inside hinside
  · exact fun hroutes => ⟨h.reserved_of_held _ _, hroutes _ _⟩

/-! ### Operations of one section -/

theorem reserve_of_reserved (hreserved : ∃ s ∈ r, t.ledger.reserved.get s ≠ none)
    (v : VehicleId) : t.reserve v r = (t, .ok none) := by
  obtain ⟨s, hs, hmark⟩ := hreserved
  have hrefused : ¬ t.ledger.unreserved r = true := fun h => hmark (Ledger.unreserved_iff.1 h s hs)
  rw [reserve, if_neg hrefused]

theorem reserve_of_unreserved (h : t.ledger.Sound)
    (hfree : ∀ s ∈ r, t.ledger.reserved.get s = none) (v : VehicleId) :
    t.reserve v r = ({ t with ledger := t.ledger.reserve v r }, .ok (some ⟨v, r⟩)) := by
  have hunreserved := Ledger.unreserved_iff.2 hfree
  rw [reserve, if_pos hunreserved]
  simp only [Ledger.check_eq_ok_iff.2 (h.reserve hunreserved v).consistent]
  rfl

theorem tryAcquire_of_unreserved (hreserved : t.ledger.reserved.get s ≠ some v) :
    t.tryAcquire s v = (t, .error (.acquireWithoutGrant s v)) := by
  rw [tryAcquire, if_neg fun h => hreserved (granted_iff.1 h)]

theorem take_of_held (hholder : t.holders.get s ≠ none) : t.take s v = (t, none) := by
  rcases t.take_cases s v with ⟨w, -, htake⟩ | ⟨hfree, -, -⟩ | ⟨hfree, -, -⟩
  · exact htake
  · exact absurd hfree hholder
  · exact absurd hfree hholder

theorem take_of_free (hreserved : t.ledger.reserved.get s = some v)
    (hfree : t.holders.get s = none) :
    t.take s v =
      (⟨t.holders.set s (some v), t.ledger.acquire s v⟩, some (t.ledger.acquire s v).check) := by
  rcases t.take_cases s v with ⟨w, hholder, -⟩ | ⟨-, hne, -⟩ | ⟨-, -, htake⟩
  · rw [hfree] at hholder
    cases hholder
  · exact absurd hreserved hne
  · exact htake

theorem tryAcquire_of_held (hreserved : t.ledger.reserved.get s = some v)
    (hholder : t.holders.get s ≠ none) : t.tryAcquire s v = (t, .ok false) := by
  rw [tryAcquire, if_pos (granted_iff.2 hreserved), take_of_held hholder]

theorem tryAcquire_of_free (hreserved : t.ledger.reserved.get s = some v)
    (hfree : t.holders.get s = none) :
    t.tryAcquire s v = (⟨t.holders.set s (some v), t.ledger.acquire s v⟩,
      (t.ledger.acquire s v).check.map fun _ => true) := by
  rw [tryAcquire, if_pos (granted_iff.2 hreserved), take_of_free hreserved hfree]

theorem enter_of_held (hheld : ∀ s ∈ r, t.ledger.held.get s = some v) :
    t.enter v r = ({ t with ledger := t.ledger.enter v r }, (t.ledger.enter v r).check) := by
  have hall : (r.segments.all fun s => t.ledger.held.get s == some v) = true := by
    simpa using hheld
  rw [enter, if_pos hall]

theorem enter_of_lacking (hlacks : ¬ ∀ s ∈ r, t.ledger.held.get s = some v) :
    t.enter v r = (t, .error (.incompleteEntry v)) := by
  have hall : ¬ (r.segments.all fun s => t.ledger.held.get s == some v) = true := by
    simpa using hlacks
  rw [enter, if_neg hall]

/-- A vehicle that enters with success holds precisely its route. -/
theorem Coherent.held_iff_of_enter (h : t.Coherent) (hok : (t.enter v r).2 = .ok ()) (s : Segment) :
    t.ledger.held.get s = some v ↔ s ∈ r := by
  by_cases hheld : ∀ s ∈ r, t.ledger.held.get s = some v
  · -- The check passes after the entry, so the vehicle holds what it has entered with.
    rw [enter_of_held hheld] at hok
    have hroutes : (t.ledger.enter v r).RoutesHeld :=
      (Ledger.consistent_iff (l := t.ledger.enter v r) h.reserved_of_held).1
        (Ledger.check_eq_ok_iff.1 hok)
    exact hroutes v r (by rw [Ledger.get?_inside_enter, if_pos rfl]) s
  · rw [enter_of_lacking hheld] at hok
    cases hok

/-- From consistent books, an entry succeeds exactly if the vehicle holds its route and nothing
else. -/
theorem Coherent.enter_eq_ok_iff (h : t.Coherent) (hconsistent : t.ledger.Consistent) :
    (t.enter v r).2 = .ok () ↔ ∀ s, t.ledger.held.get s = some v ↔ s ∈ r := by
  constructor
  · exact h.held_iff_of_enter
  · intro hheld
    rw [enter_of_held fun s => (hheld s).2]
    exact Ledger.check_eq_ok_iff.2 ((h.sound_iff.2 hconsistent).enter hheld).consistent

/-- A vehicle that is not inside takes a segment without harm to the books, and fails only for want
of a reservation. -/
theorem Coherent.sound_take (h : t.Coherent) (hsound : t.ledger.Sound) (s : Segment)
    (houtside : t.ledger.inside.get? v = none) :
    (t.take s v).1.ledger.Sound ∧ ∀ result, (t.take s v).2 = some result →
      result = .ok () ∨ result = .error (.acquireWithoutGrant s v) := by
  rcases t.take_cases s v with ⟨w, -, htake⟩ | ⟨-, -, htake⟩ | ⟨hfree, hreserved, htake⟩
  · rw [htake]
    exact ⟨hsound, nofun⟩
  · rw [htake]
    exact ⟨hsound, fun result hresult => .inr (Option.some.inj hresult).symm⟩
  · have hafter : (t.ledger.acquire s v).Sound :=
      hsound.acquire ((h.holder_eq s).symm.trans hfree) hreserved houtside
    rw [htake]
    refine ⟨hafter, fun result hresult => .inl ?_⟩
    rw [← Option.some.inj hresult]
    exact Ledger.check_eq_ok_iff.2 hafter.consistent

theorem Coherent.sound_tryAcquire (h : t.Coherent) (hsound : t.ledger.Sound) (s : Segment)
    (houtside : t.ledger.inside.get? v = none) :
    (t.tryAcquire s v).1.ledger.Sound ∧ ((∃ taken, (t.tryAcquire s v).2 = .ok taken) ∨
      (t.tryAcquire s v).2 = .error (.acquireWithoutGrant s v)) := by
  by_cases hreserved : t.ledger.reserved.get s = some v
  · by_cases hfree : t.holders.get s = none
    · have hafter : (t.ledger.acquire s v).Sound :=
        hsound.acquire ((h.holder_eq s).symm.trans hfree) hreserved houtside
      rw [tryAcquire_of_free hreserved hfree, Ledger.check_eq_ok_iff.2 hafter.consistent]
      exact ⟨hafter, .inl ⟨true, rfl⟩⟩
    · rw [tryAcquire_of_held hreserved hfree]
      exact ⟨hsound, .inl ⟨false, rfl⟩⟩
  · rw [tryAcquire_of_unreserved hreserved]
    exact ⟨hsound, .inr rfl⟩

/-! ### Releases with an inert callback -/

section Release

variable {σ : Type u} {f : Segment → SegmentTable → σ → σ} {a : σ}

/-- A callback that looks at the table but does not touch it. -/
def inert (f : Segment → SegmentTable → σ → σ) (s : Segment) (state : SegmentTable × σ) :
    SegmentTable × σ :=
  (state.1, f s state.1 state.2)

/-- The table with a segment freed. -/
def freed (t : SegmentTable) (s : Segment) : SegmentTable :=
  ⟨t.holders.set s none, t.ledger.free s⟩

/-- The table with some segments freed, one after the other. -/
def vacated (t : SegmentTable) (segments : List Segment) : SegmentTable := segments.foldl freed t

/-- The calls of a callback while some segments are freed: the segment freed last, and the table at
that moment. -/
def visits (t : SegmentTable) : List Segment → List (Segment × SegmentTable)
  | [] => []
  | s :: rest => (s, t.freed s) :: (t.freed s).visits rest

/-- What a callback has made of its own state after some calls. -/
def told (f : Segment → SegmentTable → σ → σ) (calls : List (Segment × SegmentTable)) (a : σ) :
    σ :=
  calls.foldl (fun a call => f call.1 call.2 a) a

theorem get_holders_freed (t : SegmentTable) (s s' : Segment) :
    (t.freed s).holders.get s' = if s' = s then none else t.holders.get s' :=
  Trio.get_set ..

theorem get_holders_vacated (t : SegmentTable) (segments : List Segment) (s : Segment) :
    (t.vacated segments).holders.get s = if s ∈ segments then none else t.holders.get s := by
  induction segments generalizing t with
  | nil => rfl
  | cons s₀ rest ih =>
    rw [vacated, List.foldl_cons, ← vacated, ih, get_holders_freed]
    by_cases hs : s = s₀ <;> simp [hs]

theorem vacate_of_held (hheld : t.holders.get s = some v) : t.vacate s v = (t.freed s, .ok ()) := by
  rw [vacate, if_pos hheld]
  rfl

theorem vacate_of_not_held (hheld : t.holders.get s ≠ some v) :
    t.vacate s v = (t, .error (.releaseNotHeld s v)) := by
  rw [vacate, if_neg hheld]

/-- Segments that the vehicle holds are freed one after the other, each with a call of the
callback. -/
theorem vacateEach_append {before : List Segment} (hnodup : before.Nodup)
    (hheld : ∀ s ∈ before, t.holders.get s = some v) (rest : List Segment) :
    vacateEach (inert f) v (before ++ rest) (t, a) =
      vacateEach (inert f) v rest (t.vacated before, told f (t.visits before) a) := by
  induction before generalizing t a with
  | nil => rfl
  | cons s before ih =>
    obtain ⟨hs, hbefore⟩ := List.nodup_cons.1 hnodup
    -- No segment comes twice, so those to come are still held.
    have hrest : ∀ s' ∈ before, (t.freed s).holders.get s' = some v := by
      intro s' hs'
      have hne : s' ≠ s := fun heq => hs (heq ▸ hs')
      rw [get_holders_freed, if_neg hne, hheld s' (List.mem_cons_of_mem _ hs')]
    rw [List.cons_append, vacateEach, vacate_of_held (hheld s List.mem_cons_self)]
    exact ih hbefore hrest

/-- A vehicle holds the whole route, or there is a first segment that it does not hold. -/
theorem held_or_split (t : SegmentTable) (v : VehicleId) (r : Route) :
    (∀ s ∈ r, t.holders.get s = some v) ∨
      ∃ before s after, r.segments = before ++ s :: after ∧
        (∀ s' ∈ before, t.holders.get s' = some v) ∧ t.holders.get s ≠ some v := by
  cases hfind : r.segments.find? fun s => t.holders.get s != some v with
  | none =>
    refine .inl fun s hs => ?_
    simpa using List.find?_eq_none.1 hfind s (Route.mem_segments.2 hs)
  | some s =>
    obtain ⟨hs, before, after, hsplit, hbefore⟩ := List.find?_eq_some_iff_append.1 hfind
    exact .inr ⟨before, s, after, hsplit, by simpa using hbefore, by simpa using hs⟩

/-- The release of a route that the vehicle holds. -/
theorem release_of_held (hheld : ∀ s ∈ r, t.holders.get s = some v) :
    release (inert f) r v (t, a) =
      ((((t.depart v).vacated r.segments |>.unreserve v r).1,
          told f ((t.depart v).visits r.segments) a),
        ((t.depart v).vacated r.segments |>.unreserve v r).2) := by
  have hvacated := vacateEach_append (t := t.depart v) (f := f) (a := a) r.nodup_segments
    (fun s hs => hheld s (Route.mem_segments.1 hs)) []
  rw [List.append_nil] at hvacated
  rw [release, hvacated]
  rfl

/-- The release of a route of which the vehicle lacks a segment. -/
theorem release_of_split {before after : List Segment}
    (hsplit : r.segments = before ++ s :: after)
    (hbefore : ∀ s' ∈ before, t.holders.get s' = some v) (hs : t.holders.get s ≠ some v) :
    release (inert f) r v (t, a) =
      (((t.depart v).vacated before, told f ((t.depart v).visits before) a),
        .error (.releaseNotHeld s v)) := by
  have hnodup : (before ++ s :: after).Nodup := hsplit ▸ r.nodup_segments
  obtain ⟨hnodup, -, hapart⟩ := List.nodup_append.1 hnodup
  have hlacks : ((t.depart v).vacated before).holders.get s ≠ some v := by
    rw [get_holders_vacated, if_neg fun h => hapart s h s List.mem_cons_self rfl]
    exact hs
  have hvacated := vacateEach_append (t := t.depart v) (f := f) (a := a) hnodup hbefore (s :: after)
  rw [release, hsplit, hvacated, vacateEach, vacate_of_not_held hlacks]

/-- Segments that an absent vehicle holds can be freed without harm to the books. -/
theorem sound_vacated {segments : List Segment} (h : t.ledger.Sound) (hnodup : segments.Nodup)
    (hheld : ∀ s ∈ segments, t.ledger.held.get s = some v)
    (houtside : t.ledger.inside.get? v = none) : (t.vacated segments).ledger.Sound := by
  induction segments generalizing t with
  | nil => exact h
  | cons s rest ih =>
    obtain ⟨hs, hrest⟩ := List.nodup_cons.1 hnodup
    refine ih (h.free (hheld s List.mem_cons_self) houtside) hrest ?_ houtside
    intro s' hs'
    have hne : s' ≠ s := fun heq => hs (heq ▸ hs')
    rw [freed, Ledger.get_held_free, if_neg hne, hheld s' (List.mem_cons_of_mem _ hs')]

theorem outside_depart (t : SegmentTable) (v : VehicleId) :
    (t.depart v).ledger.inside.get? v = none := by
  rw [depart, Ledger.get?_inside_leave, if_pos rfl]

/-- The release of a held route does no harm to the books, and its check passes. -/
theorem sound_release_of_held (h : t.Coherent) (hsound : t.ledger.Sound)
    (hheld : ∀ s ∈ r, t.holders.get s = some v) :
    (release (inert f) r v (t, a)).1.1.ledger.Sound ∧
      (release (inert f) r v (t, a)).2 = .ok () := by
  have hvacated : ((t.depart v).vacated r.segments).ledger.Sound :=
    sound_vacated (hsound.leave v) r.nodup_segments
      (fun s hs => (h.holder_eq s).symm.trans (hheld s (Route.mem_segments.1 hs)))
      (t.outside_depart v)
  have hdropped := hvacated.unreserve v r
  rw [release_of_held hheld]
  exact ⟨hdropped, Ledger.check_eq_ok_iff.2 hdropped.consistent⟩

/-- A release with an inert callback does no harm to the books, and fails only for want of a
segment. -/
theorem sound_release (h : t.Coherent) (hsound : t.ledger.Sound)
    (f : Segment → SegmentTable → σ → σ) (r : Route) (v : VehicleId) (a : σ) :
    (release (inert f) r v (t, a)).1.1.ledger.Sound ∧
      ((release (inert f) r v (t, a)).2 = .ok () ∨
        ∃ s, (release (inert f) r v (t, a)).2 = .error (.releaseNotHeld s v)) := by
  rcases t.held_or_split v r with hheld | ⟨before, s, after, hsplit, hbefore, hs⟩
  · obtain ⟨hafter, hok⟩ := sound_release_of_held (f := f) (a := a) h hsound hheld
    exact ⟨hafter, .inl hok⟩
  · have hnodup : (before ++ s :: after).Nodup := hsplit ▸ r.nodup_segments
    rw [release_of_split hsplit hbefore hs]
    refine ⟨?_, .inr ⟨s, rfl⟩⟩
    exact sound_vacated (hsound.leave v) (List.nodup_append.1 hnodup).1
      (fun s' hs' => (h.holder_eq s').symm.trans (hbefore s' hs')) (t.outside_depart v)

end Release

end SegmentTable

/-- A vehicle that is not inside harms the books in no section of a claim, and the claim fails only
for want of a reservation. -/
theorem Claim.sound_step {x : Site} (h : x.table.Coherent) (hsound : x.table.ledger.Sound)
    {s : Segment} {v : VehicleId} (houtside : x.table.ledger.inside.get? v = none)
    (point : Claim) :
    (point.step s v x).Reaches (·.table.ledger.Sound) ∧
      (point.step s v x).Returns fun result =>
        result = .ok () ∨ result = .error (.acquireWithoutGrant s v) := by
  obtain ⟨htaken, hresult⟩ := h.sound_take hsound s houtside
  cases point with
  | check =>
    rw [Claim.step]
    split
    · exact ⟨hsound, trivial⟩
    · exact ⟨hsound, .inr rfl⟩
  | attempt =>
    rw [Claim.step]
    split
    · next table heq =>
      rw [heq] at htaken
      exact ⟨htaken, trivial⟩
    · next table result heq =>
      rw [heq] at htaken hresult
      exact ⟨htaken, hresult result rfl⟩
  | wait =>
    rw [Claim.step]
    split
    · exact ⟨trivial, trivial⟩
    · next table result heq =>
      rw [heq] at htaken hresult
      exact ⟨htaken, hresult result rfl⟩

/-- A claim that goes on has not touched the table yet. -/
theorem Claim.table_of_next {x x' : Site} {s : Segment} {v : VehicleId} {point point' : Claim}
    (h : point.step s v x = .next x' point') : x'.table = x.table := by
  cases point with
  | check =>
    rw [Claim.step] at h
    split at h <;> cases h
    rfl
  | attempt =>
    rw [Claim.step] at h
    rcases x.table.take_cases s v with ⟨w, -, htake⟩ | ⟨-, -, htake⟩ | ⟨-, -, htake⟩
    · rw [htake] at h
      cases h
      rfl
    · rw [htake] at h
      cases h
    · rw [htake] at h
      cases h
  | wait =>
    rw [Claim.step] at h
    split at h <;> cases h

/-! ### Reachable tables -/

/-- A desk before the first call. -/
def Desk.start (config : Config) (total : Nat) (console : Console) : Desk :=
  { site := .start config total console }

namespace SegmentTable

/-- The tables that calls of the operations lead to, in turn or in the middle of each other, and
whether they succeed or fail. -/
def Reachable (t : SegmentTable) : Prop :=
  ∃ config total console actions, ((Desk.start config total console).after actions).site.table = t

theorem Reachable.coherent {t : SegmentTable} (h : t.Reachable) : t.Coherent := by
  obtain ⟨config, total, console, actions, rfl⟩ := h
  exact Desk.coherent_after coherent_empty actions

/-- What the check of the books and the operations of the table promise each other. -/
structure KeepsBooks (t : SegmentTable) : Prop where
  /-- The check passes exactly if every vehicle inside holds precisely the segments of its route. -/
  consistent_iff : t.ledger.Consistent ↔ t.ledger.RoutesHeld
  /-- The tests on reservations and on disjoint routes change nothing about what it finds. -/
  problem_eq : t.ledger.problem? = (Segment.all.findSome? t.ledger.strayProblem?).or
    (t.ledger.inside.entries.findSome? t.ledger.gapProblem?)
  /-- With consistent books, a route with a reserved segment is refused and nothing changes. -/
  refuses : t.ledger.Consistent → ∀ v r, (∃ s ∈ r, t.ledger.reserved.get s ≠ none) →
    t.reserve v r = (t, .ok none)
  /-- Every other route is granted, and precisely its segments are marked. -/
  grants : t.ledger.Consistent → ∀ v r, (∀ s ∈ r, t.ledger.reserved.get s = none) →
    (t.reserve v r).2 = .ok (some ⟨v, r⟩) ∧ (t.reserve v r).1.ledger.Consistent ∧
      ∃ marks, (t.reserve v r).1 = { t with ledger := { t.ledger with reserved := marks } } ∧
        ∀ s, marks.get s = if s ∈ r then some v else t.ledger.reserved.get s
  /-- A withdrawal keeps the books consistent. -/
  cancels : t.ledger.Consistent → ∀ ticket, (t.cancel ticket).ledger.Consistent
  /-- So does a release with an inert callback, which fails only for want of a segment. -/
  releases : t.ledger.Consistent → ∀ {σ : Type u} (f : Segment → SegmentTable → σ → σ) r v a,
    (release (inert f) r v (t, a)).1.1.ledger.Consistent ∧
      ((release (inert f) r v (t, a)).2 = .ok () ∨
        ∃ s, (release (inert f) r v (t, a)).2 = .error (.releaseNotHeld s v))
  /-- So does a try of a vehicle that is not inside, which fails only for want of a reservation. -/
  tries : t.ledger.Consistent → ∀ s v, t.ledger.inside.get? v = none →
    (t.tryAcquire s v).1.ledger.Consistent ∧
      ((∃ taken, (t.tryAcquire s v).2 = .ok taken) ∨
        (t.tryAcquire s v).2 = .error (.acquireWithoutGrant s v))
  /-- So does every section of an acquisition by such a vehicle, after a wait or not; and it is the
  last section if it changes anything. -/
  acquires : t.ledger.Consistent → ∀ s v, t.ledger.inside.get? v = none →
    ∀ (x : Site) (point : Claim), x.table = t →
      (point.step s v x).Reaches (·.table.ledger.Consistent) ∧
        (∀ x' point', point.step s v x = .next x' point' → x'.table = t) ∧
        (point.step s v x).Returns fun result =>
          result = .ok () ∨ result = .error (.acquireWithoutGrant s v)
  /-- An entry succeeds exactly if the vehicle holds its route and nothing else. -/
  enters : t.ledger.Consistent → ∀ v r,
    (t.enter v r).2 = .ok () ↔ ∀ s, t.ledger.held.get s = some v ↔ s ∈ r

/-- On every table that calls of the operations lead to, the check passes exactly if every vehicle
inside holds precisely its route; and only an entry, or an acquisition by a vehicle inside, can lead
from consistent books to a complaint about an incomplete entry. -/
theorem keepsBooks_of_reachable {t : SegmentTable} (h : t.Reachable) : t.KeepsBooks.{u} := by
  have hcoherent := h.coherent
  have hsound := hcoherent.sound_iff
  refine ⟨Ledger.consistent_iff hcoherent.reserved_of_held,
    Ledger.problem?_eq hcoherent.reserved_of_held, ?_, ?_, ?_, ?_, ?_, ?_, ?_⟩
  · exact fun _ v r hreserved => reserve_of_reserved hreserved v
  · intro hconsistent v r hfree
    have hafter := (hsound.2 hconsistent).reserve (Ledger.unreserved_iff.2 hfree) v
    rw [reserve_of_unreserved (hsound.2 hconsistent) hfree]
    exact ⟨rfl, hafter.consistent, _, rfl, t.ledger.get_reserved_reserve v r⟩
  · exact fun hconsistent ticket => ((hsound.2 hconsistent).unreserve _ _).consistent
  · intro hconsistent σ f r v a
    obtain ⟨hafter, hresult⟩ := sound_release hcoherent (hsound.2 hconsistent) f r v a
    exact ⟨hafter.consistent, hresult⟩
  · intro hconsistent s v houtside
    obtain ⟨hafter, hresult⟩ := hcoherent.sound_tryAcquire (hsound.2 hconsistent) s houtside
    exact ⟨hafter.consistent, hresult⟩
  · rintro hconsistent s v houtside x point rfl
    obtain ⟨hafter, hresult⟩ := Claim.sound_step hcoherent (hsound.2 hconsistent) houtside point
    refine ⟨?_, fun _ _ => Claim.table_of_next, hresult⟩
    generalize point.step s v x = p at hafter
    cases p with
    | blocked => trivial
    | next x' point' => exact Ledger.Sound.consistent hafter
    | done x' result => exact Ledger.Sound.consistent hafter
  · exact fun hconsistent v r => hcoherent.enter_eq_ok_iff hconsistent

/-- A table with a vehicle inside on its route, and another one on its way in. -/
def halfway : SegmentTable :=
  ((Desk.start {} 0 {}).after
    [.make (.reserve 0 (.single .ab)), .run 0, .make (.tryAcquire .ab 0 false), .run 0, .run 0,
      .make (.enter 0 (.single .ab)), .run 0, .make (.reserve 1 (.single .bc)), .run 0,
      .make (.acquire .bc 1 .check), .run 0, .run 0]).site.table

theorem reachable_halfway : halfway.Reachable := ⟨{}, 0, {}, _, rfl⟩

theorem keepsBooks_halfway : halfway.ledger.Consistent ∧ halfway.KeepsBooks.{u} :=
  ⟨by decide, keepsBooks_of_reachable reachable_halfway⟩

end SegmentTable

end Junction
