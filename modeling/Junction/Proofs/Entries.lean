import Junction.SegmentTable

/-!
# What the entries of the books change

Each entry of the ledger touches a few columns of a few segments and leaves the rest as it was. The
lemmas of this file say so for each entry, column by column, so that later arguments need not open
an entry again.

## Main results

* `Route.not_intersects_iff` — routes without a common segment
* `Ledger.get_reserved_reserve`, `Ledger.get_reserved_unreserve` — which marks a reservation sets,
  and which ones its withdrawal drops
* `Ledger.Sound.consistent` — the check passes if every holder has its reservation and every vehicle
  inside holds exactly its route
-/

namespace Junction

namespace Segment

theorem nodup_all : all.Nodup := by decide

end Segment

namespace Route

theorem nodup_segments (r : Route) : r.segments.Nodup := Segment.nodup_all.filter _

theorem not_intersects_iff {r r' : Route} :
    r.intersects r' = false ↔ ∀ s, s ∈ r → s ∉ r' := by
  constructor
  · intro h s hs hs'
    have hempty : r.inter r' = empty := by simpa [intersects] using h
    exact not_mem_empty s (hempty ▸ mem_inter.2 ⟨hs, hs'⟩)
  · intro h
    have hempty : r.inter r' = empty := ext_mem fun s =>
      ⟨fun hs => absurd (mem_inter.1 hs).2 (h s (mem_inter.1 hs).1),
        fun hs => absurd hs (not_mem_empty s)⟩
    simp [intersects, hempty]

theorem intersects_comm (r r' : Route) : r.intersects r' = r'.intersects r := by
  simp [intersects, inter, Bool.and_comm]

end Route

namespace Trio

variable {ι : Type} {α : Type} [Threefold ι] [DecidableEq ι]

@[simp] theorem get_set_self (t : Trio ι α) (i : ι) (a : α) : (t.set i a).get i = a := by
  rw [get_set, if_pos rfl]

theorem get_set_ne (t : Trio ι α) {i j : ι} (a : α) (h : j ≠ i) :
    (t.set i a).get j = t.get j := by
  rw [get_set, if_neg h]

/-- Setting the same value at each place of a list shows at these places only. -/
theorem get_foldl_set (places : List ι) (t : Trio ι α) (a : α) (j : ι) :
    (places.foldl (fun t i => t.set i a) t).get j = if j ∈ places then a else t.get j := by
  induction places generalizing t with
  | nil => simp
  | cons i rest ih =>
    rw [List.foldl_cons, ih, get_set]
    -- A place that comes again is set again.
    by_cases hrest : j ∈ rest
    · simp [hrest]
    · simp [hrest]

end Trio

namespace Ledger

variable (l : Ledger) (v w : VehicleId) (r : Route) (s s' : Segment)

/-! ### Reservation -/

@[simp] theorem held_reserve : (l.reserve v r).held = l.held := rfl

@[simp] theorem acquires_reserve : (l.reserve v r).acquires = l.acquires := rfl

@[simp] theorem releases_reserve : (l.reserve v r).releases = l.releases := rfl

@[simp] theorem inside_reserve : (l.reserve v r).inside = l.inside := rfl

@[simp] theorem entered_reserve : (l.reserve v r).entered = l.entered := rfl

theorem get_reserved_reserve :
    (l.reserve v r).reserved.get s = if s ∈ r then some v else l.reserved.get s := by
  rw [reserve, Trio.get_foldl_set]
  simp only [Route.mem_segments]

theorem unreserved_iff {l : Ledger} {r : Route} :
    l.unreserved r = true ↔ ∀ s ∈ r, l.reserved.get s = none := by
  simp [unreserved]

/-! ### Acquisition and release -/

@[simp] theorem reserved_acquire : (l.acquire s v).reserved = l.reserved := rfl

@[simp] theorem releases_acquire : (l.acquire s v).releases = l.releases := rfl

@[simp] theorem inside_acquire : (l.acquire s v).inside = l.inside := rfl

@[simp] theorem entered_acquire : (l.acquire s v).entered = l.entered := rfl

theorem get_held_acquire :
    (l.acquire s v).held.get s' = if s' = s then some v else l.held.get s' :=
  Trio.get_set ..

theorem get_acquires_acquire :
    (l.acquire s v).acquires.get s' =
      if s' = s then l.acquires.get s + 1 else l.acquires.get s' :=
  Trio.get_set ..

@[simp] theorem reserved_free : (l.free s).reserved = l.reserved := rfl

@[simp] theorem acquires_free : (l.free s).acquires = l.acquires := rfl

@[simp] theorem inside_free : (l.free s).inside = l.inside := rfl

@[simp] theorem entered_free : (l.free s).entered = l.entered := rfl

theorem get_held_free :
    (l.free s).held.get s' = if s' = s then none else l.held.get s' :=
  Trio.get_set ..

theorem get_releases_free :
    (l.free s).releases.get s' =
      if s' = s then l.releases.get s + 1 else l.releases.get s' :=
  Trio.get_set ..

/-! ### Entry and departure -/

@[simp] theorem reserved_enter : (l.enter v r).reserved = l.reserved := rfl

@[simp] theorem held_enter : (l.enter v r).held = l.held := rfl

@[simp] theorem acquires_enter : (l.enter v r).acquires = l.acquires := rfl

@[simp] theorem releases_enter : (l.enter v r).releases = l.releases := rfl

theorem get?_inside_enter :
    (l.enter v r).inside.get? w = if w = v then some r else l.inside.get? w :=
  Roster.get?_insert ..

theorem contains_entered_enter :
    (l.enter v r).entered.contains w = (decide (w = v) || l.entered.contains w) := by
  rw [Roster.contains, enter, Roster.get?_insert, Roster.contains]
  by_cases h : w = v <;> simp [h]

@[simp] theorem reserved_leave : (l.leave v).reserved = l.reserved := rfl

@[simp] theorem held_leave : (l.leave v).held = l.held := rfl

@[simp] theorem acquires_leave : (l.leave v).acquires = l.acquires := rfl

@[simp] theorem releases_leave : (l.leave v).releases = l.releases := rfl

@[simp] theorem entered_leave : (l.leave v).entered = l.entered := rfl

theorem get?_inside_leave :
    (l.leave v).inside.get? w = if w = v then none else l.inside.get? w :=
  Roster.get?_erase ..

/-! ### Withdrawal of a reservation -/

/-- Dropping a mark changes the column of the reservations only. -/
theorem drop_frame :
    (l.drop v s).held = l.held ∧ (l.drop v s).acquires = l.acquires ∧
      (l.drop v s).releases = l.releases ∧ (l.drop v s).inside = l.inside ∧
      (l.drop v s).entered = l.entered := by
  unfold drop
  split <;> exact ⟨rfl, rfl, rfl, rfl, rfl⟩

theorem drops_frame (segments : List Segment) :
    (segments.foldl (fun l s => l.drop v s) l).held = l.held ∧
      (segments.foldl (fun l s => l.drop v s) l).acquires = l.acquires ∧
      (segments.foldl (fun l s => l.drop v s) l).releases = l.releases ∧
      (segments.foldl (fun l s => l.drop v s) l).inside = l.inside ∧
      (segments.foldl (fun l s => l.drop v s) l).entered = l.entered := by
  induction segments generalizing l with
  | nil => exact ⟨rfl, rfl, rfl, rfl, rfl⟩
  | cons s rest ih =>
    obtain ⟨hheld, hacquires, hreleases, hinside, hentered⟩ := ih (l.drop v s)
    obtain ⟨hheld', hacquires', hreleases', hinside', hentered'⟩ := drop_frame l v s
    exact ⟨hheld.trans hheld', hacquires.trans hacquires', hreleases.trans hreleases',
      hinside.trans hinside', hentered.trans hentered'⟩

@[simp] theorem held_unreserve : (l.unreserve v r).held = l.held := (drops_frame l v _).1

@[simp] theorem acquires_unreserve : (l.unreserve v r).acquires = l.acquires :=
  (drops_frame l v _).2.1

@[simp] theorem releases_unreserve : (l.unreserve v r).releases = l.releases :=
  (drops_frame l v _).2.2.1

@[simp] theorem inside_unreserve : (l.unreserve v r).inside = l.inside :=
  (drops_frame l v _).2.2.2.1

@[simp] theorem entered_unreserve : (l.unreserve v r).entered = l.entered :=
  (drops_frame l v _).2.2.2.2

theorem get_reserved_drop :
    (l.drop v s).reserved.get s' =
      if s' = s ∧ l.reserved.get s' = some v ∧ l.held.get s' = none then none
      else l.reserved.get s' := by
  unfold drop
  by_cases hs : s' = s
  · subst hs
    split <;> simp_all
  · split <;> simp [Trio.get_set, hs]

theorem get_reserved_drops (segments : List Segment) :
    (segments.foldl (fun l s => l.drop v s) l).reserved.get s =
      if s ∈ segments ∧ l.reserved.get s = some v ∧ l.held.get s = none then none
      else l.reserved.get s := by
  induction segments generalizing l with
  | nil => simp
  | cons s₀ rest ih =>
    rw [List.foldl_cons, ih, (drop_frame l v s₀).1, get_reserved_drop]
    -- A mark that the first place drops stays dropped, and nobody holds the segment meanwhile.
    by_cases hs : s = s₀
    · by_cases hmine : l.reserved.get s = some v ∧ l.held.get s = none
      · simp [hs, hs ▸ hmine]
      · simp [hs, hs ▸ hmine]
    · simp [hs]

/-- Only the marks of the vehicle itself go, and only from segments that nobody holds. -/
theorem get_reserved_unreserve :
    (l.unreserve v r).reserved.get s =
      if s ∈ r ∧ l.reserved.get s = some v ∧ l.held.get s = none then none
      else l.reserved.get s := by
  rw [unreserve, get_reserved_drops]
  simp only [Route.mem_segments]

/-! ### The check -/

theorem heldProblem?_eq_none {l : Ledger} {s : Segment}
    (hreserved : ∀ v, l.held.get s = some v → l.reserved.get s = some v)
    (hinside : ∀ v r, l.held.get s = some v → l.inside.get? v = some r → s ∈ r) :
    l.heldProblem? s = none := by
  unfold heldProblem?
  split
  · rfl
  · next v hheld =>
    rw [if_pos (hreserved v hheld)]
    split
    · next r hr => rw [if_pos (hinside v r hheld hr)]
    · rfl

theorem entryProblem?_eq_none {l : Ledger} {entries : List (VehicleId × Route)}
    (hascending : entries.Pairwise fun p q => p.1 < q.1)
    (howns : ∀ v r, (v, r) ∈ entries → ∀ s ∈ r, l.owns v s = true) {covered : Route}
    (hcovered : ∀ s ∈ covered, ∀ v r, (v, r) ∈ entries → s ∉ r) :
    l.entryProblem? covered entries = none := by
  induction entries generalizing covered with
  | nil => rfl
  | cons entry rest ih =>
    obtain ⟨v, r⟩ := entry
    obtain ⟨hbefore, hrest⟩ := List.pairwise_cons.1 hascending
    -- The first entry meets nothing covered so far, and its vehicle owns its route.
    have hdisjoint : covered.intersects r = false :=
      Route.not_intersects_iff.2 fun s hs => hcovered s hs v r List.mem_cons_self
    have hall : r.segments.any (fun s => !l.owns v s) = false := by
      simp only [List.any_eq_false, Route.mem_segments, Bool.not_eq_true', Bool.not_eq_false]
      exact howns v r List.mem_cons_self
    rw [entryProblem?, hdisjoint, hall, if_neg (by simp)]
    apply ih hrest (fun w r' h => howns w r' (List.mem_cons_of_mem _ h))
    intro s hs w r' hw hs'
    rcases Route.mem_union.1 hs with hs | hs
    · exact hcovered s hs w r' (List.mem_cons_of_mem _ hw) hs'
    -- Two owners of one segment are the same vehicle, but the entries ascend.
    · have hv := howns v r List.mem_cons_self s hs
      have hw' := howns w r' (List.mem_cons_of_mem _ hw) s hs'
      simp only [owns, Bool.and_eq_true, beq_iff_eq] at hv hw'
      have hvw : v = w := Option.some.inj (hv.1.symm.trans hw'.1)
      exact absurd (hbefore _ hw) (by simp [hvw])

/-- Every holder has its reservation, and every vehicle inside holds exactly its route. -/
structure Sound (l : Ledger) : Prop where
  /-- A held segment is reserved for its holder. -/
  reserved : ∀ {s v}, l.held.get s = some v → l.reserved.get s = some v
  /-- A vehicle inside holds its route and nothing else. -/
  inside : ∀ {v r}, l.inside.get? v = some r → ∀ s, l.held.get s = some v ↔ s ∈ r

namespace Sound

variable {l : Ledger} {v : VehicleId} {r : Route} {s : Segment}

/-- The check passes for sound books. -/
theorem consistent (h : l.Sound) : l.Consistent := by
  have hheld : Segment.all.findSome? l.heldProblem? = none :=
    List.findSome?_eq_none_iff.2 fun s _ =>
      heldProblem?_eq_none (fun _ => h.reserved) fun v r hs hr => (h.inside hr s).1 hs
  have hentries : l.entryProblem? .empty l.inside.entries = none := by
    refine entryProblem?_eq_none l.inside.ascending (fun v r hr s hs => ?_) fun s hs =>
      absurd hs (Route.not_mem_empty s)
    have hs' := (h.inside (Roster.mem_entries_iff.1 hr) s).2 hs
    simp [owns, hs', h.reserved hs']
  rw [Consistent, problem?, hheld, hentries]
  rfl

theorem reserve (h : l.Sound) (hfree : l.unreserved r = true) (v : VehicleId) :
    (l.reserve v r).Sound := by
  refine ⟨?_, h.inside⟩
  intro s w hw
  have hreserved := h.reserved hw
  rw [get_reserved_reserve, if_neg, hreserved]
  -- A held segment has its mark already, so it is not in the free route.
  intro hs
  rw [unreserved_iff.1 hfree s hs] at hreserved
  cases hreserved

theorem acquire (h : l.Sound) (hfree : l.held.get s = none) (hreserved : l.reserved.get s = some v)
    (houtside : l.inside.get? v = none) : (l.acquire s v).Sound := by
  refine ⟨?_, ?_⟩
  · intro s' w hw
    rw [get_held_acquire] at hw
    split at hw
    · next hs =>
      cases hw
      exact hs ▸ hreserved
    · exact h.reserved hw
  · intro w r hr s'
    rw [inside_acquire] at hr
    -- Whoever is inside is another vehicle, and the segment is not in its route.
    have hne : v ≠ w := by
      rintro rfl
      rw [houtside] at hr
      cases hr
    rw [get_held_acquire]
    split
    · next hs =>
      subst hs
      rw [← h.inside hr s', hfree]
      simp [hne]
    · exact h.inside hr s'

theorem enter (h : l.Sound) (hheld : ∀ s, l.held.get s = some v ↔ s ∈ r) :
    (l.enter v r).Sound := by
  refine ⟨h.reserved, ?_⟩
  intro w r' hr s
  rw [get?_inside_enter] at hr
  split at hr
  · next hw =>
    cases hr
    exact hw ▸ hheld s
  · exact h.inside hr s

theorem unreserve (h : l.Sound) (v : VehicleId) (r : Route) : (l.unreserve v r).Sound := by
  refine ⟨?_, ?_⟩
  -- Only marks of free segments go.
  · intro s w hw
    rw [held_unreserve] at hw
    rw [get_reserved_unreserve, if_neg (by simp [hw])]
    exact h.reserved hw
  · intro w r' hr
    rw [inside_unreserve] at hr
    rw [held_unreserve]
    exact h.inside hr

end Sound

end Ledger

end Junction
