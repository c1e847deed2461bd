import Junction.Proofs.Consistency

/-!
# What a release leaves behind

A release frees the segments of its route one by one, in cycle order, each in a section of its own
and with a call of its callback after it; only then, in a last section, does it drop the
reservations of the route. If the vehicle lacks a segment, the release stops there: what it has
freed stays freed, and no reservation is dropped.

This file says segment by segment what the callback sees at each of its calls and what the release
has made of the table at its end, for callbacks that do not touch the table.

## Main definitions

* `SegmentTable.Vacates` — some segments freed, and the vehicle no longer inside
* `SegmentTable.CalledFor` — the calls of the callback for some segments
* `SegmentTable.ReleasesInOrder` — what is promised of every release

## Main results

* `SegmentTable.vacates_vacated` — the sections of a release, column by column
* `SegmentTable.releasesInOrder_of_reachable` — releases on reachable tables
-/

universe u

namespace Junction

namespace SegmentTable

variable {t : SegmentTable} {v : VehicleId} {r : Route} {s : Segment} {segments : List Segment}

/-! ### Freed segments, column by column -/

theorem vacated_cons (t : SegmentTable) (s : Segment) (rest : List Segment) :
    t.vacated (s :: rest) = (t.freed s).vacated rest := rfl

theorem get_held_vacated (t : SegmentTable) (segments : List Segment) (s : Segment) :
    (t.vacated segments).ledger.held.get s =
      if s ∈ segments then none else t.ledger.held.get s := by
  induction segments generalizing t with
  | nil => rfl
  | cons s₀ rest ih =>
    rw [vacated_cons, ih, freed, Ledger.get_held_free]
    by_cases hs : s = s₀ <;> simp [hs]

theorem get_releases_vacated (t : SegmentTable) (hnodup : segments.Nodup) (s : Segment) :
    (t.vacated segments).ledger.releases.get s =
      t.ledger.releases.get s + if s ∈ segments then 1 else 0 := by
  induction segments generalizing t with
  | nil => rfl
  | cons s₀ rest ih =>
    obtain ⟨hs₀, hrest⟩ := List.nodup_cons.1 hnodup
    rw [vacated_cons, ih _ hrest, freed, Ledger.get_releases_free]
    -- The first segment is counted once, since it does not come again.
    by_cases hs : s = s₀
    · simp [hs, hs₀]
    · simp [hs]

/-- Freeing segments changes neither reservations nor acquisitions nor who is inside. -/
theorem vacated_frame (t : SegmentTable) (segments : List Segment) :
    (t.vacated segments).ledger.reserved = t.ledger.reserved ∧
      (t.vacated segments).ledger.acquires = t.ledger.acquires ∧
      (t.vacated segments).ledger.inside = t.ledger.inside ∧
      (t.vacated segments).ledger.entered = t.ledger.entered := by
  induction segments generalizing t with
  | nil => exact ⟨rfl, rfl, rfl, rfl⟩
  | cons s₀ rest ih => exact ih (t.freed s₀)

@[simp] theorem reserved_vacated (t : SegmentTable) (segments : List Segment) :
    (t.vacated segments).ledger.reserved = t.ledger.reserved :=
  (t.vacated_frame segments).1

/-- A release has freed some segments: the vehicle is no longer inside, the segments are free and
count one release more, and nothing else has changed but possibly reservations. -/
structure Vacates (v : VehicleId) (segments : List Segment) (t t' : SegmentTable) : Prop where
  /-- The slots of these segments are empty. -/
  holders : ∀ s, t'.holders.get s = if s ∈ segments then none else t.holders.get s
  /-- In the books they have no holder. -/
  held : ∀ s, t'.ledger.held.get s = if s ∈ segments then none else t.ledger.held.get s
  /-- Each of them was released once more. -/
  releases : ∀ s, t'.ledger.releases.get s =
    t.ledger.releases.get s + if s ∈ segments then 1 else 0
  /-- No segment was acquired. -/
  acquires : t'.ledger.acquires = t.ledger.acquires
  /-- The vehicle has left, and nobody else. -/
  inside : ∀ w, t'.ledger.inside.get? w = if w = v then none else t.ledger.inside.get? w
  /-- Who has ever been inside is still known. -/
  entered : t'.ledger.entered = t.ledger.entered

theorem vacates_vacated (t : SegmentTable) (v : VehicleId) (hnodup : segments.Nodup) :
    Vacates v segments t ((t.depart v).vacated segments) := by
  obtain ⟨-, hacquires, hinside, hentered⟩ := (t.depart v).vacated_frame segments
  refine ⟨(t.depart v).get_holders_vacated segments, (t.depart v).get_held_vacated segments,
    (t.depart v).get_releases_vacated hnodup, hacquires, ?_, hentered⟩
  intro w
  rw [hinside, depart, Ledger.get?_inside_leave]

theorem Vacates.unreserve {t' : SegmentTable} (h : Vacates v segments t t') (r : Route) :
    Vacates v segments t (t'.unreserve v r).1 := by
  refine ⟨h.holders, ?_, ?_, ?_, ?_, ?_⟩
  · simpa [SegmentTable.unreserve] using h.held
  · simpa [SegmentTable.unreserve] using h.releases
  · simpa [SegmentTable.unreserve] using h.acquires
  · simpa [SegmentTable.unreserve] using h.inside
  · simpa [SegmentTable.unreserve] using h.entered

/-! ### Calls of the callback -/

theorem map_fst_visits (t : SegmentTable) (segments : List Segment) :
    (t.visits segments).map Prod.fst = segments := by
  induction segments generalizing t with
  | nil => rfl
  | cons s rest ih => rw [visits, List.map_cons, ih]

/-- At each call, the segments up to that of the call are freed. -/
theorem vacated_of_visits {before after : List (Segment × SegmentTable)}
    {call : Segment × SegmentTable} (h : t.visits segments = before ++ call :: after) :
    call.2 = t.vacated (before.map Prod.fst ++ [call.1]) := by
  induction before generalizing t segments with
  | nil =>
    cases segments with
    | nil => cases h
    | cons s rest =>
      obtain ⟨rfl, -⟩ := List.cons.inj h
      rfl
  | cons first before ih =>
    cases segments with
    | nil => cases h
    | cons s rest =>
      obtain ⟨rfl, hrest⟩ := List.cons.inj h
      exact ih hrest

/-- A callback is called for some segments, one after the other. -/
structure CalledFor (v : VehicleId) (segments : List Segment) (t : SegmentTable)
    (calls : List (Segment × SegmentTable)) : Prop where
  /-- Each of the segments has one call. -/
  segments : calls.map Prod.fst = segments
  /-- At each call, its segment and those before it are freed, and no other. -/
  vacates : ∀ before call after, calls = before ++ call :: after →
    Vacates v (before.map Prod.fst ++ [call.1]) t call.2
  /-- No reservation was dropped before a call. -/
  reserved : ∀ call ∈ calls, call.2.ledger.reserved = t.ledger.reserved

theorem calledFor_visits (t : SegmentTable) (v : VehicleId) (hnodup : segments.Nodup) :
    CalledFor v segments t ((t.depart v).visits segments) := by
  refine ⟨map_fst_visits _ segments, ?_, ?_⟩
  · intro before call after hcalls
    have hsegments := map_fst_visits (t.depart v) segments
    rw [hcalls, List.map_append, List.map_cons, List.append_cons] at hsegments
    rw [vacated_of_visits hcalls]
    exact vacates_vacated t v (List.nodup_append.1 (hsegments ▸ hnodup)).1
  · intro call hcall
    obtain ⟨before, after, hcalls⟩ := List.append_of_mem hcall
    rw [vacated_of_visits hcalls, reserved_vacated]
    rfl

/-! ### Releases -/

/-- What is promised of every release whose callback does not touch the table. -/
structure ReleasesInOrder (t : SegmentTable) : Prop where
  /-- If the vehicle holds its route, every segment of it is freed, the reservations stay until the
  end and are dropped there, and a check that would have passed before the release passes. -/
  whole : ∀ v r, (∀ s ∈ r, t.ledger.held.get s = some v) →
    ∀ {σ : Type u} (f : Segment → SegmentTable → σ → σ) a, ∃ t' calls result,
      release (inert f) r v (t, a) = ((t', told f calls a), result) ∧
        CalledFor v r.segments t calls ∧
        (∀ call ∈ calls, ∀ s ∈ r, call.2.ledger.reserved.get s = some v) ∧
        Vacates v r.segments t t' ∧
        (∀ s, t'.ledger.reserved.get s = if s ∈ r then none else t.ledger.reserved.get s) ∧
        (t.ledger.Consistent → result = .ok ())
  /-- If it lacks a segment, precisely the segments before the first such one are freed, and no
  reservation is dropped. -/
  broken : ∀ v r before s after, r.segments = before ++ s :: after →
    (∀ s' ∈ before, t.ledger.held.get s' = some v) → t.ledger.held.get s ≠ some v →
    ∀ {σ : Type u} (f : Segment → SegmentTable → σ → σ) a, ∃ t' calls,
      release (inert f) r v (t, a) = ((t', told f calls a), .error (.releaseNotHeld s v)) ∧
        CalledFor v before t calls ∧ Vacates v before t t' ∧
        t'.ledger.reserved = t.ledger.reserved

/-- A release of a held route drops precisely the reservations of the route. -/
theorem get_reserved_unreserve_vacated (hheld : ∀ s ∈ r, t.ledger.reserved.get s = some v)
    (s : Segment) :
    ((t.vacated r.segments).unreserve v r).1.ledger.reserved.get s =
      if s ∈ r then none else t.ledger.reserved.get s := by
  rw [unreserve, Ledger.get_reserved_unreserve, reserved_vacated, get_held_vacated]
  by_cases hs : s ∈ r
  · simp [hs, hheld s hs]
  · simp [hs]

/-- On every table that calls of the operations lead to, a release with a callback that does not
touch the table frees what it can in cycle order and drops reservations at its end only. -/
theorem releasesInOrder_of_reachable (h : t.Reachable) : t.ReleasesInOrder.{u} := by
  have hcoherent := h.coherent
  refine ⟨?_, ?_⟩
  · intro v r hheld σ f a
    have hreserved : ∀ s ∈ r, t.ledger.reserved.get s = some v :=
      fun s hs => hcoherent.reserved_of_held s v (hheld s hs)
    -- A release looks at the slots, which agree with the books.
    have hholders : ∀ s ∈ r, t.holders.get s = some v :=
      fun s hs => (hcoherent.holder_eq s).trans (hheld s hs)
    have hcalls := calledFor_visits t v r.nodup_segments
    refine ⟨_, _, _, release_of_held hholders, hcalls, ?_,
      (vacates_vacated t v r.nodup_segments).unreserve r, ?_, ?_⟩
    · intro call hcall s hs
      rw [hcalls.reserved call hcall]
      exact hreserved s hs
    · exact get_reserved_unreserve_vacated (t := t.depart v) hreserved
    · intro hconsistent
      have hok := (sound_release_of_held (f := f) (a := a) hcoherent
        (hcoherent.sound_iff.2 hconsistent) hholders).2
      rwa [release_of_held hholders] at hok
  · intro v r before s after hsplit hbefore hs σ f a
    have hnodup : (before ++ s :: after).Nodup := hsplit ▸ r.nodup_segments
    have hbefore' : before.Nodup := (List.nodup_append.1 hnodup).1
    refine ⟨_, _, release_of_split hsplit ?_ ?_, calledFor_visits t v hbefore',
      vacates_vacated t v hbefore', reserved_vacated _ _⟩
    · exact fun s' hs' => (hcoherent.holder_eq s').trans (hbefore s' hs')
    · exact fun hholder => hs ((hcoherent.holder_eq s).symm.trans hholder)

/-- The vehicle inside holds one segment of a longer route, frees it, and stops at the next one. -/
theorem releases_until_lacking : ∃ t' calls,
    release (inert fun s _ exits => exits ++ [s]) ⟨true, true, false⟩ 0 (halfway, []) =
      ((t', told (fun s _ exits => exits ++ [s]) calls []), .error (.releaseNotHeld .bc 0)) ∧
    CalledFor 0 [.ab] halfway calls ∧ Vacates 0 [.ab] halfway t' ∧
      t'.ledger.reserved = halfway.ledger.reserved :=
  (releasesInOrder_of_reachable reachable_halfway).broken 0 ⟨true, true, false⟩ [.ab] .bc [] rfl
    (by decide) (by decide) _ []

end SegmentTable

end Junction
