/-!
# Rosters

A roster keeps one value for each of finitely many vehicles, which are known by their numbers, in
the order of the numbers.

## Main definitions

* `Roster` — the entries, with ascending numbers
* `Roster.get?`, `Roster.insert`, `Roster.erase` — look up, add or replace, and remove

## Main results

* `get?_insert`, `get?_erase` — what a look-up finds after a change
* `Roster.ext_get?` — a roster is determined by its look-ups
-/

universe u

namespace Junction

/-- Values for finitely many vehicles, in the order of the vehicles' numbers. -/
structure Roster (α : Type u) where
  /-- The vehicles and their values. -/
  entries : List (Nat × α)
  /-- The numbers ascend. -/
  ascending : entries.Pairwise fun p q => p.1 < q.1

namespace Roster

variable {α : Type u}

instance [DecidableEq α] : DecidableEq (Roster α) := fun a b =>
  decidable_of_iff (a.entries = b.entries) (by cases a; cases b; simp)

instance : Inhabited (Roster α) := ⟨⟨[], .nil⟩⟩

/-- The roster of no vehicle. -/
def empty : Roster α := ⟨[], .nil⟩

/-! ### Lists with ascending numbers -/

/-- The value of a vehicle in a list of entries. -/
def find? (v : Nat) : List (Nat × α) → Option α
  | [] => none
  | (w, a) :: rest => if w = v then some a else find? v rest

/-- A list with the value of a vehicle added or replaced, at the place of its number. -/
def place (v : Nat) (a : α) : List (Nat × α) → List (Nat × α)
  | [] => [(v, a)]
  | (w, b) :: rest =>
    if v < w then (v, a) :: (w, b) :: rest
    else if w = v then (v, a) :: rest
    else (w, b) :: place v a rest

theorem mem_place {v : Nat} {a : α} {l : List (Nat × α)} {p : Nat × α}
    (h : p ∈ place v a l) : p = (v, a) ∨ p ∈ l := by
  induction l with
  | nil => simpa [place] using h
  | cons q rest ih =>
    simp only [place] at h
    split at h
    · simpa using h
    · split at h
      · rcases List.mem_cons.1 h with rfl | h
        · exact .inl rfl
        · exact .inr (List.mem_cons_of_mem _ h)
      · rcases List.mem_cons.1 h with rfl | h
        · exact .inr List.mem_cons_self
        · exact (ih h).imp_right (List.mem_cons_of_mem _)

theorem place_ascending {v : Nat} {a : α} {l : List (Nat × α)}
    (h : l.Pairwise fun p q => p.1 < q.1) : (place v a l).Pairwise fun p q => p.1 < q.1 := by
  induction l with
  | nil => simp [place]
  | cons q rest ih =>
    obtain ⟨hq, hrest⟩ := List.pairwise_cons.1 h
    simp only [place]
    split
    next hv =>
      refine List.pairwise_cons.2 ⟨fun p hp => ?_, h⟩
      rcases List.mem_cons.1 hp with rfl | hp
      · exact hv
      · exact Nat.lt_trans hv (hq p hp)
    · split
      · subst v
        exact List.pairwise_cons.2 ⟨hq, hrest⟩
      · refine List.pairwise_cons.2 ⟨fun p hp => ?_, ih hrest⟩
        rcases mem_place hp with rfl | hp
        · simp only
          omega
        · exact hq p hp

theorem find?_eq_none_of_lt {v : Nat} {l : List (Nat × α)}
    (h : ∀ p ∈ l, v < p.1) : find? v l = none := by
  induction l with
  | nil => rfl
  | cons q rest ih =>
    have hq := h q List.mem_cons_self
    simp only [find?]
    rw [if_neg (by omega), ih fun p hp => h p (List.mem_cons_of_mem _ hp)]

theorem find?_place (v w : Nat) (a : α) (l : List (Nat × α)) :
    find? w (place v a l) = if w = v then some a else find? w l := by
  induction l with
  | nil => simp [place, find?, eq_comm]
  | cons q rest ih =>
    simp only [place]
    split
    · simp [find?, eq_comm]
    · split
      · subst v
        simp only [find?]
        split <;> simp_all [eq_comm]
      · simp only [find?, ih]
        split
        · rw [if_neg]
          omega
        · rfl

/-! ### Operations -/

/-- The value of a vehicle. -/
def get? (r : Roster α) (v : Nat) : Option α := find? v r.entries

/-- Whether a vehicle is on the roster. -/
def contains (r : Roster α) (v : Nat) : Bool := (r.get? v).isSome

/-- The roster with the value of a vehicle added or replaced. -/
def insert (r : Roster α) (v : Nat) (a : α) : Roster α :=
  ⟨place v a r.entries, place_ascending r.ascending⟩

/-- The roster without a vehicle. -/
def erase (r : Roster α) (v : Nat) : Roster α :=
  ⟨r.entries.filter (·.1 != v), r.ascending.sublist List.filter_sublist⟩

@[simp] theorem get?_empty (v : Nat) : (empty : Roster α).get? v = none := rfl

theorem get?_insert (r : Roster α) (v w : Nat) (a : α) :
    (r.insert v a).get? w = if w = v then some a else r.get? w :=
  find?_place v w a r.entries

theorem get?_erase (r : Roster α) (v w : Nat) :
    (r.erase v).get? w = if w = v then none else r.get? w := by
  obtain ⟨l, hl⟩ := r
  simp only [get?, erase]
  clear hl
  induction l with
  | nil => simp [find?]
  | cons q rest ih =>
    by_cases hq : q.1 = v
    · simp only [List.filter_cons, hq, bne_self_eq_false, Bool.false_eq_true, ↓reduceIte, ih, find?]
      by_cases hw : w = v
      · simp [hw]
      · simp [hw, Ne.symm hw]
    · simp only [List.filter_cons, bne_iff_ne, ne_eq, hq, not_false_eq_true, ↓reduceIte, find?, ih]
      by_cases hw : w = v
      · subst hw
        simp [hq]
      · simp [hw]

theorem mem_entries_iff {r : Roster α} {v : Nat} {a : α} :
    (v, a) ∈ r.entries ↔ r.get? v = some a := by
  obtain ⟨l, hl⟩ := r
  simp only [get?]
  induction l with
  | nil => simp [find?]
  | cons q rest ih =>
    obtain ⟨w, b⟩ := q
    obtain ⟨hq, hrest⟩ := List.pairwise_cons.1 hl
    simp only [List.mem_cons, find?, Prod.mk.injEq]
    by_cases hw : w = v
    · subst hw
      simp only [true_and, ↓reduceIte, Option.some.injEq]
      constructor
      · rintro (rfl | h)
        · rfl
        · exact absurd (hq _ h) (Nat.lt_irrefl _)
      · rintro rfl
        exact .inl rfl
    · rw [if_neg hw, ← ih hrest]
      constructor
      · rintro (⟨rfl, -⟩ | h)
        · exact absurd rfl hw
        · exact h
      · exact .inr

theorem eq_of_mem_iff {l l' : List (Nat × α)}
    (hl : l.Pairwise fun p q => p.1 < q.1) (hl' : l'.Pairwise fun p q => p.1 < q.1)
    (h : ∀ p, p ∈ l ↔ p ∈ l') : l = l' := by
  induction l generalizing l' with
  | nil =>
    cases l' with
    | nil => rfl
    | cons q rest => exact absurd ((h q).2 List.mem_cons_self) (by simp)
  | cons p rest ih =>
    cases l' with
    | nil => exact absurd ((h p).1 List.mem_cons_self) (by simp)
    | cons q rest' =>
      obtain ⟨hp, hrest⟩ := List.pairwise_cons.1 hl
      obtain ⟨hq, hrest'⟩ := List.pairwise_cons.1 hl'
      have hpq : p = q := by
        rcases List.mem_cons.1 ((h p).1 List.mem_cons_self) with e | hp'
        · exact e
        · rcases List.mem_cons.1 ((h q).2 List.mem_cons_self) with e | hq'
          · exact e.symm
          · exact absurd (hp q hq') (Nat.not_lt.2 (Nat.le_of_lt (hq p hp')))
      subst hpq
      congr 1
      refine ih hrest hrest' fun x => ⟨fun hx => ?_, fun hx => ?_⟩
      · rcases List.mem_cons.1 ((h x).1 (List.mem_cons_of_mem _ hx)) with rfl | h'
        · exact absurd (hp _ hx) (Nat.lt_irrefl _)
        · exact h'
      · rcases List.mem_cons.1 ((h x).2 (List.mem_cons_of_mem _ hx)) with rfl | h'
        · exact absurd (hq _ hx) (Nat.lt_irrefl _)
        · exact h'

theorem ext_get? {r r' : Roster α} (h : ∀ v, r.get? v = r'.get? v) : r = r' := by
  have hmem : ∀ p, p ∈ r.entries ↔ p ∈ r'.entries := by
    rintro ⟨v, a⟩
    rw [mem_entries_iff, mem_entries_iff, h]
  have := eq_of_mem_iff r.ascending r'.ascending hmem
  cases r
  cases r'
  simp_all

end Roster

end Junction
