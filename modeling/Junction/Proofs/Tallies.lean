import Mathlib.Algebra.GroupWithZero.Nat
import Mathlib.Tactic.ByContra
import Junction.Table
import Junction.Trio

/-!
# Tallies

A measure of values is summed up over all values of a table or a trio. When one value changes, its
old measure gives way to its new one and the rest of the sum stays, so a count over all members of a
run is followed through a step by looking at the one who has taken it.

## Main definitions

* `Table.tally`, `Trio.tally` — a measure summed up over a table or a trio

## Main results

* `Table.tally_set`, `Trio.tally_set` — a tally after one value has changed
* `Table.length_le_tally`, `Table.tally_le_length` — a tally compared with the length of a list
-/

universe u v

namespace Junction

namespace Table

variable {α : Type u} [Inhabited α]

/-- The sum of a measure over the stored values. -/
def tally (f : α → Nat) (t : Table α) : Nat := (t.cells.map f).sum

theorem sum_place {f : α → Nat} (hf : f default = 0) (a : α) (i : Nat) (cells : List α) :
    ((place a i cells).map f).sum + f (cells[i]?.getD default) = (cells.map f).sum + f a := by
  fun_induction place a i cells with
  | case1 => simp [hf]
  | case2 b rest =>
    simp
    omega
  | case3 i ih => simpa [hf] using ih
  | case4 i b rest ih =>
    simp only [List.map_cons, List.sum_cons, List.getElem?_cons_succ]
    omega

theorem tally_set {f : α → Nat} (hf : f default = 0) (t : Table α) (i : Nat) (a : α) :
    (t.set i a).tally f + f (t.get i) = t.tally f + f a :=
  sum_place hf a i t.cells

theorem le_tally {f : α → Nat} (hf : f default = 0) (t : Table α) (i : Nat) :
    f (t.get i) ≤ t.tally f := by
  have hset := tally_set hf t i default
  omega

theorem exists_of_tally_pos {f : α → Nat} {t : Table α} (h : 0 < t.tally f) :
    ∃ i, 0 < f (t.get i) := by
  obtain ⟨n, hn, hpos⟩ := List.sum_pos_iff_exists_pos_nat.1 h
  obtain ⟨a, ha, rfl⟩ := List.mem_map.1 hn
  obtain ⟨i, hi⟩ := List.getElem?_of_mem ha
  exact ⟨i, by simpa [get, hi] using hpos⟩

/-- A measure that is positive at one number at most is summed up there. -/
theorem tally_eq_of_unique {f : α → Nat} (hf : f default = 0) {t : Table α} {i : Nat}
    (h : ∀ j, 0 < f (t.get j) → j = i) : t.tally f = f (t.get i) := by
  have hset := tally_set hf t i default
  -- Without the value at that number there is nothing to sum up.
  have hzero : (t.set i default).tally f = 0 := by
    by_contra hpos
    obtain ⟨j, hj⟩ := exists_of_tally_pos (Nat.pos_of_ne_zero hpos)
    rw [get_set] at hj
    split at hj
    · omega
    · next hji => exact hji (h j hj)
  omega

theorem le_sum_of_forall {f : α → Nat} (hf : f default = 0) {cells : List α} {n : Nat}
    (h : ∀ i < n, f (cells[i]?.getD default) = 1) : n ≤ (cells.map f).sum := by
  induction cells generalizing n with
  | nil =>
    cases n with
    | zero => exact Nat.le_refl _
    | succ n =>
      have hzero := h 0 (Nat.succ_pos n)
      simp [hf] at hzero
  | cons a rest ih =>
    cases n with
    | zero => exact Nat.zero_le _
    | succ n =>
      have hfirst : f a = 1 := h 0 (Nat.succ_pos n)
      have hrest : n ≤ (rest.map f).sum := ih fun i hi => h (i + 1) (Nat.succ_lt_succ hi)
      rw [List.map_cons, List.sum_cons, hfirst]
      omega

/-- A measure that is one at the first numbers is summed up to as many at least. -/
theorem le_tally_of_forall {f : α → Nat} (hf : f default = 0) {t : Table α} {n : Nat}
    (h : ∀ i < n, f (t.get i) = 1) : n ≤ t.tally f :=
  le_sum_of_forall hf h

theorem sum_le_of_forall {f : α → Nat} {cells : List α} {n : Nat}
    (hone : ∀ i : Nat, f (cells[i]?.getD default) ≤ 1)
    (hzero : ∀ i : Nat, n ≤ i → f (cells[i]?.getD default) = 0) : (cells.map f).sum ≤ n := by
  induction cells generalizing n with
  | nil => exact Nat.zero_le _
  | cons a rest ih =>
    rw [List.map_cons, List.sum_cons]
    have hrest : (rest.map f).sum ≤ n - 1 :=
      ih (fun i => hone (i + 1)) fun i hi => hzero (i + 1) (by omega)
    have hfirst : f a ≤ 1 := hone 0
    cases n with
    | zero =>
      have hnone : f a = 0 := hzero 0 (Nat.le_refl 0)
      omega
    | succ n => omega

/-- A measure that is one at most, and zero past the first numbers, is summed up to as many at
most. -/
theorem tally_le_of_forall {f : α → Nat} {t : Table α} {n : Nat} (hone : ∀ i, f (t.get i) ≤ 1)
    (hzero : ∀ i, n ≤ i → f (t.get i) = 0) : t.tally f ≤ n :=
  sum_le_of_forall hone hzero

/-- A measure that tells the places of a list with a property from the others is summed up to the
number of these places. -/
theorem tally_eq_countP {β : Type v} {f : α → Nat} (hf : f default = 0) {t : Table α} {l : List β}
    {P : β → Bool} (h : ∀ {i b}, l[i]? = some b → f (t.get i) = (P b).toNat)
    (hzero : ∀ i, l.length ≤ i → f (t.get i) = 0) : t.tally f = l.countP P := by
  obtain ⟨cells⟩ := t
  change (cells.map f).sum = _
  induction l generalizing cells with
  | nil =>
    have hle : (cells.map f).sum ≤ 0 :=
      sum_le_of_forall (fun i => Nat.le_succ_of_le (Nat.le_of_eq (hzero i (Nat.zero_le i))))
        fun i hi => hzero i hi
    exact Nat.le_zero.1 hle
  | cons b l ih =>
    have hfirst : f (cells[0]?.getD default) = (P b).toNat := h rfl
    -- The rest of the list goes with the values past the first one.
    have hrest : (cells.tail.map f).sum = l.countP P := by
      refine ih cells.tail (fun {i b} hb => ?_) fun i hi => ?_
      · have hnext := h (i := i + 1) hb
        simpa [get] using hnext
      · have hnext := hzero (i + 1) (Nat.succ_le_succ hi)
        simpa [get] using hnext
    have hone : (if P b = true then 1 else 0) = (P b).toNat := by cases P b <;> rfl
    rw [List.countP_cons, hone, ← hfirst, ← hrest]
    cases cells with
    | nil =>
      change 0 = 0 + f default
      omega
    | cons a cells => exact Nat.add_comm _ _

/-- A list of different numbers, at all of which the measure is positive, is no longer than the
tally. -/
theorem length_le_tally {f : α → Nat} (hf : f default = 0) {t : Table α} {l : List Nat}
    (hnodup : l.Nodup) (h : ∀ i ∈ l, 0 < f (t.get i)) : l.length ≤ t.tally f := by
  induction l generalizing t with
  | nil => exact Nat.zero_le _
  | cons i l ih =>
    obtain ⟨hi, hnodup⟩ := List.nodup_cons.1 hnodup
    have hset := tally_set hf t i default
    have hpos := h i List.mem_cons_self
    have hrest : l.length ≤ (t.set i default).tally f := by
      refine ih hnodup fun j hj => ?_
      rw [get_set_ne _ _ (by rintro rfl; exact hi hj)]
      exact h j (List.mem_cons_of_mem i hj)
    rw [List.length_cons]
    omega

/-- A list of all numbers at which the measure is positive, and it is one at most, is no shorter
than the tally. -/
theorem tally_le_length {f : α → Nat} (hf : f default = 0) {t : Table α} {l : List Nat}
    (hone : ∀ i, f (t.get i) ≤ 1) (h : ∀ i, 0 < f (t.get i) → i ∈ l) : t.tally f ≤ l.length := by
  induction l generalizing t with
  | nil =>
    refine Nat.le_of_not_lt fun hpos => ?_
    obtain ⟨i, hi⟩ := exists_of_tally_pos hpos
    exact absurd (h i hi) List.not_mem_nil
  | cons i l ih =>
    have hset := tally_set hf t i default
    have hi := hone i
    have hget : ∀ j, f ((t.set i default).get j) = if j = i then 0 else f (t.get j) := by
      intro j
      rw [get_set]
      split
      · exact hf
      · rfl
    have hrest : (t.set i default).tally f ≤ l.length := by
      refine ih (fun j => ?_) fun j hj => ?_
      · rw [hget]
        split
        · exact Nat.zero_le 1
        · exact hone j
      · rw [hget] at hj
        split at hj
        · exact absurd hj (Nat.lt_irrefl 0)
        · next hji => exact (List.mem_cons.1 (h j hj)).resolve_left hji
    rw [List.length_cons]
    omega

omit [Inhabited α] in
theorem tally_add (f g : α → Nat) (t : Table α) :
    t.tally (fun a => f a + g a) = t.tally f + t.tally g := by
  unfold tally
  induction t.cells with
  | nil => rfl
  | cons a rest ih =>
    simp only [List.map_cons, List.sum_cons, ih]
    omega

end Table

namespace Trio

variable {ι : Type} {α : Type u} [Threefold ι]

/-- The sum of a measure over the three values. -/
def tally (f : α → Nat) (t : Trio ι α) : Nat := f t.first + f t.second + f t.third

theorem tally_set (f : α → Nat) (t : Trio ι α) (i : ι) (a : α) :
    (t.set i a).tally f + f (t.get i) = t.tally f + f a := by
  unfold tally get set
  split <;> dsimp only <;> omega

theorem le_tally (f : α → Nat) (t : Trio ι α) (i : ι) : f (t.get i) ≤ t.tally f := by
  unfold tally get
  split <;> omega

theorem exists_of_tally_pos {f : α → Nat} {t : Trio ι α} (h : 0 < t.tally f) :
    ∃ i, 0 < f (t.get i) := by
  by_contra hnone
  -- Otherwise all three values measure zero.
  have hzero : ∀ p : Fin 3, f (t.get (Threefold.member p)) = 0 := by
    intro p
    by_contra hpos
    exact hnone ⟨_, Nat.pos_of_ne_zero hpos⟩
  have hfirst := hzero 0
  have hsecond := hzero 1
  have hthird := hzero 2
  simp only [get, Threefold.position_member] at hfirst hsecond hthird
  unfold tally at h
  omega

end Trio

end Junction
