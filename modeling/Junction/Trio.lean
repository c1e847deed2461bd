/-!
# Families over three things

The junction is full of threes: three segments, three vehicle classes. A `Trio ι α` holds one
value of `α` for each member of a three-element type `ι`.

## Main definitions

* `Threefold` — a type whose members stand at three distinct positions
* `Trio`, `Trio.get`, `Trio.set` — a family over such a type, and how to read and change it

## Main results

* `Trio.get_set` — a change shows at the changed member and nowhere else
* `Trio.ext_get` — a family is determined by its values
-/

universe u v

namespace Junction

/-- A type whose members stand at distinct positions `0`, `1` and `2`. -/
class Threefold (ι : Type) where
  /-- The position of a member. -/
  position : ι → Fin 3
  /-- The member at a position. -/
  member : Fin 3 → ι
  /-- Every member stands at its own position. -/
  member_position : ∀ i, member (position i) = i
  /-- Every position is taken by its member. -/
  position_member : ∀ p, position (member p) = p

namespace Threefold

/-- The position `0`. -/
abbrev first : Fin 3 := 0

/-- The position `1`. -/
abbrev second : Fin 3 := 1

/-- The position `2`. -/
abbrev third : Fin 3 := 2

variable {ι : Type} [Threefold ι]

/-- All members, in the order of their positions. -/
def all (ι : Type) [Threefold ι] : List ι := [member 0, member 1, member 2]

theorem position_inj {i j : ι} (h : position i = position j) : i = j := by
  rw [← member_position i, ← member_position j, h]

theorem mem_all (i : ι) : i ∈ all ι := by
  have h : ∀ p : Fin 3, (member p : ι) ∈ all ι := by
    intro p
    match p with
    | 0 => simp [all]
    | 1 => simp [all]
    | 2 => simp [all]
  exact member_position i ▸ h (position i)

end Threefold

/-- One value of `α` for each member of `ι`. -/
structure Trio (ι : Type) (α : Type u) where
  /-- The value at position `0`. -/
  first : α
  /-- The value at position `1`. -/
  second : α
  /-- The value at position `2`. -/
  third : α
deriving DecidableEq, Repr, Inhabited

namespace Trio

open Threefold

variable {ι : Type} {α : Type u} {β : Type v}

/-- The same value for every member. -/
def const (a : α) : Trio ι α := ⟨a, a, a⟩

/-- The values in the order of the positions. -/
def toList (t : Trio ι α) : List α := [t.first, t.second, t.third]

variable [Threefold ι]

/-- The value of the member `i`. -/
def get (t : Trio ι α) (i : ι) : α :=
  match position i with
  | 0 => t.first
  | 1 => t.second
  | 2 => t.third

/-- The family with the value of the member `i` changed to `a`. -/
def set (t : Trio ι α) (i : ι) (a : α) : Trio ι α :=
  match position i with
  | 0 => { t with first := a }
  | 1 => { t with second := a }
  | 2 => { t with third := a }

@[simp] theorem get_const (a : α) (i : ι) : (const a : Trio ι α).get i = a := by
  simp only [get, const]
  split <;> rfl

theorem get_set (t : Trio ι α) (i j : ι) (a : α) [DecidableEq ι] :
    (t.set i a).get j = if j = i then a else t.get j := by
  by_cases hij : j = i
  · subst hij
    simp only [get, set, ↓reduceIte]
    split <;> rfl
  · have hpos : position j ≠ position i := fun h => hij (position_inj h)
    simp only [get, set, hij, ↓reduceIte]
    generalize position i = p at hpos
    generalize position j = q at hpos
    match p, q with
    | 0, 0 | 1, 1 | 2, 2 => exact absurd rfl hpos
    | 0, 1 | 0, 2 | 1, 0 | 1, 2 | 2, 0 | 2, 1 => rfl

theorem ext_get {t t' : Trio ι α} (h : ∀ i, t.get i = t'.get i) : t = t' := by
  have h0 := h (member 0)
  have h1 := h (member 1)
  have h2 := h (member 2)
  simp only [get, position_member] at h0 h1 h2
  cases t
  cases t'
  simp_all

theorem toList_eq_map_get (t : Trio ι α) : t.toList = (all ι).map t.get := by
  simp [toList, all, get, position_member]

end Trio

end Junction
