/-!
# Tables

A table gives a value to every number; all but finitely many numbers have the default value.

## Main definitions

* `Table`, `Table.get`, `Table.set` — a table, and how to read and change it
* `Table.push` — a new value at the first number that the table has not stored

## Main results

* `Table.get_set` — a change shows at the changed number and nowhere else
-/

universe u

namespace Junction

/-- A value for every number, the default one for all numbers beyond the stored cells. -/
structure Table (α : Type u) where
  /-- The stored values, from number `0` on. -/
  cells : List α := []
deriving DecidableEq, Repr, Inhabited

namespace Table

variable {α : Type u}

/-- How many values are stored. -/
def size (t : Table α) : Nat := t.cells.length

/-- The table with a value stored at the next number. -/
def push (t : Table α) (a : α) : Table α := ⟨t.cells ++ [a]⟩

variable [Inhabited α]

/-- The value of a number. -/
def get (t : Table α) (i : Nat) : α := t.cells[i]?.getD default

/-- The list with the value at a place changed, filled up with default values before it. -/
def place (a : α) : Nat → List α → List α
  | 0, [] => [a]
  | 0, _ :: rest => a :: rest
  | i + 1, [] => default :: place a i []
  | i + 1, b :: rest => b :: place a i rest

/-- The table with the value of a number changed. -/
def set (t : Table α) (i : Nat) (a : α) : Table α := ⟨place a i t.cells⟩

theorem getElem?_place (a : α) (i j : Nat) (l : List α) :
    (place a i l)[j]?.getD default = if j = i then a else l[j]?.getD default := by
  fun_induction place a i l generalizing j with
  | case1 => cases j <;> simp
  | case2 => cases j <;> simp
  | case3 i ih =>
    cases j with
    | zero => simp
    | succ j => simpa using ih j
  | case4 i b rest ih =>
    cases j with
    | zero => simp
    | succ j => simpa using ih j

theorem get_set (t : Table α) (i j : Nat) (a : α) :
    (t.set i a).get j = if j = i then a else t.get j :=
  getElem?_place a i j t.cells

@[simp] theorem get_set_self (t : Table α) (i : Nat) (a : α) : (t.set i a).get i = a := by
  rw [get_set, if_pos rfl]

theorem get_set_ne (t : Table α) {i j : Nat} (a : α) (h : j ≠ i) :
    (t.set i a).get j = t.get j := by
  rw [get_set, if_neg h]

theorem get_push (t : Table α) (j : Nat) (a : α) :
    (t.push a).get j = if j = t.size then a else t.get j := by
  change (t.cells ++ [a])[j]?.getD default =
    if j = t.cells.length then a else t.cells[j]?.getD default
  rcases Nat.lt_trichotomy j t.cells.length with h | h | h
  · rw [if_neg (by omega), List.getElem?_append_left h]
  · subst h
    simp
  · rw [if_neg (by omega), List.getElem?_eq_none (by simp; omega),
      List.getElem?_eq_none (by omega)]

end Table

end Junction
