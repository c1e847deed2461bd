import Junction.Trio

/-!
# Segments and routes

Three road segments form a cycle around the junction; each lies after one of the three approaches
and is shared with the next one.

```text
           A
          / \
     CA  /   \  AB
        /     \
       C ----- B
          BC
```

## Main definitions

* `Segment` — a segment, with its place in the cycle
* `Route` — a set of segments, such as the way of a vehicle through the junction
* `Route.segments` — the members of a route in cycle order

## Main results

* `Route.mem_segments` — the listed segments are the contained ones
-/

namespace Junction

/-- One of the three shared road segments. -/
inductive Segment where
  /-- The segment after approach A, shared with B. -/
  | ab
  /-- The segment after approach B, shared with C. -/
  | bc
  /-- The segment after approach C, shared with A. -/
  | ca
deriving DecidableEq, Repr, Inhabited

namespace Segment

instance : Threefold Segment where
  position
    | ab => Threefold.first
    | bc => Threefold.second
    | ca => Threefold.third
  member
    | 0 => ab
    | 1 => bc
    | 2 => ca
  member_position i := by cases i <;> rfl
  position_member p := by
    match p with
    | 0 => rfl
    | 1 => rfl
    | 2 => rfl

/-- All segments in cycle order. -/
def all : List Segment := [ab, bc, ca]

/-- The next segment around the cycle. -/
def next : Segment → Segment
  | ab => bc
  | bc => ca
  | ca => ab

/-- The segment with a code. -/
def ofCode? (code : UInt8) : Option Segment :=
  match code.toNat with
  | 0 => some ab
  | 1 => some bc
  | 2 => some ca
  | _ => none

/-- The name of a segment on the road. -/
def name : Segment → String
  | ab => "AB"
  | bc => "BC"
  | ca => "CA"

/-- The name of a segment in the text of a fault. -/
def label : Segment → String
  | ab => "Ab"
  | bc => "Bc"
  | ca => "Ca"

@[simp] theorem mem_all (s : Segment) : s ∈ all := by cases s <;> simp [all]

end Segment

/-- A set of segments. -/
structure Route where
  /-- Whether the set contains `AB`. -/
  ab : Bool
  /-- Whether the set contains `BC`. -/
  bc : Bool
  /-- Whether the set contains `CA`. -/
  ca : Bool
deriving DecidableEq, Repr, Inhabited

namespace Route

/-- Whether the set contains a segment. -/
def contains (r : Route) : Segment → Bool
  | .ab => r.ab
  | .bc => r.bc
  | .ca => r.ca

instance : Membership Segment Route where
  mem r s := r.contains s = true

instance (s : Segment) (r : Route) : Decidable (s ∈ r) :=
  inferInstanceAs (Decidable (r.contains s = true))

theorem mem_iff {s : Segment} {r : Route} : s ∈ r ↔ r.contains s = true := Iff.rfl

/-- The set with no segment. -/
def empty : Route := ⟨false, false, false⟩

/-- The set of all segments. -/
def full : Route := ⟨true, true, true⟩

/-- The set of one segment. -/
def single : Segment → Route
  | .ab => ⟨true, false, false⟩
  | .bc => ⟨false, true, false⟩
  | .ca => ⟨false, false, true⟩

/-- The segments in either set. -/
def union (r r' : Route) : Route := ⟨r.ab || r'.ab, r.bc || r'.bc, r.ca || r'.ca⟩

/-- The segments in both sets. -/
def inter (r r' : Route) : Route := ⟨r.ab && r'.ab, r.bc && r'.bc, r.ca && r'.ca⟩

/-- The segments of the first set that are not in the second. -/
def diff (r r' : Route) : Route := ⟨r.ab && !r'.ab, r.bc && !r'.bc, r.ca && !r'.ca⟩

/-- The segments that are not in the set. -/
def complement (r : Route) : Route := full.diff r

/-- Whether the first set contains the whole second one. -/
def covers (r r' : Route) : Bool := r.inter r' == r'

/-- Whether two sets share a segment. -/
def intersects (r r' : Route) : Bool := r.inter r' != empty

/-- The segments of the set in cycle order. -/
def segments (r : Route) : List Segment := Segment.all.filter r.contains

/-- Whether no two sets of a list have a segment in common. -/
def areDisjoint : List Route → Bool
  | [] => true
  | r :: rest => rest.all (fun r' => !r.intersects r') && areDisjoint rest

/-- The number whose binary digits, from the lowest, tell whether `AB`, `BC` and `CA` are in the
set. -/
def bits (r : Route) : Nat := r.ab.toNat + 2 * r.bc.toNat + 4 * r.ca.toNat

/-- The set given by the three lowest binary digits of a number. -/
def ofBits (n : Nat) : Route := ⟨n.testBit 0, n.testBit 1, n.testBit 2⟩

/-- The set given by a number that has no higher digit than the three of `ofBits`. -/
def ofBits? (n : Nat) : Option Route := if n < 8 then some (ofBits n) else none

/-- The names of the segments, separated by bars. -/
def text (r : Route) : String :=
  if r = empty then "(empty)" else " | ".intercalate (r.segments.map Segment.name)

@[simp] theorem mem_segments {r : Route} {s : Segment} : s ∈ r.segments ↔ s ∈ r := by
  simp [segments, mem_iff]

theorem mem_union {r r' : Route} {s : Segment} : s ∈ r.union r' ↔ s ∈ r ∨ s ∈ r' := by
  cases s <;> simp [mem_iff, contains, union]

theorem mem_inter {r r' : Route} {s : Segment} : s ∈ r.inter r' ↔ s ∈ r ∧ s ∈ r' := by
  cases s <;> simp [mem_iff, contains, inter]

theorem not_mem_empty (s : Segment) : s ∉ empty := by
  cases s <;> simp [mem_iff, contains, empty]

theorem ext_mem {r r' : Route} (h : ∀ s : Segment, s ∈ r ↔ s ∈ r') : r = r' := by
  have key : ∀ s, r.contains s = r'.contains s := fun s => Bool.eq_iff_iff.mpr (h s)
  have hab := key .ab
  have hbc := key .bc
  have hca := key .ca
  cases r
  cases r'
  simp_all [contains]

theorem ofBits_bits (r : Route) : ofBits r.bits = r := by
  obtain ⟨ab, bc, ca⟩ := r
  cases ab <;> cases bc <;> cases ca <;> rfl

end Route

end Junction
