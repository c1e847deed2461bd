import Junction.Traffic.WordStream

/-!
# Drawing numbers from words

A number below `n` is drawn from a word `w` by multiplying: of `w * n` the part above `2 ^ 32` is
the number, and the part below decides whether the word counts. Words are passed over until one
counts, so every number below `n` has the same chance.

Among weighted alternatives the number drawn below the sum of the weights picks the alternative in
whose share it lies.

## Main definitions

* `Draw.ofWord?` — the number that a word gives, if the word counts
* `Draw.below?` — the number that the first counting word gives, from a position on
* `Draw.total` — the sum of all weights, below which a number is drawn
* `Draw.share` — the alternative in whose share a number lies
-/

namespace Junction.Draw

/-- How many values a word has. -/
def wordRange : Nat := UInt32.size

/-- The largest lower part of the product with which a word still counts. -/
def zone (n : Nat) : Nat := wordRange - 1 - (wordRange - n) % n

/-- The number below `n` that a word gives, if the word counts. -/
def ofWord? (n word : Nat) : Option Nat :=
  if word * n % wordRange ≤ zone n then some (word * n / wordRange) else none

/-- The number below `n` that the first counting word gives, among a limited number of words from a
position on, with the position after that word. -/
def search? (words : Nat → UInt32) (n : Nat) : (limit position : Nat) → Option (Nat × Nat)
  | 0, _ => none
  | limit + 1, position =>
    match ofWord? n (words position).toNat with
    | some x => some (x, position + 1)
    | none => search? words n limit (position + 1)

/-- The number below `n` that the first counting word from a position on gives, with the position
after that word. The words repeat after a period, so a word that counts comes within one period or
not at all. -/
def below? (words : Nat → UInt32) (n position : Nat) : Option (Nat × Nat) :=
  search? words n WordStream.period position

/-- The sum of all weights. -/
def total (weights : List Nat) : Nat := weights.foldl (· + ·) 0

/-- The sums of the first, the first two, … of the weights, after what came before. -/
def sums (before : Nat) : List Nat → List Nat
  | [] => []
  | w :: rest => (before + w) :: sums (before + w) rest

/-- The alternative in whose share a number lies: as many alternatives come before it as there are
sums, that of all weights left out, which the number reaches. -/
def share (weights : List Nat) (x : Nat) : Nat :=
  (sums 0 weights.dropLast).countP (· ≤ x)

end Junction.Draw
