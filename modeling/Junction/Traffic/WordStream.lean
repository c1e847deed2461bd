/-!
# The stream of random words

The traffic of a run is drawn from a stream of 32-bit words that a 64-bit seed determines. The seed
is expanded to a key of eight words by a permuted congruential generator; the key selects a ChaCha
stream of twelve rounds, whose blocks of sixteen words follow each other under a 64-bit counter.

The stream is given by its positions: `wordAt key i` is its word number `i`. It repeats after
`WordStream.period` words.

## Main definitions

* `WordStream.expand` — the key of a seed
* `WordStream.block` — the block with a number
* `WordStream.wordAt` — the word at a position
-/

namespace Junction.WordStream

/-- Eight words. -/
abbrev Key := Vector UInt32 8

/-- Sixteen words. -/
abbrev Block := Vector UInt32 16

/-! ### The key -/

/-- A word rotated to the right by the lowest five binary digits of a number. -/
def rotateRight (x k : UInt32) : UInt32 := (x >>> k) ||| (x <<< (32 - k))

/-- The next state of the congruential generator. -/
def congruential (state : UInt64) : UInt64 :=
  state * 6364136223846793005 + 11634580027462260723

/-- The word that a state of the congruential generator gives: its upper digits, folded and then
rotated by the five highest ones. -/
def permuted (state : UInt64) : UInt32 :=
  rotateRight (((state >>> 18) ^^^ state) >>> 27).toUInt32 (state >>> 59).toUInt32

/-- The state of the congruential generator after a number of steps from a seed. -/
def congruentialAt (seed : UInt64) : Nat → UInt64
  | 0 => seed
  | n + 1 => congruential (congruentialAt seed n)

/-- The key of a seed: the words of the first eight states. -/
def expand (seed : UInt64) : Key :=
  .ofFn fun i => permuted (congruentialAt seed (i.val + 1))

/-! ### The blocks -/

/-- A word rotated to the left. -/
def rotateLeft (x k : UInt32) : UInt32 := (x <<< k) ||| (x >>> (32 - k))

/-- One quarter of a round, on the words at four places. -/
def quarterRound (x : Block) (a b c d : Fin 16) : Block :=
  let x := x.set a (x[a] + x[b])
  let x := x.set d (rotateLeft (x[d] ^^^ x[a]) 16)
  let x := x.set c (x[c] + x[d])
  let x := x.set b (rotateLeft (x[b] ^^^ x[c]) 12)
  let x := x.set a (x[a] + x[b])
  let x := x.set d (rotateLeft (x[d] ^^^ x[a]) 8)
  let x := x.set c (x[c] + x[d])
  x.set b (rotateLeft (x[b] ^^^ x[c]) 7)

/-- A round on the columns of the block, read as a square, and a round on its diagonals. -/
def doubleRound (x : Block) : Block :=
  let x := quarterRound x 0 4 8 12
  let x := quarterRound x 1 5 9 13
  let x := quarterRound x 2 6 10 14
  let x := quarterRound x 3 7 11 15
  -- From here on the diagonals.
  let x := quarterRound x 0 5 10 15
  let x := quarterRound x 1 6 11 12
  let x := quarterRound x 2 7 8 13
  quarterRound x 3 4 9 14

/-- The block before its rounds: four constants, the key, the counter and an empty stream
number. -/
def start (key : Key) (counter : UInt64) : Block :=
  -- The constants are the bytes of "expand 32-byte k", four to a word.
  #v[0x61707865, 0x3320646e, 0x79622d32, 0x6b206574,
     key[0], key[1], key[2], key[3], key[4], key[5], key[6], key[7],
     counter.toUInt32, (counter >>> 32).toUInt32, 0, 0]

/-- A function applied a number of times. -/
def iterate {α : Type} (f : α → α) : Nat → α → α
  | 0, x => x
  | n + 1, x => iterate f n (f x)

/-- The block with a number: twelve rounds over its start, added to the start. -/
def block (key : Key) (counter : UInt64) : Block :=
  let first := start key counter
  let last := iterate doubleRound 6 first
  .ofFn fun i => last[i] + first[i]

/-- The word at a position of the stream. -/
def wordAt (key : Key) (position : Nat) : UInt32 :=
  (block key (UInt64.ofNat (position / 16)))[position % 16]

/-- After so many words the stream starts again: sixteen words for each value of the counter. -/
def period : Nat := 16 * UInt64.size

end Junction.WordStream
