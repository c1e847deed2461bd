import Junction.Config
import Junction.Traffic.Draw

/-!
# The traffic of a run

The vehicles of a run are drawn from the stream of words of its seed: for each vehicle in turn a
class, an approach and a turn code. A field that is fixed or cycles takes no word.

## Main definitions

* `Sampler` — a distribution made ready for drawing
* `Sampler.sample?` — one code, with the position in the stream after it
* `Config.traffic` — the vehicles of a run
* `RunProblem` — why there may be none
-/

namespace Junction

/-- Why a configuration may give no report. -/
inductive RunProblem where
  /-- A fault: an unusable configuration, no room for the vehicles, or the end of the run. -/
  | fault (fault : Fault)
  /-- The sum of the weights of a field does not fit into a word. -/
  | weightOverflow
  /-- No word of the stream counts for a field. -/
  | starved
deriving DecidableEq, Repr, Inhabited

/-- A distribution made ready for drawing. -/
inductive Sampler where
  /-- A code below a bound. -/
  | uniform (bound : Nat)
  /-- A code by weight. -/
  | weighted (weights : List Nat)
  /-- Always the same code. -/
  | fixed (code : UInt8)
  /-- The codes of a list in turn. -/
  | cycle (codes : List UInt8)
deriving DecidableEq, Repr, Inhabited

namespace Sampler

/-- There is no weight at all, or none of them is positive. -/
def invalidWeights : Fault := .invalidConfiguration "invalid weights"

/-- Makes weights ready, if there is something to draw below their sum. -/
def ofWeights (weights : List Nat) : Except RunProblem Sampler :=
  if Draw.wordRange ≤ Draw.total weights then .error .weightOverflow
  else if Draw.total weights = 0 then .error (.fault invalidWeights)
  else .ok (weighted weights)

/-- Makes a distribution ready for a field with the given number of valid codes. -/
def ofDistribution (bound : Nat) (d : Distribution) : Except RunProblem Sampler :=
  match d.problem? with
  | some p => .error (.fault p.fault)
  | none =>
    match d with
    | .uniform => .ok (uniform bound)
    | .weighted weights => ofWeights (weights.map UInt32.toNat)
    | .fixed code => .ok (fixed code)
    | .cycle codes => .ok (cycle codes)

/-- The code that the vehicle with an index draws from a position of the stream on, and the position
after it. -/
def sample? (words : Nat → UInt32) (index : Nat) (s : Sampler) (position : Nat) :
    Option (UInt8 × Nat) :=
  match s with
  | uniform bound =>
    (Draw.below? words bound position).map fun (x, position) => (UInt8.ofNat x, position)
  | weighted weights =>
    (Draw.below? words (Draw.total weights) position).map fun (x, position) =>
      (UInt8.ofNat (Draw.share weights x), position)
  | fixed code => some (code, position)
  | cycle codes => some (codes.getD (index % codes.length) 0, position)

end Sampler

/-- The number of valid class codes. -/
def classCodes : Nat := 3

/-- The number of valid approach codes. -/
def approachCodes : Nat := 3

/-- The number of valid turn codes. -/
def turnCodes : Nat := 2

/-- The samplers of the three fields of a vehicle. -/
structure SpecSampler where
  /-- The sampler of class codes. -/
  classes : Sampler
  /-- The sampler of approach codes. -/
  approaches : Sampler
  /-- The sampler of turn codes. -/
  turns : Sampler
deriving DecidableEq, Repr, Inhabited

namespace SpecSampler

/-- Makes the distributions of a configuration ready, the classes first and the turns last. -/
def ofConfig (c : Config) : Except RunProblem SpecSampler := do
  let classes ← Sampler.ofDistribution classCodes c.classes
  let approaches ← Sampler.ofDistribution approachCodes c.approaches
  let turns ← Sampler.ofDistribution turnCodes c.turns
  return ⟨classes, approaches, turns⟩

/-- Draws one vehicle from a position of the stream on. -/
def sample? (words : Nat → UInt32) (s : SpecSampler) (index position : Nat) :
    Option (VehicleSpec × Nat) := do
  let (vclass, position) ← s.classes.sample? words index position
  let (approach, position) ← s.approaches.sample? words index position
  let (turn, position) ← s.turns.sample? words index position
  return (⟨index, vclass, approach, turn⟩, position)

/-- Draws a number of vehicles, the first one with the given index. -/
def sampleMany? (words : Nat → UInt32) (s : SpecSampler) :
    (count index position : Nat) → Option (List VehicleSpec)
  | 0, _, _ => some []
  | count + 1, index, position => do
    let (spec, position) ← s.sample? words index position
    let rest ← s.sampleMany? words count (index + 1) position
    return spec :: rest

end SpecSampler

/-- The room that the description of a vehicle takes. -/
def specBytes : Nat := 16

/-- The most room that a list of descriptions can take. -/
def roomBytes : Nat := Int64.maxValue.toNatClampNeg

/-- The vehicles of a run. -/
def Config.traffic (c : Config) : Except RunProblem (List VehicleSpec) := do
  let samplers ← SpecSampler.ofConfig c
  if roomBytes < specBytes * c.vehicles then
    throw (.fault .noMemory)
  match samplers.sampleMany? (WordStream.wordAt (WordStream.expand c.seed)) c.vehicles 0 0 with
  | some specs => return specs
  | none => throw .starved

end Junction
