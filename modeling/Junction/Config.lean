import Junction.Fault

/-!
# The configuration of a run

A configuration says how many vehicles take part, how their class, approach and turn codes are
drawn, and how patient the scheduler is with a vehicle that was granted its route.

## Main definitions

* `Distribution` — how the code of one field is drawn
* `Config` — the configuration, with its usual values
* `Config.Problem` — what can make it unusable
* `Config.problem?`, `Config.validate` — the first problem, if there is any
-/

namespace Junction

/-- How the raw code of one field of a vehicle is drawn. Codes that no vehicle can have are allowed:
the vehicles that draw them are rejected. -/
inductive Distribution where
  /-- Every valid code with the same chance. -/
  | uniform
  /-- The code `i` with a chance in proportion to the weight at place `i`. -/
  | weighted (weights : List UInt32)
  /-- Always the same code. -/
  | fixed (code : UInt8)
  /-- The codes of a list in turn, again and again. -/
  | cycle (codes : List UInt8)
deriving DecidableEq, Repr, Inhabited

/-- The configuration of a run. -/
structure Config where
  /-- The number of vehicles. -/
  vehicles : Nat := 30
  /-- How class codes are drawn. -/
  classes : Distribution := .uniform
  /-- How approach codes are drawn. -/
  approaches : Distribution := .uniform
  /-- How turn codes are drawn. -/
  turns : Distribution := .uniform
  /-- The seed of the traffic. -/
  seed : UInt64 := 0x57091167
  /-- Whether the scheduler scans only after every vehicle has arrived or was rejected. -/
  holdUntilArrived : Bool := false
  /-- How many nanoseconds the scheduler waits for an acknowledgment before it warns. -/
  grantTimeout : Nat := 250000000
  /-- How many waits in vain make a grant unacknowledged. -/
  grantRetries : Nat := 40
  /-- Whether every event is echoed on the console. -/
  verbose : Bool := false
deriving DecidableEq, Repr, Inhabited

/-- What can make a configuration unusable. -/
inductive Config.Problem where
  /-- There are more weights than codes. -/
  | tooManyWeights
  /-- No weight is positive. -/
  | noWeight
  /-- There is no code to repeat. -/
  | emptyCycle
  /-- The scheduler would not wait at all. -/
  | zeroTimeout
  /-- The scheduler would not wait even once. -/
  | zeroRetries
deriving DecidableEq, Repr, Inhabited

/-- A problem of a configuration in words. -/
def Config.Problem.message : Config.Problem → String
  | tooManyWeights => "too many weighted codes"
  | noWeight => "weights must not be empty or all zero"
  | emptyCycle => "cycle must not be empty"
  | zeroTimeout => "grant timeout must not be zero"
  | zeroRetries => "grant retries must not be zero"

/-- A problem of a configuration as a fault. -/
def Config.Problem.fault (p : Config.Problem) : Fault := .invalidConfiguration p.message

/-- What is wrong with a distribution, if anything. -/
def Distribution.problem? : Distribution → Option Config.Problem
  | uniform => none
  | weighted weights =>
    if 256 < weights.length then some .tooManyWeights
    else if weights.all (· == 0) then some .noWeight
    else none
  | fixed _ => none
  | cycle codes => if codes.isEmpty then some .emptyCycle else none

namespace Config

/-- The first problem of a configuration: with the classes, the approaches, the turns, the timeout
and the retries, in this order. No vehicle at all is no problem. -/
def problem? (c : Config) : Option Problem :=
  c.classes.problem?.or <| c.approaches.problem?.or <| c.turns.problem?.or <|
    if c.grantTimeout = 0 then some .zeroTimeout
    else if c.grantRetries = 0 then some .zeroRetries
    else none

/-- Accepts a configuration without a problem. -/
def validate (c : Config) : Except Fault Unit :=
  match c.problem? with
  | none => .ok ()
  | some p => .error p.fault

/-- The configuration itself, if it has no problem. -/
def build (c : Config) : Except Fault Config := c.validate.map fun _ => c

end Config

end Junction
