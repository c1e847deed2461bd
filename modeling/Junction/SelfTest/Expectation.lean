import Junction.Grading.Body

/-!
# Expectations

Small words in which the self-tests say what they expect.

## Main definitions

* `holding` — the body that returns if a check holds
* `yields`, `failsWith`, `fails` — expectations of a result that may be an error
-/

universe u v

namespace Junction.SelfTest

open Grading

/-- The body that returns if a check holds, and panics otherwise. -/
def holding (check : Unit → Bool) : Body := .checking fun c => (c, check ())

/-- Whether a result is a certain value. -/
def yields {ε : Type u} {α : Type v} [BEq α] (a : α) : Except ε α → Bool
  | .ok b => b == a
  | .error _ => false

/-- Whether a result is a certain error. -/
def failsWith {ε : Type u} {α : Type v} [BEq ε] (e : ε) : Except ε α → Bool
  | .ok _ => false
  | .error e' => e' == e

/-- Whether a result is an error of a certain kind. -/
def fails {ε : Type u} {α : Type v} (p : ε → Bool) : Except ε α → Bool
  | .ok _ => false
  | .error e => p e

end Junction.SelfTest
