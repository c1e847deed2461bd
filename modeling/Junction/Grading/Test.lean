import Junction.Grading.Body

/-!
# Grading

Tests have names such as `a::b::c`. What follows the first `::` of a name is the path of the test,
and a filter selects tests by the beginnings of their paths. The selected tests run one after the
other, whether earlier ones have passed or not, and a last line counts the ones that have passed.

## Main definitions

* `Test`, `Test.path`, `Test.ofBody` — a test, its path, and the test that runs a body
* `wanted`, `Test.isSelectedBy` — which tests a filter selects
* `runAll`, `grade` — the run of tests, and a filtered run with its first and last lines

## Main results

* `runAll_le` — no more tests pass than run
-/

namespace Junction.Grading

/-- A test. -/
structure Test where
  /-- Its name. -/
  name : String
  /-- Its run from the console before it: whether it has passed, and the console after it. -/
  run : Console → Bool × Console

/-! ### Names and filters -/

/-- What follows the first pair of colons, if there is one. -/
def afterColons : List Char → Option (List Char)
  | [] => none
  | [_] => none
  | c :: d :: rest => if c = ':' ∧ d = ':' then some rest else afterColons (d :: rest)

/-- The path of a test: what follows the first pair of colons in its name, or the whole name. -/
def Test.path (t : Test) : List Char := (afterColons t.name.toList).getD t.name.toList

/-- Whether an argument is an option, which selects nothing. -/
def isOption (argument : String) : Bool := ['-', '-'].isPrefixOf argument.toList

/-- The arguments of a filter that are no options. -/
def wanted (filter : List String) : List String := filter.filter (!isOption ·)

/-- Whether a filter selects a test: it has no argument that counts, or one with which the path of
the test begins. -/
def Test.isSelectedBy (filter : List String) (t : Test) : Bool :=
  (wanted filter).isEmpty || (wanted filter).any fun f => f.toList.isPrefixOf t.path

/-! ### Runs -/

/-- The word for a result. -/
def word (passed : Bool) : String := if passed then "ok" else "FAILED"

/-- The test that runs a body on a thread of its own. It passes if the thread exits with `0`. If the
host refuses the thread, then nothing of the body runs and the test fails, just as it does with a
body that leaves the console alone and exits with `-1`. -/
def Test.ofBody (name : String) (body : Body) : Test where
  name
  run c :=
    let o := body.run (c.print s!"test {name} ... ")
    let passed := o.ending.exitCode == 0
    (passed, o.console.printLine (word passed))

/-- Runs tests one after the other; the number of those that have passed comes first. -/
def runAll : List Test → Console → Nat × Console
  | [], c => (0, c)
  | t :: rest, c =>
    let (passed, c) := t.run c
    let (count, c) := runAll rest c
    (count + passed.toNat, c)

/-- The first line of a graded run. -/
def startLine (total : Nat) : String :=
  let ending := if total = 1 then "" else "s"
  s!"Running {total} test{ending}"

/-- The last line of a graded run. -/
def resultLine (total passed : Nat) : String :=
  s!"test result: {word (total == passed)}. {passed} passed; {total - passed} failed"

/-- Runs the tests that a filter selects, and tells whether all of them have passed. -/
def grade (tests : List Test) (filter : List String) (c : Console) : Bool × Console :=
  let tests := tests.filter (·.isSelectedBy filter)
  let total := tests.length
  let (passed, c) := runAll tests (c.printLine (startLine total))
  (total == passed, c.printLine (resultLine total passed))

theorem runAll_le (tests : List Test) (c : Console) : (runAll tests c).1 ≤ tests.length := by
  induction tests generalizing c with
  | nil => simp [runAll]
  | cons t rest ih => exact Nat.add_le_add (ih (t.run c).2) (Bool.toNat_le (t.run c).1)

end Junction.Grading
