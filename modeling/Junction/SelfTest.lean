import Junction.SelfTest.Locks
import Junction.SelfTest.Protocol
import Junction.SelfTest.Queues
import Junction.SelfTest.Runs
import Junction.SelfTest.Segments
import Junction.SelfTest.Traffic

/-!
# Self-tests

The junction brings its own tests, from single locks to whole runs. They are graded like any other
tests, and a filter on their paths selects some of them.

## Main definitions

* `tests` — all self-tests in their order
* `selfTest` — the graded run of those that a filter selects
-/

namespace Junction.SelfTest

open Grading

/-- The name under which the self-tests run, before the first pair of colons. -/
def suite : String := "stoplight_grader"

/-- All self-tests: the locks first, whole runs last. -/
def tests : List Test :=
  (lockTests ++ configTests ++ segmentTests ++ queueTests ++ protocolTests ++ runTests).map
    fun (path, body) => .ofBody s!"{suite}::{path}" body

/-- Runs the self-tests that a filter selects, and tells whether all of them have passed. -/
def selfTest (filter : List String) (c : Console) : Bool × Console := grade tests filter c

end Junction.SelfTest
