import Junction.SelfTest

/-!
# The command line

The arguments are the filter of a graded run of the self-tests. Arguments that begin with two
hyphens are ignored. The exit code is `1` if a test fails.
-/

/-- Runs the self-tests that the arguments select. -/
def main (arguments : List String) : IO UInt32 := do
  let (passed, console) := Junction.SelfTest.selfTest arguments {}
  IO.print console.text
  return if passed then 0 else 1
