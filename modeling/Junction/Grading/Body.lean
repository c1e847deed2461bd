import Junction.Console

/-!
# Bodies of tests

The body of a test runs on a thread of its own. It writes to the console, takes its time, and ends
in one of three ways: it returns, exits with a code, or panics. A body can be wrapped into another
one that looks at the exit code, sets a deadline, or keeps the console quiet.

## Main definitions

* `Ending` — how a body ends, and its exit code
* `Body` — what runs, and `Body.Outcome`, what comes of it
* `Body.expecting`, `Body.within`, `Body.quietly` — bodies around bodies

## Main results

* `quiet_quietly` — whatever a quiet body does, the console is as loud after it as before
-/

namespace Junction.Grading

/-- How a body ends. -/
inductive Ending where
  /-- It returns. -/
  | returned
  /-- It exits with a code. -/
  | exited (code : Int)
  /-- It panics. -/
  | panicked
deriving DecidableEq, Repr, Inhabited

/-- The exit code of the thread on which a body runs. -/
def Ending.exitCode : Ending → Int
  | returned => 0
  | exited code => code
  | panicked => -1

/-- What comes of a body. -/
structure Body.Outcome where
  /-- The console after it. -/
  console : Console
  /-- How it has ended. -/
  ending : Ending
  /-- How many milliseconds it has taken. -/
  elapsed : Nat := 0
deriving DecidableEq, Repr, Inhabited

/-- What runs on the thread of a test. -/
structure Body where
  /-- The run of the body, from the console before it. -/
  run : Console → Body.Outcome

namespace Body

/-! ### Simple bodies -/

/-- A body that ends at once. -/
def ending (e : Ending) : Body := ⟨fun c => ⟨c, e, 0⟩⟩

/-- A body that changes the console and returns. -/
def writing (f : Console → Console) : Body := ⟨fun c => ⟨f c, .returned, 0⟩⟩

/-- A body that sleeps for some milliseconds and returns. -/
def sleeping (millis : Nat) : Body := ⟨fun c => ⟨c, .returned, millis⟩⟩

/-- A body that returns if a check holds, and panics otherwise. -/
def checking (check : Console → Console × Bool) : Body where
  run c :=
    let (c, holds) := check c
    ⟨c, if holds then .returned else .panicked, 0⟩

/-- One body after the other; the second one runs only if the first one returns. -/
def andThen (first second : Body) : Body where
  run c :=
    let o := first.run c
    match o.ending with
    | .returned =>
      let o' := second.run o.console
      { o' with elapsed := o.elapsed + o'.elapsed }
    | _ => o

/-! ### Bodies around bodies -/

/-- Runs a body on another thread, and panics unless it ends with the expected exit code. -/
def expecting (code : Int) (b : Body) : Body where
  run c :=
    let o := b.run c
    { o with ending := if o.ending.exitCode = code then .returned else .panicked }

/-- Runs a body on another thread and waits for it some seconds at most. A body that is in time
passes its exit code on; over one that is late this one panics, and what the late one writes is not
seen. -/
def within (seconds : Nat) (b : Body) : Body where
  run c :=
    let o := b.run c
    if o.elapsed ≤ 1000 * seconds then
      { o with ending := if o.ending.exitCode = 0 then .returned else .exited o.ending.exitCode }
    -- The late body is left behind on its thread.
    else ⟨c, .panicked, 1000 * seconds⟩

/-- Runs a body with a quiet console. However it ends, the console is then as before. -/
def quietly (b : Body) : Body where
  run c :=
    let (previous, c) := c.hush true
    let o := b.run c
    { o with console := (o.console.hush previous).2 }

theorem quiet_quietly (b : Body) (c : Console) : (b.quietly.run c).console.quiet = c.quiet := rfl

end Body

end Junction.Grading
