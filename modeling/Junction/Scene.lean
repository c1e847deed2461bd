import Junction.Life
import Junction.Scheduler
import Junction.Traffic

/-!
# Scenes

A scene is a site together with everybody who works on it: possibly a scheduler, and any number of
tasks. The steps of a scene are the steps of its members, in any order.

A run puts a scheduler and one life for each vehicle on a fresh site. `Scene.settle` takes steps in
one particular order until nobody can go on.

## Main definitions

* `Task` — what a member other than the scheduler does
* `Scene`, `Scene.step?`, `Scene.Step` — the members of a site, their steps, and the relation
  between a scene and each scene one step later
* `Scene.settle` — steps until everybody has ended or is blocked
* `Scene.ofSpecs`, `Config.run` — the scene of a run, and a whole run
-/

namespace Junction

/-- What a member of a scene other than the scheduler does. -/
inductive Task where
  /-- The life of a vehicle. -/
  | life (point : Life)
  /-- An arrival alone. -/
  | arrive (v : Vehicle) (point : Arrival)
  /-- A rejection alone. -/
  | reject (spec : VehicleSpec) (point : Rejection)
  /-- A completion alone. -/
  | complete (point : Completion)
  /-- An abort. -/
  | abort (point : Abort)
  /-- The claim of one segment. -/
  | claim (s : Segment) (v : VehicleId) (point : Claim)
  /-- The sleep of a vehicle until its wake. -/
  | sleep (v : Vehicle)
  /-- Nothing more: the task has ended well, an arrival with the news whether the vehicle joined the
  queue. -/
  | ended (joined : Bool)
  /-- Nothing more: the task has ended with a fault. -/
  | failed (fault : Fault)
deriving DecidableEq

instance : Inhabited Task := ⟨.ended true⟩

namespace Task

/-- A step of a procedure as a step of a task. -/
def ofProgress {π ρ : Type} (inner : π → Task) (after : ρ → Task) :
    Progress π ρ → Option (Site × Task)
  | .blocked => none
  | .next x point => some (x, inner point)
  | .done x result => some (x, after result)

/-- A step of a task, if one is possible. -/
def step? (supervised : Bool) (x : Site) : Task → Option (Site × Task)
  | life point => ofProgress life (fun () => ended true) (point.step supervised x)
  | arrive v point => ofProgress (arrive v) ended (point.step v x)
  | reject spec point => ofProgress (reject spec) (fun () => ended true) (point.step spec x)
  | complete point => ofProgress complete (fun () => ended true) (point.step x)
  | abort point => ofProgress abort (fun () => ended true) (point.step x)
  | claim s v point =>
    ofProgress (claim s v)
      (fun
        | .ok () => ended true
        | .error violation => failed (.protocolViolation violation))
      (point.step s v x)
  | sleep v => (x.takeWake? v.channel).map fun x => (x, ended true)
  | ended _ | failed _ => none

/-- How a task has ended, if it has: with a fault or, in the case of an arrival, with the news
whether the vehicle joined the queue. -/
def outcome? : Task → Option (Except Fault Bool)
  | life (.ended none) => some (.ok true)
  | life (.ended (some fault)) => some (.error fault)
  | ended joined => some (.ok joined)
  | failed fault => some (.error fault)
  | _ => none

end Task

/-- A site and everybody who works on it. -/
structure Scene where
  /-- The shared state. -/
  site : Site
  /-- The scheduler, if it was started. -/
  scheduler : Option Scheduler := none
  /-- The other members. -/
  tasks : Table Task := {}
  /-- Whether the failure of a vehicle or of the scheduler aborts the run. -/
  supervised : Bool
deriving DecidableEq, Inhabited

namespace Scene

/-- Which member takes a step, or that time runs out for the scheduler. -/
inductive Actor where
  /-- The scheduler. -/
  | scheduler
  /-- The task with a number. -/
  | task (i : Nat)
  /-- The clock: the scheduler's wait for an acknowledgment ends. -/
  | clock
deriving DecidableEq, Repr

/-- The scene after a step of an actor, if the actor can take one. -/
def step? (e : Scene) : Actor → Option Scene
  | .scheduler =>
    e.scheduler.bind fun c =>
      (c.step? e.supervised e.site).map fun (site, c) => { e with site, scheduler := some c }
  | .task i =>
    ((e.tasks.get i).step? e.supervised e.site).map fun (site, task) =>
      { e with site, tasks := e.tasks.set i task }
  | .clock =>
    e.scheduler.bind fun c =>
      (c.timeout? e.site).map fun (site, c) => { e with site, scheduler := some c }

/-- One scene follows another by a step of some actor. -/
def Step (e e' : Scene) : Prop := ∃ actor, e.step? actor = some e'

/-- The scene with another task, and the number of the task. -/
def launch (e : Scene) (task : Task) : Scene × Nat :=
  ({ e with tasks := e.tasks.push task }, e.tasks.size)

/-! ### Steps in one particular order -/

/-- The step of the first of some actors that can take one. -/
def firstStep? (e : Scene) (actors : List Actor) : Option Scene := actors.findSome? e.step?

/-- Steps of the first of some actors that can take one, again and again, but not more than a given
number. -/
def runWith (actors : List Actor) : Nat → Scene → Scene
  | 0, e => e
  | limit + 1, e =>
    match e.firstStep? actors with
    | none => e
    | some e => runWith actors limit e

/-- All members: the scheduler, then the tasks in the order of their numbers. -/
def members (e : Scene) : List Actor :=
  .scheduler :: (List.range e.tasks.size).map .task

/-- More steps than the members can take without the clock. The scheduler scans at most once for
each notice and each vehicle that waits or lives, and a scan, a life and an abort take a number of
steps that grows with the number of vehicles at most. -/
def budget (e : Scene) : Nat :=
  let size := e.tasks.size + e.site.queue.size + 40
  8 * size * size

/-- Steps of the members until everybody has ended or is blocked. -/
def settle (e : Scene) : Scene := runWith e.members e.budget e

/-- Steps of one task until it has ended or is blocked. -/
def finish (e : Scene) (i : Nat) : Scene := runWith [.task i] e.budget e

/-- Steps of the members and, whenever they are all blocked, of the clock, which runs out a given
number of times at most. -/
def settleWithClock : Nat → Scene → Scene
  | 0, e => e.settle
  | limit + 1, e =>
    let e := e.settle
    match e.step? .clock with
    | none => e
    | some e => settleWithClock limit e

/-! ### Runs -/

/-- The scene of a run before its first step. Every vehicle is woken through the channel with its
own number. -/
def ofSpecs (x : Site) (specs : List VehicleSpec) : Scene where
  site := x
  scheduler := some (.start x)
  tasks := ⟨specs.map fun spec => .life (.start spec spec.id)⟩
  supervised := true

end Scene

/-- The message at the start of a run. -/
def Config.startMessage (c : Config) (vehicles : Nat) : String :=
  s!"Intersection: {vehicles} vehicles, seed 0x{Text.hex c.seed.toNat}."

/-- A whole run: the configuration is validated, the traffic is drawn, all tasks run to their ends,
and the run is concluded. -/
def Config.run (c : Config) (console : Console) : Console × Except RunProblem Report :=
  match c.validate with
  | .error fault => (console, .error (.fault fault))
  | .ok () =>
    match c.traffic with
    | .error problem => (console, .error problem)
    | .ok specs =>
      let console := console.info (c.startMessage specs.length)
      let e := (Scene.ofSpecs (.start c specs.length console) specs).settleWithClock c.grantRetries
      let (x, result) := e.site.conclude
      (x.console, result.mapError .fault)

end Junction
