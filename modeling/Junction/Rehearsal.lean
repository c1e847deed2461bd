import Junction.Scene
import Junction.ThreadName

/-!
# Rehearsals

A rehearsal plays through the work on one site, one operation at a time. After each operation
everybody who works on the site goes on until all have ended or are blocked; only then the next
operation starts. So each operation has one answer, whatever the order of the steps in between.

An operation that may block runs as a call in the background, and its end may be reported with a
later operation. A task under a name that no thread can have breaks the rehearsal off: no operation
is performed after that.

## Main definitions

* `Rehearsal.Operation` — what can be asked for
* `Rehearsal.Answer`, `Rehearsal.Round` — the answer to an operation, and all that there is to see
  after it
* `Rehearsal.perform`, `Rehearsal.playAll` — an operation, and a list of them
* `Rehearsal.play` — a list of operations, unless one of them breaks the rehearsal off
-/

namespace Junction

namespace Rehearsal

/-- What can be asked for. -/
inductive Operation where
  /-- Reserve a route. -/
  | reserve (v : VehicleId) (r : Route)
  /-- Take a segment if it is free. -/
  | tryAcquire (s : Segment) (v : VehicleId)
  /-- Claim a segment, in the background. -/
  | acquire (s : Segment) (v : VehicleId)
  /-- Mark a vehicle as inside. -/
  | enter (v : VehicleId) (r : Route)
  /-- Ask whether a vehicle has ever been inside. -/
  | hasEntered (v : VehicleId)
  /-- Drop the reservation of a ticket. -/
  | cancel (v : VehicleId) (r : Route)
  /-- Ask for the holder of a segment. -/
  | holder (s : Segment)
  /-- Release a route. After each freed segment everybody goes on until all are blocked; then an
  exit is logged if `logged` says so; and if the segment is in `interrupts`, the operations given
  for it are performed before the release goes on. -/
  | release (v : VehicleId) (r : Route) (logged : Bool) (interrupts : Route)
      (during : Segment → List Operation)
  /-- Put a vehicle into the waiting zone. -/
  | enqueue (spec : VehicleSpec)
  /-- Move the waiting zones into the levels. -/
  | consume
  /-- Remove everybody from the queue. -/
  | drain
  /-- Let in the first vehicle whose route lies in the given one or, if none is given, can be
  reserved. -/
  | letIn (free : Option Route)
  /-- Arrive. -/
  | arrive (spec : VehicleSpec)
  /-- Reject a vehicle. -/
  | reject (spec : VehicleSpec)
  /-- Start the life of a vehicle, in the background. -/
  | spawn (spec : VehicleSpec)
  /-- Start a task that panics, in the background. -/
  | panic (name : String)
  /-- Let a known vehicle sleep until its wake, in the background. -/
  | sleep (v : VehicleId)
  /-- Wake a known vehicle. -/
  | wake (v : VehicleId)
  /-- Log an event. -/
  | record (v : VehicleId) (kind : Event.Kind)
  /-- Acknowledge a grant. -/
  | acknowledge
  /-- Take an acknowledgment, if there is one. -/
  | takeAcknowledgment
  /-- Count a vehicle that has crossed. -/
  | complete
  /-- Abort the run. -/
  | abort (fault : Fault)
  /-- Start the scheduler. -/
  | startScheduler
  /-- Conclude the run. -/
  | conclude
  /-- Conclude the run and look for the first event of a vehicle of a certain kind. -/
  | find (v : VehicleId) (p : Event.Kind → Bool)
  /-- Conclude the run and look for the last event of a vehicle of a certain kind. -/
  | findLast (v : VehicleId) (p : Event.Kind → Bool)
  /-- Conclude the run and list the events of a vehicle. -/
  | eventsOf (v : VehicleId)

instance : Inhabited Operation := ⟨.consume⟩

/-- A call in the background. -/
inductive Call where
  /-- The claim of a segment. -/
  | acquire
  /-- The life of a vehicle. -/
  | spawn
  /-- The sleep of a vehicle. -/
  | sleep (v : VehicleId)
  /-- A task that panics. -/
  | panic
deriving DecidableEq, Repr

/-- The name of a kind of call. -/
def Call.name : Call → String
  | acquire => "acquire"
  | spawn => "spawn"
  | sleep _ => "sleep"
  | panic => "panic"

/-- The exit code of the thread of a call that has ended. -/
def Call.exitCode : Call → Int
  | panic => -1
  | _ => 0

/-- A call that has ended, with its fault if it has failed. -/
structure EndedCall where
  /-- The call. -/
  call : Call
  /-- Its fault, if it has failed. -/
  failure : Option Fault
deriving DecidableEq, Repr

mutual

/-- The answer to an operation. -/
inductive Answer where
  /-- The operation is done. -/
  | done
  /-- The operation has failed. -/
  | failed (fault : Fault)
  /-- Yes or no. -/
  | verdict (yes : Bool)
  /-- A ticket, if there is one. -/
  | ticket (ticket : Option Ticket)
  /-- A vehicle, if there is one. -/
  | holder (v : Option VehicleId)
  /-- The segments that a release has freed, with the rounds that were played after each, and its
  fault if it has failed. -/
  | released (exits : List (Segment × Option (List Round))) (failure : Option Fault)
  /-- A number of vehicles. -/
  | moved (count : Nat)
  /-- The vehicles that were removed. -/
  | drained (vehicles : List VehicleId)
  /-- The vehicles asked about, the one let in, and the first error. -/
  | admission (asked : List VehicleId) (admitted : Option Vehicle) (fault : Option Fault)
  /-- A call that has ended at once. -/
  | returned (call : EndedCall)
  /-- A call that is blocked. -/
  | blocked
  /-- The report of the run. -/
  | report (report : Report)
  /-- An event, if there is one. -/
  | event (event : Option Event)
  /-- The events of a vehicle. -/
  | events (events : List Event)

/-- All that there is to see after an operation: its answer, the earlier calls that have ended
meanwhile, the scene, and the events and lines that are new since the round before. -/
inductive Round where
  /-- The round with all its parts. -/
  | mk (answer : Answer) (ended : List EndedCall) (scene : Scene) (events : List Event)
      (lines : List String)

end

end Rehearsal

/-- A rehearsal between two operations. -/
structure Rehearsal where
  /-- The site and everybody who works on it. -/
  scene : Scene
  /-- The latest vehicle under each number. -/
  known : Roster Vehicle := .empty
  /-- The number of wake channels given out. -/
  channels : Nat := 0
  /-- The calls that have not ended, each with the number of its task. -/
  pending : List (Nat × Rehearsal.Call) := []
  /-- How many events earlier rounds have shown. -/
  shownEvents : Nat := 0
  /-- How many entries of the console earlier rounds have shown. -/
  shownEntries : Nat := 0
  /-- The name that has broken the rehearsal off, if one has. -/
  refused : Option String := none
deriving Inhabited

namespace Rehearsal

/-- A rehearsal on a fresh site. -/
def start (config : Config) (total : Nat) (console : Console) : Rehearsal where
  scene := { site := .start config total console, supervised := false }

/-- The site of a rehearsal. -/
def site (h : Rehearsal) : Site := h.scene.site

/-- A rehearsal with a changed site. -/
def onSite (h : Rehearsal) (f : Site → Site) : Rehearsal :=
  { h with scene := { h.scene with site := f h.site } }

/-- Whether the rehearsal is broken off. -/
def isBrokenOff (h : Rehearsal) : Bool := h.refused.isSome

/-- Makes a vehicle known under its number. -/
def learn (h : Rehearsal) (v : Vehicle) : Rehearsal := { h with known := h.known.insert v.id v }

/-- A timeout shorter than this always runs out before the next operation. -/
def shortTimeout : Nat := 1000000000

/-- How often the clock may run out before the next operation. -/
def patience (h : Rehearsal) : Nat :=
  if h.site.config.grantTimeout < shortTimeout then h.site.config.grantRetries else 0

/-- Everybody goes on until all have ended or are blocked. -/
def settle (h : Rehearsal) : Rehearsal :=
  { h with scene := h.scene.settleWithClock h.patience }

/-- Starts a task. -/
def launch (h : Rehearsal) (task : Task) : Rehearsal × Nat :=
  let (scene, i) := h.scene.launch task
  ({ h with scene }, i)

/-- Runs a task to its end, alone. -/
def call (h : Rehearsal) (task : Task) : Rehearsal × Option (Except Fault Bool) :=
  let (h, i) := h.launch task
  let scene := h.scene.finish i
  ({ h with scene }, (scene.tasks.get i).outcome?)

/-- The vehicle that a description stands for, with a channel of its own. -/
def vehicle? (h : Rehearsal) (spec : VehicleSpec) : Option (Rehearsal × Vehicle) :=
  (Vehicle.ofSpec? spec h.channels).map fun v => ({ h with channels := h.channels + 1 }, v)

/-- The fault of a result. -/
def failure? {α : Type} : Except Violation α → Option Fault
  | .ok _ => none
  | .error violation => some (.protocolViolation violation)

/-- What an operation comes to before everybody goes on: an answer, or a call in the background. -/
inductive Reply where
  /-- The answer is known. -/
  | now (answer : Answer)
  /-- The answer is that of the task with a number. -/
  | later (i : Nat)

/-- Starts a call in the background. -/
def background (h : Rehearsal) (call : Call) (task : Task) : Rehearsal × Reply :=
  let (h, i) := h.launch task
  ({ h with pending := h.pending ++ [(i, call)] }, .later i)

/-- The calls that have ended, each with the number of its task. -/
def endedCalls (h : Rehearsal) : List (Nat × EndedCall) :=
  h.pending.filterMap fun (i, call) =>
    (h.scene.tasks.get i).outcome?.map fun
      | .ok _ => (i, ⟨call, none⟩)
      | .error fault => (i, ⟨call, some fault⟩)

/-- Ends a round: everybody goes on until all are blocked, and what is new is collected. -/
def endRound (h : Rehearsal) (reply : Reply) : Rehearsal × Round :=
  let h := h.settle
  let ended := h.endedCalls
  let own : Option Nat :=
    match reply with
    | .now _ => none
    | .later i => some i
  let answer :=
    match reply with
    | .now answer => answer
    | .later i =>
      match ended.find? (·.1 == i) with
      | some (_, call) => .returned call
      | none => .blocked
  let events := h.site.events.drop h.shownEvents
  let entries := h.site.console.entries.drop h.shownEntries
  let lines := Console.linesOf (String.join (entries.map Console.Entry.text))
  ({ h with
      pending := h.pending.filter fun (i, _) => !ended.any (·.1 == i)
      shownEvents := h.site.events.length
      shownEntries := h.site.console.entries.length },
    .mk answer ((ended.filter fun (i, _) => own != some i).map (·.2)) h.scene events lines)

/-! ### Operations that play no rounds of their own -/

/-- Concludes the run and answers from its report. -/
def answerFromReport (h : Rehearsal) (f : Report → Answer) : Rehearsal × Answer :=
  let (site, result) := h.site.conclude
  (h.onSite fun _ => site,
    match result with
    | .ok report => f report
    | .error fault => .failed fault)

/-- An operation on the table that answers with a result. -/
def onTable {α : Type} (h : Rehearsal) (result : SegmentTable × Except Violation α)
    (f : α → Answer) : Rehearsal × Answer :=
  (h.onSite (·.withTable result.1),
    match result.2 with
    | .ok a => f a
    | .error violation => .failed (.protocolViolation violation))

/-- Lets in the first vehicle whose route lies in the given one. -/
def letInFree (h : Rehearsal) (free : Route) : Rehearsal × Answer :=
  let fits (v : Vehicle) (asked : List VehicleId) : Option Unit × List VehicleId :=
    (if free.covers v.route then some () else none, asked ++ [v.id])
  let (queue, admitted, asked) := h.site.queue.admitFirst fits []
  let h := h.onSite (·.withQueue queue)
  match admitted with
  | some (v, ()) => (h.learn v, .admission asked (some v) none)
  | none => (h, .admission asked none none)

/-- Lets in the first vehicle whose route can be reserved; an error counts as a refusal, and the
first one is kept. -/
def letInReserving (h : Rehearsal) : Rehearsal × Answer :=
  let fits (v : Vehicle) (state : SegmentTable × List VehicleId × Option Violation) :
      Option Ticket × SegmentTable × List VehicleId × Option Violation :=
    let (table, asked, fault) := state
    match table.reserve v.id v.route with
    | (table, .ok ticket) => (ticket, table, asked ++ [v.id], fault)
    | (table, .error violation) => (none, table, asked ++ [v.id], fault.or (some violation))
  let (queue, admitted, table, asked, fault) :=
    h.site.queue.admitFirst fits (h.site.table, [], none)
  let h := h.onSite fun x => (x.withQueue queue).withTable table
  let fault := fault.map Fault.protocolViolation
  match admitted with
  | some (v, _) => (h.learn v, .admission asked (some v) fault)
  | none => (h, .admission asked none fault)

/-- Removes everybody from the queue. -/
def drainQueue (h : Rehearsal) : Rehearsal × Answer :=
  let (queue, drained) := h.site.queue.drain
  let h := h.onSite (·.withQueue queue)
  (drained.foldl learn h, .drained (drained.map (·.id)))

/-- A vehicle arrives. -/
def arriveNow (h : Rehearsal) (spec : VehicleSpec) : Rehearsal × Answer :=
  match h.vehicle? spec with
  | none => (h, .failed .invalidArgument)
  | some (h, v) =>
    match (h.learn v).call (.arrive v .lock) with
    | (h, some (.ok joined)) => (h, .verdict joined)
    | (h, some (.error fault)) => (h, .failed fault)
    | (h, none) => (h, .blocked)

/-- A vehicle goes into the waiting zone. -/
def enqueueNow (h : Rehearsal) (spec : VehicleSpec) : Rehearsal × Answer :=
  match h.vehicle? spec with
  | none => (h, .failed .invalidArgument)
  | some (h, v) => ((h.learn v).onSite fun x => x.withQueue (x.queue.enqueue v), .done)

/-! ### All operations -/

mutual

/-- Performs an operation, before everybody goes on. -/
def perform (h : Rehearsal) : Operation → Rehearsal × Reply
  | .reserve v r =>
    let (h, answer) := h.onTable (h.site.table.reserve v r) .ticket
    (h, .now answer)
  | .tryAcquire s v =>
    let (h, answer) := h.onTable (h.site.table.tryAcquire s v) .verdict
    (h, .now answer)
  | .acquire s v => h.background .acquire (.claim s v .check)
  | .enter v r =>
    let (h, answer) := h.onTable (h.site.table.enter v r) fun () => .done
    (h, .now answer)
  | .hasEntered v => (h, .now (.verdict (h.site.table.hasEntered v)))
  | .cancel v r => (h.onSite fun x => x.withTable (x.table.cancel ⟨v, r⟩), .now .done)
  | .holder s => (h, .now (.holder (h.site.table.ledger.occupancy.holder s)))
  | .release v r logged interrupts during =>
    let onRelease (s : Segment)
        (state : SegmentTable × Rehearsal × List (Segment × Option (List Round))) :
        SegmentTable × Rehearsal × List (Segment × Option (List Round)) :=
      let (table, h, exits) := state
      -- A blocked claim of the freed segment takes it now, before the release goes on.
      let h := (h.onSite (·.withTable table)).settle
      let h := if logged then h.onSite (·.record v (.exit s)) else h
      let (h, rounds) := if s ∈ interrupts then
          let (h, rounds) := playAll h (during s)
          (h, some rounds)
        else (h, none)
      (h.site.table, h, exits ++ [(s, rounds)])
    let ((table, h, exits), result) :=
      SegmentTable.release onRelease r v (h.site.table, h, [])
    (h.onSite (·.withTable table), .now (.released exits (failure? result)))
  | .enqueue spec =>
    let (h, answer) := h.enqueueNow spec
    (h, .now answer)
  | .consume =>
    let (queue, count) := h.site.queue.consume
    (h.onSite (·.withQueue queue), .now (.moved count))
  | .drain =>
    let (h, answer) := h.drainQueue
    (h, .now answer)
  | .letIn (some free) =>
    let (h, answer) := h.letInFree free
    (h, .now answer)
  | .letIn none =>
    let (h, answer) := h.letInReserving
    (h, .now answer)
  | .arrive spec =>
    let (h, answer) := h.arriveNow spec
    (h, .now answer)
  | .reject spec => ((h.call (.reject spec .log)).1, .now .done)
  | .spawn spec =>
    let h' := { h with channels := h.channels + 1 }
    h'.background .spawn (.life (.start spec h.channels))
  | .panic name =>
    if ThreadName.isAllowed name then
      h.background .panic (.abort (.raise (.taskPanicked name)))
    else ({ h with refused := some name }, .now .done)
  | .sleep v =>
    match h.known.get? v with
    | some v => h.background (.sleep v.id) (.sleep v)
    | none => (h, .now (.failed .invalidArgument))
  | .wake v =>
    match h.known.get? v with
    | some v => (h.onSite (·.wake v.channel), .now .done)
    | none => (h, .now (.failed .invalidArgument))
  | .record v kind => (h.onSite (·.record v kind), .now .done)
  | .acknowledge => (h.onSite Site.acknowledge, .now .done)
  | .takeAcknowledgment =>
    match h.site.takeAck? with
    | some x => (h.onSite fun _ => x, .now (.verdict true))
    | none => (h, .now (.verdict false))
  | .complete => ((h.call (.complete .count)).1, .now .done)
  | .abort fault => ((h.call (.abort (.raise fault))).1, .now .done)
  | .startScheduler =>
    ({ h with scene := { h.scene with scheduler := some (.start h.site) } }, .now .done)
  | .conclude =>
    let (h, answer) := h.answerFromReport .report
    (h, .now answer)
  | .find v p =>
    let (h, answer) := h.answerFromReport fun r => .event (r.find? v p)
    (h, .now answer)
  | .findLast v p =>
    let (h, answer) := h.answerFromReport fun r => .event (r.findLast? v p)
    (h, .now answer)
  | .eventsOf v =>
    let (h, answer) := h.answerFromReport fun r => .events (r.eventsOf v)
    (h, .now answer)

/-- Performs operations one after the other, each as a round of its own, until the rehearsal is
broken off. -/
def playAll (h : Rehearsal) : List Operation → Rehearsal × List Round
  | [] => (h, [])
  | operation :: rest =>
    if h.isBrokenOff then (h, [])
    else
      let (h, reply) := perform h operation
      let (h, round) := h.endRound reply
      let (h, rounds) := playAll h rest
      (h, round :: rounds)

end

/-- Performs operations one after the other; the name that breaks the rehearsal off is an error. -/
def play (h : Rehearsal) (operations : List Operation) :
    Except String (Rehearsal × List Round) :=
  let (h, rounds) := h.playAll operations
  match h.refused with
  | some name => .error name
  | none => .ok (h, rounds)

/-- The number of calls that are still blocked. -/
def blockedCalls (h : Rehearsal) : Nat := h.pending.length

end Rehearsal

end Junction
