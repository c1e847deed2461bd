import Junction.Site

/-!
# Replays

An event log can be played again without the junction: who is inside which segment follows from the
events alone. The replay stops at the first event that could not have happened if segments exclude
their vehicles from one another.

## Main definitions

* `Replay`, `Replay.step?` — who was granted what and who is inside, and what an event changes
* `Replay.ofEvents?` — the replay of a whole log
* `Report.isExclusive` — whether the log of a report can be replayed and leaves nobody inside

## Main results

* `Replay.play?_append` — a log is replayed part by part
-/

namespace Junction

/-- What the events so far tell. -/
structure Replay where
  /-- The vehicle inside each segment. -/
  inside : Trio Segment (Option VehicleId) := .const none
  /-- The routes that were granted. -/
  granted : Roster Route := .empty

namespace Replay

/-- The replay after one more event. A vehicle is granted one route only, enters only free segments
of that route, and exits only segments that it is inside. -/
def step? (p : Replay) (e : Event) : Option Replay :=
  match e.kind with
  | .grant r _ =>
    if (p.granted.get? e.vehicle).isSome then none
    else some { p with granted := p.granted.insert e.vehicle r }
  | .enter s =>
    match p.granted.get? e.vehicle, p.inside.get s with
    | some r, none =>
      if s ∈ r then some { p with inside := p.inside.set s (some e.vehicle) } else none
    | _, _ => none
  | .exit s =>
    if p.inside.get s = some e.vehicle then some { p with inside := p.inside.set s none } else none
  | _ => some p

/-- The replay after some more events. -/
def play? (p : Replay) : List Event → Option Replay
  | [] => some p
  | e :: rest => (p.step? e).bind fun p => p.play? rest

/-- The replay of a log from its start. -/
def ofEvents? (events : List Event) : Option Replay := play? {} events

theorem play?_append (p : Replay) (before after : List Event) :
    p.play? (before ++ after) = (p.play? before).bind fun p => p.play? after := by
  induction before generalizing p with
  | nil => rfl
  | cons e rest ih => simp only [List.cons_append, play?, ih, Option.bind_assoc]

end Replay

/-- Whether the log of a report can be replayed, nobody being inside at its end, and its books are
clear and balanced. -/
def Report.isExclusive (r : Report) : Bool :=
  match Replay.ofEvents? r.events with
  | none => false
  | some p => p.inside.toList.all Option.isNone && r.occupancy.isClear && r.occupancy.isBalanced

end Junction
