import Mathlib.Data.List.Forall2
import Junction.Proofs.Volumes

/-!
# Scripts at different volumes

The operations of a script are answered the same at all volumes. The only trace of the volume in
what a rehearsal shows is in the lines: each run shows its part of the same new entries.

A release runs operations of its own while it goes on, and shows their rounds in its answer. So
answers and rounds are compared together, and operations and scripts are, too.

## Main definitions

* `Rehearsal.Alike` — rehearsals that differ in the volume only
* `Rehearsal.Answer.Alike`, `Rehearsal.Round.Alike` — what is seen of such rehearsals
* `Rehearsal.rehearse`, `Rehearsal.improvise` — a script at a volume, with rounds after each
  operation or with steps in any order

## Main results

* `alike_perform`, `alike_playAll` — operations and scripts lead from alike rehearsals to alike ones
* `Rehearsal.alike_at_all_volumes` — the volume of a run changes nothing but what is written
-/

namespace Junction

namespace Rehearsal

/-- Whether an answer shows rounds that were played while the operation went on. -/
def Answer.showsRounds : Answer → Bool
  | .released _ _ => true
  | _ => false

mutual

/-- Two answers are the same, up to the rounds they show. -/
inductive Answer.Alike (a b : Volume) : Answer → Answer → Prop
  | same {answer : Answer} (h : answer.showsRounds = false) : Answer.Alike a b answer answer
  | released {exits exits' : List (Segment × Option (List Round))}
      (h : List.Forall₂ (Exit.Alike a b) exits exits') (failure : Option Fault) :
      Answer.Alike a b (.released exits failure) (.released exits' failure)

/-- The same segment was freed, and then the rounds were alike. -/
inductive Exit.Alike (a b : Volume) :
    Segment × Option (List Round) → Segment × Option (List Round) → Prop
  | silent (s : Segment) : Exit.Alike a b (s, none) (s, none)
  | played (s : Segment) {rounds rounds' : List Round}
      (h : List.Forall₂ (Round.Alike a b) rounds rounds') :
      Exit.Alike a b (s, some rounds) (s, some rounds')

/-- There is the same to see after two operations, but of the new entries of the transcript, each
run shows the lines of its part. -/
inductive Round.Alike (a b : Volume) : Round → Round → Prop
  | mk {answer answer' : Answer} (h : answer.Alike a b answer') (ended : List EndedCall)
      {e e' : Scene} {heard : List Console.Entry} (scene : e.Alike a b heard e')
      (events : List Event) (new : List Console.Entry) :
      Round.Alike a b
        (.mk answer ended e events (Console.linesOf (String.join ((a.part new).map (·.text)))))
        (.mk answer' ended e' events (Console.linesOf (String.join ((b.part new).map (·.text)))))

end

/-- Two rehearsals are alike if their scenes are, if the same vehicles and calls are known, and if
both have shown the same events and the entries heard so far. -/
inductive Alike (a b : Volume) (heard : List Console.Entry) : Rehearsal → Rehearsal → Prop
  | mk {e e' : Scene} (scene : e.Alike a b heard e') (known : Roster Vehicle) (channels : Nat)
      (pending : List (Nat × Call)) (shownEvents : Nat) (refused : Option String) :
      Alike a b heard ⟨e, known, channels, pending, shownEvents, (a.part heard).length, refused⟩
        ⟨e', known, channels, pending, shownEvents, (b.part heard).length, refused⟩

/-- Two rehearsals are alike, and what comes with them is the same up to rounds. -/
def AlikeWith (a b : Volume) (heard : List Console.Entry) (p q : Rehearsal × Answer) : Prop :=
  p.1.Alike a b heard q.1 ∧ p.2.Alike a b q.2

/-- What two operations come to is the same up to rounds. -/
inductive Reply.Alike (a b : Volume) : Reply → Reply → Prop
  | now {answer answer' : Answer} (h : answer.Alike a b answer') :
      Reply.Alike a b (.now answer) (.now answer')
  | later (i : Nat) : Reply.Alike a b (.later i) (.later i)

variable {a b : Volume} {heard : List Console.Entry} {h k : Rehearsal}

theorem AlikeWith.reply {p q : Rehearsal × Answer} (h : AlikeWith a b heard p q) :
    p.1.Alike a b heard q.1 ∧ Reply.Alike a b (.now p.2) (.now q.2) :=
  ⟨h.1, .now h.2⟩

namespace Alike

theorem site (hk : h.Alike a b heard k) : h.site.Alike a b heard k.site := by
  obtain ⟨⟨site, scheduler, tasks, supervised⟩, known, channels, pending, shownEvents, refused⟩ :=
    hk
  exact site

theorem onSite (hk : h.Alike a b heard k) (f g : Site → Site)
    (hfg : (f h.site).Alike a b heard (g k.site)) :
    (h.onSite f).Alike a b heard (k.onSite g) := by
  obtain ⟨⟨site, scheduler, tasks, supervised⟩, known, channels, pending, shownEvents, refused⟩ :=
    hk
  exact ⟨⟨hfg, scheduler, tasks, supervised⟩, known, channels, pending, shownEvents, refused⟩

theorem withTable (hk : h.Alike a b heard k) (table : SegmentTable) :
    (h.onSite (·.withTable table)).Alike a b heard (k.onSite (·.withTable table)) :=
  hk.onSite _ _ (hk.site.withTable table)

theorem withQueue (hk : h.Alike a b heard k) (queue : WaitingQueue) :
    (h.onSite (·.withQueue queue)).Alike a b heard (k.onSite (·.withQueue queue)) :=
  hk.onSite _ _ (hk.site.withQueue queue)

theorem settle (hk : h.Alike a b heard k) : h.settle.Alike a b heard k.settle := by
  obtain ⟨scene, known, channels, pending, shownEvents, refused⟩ := hk
  obtain ⟨⟨z, said, rfl, rfl⟩, scheduler, tasks, supervised⟩ := id scene
  exact ⟨scene.settleWithClock _, known, channels, pending, shownEvents, refused⟩

theorem learn (hk : h.Alike a b heard k) (v : Vehicle) :
    (h.learn v).Alike a b heard (k.learn v) := by
  obtain ⟨scene, known, channels, pending, shownEvents, refused⟩ := hk
  exact ⟨scene, known.insert v.id v, channels, pending, shownEvents, refused⟩

/-- The same task is started under the same number. -/
theorem launch (hk : h.Alike a b heard k) (task : Task) :
    (h.launch task).1.Alike a b heard (k.launch task).1 ∧
      (h.launch task).2 = (k.launch task).2 := by
  obtain ⟨⟨site, scheduler, tasks, supervised⟩, known, channels, pending, shownEvents, refused⟩ :=
    hk
  exact ⟨⟨⟨site, scheduler, tasks.push task, supervised⟩, known, channels, pending, shownEvents,
    refused⟩, rfl⟩

theorem call (hk : h.Alike a b heard k) (task : Task) :
    (h.call task).1.Alike a b heard (k.call task).1 ∧ (h.call task).2 = (k.call task).2 := by
  obtain ⟨⟨site, scheduler, tasks, supervised⟩, known, channels, pending, shownEvents, refused⟩ :=
    hk
  have hfinished := Scene.Alike.finish ⟨site, scheduler, tasks.push task, supervised⟩ tasks.size
  refine ⟨⟨hfinished, known, channels, pending, shownEvents, refused⟩, ?_⟩
  simp only [Rehearsal.call, Rehearsal.launch, Scene.launch]
  rw [hfinished.tasks]

theorem background (hk : h.Alike a b heard k) (call : Call) (task : Task) :
    (h.background call task).1.Alike a b heard (k.background call task).1 ∧
      (h.background call task).2.Alike a b (k.background call task).2 := by
  obtain ⟨⟨site, scheduler, tasks, supervised⟩, known, channels, pending, shownEvents, refused⟩ :=
    hk
  exact ⟨⟨⟨site, scheduler, tasks.push task, supervised⟩, known, channels,
    pending ++ [(tasks.size, call)], shownEvents, refused⟩, .later _⟩

theorem now (hk : h.Alike a b heard k) {answer : Answer} (hanswer : answer.showsRounds = false) :
    AlikeWith a b heard (h, answer) (k, answer) :=
  ⟨hk, .same hanswer⟩

theorem wake (hk : h.Alike a b heard k) (channel : Nat) :
    (h.onSite (·.wake channel)).Alike a b heard (k.onSite (·.wake channel)) :=
  hk.onSite _ _ (hk.site.wake channel)

theorem onTable {α : Type} (hk : h.Alike a b heard k)
    {result : SegmentTable × Except Violation α} {f : α → Answer}
    (hf : ∀ value, (f value).showsRounds = false) :
    AlikeWith a b heard (h.onTable result f) (k.onTable result f) := by
  refine ⟨hk.withTable _, ?_⟩
  unfold Rehearsal.onTable
  cases result.2 with
  | ok value => exact .same (hf value)
  | error violation => exact .same rfl

theorem answerFromReport (hk : h.Alike a b heard k) {f : Report → Answer}
    (hf : ∀ report, (f report).showsRounds = false) :
    AlikeWith a b heard (h.answerFromReport f) (k.answerFromReport f) := by
  obtain ⟨hsite, hresult⟩ := hk.site.conclude
  refine ⟨hk.onSite (fun _ => _) (fun _ => _) hsite, ?_⟩
  unfold Rehearsal.answerFromReport
  simp only
  rw [hresult]
  cases k.site.conclude.2 with
  | ok report => exact .same (hf report)
  | error fault => exact .same rfl

theorem letInFree (hk : h.Alike a b heard k) (free : Route) :
    AlikeWith a b heard (h.letInFree free) (k.letInFree free) := by
  have hqueue := hk.site.queue
  unfold Rehearsal.letInFree
  simp only
  rw [hqueue]
  split
  · exact ⟨(hk.withQueue _).learn _, .same rfl⟩
  · exact (hk.withQueue _).now rfl

theorem letInReserving (hk : h.Alike a b heard k) :
    AlikeWith a b heard h.letInReserving k.letInReserving := by
  have hqueue := hk.site.queue
  have htable := hk.site.table
  unfold Rehearsal.letInReserving
  simp only
  rw [hqueue, htable]
  split
  · exact ⟨((hk.withQueue _).withTable _).learn _, .same rfl⟩
  · exact ((hk.withQueue _).withTable _).now rfl

theorem drainQueue (hk : h.Alike a b heard k) :
    AlikeWith a b heard h.drainQueue k.drainQueue := by
  have hlearned (vehicles : List Vehicle) {h k : Rehearsal} (hk : h.Alike a b heard k) :
      (vehicles.foldl Rehearsal.learn h).Alike a b heard (vehicles.foldl Rehearsal.learn k) := by
    induction vehicles generalizing h k with
    | nil => exact hk
    | cons v rest ih => exact ih (hk.learn v)
  have hqueue := hk.site.queue
  unfold Rehearsal.drainQueue
  simp only
  rw [hqueue]
  exact ⟨hlearned _ (hk.withQueue _), .same rfl⟩

/-- A description stands for the same vehicle. -/
theorem vehicle? (hk : h.Alike a b heard k) (spec : VehicleSpec) :
    Option.Rel (fun p q => p.1.Alike a b heard q.1 ∧ p.2 = q.2) (h.vehicle? spec)
      (k.vehicle? spec) := by
  obtain ⟨scene, known, channels, pending, shownEvents, refused⟩ := hk
  unfold Rehearsal.vehicle?
  simp only
  cases Vehicle.ofSpec? spec channels with
  | none => exact .none
  | some v => exact .some ⟨⟨scene, known, channels + 1, pending, shownEvents, refused⟩, rfl⟩

theorem arriveNow (hk : h.Alike a b heard k) (spec : VehicleSpec) :
    AlikeWith a b heard (h.arriveNow spec) (k.arriveNow spec) := by
  have hvehicle := hk.vehicle? spec
  unfold Rehearsal.arriveNow
  generalize h.vehicle? spec = o, k.vehicle? spec = o' at hvehicle ⊢
  cases hvehicle with
  | none => exact hk.now rfl
  | @some p q hpq =>
    obtain ⟨h, v⟩ := p
    obtain ⟨k, _⟩ := q
    obtain ⟨hk, rfl⟩ := hpq
    obtain ⟨hcalled, hresult⟩ := (hk.learn v).call (.arrive v .lock)
    simp only at hcalled hresult ⊢
    generalize (h.learn v).call (.arrive v .lock) = p, (k.learn v).call (.arrive v .lock) = q
      at hcalled hresult ⊢
    obtain ⟨h, result⟩ := p
    obtain ⟨k, _⟩ := q
    cases hresult
    rcases result with _ | (fault | joined)
    · exact hcalled.now rfl
    · exact hcalled.now rfl
    · exact hcalled.now rfl

theorem enqueueNow (hk : h.Alike a b heard k) (spec : VehicleSpec) :
    AlikeWith a b heard (h.enqueueNow spec) (k.enqueueNow spec) := by
  have hvehicle := hk.vehicle? spec
  unfold Rehearsal.enqueueNow
  generalize h.vehicle? spec = o, k.vehicle? spec = o' at hvehicle ⊢
  cases hvehicle with
  | none => exact hk.now rfl
  | @some p q hpq =>
    obtain ⟨h, v⟩ := p
    obtain ⟨k, _⟩ := q
    obtain ⟨hk, rfl⟩ := hpq
    have hlearned := hk.learn v
    refine ⟨hlearned.onSite (fun x => x.withQueue (x.queue.enqueue v))
      (fun x => x.withQueue (x.queue.enqueue v)) ?_, .same rfl⟩
    simp only
    rw [hlearned.site.queue]
    exact hlearned.site.withQueue _

/-- What one round shows is alike, and then more was heard. -/
theorem endRound (hk : h.Alike a b heard k) {reply reply' : Reply}
    (hreply : reply.Alike a b reply') :
    ∃ heard', (h.endRound reply).1.Alike a b heard' (k.endRound reply').1 ∧
      (h.endRound reply).2.Alike a b (k.endRound reply').2 := by
  have hsettled := hk.settle
  unfold Rehearsal.endRound
  generalize h.settle = h, k.settle = k at hsettled ⊢
  -- What was said since the last round is shown in this one, and counts as heard from here on.
  obtain ⟨⟨⟨z, said, rfl, rfl⟩, scheduler, tasks, supervised⟩, known, channels, pending,
    shownEvents, refused⟩ := hsettled
  have hscene : Scene.Alike a b (heard ++ said)
      ⟨z.under a (heard ++ said), scheduler, tasks, supervised⟩
      ⟨z.under b (heard ++ said), scheduler, tasks, supervised⟩ :=
    ⟨⟨z, [], by rw [List.append_nil], by rw [List.append_nil]⟩, scheduler, tasks, supervised⟩
  refine ⟨heard ++ said, ⟨hscene, known, channels, _, _, refused⟩, ?_⟩
  have hnew (c : Volume) : (z.under c (heard ++ said)).console.entries.drop (c.part heard).length =
      c.part said := c.drop_part heard said
  simp only [Rehearsal.site]
  rw [hnew a, hnew b]
  cases hreply with
  | now hanswer => exact ⟨hanswer, _, hscene, _, said⟩
  | later i =>
    refine ⟨?_, _, hscene, _, said⟩
    simp only [Rehearsal.endedCalls]
    split
    · exact .same rfl
    · exact .same rfl

/-- A release comes to the same if its callback does. -/
theorem release (hk : h.Alike a b heard k)
    {f : Segment → SegmentTable × Rehearsal × List (Segment × Option (List Round)) →
      SegmentTable × Rehearsal × List (Segment × Option (List Round))}
    (hf : ∀ (s : Segment) (table : SegmentTable) (heard : List Console.Entry) (h k : Rehearsal)
      (exits exits' : List (Segment × Option (List Round))), h.Alike a b heard k →
      List.Forall₂ (Exit.Alike a b) exits exits' →
      (f s (table, h, exits)).1 = (f s (table, k, exits')).1 ∧
        (∃ heard', (f s (table, h, exits)).2.1.Alike a b heard' (f s (table, k, exits')).2.1) ∧
        List.Forall₂ (Exit.Alike a b) (f s (table, h, exits)).2.2 (f s (table, k, exits')).2.2)
    (r : Route) (v : VehicleId) :
    let released (h : Rehearsal) := SegmentTable.release f r v (h.site.table, h, [])
    ∃ heard',
      ((released h).1.2.1.onSite (·.withTable (released h).1.1)).Alike a b heard'
        ((released k).1.2.1.onSite (·.withTable (released k).1.1)) ∧
      Reply.Alike a b (.now (.released (released h).1.2.2 (failure? (released h).2)))
        (.now (.released (released k).1.2.2 (failure? (released k).2))) := by
  intro released
  -- The two callbacks carry along what they have played so far, which stays alike.
  let R (p q : Rehearsal × List (Segment × Option (List Round))) : Prop :=
    (∃ heard', p.1.Alike a b heard' q.1) ∧ List.Forall₂ (Exit.Alike a b) p.2 q.2
  have hcallback (s : Segment) (table : SegmentTable)
      (p q : Rehearsal × List (Segment × Option (List Round))) (h : R p q) :
      (f s (table, p)).1 = (f s (table, q)).1 ∧ R (f s (table, p)).2 (f s (table, q)).2 := by
    obtain ⟨h, exits⟩ := p
    obtain ⟨k, exits'⟩ := q
    obtain ⟨⟨heard, hk⟩, hexits⟩ := h
    exact hf s table heard h k exits exits' hk hexits
  obtain ⟨htable, ⟨⟨heard', hreleased⟩, hexits⟩, hresult⟩ :=
    SegmentTable.release_alike R hcallback r v h.site.table (p := (h, [])) (q := (k, []))
      ⟨⟨heard, hk⟩, .nil⟩
  simp only [released]
  rw [← hk.site.table, htable, hresult]
  exact ⟨heard', hreleased.withTable _, .now (.released hexits _)⟩

end Alike

mutual

/-- An operation comes to the same. -/
theorem alike_perform (a b : Volume) {heard : List Console.Entry} {h k : Rehearsal}
    (hk : h.Alike a b heard k) (operation : Operation) :
    ∃ heard', (h.perform operation).1.Alike a b heard' (k.perform operation).1 ∧
      (h.perform operation).2.Alike a b (k.perform operation).2 := by
  cases operation with
  | release v r logged interrupts during =>
    simp only [perform]
    refine hk.release ?_ r v
    intro s table heard h k exits exits' hk hexits
    have hfreed := (hk.withTable table).settle
    simp only
    generalize (h.onSite (·.withTable table)).settle = h, (k.onSite (·.withTable table)).settle = k
      at hfreed ⊢
    have hlogged : Alike a b heard (if logged then h.onSite (·.record v (.exit s)) else h)
        (if logged then k.onSite (·.record v (.exit s)) else k) := by
      split
      · exact hfreed.onSite _ _ (hfreed.site.record v (.exit s))
      · exact hfreed
    generalize (if logged then h.onSite (·.record v (.exit s)) else h) = h,
      (if logged then k.onSite (·.record v (.exit s)) else k) = k at hlogged ⊢
    split
    · obtain ⟨heard', hplayed, hrounds⟩ := alike_playAll a b hlogged (during s)
      exact ⟨hplayed.site.table, ⟨heard', hplayed⟩,
        List.rel_append hexits (.cons (.played s hrounds) .nil)⟩
    · exact ⟨hlogged.site.table, ⟨heard, hlogged⟩, List.rel_append hexits (.cons (.silent s) .nil)⟩
  | reserve v r =>
    simp only [perform]
    rw [hk.site.table]
    exact ⟨heard, (hk.onTable fun _ => rfl).reply⟩
  | tryAcquire s v =>
    simp only [perform]
    rw [hk.site.table]
    exact ⟨heard, (hk.onTable fun _ => rfl).reply⟩
  | acquire s v => exact ⟨heard, hk.background _ _⟩
  | enter v r =>
    simp only [perform]
    rw [hk.site.table]
    exact ⟨heard, (hk.onTable fun _ => rfl).reply⟩
  | hasEntered v =>
    simp only [perform]
    rw [hk.site.table]
    exact ⟨heard, (hk.now rfl).reply⟩
  | cancel v r =>
    simp only [perform]
    refine ⟨heard, hk.onSite _ _ ?_, .now (.same rfl)⟩
    rw [hk.site.table]
    exact hk.site.withTable _
  | holder s =>
    simp only [perform]
    rw [hk.site.table]
    exact ⟨heard, (hk.now rfl).reply⟩
  | enqueue spec => exact ⟨heard, (hk.enqueueNow spec).reply⟩
  | consume =>
    simp only [perform]
    rw [hk.site.queue]
    exact ⟨heard, ((hk.withQueue _).now rfl).reply⟩
  | drain => exact ⟨heard, hk.drainQueue.reply⟩
  | letIn free =>
    cases free with
    | some free => exact ⟨heard, (hk.letInFree free).reply⟩
    | none => exact ⟨heard, hk.letInReserving.reply⟩
  | arrive spec => exact ⟨heard, (hk.arriveNow spec).reply⟩
  | reject spec => exact ⟨heard, ((hk.call _).1.now rfl).reply⟩
  | spawn spec =>
    obtain ⟨scene, known, channels, pending, shownEvents, refused⟩ := hk
    exact ⟨heard, Alike.background ⟨scene, known, channels + 1, pending, shownEvents, refused⟩ _ _⟩
  | panic name =>
    simp only [perform]
    split
    · exact ⟨heard, hk.background _ _⟩
    · obtain ⟨scene, known, channels, pending, shownEvents, refused⟩ := hk
      exact ⟨heard, ⟨scene, known, channels, pending, shownEvents, some name⟩, .now (.same rfl)⟩
  | sleep v =>
    obtain ⟨scene, known, channels, pending, shownEvents, refused⟩ := id hk
    simp only [perform]
    split
    · exact ⟨heard, hk.background _ _⟩
    · exact ⟨heard, (hk.now rfl).reply⟩
  | wake v =>
    obtain ⟨scene, known, channels, pending, shownEvents, refused⟩ := id hk
    simp only [perform]
    split
    · exact ⟨heard, ((hk.wake _).now rfl).reply⟩
    · exact ⟨heard, (hk.now rfl).reply⟩
  | record v kind => exact ⟨heard, ((hk.onSite _ _ (hk.site.record v kind)).now rfl).reply⟩
  | acknowledge => exact ⟨heard, ((hk.onSite _ _ hk.site.acknowledge).now rfl).reply⟩
  | takeAcknowledgment =>
    have htaken := hk.site.takeAck?
    simp only [perform]
    generalize h.site.takeAck? = o, k.site.takeAck? = o' at htaken ⊢
    cases htaken with
    | none => exact ⟨heard, (hk.now rfl).reply⟩
    | some site => exact ⟨heard, ((hk.onSite (fun _ => _) (fun _ => _) site).now rfl).reply⟩
  | complete => exact ⟨heard, ((hk.call _).1.now rfl).reply⟩
  | abort fault => exact ⟨heard, ((hk.call _).1.now rfl).reply⟩
  | startScheduler =>
    obtain ⟨⟨⟨z, said, rfl, rfl⟩, scheduler, tasks, supervised⟩, known, channels, pending,
      shownEvents, refused⟩ := hk
    exact ⟨heard, ⟨⟨⟨z, said, rfl, rfl⟩, some (.start z), tasks, supervised⟩, known, channels,
      pending, shownEvents, refused⟩, .now (.same rfl)⟩
  | conclude => exact ⟨heard, (hk.answerFromReport fun _ => rfl).reply⟩
  | find v p => exact ⟨heard, (hk.answerFromReport fun _ => rfl).reply⟩
  | findLast v p => exact ⟨heard, (hk.answerFromReport fun _ => rfl).reply⟩
  | eventsOf v => exact ⟨heard, (hk.answerFromReport fun _ => rfl).reply⟩
termination_by structural operation

/-- A script is answered the same. -/
theorem alike_playAll (a b : Volume) {heard : List Console.Entry} {h k : Rehearsal}
    (hk : h.Alike a b heard k) (operations : List Operation) :
    ∃ heard', (h.playAll operations).1.Alike a b heard' (k.playAll operations).1 ∧
      List.Forall₂ (Round.Alike a b) (h.playAll operations).2 (k.playAll operations).2 := by
  cases operations with
  | nil => exact ⟨heard, hk, .nil⟩
  | cons operation rest =>
    have hbroken : h.isBrokenOff = k.isBrokenOff := by
      obtain ⟨scene, known, channels, pending, shownEvents, refused⟩ := hk
      rfl
    simp only [playAll, hbroken]
    split
    · exact ⟨heard, hk, .nil⟩
    · obtain ⟨_, hperformed, hreply⟩ := alike_perform a b hk operation
      obtain ⟨_, hended, hround⟩ := hperformed.endRound hreply
      obtain ⟨heard', hplayed, hrounds⟩ := alike_playAll a b hended rest
      exact ⟨heard', hplayed, .cons hround hrounds⟩
termination_by structural operations

end

/-! ### Scripts -/

/-- The rehearsal of a script at a volume, on a console on which something was written before. After
each operation everybody goes on until all have ended or are blocked. -/
def rehearse (a : Volume) (config : Config) (total : Nat) (before : List Console.Entry)
    (operations : List Operation) : Rehearsal × List Round :=
  (start { config with verbose := a.verbose } total (a.console before)).playAll operations

/-- An operation, and the members that take a step after it, in their order. -/
structure Turn where
  /-- The operation. -/
  operation : Operation
  /-- The members; whoever is blocked is passed over. -/
  steps : List Scene.Actor

/-- Takes a turn. -/
def take (h : Rehearsal) (turn : Turn) : Rehearsal × Reply :=
  let (h, reply) := h.perform turn.operation
  ({ h with scene := turn.steps.foldl (fun e actor => (e.step? actor).getD e) h.scene }, reply)

/-- Takes turns one after the other. -/
def takeAll (h : Rehearsal) : List Turn → Rehearsal × List Reply
  | [] => (h, [])
  | turn :: rest =>
    let (h, reply) := h.take turn
    let (h, replies) := h.takeAll rest
    (h, reply :: replies)

/-- The turns of a script at a volume. Unlike in a rehearsal, the steps between the operations come
in any order, and an operation may come before all are blocked. -/
def improvise (a : Volume) (config : Config) (total : Nat) (before : List Console.Entry)
    (turns : List Turn) : Rehearsal × List Reply :=
  (start { config with verbose := a.verbose } total (a.console before)).takeAll turns

theorem alike_take (hk : h.Alike a b heard k) (turn : Turn) :
    ∃ heard', (h.take turn).1.Alike a b heard' (k.take turn).1 ∧
      (h.take turn).2.Alike a b (k.take turn).2 := by
  obtain ⟨heard', hperformed, hreply⟩ := alike_perform a b hk turn.operation
  unfold take
  generalize h.perform turn.operation = p, k.perform turn.operation = q at hperformed hreply ⊢
  obtain ⟨h, reply⟩ := p
  obtain ⟨k, reply'⟩ := q
  obtain ⟨scene, known, channels, pending, shownEvents, refused⟩ := hperformed
  exact ⟨heard', ⟨scene.steps turn.steps, known, channels, pending, shownEvents, refused⟩, hreply⟩

theorem alike_takeAll (hk : h.Alike a b heard k) (turns : List Turn) :
    ∃ heard', (h.takeAll turns).1.Alike a b heard' (k.takeAll turns).1 ∧
      List.Forall₂ (Reply.Alike a b) (h.takeAll turns).2 (k.takeAll turns).2 := by
  induction turns generalizing h k heard with
  | nil => exact ⟨heard, hk, .nil⟩
  | cons turn rest ih =>
    obtain ⟨_, htaken, hreply⟩ := alike_take hk turn
    obtain ⟨heard', hrest, hreplies⟩ := ih htaken
    exact ⟨heard', hrest, .cons hreply hreplies⟩

theorem alike_start (a b : Volume) (config : Config) (total : Nat) (before : List Console.Entry) :
    Alike a b [] (start { config with verbose := a.verbose } total (a.console before))
      (start { config with verbose := b.verbose } total (b.console before)) :=
  ⟨⟨⟨.start config total {}, before, rfl, rfl⟩, none, {}, false⟩, .empty, 0, [], 0, none⟩

/-- Alike rehearsals have written their parts of one transcript. -/
theorem Alike.entries (hk : h.Alike a b heard k) :
    ∃ transcript, h.site.console.entries = a.part transcript ∧
      k.site.console.entries = b.part transcript := by
  obtain ⟨z, said, hx, hy⟩ := hk.site
  exact ⟨heard ++ said, by rw [hx]; rfl, by rw [hy]; rfl⟩

/-- The volume of a run changes neither what its operations come to nor what is left afterwards. It
selects what is written: a quiet console drops the entries with a level, a run that is not verbose
drops the debug lines, and all other entries are written as they are and in the same order.

This holds if everybody goes on after each operation until all are blocked, and also if the steps
of the members come in any other order. -/
theorem alike_at_all_volumes (config : Config) (total : Nat) (before : List Console.Entry)
    (operations : List Operation) (turns : List Turn) (a b : Volume) :
    let played (a : Volume) := rehearse a config total before operations
    let taken (a : Volume) := improvise a config total before turns
    let written (h : Rehearsal) := h.site.console.entries
    ((∃ heard, (played a).1.Alike a b heard (played b).1) ∧
      List.Forall₂ (Round.Alike a b) (played a).2 (played b).2) ∧
    ((∃ heard, (taken a).1.Alike a b heard (taken b).1) ∧
      List.Forall₂ (Reply.Alike a b) (taken a).2 (taken b).2) ∧
    (∀ verbose,
      written (played ⟨verbose, true⟩).1 =
        (written (played ⟨verbose, false⟩).1).filter (!·.isLeveled) ∧
      written (taken ⟨verbose, true⟩).1 =
        (written (taken ⟨verbose, false⟩).1).filter (!·.isLeveled)) ∧
    (∀ quiet,
      written (played ⟨false, quiet⟩).1 =
        (written (played ⟨true, quiet⟩).1).filter (!·.isDebug) ∧
      written (taken ⟨false, quiet⟩).1 =
        (written (taken ⟨true, quiet⟩).1).filter (!·.isDebug)) := by
  intro played taken written
  have hplayed (a b : Volume) := alike_playAll a b (alike_start a b config total before) operations
  have htaken (a b : Volume) := alike_takeAll (alike_start a b config total before) turns
  refine ⟨?_, ?_, fun verbose => ⟨?_, ?_⟩, fun quiet => ⟨?_, ?_⟩⟩
  · obtain ⟨heard, hk, hrounds⟩ := hplayed a b
    exact ⟨⟨heard, hk⟩, hrounds⟩
  · obtain ⟨heard, hk, hreplies⟩ := htaken a b
    exact ⟨⟨heard, hk⟩, hreplies⟩
  · obtain ⟨heard, hk, -⟩ := hplayed ⟨verbose, true⟩ ⟨verbose, false⟩
    obtain ⟨transcript, hx, hy⟩ := hk.entries
    exact hx.trans ((Volume.part_quiet verbose transcript).trans (congrArg _ hy.symm))
  · obtain ⟨heard, hk, -⟩ := htaken ⟨verbose, true⟩ ⟨verbose, false⟩
    obtain ⟨transcript, hx, hy⟩ := hk.entries
    exact hx.trans ((Volume.part_quiet verbose transcript).trans (congrArg _ hy.symm))
  · obtain ⟨heard, hk, -⟩ := hplayed ⟨false, quiet⟩ ⟨true, quiet⟩
    obtain ⟨transcript, hx, hy⟩ := hk.entries
    exact hx.trans ((Volume.part_terse quiet transcript).trans (congrArg _ hy.symm))
  · obtain ⟨heard, hk, -⟩ := htaken ⟨false, quiet⟩ ⟨true, quiet⟩
    obtain ⟨transcript, hx, hy⟩ := hk.entries
    exact hx.trans ((Volume.part_terse quiet transcript).trans (congrArg _ hy.symm))

end Rehearsal

end Junction
