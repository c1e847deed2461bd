import Junction.Proofs.HostSteps
import Junction.Proofs.Tasks

/-!
# Workers on the host

Whatever workers are told, their threads do what threads of a host could have done: there is a run
of the host, in which nobody steps in amid an unparking, that ends with the same tokens and the same
published states, and with the same threads parked by the same handles. So the published state of a
worker is known, and it is right unless the worker was unparked by a handle of an earlier parking.

That workers unpark each handle once needs what they keep in order: a handle that a worker has left
where others find it is gone as soon as somebody takes it, and a worker that parks leaves a new one.

## Main definitions

* `Host.Carries` — a host whose threads stand where the threads of workers do

## Main results

* `Host.Carries.exists_begin`, `Host.Carries.exists_step`, `Host.Carries.exists_expire` — what a
  worker does, the host can do
* `Workers.exists_vigil` — whatever workers are told, a host could have come to it
-/

namespace Junction.Sync

open Workers (Command)

/-- A worker that exists and has not ended. -/
def Workers.IsLive (x : Workers) (w : ThreadId) : Prop :=
  w < x.count ∧ ∀ code, (x.workers.get w).task ≠ .ended code

namespace Monitors

variable {s : Monitors} {t : ThreadId} {h : ParkHandle} {i : Nat}

theorem isCalled_of_goTo {p : Point} (hcalled : (s.goTo t p).IsCalled i) :
    s.IsCalled i ∨ ∃ h ∈ p.wakes, h.id = i := by
  rcases hcalled with htoken | ⟨u, h, hh, hid⟩
  · exact .inl (.inl htoken)
  · rw [point_goTo] at hh
    split at hh
    · exact .inr ⟨h, hh, hid⟩
    · exact .inl (.inr ⟨u, h, hh, hid⟩)

theorem isCalled_of_unpark (hcalled : (s.withParking (s.parking.unpark h)).IsCalled i) :
    s.IsCalled i ∨ i = h.id := by
  rcases hcalled with htoken | hwakes
  · rw [parking_withParking, Parking.tokens_unpark, Table.get_set] at htoken
    split at htoken
    · next hid => exact .inr hid
    · exact .inl (.inl htoken)
  · exact .inl (.inr hwakes)

/-- The monitors after a thread has parked with a new handle. -/
def parkedBy (s : Monitors) (t : ThreadId) (timed : Bool) : Monitors :=
  (s.withParking (s.parking.issue t).1).goTo t
    (.parked (s.parking.issue t).2 (if timed then some false else none))

theorem start?_park {last : Option Outcome} (hidle : s.point t = .idle last) (timed : Bool) :
    s.start? t (.park timed) = some (s.parkedBy t timed) := by
  simp only [start?, hidle]
  rfl

theorem point_parkedBy (timed : Bool) : (s.parkedBy t timed).point t =
    .parked (s.parking.issue t).2 (if timed then some false else none) := by
  simp [parkedBy]

/-- A new handle was not unparked, and nobody has to unpark it. -/
theorem not_isCalled_parkedBy (hnumbered : s.Numbered) (timed : Bool) :
    ¬ (s.parkedBy t timed).IsCalled s.parking.issued := by
  intro hcalled
  rcases isCalled_of_goTo hcalled with htoken | ⟨h, hh, -⟩
  · refine Nat.lt_irrefl _ (hnumbered.destined s.parking.issued ?_)
    exact htoken.imp_right .inr
  · cases hh

end Monitors

namespace Host

variable {s s' : Host} {n : Nat} {x x' : Workers} {w : ThreadId}

theorem after_append (s : Host) (actions actions' : List Action) :
    s.after (actions ++ actions') = (s.after actions).after actions' :=
  List.foldl_append

theorem handles_subset_after (s : Host) (actions : List Action) :
    s.handles ⊆ (s.after actions).handles := by
  induction actions generalizing s with
  | nil => exact fun _ => id
  | cons action actions ih =>
    have hact : s.handles ⊆ (s.act action).handles := by
      unfold act
      cases hstep : s.step? action with
      | none => exact fun _ => id
      | some s' => exact (move_of_step hstep).handles_subset
    exact fun h hh => ih (s.act action) (hact hh)

/-- The threads of a host stand where those of some workers do, and the workers keep their handles
in order. -/
structure Carries (s : Host) (n : Nat) (x : Workers) : Prop where
  /-- The number of workers. -/
  count : x.count = n
  /-- All locks are fair. -/
  fair : x.monitors.Fair
  /-- The lists of the condition variables are right. -/
  listed : x.monitors.Listed
  /-- The threads stand where those of the workers do. -/
  mirrors : s.Mirrors x.IsLive x.monitors
  /-- The thread of an idle worker has nothing to do. -/
  idle : ∀ w, (x.workers.get w).task.IsIdle → ∃ last, x.monitors.point w = .idle last
  /-- A handle that a worker has left is loose. -/
  tidy : x.Tidy
  /-- It is one of its own that was issued. -/
  own : ∀ w h, (x.workers.get w).left = some h → h ∈ s.handles ∧ h.owner = w
  /-- Nobody has unparked it, nor has to. -/
  uncalled : ∀ w h, (x.workers.get w).left = some h → ¬ x.monitors.IsCalled h.id

namespace Carries

theorem isLive_of_takes {task : Workers.Task} (takes : x.Takes w task x')
    (halive : ∀ code, task ≠ .ended code) (hlive : x.IsLive w) : x'.IsLive = x.IsLive := by
  funext u
  simp only [Workers.IsLive, takes.count, eq_iff_iff]
  by_cases hu : u = w
  · subst hu
    simp [takes.task, halive, hlive.2]
  · rw [takes.others u hu]

theorem isLive_of_same (tasks : x.SameTasks x') : x'.IsLive = x.IsLive := by
  funext u
  rw [Workers.IsLive, Workers.IsLive, tasks.count, tasks.task]

variable (hcarries : s.Carries n x)
include hcarries

/-- A worker whose thread has something to do is live. -/
theorem isLive_of_busy (hw : w < n) (hbusy : ∀ last, x.monitors.point w ≠ .idle last) :
    x.IsLive w := by
  refine ⟨hcarries.count ▸ hw, fun code htask => ?_⟩
  obtain ⟨last, hidle⟩ := hcarries.idle w (by rw [htask]; trivial)
  exact hbusy last hidle

/-- The thread of an idle worker stays idle. -/
theorem idle_of_takes {task : Workers.Task} (takes : x.Takes w task x')
    (hother : ∀ u, u ≠ w → x'.monitors.point u = x.monitors.point u)
    (hself : task.IsIdle → ∃ last, x'.monitors.point w = .idle last) (u : ThreadId)
    (hu : (x'.workers.get u).task.IsIdle) : ∃ last, x'.monitors.point u = .idle last := by
  by_cases huw : u = w
  · subst huw
    rw [takes.task] at hu
    exact hself hu
  · rw [takes.others u huw] at hu
    rw [hother u huw]
    exact hcarries.idle u hu

/-- A worker comes to another task, and does nothing. -/
theorem of_same {task : Workers.Task} (same : x.SameThreads x') (takes : x.Takes w task x')
    (halive : ∀ code, task ≠ .ended code) (hlive : x.IsLive w)
    (hidle : ∃ last, x.monitors.point w = .idle last) : s.Carries n x' where
  count := takes.count.trans hcarries.count
  fair := same.monitors ▸ hcarries.fair
  listed := same.monitors ▸ hcarries.listed
  mirrors := by
    rw [same.monitors, isLive_of_takes takes halive hlive]
    exact hcarries.mirrors
  idle := hcarries.idle_of_takes takes (fun u _ => by rw [same.monitors])
    fun _ => same.monitors ▸ hidle
  tidy := hcarries.tidy.kept (same.kept (w := w))
  own u h hleft := hcarries.own u h (same.left u ▸ hleft)
  uncalled u h hleft := by
    rw [same.monitors]
    exact hcarries.uncalled u h (same.left u ▸ hleft)

/-- Nothing happens to the threads, the tasks and the handles that were left. -/
theorem of_still (same : x.SameThreads x') (tasks : x.SameTasks x') : s.Carries n x' where
  count := tasks.count.trans hcarries.count
  fair := same.monitors ▸ hcarries.fair
  listed := same.monitors ▸ hcarries.listed
  mirrors := by
    rw [same.monitors, isLive_of_same tasks]
    exact hcarries.mirrors
  idle u hu := by
    rw [tasks.task] at hu
    rw [same.monitors]
    exact hcarries.idle u hu
  tidy u h hleft := by
    rw [same.monitors]
    exact hcarries.tidy u h (same.left u ▸ hleft)
  own u h hleft := hcarries.own u h (same.left u ▸ hleft)
  uncalled u h hleft := by
    rw [same.monitors]
    exact hcarries.uncalled u h (same.left u ▸ hleft)

/-- The thread of a worker takes a step, and so does the host. -/
theorem of_move {task : Workers.Task} {monitors : Monitors} (hhandles : s.handles ⊆ s'.handles)
    (hmirrors : s'.Mirrors x.IsLive monitors)
    (same : Workers.SameThreads { x with monitors } x') (takes : x.Takes w task x')
    (move : x.monitors.Move w monitors) (halive : ∀ code, task ≠ .ended code) (hlive : x.IsLive w)
    (hidle : task.IsIdle → ∃ last, monitors.point w = .idle last)
    (huncalled : ∀ u h, (x.workers.get u).left = some h → ¬ monitors.IsCalled h.id) :
    s'.Carries n x' where
  count := takes.count.trans hcarries.count
  fair := same.monitors ▸ hcarries.fair.move move
  listed := same.monitors ▸ hcarries.listed.move hcarries.fair move
  mirrors := by
    rw [same.monitors, isLive_of_takes takes halive hlive]
    exact hmirrors
  idle := by
    refine hcarries.idle_of_takes takes (fun u hu => ?_) fun htask => same.monitors ▸ hidle htask
    rw [same.monitors]
    exact move.point_other hu
  tidy := hcarries.tidy.kept ((Workers.kept_of_move move).trans_same same)
  own u h hleft := by
    rw [same.left] at hleft
    exact (hcarries.own u h hleft).imp_left (hhandles ·)
  uncalled u h hleft := by
    rw [same.left] at hleft
    rw [same.monitors]
    exact huncalled u h hleft

/-- Every step of a worker's thread is a run of the host. -/
theorem exists_gist {task : Workers.Task} {monitors : Monitors}
    (same : Workers.SameThreads { x with monitors } x') (takes : x.Takes w task x')
    (move : x.monitors.Move w monitors) (gist : x.monitors.Gist w monitors)
    (halive : ∀ code, task ≠ .ended code) (hlive : x.IsLive w) (hbusy : ¬ task.IsIdle) :
    ∃ actions, (s.after actions).Carries n x' := by
  obtain ⟨actions, hmirrors⟩ :=
    hcarries.mirrors.exists_after hcarries.fair hcarries.listed move gist hlive
  exact ⟨actions, hcarries.of_move (s.handles_subset_after actions) hmirrors same takes move halive
    hlive (fun hidle => absurd hidle hbusy) fun u h hleft =>
      gist.not_isCalled move hcarries.fair (hcarries.tidy u h hleft) (hcarries.uncalled u h hleft)⟩

/-- The thread of a worker begins something, if it can. -/
theorem exists_act {command : Command} {what : Act} {x₁ : Workers} (same : x.SameThreads x₁)
    (tasks : x.SameTasks x₁) (harmless : ∀ h, what ≠ .unpark h) (hlive : x.IsLive w)
    (hidle : ∃ last, x.monitors.point w = .idle last) :
    ∃ actions, (s.after actions).Carries n (x₁.act w command what) := by
  unfold Workers.act
  split
  · next monitors hstart =>
    rw [same.monitors] at hstart
    have move := Monitors.move_of_start hstart fun h heq => absurd heq (harmless h)
    have same₁ : Workers.SameThreads { x with monitors } { x₁ with monitors } := ⟨rfl, same.left⟩
    exact hcarries.exists_gist (same₁.trans (.assign _))
      (tasks.takes (Workers.SameTasks.takes (.withMonitors monitors) (.assign _))) move
      (Monitors.gist_of_start hstart harmless) nofun hlive id
  · exact ⟨[], hcarries.of_same (same.trans (.reply _)) (tasks.takes (.reply _)) nofun hlive hidle⟩

/-- A worker leaves another handle than before, or none. -/
theorem of_left (v : ThreadId) {left : Option ParkHandle}
    (hnew : ∀ h, left = some h → x.monitors.IsLoose h ∧ (h ∈ s.handles ∧ h.owner = v) ∧
      ¬ x.monitors.IsCalled h.id) : s.Carries n (x.update v ({ · with left })) := by
  have tasks : x.SameTasks (x.update v ({ · with left })) := .update fun _ => rfl
  have hleft (u : ThreadId) (h : ParkHandle)
      (h' : ((x.update v ({ · with left })).workers.get u).left = some h) :
      u = v ∧ left = some h ∨ (x.workers.get u).left = some h := by
    simp only [Workers.update, Table.get_set] at h'
    split at h'
    · next hu => exact .inl ⟨hu, h'⟩
    · exact .inr h'
  constructor
  case count => exact hcarries.count
  case fair => exact hcarries.fair
  case listed => exact hcarries.listed
  case mirrors => exact isLive_of_same tasks ▸ hcarries.mirrors
  case idle => exact fun u hu => hcarries.idle u (tasks.task u ▸ hu)
  case tidy =>
    intro u h h'
    rcases hleft u h h' with ⟨-, hsome⟩ | hold
    · exact (hnew h hsome).1
    · exact hcarries.tidy u h hold
  case own =>
    intro u h h'
    rcases hleft u h h' with ⟨rfl, hsome⟩ | hold
    · exact (hnew h hsome).2.1
    · exact hcarries.own u h hold
  case uncalled =>
    intro u h h'
    rcases hleft u h h' with ⟨-, hsome⟩ | hold
    · exact (hnew h hsome).2.2
    · exact hcarries.uncalled u h hold

/-- A worker is about to unpark a handle that is left nowhere. -/
theorem of_entrust {command : Command} {h : ParkHandle} (hissued : h ∈ s.handles)
    (hloose : x.monitors.IsLoose h) (hcalled : ¬ x.monitors.IsCalled h.id)
    (hfree : ∀ u h', (x.workers.get u).left = some h' → h'.id ≠ h.id) (hlive : x.IsLive w)
    {last : Option Outcome} (hidle : x.monitors.point w = .idle last) :
    s.Carries n (x.act w command (.unpark h)) := by
  have hstart : x.act w command (.unpark h) =
      { x with monitors := x.monitors.goTo w (.waking [h] .left) }.assign w (.doing command) := by
    simp only [Workers.act, Monitors.start?, hidle]
  rw [hstart]
  refine hcarries.of_move (fun _ => id) (hcarries.mirrors.of_entrust hidle hissued hcalled)
    (.assign _) (Workers.SameTasks.takes (.withMonitors _) (.assign _)) (.unpark h hidle hloose)
    (by simp) hlive False.elim fun u h' hleft hcalled' => ?_
  rcases Monitors.isCalled_of_goTo hcalled' with hcalled' | ⟨h'', hh'', hid⟩
  · exact hcarries.uncalled u h' hleft hcalled'
  · obtain rfl : h'' = h := List.mem_singleton.1 hh''
    exact hfree u h' hleft hid.symm

/-- A worker takes a handle to unpark from where it was left. -/
theorem of_unpark {command : Command} {other : ThreadId} {h : ParkHandle}
    (hleft : (x.workers.get other).left = some h) (hlive : x.IsLive w) {last : Option Outcome}
    (hidle : x.monitors.point w = .idle last) :
    s.Carries n ((x.update other ({ · with left := none })).act w command (.unpark h)) := by
  obtain ⟨hissued, howner⟩ := hcarries.own other h hleft
  have hfree (u : ThreadId) (h' : ParkHandle)
      (hleft' : ((x.update other ({ · with left := none })).workers.get u).left = some h') :
      h'.id ≠ h.id := by
    simp only [Workers.update, Table.get_set] at hleft'
    split at hleft'
    · cases hleft'
    · next hu =>
      -- Workers leave handles of their own, so no two of them leave the same.
      intro hid
      obtain ⟨hissued', howner'⟩ := hcarries.own u h' hleft'
      have heq := hcarries.mirrors.sound.distinct hissued' hissued hid
      exact hu (howner'.symm.trans (heq ▸ howner))
  have tasks : x.SameTasks (x.update other ({ · with left := none })) := .update fun _ => rfl
  have htaken : s.Carries n (x.update other ({ · with left := none })) := by
    refine hcarries.of_left other ?_
    rintro h' ⟨⟩
  exact htaken.of_entrust hissued (hcarries.tidy other h hleft) (hcarries.uncalled other h hleft)
    hfree (by rwa [isLive_of_same tasks]) hidle

/-- The handle of a parked worker was issued to it. -/
theorem issued_of_parked {h : ParkHandle} {expired : Option Bool} (hlive : x.IsLive w)
    (hpoint : x.monitors.point w = .parked h expired) : h ∈ s.handles ∧ h.owner = w := by
  have hfits := hcarries.mirrors.points w hlive
  rw [hpoint] at hfits
  exact mem_of_lastHandle? (hcarries.mirrors.sound.own w ⟨h, expired⟩ (by rw [hfits]; rfl))

/-- A worker leaves its new handle where others find it, or unparks it at once. -/
theorem exists_leaveHandle {h : ParkHandle} {expired : Option Bool} (hlive : x.IsLive w)
    (hpoint : x.monitors.point w = .parked h expired) (hcalled : ¬ x.monitors.IsCalled h.id)
    (hfree : ∀ u h', (x.workers.get u).left = some h' → h'.id ≠ h.id) (now : Bool) :
    ∃ actions, (s.after actions).Carries n (x.leaveHandle w now) := by
  obtain ⟨hissued, howner⟩ := hcarries.issued_of_parked hlive hpoint
  have hloose := hcarries.fair.numbered.parked w h expired hpoint
  unfold Workers.leaveHandle
  rw [hpoint]
  dsimp only
  split
  · have takes : x.Takes w (x.workers.get w).task { x with monitors := x.monitors.unpark h } :=
      ⟨rfl, rfl, rfl, fun _ _ => rfl⟩
    refine ⟨unparking h, hcarries.of_move (s.handles_subset_after _)
      (hcarries.mirrors.of_nudge hissued hcalled) ⟨rfl, fun _ => rfl⟩ takes (.nudge h hloose)
      hlive.2 hlive (hcarries.idle w) fun u h' hleft hcalled' => ?_⟩
    rcases Monitors.isCalled_of_unpark hcalled' with hcalled' | hid
    · exact hcarries.uncalled u h' hleft hcalled'
    · exact hfree u h' hleft hid
  · refine ⟨[], hcarries.of_left w ?_⟩
    rintro h' ⟨⟩
    exact ⟨hloose, ⟨hissued, howner⟩, hcalled⟩

/-- A worker parks, and leaves its handle or unparks it at once. -/
theorem exists_park {command : Command} {timed now : Bool} (hlive : x.IsLive w)
    {last : Option Outcome} (hidle : x.monitors.point w = .idle last) :
    ∃ actions, (s.after actions).Carries n
      ((x.act w command (.park timed)).leaveHandle w now) := by
  have hstart := Monitors.start?_park hidle timed
  have hact : x.act w command (.park timed) =
      { x with monitors := x.monitors.parkedBy w timed }.assign w (.doing command) := by
    simp only [Workers.act, hstart]
  have takes : x.Takes w (.doing command) (x.act w command (.park timed)) := by
    rw [hact]
    exact Workers.SameTasks.takes (.withMonitors _) (.assign _)
  rw [hact] at takes ⊢
  obtain ⟨actions, hparked⟩ := hcarries.exists_gist (.assign _) takes
    (Monitors.move_of_start hstart nofun) (Monitors.gist_of_start hstart nofun) nofun hlive id
  have hleave := hparked.exists_leaveHandle (by rwa [isLive_of_takes takes nofun hlive])
    (Monitors.point_parkedBy timed)
    (Monitors.not_isCalled_parkedBy hcarries.fair.numbered timed) (fun u h hleft => ?_) now
  · obtain ⟨actions', hleave⟩ := hleave
    exact ⟨actions ++ actions', by rwa [after_append]⟩
  · rw [(Workers.SameThreads.assign (.doing command)).left] at hleft
    have hissued := hcarries.mirrors.sound.issued (hcarries.own u h hleft).1
    rw [hcarries.mirrors.parking] at hissued
    exact Nat.ne_of_lt hissued

/-- Whatever a worker is told to do, the host can begin it. -/
theorem exists_begin (hw : w < n) (htask : (x.workers.get w).task = .waiting)
    (command : Command) : ∃ actions, (s.after actions).Carries n (x.begin w command) := by
  have hlive : x.IsLive w := ⟨hcarries.count ▸ hw, by rw [htask]; exact nofun⟩
  obtain ⟨last, hidle⟩ := hcarries.idle w (by rw [htask]; trivial)
  have onset := x.onset_begin w command
  generalize x.begin w command = x' at onset ⊢
  cases onset with
  | rest same takes free alive =>
    exact ⟨[], hcarries.of_same same takes alive hlive ⟨last, hidle⟩⟩
  | act same tasks harmless => exact hcarries.exists_act same tasks harmless hlive ⟨last, hidle⟩
  | park timed now => exact hcarries.exists_park hlive hidle
  | unpark other h left => exact ⟨[], hcarries.of_unpark left hlive hidle⟩

/-- A worker that can go on is live. -/
theorem isLive_of_step (hw : w < n) (hstep : x.step? w = some x') : x.IsLive w := by
  refine ⟨hcarries.count ▸ hw, fun code htask => ?_⟩
  obtain ⟨last, hidle⟩ := hcarries.idle w (by rw [htask]; trivial)
  simp [Workers.step?, Monitors.step?, hidle, htask] at hstep

/-- The thread of a worker goes on, or its deadline passes. -/
theorem exists_move {monitors : Monitors} (hw : w < n)
    (hbusy : ∀ last, x.monitors.point w ≠ .idle last) (move : x.monitors.Move w monitors)
    (gist : x.monitors.Gist w monitors) :
    ∃ actions, (s.after actions).Carries n { x with monitors } := by
  have hlive := hcarries.isLive_of_busy hw hbusy
  have takes : x.Takes w (x.workers.get w).task { x with monitors } :=
    ⟨rfl, rfl, rfl, fun _ _ => rfl⟩
  refine hcarries.exists_gist ⟨rfl, fun _ => rfl⟩ takes move gist hlive.2 hlive fun hidle => ?_
  obtain ⟨last, hpoint⟩ := hcarries.idle w hidle
  exact hbusy last hpoint

/-- A worker ends. -/
theorem exists_finish {code : Int} (hlive : x.IsLive w) {last : Option Outcome}
    (hidle : x.monitors.point w = .idle last) :
    ∃ actions, (s.after actions).Carries n (x.finish w code) := by
  have hmirrors := hcarries.mirrors.of_retire hidle hlive
  have move : x.monitors.Move w (x.monitors.withParking (x.monitors.parking.finish w)) := .retire
  have takes : x.Takes w (.ended code) (x.finish w code) :=
    (Workers.SameTasks.withMonitors _).takes ((Workers.Takes.reply _).trans (.assign _))
  have same : Workers.SameThreads
      { x with monitors := x.monitors.withParking (x.monitors.parking.finish w) }
      (x.finish w code) := .trans (.reply _) (.assign _)
  refine ⟨[.finish w], ?_⟩
  constructor
  case count => exact hcarries.count
  case fair => exact hcarries.fair.move move
  case listed => exact hcarries.listed.move hcarries.fair move
  case mirrors =>
    -- A worker that has ended is not live, so nothing is said of its thread any more.
    refine hmirrors.mono fun u hu => ?_
    have hne : u ≠ w := by
      rintro rfl
      exact hu.2 code takes.task
    refine ⟨⟨hu.1, fun code' => ?_⟩, hne⟩
    rw [← takes.others u hne]
    exact hu.2 code'
  case idle => exact hcarries.idle_of_takes takes (fun _ _ => rfl) fun _ => ⟨last, hidle⟩
  case tidy => exact hcarries.tidy.kept ((Workers.kept_of_move move).trans_same same)
  case own =>
    intro u h hleft
    rw [same.left] at hleft
    exact (hcarries.own u h hleft).imp_left (s.handles_subset_after _ ·)
  case uncalled =>
    intro u h hleft
    rw [same.left] at hleft
    exact hcarries.uncalled u h hleft

/-- However a worker goes on, the host can go on so. -/
theorem exists_step (hw : w < n) (hstep : x.step? w = some x') :
    ∃ actions, (s.after actions).Carries n x' := by
  have hlive := hcarries.isLive_of_step hw hstep
  cases Workers.pursuit_of_step hstep with
  | step hgoes =>
    exact hcarries.exists_move hw (Monitors.not_idle_of_step hgoes) (Monitors.move_of_step hgoes)
      (Monitors.gist_of_step hgoes)
  | rest blocked idle same takes free alive =>
    exact ⟨[], hcarries.of_same same takes alive hlive (idle.elim (hcarries.idle w) id)⟩
  | giveBack blocked harmless start same takes free busy =>
    have move := Monitors.move_of_start start fun h heq => absurd heq (harmless h)
    have gist := Monitors.gist_of_start start harmless
    refine hcarries.exists_gist same takes move gist ?_ hlive busy
    rintro code rfl
    exact busy trivial
  | finish blocked idle => exact hcarries.exists_finish hlive idle

/-- The deadline of a worker passes. -/
theorem exists_expire (hw : w < n) {monitors : Monitors}
    (hexpire : x.monitors.expire? w = some monitors) :
    ∃ actions, (s.after actions).Carries n { x with monitors } := by
  have hexpired := hexpire
  rw [Monitors.expire?_eq, Option.map_eq_some_iff] at hexpired
  obtain ⟨p, hp, rfl⟩ := hexpired
  refine hcarries.exists_move hw (fun last hidle => ?_) (.expire p hp) (Monitors.gist_of_expired hp)
  rw [hidle] at hp
  cases hp

end Carries

/-! ### Runs of workers -/

/-- Threads with the numbers below one are made and begin to run. -/
def startup (n : Nat) : List Action :=
  (List.range n).flatMap fun w => [.make w, .begin w]

theorem startup_succ (n : Nat) : startup (n + 1) = startup n ++ [.make n, .begin n] := by
  rw [startup, List.range_succ, List.flatMap_append]
  rfl

end Host

theorem Table.place_length {α : Type*} [Inhabited α] (a : α) (l : List α) :
    Table.place a l.length l = l ++ [a] := by
  induction l with
  | nil => rfl
  | cons b l ih => exact congrArg (b :: ·) ih

theorem Table.place_length_append {α : Type*} [Inhabited α] (a b : α) (l : List α) :
    Table.place a l.length (l ++ [b]) = l ++ [a] := by
  induction l with
  | nil => rfl
  | cons c l ih => exact congrArg (c :: ·) ih

namespace Host

/-- Threads that have just begun to run. -/
structure IsFresh (s : Host) (n : Nat) : Prop where
  /-- They count as running. -/
  parking : s.parking = { states := ⟨List.replicate n (some .running)⟩ }
  /-- They run. -/
  point : ∀ t, s.point t = if t < n then .running none else .absent
  /-- Nobody has parked. -/
  handles : s.handles = []
  /-- Nobody has unparked a handle. -/
  call : ∀ h, s.call h = .untouched

theorem isFresh_startup (n : Nat) : (({} : Host).after (startup n)).IsFresh n := by
  induction n with
  | zero => exact ⟨rfl, fun _ => rfl, rfl, fun _ => rfl⟩
  | succ n ih =>
    rw [startup_succ, after_append]
    generalize ({} : Host).after (startup n) = s at ih
    have habsent : s.point n = .absent := by simp [ih.point]
    have hafter : s.after [.make n, .begin n] =
        (((s.withParking (s.parking.publish n .runnable)).goTo n .made).withParking
          ((s.parking.publish n .runnable).resume n)).goTo n (.running none) := by
      simp [after, act, step?, make?, begin?, habsent]
    rw [hafter]
    -- The table of states grows by one place, which is written twice.
    refine ⟨?_, fun t => ?_, ih.handles, ih.call⟩
    · have hmade := Table.place_length (some ThreadState.runnable)
        (List.replicate n (some .running))
      have hbegun := Table.place_length_append (some ThreadState.running) (some .runnable)
        (List.replicate n (some .running))
      rw [List.length_replicate] at hmade hbegun
      rw [parking_goTo, parking_withParking, ih.parking]
      simp only [Parking.resume, Parking.publish, Table.set, hmade, hbegun, List.replicate_succ']
    · by_cases htn : t = n
      · simp [htn]
      · have hlt : t < n + 1 ↔ t < n :=
          ⟨fun h => Nat.lt_of_le_of_ne (Nat.le_of_lt_succ h) htn, Nat.lt_succ_of_lt⟩
        simp [htn, ih.point, hlt]

theorem carries_start (count : Nat) (mutexes : List Int) (condvars : Nat) (permits : List Nat)
    (spins : List Int) : (({} : Host).after (startup count)).Carries count
      (.start count mutexes condvars permits spins) := by
  have hfresh := Workers.isFresh_start count mutexes condvars permits spins
  have hhost := isFresh_startup count
  constructor
  case count => rfl
  case fair => exact hfresh.fair
  case listed => exact hfresh.listed
  case mirrors =>
    constructor
    case sound => exact sound_empty.after (startup count)
    case parking => exact hhost.parking
    case settled => exact fun h => .inl (hhost.call h)
    case points =>
      intro t hlive
      have hlt : t < count := hlive.1
      rw [hhost.point, if_pos hlt]
      exact ⟨none, rfl⟩
    case placed =>
      rintro h (⟨u, hh⟩ | ⟨m, hh⟩ | ⟨c, hh⟩)
      · cases hh
      · rw [hfresh.waiters] at hh
        cases hh
      · cases hh
    case single => exact ⟨fun _ => List.nodup_nil, nofun⟩
    case unset => exact nofun
  case idle => exact fun w _ => ⟨none, rfl⟩
  case tidy => exact nofun
  case own => exact nofun
  case uncalled => exact nofun

/-- A host could have come to where some workers are. -/
def CanCarry (n : Nat) (x : Workers) : Prop := ∃ actions, (({} : Host).after actions).Carries n x

namespace CanCarry

theorem of_exists (hcan : CanCarry n x)
    (hgo : ∀ s : Host, s.Carries n x → ∃ actions, (s.after actions).Carries n x') :
    CanCarry n x' := by
  obtain ⟨actions, hcarries⟩ := hcan
  obtain ⟨actions', hcarries'⟩ := hgo _ hcarries
  exact ⟨actions ++ actions', by rwa [after_append]⟩

theorem lt_of_mem_all (hcan : CanCarry n x) (hw : w ∈ x.all) : w < n := by
  obtain ⟨actions, hcarries⟩ := hcan
  rw [Workers.all, hcarries.count] at hw
  exact List.mem_range.1 hw

theorem goOn (hcan : CanCarry n x) (limit : Nat) : CanCarry n (Workers.goOn limit x) := by
  induction limit generalizing x with
  | zero => exact hcan
  | succ limit ih =>
    unfold Workers.goOn
    split
    · exact hcan
    · next x' hfind =>
      obtain ⟨w, hw, hstep⟩ := List.exists_of_findSome?_eq_some hfind
      have hlt := hcan.lt_of_mem_all hw
      exact ih (hcan.of_exists fun s hcarries => hcarries.exists_step hlt hstep)

theorem passTime (hcan : CanCarry n x) : CanCarry n x.passTime := by
  have hall : ∀ w ∈ x.all, w < n := fun w hw => hcan.lt_of_mem_all hw
  unfold Workers.passTime
  generalize x.all = all at hall
  induction all generalizing x with
  | nil => exact hcan
  | cons w all ih =>
    refine ih ?_ fun u hu => hall u (List.mem_cons_of_mem w hu)
    beta_reduce
    split
    · split
      · cases hexpire : x.monitors.expire? w with
        | none => exact hcan
        | some monitors =>
          exact hcan.of_exists fun s hcarries =>
            hcarries.exists_expire (hall w List.mem_cons_self) hexpire
      · exact hcan
    · exact hcan

theorem settle (hcan : CanCarry n x) : CanCarry n x.settle := hcan.goOn x.patience

/-- What is said of workers does not concern their threads. -/
theorem of_same (hcan : CanCarry n x) (same : x.SameThreads x') (tasks : x.SameTasks x') :
    CanCarry n x' := by
  obtain ⟨actions, hcarries⟩ := hcan
  exact ⟨actions, hcarries.of_still same tasks⟩

theorem tell (hcan : CanCarry n x) (hw : w < n) (command : Command) :
    CanCarry n (x.tell w command).1 := by
  unfold Workers.tell
  split
  · next htask =>
    -- The worker begins, all go on, deadlines pass, and all go on once more.
    have hbegun : CanCarry n (x.begin w command) :=
      hcan.of_exists fun s hcarries => hcarries.exists_begin hw htask command
    exact hbegun.settle.passTime.settle.of_same ⟨rfl, fun _ => rfl⟩ ⟨rfl, rfl, fun _ => rfl⟩
  · exact hcan
  · exact hcan

theorem join (hcan : CanCarry n x) (otherwise : Workers.Answer) :
    CanCarry n (x.join w otherwise).1 := by
  unfold Workers.join Workers.still
  dsimp only
  split
  · exact hcan
  · split
    · have same : x.SameThreads (x.update w ({ · with joined := true })) := .update fun _ => rfl
      have tasks : x.SameTasks (x.update w ({ · with joined := true })) := .update fun _ => rfl
      exact hcan.of_same same tasks
    · exact hcan

end CanCarry

end Host

/-- The worker that an instruction is about. -/
def Workers.Instruction.worker : Workers.Instruction → ThreadId
  | tell w _ | join w | joinUntil w | state w => w

namespace Host

theorem CanCarry.performAll {instructions : List Workers.Instruction} (hcan : CanCarry n x)
    (hworkers : ∀ instruction ∈ instructions, instruction.worker < n) :
    CanCarry n (x.performAll instructions).1 := by
  induction instructions generalizing x with
  | nil => exact hcan
  | cons instruction rest ih =>
    have hperform : CanCarry n (x.perform instruction).1 := by
      have hw := hworkers instruction List.mem_cons_self
      cases instruction with
      | tell w command => exact hcan.tell hw command
      | join w => exact hcan.join .running
      | joinUntil w => exact hcan.join .timeout
      | state w => exact hcan
    exact ih hperform fun instruction h => hworkers instruction (List.mem_cons_of_mem _ h)

end Host

/-- Whatever workers are told, there is a run of a host with the same tokens and the same published
states, in which the same threads park by the same handles. So all that is known of a host is known
of workers. -/
theorem Workers.exists_vigil (count : Nat) (mutexes : List Int) (condvars : Nat)
    (permits : List Nat) (spins : List Int) {instructions : List Workers.Instruction}
    (hworkers : ∀ instruction ∈ instructions, instruction.worker < count) :
    let x := ((Workers.start count mutexes condvars permits spins).performAll instructions).1
    ∃ actions, let v := ({} : Vigil).after actions
      v.Publishes ∧ v.host.IsWakeful ∧ v.host.Mirrors x.IsLive x.monitors := by
  have hcan : Host.CanCarry count (.start count mutexes condvars permits spins) :=
    ⟨Host.startup count, Host.carries_start count mutexes condvars permits spins⟩
  obtain ⟨actions, hcarries⟩ := hcan.performAll hworkers
  obtain ⟨hhost, hpublishes⟩ := Vigil.publishes_after actions
  refine ⟨actions, hpublishes, ?_, ?_⟩
  · exact hhost ▸ Host.isWakeful_after actions
  · exact hhost ▸ hcarries.mirrors

/-- A worker gives up a parking and blocks on a mutex that another one keeps. As soon as its old
handle is unparked it counts as runnable, and is as blocked as before. -/
example :
    let x := (Workers.start 2 [0] 0 [] []).performAll [.tell 0 (.parkUntil false true),
      .tell 1 (.lock 0), .tell 0 (.lock 0), .tell 1 (.unpark 0)]
    x.1.step? 0 = none ∧
      x.2.getLast?.map Workers.Round.states = some [some .runnable, some .running] := by
  decide

end Junction.Sync
