import Mathlib.Data.List.GetD
import Junction.Proofs.Dossiers
import Junction.Proofs.Drawings

/-!
# Which drawn vehicles are recognized

The codes of a field are bounded in two places: a uniform choice draws them below a number, and a
vehicle is recognized if its codes stand for something. The two places agree, so a vehicle is
refused if and only if one of its codes could not have come from a uniform choice. A run whose
fields are all drawn uniformly therefore rejects nobody, at no moment and in no order of its steps.

## Main definitions

* `VehicleSpec.Field.domain` — the codes of a field that a uniform choice can come to
* `Site.Unrejected` — nobody was rejected so far
* `Config.IsFaithful` — what is promised of the traffic of a configuration

## Main results

* `VehicleSpec.Field.mem_domain_iff` — the domain is what lies below the number of valid codes
* `Vehicle.ofSpec?_eq_none_iff` — a vehicle is refused for a code outside of a domain
* `Scene.unrejected_of_steps` — a run of recognized vehicles rejects nobody
* `Config.isFaithful_of_traffic` — every traffic is faithful to its configuration
-/

namespace Junction

/-! ### Domains -/

namespace VehicleSpec.Field

/-- The codes of a field that a uniform choice can come to, with whatever words. -/
def domain (f : VehicleSpec.Field) : Set UInt8 :=
  {code | ∃ words index position next,
    (Sampler.uniform f.codes).sample? words index position = some (code, next)}

theorem codes_pos (f : VehicleSpec.Field) : 0 < f.codes := by cases f <;> decide

theorem codes_le (f : VehicleSpec.Field) : f.codes ≤ UInt8.size := by cases f <;> decide

/-- A uniform choice can come to all valid codes of a field, and to no others. -/
theorem mem_domain_iff {f : VehicleSpec.Field} {code : UInt8} :
    code ∈ f.domain ↔ code.toNat < f.codes := by
  have huniform := Sampler.isProportional_uniform f.codes_pos f.codes_le
  constructor
  · rintro ⟨words, index, position, next, hdraw⟩
    have hpos := huniform.never words index position code next hdraw
    rw [Sampler.getD_replicate] at hpos
    by_contra hlarge
    rw [if_neg hlarge] at hpos
    exact Nat.lt_irrefl 0 hpos
  · intro hlt
    -- A stream that repeats one of the words of the code.
    have hwords : 0 < (Draw.wordsWith
        (Draw.code? (List.replicate f.codes 1) · = some code)).card := by
      have hle : f.codes ≤ Draw.wordRange := f.codes_le.trans (by decide)
      rw [huniform.accepted, Sampler.getD_replicate, if_pos hlt, Sampler.total_replicate,
        Nat.one_mul]
      exact Nat.div_pos hle f.codes_pos
    obtain ⟨word, hword⟩ := Finset.card_pos.1 hwords
    obtain ⟨hword, hcode⟩ := Finset.mem_filter.1 hword
    refine ⟨fun _ => UInt32.ofNat word, 0, 0, 1, (huniform.draws ..).2 ?_⟩
    refine ⟨0, by decide, rfl, nofun, ?_⟩
    rwa [UInt32.toNat_ofNat_of_lt' (Finset.mem_range.1 hword)]

end VehicleSpec.Field

/-- A description is refused if and only if one of its codes is outside of the domain of its
field. -/
theorem Vehicle.ofSpec?_eq_none_iff {spec : VehicleSpec} {channel : Nat} :
    ofSpec? spec channel = none ↔ ∃ f, spec.code f ∉ f.domain := by
  have hknown : (ofSpec? spec channel).isSome ↔ ∀ f, spec.code f ∈ f.domain := by
    simp only [VehicleSpec.Field.mem_domain_iff, ofSpec?_isSome_iff]
    refine ⟨fun ⟨hclass, happroach, hturn⟩ f => ?_, fun h => ⟨h .vclass, h .approach, h .turn⟩⟩
    cases f with
    | vclass => exact hclass
    | approach => exact happroach
    | turn => exact hturn
  rw [← not_forall, ← hknown, Bool.not_eq_true, Option.isSome_eq_false_iff,
    Option.isNone_iff_eq_none]

/-! ### What was drawn -/

namespace SpecSampler

variable {words : Nat → UInt32} {s : SpecSampler} {index position count : Nat}
variable {specs : List VehicleSpec}

/-- A vehicle that is drawn among others has its number, and each of its codes is drawn for this
number, from wherever in the stream. -/
theorem drawn_of_sampleMany? (h : s.sampleMany? words count index position = some specs) {i : Nat}
    {spec : VehicleSpec} (hspec : specs[i]? = some spec) :
    spec.id = index + i ∧
      ∀ f, ∃ p q, (s.sampler f).sample? words (index + i) p = some (spec.code f, q) := by
  induction count generalizing index position specs i with
  | zero =>
    cases h
    cases hspec
  | succ count ih =>
    obtain ⟨first, next, rest, hfirst, hrest, rfl⟩ := sampleMany?_succ_eq_some_iff.1 h
    cases i with
    | zero =>
      cases hspec
      obtain ⟨hid, p, q, hclass, happroach, hturn⟩ := sample?_eq_some_iff.1 hfirst
      refine ⟨hid, fun f => ?_⟩
      cases f with
      | vclass => exact ⟨_, _, hclass⟩
      | approach => exact ⟨_, _, happroach⟩
      | turn => exact ⟨_, _, hturn⟩
    | succ i =>
      rw [Nat.add_succ, ← Nat.succ_add]
      exact ih hrest hspec

end SpecSampler

/-! ### Runs without a rejection -/

/-- Nothing on a site tells of a rejection. -/
structure Site.Unrejected (x : Site) : Prop where
  /-- No rejection was counted. -/
  rejections : x.rejections = 0
  /-- No rejection was recorded. -/
  events : ∀ ev ∈ x.events, ∀ vclass approach turn, ev.kind ≠ .reject vclass approach turn

namespace Site.Unrejected

variable {x x' : Site}

theorem congr (h : x.Unrejected) (hrejections : x'.rejections = x.rejections)
    (hevents : x'.events = x.events) : x'.Unrejected :=
  ⟨hrejections.trans h.rejections, hevents ▸ h.events⟩

theorem record (h : x.Unrejected) (v : VehicleId) {kind : Event.Kind}
    (hkind : ∀ vclass approach turn, kind ≠ .reject vclass approach turn) :
    (x.record v kind).Unrejected := by
  refine ⟨h.rejections, fun ev hev => ?_⟩
  rcases List.mem_append.1 hev with hold | hnew
  · exact h.events ev hold
  · rw [List.mem_singleton.1 hnew]
    exact hkind

end Site.Unrejected

section Steps

variable {x x' : Site}

theorem Abort.Move.rejections_eq {a : Abort} {a' : Option Abort} (move : a.Move x x' a') :
    x'.rejections = x.rejections := by
  cases move with
  | raise f =>
    unfold Site.raise
    split <;> rfl
  | _ => rfl

/-- A life that is not being rejected does not tell of a rejection. -/
theorem Life.Move.unrejected {p p' : Life} (move : p.Move x x' p')
    (hp : ∀ spec point, p ≠ .rejecting spec point) (h : x.Unrejected) : x'.Unrejected := by
  cases move with
  | logRejection | countRejection | countRejected | notifyRejection => exact (hp _ _ rfl).elim
  | logArrival | logEntry | cross | logExit | logLeave => exact h.record _ nofun
  | abort move | abortEnd move => exact h.congr move.rejections_eq move.events_eq
  | _ => exact h.congr rfl rfl

/-- Neither does the scheduler. -/
theorem Scheduler.Move.unrejected {pt pt' : Scheduler.Point} (move : Scheduler.Move x pt x' pt')
    (h : x.Unrejected) : x'.Unrejected := by
  cases move with
  | announce => exact h.record _ nofun
  | giveUp move | givenUp move | abort move | abortEnd move =>
    exact h.congr move.rejections_eq move.events_eq
  | _ => exact h.congr rfl rfl

end Steps

namespace Scene

variable {specs : List VehicleSpec} {e : Scene}

/-- In a run of vehicles that are all recognized, no life is being rejected. -/
theorem Staffed.not_rejecting (h : e.Staffed specs)
    (hknown : ∀ spec ∈ specs, Vehicle.ofSpec? spec spec.id ≠ none) {i : Nat} {p : Life}
    (hp : e.tasks.get i = .life p) (spec : VehicleSpec) (point : Rejection) :
    p ≠ .rejecting spec point := by
  rintro rfl
  obtain ⟨spec', hspec', -, hunknown⟩ := h.concerns hp
  exact hknown spec' (List.mem_of_getElem? hspec') hunknown

/-- A run of vehicles that are all recognized rejects nobody, whatever the order of its steps. -/
theorem unrejected_of_steps (config : Config) (console : Console)
    (hknown : ∀ spec ∈ specs, Vehicle.ofSpec? spec spec.id ≠ none)
    (h : Relation.ReflTransGen Step (ofSpecs (.start config specs.length console) specs) e) :
    e.site.Unrejected := by
  rw [← staged_nil] at h
  induction h with
  | refl => exact ⟨rfl, nofun⟩
  | tail hsteps hstep ih =>
    have hstaffed := Staffed.reachable _ rfl specs [] hsteps
    obtain ⟨move, -⟩ := move_of_step hstaffed.isRun hstep
    -- Only a life that is being rejected tells of a rejection, and there is none.
    cases move with
    | scheduler htasks move => exact move.unrejected ih
    | life i hp htasks hpoint move => exact move.unrejected (hstaffed.not_rejecting hknown hp) ih
    | abort i ha htasks hpoint move => exact ih.congr move.rejections_eq move.events_eq

/-- A run with a clock that strikes now and then consists of steps. -/
theorem steps_settleWithClock (limit : Nat) (e : Scene) :
    Relation.ReflTransGen Step e (e.settleWithClock limit) := by
  induction limit generalizing e with
  | zero => exact steps_runWith _ _ e
  | succ limit ih =>
    unfold settleWithClock
    dsimp only
    have hsettle : Relation.ReflTransGen Step e e.settle := steps_runWith _ _ e
    cases hclock : e.settle.step? .clock with
    | none => exact hsettle
    | some e' => exact (hsettle.tail ⟨.clock, hclock⟩).trans (ih e')

end Scene

/-- A report is that of the site that it concludes. -/
theorem Site.eq_report_of_conclude {x : Site} {report : Report}
    (h : x.conclude.2 = .ok report) : report = x.report := by
  unfold conclude at h
  split at h
  · cases h
  · split at h <;> cases h
    rfl

/-! ### The traffic -/

namespace Config

variable {c : Config} {specs : List VehicleSpec}

/-- Each vehicle of the traffic has its number, and its codes are drawn for that number by what the
distributions are made into. -/
theorem drawn_of_traffic (h : c.traffic = .ok specs) {i : Nat} {spec : VehicleSpec}
    (hspec : specs[i]? = some spec) :
    spec.id = i ∧ ∀ f : VehicleSpec.Field, ∃ s p q,
      Sampler.ofDistribution f.codes (c.distribution f) = .ok s ∧
        s.sample? c.words i p = some (spec.code f, q) := by
  obtain ⟨s, hs, -, hspecs⟩ := traffic_eq_ok_iff.1 h
  obtain ⟨hid, hdrawn⟩ := SpecSampler.drawn_of_sampleMany? hspecs hspec
  rw [Nat.zero_add] at hid hdrawn
  refine ⟨hid, fun f => ?_⟩
  obtain ⟨p, q, hdraw⟩ := hdrawn f
  exact ⟨s.sampler f, p, q, SpecSampler.ofConfig_eq_ok_iff.1 hs f, hdraw⟩

/-- The result of a run is that of a scene that the run can reach. -/
theorem exists_scene_of_run (h : c.traffic = .ok specs) {console : Console} {report : Report}
    (hrun : (c.run console).2 = .ok report) :
    ∃ console' e, Relation.ReflTransGen Scene.Step
      (.ofSpecs (.start c specs.length console') specs) e ∧ report = e.site.report := by
  unfold run at hrun
  cases hvalidate : c.validate with
  | error fault =>
    rw [hvalidate] at hrun
    cases hrun
  | ok accepted =>
    rw [hvalidate, h] at hrun
    -- The run ends with the conclusion of the scene in which the clock has done its part.
    refine ⟨console.info (c.startMessage specs.length), _,
      Scene.steps_settleWithClock c.grantRetries _, Site.eq_report_of_conclude ?_⟩
    dsimp only at hrun
    generalize Site.conclude _ = concluded at hrun ⊢
    obtain ⟨x, result⟩ := concluded
    cases result with
    | error fault => cases hrun
    | ok r =>
      cases hrun
      rfl

/-- What is promised of the traffic of a configuration. -/
structure IsFaithful (c : Config) (specs : List VehicleSpec) : Prop where
  /-- There are as many vehicles as asked for, each with its number at its place. -/
  ids : specs.map (·.id) = List.range c.vehicles
  /-- A fixed field has the same code everywhere. -/
  fixed : ∀ f code, c.distribution f = .fixed code → ∀ spec ∈ specs, spec.code f = code
  /-- The codes of a field that cycles come in turn, whatever the words of the other fields. -/
  cycle : ∀ f codes, c.distribution f = .cycle codes → ∀ i spec, specs[i]? = some spec →
    codes[i % codes.length]? = some (spec.code f)
  /-- The codes of a uniform field are in its domain. -/
  uniform : ∀ f, c.distribution f = .uniform → ∀ spec ∈ specs, spec.code f ∈ f.domain
  /-- A vehicle is refused if and only if one of its codes is outside of the domain of the field. -/
  refuses : ∀ spec ∈ specs, ∀ channel,
    Vehicle.ofSpec? spec channel = none ↔ ∃ f, spec.code f ∉ f.domain
  /-- If all fields are uniform, no moment of a run knows of a rejection. -/
  unrejected : (∀ f, c.distribution f = .uniform) → ∀ console e, Relation.ReflTransGen Scene.Step
    (.ofSpecs (.start c specs.length console) specs) e → e.site.Unrejected
  /-- Nor does the report of a run. -/
  report : (∀ f, c.distribution f = .uniform) → ∀ console report,
    (c.run console).2 = .ok report → report.rejected = 0 ∧
      ∀ ev ∈ report.events, ∀ vclass approach turn, ev.kind ≠ .reject vclass approach turn

/-- The numbers of the vehicles are their places. -/
theorem ids_of_traffic (h : c.traffic = .ok specs) : specs.map (·.id) = List.range c.vehicles := by
  refine List.ext_getElem? fun i => ?_
  rw [List.getElem?_map, ← length_of_traffic h]
  cases hspec : specs[i]? with
  | none => rw [Option.map_none, List.getElem?_eq_none (by simpa using hspec)]
  | some spec =>
    have hi := (List.getElem?_eq_some_iff.1 hspec).1
    rw [Option.map_some, List.getElem?_range hi, (drawn_of_traffic h hspec).1]

/-- A code that is drawn uniformly is in the domain of its field. -/
theorem mem_domain_of_uniform (h : c.traffic = .ok specs) {f : VehicleSpec.Field}
    (huniform : c.distribution f = .uniform) : ∀ spec ∈ specs, spec.code f ∈ f.domain := by
  intro spec hspec
  obtain ⟨i, hi⟩ := List.getElem?_of_mem hspec
  obtain ⟨s, p, q, hs, hdraw⟩ := (drawn_of_traffic h hi).2 f
  rw [huniform] at hs
  cases hs
  exact ⟨_, _, _, _, hdraw⟩

/-- A cycle that was made ready has a code for every place. -/
theorem code_of_cycle {codes : List UInt8} {bound : Nat} {s : Sampler}
    (hs : Sampler.ofDistribution bound (.cycle codes) = .ok s) {words : Nat → UInt32}
    {i p q : Nat} {code : UInt8} (hdraw : s.sample? words i p = some (code, q)) :
    codes[i % codes.length]? = some code := by
  cases codes with
  | nil => cases hs
  | cons first rest =>
    cases hs
    cases hdraw
    have hlt : i % (first :: rest).length < (first :: rest).length :=
      Nat.mod_lt _ (Nat.zero_lt_succ _)
    rw [List.getElem?_eq_getElem hlt, List.getD_eq_getElem _ _ hlt]

/-- The traffic of a configuration consists of its vehicles in order; fixed fields and fields that
cycle have the codes that are laid down for them; a vehicle is refused if and only if one of its
codes could not have come from a uniform choice; and if all fields are chosen uniformly, a run
rejects nobody. -/
theorem isFaithful_of_traffic (h : c.traffic = .ok specs) : c.IsFaithful specs := by
  have hknown : (∀ f, c.distribution f = .uniform) →
      ∀ spec ∈ specs, Vehicle.ofSpec? spec spec.id ≠ none := by
    intro huniform spec hspec hrefused
    obtain ⟨f, hf⟩ := Vehicle.ofSpec?_eq_none_iff.1 hrefused
    exact hf (mem_domain_of_uniform h (huniform f) spec hspec)
  refine ⟨ids_of_traffic h, ?_, ?_, fun f => mem_domain_of_uniform h,
    fun spec _ channel => Vehicle.ofSpec?_eq_none_iff, ?_, ?_⟩
  · intro f code hfixed spec hspec
    obtain ⟨i, hi⟩ := List.getElem?_of_mem hspec
    obtain ⟨s, p, q, hs, hdraw⟩ := (drawn_of_traffic h hi).2 f
    rw [hfixed] at hs
    cases hs
    exact (congrArg Prod.fst (Option.some.inj hdraw)).symm
  · intro f codes hcycle i spec hspec
    obtain ⟨s, p, q, hs, hdraw⟩ := (drawn_of_traffic h hspec).2 f
    rw [hcycle] at hs
    exact code_of_cycle hs hdraw
  · intro huniform console e hsteps
    exact Scene.unrejected_of_steps c console (hknown huniform) hsteps
  · intro huniform console report hrun
    obtain ⟨console', e, hsteps, rfl⟩ := exists_scene_of_run h hrun
    have hunrejected := Scene.unrejected_of_steps c console' (hknown huniform) hsteps
    exact ⟨hunrejected.rejections, hunrejected.events⟩

/-- A configuration with a single vehicle, whose fields are all drawn uniformly. -/
def plain : Config := { vehicles := 1 }

theorem traffic_plain : plain.traffic = .ok [⟨0, 1, 1, 0⟩] := by decide +kernel

/-- The second vehicle of `choosy` is refused for its approach, which no uniform choice comes to;
that of `plain` is not rejected. -/
theorem isFaithful_choosy_and_plain :
    choosy.traffic = .ok [⟨0, 0, 2, 1⟩, ⟨1, 2, 7, 0⟩] ∧
      choosy.IsFaithful [⟨0, 0, 2, 1⟩, ⟨1, 2, 7, 0⟩] ∧ Vehicle.ofSpec? ⟨1, 2, 7, 0⟩ 1 = none ∧
      (7 : UInt8) ∉ VehicleSpec.Field.domain .approach ∧
      ∀ console report, (plain.run console).2 = .ok report → report.rejected = 0 := by
  refine ⟨traffic_choosy, isFaithful_of_traffic traffic_choosy, by decide, ?_, ?_⟩
  · rw [VehicleSpec.Field.mem_domain_iff]
    decide
  · have huniform : ∀ f, plain.distribution f = .uniform := fun f => by cases f <;> rfl
    exact fun console report hrun =>
      ((isFaithful_of_traffic traffic_plain).report huniform console report hrun).1

end Config

end Junction
