import Junction.Proofs.Usability

/-!
# Traffic is drawn one vehicle after the other

All codes of a run come from one stream of words, and how many words a code takes depends on the
words themselves. So each code could depend on everything that is drawn before it, and on how much
is to be drawn after it. It does not depend on the latter: a vehicle is drawn in full before the
next one is begun, so a shorter traffic is the beginning of a longer one. And it does not depend on
a field that is fixed or cycles, for such a field takes no word at all.

## Main definitions

* `VehicleSpec.Field`, `VehicleSpec.code` — the fields of a vehicle, and the code of a field
* `Config.distribution`, `SpecSampler.sampler` — how the code of a field is drawn
* `Distribution.IsPlanned` — the codes of a field are laid down in advance
* `Sampler.InStep` — two samplers that leave each other's stream alone

## Main results

* `Config.traffic_eq_ok_iff` — what it takes to draw the traffic
* `SpecSampler.sampleMany?_take` — fewer vehicles are the first of more
* `SpecSampler.sampleMany?_of_inStep` — samplers in step draw from the same positions
* `Config.draws_steadily` — the traffic of configurations that differ in the number of vehicles or
  in a planned field
-/

namespace Junction

/-! ### Fields -/

/-- A field of a vehicle whose code is drawn. -/
inductive VehicleSpec.Field where
  /-- The class. -/
  | vclass
  /-- The approach. -/
  | approach
  /-- The turn. -/
  | turn
deriving DecidableEq, Repr, Inhabited

/-- The raw code of a field. -/
def VehicleSpec.code (spec : VehicleSpec) : VehicleSpec.Field → UInt8
  | .vclass => spec.vclass
  | .approach => spec.approach
  | .turn => spec.turn

/-- The number of valid codes of a field. -/
def VehicleSpec.Field.codes : VehicleSpec.Field → Nat
  | vclass => classCodes
  | approach => approachCodes
  | turn => turnCodes

/-- How the codes of a field are drawn. -/
def Config.distribution (c : Config) : VehicleSpec.Field → Distribution
  | .vclass => c.classes
  | .approach => c.approaches
  | .turn => c.turns

/-- The sampler of a field. -/
def SpecSampler.sampler (s : SpecSampler) : VehicleSpec.Field → Sampler
  | .vclass => s.classes
  | .approach => s.approaches
  | .turn => s.turns

/-- The codes of a distribution are laid down in advance, without words: one for all vehicles, or
some in turn. -/
def Distribution.IsPlanned : Distribution → Prop
  | fixed _ | cycle _ => True
  | uniform | weighted _ => False

instance : DecidablePred Distribution.IsPlanned
  | .fixed _ | .cycle _ => inferInstanceAs (Decidable True)
  | .uniform | .weighted _ => inferInstanceAs (Decidable False)

namespace Sampler

/-- A planned distribution is made ready for drawing without words. -/
theorem bound?_of_planned {d : Distribution} (hplanned : d.IsPlanned) {bound : Nat} {s : Sampler}
    (h : ofDistribution bound d = .ok s) : s.bound? = none := by
  unfold ofDistribution at h
  split at h
  · cases h
  · cases d with
    | uniform | weighted => exact hplanned.elim
    | fixed | cycle =>
      cases h
      rfl

end Sampler

/-! ### Drawing vehicles -/

namespace SpecSampler

variable {words : Nat → UInt32} {s s' : SpecSampler} {index position next : Nat}
variable {spec : VehicleSpec} {specs : List VehicleSpec}

/-- A configuration is made ready for drawing field by field. -/
theorem ofConfig_eq_ok_iff {c : Config} :
    ofConfig c = .ok s ↔ ∀ f : VehicleSpec.Field,
      Sampler.ofDistribution f.codes (c.distribution f) = .ok (s.sampler f) := by
  obtain ⟨classes, approaches, turns⟩ := s
  have hfields : (∀ f : VehicleSpec.Field, Sampler.ofDistribution f.codes (c.distribution f) =
      .ok (sampler ⟨classes, approaches, turns⟩ f)) ↔
        Sampler.ofDistribution classCodes c.classes = .ok classes ∧
          Sampler.ofDistribution approachCodes c.approaches = .ok approaches ∧
            Sampler.ofDistribution turnCodes c.turns = .ok turns := by
    refine ⟨fun h => ⟨h .vclass, h .approach, h .turn⟩, fun ⟨hclasses, happroaches, hturns⟩ f => ?_⟩
    cases f with
    | vclass => exact hclasses
    | approach => exact happroaches
    | turn => exact hturns
  rw [hfields]
  unfold ofConfig
  cases Sampler.ofDistribution classCodes c.classes <;>
    cases Sampler.ofDistribution approachCodes c.approaches <;>
      cases Sampler.ofDistribution turnCodes c.turns <;>
        simp [bind, Except.bind, pure, Except.pure]

/-- A vehicle is drawn field by field: the class, the approach and the turn. -/
theorem sample?_eq_some_iff :
    s.sample? words index position = some (spec, next) ↔
      spec.id = index ∧ ∃ p q, s.classes.sample? words index position = some (spec.vclass, p) ∧
        s.approaches.sample? words index p = some (spec.approach, q) ∧
          s.turns.sample? words index q = some (spec.turn, next) := by
  obtain ⟨id, vclass, approach, turn⟩ := spec
  simp only [sample?, Option.bind_eq_bind, Option.bind_eq_some_iff, Option.pure_def,
    Option.some.injEq, Prod.mk.injEq, VehicleSpec.mk.injEq, Prod.exists]
  constructor
  · rintro ⟨_, p, hclass, _, q, happroach, _, _, hturn, ⟨rfl, rfl, rfl, rfl⟩, rfl⟩
    exact ⟨rfl, p, q, hclass, happroach, hturn⟩
  · rintro ⟨rfl, p, q, hclass, happroach, hturn⟩
    exact ⟨_, p, hclass, _, q, happroach, _, _, hturn, ⟨rfl, rfl, rfl, rfl⟩, rfl⟩

/-- The first vehicle is drawn in full before the others. -/
theorem sampleMany?_succ_eq_some_iff {count : Nat} :
    s.sampleMany? words (count + 1) index position = some specs ↔
      ∃ spec next rest, s.sample? words index position = some (spec, next) ∧
        s.sampleMany? words count (index + 1) next = some rest ∧ specs = spec :: rest := by
  simp only [sampleMany?, Option.bind_eq_bind, Option.bind_eq_some_iff, Option.pure_def,
    Option.some.injEq, Prod.exists]
  constructor
  · rintro ⟨spec, next, hspec, rest, hrest, rfl⟩
    exact ⟨spec, next, rest, hspec, hrest, rfl⟩
  · rintro ⟨spec, next, rest, hspec, hrest, rfl⟩
    exact ⟨spec, next, hspec, rest, hrest, rfl⟩

/-- As many vehicles are drawn as are asked for. -/
theorem length_of_sampleMany? {count : Nat}
    (h : s.sampleMany? words count index position = some specs) : specs.length = count := by
  induction count generalizing index position specs with
  | zero =>
    cases h
    rfl
  | succ count ih =>
    obtain ⟨spec, next, rest, -, hrest, rfl⟩ := sampleMany?_succ_eq_some_iff.1 h
    rw [List.length_cons, ih hrest]

/-- Fewer vehicles are the first of more vehicles. -/
theorem sampleMany?_take {n m : Nat} (hle : n ≤ m)
    (h : s.sampleMany? words m index position = some specs) :
    s.sampleMany? words n index position = some (specs.take n) := by
  induction n generalizing m index position specs with
  | zero => rfl
  | succ n ih =>
    obtain ⟨m, rfl⟩ := Nat.exists_eq_add_of_le' hle
    obtain ⟨spec, next, rest, hspec, hrest, rfl⟩ := sampleMany?_succ_eq_some_iff.1 h
    -- Where the first vehicle leaves the stream does not depend on how many follow.
    exact sampleMany?_succ_eq_some_iff.2
      ⟨spec, next, _, hspec, ih (Nat.le_of_succ_le_succ hle) hrest, List.take_succ_cons⟩

end SpecSampler

/-! ### Samplers in step -/

/-- Two samplers that take the same words, whatever comes: they are the same, or take none. -/
def Sampler.InStep (s s' : Sampler) : Prop := s = s' ∨ s.bound? = none ∧ s'.bound? = none

section InStep

variable {words : Nat → UInt32} {index position next : Nat}

/-- A sampler that takes no word always has a code. -/
theorem Sampler.sample?_of_bound? {s : Sampler} (hfree : s.bound? = none) (words : Nat → UInt32)
    (index position : Nat) : ∃ code, s.sample? words index position = some (code, position) := by
  cases s with
  | uniform | weighted => cases hfree
  | fixed code => exact ⟨code, rfl⟩
  | cycle codes => exact ⟨_, rfl⟩

theorem Sampler.InStep.sample? {s s' : Sampler} (hstep : s.InStep s') {code : UInt8}
    (h : s.sample? words index position = some (code, next)) :
    ∃ code', s'.sample? words index position = some (code', next) ∧ (s = s' → code' = code) := by
  rcases hstep with rfl | ⟨hfree, hfree'⟩
  · exact ⟨code, h, fun _ => rfl⟩
  -- Neither takes a word, so both leave the stream where it was.
  · obtain ⟨_, hcode⟩ := sample?_of_bound? hfree words index position
    obtain ⟨code', hcode'⟩ := sample?_of_bound? hfree' words index position
    rw [h] at hcode
    cases hcode
    refine ⟨code', hcode', ?_⟩
    rintro rfl
    rw [h] at hcode'
    cases hcode'
    rfl

namespace SpecSampler

variable {s s' : SpecSampler} (hstep : ∀ f, (s.sampler f).InStep (s'.sampler f))
include hstep

/-- Samplers in step draw a vehicle from the same words, with the same codes in the fields that are
drawn alike. -/
theorem sample?_of_inStep {spec : VehicleSpec}
    (h : s.sample? words index position = some (spec, next)) :
    ∃ spec', s'.sample? words index position = some (spec', next) ∧
      ∀ f, s.sampler f = s'.sampler f → spec'.code f = spec.code f := by
  obtain ⟨hid, p, q, hclass, happroach, hturn⟩ := sample?_eq_some_iff.1 h
  obtain ⟨vclass, hclass', hvclass⟩ := (hstep .vclass).sample? hclass
  obtain ⟨approach, happroach', happroach⟩ := (hstep .approach).sample? happroach
  obtain ⟨turn, hturn', hturn⟩ := (hstep .turn).sample? hturn
  refine ⟨⟨index, vclass, approach, turn⟩,
    sample?_eq_some_iff.2 ⟨rfl, p, q, hclass', happroach', hturn'⟩, fun f => ?_⟩
  cases f with
  | vclass => exact hvclass
  | approach => exact happroach
  | turn => exact hturn

/-- So it is for a number of vehicles. -/
theorem sampleMany?_of_inStep {count : Nat} {specs : List VehicleSpec}
    (h : s.sampleMany? words count index position = some specs) :
    ∃ specs', s'.sampleMany? words count index position = some specs' ∧
      ∀ f, s.sampler f = s'.sampler f → specs'.map (·.code f) = specs.map (·.code f) := by
  induction count generalizing index position specs with
  | zero =>
    cases h
    exact ⟨[], rfl, fun _ _ => rfl⟩
  | succ count ih =>
    obtain ⟨spec, next, rest, hspec, hrest, rfl⟩ := sampleMany?_succ_eq_some_iff.1 h
    -- Both end the first vehicle at the same position, so the others are drawn in step, too.
    obtain ⟨spec', hspec', hcode⟩ := sample?_of_inStep hstep hspec
    obtain ⟨rest', hrest', hcodes⟩ := ih hrest
    refine ⟨spec' :: rest', sampleMany?_succ_eq_some_iff.2 ⟨_, _, _, hspec', hrest', rfl⟩, ?_⟩
    intro f hf
    rw [List.map_cons, List.map_cons, hcode f hf, hcodes f hf]

end SpecSampler

end InStep

/-! ### The traffic -/

namespace Config

variable {c c' : Config} {specs : List VehicleSpec}

/-- The stream of words from which the traffic is drawn. -/
def words (c : Config) : Nat → UInt32 := WordStream.wordAt (WordStream.expand c.seed)

/-- The traffic can be drawn if all fields can be made ready, if there is room for the vehicles, and
if the words suffice. -/
theorem traffic_eq_ok_iff :
    c.traffic = .ok specs ↔ ∃ s, SpecSampler.ofConfig c = .ok s ∧
      specBytes * c.vehicles ≤ roomBytes ∧
        s.sampleMany? c.words c.vehicles 0 0 = some specs := by
  unfold traffic
  cases hsamplers : SpecSampler.ofConfig c with
  | error problem => simp [bind, Except.bind]
  | ok s =>
    by_cases hroom : roomBytes < specBytes * c.vehicles
    · have hnot := Nat.not_le.2 hroom
      simp [bind, Except.bind, hroom, hnot]
    · have hroom' := Nat.not_lt.1 hroom
      rw [← words]
      cases hspecs : s.sampleMany? c.words c.vehicles 0 0 <;>
        simp [bind, Except.bind, pure, Except.pure, hroom, hroom', hspecs]

theorem length_of_traffic (h : c.traffic = .ok specs) : specs.length = c.vehicles := by
  obtain ⟨s, -, -, hspecs⟩ := traffic_eq_ok_iff.1 h
  exact SpecSampler.length_of_sampleMany? hspecs

/-- The traffic of fewer vehicles is the beginning of the traffic of more. -/
theorem traffic_take (hseed : c.seed = c'.seed)
    (hfields : ∀ f, c.distribution f = c'.distribution f) (hle : c.vehicles ≤ c'.vehicles)
    (h : c'.traffic = .ok specs) : c.traffic = .ok (specs.take c.vehicles) := by
  obtain ⟨s, hsamplers, hroom, hspecs⟩ := traffic_eq_ok_iff.1 h
  have hsamplers' : SpecSampler.ofConfig c = .ok s := by
    simp only [SpecSampler.ofConfig_eq_ok_iff, hfields]
    exact SpecSampler.ofConfig_eq_ok_iff.1 hsamplers
  have hwords : c.words = c'.words := by rw [words, hseed, words]
  refine traffic_eq_ok_iff.2 ⟨s, hsamplers', (Nat.mul_le_mul_left _ hle).trans hroom, ?_⟩
  rw [hwords]
  exact SpecSampler.sampleMany?_take hle hspecs

/-- What is known of the samplers of fields that are drawn alike or planned. -/
theorem inStep_of_planned
    (hfields : ∀ f, c.distribution f = c'.distribution f ∨
      (c.distribution f).IsPlanned ∧ (c'.distribution f).IsPlanned)
    {s s' : SpecSampler} (hs : SpecSampler.ofConfig c = .ok s)
    (hs' : SpecSampler.ofConfig c' = .ok s') (f : VehicleSpec.Field) :
    (s.sampler f).InStep (s'.sampler f) ∧
      (c.distribution f = c'.distribution f → s.sampler f = s'.sampler f) := by
  have hf := SpecSampler.ofConfig_eq_ok_iff.1 hs f
  have hf' := SpecSampler.ofConfig_eq_ok_iff.1 hs' f
  have hsame : c.distribution f = c'.distribution f → s.sampler f = s'.sampler f := by
    intro heq
    rw [heq, hf'] at hf
    exact (Except.ok.inj hf).symm
  refine ⟨?_, hsame⟩
  rcases hfields f with heq | ⟨hplanned, hplanned'⟩
  · exact .inl (hsame heq)
  · exact .inr ⟨Sampler.bound?_of_planned hplanned hf, Sampler.bound?_of_planned hplanned' hf'⟩

/-- Where planned fields are planned otherwise, the traffic has the same codes in all other fields,
provided that the new plans can be made ready. -/
theorem exists_traffic_of_planned (hseed : c.seed = c'.seed) (hcount : c.vehicles = c'.vehicles)
    (hfields : ∀ f, c.distribution f = c'.distribution f ∨
      (c.distribution f).IsPlanned ∧ (c'.distribution f).IsPlanned)
    {s' : SpecSampler} (hs' : SpecSampler.ofConfig c' = .ok s') (h : c.traffic = .ok specs) :
    ∃ specs', c'.traffic = .ok specs' ∧ ∀ f, c.distribution f = c'.distribution f →
      specs'.map (·.code f) = specs.map (·.code f) := by
  obtain ⟨s, hs, hroom, hspecs⟩ := traffic_eq_ok_iff.1 h
  have hwords : c.words = c'.words := by rw [words, hseed, words]
  rw [hcount, hwords] at hspecs
  rw [hcount] at hroom
  have hstep := inStep_of_planned hfields hs hs'
  obtain ⟨specs', hspecs', hcodes⟩ :=
    SpecSampler.sampleMany?_of_inStep (fun f => (hstep f).1) hspecs
  exact ⟨specs', traffic_eq_ok_iff.2 ⟨s', hs', hroom, hspecs'⟩, fun f heq =>
    hcodes f ((hstep f).2 heq)⟩

/-- Two configurations draw from the same seed. If they have the same distributions, the traffic of
fewer vehicles is the beginning of the traffic of more. If they have equally many vehicles and
differ in one field only, which is fixed or cycles in both, then all vehicles have the same codes in
the other two fields. -/
theorem draws_steadily :
    (∀ {c c' : Config} {specs : List VehicleSpec}, c.seed = c'.seed →
      (∀ f, c.distribution f = c'.distribution f) → c.vehicles ≤ c'.vehicles →
        c'.traffic = .ok specs →
          c.traffic = .ok (specs.take c.vehicles) ∧
            (specs.take c.vehicles).length = c.vehicles) ∧
      ∀ {c c' : Config} {specs specs' : List VehicleSpec} (f : VehicleSpec.Field),
        c.seed = c'.seed → c.vehicles = c'.vehicles →
          (∀ g, g ≠ f → c.distribution g = c'.distribution g) →
            (c.distribution f).IsPlanned → (c'.distribution f).IsPlanned →
              c.traffic = .ok specs → c'.traffic = .ok specs' →
                ∀ g, g ≠ f → specs.map (·.code g) = specs'.map (·.code g) := by
  constructor
  · intro c c' specs hseed hfields hle h
    have htake := traffic_take hseed hfields hle h
    exact ⟨htake, length_of_traffic htake⟩
  · intro c c' specs specs' f hseed hcount hfields hplanned hplanned' h h' g hg
    obtain ⟨s', hs', -⟩ := traffic_eq_ok_iff.1 h'
    have hplans : ∀ g, c.distribution g = c'.distribution g ∨
        (c.distribution g).IsPlanned ∧ (c'.distribution g).IsPlanned := by
      intro g
      by_cases hgf : g = f
      · exact .inr (hgf ▸ ⟨hplanned, hplanned'⟩)
      · exact .inl (hfields g hgf)
    obtain ⟨specs'', hspecs, hcodes⟩ := exists_traffic_of_planned hseed hcount hplans hs' h
    rw [h'] at hspecs
    cases hspecs
    exact (hcodes g (hfields g hg)).symm

/-- A configuration whose classes pass over every other word, and whose other fields cycle. -/
def choosy : Config :=
  { vehicles := 2, classes := .weighted [1073741824, 5, 1073741824], approaches := .cycle [2, 7],
    turns := .cycle [1, 0], seed := 6 }

/-- The same configuration for the first vehicle alone. -/
def lonely : Config := { choosy with vehicles := 1 }

/-- The same configuration with a fixed approach. -/
def straight : Config := { choosy with approaches := .fixed 1 }

theorem traffic_choosy : choosy.traffic = .ok [⟨0, 0, 2, 1⟩, ⟨1, 2, 7, 0⟩] := by decide +kernel

theorem exists_traffic_straight : ∃ specs, straight.traffic = .ok specs := by
  have hready : SpecSampler.ofConfig straight =
      .ok ⟨.weighted [1073741824, 5, 1073741824], .fixed 1, .cycle [1, 0]⟩ := by decide +kernel
  have hfields : ∀ f, choosy.distribution f = straight.distribution f ∨
      (choosy.distribution f).IsPlanned ∧ (straight.distribution f).IsPlanned := by
    intro f
    cases f <;> decide
  obtain ⟨specs, hspecs, -⟩ :=
    @exists_traffic_of_planned choosy straight _ rfl rfl hfields _ hready traffic_choosy
  exact ⟨specs, hspecs⟩

/-- The traffic of `choosy`, that of its first vehicle alone, and that with a fixed approach. -/
theorem draws_steadily_choosy :
    choosy.traffic = .ok [⟨0, 0, 2, 1⟩, ⟨1, 2, 7, 0⟩] ∧ lonely.traffic = .ok [⟨0, 0, 2, 1⟩] ∧
      ∃ specs, straight.traffic = .ok specs ∧ specs.map (·.code .vclass) = [0, 2] ∧
        specs.map (·.code .turn) = [1, 0] := by
  obtain ⟨hbeginning, hothers⟩ := draws_steadily
  obtain ⟨specs, hspecs⟩ := exists_traffic_straight
  have hlonely := (@hbeginning lonely choosy _ rfl (fun f => by cases f <;> rfl) (Nat.le_succ 1)
    traffic_choosy).1
  have hcodes := @hothers choosy straight _ specs .approach rfl rfl
    (fun g hg => by cases g <;> first | rfl | exact absurd rfl hg) trivial trivial traffic_choosy
    hspecs
  exact ⟨traffic_choosy, hlonely, specs, hspecs, (hcodes .vclass nofun).symm,
    (hcodes .turn nofun).symm⟩

end Config

end Junction
