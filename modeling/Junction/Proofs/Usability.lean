import Junction.Proofs.Proportions

/-!
# Which configurations give traffic

A configuration is validated before its traffic is drawn, and whatever else a distribution needs is
found out only when it is made ready. The two agree on everything but the sum of the weights: the
validation looks at each weight alone, so it accepts weights that do not fit together into a word,
and then the traffic is not drawn but panics. This is the only gap. A configuration that was
accepted and whose weights fit gives all its vehicles, unless there is no room for them.

## Main definitions

* `Distribution.Overflows` — the weights do not fit together into a word
* `Config.IsUsable` — the traffic neither panics nor has a fault other than the lack of room
* `SpecSampler.Starves` — no word of the whole stream counts for a field
* `Config.Explains` — what an outcome says about the configuration

## Main results

* `Sampler.ofDistribution_ne_invalidWeights` — a sum of zero is found out by the validation
* `Config.traffic_cases` — what becomes of the traffic of an accepted configuration
* `Config.isUsable_iff_of_valid` — an accepted configuration can be used if its weights fit
* `Config.validate_overloaded` — the validation accepts one that cannot
-/

namespace Junction

/-- The weights of a distribution do not fit together into a word. -/
def Distribution.Overflows : Distribution → Prop
  | weighted weights => Draw.wordRange ≤ Draw.total (weights.map UInt32.toNat)
  | uniform | fixed _ | cycle _ => False

instance : DecidablePred Distribution.Overflows
  | .weighted _ => inferInstanceAs (Decidable (_ ≤ _))
  | .uniform | .fixed _ | .cycle _ => inferInstanceAs (Decidable False)

namespace Config

/-- The distributions of the fields, in the order in which they are validated and made ready. -/
def fields (c : Config) : List Distribution := [c.classes, c.approaches, c.turns]

/-- The traffic can be drawn: nothing panics, and the only fault is the lack of room. -/
def IsUsable (c : Config) : Prop :=
  c.traffic ≠ .error .weightOverflow ∧
    ∀ fault, c.traffic = .error (.fault fault) → fault = .noMemory

variable {c : Config}

/-- A configuration that is built was accepted. -/
theorem validate_of_build {c₀ : Config} (h : c₀.build = .ok c) : c.validate = .ok () := by
  unfold build at h
  cases hvalidate : c₀.validate with
  | error fault =>
    rw [hvalidate] at h
    cases h
  | ok accepted =>
    rw [hvalidate] at h
    cases h
    exact hvalidate

/-- The fields of an accepted configuration have no problem. -/
theorem problem?_of_valid (hvalid : c.validate = .ok ()) : ∀ d ∈ c.fields, d.problem? = none := by
  have hnone : c.problem? = none := by
    unfold validate at hvalid
    cases hproblem : c.problem? with
    | none => rfl
    | some p =>
      rw [hproblem] at hvalid
      cases hvalid
  unfold problem? at hnone
  simp only [Option.or_eq_none_iff] at hnone
  obtain ⟨hclasses, happroaches, hturns, -⟩ := hnone
  simp [fields, hclasses, happroaches, hturns]

end Config

/-! ### Samplers -/

namespace Sampler

/-- The bound below which a sampler draws a number, if it takes words at all. -/
def bound? : Sampler → Option Nat
  | uniform bound => some bound
  | weighted weights => some (Draw.total weights)
  | fixed _ | cycle _ => none

/-- A distribution without a problem is made ready, unless its weights do not fit. -/
theorem ofDistribution_of_valid {d : Distribution} (hvalid : d.problem? = none) (bound : Nat) :
    (d.Overflows ∧ ofDistribution bound d = .error .weightOverflow) ∨
      (¬ d.Overflows ∧ ∃ s, ofDistribution bound d = .ok s) := by
  unfold ofDistribution
  rw [hvalid]
  cases d with
  | weighted weights =>
    by_cases hover : Draw.wordRange ≤ Draw.total (weights.map UInt32.toNat)
    · exact .inl ⟨hover, if_pos hover⟩
    · exact .inr ⟨hover, _, ofWeights_of_pos (total_pos_of_valid hvalid).2 (Nat.not_le.1 hover)⟩
  | uniform | fixed | cycle => exact .inr ⟨id, _, rfl⟩

/-- Weights are looked at twice, and the first time finds everything wrong with them but a sum that
does not fit. -/
theorem ofDistribution_ne_invalidWeights (bound : Nat) (d : Distribution) :
    ofDistribution bound d ≠ .error (.fault invalidWeights) := by
  intro h
  cases hproblem : d.problem? with
  | none =>
    rcases ofDistribution_of_valid hproblem bound with ⟨-, hover⟩ | ⟨-, s, hs⟩
    · rw [hover] at h
      cases h
    · rw [hs] at h
      cases h
  | some p =>
    have hne : p.fault ≠ invalidWeights := by cases p <;> decide
    unfold ofDistribution at h
    rw [hproblem] at h
    injection h with h
    exact hne (RunProblem.fault.inj h)

end Sampler

/-- The fields of an accepted configuration are made ready, unless the weights of one do not fit. -/
theorem SpecSampler.ofConfig_of_valid {c : Config} (hvalid : c.validate = .ok ()) :
    ((∃ d ∈ c.fields, d.Overflows) ∧ ofConfig c = .error .weightOverflow) ∨
      ((∀ d ∈ c.fields, ¬ d.Overflows) ∧ ∃ samplers, ofConfig c = .ok samplers) := by
  have hfields := Config.problem?_of_valid hvalid
  simp only [Config.fields, List.forall_mem_cons, List.not_mem_nil, false_implies, implies_true,
    and_true, List.exists_mem_cons_iff, false_and, exists_false, or_false] at hfields ⊢
  obtain ⟨hclasses, happroaches, hturns⟩ := hfields
  unfold ofConfig
  rcases Sampler.ofDistribution_of_valid hclasses classCodes with
    ⟨hover, heq⟩ | ⟨hfits₁, s₁, heq₁⟩
  · rw [heq]
    exact .inl ⟨.inl hover, rfl⟩
  rcases Sampler.ofDistribution_of_valid happroaches approachCodes with
    ⟨hover, heq⟩ | ⟨hfits₂, s₂, heq₂⟩
  · rw [heq₁, heq]
    exact .inl ⟨.inr (.inl hover), rfl⟩
  rcases Sampler.ofDistribution_of_valid hturns turnCodes with ⟨hover, heq⟩ | ⟨hfits₃, s₃, heq₃⟩
  · rw [heq₁, heq₂, heq]
    exact .inl ⟨.inr (.inr hover), rfl⟩
  · rw [heq₁, heq₂, heq₃]
    exact .inr ⟨⟨hfits₁, hfits₂, hfits₃⟩, ⟨s₁, s₂, s₃⟩, rfl⟩

/-! ### Endless searches -/

/-- The stream of words repeats after its period. -/
theorem WordStream.wordAt_mod_period (key : Key) (position : Nat) :
    wordAt key (position % period) = wordAt key position := by
  have hblock : UInt64.ofNat (position % period / 16) = UInt64.ofNat (position / 16) := by
    rw [← UInt64.toNat_inj, UInt64.toNat_ofNat', UInt64.toNat_ofNat', period,
      Nat.mod_mul_right_div_self]
    exact Nat.mod_mod _ _
  have hplace : position % period % 16 = position % 16 := Nat.mod_mul_right_mod position 16 _
  simp only [wordAt, hblock, hplace]

namespace Draw

variable {words : Nat → UInt32} {n : Nat}

/-- A search fails if none of its words counts. -/
theorem search?_eq_none_iff (limit position : Nat) :
    search? words n limit position = none ↔
      ∀ k < limit, ofWord? n (words (position + k)).toNat = none := by
  induction limit generalizing position with
  | zero => simp [search?]
  | succ limit ih =>
    rw [Nat.forall_lt_succ_left, search?, Nat.add_zero]
    cases ofWord? n (words position).toNat with
    | some x => simp
    | none => simp [ih, Nat.add_assoc, Nat.add_comm 1]

/-- In a stream that repeats, a number that is not found within a period is never found. -/
theorem ofWord?_of_below?_eq_none (hperiod : ∀ p, words (p % WordStream.period) = words p)
    {position : Nat} (h : below? words n position = none) (p : Nat) :
    ofWord? n (words p).toNat = none := by
  have hpos : 0 < WordStream.period := by decide
  -- A position of the searched period that shows the same word.
  let k := (p + position * (WordStream.period - 1)) % WordStream.period
  have hsame : (position + k) % WordStream.period = p % WordStream.period := by
    have hwhole : position + (p + position * (WordStream.period - 1)) =
        p + position * WordStream.period := by
      rw [Nat.mul_sub_one]
      have := Nat.le_mul_of_pos_right position hpos
      omega
    rw [Nat.add_mod_mod, hwhole, Nat.add_mul_mod_self_right]
  have hnone := (search?_eq_none_iff _ _).1 h k (Nat.mod_lt _ hpos)
  rwa [← hperiod, hsame, hperiod] at hnone

end Draw

namespace SpecSampler

variable {words : Nat → UInt32} {s : SpecSampler}

/-- For one of the fields no word of the stream counts. -/
def Starves (words : Nat → UInt32) (s : SpecSampler) : Prop :=
  ∃ field ∈ [s.classes, s.approaches, s.turns], ∃ n, field.bound? = some n ∧
    ∀ position, Draw.ofWord? n (words position).toNat = none

/-- A sampler that finds no code takes words, and finds no word that counts. -/
theorem bound?_of_sample?_eq_none {field : Sampler} {index position : Nat}
    (h : field.sample? words index position = none) :
    ∃ n, field.bound? = some n ∧ Draw.below? words n position = none := by
  cases field with
  | uniform bound => exact ⟨bound, rfl, Option.map_eq_none_iff.1 h⟩
  | weighted weights => exact ⟨_, rfl, Option.map_eq_none_iff.1 h⟩
  | fixed code => cases h
  | cycle codes => cases h

/-- If a vehicle cannot be drawn, one of its fields starves. -/
theorem starves_of_sample? (hperiod : ∀ p, words (p % WordStream.period) = words p)
    {index position : Nat} (h : s.sample? words index position = none) : s.Starves words := by
  have hstarves : ∀ field ∈ [s.classes, s.approaches, s.turns], ∀ p,
      field.sample? words index p = none → s.Starves words := by
    intro field hfield p hnone
    obtain ⟨n, hbound, hnever⟩ := bound?_of_sample?_eq_none hnone
    exact ⟨field, hfield, n, hbound, Draw.ofWord?_of_below?_eq_none hperiod hnever⟩
  -- The first of the three fields that finds no code.
  cases hclass : s.classes.sample? words index position with
  | none => exact hstarves _ (by simp) _ hclass
  | some vclass =>
    cases happroach : s.approaches.sample? words index vclass.2 with
    | none => exact hstarves _ (by simp) _ happroach
    | some approach =>
      cases hturn : s.turns.sample? words index approach.2 with
      | none => exact hstarves _ (by simp) _ hturn
      | some turn => simp [sample?, hclass, happroach, hturn] at h

/-- A vehicle carries the number for which it is drawn. -/
theorem id_of_sample? {index position : Nat} {drawn : VehicleSpec × Nat}
    (h : s.sample? words index position = some drawn) : drawn.1.id = index := by
  simp only [sample?, Option.bind_eq_bind, Option.bind_eq_some_iff, Option.pure_def,
    Option.some.injEq] at h
  obtain ⟨-, -, -, -, -, -, rfl⟩ := h
  rfl

/-- Vehicles are numbered in the order in which they are drawn, unless a field starves. -/
theorem sampleMany?_cases (hperiod : ∀ p, words (p % WordStream.period) = words p)
    (count index position : Nat) :
    (∃ specs, s.sampleMany? words count index position = some specs ∧
      specs.map VehicleSpec.id = List.range' index count) ∨
      (s.sampleMany? words count index position = none ∧ s.Starves words) := by
  induction count generalizing index position with
  | zero => exact .inl ⟨[], rfl, rfl⟩
  | succ count ih =>
    unfold sampleMany?
    cases hfirst : s.sample? words index position with
    | none => exact .inr ⟨rfl, starves_of_sample? hperiod hfirst⟩
    | some drawn =>
      rcases ih (index + 1) drawn.2 with ⟨specs, hrest, hids⟩ | ⟨hrest, hstarves⟩
      · refine .inl ⟨drawn.1 :: specs, ?_, ?_⟩
        · simp [hrest]
        · rw [List.map_cons, hids, id_of_sample? hfirst, List.range'_succ]
      · refine .inr ⟨?_, hstarves⟩
        simp [hrest]

end SpecSampler

/-! ### The traffic -/

namespace Config

variable {c : Config}

/-- What becomes of the traffic of an accepted configuration. -/
theorem traffic_cases (hvalid : c.validate = .ok ()) :
    ((∃ d ∈ c.fields, d.Overflows) ∧ c.traffic = .error .weightOverflow) ∨
      ((∀ d ∈ c.fields, ¬ d.Overflows) ∧
        ((roomBytes < specBytes * c.vehicles ∧ c.traffic = .error (.fault .noMemory)) ∨
          (specBytes * c.vehicles ≤ roomBytes ∧
            ((∃ specs, c.traffic = .ok specs ∧
              specs.map VehicleSpec.id = List.range c.vehicles) ∨
            (c.traffic = .error .starved ∧ ∃ samplers, SpecSampler.ofConfig c = .ok samplers ∧
              samplers.Starves (WordStream.wordAt (WordStream.expand c.seed))))))) := by
  unfold traffic
  rcases SpecSampler.ofConfig_of_valid hvalid with ⟨hover, heq⟩ | ⟨hfits, samplers, heq⟩
  · rw [heq]
    exact .inl ⟨hover, rfl⟩
  refine .inr ⟨hfits, ?_⟩
  rw [heq]
  by_cases hroom : roomBytes < specBytes * c.vehicles
  · refine .inl ⟨hroom, ?_⟩
    simp only [bind, Except.bind, if_pos hroom]
    rfl
  refine .inr ⟨Nat.not_lt.1 hroom, ?_⟩
  simp only [bind, Except.bind, if_neg hroom]
  rcases SpecSampler.sampleMany?_cases
      (WordStream.wordAt_mod_period (WordStream.expand c.seed)) c.vehicles 0 0 with
    ⟨specs, hspecs, hids⟩ | ⟨hnone, hstarves⟩
  · refine .inl ⟨specs, ?_, hids.trans List.range_eq_range'.symm⟩
    rw [hspecs]
    rfl
  · refine .inr ⟨?_, samplers, rfl, hstarves⟩
    rw [hnone]
    rfl

/-- What an outcome of drawing the traffic says about the configuration. -/
def Explains (c : Config) : Except RunProblem (List VehicleSpec) → Prop
  | .ok specs =>
    specBytes * c.vehicles ≤ roomBytes ∧ specs.map VehicleSpec.id = List.range c.vehicles
  | .error (.fault fault) => fault = .noMemory ∧ roomBytes < specBytes * c.vehicles
  | .error .weightOverflow => ∃ d ∈ c.fields, d.Overflows
  | .error .starved => ∃ samplers, SpecSampler.ofConfig c = .ok samplers ∧
      samplers.Starves (WordStream.wordAt (WordStream.expand c.seed))

/-- A configuration that was accepted, or built, can be used if and only if the weights of each of
its fields fit together into a word. Its traffic is then all its vehicles in order, unless there is
no room for them or no word of its stream counts. -/
theorem isUsable_iff_of_valid
    (haccepted : c.validate = .ok () ∨ ∃ c₀ : Config, c₀.build = .ok c) :
    (c.IsUsable ↔ ∀ d ∈ c.fields, ¬ d.Overflows) ∧ c.Explains c.traffic := by
  have hvalid : c.validate = .ok () := by
    rcases haccepted with hvalid | ⟨c₀, hbuild⟩
    · exact hvalid
    · exact validate_of_build hbuild
  rcases traffic_cases hvalid with ⟨⟨d, hd, hover⟩, heq⟩ | ⟨hfits, hcases⟩
  · rw [IsUsable, heq]
    refine ⟨iff_of_false (fun h => h.1 rfl) fun hfits => hfits d hd hover, d, hd, hover⟩
  -- In the other cases nothing panics, and it is left to say which fault there is, if any.
  rcases hcases with ⟨hroom, heq⟩ | ⟨hroom, ⟨specs, heq, hids⟩ | ⟨heq, hstarves⟩⟩
  · rw [IsUsable, heq]
    exact ⟨iff_of_true ⟨by simp, by simp⟩ hfits, rfl, hroom⟩
  · rw [IsUsable, heq]
    exact ⟨iff_of_true ⟨by simp, by simp⟩ hfits, hroom, hids⟩
  · rw [IsUsable, heq]
    exact ⟨iff_of_true ⟨by simp, by simp⟩ hfits, hstarves⟩

/-- A configuration whose class weights just fit into a word. -/
def brimful : Config := { vehicles := 4, classes := .weighted [0, 4294967294, 0, 1] }

/-- The weights of `brimful` sum up to the largest word, and it can be used. -/
theorem isUsable_brimful :
    (brimful.validate = .ok () ∨ ∃ c₀ : Config, c₀.build = .ok brimful) ∧
      brimful.IsUsable ∧ brimful.Explains brimful.traffic := by
  have haccepted : brimful.validate = .ok () := rfl
  have hfits : ∀ d ∈ brimful.fields, ¬ d.Overflows := by decide
  exact ⟨.inl haccepted, (isUsable_iff_of_valid (.inl haccepted)).imp_left fun h => h.2 hfits⟩

/-- A configuration whose class weights fit into a word each, but not together. -/
def overloaded : Config := { vehicles := 0, classes := .weighted [4294967295, 1] }

/-- The validation accepts `overloaded`, but to draw its traffic, which has no vehicles, panics. -/
theorem validate_overloaded :
    overloaded.validate = .ok () ∧ overloaded.build = .ok overloaded ∧
      overloaded.traffic = .error .weightOverflow ∧ ¬ overloaded.IsUsable :=
  ⟨rfl, rfl, rfl, fun husable => husable.1 rfl⟩

end Config

end Junction
