import Mathlib.Algebra.BigOperators.Group.Finset.Sigma
import Mathlib.Algebra.Order.Floor.Div
import Mathlib.Order.Interval.Finset.Nat
import Junction.Traffic

/-!
# Codes in proportion to their weights

A number below a sum of weights is drawn from a word by multiplying, and words that would favour a
number are passed over. What is left is exactly fair: every number gets the same number of words,
however the sum divides the range of a word. The number then picks the alternative in whose share it
lies, and the shares are as long as the weights. So the words that give a code are counted by its
weight, codes without weight never come, and a uniform choice is the one with all weights equal.

## Main definitions

* `Draw.wordsWith` — the words with a property, among all values of a word
* `Draw.code?` — the code that a word gives, if the word counts
* `Sampler.IsProportional` — a sampler draws codes in proportion to weights

## Main results

* `Draw.card_wordsWith_number` — every number gets the same number of words
* `Draw.share_eq_iff` — the shares follow each other and are as long as the weights
* `Draw.search?_eq_some_iff` — the first word that counts decides
* `Sampler.isProportional_of_valid` — weighted and uniform distributions
-/

namespace Junction

namespace Draw

/-! ### The words of a number -/

/-- The words with a property, among all values of a word. -/
def wordsWith (p : Nat → Prop) [DecidablePred p] : Finset Nat :=
  {word ∈ Finset.range wordRange | p word}

variable {n x word : Nat}

/-- Of each product's lower part, as much counts as holds whole multiples of the bound. -/
theorem le_zone_iff (hpos : 0 < n) (hle : n ≤ wordRange) {lower : Nat} :
    lower ≤ zone n ↔ lower < n * (wordRange / n) := by
  have hmod : (wordRange - n) % n = wordRange % n := (Nat.mod_eq_sub_mod hle).symm
  have hdiv := Nat.div_add_mod wordRange n
  have hlt := Nat.mod_lt wordRange hpos
  rw [zone, hmod]
  omega

/-- The words that give a number are those whose products begin the number's stretch. -/
theorem ofWord?_eq_some_iff (hpos : 0 < n) (hle : n ≤ wordRange) :
    ofWord? n word = some x ↔
      x * wordRange ≤ n * word ∧ n * word < x * wordRange + n * (wordRange / n) := by
  have hrange : 0 < wordRange := hpos.trans_le hle
  have hwhole : n * (wordRange / n) ≤ wordRange := Nat.mul_div_le wordRange n
  have hsplit := Nat.div_add_mod (n * word) wordRange
  simp only [ofWord?, le_zone_iff hpos hle, Nat.mul_comm word n, Option.ite_none_right_eq_some,
    Option.some.injEq]
  rw [Nat.mul_comm] at hsplit
  constructor
  · rintro ⟨hcounts, rfl⟩
    omega
  · rintro ⟨hfrom, hto⟩
    have hx : n * word / wordRange = x := by
      rw [Nat.div_eq_iff hrange]
      omega
    rw [hx] at hsplit
    exact ⟨by omega, hx⟩

/-- A number below the bound gets as many words as the bound fits into the range of a word. -/
theorem card_wordsWith_ofWord? (hle : n ≤ wordRange) (hx : x < n) :
    (wordsWith (ofWord? n · = some x)).card = wordRange / n := by
  have hpos : 0 < n := Nat.zero_lt_of_lt hx
  have hinterval : wordsWith (ofWord? n · = some x) =
      Finset.Ico (x * wordRange ⌈/⌉ n) ((x * wordRange + n * (wordRange / n)) ⌈/⌉ n) := by
    ext word
    have hto : word < (x * wordRange + n * (wordRange / n)) ⌈/⌉ n ↔
        n * word < x * wordRange + n * (wordRange / n) := by
      rw [← Nat.not_le, ceilDiv_le_iff_le_smul hpos, smul_eq_mul, Nat.not_le]
    rw [wordsWith, Finset.mem_filter, Finset.mem_range, Finset.mem_Ico, hto,
      ceilDiv_le_iff_le_smul hpos, smul_eq_mul, ofWord?_eq_some_iff hpos hle,
      and_iff_right_iff_imp]
    -- The last stretch ends within the range of a word.
    rintro ⟨-, hto⟩
    have hwhole : n * (wordRange / n) ≤ wordRange := Nat.mul_div_le wordRange n
    have hlast : (x + 1) * wordRange ≤ n * wordRange := Nat.mul_le_mul_right _ hx
    rw [Nat.succ_mul] at hlast
    exact Nat.lt_of_mul_lt_mul_left (hto.trans_le (by omega))
  have hlength : (x * wordRange + n * (wordRange / n)) ⌈/⌉ n =
      x * wordRange ⌈/⌉ n + wordRange / n := by
    rw [Nat.ceilDiv_eq_add_pred_div, Nat.ceilDiv_eq_add_pred_div, ← Nat.add_mul_div_left _ _ hpos]
    congr 1
    omega
  rw [hinterval, Nat.card_Ico, hlength, Nat.add_sub_cancel_left]

/-- A word never gives a number beyond the bound. -/
theorem lt_of_ofWord? (hpos : 0 < n) (hle : n ≤ wordRange) (hword : word < wordRange)
    (h : ofWord? n word = some x) : x < n := by
  obtain ⟨hfrom, -⟩ := (ofWord?_eq_some_iff hpos hle).1 h
  have hbelow : n * word < n * wordRange := Nat.mul_lt_mul_of_pos_left hword hpos
  exact Nat.lt_of_mul_lt_mul_right (hfrom.trans_lt hbelow)

/-- Numbers of any kind get as many words each as any other number. -/
theorem card_wordsWith_number (hpos : 0 < n) (hle : n ≤ wordRange) (p : Nat → Prop)
    [DecidablePred p] :
    (wordsWith fun word => ∃ x ∈ ofWord? n word, p x).card =
      {x ∈ Finset.range n | p x}.card * (wordRange / n) := by
  have hmaps : Set.MapsTo (ofWord? n) (wordsWith fun word => ∃ x ∈ ofWord? n word, p x)
      ({x ∈ Finset.range n | p x}.map Function.Embedding.some) := by
    intro word hword
    simp only [wordsWith, Finset.coe_filter, Finset.mem_range, Set.mem_ofPred_eq] at hword
    obtain ⟨hword, x, hx, hp⟩ := hword
    rw [Option.mem_def] at hx
    simp [hx, hp, lt_of_ofWord? hpos hle hword hx]
  rw [Finset.card_eq_sum_card_fiberwise hmaps, Finset.sum_map]
  refine Finset.sum_const_nat fun x hx => ?_
  obtain ⟨hx, hp⟩ := Finset.mem_filter.1 hx
  rw [← card_wordsWith_ofWord? hle (Finset.mem_range.1 hx), wordsWith, Finset.filter_filter]
  -- Of the words in question, those that give this number are all that do.
  refine congrArg Finset.card (Finset.filter_congr fun word _ => ?_)
  simp only [Function.Embedding.some_apply, and_iff_right_iff_imp]
  exact fun hword => ⟨x, hword, hp⟩

/-- The other words are what is left of the range when the bound has been taken from it as often as
possible. -/
theorem card_wordsWith_none (hpos : 0 < n) (hle : n ≤ wordRange) :
    (wordsWith (ofWord? n · = none)).card = wordRange % n := by
  have hcount := card_wordsWith_number hpos hle fun _ => True
  have hall := Finset.card_filter_add_card_filter_not (s := Finset.range wordRange)
    (ofWord? n · = none)
  have hother : {word ∈ Finset.range wordRange | ¬ ofWord? n word = none} =
      wordsWith fun word => ∃ x ∈ ofWord? n word, True := by
    refine Finset.filter_congr fun word _ => ?_
    simp [Option.ne_none_iff_exists']
  rw [Finset.filter_true, Finset.card_range] at hcount
  rw [hother, hcount, Finset.card_range] at hall
  have hdiv := Nat.div_add_mod wordRange n
  rw [wordsWith]
  omega

/-! ### The share of an alternative -/

theorem total_eq_sum (weights : List Nat) : total weights = weights.sum :=
  List.sum_eq_foldl_nat.symm

theorem total_cons (w : Nat) (rest : List Nat) : total (w :: rest) = w + total rest := by
  rw [total_eq_sum, total_eq_sum, List.sum_cons]

theorem sums_add (before w : Nat) (weights : List Nat) :
    sums (before + w) weights = (sums w weights).map (before + ·) := by
  induction weights generalizing w with
  | nil => rfl
  | cons w' rest ih => rw [sums, sums, List.map_cons, Nat.add_assoc, ih]

/-- The first alternative has the numbers below its weight, and the others share the rest. -/
theorem share_cons {w x : Nat} {rest : List Nat} (hx : x < total (w :: rest)) :
    share (w :: rest) x = if x < w then 0 else share rest (x - w) + 1 := by
  cases rest with
  | nil =>
    rw [total_cons, total_eq_sum, List.sum_nil, Nat.add_zero] at hx
    rw [if_pos hx]
    rfl
  | cons w' rest =>
    have hsums : sums 0 (w :: w' :: rest).dropLast =
        w :: (sums 0 (w' :: rest).dropLast).map (w + ·) := by
      rw [List.dropLast_cons_cons, sums, Nat.zero_add, ← sums_add, Nat.add_zero]
    rw [share, share, hsums, List.countP_cons, List.countP_map]
    by_cases hlt : x < w
    · have hnone : ∀ y ∈ sums 0 (w' :: rest).dropLast,
          ¬ ((fun y => decide (y ≤ x)) ∘ (w + ·)) y = true := by
        intro y _
        simp only [Function.comp_apply, decide_eq_true_eq]
        omega
      rw [List.countP_eq_zero.2 hnone, if_neg (by simpa using hlt), if_pos hlt]
    · rw [if_pos (by simpa using hlt), if_neg hlt]
      refine congrArg (· + 1) (List.countP_congr fun y _ => ?_)
      simp only [Function.comp_apply, decide_eq_true_eq]
      omega

/-- The shares follow each other, each as long as its weight. -/
theorem share_eq_iff {weights : List Nat} {x : Nat} (hx : x < total weights) (i : Nat) :
    share weights x = i ↔ total (weights.take i) ≤ x ∧ x < total (weights.take (i + 1)) := by
  induction weights generalizing x i with
  | nil => exact absurd hx (Nat.not_lt_zero x)
  | cons w rest ih =>
    rw [share_cons hx]
    rw [total_cons] at hx
    cases i with
    | zero =>
      rw [List.take_zero, List.take_succ_cons, List.take_zero, total_cons, total_eq_sum,
        List.sum_nil]
      split <;> omega
    | succ i =>
      rw [List.take_succ_cons, List.take_succ_cons, total_cons, total_cons]
      split
      · omega
      · next hle =>
        have hrest := ih (x := x - w) (by omega) i
        omega

theorem total_take_succ {weights : List Nat} {i w : Nat} (h : weights[i]? = some w) :
    total (weights.take (i + 1)) = total (weights.take i) + w := by
  obtain ⟨hi, rfl⟩ := List.getElem?_eq_some_iff.1 h
  rw [total_eq_sum, total_eq_sum, List.sum_take_succ]

theorem total_take_le (weights : List Nat) (i : Nat) : total (weights.take i) ≤ total weights := by
  rw [total_eq_sum, total_eq_sum, ← List.sum_take_add_sum_drop weights i]
  exact Nat.le_add_right _ _

/-- A number lies in the share of one of the alternatives. -/
theorem share_lt {weights : List Nat} {x : Nat} (hx : x < total weights) :
    share weights x < weights.length := by
  obtain ⟨hfrom, -⟩ := (share_eq_iff hx _).1 rfl
  by_contra hlength
  rw [List.take_of_length_le (Nat.not_lt.1 hlength)] at hfrom
  omega

/-- The share of an alternative is as long as its weight. -/
theorem card_share {weights : List Nat} {i w : Nat} (h : weights[i]? = some w) :
    {x ∈ Finset.range (total weights) | share weights x = i}.card = w := by
  have hinterval : {x ∈ Finset.range (total weights) | share weights x = i} =
      Finset.Ico (total (weights.take i)) (total (weights.take (i + 1))) := by
    ext x
    rw [Finset.mem_filter, Finset.mem_range, Finset.mem_Ico]
    have hle := total_take_le weights (i + 1)
    constructor
    · rintro ⟨hx, hshare⟩
      exact (share_eq_iff hx i).1 hshare
    · rintro ⟨hfrom, hto⟩
      have hx := hto.trans_le hle
      exact ⟨hx, (share_eq_iff hx i).2 ⟨hfrom, hto⟩⟩
  rw [hinterval, Nat.card_Ico, total_take_succ h, Nat.add_sub_cancel_left]

/-! ### The code of a word -/

/-- The code that a word gives in proportion to weights, if the word counts. -/
def code? (weights : List Nat) (word : Nat) : Option UInt8 :=
  (ofWord? (total weights) word).map fun x => UInt8.ofNat (share weights x)

section Codes

variable {weights : List Nat}

/-- With no more alternatives than codes, no alternative is cut when it is made a code. -/
theorem toNat_share (hcodes : weights.length ≤ UInt8.size) {x : Nat} (hx : x < total weights) :
    (UInt8.ofNat (share weights x)).toNat = share weights x :=
  UInt8.toNat_ofNat_of_lt' ((share_lt hx).trans_le hcodes)

/-- The words of a code are those that give a number in its share. -/
theorem code?_eq_some_iff (hcodes : weights.length ≤ UInt8.size) (hpos : 0 < total weights)
    (hfits : total weights < wordRange) {word : Nat} (hword : word < wordRange) (code : UInt8) :
    code? weights word = some code ↔
      ∃ x ∈ ofWord? (total weights) word, share weights x = code.toNat := by
  rw [code?, Option.map_eq_some_iff]
  refine exists_congr fun x => and_congr_right fun hx => ?_
  have hlt := lt_of_ofWord? hpos hfits.le hword hx
  rw [← UInt8.toNat_inj, toNat_share hcodes hlt]

/-- A code gets words in proportion to its weight; one beyond the weights gets none. -/
theorem card_wordsWith_code? (hcodes : weights.length ≤ UInt8.size) (hpos : 0 < total weights)
    (hfits : total weights < wordRange) (code : UInt8) :
    (wordsWith (code? weights · = some code)).card =
      weights.getD code.toNat 0 * (wordRange / total weights) := by
  have hwords : wordsWith (code? weights · = some code) =
      wordsWith fun word => ∃ x ∈ ofWord? (total weights) word, share weights x = code.toNat :=
    Finset.filter_congr fun word hword =>
      code?_eq_some_iff hcodes hpos hfits (Finset.mem_range.1 hword) code
  -- The numbers that give the code are those in its share, and each has equally many words.
  rw [hwords, card_wordsWith_number hpos hfits.le]
  refine congrArg (· * (wordRange / total weights)) ?_
  rw [List.getD_eq_getElem?_getD]
  cases hweight : weights[code.toNat]? with
  | some w => exact card_share hweight
  | none =>
    rw [Option.getD_none, Finset.card_eq_zero, Finset.filter_eq_empty_iff]
    intro x hx hshare
    have hlt := share_lt (Finset.mem_range.1 hx)
    have hbeyond := List.getElem?_eq_none_iff.1 hweight
    omega

end Codes

/-! ### The first word that counts -/

/-- A search ends with the first word that counts, if one comes in time. -/
theorem search?_eq_some_iff (words : Nat → UInt32) (n limit position x next : Nat) :
    search? words n limit position = some (x, next) ↔
      ∃ passed < limit, next = position + passed + 1 ∧
        (∀ k < passed, ofWord? n (words (position + k)).toNat = none) ∧
        ofWord? n (words (position + passed)).toNat = some x := by
  induction limit generalizing position with
  | zero => simp [search?]
  | succ limit ih =>
    rw [search?]
    cases hfirst : ofWord? n (words position).toNat with
    | some y =>
      constructor
      · intro h
        cases h
        exact ⟨0, Nat.zero_lt_succ _, rfl, fun k hk => absurd hk (Nat.not_lt_zero k), hfirst⟩
      · rintro ⟨passed, -, rfl, hpassed, hcounts⟩
        cases passed with
        | zero =>
          rw [Nat.add_zero, hfirst] at hcounts
          cases hcounts
          rfl
        | succ passed =>
          have hnone := hpassed 0 (Nat.zero_lt_succ _)
          rw [Nat.add_zero, hfirst] at hnone
          cases hnone
    | none =>
      rw [ih]
      constructor
      · rintro ⟨passed, hlt, rfl, hpassed, hcounts⟩
        refine ⟨passed + 1, Nat.succ_lt_succ hlt, by omega, fun k hk => ?_, ?_⟩
        · cases k with
          | zero => exact hfirst
          | succ k =>
            rw [Nat.add_comm k, ← Nat.add_assoc]
            exact hpassed k (Nat.lt_of_succ_lt_succ hk)
        · rw [Nat.add_comm passed, ← Nat.add_assoc]
          exact hcounts
      · rintro ⟨passed, hlt, rfl, hpassed, hcounts⟩
        cases passed with
        | zero =>
          rw [Nat.add_zero, hfirst] at hcounts
          cases hcounts
        | succ passed =>
          refine ⟨passed, Nat.lt_of_succ_lt_succ hlt, by omega, fun k hk => ?_, ?_⟩
          · rw [Nat.add_assoc, Nat.add_comm 1]
            exact hpassed (k + 1) (Nat.succ_lt_succ hk)
          · rw [Nat.add_assoc, Nat.add_comm 1]
            exact hcounts

end Draw

namespace Sampler

open Draw

/-- A sampler draws codes in proportion to weights, one for each code. -/
structure IsProportional (s : Sampler) (weights : List Nat) : Prop where
  /-- The sampler passes over the words that do not count, and the first one that counts gives its
  code. -/
  draws : ∀ words index position code next,
    s.sample? words index position = some (code, next) ↔
      ∃ passed < WordStream.period, next = position + passed + 1 ∧
        (∀ k < passed, code? weights (words (position + k)).toNat = none) ∧
        code? weights (words (position + passed)).toNat = some code
  /-- Of all words, each code gets its weight times as many as a number gets; and a code beyond the
  weights gets none. -/
  accepted : ∀ code, (wordsWith (code? weights · = some code)).card =
    weights.getD code.toNat 0 * (wordRange / total weights)
  /-- The words that do not count are those that are left over. -/
  rejected : (wordsWith (code? weights · = none)).card = wordRange % total weights
  /-- The place of a weight is a code as it is. -/
  uncut : ∀ x < total weights, (UInt8.ofNat (share weights x)).toNat = share weights x
  /-- A code without weight is never drawn. -/
  never : ∀ words index position code next, s.sample? words index position = some (code, next) →
    0 < weights.getD code.toNat 0

variable {weights : List Nat}

/-- A sampler with weights draws codes in proportion to them. -/
theorem isProportional_weighted (hcodes : weights.length ≤ UInt8.size) (hpos : 0 < total weights)
    (hfits : total weights < wordRange) : (weighted weights).IsProportional weights := by
  have hdraws : ∀ words index position code next,
      (weighted weights).sample? words index position = some (code, next) ↔
        ∃ passed < WordStream.period, next = position + passed + 1 ∧
          (∀ k < passed, code? weights (words (position + k)).toNat = none) ∧
          code? weights (words (position + passed)).toNat = some code := by
    intro words index position code next
    simp only [sample?, below?, code?, Option.map_eq_some_iff, Option.map_eq_none_iff, Prod.exists,
      Prod.mk.injEq, search?_eq_some_iff]
    constructor
    · rintro ⟨x, _, ⟨passed, hlt, rfl, hpassed, hcounts⟩, rfl, rfl⟩
      exact ⟨passed, hlt, rfl, hpassed, x, hcounts, rfl⟩
    · rintro ⟨passed, hlt, rfl, hpassed, x, hcounts, rfl⟩
      exact ⟨x, _, ⟨passed, hlt, rfl, hpassed, hcounts⟩, rfl, rfl⟩
  refine ⟨hdraws, card_wordsWith_code? hcodes hpos hfits, ?_, fun x => toNat_share hcodes, ?_⟩
  · rw [← card_wordsWith_none hpos hfits.le]
    exact congrArg Finset.card (Finset.filter_congr fun word _ => Option.map_eq_none_iff)
  · intro words index position code next hdraw
    obtain ⟨passed, -, -, -, hgives⟩ := (hdraws words index position code next).1 hdraw
    have hmem : (words (position + passed)).toNat ∈ wordsWith (code? weights · = some code) :=
      Finset.mem_filter.2 ⟨Finset.mem_range.2 (UInt32.toNat_lt_size _), hgives⟩
    have hcard := Finset.card_pos.2 ⟨_, hmem⟩
    rw [card_wordsWith_code? hcodes hpos hfits] at hcard
    exact Nat.pos_of_mul_pos_right hcard

theorem total_replicate (n : Nat) : total (List.replicate n 1) = n := by
  rw [total_eq_sum, List.sum_replicate, smul_eq_mul, Nat.mul_one]

theorem share_replicate {n x : Nat} (hx : x < n) : share (List.replicate n 1) x = x := by
  rw [share_eq_iff (by rwa [total_replicate]), List.take_replicate, List.take_replicate,
    total_replicate, total_replicate]
  omega

/-- A uniform choice is a weighted one with equal weights. -/
theorem sample?_uniform {n : Nat} (hpos : 0 < n) (hle : n ≤ wordRange) (words : Nat → UInt32)
    (index position : Nat) : (uniform n).sample? words index position =
      (weighted (List.replicate n 1)).sample? words index position := by
  simp only [sample?, total_replicate]
  refine Option.map_congr fun ⟨x, next⟩ hdraw => ?_
  obtain ⟨passed, -, -, -, hcounts⟩ :=
    (search?_eq_some_iff words n WordStream.period position x next).1 hdraw
  have hx := lt_of_ofWord? hpos hle (UInt32.toNat_lt_size _) hcounts
  simp only [share_replicate hx]

theorem getD_replicate (n i : Nat) : (List.replicate n 1).getD i 0 = if i < n then 1 else 0 := by
  rw [List.getD_eq_getElem?_getD, List.getElem?_replicate]
  split <;> rfl

/-- A uniform sampler draws codes with equal weights. -/
theorem isProportional_uniform {n : Nat} (hpos : 0 < n) (hcodes : n ≤ UInt8.size) :
    (uniform n).IsProportional (List.replicate n 1) := by
  have hrange : UInt8.size < wordRange := by decide
  have hweighted : (weighted (List.replicate n 1)).IsProportional (List.replicate n 1) :=
    isProportional_weighted (by rwa [List.length_replicate]) (by rwa [total_replicate])
      (by rw [total_replicate]; exact hcodes.trans_lt hrange)
  have hsame := sample?_uniform hpos (hcodes.trans hrange.le)
  refine ⟨?_, hweighted.accepted, hweighted.rejected, hweighted.uncut, ?_⟩
  · intro words index position code next
    rw [hsame]
    exact hweighted.draws words index position code next
  · intro words index position code next hdraw
    rw [hsame] at hdraw
    exact hweighted.never words index position code next hdraw

/-- Weights without a problem are no more than there are codes, and one of them is positive. -/
theorem total_pos_of_valid {weights : List UInt32}
    (hvalid : (Distribution.weighted weights).problem? = none) :
    weights.length ≤ UInt8.size ∧ 0 < total (weights.map UInt32.toNat) := by
  simp only [Distribution.problem?] at hvalid
  split at hvalid
  · cases hvalid
  · next hmany =>
    refine ⟨Nat.not_lt.1 hmany, Nat.pos_of_ne_zero fun hzero => ?_⟩
    rw [total_eq_sum, List.sum_eq_zero_iff_forall_eq_nat] at hzero
    have hall : weights.all (· == 0) = true := by
      rw [List.all_eq_true]
      intro w hw
      rw [beq_iff_eq, ← UInt32.toNat_inj]
      exact hzero w.toNat (List.mem_map_of_mem hw)
    rw [if_pos hall] at hvalid
    cases hvalid

theorem ofWeights_of_pos {weights : List Nat} (hpos : 0 < total weights)
    (hfits : total weights < wordRange) : ofWeights weights = .ok (weighted weights) := by
  rw [ofWeights, if_neg (Nat.not_le.2 hfits), if_neg hpos.ne']

/-- Weighted distributions whose weights fit together into a word, and uniform ones for a field with
any number of valid codes, give samplers that draw each code from as many words as its weight says.
A weight of zero gives no word at all, wherever it stands. -/
theorem isProportional_of_valid (bound : Nat) :
    (∀ weights : List UInt32, (Distribution.weighted weights).problem? = none →
      total (weights.map UInt32.toNat) < wordRange →
      ofDistribution bound (.weighted weights) = .ok (weighted (weights.map UInt32.toNat)) ∧
        (weighted (weights.map UInt32.toNat)).IsProportional (weights.map UInt32.toNat)) ∧
    (0 < bound → bound ≤ UInt8.size →
      ofDistribution bound .uniform = .ok (uniform bound) ∧
        (uniform bound).IsProportional (List.replicate bound 1) ∧
        ∀ code, (wordsWith (code? (List.replicate bound 1) · = some code)).card =
          if code.toNat < bound then wordRange / bound else 0) := by
  refine ⟨fun weights hvalid hfits => ?_, fun hpos hcodes => ?_⟩
  · obtain ⟨hcodes, hpos⟩ := total_pos_of_valid hvalid
    rw [← List.length_map (f := UInt32.toNat)] at hcodes
    refine ⟨?_, isProportional_weighted hcodes hpos hfits⟩
    simp only [ofDistribution, hvalid, ofWeights_of_pos hpos hfits]
  · have huniform := isProportional_uniform hpos hcodes
    refine ⟨rfl, huniform, fun code => ?_⟩
    rw [huniform.accepted, getD_replicate, total_replicate, ite_mul, Nat.one_mul, Nat.zero_mul]

/-- Of five parts, code `1` gets three, and the codes without weight beside it get nothing. -/
theorem isProportional_of_gaps :
    (Distribution.weighted [0, 3, 0, 2]).problem? = none ∧
      total ([0, 3, 0, 2].map UInt32.toNat) < wordRange ∧
      (wordsWith (code? [0, 3, 0, 2] · = some 1)).card = 3 * (wordRange / 5) ∧
      (wordsWith (code? [0, 3, 0, 2] · = some 2)).card = 0 := by
  have hvalid : (Distribution.weighted [0, 3, 0, 2]).problem? = none := by decide
  have hfits : total ([0, 3, 0, 2].map UInt32.toNat) < wordRange := by decide
  obtain ⟨-, hproportional⟩ := (isProportional_of_valid classCodes).1 _ hvalid hfits
  exact ⟨hvalid, hfits, hproportional.accepted 1, hproportional.accepted 2⟩

end Sampler

end Junction
