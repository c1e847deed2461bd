import Mathlib.Data.List.Basic
import Junction.Grading.Test

/-!
# Which tests a graded run comes to

A graded run is described by its trials: which tests were run, from which console, and what has come
of them. The tests of the trials are those that the filter selects, in the order in which they were
given, whatever has come of the earlier ones. The first and the last line and the verdict are read
off the trials.

Which tests a filter selects is said in terms of the texts alone. The path of a test is what follows
the first pair of colons in its name, and an argument of the filter counts unless it begins with two
hyphens.

## Main definitions

* `IsPathOf` — the path that belongs to a name
* `Counts`, `Selects` — which arguments count, and which tests a filter selects
* `Trial`, `Ran` — one run of a test, and the runs of several tests one after the other
* `IsGraded` — what is promised of a graded run

## Main results

* `isPathOf_iff` — every name has one path, and the search for the first pair of colons finds it
* `isSelectedBy_iff` — the tests that are taken are those that the filter selects
* `selects_append` — two filters one after the other select what either of them does
* `exists_ran` — tests that run one after the other make one trial each
* `exists_isGraded` — every graded run is as promised
-/

namespace Junction.Grading

/-! ### Paths -/

/-- A pair of colons. -/
def colons : List Char := [':', ':']

/-- A text is the path of a name: it follows the first pair of colons, or there is no such pair and
it is the whole name. -/
inductive IsPathOf : List Char → List Char → Prop
  /-- What stands before the pair, with the first one of its colons, has no pair in it. -/
  | after (crate path : List Char) (first : ¬ colons <:+: crate ++ [':']) :
      IsPathOf (crate ++ colons ++ path) path
  | whole (name : List Char) (none : ¬ colons <:+: name) : IsPathOf name name

variable {name path : List Char}

theorem infix_cons_iff {c : Char} :
    colons <:+: c :: name ↔ (c = ':' ∧ ∃ rest, name = ':' :: rest) ∨ colons <:+: name := by
  rw [List.infix_cons_iff]
  refine or_congr_left ⟨?_, ?_⟩
  · rintro ⟨rest, heq⟩
    obtain ⟨rfl, rfl⟩ := List.cons.inj heq
    exact ⟨rfl, rest, rfl⟩
  · rintro ⟨rfl, rest, rfl⟩
    exact ⟨rest, rfl⟩

/-- A text that is too short has no pair of colons in it. -/
theorem not_infix_of_short (hlength : name.length < 2) : ¬ colons <:+: name :=
  fun hinfix => Nat.not_le.2 hlength hinfix.length_le

theorem afterColons_eq_none_iff : afterColons name = none ↔ ¬ colons <:+: name := by
  fun_induction afterColons name with
  | case1 => exact iff_of_true rfl (not_infix_of_short (by decide))
  | case2 c => exact iff_of_true rfl (not_infix_of_short (Nat.lt_succ_self 1))
  | case3 c d rest hpair =>
    obtain ⟨rfl, rfl⟩ := hpair
    exact iff_of_false nofun (not_not_intro (infix_cons_iff.2 (.inl ⟨rfl, rest, rfl⟩)))
  | case4 c d rest hne ih =>
    have hnot : ¬ (c = ':' ∧ ∃ rest', d :: rest = ':' :: rest') := by
      rintro ⟨hc, rest', heq⟩
      exact hne ⟨hc, (List.cons.inj heq).1⟩
    rw [ih, infix_cons_iff (c := c), or_iff_right hnot]

/-- The search stops at the first pair of colons. -/
theorem afterColons_eq_some_iff : afterColons name = some path ↔
    ∃ crate, ¬ colons <:+: crate ++ [':'] ∧ name = crate ++ colons ++ path := by
  fun_induction afterColons name with
  | case1 => simp [colons]
  | case2 c =>
    refine ⟨nofun, ?_⟩
    rintro ⟨crate, -, heq⟩
    have hinfix : colons <:+: [c] := ⟨crate, path, heq.symm⟩
    exact absurd hinfix (not_infix_of_short (Nat.lt_succ_self 1))
  | case3 c d rest hpair =>
    obtain ⟨rfl, rfl⟩ := hpair
    constructor
    · rintro ⟨⟩
      exact ⟨[], not_infix_of_short (by decide), rfl⟩
    · rintro ⟨crate, hfirst, heq⟩
      cases crate with
      | nil => simpa [colons] using heq
      | cons c crate =>
        -- The pair at the beginning would be an earlier one.
        obtain ⟨rfl, hrest⟩ := List.cons.inj heq
        refine absurd (infix_cons_iff.2 (.inl ⟨rfl, ?_⟩)) hfirst
        cases crate with
        | nil => exact ⟨[], rfl⟩
        | cons d crate => exact ⟨crate ++ [':'], by rw [← (List.cons.inj hrest).1]; rfl⟩
  | case4 c d rest hne ih =>
    rw [ih]
    constructor
    · rintro ⟨crate, hfirst, heq⟩
      refine ⟨c :: crate, ?_, by rw [heq]; rfl⟩
      rw [List.cons_append, infix_cons_iff, not_or]
      refine ⟨?_, hfirst⟩
      rintro ⟨hc, rest', hrest'⟩
      -- The second character is the first one of what follows.
      refine hne ⟨hc, ?_⟩
      cases crate with
      | nil => exact (List.cons.inj heq).1
      | cons e crate => rw [(List.cons.inj heq).1, (List.cons.inj hrest').1]
    · rintro ⟨crate, hfirst, heq⟩
      cases crate with
      | nil =>
        obtain ⟨hc, hrest⟩ := List.cons.inj heq
        exact absurd ⟨hc, (List.cons.inj hrest).1⟩ hne
      | cons e crate =>
        obtain ⟨rfl, hrest⟩ := List.cons.inj heq
        rw [List.cons_append, infix_cons_iff, not_or] at hfirst
        exact ⟨crate, hfirst.2, hrest⟩

/-- Of three colons the first two are the pair. -/
example : afterColons [':', ':', ':', 'b'] = some [':', 'b'] := rfl

/-- Every name has exactly one path. -/
theorem isPathOf_iff (t : Test) : IsPathOf t.name.toList path ↔ t.path = path := by
  rw [Test.path]
  generalize t.name.toList = name
  constructor
  · rintro (⟨crate, path, hfirst⟩ | ⟨name, hnone⟩)
    · rw [afterColons_eq_some_iff.2 ⟨crate, hfirst, rfl⟩, Option.getD_some]
    · rw [afterColons_eq_none_iff.2 hnone, Option.getD_none]
  · rintro rfl
    cases hfound : afterColons name with
    | none => exact .whole name (afterColons_eq_none_iff.1 hfound)
    | some rest =>
      obtain ⟨crate, hfirst, rfl⟩ := afterColons_eq_some_iff.1 hfound
      exact .after crate rest hfirst

/-! ### Filters -/

/-- An argument counts unless it begins with two hyphens. -/
def Counts (argument : String) : Prop := ¬ ['-', '-'] <+: argument.toList

/-- A filter selects a test: no argument counts, or the path of the test begins with one that
does. -/
def Selects (filter : List String) (t : Test) : Prop :=
  (∀ a ∈ filter, ¬ Counts a) ∨
    ∃ a ∈ filter, Counts a ∧ ∃ path, IsPathOf t.name.toList path ∧ a.toList <+: path

theorem isOption_eq_true_iff {argument : String} :
    isOption argument = true ↔ ¬ Counts argument := by
  rw [isOption, List.isPrefixOf_iff_prefix, Counts, not_not]

theorem mem_wanted_iff {filter : List String} {a : String} :
    a ∈ wanted filter ↔ a ∈ filter ∧ Counts a := by
  rw [wanted, List.mem_filter, Bool.not_eq_true', ← Bool.not_eq_true, isOption_eq_true_iff, not_not]

theorem isSelectedBy_iff {filter : List String} {t : Test} :
    t.isSelectedBy filter = true ↔ Selects filter t := by
  rw [Test.isSelectedBy, Bool.or_eq_true, List.isEmpty_iff, List.any_eq_true,
    List.eq_nil_iff_forall_not_mem]
  refine or_congr ?_ ?_
  · simp only [mem_wanted_iff, not_and]
  · simp only [mem_wanted_iff, List.isPrefixOf_iff_prefix, isPathOf_iff, exists_eq_left', and_assoc]

instance (filter : List String) (t : Test) : Decidable (Selects filter t) :=
  decidable_of_iff _ isSelectedBy_iff

/-- Two filters one after the other select what either of them does, if both have an argument that
counts. -/
theorem selects_append {filter filter' : List String} (h : ∃ a ∈ filter, Counts a)
    (h' : ∃ a ∈ filter', Counts a) (t : Test) :
    Selects (filter ++ filter') t ↔ Selects filter t ∨ Selects filter' t := by
  -- None of the three filters selects everything for want of arguments.
  have hsome : ∀ {l : List String}, (∃ a ∈ l, Counts a) → ¬ ∀ a ∈ l, ¬ Counts a :=
    fun ⟨a, ha, hcounts⟩ hnone => hnone a ha hcounts
  have happend : ∃ a ∈ filter ++ filter', Counts a :=
    h.imp fun a ha => ⟨List.mem_append_left _ ha.1, ha.2⟩
  rw [Selects, Selects, Selects, or_iff_right (hsome happend), or_iff_right (hsome h),
    or_iff_right (hsome h')]
  simp only [List.mem_append, or_and_right, exists_or]

/-! ### Trials -/

/-- One run of a test. -/
structure Trial where
  /-- The test. -/
  test : Test
  /-- The console before it. -/
  before : Console
  /-- Whether the test has passed. -/
  passed : Bool
  /-- The console after it. -/
  after : Console

/-- Tests were run one after the other, each from the console that the one before it has left. -/
inductive Ran : Console → List Trial → Console → Prop
  | nil (c : Console) : Ran c [] c
  | cons {k : Trial} {trials : List Trial} {c c' : Console} (before : k.before = c)
      (run : k.test.run c = (k.passed, k.after)) (rest : Ran k.after trials c') :
      Ran c (k :: trials) c'

theorem runAll_cons (t : Test) (rest : List Test) (c : Console) : runAll (t :: rest) c =
    ((runAll rest (t.run c).2).1 + (t.run c).1.toNat, (runAll rest (t.run c).2).2) := rfl

/-- Tests that run one after the other make one trial each, in their order, and as many of them are
counted as have passed. -/
theorem exists_ran (tests : List Test) (c : Console) : ∃ trials, trials.map Trial.test = tests ∧
    Ran c trials (runAll tests c).2 ∧ (runAll tests c).1 = trials.countP Trial.passed := by
  induction tests generalizing c with
  | nil => exact ⟨[], rfl, .nil c, rfl⟩
  | cons t rest ih =>
    obtain ⟨trials, htests, hran, hcount⟩ := ih (t.run c).2
    refine ⟨⟨t, c, (t.run c).1, (t.run c).2⟩ :: trials, by rw [List.map_cons, htests],
      .cons rfl rfl hran, ?_⟩
    rw [List.countP_cons, ← hcount, runAll_cons]
    dsimp only
    cases (t.run c).1 <;> rfl

theorem Ran.run {c c' : Console} {trials : List Trial} (h : Ran c trials c') {k : Trial}
    (hk : k ∈ trials) : k.test.run k.before = (k.passed, k.after) := by
  induction h with
  | nil => cases hk
  | cons before run rest ih =>
    rcases List.mem_cons.1 hk with rfl | hk
    · exact before ▸ run
    · exact ih hk

/-! ### Graded runs -/

/-- What is promised of a graded run from a console, with the verdict and the console after it. -/
structure IsGraded (tests : List Test) (filter : List String) (c : Console) (verdict : Bool)
    (c' : Console) (trials : List Trial) : Prop where
  /-- The tests that the filter selects are run, each of them once, in the order in which they were
  given, and no others. -/
  selected : trials.map Trial.test = tests.filter (Selects filter ·)
  /-- They are run after a first line that shows how many they are, and before a last line with the
  verdict, the number of those that have passed, and the number of those that have failed. -/
  ran : ∃ left, c' = left.printLine
      ("test result: " ++ (if verdict then "ok" else "FAILED") ++ ". " ++
        toString (trials.countP (·.passed)) ++ " passed; " ++
        toString (trials.countP (!·.passed)) ++ " failed") ∧
    Ran (c.printLine ("Running " ++ toString trials.length ++ " test" ++
      if trials.length = 1 then "" else "s")) trials left
  /-- The two numbers of the last line add up to the one of the first line. -/
  total : trials.countP (·.passed) + trials.countP (!·.passed) = trials.length
  /-- The verdict is good if and only if all of them have passed. -/
  verdict_iff : verdict = true ↔ ∀ k ∈ trials, k.passed = true
  /-- The test of a body passes if and only if the thread of the body exits with `0`: the body has
  returned, or it has exited with this code. However the body ends, the run goes on. -/
  plain : ∀ k ∈ trials, ∀ name body, k.test = .ofBody name body →
    let o := body.run (k.before.print ("test " ++ name ++ " ... "))
    (k.passed = true ↔ o.ending ∈ [Ending.returned, Ending.exited 0]) ∧
      k.after = o.console.printLine (if k.passed then "ok" else "FAILED")
  /-- With another filter behind this one, the tests of both are selected, if both have arguments
  that count. -/
  union : (∃ a ∈ filter, Counts a) → ∀ filter', (∃ a ∈ filter', Counts a) →
    ∀ t, t.isSelectedBy (filter ++ filter') = true ↔ Selects filter t ∨ Selects filter' t

theorem Ending.exitCode_eq_zero_iff {e : Ending} :
    e.exitCode = 0 ↔ e ∈ [Ending.returned, Ending.exited 0] := by
  cases e <;> simp [exitCode]

theorem Test.run_ofBody (name : String) (body : Body) (c : Console) :
    (Test.ofBody name body).run c =
      let o := body.run (c.print ("test " ++ name ++ " ... "))
      (o.ending.exitCode == 0,
        o.console.printLine (if o.ending.exitCode == 0 then "ok" else "FAILED")) :=
  rfl

theorem startLine_eq (total : Nat) :
    startLine total = "Running " ++ toString total ++ " test" ++ if total = 1 then "" else "s" :=
  rfl

theorem resultLine_eq (total passed : Nat) : resultLine total passed =
    "test result: " ++ (if (total == passed) then "ok" else "FAILED") ++ ". " ++ toString passed ++
      " passed; " ++ toString (total - passed) ++ " failed" :=
  rfl

/-- What a graded run comes to, in terms of the run of the selected tests. -/
theorem grade_eq (tests : List Test) (filter : List String) (c : Console) :
    grade tests filter c =
      let selected := tests.filter (·.isSelectedBy filter)
      let result := runAll selected (c.printLine (startLine selected.length))
      (selected.length == result.1,
        result.2.printLine (resultLine selected.length result.1)) := rfl

theorem countP_add_countP_not (trials : List Trial) :
    trials.countP (·.passed) + trials.countP (!·.passed) = trials.length := by
  rw [List.length_eq_countP_add_countP (·.passed)]
  simp

theorem countP_eq_length_iff (trials : List Trial) :
    trials.length = trials.countP (·.passed) ↔ ∀ k ∈ trials, k.passed = true := by
  rw [eq_comm, List.countP_eq_length]

/-- Every graded run, with whatever tests and arguments, runs the tests that its filter selects and
tells how many of them have passed; it is good if all of them have. -/
theorem exists_isGraded (tests : List Test) (filter : List String) (c : Console) :
    ∃ trials, IsGraded tests filter c (grade tests filter c).1 (grade tests filter c).2 trials := by
  obtain ⟨trials, htests, hran, hcount⟩ := exists_ran (tests.filter (·.isSelectedBy filter))
    (c.printLine (startLine (tests.filter (·.isSelectedBy filter)).length))
  -- From here on all numbers are those of the trials.
  have hlength : (tests.filter (·.isSelectedBy filter)).length = trials.length := by
    rw [← htests, List.length_map]
  have htotal := countP_add_countP_not trials
  rw [hlength, startLine_eq] at hran
  rw [hlength] at hcount
  have hverdict : (grade tests filter c).1 = (trials.length == trials.countP (·.passed)) := by
    simp only [grade_eq, hlength, hcount]
  refine ⟨trials, ?_, ⟨_, ?_, hran⟩, htotal, ?_, ?_, ?_⟩
  · rw [htests]
    exact List.filter_congr fun t _ => by rw [Bool.eq_iff_iff, isSelectedBy_iff, decide_eq_true_iff]
  · have hfailed : trials.length - trials.countP (·.passed) = trials.countP (!·.passed) := by omega
    simp only [grade_eq, hlength, hcount, resultLine_eq, hfailed, ← startLine_eq]
  · rw [hverdict, beq_iff_eq, countP_eq_length_iff]
  · intro k hk name body hbody
    have hrun := hran.run hk
    rw [hbody, Test.run_ofBody, Prod.mk.injEq] at hrun
    obtain ⟨hpassed, hafter⟩ := hrun
    refine ⟨?_, by rw [← hafter, hpassed]⟩
    rw [← hpassed, beq_iff_eq, Ending.exitCode_eq_zero_iff]
  · intro h filter' h' t
    rw [isSelectedBy_iff, selects_append h h']

end Junction.Grading
