/-
What an accepted comparison of two windows promises, and when it keeps the promise.

The figures of a report are told by counting units: a nearest rank stays within a bound when enough
units do. The promise is made in these terms, over the lists of a window themselves. Two of the
figures are rounded before they are held against their limits, and the promise is kept except where
it is the rounding that carries them over.
-/
import Autopilot.EfficiencyReports
import Autopilot.Lib.Keyed
import Mathlib.Tactic.FieldSimp
import Mathlib.Tactic.NormNum
import Mathlib.Tactic.Ring

set_option autoImplicit false

namespace Autopilot
namespace EfficiencyReports

open Ranks (IsNearestRank rankPlace)
open RolloutUsage (Coverage RolloutEfficiencyEstimate TokenUsage)

/-! ## The promise -/

/-- No two estimates have one source. -/
def Distinct (input : BuildEfficiencyReportInput) : Prop :=
  (input.estimates.map fun estimate => estimate.source).Nodup

instance (input : BuildEfficiencyReportInput) : Decidable (Distinct input) :=
  inferInstanceAs (Decidable (List.Nodup _))

/-- The estimate of a unit. -/
def estimateOf (input : BuildEfficiencyReportInput) (record : WorkUnitRecord) :
    Option RolloutEfficiencyEstimate :=
  Keyed.lookup (fun estimate => estimate.source) input.estimates record.source

/-- The completed units whose estimate meets the condition. -/
def countUnits (input : BuildEfficiencyReportInput) (p : RolloutEfficiencyEstimate → Bool) : ℕ :=
  (completedRecords input).countP fun record => (estimateOf input record).any p

/-- What the completed units used, unit by unit. -/
def usedTokens (input : BuildEfficiencyReportInput) : List ℕ :=
  (completedRecords input).filterMap fun record =>
    (estimateOf input record).map fun estimate => totalUsageTokens estimate.usage

/-- Each completed unit has an estimate that is sufficient. -/
def Covered (input : BuildEfficiencyReportInput) : Prop :=
  ∀ record ∈ completedRecords input, ∃ estimate,
    estimateOf input record = some estimate ∧ estimate.coverage = .estimated

/-- The first-pass rate, in percent. -/
def firstPassRate (input : BuildEfficiencyReportInput) : ℚ :=
  100 * firstPassAccepted input / (completedRecords input).length

/-- What an accepted comparison says of the windows. -/
structure Sound (baseline candidate : BuildEfficiencyReportInput) : Prop where
  baselineCovered : Covered baseline
  candidateCovered : Covered candidate
  /-- Half of the units use 70 percent of the median unit at most. -/
  cheaper : ∀ median, IsNearestRank (1 / 2) (usedTokens baseline) median →
    (completedRecords candidate).length ≤ 2 * countUnits candidate fun estimate =>
      10 * totalUsageTokens estimate.usage ≤ 7 * median
  /-- A tenth of the units have a large context at most. -/
  smallContexts :
    10 * (countUnits candidate fun estimate => 150000 ≤ estimate.usage.inputTokens) ≤
      (completedRecords candidate).length
  nothingEscaped : ∀ record ∈ candidate.workUnits,
    record.escapedSeverity ≠ some .critical ∧ record.escapedSeverity ≠ some .high
  /-- The first-pass rate is two points worse at most. -/
  accepting : firstPassRate baseline - firstPassRate candidate ≤ 2

/-! ## Units and their estimates -/

section units

variable {input : BuildEfficiencyReportInput}

theorem estimateBySource_eq (h : Distinct input) (record : WorkUnitRecord) :
    estimateBySource input.estimates record.source = estimateOf input record := by
  unfold estimateBySource estimateOf
  rw [List.findRev?_eq_find?_reverse,
    ← Keyed.lookup_perm (List.reverse_perm input.estimates) (by rwa [List.map_reverse,
      List.nodup_reverse]) record.source]
  rfl

/-- The units that are joined with an estimate, in one pass over the units. -/
theorem completed_eq (h : Distinct input) :
    completed input = (completedRecords input).filterMap fun record =>
      (estimateOf input record).map fun estimate => (record, estimate) := by
  rw [List.filterMap_eq_flatMap_toList]
  unfold completed
  refine List.flatMap_congr fun record _ => ?_
  rw [estimateBySource_eq h]
  cases estimateOf input record <;> rfl

theorem totalTokens_eq (h : Distinct input) : totalTokens input = usedTokens input := by
  unfold totalTokens usages usedTokens
  rw [completed_eq h, List.map_filterMap, List.map_filterMap]
  refine List.filterMap_congr fun record _ => ?_
  cases estimateOf input record <;> rfl

/-- Units are counted as they are joined. -/
theorem countP_completed (h : Distinct input) (p : RolloutEfficiencyEstimate → Bool) :
    (completed input).countP (fun item => p item.2) = countUnits input p := by
  unfold countUnits
  rw [completed_eq h, List.countP_filterMap]
  refine List.countP_congr fun record _ => ?_
  cases estimateOf input record <;> rfl

theorem countP_usages (h : Distinct input) (p : TokenUsage → Bool) :
    (usages input).countP p = countUnits input fun estimate => p estimate.usage := by
  unfold usages
  rw [List.countP_map, ← countP_completed h]
  rfl

theorem countP_totalTokens (h : Distinct input) (p : ℕ → Bool) :
    (totalTokens input).countP p = countUnits input fun estimate =>
      p (totalUsageTokens estimate.usage) := by
  unfold totalTokens
  rw [List.countP_map, countP_usages h]
  rfl

theorem countP_inputTokens (h : Distinct input) (p : ℕ → Bool) :
    (inputTokens input).countP p = countUnits input fun estimate =>
      p estimate.usage.inputTokens := by
  unfold inputTokens
  rw [List.countP_map, countP_usages h]
  rfl

/-- A covered unit is counted under a condition or under its opposite. -/
theorem countUnits_add_not (hcovered : Covered input) (p : RolloutEfficiencyEstimate → Bool) :
    countUnits input p + countUnits input (fun estimate => !p estimate) =
      (completedRecords input).length := by
  unfold countUnits
  rw [List.length_eq_countP_add_countP fun record => (estimateOf input record).any p]
  congr 1
  refine List.countP_congr fun record hrecord => ?_
  obtain ⟨estimate, hestimate, -⟩ := hcovered record hrecord
  rw [hestimate, Option.any_some, Option.any_some]
  simp

theorem length_completed (h : Distinct input) (hcovered : Covered input) :
    (completed input).length = (completedRecords input).length := by
  rw [completed_eq h, List.filterMap_length_eq_length]
  intro record hrecord
  obtain ⟨estimate, hestimate, -⟩ := hcovered record hrecord
  rw [hestimate]
  rfl

/-- Coverage is kept when there are completed units and all of them are covered. -/
theorem coverageLost_eq_false_iff (h : Distinct input) :
    coverageLost input = false ↔ completedRecords input ≠ [] ∧ Covered input := by
  unfold coverageLost
  rw [Bool.or_eq_false_iff, Bool.or_eq_false_iff, decide_eq_false_iff_not, decide_eq_false_iff_not,
    not_not, List.any_eq_false, List.length_eq_zero_iff]
  constructor
  · rintro ⟨⟨hne, hlength⟩, hsufficient⟩
    refine ⟨hne, fun record hrecord => ?_⟩
    rw [completed_eq h, List.filterMap_length_eq_length] at hlength
    have hsome := hlength record hrecord
    rw [Option.isSome_map] at hsome
    obtain ⟨estimate, hestimate⟩ := Option.isSome_iff_exists.1 hsome
    have hmem : (record, estimate) ∈ completed input := by
      rw [completed_eq h, List.mem_filterMap]
      exact ⟨record, hrecord, by rw [hestimate]; rfl⟩
    have hcoverage := hsufficient _ hmem
    rw [decide_eq_true_iff] at hcoverage
    refine ⟨estimate, hestimate, ?_⟩
    cases hc : estimate.coverage with
    | estimated => rfl
    | insufficientEvidence => exact absurd hc hcoverage
  · rintro ⟨hne, hcovered⟩
    refine ⟨⟨hne, length_completed h hcovered⟩, fun item hitem => ?_⟩
    rw [completed_eq h, List.mem_filterMap] at hitem
    obtain ⟨record, hrecord, hjoined⟩ := hitem
    obtain ⟨estimate, hestimate, hcoverage⟩ := hcovered record hrecord
    rw [hestimate, Option.map_some, Option.some.injEq] at hjoined
    subst hjoined
    rw [decide_eq_true_iff, hcoverage]
    exact Coverage.noConfusion

end units

/-! ## Nearest ranks -/

section ranks

/-- The nearest rank of the code stands at the place of its share. -/
theorem ordered_rankPlace {values : List ℕ} (hvalues : values ≠ []) (share : ℚ) (hshare : 0 < share)
    (hone : share ≤ 1) :
    (Ranks.ordered values)[rankPlace share values.length]? = some (nearestRank values share) := by
  have hlength : 0 < values.length := List.length_pos_iff.2 hvalues
  have hplace : rankPlace share values.length < (Ranks.ordered values).length := by
    rw [Ranks.length_ordered]
    exact Ranks.rankPlace_lt_length hshare hone hlength
  have hindex : (max 0 (⌈share * values.length⌉ - 1)).toNat = rankPlace share values.length := by
    unfold rankPlace
    omega
  unfold nearestRank
  rw [if_neg (by omega)]
  dsimp only
  rw [Ranks.length_ordered, hindex, List.getElem?_eq_getElem hplace, Option.getD_some]

variable {input : BuildEfficiencyReportInput}

theorem length_totalTokens (h : Distinct input) (hcovered : Covered input) :
    (totalTokens input).length = (completedRecords input).length := by
  unfold totalTokens usages
  rw [List.length_map, List.length_map, length_completed h hcovered]

theorem length_inputTokens (h : Distinct input) (hcovered : Covered input) :
    (inputTokens input).length = (completedRecords input).length := by
  unfold inputTokens usages
  rw [List.length_map, List.length_map, length_completed h hcovered]

section covered

variable (h : Distinct input) (hcovered : Covered input) (hne : completedRecords input ≠ [])

include h hcovered hne

theorem totalTokens_ne_nil : totalTokens input ≠ [] := by
  rw [← List.length_pos_iff, length_totalTokens h hcovered]
  exact List.length_pos_iff.2 hne

/-- The median of a window is the nearest rank of what its units used. -/
theorem medianPerCompleted_isNearestRank :
    IsNearestRank (1 / 2) (usedTokens input) (medianPerCompleted input) := by
  rw [← totalTokens_eq h]
  exact Ranks.atPlace_isNearestRank (by norm_num)
    (ordered_rankPlace (totalTokens_ne_nil h hcovered hne) _ (by norm_num) (by norm_num))

/-- The median stays within a bound when half of the units do. -/
theorem medianPerCompleted_le_iff (bound : ℕ) :
    medianPerCompleted input ≤ bound ↔
      (completedRecords input).length ≤ 2 * countUnits input fun estimate =>
        totalUsageTokens estimate.usage ≤ bound := by
  have hrank := ordered_rankPlace (totalTokens_ne_nil h hcovered hne) (1 / 2) (by norm_num)
    (by norm_num)
  unfold medianPerCompleted
  rw [Ranks.atPlace_le_iff (by norm_num) hrank, countP_totalTokens h,
    length_totalTokens h hcovered, ← Nat.cast_le (α := ℚ)]
  push_cast
  constructor
  · intro hcount
    linarith
  · intro hcount
    linarith

/-- The ninetieth percentile stays below a bound when no more than a tenth of the units reach it. -/
theorem inputP90_lt_iff (bound : ℕ) :
    inputP90 input < bound ↔
      10 * (countUnits input fun estimate => bound ≤ estimate.usage.inputTokens) ≤
        (completedRecords input).length := by
  have hinputs : inputTokens input ≠ [] := by
    rw [← List.length_pos_iff, length_inputTokens h hcovered]
    exact List.length_pos_iff.2 hne
  have hrank := ordered_rankPlace hinputs (9 / 10) (by norm_num) (by norm_num)
  have hsum := countUnits_add_not hcovered fun estimate => estimate.usage.inputTokens < bound
  have hnot : countUnits input (fun estimate => !decide (estimate.usage.inputTokens < bound)) =
      countUnits input fun estimate => bound ≤ estimate.usage.inputTokens := by
    refine congrArg (countUnits input) (funext fun estimate => ?_)
    rw [← decide_not]
    exact decide_eq_decide.2 not_lt
  rw [hnot] at hsum
  unfold inputP90
  rw [Ranks.atPlace_lt_iff (by norm_num) hrank, countP_inputTokens h,
    length_inputTokens h hcovered, ← hsum]
  generalize countUnits input (fun estimate => decide (estimate.usage.inputTokens < bound)) = below
  generalize countUnits input (fun estimate => decide (bound ≤ estimate.usage.inputTokens)) = large
  rw [← Nat.cast_le (α := ℚ)]
  push_cast
  constructor
  · intro hcount
    linarith
  · intro hcount
    linarith

end covered

end ranks

/-! ## Acceptance -/

/-- The comparison of two windows is accepted. -/
def Accepted (baseline candidate : BuildEfficiencyReportInput) : Prop :=
  ∃ comparison, compareWindows baseline candidate = .ok comparison ∧
    comparison.status = .accepted

/-- The windows pass whatever is not rounded. -/
structure PassesUnrounded (baseline candidate : BuildEfficiencyReportInput) : Prop where
  baselineCovered : Covered baseline
  candidateCovered : Covered candidate
  baselineSamples : 20 ≤ ordinarySamples baseline ∧ 5 ≤ highRiskSamples baseline
  candidateSamples : 20 ≤ ordinarySamples candidate ∧ 5 ≤ highRiskSamples candidate
  median : 0 < medianPerCompleted baseline
  nothingEscaped : escaped candidate .critical + escaped candidate .high = 0
  retries : retriesExhausted candidate ≤ retriesExhausted baseline
  incomplete : incompleteUnits candidate ≤ incompleteUnits baseline
  contexts : inputP90 candidate < 150000

/-- A figure misses its limit, and the rounding carries it over. -/
structure CarriedOver (baseline candidate : BuildEfficiencyReportInput) : Prop where
  passes : PassesUnrounded baseline candidate
  /-- The median has come down by 29.995 percent at least. -/
  reduction : 100000 * medianPerCompleted candidate ≤ 70005 * medianPerCompleted baseline
  /-- The first-pass rates are two points apart at most when each is rounded to two places. -/
  rates : ⌊100 * firstPassRate baseline + 1 / 2⌋ - ⌊100 * firstPassRate candidate + 1 / 2⌋ ≤ 200
  missed : 7 * medianPerCompleted baseline < 10 * medianPerCompleted candidate ∨
    2 < firstPassRate baseline - firstPassRate candidate

section acceptance

variable {baseline candidate : BuildEfficiencyReportInput}

theorem completedRecords_ne_nil {input : BuildEfficiencyReportInput}
    (h : 20 ≤ ordinarySamples input) : completedRecords input ≠ [] := by
  intro hnil
  unfold ordinarySamples at h
  rw [hnil] at h
  exact absurd h (by decide)

theorem reasonIf_eq_nil (condition : Bool) (reason : String) :
    reasonIf condition reason = [] ↔ condition = false := by
  unfold reasonIf
  cases condition with
  | false => exact ⟨fun _ => rfl, fun _ => rfl⟩
  | true => exact ⟨fun h => (nomatch h), fun h => (nomatch h)⟩

/-- A comparison is accepted when there is no reason against it. -/
theorem status_accepted_iff (before after : EfficiencyReport) :
    (compareEfficiencyWindows before after).status = .accepted ↔
      evidenceReasons before after = [] ∧ qualityReasons before after = [] ∧
        savingsReasons before after = [] := by
  have hpos : ∀ reasons : List String, ¬0 < reasons.length ↔ reasons = [] := fun reasons => by
    rw [Nat.not_lt, Nat.le_zero, List.length_eq_zero_iff]
  unfold compareEfficiencyWindows
  dsimp only
  rw [← hpos, ← hpos, ← hpos]
  split
  · exact ⟨fun h => (nomatch h), fun h => absurd ‹_› h.1⟩
  · split
    · exact ⟨fun h => (nomatch h), fun h => absurd ‹_› h.2.1⟩
    · split
      · exact ⟨fun h => (nomatch h), fun h => absurd ‹_› h.2.2⟩
      · exact ⟨fun _ => ⟨‹_›, ‹_›, ‹_›⟩, fun _ => rfl⟩

/-- A reduction that is rounded to 30 percent is 29.995 percent at least. -/
theorem roundPercent_reduction {before after : ℕ} (hbefore : 0 < before) :
    ¬roundPercent ((1 - (after : ℚ) / before) * 100) < 30 ↔ 100000 * after ≤ 70005 * before := by
  have hpos : (0 : ℚ) < before := Nat.cast_pos.2 hbefore
  have hround : ¬roundPercent ((1 - (after : ℚ) / before) * 100) < 30 ↔
      (3000 : ℤ) ≤ ⌊(1 - (after : ℚ) / before) * 100 * 100 + 1 / 2⌋ := by
    unfold roundPercent
    rw [not_lt, le_div_iff₀ (by norm_num)]
    norm_cast
  have hshare : (3000 : ℚ) ≤ (1 - (after : ℚ) / before) * 100 * 100 + 1 / 2 ↔
      100000 * ((after : ℚ) / before) ≤ 70005 := by
    constructor
    · intro h
      linarith
    · intro h
      linarith
  rw [hround, Int.le_floor, Int.cast_ofNat, hshare, mul_div_assoc', div_le_iff₀ hpos]
  norm_cast

theorem escaped_eq_zero_iff (input : BuildEfficiencyReportInput) :
    escaped input .critical + escaped input .high = 0 ↔ ∀ record ∈ input.workUnits,
      record.escapedSeverity ≠ some .critical ∧ record.escapedSeverity ≠ some .high := by
  unfold escaped
  rw [Nat.add_eq_zero_iff, List.length_eq_zero_iff, List.length_eq_zero_iff,
    List.filter_eq_nil_iff, List.filter_eq_nil_iff]
  simp only [decide_eq_true_eq]
  exact forall₂_and.symm

theorem firstPassAcceptancePct_eq {input : BuildEfficiencyReportInput}
    (hne : completedRecords input ≠ []) :
    (reportOf input).quality.firstPassAcceptancePct =
      ⌊100 * firstPassRate input + 1 / 2⌋ / 100 := by
  have hlength : (completedRecords input).length ≠ 0 := fun h => hne (List.length_eq_zero_iff.1 h)
  have hrate : (firstPassAccepted input : ℚ) / (completedRecords input).length * 100 * 100 =
      100 * firstPassRate input := by
    unfold firstPassRate
    ring
  calc (reportOf input).quality.firstPassAcceptancePct
      = roundPercent ((firstPassAccepted input : ℚ) / (completedRecords input).length * 100) :=
        if_neg hlength
    _ = ⌊100 * firstPassRate input + 1 / 2⌋ / 100 := by
        unfold roundPercent
        rw [hrate]

/-- The evidence that an accepted comparison has. -/
theorem evidenceReasons_eq_nil_iff (hb : Distinct baseline) (hc : Distinct candidate) :
    evidenceReasons (reportOf baseline) (reportOf candidate) = [] ↔
      (Covered baseline ∧ Covered candidate) ∧
        ((20 ≤ ordinarySamples baseline ∧ 5 ≤ highRiskSamples baseline) ∧
          (20 ≤ ordinarySamples candidate ∧ 5 ≤ highRiskSamples candidate)) ∧
        0 < medianPerCompleted baseline := by
  have hlost : ∀ input, (reportOf input).coverage = .insufficientEvidence ↔
      ¬coverageLost input = false := by
    intro input
    change (if coverageLost input then Coverage.insufficientEvidence else .estimated) = _ ↔ _
    cases coverageLost input with
    | false => exact ⟨fun h => (nomatch h), fun h => absurd rfl h⟩
    | true => exact ⟨fun _ h => (nomatch h), fun _ => rfl⟩
  have hmedian : medianReduction (reportOf baseline) (reportOf candidate) = none ↔
      ¬0 < medianPerCompleted baseline := by
    unfold medianReduction
    change (if medianPerCompleted baseline ≤ 0 then none else some _) = none ↔ _
    by_cases h : medianPerCompleted baseline ≤ 0
    · rw [if_pos h]
      exact ⟨fun _ => by omega, fun _ => rfl⟩
    · rw [if_neg h]
      exact ⟨fun hsome => (nomatch hsome), fun hpos => absurd (by omega) hpos⟩
  have henough : enoughSamples (reportOf baseline) (reportOf candidate) = true ↔
      (20 ≤ ordinarySamples baseline ∧ 5 ≤ highRiskSamples baseline) ∧
        (20 ≤ ordinarySamples candidate ∧ 5 ≤ highRiskSamples candidate) := by
    unfold enoughSamples
    rw [decide_eq_true_iff, and_assoc]
    rfl
  unfold evidenceReasons
  rw [List.append_eq_nil_iff, List.append_eq_nil_iff, reasonIf_eq_nil, reasonIf_eq_nil,
    reasonIf_eq_nil, decide_eq_false_iff_not, decide_eq_false_iff_not, Bool.not_eq_false', henough,
    hlost, hlost, hmedian, not_or, not_not, not_not, not_not, coverageLost_eq_false_iff hb,
    coverageLost_eq_false_iff hc]
  constructor
  · rintro ⟨⟨⟨hbaseline, hcandidate⟩, hsamples⟩, hpos⟩
    exact ⟨⟨hbaseline.2, hcandidate.2⟩, hsamples, hpos⟩
  · rintro ⟨⟨hbaseline, hcandidate⟩, hsamples, hpos⟩
    exact ⟨⟨⟨⟨completedRecords_ne_nil hsamples.1.1, hbaseline⟩,
      completedRecords_ne_nil hsamples.2.1, hcandidate⟩, hsamples⟩, hpos⟩

/-- The quality that an accepted comparison keeps. -/
theorem qualityReasons_eq_nil_iff (hb : completedRecords baseline ≠ [])
    (hc : completedRecords candidate ≠ []) :
    qualityReasons (reportOf baseline) (reportOf candidate) = [] ↔
      escaped candidate .critical + escaped candidate .high = 0 ∧
        ⌊100 * firstPassRate baseline + 1 / 2⌋ - ⌊100 * firstPassRate candidate + 1 / 2⌋ ≤ 200 ∧
        retriesExhausted candidate ≤ retriesExhausted baseline ∧
        incompleteUnits candidate ≤ incompleteUnits baseline := by
  have hrates : ¬2 < (reportOf baseline).quality.firstPassAcceptancePct -
        (reportOf candidate).quality.firstPassAcceptancePct ↔
      ⌊100 * firstPassRate baseline + 1 / 2⌋ - ⌊100 * firstPassRate candidate + 1 / 2⌋ ≤ 200 := by
    rw [firstPassAcceptancePct_eq hb, firstPassAcceptancePct_eq hc, not_lt, ← sub_div,
      div_le_iff₀ (by norm_num)]
    norm_cast
  unfold qualityReasons
  rw [List.append_eq_nil_iff, List.append_eq_nil_iff, List.append_eq_nil_iff, reasonIf_eq_nil,
    reasonIf_eq_nil, reasonIf_eq_nil, reasonIf_eq_nil, decide_eq_false_iff_not,
    decide_eq_false_iff_not, decide_eq_false_iff_not, decide_eq_false_iff_not, hrates,
    Nat.not_lt, Nat.not_lt, Nat.not_lt, Nat.le_zero, and_assoc, and_assoc]
  rfl

/-- The savings that an accepted comparison shows. -/
theorem savingsReasons_eq_nil_iff (hmedian : 0 < medianPerCompleted baseline) :
    savingsReasons (reportOf baseline) (reportOf candidate) = [] ↔
      inputP90 candidate < 150000 ∧
        100000 * medianPerCompleted candidate ≤ 70005 * medianPerCompleted baseline := by
  have hreduction : medianReduction (reportOf baseline) (reportOf candidate) =
      some (roundPercent
        ((1 - (medianPerCompleted candidate : ℚ) / medianPerCompleted baseline) * 100)) :=
    if_neg (Nat.not_le.2 hmedian)
  unfold savingsReasons
  rw [List.append_eq_nil_iff, reasonIf_eq_nil, reasonIf_eq_nil, hreduction, Option.any_some,
    decide_eq_false_iff_not, decide_eq_false_iff_not, roundPercent_reduction hmedian, Nat.not_le]
  rfl

/-- **What is accepted**: the windows pass whatever is not rounded, and the rounded figures. -/
theorem accepted_iff (hb : Distinct baseline) (hc : Distinct candidate) :
    Accepted baseline candidate ↔ PassesUnrounded baseline candidate ∧
      100000 * medianPerCompleted candidate ≤ 70005 * medianPerCompleted baseline ∧
      ⌊100 * firstPassRate baseline + 1 / 2⌋ - ⌊100 * firstPassRate candidate + 1 / 2⌋ ≤ 200 := by
  unfold Accepted
  rw [compareWindows_eq]
  constructor
  · rintro ⟨comparison, hcomparison, hstatus⟩
    cases hcomparison
    obtain ⟨hevidence, hquality, hsavings⟩ := (status_accepted_iff _ _).1 hstatus
    obtain ⟨hcovered, hsamples, hmedian⟩ := (evidenceReasons_eq_nil_iff hb hc).1 hevidence
    obtain ⟨hescaped, hrates, hretries, hincomplete⟩ :=
      (qualityReasons_eq_nil_iff (completedRecords_ne_nil hsamples.1.1)
        (completedRecords_ne_nil hsamples.2.1)).1 hquality
    obtain ⟨hcontexts, hreduction⟩ := (savingsReasons_eq_nil_iff hmedian).1 hsavings
    exact ⟨⟨hcovered.1, hcovered.2, hsamples.1, hsamples.2, hmedian, hescaped, hretries,
      hincomplete, hcontexts⟩, hreduction, hrates⟩
  · rintro ⟨hpasses, hreduction, hrates⟩
    refine ⟨_, rfl, (status_accepted_iff _ _).2 ⟨?_, ?_, ?_⟩⟩
    · exact (evidenceReasons_eq_nil_iff hb hc).2 ⟨⟨hpasses.baselineCovered,
        hpasses.candidateCovered⟩, ⟨hpasses.baselineSamples, hpasses.candidateSamples⟩,
        hpasses.median⟩
    · exact (qualityReasons_eq_nil_iff (completedRecords_ne_nil hpasses.baselineSamples.1)
        (completedRecords_ne_nil hpasses.candidateSamples.1)).2
        ⟨hpasses.nothingEscaped, hrates, hpasses.retries, hpasses.incomplete⟩
    · exact (savingsReasons_eq_nil_iff hpasses.median).2 ⟨hpasses.contexts, hreduction⟩

/-- Of windows that pass whatever is not rounded, the promise comes to the two figures that
are. -/
theorem sound_iff (hb : Distinct baseline) (hc : Distinct candidate)
    (hpasses : PassesUnrounded baseline candidate) :
    Sound baseline candidate ↔
      10 * medianPerCompleted candidate ≤ 7 * medianPerCompleted baseline ∧
        firstPassRate baseline - firstPassRate candidate ≤ 2 := by
  have hbne := completedRecords_ne_nil hpasses.baselineSamples.1
  have hcne := completedRecords_ne_nil hpasses.candidateSamples.1
  have hrank := medianPerCompleted_isNearestRank hb hpasses.baselineCovered hbne
  have hhalf : 10 * medianPerCompleted candidate ≤ 7 * medianPerCompleted baseline ↔
      (completedRecords candidate).length ≤ 2 * countUnits candidate fun estimate =>
        10 * totalUsageTokens estimate.usage ≤ 7 * medianPerCompleted baseline := by
    have hbound : ∀ tokens : ℕ, tokens ≤ 7 * medianPerCompleted baseline / 10 ↔
        10 * tokens ≤ 7 * medianPerCompleted baseline := fun tokens => by omega
    have hcount := medianPerCompleted_le_iff hc hpasses.candidateCovered hcne
      (7 * medianPerCompleted baseline / 10)
    simp only [hbound] at hcount
    exact hcount
  constructor
  · intro hsound
    exact ⟨hhalf.2 (hsound.cheaper _ hrank), hsound.accepting⟩
  · rintro ⟨hcheaper, haccepting⟩
    refine ⟨hpasses.baselineCovered, hpasses.candidateCovered, fun median hmedian => ?_,
      (inputP90_lt_iff hc hpasses.candidateCovered hcne 150000).1 hpasses.contexts,
      (escaped_eq_zero_iff candidate).1 hpasses.nothingEscaped, haccepting⟩
    rw [hmedian.unique hrank]
    exact hhalf.1 hcheaper

/-- **An accepted comparison keeps its promise** unless a figure that misses its limit is carried
over by the rounding. -/
theorem accepted_sound_iff (hb : Distinct baseline) (hc : Distinct candidate) :
    (Accepted baseline candidate → Sound baseline candidate) ↔
      ¬CarriedOver baseline candidate := by
  rw [accepted_iff hb hc]
  constructor
  · rintro hsound ⟨hpasses, hreduction, hrates, hmissed⟩
    obtain ⟨hcheaper, haccepting⟩ :=
      (sound_iff hb hc hpasses).1 (hsound ⟨hpasses, hreduction, hrates⟩)
    rcases hmissed with hmissed | hmissed
    · omega
    · exact absurd haccepting (not_le.2 hmissed)
  · rintro hcarried ⟨hpasses, hreduction, hrates⟩
    rw [sound_iff hb hc hpasses]
    by_contra hmissed
    refine hcarried ⟨hpasses, hreduction, hrates, ?_⟩
    rw [not_and_or, Nat.not_le, not_le] at hmissed
    exact hmissed

end acceptance

/-! ## Small windows -/

/-- An estimate of a run that used so many tokens. -/
def sampleEstimate (inputTokens outputTokens : ℕ) : RolloutEfficiencyEstimate where
  source := js "rollout"
  rootSessionId := none
  threadSource := js "unknown"
  usage := ⟨inputTokens, 0, outputTokens, 0⟩
  tokenEvents := 1
  turnCount := 1
  toolCalls := .number 0
  toolCallCounts := .empty
  subagentCalls := .number 0
  pollCalls := .number 0
  compactions := 0
  startedAt := none
  endedAt := none
  totalWallMs := none
  replayEventsExcluded := 0
  parseErrors := 0
  coverage := .estimated

/-- A completed unit of the run. -/
def sampleUnit (risk : WorkUnitRisk) : WorkUnitRecord where
  source := js "rollout"
  profile := .dev
  descriptor := ⟨js "unit", .boundedImplementation, risk⟩
  status := .completed
  firstPassAccepted := true
  escapedSeverity := none
  retryExhausted := false

/-- Twenty ordinary units and five of high risk, all in one run. -/
def sampleWindow (inputTokens outputTokens : ℕ) : BuildEfficiencyReportInput where
  estimates := [sampleEstimate inputTokens outputTokens]
  workUnits := List.replicate 20 (sampleUnit .ordinary) ++ List.replicate 5 (sampleUnit .high)
  windowSince := []
  windowUntil := []
  generatedAt := []

/-- Half the tokens are accepted, and rightly. -/
theorem accepted_sound_half :
    Accepted (sampleWindow 15000 5000) (sampleWindow 7500 2500) ∧
      Sound (sampleWindow 15000 5000) (sampleWindow 7500 2500) := by
  have haccepted : Accepted (sampleWindow 15000 5000) (sampleWindow 7500 2500) :=
    ⟨_, compareWindows_eq _ _, by decide +kernel⟩
  have hmissed : ¬(7 * medianPerCompleted (sampleWindow 15000 5000) <
        10 * medianPerCompleted (sampleWindow 7500 2500) ∨
      2 < firstPassRate (sampleWindow 15000 5000) - firstPassRate (sampleWindow 7500 2500)) := by
    decide +kernel
  exact ⟨haccepted, (accepted_sound_iff (by decide) (by decide)).2 (fun h => hmissed h.missed)
    haccepted⟩

/-- From 20000 tokens down to 14001 is less than 30 percent, and accepted. -/
theorem accepted_short_reduction : ¬∀ baseline candidate : BuildEfficiencyReportInput,
    Distinct baseline → Distinct candidate → Accepted baseline candidate →
      Sound baseline candidate := by
  intro h
  have hdistinct : Distinct (sampleWindow 15000 5000) := by decide
  have haccepted : Accepted (sampleWindow 15000 5000) (sampleWindow 9001 5000) :=
    ⟨_, compareWindows_eq _ _, by decide +kernel⟩
  have hcovered := (coverageLost_eq_false_iff hdistinct).1 (by decide +kernel)
  have hmedian : medianPerCompleted (sampleWindow 15000 5000) = 20000 := by decide +kernel
  have hrank := medianPerCompleted_isNearestRank hdistinct hcovered.2 hcovered.1
  rw [hmedian] at hrank
  have hcheaper := (h _ _ hdistinct (by decide) haccepted).cheaper _ hrank
  revert hcheaper
  decide +kernel

end EfficiencyReports
end Autopilot
