/-
What the windows of finished work say of how many tokens a unit of work takes.

A window has units of work, and the estimates that were read from the rollout logs of their runs.
A report joins the two by source and keeps counts, sums, nearest ranks and one rate, the first-pass
acceptance, rounded to two places. Two reports are compared: without enough evidence nothing is
said, worse quality is a regression, and what is left is accepted when the median has come down far
enough and the contexts stay small.

This module is `efficiencyReport.ts`. Its arithmetic is that of the exact rationals.
-/
import Autopilot.Handoff
import Autopilot.Lib.Ranks
import Autopilot.RolloutUsage

set_option autoImplicit false

namespace Autopilot
namespace EfficiencyReports

open RolloutUsage (CountValue Coverage RolloutEfficiencyEstimate TokenUsage addCount)

/-! ## Units of work -/

/-- `WorkUnitClass`. -/
inductive WorkUnitClass where
  | deterministicCheck | mechanicalChange | boundedImplementation | researchOrDesign | review
  | highRisk
  deriving DecidableEq

/-- `WORK_UNIT_CLASSES`. -/
def workUnitClasses : List WorkUnitClass :=
  [.deterministicCheck, .mechanicalChange, .boundedImplementation, .researchOrDesign, .review,
    .highRisk]

/-- The text of a class. -/
def WorkUnitClass.text : WorkUnitClass → String
  | .deterministicCheck => "deterministic_check"
  | .mechanicalChange => "mechanical_change"
  | .boundedImplementation => "bounded_implementation"
  | .researchOrDesign => "research_or_design"
  | .review => "review"
  | .highRisk => "high_risk"

/-- `WorkUnitDescriptor`. -/
structure WorkUnitDescriptor where
  workUnitId : JsString
  workClass : WorkUnitClass
  risk : WorkUnitRisk

inductive WorkUnitStatus where
  | completed | incomplete
  deriving DecidableEq

inductive EscapedSeverity where
  | critical | high | lower
  deriving DecidableEq

/-- `WorkUnitRecord`. -/
structure WorkUnitRecord where
  source : JsString
  profile : StoredRunProfile
  descriptor : WorkUnitDescriptor
  status : WorkUnitStatus
  firstPassAccepted : Bool
  escapedSeverity : Option EscapedSeverity
  retryExhausted : Bool

/-- `BuildEfficiencyReportInput`. -/
structure BuildEfficiencyReportInput where
  estimates : List RolloutEfficiencyEstimate
  workUnits : List WorkUnitRecord
  windowSince : JsString
  windowUntil : JsString
  generatedAt : JsString

/-! ## Reports -/

structure Samples where
  ordinary : ℕ
  highRisk : ℕ
  completed : ℕ

structure Tokens where
  medianPerCompleted : ℕ
  cachedInput : ℕ
  uncachedInput : ℕ
  output : ℕ
  reasoningOutput : ℕ

structure Context where
  inputP50 : ℕ
  inputP90 : ℕ

structure Orchestration where
  modelCalls : ℕ
  toolCalls : CountValue
  pollCalls : CountValue
  subagentCalls : CountValue
  compactions : ℕ
  totalWallMs : Option ℤ

structure Quality where
  firstPassAcceptancePct : ℚ
  escapedCritical : ℕ
  escapedHigh : ℕ
  retryExhausted : ℕ
  incomplete : ℕ

structure ClassSummary where
  completed : ℕ
  medianTokens : Option ℕ

/-- `EfficiencyReportV1`, as `buildEfficiencyReport` makes it. -/
structure EfficiencyReport where
  generatedAt : JsString
  windowSince : JsString
  windowUntil : JsString
  coverage : Coverage
  samples : Samples
  tokens : Tokens
  context : Context
  orchestration : Orchestration
  quality : Quality
  classes : List (WorkUnitClass × ClassSummary)

/-- `totalUsageTokens`. -/
def totalUsageTokens (usage : TokenUsage) : ℕ := usage.inputTokens + usage.outputTokens

/-- `nearestRank`. -/
def nearestRank (values : List ℕ) (percentile : ℚ) : ℕ :=
  if values.length = 0 then 0
  else
    let sorted := Ranks.ordered values
    let index := max 0 (⌈percentile * sorted.length⌉ - 1)
    sorted[index.toNat]?.getD 0

/-- `roundPercent`: a half is rounded up. -/
def roundPercent (value : ℚ) : ℚ := ⌊value * 100 + 1 / 2⌋ / 100

/-- `estimateBySource`: the last estimate of a source is the one that is kept. -/
def estimateBySource (estimates : List RolloutEfficiencyEstimate) (source : JsString) :
    Option RolloutEfficiencyEstimate :=
  estimates.findRev? fun estimate => estimate.source = source

/-- `completedRecords`. -/
def completedRecords (input : BuildEfficiencyReportInput) : List WorkUnitRecord :=
  input.workUnits.filter fun record => record.status = .completed

/-- `completed`: the completed units that have an estimate, each with it. -/
def completed (input : BuildEfficiencyReportInput) :
    List (WorkUnitRecord × RolloutEfficiencyEstimate) :=
  (completedRecords input).flatMap fun record =>
    match estimateBySource input.estimates record.source with
    | none => []
    | some estimate => [(record, estimate)]

/-- `usages`. -/
def usages (input : BuildEfficiencyReportInput) : List TokenUsage :=
  (completed input).map fun item => item.2.usage

/-- `totalTokens`. -/
def totalTokens (input : BuildEfficiencyReportInput) : List ℕ := (usages input).map totalUsageTokens

/-- `inputTokens`. -/
def inputTokens (input : BuildEfficiencyReportInput) : List ℕ :=
  (usages input).map fun usage => usage.inputTokens

/-- `firstPassAccepted`. -/
def firstPassAccepted (input : BuildEfficiencyReportInput) : ℕ :=
  ((completedRecords input).filter fun record => record.firstPassAccepted).length

/-- `samples.ordinary`. -/
def ordinarySamples (input : BuildEfficiencyReportInput) : ℕ :=
  ((completedRecords input).filter fun record =>
    record.descriptor.risk = .ordinary ∧ record.profile ≠ .legacy).length

/-- `samples.high_risk`. -/
def highRiskSamples (input : BuildEfficiencyReportInput) : ℕ :=
  ((completedRecords input).filter fun record =>
    record.descriptor.risk = .high ∧ record.profile ≠ .legacy).length

/-- `tokens.median_per_completed`. -/
def medianPerCompleted (input : BuildEfficiencyReportInput) : ℕ :=
  nearestRank (totalTokens input) (1 / 2)

/-- `context.input_p90`. -/
def inputP90 (input : BuildEfficiencyReportInput) : ℕ := nearestRank (inputTokens input) (9 / 10)

/-- `quality.escaped_critical` and `quality.escaped_high`. -/
def escaped (input : BuildEfficiencyReportInput) (severity : EscapedSeverity) : ℕ :=
  (input.workUnits.filter fun record => record.escapedSeverity = some severity).length

/-- `quality.retry_exhausted`. -/
def retriesExhausted (input : BuildEfficiencyReportInput) : ℕ :=
  (input.workUnits.filter fun record => record.retryExhausted).length

/-- `quality.incomplete`. -/
def incompleteUnits (input : BuildEfficiencyReportInput) : ℕ :=
  (input.workUnits.filter fun record => record.status = .incomplete).length

/-- `coverageLost`. -/
def coverageLost (input : BuildEfficiencyReportInput) : Bool :=
  decide ((completedRecords input).length = 0) ||
    decide ((completed input).length ≠ (completedRecords input).length) ||
    (completed input).any fun item => item.2.coverage = .insufficientEvidence

/-- `buildClassSummary`. -/
def buildClassSummary (completed : List (WorkUnitRecord × RolloutEfficiencyEstimate)) :
    List (WorkUnitClass × ClassSummary) :=
  workUnitClasses.map fun workClass =>
    let classItems := completed.filter fun item => item.1.descriptor.workClass = workClass
    (workClass,
      { completed := classItems.length
        medianTokens :=
          if classItems.length = 0 then none
          else some (nearestRank
            (classItems.map fun item => totalUsageTokens item.2.usage) (1 / 2)) })

/-- The report of `buildEfficiencyReport`. -/
def reportOf (input : BuildEfficiencyReportInput) : EfficiencyReport :=
  let records := completedRecords input
  let completed := completed input
  let aggregateUsage := (usages input).foldl (· + ·) 0
  let knownWallTimes := completed.filterMap fun item => item.2.totalWallMs
  { generatedAt := input.generatedAt
    windowSince := input.windowSince
    windowUntil := input.windowUntil
    coverage := if coverageLost input then .insufficientEvidence else .estimated
    samples :=
      { ordinary := ordinarySamples input
        highRisk := highRiskSamples input
        completed := records.length }
    tokens :=
      { medianPerCompleted := medianPerCompleted input
        cachedInput := aggregateUsage.cachedInputTokens
        -- the difference of naturals is the greater of the difference and zero
        uncachedInput := aggregateUsage.inputTokens - aggregateUsage.cachedInputTokens
        output := aggregateUsage.outputTokens
        reasoningOutput := aggregateUsage.reasoningOutputTokens }
    context :=
      { inputP50 := nearestRank (inputTokens input) (1 / 2)
        inputP90 := inputP90 input }
    orchestration :=
      { modelCalls := completed.foldl (fun sum item => sum + item.2.tokenEvents) 0
        toolCalls := completed.foldl (fun sum item => addCount sum item.2.toolCalls) (.number 0)
        pollCalls := completed.foldl (fun sum item => addCount sum item.2.pollCalls) (.number 0)
        subagentCalls :=
          completed.foldl (fun sum item => addCount sum item.2.subagentCalls) (.number 0)
        compactions := completed.foldl (fun sum item => sum + item.2.compactions) 0
        totalWallMs :=
          if knownWallTimes.length = 0 then none
          else some (knownWallTimes.foldl (· + ·) 0) }
    quality :=
      { firstPassAcceptancePct :=
          if records.length = 0 then 0
          else roundPercent ((firstPassAccepted input : ℚ) / records.length * 100)
        escapedCritical := escaped input .critical
        escapedHigh := escaped input .high
        retryExhausted := retriesExhausted input
        incomplete := incompleteUnits input }
    classes := buildClassSummary completed }

/-! ## Nothing but aggregates -/

mutual

/-- A value as its keys show it. -/
inductive Aggregate where
  | value
  | record (fields : AggregateFields)

/-- The entries of a record. -/
inductive AggregateFields where
  | done
  | field (key : String) (child : Aggregate) (rest : AggregateFields)

end

/-- `FORBIDDEN_AGGREGATE_KEY.test`. -/
def isForbiddenKey (key : String) : Bool :=
  ["prompt", "response", "secret", "environment", "tool_payload"].any fun word =>
    (key.toList.map Char.toLower).tails.any word.toList.isPrefixOf

mutual

/-- `visitAggregate`. -/
def visitAggregate : Aggregate → String → Except String Unit
  | .value, _ => .ok ()
  | .record fields, path => visitFields fields path

/-- Its loop over the entries. -/
def visitFields : AggregateFields → String → Except String Unit
  | .done, _ => .ok ()
  | .field key child rest, path =>
    if isForbiddenKey key then .error ("forbidden_aggregate_key:" ++ path ++ "." ++ key)
    else do
      visitAggregate child (path ++ "." ++ key)
      visitFields rest path

end

/-- `assertAggregateOnly`. -/
def assertAggregateOnly (tree : Aggregate) : Except String Unit := visitAggregate tree "$"

/-- A record whose entries are plain values. -/
def flatRecord (keys : List String) : Aggregate :=
  .record (keys.foldr (fun key rest => .field key .value rest) .done)

/-- The keys of a report with these classes. -/
def reportKeys (classes : List WorkUnitClass) : Aggregate :=
  .record
    (.field "schema_version" .value
    (.field "generated_at" .value
    (.field "window" (flatRecord ["since", "until"])
    (.field "coverage" .value
    (.field "contains_raw_content" .value
    (.field "samples" (flatRecord ["ordinary", "high_risk", "completed"])
    (.field "tokens" (flatRecord ["median_per_completed", "cached_input", "uncached_input",
      "output", "reasoning_output"])
    (.field "context" (flatRecord ["input_p50", "input_p90"])
    (.field "orchestration" (flatRecord ["model_calls", "tool_calls", "poll_calls",
      "subagent_calls", "compactions", "total_wall_ms"])
    (.field "quality" (flatRecord ["first_pass_acceptance_pct", "escaped_critical",
      "escaped_high", "retry_exhausted", "incomplete"])
    (.field "classes" (.record (classes.foldr (fun workClass rest =>
      .field workClass.text (flatRecord ["completed", "median_tokens"]) rest) .done))
    .done)))))))))))

/-- The keys of a report. -/
def EfficiencyReport.keys (report : EfficiencyReport) : Aggregate :=
  reportKeys (report.classes.map fun item => item.1)

/-- `buildEfficiencyReport`. -/
def buildEfficiencyReport (input : BuildEfficiencyReportInput) : Except String EfficiencyReport := do
  let report := reportOf input
  assertAggregateOnly report.keys
  return report

/-- A report has no forbidden key. -/
theorem buildEfficiencyReport_eq (input : BuildEfficiencyReportInput) :
    buildEfficiencyReport input = .ok (reportOf input) := by
  have hclasses : (reportOf input).classes.map (fun item => item.1) = workUnitClasses := rfl
  have hallowed : assertAggregateOnly (reportKeys workUnitClasses) = .ok () := by decide +kernel
  unfold buildEfficiencyReport EfficiencyReport.keys
  dsimp only
  rw [hclasses, hallowed]
  rfl

/-! ## Comparison -/

inductive ComparisonStatus where
  | accepted | insufficientEvidence | qualityRegression | savingsBelowTarget
  deriving DecidableEq

/-- `EfficiencyComparison`. -/
structure EfficiencyComparison where
  status : ComparisonStatus
  medianReductionPct : Option ℚ
  ordinarySamples : ℕ
  highRiskSamples : ℕ
  reasons : List String

/-- What `push` adds when its condition holds. -/
def reasonIf (condition : Bool) (reason : String) : List String :=
  if condition then [reason] else []

section compare

variable (baseline candidate : EfficiencyReport)

/-- `enoughSamples`. -/
def enoughSamples : Bool :=
  20 ≤ baseline.samples.ordinary ∧ 5 ≤ baseline.samples.highRisk ∧
    20 ≤ candidate.samples.ordinary ∧ 5 ≤ candidate.samples.highRisk

/-- `reduction`. -/
def medianReduction : Option ℚ :=
  if baseline.tokens.medianPerCompleted ≤ 0 then none
  else some (roundPercent
    ((1 - (candidate.tokens.medianPerCompleted : ℚ) / baseline.tokens.medianPerCompleted) * 100))

/-- `evidenceReasons`. -/
def evidenceReasons : List String :=
  reasonIf (baseline.coverage = .insufficientEvidence ∨ candidate.coverage = .insufficientEvidence)
      "coverage_insufficient" ++
    reasonIf (!enoughSamples baseline candidate) "minimum_sample_not_met" ++
    reasonIf (medianReduction baseline candidate = none) "baseline_median_unavailable"

/-- `qualityReasons`. -/
def qualityReasons : List String :=
  reasonIf (0 < candidate.quality.escapedCritical + candidate.quality.escapedHigh)
      "escaped_critical_or_high" ++
    reasonIf (2 < baseline.quality.firstPassAcceptancePct - candidate.quality.firstPassAcceptancePct)
      "first_pass_acceptance_regressed" ++
    reasonIf (baseline.quality.retryExhausted < candidate.quality.retryExhausted)
      "retry_exhaustion_increased" ++
    reasonIf (baseline.quality.incomplete < candidate.quality.incomplete)
      "incomplete_work_increased"

/-- `savingsReasons`. -/
def savingsReasons : List String :=
  reasonIf (150000 ≤ candidate.context.inputP90) "context_p90_above_limit" ++
    reasonIf ((medianReduction baseline candidate).any fun reduction => reduction < 30)
      "median_reduction_below_target"

/-- `compareEfficiencyWindows`. -/
def compareEfficiencyWindows : EfficiencyComparison :=
  let common (status : ComparisonStatus) (reasons : List String) : EfficiencyComparison :=
    { status
      medianReductionPct := medianReduction baseline candidate
      ordinarySamples := candidate.samples.ordinary
      highRiskSamples := candidate.samples.highRisk
      reasons }
  if 0 < (evidenceReasons baseline candidate).length then
    common .insufficientEvidence (evidenceReasons baseline candidate)
  else if 0 < (qualityReasons baseline candidate).length then
    common .qualityRegression (qualityReasons baseline candidate)
  else if 0 < (savingsReasons baseline candidate).length then
    common .savingsBelowTarget (savingsReasons baseline candidate)
  else common .accepted []

end compare

/-- The comparison of the reports of two windows. -/
def compareWindows (baseline candidate : BuildEfficiencyReportInput) :
    Except String EfficiencyComparison := do
  let before ← buildEfficiencyReport baseline
  let after ← buildEfficiencyReport candidate
  return compareEfficiencyWindows before after

theorem compareWindows_eq (baseline candidate : BuildEfficiencyReportInput) :
    compareWindows baseline candidate =
      .ok (compareEfficiencyWindows (reportOf baseline) (reportOf candidate)) := by
  unfold compareWindows
  rw [buildEfficiencyReport_eq, buildEfficiencyReport_eq]
  rfl

end EfficiencyReports
end Autopilot
