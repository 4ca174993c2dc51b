/-
Circuits of provider tiers.

A tier that has failed often enough within a window is closed off until some time has
passed since its last failure. Nothing is remembered of a circuit: it is worked out anew
from the failures of the last minutes each time it is asked for. So a circuit that is
open until some moment is open before that moment only as long as enough failures are
still within the window, and the window is shorter than the time the circuit should
stay open.

This module is `routingGuards.ts`. A time is a number of milliseconds, and which time a
text names is a parameter.
-/
import Autopilot.GovernedDispatch
import Autopilot.Lib.Collected
import Autopilot.Lib.Record
import Mathlib.Algebra.Order.Field.Rat
import Mathlib.Tactic.Linarith

set_option autoImplicit false

namespace Autopilot

/-- `ReasoningProviderId`. -/
inductive ReasoningProviderId where
  | deterministicTools | qwenLocal | openaiGpt | anthropicClaudeSubscription | geminiCli
  | deepseekApiOrSelfHosted | openrouterFree | deepseekWebChatManual
  deriving DecidableEq, Repr

namespace ReasoningProviderId

def text : ReasoningProviderId → JsString
  | deterministicTools => js "deterministic_tools"
  | qwenLocal => js "qwen_local"
  | openaiGpt => js "openai_gpt"
  | anthropicClaudeSubscription => js "anthropic_claude_subscription"
  | geminiCli => js "gemini_cli"
  | deepseekApiOrSelfHosted => js "deepseek_api_or_self_hosted"
  | openrouterFree => js "openrouter_free"
  | deepseekWebChatManual => js "deepseek_web_chat_manual"

def all : List ReasoningProviderId :=
  [deterministicTools, qwenLocal, openaiGpt, anthropicClaudeSubscription, geminiCli,
    deepseekApiOrSelfHosted, openrouterFree, deepseekWebChatManual]

/-- `isReasoningProviderId`, with the provider. -/
def ofText? (value : JsString) : Option ReasoningProviderId := all.find? (·.text = value)

theorem ofText?_text (provider : ReasoningProviderId) : ofText? provider.text = some provider := by
  cases provider
  all_goals decide +kernel

theorem zero_notMem_text (provider : ReasoningProviderId) : 0 ∉ provider.text := by
  have hall : provider.text.all (· ≠ 0) = true := by
    cases provider
    all_goals decide +kernel
  intro hmem
  simpa using List.all_eq_true.1 hall 0 hmem

end ReasoningProviderId

namespace RoutingGuards

open DecisionMesh (TextLocale)
open GovernedDispatch (sampleLocale)

/-! ## Signals and thresholds -/

/-- `CliWorkerFailureSignal`. -/
inductive CliWorkerFailureSignal where
  | timeout | authError | providerExecutableMissing | providerRuntimeDenied | emptyOutput
  | invalidJson | nonZeroExit
  deriving DecidableEq, Repr

/-- `TierFailureSignalRecord`. -/
structure TierFailureSignalRecord where
  provider : ReasoningProviderId
  tierId : Option JsString
  failureSignal : CliWorkerFailureSignal
  recordedAt : JsString
  deriving DecidableEq

/-- `TierCircuitBreakerThresholds`. -/
structure TierCircuitBreakerThresholds where
  failureThreshold : JsNumber
  windowMs : JsNumber
  cooldownMs : JsNumber
  failureSignals : Option (List CliWorkerFailureSignal) := none

/-- `CIRCUIT_BREAKER_FAILURE_SIGNALS`. -/
def circuitBreakerFailureSignals : List CliWorkerFailureSignal :=
  [.emptyOutput, .invalidJson, .authError, .timeout]

/-- `DEFAULT_TIER_CIRCUIT_BREAKER_THRESHOLDS`. -/
def defaultTierCircuitBreakerThresholds : TierCircuitBreakerThresholds where
  failureThreshold := .ofNat 3
  windowMs := .ofNat (10 * 60 * 1000)
  cooldownMs := .ofNat (15 * 60 * 1000)
  failureSignals := some circuitBreakerFailureSignals

/-- `Number.isFinite(value) && value > 0`, with the number it is. -/
def positive? : JsNumber → Option { q : ℚ // 0 < q }
  | .finite m k => if h : 0 < (m : ℚ) / 2 ^ k then some ⟨_, h⟩ else none
  | _ => none

/-- `Number.isInteger(value) && value > 0`, with the integer it is. -/
def positiveInteger? (value : JsNumber) : Option { n : ℕ // 0 < n } :=
  (positive? value).bind fun q =>
    if h : q.1.den = 1 ∧ 0 < q.1.num.toNat then some ⟨_, h.2⟩ else none

theorem cast_pos_ofNat {n : ℕ} (h : 0 < n) : (0 : ℚ) < n := Nat.cast_pos.2 h

theorem positive?_ofNat {n : ℕ} (h : 0 < n) :
    positive? (.ofNat n) = some ⟨(n : ℚ), cast_pos_ofNat h⟩ := by
  have hvalue : ((n : ℤ) : ℚ) / 2 ^ 0 = (n : ℚ) := by simp
  have hpos : 0 < ((n : ℤ) : ℚ) / 2 ^ 0 := by
    rw [hvalue]
    exact Nat.cast_pos.2 h
  unfold positive? JsNumber.ofNat
  dsimp only
  rw [dif_pos hpos]
  exact congrArg some (Subtype.ext hvalue)

theorem positiveInteger?_ofNat {n : ℕ} (h : 0 < n) :
    positiveInteger? (.ofNat n) = some ⟨n, h⟩ := by
  have hinteger : (n : ℚ).den = 1 ∧ 0 < (n : ℚ).num.toNat := by simpa using h
  unfold positiveInteger?
  rw [positive?_ofNat h, Option.bind_some, dif_pos hinteger]
  exact congrArg some (Subtype.ext (by simp))

/-- Thresholds that `validateThresholds` lets pass. -/
structure CheckedThresholds where
  failureThreshold : { n : ℕ // 0 < n }
  windowMs : { q : ℚ // 0 < q }
  cooldownMs : { q : ℚ // 0 < q }
  countedSignals : List CliWorkerFailureSignal

/-- `validateThresholds`. -/
def validateThresholds (thresholds : TierCircuitBreakerThresholds) :
    Except JsError CheckedThresholds := do
  let some failureThreshold := positiveInteger? thresholds.failureThreshold
    | throw (JsError.new
        "routing_circuit_invalid_threshold: failureThreshold must be a positive integer")
  let some windowMs := positive? thresholds.windowMs
    | throw (JsError.new
        "routing_circuit_invalid_threshold: windowMs must be a positive number")
  let some cooldownMs := positive? thresholds.cooldownMs
    | throw (JsError.new
        "routing_circuit_invalid_threshold: cooldownMs must be a positive number")
  return {
    failureThreshold, windowMs, cooldownMs
    countedSignals := thresholds.failureSignals.getD circuitBreakerFailureSignals }

/-! ## Circuits -/

/-- `TierCircuitStatus`. -/
inductive TierCircuitStatus where
  | closed | open
  deriving DecidableEq, Repr

/-- `TierCircuitState`. The moment in `cooldownUntil` is given by its milliseconds. -/
structure TierCircuitState where
  provider : ReasoningProviderId
  tierId : Option JsString
  status : TierCircuitStatus
  failureCount : ℕ
  cooldownUntil : Option ℚ
  deriving DecidableEq

/-- `string | Date`. -/
inductive Moment where
  | text (value : JsString)
  | date (time : Option ℚ)

/-- `circuitKey`. -/
def circuitKey (provider : ReasoningProviderId) (tierId : Option JsString) : JsString :=
  provider.text ++ 0 :: tierId.getD []

/-- `parseCircuitKey`. -/
def parseCircuitKey (key : JsString) :
    Except JsError (ReasoningProviderId × Option JsString) :=
  let parts := key.splitOn 0
  match ReasoningProviderId.ofText? (parts.headD []) with
  | some provider => .ok (provider, parts[1]?.filter (· ≠ []))
  | none => .error (.error (js "Error")
      (js "routing_circuit_invalid_provider: " ++ parts.headD []))

/-- `isTierCircuitOpen`. -/
def isTierCircuitOpen (circuitStates : List TierCircuitState) (provider : ReasoningProviderId)
    (tierId : Option JsString) : Bool :=
  circuitStates.any fun state =>
    if state.status ≠ .open ∨ state.provider ≠ provider then false
    else state.tierId = none || tierId = none || state.tierId = tierId

/-! ## Guards -/

/-- `ReasoningProviderId | "owner_decision" | "blocked"`. -/
inductive RouteTarget where
  | provider (id : ReasoningProviderId)
  | ownerDecision
  | blocked
  deriving DecidableEq

/-- `SubscriptionRateLimitState`. -/
inductive SubscriptionRateLimitState where
  | available | rateLimited | exhausted | unknown
  deriving DecidableEq, Repr

/-- `ProviderTierSpec`, the fields that routing reads. -/
structure ProviderTierSpec where
  tierId : JsString
  verifiedLocally : Bool
  rateLimitState : SubscriptionRateLimitState
  deriving DecidableEq

/-- `SubscriptionSessionBudget`, the fields that routing reads. -/
structure SubscriptionSessionBudget where
  provider : ReasoningProviderId
  activeTierId : Option JsString
  activeTierRateLimitState : SubscriptionRateLimitState
  availableTiers : List ProviderTierSpec
  exhaustedTierIds : List JsString
  deriving DecidableEq

/-- `isSelfFallbackRoute`. -/
def isSelfFallbackRoute (fromProvider : ReasoningProviderId) (fromTierId : Option JsString)
    (toProvider : RouteTarget) (toTierId : Option JsString) : Bool :=
  match toProvider with
  | .ownerDecision | .blocked => false
  | .provider toProvider =>
    if fromProvider ≠ toProvider then false
    else fromTierId = none || toTierId = none || fromTierId = toTierId

/-- `isActiveTierExplicitlyUnverified`. -/
def isActiveTierExplicitlyUnverified (budget : SubscriptionSessionBudget) : Bool :=
  match budget.activeTierId with
  | none => false
  | some activeTierId => budget.availableTiers.any fun tier =>
      tier.tierId = activeTierId && !tier.verifiedLocally

/-- `isFallbackTierLocallyConfirmed`. -/
def isFallbackTierLocallyConfirmed (toProvider : RouteTarget) (toTierId : Option JsString)
    (budgets : List SubscriptionSessionBudget) : Bool :=
  match toProvider, toTierId with
  | .provider toProvider, some toTierId =>
    match budgets.find? (·.provider = toProvider) with
    | none => false
    | some target => target.availableTiers.any fun tier =>
        tier.tierId = toTierId && tier.verifiedLocally
  | _, _ => true

/-- `isVerifiedTierExhaustedOrOpen`. -/
def isVerifiedTierExhaustedOrOpen (budget : SubscriptionSessionBudget) (tierId : JsString)
    (circuitStates : List TierCircuitState) : Bool :=
  let tier := budget.availableTiers.find? (·.tierId = tierId)
  budget.exhaustedTierIds.contains tierId ||
    decide (tier.map (·.rateLimitState) = some .exhausted) ||
    isTierCircuitOpen circuitStates budget.provider (some tierId)

section times

-- `new Date(value).getTime()`, where it is a number
variable (getTime : JsString → Option ℚ)

/-- The time that is meant, where there is one. -/
def Moment.time? : Moment → Option ℚ
  | .text value => getTime value
  | .date time => time

/-- `parseTimeMs`. -/
def parseTimeMs (value : Moment) (label : JsString) : Except JsError ℚ :=
  match value.time? getTime with
  | some time => .ok time
  | none => .error (.error (js "Error")
      (js "routing_circuit_invalid_time: " ++ label ++ js " is not a valid timestamp"))

/-- The signal counts, and it was recorded within the window. -/
def isCounted (thresholds : CheckedThresholds) (nowMs : ℚ) (signal : TierFailureSignalRecord) :
    Bool :=
  thresholds.countedSignals.contains signal.failureSignal &&
    match getTime signal.recordedAt with
    | none => false
    | some recordedMs => !(recordedMs > nowMs || recordedMs < nowMs - thresholds.windowMs.1)

/-- The counted signals of each circuit. -/
def groupSignals (thresholds : CheckedThresholds) (nowMs : ℚ)
    (recentSignals : List TierFailureSignalRecord) :
    Record JsString (List TierFailureSignalRecord) :=
  recentSignals.foldl (fun grouped signal =>
    if !isCounted getTime thresholds nowMs signal then grouped
    else
      let key := circuitKey signal.provider signal.tierId
      grouped.set key ((grouped.get? key).getD [] ++ [signal])) .empty

/-- `Math.max(...times)`, of at least one time. -/
def latest : List ℚ → ℚ
  | [] => 0
  | time :: times => times.foldl max time

/-- The state of one circuit. -/
def circuitStateOf (thresholds : CheckedThresholds) (nowMs : ℚ)
    (entry : JsString × List TierFailureSignalRecord) : Except JsError TierCircuitState := do
  let (provider, tierId) ← parseCircuitKey entry.1
  let times ← entry.2.mapM fun signal =>
    parseTimeMs getTime (.text signal.recordedAt) (js "recordedAt")
  let lastFailureMs := latest times
  let cooldownUntilMs := lastFailureMs + thresholds.cooldownMs.1
  let isOpen := decide (entry.2.length ≥ thresholds.failureThreshold.1) &&
    decide (nowMs < cooldownUntilMs)
  return {
    provider, tierId
    status := if isOpen then .open else .closed
    failureCount := entry.2.length
    cooldownUntil := if isOpen then some cooldownUntilMs else none }

/-- `compareCircuitStates(a, b) <= 0`. -/
def compareCircuitStates (locale : TextLocale) (a b : TierCircuitState) : Bool :=
  if !locale.notAfter b.provider.text a.provider.text then true
  else locale.notAfter a.provider.text b.provider.text &&
    locale.notAfter (a.tierId.getD []) (b.tierId.getD [])

/-- `computeTierCircuitState`. -/
def computeTierCircuitState (locale : TextLocale) (recentSignals : List TierFailureSignalRecord)
    (thresholds : TierCircuitBreakerThresholds) (now : Moment) :
    Except JsError (List TierCircuitState) := do
  let thresholds ← validateThresholds thresholds
  let nowMs ← parseTimeMs getTime now (js "now")
  let grouped := groupSignals getTime thresholds nowMs recentSignals
  let states ← grouped.entries.mapM (circuitStateOf getTime thresholds nowMs)
  return states.insertionSort fun a b => compareCircuitStates locale a b = true

/-! ## What is reported of a circuit -/

/-- The signals that count for a circuit. -/
def countedSignals (thresholds : CheckedThresholds) (nowMs : ℚ) (key : JsString)
    (signals : List TierFailureSignalRecord) : List TierFailureSignalRecord :=
  signals.filter fun signal => isCounted getTime thresholds nowMs signal &&
    decide (circuitKey signal.provider signal.tierId = key)

/-- What is reported of a circuit. -/
def circuitAt (thresholds : CheckedThresholds) (nowMs : ℚ)
    (signals : List TierFailureSignalRecord) (key : JsString) : Option TierCircuitState :=
  ((groupSignals getTime thresholds nowMs signals).get? key).bind fun bucket =>
    (circuitStateOf getTime thresholds nowMs (key, bucket)).toOption

variable {getTime}

theorem isCounted_iff {thresholds : CheckedThresholds} {nowMs : ℚ}
    {signal : TierFailureSignalRecord} :
    isCounted getTime thresholds nowMs signal = true ↔
      signal.failureSignal ∈ thresholds.countedSignals ∧ ∃ recordedMs,
        getTime signal.recordedAt = some recordedMs ∧ recordedMs ≤ nowMs ∧
          nowMs - thresholds.windowMs.1 ≤ recordedMs := by
  unfold isCounted
  rw [Bool.and_eq_true, List.contains_iff_mem]
  cases getTime signal.recordedAt with
  | none => simp
  | some recordedMs => simp

/-- The bucket of a circuit holds the signals that count for it. -/
theorem get?_groupSignals (thresholds : CheckedThresholds) (nowMs : ℚ) (key : JsString)
    (signals : List TierFailureSignalRecord) :
    (groupSignals getTime thresholds nowMs signals).get? key =
      if countedSignals getTime thresholds nowMs key signals = [] then none
      else some (countedSignals getTime thresholds nowMs key signals) := by
  -- one more signal goes to the end of its bucket
  induction signals using List.reverseRecOn with
  | nil => rfl
  | append_singleton signals signal ih =>
    have hsplit : countedSignals getTime thresholds nowMs key (signals ++ [signal]) =
        countedSignals getTime thresholds nowMs key signals ++
          countedSignals getTime thresholds nowMs key [signal] := List.filter_append ..
    have hstep : groupSignals getTime thresholds nowMs (signals ++ [signal]) =
        if !isCounted getTime thresholds nowMs signal then
          groupSignals getTime thresholds nowMs signals
        else (groupSignals getTime thresholds nowMs signals).set
          (circuitKey signal.provider signal.tierId)
          (((groupSignals getTime thresholds nowMs signals).get?
            (circuitKey signal.provider signal.tierId)).getD [] ++ [signal]) := by
      unfold groupSignals
      rw [List.foldl_append]
      rfl
    rw [hstep, hsplit]
    by_cases hcounted : isCounted getTime thresholds nowMs signal = true
    · by_cases hkey : circuitKey signal.provider signal.tierId = key
      · have hone : countedSignals getTime thresholds nowMs key [signal] = [signal] := by
          simp [countedSignals, hcounted, hkey]
        have hbucket : (if countedSignals getTime thresholds nowMs key signals = [] then none
            else some (countedSignals getTime thresholds nowMs key signals)).getD [] =
            countedSignals getTime thresholds nowMs key signals := by
          split_ifs with hempty
          · exact hempty.symm
          · rfl
        have hsome : countedSignals getTime thresholds nowMs key signals ++ [signal] ≠ [] := by
          simp
        rw [hone, if_neg (by simp [hcounted]), hkey, Record.get?_set_self, ih, hbucket,
          if_neg hsome]
      · have hnone : countedSignals getTime thresholds nowMs key [signal] = [] := by
          simp [countedSignals, hkey]
        rw [hnone, List.append_nil, if_neg (by simp [hcounted]),
          Record.get?_set_of_ne _ (fun h => hkey h.symm), ih]
    · have hnone : countedSignals getTime thresholds nowMs key [signal] = [] := by
        simp [countedSignals, hcounted]
      rw [hnone, List.append_nil, if_pos (by simpa using hcounted), ih]

theorem parseCircuitKey_circuitKey (provider : ReasoningProviderId) (tierId : Option JsString) :
    ∃ tierId', parseCircuitKey (circuitKey provider tierId) = .ok (provider, tierId') := by
  have hparts : (circuitKey provider tierId).splitOn 0 =
      provider.text :: (tierId.getD []).splitOn 0 := by
    unfold circuitKey
    apply List.splitOnP_append_cons_of_forall_mem
    · intro c hc
      have hne : c ≠ 0 := fun h => provider.zero_notMem_text (h ▸ hc)
      simpa using hne
    · simp
  unfold parseCircuitKey
  rw [hparts]
  simp only [List.headD_cons, ReasoningProviderId.ofText?_text]
  exact ⟨_, rfl⟩

/-- The times of signals that count. -/
theorem mapM_parseTimeMs {label : JsString} {signals : List TierFailureSignalRecord}
    (h : ∀ signal ∈ signals, ∃ time, getTime signal.recordedAt = some time) :
    (signals.mapM fun signal => parseTimeMs getTime (.text signal.recordedAt) label) =
      .ok (signals.filterMap fun signal => getTime signal.recordedAt) := by
  induction signals with
  | nil => rfl
  | cons signal signals ih =>
    obtain ⟨time, htime⟩ := h signal (List.mem_cons_self ..)
    have htext : (Moment.text signal.recordedAt).time? getTime = some time := htime
    have hparse : parseTimeMs getTime (.text signal.recordedAt) label = .ok time := by
      unfold parseTimeMs
      rw [htext]
    rw [List.mapM_cons, hparse, ih fun other hother => h other (List.mem_cons_of_mem _ hother),
      List.filterMap_cons, htime]
    rfl

theorem le_latest {time : ℚ} {times : List ℚ} (h : time ∈ times) : time ≤ latest times := by
  have hfold : ∀ (times : List ℚ) (first : ℚ), first ≤ times.foldl max first ∧
      ∀ time ∈ times, time ≤ times.foldl max first := by
    intro times
    induction times with
    | nil => simp
    | cons time times ih =>
      intro first
      have hrest := ih (max first time)
      refine ⟨(le_max_left ..).trans hrest.1, ?_⟩
      intro other hother
      rcases List.mem_cons.1 hother with rfl | hother
      · exact (le_max_right ..).trans hrest.1
      · exact hrest.2 other hother
  cases times with
  | nil => simp at h
  | cons first times =>
    rcases List.mem_cons.1 h with rfl | h
    · exact (hfold times _).1
    · exact (hfold times _).2 _ h

theorem latest_mem {times : List ℚ} (h : times ≠ []) : latest times ∈ times := by
  have hfold : ∀ (times : List ℚ) (first : ℚ), times.foldl max first ∈ first :: times := by
    intro times
    induction times with
    | nil => simp
    | cons time times ih =>
      intro first
      rcases List.mem_cons.1 (ih (max first time)) with hmem | hmem
      · rw [List.foldl_cons, hmem]
        rcases max_choice first time with hmax | hmax
        · rw [hmax]
          exact List.mem_cons_self ..
        · rw [hmax]
          exact List.mem_cons_of_mem _ (List.mem_cons_self ..)
      · exact List.mem_cons_of_mem _ (List.mem_cons_of_mem _ hmem)
  cases times with
  | nil => exact absurd rfl h
  | cons first times => exact hfold times first

/-- A circuit that has a state has the state its counted signals give it. -/
theorem circuitAt_eq_some {thresholds : CheckedThresholds} {nowMs : ℚ} {key : JsString}
    {signals : List TierFailureSignalRecord} {state : TierCircuitState} :
    circuitAt getTime thresholds nowMs signals key = some state ↔
      countedSignals getTime thresholds nowMs key signals ≠ [] ∧
      circuitStateOf getTime thresholds nowMs
        (key, countedSignals getTime thresholds nowMs key signals) = .ok state := by
  unfold circuitAt
  rw [get?_groupSignals]
  by_cases hnone : countedSignals getTime thresholds nowMs key signals = []
  · simp [hnone]
  · rw [if_neg hnone, Option.bind_some]
    cases circuitStateOf getTime thresholds nowMs
        (key, countedSignals getTime thresholds nowMs key signals) with
    | error e => simp [Except.toOption]
    | ok found => simp [Except.toOption, hnone]

/-- The moments of the signals that count for a circuit. -/
def countedTimes (getTime : JsString → Option ℚ) (thresholds : CheckedThresholds) (nowMs : ℚ)
    (key : JsString) (signals : List TierFailureSignalRecord) : List ℚ :=
  (countedSignals getTime thresholds nowMs key signals).filterMap fun signal =>
    getTime signal.recordedAt

theorem mem_countedSignals {thresholds : CheckedThresholds} {nowMs : ℚ} {key : JsString}
    {signals : List TierFailureSignalRecord} {signal : TierFailureSignalRecord} :
    signal ∈ countedSignals getTime thresholds nowMs key signals ↔
      signal ∈ signals ∧ isCounted getTime thresholds nowMs signal = true ∧
        circuitKey signal.provider signal.tierId = key := by
  unfold countedSignals
  rw [List.mem_filter, Bool.and_eq_true, decide_eq_true_eq]

theorem mem_countedTimes {thresholds : CheckedThresholds} {nowMs time : ℚ} {key : JsString}
    {signals : List TierFailureSignalRecord} :
    time ∈ countedTimes getTime thresholds nowMs key signals ↔
      (∃ signal ∈ signals, signal.failureSignal ∈ thresholds.countedSignals ∧
        circuitKey signal.provider signal.tierId = key ∧
        getTime signal.recordedAt = some time) ∧
      time ≤ nowMs ∧ nowMs - thresholds.windowMs.1 ≤ time := by
  unfold countedTimes
  simp only [List.mem_filterMap, mem_countedSignals, isCounted_iff]
  constructor
  · rintro ⟨signal, ⟨hsignal, ⟨hkind, recorded, hrecorded, hle, hge⟩, hkey⟩, htime⟩
    rw [hrecorded] at htime
    rw [Option.some.inj htime] at hrecorded hle hge
    exact ⟨⟨signal, hsignal, hkind, hkey, hrecorded⟩, hle, hge⟩
  · rintro ⟨⟨signal, hsignal, hkind, hkey, htime⟩, hle, hge⟩
    exact ⟨signal, ⟨hsignal, ⟨hkind, time, htime, hle, hge⟩, hkey⟩, htime⟩

theorem countedTimes_ne_nil {thresholds : CheckedThresholds} {nowMs : ℚ} {key : JsString}
    {signals : List TierFailureSignalRecord}
    (h : countedSignals getTime thresholds nowMs key signals ≠ []) :
    countedTimes getTime thresholds nowMs key signals ≠ [] := by
  obtain ⟨signal, hsignal⟩ := List.exists_mem_of_ne_nil _ h
  obtain ⟨hmem, hcounted, hkey⟩ := mem_countedSignals.1 hsignal
  obtain ⟨hkind, time, htime, hle, hge⟩ := isCounted_iff.1 hcounted
  exact List.ne_nil_of_mem (mem_countedTimes.2 ⟨⟨signal, hmem, hkind, hkey, htime⟩, hle, hge⟩)

/-- The state of a circuit for which some signal counts. -/
theorem circuitStateOf_counted {thresholds : CheckedThresholds} {nowMs : ℚ} {key : JsString}
    {signals : List TierFailureSignalRecord}
    (h : countedSignals getTime thresholds nowMs key signals ≠ []) :
    ∃ state, circuitStateOf getTime thresholds nowMs
        (key, countedSignals getTime thresholds nowMs key signals) = .ok state ∧
      parseCircuitKey key = .ok (state.provider, state.tierId) ∧
      (state.status = .open ↔ thresholds.failureThreshold.1 ≤
          (countedSignals getTime thresholds nowMs key signals).length ∧
        nowMs < latest (countedTimes getTime thresholds nowMs key signals) +
          thresholds.cooldownMs.1) ∧
      (state.status = .open → state.cooldownUntil = some
        (latest (countedTimes getTime thresholds nowMs key signals) +
          thresholds.cooldownMs.1)) := by
  obtain ⟨first, hfirst⟩ := List.exists_mem_of_ne_nil _ h
  obtain ⟨tierId, hkey⟩ := parseCircuitKey_circuitKey first.provider first.tierId
  rw [(mem_countedSignals.1 hfirst).2.2] at hkey
  have hdated : ∀ signal ∈ countedSignals getTime thresholds nowMs key signals,
      ∃ time, getTime signal.recordedAt = some time := by
    intro signal hsignal
    obtain ⟨-, time, htime, -⟩ := isCounted_iff.1 (mem_countedSignals.1 hsignal).2.1
    exact ⟨time, htime⟩
  have htimes := @mapM_parseTimeMs getTime (js "recordedAt") _ hdated
  unfold circuitStateOf
  simp only [hkey, htimes, bind, Except.bind, pure, Except.pure]
  have hstatus (isOpen : Bool) :
      (if isOpen = true then TierCircuitStatus.open else .closed) = .open ↔ isOpen = true := by
    cases isOpen
    · simp
    · simp
  refine ⟨_, rfl, rfl, ?_, ?_⟩
  · rw [hstatus, Bool.and_eq_true, decide_eq_true_eq, decide_eq_true_eq]
    rfl
  · intro hopen
    exact if_pos ((hstatus _).1 hopen)

/-- With valid thresholds and a valid time the states are those of the circuits. -/
theorem computeTierCircuitState_ok (locale : TextLocale)
    {thresholds : TierCircuitBreakerThresholds} {checked : CheckedThresholds}
    (hchecked : validateThresholds thresholds = .ok checked) {now : Moment} {nowMs : ℚ}
    (hnow : now.time? getTime = some nowMs) (signals : List TierFailureSignalRecord) :
    ∃ states, computeTierCircuitState getTime locale signals thresholds now = .ok states ∧
      ∀ state, state ∈ states ↔
        ∃ key, circuitAt getTime checked nowMs signals key = some state := by
  have hentries : ∀ entry ∈ (groupSignals getTime checked nowMs signals).entries,
      countedSignals getTime checked nowMs entry.1 signals ≠ [] ∧
        entry.2 = countedSignals getTime checked nowMs entry.1 signals := by
    rintro ⟨key, bucket⟩ hentry
    have hget := (Record.mem_entries_iff _ key bucket).1 hentry
    rw [get?_groupSignals] at hget
    split_ifs at hget with hnone
    exact ⟨hnone, (Option.some.inj hget).symm⟩
  have hstates : ∀ entry ∈ (groupSignals getTime checked nowMs signals).entries,
      ∃ state, circuitStateOf getTime checked nowMs entry = .ok state := by
    rintro ⟨key, bucket⟩ hentry
    obtain ⟨hnone, hbucket⟩ := hentries _ hentry
    obtain ⟨state, hstate, -⟩ := circuitStateOf_counted hnone
    exact ⟨state, by rw [← hstate, ← hbucket]⟩
  obtain ⟨states, hmap, hmem⟩ := Collected.mapM_ok_of_forall hstates
  have hparse : parseTimeMs getTime now (js "now") = .ok nowMs := by
    unfold parseTimeMs
    rw [hnow]
  unfold computeTierCircuitState
  simp only [hchecked, hparse, hmap, bind, Except.bind, pure, Except.pure]
  refine ⟨_, rfl, fun state => ?_⟩
  rw [List.mem_insertionSort, hmem]
  constructor
  · rintro ⟨⟨key, bucket⟩, hentry, hstate⟩
    obtain ⟨hnone, hbucket⟩ := hentries _ hentry
    refine ⟨key, circuitAt_eq_some.2 ⟨hnone, ?_⟩⟩
    rw [← hstate, ← hbucket]
  · rintro ⟨key, hstate⟩
    obtain ⟨hnone, hstate⟩ := circuitAt_eq_some.1 hstate
    refine ⟨(key, countedSignals getTime checked nowMs key signals), ?_, hstate⟩
    rw [Record.mem_entries_iff, get?_groupSignals, if_neg hnone]

/-! ## How long a circuit stays open -/

/-- A circuit that is open until some moment is open before it exactly as long as enough
of its failures are within the window. -/
theorem circuit_stays_open_iff (locale : TextLocale)
    {thresholds : TierCircuitBreakerThresholds} {checked : CheckedThresholds}
    (hchecked : validateThresholds thresholds = .ok checked) {now later : Moment} {t t' : ℚ}
    (hnow : now.time? getTime = some t) (hlater : later.time? getTime = some t')
    {signals : List TierFailureSignalRecord} {states : List TierCircuitState}
    (hstates : computeTierCircuitState getTime locale signals thresholds now = .ok states)
    {state : TierCircuitState} (hstate : state ∈ states) (hopen : state.status = .open)
    {u : ℚ} (hu : state.cooldownUntil = some u) (hle : t ≤ t') (hlt : t' < u)
    (more : List TierFailureSignalRecord) :
    ∃ key states', circuitAt getTime checked t signals key = some state ∧
      computeTierCircuitState getTime locale (signals ++ more) thresholds later = .ok states' ∧
      ((∃ state' ∈ states', circuitAt getTime checked t' (signals ++ more) key = some state' ∧
          state'.provider = state.provider ∧ state'.tierId = state.tierId ∧
          state'.status = .open) ↔
        checked.failureThreshold.1 ≤
          (countedSignals getTime checked t' key (signals ++ more)).length) := by
  obtain ⟨found, hfound, hmem⟩ := computeTierCircuitState_ok locale hchecked hnow signals
  obtain ⟨states', hstates', hmem'⟩ :=
    computeTierCircuitState_ok locale hchecked hlater (signals ++ more)
  rw [hfound] at hstates
  rw [← Except.ok.inj hstates, hmem] at hstate
  obtain ⟨key, hkey⟩ := hstate
  obtain ⟨hsome, hreport⟩ := circuitAt_eq_some.1 hkey
  obtain ⟨report, hreport', hparts, hopened, huntil⟩ := circuitStateOf_counted hsome
  rw [hreport] at hreport'
  rw [← Except.ok.inj hreport'] at hparts hopened huntil
  refine ⟨key, states', hkey, hstates', ?_⟩
  constructor
  · rintro ⟨state', -, hkey', -, -, hopen'⟩
    obtain ⟨hsome', hreport'⟩ := circuitAt_eq_some.1 hkey'
    obtain ⟨report', hreport'', -, hopened', -⟩ := circuitStateOf_counted hsome'
    rw [hreport'] at hreport''
    rw [← Except.ok.inj hreport''] at hopened'
    exact (hopened'.1 hopen').1
  · intro henough
    have hsome' : countedSignals getTime checked t' key (signals ++ more) ≠ [] := by
      intro hnone
      have hpos := checked.failureThreshold.2
      rw [hnone, List.length_nil] at henough
      omega
    obtain ⟨state', hreport', hparts', hopened', -⟩ := circuitStateOf_counted hsome'
    have hkey' := circuitAt_eq_some.2 ⟨hsome', hreport'⟩
    have hsame := hparts'.symm.trans hparts
    refine ⟨state', (hmem' state').2 ⟨key, hkey'⟩, hkey', ?_, ?_, hopened'.2 ⟨henough, ?_⟩⟩
    · exact congrArg Prod.fst (Except.ok.inj hsame)
    · exact congrArg Prod.snd (Except.ok.inj hsame)
    · -- the last failure is no older than it was, whether that one is in the window or not
      have hL := latest_mem (countedTimes_ne_nil hsome)
      obtain ⟨⟨signal, hsignal, hkind, hkey, htime⟩, hLt, -⟩ := mem_countedTimes.1 hL
      have huL : u = latest (countedTimes getTime checked t key signals) +
          checked.cooldownMs.1 := Option.some.inj (hu.symm.trans (huntil hopen))
      have hlast : latest (countedTimes getTime checked t key signals) ≤
          latest (countedTimes getTime checked t' key (signals ++ more)) := by
        by_cases hwindow : t' - checked.windowMs.1 ≤
            latest (countedTimes getTime checked t key signals)
        · apply le_latest
          rw [mem_countedTimes]
          exact ⟨⟨signal, List.mem_append_left _ hsignal, hkind, hkey, htime⟩,
            hLt.trans hle, hwindow⟩
        · have hL' := latest_mem (countedTimes_ne_nil hsome')
          have hge := (mem_countedTimes.1 hL').2.2
          linarith
      linarith

end times

/-! Three failures close a tier off for a quarter of an hour. Ten minutes later they are
out of the window, and the tier is back. -/

section sample

def sampleTime (text : JsString) : Option ℚ :=
  if text = js "1970-01-01T00:00:00.000Z" then some 0 else none

def sampleFailure : TierFailureSignalRecord where
  provider := .openaiGpt
  tierId := some (js "codex_subscription")
  failureSignal := .timeout
  recordedAt := js "1970-01-01T00:00:00.000Z"

def sampleState : TierCircuitState where
  provider := .openaiGpt
  tierId := some (js "codex_subscription")
  status := .open
  failureCount := 3
  cooldownUntil := some 900000

theorem circuit_closes_before_cooldown :
    (computeTierCircuitState sampleTime sampleLocale (List.replicate 3 sampleFailure)
      defaultTierCircuitBreakerThresholds (.date (some 0))).toOption = some [sampleState] ∧
    (computeTierCircuitState sampleTime sampleLocale (List.replicate 3 sampleFailure)
      defaultTierCircuitBreakerThresholds (.date (some 600001))).toOption = some [] := by
  constructor
  · decide +kernel
  · decide +kernel

def sampleThresholds : CheckedThresholds where
  failureThreshold := ⟨3, by decide⟩
  windowMs := ⟨600000, by norm_num⟩
  cooldownMs := ⟨900000, by norm_num⟩
  countedSignals := circuitBreakerFailureSignals

theorem circuit_stays_open_sample :
    ∃ states', computeTierCircuitState sampleTime sampleLocale
        (List.replicate 3 sampleFailure ++ []) defaultTierCircuitBreakerThresholds
        (.date (some 600000)) = .ok states' ∧
      ∃ state' ∈ states', state'.provider = .openaiGpt ∧ state'.status = .open := by
  have hchecked : validateThresholds defaultTierCircuitBreakerThresholds =
      .ok sampleThresholds := by
    unfold validateThresholds defaultTierCircuitBreakerThresholds
    dsimp only
    rw [positiveInteger?_ofNat (by decide), positive?_ofNat (by decide),
      positive?_ofNat (by decide)]
    rfl
  obtain ⟨states, hstates, -⟩ := computeTierCircuitState_ok sampleLocale hchecked
    (show (Moment.date (some 0)).time? sampleTime = some 0 from rfl)
    (List.replicate 3 sampleFailure)
  have hreported := circuit_closes_before_cooldown.1
  rw [hstates] at hreported
  have hlist : states = [sampleState] := Option.some.inj hreported
  obtain ⟨key, states', hkey, hstates', hiff⟩ := circuit_stays_open_iff sampleLocale hchecked
    (show (Moment.date (some 0)).time? sampleTime = some 0 from rfl)
    (show (Moment.date (some 600000)).time? sampleTime = some 600000 from rfl) hstates
    (hlist ▸ List.mem_singleton_self sampleState) rfl rfl (by norm_num) (by norm_num) []
  obtain ⟨first, hfirst⟩ := List.exists_mem_of_ne_nil _ (circuitAt_eq_some.1 hkey).1
  obtain ⟨hmem, -, hfirstKey⟩ := mem_countedSignals.1 hfirst
  rw [List.eq_of_mem_replicate hmem] at hfirstKey
  have henough : sampleThresholds.failureThreshold.1 ≤ (countedSignals sampleTime
      sampleThresholds 600000 (circuitKey sampleFailure.provider sampleFailure.tierId)
      (List.replicate 3 sampleFailure ++ [])).length := by decide +kernel
  rw [hfirstKey] at henough
  obtain ⟨state', hstate', -, hprovider, -, hopen⟩ := hiff.2 henough
  exact ⟨states', hstates', state', hstate', hprovider, hopen⟩

end sample

end RoutingGuards

end Autopilot
