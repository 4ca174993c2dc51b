/-
Where work goes when a provider fails.

A chain lists, for each provider and each kind of failure, where the work may go next.
The first step that is in order is taken: it does not lead back to the route that failed,
its tier has been seen to work on this machine, its circuit is closed and its tier is not
used up. Whether a tier is used up is asked in two places that do not look at the same
things, and a provider that has used up all its tiers is not asked at all.

This module is `fallbackChains.ts`.
-/
import Autopilot.RoutingGuards

set_option autoImplicit false

namespace Autopilot

namespace FallbackChains

open DecisionMesh (TextLocale)
open GovernedDispatch (sampleLocale)
open RoutingGuards

/-! ## Chains -/

/-- `FallbackTrigger`. -/
inductive FallbackTrigger where
  | rateLimited | providerUnavailable | outputQualityBelowThreshold | repeatedFailure
  | allTiersExhausted
  deriving DecidableEq, Repr

/-- `FallbackChainStep`. -/
structure FallbackChainStep where
  trigger : FallbackTrigger
  fromProvider : ReasoningProviderId
  fromTierId : Option JsString
  toProvider : RouteTarget
  toTierId : Option JsString
  condition : JsString
  requiresCheckpoint : Bool
  requiresOwnerApproval : Bool
  deriving DecidableEq

/-- `ResolveFallbackOptions`. -/
structure ResolveFallbackOptions where
  fallbackChain : Option (List FallbackChainStep) := none
  budgets : Option (List SubscriptionSessionBudget) := none
  recentFailureSignals : Option (List TierFailureSignalRecord) := none
  circuitBreakerThresholds : Option TierCircuitBreakerThresholds := none
  now : Option Moment := none

/-- `subscriptionFallbackChains`. -/
def subscriptionFallbackChains : List FallbackChainStep := [
  { trigger := .rateLimited
    fromProvider := .geminiCli
    fromTierId := some (js "gemini_auto")
    toProvider := .provider .geminiCli
    toTierId := some (js "gemini_flash")
    condition := js ("gemini_auto rate limited; Gemini Flash may be tried only when the tier id " ++
      "is locally confirmed later")
    requiresCheckpoint := false
    requiresOwnerApproval := false },
  { trigger := .allTiersExhausted
    fromProvider := .geminiCli
    fromTierId := none
    toProvider := .blocked
    toTierId := none
    condition := js "All Gemini tiers exhausted; pause only, no provider substitution"
    requiresCheckpoint := false
    requiresOwnerApproval := false },
  { trigger := .rateLimited
    fromProvider := .openaiGpt
    fromTierId := none
    toProvider := .provider .qwenLocal
    toTierId := none
    condition := js "task fits local scope: bounded_coding, micro_worker, test_generation"
    requiresCheckpoint := true
    requiresOwnerApproval := false },
  { trigger := .repeatedFailure
    fromProvider := .openaiGpt
    fromTierId := none
    toProvider := .ownerDecision
    toTierId := none
    condition := js ("task requires GPT-quality review or a supervisor route decision before " ++
      "further retries")
    requiresCheckpoint := true
    requiresOwnerApproval := true },
  { trigger := .providerUnavailable
    fromProvider := .anthropicClaudeSubscription
    fromTierId := none
    toProvider := .ownerDecision
    toTierId := none
    condition := js ("Claude unavailable; orchestration is waiting_owner until the owner " ++
      "resumes or changes scope")
    requiresCheckpoint := true
    requiresOwnerApproval := true }]

/-- The budget of the provider that a step leads to. -/
def targetBudget (budgets : List SubscriptionSessionBudget) (toProvider : RouteTarget) :
    Option SubscriptionSessionBudget :=
  budgets.find? fun candidate => decide (RouteTarget.provider candidate.provider = toProvider)

/-- `allVerifiedTiersExhaustedOrOpen`. -/
def allVerifiedTiersExhaustedOrOpen (budget : SubscriptionSessionBudget)
    (circuitStates : List TierCircuitState) : Bool :=
  let verifiedTiers := budget.availableTiers.filter (·.verifiedLocally)
  verifiedTiers.length > 0 && verifiedTiers.all fun tier =>
    isVerifiedTierExhaustedOrOpen budget tier.tierId circuitStates

/-- `buildBlockedFallbackStep`. -/
def buildBlockedFallbackStep (trigger : FallbackTrigger) (fromProvider : ReasoningProviderId)
    (fromTierId : Option JsString) (condition : JsString) : FallbackChainStep where
  trigger := trigger
  fromProvider := fromProvider
  fromTierId := fromTierId
  toProvider := .blocked
  toTierId := none
  condition := condition
  requiresCheckpoint := true
  requiresOwnerApproval := false

section guards

variable (budget : SubscriptionSessionBudget) (budgets : List SubscriptionSessionBudget)
  (circuitStates : List TierCircuitState)

/-- `isValidFallbackStep`. -/
def isValidFallbackStep (step : FallbackChainStep) : Bool :=
  if isSelfFallbackRoute step.fromProvider (step.fromTierId <|> budget.activeTierId)
      step.toProvider step.toTierId then false
  else if !isFallbackTierLocallyConfirmed step.toProvider step.toTierId budgets then false
  else match step.toProvider with
    | .ownerDecision | .blocked => true
    | .provider toProvider =>
      let target := targetBudget budgets (.provider toProvider)
      if target.any isActiveTierExplicitlyUnverified then false
      else
        let targetTierId := step.toTierId <|> target.bind (·.activeTierId)
        if isTierCircuitOpen circuitStates toProvider targetTierId then false
        else !(target.any fun target => targetTierId.any fun tierId =>
          tierId ≠ [] && target.exhaustedTierIds.contains tierId)

/-- The steps of a chain for a failure. -/
def matchingSteps (fallbackChain : List FallbackChainStep) (trigger : FallbackTrigger)
    (fromProvider : ReasoningProviderId) : List FallbackChainStep :=
  fallbackChain.filter fun step =>
    if step.trigger ≠ trigger ∨ step.fromProvider ≠ fromProvider then false
    else !(step.fromTierId.any (· ≠ []) && decide (step.fromTierId ≠ budget.activeTierId))

end guards

/-- The steps of a chain for a Gemini that has used up its tiers. -/
def lastResortSteps (fallbackChain : List FallbackChainStep) : List FallbackChainStep :=
  fallbackChain.filter fun step =>
    step.fromProvider = .geminiCli && decide (step.trigger = .allTiersExhausted)

section resolve

variable (getTime : JsString → Option ℚ) (locale : TextLocale)

/-- `resolveCircuitStates`. -/
def resolveCircuitStates (options : ResolveFallbackOptions) :
    Except JsError (List TierCircuitState) :=
  let recentFailureSignals := options.recentFailureSignals.getD []
  if recentFailureSignals.length = 0 then .ok []
  else match options.now with
    | none => .error (JsError.new ("routing_circuit_now_required: pass an injected now when " ++
        "recentFailureSignals are provided"))
    | some now => computeTierCircuitState getTime locale recentFailureSignals
        (options.circuitBreakerThresholds.getD defaultTierCircuitBreakerThresholds) now

/-- `resolveFallback`. -/
def resolveFallback (trigger : FallbackTrigger) (fromProvider : ReasoningProviderId)
    (budget : SubscriptionSessionBudget) (options : ResolveFallbackOptions) :
    Except JsError (Option FallbackChainStep) := do
  let fallbackChain := options.fallbackChain.getD subscriptionFallbackChains
  let budgets := options.budgets.getD [budget]
  let circuitStates ← resolveCircuitStates getTime locale options
  if fromProvider = .geminiCli ∧ allVerifiedTiersExhaustedOrOpen budget circuitStates then
    return (fallbackChain.find? fun step =>
        step.fromProvider = .geminiCli && decide (step.trigger = .allTiersExhausted)) <|>
      some (buildBlockedFallbackStep trigger fromProvider budget.activeTierId
        (js "All verified Gemini tiers are exhausted or circuit-open; pause only."))
  let matching := matchingSteps budget fallbackChain trigger fromProvider
  match matching.find? (isValidFallbackStep budget budgets circuitStates) with
  | some validStep => return some validStep
  | none =>
    if matching.length > 0 then
      return some (buildBlockedFallbackStep trigger fromProvider budget.activeTierId
        (js ("No valid fallback candidate remains after self-route, verified-tier, and " ++
          "circuit-breaker guards.")))
    else return none

end resolve

/-! ## Steps that can be used -/

section usable

variable (fromProvider : ReasoningProviderId) (budget : SubscriptionSessionBudget)
  (budgets : List SubscriptionSessionBudget) (circuitStates : List TierCircuitState)

/-- The step leads away from the route that failed, to the owner, to a stop, or to a
tier that passes for verified, whose circuit is closed and which is not used up. -/
def isUsable (step : FallbackChainStep) : Bool :=
  !isSelfFallbackRoute fromProvider budget.activeTierId step.toProvider step.toTierId &&
  isFallbackTierLocallyConfirmed step.toProvider step.toTierId budgets &&
  match step.toProvider with
  | .ownerDecision | .blocked => true
  | .provider toProvider =>
    let target := targetBudget budgets (.provider toProvider)
    let targetTierId := step.toTierId <|> target.bind (·.activeTierId)
    !target.any isActiveTierExplicitlyUnverified &&
    !isTierCircuitOpen circuitStates toProvider targetTierId &&
    !(target.any fun target => targetTierId.any fun tierId =>
      isVerifiedTierExhaustedOrOpen target tierId circuitStates)

/-- The first usable one of the steps, or no step that leads anywhere. -/
def IsFirst (usable : FallbackChainStep → Bool) (steps : List FallbackChainStep)
    (result : Option FallbackChainStep) : Prop :=
  match steps.find? usable with
  | some step => result = some step
  | none => ∀ step, result = some step → step.toProvider = .blocked

theorem isUsable_of_blocked {step : FallbackChainStep} (h : step.toProvider = .blocked) :
    isUsable fromProvider budget budgets circuitStates step = true := by
  unfold isUsable isSelfFallbackRoute isFallbackTierLocallyConfirmed
  rw [h]
  simp

theorem isValidFallbackStep_of_blocked {step : FallbackChainStep} (h : step.toProvider = .blocked) :
    isValidFallbackStep budget budgets circuitStates step = true := by
  unfold isValidFallbackStep isSelfFallbackRoute isFallbackTierLocallyConfirmed
  rw [h]
  simp

end usable

/-- Two tests find the same element exactly when the first element that passes one of
them passes both. -/
theorem find_eq_find_iff {α : Type} {p q : α → Bool} {xs : List α} :
    xs.find? p = xs.find? q ↔ ∀ before x after, xs = before ++ x :: after →
      (∀ y ∈ before, p y = false ∧ q y = false) → p x = q x := by
  constructor
  · intro hsame before x after hxs hbefore
    have hp : before.find? p = none := List.find?_eq_none.2 fun y hy => by simp [hbefore y hy]
    have hq : before.find? q = none := List.find?_eq_none.2 fun y hy => by simp [hbefore y hy]
    rw [hxs, List.find?_append, List.find?_append, hp, hq, Option.none_or, Option.none_or,
      List.find?_cons, List.find?_cons] at hsame
    cases hpx : p x with
    | false =>
      cases hqx : q x with
      | false => rfl
      | true =>
        rw [hpx, hqx] at hsame
        have := List.find?_some hsame
        rw [hpx] at this
        exact this
    | true =>
      cases hqx : q x with
      | false =>
        rw [hpx, hqx] at hsame
        have := List.find?_some hsame.symm
        rw [hqx] at this
        exact this.symm
      | true => rfl
  · intro hfirst
    induction xs with
    | nil => rfl
    | cons x xs ih =>
      have hx : p x = q x := hfirst [] x xs rfl (by simp)
      rw [List.find?_cons, List.find?_cons, hx]
      cases hqx : q x with
      | true => rfl
      | false =>
        apply ih
        intro before y after hxs hbefore
        apply hfirst (x :: before) y after (by rw [hxs]; rfl)
        intro z hz
        rcases List.mem_cons.1 hz with rfl | hz
        · exact ⟨hx.trans hqx, hqx⟩
        · exact hbefore z hz

section first

variable (getTime : JsString → Option ℚ) (locale : TextLocale)
  {trigger : FallbackTrigger} {fromProvider : ReasoningProviderId}
  {budget : SubscriptionSessionBudget} {options : ResolveFallbackOptions}
  {circuitStates : List TierCircuitState}

/-- The steps that come into question: those of the last resort for a Gemini that has
used up its tiers, else those for the failure. -/
def candidateSteps (trigger : FallbackTrigger) (fromProvider : ReasoningProviderId)
    (budget : SubscriptionSessionBudget) (options : ResolveFallbackOptions)
    (circuitStates : List TierCircuitState) : List FallbackChainStep :=
  let fallbackChain := options.fallbackChain.getD subscriptionFallbackChains
  if fromProvider = .geminiCli ∧ allVerifiedTiersExhaustedOrOpen budget circuitStates then
    lastResortSteps fallbackChain
  else matchingSteps budget fallbackChain trigger fromProvider

/-- Where the guards of the code pick the step that is usable: the last resort is not
checked at all, and of the other steps the first one that is valid or usable is both. -/
def GuardsAgree (trigger : FallbackTrigger) (fromProvider : ReasoningProviderId)
    (budget : SubscriptionSessionBudget) (options : ResolveFallbackOptions)
    (circuitStates : List TierCircuitState) : Prop :=
  let budgets := options.budgets.getD [budget]
  let steps := candidateSteps trigger fromProvider budget options circuitStates
  if fromProvider = .geminiCli ∧ allVerifiedTiersExhaustedOrOpen budget circuitStates then
    ∀ step, steps.head? = some step →
      isUsable fromProvider budget budgets circuitStates step = true
  else
    ∀ before step after, steps = before ++ step :: after →
      (∀ earlier ∈ before, isValidFallbackStep budget budgets circuitStates earlier = false ∧
        isUsable fromProvider budget budgets circuitStates earlier = false) →
      isValidFallbackStep budget budgets circuitStates step =
        isUsable fromProvider budget budgets circuitStates step

theorem isFirst_head_iff {usable : FallbackChainStep → Bool}
    (hblocked : ∀ step, step.toProvider = .blocked → usable step = true)
    {steps : List FallbackChainStep} {stop : FallbackChainStep}
    (hstop : stop.toProvider = .blocked) :
    IsFirst usable steps (steps.head? <|> some stop) ↔
      ∀ step, steps.head? = some step → usable step = true := by
  unfold IsFirst
  cases steps with
  | nil =>
    constructor
    · intro _ step hstep
      simp at hstep
    · intro _ step hstep
      rw [← Option.some.inj hstep]
      exact hstop
  | cons first rest =>
    have hresult : ((first :: rest).head? <|> some stop) = some first := rfl
    rw [hresult, List.find?_cons]
    by_cases hfirst : usable first = true
    · rw [hfirst]
      simp [hfirst]
    · have hfalse : usable first = false := by simpa using hfirst
      rw [hfalse]
      constructor
      · intro h
        exfalso
        -- an unusable first step is neither a later usable one nor a stop
        cases hrest : rest.find? usable with
        | some step =>
          rw [hrest] at h
          have husable := List.find?_some hrest
          rw [← Option.some.inj h, hfalse] at husable
          simp at husable
        | none =>
          rw [hrest] at h
          exact hfirst (hblocked first (h first rfl))
      · intro h
        exact absurd (h first rfl) hfirst

theorem isFirst_find_iff {valid usable : FallbackChainStep → Bool}
    (hvalid : ∀ step, step.toProvider = .blocked → valid step = true)
    (husable : ∀ step, step.toProvider = .blocked → usable step = true)
    {steps : List FallbackChainStep} {stop : FallbackChainStep} (hstop : stop.toProvider = .blocked)
    {otherwise : Option FallbackChainStep}
    (hotherwise : otherwise = some stop ∨ otherwise = none) :
    IsFirst usable steps ((steps.find? valid).or otherwise) ↔
      steps.find? valid = steps.find? usable := by
  unfold IsFirst
  cases hfirst : steps.find? usable with
  | some step =>
    cases hfound : steps.find? valid with
    | some found => simp
    | none =>
      simp only [Option.none_or, reduceCtorEq, iff_false]
      -- a stop is no step that fails the guards
      intro h
      rcases hotherwise with hother | hother
      · rw [hother] at h
        have hmem := List.mem_of_find?_eq_some hfirst
        have hnone := List.find?_eq_none.1 hfound step hmem
        rw [← Option.some.inj h] at hnone
        exact hnone (hvalid stop hstop)
      · rw [hother] at h
        simp at h
  | none =>
    cases hfound : steps.find? valid with
    | some found =>
      simp only [Option.some_or, reduceCtorEq, iff_false]
      intro h
      have hnone := List.find?_eq_none.1 hfirst found (List.mem_of_find?_eq_some hfound)
      exact hnone (husable found (h found rfl))
    | none =>
      simp only [Option.none_or, iff_true]
      intro step hstep
      rcases hotherwise with hother | hother
      · rw [hother] at hstep
        rw [← Option.some.inj hstep]
        exact hstop
      · rw [hother] at hstep
        simp at hstep

/-- Where the circuits can be worked out nothing else fails. -/
theorem resolveFallback_returns (trigger : FallbackTrigger) (fromProvider : ReasoningProviderId)
    (budget : SubscriptionSessionBudget)
    (hcircuits : resolveCircuitStates getTime locale options = .ok circuitStates) :
    ∃ result, resolveFallback getTime locale trigger fromProvider budget options = .ok result := by
  unfold resolveFallback
  simp only [hcircuits, bind, Except.bind, pure, Except.pure]
  split_ifs with hlast hsome
  · exact ⟨_, rfl⟩
  · cases (matchingSteps budget (options.fallbackChain.getD subscriptionFallbackChains)
        trigger fromProvider).find? _ with
    | some step => exact ⟨_, rfl⟩
    | none => exact ⟨_, rfl⟩
  · cases (matchingSteps budget (options.fallbackChain.getD subscriptionFallbackChains)
        trigger fromProvider).find? _ with
    | some step => exact ⟨_, rfl⟩
    | none => exact ⟨_, rfl⟩

end first

/-! A chain that leads from Codex to a Gemini whose listing says that it is used up. -/

section sample

def usedUpGemini : SubscriptionSessionBudget where
  provider := .geminiCli
  activeTierId := some (js "gemini_auto")
  activeTierRateLimitState := .exhausted
  availableTiers := [⟨js "gemini_auto", true, .exhausted⟩]
  exhaustedTierIds := []

def codexBudget : SubscriptionSessionBudget where
  provider := .openaiGpt
  activeTierId := some (js "codex_subscription")
  activeTierRateLimitState := .rateLimited
  availableTiers := [⟨js "codex_subscription", true, .rateLimited⟩]
  exhaustedTierIds := []

def toGemini : FallbackChainStep where
  trigger := .rateLimited
  fromProvider := .openaiGpt
  fromTierId := none
  toProvider := .provider .geminiCli
  toTierId := some (js "gemini_auto")
  condition := []
  requiresCheckpoint := false
  requiresOwnerApproval := false

def geminiOptions (rateLimitState : SubscriptionRateLimitState) : ResolveFallbackOptions where
  fallbackChain := some [toGemini]
  budgets := some [codexBudget,
    { usedUpGemini with availableTiers := [⟨js "gemini_auto", true, rateLimitState⟩] }]

end sample

end FallbackChains

end Autopilot
