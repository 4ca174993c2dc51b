/-
Which provider the supervisor assigns.

A layer has a provider it prefers. Where the rules forbid that one, the providers of the
task's lane are tried in their order and then the two local ones, and the first that the
rules allow is assigned. The rules ask that the active tier is not known to be unverified
and that its circuit is closed; a provider without a budget has no tier to ask about.
Where the rules allow none of them the preferred provider is assigned all the same.

This module is `buildSupervisorRoutingDecision` of `modelPolicy.ts`. The texts and
figures that a decision carries along to explain itself are left out.
-/
import Autopilot.FallbackChains

set_option autoImplicit false

namespace Autopilot

namespace SupervisorRouting

open DecisionMesh (TextLocale)
open GovernedDispatch (sampleLocale)
open FallbackChains RoutingGuards

/-! ## Policies -/

/-- `ModelPolicyLayer`. -/
inductive ModelPolicyLayer where
  | orchestrator | architect | reviewer | tester | microWorker | boundedCoding
  | memorySummarizer | copywriter
  deriving DecidableEq, Repr

/-- `ReasoningTaskLaneId`. -/
inductive ReasoningTaskLaneId where
  | deterministicVerification | localRoutineWorker | boundedCodingWorker
  | structuredToolReasoning | longContextSynthesis | multimodalDesignReview
  | architectureSecurityReview | agentValidation | sensitivePrivateContext
  deriving DecidableEq, Repr

/-- `ReasoningTaskLanePolicy`, the fields that the assignment reads. -/
structure ReasoningTaskLanePolicy where
  id : ReasoningTaskLaneId
  taskSignals : List JsString
  preferredProviders : List ReasoningProviderId

/-- `layerProviderMapping`. -/
def layerProviderMapping : ModelPolicyLayer → ReasoningProviderId
  | .orchestrator | .architect | .reviewer => .anthropicClaudeSubscription
  | .tester | .microWorker | .boundedCoding => .openaiGpt
  | .memorySummarizer => .geminiCli
  | .copywriter => .openaiGpt

/-- `reasoningTaskLanePolicies`. -/
def reasoningTaskLanePolicies : List ReasoningTaskLanePolicy := [
  { id := .deterministicVerification
    taskSignals := ["test", "typecheck", "schema", "diff check", "audit", "build"].map js
    preferredProviders := [.deterministicTools] },
  { id := .localRoutineWorker
    taskSignals :=
      ["boilerplate", "dto", "small patch", "routine summarization", "indexing"].map js
    preferredProviders := [.deterministicTools, .qwenLocal] },
  { id := .boundedCodingWorker
    taskSignals :=
      ["bounded implementation", "focused bugfix", "refactor", "test generation"].map js
    preferredProviders := [.qwenLocal, .deterministicTools, .openaiGpt] },
  { id := .structuredToolReasoning
    taskSignals :=
      ["structured output", "json", "tool use", "function calling", "mcp schema"].map js
    preferredProviders := [.openaiGpt, .deepseekApiOrSelfHosted, .deterministicTools] },
  { id := .longContextSynthesis
    taskSignals :=
      ["long context", "large document", "research synthesis", "broad planning"].map js
    preferredProviders := [.geminiCli, .anthropicClaudeSubscription, .openaiGpt] },
  { id := .multimodalDesignReview
    taskSignals :=
      ["multimodal", "screenshot", "visual", "ux critique", "design critique"].map js
    preferredProviders := [.geminiCli, .anthropicClaudeSubscription, .openaiGpt] },
  { id := .architectureSecurityReview
    taskSignals :=
      ["architecture", "security", "audit", "threat", "privacy", "edge case"].map js
    preferredProviders := [.openaiGpt, .anthropicClaudeSubscription, .geminiCli,
      .deepseekApiOrSelfHosted, .deepseekWebChatManual] },
  { id := .agentValidation
    taskSignals :=
      ["agent validation", "supervisor", "handoff", "routing", "orchestration"].map js
    preferredProviders := [.anthropicClaudeSubscription, .openaiGpt, .geminiCli, .qwenLocal] },
  { id := .sensitivePrivateContext
    taskSignals :=
      ["secret", "credential", "customer data", "private repo", "sensitive"].map js
    preferredProviders := [.deterministicTools, .qwenLocal] }]

/-- `LANE_SELECTION_PRIORITY`. -/
def laneSelectionPriority : List ReasoningTaskLaneId :=
  [.sensitivePrivateContext, .architectureSecurityReview, .agentValidation,
    .multimodalDesignReview, .longContextSynthesis, .structuredToolReasoning,
    .boundedCodingWorker, .localRoutineWorker, .deterministicVerification]

/-- `laneRiskPriority`. -/
def laneRiskPriority (lane : ReasoningTaskLaneId) : ℕ := laneSelectionPriority.idxOf lane

/-- `unique`. -/
def unique {α : Type} [DecidableEq α] (values : List α) : List α := values.reverse.dedup.reverse

/-- `hasAny`. -/
def hasAny (locale : TextLocale) (normalizedTask : JsString) (terms : List JsString) : Bool :=
  terms.any fun term => decide (DecisionMesh.normalize locale term <:+: normalizedTask)

/-- `selectTaskLanes`. -/
def selectTaskLanes (locale : TextLocale) (normalizedTask : JsString) :
    List ReasoningTaskLaneId :=
  let found := (reasoningTaskLanePolicies.filter fun lane =>
    hasAny locale normalizedTask lane.taskSignals).map (·.id)
  if found.length = 0 then [.architectureSecurityReview]
  else (unique found).insertionSort fun a b => laneRiskPriority a ≤ laneRiskPriority b

/-- `selectProviderPolicies`. -/
def selectProviderPolicies (taskLanes : List ReasoningTaskLaneId) : List ReasoningProviderId :=
  unique (taskLanes.flatMap fun laneId =>
    match reasoningTaskLanePolicies.find? (·.id = laneId) with
    | some lane => lane.preferredProviders
    | none => [])

/-- `selectModelForLayer`. -/
def selectModelForLayer (layer : ModelPolicyLayer)
    (providerStatuses : ReasoningProviderId → Option SubscriptionRateLimitState) :
    ReasoningProviderId :=
  let provider := layerProviderMapping layer
  let state := providerStatuses provider
  let limited := state = some .rateLimited ∨ state = some .exhausted
  if provider = .geminiCli ∧ limited then .geminiCli
  else if provider = .anthropicClaudeSubscription ∧ limited then .anthropicClaudeSubscription
  else provider

/-! ## The hard rules -/

section rules

variable (budgets : List SubscriptionSessionBudget) (circuitStates : List TierCircuitState)

/-- `budgets.find((budget) => budget.provider === provider)`. -/
def budgetOf (provider : ReasoningProviderId) : Option SubscriptionSessionBudget :=
  budgets.find? fun budget => decide (budget.provider = provider)

/-- `isHardRouteAllowed`. -/
def isHardRouteAllowed (provider : ReasoningProviderId) : Bool :=
  match budgetOf budgets provider with
  | none => !isTierCircuitOpen circuitStates provider none
  | some budget =>
    if isActiveTierExplicitlyUnverified budget then false
    else !isTierCircuitOpen circuitStates provider budget.activeTierId

/-- The providers that come into question. -/
def candidateProviders (preferredProvider : ReasoningProviderId)
    (taskLane : ReasoningTaskLaneId) : List ReasoningProviderId :=
  unique (preferredProvider :: selectProviderPolicies [taskLane] ++
    [.qwenLocal, .deterministicTools])

/-- `selectHardAllowedProvider`. -/
def selectHardAllowedProvider (preferredProvider : ReasoningProviderId)
    (taskLane : ReasoningTaskLaneId) : Option ReasoningProviderId :=
  (candidateProviders preferredProvider taskLane).find?
    (isHardRouteAllowed budgets circuitStates)

/-- What the rules ask of a provider: its active tier is not listed as unverified, and no
circuit of that tier is open. -/
structure MayBeUsed (provider : ReasoningProviderId) : Prop where
  notUnverified : ∀ budget, budgetOf budgets provider = some budget →
    isActiveTierExplicitlyUnverified budget = false
  circuitClosed : isTierCircuitOpen circuitStates provider
    ((budgetOf budgets provider).bind (·.activeTierId)) = false

theorem isHardRouteAllowed_iff {provider : ReasoningProviderId} :
    isHardRouteAllowed budgets circuitStates provider = true ↔
      MayBeUsed budgets circuitStates provider := by
  unfold isHardRouteAllowed
  cases hbudget : budgetOf budgets provider with
  | none =>
    dsimp only
    constructor
    · intro h
      refine ⟨?_, ?_⟩
      · rw [hbudget]
        simp
      · rw [hbudget]
        simpa using h
    · intro h
      have hclosed := h.circuitClosed
      rw [hbudget] at hclosed
      simpa using hclosed
  | some budget =>
    dsimp only
    by_cases hunverified : isActiveTierExplicitlyUnverified budget = true
    · rw [if_pos hunverified]
      constructor
      · simp
      · intro h
        have hverified := h.notUnverified budget hbudget
        rw [hunverified] at hverified
        exact hverified.symm
    · rw [if_neg hunverified]
      constructor
      · intro h
        refine ⟨?_, ?_⟩
        · rw [hbudget]
          rintro other hother
          rw [← Option.some.inj hother]
          simpa using hunverified
        · rw [hbudget]
          simpa using h
      · intro h
        have hclosed := h.circuitClosed
        rw [hbudget] at hclosed
        simpa using hclosed

end rules

/-! ## Decisions -/

/-- What a decision is made from. -/
structure RoutingInput where
  taskId : JsString
  taskDescription : JsString
  layer : ModelPolicyLayer
  budgets : List SubscriptionSessionBudget
  recentFailureSignals : Option (List TierFailureSignalRecord) := none
  circuitBreakerThresholds : Option TierCircuitBreakerThresholds := none
  now : Option Moment := none

/-- `SupervisorRoutingDecision`, the fields that say where the work goes. -/
structure SupervisorRoutingDecision where
  taskId : JsString
  layer : ModelPolicyLayer
  taskLane : ReasoningTaskLaneId
  assignedProvider : ReasoningProviderId
  assignedTierId : Option JsString
  subscriptionBudgetState : SubscriptionRateLimitState
  fallbackProvider : RouteTarget
  deriving DecidableEq

/-- The part of an input that the fallback is resolved from. -/
def RoutingInput.fallbackOptions (input : RoutingInput) : ResolveFallbackOptions where
  budgets := some input.budgets
  recentFailureSignals := input.recentFailureSignals
  circuitBreakerThresholds := input.circuitBreakerThresholds
  now := input.now

/-- `selectDecisionFallbackProvider`. -/
def selectDecisionFallbackProvider (fallback : Option FallbackChainStep)
    (assignedProvider : ReasoningProviderId) (assignedTierId : Option JsString)
    (subscriptionBudgetState : SubscriptionRateLimitState) : RouteTarget :=
  let otherwise := if subscriptionBudgetState = .rateLimited ∨
      subscriptionBudgetState = .exhausted then RouteTarget.blocked
    else .provider assignedProvider
  match fallback with
  | some fallback =>
    if !isSelfFallbackRoute assignedProvider assignedTierId fallback.toProvider
        fallback.toTierId then fallback.toProvider
    else otherwise
  | none => otherwise

section decision

variable (getTime : JsString → Option ℚ) (locale : TextLocale)

/-- The lane of a task. -/
def taskLaneOf (taskDescription : JsString) : ReasoningTaskLaneId :=
  (selectTaskLanes locale (DecisionMesh.normalize locale taskDescription)).head?.getD
    .boundedCodingWorker

/-- The provider that the layer of an input prefers. -/
def preferredProvider (input : RoutingInput) : ReasoningProviderId :=
  selectModelForLayer input.layer fun provider =>
    -- of several budgets of a provider the last one gives its entry
    (input.budgets.reverse.find? fun budget => decide (budget.provider = provider)).map
      (·.activeTierRateLimitState)

/-- `buildSupervisorRoutingDecision`. `resolveRoutingCircuitStates` is the function that
the fallback uses as well. -/
def buildSupervisorRoutingDecision (input : RoutingInput) :
    Except JsError SupervisorRoutingDecision := do
  let taskLane := taskLaneOf locale input.taskDescription
  let preferredAssignedProvider := preferredProvider input
  let circuitStates ← resolveCircuitStates getTime locale input.fallbackOptions
  let assignedProvider :=
    (selectHardAllowedProvider input.budgets circuitStates preferredAssignedProvider
      taskLane).getD preferredAssignedProvider
  let assignedBudget := budgetOf input.budgets assignedProvider
  let subscriptionBudgetState := (assignedBudget.map (·.activeTierRateLimitState)).getD .unknown
  let resolved : Except JsError (Option FallbackChainStep) :=
    match assignedBudget with
    | some budget => resolveFallback getTime locale
        (if subscriptionBudgetState = .rateLimited then .rateLimited else .providerUnavailable)
        assignedProvider budget input.fallbackOptions
    | none => .ok none
  let fallback ← resolved
  let assignedTierId := assignedBudget.bind (·.activeTierId)
  return {
    taskId := input.taskId
    layer := input.layer
    taskLane, assignedProvider, assignedTierId, subscriptionBudgetState
    fallbackProvider := selectDecisionFallbackProvider fallback assignedProvider assignedTierId
      subscriptionBudgetState }

/-- The part of a decision that a dispatch looks at. -/
def routingOf (input : RoutingInput) :
    Except JsError GovernedDispatch.SupervisorRoutingDecision :=
  (buildSupervisorRoutingDecision getTime locale input).map fun decision =>
    { assignedProvider := some decision.assignedProvider.text
      assignedTierId := decision.assignedTierId }

variable {getTime locale}

theorem text_viable (provider : ReasoningProviderId) :
    provider.text ≠ [] ∧ provider.text ≠ js "none" := by
  cases provider
  all_goals decide +kernel

/-- Every decision names a provider that passes for viable, so no handoff is refused for
want of one. -/
theorem resolveTierId_of_routingOf {input : RoutingInput} {decision : SupervisorRoutingDecision}
    (h : buildSupervisorRoutingDecision getTime locale input = .ok decision)
    {handoff : GovernedDispatch.DispatchHandoff}
    (hrouting : handoff.routing = some (routingOf getTime locale input)) :
    GovernedDispatch.resolveTierId handoff = .ok (some decision.assignedTierId) := by
  have hviable := text_viable decision.assignedProvider
  unfold GovernedDispatch.resolveTierId routingOf at *
  rw [hrouting, h]
  simp only [Except.map, bind, Except.bind, pure, Except.pure]
  rw [if_pos]
  simp [GovernedDispatch.hasViableAssignedProvider, hviable]

theorem buildSupervisorRoutingDecision_ok {input : RoutingInput}
    {circuitStates : List TierCircuitState}
    (hcircuits : resolveCircuitStates getTime locale input.fallbackOptions = .ok circuitStates) :
    ∃ decision, buildSupervisorRoutingDecision getTime locale input = .ok decision ∧
      decision.assignedProvider = (selectHardAllowedProvider input.budgets circuitStates
        (preferredProvider input) (taskLaneOf locale input.taskDescription)).getD
          (preferredProvider input) ∧
      decision.assignedTierId =
        (budgetOf input.budgets decision.assignedProvider).bind (·.activeTierId) := by
  unfold buildSupervisorRoutingDecision
  simp only [hcircuits, bind, Except.bind, pure, Except.pure]
  generalize (selectHardAllowedProvider input.budgets circuitStates
    (preferredProvider input) (taskLaneOf locale input.taskDescription)).getD
      (preferredProvider input) = assigned
  cases hbudget : budgetOf input.budgets assigned with
  | none =>
    refine ⟨_, rfl, rfl, ?_⟩
    dsimp only
    rw [hbudget]
  | some budget =>
    obtain ⟨fallback, hfallback⟩ := resolveFallback_returns getTime locale
      (if ((some budget).map (·.activeTierRateLimitState)).getD .unknown = .rateLimited then
        .rateLimited else .providerUnavailable) assigned budget hcircuits
    dsimp only at hfallback ⊢
    rw [hfallback]
    refine ⟨_, rfl, rfl, ?_⟩
    dsimp only
    rw [hbudget]

/-- Where the rules allow one of the candidates, the first that they allow is assigned,
and a dispatch goes on with its active tier. -/
theorem assigned_is_first_allowed {input : RoutingInput} {circuitStates : List TierCircuitState}
    (hcircuits : resolveCircuitStates getTime locale input.fallbackOptions = .ok circuitStates)
    (hallowed : ∃ provider ∈ candidateProviders (preferredProvider input)
        (taskLaneOf locale input.taskDescription),
      MayBeUsed input.budgets circuitStates provider) :
    ∃ decision before after, buildSupervisorRoutingDecision getTime locale input = .ok decision ∧
      candidateProviders (preferredProvider input) (taskLaneOf locale input.taskDescription) =
        before ++ decision.assignedProvider :: after ∧
      (∀ provider ∈ before, ¬ MayBeUsed input.budgets circuitStates provider) ∧
      MayBeUsed input.budgets circuitStates decision.assignedProvider ∧
      ∀ handoff : GovernedDispatch.DispatchHandoff,
        handoff.routing = some (routingOf getTime locale input) →
          GovernedDispatch.resolveTierId handoff = .ok (some
            ((budgetOf input.budgets decision.assignedProvider).bind (·.activeTierId))) := by
  obtain ⟨decision, hdecision, hassigned, htier⟩ := buildSupervisorRoutingDecision_ok hcircuits
  have hfound : (selectHardAllowedProvider input.budgets circuitStates (preferredProvider input)
      (taskLaneOf locale input.taskDescription)).isSome := by
    unfold selectHardAllowedProvider
    rw [List.find?_isSome]
    obtain ⟨provider, hmem, hused⟩ := hallowed
    exact ⟨provider, hmem, (isHardRouteAllowed_iff _ _).2 hused⟩
  obtain ⟨provider, hprovider⟩ := Option.isSome_iff_exists.1 hfound
  rw [hprovider, Option.getD_some] at hassigned
  obtain ⟨hused, before, after, hsplit, hbefore⟩ := List.find?_eq_some_iff_append.1 hprovider
  refine ⟨decision, before, after, hdecision, ?_, ?_, ?_, ?_⟩
  · rw [hassigned]
    exact hsplit
  · intro other hother hallowed
    have hforbidden := hbefore other hother
    rw [(isHardRouteAllowed_iff _ _).2 hallowed] at hforbidden
    simp at hforbidden
  · rw [hassigned]
    exact (isHardRouteAllowed_iff _ _).1 hused
  · intro handoff hrouting
    rw [← htier]
    exact resolveTierId_of_routingOf hdecision hrouting

end decision

/-! A provider without a budget, and three providers with open circuits. -/

section sample

def sampleInput (signals : List TierFailureSignalRecord) : RoutingInput where
  taskId := js "t"
  taskDescription := js "refactor"
  layer := .boundedCoding
  budgets := []
  recentFailureSignals := some signals
  now := some (.date (some 0))

def sampleFailures : List TierFailureSignalRecord :=
  [ReasoningProviderId.openaiGpt, .qwenLocal, .deterministicTools].flatMap fun provider =>
    List.replicate 3 { sampleFailure with provider, tierId := none }

/-- A provider is assigned that has no tier, and one whose circuit is open. -/
theorem assigned_without_verified_tier :
    (buildSupervisorRoutingDecision sampleTime sampleLocale (sampleInput [])).toOption.map
      (fun decision => (decision.assignedProvider, decision.assignedTierId)) =
        some (.openaiGpt, none) ∧
    (buildSupervisorRoutingDecision sampleTime sampleLocale
      (sampleInput sampleFailures)).toOption.map (·.assignedProvider) = some .openaiGpt ∧
    (resolveCircuitStates sampleTime sampleLocale
      (sampleInput sampleFailures).fallbackOptions).toOption.map
        (fun circuitStates => [ReasoningProviderId.openaiGpt, .qwenLocal,
          .deterministicTools].map (isTierCircuitOpen circuitStates · none)) =
      some [true, true, true] := by
  refine ⟨?_, ?_, ?_⟩
  · decide +kernel
  · decide +kernel
  · decide +kernel

theorem assigned_is_first_allowed_sample :
    ∃ decision, buildSupervisorRoutingDecision sampleTime sampleLocale
        (sampleInput (List.replicate 3 { sampleFailure with tierId := none })) = .ok decision ∧
      decision.assignedProvider = .qwenLocal := by
  have hcircuits : resolveCircuitStates sampleTime sampleLocale (sampleInput
      (List.replicate 3 { sampleFailure with tierId := none })).fallbackOptions =
        .ok [{ sampleState with tierId := none }] := by
    have hsome : (resolveCircuitStates sampleTime sampleLocale (sampleInput
        (List.replicate 3 { sampleFailure with tierId := none })).fallbackOptions).toOption =
          some [{ sampleState with tierId := none }] := by decide +kernel
    cases hstates : resolveCircuitStates sampleTime sampleLocale (sampleInput
        (List.replicate 3 { sampleFailure with tierId := none })).fallbackOptions with
    | error e =>
      rw [hstates] at hsome
      simp [Except.toOption] at hsome
    | ok states =>
      rw [hstates] at hsome
      exact congrArg Except.ok (Option.some.inj hsome)
  obtain ⟨decision, before, after, hdecision, hsplit, hbefore, hused, -⟩ :=
    assigned_is_first_allowed hcircuits
      ⟨.qwenLocal, by decide +kernel, (isHardRouteAllowed_iff _ _).1 (by decide +kernel)⟩
  refine ⟨decision, hdecision, ?_⟩
  have hassigned : (buildSupervisorRoutingDecision sampleTime sampleLocale (sampleInput
      (List.replicate 3 { sampleFailure with tierId := none }))).toOption.map
        (·.assignedProvider) = some .qwenLocal := by decide +kernel
  rw [hdecision] at hassigned
  exact Option.some.inj hassigned

end sample

end SupervisorRouting

end Autopilot
