/-
What travels between the control plane and a worker.

A handoff is the order given to a worker: the prompt, the route it has to be
executed on, and the identifiers that tie it to its run. The supervisor queue
stores it, the run orchestrator builds and checks it. A dispatch answers with a
refusal or with what the worker returned, unless it throws.

The modules above read exactly the fields kept here. The others of a handoff
(skills, modes, images, routing context) are passed through to the worker and
decide nothing on the way.
-/
import Autopilot.Js

set_option autoImplicit false

namespace Autopilot

open Prog

/-! ## Routes -/

/-- `RunProvider`, which is also `CliVendor`. -/
inductive RunProvider where
  | codexCli | claudeCli | agyCli | openrouterApi
  deriving DecidableEq, Repr

/-- The text of a provider. -/
def RunProvider.text : RunProvider → JsString
  | .codexCli => js "codex_cli"
  | .claudeCli => js "claude_cli"
  | .agyCli => js "agy_cli"
  | .openrouterApi => js "openrouter_api"

/-- `RunReasoningEffort`. -/
inductive RunReasoningEffort where
  | low | medium | high | xhigh | max | ultra
  deriving DecidableEq, Repr

/-- The text of a reasoning effort. -/
def RunReasoningEffort.text : RunReasoningEffort → JsString
  | .low => js "low"
  | .medium => js "medium"
  | .high => js "high"
  | .xhigh => js "xhigh"
  | .max => js "max"
  | .ultra => js "ultra"

/-- `SUPPORTED_REASONING_EFFORTS`. -/
def supportedReasoningEfforts : RunProvider → List RunReasoningEffort
  | .codexCli => [.low, .medium, .high, .xhigh, .max, .ultra]
  | .claudeCli => [.low, .medium, .high, .xhigh, .max]
  | .agyCli => [.low, .medium, .high]
  | .openrouterApi => []

/-- `RunProfile`. -/
inductive RunProfile where
  | dev | prod
  deriving DecidableEq, Repr

/-- `StoredRunProfile`. A legacy run was stored before there were profiles. -/
inductive StoredRunProfile where
  | dev | prod | legacy
  deriving DecidableEq, Repr

/-- A profile as it is stored. -/
def RunProfile.stored : RunProfile → StoredRunProfile
  | .dev => .dev
  | .prod => .prod

/-! ## Handoffs -/

/-- `WorkUnitClass`, the two members `classifyWorkUnitForProfile` gives. -/
inductive WorkUnitClass where
  | boundedImplementation | highRisk
  deriving DecidableEq, Repr

/-- `WorkUnitRisk`. -/
inductive WorkUnitRisk where
  | ordinary | high
  deriving DecidableEq, Repr

/-- `classifyWorkUnitForProfile`. -/
def classifyWorkUnitForProfile (profile : RunProfile) (touchesHighRiskBoundary : Bool) :
    WorkUnitClass × WorkUnitRisk :=
  if profile = .prod ∨ touchesHighRiskBoundary then (.highRisk, .high)
  else (.boundedImplementation, .ordinary)

/-- `efficiency` of a handoff. -/
structure HandoffEfficiency where
  workUnitId : JsString
  workUnitClass : WorkUnitClass
  workUnitRisk : WorkUnitRisk
  profile : StoredRunProfile
  actualReasoningEffort : Option JsString
  deriving DecidableEq

/-- `GovernedHandoff`. A field that may be absent is an option. -/
structure GovernedHandoff where
  handoffId : JsString
  sessionId : Option JsString := none
  vendor : RunProvider
  model : Option JsString := none
  prompt : JsString
  cwd : Option JsString := none
  parentSessionHash : JsString
  parentTurnHash : JsString
  task : JsString
  agent : JsString
  packetHash : JsString
  requiredChecks : List JsString
  taskPacketRef : Option JsString := none
  maxPromptChars : Option ℕ := none
  efficiency : Option HandoffEfficiency := none
  /-- `generationSettings.reasoning_effort`. -/
  reasoningEffort : Option JsString := none
  deriving DecidableEq

/-! ## Answers -/

/-- `DispatchRefusalReason`. -/
inductive DispatchRefusalReason where
  | packetProvenanceMismatch | routingNoViableProvider | missingRequiredChecks
  | laneNotAllowedInMode | missingUpstreamDraft | tokenBudgetExhausted
  deriving DecidableEq, Repr

/-- The text of a refusal. -/
def DispatchRefusalReason.text : DispatchRefusalReason → JsString
  | .packetProvenanceMismatch => js "packet_provenance_mismatch"
  | .routingNoViableProvider => js "routing_no_viable_provider"
  | .missingRequiredChecks => js "missing_required_checks"
  | .laneNotAllowedInMode => js "lane_not_allowed_in_mode"
  | .missingUpstreamDraft => js "missing_upstream_draft"
  | .tokenBudgetExhausted => js "token_budget_exhausted"

/-- `lockStatus` of a worker. -/
inductive LockStatus where
  | acquiredSupervisorSpawn | alreadyLocked | staleReplaced | failed
  deriving DecidableEq, Repr

/-- What a worker that was started returns. -/
structure WorkerResult where
  workerRunId : JsString
  exitCode : ℤ
  rawOutput : JsString
  errorReason : Option JsString
  lockStatus : LockStatus
  deriving DecidableEq

/-- `DispatchResult`. -/
inductive DispatchResult where
  | refused (reason : DispatchRefusalReason)
  | accepted (worker : WorkerResult)
  deriving DecidableEq

/-- How a dispatch ends: with an answer, or with what it throws. -/
abbrev DispatchOutcome := Except JsError DispatchResult

/-! ## SHA-256 -/

/-- `/^[a-f0-9]{64}$/`. -/
def isHexDigest (s : JsString) : Bool :=
  s.length = 64 && s.all (fun c => (48 ≤ c && c ≤ 57) || (97 ≤ c && c ≤ 102))

/-- `createHash("sha256").update(value, "utf8").digest("hex")`: a function to
texts of 64 hexadecimal digits. -/
structure Sha256 where
  digest : JsString → JsString
  isHex : ∀ s, isHexDigest (digest s) = true

end Autopilot
