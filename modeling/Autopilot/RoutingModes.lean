/-
The routing modes and their lanes.

A mode is chosen by the supervisor, and it says on which lanes its work may run.
The lane of a handoff follows from its vendor and its model. This module is the
part of `routingModes.ts` that a packet and a dispatch read.
-/
import Autopilot.Handoff
import Autopilot.SupervisorQueue

set_option autoImplicit false

namespace Autopilot

/-! ## Lanes -/

/-- `RoutingModeId`. -/
inductive RoutingModeId where
  | idea | spec | build | review
  deriving DecidableEq, Repr

/-- The text of a mode. -/
def RoutingModeId.text : RoutingModeId → JsString
  | .idea => js "idea"
  | .spec => js "spec"
  | .build => js "build"
  | .review => js "review"

theorem RoutingModeId.text_injective : Function.Injective RoutingModeId.text := by
  intro a b h
  cases a <;> cases b <;> first | rfl | exact absurd h (by decide)

/-- `RoutingLaneId`. -/
inductive RoutingLaneId where
  | agyFast | agyDeep | agyGptOss120b | agyClaudeSonnet46 | openrouterNemotronPlanning
  | openrouterQwen3CodeDraft | qwenLocal | deterministicTools | claudeSupervisor | codexCli
  deriving DecidableEq, Repr

/-- `OpenRouterMode`. -/
inductive OpenRouterMode where
  | qwen3CodeDraft | nemotronPlanning
  deriving DecidableEq, Repr

/-- `EXPENSIVE_LANES`. -/
def expensiveLanes : List RoutingLaneId := [.claudeSupervisor, .codexCli]

/-- `AGY_VERIFIED_MODELS`, the members that are read. -/
def agyFastDefault : JsString := js "gemini-3.5-flash-medium"
def agyGptOss120bModel : JsString := js "gpt-oss-120b"
def agyClaudeSonnet46Model : JsString := js "claude-4.6-sonnet"

/-- `/pro/i.test(model)`. -/
def namesPro (model : JsString) : Bool :=
  decide (js "pro" <:+: model.map fun c => if 65 ≤ c ∧ c ≤ 90 then c + 32 else c)

/-- `resolveRoutingLane`. Without a mode the lane of OpenRouter is not known, and
the function throws. -/
def resolveRoutingLane (vendor : RunProvider) (openrouterMode : Option OpenRouterMode)
    (model : Option JsString) : Option RoutingLaneId :=
  match vendor with
  | .codexCli => some .codexCli
  | .claudeCli => some .agyClaudeSonnet46
  | .agyCli =>
    let model := model.getD []
    if model = agyGptOss120bModel then some .agyGptOss120b
    else if model = agyClaudeSonnet46Model then some .agyClaudeSonnet46
    else if namesPro model then some .agyDeep
    else some .agyFast
  | .openrouterApi =>
    match openrouterMode with
    | some .nemotronPlanning => some .openrouterNemotronPlanning
    | some .qwen3CodeDraft => some .openrouterQwen3CodeDraft
    | none => none

/-! ## Modes -/

/-- `RoutingModePolicy`, the fields that are read. -/
structure RoutingModePolicy where
  allowedLanes : List RoutingLaneId
  requiredChecks : List JsString
  stopConditions : List JsString

/-- `getRoutingMode`. -/
def getRoutingMode : RoutingModeId → RoutingModePolicy
  | .idea =>
    { allowedLanes :=
        [.agyFast, .agyDeep, .agyGptOss120b, .agyClaudeSonnet46, .openrouterNemotronPlanning]
      requiredChecks :=
        ["mode_is_explicit_supervisor_input", "lane_in_allowed_set", "no_expensive_lane"].map js
      stopConditions :=
        ["expensive_lane_requested_in_idea", "auto_mode_classification_used_as_authority"].map js }
  | .spec =>
    { allowedLanes := [.openrouterNemotronPlanning, .agyFast, .agyDeep, .deterministicTools]
      requiredChecks :=
        ["mode_is_explicit_supervisor_input", "lane_in_allowed_set",
          "upstream_spec_draft_present"].map js
      stopConditions :=
        ["missing_upstream_draft", "missing_task_package_hash",
          "auto_mode_classification_used_as_authority"].map js }
  | .build =>
    { allowedLanes := [.openrouterQwen3CodeDraft, .qwenLocal, .deterministicTools, .codexCli]
      requiredChecks :=
        ["mode_is_explicit_supervisor_input", "lane_in_allowed_set",
          "approved_patch_plan_present"].map js
      stopConditions :=
        ["missing_upstream_draft", "missing_failed_attempt_trail",
          "raw_prompt_used_for_build"].map js }
  | .review =>
    { allowedLanes :=
        [.agyFast, .agyDeep, .agyGptOss120b, .agyClaudeSonnet46, .claudeSupervisor, .codexCli]
      requiredChecks :=
        ["mode_is_explicit_supervisor_input", "lane_in_allowed_set",
          "review_severity_declared"].map js
      stopConditions :=
        ["missing_review_severity", "cheap_artifact_absent",
          "low_severity_polish_routed_to_claude"].map js }

/-- `isLaneAllowedInMode`. -/
def isLaneAllowedInMode (id : RoutingModeId) (lane : RoutingLaneId) : Bool :=
  (getRoutingMode id).allowedLanes.contains lane

/-- `BuildPrepProvenance`. -/
inductive BuildPrepProvenance where
  | cheapAttempts (refs : List JsString)
  | cheapNotApplicable (reason : JsString) (ownerOverride : Bool)
  deriving DecidableEq

/-- `isBuildPrepProvenanceSatisfied`. -/
def isBuildPrepProvenanceSatisfied : Option BuildPrepProvenance → Bool
  | none => false
  | some (.cheapAttempts refs) => decide (refs ≠ []) && refs.all (trim · ≠ [])
  | some (.cheapNotApplicable reason ownerOverride) => decide (trim reason ≠ []) && ownerOverride

end Autopilot
