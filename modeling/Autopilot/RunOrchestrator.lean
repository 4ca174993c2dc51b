/-
The run orchestrator: one run, three stores, one worker.

The orchestrator takes a run from its draft to its end. What it knows is in the
run store, in the approval queue, in the supervisor queue and in the token
gateway; it keeps nothing between two calls. This module is `runOrchestrator.ts`,
with the two routes of the control plane that write the same stores.

The stores are components of one `World`, and a function of a store runs on it
through a lens. `runSupervisorOnce` waits for the worker in the middle, so it is
two programs: what runs up to the call of the worker, and what runs when the
answer is there. Anything can happen to the stores in between.

What the functions read from outside comes with each call: the time, the project
registry, the routes that can be taken, the decision mesh. The hooks of
`afterPhase` are for tests and are left out.
-/
import Autopilot.ApprovalQueue
import Autopilot.RunStore
import Autopilot.SupervisorQueue

set_option autoImplicit false

namespace Autopilot

open Prog Keyed

/-! ## The stores and the outside -/

/-- What is fixed for the life of an orchestrator. -/
structure OrchestratorOptions where
  queue : SupervisorQueueOptions
  limits : TokenGatewayLimits
  redactPatterns : JsString → JsString
  supervisorMaxAttempts : Option JsNumber := none

/-- What `computePacketHash` and the handoff read of an agent packet. -/
structure AgentPacket where
  packetHash : JsString
  requiredChecks : List JsString

/-- What one call reads from outside the stores. -/
structure Environment where
  now : ℕ
  /-- The working directory of an enabled project, or what the registry throws. -/
  resolveEnabledProject : JsString → Except JsError JsString
  /-- The last argument asks for the strict check. -/
  routeAvailable : RunProvider → Option JsString → RunProfile → Option RunReasoningEffort →
    Bool → Bool
  /-- The packet of a task, an agent and a budget. -/
  buildAgentPacket : JsString → JsString → ℕ → Except JsError AgentPacket

/-- The four stores of a state directory. -/
structure World (options : OrchestratorOptions) where
  runs : RunStore
  approvals : ApprovalQueue
  supervisor : SupervisorQueue options.queue
  gateway : Gateway
  deriving DecidableEq

namespace World

variable (options : OrchestratorOptions)

/-- An empty state directory. -/
def initial : World options := ⟨.empty, .empty, .initial options.queue, .initial⟩

/-- What a process that starts on the directory sees. The supervisor queue and
the gateway keep their state in memory and load it once. -/
def reload (world : World options) : World options :=
  { world with
    supervisor := world.supervisor.load
    gateway := { world.gateway with state := world.gateway.file } }

def runsLens : Lens (World options) RunStore where
  get := World.runs
  set world runs := { world with runs }
  get_set _ _ := rfl
  set_get _ := rfl
  set_set _ _ _ := rfl

def approvalsLens : Lens (World options) ApprovalQueue where
  get := World.approvals
  set world approvals := { world with approvals }
  get_set _ _ := rfl
  set_get _ := rfl
  set_set _ _ _ := rfl

def supervisorLens : Lens (World options) (SupervisorQueue options.queue) where
  get := World.supervisor
  set world supervisor := { world with supervisor }
  get_set _ _ := rfl
  set_get _ := rfl
  set_set _ _ _ := rfl

def gatewayLens : Lens (World options) Gateway where
  get := World.gateway
  set world gateway := { world with gateway }
  get_set _ _ := rfl
  set_get _ := rfl
  set_set _ _ _ := rfl

end World

section stores

variable {options : OrchestratorOptions} {α : Type}

/-- A function of the run store, called by the orchestrator. -/
def inRuns (p : Proc RunStore α) : Proc (World options) α :=
  zoom (Host.lens (World.runsLens options)) p

/-- A function of the approval queue. -/
def inApprovals (p : Proc ApprovalQueue α) : Proc (World options) α :=
  zoom (Host.lens (World.approvalsLens options)) p

/-- A method of the supervisor. -/
def inSupervisor (p : Proc (SupervisorQueue options.queue) α) : Proc (World options) α :=
  zoom (Host.lens (World.supervisorLens options)) p

/-- A method of the token gateway. -/
def inGateway (p : Proc Gateway α) : Proc (World options) α :=
  zoom (Host.lens (World.gatewayLens options)) p

end stores

/-- What the language throws when it reads a field of `null`. -/
def typeError : JsError := .error (js "TypeError") (js "Cannot read properties of null")

/-! ## Identifiers -/

/-- `handoffIdFor`. -/
def handoffIdFor (run : RunRecord) : JsString :=
  js "run-handoff-" ++ run.runId ++ js "-" ++ decimal run.current.revision

/-- The identifier of the approval of a revision. -/
def approvalIdFor (draft : RunDraft) : JsString :=
  js "run-approval-" ++ draft.runId ++ js "-" ++ decimal draft.revision

/-- `run-task-…`. -/
def runTaskId (suffix : JsString) : JsString := js "run-task-" ++ suffix

/-- `deterministicGroupRunId`. -/
def deterministicGroupRunId (sha256 : Sha256) (groupId slotId : JsString) : JsString :=
  js "bgr-" ++ (sha256.digest (groupId ++ [0] ++ slotId)).take 32

/-! ## Checks -/

/-- `isProjectConfigurationError`. -/
def isProjectConfigurationError (error : JsError) : Bool :=
  error.message?.getD [] ∈
    ["invalid_project_registry", "project_not_found", "project_path_missing",
      "project_path_outside_root", "invalid_project_root",
      "insecure_project_registry_permissions"].map js

/-- `resolveRunProfile`, read as the profile a route is checked for. -/
def RunDraft.routeProfile (draft : RunDraft) : RunProfile :=
  match draft.profile with
  | .prod => .prod
  | .dev | .legacy => .dev

/-- `resolveLegacyRequestedReasoning`. -/
def resolveLegacyRequestedReasoning (run : RunRecord) : Option RunReasoningEffort :=
  if run.current.profile = .legacy then none else run.current.requestedReasoningEffort

/-- `RouteSnapshot` of a run and of a handoff. The text of an effort stands for
the effort. -/
structure RouteSnapshot where
  provider : RunProvider
  model : Option JsString
  reasoning : Option JsString
  deriving DecidableEq

/-- What `assertTaskRoute` throws. -/
def taskRouteRefusal (run : RunRecord) (handoff : GovernedHandoff) : Option JsError :=
  let before : RouteSnapshot :=
    { provider := run.current.provider
      model := run.current.model
      reasoning := (resolveLegacyRequestedReasoning run).map (·.text) }
  let after : RouteSnapshot :=
    { provider := handoff.vendor, model := handoff.model, reasoning := handoff.reasoningEffort }
  if before ≠ after then some (JsError.new "silent_route_change_forbidden") else none

/-- What `assertGroupPromptCommitment` throws. -/
def groupPromptRefusal (sha256 : Sha256) (run : RunRecord) : Option JsError :=
  match run.orchestrationRef, run.orchestrationRequest.bind (·.promptCommitment) with
  | none, _ => none
  | some _, none => some (JsError.new "run_prompt_commitment_missing")
  | some _, some commitment =>
    if sha256.digest run.current.prompt ≠ commitment then
      some (JsError.new "run_prompt_commitment_mismatch")
    else none

/-- What `assertDispatchPromptCommitment` throws. -/
def dispatchPromptRefusal (sha256 : Sha256) (run : RunRecord) (handoff : GovernedHandoff) :
    Option JsError :=
  match run.orchestrationRef, run.orchestrationRequest.bind (·.promptCommitment) with
  | none, _ => none
  | some _, none => some (JsError.new "run_prompt_commitment_missing")
  | some _, some commitment =>
    if sha256.digest run.current.prompt ≠ commitment ∨ sha256.digest handoff.prompt ≠ commitment
    then some (JsError.new "run_prompt_commitment_mismatch")
    else if handoff.sessionId ≠ some run.runId ∨ handoff.handoffId ≠ handoffIdFor run then
      some (JsError.new "run_prompt_commitment_identity_mismatch")
    else none

/-- `sameGroupDraft`. -/
def sameGroupDraft (run : RunRecord) (input : RunDraftInput) : Bool :=
  run.current.projectId = input.projectId && run.current.prompt = input.prompt &&
    run.current.provider = input.provider && run.current.model = input.model &&
    run.orchestrationRequest.any (fun request =>
      input.estimatedTokens.isNat request.estimatedTokens) &&
    run.current.profile = input.profile.stored &&
    run.current.requestedReasoningEffort = input.requestedReasoningEffort &&
    run.current.promotionPacketId = input.promotionPacketId &&
    run.current.promptReviewAcknowledged = input.promptReviewAcknowledged &&
    run.current.requestedArtifacts = input.requestedArtifacts

/-- `sameDraftInput` of the revision route. -/
def sameDraftInput (draft : RunDraft) (input : RunDraftInput) : Bool :=
  draft.projectId = input.projectId && draft.prompt = input.prompt &&
    draft.provider = input.provider && draft.model = input.model &&
    draft.estimatedTokens = canonicalRunTokenBudget input.prompt &&
    draft.requestedArtifacts = input.requestedArtifacts &&
    draft.promptReviewAcknowledged = input.promptReviewAcknowledged &&
    draft.profile = input.profile.stored &&
    draft.requestedReasoningEffort = input.requestedReasoningEffort &&
    draft.promotionPacketId = input.promotionPacketId

/-- Throw what a check found. -/
def throwAny {σ : Type} (refusal : Option JsError) : Proc σ Unit :=
  match refusal with
  | some error => throw error
  | none => pure ()

/-! ## The handoff of a run -/

/-- `handoffFor`. -/
def handoffFor (sha256 : Sha256) (env : Environment) (run : RunRecord) :
    Except JsError GovernedHandoff := do
  match (groupPromptRefusal sha256 run).or
      (runPromptRefusal run.current.prompt run.current.promptReviewAcknowledged) with
  | some error => throw error
  | none =>
    if run.current.estimatedTokens ≠ canonicalRunTokenBudget run.current.prompt then
      throw (JsError.new "run_token_budget_mismatch")
    else
      let task := js "Execute approved run " ++ run.runId ++ js " revision " ++
        decimal run.current.revision
      let packet ← env.buildAgentPacket task (js "worker") run.current.estimatedTokens
      let cwd ← env.resolveEnabledProject run.current.projectId
      let executionProfile :=
        match run.current.profile with
        | .dev => RunProfile.dev
        | .prod | .legacy => .prod
      let workUnit := classifyWorkUnitForProfile executionProfile false
      let reasoningEffort := (resolveLegacyRequestedReasoning run).map (·.text)
      return {
        handoffId := handoffIdFor run
        sessionId := some run.runId
        vendor := run.current.provider
        model := run.current.model
        prompt := run.current.prompt
        cwd := some cwd
        parentSessionHash := run.runId
        parentTurnHash := decimal run.current.revision
        task
        agent := js "worker"
        packetHash := packet.packetHash
        requiredChecks := packet.requiredChecks
        efficiency := some {
          workUnitId := run.runId
          workUnitClass := workUnit.1
          workUnitRisk := workUnit.2
          profile := run.current.profile
          actualReasoningEffort := reasoningEffort }
        reasoningEffort }

/-- `approvalFor`, and the record `prepareRun` makes. -/
def approvalFor (draft : RunDraft) (now : ℕ) : ApprovalQueueRecord :=
  ApprovalQueue.createApprovalRecord
    { approvalId := approvalIdFor draft
      runId := some draft.runId
      revision := some draft.revision
      sessionId := draft.runId
      vendor := draft.provider.text
      model := draft.model
      skillIds := []
      prompt := draft.prompt
      estimatedTokens := draft.estimatedTokens
      inputTokenBound := draft.inputTokenBound
      outputTokenAllowance := draft.outputTokenAllowance
      promptReviewAcknowledged := draft.promptReviewAcknowledged } now

/-- The record is the approval of that revision of that run. -/
def ApprovalQueueRecord.isFor (record : ApprovalQueueRecord) (runId : JsString) (revision : ℕ) :
    Bool :=
  record.runId = some runId && record.revision = some revision

section orchestrator

variable {options : OrchestratorOptions}

/-! ## Reading the stores -/

/-- `record`. -/
def record (runId : JsString) : Proc (World options) RunRecord := inRuns (RunStore.find runId)

/-- `snapshot().find(…)`. -/
def World.task (world : World options) (taskId : JsString) : Option SupervisorTask :=
  lookup SupervisorTask.taskId world.supervisor.state.tasks taskId

/-- The task has not come to its end, or there is none. -/
def needsCancel (task : Option SupervisorTask) : Bool := task.all (!·.status.terminal)

/-- `bindingForTask`. -/
def bindingForTask (taskId : JsString) : Proc (World options) RunRecord := do
  let world ← Host.read
  match world.runs.runs.find? (·.supervisorTaskId = some taskId) with
  | some run =>
    throwIf (run.tokenReservation = none) (JsError.new "run_binding_not_found")
    return run
  | none => throw (JsError.new "run_binding_not_found")

/-! ## Drafts and approvals -/

/-- Ask for the approval of a revision. -/
def askApproval (approval : ApprovalQueueRecord) : Proc (World options) Unit := do
  let world ← Host.read
  inApprovals (ApprovalQueue.writeApprovalQueue (world.approvals.records ++ [approval]))

/-- `prepareRun`. -/
def prepareRun (env : Environment) (input : RunDraftInput) : Proc (World options) RunRecord := do
  let _ ← ofExcept (env.resolveEnabledProject input.projectId)
  throwIf (¬ env.routeAvailable input.provider input.model input.profile
    input.requestedReasoningEffort false) (JsError.new "run_route_unavailable")
  let draft ← inRuns (RunStore.createRunDraft env.resolveEnabledProject input env.now)
  askApproval (approvalFor draft env.now)
  record draft.runId

/-- `reviseRunWithApproval`. A revision that is stored already is not stored
again, so that the call can be repeated. -/
def reviseRunWithApproval (env : Environment) (runId : JsString) (expectedRevision : ℕ)
    (input : RunDraftInput) : Proc (World options) RunRecord := do
  let _ ← ofExcept (env.resolveEnabledProject input.projectId)
  let before ← record runId
  let draft ←
    (if before.status = .draft ∧ before.current.revision = expectedRevision + 1 ∧
        sameDraftInput before.current input then
      pure before.current
    else inRuns (RunStore.reviseRunDraft env.resolveEnabledProject runId expectedRevision input
      env.now))
  let world ← Host.read
  (if world.approvals.records.any (·.isFor runId draft.revision) then pure ()
    else askApproval (approvalFor draft env.now))
  record runId

/-- `decideApprovalHttp`. -/
def decideApprovalHttp (env : Environment) (approvalId : JsString) (approved : Bool)
    (reason : Option JsString) : Proc (World options) Unit :=
  inApprovals (ApprovalQueue.decideApprovalHttp approvalId approved env.now reason)

/-! ## Ending a reservation -/

/-- Release the reservation of a run, where it is still active. -/
def releaseReservation (env : Environment) (run : RunRecord) : Proc (World options) RunRecord :=
  if run.reservationStatus = .active then
    match run.tokenReservation with
    | none => throw typeError
    | some reservation => do
      inGateway (release env.now reservation)
      inRuns (RunStore.markRunReservationTerminal run.runId .released env.now)
  else return run

/-- `acknowledgeTerminal(reservation.reservationId)`. -/
def acknowledge (run : RunRecord) : Proc (World options) Unit :=
  match run.tokenReservation with
  | none => throw typeError
  | some reservation => inGateway (acknowledgeTerminal reservation.reservationId)

/-! ## Queueing -/

/-- Cancel a task, and keep what that throws. -/
def tryCancel (env : Environment) (taskId reason : JsString) :
    Proc (World options) (Option JsError) :=
  tryCatch (do
      let _ ← inSupervisor (SupervisorQueue.cancel taskId reason (some env.now))
      return none)
    fun error => return some error

/-- Release the reservation of a run, and keep what that throws. -/
def tryRelease (env : Environment) (run : RunRecord) :
    Proc (World options) (RunRecord × Option JsError) :=
  tryCatch (do
      let run ← releaseReservation env run
      return (run, none))
    fun error => return (run, some error)

/-- The end of `reconcileQueueCompensation`: the binding is cleared once its task
and its reservation are at their end. -/
def clearCompensated (env : Environment) (taskId : JsString) (run : RunRecord)
    (firstError : Option JsError) : Proc (World options) RunRecord := do
  let world ← Host.read
  match firstError with
  | some error => throw error
  | none =>
    if (world.task taskId).all (·.status.terminal) ∧ run.reservationStatus = .released then
      inRuns (RunStore.clearRunSupervisorBinding run.runId env.now)
    else return run

/-- `reconcileQueueCompensation`. -/
def reconcileQueueCompensation (env : Environment) (run : RunRecord) :
    Proc (World options) RunRecord :=
  match run.queueCompensationRequested, run.supervisorTaskId, run.tokenReservation with
  | true, some taskId, some _ => do
    let world ← Host.read
    let cancelError ←
      (if (world.task taskId).any (!·.status.terminal) then
        tryCancel env taskId (js "enqueue_failed")
      else pure none)
    let released ← tryRelease env run
    clearCompensated env taskId released.1 (cancelError.or released.2)
  | _, _, _ => return run

/-- The approval of a revision is granted, where that has not happened yet. -/
def grantApproval (env : Environment) (approval : ApprovalQueueRecord)
    (granted : ApprovalQueueRecord → List ApprovalQueueRecord) : Proc (World options) Unit :=
  match approval.status with
  | .pending => do
    let decided ← ofExcept (ApprovalQueue.decideApproval approval true env.now none)
    inApprovals (ApprovalQueue.writeApprovalQueue (granted decided))
  | .approved => pure ()
  | .rejected => throw (JsError.new "approval_not_approved")

/-- The request for the reservation of a run. -/
def reservationRequest (run : RunRecord) (sessionId : Option JsString) (handoffId : JsString) :
    TokenReservationRequest where
  provider := run.current.provider.text
  model := run.current.model
  sessionId := sessionId
  inputTokens := .ofNat run.current.inputTokenBound
  outputTokens := .ofNat run.current.outputTokenAllowance
  handoffId := some handoffId

/-- The input the task of a run is entered with. -/
def taskInput (options : OrchestratorOptions) (env : Environment) (taskId : JsString)
    (handoff : GovernedHandoff) (runId : JsString) : EnqueueSupervisorTaskInput where
  taskId := taskId
  handoff := handoff
  sessionId := some runId
  maxAttempts := options.supervisorMaxAttempts
  requiresApproval := true
  approvalGranted := true
  now := some env.now

/-- `options.supervisor.enqueue(…)`. -/
def enqueueRun (env : Environment) (taskId : JsString) (handoff : GovernedHandoff)
    (runId : JsString) : Proc (World options) Unit := do
  let _ ← inSupervisor (SupervisorQueue.enqueue (taskInput options env taskId handoff runId))

/-- Enter the task of a run. When that throws, the binding is given up, now or
in a later call. -/
def enqueueOrCompensate (env : Environment) (taskId : JsString) (handoff : GovernedHandoff)
    (runId : JsString) : Proc (World options) Unit :=
  tryCatch (enqueueRun env taskId handoff runId) fun error => do
    let compensating ← inRuns (RunStore.requestRunQueueCompensation runId env.now)
    tryCatch (do let _ ← reconcileQueueCompensation env compensating)
      fun _ => pure ()
    throw error

/-- Give up a binding that has to be given up before the run is queued. -/
def settleCompensation (env : Environment) (run : RunRecord) : Proc (World options) RunRecord := do
  let run ←
    (if run.queueCompensationRequested then reconcileQueueCompensation env run else pure run)
  if run.status = .approved ∧ run.reservationStatus = .released then
    inRuns (RunStore.clearRunSupervisorBinding run.runId env.now)
  else return run

/-- The task of a run, which is bound to a new one where it has none. -/
def bindRun (env : Environment) (runId : JsString) (durable approved : RunRecord)
    (handoffId : JsString) : Proc (World options) JsString :=
  match durable.tokenReservation, durable.supervisorTaskId with
  | some _, some taskId => return taskId
  | _, _ => do
    let reservation ← inGateway (reserve options.limits env.now
      (reservationRequest approved (some runId) handoffId))
    let uuid ← randomUUID
    let taskId := runTaskId uuid.text
    let _ ← inRuns (RunStore.bindRunToSupervisor runId taskId reservation env.now)
    return taskId

/-- `approveAndQueueRun` from the granted approval on. -/
def queueApprovedRun (env : Environment) (runId : JsString) (revision : ℕ) (operator : JsString) :
    Proc (World options) RunRecord := do
  let approved ← inRuns (RunStore.approveRunRevision runId revision operator env.now)
  let handoff ← ofExcept (handoffFor options.queue.sha256 env approved)
  let durable ← record runId
  let durable ← settleCompensation env durable
  let taskId ← bindRun env runId durable approved handoff.handoffId
  let world ← Host.read
  (if world.task taskId = none then enqueueOrCompensate env taskId handoff runId else pure ())
  inRuns (RunStore.transitionRun runId .queued env.now)

/-- `approveAndQueueRun`. -/
def approveAndQueueRun (env : Environment) (runId : JsString) (revision : ℕ)
    (operator : JsString) : Proc (World options) RunRecord := do
  let before ← record runId
  throwIf (before.current.revision ≠ revision) (JsError.new "run_revision_conflict")
  if before.status = .queued ∧ before.supervisorTaskId ≠ none then return before
  else
    throwIf (before.status ≠ .draft ∧ before.status ≠ .approved)
      (JsError.new "run_revision_conflict")
    throwIf (¬ env.routeAvailable before.current.provider before.current.model
      before.current.routeProfile before.current.requestedReasoningEffort false)
      (JsError.new "run_route_unavailable")
    let world ← Host.read
    match world.approvals.records.findIdx? (·.isFor runId revision) with
    | none => throw (JsError.new "approval_not_found")
    | some index =>
      match world.approvals.records[index]? with
      | none => throw typeError
      | some approval => do
        throwIf (approval.promptReviewAcknowledged ≠ before.current.promptReviewAcknowledged ∨
            approval.estimatedTokens ≠ before.current.estimatedTokens ∨
            approval.inputTokenBound ≠ before.current.inputTokenBound ∨
            approval.outputTokenAllowance ≠ before.current.outputTokenAllowance)
          (JsError.new "run_revision_conflict")
        grantApproval env approval fun decided => world.approvals.records.set index decided
        queueApprovedRun env runId revision operator

/-! ## Group runs -/

/-- `reserveOrchestrationGroup`. -/
def reserveOrchestrationGroup (spec : OrchestrationGroupSpec) :
    Proc (World options) TokenGroupReservation :=
  inGateway (reserveGroup options.limits spec)

/-- `releaseOrchestrationGroupSlots`. -/
def releaseOrchestrationGroupSlots (env : Environment) (groupId : JsString)
    (slotIds : List JsString) : Proc (World options) TokenGroupReservation :=
  inGateway (releaseGroupSlots env.now groupId slotIds)

/-- The run of a group slot, created where there is none. -/
def groupRun (env : Environment) (ref : OrchestrationRef) (input : RunDraftInput)
    (operator : JsString) : Proc (World options) RunRecord := do
  let world ← Host.read
  match world.runs.runs.find? (·.orchestrationRef = some ref) with
  | some run =>
    throwIf (¬ sameGroupDraft run input ∨
        run.orchestrationRequest.all (fun request =>
          request.operator ≠ operator || !input.estimatedTokens.isNat request.estimatedTokens))
      (JsError.new "orchestration_group_run_mismatch")
    return run
  | none => do
    let runId := deterministicGroupRunId options.queue.sha256 ref.groupId ref.slotId
    let _ ← inRuns (RunStore.createGroupRunDraft options.queue.sha256 env.resolveEnabledProject
      runId ref operator input env.now)
    record runId

/-- The approval of the current revision of a run, asked for where there is none.
A run that is past its draft was approved before. -/
def groupApproval (env : Environment) (run : RunRecord) :
    Proc (World options) ApprovalQueueRecord := do
  let world ← Host.read
  match world.approvals.records.find? (·.isFor run.runId run.current.revision) with
  | some approval => return approval
  | none => do
    let asked := approvalFor run.current env.now
    let approval ←
      (if run.status = .draft then pure asked
      else ofExcept (ApprovalQueue.decideApproval asked true env.now none))
    askApproval approval
    return approval

/-- The approval of a group run is granted and the run approved. -/
def approveGroupRun (env : Environment) (run : RunRecord) (approval : ApprovalQueueRecord)
    (operator : JsString) : Proc (World options) RunRecord :=
  if run.status = .draft then do
    let world ← Host.read
    grantApproval env approval fun decided => world.approvals.records.map fun item =>
      if item.approvalId = approval.approvalId then decided else item
    inRuns (RunStore.approveRunRevision run.runId run.current.revision operator env.now)
  else return run

/-- The task of a group run, which is bound to its own where it has none. -/
def bindGroupRun (env : Environment) (ref : OrchestrationRef) (slotSession : Option JsString)
    (run : RunRecord) (handoffId : JsString) : Proc (World options) JsString :=
  match run.tokenReservation, run.supervisorTaskId with
  | some _, some taskId => return taskId
  | _, _ => do
    let reservation ← inGateway (claimGroupSlot options.limits env.now ref.groupId ref.slotId
      (reservationRequest run slotSession handoffId))
    let taskId := runTaskId run.runId
    let _ ← inRuns (RunStore.bindRunToSupervisor run.runId taskId reservation env.now)
    return taskId

/-- `ensureGroupRun` from the approved run on. -/
def queueGroupRun (env : Environment) (ref : OrchestrationRef) (slotSession : Option JsString)
    (run : RunRecord) : Proc (World options) RunRecord := do
  throwIf (run.status ≠ .approved) (JsError.new "run_revision_conflict")
  let handoff ← ofExcept (handoffFor options.queue.sha256 env run)
  let taskId ← bindGroupRun env ref slotSession run handoff.handoffId
  let world ← Host.read
  (if world.task taskId = none then enqueueRun env taskId handoff run.runId else pure ())
  inRuns (RunStore.transitionRun run.runId .queued env.now)

/-- `ensureGroupRun`. -/
def ensureGroupRun (env : Environment) (ref : OrchestrationRef) (input : RunDraftInput)
    (operator : JsString) (strictRouteEligibility : Bool) : Proc (World options) RunRecord := do
  let _ ← ofExcept (env.resolveEnabledProject input.projectId)
  throwIf (¬ env.routeAvailable input.provider input.model input.profile
    input.requestedReasoningEffort strictRouteEligibility) (JsError.new "run_route_unavailable")
  let world ← Host.read
  match (world.gateway.state.findGroup ref.groupId).bind (fun group =>
      group.slots.find? (·.slotId = ref.slotId)) with
  | none => throw (JsError.new "token_group_slot_mismatch")
  | some slot => do
    throwIf (slot.provider ≠ input.provider.text ∨ slot.model ≠ input.model)
      (JsError.new "token_group_slot_mismatch")
    let run ← groupRun env ref input operator
    let approval ← groupApproval env run
    if run.status = .queued ∧ run.supervisorTaskId ≠ none then return run
    else
      let run ← approveGroupRun env run approval operator
      queueGroupRun env ref slot.sessionId run

end orchestrator

end Autopilot
