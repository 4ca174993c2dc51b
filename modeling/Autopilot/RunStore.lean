/-
The run store: what the control plane remembers of a run.

A run is a list of revisions, the approval of the last one, the task and the
reservation it is bound to, and what its worker returned. This module is the
store as `runStore.ts` has it. Every function reads the file, checks what it is
about to do, and writes the whole document back; only a document that `validate`
accepts is written. The store carries that check as a field.

Times are instants, so a timestamp is always one the store accepts.
-/
import Autopilot.Handoff
import Autopilot.Lib.Keyed
import Autopilot.RunPolicy
import Autopilot.TokenGateway

set_option autoImplicit false

namespace Autopilot

open Prog Keyed

/-! ## Runs -/

def maxRuns : ℕ := 256
def maxRevisions : ℕ := 20
def maxPrompt : ℕ := 32000
def maxArtifacts : ℕ := 32
def maxPreview : ℕ := 32000
def maxIdLength : ℕ := 256
def maxTerminalReason : ℕ := 32000

/-- `RunStatus`. -/
inductive RunStatus where
  | draft | approved | queued | running | completed | failed | cancelled
  deriving DecidableEq, Repr

/-- `["completed", "failed", "cancelled"].includes(status)`. -/
def RunStatus.terminal : RunStatus → Bool
  | .completed | .failed | .cancelled => true
  | .draft | .approved | .queued | .running => false

/-- `transitions`. -/
def RunStatus.transitions : RunStatus → List RunStatus
  | .draft => [.cancelled]
  | .approved => [.queued, .cancelled]
  | .queued => [.running, .cancelled]
  | .running => [.completed, .failed, .cancelled]
  | .completed | .failed | .cancelled => []

/-- `RunArtifactType`. -/
inductive RunArtifactType where
  | text | visual
  deriving DecidableEq, Repr

/-- `RunDraft`, one revision of a run. -/
structure RunDraft where
  runId : JsString
  revision : ℕ
  projectId : JsString
  prompt : JsString
  provider : RunProvider
  model : Option JsString
  estimatedTokens : ℕ
  inputTokenBound : ℕ
  outputTokenAllowance : ℕ
  requestedArtifacts : List RunArtifactType
  promptReviewAcknowledged : Bool
  profile : StoredRunProfile
  requestedReasoningEffort : Option RunReasoningEffort
  promotionPacketId : Option JsString
  createdAt : ℕ
  deriving DecidableEq

/-- `RunDraftInput`. -/
structure RunDraftInput where
  projectId : JsString
  prompt : JsString
  provider : RunProvider
  model : Option JsString
  estimatedTokens : JsNumber
  requestedArtifacts : List RunArtifactType
  promptReviewAcknowledged : Bool := false
  profile : RunProfile
  requestedReasoningEffort : Option RunReasoningEffort
  promotionPacketId : Option JsString := none

/-- `RunArtifact`. -/
structure RunArtifact where
  artifactId : JsString
  type : RunArtifactType
  preview : JsString
  createdAt : ℕ
  deriving DecidableEq

/-- `RunProviderResult`. Its two shapes are the ones `persistResult` stores: a
refusal, and the result of a worker. -/
inductive RunProviderResult where
  | refused (reason : DispatchRefusalReason)
  | accepted (worker : WorkerResult)
  deriving DecidableEq

/-- `worker_run_id` of a result. -/
def RunProviderResult.workerRunId : RunProviderResult → Option JsString
  | .refused _ => none
  | .accepted worker => some worker.workerRunId

/-- `RunTokenSettlement`. -/
structure RunTokenSettlement where
  inputTokens : ℕ
  outputTokens : ℕ
  totalTokens : ℕ
  deriving DecidableEq

/-- `reservation_status`. -/
inductive ReservationStatus where
  | none | active | settled | released
  deriving DecidableEq, Repr

/-- `orchestration_ref`. -/
structure OrchestrationRef where
  groupId : JsString
  slotId : JsString
  deriving DecidableEq

/-- `orchestration_request`. -/
structure OrchestrationRequest where
  operator : JsString
  estimatedTokens : ℕ
  promptCommitment : Option JsString
  deriving DecidableEq

/-- `RunRecord`. The reservation of a run is the gateway's own record of it. -/
structure RunRecord where
  orchestrationRef : Option OrchestrationRef
  orchestrationRequest : Option OrchestrationRequest
  current : RunDraft
  revisions : List RunDraft
  status : RunStatus
  approvedRevision : Option ℕ
  approvedBy : Option JsString
  approvedAt : Option ℕ
  supervisorTaskId : Option JsString
  workerRunId : Option JsString
  terminalReason : Option JsString
  tokenReservation : Option TokenReservation
  tokenSettlement : Option RunTokenSettlement
  reservationStatus : ReservationStatus
  providerResult : Option RunProviderResult
  cancellationRequested : Bool
  queueCompensationRequested : Bool
  dispatchFailure : Option JsString
  retryInputTokens : ℕ
  retryOutputTokens : ℕ
  artifacts : List RunArtifact
  updatedAt : ℕ
  deriving DecidableEq

/-- The identifier of a run. -/
def RunRecord.runId (run : RunRecord) : JsString := run.current.runId

/-! ## What a stored document has to satisfy -/

/-- `validString`. -/
def validString (value : JsString) (maximum : ℕ) : Bool :=
  0 < value.length && value.length ≤ maximum

/-- `validNullableString`. -/
def validNullableString (value : Option JsString) (maximum : ℕ) : Bool :=
  value.all (validString · maximum)

/-- `PROJECT_ID_PATTERN`: `/^[a-z0-9][a-z0-9._-]{0,79}$/`. -/
def isProjectId (value : JsString) : Bool :=
  let alphanumeric := fun c : UInt16 => (97 ≤ c && c ≤ 122) || (48 ≤ c && c ≤ 57)
  match value with
  | [] => false
  | c :: rest =>
    alphanumeric c && rest.length ≤ 79 &&
      rest.all (fun c => alphanumeric c || c = 46 || c = 95 || c = 45)

/-- `validDraftInput`. -/
def validDraftInput (draft : RunDraft) : Bool :=
  (runPromptRefusal draft.prompt draft.promptReviewAcknowledged).isNone &&
    isProjectId draft.projectId &&
    draft.prompt.length ≤ maxPrompt &&
    draft.model.all (·.length ≤ maxIdLength) &&
    draft.inputTokenBound = conservativeRunPromptTokens draft.prompt &&
    draft.outputTokenAllowance = runOutputTokenAllowance &&
    draft.estimatedTokens = draft.inputTokenBound + draft.outputTokenAllowance &&
    draft.requestedArtifacts.length ≤ 2 && decide draft.requestedArtifacts.Nodup

/-- `validStoredProfileFields`. -/
def validStoredProfileFields (draft : RunDraft) : Bool :=
  match draft.profile with
  | .legacy => draft.requestedReasoningEffort = none && draft.promotionPacketId = none
  | .dev =>
    draft.requestedReasoningEffort.all (· ∈ supportedReasoningEfforts draft.provider) &&
      draft.promotionPacketId = none
  | .prod =>
    draft.requestedReasoningEffort.all (· ∈ supportedReasoningEfforts draft.provider) &&
      draft.promotionPacketId.any (validString · maxIdLength)

/-- `validDraft`. -/
def validDraft (draft : RunDraft) : Bool :=
  validString draft.runId maxIdLength && draft.revision ≤ maxSafeInteger && 0 < draft.revision &&
    validDraftInput draft && validStoredProfileFields draft

/-- `validReservation`. -/
def validReservation (reservation : TokenReservation) : Bool :=
  validString reservation.reservationId maxIdLength &&
    validString reservation.provider maxIdLength &&
    validNullableString reservation.model maxIdLength &&
    validNullableString reservation.sessionId maxIdLength &&
    reservation.inputTokens ≤ maxSafeInteger && reservation.outputTokens ≤ maxSafeInteger &&
    reservation.totalTokens ≤ maxSafeInteger &&
    reservation.totalTokens = reservation.inputTokens + reservation.outputTokens &&
    validNullableString reservation.handoffId maxIdLength &&
    ((reservation.groupId = none && reservation.slotId = none && reservation.heldTokens = none) ||
      (reservation.groupId.any (validString · maxIdLength) &&
        reservation.slotId.any (validString · maxIdLength) &&
        reservation.heldTokens.any (fun held =>
          held ≤ maxSafeInteger && reservation.totalTokens ≤ held)))

/-- `validTokenSettlement`. -/
def validTokenSettlement (settlement : RunTokenSettlement) : Bool :=
  settlement.inputTokens ≤ maxSafeInteger && settlement.outputTokens ≤ maxSafeInteger &&
    settlement.totalTokens ≤ maxSafeInteger &&
    settlement.totalTokens = settlement.inputTokens + settlement.outputTokens

/-- `validProviderResult`. -/
def validProviderResult : RunProviderResult → Bool
  | .refused _ => true
  | .accepted worker =>
    validString worker.workerRunId maxIdLength && worker.rawOutput.length ≤ maxPreview &&
      worker.exitCode.natAbs ≤ maxSafeInteger &&
      validNullableString worker.errorReason maxTerminalReason

/-- `hasApproval`. -/
def RunRecord.hasApproval (record : RunRecord) : Bool :=
  record.approvedRevision = some record.current.revision &&
    record.approvedBy.any (validString · maxIdLength) && record.approvedAt.isSome

/-- `lacksApproval`. -/
def RunRecord.lacksApproval (record : RunRecord) : Bool :=
  record.approvedRevision = none && record.approvedBy = none && record.approvedAt = none

/-- The check of the approval that goes with the status. -/
def RunRecord.approvalIsValid (record : RunRecord) : Bool :=
  match record.status with
  | .draft => record.lacksApproval
  | .cancelled => record.lacksApproval || record.hasApproval
  | _ => record.hasApproval

/-- The checks `validate` makes of one artifact list. -/
def validArtifacts (artifacts : List RunArtifact) : Bool :=
  artifacts.length ≤ maxArtifacts && decide (artifacts.map (·.artifactId)).Nodup &&
    artifacts.all fun artifact =>
      validString artifact.artifactId maxIdLength && artifact.preview.length ≤ maxPreview

/-- The checks `validate` makes of the revisions of a run. -/
def validRevisions (current : RunDraft) (revisions : List RunDraft) : Bool :=
  revisions.length ≤ maxRevisions && revisions.getLast? = some current &&
    current.revision = revisions.length && revisions.all validDraft &&
    revisions.all (·.runId = current.runId) &&
    revisions.map (·.revision) = (List.range revisions.length).map (· + 1)

/-- `PROMPT_COMMITMENT_PATTERN` and the other checks of a group request. -/
def validOrchestration (ref : Option OrchestrationRef) (request : Option OrchestrationRequest) :
    Bool :=
  match ref, request with
  | none, none => true
  | some ref, some request =>
    validString ref.groupId maxIdLength && validString ref.slotId maxIdLength &&
      validString request.operator maxIdLength && request.estimatedTokens ≤ maxSafeInteger &&
      request.promptCommitment.all isHexDigest
  | _, _ => false

/-- The checks `validate` makes of one record. -/
def isRunRecord (record : RunRecord) : Bool :=
  validOrchestration record.orchestrationRef record.orchestrationRequest &&
    validArtifacts record.artifacts && validDraft record.current &&
    validRevisions record.current record.revisions && record.approvalIsValid &&
    validNullableString record.supervisorTaskId maxIdLength &&
    validNullableString record.workerRunId maxIdLength &&
    validNullableString record.terminalReason maxTerminalReason &&
    record.tokenReservation.all validReservation &&
    decide (record.reservationStatus = .none ↔ record.tokenReservation = none) &&
    record.tokenSettlement.all validTokenSettlement &&
    (record.tokenSettlement = none || record.reservationStatus = .settled) &&
    record.providerResult.all validProviderResult &&
    validNullableString record.dispatchFailure maxTerminalReason &&
    record.retryInputTokens ≤ maxSafeInteger && record.retryOutputTokens ≤ maxSafeInteger

/-- `validate`. -/
def isRunStore (runs : List RunRecord) : Bool :=
  runs.length ≤ maxRuns && runs.all isRunRecord && decide (runs.map (·.runId)).Nodup &&
    decide (runs.filterMap (·.orchestrationRef)).Nodup

/-- `RunStoreDocument`: runs the loader accepts. -/
structure RunStore where
  runs : List RunRecord
  valid : isRunStore runs = true
  deriving DecidableEq

/-- What a missing file reads as. -/
def RunStore.empty : RunStore := ⟨[], by decide⟩

/-! ## Reading and writing -/

namespace RunStore

/-- `write`. -/
def write (next : List RunRecord) : Proc RunStore Unit :=
  if h : isRunStore next = true then Host.write fun _ => ⟨next, h⟩
  else throw (JsError.new "invalid_run_store")

/-- `find`, and `record` of the orchestrator. -/
def find (runId : JsString) : Proc RunStore RunRecord := do
  let store ← Host.read
  match lookup RunRecord.runId store.runs runId with
  | some record => return record
  | none => throw (JsError.new "run_not_found")

/-- `replace`. A run from before there were profiles is not written any more. -/
def replace (record : RunRecord) : Proc RunStore RunRecord := do
  let store ← Host.read
  throwIf ((lookup RunRecord.runId store.runs record.runId).all (·.current.profile = .legacy))
    (JsError.new "legacy_run_read_only")
  write (store.runs.map (put RunRecord.runId record))
  return record

/-! ## Drafts -/

/-- The revision an input is stored as. The budget and the bounds are computed,
whatever the input says. -/
def newDraft (input : RunDraftInput) (runId : JsString) (revision createdAt : ℕ) : RunDraft where
  runId := runId
  revision := revision
  projectId := input.projectId
  prompt := input.prompt
  provider := input.provider
  model := input.model
  estimatedTokens := canonicalRunTokenBudget input.prompt
  inputTokenBound := conservativeRunPromptTokens input.prompt
  outputTokenAllowance := runOutputTokenAllowance
  requestedArtifacts := input.requestedArtifacts
  promptReviewAcknowledged := input.promptReviewAcknowledged
  profile := input.profile.stored
  requestedReasoningEffort := input.requestedReasoningEffort
  promotionPacketId := if input.profile = .dev then none else input.promotionPacketId
  createdAt := createdAt

/-- `normalizeProfileFields` throws nothing. -/
def profileFieldsFit (input : RunDraftInput) : Bool :=
  input.requestedReasoningEffort.all (· ∈ supportedReasoningEfforts input.provider) &&
    match input.profile with
    | .dev => input.promotionPacketId = none
    | .prod => input.promotionPacketId.any (validString · maxIdLength)

/-- What the creation of a revision throws because of its input: the checks
`createRunDraft`, `createGroupRunDraft` and `reviseRunDraft` share, in their
order. -/
def draftRefusal (input : RunDraftInput) : Option JsError :=
  match runPromptRefusal input.prompt input.promptReviewAcknowledged with
  | some error => some error
  | none =>
    if ¬ input.estimatedTokens.safeInteger?.any
        (fun tokens => (canonicalRunTokenBudget input.prompt : ℤ) ≤ tokens) then
      some (JsError.new "run_token_budget_underestimated")
    else if profileFieldsFit input && validDraftInput (newDraft input [] 1 0) then none
    else some (JsError.new "invalid_run_draft")

/-- The checks of an input, as the functions make them. -/
def checkDraft (resolveEnabledProject : JsString → Except JsError JsString)
    (input : RunDraftInput) : Proc RunStore Unit := do
  let _ ← ofExcept (resolveEnabledProject input.projectId)
  match draftRefusal input with
  | some error => throw error
  | none => return ()

/-- A run at its first revision. -/
def newRun (draft : RunDraft) (orchestrationRef : Option OrchestrationRef)
    (orchestrationRequest : Option OrchestrationRequest) : RunRecord where
  orchestrationRef := orchestrationRef
  orchestrationRequest := orchestrationRequest
  current := draft
  revisions := [draft]
  status := .draft
  approvedRevision := none
  approvedBy := none
  approvedAt := none
  supervisorTaskId := none
  workerRunId := none
  terminalReason := none
  tokenReservation := none
  tokenSettlement := none
  reservationStatus := .none
  providerResult := none
  cancellationRequested := false
  queueCompensationRequested := false
  dispatchFailure := none
  retryInputTokens := 0
  retryOutputTokens := 0
  artifacts := []
  updatedAt := draft.createdAt

/-- `createRunDraft`. -/
def createRunDraft (resolveEnabledProject : JsString → Except JsError JsString)
    (input : RunDraftInput) (createdAt : ℕ) : Proc RunStore RunDraft := do
  checkDraft resolveEnabledProject input
  let store ← Host.read
  throwIf (store.runs.length ≥ maxRuns) (JsError.new "run_limit")
  let uuid ← randomUUID
  let draft := newDraft input uuid.text 1 createdAt
  write (store.runs ++ [newRun draft none none])
  return draft

/-- `createGroupRunDraft`. -/
def createGroupRunDraft (sha256 : Sha256)
    (resolveEnabledProject : JsString → Except JsError JsString) (runId : JsString)
    (ref : OrchestrationRef) (operator : JsString) (input : RunDraftInput) (createdAt : ℕ) :
    Proc RunStore RunDraft := do
  throwIf (¬ (validString runId maxIdLength ∧ validString ref.groupId maxIdLength ∧
    validString ref.slotId maxIdLength ∧ validString operator maxIdLength))
    (JsError.new "invalid_run_draft")
  checkDraft resolveEnabledProject input
  let store ← Host.read
  throwIf (store.runs.any fun run => run.runId = runId || run.orchestrationRef = some ref)
    (JsError.new "orchestration_group_run_exists")
  throwIf (store.runs.length ≥ maxRuns) (JsError.new "run_limit")
  let draft := newDraft input runId 1 createdAt
  let request : OrchestrationRequest :=
    { operator
      estimatedTokens := (input.estimatedTokens.safeInteger?.getD 0).toNat
      promptCommitment := some (sha256.digest input.prompt) }
  write (store.runs ++ [newRun draft (some ref) (some request)])
  return draft

/-- `reviseRunDraft`. -/
def reviseRunDraft (resolveEnabledProject : JsString → Except JsError JsString)
    (runId : JsString) (revision : ℕ) (input : RunDraftInput) (createdAt : ℕ) :
    Proc RunStore RunDraft := do
  let record ← find runId
  throwIf (record.status ≠ .draft ∨ record.current.revision ≠ revision)
    (JsError.new "run_revision_conflict")
  throwIf (record.revisions.length ≥ maxRevisions) (JsError.new "run_revision_limit")
  checkDraft resolveEnabledProject input
  let draft := newDraft input runId (revision + 1) createdAt
  let _ ← replace { record with
    current := draft, revisions := record.revisions ++ [draft], updatedAt := createdAt }
  return draft

/-! ## The life of a run -/

/-- The shape most functions share: a record that is `already` there is returned
as it is, a record that is `refused` throws, any other is rewritten. -/
def updateRun (runId : JsString) (already refused : RunRecord → Bool) (error : String)
    (f : RunRecord → RunRecord) : Proc RunStore RunRecord := do
  let record ← find runId
  if already record then return record
  else
    throwIf (refused record) (JsError.new error)
    replace (f record)

/-- `approveRunRevision`. -/
def approveRunRevision (runId : JsString) (revision : ℕ) (operator : JsString)
    (approvedAt : ℕ) : Proc RunStore RunRecord := do
  let record ← find runId
  if record.approvedRevision = some revision ∧ record.approvedBy = some operator then
    return record
  else
    throwIf (record.status ≠ .draft ∨ record.current.revision ≠ revision)
      (JsError.new "run_revision_conflict")
    throwIf (¬ validString operator maxIdLength) (JsError.new "invalid_run_approval")
    replace { record with
      status := .approved, approvedRevision := some revision, approvedBy := some operator
      approvedAt := some approvedAt, updatedAt := approvedAt }

/-- `transitionRun`. -/
def transitionRun (runId : JsString) (status : RunStatus) (updatedAt : ℕ) :
    Proc RunStore RunRecord :=
  updateRun runId (fun _ => false) (fun record => status ∉ record.status.transitions)
    "invalid_run_transition" fun record => { record with status, updatedAt }

/-- `appendRunArtifact`. -/
def appendRunArtifact (runId artifactId : JsString) (type : RunArtifactType)
    (preview : JsString) (createdAt : ℕ) : Proc RunStore RunRecord := do
  let record ← find runId
  throwIf (record.artifacts.length ≥ maxArtifacts) (JsError.new "run_artifact_limit")
  throwIf (¬ validString artifactId maxIdLength ∨
    record.artifacts.any (·.artifactId = artifactId) ∨ preview.length > maxPreview)
    (JsError.new "invalid_run_artifact")
  replace { record with
    artifacts := record.artifacts ++ [{ artifactId, type, preview, createdAt }]
    updatedAt := createdAt }

/-- `bindRunToSupervisor`. -/
def bindRunToSupervisor (runId taskId : JsString) (reservation : TokenReservation)
    (updatedAt : ℕ) : Proc RunStore RunRecord :=
  updateRun runId (fun _ => false)
    (fun record => record.status ≠ .approved || record.supervisorTaskId ≠ none ||
      !validString taskId maxIdLength || !validReservation reservation ||
      reservation.totalTokens ≠ record.current.estimatedTokens)
    "invalid_run_binding" fun record => { record with
      supervisorTaskId := some taskId, tokenReservation := some reservation
      reservationStatus := .active, updatedAt }

/-- `clearRunSupervisorBinding`. -/
def clearRunSupervisorBinding (runId : JsString) (updatedAt : ℕ) : Proc RunStore RunRecord :=
  updateRun runId (fun _ => false) (fun record => record.status ≠ .approved)
    "invalid_run_binding" fun record => { record with
      supervisorTaskId := none, tokenReservation := none, reservationStatus := .none
      queueCompensationRequested := false, updatedAt }

/-- `recordRunProviderResult`. It throws before it looks for a result that is
already there. -/
def recordRunProviderResult (runId : JsString) (result : RunProviderResult) (updatedAt : ℕ) :
    Proc RunStore RunRecord := do
  let record ← find runId
  throwIf ((record.status ≠ .queued ∧ record.status ≠ .running) ∨ ¬ validProviderResult result)
    (JsError.new "invalid_run_provider_result")
  if record.providerResult ≠ none then return record
  else
    replace { record with
      providerResult := some result, workerRunId := result.workerRunId, updatedAt }

/-- `clearRunProviderResultForRetry`. -/
def clearRunProviderResultForRetry (runId : JsString) (inputTokens outputTokens : ℕ)
    (updatedAt : ℕ) : Proc RunStore RunRecord :=
  updateRun runId (fun _ => false)
    (fun record => record.providerResult = none || inputTokens > maxSafeInteger ||
      outputTokens > maxSafeInteger)
    "invalid_run_provider_result" fun record => { record with
      providerResult := none, workerRunId := none
      retryInputTokens := record.retryInputTokens + inputTokens
      retryOutputTokens := record.retryOutputTokens + outputTokens, updatedAt }

/-- The settlement of a run from the counts of the gateway. -/
def runTokenSettlement (inputTokens outputTokens : ℕ) : RunTokenSettlement :=
  { inputTokens, outputTokens, totalTokens := inputTokens + outputTokens }

/-- `settleRunReservation`. -/
def settleRunReservation (runId : JsString) (inputTokens outputTokens : ℕ) (updatedAt : ℕ) :
    Proc RunStore RunRecord := do
  let record ← find runId
  let normalized := runTokenSettlement inputTokens outputTokens
  throwIf (¬ validTokenSettlement normalized) (JsError.new "invalid_run_token_settlement")
  if record.reservationStatus = .settled ∧ record.tokenSettlement ≠ none then
    throwIf (record.tokenSettlement ≠ some normalized)
      (JsError.new "run_token_settlement_conflict")
    return record
  else
    throwIf (record.reservationStatus ≠ .active ∨ record.tokenSettlement ≠ none)
      (JsError.new "invalid_run_reservation_transition")
    replace { record with
      reservationStatus := .settled, tokenSettlement := some normalized, updatedAt }

/-- The reservation status a terminal event leads to. -/
def eventStatus : TerminalEvent → ReservationStatus
  | .settled => .settled
  | .released => .released

/-- `markRunReservationTerminal`. -/
def markRunReservationTerminal (runId : JsString) (event : TerminalEvent) (updatedAt : ℕ) :
    Proc RunStore RunRecord :=
  updateRun runId (fun record => record.reservationStatus = eventStatus event)
    (fun record => record.reservationStatus ≠ .active) "invalid_run_reservation_transition"
    fun record => { record with reservationStatus := eventStatus event, updatedAt }

/-- `finalizeRun`. A queued run is made running first. -/
def finalizeRun (runId : JsString) (status : RunStatus) (reason : Option JsString)
    (updatedAt : ℕ) : Proc RunStore RunRecord := do
  let record ← find runId
  if record.status = status then return record
  else
    let record ←
      if record.status = .queued then transitionRun runId .running updatedAt else pure record
    throwIf (record.status ≠ .running ∨ ¬ validNullableString reason maxTerminalReason)
      (JsError.new "invalid_run_transition")
    replace { record with status, terminalReason := reason, updatedAt }

/-- `requestRunCancellation`. -/
def requestRunCancellation (runId : JsString) (updatedAt : ℕ) : Proc RunStore RunRecord :=
  updateRun runId (·.cancellationRequested) (·.status.terminal) "invalid_run_cancellation"
    fun record => { record with cancellationRequested := true, updatedAt }

/-- `requestRunQueueCompensation`. -/
def requestRunQueueCompensation (runId : JsString) (updatedAt : ℕ) : Proc RunStore RunRecord :=
  updateRun runId (·.queueCompensationRequested)
    (fun record => record.status ≠ .approved || record.supervisorTaskId = none ||
      record.tokenReservation = none)
    "invalid_run_compensation"
    fun record => { record with queueCompensationRequested := true, updatedAt }

/-- `recordRunDispatchFailure`. -/
def recordRunDispatchFailure (runId reason : JsString) (updatedAt : ℕ) :
    Proc RunStore RunRecord :=
  updateRun runId (·.dispatchFailure ≠ none)
    (fun record => (record.status ≠ .queued && record.status ≠ .running) ||
      !validString reason maxTerminalReason)
    "invalid_run_dispatch_failure"
    fun record => { record with dispatchFailure := some reason, updatedAt }

/-- `clearRunDispatchFailure`. -/
def clearRunDispatchFailure (runId : JsString) (updatedAt : ℕ) : Proc RunStore RunRecord :=
  updateRun runId (·.dispatchFailure = none) (fun _ => false) "invalid_run_dispatch_failure"
    fun record => { record with dispatchFailure := none, updatedAt }

end RunStore

end Autopilot
