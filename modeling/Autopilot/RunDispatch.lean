/-
The second half of the run orchestrator: what becomes of a queued run.

`runSupervisorOnce` first looks for what an earlier call left behind, in a fixed
order: reservations to acknowledge, a run that waits to be cancelled, a dispatch
that threw, a result that was stored. Only then it claims a task. Each of these
searches takes the first run it finds, and most of them end the call.

`runSupervisorOnce` is here what runs up to the call of the worker, and
`dispatchEnded` what runs from there. What it holds on to in between is the
task, the run and the handoff.
-/
import Autopilot.RunOrchestrator

set_option autoImplicit false

namespace Autopilot

open Prog Keyed

/-! ## Worker results -/

/-- The text of an integer. -/
def decimalInt (n : ℤ) : JsString :=
  if n < 0 then js "-" ++ decimal n.natAbs else decimal n.natAbs

/-- The worker failed. -/
def WorkerResult.failed (worker : WorkerResult) : Bool :=
  worker.exitCode ≠ 0 || worker.errorReason ≠ none || worker.lockStatus = .failed

/-- `result.errorReason ?? worker_exit_…`. -/
def WorkerResult.failureReason (worker : WorkerResult) : JsString :=
  worker.errorReason.getD (js "worker_exit_" ++ decimalInt worker.exitCode)

/-- The output and the error of a worker, sanitized. -/
def WorkerResult.sanitized (redactPatterns : JsString → JsString) (worker : WorkerResult) :
    WorkerResult :=
  { worker with
    rawOutput := sanitizeWorkerOutput redactPatterns worker.rawOutput
    errorReason := worker.errorReason.map (sanitizeWorkerError redactPatterns) }

/-- `sanitizeDispatchResult`. -/
def sanitizeDispatchResult (redactPatterns : JsString → JsString) : DispatchResult → DispatchResult
  | .refused reason => .refused reason
  | .accepted worker => .accepted (worker.sanitized redactPatterns)

/-- The result `persistResult` stores. What it gets is sanitized already. -/
def storedResult (redactPatterns : JsString → JsString) : DispatchResult → RunProviderResult
  | .refused reason => .refused reason
  | .accepted worker => .accepted (worker.sanitized redactPatterns)

/-- `reconstructedResult`. -/
def reconstructedResult : RunProviderResult → DispatchResult
  | .refused reason => .refused reason
  | .accepted worker => .accepted worker

/-- What the run has used with this attempt, of its prompt and of its output. -/
def cumulativeInputTokens (run : RunRecord) : ℕ :=
  run.retryInputTokens + conservativeRunPromptTokens run.current.prompt

def cumulativeOutputTokens (run : RunRecord) (worker : WorkerResult) : ℕ :=
  run.retryOutputTokens + conservativeRunPromptTokens worker.rawOutput

/-- The attempt used more than the run may. -/
def overBudget (run : RunRecord) (worker : WorkerResult) : Bool :=
  cumulativeOutputTokens run worker > run.current.outputTokenAllowance ||
    cumulativeInputTokens run + cumulativeOutputTokens run worker > run.current.estimatedTokens

section orchestrator

variable {options : OrchestratorOptions}

/-! ## Ending a run -/

/-- The end all failures come to. -/
def failRun (env : Environment) (run : RunRecord) (reason : Option JsString) :
    Proc (World options) RunRecord := do
  let finalized ← inRuns (RunStore.finalizeRun run.runId .failed reason env.now)
  acknowledge run
  return finalized

/-- Cancel the task of a run unless it is at its end. -/
def cancelOpenTask (env : Environment) (taskId reason : JsString) : Proc (World options) Unit := do
  let world ← Host.read
  if needsCancel (world.task taskId) then
    let _ ← inSupervisor (SupervisorQueue.cancel taskId reason (some env.now))
  else pure ()

/-- `finishProviderResult` of a refusal. -/
def finishRefusal (env : Environment) (taskId : JsString) (run : RunRecord)
    (reason : DispatchRefusalReason) : Proc (World options) RunRecord := do
  let _ ← releaseReservation env run
  cancelOpenTask env taskId reason.text
  failRun env run (some reason.text)

/-- The end of the attempt in the supervisor, and whether the task is queued
again. -/
def endAttempt (env : Environment) (taskId : JsString) (cancelled : Bool)
    (worker : WorkerResult) : Proc (World options) Bool :=
  if cancelled then do
    let _ ← inSupervisor (SupervisorQueue.cancel taskId (js "run_cancelled") (some env.now))
    return false
  else if worker.failed then do
    let outcome ← inSupervisor (SupervisorQueue.fail taskId worker.failureReason (some env.now)
      (some (js "retry_after_worker_failure:" ++ worker.failureReason)))
    return outcome.status = .queued
  else return false

/-- The end of a run that used too much. -/
def finishOverBudget (env : Environment) (taskId : JsString) (run : RunRecord)
    (cancels : Bool) : Proc (World options) RunRecord := do
  (if cancels then cancelOpenTask env taskId (js "token_settlement_exceeds_reservation")
    else pure ())
  let _ ← releaseReservation env run
  failRun env run (some (js "token_settlement_exceeds_reservation"))

/-- Settle the reservation of a run, where it is still active. -/
def settleReservation (env : Environment) (run : RunRecord) (worker : WorkerResult) :
    Proc (World options) RunRecord :=
  if run.reservationStatus = .active then
    match run.tokenReservation with
    | none => throw typeError
    | some reservation => do
      let settlement ← inGateway (settle options.limits env.now reservation
        { inputTokens := .ofNat (cumulativeInputTokens run)
          outputTokens := .ofNat (cumulativeOutputTokens run worker) })
      inRuns (RunStore.settleRunReservation run.runId settlement.inputTokens
        settlement.outputTokens env.now)
  else return run

/-- Keep the output of the worker with its run, once. -/
def keepArtifact (env : Environment) (run : RunRecord) (worker : WorkerResult) :
    Proc (World options) Unit := do
  let latest ← record run.runId
  let artifactId := js "text-" ++ worker.workerRunId
  if latest.artifacts.any (·.artifactId = artifactId) then pure ()
  else
    let _ ← inRuns (RunStore.appendRunArtifact run.runId artifactId .text
      (sanitizeWorkerOutput options.redactPatterns worker.rawOutput) env.now)

/-- The end of a run whose worker is done, one way or the other. -/
def settleRun (env : Environment) (taskId : JsString) (run : RunRecord) (cancelled : Bool)
    (task : Option SupervisorTask) (worker : WorkerResult) : Proc (World options) RunRecord := do
  (if !cancelled && !worker.failed && task.all (·.status = .running) then do
      let _ ← inSupervisor (SupervisorQueue.complete taskId (some env.now))
    else pure ())
  let _ ← settleReservation env run worker
  keepArtifact env run worker
  let finalized ←
    (if cancelled then inRuns (RunStore.transitionRun run.runId .cancelled env.now)
    else if worker.failed then
      inRuns (RunStore.finalizeRun run.runId .failed (some worker.failureReason) env.now)
    else inRuns (RunStore.finalizeRun run.runId .completed none env.now))
  acknowledge run
  return finalized

/-- `finishProviderResult` of the result of a worker. -/
def finishWorker (env : Environment) (taskId : JsString) (run : RunRecord)
    (worker : WorkerResult) : Proc (World options) (Option RunRecord) := do
  let latest ← record run.runId
  let cancelled := latest.cancellationRequested
  let world ← Host.read
  let task := world.task taskId
  let retryQueued ← endAttempt env taskId cancelled worker
  if overBudget run worker then
    let finalized ← finishOverBudget env taskId run
      (!cancelled && (retryQueued || !worker.failed))
    return some finalized
  else if retryQueued then
    let _ ← inRuns (RunStore.clearRunProviderResultForRetry run.runId
      (conservativeRunPromptTokens run.current.prompt)
      (conservativeRunPromptTokens worker.rawOutput) env.now)
    return none
  else
    let finalized ← settleRun env taskId run cancelled task worker
    return some finalized

/-- `finishProviderResult`. -/
def finishProviderResult (env : Environment) (taskId : JsString) (run : RunRecord)
    (result : DispatchResult) : Proc (World options) (Option RunRecord) :=
  match result with
  | .refused reason => do
    let finalized ← finishRefusal env taskId run reason
    return some finalized
  | .accepted worker => finishWorker env taskId run worker

/-- `finishDispatchFailure`. -/
def finishDispatchFailure (env : Environment) (run : RunRecord) :
    Proc (World options) RunRecord := do
  let released ← releaseReservation env run
  failRun env run released.dispatchFailure

/-! ## Cancelling -/

/-- Release the reservation a run has at the gateway without knowing it, and
keep what that throws. -/
def releaseOrphan (env : Environment) (run : RunRecord) :
    Proc (World options) (Option JsError) := do
  let world ← Host.read
  match run.tokenReservation, world.gateway.state.findActiveReservation (handoffIdFor run) with
  | none, some orphan =>
    tryCatch (do
        inGateway (release env.now orphan)
        return none)
      fun error => return some error
  | _, _ => return none

/-- Cancel the task of a run and release its reservation, and keep what that
throws. -/
def cancelBinding (env : Environment) (run : RunRecord) :
    Proc (World options) (Option JsError) :=
  match run.supervisorTaskId, run.tokenReservation with
  | some taskId, some _ => do
    let world ← Host.read
    let cancelError ←
      (if needsCancel (world.task taskId) then tryCancel env taskId (js "run_cancelled")
      else pure none)
    let releaseError ←
      (if run.reservationStatus = .active then
        tryCatch (do
            let _ ← releaseReservation env run
            acknowledge run
            return none)
          fun error => return some error
      else pure none)
    return cancelError.or releaseError
  | _, _ => return none

/-- The task of a run, in the supervisor. -/
def World.boundTask (world : World options) (run : RunRecord) : Option SupervisorTask :=
  run.supervisorTaskId.bind world.task

/-- A worker may still be at the run, so its cancellation has to wait. -/
def World.cancellationWaits (world : World options) (run : RunRecord) : Bool :=
  run.status = .running && (world.boundTask run).all (·.status = .running)

/-- `cancelRun` of a run no worker is at. -/
def cancelIdleRun (env : Environment) (run : RunRecord) : Proc (World options) RunRecord := do
  let orphanError ← releaseOrphan env run
  let bindingError ← cancelBinding env run
  match orphanError.or bindingError with
  | some error => throw error
  | none => inRuns (RunStore.transitionRun run.runId .cancelled env.now)

/-- `cancelRun`. -/
def cancelRun (env : Environment) (runId : JsString) : Proc (World options) RunRecord := do
  let current ← record runId
  if current.status = .cancelled then return current
  else
    let current ← inRuns (RunStore.requestRunCancellation runId env.now)
    let world ← Host.read
    if world.cancellationWaits current then return current
    else cancelIdleRun env current

/-! ## Dispatching -/

/-- What a call of `runSupervisorOnce` holds on to while it waits for a worker. -/
structure Dispatch where
  taskId : JsString
  runId : JsString
  handoff : GovernedHandoff
  deriving DecidableEq

/-- How far a call has come: it is over, or it waits for a worker. -/
inductive Progress where
  | finished (run : Option RunRecord)
  | dispatching (dispatch : Dispatch)
  deriving DecidableEq

/-- The status `fail` leaves the task in. A task that failed before is as good as
one that fails now. -/
def failTask (env : Environment) (taskId reason : JsString) :
    Proc (World options) SupervisorTask :=
  tryCatch (inSupervisor (SupervisorQueue.fail taskId reason (some env.now) none))
    fun failError => do
      let world ← Host.read
      match world.task taskId with
      | some persisted => if persisted.status = .failed then return persisted else throw failError
      | none => throw failError

/-- The text an exception of a dispatch is stored as. -/
def dispatchErrorText (options : OrchestratorOptions) (error : JsError) : JsString :=
  sanitizeWorkerError options.redactPatterns (error.message?.getD (js "dispatch_failed"))

/-- The handler of a dispatch that throws. -/
def dispatchThrew {α : Type} (env : Environment) (taskId runId : JsString) (error : JsError) :
    Proc (World options) α := do
  let dispatchError := dispatchErrorText options error
  let run ← inRuns (RunStore.recordRunDispatchFailure runId dispatchError env.now)
  let failed ← failTask env taskId dispatchError
  if failed.status = .failed then
    let _ ← finishDispatchFailure env run
    throw (.error (js "Error") dispatchError)
  else
    let _ ← inRuns (RunStore.clearRunDispatchFailure runId env.now)
    throw (.error (js "Error") dispatchError)

/-- The handler of a handoff that does not carry the prompt that was committed
to. -/
def commitmentViolated {α : Type} (env : Environment) (taskId : JsString) (run : RunRecord)
    (error : JsError) : Proc (World options) α := do
  let reason := error.message?.getD (js "run_prompt_commitment_violation")
  let run ← inRuns (RunStore.recordRunDispatchFailure run.runId reason env.now)
  let world ← Host.read
  (if needsCancel (world.task taskId) then do
      let _ ← tryCancel env taskId reason
    else pure ())
  let _ ← finishDispatchFailure env run
  throw error

/-- Dispatch a run that has no result yet. -/
def dispatchRun (env : Environment) (task : SupervisorTask) (run : RunRecord) :
    Proc (World options) Progress := do
  throwAny (taskRouteRefusal run task.handoff)
  let run ←
    (if run.status = .queued then inRuns (RunStore.transitionRun run.runId .running env.now)
    else pure run)
  match dispatchPromptRefusal options.queue.sha256 run task.handoff with
  | some error => commitmentViolated env task.taskId run error
  | none =>
    match env.resolveEnabledProject run.current.projectId with
    | .error error => dispatchThrew env task.taskId run.runId error
    | .ok cwd =>
      return .dispatching
        { taskId := task.taskId, runId := run.runId, handoff := { task.handoff with cwd := cwd } }

/-- Go on with the task of a run, which has a result or has to be dispatched. -/
def carryTask (env : Environment) (task : SupervisorTask) : Proc (World options) Progress := do
  let run ← bindingForTask task.taskId
  match run.providerResult with
  | some result => do
    let finished ← finishProviderResult env task.taskId run (reconstructedResult result)
    return .finished finished
  | none => dispatchRun env task run

/-- Claim the task that is next. It stays unclaimed while its project is not
configured. -/
def claimTask (env : Environment) : Proc (World options) Progress := do
  match ← inSupervisor (SupervisorQueue.peekClaimable (some env.now)) with
  | none => return .finished none
  | some claimable => do
    let run ← bindingForTask claimable.taskId
    throwAny (taskRouteRefusal run claimable.handoff)
    match env.resolveEnabledProject run.current.projectId with
    | .error error =>
      if isProjectConfigurationError error then return .finished none else throw error
    | .ok _ => do
      match ← inSupervisor (SupervisorQueue.claim (some env.now)) with
      | none => return .finished none
      | some task => carryTask env task

/-! ## One call of the supervisor -/

/-- The identifiers of the reservations the terminal runs do not use any more. -/
def endedReservations (runs : List RunRecord) : List JsString :=
  runs.filterMap fun run =>
    if run.status.terminal ∧ run.reservationStatus ≠ .active then
      run.tokenReservation.map (·.reservationId)
    else none

/-- The run that waits to be cancelled. -/
def pendingCancellation (runs : List RunRecord) : Option RunRecord :=
  runs.find? fun run => run.cancellationRequested && run.status ≠ .cancelled

/-- The run whose dispatch threw. -/
def pendingFailure (runs : List RunRecord) : Option RunRecord :=
  runs.find? fun run => run.dispatchFailure.isSome && !run.status.terminal

/-- The run whose result is stored. -/
def pendingResult (runs : List RunRecord) : Option RunRecord :=
  runs.find? fun run => run.providerResult.isSome && !run.status.terminal

/-- `taskForPendingResult`. -/
def World.taskForPendingResult (world : World options) : Option SupervisorTask :=
  (pendingResult world.runs.runs).bind world.boundTask

/-- Acknowledge every reservation of a list. -/
def acknowledgeAll : List JsString → Proc (World options) Unit
  | [] => pure ()
  | reservationId :: rest => do
    inGateway (acknowledgeTerminal reservationId)
    acknowledgeAll rest

/-- Go on with a stored result, or else with the next task. -/
def takeTask (env : Environment) : Proc (World options) Progress := do
  let world ← Host.read
  match world.taskForPendingResult with
  | some task => carryTask env task
  | none => claimTask env

/-- Go on with a dispatch that threw, and else with the next task. -/
def replayFailure (env : Environment) : Proc (World options) Progress := do
  let world ← Host.read
  match pendingFailure world.runs.runs with
  | none => takeTask env
  | some run =>
    match (world.boundTask run).map SupervisorTask.status with
    | some .failed => do
      let _ ← finishDispatchFailure env run
      return .finished none
    | some .queued => do
      let _ ← inRuns (RunStore.clearRunDispatchFailure run.runId env.now)
      takeTask env
    | _ => takeTask env

/-- `runSupervisorOnce`, up to the call of the worker. -/
def runSupervisorOnce (env : Environment) : Proc (World options) Progress := do
  let world ← Host.read
  acknowledgeAll (endedReservations world.runs.runs)
  let world ← Host.read
  match pendingCancellation world.runs.runs with
  | some run => do
    let _ ← cancelRun env run.runId
    return .finished none
  | none => replayFailure env

/-- `runSupervisorOnce` from the answer of the worker on. -/
def dispatchEnded (env : Environment) (dispatch : Dispatch) (outcome : DispatchOutcome) :
    Proc (World options) (Option RunRecord) :=
  match outcome with
  | .error error => dispatchThrew env dispatch.taskId dispatch.runId error
  | .ok answer => do
    let result := sanitizeDispatchResult options.redactPatterns answer
    let run ← inRuns (RunStore.recordRunProviderResult dispatch.runId
      (storedResult options.redactPatterns result) env.now)
    finishProviderResult env dispatch.taskId run result

end orchestrator

end Autopilot
