/-
The supervisor queue: the durable life of a governed handoff.

A task waits, is claimed for an attempt, and the attempt completes it, fails it
or is given up; a failed attempt is queued again until the attempts are used up.
This module is the queue as `supervisorQueue.ts` has it.

Every change is written to the file first and enters the memory afterwards, and
only a state that `isSupervisorState` accepts is written at all. The state
carries that check as a field, so no queue of the model holds a task the loader
would reject.

`dispatchClaimed` waits for the worker in the middle. It is two programs here:
what runs up to the call of the worker, and what runs when the answer is there.
Anything can happen to the queue in between.
-/
import Autopilot.Handoff
import Autopilot.Lib.Keyed
import Autopilot.Lib.Record

set_option autoImplicit false

namespace Autopilot

open Prog Keyed

/-! ## Options and tasks -/

def defaultTimeoutMs : ℕ := 15 * 60000
def maxAttemptsLimit : ℕ := 8
def maxDependencies : ℕ := 32
def maxErrorChars : ℕ := 512

/-- `SupervisorQueueOptions` with their defaults, and the hash of the queue. -/
structure SupervisorQueueOptions where
  sha256 : Sha256
  maxTasks : ℕ := 256
  maxPromptChars : ℕ := 32000
  baseRetryDelayMs : ℕ := 1000
  maxRetryDelayMs : ℕ := 5 * 60000

/-- `SupervisorTaskStatus`. -/
inductive SupervisorTaskStatus where
  | queued | running | blocked | completed | failed | cancelled
  deriving DecidableEq, Repr

/-- `["completed", "failed", "cancelled"].includes(status)`. -/
def SupervisorTaskStatus.terminal : SupervisorTaskStatus → Bool
  | .completed | .failed | .cancelled => true
  | .queued | .running | .blocked => false

/-- `GovernedHandoffReference`. -/
structure GovernedHandoffReference where
  handoffId : JsString
  packetHash : JsString
  taskPacketRef : Option JsString
  deriving DecidableEq

/-- `SupervisorTask`. A timestamp is the instant it names. -/
structure SupervisorTask where
  taskId : JsString
  sessionId : Option JsString
  handoff : GovernedHandoff
  handoffRef : GovernedHandoffReference
  status : SupervisorTaskStatus
  attempt : ℕ
  maxAttempts : ℕ
  timeoutMs : ℕ
  queuedAt : ℕ
  updatedAt : ℕ
  nextAttemptAt : ℕ
  runStartedAt : Option ℕ
  blockedReason : Option JsString
  lastError : Option JsString
  attemptDeltaHash : Option JsString
  dependencyIds : List JsString
  requiresApproval : Bool
  approvalGranted : Bool
  deriving DecidableEq

/-- `EnqueueSupervisorTaskInput`. -/
structure EnqueueSupervisorTaskInput where
  taskId : JsString
  handoff : GovernedHandoff
  sessionId : Option JsString := none
  maxAttempts : Option JsNumber := none
  timeoutMs : Option JsNumber := none
  dependencyIds : List JsString := []
  requiresApproval : Bool := false
  approvalGranted : Bool := false
  now : Option ℕ

/-! ## What a stored state has to satisfy -/

/-- The white space `trim` removes. -/
def isWhitespace (c : UInt16) : Bool :=
  (9 ≤ c && c ≤ 13) || c = 32 || c = 0xa0 || c = 0x1680 || (0x2000 ≤ c && c ≤ 0x200a) ||
    c = 0x2028 || c = 0x2029 || c = 0x202f || c = 0x205f || c = 0x3000 || c = 0xfeff

/-- `value.trim()`. -/
def trim (value : JsString) : JsString :=
  ((value.dropWhile isWhitespace).reverse.dropWhile isWhitespace).reverse

/-- `visit` of `hasDependencyCycle`, over the tasks being visited and the tasks
done with. `none` is the answer that there is a cycle, `some` carries the tasks
done with. The depth is bounded by the number of tasks, since every task being
visited is another one. -/
def visitDependencies (dependencies : Record JsString (List JsString)) :
    ℕ → List JsString → List JsString → JsString → Option (List JsString)
  | 0, _, _, _ => none
  | depth + 1, active, visited, taskId =>
    if taskId ∈ active then none
    else if taskId ∈ visited then some visited
    else do
      let visited ← ((dependencies.get? taskId).getD []).foldlM
        (visitDependencies dependencies depth (taskId :: active)) visited
      return taskId :: visited

/-- `hasDependencyCycle`, on the pairs of a task and what it depends on. -/
def hasDependencyCycle (tasks : List (JsString × List JsString)) : Bool :=
  let dependencies : Record JsString (List JsString) :=
    tasks.foldl (fun record task => record.set task.1 task.2) .empty
  (dependencies.keys.foldlM
    (visitDependencies dependencies (dependencies.size + 1) []) []).isNone

/-- What `hasDependencyCycle` reads of a task. -/
def SupervisorTask.dependencies (task : SupervisorTask) : JsString × List JsString :=
  (task.taskId, task.dependencyIds)

/-- `isGovernedHandoff`, the checks a typed handoff can fail. -/
def isGovernedHandoff (handoff : GovernedHandoff) (maxPromptChars : ℕ) : Bool :=
  handoff.prompt.length ≤ maxPromptChars &&
    handoff.maxPromptChars.all (fun limit => 0 < limit && handoff.prompt.length ≤ limit)

/-- The checks `isSupervisorState` makes of one task. -/
def isSupervisorTask (options : SupervisorQueueOptions) (task : SupervisorTask) : Bool :=
  trim task.taskId ≠ [] &&
    isGovernedHandoff task.handoff options.maxPromptChars &&
    0 < task.maxAttempts && task.maxAttempts ≤ maxAttemptsLimit &&
    task.attempt ≤ task.maxAttempts &&
    (task.status ≠ .queued || task.attempt < task.maxAttempts) &&
    1000 ≤ task.timeoutMs &&
    task.lastError.all (·.length ≤ maxErrorChars) &&
    task.attemptDeltaHash.all isHexDigest &&
    task.dependencyIds.length ≤ maxDependencies &&
    task.dependencyIds.all (trim · ≠ []) && decide task.dependencyIds.Nodup &&
    task.handoffRef.handoffId = task.handoff.handoffId &&
    task.handoffRef.packetHash = task.handoff.packetHash &&
    task.handoffRef.taskPacketRef = task.handoff.taskPacketRef &&
    (if task.status = .running then task.runStartedAt ≠ none && 0 < task.attempt
      else task.runStartedAt = none) &&
    (task.status ≠ .blocked || task.requiresApproval && !task.approvalGranted &&
      task.blockedReason = some (js "approval_required")) &&
    task.taskId ∉ task.dependencyIds

/-- `isSupervisorState`. -/
def isSupervisorState (options : SupervisorQueueOptions) (tasks : List SupervisorTask) : Bool :=
  tasks.length ≤ options.maxTasks && tasks.all (isSupervisorTask options) &&
    decide (tasks.map (·.taskId)).Nodup && !hasDependencyCycle (tasks.map (·.dependencies))

/-- `SupervisorState`: tasks the loader accepts. -/
structure SupervisorState (options : SupervisorQueueOptions) where
  tasks : List SupervisorTask
  valid : isSupervisorState options tasks = true
  deriving DecidableEq

/-- One queue instance and the file it writes. -/
structure SupervisorQueue (options : SupervisorQueueOptions) where
  state : SupervisorState options
  file : SupervisorState options
  deriving DecidableEq

namespace SupervisorQueue

variable (options : SupervisorQueueOptions)

/-- What a missing file reads as. -/
def empty : SupervisorState options := ⟨[], by simp [isSupervisorState]; rfl⟩

/-- A queue on an empty directory. -/
def initial : SupervisorQueue options := ⟨empty options, empty options⟩

/-- The constructor: the instance of a process that starts on the file. -/
def load (queue : SupervisorQueue options) : SupervisorQueue options :=
  { queue with state := queue.file }

end SupervisorQueue

/-! ## Writing -/

section operations

variable {options : SupervisorQueueOptions}

/-- `assertSupervisorTimestamp`: a text that names no instant is `none`. -/
def assertSupervisorTimestamp (now : Option ℕ) : Proc (SupervisorQueue options) ℕ :=
  match now with
  | some instant => pure instant
  | none => throw (JsError.new "invalid_supervisor_timestamp")

namespace SupervisorQueue

/-- `publish`. A state above the size limit of the file is one more way for the
write to throw, so the outcome of the write stands for that check too. -/
def publish (next : List SupervisorTask) : Proc (SupervisorQueue options) Unit :=
  if h : isSupervisorState options next = true then do
    Host.write fun queue => { queue with file := ⟨next, h⟩ }
    Host.update fun queue => { queue with state := ⟨next, h⟩ }
  else throw (JsError.new "invalid_supervisor_state")

/-- `require`. -/
def require (taskId : JsString) : Proc (SupervisorQueue options) SupervisorTask := do
  let queue ← Host.read
  match lookup SupervisorTask.taskId queue.state.tasks taskId with
  | some task => return task
  | none => throw (JsError.new "task_not_found")

/-- `replace`. -/
def replace (task : SupervisorTask) : Proc (SupervisorQueue options) SupervisorTask := do
  let queue ← Host.read
  publish (queue.state.tasks.map (put SupervisorTask.taskId task))
  require task.taskId

/-! ## Entering and claiming -/

/-- `boundedIntegerInput`. -/
def boundedIntegerInput (value : Option JsNumber) (fallback minimum maximum : ℕ) :
    Except JsError ℕ :=
  match value with
  | none => .ok fallback
  | some value =>
    match value.safeInteger? with
    | some n => .ok (min maximum (max minimum n.toNat))
    | none => .error (JsError.new "invalid_supervisor_numeric_input")

/-- The task `enqueue` enters. -/
def newTask (input : EnqueueSupervisorTaskInput) (now maxAttempts timeoutMs : ℕ)
    (dependencyIds : List JsString) : SupervisorTask :=
  let waits := input.requiresApproval && !input.approvalGranted
  { taskId := input.taskId
    sessionId := input.sessionId.or input.handoff.sessionId
    handoff := input.handoff
    handoffRef :=
      { handoffId := input.handoff.handoffId
        packetHash := input.handoff.packetHash
        taskPacketRef := input.handoff.taskPacketRef }
    status := if waits then .blocked else .queued
    attempt := 0
    maxAttempts
    timeoutMs
    queuedAt := now
    updatedAt := now
    nextAttemptAt := now
    runStartedAt := none
    blockedReason := if waits then some (js "approval_required") else none
    lastError := none
    attemptDeltaHash := none
    dependencyIds
    requiresApproval := input.requiresApproval
    approvalGranted := input.approvalGranted }

/-- `enqueue`. -/
def enqueue (input : EnqueueSupervisorTaskInput) :
    Proc (SupervisorQueue options) SupervisorTask := do
  throwIf (trim input.taskId = []) (JsError.new "invalid_task_id")
  throwIf (input.handoff.prompt.length > options.maxPromptChars)
    (JsError.new "supervisor_prompt_too_large")
  let queue ← Host.read
  let tasks := queue.state.tasks
  throwIf (tasks.any (·.taskId = input.taskId)) (JsError.new "task_already_exists")
  throwIf (tasks.length ≥ options.maxTasks) (JsError.new "supervisor_queue_full")
  let now ← assertSupervisorTimestamp input.now
  match boundedIntegerInput input.maxAttempts 2 1 maxAttemptsLimit,
      boundedIntegerInput input.timeoutMs defaultTimeoutMs 1000 maxSafeInteger with
  | .error e, _ => throw e
  | _, .error e => throw e
  | .ok maxAttempts, .ok timeoutMs =>
    -- `[...new Set(ids)]` keeps the first of each
    let dependencyIds := (input.dependencyIds.reverse.dedup.reverse).take maxDependencies
    throwIf (dependencyIds.any (fun id => trim id = [] || id = input.taskId) ||
        hasDependencyCycle (tasks.map (·.dependencies) ++ [(input.taskId, dependencyIds)]))
      (JsError.new "invalid_task_dependency")
    publish (tasks ++ [newTask input now maxAttempts timeoutMs dependencyIds])
    require input.taskId

/-- `approve`. -/
def approve (taskId : JsString) (now : Option ℕ) :
    Proc (SupervisorQueue options) SupervisorTask := do
  let now ← assertSupervisorTimestamp now
  let task ← require taskId
  throwIf (task.status ≠ .blocked || !task.requiresApproval)
    (JsError.new "task_not_approval_blocked")
  replace { task with
    status := .queued, approvalGranted := true, blockedReason := none, updatedAt := now
    nextAttemptAt := now }

/-- The delay before the next attempt. -/
def retryDelay (options : SupervisorQueueOptions) (attempt : ℕ) : ℕ :=
  min options.maxRetryDelayMs (options.baseRetryDelayMs * 2 ^ (attempt - 1))

/-- `bounded` of the queue. -/
def boundedError (value : JsString) : JsString := value.take maxErrorChars

/-- `requeue`. -/
def requeue (options : SupervisorQueueOptions) (task : SupervisorTask) (reason : JsString)
    (now : ℕ) (attemptDelta : JsString) : SupervisorTask :=
  { task with
    status := .queued
    runStartedAt := none
    updatedAt := now
    nextAttemptAt := now + retryDelay options task.attempt
    lastError := some reason
    attemptDeltaHash := some (options.sha256.digest attemptDelta) }

/-- The task is running and its time is over. -/
def expired (at_ : ℕ) (task : SupervisorTask) : Bool :=
  task.status = .running && task.runStartedAt.any (fun started => started + task.timeoutMs ≤ at_)

/-- What `reconcile` makes of a task. -/
def reconciledTask (options : SupervisorQueueOptions) (now : ℕ) (task : SupervisorTask) :
    SupervisorTask :=
  if expired now task then
    if task.attempt ≥ task.maxAttempts then
      { task with
        status := .failed, runStartedAt := none, updatedAt := now
        lastError := some (js "timeout") }
    else requeue options task (js "timeout") now (js "retry_after_timeout")
  else task

/-- `reconcile`. It writes only when some task changed, and the tasks that do are
the expired ones. -/
def reconcile (now : Option ℕ) : Proc (SupervisorQueue options) Unit := do
  let now ← assertSupervisorTimestamp now
  let queue ← Host.read
  if queue.state.tasks.any (expired now) then
    publish (queue.state.tasks.map (reconciledTask options now))

/-- `dependenciesComplete`. -/
def dependenciesComplete (tasks : List SupervisorTask) (task : SupervisorTask) : Bool :=
  task.dependencyIds.all fun id =>
    (lookup SupervisorTask.taskId tasks id).any (·.status = .completed)

/-- The task may be claimed. -/
def claimable (tasks : List SupervisorTask) (now : ℕ) (task : SupervisorTask) : Bool :=
  task.status = .queued && task.nextAttemptAt ≤ now && dependenciesComplete tasks task

/-- `peekClaimable`. -/
def peekClaimable (now : Option ℕ) : Proc (SupervisorQueue options) (Option SupervisorTask) := do
  let instant ← assertSupervisorTimestamp now
  reconcile now
  let queue ← Host.read
  return queue.state.tasks.find? (claimable queue.state.tasks instant)

/-- What `claim` makes of a task. -/
def claimedTask (now : ℕ) (task : SupervisorTask) : SupervisorTask :=
  { task with
    status := .running, attempt := task.attempt + 1, runStartedAt := some now, updatedAt := now
    lastError := none }

/-- `claim`. -/
def claim (now : Option ℕ) : Proc (SupervisorQueue options) (Option SupervisorTask) := do
  let instant ← assertSupervisorTimestamp now
  match ← peekClaimable now with
  | none => return none
  | some candidate => do
    let task ← replace (claimedTask instant candidate)
    return some task

/-! ## Ending an attempt -/

/-- `transition`, with the fields it is given as a function on the task. -/
def transition (taskId : JsString) (status : SupervisorTaskStatus) (now : Option ℕ)
    (extra : SupervisorTask → SupervisorTask) :
    Proc (SupervisorQueue options) SupervisorTask := do
  let now ← assertSupervisorTimestamp now
  let task ← require taskId
  replace { extra task with status, updatedAt := now }

/-- `complete`. The status of the task is not looked at. -/
def complete (taskId : JsString) (now : Option ℕ) : Proc (SupervisorQueue options) SupervisorTask :=
  transition taskId .completed now fun task =>
    { task with runStartedAt := none, blockedReason := none }

/-- The fields `fail` and `retry` set on a task that fails for good. -/
def failedFields (reason : JsString) (task : SupervisorTask) : SupervisorTask :=
  { task with runStartedAt := none, lastError := some (boundedError reason) }

/-- `retry`. -/
def retry (taskId reason : JsString) (now : Option ℕ) (attemptDelta : Option JsString) :
    Proc (SupervisorQueue options) SupervisorTask := do
  let instant ← assertSupervisorTimestamp now
  let task ← require taskId
  throwIf (task.status ≠ .running ∧ task.status ≠ .failed) (JsError.new "task_not_retryable")
  if task.attempt ≥ task.maxAttempts then transition taskId .failed now (failedFields reason)
  else
    match attemptDelta.map trim with
    | none | some [] => throw (JsError.new "attempt_delta_missing")
    | some attemptDelta =>
      replace (requeue options task (boundedError reason) instant attemptDelta)

/-- `fail`. -/
def fail (taskId reason : JsString) (now : Option ℕ) (attemptDelta : Option JsString) :
    Proc (SupervisorQueue options) SupervisorTask := do
  let _ ← assertSupervisorTimestamp now
  let task ← require taskId
  throwIf (task.status ≠ .running) (JsError.new "task_not_running")
  if task.attempt < task.maxAttempts then retry taskId reason now attemptDelta
  else transition taskId .failed now (failedFields reason)

/-- `cancel`. -/
def cancel (taskId reason : JsString) (now : Option ℕ) :
    Proc (SupervisorQueue options) SupervisorTask := do
  let task ← require taskId
  throwIf task.status.terminal (JsError.new "task_already_terminal")
  transition taskId .cancelled now fun task =>
    { task with
      runStartedAt := none, lastError := some (boundedError reason), blockedReason := none }

/-! ## Restarts -/

/-- `recoveredTask`. -/
def recoveredTask (options : SupervisorQueueOptions) (task : SupervisorTask) (now : ℕ) :
    SupervisorTask :=
  if task.attempt ≥ task.maxAttempts then
    { task with
      status := .failed, runStartedAt := none, updatedAt := now
      lastError := some (js "recovered_attempt_limit") }
  else
    requeue options task (js "recovered_after_restart") now
      (js "retry_after_process_restart")

/-- `recover`. It writes the file even when nothing was running. -/
def recover (now : Option ℕ) : Proc (SupervisorQueue options) (List SupervisorTask) := do
  let now ← assertSupervisorTimestamp now
  let queue ← Host.read
  publish (queue.state.tasks.map fun task =>
    if task.status = .running then recoveredTask options task now else task)
  let queue ← Host.read
  return queue.state.tasks

/-! ## Dispatching a claimed task -/

/-- `dispatchClaimed` up to the call of the worker: the task that is dispatched. -/
def dispatchClaimed (taskId : JsString) : Proc (SupervisorQueue options) SupervisorTask := do
  let task ← require taskId
  throwIf (task.status ≠ .running) (JsError.new "task_not_running")
  return task

/-- The `try` block of `dispatchClaimed`, once the dispatch has ended. -/
def dispatchAnswered (taskId : JsString) (now : Option ℕ) (outcome : DispatchOutcome) :
    Proc (SupervisorQueue options) DispatchResult :=
  match outcome with
  | .error e => throw e
  | .ok (.refused reason) => do
    let _ ← fail taskId reason.text now (some (js "retry_after_refusal:" ++ reason.text))
    return .refused reason
  | .ok (.accepted worker) => do
    let _ ← complete taskId now
    return .accepted worker

/-- The `catch` block of `dispatchClaimed`. -/
def dispatchThrew (taskId : JsString) (now : Option ℕ) (error : JsError) :
    Proc (SupervisorQueue options) DispatchResult := do
  let _ ← fail taskId (error.message?.getD (js "dispatch_failed")) now
    (some (js "retry_after_dispatch_exception"))
  throw error

/-- `dispatchClaimed` from the end of the dispatch on. A refusal that `fail` does
not accept is handled as an exception of the dispatch, by `fail` again. -/
def dispatchEnded (taskId : JsString) (now : Option ℕ) (outcome : DispatchOutcome) :
    Proc (SupervisorQueue options) DispatchResult :=
  tryCatch (dispatchAnswered taskId now outcome) (dispatchThrew taskId now)

end SupervisorQueue

end operations

end Autopilot
