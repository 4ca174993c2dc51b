/-
What each queue operation can do.

An operation of the queue either throws and leaves memory and file alone, or
rewrites tasks, writes the file and returns. Which task is rewritten and into
what is said once for each operation, in its `_cases` theorem, with the checks
the operation made on the way. A rewritten task passes `isSupervisorTask`
whenever the old one did, so `publish` turns nothing down that comes from a
stored task, and the only way for a rewrite to fail is its write.
-/
import Autopilot.SupervisorQueue

set_option autoImplicit false

namespace Autopilot

open Prog Keyed SupervisorQueue

variable {options : SupervisorQueueOptions}

/-! ## Stored tasks -/

theorem SupervisorState.task_valid (state : SupervisorState options) {task : SupervisorTask}
    (h : task ∈ state.tasks) : isSupervisorTask options task = true := by
  have hv := state.valid
  simp only [isSupervisorState, Bool.and_eq_true, List.all_eq_true] at hv
  exact hv.1.1.2 task h

theorem SupervisorState.nodup (state : SupervisorState options) :
    (state.tasks.map (·.taskId)).Nodup := by
  have hv := state.valid
  simp only [isSupervisorState, Bool.and_eq_true, decide_eq_true_eq] at hv
  exact hv.1.2

/-- A stored task is found under its name. -/
theorem SupervisorState.lookup_of_mem (state : SupervisorState options) {task : SupervisorTask}
    (h : task ∈ state.tasks) : lookup SupervisorTask.taskId state.tasks task.taskId = some task :=
  Keyed.lookup_of_mem state.nodup h

/-- Tasks rewritten into valid tasks of the same name and dependencies are a
valid state. -/
theorem isSupervisorState_map (state : SupervisorState options)
    {f : SupervisorTask → SupervisorTask}
    (hf : ∀ task ∈ state.tasks, isSupervisorTask options (f task) = true ∧
      (f task).dependencies = task.dependencies) :
    isSupervisorState options (state.tasks.map f) = true := by
  have hids : (state.tasks.map f).map (·.taskId) = state.tasks.map (·.taskId) := by
    rw [List.map_map]
    exact List.map_congr_left fun t ht => congrArg Prod.fst (hf t ht).2
  have hdeps : (state.tasks.map f).map (·.dependencies) = state.tasks.map (·.dependencies) := by
    rw [List.map_map]
    exact List.map_congr_left fun t ht => (hf t ht).2
  have hv := state.valid
  unfold isSupervisorState at hv ⊢
  rw [hids, hdeps, List.length_map]
  simp only [Bool.and_eq_true] at hv ⊢
  refine ⟨⟨⟨hv.1.1.1, ?_⟩, hv.1.2⟩, hv.2⟩
  rw [List.all_eq_true]
  intro t ht
  obtain ⟨t₀, ht₀, rfl⟩ := List.mem_map.1 ht
  exact (hf t₀ ht₀).1

/-- One stored task is rewritten. -/
theorem isSupervisorState_put (state : SupervisorState options) {task task' : SupervisorTask}
    (hmem : task ∈ state.tasks) (hvalid : isSupervisorTask options task' = true)
    (hdeps : task'.dependencies = task.dependencies) :
    isSupervisorState options (state.tasks.map (put SupervisorTask.taskId task')) = true := by
  have hid : task'.taskId = task.taskId := congrArg Prod.fst hdeps
  apply isSupervisorState_map
  intro candidate hc
  unfold put
  split
  · rename_i h
    -- the candidate of that name is the task itself, names being unique
    have h1 := state.lookup_of_mem hc
    rw [h, hid, state.lookup_of_mem hmem] at h1
    obtain rfl := Option.some.inj h1
    exact ⟨hvalid, hdeps⟩
  · exact ⟨state.task_valid hc, rfl⟩

/-- Ending an attempt or a task keeps it valid: no field but these is touched. -/
theorem isSupervisorTask_end {task : SupervisorTask} (h : isSupervisorTask options task = true)
    {status : SupervisorTaskStatus} (hs : status = .completed ∨ status = .failed ∨
      status = .cancelled) {lastError blockedReason : Option JsString} (now : ℕ)
    (herr : lastError.all (·.length ≤ maxErrorChars) = true) :
    isSupervisorTask options { task with
      status := status, updatedAt := now, runStartedAt := none, lastError := lastError
      blockedReason := blockedReason } = true := by
  simp only [isSupervisorTask, Bool.and_eq_true] at h ⊢
  rcases hs with rfl | rfl | rfl <;> simp_all

/-- A requeued task is valid while it has attempts left. -/
theorem isSupervisorTask_requeue {task : SupervisorTask}
    (h : isSupervisorTask options task = true) (hleft : task.attempt < task.maxAttempts)
    {reason : JsString} (hreason : reason.length ≤ maxErrorChars) (now : ℕ)
    (attemptDelta : JsString) :
    isSupervisorTask options (requeue options task reason now attemptDelta) = true := by
  have hhash := options.sha256.isHex attemptDelta
  simp only [isSupervisorTask, requeue, Bool.and_eq_true] at h ⊢
  simp_all

/-- A claimed task is valid. -/
theorem isSupervisorTask_claimed {task : SupervisorTask}
    (h : isSupervisorTask options task = true) (hq : task.status = .queued) (now : ℕ) :
    isSupervisorTask options (claimedTask now task) = true := by
  simp only [isSupervisorTask, claimedTask, Bool.and_eq_true] at h ⊢
  simp_all
  all_goals exact decide_eq_true (by omega)

theorem boundedError_length (value : JsString) :
    (boundedError value).length ≤ maxErrorChars := by
  unfold boundedError
  rw [List.length_take]
  exact Nat.min_le_left _ _

/-- A task a reconciliation rewrites stays valid. -/
theorem isSupervisorTask_reconciled {task : SupervisorTask}
    (h : isSupervisorTask options task = true) (now : ℕ) :
    isSupervisorTask options (reconciledTask options now task) = true := by
  unfold reconciledTask
  split
  · split
    · exact isSupervisorTask_end h (.inr (.inl rfl)) now (by decide)
    · exact isSupervisorTask_requeue h (by omega) (by decide) now _
  · exact h

/-- A task a restart rewrites stays valid. -/
theorem isSupervisorTask_recovered {task : SupervisorTask}
    (h : isSupervisorTask options task = true) (now : ℕ) :
    isSupervisorTask options (recoveredTask options task now) = true := by
  unfold recoveredTask
  split
  · exact isSupervisorTask_end h (.inr (.inl rfl)) now (by decide)
  · exact isSupervisorTask_requeue h (by omega) (by decide) now _

/-! ## Publishing -/

/-- The tasks `next` reach file and memory and the operation returns `a`, or the
write throws and nothing changed. -/
def Publishes {α : Type} (h : Machine (SupervisorQueue options)) (next : SupervisorState options)
    (a : α) (result : Except (Fault JsError) α × Machine (SupervisorQueue options)) : Prop :=
  h.Writes ⟨next, next⟩ a result

variable {h : Machine (SupervisorQueue options)}

theorem publish_publishes {next : List SupervisorTask}
    (hv : isSupervisorState options next = true) :
    Publishes h ⟨next, hv⟩ () (publish next h) := by
  unfold publish
  rw [dif_pos hv]
  rcases Host.write_cases
      (fun queue : SupervisorQueue options => { queue with file := ⟨next, hv⟩ }) h with
    ⟨ws, hrun, hws⟩ | ⟨fault, ws, hrun, hws, hrel⟩
  · rw [bind_run_ok hrun]
    exact .inl ⟨ws, hws, rfl⟩
  · rw [bind_run_error hrun]
    exact .inr ⟨fault, ws, hws, hrel, rfl⟩

/-- `publish` turns down what `isSupervisorState` does not accept. -/
theorem publish_cases (next : List SupervisorTask) :
    h.Refuses (publish next h) ∨
      ∃ state : SupervisorState options, state.tasks = next ∧
        Publishes h state () (publish next h) := by
  by_cases hv : isSupervisorState options next = true
  · exact .inr ⟨⟨next, hv⟩, rfl, publish_publishes hv⟩
  · refine .inl ⟨JsError.new "invalid_supervisor_state", ?_⟩
    unfold publish
    rw [dif_neg hv]
    rfl

theorem require_run (taskId : JsString) :
    (require taskId : Proc (SupervisorQueue options) SupervisorTask) h
      = match lookup SupervisorTask.taskId h.store.state.tasks taskId with
        | some task => (.ok task, h)
        | none => (.error (.thrown (JsError.new "task_not_found")), h) := by
  unfold require
  rw [bind_run, Host.read_run]
  dsimp only
  cases lookup SupervisorTask.taskId h.store.state.tasks taskId <;> rfl

/-- Reading a task in front of a program. -/
theorem require_bind_run {α : Type} (taskId : JsString)
    (rest : SupervisorTask → Proc (SupervisorQueue options) α) :
    (require taskId >>= rest) h
      = match lookup SupervisorTask.taskId h.store.state.tasks taskId with
        | some task => rest task h
        | none => (.error (.thrown (JsError.new "task_not_found")), h) := by
  rw [bind_run, require_run]
  cases lookup SupervisorTask.taskId h.store.state.tasks taskId <;> rfl

/-- Checking a timestamp in front of a program. -/
theorem timestamp_bind_run {α : Type} (now : Option ℕ)
    (rest : ℕ → Proc (SupervisorQueue options) α) :
    (assertSupervisorTimestamp now >>= rest) h
      = match now with
        | some instant => rest instant h
        | none => (.error (.thrown (JsError.new "invalid_supervisor_timestamp")), h) := by
  cases now <;> rfl

/-- A publication followed by reading a published task back. -/
theorem Publishes.require {state : SupervisorState options} {next : List SupervisorTask}
    (hp : Publishes h state () (publish next h)) {taskId : JsString} {task : SupervisorTask}
    (hl : lookup SupervisorTask.taskId state.tasks taskId = some task) :
    Publishes h state task ((publish next >>= fun _ => SupervisorQueue.require taskId) h) := by
  rcases hp with ⟨ws, hws, hrun⟩ | ⟨fault, ws, hws, hrel, hrun⟩
  · rw [bind_run_ok hrun, require_run]
    dsimp only
    rw [hl]
    exact .inl ⟨ws, hws, rfl⟩
  · rw [bind_run_error hrun]
    exact .inr ⟨fault, ws, hws, hrel, rfl⟩

/-- One stored task is rewritten into `task'`, which is returned. -/
def Rewrites (h : Machine (SupervisorQueue options)) (task' : SupervisorTask)
    (result : Except (Fault JsError) SupervisorTask × Machine (SupervisorQueue options)) : Prop :=
  ∃ state : SupervisorState options,
    state.tasks = h.store.state.tasks.map (put SupervisorTask.taskId task') ∧
    Publishes h state task' result

/-- **What `replace` does** with a rewritten task of the queue. -/
theorem replace_rewrites {task task' : SupervisorTask}
    (hl : lookup SupervisorTask.taskId h.store.state.tasks task'.taskId = some task)
    (hvalid : isSupervisorTask options task' = true)
    (hdeps : task'.dependencies = task.dependencies) :
    Rewrites h task' (replace task' h) := by
  have hstate := isSupervisorState_put h.store.state (lookup_mem hl).1 hvalid hdeps
  refine ⟨⟨_, hstate⟩, rfl, ?_⟩
  unfold SupervisorQueue.replace
  rw [bind_run, Host.read_run]
  apply Publishes.require (publish_publishes hstate)
  change lookup SupervisorTask.taskId (h.store.state.tasks.map (put SupervisorTask.taskId task'))
    task'.taskId = some task'
  rw [lookup_put, if_pos rfl, hl]
  rfl

/-- What `replace` does with any task of the name: a rewrite the queue would not
load is refused. -/
theorem replace_cases {task task' : SupervisorTask}
    (hl : lookup SupervisorTask.taskId h.store.state.tasks task'.taskId = some task) :
    h.Refuses (replace task' h) ∨ Rewrites h task' (replace task' h) := by
  have hrun : replace task' h =
      (publish (h.store.state.tasks.map (put SupervisorTask.taskId task')) >>= fun _ =>
        SupervisorQueue.require task'.taskId) h := rfl
  rw [hrun]
  rcases publish_cases (h := h) (h.store.state.tasks.map (put SupervisorTask.taskId task')) with
    ⟨error, he⟩ | ⟨state, hstate, hp⟩
  · exact .inl ⟨error, bind_run_error he⟩
  · refine .inr ⟨state, hstate, hp.require ?_⟩
    rw [hstate, lookup_put, if_pos rfl, hl]
    rfl

/-- **What `transition` does** with a task of the queue. -/
theorem transition_rewrites {taskId : JsString} {task : SupervisorTask}
    {status : SupervisorTaskStatus} (extra : SupervisorTask → SupervisorTask) (now : ℕ)
    (hl : lookup SupervisorTask.taskId h.store.state.tasks taskId = some task)
    (hvalid : isSupervisorTask options
      { extra task with status := status, updatedAt := now } = true)
    (hdeps : (extra task).dependencies = task.dependencies) :
    Rewrites h { extra task with status := status, updatedAt := now }
      (transition taskId status (some now) extra h) := by
  unfold transition
  simp only [timestamp_bind_run, require_bind_run, hl]
  have hid : (extra task).taskId = taskId :=
    (congrArg Prod.fst hdeps : (extra task).taskId = task.taskId).trans (lookup_mem hl).2
  have hl' : lookup SupervisorTask.taskId h.store.state.tasks (extra task).taskId = some task := by
    rwa [hid]
  exact replace_rewrites hl' hvalid hdeps

/-! ## The operations on one task -/

/-- A task that was completed. -/
def completedTask (now : ℕ) (task : SupervisorTask) : SupervisorTask :=
  { task with status := .completed, updatedAt := now, runStartedAt := none, blockedReason := none }

/-- A task that failed for good. -/
def failedTask (reason : JsString) (now : ℕ) (task : SupervisorTask) : SupervisorTask :=
  { task with
    status := .failed, updatedAt := now, runStartedAt := none
    lastError := some (boundedError reason) }

/-- A task that was cancelled. -/
def cancelledTask (reason : JsString) (now : ℕ) (task : SupervisorTask) : SupervisorTask :=
  { task with
    status := .cancelled, updatedAt := now, runStartedAt := none
    lastError := some (boundedError reason), blockedReason := none }

/-- A task that was approved. -/
def approvedTask (now : ℕ) (task : SupervisorTask) : SupervisorTask :=
  { task with
    status := .queued, approvalGranted := true, blockedReason := none, updatedAt := now
    nextAttemptAt := now }

variable {taskId : JsString} {task : SupervisorTask}

theorem stored_valid (hl : lookup SupervisorTask.taskId h.store.state.tasks taskId = some task) :
    isSupervisorTask options task = true :=
  h.store.state.task_valid (lookup_mem hl).1

/-- **What `complete` does** with a task of the queue, whatever its status. -/
theorem complete_rewrites (now : ℕ)
    (hl : lookup SupervisorTask.taskId h.store.state.tasks taskId = some task) :
    Rewrites h (completedTask now task) (complete taskId (some now) h) := by
  refine transition_rewrites
    (fun task => { task with runStartedAt := none, blockedReason := none }) now hl ?_ rfl
  have hv := stored_valid hl
  apply isSupervisorTask_end hv (.inl rfl) now
  simp only [isSupervisorTask, Bool.and_eq_true] at hv
  simp_all

theorem failed_rewrites (reason : JsString) (now : ℕ)
    (hl : lookup SupervisorTask.taskId h.store.state.tasks taskId = some task) :
    Rewrites h (failedTask reason now task)
      (transition taskId .failed (some now) (failedFields reason) h) := by
  refine transition_rewrites (failedFields reason) now hl ?_ rfl
  apply isSupervisorTask_end (stored_valid hl) (.inr (.inl rfl)) now
  exact decide_eq_true (boundedError_length reason)

/-- **What `cancel` does** with a task that is not at its end. -/
theorem cancel_rewrites (reason : JsString) (now : ℕ)
    (hl : lookup SupervisorTask.taskId h.store.state.tasks taskId = some task)
    (hs : task.status.terminal = false) :
    Rewrites h (cancelledTask reason now task) (cancel taskId reason (some now) h) := by
  unfold cancel
  simp only [require_bind_run, hl]
  rw [throwIf_bind_run, if_neg (by simp [hs])]
  refine transition_rewrites (fun task => { task with
    runStartedAt := none, lastError := some (boundedError reason), blockedReason := none })
    now hl ?_ rfl
  apply isSupervisorTask_end (stored_valid hl) (.inr (.inr rfl)) now
  exact decide_eq_true (boundedError_length reason)

/-- **What `retry` does** with a running or failed task that has attempts left. -/
theorem retry_rewrites (reason : JsString) (now : ℕ) {attemptDelta : JsString}
    (hl : lookup SupervisorTask.taskId h.store.state.tasks taskId = some task)
    (hs : task.status = .running ∨ task.status = .failed)
    (hleft : task.attempt < task.maxAttempts) (hdelta : trim attemptDelta ≠ []) :
    Rewrites h (requeue options task (boundedError reason) now (trim attemptDelta))
      (retry taskId reason (some now) (some attemptDelta) h) := by
  unfold retry
  simp only [timestamp_bind_run, require_bind_run, hl]
  rw [throwIf_bind_run, if_neg (by rcases hs with hs | hs <;> simp [hs])]
  rw [if_neg (by omega), Option.map_some]
  cases ht : trim attemptDelta with
  | nil => exact absurd ht hdelta
  | cons c rest =>
    dsimp only
    have hl' : lookup SupervisorTask.taskId h.store.state.tasks
        (requeue options task (boundedError reason) now (c :: rest)).taskId = some task :=
      (lookup_mem hl).2 ▸ hl
    apply replace_rewrites hl' ?_ rfl
    exact isSupervisorTask_requeue (stored_valid hl) hleft (boundedError_length reason) now _

/-- **What `fail` does** with a running task on its last attempt. -/
theorem fail_rewrites_failed (reason : JsString) (now : ℕ) (attemptDelta : Option JsString)
    (hl : lookup SupervisorTask.taskId h.store.state.tasks taskId = some task)
    (hs : task.status = .running)
    (hlast : task.maxAttempts ≤ task.attempt) :
    Rewrites h (failedTask reason now task) (fail taskId reason (some now) attemptDelta h) := by
  unfold fail
  simp only [timestamp_bind_run, require_bind_run, hl]
  rw [throwIf_bind_run, if_neg (by simp [hs])]
  rw [if_neg (by omega)]
  exact failed_rewrites reason now hl

/-- Without an attempt delta `fail` refuses a task that has attempts left. -/
theorem fail_refuses_without_delta (reason : JsString) (now : ℕ)
    (hl : lookup SupervisorTask.taskId h.store.state.tasks taskId = some task)
    (hs : task.status = .running)
    (hleft : task.attempt < task.maxAttempts) :
    fail taskId reason (some now) none h
      = (.error (.thrown (JsError.new "attempt_delta_missing")), h) := by
  have hstatus : ¬ (task.status ≠ .running ∧ task.status ≠ .failed) := by simp [hs]
  unfold fail
  simp only [timestamp_bind_run, require_bind_run, hl]
  rw [throwIf_bind_run, if_neg (by simp [hs])]
  rw [if_pos hleft]
  unfold retry
  simp only [timestamp_bind_run, require_bind_run, hl]
  rw [throwIf_bind_run, if_neg hstatus]
  rw [if_neg (by omega)]
  rfl

/-! ## The operations on one task, read backwards -/

theorem complete_cases (taskId : JsString) (now : Option ℕ) :
    h.Refuses (complete taskId now h) ∨
      ∃ instant task, now = some instant ∧
        lookup SupervisorTask.taskId h.store.state.tasks taskId = some task ∧
        Rewrites h (completedTask instant task) (complete taskId now h) := by
  cases now with
  | none => exact .inl ⟨_, rfl⟩
  | some now =>
    cases hl : lookup SupervisorTask.taskId h.store.state.tasks taskId with
    | none =>
      refine .inl ⟨JsError.new "task_not_found", ?_⟩
      simp only [complete, transition, timestamp_bind_run, require_bind_run, hl]
    | some task => exact .inr ⟨now, task, rfl, rfl, complete_rewrites now hl⟩

theorem cancel_cases (taskId reason : JsString) (now : Option ℕ) :
    h.Refuses (cancel taskId reason now h) ∨
      ∃ instant task, now = some instant ∧
        lookup SupervisorTask.taskId h.store.state.tasks taskId = some task ∧
        task.status.terminal = false ∧
        Rewrites h (cancelledTask reason instant task) (cancel taskId reason now h) := by
  cases hl : lookup SupervisorTask.taskId h.store.state.tasks taskId with
  | none =>
    refine .inl ⟨JsError.new "task_not_found", ?_⟩
    simp only [cancel, require_bind_run, hl]
  | some task =>
    by_cases hs : task.status.terminal = true
    · refine .inl ⟨JsError.new "task_already_terminal", ?_⟩
      simp only [cancel, require_bind_run, hl]
      rw [throwIf_bind_run, if_pos hs]
    · cases now with
      | none =>
        refine .inl ⟨JsError.new "invalid_supervisor_timestamp", ?_⟩
        simp only [cancel, transition, require_bind_run, hl]
        rw [throwIf_bind_run, if_neg hs, timestamp_bind_run]
      | some now =>
        have hs' : task.status.terminal = false := by simpa using hs
        exact .inr ⟨now, task, rfl, rfl, hs', cancel_rewrites reason now hl hs'⟩

/-- **What `retry` does**: it queues a running or failed task again, or fails it
for good when its attempts are used up. -/
theorem retry_cases (taskId reason : JsString) (now : Option ℕ) (attemptDelta : Option JsString) :
    h.Refuses (retry taskId reason now attemptDelta h) ∨
      ∃ instant task, now = some instant ∧
        lookup SupervisorTask.taskId h.store.state.tasks taskId = some task ∧
        (task.status = .running ∨ task.status = .failed) ∧
        ((task.attempt < task.maxAttempts ∧ ∃ delta,
          Rewrites h (requeue options task (boundedError reason) instant delta)
            (retry taskId reason now attemptDelta h)) ∨
          (task.maxAttempts ≤ task.attempt ∧
            Rewrites h (failedTask reason instant task)
              (retry taskId reason now attemptDelta h))) := by
  cases now with
  | none => exact .inl ⟨_, rfl⟩
  | some now =>
    cases hl : lookup SupervisorTask.taskId h.store.state.tasks taskId with
    | none =>
      refine .inl ⟨JsError.new "task_not_found", ?_⟩
      simp only [retry, timestamp_bind_run, require_bind_run, hl]
    | some task =>
      by_cases hs : task.status ≠ .running ∧ task.status ≠ .failed
      · refine .inl ⟨JsError.new "task_not_retryable", ?_⟩
        simp only [retry, timestamp_bind_run, require_bind_run, hl]
        rw [throwIf_bind_run, if_pos hs]
      have hs' : task.status = .running ∨ task.status = .failed := by
        by_cases hr : task.status = .running
        · exact .inl hr
        · exact .inr (by_contra fun hf => hs ⟨hr, hf⟩)
      by_cases hlast : task.maxAttempts ≤ task.attempt
      · refine .inr ⟨now, task, rfl, rfl, hs', .inr ⟨hlast, ?_⟩⟩
        simp only [retry, timestamp_bind_run, require_bind_run, hl]
        rw [throwIf_bind_run, if_neg hs, if_pos hlast]
        exact failed_rewrites reason now hl
      have hrefuse : (attemptDelta.map trim = none ∨ attemptDelta.map trim = some []) →
          h.Refuses (retry taskId reason (some now) attemptDelta h) := by
        rintro hdelta
        refine ⟨JsError.new "attempt_delta_missing", ?_⟩
        simp only [retry, timestamp_bind_run, require_bind_run, hl]
        rw [throwIf_bind_run, if_neg hs, if_neg hlast]
        rcases hdelta with hdelta | hdelta <;> rw [hdelta] <;> rfl
      cases attemptDelta with
      | none => exact .inl (hrefuse (.inl rfl))
      | some delta =>
        by_cases hdelta : trim delta = []
        · exact .inl (hrefuse (.inr (by rw [Option.map_some, hdelta])))
        · exact .inr ⟨now, task, rfl, rfl, hs', .inl ⟨by omega, trim delta,
            retry_rewrites reason now hl hs' (by omega) hdelta⟩⟩

/-- **What `fail` does**: the same with a running task, and with no other. -/
theorem fail_cases (taskId reason : JsString) (now : Option ℕ) (attemptDelta : Option JsString) :
    h.Refuses (fail taskId reason now attemptDelta h) ∨
      ∃ instant task, now = some instant ∧
        lookup SupervisorTask.taskId h.store.state.tasks taskId = some task ∧
        task.status = .running ∧
        ((task.attempt < task.maxAttempts ∧ ∃ delta,
          Rewrites h (requeue options task (boundedError reason) instant delta)
            (fail taskId reason now attemptDelta h)) ∨
          (task.maxAttempts ≤ task.attempt ∧
            Rewrites h (failedTask reason instant task)
              (fail taskId reason now attemptDelta h))) := by
  cases now with
  | none => exact .inl ⟨_, rfl⟩
  | some now =>
    cases hl : lookup SupervisorTask.taskId h.store.state.tasks taskId with
    | none =>
      refine .inl ⟨JsError.new "task_not_found", ?_⟩
      simp only [fail, timestamp_bind_run, require_bind_run, hl]
    | some task =>
      by_cases hs : task.status = .running
      · by_cases hlast : task.maxAttempts ≤ task.attempt
        · exact .inr ⟨now, task, rfl, rfl, hs, .inr ⟨hlast,
            fail_rewrites_failed reason now attemptDelta hl hs hlast⟩⟩
        -- with attempts left `fail` is `retry`
        have hfail : fail taskId reason (some now) attemptDelta h
            = retry taskId reason (some now) attemptDelta h := by
          unfold fail
          simp only [timestamp_bind_run, require_bind_run, hl]
          rw [throwIf_bind_run, if_neg (by simp [hs]), if_pos (by omega)]
        rw [hfail]
        rcases retry_cases taskId reason (some now) attemptDelta (h := h) with
          hr | ⟨instant, found, hnow, hfound, -, hr⟩
        · exact .inl hr
        · obtain rfl := Option.some.inj (hl.symm.trans hfound)
          exact .inr ⟨instant, task, hnow, rfl, hs, hr⟩
      · refine .inl ⟨JsError.new "task_not_running", ?_⟩
        simp only [fail, timestamp_bind_run, require_bind_run, hl]
        rw [throwIf_bind_run, if_pos hs]

theorem approve_cases (taskId : JsString) (now : Option ℕ) :
    h.Refuses (approve taskId now h) ∨
      ∃ instant task, now = some instant ∧
        lookup SupervisorTask.taskId h.store.state.tasks taskId = some task ∧
        task.status = .blocked ∧ task.requiresApproval = true ∧
        Rewrites h (approvedTask instant task) (approve taskId now h) := by
  cases now with
  | none => exact .inl ⟨_, rfl⟩
  | some now =>
    cases hl : lookup SupervisorTask.taskId h.store.state.tasks taskId with
    | none =>
      refine .inl ⟨JsError.new "task_not_found", ?_⟩
      simp only [approve, timestamp_bind_run, require_bind_run, hl]
    | some task =>
      by_cases hs : task.status = .blocked ∧ task.requiresApproval = true
      · obtain ⟨hb, hreq⟩ := hs
        have hrun : approve taskId (some now) h = replace (approvedTask now task) h := by
          simp only [approve, timestamp_bind_run, require_bind_run, hl]
          rw [throwIf_bind_run, if_neg (by simp [hb, hreq])]
          rfl
        rw [hrun]
        have hl' : lookup SupervisorTask.taskId h.store.state.tasks
            (approvedTask now task).taskId = some task :=
          (lookup_mem hl).2 ▸ hl
        rcases replace_cases hl' with hr | hr
        · exact .inl hr
        · exact .inr ⟨now, task, rfl, rfl, hb, hreq, hr⟩
      · refine .inl ⟨JsError.new "task_not_approval_blocked", ?_⟩
        simp only [approve, timestamp_bind_run, require_bind_run, hl]
        rw [throwIf_bind_run, if_pos]
        by_cases hb : task.status = .blocked
        · simpa [hb] using hs
        · simp [hb]

/-! ## Reconciliation, claims and restarts -/

theorem reconciledTask_dependencies (now : ℕ) (task : SupervisorTask) :
    (reconciledTask options now task).dependencies = task.dependencies := by
  unfold reconciledTask
  split
  · split <;> rfl
  · rfl

theorem recoveredTask_dependencies (task : SupervisorTask) (now : ℕ) :
    (recoveredTask options task now).dependencies = task.dependencies := by
  unfold recoveredTask
  split <;> rfl

/-- The queue after its expired tasks were seen to. -/
def SupervisorState.reconciled (state : SupervisorState options) (now : ℕ) :
    SupervisorState options :=
  ⟨state.tasks.map (reconciledTask options now),
    isSupervisorState_map state fun task ht =>
      ⟨isSupervisorTask_reconciled (state.task_valid ht) now,
        reconciledTask_dependencies now task⟩⟩

/-- What a restart makes of a task. -/
def afterRestart (options : SupervisorQueueOptions) (now : ℕ) (task : SupervisorTask) :
    SupervisorTask :=
  if task.status = .running then recoveredTask options task now else task

/-- The queue after a restart. -/
def SupervisorState.recovered (state : SupervisorState options) (now : ℕ) :
    SupervisorState options :=
  ⟨state.tasks.map (afterRestart options now),
    isSupervisorState_map state fun task ht => by
      unfold afterRestart
      split
      · exact ⟨isSupervisorTask_recovered (state.task_valid ht) now,
          recoveredTask_dependencies task now⟩
      · exact ⟨state.task_valid ht, rfl⟩⟩

/-- Where nothing expired, a reconciliation changes nothing. -/
theorem reconciled_eq_self (state : SupervisorState options) {now : ℕ}
    (hnone : state.tasks.any (expired now) = false) : state.reconciled now = state := by
  have htasks : state.tasks.map (reconciledTask options now) = state.tasks := by
    rw [List.any_eq_false] at hnone
    refine (List.map_congr_left fun task ht => ?_).trans (List.map_id _)
    rw [reconciledTask, if_neg (hnone task ht)]
    rfl
  obtain ⟨tasks, hv⟩ := state
  simp only [SupervisorState.reconciled, SupervisorState.mk.injEq]
  exact htasks

/-- **What `reconcile` does.** -/
theorem reconcile_cases (now : ℕ) :
    (h.store.state.tasks.any (expired now) = false ∧ reconcile (some now) h = (.ok (), h)) ∨
      (h.store.state.tasks.any (expired now) = true ∧
        Publishes h (h.store.state.reconciled now) () (reconcile (some now) h)) := by
  unfold reconcile
  rw [timestamp_bind_run]
  dsimp only
  rw [bind_run, Host.read_run]
  dsimp only
  by_cases hany : h.store.state.tasks.any (expired now) = true
  · rw [if_pos hany]
    exact .inr ⟨hany, publish_publishes _⟩
  · rw [if_neg hany]
    exact .inl ⟨by simpa using hany, rfl⟩

/-- A write of the queue threw and nothing changed. -/
def WriteFails {α : Type} (h : Machine (SupervisorQueue options))
    (result : Except (Fault JsError) α × Machine (SupervisorQueue options)) : Prop :=
  ∃ fault ws, ws ⊆ h.writes ∧ ¬ h.Reliable ∧ result = (.error fault, ⟨h.store, ws, h.supply⟩)

/-- The queue a reconciliation leaves, which is the old one where nothing
expired. -/
def Reconciled (h : Machine (SupervisorQueue options)) (now : ℕ)
    (h' : Machine (SupervisorQueue options)) : Prop :=
  h'.store.state = h.store.state.reconciled now ∧ h'.writes ⊆ h.writes ∧ h'.supply = h.supply ∧
    (h.store.state.tasks.any (expired now) = false → h' = h) ∧
    (h.store.state.tasks.any (expired now) = true → h'.store.file = h'.store.state)

/-- **What `peekClaimable` does.** -/
theorem peekClaimable_cases (now : ℕ) :
    WriteFails h (peekClaimable (some now) h) ∨
      ∃ h', Reconciled h now h' ∧ peekClaimable (some now) h
        = (.ok (h'.store.state.tasks.find? (claimable h'.store.state.tasks now)), h') := by
  have hrun : peekClaimable (some now) h = (reconcile (some now) >>= fun _ =>
      (Host.read : Proc (SupervisorQueue options) _) >>= fun queue =>
        pure (queue.state.tasks.find? (claimable queue.state.tasks now))) h := by
    unfold peekClaimable
    rw [timestamp_bind_run]
  rw [hrun]
  rcases reconcile_cases (h := h) now with ⟨hany, hr⟩ | ⟨hany, ⟨ws, hws, hr⟩ |
    ⟨fault, ws, hws, hrel, hr⟩⟩
  · refine .inr ⟨h, ⟨?_, List.Subset.refl _, rfl, fun _ => rfl, fun hc => ?_⟩, bind_run_ok hr⟩
    · exact (reconciled_eq_self _ hany).symm
    · rw [hany] at hc
      cases hc
  · refine .inr ⟨⟨⟨h.store.state.reconciled now, h.store.state.reconciled now⟩, ws, h.supply⟩,
      ⟨rfl, hws, rfl, fun hc => ?_, fun _ => rfl⟩, bind_run_ok hr⟩
    rw [hany] at hc
    cases hc
  · exact .inl ⟨fault, ws, hws, hrel, bind_run_error hr⟩

/-- **What `claim` does**: it claims the task `peekClaimable` finds. -/
theorem claim_cases (now : ℕ) :
    WriteFails h (claim (some now) h) ∨
      ∃ h', Reconciled h now h' ∧
        ((h'.store.state.tasks.find? (claimable h'.store.state.tasks now) = none ∧
          claim (some now) h = (.ok none, h')) ∨
        ∃ task state, h'.store.state.tasks.find? (claimable h'.store.state.tasks now) = some task ∧
          state.tasks
            = h'.store.state.tasks.map (put SupervisorTask.taskId (claimedTask now task)) ∧
          Publishes h' state (some (claimedTask now task)) (claim (some now) h)) := by
  unfold claim
  rw [timestamp_bind_run]
  dsimp only
  rcases peekClaimable_cases (h := h) now with ⟨fault, ws, hws, hrel, hr⟩ | ⟨h', hrec, hr⟩
  · exact .inl ⟨fault, ws, hws, hrel, bind_run_error hr⟩
  · rw [bind_run_ok hr]
    refine .inr ⟨h', hrec, ?_⟩
    cases hfind : h'.store.state.tasks.find? (claimable h'.store.state.tasks now) with
    | none => exact .inl ⟨rfl, rfl⟩
    | some task =>
      have hmem : task ∈ h'.store.state.tasks := List.mem_of_find?_eq_some hfind
      have hq : task.status = .queued := by
        have := List.find?_some hfind
        simp only [claimable, Bool.and_eq_true, decide_eq_true_eq] at this
        exact this.1.1
      have hl : lookup SupervisorTask.taskId h'.store.state.tasks
          (claimedTask now task).taskId = some task :=
        h'.store.state.lookup_of_mem hmem
      obtain ⟨state, hstate, hp⟩ := replace_rewrites hl
        (isSupervisorTask_claimed (h'.store.state.task_valid hmem) hq now) rfl
      refine .inr ⟨task, state, rfl, hstate, ?_⟩
      dsimp only
      rcases hp with ⟨ws, hws, hr'⟩ | ⟨fault, ws, hws, hrel, hr'⟩
      · rw [bind_run_ok hr']
        exact .inl ⟨ws, hws, rfl⟩
      · rw [bind_run_error hr']
        exact .inr ⟨fault, ws, hws, hrel, rfl⟩

/-- **What `recover` does.** -/
theorem recover_publishes (now : ℕ) :
    Publishes h (h.store.state.recovered now) (h.store.state.recovered now).tasks
      (recover (some now) h) := by
  unfold recover
  rw [timestamp_bind_run]
  dsimp only
  rw [bind_run, Host.read_run]
  dsimp only
  rcases publish_publishes (h := h) (h.store.state.recovered now).valid with
    ⟨ws, hws, hr⟩ | ⟨fault, ws, hws, hrel, hr⟩
  · refine .inl ⟨ws, hws, ?_⟩
    exact bind_run_ok hr
  · exact .inr ⟨fault, ws, hws, hrel, bind_run_error hr⟩

/-! ## New tasks -/

/-- The dependencies a task is entered with: the first of the ones it was given,
each once. -/
def keptDependencies (input : EnqueueSupervisorTaskInput) : List JsString :=
  (input.dependencyIds.reverse.dedup.reverse).take maxDependencies

/-- **What `enqueue` does.** -/
theorem enqueue_cases (input : EnqueueSupervisorTaskInput) :
    h.Refuses (enqueue input h) ∨
      ∃ (now maxAttempts timeoutMs : ℕ) (state : SupervisorState options),
        input.now = some now ∧
        (∀ task ∈ h.store.state.tasks, task.taskId ≠ input.taskId) ∧
        state.tasks = h.store.state.tasks
          ++ [newTask input now maxAttempts timeoutMs (keptDependencies input)] ∧
        Publishes h state (newTask input now maxAttempts timeoutMs (keptDependencies input))
          (enqueue input h) := by
  unfold enqueue
  rw [throwIf_bind_run]
  split
  · exact .inl ⟨_, rfl⟩
  rw [throwIf_bind_run]
  split
  · exact .inl ⟨_, rfl⟩
  rw [bind_run, Host.read_run]
  dsimp only
  rw [throwIf_bind_run]
  split
  · exact .inl ⟨_, rfl⟩
  rename_i hnew
  rw [throwIf_bind_run]
  split
  · exact .inl ⟨_, rfl⟩
  rw [timestamp_bind_run]
  cases hnow : input.now with
  | none => exact .inl ⟨_, rfl⟩
  | some now =>
    dsimp only
    cases hmax : boundedIntegerInput input.maxAttempts 2 1 maxAttemptsLimit with
    | error e => exact .inl ⟨e, rfl⟩
    | ok maxAttempts =>
    cases htimeout : boundedIntegerInput input.timeoutMs defaultTimeoutMs 1000 maxSafeInteger with
    | error e => exact .inl ⟨e, rfl⟩
    | ok timeoutMs =>
    dsimp only
    rw [throwIf_bind_run]
    split
    · exact .inl ⟨_, rfl⟩
    have hnew' : ∀ task ∈ h.store.state.tasks, task.taskId ≠ input.taskId := by
      rintro task ht heq
      exact hnew (List.any_eq_true.2 ⟨task, ht, by simpa using heq⟩)
    set task := newTask input now maxAttempts timeoutMs (keptDependencies input) with htask
    change h.Refuses ((publish (h.store.state.tasks ++ [task]) >>= fun _ =>
      SupervisorQueue.require input.taskId) h) ∨ _
    rcases publish_cases (h := h) (h.store.state.tasks ++ [task]) with
      ⟨e, hr⟩ | ⟨state, hstate, hp⟩
    · exact .inl ⟨e, bind_run_error hr⟩
    · refine .inr ⟨now, maxAttempts, timeoutMs, state, rfl, hnew', hstate, hp.require ?_⟩
      have hl : lookup SupervisorTask.taskId (h.store.state.tasks ++ [task]) task.taskId
          = some task := by
        rw [lookup_append hnew', if_pos rfl]
      rw [hstate]
      exact hl

end Autopilot
