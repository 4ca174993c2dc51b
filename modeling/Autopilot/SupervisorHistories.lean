/-
Whole histories of a queue.

What the queue owes its callers shows over many calls and restarts. A task is
claimed no more often than it may be and never before it is approved; it is
handed out only when what it depends on is completed; and after every call the
memory of the instance is what a new process would read from the file.

All three come from what a single write does to a single task. It keeps what the
task was entered with, it never takes attempts back, it never reopens a
completed task, and it never lets a task that waits for its approval get past
the gate. `Follows` says so, and every operation is shown to follow once.
-/
import Autopilot.SupervisorLifecycle

set_option autoImplicit false

namespace Autopilot

open Prog Keyed SupervisorQueue

/-! ## Events -/

/-- A call, a look at the next task, or a new process on the file. -/
inductive QueueEvent where
  | call (c : QueueCall)
  | peekClaimable (now : Option ℕ)
  | restart

variable {options : SupervisorQueueOptions}

/-- A process that starts on a file. -/
def Scene.start (file : SupervisorState options) (writes : List (WriteOutcome JsError))
    (supply : Supply Uuid) : Scene options where
  machine := ⟨⟨file, file⟩, writes, supply⟩
  flights := []

/-- The scene after an event. The dispatches of a process end with it. -/
def QueueEvent.run (e : QueueEvent) (s : Scene options) : Scene options :=
  match e with
  | .call c => c.run s
  | .peekClaimable now => { s with machine := (SupervisorQueue.peekClaimable now s.machine).2 }
  | .restart => { machine := { s.machine with store := s.machine.store.load }, flights := [] }

/-- The scene after a list of events. -/
def Scene.through (s : Scene options) (events : List QueueEvent) : Scene options :=
  events.foldl (fun s e => e.run s) s

theorem through_append (s : Scene options) (before rest : List QueueEvent) :
    s.through (before ++ rest) = (s.through before).through rest := List.foldl_append

/-- The task an event claims. -/
def QueueEvent.claims (s : Scene options) : QueueEvent → Option SupervisorTask
  | .call (.claim now) =>
    match (SupervisorQueue.claim now s.machine).1 with
    | .ok task => task
    | .error _ => none
  | _ => none

/-- The task an event hands out, claimed or only looked at. -/
def QueueEvent.offers (s : Scene options) : QueueEvent → Option SupervisorTask
  | .peekClaimable now =>
    match (SupervisorQueue.peekClaimable now s.machine).1 with
    | .ok task => task
    | .error _ => none
  | e => e.claims s

/-! ## What a write does to a task -/

/-- A task that is on its way has passed the approval it needs. -/
def SupervisorTask.Gated (task : SupervisorTask) : Prop :=
  task.status = .queued ∨ task.status = .running ∨ task.status = .failed →
    task.requiresApproval = true → task.approvalGranted = true

/-- What becomes of a task, over any number of writes. -/
structure Follows (task task' : SupervisorTask) : Prop where
  taskId : task'.taskId = task.taskId
  maxAttempts : task'.maxAttempts = task.maxAttempts
  dependencyIds : task'.dependencyIds = task.dependencyIds
  requiresApproval : task'.requiresApproval = task.requiresApproval
  attempt : task.attempt ≤ task'.attempt
  completed : task.status = .completed → task'.status = .completed
  gated : task.Gated → task'.Gated

theorem Follows.refl (task : SupervisorTask) : Follows task task :=
  ⟨rfl, rfl, rfl, rfl, Nat.le_refl _, id, id⟩

theorem Follows.trans {a b c : SupervisorTask} (hab : Follows a b) (hbc : Follows b c) :
    Follows a c where
  taskId := hbc.taskId.trans hab.taskId
  maxAttempts := hbc.maxAttempts.trans hab.maxAttempts
  dependencyIds := hbc.dependencyIds.trans hab.dependencyIds
  requiresApproval := hbc.requiresApproval.trans hab.requiresApproval
  attempt := Nat.le_trans hab.attempt hbc.attempt
  completed h := hbc.completed (hab.completed h)
  gated h := hbc.gated (hab.gated h)

section follows

variable {task : SupervisorTask} (now : ℕ)

theorem follows_completed : Follows task (completedTask now task) :=
  ⟨rfl, rfl, rfl, rfl, Nat.le_refl _, fun _ => rfl,
    fun _ hs => by rcases hs with hs | hs | hs <;> cases hs⟩

theorem follows_cancelled (reason : JsString) (hopen : task.status.terminal = false) :
    Follows task (cancelledTask reason now task) := by
  refine ⟨rfl, rfl, rfl, rfl, Nat.le_refl _, fun hs => ?_, fun _ hs => ?_⟩
  · rw [hs] at hopen
    cases hopen
  · rcases hs with hs | hs | hs <;> cases hs

theorem follows_approved (hs : task.status = .blocked) : Follows task (approvedTask now task) := by
  refine ⟨rfl, rfl, rfl, rfl, Nat.le_refl _, fun hc => ?_, fun _ _ _ => rfl⟩
  rw [hs] at hc
  cases hc

/-- A task that is on its way may be given any status on the way. -/
theorem follows_onward {task' : SupervisorTask} (hs : task.status = .queued ∨
      task.status = .running ∨ task.status = .failed) (hid : task'.taskId = task.taskId)
    (hmax : task'.maxAttempts = task.maxAttempts)
    (hdeps : task'.dependencyIds = task.dependencyIds)
    (hreq : task'.requiresApproval = task.requiresApproval)
    (hgrant : task'.approvalGranted = task.approvalGranted)
    (hattempt : task.attempt ≤ task'.attempt) : Follows task task' := by
  refine ⟨hid, hmax, hdeps, hreq, hattempt, fun hc => ?_, fun hg _ hr => ?_⟩
  · rcases hs with hs | hs | hs <;> rw [hs] at hc <;> cases hc
  · rw [hgrant]
    rw [hreq] at hr
    exact hg hs hr

theorem follows_failed (reason : JsString) (hs : task.status = .running ∨ task.status = .failed) :
    Follows task (failedTask reason now task) :=
  follows_onward (.inr hs) rfl rfl rfl rfl rfl (Nat.le_refl _)

theorem follows_requeue (reason attemptDelta : JsString)
    (hs : task.status = .running ∨ task.status = .failed) :
    Follows task (requeue options task reason now attemptDelta) :=
  follows_onward (.inr hs) rfl rfl rfl rfl rfl (Nat.le_refl _)

theorem follows_claimed (hs : task.status = .queued) : Follows task (claimedTask now task) :=
  follows_onward (.inl hs) rfl rfl rfl rfl rfl (Nat.le_succ _)

theorem follows_reconciled (task : SupervisorTask) :
    Follows task (reconciledTask options now task) := by
  unfold reconciledTask
  split
  · rename_i hexp
    have hs : task.status = .running := by
      simp only [expired, Bool.and_eq_true, decide_eq_true_eq] at hexp
      exact hexp.1
    split
    · exact follows_onward (.inr (.inl hs)) rfl rfl rfl rfl rfl (Nat.le_refl _)
    · exact follows_requeue now _ _ (.inl hs)
  · exact .refl task

theorem follows_afterRestart (task : SupervisorTask) :
    Follows task (afterRestart options now task) := by
  unfold afterRestart
  split
  · rename_i hs
    unfold recoveredTask
    split
    · exact follows_onward (.inr (.inl hs)) rfl rfl rfl rfl rfl (Nat.le_refl _)
    · exact follows_requeue now _ _ (.inl hs)
  · exact .refl task

end follows

/-! ## What an operation does to the tasks -/

/-- What an operation may do to a queue: every task is followed by one, a new task
is gated, and memory and file stay the same. -/
structure Progresses (h h' : Machine (SupervisorQueue options)) : Prop where
  followed : ∀ task ∈ h.store.state.tasks, ∃ task' ∈ h'.store.state.tasks, Follows task task'
  gated : (∀ task ∈ h.store.state.tasks, task.Gated) → ∀ task ∈ h'.store.state.tasks, task.Gated
  synced : h.store.file = h.store.state → h'.store.file = h'.store.state

section operations

variable {h h' : Machine (SupervisorQueue options)} {α : Type}

theorem Progresses.of_store (hstore : h'.store = h.store) : Progresses h h' := by
  constructor
  · rintro task ht
    exact ⟨task, hstore ▸ ht, .refl task⟩
  · rintro hg task ht
    exact hg task (hstore ▸ ht)
  · rintro hs
    rw [hstore]
    exact hs

theorem Progresses.refl (h : Machine (SupervisorQueue options)) : Progresses h h := .of_store rfl

theorem Progresses.trans (h₁ h₂ h₃ : Machine (SupervisorQueue options))
    (h12 : Progresses h₁ h₂) (h23 : Progresses h₂ h₃) : Progresses h₁ h₃ := by
  constructor
  · rintro task ht
    obtain ⟨task', ht', hf⟩ := h12.followed task ht
    obtain ⟨task'', ht'', hf'⟩ := h23.followed task' ht'
    exact ⟨task'', ht'', hf.trans hf'⟩
  · exact fun hg => h23.gated (h12.gated hg)
  · exact fun hs => h23.synced (h12.synced hs)

theorem progresses_of_refuses
    {result : Except (Fault JsError) α × Machine (SupervisorQueue options)}
    (hr : h.Refuses result) : Progresses h result.2 := by
  obtain ⟨e, rfl⟩ := hr
  exact .refl h

/-- A publication of tasks that follow the stored ones. -/
theorem Publishes.progresses {state : SupervisorState options} {a : α}
    {result : Except (Fault JsError) α × Machine (SupervisorQueue options)}
    (hp : Publishes h state a result) {f : SupervisorTask → SupervisorTask}
    (hstate : state.tasks = h.store.state.tasks.map f)
    (hf : ∀ task ∈ h.store.state.tasks, Follows task (f task)) : Progresses h result.2 := by
  rcases hp with ⟨ws, -, rfl⟩ | ⟨fault, ws, -, -, rfl⟩
  · constructor
    · rintro task ht
      refine ⟨f task, ?_, hf task ht⟩
      change f task ∈ state.tasks
      rw [hstate]
      exact List.mem_map_of_mem ht
    · rintro hg task ht
      change task ∈ state.tasks at ht
      rw [hstate, List.mem_map] at ht
      obtain ⟨task, ht, rfl⟩ := ht
      exact (hf task ht).gated (hg task ht)
    · exact fun _ => rfl
  · exact .of_store rfl

/-- A rewrite of one task by one that follows it. -/
theorem Rewrites.progresses {task task' : SupervisorTask} {taskId : JsString}
    {result : Except (Fault JsError) SupervisorTask × Machine (SupervisorQueue options)}
    (hr : Rewrites h task' result)
    (hl : lookup SupervisorTask.taskId h.store.state.tasks taskId = some task)
    (hf : Follows task task') : Progresses h result.2 := by
  obtain ⟨state, hstate, hp⟩ := hr
  apply hp.progresses hstate
  rintro candidate hc
  unfold put
  split
  · rename_i heq
    -- names are unique, so the candidate is the task that is rewritten
    have hcand := h.store.state.lookup_of_mem hc
    rw [heq, hf.taskId, (lookup_mem hl).2, hl] at hcand
    exact Option.some.inj hcand ▸ hf
  · exact .refl candidate

theorem complete_progresses (taskId : JsString) (now : Option ℕ) :
    Moves Progresses (complete taskId now : Proc (SupervisorQueue options) SupervisorTask) := by
  intro h
  rcases complete_cases (h := h) taskId now with hr | ⟨instant, task, -, hl, hr⟩
  · exact progresses_of_refuses hr
  · exact hr.progresses hl (follows_completed instant)

theorem fail_progresses (taskId reason : JsString) (now : Option ℕ)
    (attemptDelta : Option JsString) :
    Moves Progresses
      (fail taskId reason now attemptDelta : Proc (SupervisorQueue options) SupervisorTask) := by
  intro h
  rcases fail_cases (h := h) taskId reason now attemptDelta with
    hr | ⟨instant, task, -, hl, hs, ⟨-, delta, hr⟩ | ⟨-, hr⟩⟩
  · exact progresses_of_refuses hr
  · exact hr.progresses hl (follows_requeue instant _ _ (.inl hs))
  · exact hr.progresses hl (follows_failed instant _ (.inl hs))

theorem retry_progresses (taskId reason : JsString) (now : Option ℕ)
    (attemptDelta : Option JsString) :
    Moves Progresses
      (retry taskId reason now attemptDelta : Proc (SupervisorQueue options) SupervisorTask) := by
  intro h
  rcases retry_cases (h := h) taskId reason now attemptDelta with
    hr | ⟨instant, task, -, hl, hs, ⟨-, delta, hr⟩ | ⟨-, hr⟩⟩
  · exact progresses_of_refuses hr
  · exact hr.progresses hl (follows_requeue instant _ _ hs)
  · exact hr.progresses hl (follows_failed instant _ hs)

theorem cancel_progresses (taskId reason : JsString) (now : Option ℕ) :
    Moves Progresses
      (cancel taskId reason now : Proc (SupervisorQueue options) SupervisorTask) := by
  intro h
  rcases cancel_cases (h := h) taskId reason now with hr | ⟨instant, task, -, hl, hs, hr⟩
  · exact progresses_of_refuses hr
  · exact hr.progresses hl (follows_cancelled instant _ hs)

theorem approve_progresses (taskId : JsString) (now : Option ℕ) :
    Moves Progresses (approve taskId now : Proc (SupervisorQueue options) SupervisorTask) := by
  intro h
  rcases approve_cases (h := h) taskId now with hr | ⟨instant, task, -, hl, hs, -, hr⟩
  · exact progresses_of_refuses hr
  · exact hr.progresses hl (follows_approved instant hs)

theorem recover_progresses (now : Option ℕ) :
    Moves Progresses (recover now : Proc (SupervisorQueue options) (List SupervisorTask)) := by
  intro h
  cases now with
  | none => exact .of_store rfl
  | some now =>
    exact (recover_publishes (h := h) now).progresses rfl fun task _ =>
      follows_afterRestart now task

theorem reconcile_progresses (now : Option ℕ) :
    Moves Progresses (reconcile now : Proc (SupervisorQueue options) Unit) := by
  intro h
  cases now with
  | none => exact .of_store rfl
  | some now =>
    rcases reconcile_cases (h := h) now with ⟨-, hr⟩ | ⟨-, hp⟩
    · rw [hr]
      exact .refl h
    · exact hp.progresses rfl fun task _ => follows_reconciled now task

theorem Reconciled.progresses {now : ℕ} (hrec : Reconciled h now h') : Progresses h h' := by
  obtain ⟨hstate, -, -, hnone, hsome⟩ := hrec
  constructor
  · rintro task ht
    refine ⟨reconciledTask options now task, ?_, follows_reconciled now task⟩
    rw [hstate]
    exact List.mem_map_of_mem ht
  · rintro hg task ht
    rw [hstate] at ht
    have ht' : task ∈ h.store.state.tasks.map (reconciledTask options now) := ht
    rw [List.mem_map] at ht'
    obtain ⟨before, hb, rfl⟩ := ht'
    exact (follows_reconciled now before).gated (hg before hb)
  · rintro hs
    cases hany : h.store.state.tasks.any (expired now) with
    | false => rw [hnone hany, hs]
    | true => exact hsome hany

theorem peekClaimable_progresses (now : Option ℕ) :
    Moves Progresses
      (peekClaimable now : Proc (SupervisorQueue options) (Option SupervisorTask)) := by
  intro h
  cases now with
  | none => exact .of_store rfl
  | some now =>
    rcases peekClaimable_cases (h := h) now with ⟨fault, ws, -, -, hr⟩ | ⟨h', hrec, hr⟩
    · rw [hr]
      exact .of_store rfl
    · rw [hr]
      exact hrec.progresses

theorem claim_progresses (now : Option ℕ) :
    Moves Progresses (claim now : Proc (SupervisorQueue options) (Option SupervisorTask)) := by
  intro h
  cases now with
  | none => exact .of_store rfl
  | some now =>
    rcases claim_cases (h := h) now with ⟨fault, ws, -, -, hr⟩ | ⟨h', hrec, ⟨-, hr⟩ |
      ⟨task, state, hfind, hstate, hp⟩⟩
    · rw [hr]
      exact .of_store rfl
    · rw [hr]
      exact hrec.progresses
    · refine hrec.progresses.trans _ _ _ (hp.progresses hstate fun candidate hc => ?_)
      have hclaim := List.find?_some hfind
      simp only [claimable, Bool.and_eq_true, decide_eq_true_eq] at hclaim
      unfold put
      split
      · rename_i heq
        have hcand := h'.store.state.lookup_of_mem hc
        rw [heq] at hcand
        obtain rfl := Option.some.inj
          ((h'.store.state.lookup_of_mem (List.mem_of_find?_eq_some hfind)).symm.trans hcand)
        exact follows_claimed now hclaim.1.1
      · exact .refl candidate

/-- A new task waits for the approval it needs. -/
theorem newTask_gated (input : EnqueueSupervisorTaskInput) (now maxAttempts timeoutMs : ℕ)
    (dependencyIds : List JsString) :
    (newTask input now maxAttempts timeoutMs dependencyIds).Gated := by
  rintro hs (hreq : input.requiresApproval = true)
  by_contra hgrant
  have hno : input.approvalGranted = false := by
    have : ¬ input.approvalGranted = true := hgrant
    simpa using this
  simp [newTask, hreq, hno] at hs

theorem enqueue_progresses (input : EnqueueSupervisorTaskInput) :
    Moves Progresses (enqueue input : Proc (SupervisorQueue options) SupervisorTask) := by
  intro h
  rcases enqueue_cases (h := h) input with hr | ⟨now, maxAttempts, timeoutMs, state, -, -, hstate,
    ⟨ws, -, hr⟩ | ⟨fault, ws, -, -, hr⟩⟩
  · exact progresses_of_refuses hr
  · rw [hr]
    constructor
    · rintro task ht
      refine ⟨task, ?_, .refl task⟩
      change task ∈ state.tasks
      rw [hstate]
      exact List.mem_append_left _ ht
    · rintro hg task ht
      change task ∈ state.tasks at ht
      rw [hstate, List.mem_append, List.mem_singleton] at ht
      rcases ht with ht | rfl
      · exact hg task ht
      · exact newTask_gated input now maxAttempts timeoutMs _
    · exact fun _ => rfl
  · rw [hr]
    exact .of_store rfl

theorem dispatchClaimed_keeps (taskId : JsString) (h : Machine (SupervisorQueue options)) :
    (dispatchClaimed taskId h).2 = h := by
  unfold dispatchClaimed
  rw [require_bind_run]
  cases lookup SupervisorTask.taskId h.store.state.tasks taskId with
  | none => rfl
  | some task =>
    dsimp only
    rw [throwIf_bind_run]
    split <;> rfl

theorem dispatchThrew_progresses (taskId : JsString) (now : Option ℕ) (error : JsError) :
    Moves Progresses
      (SupervisorQueue.dispatchThrew taskId now error : Proc (SupervisorQueue options) _) :=
  Moves.bind Progresses.trans (fail_progresses _ _ _ _) fun _ => Moves.of_throw .refl error

theorem dispatchEnded_progresses (taskId : JsString) (now : Option ℕ) (outcome : DispatchOutcome) :
    Moves Progresses
      (SupervisorQueue.dispatchEnded taskId now outcome : Proc (SupervisorQueue options) _) := by
  refine Moves.tryCatch Progresses.trans ?_ (dispatchThrew_progresses taskId now)
  rcases outcome with e | reason | worker
  · exact Moves.of_throw .refl e
  · exact Moves.bind Progresses.trans (fail_progresses _ _ _ _) fun _ => Moves.of_pure .refl _
  · exact Moves.bind Progresses.trans (complete_progresses _ _) fun _ => Moves.of_pure .refl _

end operations

/-! ## What a history does to the tasks -/

theorem QueueCall.progresses (c : QueueCall) (s : Scene options) :
    Progresses s.machine (c.run s).machine := by
  cases c with
  | enqueue input => exact enqueue_progresses input s.machine
  | approve taskId now => exact approve_progresses taskId now s.machine
  | claim now => exact claim_progresses now s.machine
  | complete taskId now => exact complete_progresses taskId now s.machine
  | fail taskId reason now delta => exact fail_progresses taskId reason now delta s.machine
  | retry taskId reason now delta => exact retry_progresses taskId reason now delta s.machine
  | cancel taskId reason now => exact cancel_progresses taskId reason now s.machine
  | recover now => exact recover_progresses now s.machine
  | reconcile now => exact reconcile_progresses now s.machine
  | dispatchClaimed taskId =>
    have hrun : ((QueueCall.dispatchClaimed taskId).run s).machine
        = (SupervisorQueue.dispatchClaimed taskId s.machine).2 := by
      unfold QueueCall.run
      dsimp only
      rcases SupervisorQueue.dispatchClaimed taskId s.machine with ⟨e | task, h'⟩ <;> rfl
    rw [hrun, dispatchClaimed_keeps]
    exact .refl s.machine
  | dispatchEnded flight now outcome =>
    unfold QueueCall.run
    dsimp only
    split
    · exact dispatchEnded_progresses flight.taskId now outcome s.machine
    · exact .refl s.machine

/-- Memory and file of the instance are the same. -/
def Scene.Synced (s : Scene options) : Prop := s.machine.store.file = s.machine.store.state

/-- A restart reads what the memory was. -/
theorem load_of_synced {queue : SupervisorQueue options} (h : queue.file = queue.state) :
    queue.load = queue := by
  obtain ⟨state, file⟩ := queue
  obtain rfl : file = state := h
  rfl

theorem QueueEvent.progresses {s : Scene options} (hs : s.Synced) (e : QueueEvent) :
    Progresses s.machine (e.run s).machine := by
  cases e with
  | call c => exact c.progresses s
  | peekClaimable now => exact peekClaimable_progresses now s.machine
  | restart =>
    exact .of_store (load_of_synced hs)

theorem QueueEvent.synced {s : Scene options} (hs : s.Synced) (e : QueueEvent) :
    (e.run s).Synced := (e.progresses hs).synced hs

theorem Scene.through_progresses {s : Scene options} (hs : s.Synced) (events : List QueueEvent) :
    Progresses s.machine (s.through events).machine := by
  induction events generalizing s with
  | nil => exact .refl s.machine
  | cons e rest ih => exact (e.progresses hs).trans _ _ _ (ih (e.synced hs))

theorem Scene.through_synced {s : Scene options} (hs : s.Synced) (events : List QueueEvent) :
    (s.through events).Synced := (s.through_progresses hs events).synced hs

/-- A process that starts on a file has read it. -/
theorem start_synced (file : SupervisorState options) (writes : List (WriteOutcome JsError))
    (supply : Supply Uuid) : (Scene.start file writes supply).Synced := rfl

/-! ## What a claim hands out -/

/-- What a task depends on is completed. -/
def Scene.Ready (s : Scene options) (task : SupervisorTask) : Prop :=
  ∀ id ∈ task.dependencyIds, ∃ dependency ∈ s.machine.store.state.tasks,
    dependency.taskId = id ∧ dependency.status = .completed

/-- A task whose time is over keeps its attempts and its approval. -/
theorem reconciledTask_keeps (now : ℕ) (task : SupervisorTask) :
    (reconciledTask options now task).attempt = task.attempt ∧
      (reconciledTask options now task).approvalGranted = task.approvalGranted := by
  unfold reconciledTask
  split
  · split <;> exact ⟨rfl, rfl⟩
  · exact ⟨rfl, rfl⟩

/-- A task whose time is over is not completed by that. -/
theorem reconciledTask_completed {now : ℕ} {task : SupervisorTask}
    (h : (reconciledTask options now task).status = .completed) : task.status = .completed := by
  unfold reconciledTask at h
  split at h
  · split at h <;> cases h
  · exact h

/-- A task that is found claimable is queued, and was ready before its queue was
reconciled. -/
theorem Reconciled.found {s : Scene options} {now : ℕ} {h' : Machine (SupervisorQueue options)}
    (hrec : Reconciled s.machine now h') {found : SupervisorTask}
    (hfind : h'.store.state.tasks.find? (claimable h'.store.state.tasks now) = some found) :
    found.status = .queued ∧ ∃ before ∈ s.machine.store.state.tasks,
      reconciledTask options now before = found ∧ s.Ready before := by
  have htasks : h'.store.state.tasks
      = s.machine.store.state.tasks.map (reconciledTask options now) := by
    rw [hrec.1]
    rfl
  have hmem : found ∈ h'.store.state.tasks := List.mem_of_find?_eq_some hfind
  have hclaim := List.find?_some hfind
  simp only [claimable, Bool.and_eq_true, decide_eq_true_eq] at hclaim
  have hdeps := hclaim.2
  unfold dependenciesComplete at hdeps
  rw [List.all_eq_true] at hdeps
  rw [htasks, List.mem_map] at hmem
  obtain ⟨before, hb, rfl⟩ := hmem
  refine ⟨hclaim.1.1, before, hb, rfl, fun id hid => ?_⟩
  have hdone := hdeps id (by rw [(follows_reconciled now before).dependencyIds]; exact hid)
  rw [Option.any_eq_true] at hdone
  obtain ⟨dependency, hl, hcompleted⟩ := hdone
  obtain ⟨hdmem, hdid⟩ := lookup_mem hl
  rw [htasks, List.mem_map] at hdmem
  obtain ⟨stored, hstored, rfl⟩ := hdmem
  refine ⟨stored, hstored, ?_, reconciledTask_completed (of_decide_eq_true hcompleted)⟩
  rw [← hdid]
  exact (follows_reconciled now stored).taskId.symm

/-! ## A task is claimed for an attempt it has left -/

/-- How often a history claims a task. -/
def Scene.claimCount (s : Scene options) (taskId : JsString) : List QueueEvent → ℕ
  | [] => 0
  | e :: rest =>
    (if (e.claims s).any (·.taskId = taskId) then 1 else 0) + (e.run s).claimCount taskId rest

/-- The attempts the queue has counted for a task. -/
def Scene.attemptsOf (s : Scene options) (taskId : JsString) : ℕ :=
  ((lookup SupervisorTask.taskId s.machine.store.state.tasks taskId).map (·.attempt)).getD 0

theorem attemptsOf_of_mem {s : Scene options} {task : SupervisorTask}
    (h : task ∈ s.machine.store.state.tasks) : s.attemptsOf task.taskId = task.attempt := by
  unfold Scene.attemptsOf
  rw [s.machine.store.state.lookup_of_mem h]
  rfl

/-- No event takes attempts back. -/
theorem Progresses.attemptsOf_le {s s' : Scene options} (h : Progresses s.machine s'.machine)
    (taskId : JsString) : s.attemptsOf taskId ≤ s'.attemptsOf taskId := by
  cases hl : lookup SupervisorTask.taskId s.machine.store.state.tasks taskId with
  | none =>
    unfold Scene.attemptsOf
    rw [hl]
    exact Nat.zero_le _
  | some task =>
    obtain ⟨hmem, rfl⟩ := lookup_mem hl
    obtain ⟨task', hmem', hf⟩ := h.followed task hmem
    rw [attemptsOf_of_mem hmem, ← hf.taskId, attemptsOf_of_mem hmem']
    exact hf.attempt

/-- What a claim takes out of one queue and leaves in the next: the task as it was
stored, and the task it hands out with one more attempt. -/
structure Claimed (s s' : Scene options) (before task : SupervisorTask) : Prop where
  stored : before ∈ s.machine.store.state.tasks
  handed : task ∈ s'.machine.store.state.tasks
  followed : Follows before task
  attempt : task.attempt = before.attempt + 1
  running : task.status = .running
  ready : s.Ready before
  approved : before.Gated → before.requiresApproval = true → before.approvalGranted = true

theorem claim_claimed {s : Scene options} {now : ℕ} {task : SupervisorTask}
    (h : (SupervisorQueue.claim (some now) s.machine).1 = .ok (some task)) :
    ∃ before, Claimed s ((QueueCall.claim (some now)).run s) before task := by
  rcases claim_cases (h := s.machine) now with ⟨fault, ws, -, -, hr⟩ | ⟨h', hrec, ⟨-, hr⟩ |
    ⟨found, state, hfind, hstate, ⟨ws, -, hr⟩ | ⟨fault, ws, -, -, hr⟩⟩⟩
  · rw [hr] at h
    cases h
  · rw [hr] at h
    cases h
  · rw [hr] at h
    obtain rfl : claimedTask now found = task := by
      have : some (claimedTask now found) = some task := Except.ok.inj h
      exact Option.some.inj this
    have hmem : found ∈ h'.store.state.tasks := List.mem_of_find?_eq_some hfind
    -- what is found was stored as it is, or ran until its time was over
    obtain ⟨hqueued, before, hb, rfl, hready⟩ := hrec.found hfind
    obtain ⟨hattempt, hgranted⟩ := reconciledTask_keeps now before
    have hfollow : Follows before (reconciledTask options now before) :=
      follows_reconciled now before
    refine ⟨before, hb, ?_, hfollow.trans (follows_claimed now hqueued), ?_, rfl, hready, ?_⟩
    · have hrun : ((QueueCall.claim (some now)).run s).machine = ⟨⟨state, state⟩, ws, h'.supply⟩ :=
        congrArg Prod.snd hr
      rw [hrun]
      change _ ∈ state.tasks
      rw [hstate, List.mem_map]
      refine ⟨_, hmem, ?_⟩
      unfold put
      exact if_pos rfl
    · exact congrArg (· + 1) hattempt
    · rintro hg hreq
      rw [← hgranted]
      apply hfollow.gated hg (.inl hqueued)
      rw [hfollow.requiresApproval]
      exact hreq
  · rw [hr] at h
    cases h

/-- **A claim counts an attempt, of a task whose approval is granted.** -/
theorem QueueEvent.claims_claimed {s : Scene options} {e : QueueEvent} {task : SupervisorTask}
    (h : e.claims s = some task) : ∃ before, Claimed s (e.run s) before task := by
  unfold QueueEvent.claims at h
  split at h
  · rename_i now
    cases now with
    | none => cases h
    | some now =>
      split at h
      · rename_i hr
        subst h
        exact claim_claimed hr
      · cases h
  · cases h

theorem QueueEvent.counts {s : Scene options} (hs : s.Synced) (e : QueueEvent)
    (taskId : JsString) :
    (if (e.claims s).any (·.taskId = taskId) then 1 else 0) + s.attemptsOf taskId
      ≤ (e.run s).attemptsOf taskId := by
  have hmono : s.attemptsOf taskId ≤ (e.run s).attemptsOf taskId :=
    (e.progresses hs).attemptsOf_le taskId
  cases hc : e.claims s with
  | none => simpa using hmono
  | some task =>
    by_cases hid : task.taskId = taskId
    · obtain ⟨before, hclaim⟩ := e.claims_claimed hc
      subst hid
      have hafter : (e.run s).attemptsOf task.taskId = task.attempt :=
        attemptsOf_of_mem hclaim.handed
      have hbefore : s.attemptsOf task.taskId = before.attempt := by
        rw [hclaim.followed.taskId]
        exact attemptsOf_of_mem hclaim.stored
      rw [hafter, hbefore, hclaim.attempt]
      simp
      omega
    · simpa [hid] using hmono

/-- The claims of a history are attempts the queue has counted. -/
theorem claimCount_le {s : Scene options} (hs : s.Synced) (taskId : JsString)
    (events : List QueueEvent) :
    s.claimCount taskId events + s.attemptsOf taskId ≤ (s.through events).attemptsOf taskId := by
  induction events generalizing s with
  | nil => exact Nat.le_of_eq (Nat.zero_add _)
  | cons e rest ih =>
    have hstep := e.counts hs taskId
    have hrest : (e.run s).claimCount taskId rest + (e.run s).attemptsOf taskId
        ≤ ((e.run s).through rest).attemptsOf taskId := ih (e.synced hs)
    change _ + (e.run s).claimCount taskId rest + s.attemptsOf taskId
      ≤ ((e.run s).through rest).attemptsOf taskId
    omega

/-- No task is claimed more often than it may be, and none before its approval. -/
structure ClaimsAreSafe (s : Scene options) (events : List QueueEvent) : Prop where
  /-- Whatever the queue says at any moment about the attempts a task has. -/
  bounded : ∀ before rest, events = before ++ rest →
    ∀ task ∈ (s.through before).machine.store.state.tasks,
      s.claimCount task.taskId events ≤ task.maxAttempts
  /-- Neither the task handed out nor the one stored at that moment waits. -/
  approved : ∀ before e rest task, events = before ++ e :: rest →
    e.claims (s.through before) = some task →
      (task.requiresApproval = true → task.approvalGranted = true) ∧
      ∃ stored ∈ (s.through before).machine.store.state.tasks, stored.taskId = task.taskId ∧
        (stored.requiresApproval = true → stored.approvalGranted = true)

/-- What the loader accepts has not used more attempts than it may. -/
theorem SupervisorState.attempt_le (state : SupervisorState options) {task : SupervisorTask}
    (h : task ∈ state.tasks) : task.attempt ≤ task.maxAttempts := by
  have hv := state.task_valid h
  simp only [isSupervisorTask, Bool.and_eq_true, decide_eq_true_eq] at hv
  omega

/-- **Claims are safe** in every history of a queue that starts on an empty store,
under any outcome of the writes. -/
theorem claims_are_safe (options : SupervisorQueueOptions) (writes : List (WriteOutcome JsError))
    (supply : Supply Uuid) (events : List QueueEvent) :
    ClaimsAreSafe (Scene.start (SupervisorQueue.empty options) writes supply) events where
  bounded := by
    rintro before rest rfl task ht
    have hs : (Scene.start (SupervisorQueue.empty options) writes supply).Synced :=
      start_synced _ writes supply
    obtain ⟨task', ht', hf⟩ :=
      (Scene.through_progresses (Scene.through_synced hs before) rest).followed task ht
    rw [← through_append] at ht'
    calc _ ≤ _ := Nat.le_add_right _ _
      _ ≤ _ := claimCount_le hs task.taskId (before ++ rest)
      _ = task'.attempt := by rw [← hf.taskId]; exact attemptsOf_of_mem ht'
      _ ≤ task'.maxAttempts := SupervisorState.attempt_le _ ht'
      _ = task.maxAttempts := hf.maxAttempts
  approved := by
    rintro before e rest task - hclaims
    have hs : (Scene.start (SupervisorQueue.empty options) writes supply).Synced :=
      start_synced _ writes supply
    have hgated := (Scene.through_progresses hs before).gated (fun task ht => by cases ht)
    obtain ⟨stored, hclaim⟩ := e.claims_claimed hclaims
    have hstored := hclaim.approved (hgated stored hclaim.stored)
    refine ⟨fun hreq => ?_, stored, hclaim.stored, hclaim.followed.taskId.symm, hstored⟩
    -- a claimed task is running, and every running task has passed its approval
    have hafter := (e.progresses (Scene.through_synced hs before)).gated hgated task hclaim.handed
    exact hafter (.inr (.inl hclaim.running)) hreq

/-- A task that fails once is claimed twice, and no third time while it runs. -/
example :
    (Scene.start (SupervisorQueue.empty sampleOptions) [] (.fresh [] List.nodup_nil)).claimCount
      (js "t") [.call (.enqueue { taskId := js "t", handoff := sampleHandoff, now := some 0 }),
      .call (.claim (some 1)), .call (.fail (js "t") (js "no") (some 2) (some (js "again"))),
      .call (.claim (some 2000)), .call (.claim (some 3000))] = 2 := by
  decide

/-! ## A task waits for what it depends on -/

/-- **A task is handed out when it is ready.** -/
theorem QueueEvent.offers_ready {s : Scene options} {e : QueueEvent} {task : SupervisorTask}
    (h : e.offers s = some task) :
    ∃ before ∈ s.machine.store.state.tasks, before.taskId = task.taskId ∧ s.Ready before := by
  cases e with
  | restart => cases h
  | peekClaimable now =>
    cases now with
    | none => cases h
    | some now =>
      have h' : (match (SupervisorQueue.peekClaimable (some now) s.machine).1 with
        | .ok task => task
        | .error _ => none) = some task := h
      rcases peekClaimable_cases (h := s.machine) now with ⟨fault, ws, -, -, hr⟩ | ⟨after, hrec, hr⟩
      · rw [hr] at h'
        cases h'
      · rw [hr] at h'
        obtain ⟨-, before, hb, rfl, hready⟩ := hrec.found h'
        exact ⟨before, hb, (follows_reconciled now before).taskId.symm, hready⟩
  | call c =>
    obtain ⟨before, hclaim⟩ := (QueueEvent.call c).claims_claimed h
    exact ⟨before, hclaim.stored, hclaim.followed.taskId.symm, hclaim.ready⟩

/-- What `enqueue` returns is stored, with the dependencies it kept. -/
theorem enqueue_enters {s : Scene options} {input : EnqueueSupervisorTaskInput}
    {entered : SupervisorTask} (h : (SupervisorQueue.enqueue input s.machine).1 = .ok entered) :
    entered ∈ ((QueueCall.enqueue input).run s).machine.store.state.tasks ∧
      entered.taskId = input.taskId ∧ entered.dependencyIds = keptDependencies input := by
  rcases enqueue_cases (h := s.machine) input with ⟨e, hr⟩ | ⟨now, maxAttempts, timeoutMs, state, -,
    -, hstate, ⟨ws, -, hr⟩ | ⟨fault, ws, -, -, hr⟩⟩
  · rw [hr] at h
    cases h
  · rw [hr] at h
    obtain rfl := Except.ok.inj h
    refine ⟨?_, rfl, rfl⟩
    have hrun : ((QueueCall.enqueue input).run s).machine
        = ⟨⟨state, state⟩, ws, s.machine.supply⟩ := congrArg Prod.snd hr
    rw [hrun]
    change _ ∈ state.tasks
    rw [hstate]
    exact List.mem_append_right _ (List.mem_singleton_self _)
  · rw [hr] at h
    cases h

/-- Nothing a caller names is dropped from a list that is short enough. -/
theorem mem_keptDependencies {input : EnqueueSupervisorTaskInput}
    (h : input.dependencyIds.dedup.length ≤ maxDependencies) {id : JsString}
    (hid : id ∈ input.dependencyIds) : id ∈ keptDependencies input := by
  unfold keptDependencies
  have hlen : input.dependencyIds.reverse.dedup.reverse.length ≤ maxDependencies := by
    rw [List.length_reverse]
    rwa [(List.reverse_perm input.dependencyIds).dedup.length_eq]
  rw [List.take_of_length_le hlen, List.mem_reverse, List.mem_dedup, List.mem_reverse]
  exact hid

/-- Every task the history enters is handed out only while each dependency that was
passed to `enqueue` is completed. -/
def DependenciesGate (s : Scene options) (events : List QueueEvent) : Prop :=
  ∀ before input between e rest entered task,
    events = before ++ .call (.enqueue input) :: (between ++ e :: rest) →
    (SupervisorQueue.enqueue input (s.through before).machine).1 = .ok entered →
    e.offers (s.through (before ++ .call (.enqueue input) :: between)) = some task →
    task.taskId = input.taskId →
    ∀ id ∈ input.dependencyIds, ∃ dependency ∈
        (s.through (before ++ .call (.enqueue input) :: between)).machine.store.state.tasks,
      dependency.taskId = id ∧ dependency.status = .completed

/-- **Dependencies gate a task** in every history that enters no task with more
dependencies than the queue keeps. -/
theorem dependencies_gate (file : SupervisorState options) (writes : List (WriteOutcome JsError))
    (supply : Supply Uuid) (events : List QueueEvent)
    (h : ∀ input, QueueEvent.call (.enqueue input) ∈ events →
      input.dependencyIds.dedup.length ≤ maxDependencies) :
    DependenciesGate (Scene.start file writes supply) events := by
  rintro before input between e rest entered task rfl henter hoffer hid id hmem
  have hkept : input.dependencyIds.dedup.length ≤ maxDependencies :=
    h input (List.mem_append_right _ (List.mem_cons_self ..))
  set s := (Scene.start file writes supply).through before with hsdef
  have hs : s.Synced := Scene.through_synced (start_synced file writes supply) before
  -- what was entered is still there, and depends on what it was entered with
  obtain ⟨hentered, heid, hdeps⟩ := enqueue_enters henter
  have hs' : ((QueueCall.enqueue input).run s).Synced :=
    (QueueEvent.call (.enqueue input)).synced hs
  obtain ⟨current, hcurrent, hf⟩ :=
    (Scene.through_progresses hs' between).followed entered hentered
  have hthrough : (Scene.start file writes supply).through
      (before ++ .call (.enqueue input) :: between)
        = ((QueueCall.enqueue input).run s).through between := through_append _ before _
  rw [hthrough] at hoffer ⊢
  obtain ⟨found, hfound, hfid, hready⟩ := QueueEvent.offers_ready hoffer
  -- names are unique, so it is what is handed out
  obtain rfl : found = current := by
    have hl := SupervisorState.lookup_of_mem _ hfound
    rw [hfid, hid, ← heid, ← hf.taskId] at hl
    exact Option.some.inj (hl.symm.trans (SupervisorState.lookup_of_mem _ hcurrent))
  apply hready
  rw [hf.dependencyIds, hdeps]
  exact mem_keptDependencies hkept hmem

theorem dependencies_gate_sample :
    DependenciesGate
      (Scene.start (SupervisorQueue.empty sampleOptions) [] (.fresh [] List.nodup_nil))
      [.call (.enqueue
        { taskId := js "t", handoff := sampleHandoff, dependencyIds := [js "a"], now := some 0 }),
        .call (.claim (some 1))] :=
  dependencies_gate _ _ _ _ (by
    rintro input hm
    simp only [List.mem_cons, List.not_mem_nil, or_false, reduceCtorEq, QueueEvent.call.injEq,
      QueueCall.enqueue.injEq] at hm
    subst hm
    decide)

/-- The name of the `n`-th of many tasks. -/
def sampleName (n : ℕ) : JsString := List.replicate (n + 1) 97

/-- A task that is completed, or waits for its first attempt. -/
def sampleTask (status : SupervisorTaskStatus) (n : ℕ) : SupervisorTask :=
  { newTask { taskId := sampleName n, handoff := sampleHandoff, now := some 0 } 0 2 1000 [] with
    status }

/-- A queue with 32 completed tasks and one that waits. -/
def sampleBacklog : SupervisorState sampleOptions where
  tasks := (List.range 33).map fun n => sampleTask (if n < 32 then .completed else .queued) n
  valid := by decide +kernel

/-- A task that depends on all of them. -/
def sampleDependent : EnqueueSupervisorTaskInput where
  taskId := js "t"
  handoff := sampleHandoff
  dependencyIds := (List.range 33).map sampleName
  now := some 0

def sampleStart : Scene sampleOptions := Scene.start sampleBacklog [] (.fresh [] List.nodup_nil)

/-- The last of the tasks is claimed, and the one that depends on it enters. -/
def sampleEntering : List QueueEvent :=
  [.call (.claim (some 0))] ++ .call (.enqueue sampleDependent) :: []

/-- **Not every history gates.** The last of 33 dependencies is dropped, and the
task is claimed while that one is running. -/
theorem dependencies_gate_false :
    ¬ ∀ (options : SupervisorQueueOptions) (file : SupervisorState options)
        (writes : List (WriteOutcome JsError)) (supply : Supply Uuid) (events : List QueueEvent),
      DependenciesGate (Scene.start file writes supply) events := by
  rintro h
  have hgate : DependenciesGate sampleStart (sampleEntering ++ [.call (.claim (some 1))]) :=
    h _ sampleBacklog [] (.fresh [] List.nodup_nil) _
  -- the claim hands out the task whose last dependency runs
  have hoffer : ((QueueEvent.call (.claim (some 1))).offers
      (sampleStart.through sampleEntering)).map (fun task => task.taskId) = some (js "t") := by
    decide +kernel
  have hopen : ∀ dependency ∈ (sampleStart.through sampleEntering).machine.store.state.tasks,
      dependency.taskId = sampleName 32 → dependency.status ≠ .completed := by
    decide +kernel
  have henter : ((SupervisorQueue.enqueue sampleDependent
      (sampleStart.through [.call (.claim (some 0))]).machine).1.toOption).isSome = true := by
    decide +kernel
  have hlast : sampleName 32 ∈ sampleDependent.dependencyIds := by
    unfold sampleDependent
    exact List.mem_map_of_mem (List.mem_range.2 (Nat.lt_succ_self 32))
  rw [Option.map_eq_some_iff] at hoffer
  obtain ⟨task, hclaim, hid⟩ := hoffer
  cases hreturn : (SupervisorQueue.enqueue sampleDependent
      (sampleStart.through [.call (.claim (some 0))]).machine).1 with
  | error e =>
    rw [hreturn] at henter
    cases henter
  | ok entered =>
    unfold sampleEntering at hgate hclaim hopen
    obtain ⟨dependency, hmem, hdid, hdone⟩ := hgate _ _ _ _ [] entered task
      (List.append_assoc _ _ _) hreturn hclaim hid _ hlast
    exact hopen dependency hmem hdid hdone

end Autopilot
