/-
The ends of a task.

A task that completed, failed or was cancelled is at its end, and only an
explicit `retry` of a failed task is meant to bring it back. What a worker
returns for an attempt that is over is meant to decide nothing. `cancel`, `fail`
and `retry` look at the status of the task before they change it. `complete`
does not, and `dispatchClaimed` calls it whatever happened to the task while the
worker was busy. So the answer of a worker whose task was cancelled meanwhile
completes the task, and so does the answer for an attempt that timed out.

A scene is a queue together with the dispatches under way, and a history is any
list of calls, in which a dispatch may end at any point after it began. The main
result says which calls a history has to avoid so that ends are final and late
answers are ignored.
-/
import Autopilot.SupervisorQueueSpec

set_option autoImplicit false

namespace Autopilot

open Prog Keyed SupervisorQueue

/-! ## Histories -/

/-- A dispatch under way, with the attempt it was made for. -/
structure Flight where
  taskId : JsString
  attempt : ℕ
  deriving DecidableEq

/-- A queue and the dispatches under way. -/
structure Scene (options : SupervisorQueueOptions) where
  machine : Machine (SupervisorQueue options)
  flights : List Flight

/-- A call of an operation, or the end of a dispatch that is under way. -/
inductive QueueCall where
  | enqueue (input : EnqueueSupervisorTaskInput)
  | approve (taskId : JsString) (now : Option ℕ)
  | claim (now : Option ℕ)
  | complete (taskId : JsString) (now : Option ℕ)
  | fail (taskId reason : JsString) (now : Option ℕ) (attemptDelta : Option JsString)
  | retry (taskId reason : JsString) (now : Option ℕ) (attemptDelta : Option JsString)
  | cancel (taskId reason : JsString) (now : Option ℕ)
  | recover (now : Option ℕ)
  | reconcile (now : Option ℕ)
  | dispatchClaimed (taskId : JsString)
  | dispatchEnded (flight : Flight) (now : Option ℕ) (outcome : DispatchOutcome)

variable {options : SupervisorQueueOptions}

/-- The scene after a call, whether it returned or threw. -/
def QueueCall.run (c : QueueCall) (s : Scene options) : Scene options :=
  match c with
  | .enqueue input => { s with machine := (SupervisorQueue.enqueue input s.machine).2 }
  | .approve taskId now => { s with machine := (SupervisorQueue.approve taskId now s.machine).2 }
  | .claim now => { s with machine := (SupervisorQueue.claim now s.machine).2 }
  | .complete taskId now => { s with machine := (SupervisorQueue.complete taskId now s.machine).2 }
  | .fail taskId reason now delta =>
    { s with machine := (SupervisorQueue.fail taskId reason now delta s.machine).2 }
  | .retry taskId reason now delta =>
    { s with machine := (SupervisorQueue.retry taskId reason now delta s.machine).2 }
  | .cancel taskId reason now =>
    { s with machine := (SupervisorQueue.cancel taskId reason now s.machine).2 }
  | .recover now => { s with machine := (SupervisorQueue.recover now s.machine).2 }
  | .reconcile now => { s with machine := (SupervisorQueue.reconcile now s.machine).2 }
  | .dispatchClaimed taskId =>
    match SupervisorQueue.dispatchClaimed taskId s.machine with
    | (.ok task, machine) => { machine, flights := s.flights ++ [⟨taskId, task.attempt⟩] }
    | (.error _, machine) => { s with machine }
  | .dispatchEnded flight now outcome =>
    if flight ∈ s.flights then
      { machine := (SupervisorQueue.dispatchEnded flight.taskId now outcome s.machine).2
        flights := s.flights.erase flight }
    else s

/-- The scene after a history. -/
def Scene.after (s : Scene options) (calls : List QueueCall) : Scene options :=
  calls.foldl (fun s c => c.run s) s

/-- The status of a task. -/
def statusOf (h : Machine (SupervisorQueue options)) (taskId : JsString) :
    Option SupervisorTaskStatus :=
  (lookup SupervisorTask.taskId h.store.state.tasks taskId).map (·.status)

/-- The dispatch was made for the attempt the task is running now. -/
def Scene.current (s : Scene options) (flight : Flight) : Bool :=
  (lookup SupervisorTask.taskId s.machine.store.state.tasks flight.taskId).any fun task =>
    task.status = .running && task.attempt = flight.attempt

/-- The history never retries the task while it is failed. -/
def Scene.NeverRetried (s : Scene options) (calls : List QueueCall) (taskId : JsString) : Prop :=
  ∀ before reason now delta rest, calls = before ++ .retry taskId reason now delta :: rest →
    statusOf (s.after before).machine taskId ≠ some .failed

/-- Ends are final and late answers are ignored, throughout a history. -/
structure EndsAreFinal (s : Scene options) (calls : List QueueCall) : Prop where
  /-- A task at its end stays there until it is retried as a failed task. -/
  final : ∀ before between rest, calls = before ++ between ++ rest → ∀ taskId status,
    statusOf (s.after before).machine taskId = some status → status.terminal = true →
    (s.after before).NeverRetried between taskId →
    statusOf (s.after (before ++ between)).machine taskId = some status
  /-- The answer for an attempt that is not the current one changes no status. -/
  late : ∀ before flight now outcome rest,
    calls = before ++ .dispatchEnded flight now outcome :: rest →
    (s.after before).current flight = false → ∀ taskId,
    statusOf (s.after (before ++ [.dispatchEnded flight now outcome])).machine taskId
      = statusOf (s.after before).machine taskId

/-! ## The calls that keep ends final -/

/-- `complete` is not called on a task that failed or was cancelled, and a
dispatch that ends late finds its task where the answer changes nothing: already
completed for a worker that succeeded, not running for any other answer. -/
def QueueCall.Careful (s : Scene options) : QueueCall → Prop
  | .complete taskId _ =>
    statusOf s.machine taskId ≠ some .failed ∧ statusOf s.machine taskId ≠ some .cancelled
  | .dispatchEnded flight _ outcome =>
    s.current flight = true ∨
      match outcome with
      | .ok (.accepted _) => statusOf s.machine flight.taskId = some .completed
      | _ => statusOf s.machine flight.taskId ≠ some .running
  | _ => True

/-- Every call of the history is careful in the scene it is made in. -/
def CarefulHistory : Scene options → List QueueCall → Prop
  | _, [] => True
  | s, c :: calls => c.Careful s ∧ CarefulHistory (c.run s) calls

/-! ## What one operation does to the ends -/

/-- Tasks at their end keep their status, but for the excepted ones. -/
def KeepsEnds (except : JsString → Prop) (h h' : Machine (SupervisorQueue options)) : Prop :=
  ∀ taskId status, ¬ except taskId → statusOf h taskId = some status →
    status.terminal = true → statusOf h' taskId = some status

section steps

variable {h : Machine (SupervisorQueue options)} {except : JsString → Prop} {α : Type}

theorem KeepsEnds.of_store {h' : Machine (SupervisorQueue options)}
    (heq : h'.store.state = h.store.state) : KeepsEnds except h h' := by
  rintro taskId status - hs -
  rw [statusOf, heq]
  exact hs

theorem KeepsEnds.trans {h₁ h₂ h₃ : Machine (SupervisorQueue options)}
    (h12 : KeepsEnds except h₁ h₂) (h23 : KeepsEnds except h₂ h₃) : KeepsEnds except h₁ h₃ :=
  fun taskId status he hs ht => h23 taskId status he (h12 taskId status he hs ht) ht

theorem refuses_keepsEnds {result : Except (Fault JsError) α × Machine (SupervisorQueue options)}
    (hr : h.Refuses result) : KeepsEnds except h result.2 := by
  obtain ⟨error, rfl⟩ := hr
  exact .of_store rfl

/-- A publication of rewritten tasks keeps the ends the rewriting keeps. -/
theorem Publishes.keepsEnds {state : SupervisorState options} {a : α}
    {result : Except (Fault JsError) α × Machine (SupervisorQueue options)}
    (hp : Publishes h state a result) {f : SupervisorTask → SupervisorTask}
    (hstate : state.tasks = h.store.state.tasks.map f)
    (hid : ∀ task ∈ h.store.state.tasks, (f task).taskId = task.taskId)
    (hends : ∀ task ∈ h.store.state.tasks, ¬ except task.taskId → task.status.terminal = true →
      (f task).status = task.status) :
    KeepsEnds except h result.2 := by
  rcases hp with ⟨ws, -, rfl⟩ | ⟨fault, ws, -, -, rfl⟩
  · rintro taskId status he hs ht
    unfold statusOf at hs ⊢
    change (lookup SupervisorTask.taskId state.tasks taskId).map _ = _
    rw [hstate, lookup_map hid]
    cases hl : lookup SupervisorTask.taskId h.store.state.tasks taskId with
    | none => rw [hl] at hs; cases hs
    | some task =>
      obtain ⟨hmem, rfl⟩ := lookup_mem hl
      rw [hl, Option.map_some, Option.some.injEq] at hs
      subst hs
      rw [Option.map_some, Option.map_some, hends task hmem he ht]
  · exact .of_store rfl

/-- Rewriting one task keeps the ends of the others. -/
theorem Rewrites.keepsEnds {task task' : SupervisorTask} {taskId : JsString}
    {result : Except (Fault JsError) SupervisorTask × Machine (SupervisorQueue options)}
    (hr : Rewrites h task' result)
    (hl : lookup SupervisorTask.taskId h.store.state.tasks taskId = some task)
    (hid : task'.taskId = task.taskId)
    (hopen : ¬ except taskId → task.status.terminal = true → task'.status = task.status) :
    KeepsEnds except h result.2 := by
  obtain ⟨state, hstate, hp⟩ := hr
  obtain ⟨hmem, rfl⟩ := lookup_mem hl
  apply hp.keepsEnds hstate
  · exact fun candidate _ => key_put _ candidate
  · rintro candidate hc he ht
    unfold put
    split
    · rename_i heq
      -- names are unique, so the candidate is the task that is rewritten
      have hcand := h.store.state.lookup_of_mem hc
      rw [heq, hid, hl] at hcand
      obtain rfl := Option.some.inj hcand
      exact hopen he ht
    · rfl

theorem complete_keepsEnds (taskId : JsString) (now : Option ℕ)
    (hopen : statusOf h taskId ≠ some .failed ∧ statusOf h taskId ≠ some .cancelled) :
    KeepsEnds except h (complete taskId now h).2 := by
  rcases complete_cases (h := h) taskId now with hr | ⟨instant, task, -, hl, hr⟩
  · exact refuses_keepsEnds hr
  · apply hr.keepsEnds hl rfl
    rintro - ht
    simp only [statusOf, hl, Option.map_some, ne_eq, Option.some.injEq] at hopen
    -- the only end left is the one the task is at already
    cases hs : task.status <;> simp_all [SupervisorTaskStatus.terminal, completedTask]

/-- `fail` touches running tasks only. -/
theorem fail_keepsEnds (taskId reason : JsString) (now : Option ℕ)
    (attemptDelta : Option JsString) :
    KeepsEnds except h (fail taskId reason now attemptDelta h).2 := by
  rcases fail_cases (h := h) taskId reason now attemptDelta with
    hr | ⟨instant, task, -, hl, hs, ⟨-, delta, hr⟩ | ⟨-, hr⟩⟩
  · exact refuses_keepsEnds hr
  · apply hr.keepsEnds hl rfl
    rintro - ht
    rw [hs] at ht
    cases ht
  · apply hr.keepsEnds hl rfl
    rintro - ht
    rw [hs] at ht
    cases ht

theorem fail_refuses {taskId : JsString} (hs : statusOf h taskId ≠ some .running)
    (reason : JsString) (now : Option ℕ) (attemptDelta : Option JsString) :
    h.Refuses (fail taskId reason now attemptDelta h) := by
  rcases fail_cases (h := h) taskId reason now attemptDelta with hr | ⟨_, task, -, hl, hrun, -⟩
  · exact hr
  · exact absurd (by rw [statusOf, hl, Option.map_some, hrun]) hs

/-- `retry` touches a running task, or the failed task it retries. -/
theorem retry_keepsEnds (taskId reason : JsString) (now : Option ℕ)
    (attemptDelta : Option JsString) :
    KeepsEnds (fun id => taskId = id ∧ statusOf h id = some .failed) h
      (retry taskId reason now attemptDelta h).2 := by
  have hopen : ∀ {task task' : SupervisorTask},
      lookup SupervisorTask.taskId h.store.state.tasks taskId = some task →
      (task.status = .running ∨ task.status = .failed) →
      ¬ (taskId = taskId ∧ statusOf h taskId = some .failed) → task.status.terminal = true →
      task'.status = task.status := by
    rintro task task' hl hs he ht
    rcases hs with hs | hs
    · rw [hs] at ht
      cases ht
    · exact absurd ⟨rfl, by rw [statusOf, hl, Option.map_some, hs]⟩ he
  rcases retry_cases (h := h) taskId reason now attemptDelta with
    hr | ⟨instant, task, -, hl, hs, ⟨-, delta, hr⟩ | ⟨-, hr⟩⟩
  · exact refuses_keepsEnds hr
  · exact hr.keepsEnds hl rfl (hopen hl hs)
  · exact hr.keepsEnds hl rfl (hopen hl hs)

theorem cancel_keepsEnds (taskId reason : JsString) (now : Option ℕ) :
    KeepsEnds except h (cancel taskId reason now h).2 := by
  rcases cancel_cases (h := h) taskId reason now with hr | ⟨instant, task, -, hl, hs, hr⟩
  · exact refuses_keepsEnds hr
  · apply hr.keepsEnds hl rfl
    rintro - ht
    rw [hs] at ht
    cases ht

theorem approve_keepsEnds (taskId : JsString) (now : Option ℕ) :
    KeepsEnds except h (approve taskId now h).2 := by
  rcases approve_cases (h := h) taskId now with hr | ⟨instant, task, -, hl, hs, -, hr⟩
  · exact refuses_keepsEnds hr
  · apply hr.keepsEnds hl rfl
    rintro - ht
    rw [hs] at ht
    cases ht

/-- Neither a reconciliation nor a restart rewrites a task at its end. -/
theorem reconciledTask_end (now : ℕ) {task : SupervisorTask} (ht : task.status.terminal = true) :
    reconciledTask options now task = task := by
  rw [reconciledTask, if_neg]
  rintro hexp
  simp only [expired, Bool.and_eq_true, decide_eq_true_eq] at hexp
  rw [hexp.1] at ht
  cases ht

theorem afterRestart_end (now : ℕ) {task : SupervisorTask} (ht : task.status.terminal = true) :
    afterRestart options now task = task := by
  rw [afterRestart, if_neg]
  rintro hs
  rw [hs] at ht
  cases ht

theorem Reconciled.keepsEnds {now : ℕ} {h' : Machine (SupervisorQueue options)}
    (hrec : Reconciled h now h') : KeepsEnds except h h' := by
  rintro taskId status - hs ht
  have hid : ∀ task ∈ h.store.state.tasks,
      (reconciledTask options now task).taskId = task.taskId :=
    fun task _ => congrArg Prod.fst (reconciledTask_dependencies now task)
  unfold statusOf at hs ⊢
  rw [hrec.1]
  change (lookup SupervisorTask.taskId (h.store.state.tasks.map (reconciledTask options now))
    taskId).map _ = _
  rw [lookup_map hid]
  cases hl : lookup SupervisorTask.taskId h.store.state.tasks taskId with
  | none => rw [hl] at hs; cases hs
  | some task =>
    rw [hl, Option.map_some, Option.some.injEq] at hs
    subst hs
    rw [Option.map_some, Option.map_some, reconciledTask_end now ht]

theorem reconcile_keepsEnds (now : Option ℕ) : KeepsEnds except h (reconcile now h).2 := by
  cases now with
  | none => exact .of_store rfl
  | some now =>
    rcases reconcile_cases (h := h) now with ⟨-, hr⟩ | ⟨-, hp⟩
    · rw [hr]
      exact .of_store rfl
    · apply hp.keepsEnds rfl
      · exact fun task _ => congrArg Prod.fst (reconciledTask_dependencies now task)
      · exact fun task _ _ ht => by rw [reconciledTask_end now ht]

theorem recover_keepsEnds (now : Option ℕ) : KeepsEnds except h (recover now h).2 := by
  cases now with
  | none => exact .of_store rfl
  | some now =>
    apply (recover_publishes (h := h) now).keepsEnds rfl
    · rintro task -
      unfold afterRestart
      split
      · exact congrArg Prod.fst (recoveredTask_dependencies task now)
      · rfl
    · rintro task - - ht
      rw [afterRestart_end now ht]

theorem claim_keepsEnds (now : Option ℕ) : KeepsEnds except h (claim now h).2 := by
  cases now with
  | none => exact .of_store rfl
  | some now =>
    rcases claim_cases (h := h) now with ⟨fault, ws, -, -, hr⟩ | ⟨h', hrec, ⟨-, hr⟩ |
      ⟨task, state, hfind, hstate, hp⟩⟩
    · rw [hr]
      exact .of_store rfl
    · rw [hr]
      exact hrec.keepsEnds
    · have hbefore : KeepsEnds except h h' := hrec.keepsEnds
      refine hbefore.trans ?_
      have hmem : task ∈ h'.store.state.tasks := List.mem_of_find?_eq_some hfind
      apply hp.keepsEnds hstate
      · exact fun candidate _ => key_put _ candidate
      · rintro candidate hc - ht
        unfold put
        split
        · rename_i heq
          have hcand := h'.store.state.lookup_of_mem hc
          rw [heq] at hcand
          obtain rfl := Option.some.inj ((h'.store.state.lookup_of_mem hmem).symm.trans hcand)
          -- what is claimed is queued, which is no end
          have hclaim := List.find?_some hfind
          simp only [claimable, Bool.and_eq_true, decide_eq_true_eq] at hclaim
          rw [hclaim.1.1] at ht
          cases ht
        · rfl

theorem enqueue_keepsEnds (input : EnqueueSupervisorTaskInput) :
    KeepsEnds except h (enqueue input h).2 := by
  rcases enqueue_cases (h := h) input with hr | ⟨now, maxAttempts, timeoutMs, state, -, hnew,
    hstate, ⟨ws, -, hr⟩ | ⟨fault, ws, -, -, hr⟩⟩
  · exact refuses_keepsEnds hr
  · rw [hr]
    rintro taskId status - hs -
    unfold statusOf at hs ⊢
    change (lookup SupervisorTask.taskId state.tasks taskId).map _ = _
    rw [hstate, lookup_append hnew]
    split
    · -- a task of the new name was not there before
      rename_i heq
      cases hl : lookup SupervisorTask.taskId h.store.state.tasks taskId with
      | none => rw [hl] at hs; cases hs
      | some task => exact absurd ((lookup_mem hl).2.trans heq) (hnew task (lookup_mem hl).1)
    · exact hs
  · rw [hr]
    exact .of_store rfl

/-- Two programs in a row keep what each of them keeps. -/
theorem bind_keepsEnds {β : Type} {p : Proc (SupervisorQueue options) α}
    {f : α → Proc (SupervisorQueue options) β} (hp : KeepsEnds except h (p h).2)
    (hf : ∀ a h', KeepsEnds except h' (f a h').2) : KeepsEnds except h ((p >>= f) h).2 := by
  rw [bind_run]
  rcases hr : p h with ⟨e | a, h'⟩ <;> rw [hr] at hp
  · exact hp
  · exact hp.trans (hf a h')

theorem dispatchThrew_keepsEnds (taskId : JsString) (now : Option ℕ) (error : JsError) :
    KeepsEnds except h (dispatchThrew taskId now error h).2 := by
  apply bind_keepsEnds (fail_keepsEnds _ _ _ _)
  exact fun _ h' => .of_store rfl

theorem dispatchAnswered_keepsEnds (taskId : JsString) (now : Option ℕ)
    (outcome : DispatchOutcome) (hopen : ∀ worker, outcome = .ok (.accepted worker) →
      statusOf h taskId ≠ some .failed ∧ statusOf h taskId ≠ some .cancelled) :
    KeepsEnds except h (dispatchAnswered taskId now outcome h).2 := by
  rcases outcome with e | reason | worker
  · exact .of_store rfl
  · apply bind_keepsEnds (fail_keepsEnds _ _ _ _)
    exact fun _ h' => .of_store rfl
  · apply bind_keepsEnds (complete_keepsEnds taskId now (hopen worker rfl))
    exact fun _ h' => .of_store rfl

theorem dispatchEnded_keepsEnds (taskId : JsString) (now : Option ℕ) (outcome : DispatchOutcome)
    (hopen : ∀ worker, outcome = .ok (.accepted worker) →
      statusOf h taskId ≠ some .failed ∧ statusOf h taskId ≠ some .cancelled) :
    KeepsEnds except h (dispatchEnded taskId now outcome h).2 := by
  have hbody : KeepsEnds except h (dispatchAnswered taskId now outcome h).2 :=
    dispatchAnswered_keepsEnds taskId now outcome hopen
  unfold dispatchEnded
  rw [tryCatch_run]
  rcases hr : dispatchAnswered taskId now outcome h with ⟨(e | _) | a, h'⟩ <;> rw [hr] at hbody
  · exact hbody.trans (dispatchThrew_keepsEnds taskId now e)
  · exact hbody
  · exact hbody

/-- The answer of a worker whose task stopped running is ignored, unless the
worker succeeded. -/
theorem dispatchEnded_ignored {taskId : JsString} (hs : statusOf h taskId ≠ some .running)
    (now : Option ℕ) {outcome : DispatchOutcome}
    (houtcome : ∀ worker, outcome ≠ .ok (.accepted worker)) :
    (dispatchEnded taskId now outcome h).2 = h := by
  have hthrew : ∀ error, (dispatchThrew taskId now error h).2 = h := by
    rintro error
    obtain ⟨e, hr⟩ := fail_refuses hs (error.message?.getD (js "dispatch_failed")) now
      (some (js "retry_after_dispatch_exception"))
    unfold dispatchThrew
    rw [bind_run_error hr]
  unfold dispatchEnded
  rcases outcome with e | reason | worker
  · rw [tryCatch_run_thrown (show dispatchAnswered taskId now (.error e) h = _ from rfl)]
    exact hthrew e
  · obtain ⟨e, hr⟩ := fail_refuses hs reason.text now
      (some (js "retry_after_refusal:" ++ reason.text))
    have hbody : dispatchAnswered taskId now (.ok (.refused reason)) h = (.error (.thrown e), h) :=
      bind_run_error hr
    rw [tryCatch_run_thrown hbody]
    exact hthrew e
  · exact absurd rfl (houtcome worker)

/-- Completing a completed task changes no status. -/
theorem dispatchEnded_completed {taskId : JsString} (hs : statusOf h taskId = some .completed)
    (now : Option ℕ) (worker : WorkerResult) (id : JsString) :
    statusOf (dispatchEnded taskId now (.ok (.accepted worker)) h).2 id = statusOf h id := by
  unfold dispatchEnded
  rcases complete_cases (h := h) taskId now with ⟨e, hr⟩ | ⟨instant, task, -, hl, state, hstate, hp⟩
  · have hbody : dispatchAnswered taskId now (.ok (.accepted worker)) h = (.error (.thrown e), h) :=
      bind_run_error hr
    have hne : statusOf h taskId ≠ some .running := by rw [hs]; decide
    obtain ⟨e', hr'⟩ := fail_refuses hne (e.message?.getD (js "dispatch_failed")) now
      (some (js "retry_after_dispatch_exception"))
    rw [tryCatch_run_thrown hbody]
    unfold dispatchThrew
    rw [bind_run_error hr']
  · have hdone : task.status = .completed := by
      rwa [statusOf, hl, Option.map_some, Option.some.injEq] at hs
    rcases hp with ⟨ws, -, hr⟩ | ⟨fault, ws, -, -, hr⟩
    · have hbody : dispatchAnswered taskId now (.ok (.accepted worker)) h
          = (.ok (.accepted worker), ⟨⟨state, state⟩, ws, h.supply⟩) := bind_run_ok hr
      rw [tryCatch_run_ok hbody]
      change (lookup SupervisorTask.taskId state.tasks id).map _ = _
      rw [hstate, lookup_put]
      unfold statusOf
      split
      · rename_i hid
        cases hl' : lookup SupervisorTask.taskId h.store.state.tasks id with
        | none => rfl
        | some found =>
          have hfound : found = task := by
            have hid' : id = taskId := hid.trans (lookup_mem hl).2
            rw [hid', hl] at hl'
            exact (Option.some.inj hl').symm
          rw [Option.map_some, Option.map_some, Option.map_some, hfound, hdone]
          rfl
      · rfl
    · have hbody : dispatchAnswered taskId now (.ok (.accepted worker)) h
          = (.error fault, ⟨h.store, ws, h.supply⟩) := bind_run_error hr
      cases fault with
      | crashed =>
        rw [tryCatch_run_crashed hbody]
        rfl
      | thrown e =>
        have hne : statusOf (⟨h.store, ws, h.supply⟩ : Machine (SupervisorQueue options)) taskId
            ≠ some .running := by
          change statusOf h taskId ≠ some .running
          rw [hs]
          decide
        obtain ⟨e', hr'⟩ := fail_refuses hne (e.message?.getD (js "dispatch_failed")) now
          (some (js "retry_after_dispatch_exception"))
        rw [tryCatch_run_thrown hbody]
        unfold dispatchThrew
        rw [bind_run_error hr']
        rfl

end steps

/-! ## Histories of careful calls -/

/-- The call retries the task as a failed task. -/
def QueueCall.RetriesFailed (s : Scene options) : QueueCall → JsString → Prop
  | .retry taskId .. => fun id => taskId = id ∧ statusOf s.machine id = some .failed
  | _ => fun _ => False

/-- **The step lemma.** A careful call keeps every end, but for the failed task it
retries. -/
theorem QueueCall.keepsEnds {s : Scene options} (c : QueueCall) (hc : c.Careful s) :
    KeepsEnds (c.RetriesFailed s) s.machine (c.run s).machine := by
  cases c with
  | enqueue input => exact enqueue_keepsEnds input
  | approve taskId now => exact approve_keepsEnds taskId now
  | claim now => exact claim_keepsEnds now
  | complete taskId now => exact complete_keepsEnds taskId now hc
  | fail taskId reason now delta => exact fail_keepsEnds taskId reason now delta
  | retry taskId reason now delta => exact retry_keepsEnds taskId reason now delta
  | cancel taskId reason now => exact cancel_keepsEnds taskId reason now
  | recover now => exact recover_keepsEnds now
  | reconcile now => exact reconcile_keepsEnds now
  | dispatchClaimed taskId =>
    have hsame : (SupervisorQueue.dispatchClaimed taskId s.machine).2 = s.machine := by
      simp only [SupervisorQueue.dispatchClaimed, require_bind_run]
      cases lookup SupervisorTask.taskId s.machine.store.state.tasks taskId with
      | none => rfl
      | some task =>
        dsimp only
        rw [throwIf_bind_run]
        split <;> rfl
    have hrun : ((QueueCall.dispatchClaimed taskId).run s).machine = s.machine := by
      rw [run]
      rcases hr : SupervisorQueue.dispatchClaimed taskId s.machine with ⟨e | task, machine⟩ <;>
        rw [hr] at hsame <;> exact hsame
    rw [hrun]
    exact .of_store rfl
  | dispatchEnded flight now outcome =>
    rw [run]
    split
    · apply dispatchEnded_keepsEnds
      rintro worker rfl
      rcases hc with hcur | hdone
      · -- the task of a current dispatch is running
        unfold Scene.current at hcur
        unfold statusOf
        cases hl : lookup SupervisorTask.taskId s.machine.store.state.tasks flight.taskId with
        | none => simp
        | some task =>
          rw [hl] at hcur
          simp only [Option.any_some, Bool.and_eq_true, decide_eq_true_eq] at hcur
          simp [hcur.1]
      · constructor <;> rw [hdone] <;> decide
    · exact .of_store rfl

/-- A careful answer for an attempt that is over changes no status. -/
theorem QueueCall.ignored {s : Scene options} {flight : Flight} {now : Option ℕ}
    {outcome : DispatchOutcome} (hc : (QueueCall.dispatchEnded flight now outcome).Careful s)
    (hlate : s.current flight = false) (taskId : JsString) :
    statusOf ((QueueCall.dispatchEnded flight now outcome).run s).machine taskId
      = statusOf s.machine taskId := by
  rw [run]
  split
  · rcases hc with hcur | hc
    · rw [hlate] at hcur
      cases hcur
    · rcases outcome with e | reason | worker
      · dsimp only at hc ⊢
        rw [dispatchEnded_ignored hc now (by rintro worker ⟨⟩)]
      · dsimp only at hc ⊢
        rw [dispatchEnded_ignored hc now (by rintro worker ⟨⟩)]
      · exact dispatchEnded_completed hc now worker taskId
  · rfl

theorem after_append (s : Scene options) (before rest : List QueueCall) :
    s.after (before ++ rest) = (s.after before).after rest := List.foldl_append

/-- A careful history goes on carefully from each of its scenes. -/
theorem CarefulHistory.drop {s : Scene options} {before rest : List QueueCall}
    (h : CarefulHistory s (before ++ rest)) : CarefulHistory (s.after before) rest := by
  induction before generalizing s with
  | nil => exact h
  | cons c before ih => exact ih h.2

/-- **The run lemma.** A careful history keeps an end it never retries. -/
theorem CarefulHistory.keepsEnd {s : Scene options} {calls rest : List QueueCall}
    (h : CarefulHistory s (calls ++ rest)) {taskId : JsString} {status : SupervisorTaskStatus}
    (hs : statusOf s.machine taskId = some status) (ht : status.terminal = true)
    (hnever : s.NeverRetried calls taskId) :
    statusOf (s.after calls).machine taskId = some status := by
  -- induction on the history: its first call keeps the end, and the rest is careful again
  induction calls generalizing s with
  | nil => exact hs
  | cons c calls ih =>
    have hretry : ¬ c.RetriesFailed s taskId := by
      cases c with
      | retry id reason now delta =>
        rintro ⟨rfl, hfailed⟩
        exact hnever [] reason now delta calls rfl hfailed
      | _ => exact id
    have hstep := c.keepsEnds h.1 taskId status hretry hs ht
    apply ih h.2 hstep
    rintro before reason now delta after rfl
    exact hnever (c :: before) reason now delta after rfl

/-- **Ends are final** in every careful history, from any queue and under any
outcome of the writes. -/
theorem careful_histories_end_once (s : Scene options) (calls : List QueueCall)
    (h : CarefulHistory s calls) : EndsAreFinal s calls where
  final := by
    rintro before between rest rfl taskId status hs ht hnever
    rw [List.append_assoc] at h
    rw [after_append]
    exact h.drop.keepsEnd hs ht hnever
  late := by
    rintro before flight now outcome rest rfl hlate taskId
    rw [after_append]
    exact QueueCall.ignored h.drop.1 hlate taskId

/-! ## A cancelled task that completes -/

/-- A hash for concrete queues. -/
def sampleSha256 : Sha256 := ⟨fun _ => List.replicate 64 48, fun _ => by decide⟩

def sampleOptions : SupervisorQueueOptions := { sha256 := sampleSha256 }

def sampleHandoff : GovernedHandoff where
  handoffId := js "handoff-1"
  vendor := .codexCli
  prompt := js "run"
  parentSessionHash := js "session"
  parentTurnHash := js "1"
  task := js "task"
  agent := js "worker"
  packetHash := js "hash"
  requiredChecks := [js "tests"]

def sampleScene : Scene sampleOptions where
  machine := ⟨.initial sampleOptions, [], .fresh [] List.nodup_nil⟩
  flights := []

/-- The task enters, is claimed and dispatched. -/
def sampleDispatched : List QueueCall :=
  [.enqueue { taskId := js "t", handoff := sampleHandoff, now := some 0 }, .claim (some 1),
    .dispatchClaimed (js "t")]

def sampleWorker : WorkerResult where
  workerRunId := js "worker-1"
  exitCode := 0
  rawOutput := js "done"
  errorReason := none
  lockStatus := .acquiredSupervisorSpawn

/-- It is cancelled, and then its worker succeeds. -/
def sampleCancelled : List QueueCall :=
  sampleDispatched ++ [.cancel (js "t") (js "stop") (some 2)] ++
    [.dispatchEnded ⟨js "t", 1⟩ (some 3) (.ok (.accepted sampleWorker))]

theorem careful_histories_end_once_sample :
    EndsAreFinal sampleScene
      (sampleDispatched ++
        [.dispatchEnded ⟨js "t", 1⟩ (some 3) (.ok (.accepted sampleWorker))]) :=
  careful_histories_end_once _ _
    ⟨trivial, trivial, trivial, .inl (by decide), trivial⟩

/-- **Not every history keeps its ends.** The answer of a worker whose task was
cancelled meanwhile completes the task. -/
theorem histories_end_once_false :
    ¬ ∀ (options : SupervisorQueueOptions) (s : Scene options) (calls : List QueueCall),
      EndsAreFinal s calls := by
  rintro h
  have hfinal := (h _ sampleScene sampleCancelled).final
    (sampleDispatched ++ [.cancel (js "t") (js "stop") (some 2)])
    [.dispatchEnded ⟨js "t", 1⟩ (some 3) (.ok (.accepted sampleWorker))] [] (by rfl)
    (js "t") .cancelled (by decide) rfl ?_
  · exact absurd hfinal (by decide)
  · rintro before reason now delta rest heq
    -- the history in between is one answer and retries nothing
    have hmem : QueueCall.retry (js "t") reason now delta ∈
        [QueueCall.dispatchEnded ⟨js "t", 1⟩ (some 3) (.ok (.accepted sampleWorker))] := by
      rw [heq]
      exact List.mem_append_right _ (List.mem_cons_self ..)
    rw [List.mem_singleton] at hmem
    cases hmem

end Autopilot
