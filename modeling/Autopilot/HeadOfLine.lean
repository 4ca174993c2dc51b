/-
A call that does nothing leaves nothing to do.

`runSupervisorOnce` returns in many places before it looks for a task. Where it
returns there, something is stored that was not stored before: a run has come to its
end, a result has been taken back, a task has been claimed. So a call that changes
nothing got as far as the queue, and found nothing it could take.

Two returns are exceptions. A task whose project is not configured stays in front of
the queue. And a run that waits to be cancelled ends every call, for as long as its
task is running.
-/
import Autopilot.DispatchExceptions
import Autopilot.SupervisorHistories

set_option autoImplicit false

namespace Autopilot

open Prog Keyed RunStore

variable {options : OrchestratorOptions}
variable {h h' : Machine (World options)} {run run' : RunRecord}

/-! ## What the last write of a call leaves -/

/-- The run is stored with a record `P` holds of. -/
def Holds (h : Machine (World options)) (runId : JsString) (P : RunRecord → Prop) : Prop :=
  ∃ run, Knows h run ∧ run.runId = runId ∧ P run

theorem Holds.of_runs {runId : JsString} {P : RunRecord → Prop} (hh : Holds h runId P)
    (hruns : h'.store.runs = h.store.runs) : Holds h' runId P := by
  obtain ⟨run, hk, hid, hP⟩ := hh
  exact ⟨run, hk.of_runs hruns, hid, hP⟩

theorem rewritten_returned {p : Proc RunStore RunRecord} {a record' : RunRecord}
    (hr : Rewritten (runsOf h) record' (p (runsOf h))) (hrun : inRuns p h = (.ok a, h')) :
    h'.store.runs.runs = h.store.runs.runs.map (put RunRecord.runId record') := by
  obtain ⟨store, hstore, ⟨ws, -, hp⟩ | ⟨fault, ws, -, -, hp⟩⟩ := hr
  · have hresult := hrun.symm.trans (zoom_run hp)
    exact (congrArg (fun r => r.2.store.runs.runs) hresult).trans hstore
  · cases congrArg Prod.fst (hrun.symm.trans (zoom_run hp))

theorem rewritten_holds {p : Proc RunStore RunRecord} {a record record' : RunRecord}
    {runId : JsString} {P : RunRecord → Prop}
    (hl : lookup RunRecord.runId h.store.runs.runs runId = some record)
    (hid : record'.runId = record.runId) (hP : P record')
    (hr : Rewritten (runsOf h) record' (p (runsOf h))) (hrun : inRuns p h = (.ok a, h')) :
    Holds h' runId P := by
  have hname : record'.runId = runId := hid.trans (lookup_mem hl).2
  refine ⟨record', ?_, hname, hP⟩
  unfold Knows
  rw [rewritten_returned hr hrun]
  exact lookup_put_self (hname ▸ hl)

/-- A record that is rewritten in any case. -/
theorem updated_holds {runId : JsString} {refused : RunRecord → Bool} {error : String}
    {f : RunRecord → RunRecord} {a : RunRecord} (hid : ∀ record, (f record).runId = record.runId)
    {P : RunRecord → Prop} (hP : ∀ record, P (f record))
    (hrun : inRuns (updateRun runId (fun _ => false) refused error f) h = (.ok a, h')) :
    Holds h' runId P := by
  rcases updateRun_cases (h := runsOf h) runId (fun _ => false) refused error hid with
    ⟨e, hr⟩ | ⟨record, -, hfalse, -⟩ | ⟨record, hl, -, -, -, hr⟩
  · cases congrArg Prod.fst (hrun.symm.trans (zoom_run hr))
  · cases hfalse
  · exact rewritten_holds hl (hid record) (hP record) hr hrun

theorem transitioned_holds {runId : JsString} {status : RunStatus} {now : ℕ} {a : RunRecord}
    (hrun : inRuns (transitionRun runId status now) h = (.ok a, h')) :
    Holds h' runId (·.status = status) := by
  unfold transitionRun at hrun
  refine updated_holds ?_ ?_ hrun
  · exact fun _ => rfl
  · exact fun _ => rfl

theorem retried_holds {runId : JsString} {inputTokens outputTokens now : ℕ} {a : RunRecord}
    (hrun : inRuns (clearRunProviderResultForRetry runId inputTokens outputTokens now) h
      = (.ok a, h')) :
    Holds h' runId (·.providerResult = none) := by
  unfold clearRunProviderResultForRetry at hrun
  refine updated_holds ?_ ?_ hrun
  · exact fun _ => rfl
  · exact fun _ => rfl

theorem finalized_holds {runId : JsString} {status : RunStatus} {reason : Option JsString}
    {now : ℕ} {a : RunRecord}
    (hrun : inRuns (finalizeRun runId status reason now) h = (.ok a, h')) :
    Holds h' runId (·.status = status) := by
  rcases finalizeRun_cases (h := runsOf h) runId status reason now with
    ⟨fault, t, hr, -⟩ | ⟨record, hl, hstatus, hr⟩ | ⟨record, t, hl, -, -, ⟨hruns, -, -⟩, hr⟩
  · cases congrArg Prod.fst (hrun.symm.trans (zoom_run hr))
  · have hresult := hrun.symm.trans (zoom_run hr)
    rw [Lens.set_get] at hresult
    obtain rfl := congrArg Prod.snd hresult
    exact ⟨record, knows_of_lookup hl, (lookup_mem hl).2, hstatus⟩
  · have hresult := hrun.symm.trans (zoom_run hr)
    have hstored : h'.store.runs.runs = t.store.runs :=
      congrArg (fun r => r.2.store.runs.runs) hresult
    have hname : (finalizedRun record status reason now).runId = runId := (lookup_mem hl).2
    refine ⟨finalizedRun record status reason now, ?_, hname, rfl⟩
    unfold Knows
    rw [hstored, hruns]
    exact lookup_put_self (hname ▸ hl)

/-- The gateway has no part in the runs. -/
theorem inGateway_frame {α : Type} (p : Proc Gateway α) : OnGateway h (inGateway p h).2 :=
  ⟨rfl, rfl, rfl⟩

theorem acknowledge_frame (hrun : acknowledge run h = (.ok (), h')) :
    OnGateway h h' := by
  unfold acknowledge at hrun
  cases hheld : run.tokenReservation with
  | none =>
    rw [hheld] at hrun
    cases congrArg Prod.fst hrun
  | some reservation =>
    rw [hheld] at hrun
    have hframe := inGateway_frame (h := h) (acknowledgeTerminal reservation.reservationId)
    rwa [show (inGateway (acknowledgeTerminal reservation.reservationId) h).2 = h' from
      congrArg Prod.snd hrun] at hframe

theorem failRun_holds {env : Environment} {reason : Option JsString} {a : RunRecord}
    (hrun : failRun env run reason h = (.ok a, h')) : Holds h' run.runId (·.status = .failed) := by
  obtain ⟨b, h₁, hfinal, hrest⟩ := bind_returned hrun
  obtain ⟨_, h₂, hacknowledged, hpure⟩ := bind_returned hrest
  obtain rfl := congrArg Prod.snd hpure
  exact (finalized_holds hfinal).of_runs (acknowledge_frame hacknowledged).runs

/-- The run has come to its end, or its result was taken back. -/
def Over (record : RunRecord) : Prop := record.status.terminal = true ∨ record.providerResult = none

theorem Holds.over {runId : JsString} {P : RunRecord → Prop} (hh : Holds h runId P)
    (hP : ∀ record, P record → Over record) : Holds h runId Over := by
  obtain ⟨record, hk, hid, hrecord⟩ := hh
  exact ⟨record, hk, hid, hP record hrecord⟩

theorem over_of_status {status : RunStatus} (hend : status.terminal = true) (record : RunRecord)
    (hs : record.status = status) : Over record := by
  left
  rw [hs]
  exact hend

theorem settleRun_over {env : Environment} {taskId : JsString} {cancelled : Bool}
    {task : Option SupervisorTask} {worker : WorkerResult} {a : RunRecord}
    (hrun : settleRun env taskId run cancelled task worker h = (.ok a, h')) :
    Holds h' run.runId Over := by
  unfold settleRun at hrun
  obtain ⟨_, h₁, -, hrun⟩ := bind_returned hrun
  obtain ⟨_, h₂, -, hrun⟩ := bind_returned hrun
  obtain ⟨_, h₃, -, hrun⟩ := bind_returned hrun
  obtain ⟨b, h₄, hlast, hrun⟩ := bind_returned hrun
  obtain ⟨_, h₅, hacknowledged, hpure⟩ := bind_returned hrun
  obtain rfl := congrArg Prod.snd hpure
  refine Holds.of_runs ?_ (acknowledge_frame hacknowledged).runs
  split at hlast
  · exact (transitioned_holds hlast).over (over_of_status (by decide))
  · split at hlast
    · exact (finalized_holds hlast).over (over_of_status (by decide))
    · exact (finalized_holds hlast).over (over_of_status (by decide))

theorem failRun_over {env : Environment} {reason : Option JsString} {a : RunRecord}
    (hrun : failRun env run reason h = (.ok a, h')) : Holds h' run.runId Over :=
  (failRun_holds hrun).over (over_of_status (by decide))

/-- **Where a result is finished**, its run has come to its end, or the result is
taken back for another attempt. -/
theorem finishProviderResult_over {env : Environment} {taskId : JsString}
    {result : DispatchResult} {a : Option RunRecord}
    (hrun : finishProviderResult env taskId run result h = (.ok a, h')) :
    Holds h' run.runId Over := by
  cases result with
  | refused reason =>
    obtain ⟨b, h₁, hinner, hpure⟩ := bind_returned hrun
    obtain rfl := congrArg Prod.snd hpure
    unfold finishRefusal at hinner
    obtain ⟨_, h₂, -, hinner⟩ := bind_returned hinner
    obtain ⟨_, h₃, -, hinner⟩ := bind_returned hinner
    exact failRun_over hinner
  | accepted worker =>
    have hworker : finishWorker env taskId run worker h = (.ok a, h') := hrun
    unfold finishWorker at hworker
    obtain ⟨latest, h₁, -, hrun⟩ := bind_returned hworker
    obtain ⟨world, h₂, -, hrun⟩ := bind_returned hrun
    obtain ⟨retryQueued, h₃, -, hrun⟩ := bind_returned hrun
    split at hrun
    · obtain ⟨b, h₄, hinner, hpure⟩ := bind_returned hrun
      obtain rfl := congrArg Prod.snd hpure
      unfold finishOverBudget at hinner
      obtain ⟨_, h₅, -, hinner⟩ := bind_returned hinner
      obtain ⟨_, h₆, -, hinner⟩ := bind_returned hinner
      exact failRun_over hinner
    · split at hrun
      · obtain ⟨b, h₄, hinner, hpure⟩ := bind_returned hrun
        obtain rfl := congrArg Prod.snd hpure
        exact (retried_holds hinner).over fun _ hnone => .inr hnone
      · obtain ⟨b, h₄, hinner, hpure⟩ := bind_returned hrun
        obtain rfl := congrArg Prod.snd hpure
        exact settleRun_over hinner

theorem finishDispatchFailure_holds {env : Environment} {a : RunRecord}
    (hrun : finishDispatchFailure env run h = (.ok a, h')) :
    Holds h' run.runId (·.status = .failed) := by
  unfold finishDispatchFailure at hrun
  obtain ⟨released, h₁, -, hrun⟩ := bind_returned hrun
  exact failRun_holds hrun

/-! ## A cancellation that is due -/

/-- The run of a flagged record is cancelled, or its cancellation waits. -/
theorem cancelRun_holds {env : Environment} (hk : Knows h run)
    (hflag : run.cancellationRequested = true) (hwaits : h.store.cancellationWaits run = false)
    {a : RunRecord} (hrun : cancelRun env run.runId h = (.ok a, h')) :
    Holds h' run.runId (·.status = .cancelled) := by
  have hrecord : record run.runId h = (.ok run, h) := by
    have hfind := find_run (h := runsOf h) run.runId
    rw [show lookup RunRecord.runId (runsOf h).store.runs run.runId = some run from hk] at hfind
    have hzoom := zoom_run (l := Host.lens (World.runsLens options)) hfind
    rwa [Lens.set_get] at hzoom
  unfold cancelRun at hrun
  rw [bind_run_ok hrecord] at hrun
  by_cases hcancelled : run.status = .cancelled
  · rw [if_pos hcancelled] at hrun
    obtain rfl := congrArg Prod.snd hrun
    exact ⟨run, hk, rfl, hcancelled⟩
  · rw [if_neg hcancelled] at hrun
    -- the flag is set already
    have hrequested : inRuns (requestRunCancellation run.runId env.now) h = (.ok run, h) := by
      unfold requestRunCancellation
      exact updateRun_kept _ _ _ _ hk hflag
    rw [bind_run_ok hrequested, bind_run, Host.read_run] at hrun
    dsimp only at hrun
    rw [if_neg (by rw [hwaits]; decide)] at hrun
    unfold cancelIdleRun at hrun
    obtain ⟨orphanError, h₁, -, hrun⟩ := bind_returned hrun
    obtain ⟨bindingError, h₂, -, hrun⟩ := bind_returned hrun
    cases herror : orphanError.or bindingError with
    | some error =>
      rw [herror] at hrun
      cases congrArg Prod.fst hrun
    | none =>
      rw [herror] at hrun
      exact transitioned_holds hrun

/-! ## Attempts -/

/-- What became of the tasks of the supervisor. -/
def TasksMoved (h h' : Machine (World options)) : Prop :=
  Progresses (supervisorOf h) (supervisorOf h')

theorem TasksMoved.refl (h : Machine (World options)) : TasksMoved h h := Progresses.refl _

theorem TasksMoved.trans (h₁ h₂ h₃ : Machine (World options)) (h12 : TasksMoved h₁ h₂)
    (h23 : TasksMoved h₂ h₃) : TasksMoved h₁ h₃ := Progresses.trans _ _ _ h12 h23

section moves

variable {α β : Type}

theorem tasksMoved_bind {p : Proc (World options) α} {f : α → Proc (World options) β}
    (hp : Moves TasksMoved p) (hf : ∀ a, Moves TasksMoved (f a)) : Moves TasksMoved (p >>= f) :=
  Moves.bind TasksMoved.trans hp hf

theorem tasksMoved_pure (a : α) : Moves TasksMoved (pure a : Proc (World options) α) :=
  Moves.of_pure TasksMoved.refl a

theorem tasksMoved_throw (e : JsError) : Moves TasksMoved (throw e : Proc (World options) α) :=
  Moves.of_throw TasksMoved.refl e

theorem tasksMoved_read : Moves TasksMoved (Host.read : Proc (World options) (World options)) :=
  TasksMoved.refl

theorem tasksMoved_inRuns (p : Proc RunStore α) :
    Moves TasksMoved (inRuns p : Proc (World options) α) :=
  fun _ => Progresses.of_store rfl

theorem tasksMoved_inGateway (p : Proc Gateway α) :
    Moves TasksMoved (inGateway p : Proc (World options) α) :=
  fun _ => Progresses.of_store rfl

theorem tasksMoved_inSupervisor {p : Proc (SupervisorQueue options.queue) α}
    (hp : Moves Progresses p) : Moves TasksMoved (inSupervisor p : Proc (World options) α) :=
  fun h => hp (supervisorOf h)

end moves

theorem tasksMoved_releaseReservation (env : Environment) (run : RunRecord) :
    Moves TasksMoved (releaseReservation env run : Proc (World options) RunRecord) := by
  unfold releaseReservation
  split
  · cases run.tokenReservation with
    | none => exact tasksMoved_throw _
    | some reservation =>
      exact tasksMoved_bind (tasksMoved_inGateway _) fun _ => tasksMoved_inRuns _
  · exact tasksMoved_pure _

theorem tasksMoved_acknowledge (run : RunRecord) :
    Moves TasksMoved (acknowledge run : Proc (World options) Unit) := by
  unfold acknowledge
  cases run.tokenReservation with
  | none => exact tasksMoved_throw _
  | some reservation => exact tasksMoved_inGateway _

theorem tasksMoved_failRun (env : Environment) (run : RunRecord) (reason : Option JsString) :
    Moves TasksMoved (failRun env run reason : Proc (World options) RunRecord) := by
  unfold failRun
  apply tasksMoved_bind (tasksMoved_inRuns _)
  intro finalized
  apply tasksMoved_bind (tasksMoved_acknowledge _)
  intro _
  exact tasksMoved_pure _

theorem tasksMoved_cancelOpenTask (env : Environment) (taskId reason : JsString) :
    Moves TasksMoved (cancelOpenTask env taskId reason : Proc (World options) Unit) := by
  unfold cancelOpenTask
  apply tasksMoved_bind tasksMoved_read
  intro world
  split
  · apply tasksMoved_bind (tasksMoved_inSupervisor (cancel_progresses _ _ _))
    intro _
    exact tasksMoved_pure _
  · exact tasksMoved_pure _

theorem tasksMoved_endAttempt (env : Environment) (taskId : JsString) (cancelled : Bool)
    (worker : WorkerResult) :
    Moves TasksMoved (endAttempt env taskId cancelled worker : Proc (World options) Bool) := by
  unfold endAttempt
  split
  · apply tasksMoved_bind (tasksMoved_inSupervisor (cancel_progresses _ _ _))
    intro _
    exact tasksMoved_pure _
  · split
    · apply tasksMoved_bind (tasksMoved_inSupervisor (fail_progresses _ _ _ _))
      intro _
      exact tasksMoved_pure _
    · exact tasksMoved_pure _

theorem tasksMoved_finishOverBudget (env : Environment) (taskId : JsString) (run : RunRecord)
    (cancels : Bool) :
    Moves TasksMoved (finishOverBudget env taskId run cancels :
      Proc (World options) RunRecord) := by
  unfold finishOverBudget
  have hcancelled : Moves TasksMoved ((if cancels then
      cancelOpenTask env taskId (js "token_settlement_exceeds_reservation") else pure ()) :
      Proc (World options) Unit) := by
    split
    · exact tasksMoved_cancelOpenTask env taskId _
    · exact tasksMoved_pure _
  apply tasksMoved_bind hcancelled
  intro _
  apply tasksMoved_bind (tasksMoved_releaseReservation env run)
  intro _
  exact tasksMoved_failRun env run _

theorem tasksMoved_settleReservation (env : Environment) (run : RunRecord) (worker : WorkerResult) :
    Moves TasksMoved (settleReservation env run worker : Proc (World options) RunRecord) := by
  unfold settleReservation
  split
  · cases run.tokenReservation with
    | none => exact tasksMoved_throw _
    | some reservation =>
      exact tasksMoved_bind (tasksMoved_inGateway _) fun _ => tasksMoved_inRuns _
  · exact tasksMoved_pure _

theorem tasksMoved_keepArtifact (env : Environment) (run : RunRecord) (worker : WorkerResult) :
    Moves TasksMoved (keepArtifact env run worker : Proc (World options) Unit) := by
  unfold keepArtifact
  apply tasksMoved_bind (tasksMoved_inRuns _)
  intro latest
  dsimp only
  split
  · exact tasksMoved_pure _
  · apply tasksMoved_bind (tasksMoved_inRuns _)
    intro _
    exact tasksMoved_pure _

theorem tasksMoved_settleRun (env : Environment) (taskId : JsString) (run : RunRecord)
    (cancelled : Bool) (task : Option SupervisorTask) (worker : WorkerResult) :
    Moves TasksMoved (settleRun env taskId run cancelled task worker :
      Proc (World options) RunRecord) := by
  unfold settleRun
  have hcompleted : Moves TasksMoved
      ((if !cancelled && !worker.failed && task.all (·.status = .running) then do
          let _ ← inSupervisor (SupervisorQueue.complete taskId (some env.now))
        else pure ()) : Proc (World options) Unit) := by
    split
    · apply tasksMoved_bind (tasksMoved_inSupervisor (complete_progresses _ _))
      intro _
      exact tasksMoved_pure _
    · exact tasksMoved_pure _
  have hended : Moves TasksMoved
      ((if cancelled then inRuns (RunStore.transitionRun run.runId .cancelled env.now)
        else if worker.failed then
          inRuns (RunStore.finalizeRun run.runId .failed (some worker.failureReason) env.now)
        else inRuns (RunStore.finalizeRun run.runId .completed none env.now)) :
          Proc (World options) RunRecord) := by
    split
    · exact tasksMoved_inRuns _
    · split
      · exact tasksMoved_inRuns _
      · exact tasksMoved_inRuns _
  apply tasksMoved_bind hcompleted
  intro _
  apply tasksMoved_bind (tasksMoved_settleReservation env run worker)
  intro _
  apply tasksMoved_bind (tasksMoved_keepArtifact env run worker)
  intro _
  apply tasksMoved_bind hended
  intro finalized
  apply tasksMoved_bind (tasksMoved_acknowledge run)
  intro _
  exact tasksMoved_pure _

/-- **No attempt is taken back** where a result is finished. -/
theorem tasksMoved_finishProviderResult (env : Environment) (taskId : JsString) (run : RunRecord)
    (result : DispatchResult) :
    Moves TasksMoved (finishProviderResult env taskId run result :
      Proc (World options) (Option RunRecord)) := by
  unfold finishProviderResult
  cases result with
  | refused reason =>
    have hrefused : Moves TasksMoved (finishRefusal env taskId run reason :
        Proc (World options) RunRecord) := by
      unfold finishRefusal
      apply tasksMoved_bind (tasksMoved_releaseReservation env run)
      intro _
      apply tasksMoved_bind (tasksMoved_cancelOpenTask env taskId _)
      intro _
      exact tasksMoved_failRun env run _
    exact tasksMoved_bind hrefused fun _ => tasksMoved_pure _
  | accepted worker =>
    dsimp only
    unfold finishWorker
    apply tasksMoved_bind (tasksMoved_inRuns _)
    intro latest
    apply tasksMoved_bind tasksMoved_read
    intro world
    apply tasksMoved_bind (tasksMoved_endAttempt env taskId _ worker)
    intro retryQueued
    split
    · exact tasksMoved_bind (tasksMoved_finishOverBudget env taskId run _) fun _ =>
        tasksMoved_pure _
    · split
      · exact tasksMoved_bind (tasksMoved_inRuns _) fun _ => tasksMoved_pure _
      · exact tasksMoved_bind (tasksMoved_settleRun env taskId run _ _ worker) fun _ =>
          tasksMoved_pure _

/-! ## The queue after a look at it -/

section queue

variable {q q' : Machine (SupervisorQueue options.queue)} {now : ℕ}

/-- After a reconciliation nothing is expired. -/
theorem reconciled_unexpired (state : SupervisorState options.queue) (now : ℕ)
    {task : SupervisorTask} (hmem : task ∈ (state.reconciled now).tasks) :
    SupervisorQueue.expired now task = false := by
  obtain ⟨old, -, rfl⟩ := List.mem_map.1 hmem
  unfold SupervisorQueue.reconciledTask
  by_cases hexpired : SupervisorQueue.expired now old = true
  · rw [if_pos hexpired]
    split
    · simp [SupervisorQueue.expired]
    · simp [SupervisorQueue.expired, SupervisorQueue.requeue]
  · rw [if_neg hexpired]
    exact Bool.eq_false_iff.2 hexpired

theorem reconciled_reconciled (state : SupervisorState options.queue) (now : ℕ) :
    (state.reconciled now).reconciled now = state.reconciled now := by
  apply reconciled_eq_self
  rw [List.any_eq_false]
  intro task hmem
  rw [reconciled_unexpired state now hmem]
  decide

/-- A reconciliation keeps the name of a task, and counts no attempt. -/
theorem reconciledTask_kept (queue : SupervisorQueueOptions) (now : ℕ) (task : SupervisorTask) :
    (SupervisorQueue.reconciledTask queue now task).taskId = task.taskId ∧
      (SupervisorQueue.reconciledTask queue now task).attempt = task.attempt := by
  unfold SupervisorQueue.reconciledTask
  split
  · split
    · exact ⟨rfl, rfl⟩
    · exact ⟨rfl, rfl⟩
  · exact ⟨rfl, rfl⟩

/-- A claimed task had one attempt less before. -/
theorem claim_claims {task : SupervisorTask}
    (hrun : SupervisorQueue.claim (some now) q = (.ok (some task), q')) :
    task ∈ q'.store.state.tasks ∧
      ∃ old ∈ q.store.state.tasks, task.taskId = old.taskId ∧ old.attempt < task.attempt := by
  refine ⟨(lookup_mem (claim_running hrun).1).1, ?_⟩
  rcases claim_cases (h := q) now with ⟨fault, ws, -, -, hr⟩ | ⟨q₁, hrec, ⟨-, hr⟩ |
    ⟨found, state, hfind, -, hp⟩⟩
  · cases congrArg Prod.fst (hrun.symm.trans hr)
  · cases congrArg Prod.fst (hrun.symm.trans hr)
  · rcases hp with ⟨ws, -, hr⟩ | ⟨fault, ws, -, -, hr⟩
    · obtain rfl := Option.some.inj (Except.ok.inj (congrArg Prod.fst (hrun.symm.trans hr)))
      have hmem := List.mem_of_find?_eq_some hfind
      rw [hrec.1] at hmem
      obtain ⟨old, hold, hfound⟩ := List.mem_map.1 hmem
      have hsame := reconciledTask_kept options.queue now old
      rw [hfound] at hsame
      refine ⟨old, hold, hsame.1, ?_⟩
      show old.attempt < found.attempt + 1
      omega
    · cases congrArg Prod.fst (hrun.symm.trans hr)

/-- A claim that finds nothing leaves a reconciled queue without a claimable task. -/
theorem claim_nothing (hrun : SupervisorQueue.claim (some now) q = (.ok none, q')) :
    q'.store.state = q.store.state.reconciled now ∧
      q'.store.state.tasks.find? (SupervisorQueue.claimable q'.store.state.tasks now) = none := by
  rcases claim_cases (h := q) now with ⟨fault, ws, -, -, hr⟩ | ⟨q₁, hrec, ⟨hnone, hr⟩ |
    ⟨found, state, hfind, -, hp⟩⟩
  · cases congrArg Prod.fst (hrun.symm.trans hr)
  · obtain rfl := congrArg Prod.snd (hrun.symm.trans hr)
    exact ⟨hrec.1, hnone⟩
  · rcases hp with ⟨ws, -, hr⟩ | ⟨fault, ws, -, -, hr⟩
    · cases congrArg Prod.fst (hrun.symm.trans hr)
    · cases congrArg Prod.fst (hrun.symm.trans hr)

theorem peek_returned {found : Option SupervisorTask}
    (hrun : SupervisorQueue.peekClaimable (some now) q = (.ok found, q')) :
    q'.store.state = q.store.state.reconciled now ∧
      q'.store.state.tasks.find? (SupervisorQueue.claimable q'.store.state.tasks now) = found := by
  rcases peekClaimable_cases (h := q) now with ⟨fault, ws, -, -, hr⟩ | ⟨q₁, hrec, hr⟩
  · cases congrArg Prod.fst (hrun.symm.trans hr)
  · have hresult := hrun.symm.trans hr
    obtain rfl := congrArg Prod.snd hresult
    exact ⟨hrec.1, (Except.ok.inj (congrArg Prod.fst hresult)).symm⟩

end queue

/-- A method of the supervisor that returned. -/
theorem inSupervisor_returned {α : Type} {p : Proc (SupervisorQueue options.queue) α} {a : α}
    (hrun : inSupervisor p h = (.ok a, h')) :
    p (supervisorOf h) = (.ok a, supervisorOf h') ∧ OnSupervisor h h' := by
  have hresult : (p (supervisorOf h)).1 = .ok a := congrArg Prod.fst hrun
  have hstate : (Host.lens (World.supervisorLens options)).set h (p (supervisorOf h)).2 = h' :=
    congrArg Prod.snd hrun
  rw [← hstate]
  refine ⟨Prod.ext hresult ?_, rfl, rfl, rfl⟩
  exact ((Host.lens (World.supervisorLens options)).get_set h _).symm

/-! ## Taking a task -/

theorem bindingForTask_returned {taskId : JsString}
    (hrun : bindingForTask taskId h = (.ok run, h')) :
    h' = h ∧ Knows h run ∧ run.supervisorTaskId = some taskId := by
  have hwalks : Walks (Step True True) h (bindingForTask taskId)
      (fun run h' => h' = h ∧ Knows h run ∧ run.supervisorTaskId = some taskId ∧
        run.tokenReservation ≠ none)
      (fun _ _ => True) := walks_bindingForTask taskId
  obtain ⟨hsame, hk, hbound, -⟩ := hwalks.returned hrun
  exact ⟨hsame, hk, hbound⟩

theorem throwAny_returned {refusal : Option JsError} {u : Unit}
    (hrun : (throwAny refusal : Proc (World options) Unit) h = (.ok u, h')) : h' = h := by
  unfold throwAny at hrun
  split at hrun
  · cases congrArg Prod.fst hrun
  · exact (congrArg Prod.snd hrun).symm

/-- A dispatch that is begun is one that is waited for. -/
theorem dispatchRun_returned {env : Environment} {task : SupervisorTask} {p : Progress}
    (hrun : dispatchRun env task run h = (.ok p, h')) : ∃ d, p = .dispatching d := by
  unfold dispatchRun at hrun
  obtain ⟨_, h₁, -, hrun⟩ := bind_returned hrun
  obtain ⟨a, h₂, -, hrun⟩ := bind_returned hrun
  cases hrefusal : dispatchPromptRefusal options.queue.sha256 a task.handoff with
  | some error =>
    rw [hrefusal] at hrun
    exfalso
    have hviolated : commitmentViolated env task.taskId a error h₂ = (.ok p, h') := hrun
    unfold commitmentViolated at hviolated
    obtain ⟨_, h₃, -, hviolated⟩ := bind_returned hviolated
    obtain ⟨_, h₄, -, hviolated⟩ := bind_returned hviolated
    obtain ⟨_, h₅, -, hviolated⟩ := bind_returned hviolated
    obtain ⟨_, h₆, -, hviolated⟩ := bind_returned hviolated
    cases congrArg Prod.fst hviolated
  | none =>
    rw [hrefusal] at hrun
    cases hcwd : env.resolveEnabledProject a.current.projectId with
    | error error =>
      exfalso
      have hthrew : dispatchThrew env task.taskId a.runId error h₂ = (.ok p, h') := by
        dsimp only at hrun
        rwa [hcwd] at hrun
      unfold dispatchThrew at hthrew
      obtain ⟨_, h₃, -, hthrew⟩ := bind_returned hthrew
      obtain ⟨failed, h₄, -, hthrew⟩ := bind_returned hthrew
      split at hthrew
      · obtain ⟨_, h₅, -, hthrew⟩ := bind_returned hthrew
        cases congrArg Prod.fst hthrew
      · obtain ⟨_, h₅, -, hthrew⟩ := bind_returned hthrew
        cases congrArg Prod.fst hthrew
    | ok cwd =>
      dsimp only at hrun
      rw [hcwd] at hrun
      exact ⟨_, (Except.ok.inj (congrArg Prod.fst hrun)).symm⟩

/-- A task that is gone on with, and not dispatched, is one whose run had a result. -/
theorem carryTask_finished {env : Environment} {task : SupervisorTask} {a : Option RunRecord}
    (hrun : carryTask env task h = (.ok (.finished a), h')) :
    ∃ run, Knows h run ∧ run.supervisorTaskId = some task.taskId ∧ Holds h' run.runId Over ∧
      TasksMoved h h' := by
  unfold carryTask at hrun
  obtain ⟨run, h₁, hbinding, hrest⟩ := bind_returned hrun
  obtain ⟨rfl, hk, hbound⟩ := bindingForTask_returned hbinding
  cases hresult : run.providerResult with
  | none =>
    rw [hresult] at hrest
    obtain ⟨d, hd⟩ := dispatchRun_returned hrest
    cases hd
  | some result =>
    rw [hresult] at hrest
    obtain ⟨finished, h₂, hfinished, hpure⟩ := bind_returned hrest
    obtain rfl := congrArg Prod.snd hpure
    have hmoved := tasksMoved_finishProviderResult env task.taskId run
      (reconstructedResult result) h₁
    rw [hfinished] at hmoved
    exact ⟨run, hk, hbound, finishProviderResult_over hfinished, hmoved⟩

/-- The task that is next cannot be taken: the project of its run is not configured. -/
def Misconfigured (env : Environment) (world : World options) : Prop :=
  ∃ task run error,
    world.supervisor.state.tasks.find?
        (SupervisorQueue.claimable world.supervisor.state.tasks env.now) = some task ∧
      run ∈ world.runs.runs ∧ run.supervisorTaskId = some task.taskId ∧
      env.resolveEnabledProject run.current.projectId = .error error ∧
      isProjectConfigurationError error = true

/-- The queue was looked at, and nothing was taken. -/
structure LookedAt (env : Environment) (h h' : Machine (World options)) : Prop where
  runs : h'.store.runs = h.store.runs
  reconciled : h'.store.supervisor.state = h.store.supervisor.state.reconciled env.now
  next : h'.store.supervisor.state.tasks.find?
      (SupervisorQueue.claimable h'.store.supervisor.state.tasks env.now) = none ∨
    Misconfigured env h'.store

/-- A task had one attempt more in the end. -/
def Attempted (h h' : Machine (World options)) : Prop :=
  ∃ old ∈ h.store.supervisor.state.tasks, ∃ task ∈ h'.store.supervisor.state.tasks,
    task.taskId = old.taskId ∧ old.attempt < task.attempt

theorem claimTask_finished {env : Environment} {a : Option RunRecord}
    (hrun : claimTask env h = (.ok (.finished a), h')) : Attempted h h' ∨ LookedAt env h h' := by
  unfold claimTask at hrun
  obtain ⟨found, h₁, hpeek, hrest⟩ := bind_returned hrun
  obtain ⟨hpeeked, hon⟩ := inSupervisor_returned hpeek
  obtain ⟨hreconciled, hfind⟩ := peek_returned hpeeked
  cases found with
  | none =>
    obtain rfl := congrArg Prod.snd hrest
    exact .inr ⟨hon.runs, hreconciled, .inl hfind⟩
  | some claimable =>
    dsimp only at hrest
    obtain ⟨run, h₂, hbinding, hrouted⟩ := bind_returned hrest
    obtain ⟨hsame₂, hk, hbound⟩ := bindingForTask_returned hbinding
    obtain ⟨_, h₃, hroute, hprojected⟩ := bind_returned hrouted
    have hsame₃ := (throwAny_returned hroute).trans hsame₂
    rw [hsame₃] at hprojected
    cases hproject : env.resolveEnabledProject run.current.projectId with
    | error error =>
      rw [hproject] at hprojected
      dsimp only at hprojected
      by_cases hconfiguration : isProjectConfigurationError error = true
      · rw [if_pos hconfiguration] at hprojected
        have hmem : run ∈ h₁.store.runs.runs := by
          have hruns : h₂.store.runs = h₁.store.runs := congrArg (·.store.runs) hsame₂
          exact hruns ▸ hk.mem
        obtain rfl := congrArg Prod.snd hprojected
        refine .inr ⟨hon.runs, hreconciled, .inr ⟨claimable, run, error, hfind, ?_⟩⟩
        exact ⟨hmem, hbound, hproject, hconfiguration⟩
      · rw [if_neg hconfiguration] at hprojected
        cases congrArg Prod.fst hprojected
    | ok cwd =>
      rw [hproject] at hprojected
      dsimp only at hprojected
      obtain ⟨claimed, h₄, hclaim, hcarried⟩ := bind_returned hprojected
      obtain ⟨hclaimed, hon₄⟩ := inSupervisor_returned hclaim
      cases claimed with
      | none =>
        obtain rfl := congrArg Prod.snd hcarried
        obtain ⟨hagain, hnone⟩ := claim_nothing hclaimed
        rw [hreconciled, reconciled_reconciled] at hagain
        exact .inr ⟨hon₄.runs.trans hon.runs, hagain, .inl hnone⟩
      | some task =>
        -- the claim counts, and no attempt is taken back after it
        left
        obtain ⟨htask, old, hold, hname, hfewer⟩ := claim_claims hclaimed
        rw [hreconciled] at hold
        obtain ⟨first, hfirst, hreconciledTask⟩ := List.mem_map.1 hold
        obtain ⟨run, -, -, -, hmoved⟩ := carryTask_finished hcarried
        obtain ⟨last, hlast, hfollows⟩ := hmoved.followed task htask
        have hkept := reconciledTask_kept options.queue env.now first
        refine ⟨first, hfirst, last, hlast, ?_, ?_⟩
        · rw [hfollows.taskId, hname, ← hreconciledTask, hkept.1]
        · have hmore := hfollows.attempt
          rw [← hreconciledTask, hkept.2] at hfewer
          omega

/-- Some run that was not over came to its end, or its result was taken back. -/
def RunMoved (h h' : Machine (World options)) : Prop :=
  ∃ run ∈ h.store.runs.runs, ¬ Over run ∧ Holds h' run.runId Over

theorem not_over (hresult : run.providerResult ≠ none) (hopen : run.status.terminal = false) :
    ¬ Over run := by
  rintro (hend | hnone)
  · rw [hopen] at hend
    cases hend
  · exact hresult hnone

/-- **Taking a task**: where no dispatch is begun, a run moved, a task had another
attempt, or there was nothing to take. -/
theorem takeTask_finished (ho : Ordered h) {env : Environment} {a : Option RunRecord}
    (hrun : takeTask env h = (.ok (.finished a), h')) :
    RunMoved h h' ∨ Attempted h h' ∨ LookedAt env h h' := by
  unfold takeTask at hrun
  rw [bind_run, Host.read_run] at hrun
  dsimp only at hrun
  cases hpending : h.store.taskForPendingResult with
  | none =>
    rw [hpending] at hrun
    exact .inr (claimTask_finished hrun)
  | some task =>
    rw [hpending] at hrun
    left
    obtain ⟨pending, hfind, hbound⟩ := Option.bind_eq_some_iff.1 hpending
    obtain ⟨taskId, htaskId, hfound⟩ := Option.bind_eq_some_iff.1 hbound
    have hname : task.taskId = taskId := (lookup_mem hfound).2
    have hmem : pending ∈ h.store.runs.runs := List.mem_of_find?_eq_some hfind
    have hp := List.find?_some hfind
    rw [Bool.and_eq_true] at hp
    have hopen : pending.status.terminal = false := by simpa using hp.2
    obtain ⟨run, hk, hboundTo, hover, -⟩ := carryTask_finished hrun
    -- the task belongs to one run only
    have hid := ho.single pending hmem run hk.mem taskId (.inl htaskId) (.inl (hname ▸ hboundTo))
    have hsame : run = pending := (knows_of_mem hmem).unique hk hid
    refine ⟨pending, hmem, not_over (Option.isSome_iff_ne_none.1 hp.1) hopen, ?_⟩
    exact hsame ▸ hover

/-- A queue holds one task of a name, with its one number of attempts. -/
theorem not_attempted {state : SupervisorState options.queue} {task old : SupervisorTask}
    (htask : task ∈ state.tasks) (hold : old ∈ state.tasks) (hname : task.taskId = old.taskId) :
    ¬ old.attempt < task.attempt := by
  have hfound := state.lookup_of_mem htask
  rw [hname, state.lookup_of_mem hold] at hfound
  obtain rfl := Option.some.inj hfound
  exact lt_irrefl _

/-- The runs and the queue are as they were. -/
structure Unmoved (h h' : Machine (World options)) : Prop where
  runs : h'.store.runs = h.store.runs
  queue : h'.store.supervisor = h.store.supervisor

/-- No run moves, and no attempt is made, where nothing is stored. -/
theorem takeTask_idle (ho : Ordered h) {env : Environment} {a : Option RunRecord}
    (hrun : takeTask env h = (.ok (.finished a), h')) (hsame : Unmoved h h') :
    LookedAt env h h' := by
  rcases takeTask_finished ho hrun with hmoved | hattempted | hlooked
  · obtain ⟨run, hmem, hnot, known, hk, hid, hover⟩ := hmoved
    have hk' : Knows h known := hk.of_runs hsame.runs.symm
    exact absurd ((knows_of_mem hmem).unique hk' hid ▸ hover) hnot
  · obtain ⟨old, hold, task, htask, hname, hfewer⟩ := hattempted
    rw [hsame.queue] at htask
    exact absurd hfewer (not_attempted htask hold hname)
  · exact hlooked

/-- The record of a run whose dispatch threw, without the note of it. -/
def cleared (run : RunRecord) (now : ℕ) : RunRecord :=
  { run with dispatchFailure := none, updatedAt := now }

theorem clearRunDispatchFailure_returned {now : ℕ} {a : RunRecord} (hk : Knows h run)
    (hfailure : run.dispatchFailure ≠ none)
    (hrun : inRuns (clearRunDispatchFailure run.runId now) h = (.ok a, h')) :
    h'.store.runs.runs = h.store.runs.runs.map (put RunRecord.runId (cleared run now)) := by
  unfold clearRunDispatchFailure at hrun
  rcases updateRun_cases (h := runsOf h) run.runId (·.dispatchFailure = none) (fun _ => false)
    "invalid_run_dispatch_failure" (f := (cleared · now)) (fun _ => rfl) with
    ⟨e, hr⟩ | ⟨record, hl, hnone, -⟩ | ⟨record, hl, -, -, -, hr⟩
  · cases congrArg Prod.fst (hrun.symm.trans (zoom_run hr))
  · obtain rfl := Option.some.inj (hl.symm.trans hk)
    exact absurd (of_decide_eq_true hnone) hfailure
  · obtain rfl := Option.some.inj (hl.symm.trans hk)
    exact rewritten_returned hr hrun

/-- Once the note of a dispatch that threw is cleared, nothing brings it back. -/
theorem takeTask_cleared {h₁ : Machine (World options)} {now : ℕ} (hk : Knows h run)
    (hfailure : run.dispatchFailure ≠ none)
    (hruns : h₁.store.runs.runs = h.store.runs.runs.map (put RunRecord.runId (cleared run now)))
    (hqueue : h₁.store.supervisor = h.store.supervisor) (ho : Ordered h₁) {env : Environment}
    {a : Option RunRecord} (hrun : takeTask env h₁ = (.ok (.finished a), h')) :
    ¬ Unmoved h h' := by
  intro hsame
  have hstill : ∀ known, Knows h' known → Knows h known :=
    fun known hknown => hknown.of_runs hsame.runs.symm
  rcases takeTask_finished ho hrun with hmoved | hattempted | hlooked
  · obtain ⟨moved, hmem, hnot, known, hknown, hid, hover⟩ := hmoved
    rw [hruns] at hmem
    rcases mem_put hmem with hcleared | ⟨hold, -⟩
    · rw [hcleared] at hid hnot
      exact hnot (hk.unique (hstill known hknown) hid ▸ hover)
    · exact hnot ((knows_of_mem hold).unique (hstill known hknown) hid ▸ hover)
  · obtain ⟨old, hold, task, htask, hname, hfewer⟩ := hattempted
    rw [hqueue] at hold
    rw [hsame.queue] at htask
    exact not_attempted htask hold hname hfewer
  · have hput : Knows h₁ (cleared run now) := by
      unfold Knows
      rw [hruns]
      exact lookup_put_self hk
    have hone : cleared run now = run :=
      hk.unique (hstill _ (hput.of_runs hlooked.runs)) rfl
    exact hfailure (hone ▸ rfl)

theorem replayFailure_idle (ho : Ordered h) {env : Environment}
    {a : Option RunRecord} (hrun : replayFailure env h = (.ok (.finished a), h'))
    (hsame : Unmoved h h') : LookedAt env h h' := by
  unfold replayFailure at hrun
  rw [bind_run, Host.read_run] at hrun
  dsimp only at hrun
  cases hpending : pendingFailure h.store.runs.runs with
  | none =>
    rw [hpending] at hrun
    exact takeTask_idle ho hrun hsame
  | some run =>
    rw [hpending] at hrun
    dsimp only at hrun
    have hmem : run ∈ h.store.runs.runs := List.mem_of_find?_eq_some hpending
    have hp := List.find?_some hpending
    rw [Bool.and_eq_true] at hp
    have hopen : run.status.terminal = false := by simpa using hp.2
    have hfailure : run.dispatchFailure ≠ none := Option.isSome_iff_ne_none.1 hp.1
    have hk : Knows h run := knows_of_mem hmem
    cases hstatus : (h.store.boundTask run).map SupervisorTask.status with
    | none =>
      rw [hstatus] at hrun
      exact takeTask_idle ho hrun hsame
    | some status =>
      rw [hstatus] at hrun
      cases status with
      | failed =>
        -- the run fails, and it had not failed before
        exfalso
        obtain ⟨b, h₁, hfinished, hpure⟩ := bind_returned hrun
        obtain rfl := congrArg Prod.snd hpure
        obtain ⟨known, hknown, hid, hfailed⟩ := finishDispatchFailure_holds hfinished
        have hknown' : Knows h known := hknown.of_runs hsame.runs.symm
        have hone : known = run := hk.unique hknown' hid
        rw [hone] at hfailed
        rw [hfailed] at hopen
        cases hopen
      | queued =>
        exfalso
        obtain ⟨b, h₁, hcleared, htaken⟩ := bind_returned hrun
        have hwalks : Walks (Step True True) h
            (inRuns (clearRunDispatchFailure run.runId env.now)) (fun _ _ => True)
            (fun _ _ => True) :=
          (walks_noted hk (by intro run; rfl)).mono (fun _ _ _ => trivial) (fun _ _ _ => trivial)
        have hpath := hwalks.path
        rw [hcleared] at hpath
        have hqueue : h₁.store.supervisor = h.store.supervisor :=
          (congrArg (fun r : Except (Fault JsError) RunRecord × Machine (World options) =>
            r.2.store.supervisor) hcleared).symm
        exact takeTask_cleared hk hfailure (clearRunDispatchFailure_returned hk hfailure hcleared)
          hqueue (ordered_of_path hpath ho) htaken hsame
      | running => exact takeTask_idle ho hrun hsame
      | blocked => exact takeTask_idle ho hrun hsame
      | completed => exact takeTask_idle ho hrun hsame
      | cancelled => exact takeTask_idle ho hrun hsame

/-! ## A whole call -/

theorem acknowledgeAll_frame {ids : List JsString} {u : Unit}
    (hrun : acknowledgeAll ids h = (.ok u, h')) : OnGateway h h' := by
  induction ids generalizing h with
  | nil =>
    obtain rfl := congrArg Prod.snd hrun
    exact ⟨rfl, rfl, rfl⟩
  | cons id ids ih =>
    obtain ⟨_, h₁, hfirst, hrest⟩ := bind_returned hrun
    have hframe := inGateway_frame (h := h) (acknowledgeTerminal id)
    rw [show (inGateway (acknowledgeTerminal id) h).2 = h₁ from congrArg Prod.snd hfirst] at hframe
    have hframes := ih hrest
    exact ⟨hframes.runs.trans hframe.runs, hframes.approvals.trans hframe.approvals,
      hframes.supervisor.trans hframe.supervisor⟩

/-- **An idle call leaves nothing to do.** From any state the control plane can reach,
also after a crash, a call that returns without a dispatch and stores nothing found no
expired task and no claimable one, or a claimable one whose project is not configured,
unless the cancellation it came to has to wait for a running task. -/
theorem idle_call_leaves_nothing_runnable (hr : ControlRun (fun _ _ => True) h)
    {env : Environment} {a : Option RunRecord}
    (hrun : runSupervisorOnce env h = (.ok (.finished a), h')) (hsame : h'.store = h.store)
    (hwaits : ∀ run, pendingCancellation h.store.runs.runs = some run →
      h.store.cancellationWaits run = false) :
    (∀ task ∈ h'.store.supervisor.state.tasks, SupervisorQueue.expired env.now task = false) ∧
      ((∀ task ∈ h'.store.supervisor.state.tasks,
          SupervisorQueue.claimable h'.store.supervisor.state.tasks env.now task = false) ∨
        Misconfigured env h'.store) := by
  obtain ⟨ht, ho, -⟩ := hr.ordered_answered
  unfold runSupervisorOnce at hrun
  rw [bind_run, Host.read_run] at hrun
  obtain ⟨_, h₁, hacknowledged, hrest⟩ := bind_returned hrun
  have hframe := acknowledgeAll_frame hacknowledged
  have hwalks : Walks (Step True True) h (acknowledgeAll (endedReservations h.store.runs.runs))
      (fun _ h' => h'.store.runs = h.store.runs) (fun _ _ => True) := walks_acknowledgeAll ht _
  have hpath := hwalks.path
  rw [hacknowledged] at hpath
  rw [bind_run, Host.read_run] at hrest
  dsimp only at hrest
  rw [hframe.runs] at hrest
  have hunmoved : Unmoved h₁ h' := by
    refine ⟨?_, ?_⟩
    · rw [hsame, hframe.runs]
    · rw [hsame, hframe.supervisor]
  cases hpending : pendingCancellation h.store.runs.runs with
  | none =>
    rw [hpending] at hrest
    have hlooked := replayFailure_idle (ordered_of_path hpath ho) hrest hunmoved
    refine ⟨?_, ?_⟩
    · intro task hmem
      rw [hlooked.reconciled] at hmem
      exact reconciled_unexpired _ _ hmem
    · rcases hlooked.next with hnone | hmisconfigured
      · left
        intro task hmem
        simpa using List.find?_eq_none.1 hnone task hmem
      · exact .inr hmisconfigured
  | some run =>
    -- the run would be cancelled now, and it was not before
    exfalso
    rw [hpending] at hrest
    obtain ⟨b, h₂, hcancelled, hpure⟩ := bind_returned hrest
    obtain rfl := congrArg Prod.snd hpure
    have hmem : run ∈ h.store.runs.runs := List.mem_of_find?_eq_some hpending
    have hp := List.find?_some hpending
    rw [Bool.and_eq_true] at hp
    have hk : Knows h₁ run := (knows_of_mem hmem).of_runs hframe.runs
    have hidle : h₁.store.cancellationWaits run = false := by
      have hidle := hwaits run hpending
      unfold World.cancellationWaits World.boundTask World.task at hidle ⊢
      rw [hframe.supervisor]
      exact hidle
    obtain ⟨known, hknown, hid, hstatus⟩ := cancelRun_holds hk hp.1 hidle hcancelled
    have hone : known = run := hk.unique (hknown.of_runs hunmoved.runs.symm) hid
    rw [hone] at hstatus
    exact of_decide_eq_true hp.2 hstatus

/-! A run that was cancelled, and one whose project is gone. -/

section sample

/-- The call returned without a dispatch, and nothing was stored. -/
def idle (env : Environment) (h : Machine (World options)) : Bool :=
  match runSupervisorOnce env h with
  | (.ok (.finished _), h') => h'.store = h.store
  | _ => false

theorem idle_iff {env : Environment} : idle env h = true ↔
    ∃ a h', runSupervisorOnce env h = (.ok (.finished a), h') ∧ h'.store = h.store := by
  unfold idle
  rcases runSupervisorOnce env h with ⟨e | (a | d), h'⟩
  · simp
  · simp
  · simp

/-- The registry has no project any more. -/
def sampleUnconfigured : Environment :=
  { sampleEnvironment with
    resolveEnabledProject := fun _ => .error (JsError.new "project_not_found") }

/-- A task whose project is not configured is claimable, and no call takes it. -/
theorem unconfigured_project_stalls : ∃ a h',
    runSupervisorOnce sampleUnconfigured sampleQueued = (.ok (.finished a), h') ∧
      h'.store = sampleQueued.store ∧
      ∃ task ∈ h'.store.supervisor.state.tasks,
        SupervisorQueue.claimable h'.store.supervisor.state.tasks sampleUnconfigured.now task
          = true := by
  have hidle : idle sampleUnconfigured sampleQueued = true := by decide +kernel
  obtain ⟨a, h', hrun, hsame⟩ := idle_iff.1 hidle
  refine ⟨a, h', hrun, hsame, ?_⟩
  rw [hsame]
  have hclaimable : sampleQueued.store.supervisor.state.tasks.any (SupervisorQueue.claimable
      sampleQueued.store.supervisor.state.tasks sampleUnconfigured.now) = true := by
    decide +kernel
  exact List.any_eq_true.1 hclaimable

def sampleDropped : Machine (World sampleControl) :=
  ControlCall.run sampleQueued (.cancel sampleEnvironment sampleUuid.text)

theorem idle_call_leaves_nothing_runnable_sample : ∃ h' : Machine (World sampleControl),
    (∀ task ∈ h'.store.supervisor.state.tasks,
        SupervisorQueue.expired sampleEnvironment.now task = false) ∧
      ((∀ task ∈ h'.store.supervisor.state.tasks,
          SupervisorQueue.claimable h'.store.supervisor.state.tasks sampleEnvironment.now task
            = false) ∨
        Misconfigured sampleEnvironment h'.store) ∧
      h'.store = sampleDropped.store := by
  have hidle : idle sampleEnvironment sampleDropped = true := by decide +kernel
  obtain ⟨a, h', hrun, hsame⟩ := idle_iff.1 hidle
  have hnone : pendingCancellation sampleDropped.store.runs.runs = none := by decide +kernel
  have hleaves := idle_call_leaves_nothing_runnable (.call _ sampleQueued_run trivial) hrun hsame
    (fun run hpending => absurd (hpending.symm.trans hnone) (Option.some_ne_none run))
  exact ⟨h', hleaves.1, hleaves.2, hsame⟩

end sample

end Autopilot
