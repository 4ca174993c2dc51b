/-
The functions that bring a run to its end, as steps.

This module goes on from a queued run: the attempts of its task, what becomes of
the answer of a worker, what is done about a dispatch that throws and about a
run that was asked to cancel, and the call of the supervisor that looks for all
of it. Where a run is given an end, the lemmas ask that the end is not kept from
it by a cancellation, which is the caller's to know.
-/
import Autopilot.RunCourses

set_option autoImplicit false

namespace Autopilot

open Prog Keyed RunStore

variable {options : OrchestratorOptions} {full careless : Prop}
variable {h h' : Machine (World options)} {run run' : RunRecord}

/-! ## Ending a run -/

/-- The end all failures come to. The record at hand may be older than the one
that is stored. -/
theorem walks_failRun (ht : Tidy full h) {a : RunRecord} (hf : OnCourse h run a)
    (hended : a.reservationStatus ≠ .active) (hg : Guarded careless run) (env : Environment)
    (reason : Option JsString) :
    Walks (Step full careless) h (failRun env run reason) (fun _ _ => True) (fun _ _ => True) := by
  unfold failRun
  rw [← hf.course.runId]
  apply walks_then ht (walks_finalized hf.knows hended (hg.of_course hf.course) (.inr rfl) reason
    env.now)
  intro finalized h₁ ht₁ _
  apply walks_then ht₁ (walks_acknowledgeRun run)
  intro _ h₂ ht₂ _
  exact Walks.of_pure trivial

theorem walks_cancelOpenTask (ht : Tidy full h) (env : Environment) (taskId reason : JsString) :
    Walks (Step full careless) h (cancelOpenTask env taskId reason)
      (fun _ h' => OnSupervisor h h') (fun _ _ => True) := by
  unfold cancelOpenTask
  apply walks_read_bind
  split
  · apply walks_then ht (walks_cancelTask taskId reason (some env.now))
    intro _ h₁ _ hon
    exact Walks.of_pure hon
  · exact Walks.of_pure ⟨rfl, rfl, rfl⟩

theorem walks_finishRefusal (ht : Tidy full h) (hk : Knows h run) (hg : Guarded careless run)
    (env : Environment) (taskId : JsString) (reason : DispatchRefusalReason) :
    Walks (Step full careless) h (finishRefusal env taskId run reason)
      (fun _ _ => True) (fun _ _ => True) := by
  unfold finishRefusal
  apply walks_then ht (walks_releaseReservation ht hk env)
  rintro a h₁ ht₁ ⟨hf, hended⟩
  apply walks_then ht₁ (walks_cancelOpenTask ht₁ env taskId reason.text)
  intro _ h₂ ht₂ hon
  exact walks_failRun ht₂ (hf.of_runs hon.runs) hended hg env (some reason.text)

theorem walks_finishDispatchFailure (ht : Tidy full h) (hk : Knows h run)
    (hg : Guarded careless run) (env : Environment) :
    Walks (Step full careless) h (finishDispatchFailure env run)
      (fun _ _ => True) (fun _ _ => True) := by
  unfold finishDispatchFailure
  apply walks_then ht (walks_releaseReservation ht hk env)
  rintro a h₁ ht₁ ⟨hf, hended⟩
  exact walks_failRun ht₁ hf hended hg env a.dispatchFailure

/-- What the supervisor is told of the attempt. -/
theorem walks_endAttempt (ht : Tidy full h) (env : Environment) (taskId : JsString)
    (cancelled : Bool) (worker : WorkerResult) :
    Walks (Step full careless) h (endAttempt env taskId cancelled worker)
      (fun _ h' => OnSupervisor h h') (fun _ _ => True) := by
  unfold endAttempt
  split
  · apply walks_then ht (walks_cancelTask taskId (js "run_cancelled") (some env.now))
    intro _ h₁ _ hon
    exact Walks.of_pure hon
  · split
    · apply walks_then ht (walks_moved (keepsTasks_fail _ _ _ _))
      rintro _ h₁ _ ⟨-, hon⟩
      exact Walks.of_pure hon
    · exact Walks.of_pure ⟨rfl, rfl, rfl⟩

theorem walks_finishOverBudget (ht : Tidy full h) (hk : Knows h run) (hg : Guarded careless run)
    (env : Environment) (taskId : JsString) (cancels : Bool) :
    Walks (Step full careless) h (finishOverBudget env taskId run cancels)
      (fun _ _ => True) (fun _ _ => True) := by
  unfold finishOverBudget
  have hopen : Walks (Step full careless) h
      (if cancels then cancelOpenTask env taskId (js "token_settlement_exceeds_reservation")
        else pure ())
      (fun _ h' => OnSupervisor h h') (fun _ _ => True) := by
    split
    · exact walks_cancelOpenTask ht env taskId _
    · exact Walks.of_pure ⟨rfl, rfl, rfl⟩
  apply walks_then ht hopen
  intro _ h₁ ht₁ hon
  apply walks_then ht₁ (walks_releaseReservation ht₁ (hk.of_runs hon.runs) env)
  rintro a h₂ ht₂ ⟨hf, hended⟩
  exact walks_failRun ht₂ hf hended hg env (some (js "token_settlement_exceeds_reservation"))

theorem walks_settleReservation (ht : Tidy full h) (hk : Knows h run) (env : Environment)
    (worker : WorkerResult) :
    Walks (Step full careless) h (settleReservation env run worker)
      (fun a h' => OnCourse h' run a ∧ a.reservationStatus ≠ .active) (fun _ _ => True) := by
  unfold settleReservation
  split
  · cases hheld : run.tokenReservation with
    | none => exact Walks.of_throw trivial
    | some reservation =>
      dsimp only
      apply walks_then ht (walks_settle ht env.now reservation _)
      rintro settlement h₁ ht₁ ⟨hsettled, hon⟩
      refine (walks_settled (hk.of_runs hon.runs) hheld hsettled env.now).mono ?_
        (fun _ _ _ => trivial)
      rintro a h₂ ⟨hk₂, hcourse, hended, -⟩
      exact ⟨⟨hk₂, hcourse⟩, by rw [hended]; decide⟩
  · rename_i hended
    exact Walks.of_pure ⟨.refl hk, hended⟩

theorem walks_keepArtifact (ht : Tidy full h) {a : RunRecord} (hf : OnCourse h run a)
    (env : Environment) (worker : WorkerResult) :
    Walks (Step full careless) h (keepArtifact env run worker)
      (fun _ h' => ∃ b, OnCourse h' a b ∧ b.reservationStatus = a.reservationStatus)
      (fun _ _ => True) := by
  unfold keepArtifact
  rw [← hf.course.runId]
  apply walks_then ht (walks_record a.runId)
  rintro latest h ht ⟨rfl, hk, hid⟩
  obtain rfl := hf.knows.unique hk hid
  dsimp only
  split
  · exact Walks.of_pure ⟨latest, .refl hk, rfl⟩
  · apply walks_then ht (walks_withArtifact hk _ _ _ _)
    rintro b h₁ _ ⟨hk₁, hcourse, hcore, -⟩
    have hsame : b.core.reservationStatus = latest.core.reservationStatus := by rw [hcore]
    exact Walks.of_pure ⟨b, ⟨hk₁, hcourse⟩, hsame⟩

/-- The end of a run whose worker is done: a run that was asked to cancel is
cancelled, any other one completes or fails. -/
theorem walks_settleRun (ht : Tidy full h) (hk : Knows h run)
    (hheld : run.tokenReservation ≠ none) (env : Environment) (taskId : JsString)
    {cancelled : Bool} (hcancelled : run.cancellationRequested = cancelled)
    (task : Option SupervisorTask) (worker : WorkerResult) :
    Walks (Step full careless) h (settleRun env taskId run cancelled task worker)
      (fun _ _ => True) (fun _ _ => True) := by
  unfold settleRun
  have hcompleted : Walks (Step full careless) h
      (if (!cancelled && !worker.failed && task.all (·.status = .running)) = true then do
          let _ ← inSupervisor (SupervisorQueue.complete taskId (some env.now))
        else pure ())
      (fun _ h' => OnSupervisor h h') (fun _ _ => True) := by
    split
    · apply walks_then ht (walks_moved (keepsTasks_complete _ _))
      rintro _ h₁ _ ⟨-, hon⟩
      exact Walks.of_pure hon
    · exact Walks.of_pure ⟨rfl, rfl, rfl⟩
  apply walks_then ht hcompleted
  intro _ h₁ ht₁ hon
  apply walks_then ht₁ (walks_settleReservation ht₁ (hk.of_runs hon.runs) env worker)
  rintro a h₂ ht₂ ⟨hf, hended⟩
  apply walks_then ht₂ (walks_keepArtifact ht₂ hf env worker)
  rintro _ h₃ ht₃ ⟨b, hfb, hsame⟩
  have hendedb : b.reservationStatus ≠ .active := by
    rw [hsame]
    exact hended
  have hcourse : SameCourse run b := hf.course.trans hfb.course
  have hfinalized : Walks (Step full careless) h₃
      (if cancelled = true then inRuns (RunStore.transitionRun run.runId .cancelled env.now)
        else if worker.failed = true then
          inRuns (RunStore.finalizeRun run.runId .failed (some worker.failureReason) env.now)
        else inRuns (RunStore.finalizeRun run.runId .completed none env.now))
      (fun _ _ => True) (fun _ _ => True) := by
    rw [← hcourse.runId]
    cases cancelled with
    | true =>
      refine walks_cancelled hfb.knows hendedb (fun _ hnone => absurd ?_ hheld) env.now
      rw [← hcourse.tokenReservation]
      exact hnone
    | false =>
      -- a run that was not asked to cancel may end as it does
      have hg : Guarded careless b := by
        intro hflag
        rw [hcourse.cancellationRequested, hcancelled] at hflag
        cases hflag
      rw [if_neg Bool.false_ne_true]
      split
      · exact (walks_finalized hfb.knows hendedb hg (.inr rfl) _ _).mono (fun _ _ _ => trivial)
          (fun _ _ he => he)
      · exact (walks_finalized hfb.knows hendedb hg (.inl rfl) _ _).mono (fun _ _ _ => trivial)
          (fun _ _ he => he)
  apply walks_then ht₃ hfinalized
  intro finalized h₄ ht₄ _
  apply walks_then ht₄ (walks_acknowledgeRun run)
  intro _ h₅ _ _
  exact Walks.of_pure trivial

theorem walks_finishWorker (ht : Tidy full h) (hk : Knows h run)
    (hheld : run.tokenReservation ≠ none) (env : Environment) (taskId : JsString)
    {worker : WorkerResult} (hg : overBudget run worker = true → Guarded careless run) :
    Walks (Step full careless) h (finishWorker env taskId run worker)
      (fun _ _ => True) (fun _ _ => True) := by
  unfold finishWorker
  apply walks_then ht (walks_record run.runId)
  rintro latest h ht ⟨rfl, hlatest, hid⟩
  obtain rfl := hk.unique hlatest hid
  apply walks_read_bind
  apply walks_then ht (walks_endAttempt ht env taskId _ worker)
  intro retryQueued h₁ ht₁ hon
  have hk₁ : Knows h₁ latest := hk.of_runs hon.runs
  split
  · rename_i hover
    apply walks_then ht₁ (walks_finishOverBudget ht₁ hk₁ (hg hover) env taskId _)
    intro _ h₂ _ _
    exact Walks.of_pure trivial
  · split
    · apply walks_then ht₁ (walks_noted hk₁ (by intro run; rfl))
      intro _ h₂ _ _
      exact Walks.of_pure trivial
    · apply walks_then ht₁ (walks_settleRun ht₁ hk₁ hheld env taskId rfl _ worker)
      intro _ h₂ _ _
      exact Walks.of_pure trivial

/-- The answer of a worker ends a run in a way a cancellation may keep it from. -/
def EndsBadly (run : RunRecord) : DispatchResult → Prop
  | .refused _ => True
  | .accepted worker => overBudget run worker = true

theorem EndsBadly.of_same {a : RunRecord} {result : DispatchResult} (hb : EndsBadly a result)
    (hcurrent : a.current = run.current) (hinput : a.retryInputTokens = run.retryInputTokens)
    (houtput : a.retryOutputTokens = run.retryOutputTokens) : EndsBadly run result := by
  cases result with
  | refused reason => trivial
  | accepted worker =>
    have hover : overBudget a worker = true := hb
    unfold overBudget cumulativeInputTokens cumulativeOutputTokens at hover
    rw [hcurrent, hinput, houtput] at hover
    exact hover

theorem walks_finishProviderResult (ht : Tidy full h) (hk : Knows h run)
    (hheld : run.tokenReservation ≠ none) (env : Environment) (taskId : JsString)
    {result : DispatchResult} (hg : EndsBadly run result → Guarded careless run) :
    Walks (Step full careless) h (finishProviderResult env taskId run result)
      (fun _ _ => True) (fun _ _ => True) := by
  unfold finishProviderResult
  cases result with
  | refused reason =>
    apply walks_then ht (walks_finishRefusal ht hk (hg trivial) env taskId reason)
    intro _ h₁ _ _
    exact Walks.of_pure trivial
  | accepted worker => exact walks_finishWorker ht hk hheld env taskId hg

/-! ## Cancelling -/

/-- The identifier of a handoff of a run that has drawn its own is short and
plain, so the gateway keeps it as it is. -/
theorem keptHandoffId_eq {uuid : Uuid} (hv : isRunRecord run = true)
    (hid : run.runId = uuid.text) : keptHandoffId (handoffIdFor run) = handoffIdFor run := by
  have hrevision : run.current.revision < 100 :=
    lt_of_le_of_lt (RunRecord.revision_le hv) (by decide)
  have hdigits : (decimal run.current.revision).length ≤ 2 := decimalDigits_length_le hrevision
  have hlen : (handoffIdFor run).length ≤ maxFieldLength ∧ 0 < (handoffIdFor run).length := by
    unfold handoffIdFor
    rw [hid]
    simp only [List.length_append, uuid.length_text]
    have hprefix : (js "run-handoff-").length = 12 := by decide
    have hhyphen : (js "-").length = 1 := by decide
    have hmax : maxFieldLength = 128 := rfl
    omega
  have hplain : ∀ c ∈ handoffIdFor run, 32 ≤ c := by
    intro c hc
    unfold handoffIdFor at hc
    rw [hid] at hc
    simp only [List.mem_append] at hc
    have hprefix : (js "run-handoff-" ++ js "-").all (fun c => 32 ≤ c) = true := by decide
    have hliteral : ∀ c ∈ js "run-handoff-" ++ js "-", 32 ≤ c := fun c hc =>
      of_decide_eq_true (List.all_eq_true.1 hprefix c hc)
    rcases hc with ((hc | hc) | hc) | hc
    · exact hliteral c (List.mem_append_left _ hc)
    · exact uuid.units hc
    · exact hliteral c (List.mem_append_right _ hc)
    · have hdigit : (32 : UInt16) ≤ 48 := by decide
      exact UInt16.le_trans hdigit (decimalDigits_ge hc)
  unfold keptHandoffId
  rw [bounded_eq_self hlen.2 hlen.1 hplain]
  rfl

/-- A reservation the run does not know of is released. -/
theorem walks_releaseOrphan (ht : Tidy full h) (hk : Knows h run) (env : Environment) :
    Walks (Step full careless) h (releaseOrphan env run)
      (fun error h' => OnGateway h h' ∧ (error = none → ¬ full → run.tokenReservation = none →
        h'.store.gateway.unheld (keptHandoffId (handoffIdFor run))))
      (fun _ _ => True) := by
  unfold releaseOrphan
  apply walks_read_bind
  have hkept : ¬ full → keptHandoffId (handoffIdFor run) = handoffIdFor run := fun hfull => by
    obtain ⟨uuid, hid⟩ := ht.named hfull run hk.mem
    exact keptHandoffId_eq (h.store.runs.record_valid hk.mem) hid
  split
  · rename_i orphan hnone hfind
    refine walks_tryCatch (E := fun _ h' => OnGateway h h') ht ?_ ?_ (fun _ _ => trivial)
    · refine walks_bind ht (walks_release ht env.now orphan) (fun _ _ he => he) ?_
      rintro _ h₁ _ ⟨hspent, hsub, hon⟩
      refine Walks.of_pure ⟨hon, fun _ hfull _ id r hget hhandoff => ?_⟩
      -- there was one reservation for the handoff, and it is gone
      obtain ⟨id', hget'⟩ := (Record.mem_values_iff _ _).1 (List.mem_of_find?_eq_some hfind)
      have horphan : orphan.handoffId = some (handoffIdFor run) := by
        simpa using List.find?_some hfind
      rw [hkept hfull] at hhandoff
      have hsame := ht.single hfull id id' r orphan (hsub id r hget) hget'
        (hhandoff.trans horphan.symm) (by rw [hhandoff]; simp)
      rw [hsame, ← (ht.linked hfull).id_eq hget', (hspent hfull).1] at hget
      cases hget
    · intro e h₁ _ hon
      exact Walks.of_pure ⟨hon, fun hnone => by cases hnone⟩
  · rename_i hother
    refine Walks.of_pure ⟨⟨rfl, rfl, rfl⟩, fun _ hfull hnone => ?_⟩
    rw [hkept hfull]
    refine unheld_of_find ?_
    cases hfind : h.store.gateway.state.findActiveReservation (handoffIdFor run) with
    | none => rfl
    | some orphan => exact absurd hfind (hother orphan hnone)

/-- What cancelling the binding of a run leaves. -/
theorem walks_cancelBinding (ht : Tidy full h) (hk : Knows h run) (env : Environment) :
    Walks (Step full careless) h (cancelBinding env run)
      (fun error h' => error = none → (∃ a, OnCourse h' run a ∧ a.reservationStatus ≠ .active) ∧
        (run.tokenReservation = none → h' = h))
      (fun _ _ => True) := by
  unfold cancelBinding
  split
  · rename_i taskId reservation htask hheld
    apply walks_read_bind
    apply walks_then ht (walks_cancelWhere ht env taskId (js "run_cancelled") _)
    intro cancelError h₁ ht₁ hon
    have hk₁ : Knows h₁ run := hk.of_runs hon.runs
    have hreleased : Walks (Step full careless) h₁
        (if run.reservationStatus = .active then
          tryCatch (do
              let _ ← releaseReservation env run
              acknowledge run
              return none)
            fun error => return some error
          else pure none : Proc (World options) (Option JsError))
        (fun error h' => error = none → ∃ a, OnCourse h' run a ∧ a.reservationStatus ≠ .active)
        (fun _ _ => True) := by
      split
      · refine walks_tryCatch (E := fun _ _ => True) ht₁ ?_ ?_ (fun _ _ => trivial)
        · apply walks_then ht₁ (walks_releaseReservation ht₁ hk₁ env)
          rintro a h₂ ht₂ ⟨hf, hended⟩
          apply walks_then ht₂ (walks_acknowledgeRun run)
          intro _ h₃ _ hon₃
          exact Walks.of_pure fun _ => ⟨a, hf.of_runs hon₃.runs, hended⟩
        · intro e h₂ _ _
          exact Walks.of_pure fun hnone => by cases hnone
      · rename_i hended
        exact Walks.of_pure fun _ => ⟨run, .refl hk₁, hended⟩
    apply walks_then ht₁ hreleased
    intro releaseError h₂ _ hends
    refine Walks.of_pure fun hnone => ⟨hends (Option.or_eq_none_iff.1 hnone).2, fun hnone => ?_⟩
    rw [hheld] at hnone
    cases hnone
  · rename_i hunbound
    -- without a task there is no reservation either
    have hnone : run.tokenReservation = none := by
      cases hheld : run.tokenReservation with
      | none => rfl
      | some reservation =>
        cases htask : run.supervisorTaskId with
        | none =>
          rw [(ht.runs run hk.mem).paired.2 htask] at hheld
          cases hheld
        | some taskId => exact (hunbound taskId reservation htask hheld).elim
    have hended : run.reservationStatus ≠ .active := by
      rw [(RunRecord.reservation_iff (h.store.runs.record_valid hk.mem)).2 hnone]
      decide
    exact Walks.of_pure fun _ => ⟨⟨run, .refl hk, hended⟩, fun _ => rfl⟩

theorem walks_cancelIdleRun (ht : Tidy full h) (hk : Knows h run) (env : Environment) :
    Walks (Step full careless) h (cancelIdleRun env run) (fun _ _ => True) (fun _ _ => True) := by
  unfold cancelIdleRun
  apply walks_then ht (walks_releaseOrphan ht hk env)
  rintro orphanError h₁ ht₁ ⟨hon, hunheld⟩
  apply walks_then ht₁ (walks_cancelBinding ht₁ (hk.of_runs hon.runs) env)
  intro bindingError h₂ ht₂ hends
  cases hor : orphanError.or bindingError with
  | some error => exact Walks.of_throw trivial
  | none =>
    obtain ⟨horphan, hbinding⟩ := Option.or_eq_none_iff.1 hor
    obtain ⟨⟨a, hf, hended⟩, hsame⟩ := hends hbinding
    show Walks _ h₂ (inRuns (RunStore.transitionRun run.runId .cancelled env.now)) _ _
    rw [← hf.course.runId]
    refine walks_cancelled hf.knows hended (fun hfull hnone => ?_) env.now
    have hrun : run.tokenReservation = none := by
      rw [← hf.course.tokenReservation]
      exact hnone
    have hid : handoffIdFor a = handoffIdFor run := by
      unfold handoffIdFor RunRecord.runId
      rw [hf.course.current]
    rw [hid, hsame hrun]
    exact hunheld horphan hfull hrun

theorem walks_cancelRun (ht : Tidy full h) (env : Environment) (runId : JsString) :
    Walks (Step full careless) h (cancelRun env runId) (fun _ _ => True) (fun _ _ => True) := by
  unfold cancelRun
  apply walks_then ht (walks_record runId)
  rintro current h ht ⟨rfl, hk, rfl⟩
  split
  · exact Walks.of_pure trivial
  · apply walks_then ht (walks_flagged hk env.now)
    rintro flagged h₁ ht₁ ⟨hk₁, -, -, -⟩
    apply walks_read_bind
    split
    · exact Walks.of_pure trivial
    · exact walks_cancelIdleRun ht₁ hk₁ env

/-! ## Dispatching -/

/-- The run of a task. -/
theorem walks_bindingForTask (taskId : JsString) :
    Walks (Step full careless) h (bindingForTask taskId)
      (fun run h' => h' = h ∧ Knows h run ∧ run.supervisorTaskId = some taskId ∧
        run.tokenReservation ≠ none)
      (fun _ _ => True) := by
  unfold bindingForTask
  apply walks_read_bind
  split
  · rename_i run hfind
    refine Walks.bind (walks_throwIf _ _) (fun _ _ _ => trivial) ?_
    rintro _ h' - ⟨hheld, rfl⟩
    refine Walks.of_pure ⟨rfl, knows_of_mem (List.mem_of_find?_eq_some hfind), ?_, hheld⟩
    simpa using List.find?_some hfind
  · exact Walks.of_throw trivial

/-- The attempt that failed may have been the last one. -/
def LastAttempt (h : Machine (World options)) (taskId : JsString) : Prop :=
  ∃ task, h.store.task taskId = some task ∧
    (task.status = .failed ∨ task.maxAttempts ≤ task.attempt)

theorem OnSupervisor.store_eq (hon : OnSupervisor h h')
    (hsame : h'.store.supervisor = h.store.supervisor) : h'.store = h.store := by
  obtain ⟨hruns, happrovals, hgateway⟩ := hon
  cases hs : h.store
  cases hs' : h'.store
  simp_all

/-- The task of a dispatch that threw fails for good only with its last attempt. -/
theorem walks_failTask (ht : Tidy full h) (env : Environment) (taskId reason : JsString) :
    Walks (Step full careless) h (failTask env taskId reason)
      (fun failed h' => OnSupervisor h h' ∧ (failed.status = .failed → LastAttempt h taskId))
      (fun _ _ => True) := by
  unfold failTask
  have hfail : Walks (Step full careless) h
      (inSupervisor (SupervisorQueue.fail taskId reason (some env.now) none))
      (fun failed h' => OnSupervisor h h' ∧ (failed.status = .failed → LastAttempt h taskId))
      (fun _ h' => h'.store = h.store) := by
    refine (walks_moved (keepsTasks_fail taskId reason (some env.now) none)).mono ?_ ?_
    · rintro failed h₁ ⟨hrun, hon⟩
      refine ⟨hon, fun hfailed => ?_⟩
      rcases fail_cases (h := supervisorOf h) taskId reason (some env.now) none with
        ⟨e, hr⟩ | ⟨instant, task, -, hl, -, ⟨-, delta, state, -, hr⟩ | ⟨hlast, -⟩⟩
      · rw [hr] at hrun
        cases hrun
      -- a task that is queued again has not failed
      · rcases hr with ⟨ws, -, hr⟩ | ⟨fault, ws, -, -, hr⟩
        · have hresult := congrArg Prod.fst (hr.symm.trans hrun)
          obtain rfl := Except.ok.inj hresult
          cases hfailed
        · cases congrArg Prod.fst (hr.symm.trans hrun)
      · exact ⟨task, hl, .inr hlast⟩
    · rintro e h₁ ⟨hrun, hon⟩
      refine hon.store_eq ?_
      have hsame : ∀ {fault : Fault JsError} {ws : List (WriteOutcome JsError)},
          SupervisorQueue.fail taskId reason (some env.now) none (supervisorOf h) =
            (.error fault, ⟨(supervisorOf h).store, ws, (supervisorOf h).supply⟩) →
          h₁.store.supervisor = h.store.supervisor := fun hr =>
        congrArg (fun result => result.2.store) (hrun.symm.trans hr)
      rcases fail_cases (h := supervisorOf h) taskId reason (some env.now) none with
        ⟨e, hr⟩ | ⟨instant, task, -, -, -, ⟨-, delta, state, -, hr⟩ | ⟨-, state, -, hr⟩⟩
      · exact hsame hr
      · rcases hr with ⟨ws, -, hr⟩ | ⟨fault, ws, -, -, hr⟩
        · cases congrArg Prod.fst (hr.symm.trans hrun)
        · exact hsame hr
      · rcases hr with ⟨ws, -, hr⟩ | ⟨fault, ws, -, -, hr⟩
        · cases congrArg Prod.fst (hr.symm.trans hrun)
        · exact hsame hr
  refine walks_tryCatch ht hfail ?_ (fun _ _ => trivial)
  intro e h₁ ht₁ hstore
  apply walks_read_bind
  split
  · rename_i persisted hfound
    split
    · rename_i hfailed
      refine Walks.of_pure ⟨⟨?_, ?_, ?_⟩, fun _ => ⟨persisted, ?_, .inl hfailed⟩⟩
      · rw [hstore]
      · rw [hstore]
      · rw [hstore]
      · rw [← hstore]
        exact hfound
    · exact Walks.of_throw trivial
  · exact Walks.of_throw trivial

theorem walks_dispatchThrew {α : Type} (ht : Tidy full h) (env : Environment)
    (taskId runId : JsString) (error : JsError)
    (hg : LastAttempt h taskId → ∀ run, Knows h run → run.runId = runId → Guarded careless run) :
    Walks (Step full careless) h (dispatchThrew env taskId runId error : Proc (World options) α)
      (fun _ _ => False) (fun _ _ => True) := by
  unfold dispatchThrew
  -- the failure is noted with the run, if there is one
  have hnoted : Walks (Step full careless) h
      (inRuns (recordRunDispatchFailure runId (dispatchErrorText options error) env.now))
      (fun a h' => ∃ run, Knows h run ∧ run.runId = runId ∧ OnCourse h' run a ∧ OnRuns h h')
      (fun _ _ => True) := by
    unfold recordRunDispatchFailure
    refine Walks.mono (walks_updateRun runId (fun _ => rfl) fun run _ _ _ _ => .noted _ rfl) ?_
      (fun _ _ _ => trivial)
    rintro a h₁ ⟨run, hk, hid, ⟨-, rfl, rfl⟩ | ⟨-, -, rfl, hup⟩⟩
    · exact ⟨_, hk, hid, .refl hk, .refl _⟩
    · exact ⟨run, hk, hid, ⟨hup.knows, sameCourse_of_core rfl⟩, hup.frame⟩
  apply walks_then ht hnoted
  rintro a h₁ ht₁ ⟨run, hk, hid, hf, hon⟩
  apply walks_then ht₁ (walks_failTask ht₁ env taskId _)
  rintro failed h₂ ht₂ ⟨hon₂, hlast⟩
  have hk₂ : Knows h₂ a := hf.knows.of_runs hon₂.runs
  split
  · rename_i hfailed
    have hlast' : LastAttempt h taskId := by
      obtain ⟨task, hfound, hend⟩ := hlast hfailed
      refine ⟨task, ?_, hend⟩
      unfold World.task at hfound ⊢
      rwa [hon.supervisor] at hfound
    have hguarded : Guarded careless a := (hg hlast' run hk hid).of_course hf.course
    apply walks_then ht₂ (walks_finishDispatchFailure ht₂ hk₂ hguarded env)
    intro _ h₃ _ _
    exact Walks.of_throw trivial
  · rw [← hid, ← hf.course.runId]
    apply walks_then ht₂ (walks_noted hk₂ (by intro run; rfl))
    intro _ h₃ _ _
    exact Walks.of_throw trivial

theorem walks_commitmentViolated {α : Type} (ht : Tidy full h) (hk : Knows h run)
    (hg : Guarded careless run) (env : Environment) (taskId : JsString) (error : JsError) :
    Walks (Step full careless) h
      (commitmentViolated env taskId run error : Proc (World options) α)
      (fun _ _ => False) (fun _ _ => True) := by
  unfold commitmentViolated
  apply walks_then ht (walks_noted hk (by intro run; rfl))
  rintro a h₁ ht₁ ⟨-, ⟨hk₁, hcourse, -, -⟩, -⟩
  apply walks_read_bind
  have hcancelled : Walks (Step full careless) h₁
      (if needsCancel (h₁.store.task taskId) = true then do
          let _ ← tryCancel env taskId (error.message?.getD (js "run_prompt_commitment_violation"))
        else pure ())
      (fun _ h' => OnSupervisor h₁ h') (fun _ _ => True) := by
    split
    · apply walks_then ht₁ (walks_tryCancel ht₁ env taskId _)
      intro _ h₂ _ hon
      exact Walks.of_pure hon
    · exact Walks.of_pure ⟨rfl, rfl, rfl⟩
  apply walks_then ht₁ hcancelled
  intro _ h₂ ht₂ hon
  apply walks_then ht₂ (walks_finishDispatchFailure ht₂ (hk₁.of_runs hon.runs)
    (hg.of_course hcourse) env)
  intro _ h₃ _ _
  exact Walks.of_throw trivial

/-- Where a dispatch comes from: the task is one of the queue, and its run is
running. -/
structure DispatchedFrom (h' : Machine (World options)) (d : Dispatch) (run : RunRecord)
    (task : SupervisorTask) : Prop where
  knows : Knows h' run
  runId : d.runId = run.runId
  taskId : d.taskId = task.taskId
  bound : run.supervisorTaskId = some task.taskId
  queued : task ∈ h'.store.supervisor.state.tasks
  handoff : ∃ cwd, d.handoff = { task.handoff with cwd := some cwd }
  route : taskRouteRefusal run task.handoff = none

/-- Whatever is dispatched comes from a task of the queue. -/
def Dispatches (p : Progress) (h' : Machine (World options)) : Prop :=
  ∀ d, p = .dispatching d → ∃ run task, DispatchedFrom h' d run task

theorem dispatches_finished (run : Option RunRecord) : Dispatches (.finished run) h := by
  intro d hd
  cases hd

theorem walks_dispatchRun (ht : Tidy full h) (hk : Knows h run) (hg : Guarded careless run)
    (env : Environment) {task : SupervisorTask} (hbound : run.supervisorTaskId = some task.taskId)
    (hmem : task ∈ h.store.supervisor.state.tasks) :
    Walks (Step full careless) h (dispatchRun env task run) Dispatches (fun _ _ => True) := by
  unfold dispatchRun
  apply walks_then ht (walks_throwAny _)
  rintro _ h ht ⟨hroute, rfl⟩
  have hstarted : Walks (Step full careless) h
      (if run.status = .queued then inRuns (RunStore.transitionRun run.runId .running env.now)
        else pure run)
      (fun a h' => Knows h' a ∧ Guarded careless a ∧ a.current = run.current ∧
        a.supervisorTaskId = run.supervisorTaskId ∧ OnRuns h h')
      (fun _ _ => True) := by
    split
    · refine (walks_started hk env.now).mono ?_ (fun _ _ he => he)
      rintro a h₁ ⟨rfl, hqueued, hup⟩
      refine ⟨hup.knows, fun hflag => ?_, rfl, rfl, hup.frame⟩
      rcases hg hflag with hcancelled | hcareless
      · rw [hqueued] at hcancelled
        cases hcancelled
      · exact .inr hcareless
    · exact Walks.of_pure ⟨hk, hg, rfl, rfl, .refl _⟩
  apply walks_then ht hstarted
  rintro a h₁ ht₁ ⟨hk₁, hg₁, hcurrent, htask, hon⟩
  split
  · exact (walks_commitmentViolated ht₁ hk₁ hg₁ env task.taskId _).mono (fun _ _ hq => hq.elim)
      (fun _ _ he => he)
  · split
    · refine (walks_dispatchThrew ht₁ env task.taskId a.runId _ fun _ run₁ hk₂ hid => ?_).mono
        (fun _ _ hq => hq.elim) (fun _ _ he => he)
      rw [hk₁.unique hk₂ hid]
      exact hg₁
    · rename_i cwd _
      refine Walks.of_pure fun d hd => ?_
      obtain rfl := Progress.dispatching.inj hd
      refine ⟨a, task, hk₁, rfl, rfl, htask.trans hbound, ?_, ⟨cwd, rfl⟩, ?_⟩
      · rw [hon.supervisor]
        exact hmem
      · unfold taskRouteRefusal resolveLegacyRequestedReasoning at hroute ⊢
        rw [hcurrent]
        exact hroute

/-- No run that was asked to cancel is kept from it. -/
def AllGuarded (careless : Prop) (h : Machine (World options)) : Prop :=
  ∀ run ∈ h.store.runs.runs, Guarded careless run

theorem AllGuarded.of_runs (hg : AllGuarded careless h) (hruns : h'.store.runs = h.store.runs) :
    AllGuarded careless h' := by
  intro run hrun
  rw [hruns] at hrun
  exact hg run hrun

theorem walks_carryTask (ht : Tidy full h) (hg : AllGuarded careless h) (env : Environment)
    {task : SupervisorTask} (hmem : task ∈ h.store.supervisor.state.tasks) :
    Walks (Step full careless) h (carryTask env task) Dispatches (fun _ _ => True) := by
  unfold carryTask
  apply walks_then ht (walks_bindingForTask task.taskId)
  rintro run h ht ⟨rfl, hk, hbound, hheld⟩
  have hguarded : Guarded careless run := hg run hk.mem
  split
  · rename_i result _
    apply walks_then ht (walks_finishProviderResult ht hk hheld env task.taskId fun _ => hguarded)
    intro finished h₁ _ _
    exact Walks.of_pure (dispatches_finished _)
  · exact walks_dispatchRun ht hk hguarded env hbound hmem

theorem walks_claimTask (ht : Tidy full h) (hg : AllGuarded careless h) (env : Environment) :
    Walks (Step full careless) h (claimTask env) Dispatches (fun _ _ => True) := by
  unfold claimTask
  apply walks_then ht (walks_moved (keepsTasks_peekClaimable env.now))
  rintro claimable h₁ ht₁ ⟨-, hon⟩
  have hg₁ : AllGuarded careless h₁ := hg.of_runs hon.runs
  split
  · exact Walks.of_pure (dispatches_finished _)
  · rename_i claimable
    apply walks_then ht₁ (walks_bindingForTask claimable.taskId)
    rintro run h₁ ht₁ ⟨rfl, hk, hbound, hheld⟩
    apply walks_then ht₁ (walks_throwAny _)
    rintro _ h₁ ht₁ ⟨-, rfl⟩
    split
    · split
      · exact Walks.of_pure (dispatches_finished _)
      · exact Walks.of_throw trivial
    · obtain ⟨hkeeps, hclaimed⟩ := keepsTasks_claim (q := supervisorOf h₁) env.now
      apply walks_then ht₁ (walks_moved hkeeps)
      rintro claimed h₂ ht₂ ⟨hrun, hon₂⟩
      split
      · exact Walks.of_pure (dispatches_finished _)
      · rename_i task
        have hmem := hclaimed task (congrArg Prod.fst hrun)
        rw [hrun] at hmem
        exact walks_carryTask ht₂ (hg₁.of_runs hon₂.runs) env hmem

theorem walks_takeTask (ht : Tidy full h) (hg : AllGuarded careless h) (env : Environment) :
    Walks (Step full careless) h (takeTask env) Dispatches (fun _ _ => True) := by
  unfold takeTask
  apply walks_read_bind
  split
  · rename_i task hpending
    have hmem : task ∈ h.store.supervisor.state.tasks := by
      obtain ⟨run, -, hbound⟩ := Option.bind_eq_some_iff.1 hpending
      obtain ⟨taskId, -, hfound⟩ := Option.bind_eq_some_iff.1 hbound
      exact (lookup_mem hfound).1
    exact walks_carryTask ht hg env hmem
  · exact walks_claimTask ht hg env

/-! ## One call of the supervisor -/

theorem walks_replayFailure (ht : Tidy full h) (hg : AllGuarded careless h) (env : Environment) :
    Walks (Step full careless) h (replayFailure env) Dispatches (fun _ _ => True) := by
  unfold replayFailure
  apply walks_read_bind
  split
  · exact walks_takeTask ht hg env
  · rename_i run hpending
    have hk : Knows h run := knows_of_mem (List.mem_of_find?_eq_some hpending)
    have hguarded : Guarded careless run := hg run hk.mem
    split
    · apply walks_then ht (walks_finishDispatchFailure ht hk hguarded env)
      intro _ h₁ _ _
      exact Walks.of_pure (dispatches_finished _)
    · apply walks_then ht (walks_noted hk (by intro run; rfl))
      rintro a h₁ ht₁ ⟨-, ⟨-, hcourse, -, -⟩, hothers⟩
      refine walks_takeTask ht₁ (fun other hother => ?_) env
      rcases hothers other hother with rfl | hother
      · exact hguarded.of_course hcourse
      · exact hg other hother
    · exact walks_takeTask ht hg env

theorem walks_acknowledgeAll (ht : Tidy full h) (ids : List JsString) :
    Walks (Step full careless) h (acknowledgeAll ids) (fun _ h' => h'.store.runs = h.store.runs)
      (fun _ _ => True) := by
  induction ids generalizing h with
  | nil => exact Walks.of_pure rfl
  | cons id ids ih =>
    unfold acknowledgeAll
    apply walks_then ht (walks_acknowledge id)
    intro _ h₁ ht₁ hon
    exact (ih ht₁).mono (fun _ _ hruns => hruns.trans hon.runs) (fun _ _ he => he)

theorem walks_runSupervisorOnce (ht : Tidy full h) (env : Environment) :
    Walks (Step full careless) h (runSupervisorOnce env) Dispatches (fun _ _ => True) := by
  unfold runSupervisorOnce
  apply walks_read_bind
  apply walks_then ht (walks_acknowledgeAll ht _)
  intro _ h₁ ht₁ hruns
  apply walks_read_bind
  split
  · apply walks_then ht₁ (walks_cancelRun ht₁ env _)
    intro _ h₂ _ _
    exact Walks.of_pure (dispatches_finished _)
  · rename_i hnone
    -- nothing waits to be cancelled
    refine walks_replayFailure ht₁ (fun run hrun hflag => .inl ?_) env
    have hfound := List.find?_eq_none.1 hnone run hrun
    simpa [hflag] using hfound

/-- The end of a dispatch is one a cancellation of its run does not stand in the
way of. -/
def Careful (h : Machine (World options)) (dispatch : Dispatch) (outcome : DispatchOutcome) :
    Prop :=
  ∀ run, Knows h run → run.runId = dispatch.runId → run.cancellationRequested = true →
    match outcome with
    | .error _ => ¬ LastAttempt h dispatch.taskId
    | .ok answer => ¬ EndsBadly run (sanitizeDispatchResult options.redactPatterns answer)

theorem walks_dispatchEnded (ht : Tidy full h) (env : Environment) (dispatch : Dispatch)
    (outcome : DispatchOutcome) (hc : careless ∨ Careful h dispatch outcome) :
    Walks (Step full careless) h (dispatchEnded env dispatch outcome)
      (fun _ _ => True) (fun _ _ => True) := by
  unfold dispatchEnded
  cases outcome with
  | error error =>
    refine (walks_dispatchThrew ht env dispatch.taskId dispatch.runId error ?_).mono
      (fun _ _ hq => hq.elim) (fun _ _ he => he)
    intro hlast run hk hid hflag
    rcases hc with hcareless | hcareful
    · exact .inr hcareless
    · exact absurd hlast (hcareful run hk hid hflag)
  | ok answer =>
    apply walks_then ht (walks_withResult _ _ _)
    rintro a h₁ ht₁ ⟨run, hk, hid, hopen, hk₁, hcourse, ⟨hinput, houtput⟩, -⟩
    have hheld : a.tokenReservation ≠ none := by
      rw [hcourse.tokenReservation]
      exact (ht.runs run hk.mem).held hopen
    refine walks_finishProviderResult ht₁ hk₁ hheld env dispatch.taskId fun hbad hflag => ?_
    rcases hc with hcareless | hcareful
    · exact .inr hcareless
    · refine absurd ?_ (hcareful run hk hid (hcourse.cancellationRequested ▸ hflag))
      exact hbad.of_same hcourse.current hinput houtput

end Autopilot
