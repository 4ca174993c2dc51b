/-
The functions of the orchestrator, as steps.

Every function of the orchestrator goes through the steps of the modules before,
from any tidy state on, whatever becomes of its writes. There is one lemma for
each function, in the order of the source. Its hypotheses are what the callers
have made sure of; what it says of the state it returns in is what the callers go
on with. Nothing is said of a run beyond that, so these lemmas do not change when
an invariant is added.

This module goes from a draft to a queued run.
-/
import Autopilot.RunWalks

set_option autoImplicit false

namespace Autopilot

open Prog Keyed RunStore

variable {options : OrchestratorOptions} {full careless : Prop}
variable {h h' : Machine (World options)} {run run' : RunRecord}

/-! ## Drafts -/

theorem approvalFor_undecided (draft : RunDraft) (now : ℕ) :
    ApprovalQueue.undecided (approvalFor draft now) = approvalFor draft now := rfl

/-- The approval of the revision at hand is asked for. -/
theorem walks_askFor (hk : Knows h run) (now : ℕ) :
    Walks (Step full careless) h (askApproval (approvalFor run.current now))
      (fun _ h' => approvalFor run.current now ∈ h'.store.approvals.records ∧ OnApprovals h h')
      (fun _ _ => True) :=
  walks_asked hk (approvalFor_undecided run.current now) (by simp [approvalFor,
    ApprovalQueue.createApprovalRecord])

theorem walks_prepareRun (ht : Tidy full h) (env : Environment) (input : RunDraftInput) :
    Walks (Step full careless) h (prepareRun env input) (fun _ _ => True) (fun _ _ => True) := by
  unfold prepareRun
  apply walks_then ht (walks_ofExcept _)
  rintro _ _ ht ⟨-, rfl⟩
  apply walks_then ht (walks_throwIf _ _)
  rintro _ _ ht ⟨-, rfl⟩
  apply walks_then ht (walks_created _ _ _)
  rintro draft h₁ ht₁ ⟨run, hk, rfl, -⟩
  apply walks_then ht₁ (walks_askFor hk env.now)
  intro _ h₂ ht₂ _
  exact (walks_record _).mono (fun _ _ _ => trivial) (fun _ _ _ => trivial)

theorem walks_reviseRunWithApproval (ht : Tidy full h) (env : Environment) (runId : JsString)
    (expectedRevision : ℕ) (input : RunDraftInput) :
    Walks (Step full careless) h (reviseRunWithApproval env runId expectedRevision input)
      (fun _ _ => True) (fun _ _ => True) := by
  unfold reviseRunWithApproval
  apply walks_then ht (walks_ofExcept _)
  rintro _ _ ht ⟨-, rfl⟩
  apply walks_then ht (walks_record runId)
  rintro before h ht ⟨rfl, hk, -⟩
  -- the revision is there already, or it is stored now
  have hdraft : Walks (Step full careless) h
      (if before.status = .draft ∧ before.current.revision = expectedRevision + 1 ∧
          sameDraftInput before.current input then pure before.current
        else inRuns (RunStore.reviseRunDraft env.resolveEnabledProject runId expectedRevision
          input env.now))
      (fun draft h' => ∃ run, Knows h' run ∧ run.current = draft) (fun _ _ => True) := by
    split
    · exact Walks.of_pure ⟨before, hk, rfl⟩
    · exact walks_revised _ _ _ _ _
  apply walks_then ht hdraft
  rintro draft h₁ ht₁ ⟨run, hk₁, rfl⟩
  apply walks_read_bind
  have hasked : Walks (Step full careless) h₁
      (if h₁.store.approvals.records.any (·.isFor runId run.current.revision) then pure ()
        else askApproval (approvalFor run.current env.now))
      (fun _ _ => True) (fun _ _ => True) := by
    split
    · exact Walks.of_pure trivial
    · exact (walks_askFor hk₁ env.now).mono (fun _ _ _ => trivial) (fun _ _ _ => trivial)
  apply walks_then ht₁ hasked
  intro _ h₂ ht₂ _
  exact (walks_record _).mono (fun _ _ _ => trivial) (fun _ _ _ => trivial)

/-! ## Ending a reservation -/

/-- The record a run is at now. -/
structure OnCourse (h' : Machine (World options)) (run a : RunRecord) : Prop where
  knows : Knows h' a
  course : SameCourse run a

theorem OnCourse.refl (hk : Knows h run) : OnCourse h run run := ⟨hk, .refl run⟩

theorem OnCourse.of_runs {a : RunRecord} (hf : OnCourse h run a)
    (hruns : h'.store.runs = h.store.runs) : OnCourse h' run a :=
  ⟨hf.knows.of_runs hruns, hf.course⟩

theorem walks_releaseReservation (ht : Tidy full h) (hk : Knows h run) (env : Environment) :
    Walks (Step full careless) h (releaseReservation env run)
      (fun a h' => OnCourse h' run a ∧ a.reservationStatus ≠ .active) (fun _ _ => True) := by
  unfold releaseReservation
  split
  · cases hheld : run.tokenReservation with
    | none => exact Walks.of_throw trivial
    | some reservation =>
      dsimp only
      apply walks_then ht (walks_release ht env.now reservation)
      rintro _ h₁ ht₁ ⟨hspent, -, hon⟩
      refine (walks_markReleased (hk.of_runs hon.runs) hheld hspent env.now).mono ?_
        (fun _ _ _ => trivial)
      rintro a h₂ ⟨hk₂, hcourse, hended, -⟩
      exact ⟨⟨hk₂, hcourse⟩, by rw [hended]; decide⟩
  · rename_i hended
    exact Walks.of_pure ⟨.refl hk, hended⟩

theorem walks_acknowledgeRun (run : RunRecord) :
    Walks (Step full careless) h (acknowledge run) (fun _ h' => OnGateway h h')
      (fun _ _ => True) := by
  unfold acknowledge
  cases run.tokenReservation with
  | none => exact Walks.of_throw trivial
  | some reservation => exact (walks_acknowledge _).mono (fun _ _ hq => hq) (fun _ _ _ => trivial)

/-! ## Giving up a binding -/

theorem walks_cancelTask (taskId reason : JsString) (now : Option ℕ) :
    Walks (Step full careless) h (inSupervisor (SupervisorQueue.cancel taskId reason now))
      (fun _ h' => OnSupervisor h h') (fun _ h' => OnSupervisor h h') :=
  (walks_moved (keepsTasks_cancel taskId reason now)).mono (fun _ _ hq => hq.2)
    (fun _ _ he => he.2)

theorem walks_tryCancel (ht : Tidy full h) (env : Environment) (taskId reason : JsString) :
    Walks (Step full careless) h (tryCancel env taskId reason) (fun _ h' => OnSupervisor h h')
      (fun _ _ => True) := by
  unfold tryCancel
  refine walks_tryCatch (E := fun _ h' => OnSupervisor h h') ht ?_ ?_ (fun _ _ => trivial)
  · refine walks_bind ht (walks_cancelTask taskId reason (some env.now)) (fun _ _ he => he) ?_
    intro _ h₁ _ hon
    exact Walks.of_pure hon
  · intro e h₁ _ hon
    exact Walks.of_pure hon

/-- A task is cancelled, where it has to be. -/
theorem walks_cancelWhere (ht : Tidy full h) (env : Environment) (taskId reason : JsString)
    (wanted : Bool) :
    Walks (Step full careless) h
      (if wanted then tryCancel env taskId reason else pure none)
      (fun _ h' => OnSupervisor h h') (fun _ _ => True) := by
  split
  · exact walks_tryCancel ht env taskId reason
  · exact Walks.of_pure ⟨rfl, rfl, rfl⟩

theorem walks_tryRelease (ht : Tidy full h) (hk : Knows h run) (env : Environment) :
    Walks (Step full careless) h (tryRelease env run)
      (fun a h' => a.2 = none → OnCourse h' run a.1 ∧ a.1.reservationStatus ≠ .active)
      (fun _ _ => True) := by
  unfold tryRelease
  refine walks_tryCatch (E := fun _ _ => True) ht ?_ ?_ (fun _ _ => trivial)
  · apply walks_then ht (walks_releaseReservation ht hk env)
    intro a h₁ _ hfollows
    exact Walks.of_pure fun _ => hfollows
  · intro e h₁ _ _
    exact Walks.of_pure fun hnone => by cases hnone

/-- What is left of a run whose binding may have been given up. -/
structure StillAt (h' : Machine (World options)) (run a : RunRecord) : Prop where
  knows : Knows h' a
  current : a.current = run.current
  status : a.status = run.status
  reference : a.orchestrationRef = run.orchestrationRef

theorem OnCourse.stillAt {a : RunRecord} (hf : OnCourse h' run a) : StillAt h' run a :=
  ⟨hf.knows, hf.course.current, hf.course.status, hf.course.orchestrationRef⟩

theorem StillAt.trans {a b : RunRecord} {h'' : Machine (World options)} (h₁ : StillAt h' run a)
    (h₂ : StillAt h'' a b) : StillAt h'' run b :=
  ⟨h₂.knows, h₂.current.trans h₁.current, h₂.status.trans h₁.status,
    h₂.reference.trans h₁.reference⟩

theorem walks_clearBinding (hk : Knows h run) (hended : run.reservationStatus ≠ .active)
    (now : ℕ) :
    Walks (Step full careless) h (inRuns (clearRunSupervisorBinding run.runId now))
      (fun a h' => StillAt h' run a) (fun _ _ => True) := by
  refine (walks_cleared hk hended now).mono ?_ (fun _ _ he => he)
  rintro a h' ⟨rfl, -, hup⟩
  exact ⟨hup.knows, rfl, rfl, rfl⟩

theorem walks_clearCompensated (env : Environment) (taskId : JsString)
    {firstError : Option JsError}
    (hk : firstError = none → Knows h run ∧ run.reservationStatus ≠ .active) :
    Walks (Step full careless) h (clearCompensated env taskId run firstError)
      (fun a h' => firstError = none ∧ StillAt h' run a) (fun _ _ => True) := by
  unfold clearCompensated
  apply walks_read_bind
  cases firstError with
  | some error => exact Walks.of_throw trivial
  | none =>
    obtain ⟨hk, hended⟩ := hk rfl
    dsimp only
    split
    · exact (walks_clearBinding hk hended env.now).mono (fun _ _ hq => ⟨rfl, hq⟩) (fun _ _ he => he)
    · exact Walks.of_pure ⟨rfl, (OnCourse.refl hk).stillAt⟩

theorem walks_reconcileQueueCompensation (ht : Tidy full h) (hk : Knows h run)
    (env : Environment) :
    Walks (Step full careless) h (reconcileQueueCompensation env run)
      (fun a h' => StillAt h' run a) (fun _ _ => True) := by
  unfold reconcileQueueCompensation
  split
  · rename_i taskId _ _ _ _
    apply walks_read_bind
    apply walks_then ht (walks_cancelWhere ht env taskId (js "enqueue_failed") _)
    intro cancelError h₁ ht₁ hon
    have hk₁ : Knows h₁ run := hk.of_runs hon.runs
    apply walks_then ht₁ (walks_tryRelease ht₁ hk₁ env)
    rintro ⟨released, releaseError⟩ h₂ ht₂ hreleased
    -- what is thrown at the end is the first of the two errors
    have hends : cancelError.or releaseError = none →
        OnCourse h₂ run released ∧ released.reservationStatus ≠ .active := fun hnone =>
      hreleased (Option.or_eq_none_iff.1 hnone).2
    refine (walks_clearCompensated env taskId (fun hnone => ?_)).mono ?_ (fun _ _ he => he)
    · obtain ⟨hfollows, hended⟩ := hends hnone
      exact ⟨hfollows.knows, hended⟩
    · rintro a h₃ ⟨hnone, hstill⟩
      exact (hends hnone).1.stillAt.trans hstill
  · exact Walks.of_pure (OnCourse.refl hk).stillAt

/-- A binding that has to go goes before the run is queued. -/
theorem walks_settleCompensation (ht : Tidy full h) (hk : Knows h run) (env : Environment) :
    Walks (Step full careless) h (settleCompensation env run)
      (fun a h' => StillAt h' run a) (fun _ _ => True) := by
  unfold settleCompensation
  have hreconciled : Walks (Step full careless) h
      (if run.queueCompensationRequested then reconcileQueueCompensation env run else pure run)
      (fun a h' => StillAt h' run a) (fun _ _ => True) := by
    split
    · exact walks_reconcileQueueCompensation ht hk env
    · exact Walks.of_pure (OnCourse.refl hk).stillAt
  apply walks_then ht hreconciled
  intro a h₁ _ hstill
  split
  · rename_i hreleased
    have hended : a.reservationStatus ≠ .active := by
      rw [hreleased.2]
      decide
    exact (walks_clearBinding hstill.knows hended env.now).mono (fun _ _ hq => hstill.trans hq)
      (fun _ _ he => he)
  · exact Walks.of_pure hstill

/-! ## Queueing -/

/-- The handoff of a run carries what its revision says. -/
theorem handoffFor_handoffOf {sha256 : Sha256} {env : Environment} {handoff : GovernedHandoff}
    (hok : handoffFor sha256 env run = .ok handoff) : HandoffOf run handoff := by
  unfold handoffFor at hok
  split at hok
  · cases hok
  · split at hok
    · cases hok
    · cases hpacket : env.buildAgentPacket (js "Execute approved run " ++ run.runId ++
          js " revision " ++ decimal run.current.revision) (js "worker")
          run.current.estimatedTokens with
      | error e =>
        simp only [hpacket] at hok
        cases hok
      | ok packet =>
        cases hcwd : env.resolveEnabledProject run.current.projectId with
        | error e =>
          simp only [hpacket, hcwd] at hok
          cases hok
        | ok cwd =>
          simp only [hpacket, hcwd] at hok
          cases hok
          exact ⟨rfl, rfl, rfl, rfl, rfl, rfl⟩

/-- A handoff of a run is one of the run with the same revision. -/
theorem HandoffOf.of_stillAt {a : RunRecord} {handoff : GovernedHandoff}
    (hh : HandoffOf run handoff) (hcurrent : a.current = run.current) : HandoffOf a handoff := by
  have hid : handoffIdFor a = handoffIdFor run := by
    unfold handoffIdFor RunRecord.runId
    rw [hcurrent]
  have hreasoning : resolveLegacyRequestedReasoning a = resolveLegacyRequestedReasoning run := by
    unfold resolveLegacyRequestedReasoning
    rw [hcurrent]
  refine ⟨?_, ?_, ?_, ?_, ?_, ?_⟩
  · rw [hid]
    exact hh.handoffId
  · rw [hh.sessionId]
    exact congrArg (fun draft => some draft.runId) hcurrent.symm
  · rw [hcurrent]
    exact hh.vendor
  · rw [hcurrent]
    exact hh.model
  · rw [hcurrent]
    exact hh.prompt
  · rw [hreasoning]
    exact hh.reasoningEffort

/-- A run that can be queued with a task. -/
structure Bound (h' : Machine (World options)) (run a : RunRecord) (taskId : JsString) : Prop where
  still : StillAt h' run a
  task : a.supervisorTaskId = some taskId
  held : a.tokenReservation ≠ none

theorem walks_enqueueOrCompensate (ht : Tidy full h) (hk : Knows h run) {taskId : JsString}
    {handoff : GovernedHandoff} (hbound : run.supervisorTaskId = some taskId)
    (hhandoff : HandoffOf run handoff) (env : Environment) :
    Walks (Step full careless) h (enqueueOrCompensate env taskId handoff run.runId)
      (fun _ h' => OnSupervisor h h') (fun _ _ => True) := by
  unfold enqueueOrCompensate
  refine walks_tryCatch ht (walks_entered hk hbound hhandoff env) ?_ (fun _ _ => trivial)
  intro error h₁ ht₁ hstore
  have hk₁ : Knows h₁ run := hk.of_runs (congrArg World.runs hstore)
  apply walks_then ht₁ (walks_noted hk₁ (by intro run; rfl))
  rintro compensating h₂ ht₂ ⟨-, hstands, -⟩
  have hreconciled : Walks (Step full careless) h₂
      (tryCatch (do let _ ← reconcileQueueCompensation env compensating) fun _ => pure ())
      (fun _ _ => True) (fun _ _ => True) := by
    refine walks_tryCatch (E := fun _ _ => True) ht₂ ?_ ?_ (fun _ _ => trivial)
    · apply walks_then ht₂ (walks_reconcileQueueCompensation ht₂ hstands.1 env)
      intro _ h₃ _ _
      exact Walks.of_pure trivial
    · intro _ h₃ _ _
      exact Walks.of_pure trivial
  apply walks_then ht₂ hreconciled
  intro _ h₃ _ _
  exact Walks.of_throw trivial

/-- A run is bound to a task, the one it has or a new one. -/
theorem walks_bindRun (ht : Tidy full h) (hk : Knows h run) (happroved : run.status = .approved)
    (approved : RunRecord) {handoffId : JsString} (hid : handoffId = handoffIdFor run)
    (env : Environment) :
    Walks (Step full careless) h (bindRun env run.runId run approved handoffId)
      (fun taskId h' => ∃ a, Bound h' run a taskId) (fun _ _ => True) := by
  unfold bindRun
  split
  · rename_i reservation taskId hheld htask
    exact Walks.of_pure ⟨run, (OnCourse.refl hk).stillAt, htask, by rw [hheld]; simp⟩
  · rename_i hfree
    have hnone : run.tokenReservation = none ∨ run.supervisorTaskId = none := by
      by_contra hboth
      rw [not_or] at hboth
      obtain ⟨reservation, hheld⟩ := Option.ne_none_iff_exists'.1 hboth.1
      obtain ⟨taskId, htask⟩ := Option.ne_none_iff_exists'.1 hboth.2
      exact hfree reservation taskId hheld htask
    have hrequest : (reservationRequest approved (some run.runId) handoffId).handoffId =
        some (handoffIdFor run) := congrArg some hid
    apply walks_then ht (walks_reserve hk happroved hnone env.now hrequest)
    rintro reservation h₁ ht₁ ⟨hholds, hon⟩
    refine (walks_bound (hk.of_runs hon.runs) (fun _ => hholds) env.now).mono ?_ (fun _ _ he => he)
    rintro taskId h₂ ⟨now, hk₂, -⟩
    exact ⟨_, ⟨hk₂, rfl, rfl, rfl⟩, rfl, by simp [boundRun]⟩

/-- The approval is granted, so the run is approved, bound and queued. -/
theorem walks_queueApprovedRun (ht : Tidy full h) (hk : Knows h run)
    (hstatus : run.status = .draft ∨ run.status = .approved)
    (hgranted : ∃ approval ∈ h.store.approvals.records,
      approval.status = .approved ∧ approval.isFor run.runId run.current.revision = true)
    (env : Environment) (operator : JsString) :
    Walks (Step full careless) h
      (queueApprovedRun env run.runId run.current.revision operator)
      (fun _ _ => True) (fun _ _ => True) := by
  unfold queueApprovedRun
  apply walks_then ht (walks_approved hk hstatus rfl hgranted operator env.now)
  rintro approved h₁ ht₁ ⟨hk₁, hcurrent, happroved, -, -, -, -⟩
  have hid : approved.runId = run.runId := congrArg RunDraft.runId hcurrent
  apply walks_then ht₁ (walks_ofExcept _)
  rintro handoff h₁ ht₁ ⟨hhandoff, rfl⟩
  replace hhandoff := handoffFor_handoffOf hhandoff
  apply walks_then ht₁ (walks_record run.runId)
  rintro durable h₁ ht₁ ⟨rfl, hdurable, hdurableId⟩
  obtain rfl := hk₁.unique hdurable (hdurableId.trans hid.symm)
  apply walks_then ht₁ (walks_settleCompensation ht₁ hk₁ env)
  intro settled h₂ ht₂ hstill
  have hsettledId : settled.runId = run.runId :=
    (congrArg RunDraft.runId hstill.current).trans hid
  rw [← hsettledId]
  have hhandoff₂ := hhandoff.of_stillAt hstill.current
  apply walks_then ht₂ (walks_bindRun ht₂ hstill.knows (hstill.status.trans happroved)
    _ hhandoff₂.handoffId env)
  rintro taskId h₃ ht₃ ⟨bound, hbound⟩
  apply walks_read_bind
  have hboundId : bound.runId = settled.runId := congrArg RunDraft.runId hbound.still.current
  rw [← hboundId]
  have hentered : Walks (Step full careless) h₃
      (if h₃.store.task taskId = none then enqueueOrCompensate env taskId handoff bound.runId
        else pure ())
      (fun _ h' => OnSupervisor h₃ h') (fun _ _ => True) := by
    split
    · exact walks_enqueueOrCompensate ht₃ hbound.still.knows hbound.task
        (hhandoff₂.of_stillAt hbound.still.current) env
    · exact Walks.of_pure ⟨rfl, rfl, rfl⟩
  apply walks_then ht₃ hentered
  intro _ h₄ ht₄ hon
  exact walks_queued (hbound.still.knows.of_runs hon.runs) hbound.held env.now

/-- One record of the queue is decided. -/
theorem settles_set {records : List ApprovalQueueRecord} {index : ℕ}
    {approval decided : ApprovalQueueRecord} (hget : records[index]? = some approval)
    (hd : ApprovalQueue.Decides approval decided) :
    List.Forall₂ (Settles records) records (records.set index decided) := by
  rw [List.forall₂_iff_get]
  refine ⟨by simp, fun i hi hi' => ?_⟩
  simp only [List.get_eq_getElem, List.getElem_set]
  split
  · rename_i heq
    subst heq
    have hsame : records[index] = approval := by
      rw [List.getElem?_eq_getElem hi] at hget
      exact Option.some.inj hget
    rw [hsame]
    exact .inl hd
  · exact .inl (.refl _)

theorem walks_approveAndQueueRun (ht : Tidy full h) (env : Environment) (runId : JsString)
    (revision : ℕ) (operator : JsString) :
    Walks (Step full careless) h (approveAndQueueRun env runId revision operator)
      (fun _ _ => True) (fun _ _ => True) := by
  unfold approveAndQueueRun
  apply walks_then ht (walks_record runId)
  rintro before h ht ⟨rfl, hk, rfl⟩
  apply walks_then ht (walks_throwIf _ _)
  rintro _ h ht ⟨hrevision, rfl⟩
  obtain rfl := not_not.1 hrevision
  split
  · exact Walks.of_pure trivial
  · apply walks_then ht (walks_throwIf _ _)
    rintro _ h ht ⟨hopen, rfl⟩
    have hstatus : before.status = .draft ∨ before.status = .approved := by
      by_contra hneither
      exact hopen (not_or.1 hneither)
    apply walks_then ht (walks_throwIf _ _)
    rintro _ h ht ⟨-, rfl⟩
    apply walks_read_bind
    split
    · exact Walks.of_throw trivial
    · rename_i index hindex
      split
      · exact Walks.of_throw trivial
      · rename_i approval hget
        have hmem : approval ∈ h.store.approvals.records := List.mem_of_getElem? hget
        have hfor : approval.isFor before.runId before.current.revision = true := by
          obtain ⟨hlt, hfound⟩ := List.findIdx?_eq_some_iff_getElem.1 hindex
          rw [List.getElem?_eq_getElem hlt] at hget
          rw [← Option.some.inj hget]
          exact hfound.1
        apply walks_then ht (walks_throwIf _ _)
        rintro _ h ht ⟨-, rfl⟩
        apply walks_then ht (walks_granted _ hmem fun decided hdecides _ => ⟨?_, settles_set hget
          hdecides⟩)
        · rintro _ h₁ ht₁ ⟨⟨decided, hdecided, happroved, hrunId, hrev⟩, hon⟩
          refine walks_queueApprovedRun ht₁ (hk.of_runs hon.runs) hstatus
            ⟨decided, hdecided, happroved, ?_⟩ env operator
          unfold ApprovalQueueRecord.isFor at hfor ⊢
          rw [hrunId, hrev]
          exact hfor
        · exact List.mem_set (List.getElem?_eq_some_iff.1 hget).1 _

/-! ## Group runs -/

theorem walks_reserveOrchestrationGroup (hfull : full) (spec : OrchestrationGroupSpec) :
    Walks (Step full careless) h (reserveOrchestrationGroup spec)
      (fun _ h' => OnGateway h h') (fun _ h' => OnGateway h h') := by
  have hdrew : Drew (gatewayOf h) (reserveGroup options.limits spec (gatewayOf h)).2 := by
    rcases reserveGroup_cases options.limits (gatewayOf h) spec with ⟨e, hr⟩ | ⟨g, -, hr⟩ |
      ⟨slots, maximumTokens, candidate, -, hr⟩
    · rw [hr]
      exact .inl rfl
    · rw [hr]
      exact .inl rfl
    · exact .inl hr.supply
  exact (walks_metered (.reserveGroup spec) (fun hn => absurd hfull hn) rfl
    (fun hn => absurd hfull hn) hdrew).mono (fun _ _ hq => hq.2) (fun _ _ he => he)

/-- Nothing is drawn on the way. -/
def SameSupply (g g' : Machine Gateway) : Prop := g'.supply = g.supply

theorem SameSupply.refl (g : Machine Gateway) : SameSupply g g := rfl

theorem SameSupply.trans (g g' g'' : Machine Gateway) (h₁ : SameSupply g g')
    (h₂ : SameSupply g' g'') : SameSupply g g'' := Eq.trans h₂ h₁

theorem release_supply (now : ℕ) (reservation : TokenReservation) :
    Moves SameSupply (release now reservation) := by
  intro g
  rcases release_cases now g reservation with ⟨e, hr⟩ | ⟨-, -, hr⟩ | ⟨active, -, -, hr⟩
  · rw [hr]
    rfl
  · rw [hr]
    rfl
  · exact hr.supply

/-- The loop draws nothing. The induction is on the slots. -/
theorem releaseSlots_supply (now : ℕ) (requested : List JsString)
    (slots : List TokenGroupSlotReservation) :
    Moves SameSupply (releaseSlots now requested slots) := by
  induction slots with
  | nil => exact fun _ => rfl
  | cons slot slots ih =>
    have hrest : ∀ slot' : TokenGroupSlotReservation, Moves SameSupply
        (releaseSlots now requested slots >>= fun slots' => pure (slot' :: slots')) := fun _ =>
      Moves.bind SameSupply.trans ih fun _ => Moves.of_pure SameSupply.refl _
    unfold releaseSlots
    split
    · exact hrest slot
    · dsimp only
      split
      · exact Moves.bind SameSupply.trans (release_supply now _) fun _ => hrest _
      · have hfreed : Moves SameSupply (Host.update fun gateway : Gateway =>
            gateway.addUsage slot.toTokenGatewayRoute (-slot.holdTokens)) := fun _ => rfl
        exact Moves.bind SameSupply.trans hfreed fun _ => hrest _

theorem persist_supply : Moves SameSupply persist := by
  intro g
  rcases persist_cases g rfl with ⟨ws, -, hr⟩ | ⟨fault, ws, -, -, hr⟩
  · rw [hr]
    rfl
  · rw [hr]
    rfl

theorem releaseGroupSlots_supply (now : ℕ) (groupId : JsString) (slotIds : List JsString) :
    Moves SameSupply (releaseGroupSlots now groupId slotIds) := by
  unfold releaseGroupSlots
  refine Moves.bind SameSupply.trans (fun _ => rfl) fun gateway => ?_
  split
  · exact Moves.of_throw SameSupply.refl _
  · split
    · exact Moves.of_throw SameSupply.refl _
    · refine Moves.bind SameSupply.trans (releaseSlots_supply now slotIds _) fun slots => ?_
      refine Moves.bind SameSupply.trans (fun _ => rfl) fun _ => ?_
      exact Moves.bind SameSupply.trans persist_supply fun _ => Moves.of_pure SameSupply.refl _

theorem walks_releaseOrchestrationGroupSlots (hfull : full) (env : Environment)
    (groupId : JsString) (slotIds : List JsString) :
    Walks (Step full careless) h (releaseOrchestrationGroupSlots env groupId slotIds)
      (fun _ h' => OnGateway h h') (fun _ h' => OnGateway h h') :=
  (walks_metered (.releaseGroupSlots env.now groupId slotIds) (fun hn => absurd hfull hn) rfl
    (fun hn => absurd hfull hn) (.inl (releaseGroupSlots_supply env.now groupId slotIds _))).mono
    (fun _ _ hq => hq.2) (fun _ _ he => he)

theorem walks_claimGroupSlot (hfull : full) (now : ℕ) (groupId slotId : JsString)
    (input : TokenReservationRequest) :
    Walks (Step full careless) h (inGateway (claimGroupSlot options.limits now groupId slotId input))
      (fun _ h' => OnGateway h h') (fun _ h' => OnGateway h h') := by
  have hdrew : Drew (gatewayOf h)
      (claimGroupSlot options.limits now groupId slotId input (gatewayOf h)).2 := by
    rcases claimGroupSlot_cases options.limits now (gatewayOf h) groupId slotId input with
      ⟨e, hr⟩ | ⟨group, index, slot, -, -, -, ⟨r, -, -, hr⟩ | ⟨uuid, supply, hnext, -, -, -, hr⟩⟩
    · rw [hr]
      exact .inl rfl
    · rw [hr]
      exact .inl rfl
    · refine .inr ⟨uuid, ?_⟩
      rw [hr.supply]
      exact hnext
  exact (walks_metered (.claimGroupSlot now groupId slotId input) (fun hn => absurd hfull hn) rfl
    (fun hn => absurd hfull hn) hdrew).mono (fun _ _ hq => hq.2) (fun _ _ he => he)

theorem walks_groupRun (ht : Tidy full h) (hfull : full) (env : Environment)
    (ref : OrchestrationRef) (input : RunDraftInput) (operator : JsString) :
    Walks (Step full careless) h (groupRun env ref input operator)
      (fun run h' => Knows h' run ∧ run.orchestrationRef = some ref) (fun _ _ => True) := by
  unfold groupRun
  apply walks_read_bind
  split
  · rename_i run hfind
    have hk : Knows h run := knows_of_mem (List.mem_of_find?_eq_some hfind)
    have href : run.orchestrationRef = some ref := by simpa using List.find?_some hfind
    apply walks_then ht (walks_throwIf _ _)
    rintro _ h ht ⟨-, rfl⟩
    exact Walks.of_pure ⟨hk, href⟩
  · apply walks_then ht (walks_groupCreated hfull _ _ _ _ _)
    rintro _ h₁ ht₁ ⟨run, hk, href, hid⟩
    refine (walks_record _).mono ?_ (fun _ _ _ => trivial)
    rintro run₁ h₁ ⟨rfl, hk₁, hid₁⟩
    obtain rfl := hk.unique hk₁ (hid₁.trans hid.symm)
    exact ⟨hk, href⟩

theorem walks_groupApproval (ht : Tidy full h) (hk : Knows h run) (env : Environment) :
    Walks (Step full careless) h (groupApproval env run)
      (fun approval h' => approval ∈ h'.store.approvals.records ∧
        approval.isFor run.runId run.current.revision = true ∧ OnApprovals h h')
      (fun _ _ => True) := by
  unfold groupApproval
  apply walks_read_bind
  split
  · rename_i approval hfind
    have hfor := List.find?_some hfind
    exact Walks.of_pure ⟨List.mem_of_find?_eq_some hfind, hfor, ⟨rfl, rfl, rfl⟩⟩
  · have hasked : Walks (Step full careless) h
        (if run.status = .draft then pure (approvalFor run.current env.now)
          else ofExcept (ApprovalQueue.decideApproval (approvalFor run.current env.now) true env.now
            none) : Proc (World options) ApprovalQueueRecord)
        (fun approval h' => ApprovalQueue.Decides (approvalFor run.current env.now) approval ∧
          approval.status ≠ .rejected ∧ h' = h)
        (fun _ h' => h' = h) := by
      split
      · exact Walks.of_pure ⟨.refl _, by simp [approvalFor, ApprovalQueue.createApprovalRecord], rfl⟩
      · refine (walks_ofExcept _).mono ?_ (fun _ _ he => he)
        rintro approval _ ⟨hok, rfl⟩
        obtain ⟨-, hstatus, hdecides⟩ := ApprovalQueue.decideApproval_decides hok
        exact ⟨hdecides, by rw [hstatus]; simp, rfl⟩
    apply walks_then ht hasked
    rintro approval h ht ⟨hdecides, hstatus, rfl⟩
    apply walks_then ht (walks_asked hk hdecides.1 hstatus)
    rintro _ h₁ ht₁ ⟨hmem, hon⟩
    refine Walks.of_pure ⟨hmem, ?_, hon⟩
    have hrunId : approval.runId = some run.runId :=
      congrArg ApprovalQueueRecord.runId hdecides.1
    have hrevision : approval.revision = some run.current.revision :=
      congrArg ApprovalQueueRecord.revision hdecides.1
    simp [ApprovalQueueRecord.isFor, hrunId, hrevision]

/-- The granted approval takes the place of every record of its identifier. -/
theorem settles_map {records : List ApprovalQueueRecord} {approval decided : ApprovalQueueRecord}
    (hmem : approval ∈ records) (hd : ApprovalQueue.Decides approval decided)
    (hstatus : decided.status = .approved) :
    List.Forall₂ (Settles records) records
      (records.map fun item => if item.approvalId = approval.approvalId then decided else item) := by
  rw [List.forall₂_map_right_iff]
  refine List.forall₂_same.2 (fun item _ => ?_)
  split
  · rename_i hid
    exact .inr ⟨approval, hmem, hid.symm, hd, hstatus⟩
  · exact .inl (.refl _)

theorem walks_approveGroupRun (ht : Tidy full h) (hk : Knows h run)
    {approval : ApprovalQueueRecord} (hmem : approval ∈ h.store.approvals.records)
    (hfor : approval.isFor run.runId run.current.revision = true) (env : Environment)
    (operator : JsString) :
    Walks (Step full careless) h (approveGroupRun env run approval operator)
      (fun a h' => Knows h' a ∧ a.orchestrationRef = run.orchestrationRef) (fun _ _ => True) := by
  unfold approveGroupRun
  split
  · rename_i hdraft
    apply walks_read_bind
    apply walks_then ht (walks_granted (fun decided => h.store.approvals.records.map fun item =>
      if item.approvalId = approval.approvalId then decided else item) hmem
      fun decided hdecides hstatus =>
        ⟨List.mem_map.2 ⟨approval, hmem, if_pos rfl⟩, settles_map hmem hdecides hstatus⟩)
    rintro _ h₁ ht₁ ⟨⟨decided, hdecided, happroved, hrunId, hrev⟩, hon⟩
    have hgranted : ∃ approval ∈ h₁.store.approvals.records, approval.status = .approved ∧
        approval.isFor run.runId run.current.revision = true := by
      refine ⟨decided, hdecided, happroved, ?_⟩
      unfold ApprovalQueueRecord.isFor at hfor ⊢
      rw [hrunId, hrev]
      exact hfor
    refine (walks_approved (hk.of_runs hon.runs) (.inl hdraft) rfl hgranted operator env.now).mono
      ?_ (fun _ _ he => he)
    rintro a h₂ ⟨hk₂, -, -, href, -⟩
    exact ⟨hk₂, href⟩
  · exact Walks.of_pure ⟨hk, rfl⟩

theorem walks_bindGroupRun (ht : Tidy full h) (hfull : full) (hk : Knows h run)
    (hgroup : run.orchestrationRef ≠ none) (ref : OrchestrationRef) (slotSession : Option JsString)
    (handoffId : JsString) (env : Environment) :
    Walks (Step full careless) h (bindGroupRun env ref slotSession run handoffId)
      (fun taskId h' => ∃ a, Bound h' run a taskId) (fun _ _ => True) := by
  unfold bindGroupRun
  split
  · rename_i reservation taskId hheld htask
    exact Walks.of_pure ⟨run, (OnCourse.refl hk).stillAt, htask, by rw [hheld]; simp⟩
  · apply walks_then ht (walks_claimGroupSlot hfull _ _ _ _)
    intro reservation h₁ ht₁ hon
    apply walks_then ht₁ (walks_groupBound hfull (hk.of_runs hon.runs) hgroup reservation env.now)
    rintro _ h₂ ht₂ ⟨hk₂, -⟩
    exact Walks.of_pure ⟨_, ⟨hk₂, rfl, rfl, rfl⟩, rfl, by simp [boundRun]⟩

theorem walks_queueGroupRun (ht : Tidy full h) (hfull : full) (hk : Knows h run)
    (hgroup : run.orchestrationRef ≠ none) (ref : OrchestrationRef) (slotSession : Option JsString)
    (env : Environment) :
    Walks (Step full careless) h (queueGroupRun env ref slotSession run)
      (fun _ _ => True) (fun _ _ => True) := by
  unfold queueGroupRun
  apply walks_then ht (walks_throwIf _ _)
  rintro _ h ht ⟨-, rfl⟩
  apply walks_then ht (walks_ofExcept _)
  rintro handoff h ht ⟨hhandoff, rfl⟩
  replace hhandoff := handoffFor_handoffOf hhandoff
  apply walks_then ht (walks_bindGroupRun ht hfull hk hgroup ref slotSession handoff.handoffId env)
  rintro taskId h₁ ht₁ ⟨bound, hbound⟩
  apply walks_read_bind
  have hid : bound.runId = run.runId := congrArg RunDraft.runId hbound.still.current
  rw [← hid]
  have hentered : Walks (Step full careless) h₁
      (if h₁.store.task taskId = none then enqueueRun env taskId handoff bound.runId else pure ())
      (fun _ h' => OnSupervisor h₁ h') (fun _ _ => True) := by
    split
    · exact (walks_entered hbound.still.knows hbound.task
        (hhandoff.of_stillAt hbound.still.current) env).mono (fun _ _ hq => hq)
        (fun _ _ _ => trivial)
    · exact Walks.of_pure ⟨rfl, rfl, rfl⟩
  apply walks_then ht₁ hentered
  intro _ h₂ ht₂ hon
  exact walks_queued (hbound.still.knows.of_runs hon.runs) hbound.held env.now

theorem walks_ensureGroupRun (ht : Tidy full h) (hfull : full) (env : Environment)
    (ref : OrchestrationRef) (input : RunDraftInput) (operator : JsString)
    (strictRouteEligibility : Bool) :
    Walks (Step full careless) h (ensureGroupRun env ref input operator strictRouteEligibility)
      (fun _ _ => True) (fun _ _ => True) := by
  unfold ensureGroupRun
  apply walks_then ht (walks_ofExcept _)
  rintro _ h ht ⟨-, rfl⟩
  apply walks_then ht (walks_throwIf _ _)
  rintro _ h ht ⟨-, rfl⟩
  apply walks_read_bind
  split
  · exact Walks.of_throw trivial
  · rename_i slot _
    apply walks_then ht (walks_throwIf _ _)
    rintro _ h ht ⟨-, rfl⟩
    apply walks_then ht (walks_groupRun ht hfull env ref input operator)
    rintro run h₁ ht₁ ⟨hk, href⟩
    apply walks_then ht₁ (walks_groupApproval ht₁ hk env)
    rintro approval h₂ ht₂ ⟨hmem, hfor, hon⟩
    have hk₂ : Knows h₂ run := hk.of_runs hon.runs
    split
    · exact Walks.of_pure trivial
    · apply walks_then ht₂ (walks_approveGroupRun ht₂ hk₂ hmem hfor env operator)
      rintro a h₃ ht₃ ⟨hk₃, href₃⟩
      refine walks_queueGroupRun ht₃ hfull hk₃ ?_ ref slot.sessionId env
      rw [href₃, href]
      simp

end Autopilot
