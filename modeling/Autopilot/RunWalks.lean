/-
The calls of the stores, as steps of the control plane.

When the orchestrator calls a function of a store, the stores go through the
steps the last module lists, or stay as they are. There is one lemma for each
function: it says which step that is, what has to be known beforehand for its
guard, and what is known of the stores and of the run at hand when the function
returns. Where the orchestrator catches what the function throws, it also says
what is known then.

The functions of the orchestrator are put together from these in the modules
that follow, without looking into a store again.
-/
import Autopilot.RunTidy

set_option autoImplicit false

namespace Autopilot

open Prog Keyed RunStore

variable {options : OrchestratorOptions} {full careless : Prop}
variable {h h' : Machine (World options)} {run run' : RunRecord}

/-! ## The run store -/

theorem walks_queued (hk : Knows h run) (hheld : run.tokenReservation ≠ none) (now : ℕ) :
    Walks (Step full careless) h (inRuns (transitionRun run.runId .queued now))
      (fun _ _ => True) (fun _ _ => True) := by
  unfold transitionRun
  refine Walks.mono (walks_updateRun run.runId (fun _ => rfl) (fun run₁ hk₁ hid _ href => ?_))
    (fun _ _ _ => trivial) (fun _ _ _ => trivial)
  obtain rfl := hk.unique hk₁ hid
  refine .queued now ?_ hheld
  cases hs : run₁.status <;> simp_all [RunStatus.transitions]

theorem walks_started (hk : Knows h run) (now : ℕ) :
    Walks (Step full careless) h (inRuns (transitionRun run.runId .running now))
      (fun a h' => a = movedRun run .running now ∧ run.status = .queued ∧
        Updated h (movedRun run .running now) h')
      (fun _ _ => True) := by
  have hqueued : ∀ run₁ : RunRecord, decide (RunStatus.running ∉ run₁.status.transitions) = false →
      run₁.status = .queued := by
    intro run₁ href
    cases hs : run₁.status <;> simp_all [RunStatus.transitions]
  unfold transitionRun
  refine Walks.mono (walks_updateRun run.runId (fun _ => rfl) (fun run₁ hk₁ hid _ href => ?_)) ?_
    (fun _ _ _ => trivial)
  · exact .started now (hqueued run₁ href)
  · rintro a h' ⟨run₁, hk₁, hid, ⟨hfalse, -, -⟩ | ⟨-, href, rfl, hup⟩⟩
    · cases hfalse
    · obtain rfl := hk.unique hk₁ hid
      exact ⟨rfl, hqueued run₁ href, hup⟩

theorem walks_cancelled (hk : Knows h run) (hended : run.reservationStatus ≠ .active)
    (horphan : ¬ full → run.tokenReservation = none →
      h.store.gateway.unheld (keptHandoffId (handoffIdFor run))) (now : ℕ) :
    Walks (Step full careless) h (inRuns (transitionRun run.runId .cancelled now))
      (fun _ _ => True) (fun _ _ => True) := by
  unfold transitionRun
  refine Walks.mono (walks_updateRun run.runId (fun _ => rfl) (fun run₁ hk₁ hid _ href => ?_))
    (fun _ _ _ => trivial) (fun _ _ _ => trivial)
  obtain rfl := hk.unique hk₁ hid
  refine .cancelled now ?_ hended horphan
  cases hs : run₁.status <;> simp_all [RunStatus.transitions, RunStatus.terminal]

theorem walks_cleared (hk : Knows h run) (hended : run.reservationStatus ≠ .active) (now : ℕ) :
    Walks (Step full careless) h (inRuns (clearRunSupervisorBinding run.runId now))
      (fun a h' => a = unboundRun run now ∧ run.status = .approved ∧
        Updated h (unboundRun run now) h')
      (fun _ _ => True) := by
  have happroved : ∀ run₁ : RunRecord, decide (run₁.status ≠ .approved) = false →
      run₁.status = .approved := by
    intro run₁ href
    simpa using href
  unfold clearRunSupervisorBinding
  refine Walks.mono (walks_updateRun run.runId (fun _ => rfl) (fun run₁ hk₁ hid _ href => ?_)) ?_
    (fun _ _ _ => trivial)
  · obtain rfl := hk.unique hk₁ hid
    exact .unbound now (happroved run₁ href) hended
  · rintro a h' ⟨run₁, hk₁, hid, ⟨hfalse, -, -⟩ | ⟨-, href, rfl, hup⟩⟩
    · cases hfalse
    · obtain rfl := hk.unique hk₁ hid
      exact ⟨rfl, happroved run₁ href, hup⟩

/-- The record of a run that was rewritten, or was found as it should be. -/
def Stands (h : Machine (World options)) (run : RunRecord) (good : RunRecord → Prop)
    (a : RunRecord) (h' : Machine (World options)) : Prop :=
  Knows h' a ∧ SameCourse run a ∧ good a ∧ OnRuns h h'

theorem stands_of_rewrote {runId : JsString} {already refused : RunRecord → Bool}
    {f : RunRecord → RunRecord} {good : RunRecord → Prop} {a : RunRecord}
    (hk : Knows h run) (hid : run.runId = runId) (hcourse : SameCourse run (f run))
    (halready : already run = true → good run) (hgood : good (f run))
    (hr : Rewrote h runId already refused f a h') : Stands h run good a h' := by
  obtain ⟨run₁, hk₁, hid₁, ⟨ha, rfl, rfl⟩ | ⟨-, -, rfl, hup⟩⟩ := hr
  · obtain rfl := hk.unique hk₁ (hid₁.trans hid.symm)
    exact ⟨hk, .refl _, halready ha, .refl _⟩
  · obtain rfl := hk.unique hk₁ (hid₁.trans hid.symm)
    exact ⟨hup.knows, hcourse, hgood, hup.frame⟩

/-- A function that only makes a note of something. -/
theorem walks_noted (hk : Knows h run) {already refused : RunRecord → Bool} {error : String}
    {f : RunRecord → RunRecord} (hcore : ∀ run, (f run).core = run.core) :
    Walks (Step full careless) h (inRuns (updateRun run.runId already refused error f))
      (fun a h' => a.core = run.core ∧ Stands h run (fun _ => True) a h' ∧
        ∀ other ∈ h'.store.runs.runs, other = a ∨ other ∈ h.store.runs.runs)
      (fun _ h' => h'.store = h.store) := by
  have hid : ∀ run : RunRecord, (f run).runId = run.runId := fun run =>
    (sameCourse_of_core (hcore run)).runId
  refine Walks.mono (walks_updateRun run.runId hid fun run₁ _ _ _ _ => .noted _ (hcore run₁)) ?_
    (fun _ _ he => he)
  intro a h' hr
  refine ⟨?_, stands_of_rewrote hk rfl (sameCourse_of_core (hcore run)) (fun _ => trivial) trivial
    hr, ?_⟩
  · obtain ⟨run₁, hk₁, hid₁, ⟨-, rfl, -⟩ | ⟨-, -, rfl, -⟩⟩ := hr
    · rw [hk.unique hk₁ hid₁]
    · rw [hk.unique hk₁ hid₁]
      exact hcore run
  · intro other hother
    obtain ⟨run₁, -, -, ⟨-, -, rfl⟩ | ⟨-, -, rfl, hup⟩⟩ := hr
    · exact .inr hother
    · rw [hup.runs] at hother
      exact (mem_put hother).imp id And.left

theorem walks_flagged (hk : Knows h run) (now : ℕ) :
    Walks (Step full careless) h (inRuns (requestRunCancellation run.runId now))
      (fun a h' => Knows h' a ∧ OnRuns h h' ∧ a.cancellationRequested = true ∧
        (a = run ∨ a = flaggedRun run now))
      (fun _ _ => True) := by
  unfold requestRunCancellation
  refine Walks.mono (walks_updateRun run.runId (fun _ => rfl) (fun run₁ hk₁ hid _ href => ?_)) ?_
    (fun _ _ _ => trivial)
  · exact .flagged now href
  · rintro a h' ⟨run₁, hk₁, hid, ⟨ha, rfl, rfl⟩ | ⟨-, -, rfl, hup⟩⟩
    · obtain rfl := hk.unique hk₁ hid
      exact ⟨hk, .refl _, ha, .inl rfl⟩
    · obtain rfl := hk.unique hk₁ hid
      exact ⟨hup.knows, hup.frame, rfl, .inr rfl⟩

/-- A run whose reservation is released at the gateway. -/
theorem walks_markReleased (hk : Knows h run) {reservation : TokenReservation}
    (hheld : run.tokenReservation = some reservation)
    (hspent : ¬ full → h.store.gateway.spent reservation.reservationId) (now : ℕ) :
    Walks (Step full careless) h (inRuns (markRunReservationTerminal run.runId .released now))
      (Stands h run (fun a => a.reservationStatus = .released)) (fun _ h' => h'.store = h.store) := by
  unfold markRunReservationTerminal
  refine Walks.mono (walks_updateRun run.runId (fun _ => rfl) (fun run₁ hk₁ hid _ href => ?_)) ?_
    (fun _ _ he => he)
  · obtain rfl := hk.unique hk₁ hid
    exact .released reservation now (by simpa using href) hheld hspent
  · intro a h' hr
    refine stands_of_rewrote hk rfl ⟨rfl, rfl, rfl, rfl, rfl, rfl, rfl⟩ (fun ha => ?_) rfl hr
    exact of_decide_eq_true ha

/-- A run whose reservation is settled at the gateway. -/
theorem walks_settled (hk : Knows h run) {reservation : TokenReservation}
    (hheld : run.tokenReservation = some reservation) {inputTokens outputTokens : ℕ}
    (hgateway : ¬ full →
      h.store.gateway.settledAs reservation.reservationId inputTokens outputTokens) (now : ℕ) :
    Walks (Step full careless) h
      (inRuns (settleRunReservation run.runId inputTokens outputTokens now))
      (Stands h run (fun a => a.reservationStatus = .settled)) (fun _ _ => True) := by
  rcases settleRunReservation_cases (h := runsOf h) run.runId inputTokens outputTokens
    now with hr | ⟨run₁, hl, hs, hr⟩ | ⟨run₁, hl, hs, -, hr⟩
  · exact walks_refused hr.zoom fun _ => trivial
  · obtain rfl := hk.unique (knows_of_lookup hl) (lookup_mem hl).2
    exact Walks.of_ok (zoom_run hr) .refl ⟨hk, .refl _, hs, .refl _⟩
  · obtain rfl := hk.unique (knows_of_lookup hl) (lookup_mem hl).2
    have hchange : RunChange full careless h run₁
        (settledRun run₁ (runTokenSettlement inputTokens outputTokens) now) :=
      .settled reservation inputTokens outputTokens now hs hheld hgateway
    refine Walks.mono (walks_rewritten hk (by rfl) hchange hr) ?_ (fun _ _ _ => trivial)
    rintro a h' ⟨rfl, hup⟩
    exact ⟨hup.knows, ⟨rfl, rfl, rfl, rfl, rfl, rfl, rfl⟩, rfl, hup.frame⟩

theorem walks_finalized (hk : Knows h run) (hended : run.reservationStatus ≠ .active)
    (hguarded : Guarded careless run) {status : RunStatus}
    (hend : status = .completed ∨ status = .failed) (reason : Option JsString) (now : ℕ) :
    Walks (Step full careless) h (inRuns (finalizeRun run.runId status reason now))
      (fun a h' => a.tokenReservation = run.tokenReservation ∧ OnRuns h h') (fun _ _ => True) := by
  rcases finalizeRun_cases (h := runsOf h) run.runId status reason now with
    ⟨fault, t, hr, hstore, hw, hsupply⟩ | ⟨run₁, hl, -, hr⟩ |
      ⟨run₁, t, hl, hopen, -, ⟨hruns, hw, hsupply⟩, hr⟩
  · refine Walks.of_error (zoom_run hr) ?_ trivial
    rcases hstore with hsame | ⟨run₁, hl, hqueued, hruns⟩
    · refine step_kept ?_ (.inl hsupply) hw
      show (World.runsLens options).set h.store t.store = h.store
      rw [hsame]
      exact (World.runsLens options).set_get _
    -- the first of the two writes was made
    · have hk₁ : Knows h run₁ := knows_of_lookup hl
      exact .single ⟨fun _ => hw, .changed run₁ (movedRun run₁ .running now) hk₁
        (.started now hqueued) hruns ⟨rfl, rfl, rfl⟩ hsupply⟩
  · obtain rfl := hk.unique (knows_of_lookup hl) (lookup_mem hl).2
    refine Walks.of_ok (zoom_run hr) .refl ⟨rfl, ?_⟩
    rw [Lens.set_get]
    exact .refl _
  · obtain rfl := hk.unique (knows_of_lookup hl) (lookup_mem hl).2
    refine Walks.of_ok (zoom_run hr) (.single ⟨fun _ => hw, ?_⟩) ⟨rfl, rfl, rfl, rfl⟩
    exact .changed run₁ (finalizedRun run₁ status reason now) hk
      (.finalized status reason now hopen hend hended hguarded) hruns ⟨rfl, rfl, rfl⟩ hsupply

theorem walks_withResult (runId : JsString) (result : RunProviderResult) (now : ℕ) :
    Walks (Step full careless) h (inRuns (recordRunProviderResult runId result now))
      (fun a h' => ∃ run, Knows h run ∧ run.runId = runId ∧
        (run.status = .queued ∨ run.status = .running) ∧
        Stands h run (fun a => a.retryInputTokens = run.retryInputTokens ∧
          a.retryOutputTokens = run.retryOutputTokens) a h')
      (fun _ _ => True) := by
  rcases recordRunProviderResult_cases (h := runsOf h) runId result now with
    hr | ⟨run₁, hl, hopen, -, hr⟩ | ⟨run₁, hl, hopen, -, -, hr⟩
  · exact walks_refused hr.zoom fun _ => trivial
  · have hk₁ : Knows h run₁ := knows_of_lookup hl
    exact Walks.of_ok (zoom_run hr) .refl
      ⟨run₁, hk₁, (lookup_mem hl).2, hopen, hk₁, .refl _, ⟨rfl, rfl⟩, .refl _⟩
  · have hk₁ : Knows h run₁ := knows_of_lookup hl
    have hchange : RunChange full careless h run₁ (withResult run₁ result now) := .noted _ rfl
    refine Walks.mono (walks_rewritten hk₁ (by rfl) hchange hr) ?_ (fun _ _ _ => trivial)
    rintro a h' ⟨rfl, hup⟩
    exact ⟨run₁, hk₁, (lookup_mem hl).2, hopen, hup.knows, sameCourse_of_core rfl, ⟨rfl, rfl⟩,
      hup.frame⟩

theorem walks_withArtifact (hk : Knows h run) (artifactId : JsString) (type : RunArtifactType)
    (preview : JsString) (now : ℕ) :
    Walks (Step full careless) h (inRuns (appendRunArtifact run.runId artifactId type preview now))
      (fun a h' => Stands h run (fun a => a.core = run.core) a h') (fun _ _ => True) := by
  rcases appendRunArtifact_cases (h := runsOf h) run.runId artifactId type preview now
    with hr | ⟨run₁, hl, -, hr⟩
  · exact walks_refused hr.zoom fun _ => trivial
  · obtain rfl := hk.unique (knows_of_lookup hl) (lookup_mem hl).2
    have hchange : RunChange full careless h run₁
        (withArtifact run₁ ⟨artifactId, type, preview, now⟩) := .noted _ rfl
    refine Walks.mono (walks_rewritten hk (by rfl) hchange hr) ?_ (fun _ _ _ => trivial)
    rintro a h' ⟨rfl, hup⟩
    exact ⟨hup.knows, sameCourse_of_core rfl, rfl, hup.frame⟩

/-- The approval of a revision, whose record is granted. -/
theorem walks_approved (hk : Knows h run) (hstatus : run.status = .draft ∨ run.status = .approved)
    {revision : ℕ} (hrevision : run.current.revision = revision)
    (hgranted : ∃ approval ∈ h.store.approvals.records,
      approval.status = .approved ∧ approval.isFor run.runId run.current.revision = true)
    (operator : JsString) (now : ℕ) :
    Walks (Step full careless) h (inRuns (approveRunRevision run.runId revision operator now))
      (fun a h' => Knows h' a ∧ a.current = run.current ∧ a.status = .approved ∧
        a.orchestrationRef = run.orchestrationRef ∧ a.tokenReservation = run.tokenReservation ∧
        a.supervisorTaskId = run.supervisorTaskId ∧ OnRuns h h')
      (fun _ _ => True) := by
  rcases approveRunRevision_cases (h := runsOf h) run.runId revision operator now with
    hr | ⟨run₁, hl, hrev, hr⟩ | ⟨run₁, hl, hdraft, hrev, -, hr⟩
  · exact walks_refused hr.zoom fun _ => trivial
  · obtain rfl := hk.unique (knows_of_lookup hl) (lookup_mem hl).2
    have happroved : run₁.status = .approved := by
      rcases hstatus with hs | hs
      -- a draft is not approved
      · have hv := h.store.runs.record_valid hk.mem
        simp only [isRunRecord, Bool.and_eq_true] at hv
        have hlacks : run₁.approvalIsValid = true := by simp_all
        rw [RunRecord.approvalIsValid, hs] at hlacks
        simp [RunRecord.lacksApproval, hrev] at hlacks
      · exact hs
    exact Walks.of_ok (zoom_run hr) .refl ⟨hk, rfl, happroved, rfl, rfl, rfl, .refl _⟩
  · obtain rfl := hk.unique (knows_of_lookup hl) (lookup_mem hl).2
    subst hrev
    refine Walks.mono (walks_rewritten hk (by rfl) (.approved operator now hdraft hgranted) hr) ?_
      (fun _ _ _ => trivial)
    rintro a h' ⟨rfl, hup⟩
    exact ⟨hup.knows, rfl, rfl, rfl, rfl, rfl, hup.frame⟩

/-- A function of the run store that only drew. -/
theorem walks_drew {α : Type} {Q : α → Machine (World options) → Prop}
    {p : Proc RunStore α} {fault : Fault JsError} {t : Machine RunStore}
    (hr : p (runsOf h) = (.error fault, t)) (hdrew : OnlyDrew (runsOf h) t) :
    Walks (Step full careless) h (inRuns p) Q (fun _ _ => True) := by
  obtain ⟨hstore, hw, hdraws⟩ := hdrew
  refine Walks.of_error (zoom_run hr) (step_kept ?_ hdraws hw) trivial
  show (World.runsLens options).set h.store t.store = h.store
  rw [hstore]
  exact (World.runsLens options).set_get _

theorem walks_created (resolve : JsString → Except JsError JsString) (input : RunDraftInput)
    (now : ℕ) :
    Walks (Step full careless) h (inRuns (createRunDraft resolve input now))
      (fun draft h' => ∃ run, Knows h' run ∧ run.current = draft ∧ run.status = .draft)
      (fun _ _ => True) := by
  rcases createRunDraft_cases (h := runsOf h) resolve input now with
    ⟨fault, t, hr, hdrew⟩ | ⟨uuid, t, hnext, hinput, hw, hruns, hr⟩
  · exact walks_drew hr hdrew
  · refine Walks.of_ok (zoom_run hr) (.single ⟨fun _ => hw, ?_⟩)
      ⟨newRun (newDraft input uuid.text 1 now) none none, ?_, rfl, rfl⟩
    · exact .created input now uuid hnext hinput hruns ⟨rfl, rfl, rfl⟩
    · refine knows_of_mem ?_
      show _ ∈ t.store.runs
      rw [hruns]
      exact List.mem_append_right _ (List.mem_singleton_self _)

theorem walks_groupCreated (hfull : full) (resolve : JsString → Except JsError JsString)
    (ref : OrchestrationRef) (operator : JsString) (input : RunDraftInput) (now : ℕ) :
    Walks (Step full careless) h
      (inRuns (createGroupRunDraft options.queue.sha256 resolve
        (deterministicGroupRunId options.queue.sha256 ref.groupId ref.slotId) ref operator input
        now))
      (fun _ h' => ∃ run, Knows h' run ∧ run.orchestrationRef = some ref ∧
        run.runId = deterministicGroupRunId options.queue.sha256 ref.groupId ref.slotId)
      (fun _ _ => True) := by
  rcases createGroupRunDraft_cases (h := runsOf h) options.queue.sha256 resolve
    (deterministicGroupRunId options.queue.sha256 ref.groupId ref.slotId) ref operator input now
    with ⟨fault, t, hr, hdrew⟩ | ⟨request, t, hnew, hinput, hw, hsupply, hruns, hr⟩
  · exact walks_drew hr hdrew
  · refine Walks.of_ok (zoom_run hr) (.single ⟨fun _ => hw, ?_⟩) ⟨newRun (newDraft input
      (deterministicGroupRunId options.queue.sha256 ref.groupId ref.slotId) 1 now) (some ref)
      (some request), ?_, rfl, rfl⟩
    · exact .groupCreated hfull input now ref request hinput hnew hruns ⟨rfl, rfl, rfl⟩ hsupply
    · refine knows_of_mem ?_
      show _ ∈ t.store.runs
      rw [hruns]
      exact List.mem_append_right _ (List.mem_singleton_self _)

theorem walks_revised (resolve : JsString → Except JsError JsString) (runId : JsString)
    (revision : ℕ) (input : RunDraftInput) (now : ℕ) :
    Walks (Step full careless) h (inRuns (reviseRunDraft resolve runId revision input now))
      (fun draft h' => ∃ run, Knows h' run ∧ run.current = draft) (fun _ _ => True) := by
  rcases reviseRunDraft_cases (h := runsOf h) resolve runId revision input now with
    ⟨fault, t, hr, hdrew⟩ | ⟨run, t, hl, hdraft, hrev, hinput, ⟨hruns, hw, hsupply⟩, hr⟩
  · exact walks_drew hr hdrew
  · have hk : Knows h run := knows_of_lookup hl
    obtain ⟨-, rfl⟩ := lookup_mem hl
    subst hrev
    have hupdated : Updated h
        (revisedRun run (newDraft input run.runId (run.current.revision + 1) now) now)
        ((Host.lens (World.runsLens options)).set h t) :=
      updated_of_runs hk rfl hruns ⟨rfl, rfl, rfl⟩ hsupply
    refine Walks.of_ok (zoom_run hr) (.single ⟨fun _ => hw, ?_⟩) ⟨_, hupdated.knows, rfl⟩
    exact .changed run _ hk (.revised input now hdraft hinput) hruns ⟨rfl, rfl, rfl⟩ hsupply

/-- A new task identifier, and the run bound to it. -/
theorem walks_bound (hk : Knows h run) {reservation : TokenReservation}
    (hholds : ¬ full → HoldsFor h run reservation) (now : ℕ) :
    Walks (Step full careless) h
      ((randomUUID : Proc (World options) Uuid) >>= fun uuid =>
        inRuns (bindRunToSupervisor run.runId (runTaskId uuid.text) reservation now) >>= fun _ =>
          pure (runTaskId uuid.text))
      (fun taskId h' => ∃ now', Knows h' (boundRun run taskId reservation now') ∧ OnRuns h h')
      (fun _ _ => True) := by
  cases hnext : h.supply.next with
  | none =>
    have hdraw : (randomUUID : Proc (World options) Uuid) h =
        (.error (.thrown (JsError.new "ERR_CRYPTO_OPERATION_FAILED")), h) := by
      simp only [randomUUID, Host.draw, hnext]
    exact Walks.of_error (bind_run_error hdraw) .refl trivial
  | some drawn =>
    obtain ⟨uuid, supply⟩ := drawn
    let h₁ : Machine (World options) := { h with supply }
    have hdraw : (randomUUID : Proc (World options) Uuid) h = (.ok uuid, h₁) := by
      simp only [randomUUID, Host.draw, hnext]
      rfl
    have hdraws : Draws h h₁ := .inr ⟨uuid, hnext⟩
    unfold Walks
    rw [bind_run_ok hdraw, bind_run]
    unfold bindRunToSupervisor
    rcases updateRun_cases (h := runsOf h₁) run.runId (fun _ => false)
      (fun record => record.status ≠ .approved || record.supervisorTaskId ≠ none ||
        !validString (runTaskId uuid.text) maxIdLength || !validReservation reservation ||
        reservation.totalTokens ≠ record.current.estimatedTokens) "invalid_run_binding"
      (f := fun record => boundRun record (runTaskId uuid.text) reservation now)
      (fun _ => rfl) with
      hr | ⟨run₁, -, hfalse, -⟩ | ⟨run₁, hl, -, href, -, store, hstore, hwrites⟩
    · obtain ⟨e, hrun⟩ := hr.zoom
      unfold inRuns
      erw [hrun]
      exact ⟨step_kept rfl hdraws (List.Subset.refl _), trivial⟩
    · cases hfalse
    · obtain rfl := hk.unique (knows_of_lookup (h := h) hl) (lookup_mem hl).2
      have hguard : run₁.status = .approved ∧ run₁.supervisorTaskId = none := by
        simp only [Bool.or_eq_false_iff, decide_eq_false_iff_not, not_not] at href
        exact ⟨href.1.1.1.1, href.1.1.1.2⟩
      rcases hwrites with ⟨ws, hws, hrun⟩ | ⟨fault, ws, hws, -, hrun⟩
      · unfold inRuns
        erw [zoom_run hrun]
        have hupdated : Updated h₁ (boundRun run₁ (runTaskId uuid.text) reservation now)
            ((Host.lens (World.runsLens options)).set h₁ ⟨store, ws, h₁.supply⟩) :=
          updated_of_runs (h := h₁) hk rfl hstore ⟨rfl, rfl, rfl⟩ rfl
        refine ⟨.single ⟨fun _ => hws, ?_⟩, now, hupdated.knows, ⟨rfl, rfl, rfl⟩⟩
        exact .bound run₁ uuid reservation now hnext hk hguard.1 hguard.2 hholds hstore
          ⟨rfl, rfl, rfl⟩
      · unfold inRuns
        erw [zoom_run hrun]
        exact ⟨step_kept rfl hdraws hws, trivial⟩

theorem walks_groupBound (hfull : full) (hk : Knows h run) (hgroup : run.orchestrationRef ≠ none)
    (reservation : TokenReservation) (now : ℕ) :
    Walks (Step full careless) h
      (inRuns (bindRunToSupervisor run.runId (runTaskId run.runId) reservation now))
      (fun _ h' => Knows h' (boundRun run (runTaskId run.runId) reservation now) ∧ OnRuns h h')
      (fun _ _ => True) := by
  have hguard : ∀ run₁ : RunRecord, (run₁.status ≠ .approved || run₁.supervisorTaskId ≠ none ||
      !validString (runTaskId run.runId) maxIdLength || !validReservation reservation ||
      reservation.totalTokens ≠ run₁.current.estimatedTokens) = false →
      run₁.status = .approved ∧ run₁.supervisorTaskId = none := by
    intro run₁ href
    simp only [Bool.or_eq_false_iff, decide_eq_false_iff_not, not_not] at href
    exact ⟨href.1.1.1.1, href.1.1.1.2⟩
  unfold bindRunToSupervisor
  refine Walks.mono (walks_updateRun run.runId (fun _ => rfl) (fun run₁ hk₁ hid _ href => ?_)) ?_
    (fun _ _ _ => trivial)
  · obtain rfl := hk.unique hk₁ hid
    obtain ⟨happroved, hfree⟩ := hguard run₁ href
    exact .groupBound hfull reservation now happroved hfree hgroup
  · rintro a h' ⟨run₁, hk₁, hid, ⟨hfalse, -, -⟩ | ⟨-, -, rfl, hup⟩⟩
    · cases hfalse
    · obtain rfl := hk.unique hk₁ hid
      exact ⟨hup.knows, hup.frame⟩

/-! ## The approval queue -/

/-- A write of the approval queue. -/
theorem walks_approvals {records : List ApprovalQueueRecord}
    (hchange : ∀ h' : Machine (World options), h'.store.approvals.records = records →
      OnApprovals h h' → h'.supply = h.supply → Change full careless h h') :
    Walks (Step full careless) h (inApprovals (ApprovalQueue.writeApprovalQueue records))
      (fun _ h' => h'.store.approvals.records = records ∧ OnApprovals h h')
      (fun _ _ => True) := by
  rcases ApprovalQueue.writeApprovalQueue_cases (h := approvalsOf h) records with
    hr | ⟨queue, rfl, ⟨ws, hws, hrun⟩ | ⟨fault, ws, hws, -, hrun⟩⟩
  · exact walks_refused hr.zoom fun _ => trivial
  · have hframe : OnApprovals h ((Host.lens (World.approvalsLens options)).set h
        ⟨queue, ws, h.supply⟩) := ⟨rfl, rfl, rfl⟩
    exact Walks.of_ok (zoom_run hrun) (.single ⟨fun _ => hws, hchange _ rfl hframe rfl⟩)
      ⟨rfl, hframe⟩
  · exact Walks.of_error (zoom_run hrun) (step_kept rfl (.inl rfl) hws) trivial

/-- The approval of a revision is asked for. -/
theorem walks_asked (hk : Knows h run) {approval : ApprovalQueueRecord} {now : ℕ}
    (hfor : ApprovalQueue.undecided approval = approvalFor run.current now)
    (hstatus : approval.status ≠ .rejected) :
    Walks (Step full careless) h (askApproval approval)
      (fun _ h' => approval ∈ h'.store.approvals.records ∧ OnApprovals h h') (fun _ _ => True) := by
  unfold askApproval
  refine walks_read_bind (Walks.mono (walks_approvals fun h' hrecords hframe hsupply => ?_) ?_
    (fun _ _ _ => trivial))
  · exact .asked run approval now hk hfor hrecords hstatus hframe hsupply
  · rintro _ h' ⟨hrecords, hframe⟩
    rw [hrecords]
    exact ⟨List.mem_append_right _ (List.mem_singleton_self _), hframe⟩

/-- An approval of the list is granted. -/
theorem walks_granted {approval : ApprovalQueueRecord} {env : Environment}
    (granted : ApprovalQueueRecord → List ApprovalQueueRecord)
    (hmem : approval ∈ h.store.approvals.records)
    (hgranted : ∀ decided, ApprovalQueue.Decides approval decided → decided.status = .approved →
      decided ∈ granted decided ∧
        List.Forall₂ (Settles h.store.approvals.records) h.store.approvals.records
          (granted decided)) :
    Walks (Step full careless) h (grantApproval env approval granted)
      (fun _ h' => (∃ decided ∈ h'.store.approvals.records, decided.status = .approved ∧
        decided.runId = approval.runId ∧ decided.revision = approval.revision) ∧ OnApprovals h h')
      (fun _ _ => True) := by
  unfold grantApproval
  cases hs : approval.status with
  | pending =>
    dsimp only
    cases hd : ApprovalQueue.decideApproval approval true env.now none with
    | error e => exact Walks.of_error rfl .refl trivial
    | ok decided =>
      obtain ⟨-, hstatus, hdecides⟩ := ApprovalQueue.decideApproval_decides hd
      obtain ⟨hin, hall⟩ := hgranted decided hdecides hstatus
      show Walks _ h (inApprovals (ApprovalQueue.writeApprovalQueue (granted decided))) _ _
      refine Walks.mono (walks_approvals fun h' hrecords hframe hsupply => ?_) ?_
        (fun _ _ _ => trivial)
      · exact .decided (by rw [hrecords]; exact hall) hframe hsupply
      · rintro _ h' ⟨hrecords, hframe⟩
        refine ⟨⟨decided, by rw [hrecords]; exact hin, hstatus, ?_, ?_⟩, hframe⟩
        · exact congrArg (·.runId) hdecides.1
        · exact congrArg (·.revision) hdecides.1
  | approved => exact Walks.of_pure ⟨⟨approval, hmem, hs, rfl, rfl⟩, rfl, rfl, rfl⟩
  | rejected => exact Walks.of_throw trivial

/-- The approval route. -/
theorem walks_decided (env : Environment) (approvalId : JsString) (approved : Bool)
    (reason : Option JsString) :
    Walks (Step full careless) h (decideApprovalHttp env approvalId approved reason)
      (fun _ _ => True) (fun _ _ => True) := by
  rcases ApprovalQueue.decideApprovalHttp_cases (h := approvalsOf h) approvalId approved env.now
    reason with hr | ⟨queue, hall, ⟨ws, hws, hrun⟩ | ⟨fault, ws, hws, -, hrun⟩⟩
  · exact walks_refused hr.zoom fun _ => trivial
  · refine Walks.of_ok (zoom_run hrun) (.single ⟨fun _ => hws, ?_⟩) trivial
    exact .decided (hall.imp fun _ _ hd => .inl hd) ⟨rfl, rfl, rfl⟩ rfl
  · exact Walks.of_error (zoom_run hrun) (step_kept rfl (.inl rfl) hws) trivial

/-! ## The supervisor -/

/-- What a method of the supervisor leaves that enters no task. -/
structure KeepsTasks (q q' : Machine (SupervisorQueue options.queue)) : Prop where
  order : q'.store.state.tasks.map (·.order) = q.store.state.tasks.map (·.order)
  file : q'.store = q.store ∨ q'.store.file = q'.store.state
  writes : q'.writes ⊆ q.writes
  supply : q'.supply = q.supply

variable {q q' : Machine (SupervisorQueue options.queue)}

theorem KeepsTasks.refl (q : Machine (SupervisorQueue options.queue)) : KeepsTasks q q :=
  ⟨rfl, .inl rfl, List.Subset.refl _, rfl⟩

theorem KeepsTasks.trans {q'' : Machine (SupervisorQueue options.queue)} (h₁ : KeepsTasks q q')
    (h₂ : KeepsTasks q' q'') : KeepsTasks q q'' := by
  refine ⟨h₂.order.trans h₁.order, ?_, List.Subset.trans h₂.writes h₁.writes,
    h₂.supply.trans h₁.supply⟩
  rcases h₂.file with hsame | hfile
  · rcases h₁.file with hsame' | hfile
    · exact .inl (hsame.trans hsame')
    · rw [hsame]
      exact .inr hfile
  · exact .inr hfile

theorem keepsTasks_of_writes {α : Type} {next : SupervisorState options.queue} {a : α}
    {result : Except (Fault JsError) α × Machine (SupervisorQueue options.queue)}
    (horder : next.tasks.map (·.order) = q.store.state.tasks.map (·.order))
    (hw : Publishes q next a result) : KeepsTasks q result.2 := by
  rcases hw with ⟨ws, hws, rfl⟩ | ⟨fault, ws, hws, -, rfl⟩
  · exact ⟨horder, .inr rfl, hws, rfl⟩
  · exact ⟨rfl, .inl rfl, hws, rfl⟩

/-- One task was rewritten under its identifier and with its handoff. -/
theorem keepsTasks_of_rewrites {task task' : SupervisorTask}
    {result : Except (Fault JsError) SupervisorTask × Machine (SupervisorQueue options.queue)}
    (hl : lookup SupervisorTask.taskId q.store.state.tasks task.taskId = some task)
    (hr : Rewrites q task' result) (horder : task'.order = task.order) :
    KeepsTasks q result.2 := by
  obtain ⟨state, hstate, hw⟩ := hr
  refine keepsTasks_of_writes ?_ hw
  rw [hstate, List.map_map]
  refine List.map_congr_left (fun candidate hc => ?_)
  simp only [Function.comp_apply, put]
  split
  · rename_i hid
    have hid' : candidate.taskId = task.taskId := hid.trans (congrArg Prod.fst horder)
    have hfound := q.store.state.lookup_of_mem hc
    rw [hid', hl] at hfound
    rw [horder, Option.some.inj hfound]
  · rfl

theorem keepsTasks_refused {α : Type}
    {result : Except (Fault JsError) α × Machine (SupervisorQueue options.queue)}
    (hr : q.Refuses result) : KeepsTasks q result.2 := by
  obtain ⟨e, rfl⟩ := hr
  exact .refl q

/-- **Every method of the supervisor but `enqueue`** only moves tasks. -/
theorem walks_moved {α : Type} {p : Proc (SupervisorQueue options.queue) α}
    (hkeeps : KeepsTasks (supervisorOf h) (p (supervisorOf h)).2) :
    Walks (Step full careless) h (inSupervisor p)
      (fun a h' => p (supervisorOf h) = (.ok a, supervisorOf h') ∧ OnSupervisor h h')
      (fun e h' => p (supervisorOf h) = (.error e, supervisorOf h') ∧ OnSupervisor h h') := by
  have hstep : Relation.ReflTransGen (Step full careless) h
      ((Host.lens (World.supervisorLens options)).set h (p (supervisorOf h)).2) := by
    rcases hkeeps.file with hsame | hfile
    · refine step_kept ?_ (.inl hkeeps.supply) hkeeps.writes
      show (World.supervisorLens options).set h.store (p (supervisorOf h)).2.store = h.store
      rw [hsame]
      exact (World.supervisorLens options).set_get _
    · exact .single ⟨fun _ => hkeeps.writes, .moved hkeeps.order hfile ⟨rfl, rfl, rfl⟩
        hkeeps.supply⟩
  rcases hrun : p (supervisorOf h) with ⟨fault | a, t⟩
  · rw [hrun] at hstep
    exact Walks.of_error (zoom_run hrun) hstep ⟨by rfl, ⟨rfl, rfl, rfl⟩⟩
  · rw [hrun] at hstep
    exact Walks.of_ok (zoom_run hrun) hstep ⟨by rfl, ⟨rfl, rfl, rfl⟩⟩

theorem keepsTasks_cancel (taskId reason : JsString) (now : Option ℕ) :
    KeepsTasks q (SupervisorQueue.cancel taskId reason now q).2 := by
  rcases cancel_cases (h := q) taskId reason now with hr | ⟨instant, task, -, hl, -, hr⟩
  · exact keepsTasks_refused hr
  · obtain ⟨-, rfl⟩ := lookup_mem hl
    exact keepsTasks_of_rewrites hl hr rfl

theorem keepsTasks_complete (taskId : JsString) (now : Option ℕ) :
    KeepsTasks q (SupervisorQueue.complete taskId now q).2 := by
  rcases complete_cases (h := q) taskId now with hr | ⟨instant, task, -, hl, hr⟩
  · exact keepsTasks_refused hr
  · obtain ⟨-, rfl⟩ := lookup_mem hl
    exact keepsTasks_of_rewrites hl hr rfl

theorem keepsTasks_fail (taskId reason : JsString) (now : Option ℕ)
    (attemptDelta : Option JsString) :
    KeepsTasks q (SupervisorQueue.fail taskId reason now attemptDelta q).2 := by
  rcases fail_cases (h := q) taskId reason now attemptDelta with
    hr | ⟨instant, task, -, hl, -, ⟨-, delta, hr⟩ | ⟨-, hr⟩⟩
  · exact keepsTasks_refused hr
  · obtain ⟨-, rfl⟩ := lookup_mem hl
    exact keepsTasks_of_rewrites hl hr rfl
  · obtain ⟨-, rfl⟩ := lookup_mem hl
    exact keepsTasks_of_rewrites hl hr rfl

theorem reconciled_order (state : SupervisorState options.queue) (now : ℕ) :
    (state.reconciled now).tasks.map (·.order) = state.tasks.map (·.order) := by
  rw [SupervisorState.reconciled, List.map_map]
  refine List.map_congr_left (fun task _ => ?_)
  simp only [Function.comp_apply, SupervisorQueue.reconciledTask]
  split
  · split <;> rfl
  · rfl

theorem Reconciled.keepsTasks {now : ℕ} (hr : Reconciled q now q') : KeepsTasks q q' := by
  obtain ⟨hstate, hw, hsupply, hnone, hsome⟩ := hr
  refine ⟨by rw [hstate, reconciled_order], ?_, hw, hsupply⟩
  cases hany : q.store.state.tasks.any (SupervisorQueue.expired now) with
  | false =>
    rw [hnone hany]
    exact .inl rfl
  | true => exact .inr (hsome hany)

theorem keepsTasks_peekClaimable (now : ℕ) :
    KeepsTasks q (SupervisorQueue.peekClaimable (some now) q).2 := by
  rcases peekClaimable_cases (h := q) now with ⟨fault, ws, hws, -, hr⟩ | ⟨q', hrec, hr⟩
  · rw [hr]
    exact ⟨rfl, .inl rfl, hws, rfl⟩
  · rw [hr]
    exact hrec.keepsTasks

/-- What a claim leaves: the task that was claimed is one of the queue. -/
theorem keepsTasks_claim (now : ℕ) :
    KeepsTasks q (SupervisorQueue.claim (some now) q).2 ∧
      ∀ task, (SupervisorQueue.claim (some now) q).1 = .ok (some task) →
        task ∈ (SupervisorQueue.claim (some now) q).2.store.state.tasks := by
  rcases claim_cases (h := q) now with ⟨fault, ws, hws, -, hr⟩ |
    ⟨q', hrec, ⟨-, hr⟩ | ⟨task, state, hfind, hstate, hw⟩⟩
  · rw [hr]
    exact ⟨⟨rfl, .inl rfl, hws, rfl⟩, fun task htask => by cases htask⟩
  · rw [hr]
    exact ⟨hrec.keepsTasks, fun task htask => by cases htask⟩
  · have hmem := List.mem_of_find?_eq_some hfind
    have hl := q'.store.state.lookup_of_mem hmem
    have horder : state.tasks.map (·.order) = q'.store.state.tasks.map (·.order) := by
      rw [hstate, List.map_map]
      refine List.map_congr_left (fun candidate hc => ?_)
      simp only [Function.comp_apply, put]
      split
      · rename_i hid
        have hfound := q'.store.state.lookup_of_mem hc
        have hid' : candidate.taskId = task.taskId := hid
        rw [hid', hl] at hfound
        rw [← Option.some.inj hfound]
        rfl
      · rfl
    refine ⟨hrec.keepsTasks.trans (keepsTasks_of_writes horder hw), fun claimed hclaimed => ?_⟩
    rcases hw with ⟨ws, hws, hr⟩ | ⟨fault, ws, hws, -, hr⟩
    · rw [hr] at hclaimed ⊢
      obtain rfl := Option.some.inj (Except.ok.inj hclaimed)
      show SupervisorQueue.claimedTask now task ∈ state.tasks
      rw [hstate]
      exact List.mem_map.2 ⟨task, hmem, if_pos rfl⟩
    · rw [hr] at hclaimed
      cases hclaimed

theorem keepsTasks_recover (now : ℕ) :
    KeepsTasks q (SupervisorQueue.recover (some now) q).2 := by
  refine keepsTasks_of_writes ?_ (recover_publishes now)
  rw [SupervisorState.recovered, List.map_map]
  refine List.map_congr_left (fun task _ => ?_)
  simp only [Function.comp_apply, afterRestart, SupervisorQueue.recoveredTask]
  split
  · split <;> rfl
  · rfl

/-- The task of a run is entered. Where that throws, nothing has changed. -/
theorem walks_entered (hk : Knows h run) {taskId : JsString} {handoff : GovernedHandoff}
    (hbound : run.supervisorTaskId = some taskId) (hhandoff : HandoffOf run handoff)
    (env : Environment) :
    Walks (Step full careless) h (enqueueRun env taskId handoff run.runId)
      (fun _ h' => OnSupervisor h h') (fun _ h' => h'.store = h.store) := by
  unfold enqueueRun
  refine Walks.bind (Q := fun _ h' => OnSupervisor h h') (E := fun _ h' => h'.store = h.store) ?_
    (fun _ _ he => he) (fun _ _ _ hQ => Walks.of_pure hQ)
  rcases enqueue_cases (h := supervisorOf h) (taskInput options env taskId handoff run.runId) with
    hr | ⟨now, maxAttempts, timeoutMs, state, -, -, hstate, ⟨ws, hws, hrun⟩ |
      ⟨fault, ws, hws, -, hrun⟩⟩
  · exact walks_refused hr.zoom fun _ => rfl
  · refine Walks.of_ok (zoom_run hrun) (.single ⟨fun _ => hws, ?_⟩) ⟨rfl, rfl, rfl⟩
    exact .entered run (SupervisorQueue.newTask (taskInput options env taskId handoff run.runId)
      now maxAttempts timeoutMs _) hk hbound hhandoff hstate rfl ⟨rfl, rfl, rfl⟩ rfl
  · exact Walks.of_error (zoom_run hrun) (step_kept rfl (.inl rfl) hws) rfl

end Autopilot
