/-
What becomes of a task whose dispatch throws.

The handler of an exception makes a note of it with the run, lets the task fail in
the supervisor, and ends the run when the task has failed for good. It fails the
task without the attempt delta that the supervisor asks for when there are attempts
left. So the task ends well with its last attempt, and stays as it is with any other.

The first part of the module says what the single calls come to when every write is
made. The second part follows the handler from a dispatch that is in flight.
-/
import Autopilot.ExactApproval

set_option autoImplicit false

namespace Autopilot

open Prog Keyed RunStore

variable {options : OrchestratorOptions}
variable {h h' : Machine (World options)} {run run' : RunRecord}

/-! ## Calls whose writes are made -/

/-- A record that is rewritten is stored. -/
theorem rewritten_reliable {p : Proc RunStore RunRecord} (hrel : h.Reliable) (hk : Knows h run)
    (hid : run'.runId = run.runId) (hr : Rewritten (runsOf h) run' (p (runsOf h))) :
    ∃ h', inRuns p h = (.ok run', h') ∧ Updated h run' h' ∧ h'.Reliable := by
  obtain ⟨store, hstore, hwrites⟩ := hr
  have hruns : (runsOf h).Reliable := hrel
  obtain ⟨ws, hws, hrun⟩ := hwrites.reliable hruns
  refine ⟨_, zoom_run hrun, ?_, hrel.mono hws⟩
  exact updated_of_runs hk hid hstore ⟨rfl, rfl, rfl⟩ rfl

/-- The calls of the gateway that write the file at last. -/
theorem commits_reliable {α : Type} {p : Proc Gateway α} {gateway : Gateway} {a : α}
    (hrel : h.Reliable) (hc : Commits (gatewayOf h) gateway h.supply a (p (gatewayOf h))) :
    ∃ h', inGateway p h = (.ok a, h') ∧ OnGateway h h' ∧ h'.Reliable ∧
      h'.store.gateway = { gateway with file := gateway.state } := by
  rcases hc with ⟨ws, hws, hrun⟩ | ⟨fault, ws, -, hnot, -⟩
  · exact ⟨_, zoom_run hrun, ⟨rfl, rfl, rfl⟩, hrel.mono hws, rfl⟩
  · exact absurd hrel hnot

/-- A task that is rewritten is stored. -/
theorem rewrites_reliable {p : Proc (SupervisorQueue options.queue) SupervisorTask}
    {taskId : JsString} {task task' : SupervisorTask} (hrel : h.Reliable)
    (hfound : h.store.task taskId = some task) (hid : task'.taskId = task.taskId)
    (hr : Rewrites (supervisorOf h) task' (p (supervisorOf h))) :
    ∃ h', inSupervisor p h = (.ok task', h') ∧ OnSupervisor h h' ∧ h'.Reliable ∧
      h'.store.task taskId = some task' := by
  obtain ⟨state, htasks, hpublishes⟩ := hr
  have hsupervisor : (supervisorOf h).Reliable := hrel
  obtain ⟨ws, hws, hrun⟩ := Host.Writes.reliable hpublishes hsupervisor
  refine ⟨_, zoom_run hrun, ⟨rfl, rfl, rfl⟩, hrel.mono hws, ?_⟩
  show lookup SupervisorTask.taskId state.tasks taskId = some task'
  have hname : taskId = task'.taskId := (lookup_mem hfound).2.symm.trans hid.symm
  have hold : lookup SupervisorTask.taskId h.store.supervisor.state.tasks task'.taskId
      = some task := hname ▸ hfound
  rw [htasks, hname]
  exact lookup_put_self hold

/-! ## What the stores take -/

/-- The run takes the note of a failure: it has one already, or it is open and the
text is one a note can have. -/
def RunRecord.takesNote (run : RunRecord) (text : JsString) : Bool :=
  run.dispatchFailure.isSome ||
    (run.status = .queued || run.status = .running) && validString text maxTerminalReason

/-- The gateway lets go of a reservation. -/
def Gateway.releases (gateway : Gateway) (reservation : TokenReservation) : Bool :=
  match gateway.state.reservations.get? reservation.reservationId with
  | some active => active.toTokenGatewayRoute = reservation.toTokenGatewayRoute
  | none => (gateway.state.terminal.get? reservation.reservationId).isSome

/-- The reservation of a run is released, or will be when that is asked for. -/
def World.frees (world : World options) (run : RunRecord) : Bool :=
  match run.tokenReservation with
  | none => false
  | some reservation =>
    match run.reservationStatus with
    | .active => world.gateway.releases reservation
    | .released =>
      (world.gateway.state.reservations.get? reservation.reservationId).isNone
    | _ => false

/-- The run failed and holds no tokens any more. -/
structure Freed (h : Machine (World options)) (run : RunRecord) : Prop where
  failed : run.status = .failed
  released : run.reservationStatus = .released
  gone : ∀ reservation, run.tokenReservation = some reservation →
    h.store.gateway.state.reservations.get? reservation.reservationId = none

/-! ## The single calls -/

theorem isRunRecord_noted {text : JsString} (hv : isRunRecord run = true)
    (htext : validString text maxTerminalReason = true) (now : ℕ) :
    isRunRecord { run with dispatchFailure := some text, updatedAt := now } = true := by
  simp only [isRunRecord, Bool.and_eq_true] at hv ⊢
  obtain ⟨⟨⟨hrest, -⟩, hinput⟩, houtput⟩ := hv
  exact ⟨⟨⟨hrest, htext⟩, hinput⟩, houtput⟩

theorem isRunRecord_released (hv : isRunRecord run = true)
    (hactive : run.reservationStatus = .active) (now : ℕ) :
    isRunRecord (releasedRun run now) = true := by
  have hheld : run.tokenReservation ≠ none := by
    rw [Ne, ← RunRecord.reservation_iff hv, hactive]
    decide
  simp only [isRunRecord, Bool.and_eq_true] at hv ⊢
  obtain ⟨⟨⟨⟨⟨⟨⟨hrest, -⟩, hvalid⟩, hsettled⟩, hresult⟩, hfailure⟩, hinput⟩, houtput⟩ := hv
  rw [hactive] at hsettled
  have hnone : run.tokenSettlement = none := by simpa using hsettled
  refine ⟨⟨⟨⟨⟨⟨⟨hrest, ?_⟩, hvalid⟩, ?_⟩, hresult⟩, hfailure⟩, hinput⟩, houtput⟩
  · simp [releasedRun, hheld]
  · simp [releasedRun, hnone]

theorem isRunRecord_failed {reason : Option JsString} (hv : isRunRecord run = true)
    (hrunning : run.status = .running)
    (hreason : validNullableString reason maxTerminalReason = true) (now : ℕ) :
    isRunRecord (finalizedRun run .failed reason now) = true := by
  have happroval : run.hasApproval = true := by
    have h := RunRecord.approval_valid hv
    unfold RunRecord.approvalIsValid at h
    rwa [hrunning] at h
  simp only [isRunRecord, Bool.and_eq_true] at hv ⊢
  obtain ⟨⟨⟨⟨⟨⟨⟨⟨⟨⟨⟨⟨hdraft, -⟩, htask⟩, hworker⟩, -⟩, hvalid⟩, hheld⟩, hsettlement⟩, hsettled⟩,
    hresult⟩, hfailure⟩, hinput⟩, houtput⟩ := hv
  exact ⟨⟨⟨⟨⟨⟨⟨⟨⟨⟨⟨⟨hdraft, happroval⟩, htask⟩, hworker⟩, hreason⟩, hvalid⟩, hheld⟩, hsettlement⟩,
    hsettled⟩, hresult⟩, hfailure⟩, hinput⟩, houtput⟩

/-- A record that is as it should be is returned. -/
theorem updateRun_kept (already refused : RunRecord → Bool) (error : String)
    (f : RunRecord → RunRecord) (hk : Knows h run) (ha : already run = true) :
    inRuns (updateRun run.runId already refused error f) h = (.ok run, h) := by
  have hrun := zoom_run (l := Host.lens (World.runsLens options))
    (updateRun_already (h := runsOf h) already refused error f hk ha)
  rwa [Lens.set_get] at hrun

theorem updateRun_stored (already refused : RunRecord → Bool) (error : String)
    (f : RunRecord → RunRecord) (hrel : h.Reliable) (hk : Knows h run)
    (ha : already run = false) (hr : refused run = false)
    (hlegacy : run.current.profile ≠ .legacy) (hvalid : isRunRecord (f run) = true)
    (hid : (f run).runId = run.runId) (href : (f run).orchestrationRef = run.orchestrationRef) :
    ∃ h', inRuns (updateRun run.runId already refused error f) h = (.ok (f run), h') ∧
      Updated h (f run) h' ∧ h'.Reliable :=
  rewritten_reliable hrel hk hid
    (updateRun_rewritten (h := runsOf h) error hk ha hr hlegacy hvalid hid href)

/-- What `recordRunDispatchFailure` refuses. -/
def refusesFailure (text : JsString) (record : RunRecord) : Bool :=
  (record.status ≠ .queued && record.status ≠ .running) || !validString text maxTerminalReason

theorem refusesFailure_eq (text : JsString) : refusesFailure text run =
    !((run.status = .queued || run.status = .running) && validString text maxTerminalReason) := by
  unfold refusesFailure
  cases run.status <;> simp

/-- A run with the note of a failure. -/
def withFailure (text : JsString) (now : ℕ) (record : RunRecord) : RunRecord :=
  { record with dispatchFailure := some text, updatedAt := now }

/-- The note of a failure is made, where the run takes it. -/
theorem failure_noted (hrel : h.Reliable) (hk : Knows h run)
    (hlegacy : run.current.profile ≠ .legacy) {text : JsString}
    (htakes : run.takesNote text = true) (now : ℕ) :
    ∃ a h', inRuns (recordRunDispatchFailure run.runId text now) h = (.ok a, h') ∧
      Knows h' a ∧ a.core = run.core ∧ OnRuns h h' ∧ h'.Reliable := by
  unfold recordRunDispatchFailure
  by_cases hnoted : run.dispatchFailure = none
  · have htext : (decide (run.status = .queued) || decide (run.status = .running)) = true ∧
        validString text maxTerminalReason = true := by
      simpa [RunRecord.takesNote, hnoted] using htakes
    have hvalid := isRunRecord_noted (h.store.runs.record_valid hk.mem) htext.2 now
    have hr : refusesFailure text run = false := by
      rw [refusesFailure_eq, htext.1, htext.2]
      rfl
    obtain ⟨h', hrun, hup, hrel'⟩ := updateRun_stored
      (fun record => decide (record.dispatchFailure ≠ none)) (refusesFailure text)
      "invalid_run_dispatch_failure" (withFailure text now) hrel hk (by simp [hnoted]) hr hlegacy
      hvalid rfl rfl
    exact ⟨_, h', hrun, hup.knows, rfl, hup.frame, hrel'⟩
  · exact ⟨run, h, updateRun_kept _ _ _ _ hk (by simp [hnoted]), hk, rfl, .refl h, hrel⟩

/-- A note the run does not take is refused. -/
theorem failure_refused (hk : Knows h run) {text : JsString} (htakes : run.takesNote text = false)
    (now : ℕ) :
    h.Refuses (inRuns (recordRunDispatchFailure run.runId text now) h) := by
  unfold RunRecord.takesNote at htakes
  obtain ⟨hnone, hnot⟩ := Bool.or_eq_false_iff.1 htakes
  have hnoted : run.dispatchFailure = none := by simpa using hnone
  have hr : refusesFailure text run = true := by
    rw [refusesFailure_eq, hnot]
    rfl
  exact (updateRun_refused (h := runsOf h) (fun record => decide (record.dispatchFailure ≠ none))
    (refusesFailure text) "invalid_run_dispatch_failure" (withFailure text now) hk
    (by simp [hnoted]) hr).zoom

/-- The last attempt of a running task fails for good. -/
theorem failTask_last (hrel : h.Reliable) (env : Environment) {taskId : JsString}
    {task : SupervisorTask} (hfound : h.store.task taskId = some task)
    (hrunning : task.status = .running) (hlast : task.maxAttempts ≤ task.attempt)
    (reason : JsString) :
    ∃ failed h', failTask env taskId reason h = (.ok failed, h') ∧ failed.status = .failed ∧
      OnSupervisor h h' ∧ h'.Reliable ∧ h'.store.task taskId = some failed := by
  have hr := fail_rewrites_failed (h := supervisorOf h) reason env.now none hfound hrunning hlast
  obtain ⟨h', hrun, hon, hrel', htask⟩ := rewrites_reliable hrel hfound (by rfl) hr
  exact ⟨_, h', tryCatch_run_ok hrun, rfl, hon, hrel', htask⟩

/-- With attempts left nothing fails: the delta is missing, and the task stays. -/
theorem failTask_left (env : Environment) {taskId : JsString} {task : SupervisorTask}
    (hfound : h.store.task taskId = some task) (hrunning : task.status = .running)
    (hleft : task.attempt < task.maxAttempts) (reason : JsString) :
    failTask env taskId reason h
      = (.error (.thrown (JsError.new "attempt_delta_missing")), h) := by
  have hr := zoom_run (l := Host.lens (World.supervisorLens options))
    (fail_refuses_without_delta (h := supervisorOf h) reason env.now hfound hrunning hleft)
  rw [Lens.set_get] at hr
  have hstatus : task.status ≠ .failed := by
    rw [hrunning]
    decide
  refine (tryCatch_run_thrown hr).trans ?_
  rw [bind_run, Host.read_run]
  dsimp only
  rw [hfound]
  dsimp only
  rw [if_neg hstatus]
  rfl

/-- A reservation the gateway lets go of is released. -/
theorem release_releases (hrel : h.Reliable) {reservation : TokenReservation}
    (hreleases : h.store.gateway.releases reservation = true) (now : ℕ) :
    ∃ h', inGateway (release now reservation) h = (.ok (), h') ∧ OnGateway h h' ∧ h'.Reliable ∧
      h'.store.gateway.state.reservations.get? reservation.reservationId = none := by
  unfold Gateway.releases at hreleases
  rcases release_cases now (gatewayOf h) reservation with
    ⟨e, hr⟩ | ⟨hgone, -, hr⟩ | ⟨active, hget, -, hr⟩
  · exfalso
    cases hget : h.store.gateway.state.reservations.get? reservation.reservationId with
    | none =>
      rw [hget] at hreleases
      have hterminal : h.store.gateway.state.terminal.get? reservation.reservationId ≠ none :=
        Option.isSome_iff_ne_none.1 hreleases
      have hok := release_run_terminal now (gatewayOf h) hget hterminal
      cases congrArg Prod.fst (hok.symm.trans hr)
    | some active =>
      rw [hget] at hreleases
      have hroute : active.toTokenGatewayRoute = reservation.toTokenGatewayRoute :=
        of_decide_eq_true hreleases
      rw [release_run_active now (gatewayOf h) hget hroute] at hr
      rcases persist_cases (h := gatewayOf h) { gatewayOf h with
        store := (gatewayOf h).store.released now reservation.reservationId active } rfl with
        ⟨ws, -, hw⟩ | ⟨fault, ws, -, hnot, -⟩
      · cases congrArg Prod.fst (hw.symm.trans hr)
      · exact hnot hrel
  · refine ⟨h, ?_, ⟨rfl, rfl, rfl⟩, hrel, hgone⟩
    have hrun := zoom_run (l := Host.lens (World.gatewayLens options)) hr
    rwa [Lens.set_get] at hrun
  · obtain ⟨h', hrun, hon, hrel', hgateway⟩ := commits_reliable hrel hr
    refine ⟨h', hrun, hon, hrel', ?_⟩
    rw [hgateway]
    have herased := released_reservations (gatewayOf h).store now reservation.reservationId active
    exact (congrArg (fun rs => rs.get? reservation.reservationId) herased).trans
      (Record.get?_erase_self ..)

/-- Any other reservation is refused. -/
theorem release_refuses {reservation : TokenReservation}
    (hkeeps : h.store.gateway.releases reservation = false) (now : ℕ) :
    h.Refuses (inGateway (release now reservation) h) := by
  unfold Gateway.releases at hkeeps
  rcases release_cases now (gatewayOf h) reservation with
    ⟨e, hr⟩ | ⟨hgone, hterminal, -⟩ | ⟨active, hget, hroute, -⟩
  · exact Host.Refuses.zoom ⟨e, hr⟩
  · have hnone : h.store.gateway.state.reservations.get? reservation.reservationId = none := hgone
    rw [hnone] at hkeeps
    have hsome : (h.store.gateway.state.terminal.get? reservation.reservationId).isSome = true :=
      Option.isSome_iff_ne_none.2 hterminal
    exact absurd (hsome.symm.trans hkeeps) (by decide)
  · have hsome : h.store.gateway.state.reservations.get? reservation.reservationId = some active :=
      hget
    rw [hsome] at hkeeps
    exact absurd hroute (of_decide_eq_false hkeeps)

/-- What the end of a failed run leaves untouched until it is written. -/
structure Ending (h : Machine (World options)) (run : RunRecord) (h' : Machine (World options))
    (a : RunRecord) : Prop where
  knows : Knows h' a
  course : SameCourse run a
  supervisor : h'.store.supervisor = h.store.supervisor
  reliable : h'.Reliable

/-- The reservation of a run is released, where it can be. -/
theorem releaseReservation_frees (hrel : h.Reliable) (hk : Knows h run)
    (hlegacy : run.current.profile ≠ .legacy) (hfrees : h.store.frees run = true)
    (env : Environment) :
    ∃ a h', releaseReservation env run h = (.ok a, h') ∧ Ending h run h' a ∧
      a.reservationStatus = .released ∧ ∀ reservation, a.tokenReservation = some reservation →
        h'.store.gateway.state.reservations.get? reservation.reservationId = none := by
  unfold World.frees at hfrees
  unfold releaseReservation
  cases hheld : run.tokenReservation with
  | none =>
    rw [hheld] at hfrees
    cases hfrees
  | some reservation =>
    rw [hheld] at hfrees
    dsimp only at hfrees ⊢
    cases hstatus : run.reservationStatus with
    | none | settled =>
      rw [hstatus] at hfrees
      cases hfrees
    | active =>
      rw [hstatus] at hfrees
      obtain ⟨h₁, hrun₁, hon, hrel₁, hgone⟩ := release_releases hrel hfrees env.now
      have hk₁ : Knows h₁ run := hk.of_runs hon.runs
      have hvalid := isRunRecord_released (h₁.store.runs.record_valid hk₁.mem) hstatus env.now
      obtain ⟨h₂, hrun₂, hup, hrel₂⟩ := updateRun_stored
        (fun record => decide (record.reservationStatus = eventStatus .released))
        (fun record => decide (record.reservationStatus ≠ .active))
        "invalid_run_reservation_transition" (fun record => releasedRun record env.now) hrel₁ hk₁
        (by simp [hstatus, eventStatus]) (by simp [hstatus]) hlegacy hvalid rfl rfl
      have hcourse : SameCourse run (releasedRun run env.now) := ⟨rfl, rfl, rfl, rfl, rfl, rfl, rfl⟩
      refine ⟨releasedRun run env.now, h₂, ?_, ⟨hup.knows, hcourse, ?_, hrel₂⟩, rfl, ?_⟩
      · rw [if_pos rfl]
        exact (bind_run_ok hrun₁).trans hrun₂
      · rw [hup.frame.supervisor, hon.supervisor]
      · intro other hother
        obtain rfl := Option.some.inj (hheld.symm.trans hother)
        rw [hup.frame.gateway]
        exact hgone
    | released =>
      rw [hstatus] at hfrees
      refine ⟨run, h, by rw [if_neg (by decide)]; rfl, ⟨hk, .refl run, rfl, hrel⟩, hstatus, ?_⟩
      intro other hother
      obtain rfl := Option.some.inj (hheld.symm.trans hother)
      exact Option.isNone_iff_eq_none.1 hfrees

/-- Where it cannot, the run is left with its reservation. -/
theorem releaseReservation_keeps (hkeeps : h.store.frees run = false) (env : Environment) :
    h.Refuses (releaseReservation env run h) ∧ run.reservationStatus = .active ∨
      releaseReservation env run h = (.ok run, h) ∧ (run.reservationStatus = .released →
        ∀ reservation, run.tokenReservation = some reservation →
          h.store.gateway.state.reservations.get? reservation.reservationId ≠ none) := by
  unfold World.frees at hkeeps
  unfold releaseReservation
  cases hstatus : run.reservationStatus with
  | active =>
    rw [if_pos rfl]
    refine .inl ⟨?_, rfl⟩
    cases hheld : run.tokenReservation with
    | none => exact ⟨typeError, rfl⟩
    | some reservation =>
      rw [hheld, hstatus] at hkeeps
      obtain ⟨e, hr⟩ := release_refuses hkeeps env.now
      exact ⟨e, bind_run_error hr⟩
  | none | settled =>
    refine .inr ⟨by rw [if_neg (by decide)]; rfl, fun hreleased => ?_⟩
    cases hreleased
  | released =>
    refine .inr ⟨by rw [if_neg (by decide)]; rfl, fun _ reservation hheld => ?_⟩
    rw [hheld, hstatus] at hkeeps
    dsimp only at hkeeps
    intro hnone
    rw [hnone] at hkeeps
    cases hkeeps

/-- A running run is finalized, and one that has failed already is left so. -/
theorem finalizeRun_fails (hrel : h.Reliable) (hk : Knows h run)
    (hlegacy : run.current.profile ≠ .legacy)
    (hstatus : run.status = .running ∨ run.status = .failed) {reason : Option JsString}
    (hreason : validNullableString reason maxTerminalReason = true) (now : ℕ) :
    ∃ a h', inRuns (finalizeRun run.runId .failed reason now) h = (.ok a, h') ∧ Knows h' a ∧
      a.runId = run.runId ∧ a.status = .failed ∧ a.reservationStatus = run.reservationStatus ∧
      a.tokenReservation = run.tokenReservation ∧ OnRuns h h' ∧ h'.Reliable := by
  have hl : lookup RunRecord.runId (runsOf h).store.runs run.runId = some run := hk
  rcases hstatus with hrunning | hfailed
  · have hfinal : finalizeRun run.runId .failed reason now (runsOf h)
        = RunStore.replace (finalizedRun run .failed reason now) (runsOf h) := by
      unfold finalizeRun
      rw [find_bind_run, hl]
      dsimp only
      rw [if_neg (by rw [hrunning]; decide), if_neg (by rw [hrunning]; decide)]
      rw [bind_run_ok (show (pure run : Proc RunStore RunRecord) (runsOf h) = (.ok run, runsOf h)
        from rfl), throwIf_bind_run, if_neg (by simp [hrunning, hreason])]
      rfl
    have hvalid := isRunRecord_failed (h.store.runs.record_valid hk.mem) hrunning hreason now
    have hr : Rewritten (runsOf h) (finalizedRun run .failed reason now)
        (finalizeRun run.runId .failed reason now (runsOf h)) := by
      rw [hfinal]
      exact replace_rewritten (h := runsOf h) hk hlegacy hvalid rfl
    obtain ⟨h', hrun, hup, hrel'⟩ := rewritten_reliable hrel hk (by rfl) hr
    exact ⟨_, h', hrun, hup.knows, rfl, rfl, rfl, rfl, hup.frame, hrel'⟩
  · have hsame : finalizeRun run.runId .failed reason now (runsOf h) = (.ok run, runsOf h) := by
      unfold finalizeRun
      rw [find_bind_run, hl]
      dsimp only
      rw [if_pos hfailed]
      rfl
    have hrun := zoom_run (l := Host.lens (World.runsLens options)) hsame
    rw [Lens.set_get] at hrun
    exact ⟨run, h, hrun, hk, rfl, hfailed, rfl, rfl, .refl h, hrel⟩

/-- A run at any other status is refused. -/
theorem finalizeRun_refuses (hk : Knows h run) (hqueued : run.status ≠ .queued)
    (hrunning : run.status ≠ .running) (hfailed : run.status ≠ .failed) (reason : Option JsString)
    (now : ℕ) : h.Refuses (inRuns (finalizeRun run.runId .failed reason now) h) := by
  refine Host.Refuses.zoom ⟨JsError.new "invalid_run_transition", ?_⟩
  unfold finalizeRun
  rw [find_bind_run, show lookup RunRecord.runId
    ((Host.lens (World.runsLens options)).get h).store.runs run.runId = some run from hk]
  dsimp only
  rw [if_neg hfailed, if_neg hqueued]
  rw [bind_run_ok (show (pure run : Proc RunStore RunRecord) _ = (.ok run, _) from rfl),
    throwIf_bind_run, if_pos (.inl hrunning)]

/-- Acknowledging a reservation keeps what is active. -/
theorem acknowledge_reliable (hrel : h.Reliable) {reservation : TokenReservation}
    (hheld : run.tokenReservation = some reservation) :
    ∃ h', acknowledge run h = (.ok (), h') ∧ OnGateway h h' ∧ h'.Reliable ∧
      h'.store.gateway.state.reservations = h.store.gateway.state.reservations := by
  unfold acknowledge
  rw [hheld]
  rcases acknowledgeTerminal_cases (gatewayOf h) reservation.reservationId with ⟨-, hr⟩ | hr
  · have hrun := zoom_run (l := Host.lens (World.gatewayLens options)) hr
    rw [Lens.set_get] at hrun
    exact ⟨h, hrun, ⟨rfl, rfl, rfl⟩, hrel, rfl⟩
  · obtain ⟨h', hrun, hon, hrel', hgateway⟩ := commits_reliable hrel hr
    refine ⟨h', hrun, hon, hrel', ?_⟩
    rw [hgateway]
    rfl

/-! ## The end of a failed run -/

theorem RunRecord.dispatchFailure_valid (hv : isRunRecord run = true) :
    validNullableString run.dispatchFailure maxTerminalReason = true := by
  simp only [isRunRecord, Bool.and_eq_true] at hv
  exact hv.1.1.2

/-- What `failRun` leaves of a run. -/
structure Ended (h : Machine (World options)) (run : RunRecord) (h' : Machine (World options))
    (a : RunRecord) : Prop where
  knows : Knows h' a
  runId : a.runId = run.runId
  reservationStatus : a.reservationStatus = run.reservationStatus
  tokenReservation : a.tokenReservation = run.tokenReservation
  supervisor : h'.store.supervisor = h.store.supervisor
  reservations : h'.store.gateway.state.reservations = h.store.gateway.state.reservations

/-- A run fails where it was running, or had failed before. The call has an older
record of the run at hand. -/
theorem failRun_ended {older : RunRecord} (hrel : h.Reliable) (hk : Knows h run)
    (hid : older.runId = run.runId) (hlegacy : run.current.profile ≠ .legacy)
    (hqueued : run.status ≠ .queued) (hheld : older.tokenReservation ≠ none) (env : Environment) :
    ∃ r a h', failRun env older run.dispatchFailure h = (r, h') ∧ Ended h run h' a ∧
      (a.status = .failed ↔ run.status = .running ∨ run.status = .failed) ∧
      (a.status = .failed → ∃ b, r = .ok b) := by
  obtain ⟨reservation, hreservation⟩ := Option.ne_none_iff_exists'.1 hheld
  unfold failRun
  rw [hid]
  by_cases hopen : run.status = .running ∨ run.status = .failed
  · have hreason := RunRecord.dispatchFailure_valid (h.store.runs.record_valid hk.mem)
    obtain ⟨a, h₁, hrun₁, hk₁, hid₁, hfailed, hstatus, htoken, hon, hrel₁⟩ :=
      finalizeRun_fails hrel hk hlegacy hopen hreason env.now
    obtain ⟨h₂, hrun₂, hon₂, -, hreservations⟩ :=
      acknowledge_reliable hrel₁ hreservation
    refine ⟨.ok a, a, h₂, ?_, ⟨hk₁.of_runs hon₂.runs, hid₁, hstatus, htoken, ?_, ?_⟩, ?_, ?_⟩
    · rw [bind_run_ok hrun₁, bind_run_ok hrun₂]
      rfl
    · rw [hon₂.supervisor, hon.supervisor]
    · rw [hreservations, hon.gateway]
    · exact ⟨fun _ => hopen, fun _ => hfailed⟩
    · exact fun _ => ⟨a, rfl⟩
  · obtain ⟨hrunning, hfailed⟩ := not_or.1 hopen
    obtain ⟨e, hrun⟩ := finalizeRun_refuses hk hqueued hrunning hfailed run.dispatchFailure env.now
    refine ⟨_, run, h, bind_run_error hrun, ⟨hk, rfl, rfl, rfl, rfl, rfl⟩, ?_, ?_⟩
    · exact ⟨fun hf => absurd hf hfailed, fun hf => absurd hf hopen⟩
    · exact fun hf => absurd hf hfailed

/-- The run can be ended, and its reservation with it. -/
def World.ends (world : World options) (run : RunRecord) : Bool :=
  (run.status = .running || run.status = .failed) && world.frees run

theorem World.ends_iff {world : World options} : world.ends run = true ↔
    (run.status = .running ∨ run.status = .failed) ∧ world.frees run = true := by
  simp [World.ends]

/-- **What `finishDispatchFailure` comes to**: the run has failed and is free of its
reservation just where it could be ended. -/
theorem finishDispatchFailure_freed (hrel : h.Reliable) (hk : Knows h run)
    (hlegacy : run.current.profile ≠ .legacy) (hqueued : run.status ≠ .queued)
    (hheld : run.tokenReservation ≠ none) (env : Environment) :
    ∃ r a h', finishDispatchFailure env run h = (r, h') ∧
      h'.store.supervisor = h.store.supervisor ∧ Knows h' a ∧ a.runId = run.runId ∧
      (Freed h' a ↔ h.store.ends run = true) ∧ (Freed h' a → ∃ b, r = .ok b) := by
  unfold finishDispatchFailure
  cases hfrees : h.store.frees run with
  | true =>
    obtain ⟨b, h₁, hrun₁, hend, hreleased, hgone⟩ :=
      releaseReservation_frees hrel hk hlegacy hfrees env
    have hcourse := hend.course
    have hlegacy₁ : b.current.profile ≠ .legacy := by
      rw [hcourse.current]
      exact hlegacy
    have hqueued₁ : b.status ≠ .queued := by
      rw [hcourse.status]
      exact hqueued
    obtain ⟨r, a, h₂, hrun₂, hended, hfailed, hok⟩ :=
      failRun_ended hend.reliable hend.knows hcourse.runId.symm hlegacy₁ hqueued₁ hheld env
    refine ⟨r, a, h₂, (bind_run_ok hrun₁).trans hrun₂, hended.supervisor.trans hend.supervisor,
      hended.knows, hended.runId.trans hcourse.runId, ?_, fun hf => hok hf.failed⟩
    rw [World.ends_iff, ← hcourse.status, ← hfailed]
    refine ⟨fun hf => ⟨hf.failed, hfrees⟩, fun hf => ⟨hf.1, ?_, ?_⟩⟩
    · rw [hended.reservationStatus, hreleased]
    · intro reservation hreservation
      rw [hended.reservations]
      exact hgone reservation (hended.tokenReservation ▸ hreservation)
  | false =>
    have hnot : h.store.ends run ≠ true := by
      rw [Ne, World.ends_iff, hfrees]
      exact fun hf => absurd hf.2 (by decide)
    rcases releaseReservation_keeps hfrees env with ⟨⟨e, hrun⟩, hactive⟩ | ⟨hrun, hkept⟩
    · refine ⟨_, run, h, bind_run_error hrun, rfl, hk, rfl, ?_, ?_⟩
      · refine ⟨fun hf => ?_, fun hf => absurd hf hnot⟩
        rw [hf.released] at hactive
        cases hactive
      · intro hf
        rw [hf.released] at hactive
        cases hactive
    · obtain ⟨r, a, h₁, hrun₁, hended, -, -⟩ := failRun_ended hrel hk rfl hlegacy hqueued hheld env
      have hunfreed : ¬ Freed h₁ a := by
        intro hf
        obtain ⟨reservation, hreservation⟩ := Option.ne_none_iff_exists'.1 hheld
        have hreleased : run.reservationStatus = .released :=
          hended.reservationStatus.symm.trans hf.released
        have hgone := hf.gone reservation (hended.tokenReservation.trans hreservation)
        rw [hended.reservations] at hgone
        exact hkept hreleased reservation hreservation hgone
      exact ⟨r, a, h₁, (bind_run_ok hrun).trans hrun₁, hended.supervisor, hended.knows,
        hended.runId, ⟨fun hf => absurd hf hunfreed, fun hf => absurd hf hnot⟩,
        fun hf => absurd hf hunfreed⟩

/-! ## The handler -/

/-- A dispatch that is in flight: its task is running for its run. -/
structure InFlight (h : Machine (World options)) (dispatch : Dispatch) (task : SupervisorTask)
    (run : RunRecord) : Prop where
  knows : Knows h run
  runId : run.runId = dispatch.runId
  bound : run.supervisorTaskId = some dispatch.taskId
  held : run.tokenReservation ≠ none
  started : run.status ≠ .queued
  found : h.store.task dispatch.taskId = some task
  running : task.status = .running

/-- The task of the dispatch is queued again, or it has failed and its run with it. -/
def Unstranded (h : Machine (World options)) (dispatch : Dispatch) : Prop :=
  ∃ task, h.store.task dispatch.taskId = some task ∧
    (task.status = .queued ∨
      task.status = .failed ∧ ∃ run, Knows h run ∧ run.runId = dispatch.runId ∧ Freed h run)

/-- The call failed for the missing delta, and not with an error of that name. -/
def LacksDelta (options : OrchestratorOptions) (error : JsError)
    (result : Except (Fault JsError) (Option RunRecord)) : Prop :=
  result = .error (.thrown (JsError.new "attempt_delta_missing")) ∧
    dispatchErrorText options error ≠ js "attempt_delta_missing"

/-- The stores can take the end of the run: the attempt is the last one, the run takes
the note of the failure, and it can be ended with its reservation. -/
def World.settles (world : World options) (task : SupervisorTask) (run : RunRecord)
    (error : JsError) : Bool :=
  task.maxAttempts ≤ task.attempt && run.takesNote (dispatchErrorText options error) &&
    world.ends run

theorem World.settles_iff {world : World options} {task : SupervisorTask} {error : JsError} :
    world.settles task run error = true ↔ task.maxAttempts ≤ task.attempt ∧
      run.takesNote (dispatchErrorText options error) = true ∧ world.ends run = true := by
  simp [World.settles, and_assoc]

/-- What was noted with a run does not matter to its end. -/
theorem World.ends_of_core {world world' : World options} (hcore : run'.core = run.core)
    (hgateway : world'.gateway = world.gateway) : world'.ends run' = world.ends run := by
  have hstatus : run'.status = run.status := congrArg (·.status) hcore
  have hreservation : run'.reservationStatus = run.reservationStatus :=
    congrArg (·.reservationStatus) hcore
  have htoken : run'.tokenReservation = run.tokenReservation := congrArg (·.tokenReservation) hcore
  unfold World.ends World.frees
  rw [hstatus, hreservation, htoken, hgateway]

/-- A task that is still running was left behind. -/
theorem not_unstranded_of_running {dispatch : Dispatch} {task : SupervisorTask}
    (hfound : h.store.task dispatch.taskId = some task) (hrunning : task.status = .running) :
    ¬ Unstranded h dispatch := by
  rintro ⟨other, hother, hend⟩
  obtain rfl := Option.some.inj (hfound.symm.trans hother)
  rw [hrunning] at hend
  rcases hend with hend | ⟨hend, -⟩
  · cases hend
  · cases hend

/-- **What the handler comes to**: the task is not left behind just where the stores
could take the end of its run. -/
theorem InFlight.settled {dispatch : Dispatch} {task : SupervisorTask}
    (hf : InFlight h dispatch task run) (hrel : h.Reliable)
    (hlegacy : run.current.profile ≠ .legacy) (env : Environment) (error : JsError) :
    (Unstranded (dispatchEnded env dispatch (.error error) h).2 dispatch ∧
        ¬ LacksDelta options error (dispatchEnded env dispatch (.error error) h).1) ↔
      h.store.settles task run error = true := by
  show (Unstranded (dispatchThrew env dispatch.taskId dispatch.runId error h).2 dispatch ∧
    ¬ LacksDelta options error (dispatchThrew env dispatch.taskId dispatch.runId error h).1) ↔ _
  unfold dispatchThrew
  set text := dispatchErrorText options error with htext
  rw [World.settles_iff, ← htext, ← hf.runId]
  by_cases htakes : run.takesNote text = true
  swap
  -- the note is refused, so the task goes on running
  · obtain ⟨e, hrun⟩ := failure_refused hf.knows (Bool.eq_false_iff.2 htakes) env.now
    rw [bind_run_error hrun]
    exact ⟨fun hs => absurd hs.1 (not_unstranded_of_running hf.found hf.running),
      fun hs => absurd hs.2.1 htakes⟩
  obtain ⟨a, h₁, hrun₁, hk₁, hcore, hon₁, hrel₁⟩ :=
    failure_noted hrel hf.knows hlegacy htakes env.now
  have hcourse := sameCourse_of_core hcore
  have hfound₁ : h₁.store.task dispatch.taskId = some task := by
    unfold World.task
    rw [hon₁.supervisor]
    exact hf.found
  rw [bind_run_ok hrun₁]
  by_cases hlast : task.maxAttempts ≤ task.attempt
  swap
  · have hfail := failTask_left env hfound₁ hf.running (not_le.1 hlast) text
    rw [bind_run_error hfail]
    exact ⟨fun hs => absurd hs.1 (not_unstranded_of_running hfound₁ hf.running),
      fun hs => absurd hs.1 hlast⟩
  obtain ⟨failed, h₂, hrun₂, hstatus, hon₂, hrel₂, hfound₂⟩ :=
    failTask_last hrel₁ env hfound₁ hf.running hlast text
  rw [bind_run_ok hrun₂]
  rw [if_pos hstatus]
  have hlegacy₂ : a.current.profile ≠ .legacy := by
    rw [hcourse.current]
    exact hlegacy
  have hqueued₂ : a.status ≠ .queued := by
    rw [hcourse.status]
    exact hf.started
  have hheld₂ : a.tokenReservation ≠ none := by
    rw [hcourse.tokenReservation]
    exact hf.held
  obtain ⟨r, b, h₃, hrun₃, hsupervisor, hk₃, hid₃, hfreed, hok⟩ :=
    finishDispatchFailure_freed hrel₂ (hk₁.of_runs hon₂.runs) hlegacy₂ hqueued₂ hheld₂ env
  have hends : h₂.store.ends a = h.store.ends run :=
    World.ends_of_core hcore (hon₂.gateway.trans hon₁.gateway)
  rw [hends] at hfreed
  have hfound₃ : h₃.store.task dispatch.taskId = some failed := by
    unfold World.task
    rw [hsupervisor]
    exact hfound₂
  -- the run that is left is the one that was ended, or not
  have hunstranded : Unstranded h₃ dispatch ↔ Freed h₃ b := by
    constructor
    · rintro ⟨other, hother, hend⟩
      obtain rfl := Option.some.inj (hfound₃.symm.trans hother)
      rcases hend with hqueued | ⟨-, found, hk, hid, hfree⟩
      · rw [hstatus] at hqueued
        cases hqueued
      · have hsame : found.runId = b.runId := by
          rw [hid, hid₃, hcourse.runId, hf.runId]
        rwa [hk₃.unique hk hsame] at hfree
    · intro hfree
      refine ⟨failed, hfound₃, .inr ⟨hstatus, b, hk₃, ?_, hfree⟩⟩
      rw [hid₃, hcourse.runId, hf.runId]
  have hthrows : ∀ b' : RunRecord, r = .ok b' →
      ((finishDispatchFailure env a >>= fun _ => (throw (.error (js "Error") text) :
        Proc (World options) (Option RunRecord))) h₂)
        = (.error (.thrown (.error (js "Error") text)), h₃) := by
    intro b' hr
    rw [hr] at hrun₃
    rw [bind_run_ok hrun₃]
    rfl
  constructor
  · rintro ⟨hs, -⟩
    refine ⟨hlast, htakes, hfreed.1 (hunstranded.1 ?_)⟩
    rcases r with e | b'
    · rwa [bind_run_error hrun₃] at hs
    · rwa [hthrows b' rfl] at hs
  · rintro ⟨-, -, hs⟩
    have hfree := hfreed.2 hs
    obtain ⟨b', hr⟩ := hok hfree
    rw [hthrows b' hr]
    refine ⟨hunstranded.2 hfree, fun hlacks => hlacks.2 ?_⟩
    have hsame : JsError.error (js "Error") text = JsError.new "attempt_delta_missing" := by
      simpa using hlacks.1
    exact (JsError.error.inj hsame).2

/-! ## What is dispatched is in flight -/

/-- Whatever the call dispatches is in flight. -/
def Flies (p : Progress) (h' : Machine (World options)) : Prop :=
  ∀ d, p = .dispatching d → ∃ task run, InFlight h' d task run

theorem flies_finished (run : Option RunRecord) : Flies (.finished run) h := by
  intro d hd
  cases hd

/-- The task a claim returns is stored, and running. -/
theorem claim_running {q q' : Machine (SupervisorQueue options.queue)} {now : ℕ}
    {task : SupervisorTask} (hrun : SupervisorQueue.claim (some now) q = (.ok (some task), q')) :
    lookup SupervisorTask.taskId q'.store.state.tasks task.taskId = some task ∧
      task.status = .running := by
  rcases claim_cases (h := q) now with ⟨fault, ws, -, -, hr⟩ | ⟨q₁, -, ⟨-, hr⟩ |
    ⟨found, state, hfind, htasks, hp⟩⟩
  · cases congrArg Prod.fst (hrun.symm.trans hr)
  · cases congrArg Prod.fst (hrun.symm.trans hr)
  · rcases hp with ⟨ws, -, hr⟩ | ⟨fault, ws, -, -, hr⟩
    · have hresult := hrun.symm.trans hr
      obtain rfl := Option.some.inj (Except.ok.inj (congrArg Prod.fst hresult))
      have hstate : q'.store.state.tasks = state.tasks :=
        congrArg (fun r => r.2.store.state.tasks) hresult
      refine ⟨?_, rfl⟩
      have hfound : lookup SupervisorTask.taskId q₁.store.state.tasks
          (SupervisorQueue.claimedTask now found).taskId = some found :=
        q₁.store.state.lookup_of_mem (List.mem_of_find?_eq_some hfind)
      rw [hstate, htasks]
      exact lookup_put_self hfound
    · cases congrArg Prod.fst (hrun.symm.trans hr)

theorem ordered_of_path {full careless : Prop}
    (hpath : Relation.ReflTransGen (Step full careless) h h') (ho : Ordered h) : Ordered h' := by
  induction hpath with
  | refl => exact ho
  | tail _ hs ih => exact hs.ordered ih

section walks

variable (ht : Tidy True h)
include ht

theorem flies_dispatchRun (hk : Knows h run) (env : Environment) {task : SupervisorTask}
    (hbound : run.supervisorTaskId = some task.taskId) (hheld : run.tokenReservation ≠ none)
    (hfound : h.store.task task.taskId = some task) (hrunning : task.status = .running) :
    Walks (Step True True) h (dispatchRun env task run) Flies (fun _ _ => True) := by
  unfold dispatchRun
  apply walks_then ht (walks_throwAny _)
  rintro _ h ht ⟨-, rfl⟩
  have hstarted : Walks (Step True True) h
      (if run.status = .queued then inRuns (RunStore.transitionRun run.runId .running env.now)
        else pure run)
      (fun a h' => Knows h' a ∧ a.status ≠ .queued ∧ a.supervisorTaskId = run.supervisorTaskId ∧
        a.tokenReservation = run.tokenReservation ∧ OnRuns h h')
      (fun _ _ => True) := by
    split
    · refine (walks_started hk env.now).mono ?_ (fun _ _ he => he)
      rintro a h₁ ⟨rfl, -, hup⟩
      exact ⟨hup.knows, by simp [movedRun], rfl, rfl, hup.frame⟩
    · rename_i hqueued
      exact Walks.of_pure ⟨hk, hqueued, rfl, rfl, .refl _⟩
  apply walks_then ht hstarted
  rintro a h₁ ht₁ ⟨hk₁, hqueued, htask, hreservation, hon⟩
  have hguarded : Guarded True a := fun _ => .inr trivial
  split
  · exact (walks_commitmentViolated ht₁ hk₁ hguarded env task.taskId _).mono
      (fun _ _ hq => hq.elim) (fun _ _ he => he)
  · split
    · exact (walks_dispatchThrew ht₁ env task.taskId a.runId _ fun _ _ _ _ _ => .inr trivial).mono
        (fun _ _ hq => hq.elim) (fun _ _ he => he)
    · refine Walks.of_pure fun d hd => ?_
      obtain rfl := Progress.dispatching.inj hd
      refine ⟨task, a, hk₁, rfl, htask.trans hbound, ?_, hqueued, ?_, hrunning⟩
      · rw [hreservation]
        exact hheld
      · unfold World.task
        rw [hon.supervisor]
        exact hfound

theorem flies_claimTask (env : Environment) :
    Walks (Step True True) h (claimTask env) Flies (fun _ _ => True) := by
  unfold claimTask
  apply walks_then ht (walks_moved (keepsTasks_peekClaimable env.now))
  rintro claimable h₁ ht₁ ⟨-, -⟩
  split
  · exact Walks.of_pure (flies_finished _)
  · rename_i claimable
    apply walks_then ht₁ (walks_bindingForTask claimable.taskId)
    rintro _ h₁ ht₁ ⟨rfl, -, -, -⟩
    apply walks_then ht₁ (walks_throwAny _)
    rintro _ h₁ ht₁ ⟨-, rfl⟩
    split
    · split
      · exact Walks.of_pure (flies_finished _)
      · exact Walks.of_throw trivial
    · obtain ⟨hkeeps, -⟩ := keepsTasks_claim (q := supervisorOf h₁) env.now
      apply walks_then ht₁ (walks_moved hkeeps)
      rintro claimed h₂ ht₂ ⟨hrun, -⟩
      split
      · exact Walks.of_pure (flies_finished _)
      · rename_i task
        obtain ⟨hfound, hrunning⟩ := claim_running hrun
        unfold carryTask
        apply walks_then ht₂ (walks_bindingForTask task.taskId)
        rintro bound h₂ ht₂ ⟨rfl, hk, hbound, hheld⟩
        split
        · rename_i result _
          have hguarded : Guarded True bound := fun _ => .inr trivial
          apply walks_then ht₂ (walks_finishProviderResult ht₂ hk hheld env task.taskId
            fun _ => hguarded)
          intro finished h₃ _ _
          exact Walks.of_pure (flies_finished _)
        · exact flies_dispatchRun ht₂ hk env hbound hheld hfound hrunning

/-- A task whose run has a result is not dispatched. -/
theorem flies_takeTask (ho : Ordered h) (env : Environment) :
    Walks (Step True True) h (takeTask env) Flies (fun _ _ => True) := by
  unfold takeTask
  apply walks_read_bind
  split
  · rename_i task hpending
    obtain ⟨pending, hfind, hbound⟩ := Option.bind_eq_some_iff.1 hpending
    obtain ⟨taskId, htaskId, hfound⟩ := Option.bind_eq_some_iff.1 hbound
    have hname : task.taskId = taskId := (lookup_mem hfound).2
    have hmem : pending ∈ h.store.runs.runs := List.mem_of_find?_eq_some hfind
    have hresult : pending.providerResult ≠ none := by
      have hp := List.find?_some hfind
      rw [Bool.and_eq_true] at hp
      exact Option.isSome_iff_ne_none.1 hp.1
    unfold carryTask
    apply walks_then ht (walks_bindingForTask task.taskId)
    rintro bound h ht ⟨rfl, hk, hboundTo, hheld⟩
    -- the task belongs to one run only
    have hsame : bound = pending := by
      have hid := ho.single pending hmem bound hk.mem taskId (.inl htaskId)
        (.inl (hname ▸ hboundTo))
      exact ((knows_of_mem hmem).unique hk hid)
    split
    · rename_i result _
      have hguarded : Guarded True bound := fun _ => .inr trivial
      apply walks_then ht (walks_finishProviderResult ht hk hheld env task.taskId
        fun _ => hguarded)
      intro finished h₁ _ _
      exact Walks.of_pure (flies_finished _)
    · rename_i hnone
      rw [hsame] at hnone
      exact absurd hnone hresult
  · exact flies_claimTask ht env

theorem flies_replayFailure (ho : Ordered h) (env : Environment) :
    Walks (Step True True) h (replayFailure env) Flies (fun _ _ => True) := by
  unfold replayFailure
  apply walks_read_bind
  split
  · exact flies_takeTask ht ho env
  · rename_i run hpending
    have hk : Knows h run := knows_of_mem (List.mem_of_find?_eq_some hpending)
    have hguarded : Guarded True run := fun _ => .inr trivial
    split
    · apply walks_then ht (walks_finishDispatchFailure ht hk hguarded env)
      intro _ h₁ _ _
      exact Walks.of_pure (flies_finished _)
    · unfold clearRunDispatchFailure
      refine Walks.bind (walks_noted hk (by intro run; rfl)) (fun _ _ _ => trivial) ?_
      intro _ h₁ hpath _
      exact flies_takeTask (tidy_of_path hpath ht) (ordered_of_path hpath ho) env
    · exact flies_takeTask ht ho env

theorem flies_runSupervisorOnce (ho : Ordered h) (env : Environment) :
    Walks (Step True True) h (runSupervisorOnce env) Flies (fun _ _ => True) := by
  unfold runSupervisorOnce
  apply walks_read_bind
  refine Walks.bind (walks_acknowledgeAll ht _) (fun _ _ _ => trivial) ?_
  intro _ h₁ hpath _
  have ht₁ := tidy_of_path hpath ht
  apply walks_read_bind
  split
  · apply walks_then ht₁ (walks_cancelRun ht₁ env _)
    intro _ h₂ _ _
    exact Walks.of_pure (flies_finished _)
  · exact flies_replayFailure ht₁ (ordered_of_path hpath ho) env

end walks

/-- **Dispatch exceptions.** What `runSupervisorOnce` dispatches is in flight in the
state it leaves. And from any state the control plane can reach with a dispatch in
flight, an exception of the dispatch leaves its task queued, or failed with its run
failed and its reservation released, and the call does not fail for a missing delta,
just where the attempt was the last one and the stores can take the end of the run. -/
theorem dispatch_exception_settles_iff (hr : ControlRun (fun _ _ => True) h) :
    (∀ env d h', runSupervisorOnce env h = (.ok (.dispatching d), h') →
        ∃ task run, InFlight h' d task run) ∧
      ∀ d task run, InFlight h d task run → h.Reliable → ∀ env error,
        (Unstranded (dispatchEnded env d (.error error) h).2 d ∧
            ¬ LacksDelta options error (dispatchEnded env d (.error error) h).1) ↔
          h.store.settles task run error = true := by
  obtain ⟨ht, ho, ha⟩ := hr.ordered_answered
  refine ⟨fun env d h' hrun => ?_, fun d task run hf hrel env error => ?_⟩
  · exact (flies_runSupervisorOnce ht ho env).returned hrun d rfl
  · exact hf.settled hrel (ha.profiles run hf.knows.mem) env error

/-! A run with one attempt, and one with two. -/

section sample

def sampleOnce : OrchestratorOptions :=
  { sampleControl with supervisorMaxAttempts := some (.ofNat 1) }

def sampleOncePlane : Machine (World sampleOnce) :=
  ⟨.initial sampleOnce, [], .fresh [sampleUuid, sampleUuid', sampleUuid''] sampleThree_nodup⟩

def sampleOnceQueued : Machine (World sampleOnce) :=
  ControlCall.run (ControlCall.run sampleOncePlane (.prepare sampleEnvironment sampleInput))
    (.approveAndQueue sampleEnvironment sampleUuid.text 1 (js "owner"))

/-- The dispatch of the one attempt is in flight here. -/
def sampleOnceFlying : Machine (World sampleOnce) :=
  ControlCall.run sampleOnceQueued (.supervise sampleEnvironment)

theorem sampleOnceQueued_run : ControlRun (fun _ _ => True) sampleOnceQueued :=
  .call _ (.call _ (.start [] _ _) trivial) trivial

/-- The dispatch the call comes to. -/
def dispatched? (env : Environment) (h : Machine (World options)) : Option Dispatch :=
  match (runSupervisorOnce env h).1 with
  | .ok (.dispatching d) => some d
  | _ => none

theorem dispatched?_eq_some {env : Environment} {d : Dispatch}
    (hd : dispatched? env h = some d) :
    runSupervisorOnce env h = (.ok (.dispatching d), (ControlCall.supervise env).run h) := by
  unfold dispatched? at hd
  show _ = (_, (runSupervisorOnce env h).2)
  rcases hrun : runSupervisorOnce env h with ⟨result, h'⟩
  rw [hrun] at hd
  dsimp only at hd
  split at hd
  · rw [Option.some.inj hd]
  · cases hd

/-- An exception with attempts left: the task goes on running. -/
theorem first_exception_strands : ∃ d h',
    runSupervisorOnce sampleEnvironment sampleQueued = (.ok (.dispatching d), h') ∧ h'.Reliable ∧
      ¬ Unstranded (dispatchEnded sampleEnvironment d (.error (JsError.new "spawn")) h').2 d := by
  have hrunning : (dispatched? sampleEnvironment sampleQueued).any (fun d =>
      ((dispatchEnded sampleEnvironment d (.error (JsError.new "spawn"))
        ((ControlCall.supervise sampleEnvironment).run sampleQueued)).2.store.task d.taskId).any
          (fun task => task.status = .running)) = true := by decide +kernel
  obtain ⟨d, hd, hrunning⟩ := (Option.any_eq_true ..).1 hrunning
  obtain ⟨task, hfound, hrunning⟩ := (Option.any_eq_true ..).1 hrunning
  refine ⟨d, _, dispatched?_eq_some hd, ?_, ?_⟩
  · decide +kernel
  · exact not_unstranded_of_running hfound (of_decide_eq_true hrunning)

/-- The stores can take the end of the run a dispatch is for. -/
def settlesNow (h : Machine (World options)) (d : Dispatch) (error : JsError) : Bool :=
  (h.store.task d.taskId).any fun task =>
    (lookup RunRecord.runId h.store.runs.runs d.runId).any fun run =>
      h.store.settles task run error

theorem dispatch_exception_settles_iff_sample : ∃ d,
    runSupervisorOnce sampleEnvironment sampleOnceQueued
        = (.ok (.dispatching d), sampleOnceFlying) ∧
      Unstranded (dispatchEnded sampleEnvironment d (.error (JsError.new "spawn"))
        sampleOnceFlying).2 d ∧
      ¬ LacksDelta sampleOnce (JsError.new "spawn") (dispatchEnded sampleEnvironment d
        (.error (JsError.new "spawn")) sampleOnceFlying).1 := by
  have hnow : (dispatched? sampleEnvironment sampleOnceQueued).any (fun d =>
      settlesNow sampleOnceFlying d (JsError.new "spawn")) = true := by decide +kernel
  have hreliable : sampleOnceFlying.Reliable := by decide +kernel
  obtain ⟨d, hd, hsettles⟩ := (Option.any_eq_true ..).1 hnow
  have hrun : runSupervisorOnce sampleEnvironment sampleOnceQueued
      = (.ok (.dispatching d), sampleOnceFlying) := dispatched?_eq_some hd
  refine ⟨d, hrun, ?_⟩
  have hflying : ControlRun (fun _ _ => True) sampleOnceFlying :=
    .call _ sampleOnceQueued_run trivial
  obtain ⟨task, run, hf⟩ := (dispatch_exception_settles_iff sampleOnceQueued_run).1 _ d _ hrun
  refine ((dispatch_exception_settles_iff hflying).2 d task run hf hreliable _ _).2 ?_
  unfold settlesNow at hsettles
  rw [hf.found, Option.any_some, ← hf.runId] at hsettles
  have hknows : lookup RunRecord.runId sampleOnceFlying.store.runs.runs run.runId = some run :=
    hf.knows
  rwa [hknows, Option.any_some] at hsettles

end sample

end Autopilot
