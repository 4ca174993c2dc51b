/-
Runs that were asked to cancel.

The first thing a call of the supervisor looks for is a run that was asked to cancel and is not
cancelled. It takes the first one it finds, and the call is over with it. A run that has completed or
failed in spite of the request is found as well; it cannot be cancelled any more, so the call throws,
and it is found again by every later call.

A run comes to that end only where the end of its dispatch is none that waits for the cancellation:
its last attempt throws, its worker refuses, or the answer is over the budget. Where no dispatch ends
like this, the runs that were asked to cancel are cancelled or still open, in every state.
-/
import Autopilot.HeadOfLine

set_option autoImplicit false

namespace Autopilot

open Prog Keyed RunStore

variable {options : OrchestratorOptions} {full : Prop}
variable {h h' : Machine (World options)} {run run' : RunRecord}

/-! ## Requests that are kept -/

/-- A run that was asked to cancel ends by being cancelled. -/
def RunRecord.Heeded (run : RunRecord) : Prop :=
  run.cancellationRequested = true → run.status.terminal = true → run.status = .cancelled

/-- An open run can still be cancelled. -/
theorem heeded_of_open (hopen : run.status.terminal = false) : run.Heeded := by
  intro _ hterminal
  rw [hopen] at hterminal
  cases hterminal

theorem RunRecord.Heeded.of_same (hh : run.Heeded)
    (hflag : run'.cancellationRequested = run.cancellationRequested)
    (hstatus : run'.status = run.status) : run'.Heeded := by
  intro hasked hterminal
  rw [hflag] at hasked
  rw [hstatus] at hterminal ⊢
  exact hh hasked hterminal

/-- **The step lemma** for one run: where no run ends in spite of a request, a request is heeded. -/
theorem RunChange.heeded (hc : RunChange full False h run run') (hh : run.Heeded) :
    run'.Heeded := by
  cases hc with
  | revised => exact hh.of_same rfl rfl
  | approved => exact heeded_of_open rfl
  | groupBound => exact hh.of_same rfl rfl
  | unbound => exact hh.of_same rfl rfl
  | queued => exact heeded_of_open rfl
  | started => exact heeded_of_open rfl
  | settled => exact hh.of_same rfl rfl
  | released => exact hh.of_same rfl rfl
  | finalized status reason now hopen hend hended hguarded =>
    -- the run is open, so it was not asked to cancel
    intro hasked _
    rcases hguarded hasked with hcancelled | hcareless
    · rcases hopen with hopen | hopen <;> cases hopen.symm.trans hcancelled
    · exact hcareless.elim
  | cancelled => exact fun _ _ => rfl
  | flagged now hopen => exact heeded_of_open hopen
  | noted _ hcore =>
    have hsame := sameCourse_of_core hcore
    exact hh.of_same hsame.cancellationRequested hsame.status

/-- Every request is heeded. -/
def AllHeeded (h : Machine (World options)) : Prop := ∀ run ∈ h.store.runs.runs, run.Heeded

theorem AllHeeded.of_runs (ha : AllHeeded h) (hruns : h'.store.runs = h.store.runs) :
    AllHeeded h' := by
  intro run hrun
  rw [hruns] at hrun
  exact ha run hrun

theorem AllHeeded.of_put (ha : AllHeeded h) (hh : run'.Heeded)
    (hruns : h'.store.runs.runs = h.store.runs.runs.map (put RunRecord.runId run')) :
    AllHeeded h' := by
  intro other hother
  rw [hruns] at hother
  rcases mem_put hother with rfl | ⟨hmem, -⟩
  · exact hh
  · exact ha other hmem

theorem AllHeeded.of_new (ha : AllHeeded h) {draft : RunDraft} {ref : Option OrchestrationRef}
    {request : Option OrchestrationRequest}
    (hruns : h'.store.runs.runs = h.store.runs.runs ++ [newRun draft ref request]) :
    AllHeeded h' := by
  intro other hother
  rw [hruns, List.mem_append, List.mem_singleton] at hother
  rcases hother with hother | rfl
  · exact ha other hother
  · exact heeded_of_open rfl

/-- **The step lemma.** -/
theorem Step.heeded (hs : Step full False h h') (ha : AllHeeded h) : AllHeeded h' := by
  obtain ⟨-, hchange⟩ := hs
  cases hchange with
  | kept hstore => exact ha.of_runs (congrArg World.runs hstore)
  | created _ _ _ _ _ hruns => exact ha.of_new hruns
  | groupCreated _ _ _ _ _ _ _ hruns => exact ha.of_new hruns
  | changed run run' hknows hchange hruns =>
    exact ha.of_put (hchange.heeded (ha run hknows.mem)) hruns
  | bound run uuid reservation now _ hknows _ _ _ hruns =>
    have hheeded : (boundRun run (runTaskId uuid.text) reservation now).Heeded :=
      (ha run hknows.mem).of_same rfl rfl
    exact ha.of_put hheeded hruns
  | asked _ _ _ _ _ _ _ hframe => exact ha.of_runs hframe.runs
  | decided _ hframe => exact ha.of_runs hframe.runs
  | entered _ _ _ _ _ _ _ hframe => exact ha.of_runs hframe.runs
  | moved _ _ hframe => exact ha.of_runs hframe.runs
  | metered _ _ _ hframe => exact ha.of_runs hframe.runs
  | reloaded _ hstore =>
    refine ha.of_runs ?_
    rw [hstore]
    rfl

/-- **The run lemma.** -/
theorem ControlRun.heeded (hr : ControlRun (fun h c => ControlCall.Cautious h c) h) :
    AllHeeded h := by
  have hstep : ∀ h h' : Machine (World options), Tidy True h → AllHeeded h →
      Step True False h h' → AllHeeded h' := fun _ _ _ ha hs => hs.heeded ha
  refine (ControlRun.invariant (fun _ _ _ => .inl trivial) (fun _ _ ok => .inr ok) ?_ hstep hr).2
  intro writes uuids fresh run hrun
  cases hrun

/-! ## The scan of a call -/

theorem pendingCancellation_eq_none {runs : List RunRecord}
    (h : ∀ run ∈ runs, run.cancellationRequested = true → run.status = .cancelled) :
    pendingCancellation runs = none := by
  refine List.find?_eq_none.2 fun run hrun => ?_
  rw [Bool.and_eq_true, decide_eq_true_eq]
  rintro ⟨hasked, hstatus⟩
  exact hstatus (h run hrun hasked)

/-- A call that finds no run to cancel goes on with the tasks. -/
theorem runSupervisorOnce_eq (env : Environment)
    (hnone : pendingCancellation h.store.runs.runs = none) :
    runSupervisorOnce env h =
      (acknowledgeAll (endedReservations h.store.runs.runs) >>= fun _ => replayFailure env) h := by
  unfold runSupervisorOnce
  rw [bind_run, Host.read_run]
  dsimp only
  rw [bind_run, bind_run]
  rcases hack : acknowledgeAll (endedReservations h.store.runs.runs) h with ⟨e | u, h₁⟩
  · rfl
  · dsimp only
    rw [bind_run, Host.read_run]
    dsimp only
    rw [(acknowledgeAll_frame hack).runs, hnone]

/-- **A request never wedges the orchestrator**, where no dispatch ends in spite of one: a run that was
asked to cancel and has come to an end is cancelled; what a call finds to cancel is open; and when all
the runs that were asked to cancel are at an end, a call goes on with the tasks as if nobody had asked. -/
theorem cancellation_never_wedges (hr : ControlRun (fun h c => ControlCall.Cautious h c) h) :
    (∀ run ∈ h.store.runs.runs, run.cancellationRequested = true → run.status.terminal = true →
        run.status = .cancelled) ∧
      (∀ run, pendingCancellation h.store.runs.runs = some run → run.status.terminal = false) ∧
      ∀ env, (∀ run ∈ h.store.runs.runs, run.cancellationRequested = true →
          run.status.terminal = true) →
        runSupervisorOnce env h = (acknowledgeAll (endedReservations h.store.runs.runs) >>=
          fun _ => replayFailure env) h := by
  have hheeded := hr.heeded
  refine ⟨hheeded, fun run hpending => ?_, fun env hended => ?_⟩
  · have hfound := List.find?_some hpending
    rw [Bool.and_eq_true, decide_eq_true_eq] at hfound
    cases hterminal : run.status.terminal with
    | false => rfl
    | true =>
      exact absurd (hheeded run (List.mem_of_find?_eq_some hpending) hfound.1 hterminal) hfound.2
  · exact runSupervisorOnce_eq env (pendingCancellation_eq_none fun run hrun hasked =>
      hheeded run hrun hasked (hended run hrun hasked))

/-! A run that was asked to cancel while its one attempt was running. -/

section sample

def sampleAsked : Machine (World sampleOnce) :=
  ControlCall.run sampleOnceFlying (.cancel sampleEnvironment sampleUuid.text)

/-- The attempt throws. -/
def sampleThrown (d : Dispatch) : Machine (World sampleOnce) :=
  ControlCall.run sampleAsked (.dispatchEnded sampleEnvironment d (.error (JsError.new "spawn")))

/-- The call throws that the run cannot be cancelled, and nothing is stored. -/
def throwsIdly (env : Environment) (h : Machine (World options)) : Bool :=
  match runSupervisorOnce env h with
  | (.error (.thrown e), h') => e = JsError.new "invalid_run_transition" ∧ h'.store = h.store
  | _ => false

/-- The run failed in spite of the request, and every later call throws. -/
theorem cancellation_wedges : ∃ h : Machine (World sampleOnce),
    ControlRun (fun _ _ => True) h ∧
      (∃ run ∈ h.store.runs.runs, run.cancellationRequested = true ∧ run.status = .failed) ∧
      throwsIdly sampleEnvironment h = true := by
  have hthrown : (dispatched? sampleEnvironment sampleOnceQueued).any (fun d =>
      (sampleThrown d).store.runs.runs.any
          (fun run => run.cancellationRequested && decide (run.status = .failed)) &&
        throwsIdly sampleEnvironment (sampleThrown d)) = true := by decide +kernel
  obtain ⟨d, -, hthrown⟩ := (Option.any_eq_true ..).1 hthrown
  rw [Bool.and_eq_true] at hthrown
  obtain ⟨run, hrun, hfailed⟩ := List.any_eq_true.1 hthrown.1
  rw [Bool.and_eq_true, decide_eq_true_eq] at hfailed
  have hreached : ControlRun (fun _ _ => True) (sampleThrown d) :=
    .call _ (.call _ (.call _ sampleOnceQueued_run trivial) trivial) trivial
  exact ⟨sampleThrown d, hreached, ⟨run, hrun, hfailed⟩, hthrown.2⟩

theorem cancellation_never_wedges_sample :
    (∀ run ∈ sampleAsked.store.runs.runs, run.cancellationRequested = true →
        run.status.terminal = true → run.status = .cancelled) ∧
      ∃ run, pendingCancellation sampleAsked.store.runs.runs = some run ∧
        run.status.terminal = false := by
  have hasked : ControlRun (fun h c => ControlCall.Cautious h c) sampleAsked :=
    .call _ (.call _ (.call _ (.call _ (.start [] _ _) trivial) trivial) trivial) trivial
  have hpending : (pendingCancellation sampleAsked.store.runs.runs).isSome = true := by
    decide +kernel
  obtain ⟨run, hrun⟩ := Option.isSome_iff_exists.1 hpending
  obtain ⟨hheeded, hopen, -⟩ := cancellation_never_wedges hasked
  exact ⟨hheeded, run, hrun, hopen run hrun⟩

end sample

end Autopilot
