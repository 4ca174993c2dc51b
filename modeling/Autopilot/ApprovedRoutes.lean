/-
The approved route on its way to the worker.

A revision is approved with a provider, a model and a reasoning effort. The handoff
of its run carries all three. The dispatch rebuilds the input of the worker field by
field, and the generation settings are not among the fields, so the effort ends
there: every worker runs with the effort its vendor chooses.
-/
import Autopilot.GovernedDispatch

set_option autoImplicit false

namespace Autopilot

namespace GovernedDispatch

open DecisionMesh (TextLocale)

/-- The text of the effort the revision of a run was approved with. -/
def approvedEffort (run : RunRecord) : Option JsString :=
  (resolveLegacyRequestedReasoning run).map (·.text)

/-- The worker is started on the route of the run: with its provider, with its model
where it names one, and with its effort. -/
structure OnApprovedRoute (run : RunRecord) (input : CliWorkerInput) : Prop where
  vendor : input.vendor = run.current.provider
  model : ∀ model, run.current.model = some model → input.model = some model
  effort : input.reasoningEffort = approvedEffort run

/-- The run with another effort. -/
def withEffort (run : RunRecord) (effort : Option RunReasoningEffort) : RunRecord :=
  { run with current := { run.current with requestedReasoningEffort := effort } }

/-- What a dispatch makes of the handoff of a run: the handoff it accepts, and the
input of the worker. -/
structure Reaches (sha256 : Sha256) (env : Environment) (locale : TextLocale) (mesh : DecisionMesh)
    (reserve : CliWorkerInput → Except ReserveFailure Unit) (owner : ReservationOwner)
    (run : RunRecord) (input : CliWorkerInput) : Prop where
  dispatched : ∃ handoff tierId, handoffFor sha256 env run = .ok handoff ∧
    dispatchHandoff reserve owner sha256 locale mesh (.ofRun handoff) = .ok (.worker input tierId)

/-- The input of the worker that a run with this working directory gets. -/
def workerInputOf (run : RunRecord) (cwd : JsString) : CliWorkerInput where
  handoffId := handoffIdFor run
  sessionId := some run.runId
  skillIds := none
  vendor := run.current.provider
  prompt := run.current.prompt
  parentSessionHash := run.runId
  parentTurnHash := decimal run.current.revision
  codexMode := none
  openrouterMode := none
  model :=
    if run.current.provider = .agyCli ∧ run.current.model = none then some agyFastDefault
    else run.current.model
  routingMode := none
  taskPacketRef := none
  cwd := some cwd
  addDirs := none
  images := none
  timeoutMs := none
  outputSchemaPath := none
  maxPromptChars := none
  supervisorOwnsRetry := true
  lockSource := verifiedLockSource

section routes

variable {sha256 : Sha256} {env : Environment} {locale : TextLocale} {mesh : DecisionMesh}
variable {reserve : CliWorkerInput → Except ReserveFailure Unit} {owner : ReservationOwner}
variable {run : RunRecord} {input : CliWorkerInput}

/-- The worker input follows from the run and from the directory of its project. -/
theorem handoffFor_workerInput {handoff : GovernedHandoff}
    (h : handoffFor sha256 env run = .ok handoff) :
    ∃ cwd, env.resolveEnabledProject run.current.projectId = .ok cwd ∧
      toCliWorkerInput (.ofRun handoff) = workerInputOf run cwd := by
  unfold handoffFor at h
  split at h
  · cases h
  · split at h
    · cases h
    · cases hpacket : env.buildAgentPacket (js "Execute approved run " ++ run.runId ++
          js " revision " ++ decimal run.current.revision) (js "worker")
          run.current.estimatedTokens with
      | error error =>
        simp only [hpacket] at h
        cases h
      | ok packet =>
        cases hcwd : env.resolveEnabledProject run.current.projectId with
        | error error =>
          simp only [hpacket, hcwd] at h
          cases h
        | ok cwd =>
          simp only [hpacket, hcwd] at h
          cases h
          exact ⟨cwd, rfl, rfl⟩

theorem Reaches.input_eq (h : Reaches sha256 env locale mesh reserve owner run input) :
    ∃ cwd, env.resolveEnabledProject run.current.projectId = .ok cwd ∧
      input = workerInputOf run cwd := by
  obtain ⟨handoff, tierId, hhandoff, hdispatch⟩ := h.dispatched
  obtain ⟨cwd, hcwd, hinput⟩ := handoffFor_workerInput hhandoff
  have hworker := dispatchHandoff_worker hdispatch
  exact ⟨cwd, hcwd, hworker.trans hinput⟩

/-- Provider and model arrive. -/
theorem Reaches.vendor_model (h : Reaches sha256 env locale mesh reserve owner run input) :
    input.vendor = run.current.provider ∧
      ∀ model, run.current.model = some model → input.model = some model := by
  obtain ⟨cwd, -, hinput⟩ := h.input_eq
  rw [hinput]
  refine ⟨rfl, ?_⟩
  intro model hmodel
  show (if run.current.provider = .agyCli ∧ run.current.model = none then some agyFastDefault
    else run.current.model) = some model
  rw [if_neg, hmodel]
  intro hnone
  rw [hnone.2] at hmodel
  exact absurd hmodel (by simp)

/-- No effort arrives. -/
theorem Reaches.no_effort (h : Reaches sha256 env locale mesh reserve owner run input) :
    input.reasoningEffort = none := by
  obtain ⟨cwd, -, hinput⟩ := h.input_eq
  rw [hinput]
  rfl

/-- The effort of a run is not in the input of its worker. -/
theorem Reaches.input_withEffort {other : CliWorkerInput} {effort : Option RunReasoningEffort}
    (h : Reaches sha256 env locale mesh reserve owner run input)
    (h' : Reaches sha256 env locale mesh reserve owner (withEffort run effort) other) :
    other = input := by
  obtain ⟨cwd, hcwd, hinput⟩ := h.input_eq
  obtain ⟨cwd', hcwd', hother⟩ := h'.input_eq
  have hsame : cwd' = cwd := by
    rw [show (withEffort run effort).current.projectId = run.current.projectId from rfl,
      hcwd] at hcwd'
    exact (Except.ok.inj hcwd').symm
  rw [hinput, hother, hsame]
  rfl

/-- The worker of a run is on the approved route exactly when no effort was approved.
Otherwise provider and model arrive all the same, a run without a model gets the default of
the one vendor that has one, and the effort is lost: a run that differs in nothing but the
effort gets the same input. -/
theorem approved_route_iff (h : Reaches sha256 env locale mesh reserve owner run input) :
    (OnApprovedRoute run input ↔ resolveLegacyRequestedReasoning run = none) ∧
      input.vendor = run.current.provider ∧
      (input.model = run.current.model ↔
        ¬(run.current.provider = .agyCli ∧ run.current.model = none)) ∧
      ∀ effort other,
        Reaches sha256 env locale mesh reserve owner (withEffort run effort) other →
          other = input := by
  have hroute := h.vendor_model
  have hnone := h.no_effort
  refine ⟨?_, hroute.1, ?_, ?_⟩
  · constructor
    · intro hon
      have heffort := hon.effort
      rw [hnone, approvedEffort, eq_comm, Option.map_eq_none_iff] at heffort
      exact heffort
    · intro hno
      refine ⟨hroute.1, hroute.2, ?_⟩
      rw [hnone, approvedEffort, hno]
      rfl
  · obtain ⟨cwd, -, hinput⟩ := h.input_eq
    have hmodel : input.model =
        if run.current.provider = .agyCli ∧ run.current.model = none then some agyFastDefault
        else run.current.model := by rw [hinput, workerInputOf]
    rw [hmodel]
    by_cases hdefault : run.current.provider = .agyCli ∧ run.current.model = none
    · rw [if_pos hdefault, hdefault.2]
      simp [hdefault.1]
    · rw [if_neg hdefault]
      simp [hdefault]
  · intro effort other hother
    exact h.input_withEffort hother

end routes

/-! A run that was approved with a high effort. -/

section sample

def sampleMeshEnvironment : Environment :=
  onMesh sampleHash sampleLocale sampleMesh sampleEnvironment

/-- The input of the worker of a run, when it is dispatched on the sample mesh. -/
def sampleWorkerInput (run : RunRecord) : Option CliWorkerInput :=
  match handoffFor sampleHash sampleMeshEnvironment run with
  | .error _ => none
  | .ok handoff =>
    match dispatchHandoff (fun _ => .ok ()) .caller sampleHash sampleLocale sampleMesh
        (.ofRun handoff) with
    | .ok (.worker input _) => some input
    | _ => none

theorem reaches_of_sampleWorkerInput {run : RunRecord} {input : CliWorkerInput}
    (h : sampleWorkerInput run = some input) :
    Reaches sampleHash sampleMeshEnvironment sampleLocale sampleMesh (fun _ => .ok ()) .caller
      run input := by
  unfold sampleWorkerInput at h
  split at h
  · cases h
  · rename_i handoff hhandoff
    split at h
    · rename_i found tierId hdispatch
      cases h
      exact ⟨handoff, tierId, hhandoff, hdispatch⟩
    · cases h

theorem sampleRun_reaches :
    Reaches sampleHash sampleMeshEnvironment sampleLocale sampleMesh (fun _ => .ok ()) .caller
      sampleRun (workerInputOf sampleRun (js "/work")) := by
  apply reaches_of_sampleWorkerInput
  decide +kernel

theorem approved_route_iff_sample :
    ¬ OnApprovedRoute sampleRun (workerInputOf sampleRun (js "/work")) ∧
      (workerInputOf sampleRun (js "/work")).model = none := by
  have hiff := approved_route_iff sampleRun_reaches
  refine ⟨?_, ?_⟩
  · rw [hiff.1]
    decide
  · rw [hiff.2.2.1.2 (by decide)]
    rfl

/-- The run asks for a high effort, and so does its handoff. The worker gets none, as it
does for the run that asks for a low one. -/
theorem approved_effort_is_lost :
    ∃ input,
      Reaches sampleHash sampleMeshEnvironment sampleLocale sampleMesh (fun _ => .ok ()) .caller
        sampleRun input ∧
      Reaches sampleHash sampleMeshEnvironment sampleLocale sampleMesh (fun _ => .ok ()) .caller
        (withEffort sampleRun (some .low)) input ∧
      sampleRun.approvedRevision = some sampleRun.current.revision ∧
      approvedEffort sampleRun = some (js "high") ∧ input.reasoningEffort = none ∧
      ¬ OnApprovedRoute sampleRun input := by
  refine ⟨workerInputOf sampleRun (js "/work"), sampleRun_reaches, ?_, rfl, rfl, rfl, ?_⟩
  · apply reaches_of_sampleWorkerInput
    decide +kernel
  · intro hon
    exact absurd hon.effort (by decide)

end sample

end GovernedDispatch

end Autopilot
