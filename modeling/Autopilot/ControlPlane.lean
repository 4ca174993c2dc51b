/-
The control plane: every call on the four stores, in any order.

The routes of the control plane and its poll loop call the orchestrator. Between
two calls nothing is remembered but what is in the stores, so a run of the
control plane is a sequence of calls, each with its own time, registry and
routes, under any outcome of the writes. A call of `runSupervisorOnce` ends when
it has a handoff for the dispatcher; what comes of the dispatch is a later call,
and anything can be called in between.

Every call goes through the steps of `RunSteps`. What every step keeps therefore
holds in every state the control plane can reach.
-/
import Autopilot.RunCourses
import Autopilot.RunEndings

set_option autoImplicit false

namespace Autopilot

open Prog Keyed

variable {options : OrchestratorOptions} {full careless : Prop}

/-! ## Calls -/

/-- A call on the stores. -/
inductive ControlCall where
  | prepare (env : Environment) (input : RunDraftInput)
  | revise (env : Environment) (runId : JsString) (expectedRevision : ℕ) (input : RunDraftInput)
  | decide (env : Environment) (approvalId : JsString) (approved : Bool)
      (reason : Option JsString)
  | approveAndQueue (env : Environment) (runId : JsString) (revision : ℕ) (operator : JsString)
  | cancel (env : Environment) (runId : JsString)
  | supervise (env : Environment)
  | dispatchEnded (env : Environment) (dispatch : Dispatch) (outcome : DispatchOutcome)
  | reserveGroup (spec : OrchestrationGroupSpec)
  | ensureGroupRun (env : Environment) (ref : OrchestrationRef) (input : RunDraftInput)
      (operator : JsString) (strictRouteEligibility : Bool)
  | releaseGroupSlots (env : Environment) (groupId : JsString) (slotIds : List JsString)
  /-- A process starts on the state directory. -/
  | restart (env : Environment)

/-- The start of a process: the stores are loaded and the supervisor recovers. -/
def restart (env : Environment) : Proc (World options) Unit := do
  Host.update (World.reload options)
  let _ ← inSupervisor (SupervisorQueue.recover (some env.now))

/-- The stores after a call, whether it returned or threw. -/
def ControlCall.run (h : Machine (World options)) : ControlCall → Machine (World options)
  | .prepare env input => (prepareRun env input h).2
  | .revise env runId expectedRevision input =>
    (reviseRunWithApproval env runId expectedRevision input h).2
  | .decide env approvalId approved reason =>
    (decideApprovalHttp env approvalId approved reason h).2
  | .approveAndQueue env runId revision operator =>
    (approveAndQueueRun env runId revision operator h).2
  | .cancel env runId => (cancelRun env runId h).2
  | .supervise env => (runSupervisorOnce env h).2
  | .dispatchEnded env dispatch outcome => (Autopilot.dispatchEnded env dispatch outcome h).2
  | .reserveGroup spec => (reserveOrchestrationGroup spec h).2
  | .ensureGroupRun env ref input operator strictRouteEligibility =>
    (Autopilot.ensureGroupRun env ref input operator strictRouteEligibility h).2
  | .releaseGroupSlots env groupId slotIds =>
    (releaseOrchestrationGroupSlots env groupId slotIds h).2
  | .restart env => (Autopilot.restart env h).2

/-- The stores reached by permitted calls. -/
inductive ControlRun (permitted : Machine (World options) → ControlCall → Prop) :
    Machine (World options) → Prop where
  | start (writes : List (WriteOutcome JsError)) (uuids : List Uuid) (fresh : uuids.Nodup) :
    ControlRun permitted ⟨.initial options, writes, .fresh uuids fresh⟩
  | call {h : Machine (World options)} (c : ControlCall) (before : ControlRun permitted h)
    (ok : permitted h c) : ControlRun permitted (c.run h)

/-! ## The steps of a call -/

/-- A call that concerns one run by itself, in a process that goes on. -/
def ControlCall.Single : ControlCall → Prop
  | .reserveGroup _ | .ensureGroupRun .. | .releaseGroupSlots .. | .restart _ => False
  | _ => True

/-- A call that ends no dispatch in spite of a cancellation. -/
def ControlCall.Cautious (h : Machine (World options)) : ControlCall → Prop
  | .dispatchEnded _ dispatch outcome => Careful h dispatch outcome
  | _ => True

variable {h : Machine (World options)}

theorem walks_restart (hfull : full) (env : Environment) :
    Walks (Step full careless) h (restart env) (fun _ _ => True) (fun _ _ => True) := by
  unfold restart
  refine Walks.bind (Q := fun _ _ => True) (E := fun _ _ => True) ?_ (fun _ _ _ => trivial) ?_
  · refine Walks.of_ok (Host.update_run (World.reload options) h) (.single ⟨fun hn => absurd hfull hn, ?_⟩)
      trivial
    exact .reloaded hfull rfl rfl
  · intro _ h₁ _ _
    refine Walks.bind (walks_moved (keepsTasks_recover env.now)) (fun _ _ _ => trivial) ?_
    intro _ h₂ _ _
    exact Walks.of_pure trivial

/-- **Every call** goes through the steps of the control plane. -/
theorem ControlCall.path (ht : Tidy full h) (c : ControlCall) (hfull : full ∨ c.Single)
    (hcareless : careless ∨ c.Cautious h) :
    Relation.ReflTransGen (Step full careless) h (c.run h) := by
  cases c with
  | prepare env input => exact (walks_prepareRun ht env input).path
  | revise env runId expectedRevision input =>
    exact (walks_reviseRunWithApproval ht env runId expectedRevision input).path
  | decide env approvalId approved reason =>
    exact (walks_decided env approvalId approved reason).path
  | approveAndQueue env runId revision operator =>
    exact (walks_approveAndQueueRun ht env runId revision operator).path
  | cancel env runId => exact (walks_cancelRun ht env runId).path
  | supervise env => exact (walks_runSupervisorOnce ht env).path
  | dispatchEnded env dispatch outcome =>
    exact (walks_dispatchEnded ht env dispatch outcome hcareless).path
  | reserveGroup spec =>
    exact (walks_reserveOrchestrationGroup (hfull.resolve_right id) spec).path
  | ensureGroupRun env ref input operator strictRouteEligibility =>
    exact (walks_ensureGroupRun ht (hfull.resolve_right id) env ref input operator
      strictRouteEligibility).path
  | releaseGroupSlots env groupId slotIds =>
    exact (walks_releaseOrchestrationGroupSlots (hfull.resolve_right id) env groupId slotIds).path
  | restart env => exact (walks_restart (hfull.resolve_right id) env).path

/-! ## What every state has -/

theorem tidy_initial (writes : List (WriteOutcome JsError)) (uuids : List Uuid)
    (fresh : uuids.Nodup) :
    Tidy full (⟨.initial options, writes, .fresh uuids fresh⟩ : Machine (World options)) := by
  refine ⟨fun run hrun => ?_, fun _ => ?_, fun _ => ?_, fun _ run hrun => ?_⟩
  · cases hrun
  · exact linked_initial
  · intro id id' r r' hget
    cases hget
  · cases hrun

/-- What every step keeps is kept by every call that goes through these steps. -/
theorem ControlCall.invariant {P : Machine (World options) → Prop}
    (hstep : ∀ h h', Tidy full h → P h → Step full careless h h' → P h') (c : ControlCall)
    (hfull : full ∨ c.Single) (hcareless : careless ∨ c.Cautious h) (ht : Tidy full h)
    (hP : P h) : Tidy full (c.run h) ∧ P (c.run h) := by
  have hpath := c.path ht hfull hcareless
  -- along the steps of the call
  generalize c.run h = h' at hpath
  induction hpath with
  | refl => exact ⟨ht, hP⟩
  | tail _ hs ih => exact ⟨hs.tidy ih.1, hstep _ _ ih.1 ih.2 hs⟩

variable {permitted : Machine (World options) → ControlCall → Prop}

/-- **The invariant rule.** What holds in an empty directory and is kept by every
step holds in every state, where the permitted calls go through these steps. -/
theorem ControlRun.invariant {P : Machine (World options) → Prop}
    (hfull : ∀ h c, permitted h c → full ∨ c.Single)
    (hcareless : ∀ h c, permitted h c → careless ∨ c.Cautious h)
    (hstart : ∀ writes uuids fresh, P ⟨.initial options, writes, .fresh uuids fresh⟩)
    (hstep : ∀ h h', Tidy full h → P h → Step full careless h h' → P h')
    (hr : ControlRun permitted h) : Tidy full h ∧ P h := by
  induction hr with
  | start writes uuids fresh => exact ⟨tidy_initial writes uuids fresh, hstart writes uuids fresh⟩
  | call c before ok ih =>
    exact c.invariant hstep (hfull _ c ok) (hcareless _ c ok) ih.1 ih.2

end Autopilot
