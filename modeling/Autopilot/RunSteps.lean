/-
What a call of the orchestrator can do to its stores, step by step.

A call is a sequence of writes to four files, and it can end after any of them:
by an exception, by a failing write, by the death of the process. What holds in
every state the system can be in therefore has to be kept by each single write.
`Step` lists them. Each is a change of one store together with what the code has
made sure of at that point of its path, which is more than the store checks by
itself.

Two circumstances are left open: whether everything can happen, which is also
what concerns groups and restarts, and whether a failed run may have been asked
to cancel. The second half of the
module says which steps each function of the stores goes through when the
orchestrator calls it.
-/
import Autopilot.GatewayRuns
import Autopilot.RunDispatch
import Autopilot.RunStoreSpec
import Autopilot.SupervisorQueueSpec

set_option autoImplicit false

namespace Autopilot

open Prog Keyed RunStore

variable {options : OrchestratorOptions}

/-! ## What the code knows on its way -/

/-- The run is stored as the code has it at hand. -/
def Knows (h : Machine (World options)) (run : RunRecord) : Prop :=
  lookup RunRecord.runId h.store.runs.runs run.runId = some run

/-- The handoff carries what the revision says. -/
structure HandoffOf (run : RunRecord) (handoff : GovernedHandoff) : Prop where
  handoffId : handoff.handoffId = handoffIdFor run
  sessionId : handoff.sessionId = some run.runId
  vendor : handoff.vendor = run.current.provider
  model : handoff.model = run.current.model
  prompt : handoff.prompt = run.current.prompt
  reasoningEffort :
    handoff.reasoningEffort = (resolveLegacyRequestedReasoning run).map (·.text)

/-- The reservation is over at the gateway. -/
def Gateway.spent (gateway : Gateway) (id : JsString) : Prop :=
  gateway.state.reservations.get? id = none ∧
    (gateway.state.terminal.get? id ≠ none ∨
      ∃ x ∈ gateway.history, x.reservation.reservationId = id)

/-- The reservation was settled at the gateway, with these counts. -/
def Gateway.settledAs (gateway : Gateway) (id : JsString) (inputTokens outputTokens : ℕ) : Prop :=
  gateway.state.reservations.get? id = none ∧
    ((∃ t, gateway.state.terminal.get? id = some t ∧ t.event = .settled ∧
        t.settlement.inputTokens = inputTokens ∧ t.settlement.outputTokens = outputTokens) ∨
      ∃ x ∈ gateway.history, x.reservation.reservationId = id ∧ x.event = .settled ∧
        x.settlement.inputTokens = inputTokens ∧ x.settlement.outputTokens = outputTokens)

/-- No reservation of a handoff is active. -/
def Gateway.unheld (gateway : Gateway) (handoffId : JsString) : Prop :=
  ∀ id r, gateway.state.reservations.get? id = some r → r.handoffId ≠ some handoffId

/-- No two active reservations are for one handoff. -/
def Gateway.singlyHeld (gateway : Gateway) : Prop :=
  ∀ id id' r r', gateway.state.reservations.get? id = some r →
    gateway.state.reservations.get? id' = some r' → r.handoffId = r'.handoffId →
    r.handoffId ≠ none → id = id'

/-- The identifier of a handoff as the gateway keeps it. -/
def keptHandoffId (handoffId : JsString) : JsString :=
  (bounded (some handoffId)).getD (js "unknown")

/-- A run that was asked to cancel and is not cancelled yet does not end any other
way, where that is not let pass. -/
def Guarded (careless : Prop) (run : RunRecord) : Prop :=
  run.cancellationRequested = true → run.status = .cancelled ∨ careless

/-- A record without its notes: what the worker returned, what went wrong, what
was used so far. -/
def RunRecord.core (run : RunRecord) : RunRecord :=
  { run with
    workerRunId := none, providerResult := none, queueCompensationRequested := false
    dispatchFailure := none, retryInputTokens := 0, retryOutputTokens := 0, artifacts := []
    updatedAt := 0 }

/-- A run bound to a task and a reservation. -/
def boundRun (run : RunRecord) (taskId : JsString) (reservation : TokenReservation) (now : ℕ) :
    RunRecord :=
  { run with
    supervisorTaskId := some taskId, tokenReservation := some reservation
    reservationStatus := .active, updatedAt := now }

/-- A run whose binding was given up. -/
def unboundRun (run : RunRecord) (now : ℕ) : RunRecord :=
  { run with
    supervisorTaskId := none, tokenReservation := none, reservationStatus := .none
    queueCompensationRequested := false, updatedAt := now }

/-- A run at another status. -/
def movedRun (run : RunRecord) (status : RunStatus) (now : ℕ) : RunRecord :=
  { run with status := status, updatedAt := now }

/-- A run whose reservation was released. -/
def releasedRun (run : RunRecord) (now : ℕ) : RunRecord :=
  { run with reservationStatus := .released, updatedAt := now }

/-- A run that was asked to cancel. -/
def flaggedRun (run : RunRecord) (now : ℕ) : RunRecord :=
  { run with cancellationRequested := true, updatedAt := now }

/-! ## Steps -/

/-- The reservation a run is bound to is active and is one for its handoff. -/
def HoldsFor (h : Machine (World options)) (run : RunRecord) (reservation : TokenReservation) :
    Prop :=
  (∃ id, h.store.gateway.state.reservations.get? id = some reservation) ∧
    reservation.handoffId = some (keptHandoffId (handoffIdFor run))

/-- How the record of one run changes. -/
inductive RunChange (full careless : Prop) (h : Machine (World options)) (run : RunRecord) :
    RunRecord → Prop
  | revised (input : RunDraftInput) (now : ℕ) (hdraft : run.status = .draft)
      (hinput : draftRefusal input = none) :
      RunChange full careless h run
        (revisedRun run (newDraft input run.runId (run.current.revision + 1) now) now)
  | approved (operator : JsString) (now : ℕ) (hdraft : run.status = .draft)
      (hgranted : ∃ approval ∈ h.store.approvals.records,
        approval.status = .approved ∧ approval.isFor run.runId run.current.revision = true) :
      RunChange full careless h run (approvedRun run run.current.revision operator now)
  | groupBound (hfull : full) (reservation : TokenReservation) (now : ℕ)
      (happroved : run.status = .approved) (hfree : run.supervisorTaskId = none)
      (hgroup : run.orchestrationRef ≠ none) :
      RunChange full careless h run (boundRun run (runTaskId run.runId) reservation now)
  | unbound (now : ℕ) (happroved : run.status = .approved)
      (hended : run.reservationStatus ≠ .active) :
      RunChange full careless h run (unboundRun run now)
  | queued (now : ℕ) (happroved : run.status = .approved) (hheld : run.tokenReservation ≠ none) :
      RunChange full careless h run (movedRun run .queued now)
  | started (now : ℕ) (hqueued : run.status = .queued) :
      RunChange full careless h run (movedRun run .running now)
  | settled (reservation : TokenReservation) (inputTokens outputTokens now : ℕ)
      (hactive : run.reservationStatus = .active)
      (hheld : run.tokenReservation = some reservation)
      (hgateway : ¬ full →
        h.store.gateway.settledAs reservation.reservationId inputTokens outputTokens) :
      RunChange full careless h run
        (settledRun run (runTokenSettlement inputTokens outputTokens) now)
  | released (reservation : TokenReservation) (now : ℕ)
      (hactive : run.reservationStatus = .active)
      (hheld : run.tokenReservation = some reservation)
      (hgateway : ¬ full → h.store.gateway.spent reservation.reservationId) :
      RunChange full careless h run (releasedRun run now)
  | finalized (status : RunStatus) (reason : Option JsString) (now : ℕ)
      (hopen : run.status = .running ∨ run.status = .queued)
      (hend : status = .completed ∨ status = .failed) (hended : run.reservationStatus ≠ .active)
      (hguarded : Guarded careless run) :
      RunChange full careless h run (finalizedRun run status reason now)
  | cancelled (now : ℕ) (hopen : run.status.terminal = false)
      (hended : run.reservationStatus ≠ .active)
      (horphan : ¬ full → run.tokenReservation = none →
        h.store.gateway.unheld (keptHandoffId (handoffIdFor run))) :
      RunChange full careless h run (movedRun run .cancelled now)
  | flagged (now : ℕ) (hopen : run.status.terminal = false) :
      RunChange full careless h run (flaggedRun run now)
  | noted (run' : RunRecord) (hcore : run'.core = run.core) : RunChange full careless h run run'

/-- The identifiers drawn on the way: none, or one new one. -/
def Draws (h h' : Machine (World options)) : Prop :=
  h'.supply = h.supply ∨ ∃ uuid, h.supply.next = some (uuid, h'.supply)

/-- Only the runs changed. -/
structure OnRuns (h h' : Machine (World options)) : Prop where
  approvals : h'.store.approvals = h.store.approvals
  supervisor : h'.store.supervisor = h.store.supervisor
  gateway : h'.store.gateway = h.store.gateway

/-- Only the approvals changed. -/
structure OnApprovals (h h' : Machine (World options)) : Prop where
  runs : h'.store.runs = h.store.runs
  supervisor : h'.store.supervisor = h.store.supervisor
  gateway : h'.store.gateway = h.store.gateway

/-- Only the supervisor changed. -/
structure OnSupervisor (h h' : Machine (World options)) : Prop where
  runs : h'.store.runs = h.store.runs
  approvals : h'.store.approvals = h.store.approvals
  gateway : h'.store.gateway = h.store.gateway

/-- Only the gateway changed. -/
structure OnGateway (h h' : Machine (World options)) : Prop where
  runs : h'.store.runs = h.store.runs
  approvals : h'.store.approvals = h.store.approvals
  supervisor : h'.store.supervisor = h.store.supervisor

/-- A decision of the approval queue, as the orchestrator writes it: a record is
kept, is decided, or becomes a copy of a granted one of the same identifier. -/
def Settles (records : List ApprovalQueueRecord) (record record' : ApprovalQueueRecord) : Prop :=
  ApprovalQueue.Decides record record' ∨
    ∃ source ∈ records, source.approvalId = record.approvalId ∧
      ApprovalQueue.Decides source record' ∧ record'.status = .approved

/-- What a task of the supervisor keeps through all its changes. -/
def SupervisorTask.order (task : SupervisorTask) : JsString × GovernedHandoff :=
  (task.taskId, task.handoff)

/-- A call of the gateway that deals with one reservation. A new one is asked for
an approved run that has none. -/
def GatewayCall.Called (h : Machine (World options)) : GatewayCall → Prop
  | .reserve _ input => ∃ run, Knows h run ∧ run.status = .approved ∧
    (run.tokenReservation = none ∨ run.supervisorTaskId = none) ∧
    input.handoffId = some (handoffIdFor run)
  | .settle .. | .release .. | .acknowledgeTerminal .. => True
  | .reserveGroup .. | .claimGroupSlot .. | .releaseGroupSlots .. => False

/-- A step of the control plane. -/
inductive Change (full careless : Prop) (h h' : Machine (World options)) : Prop
  /-- A write that was not made. -/
  | kept (hstore : h'.store = h.store) (hdraws : Draws h h')
  | created (input : RunDraftInput) (now : ℕ) (uuid : Uuid)
      (hnext : h.supply.next = some (uuid, h'.supply)) (hinput : draftRefusal input = none)
      (hruns : h'.store.runs.runs
        = h.store.runs.runs ++ [newRun (newDraft input uuid.text 1 now) none none])
      (hframe : OnRuns h h')
  | groupCreated (hfull : full) (input : RunDraftInput) (now : ℕ) (ref : OrchestrationRef)
      (request : OrchestrationRequest) (hinput : draftRefusal input = none)
      (hnew : ∀ run ∈ h.store.runs.runs,
        run.runId ≠ deterministicGroupRunId options.queue.sha256 ref.groupId ref.slotId)
      (hruns : h'.store.runs.runs = h.store.runs.runs ++ [newRun (newDraft input
        (deterministicGroupRunId options.queue.sha256 ref.groupId ref.slotId) 1 now)
        (some ref) (some request)])
      (hframe : OnRuns h h') (hsupply : h'.supply = h.supply)
  | changed (run run' : RunRecord) (hknows : Knows h run)
      (hchange : RunChange full careless h run run')
      (hruns : h'.store.runs.runs = h.store.runs.runs.map (put RunRecord.runId run'))
      (hframe : OnRuns h h') (hsupply : h'.supply = h.supply)
  | bound (run : RunRecord) (uuid : Uuid) (reservation : TokenReservation) (now : ℕ)
      (hnext : h.supply.next = some (uuid, h'.supply)) (hknows : Knows h run)
      (happroved : run.status = .approved) (hfree : run.supervisorTaskId = none)
      (hholds : ¬ full → HoldsFor h run reservation)
      (hruns : h'.store.runs.runs = h.store.runs.runs.map
        (put RunRecord.runId (boundRun run (runTaskId uuid.text) reservation now)))
      (hframe : OnRuns h h')
  | asked (run : RunRecord) (approval : ApprovalQueueRecord) (now : ℕ) (hknows : Knows h run)
      (hfor : ApprovalQueue.undecided approval = approvalFor run.current now)
      (hrecords : h'.store.approvals.records = h.store.approvals.records ++ [approval])
      (hstatus : approval.status ≠ .rejected)
      (hframe : OnApprovals h h') (hsupply : h'.supply = h.supply)
  | decided (hrecords : List.Forall₂ (Settles h.store.approvals.records)
        h.store.approvals.records h'.store.approvals.records)
      (hframe : OnApprovals h h') (hsupply : h'.supply = h.supply)
  | entered (run : RunRecord) (task : SupervisorTask) (hknows : Knows h run)
      (hbound : run.supervisorTaskId = some task.taskId) (hhandoff : HandoffOf run task.handoff)
      (htasks : h'.store.supervisor.state.tasks = h.store.supervisor.state.tasks ++ [task])
      (hfile : h'.store.supervisor.file = h'.store.supervisor.state)
      (hframe : OnSupervisor h h') (hsupply : h'.supply = h.supply)
  | moved (htasks : h'.store.supervisor.state.tasks.map (·.order)
        = h.store.supervisor.state.tasks.map (·.order))
      (hfile : h'.store.supervisor.file = h'.store.supervisor.state)
      (hframe : OnSupervisor h h') (hsupply : h'.supply = h.supply)
  | metered (c : GatewayCall) (hcalled : ¬ full → c.Called h)
      (hrun : c.run options.limits ((Host.lens (World.gatewayLens options)).get h)
        = (Host.lens (World.gatewayLens options)).get h')
      (hframe : OnGateway h h') (hdraws : Draws h h')
  | reloaded (hfull : full) (hstore : h'.store = h.store.reload) (hsupply : h'.supply = h.supply)

/-- A step, with the writes to come. -/
def Step (full careless : Prop) (h h' : Machine (World options)) : Prop :=
  (¬ full → h'.writes ⊆ h.writes) ∧ Change full careless h h'

/-! ## Knowing a run -/

variable {full careless : Prop} {h h' : Machine (World options)} {run run' : RunRecord}

theorem Knows.mem (hk : Knows h run) : run ∈ h.store.runs.runs := (lookup_mem hk).1

theorem knows_of_mem (hmem : run ∈ h.store.runs.runs) : Knows h run :=
  h.store.runs.lookup_of_mem hmem

theorem knows_of_lookup {runId : JsString}
    (hl : lookup RunRecord.runId h.store.runs.runs runId = some run) : Knows h run := by
  unfold Knows
  rw [(lookup_mem hl).2]
  exact hl

theorem Knows.unique (hk : Knows h run) (hk' : Knows h run') (hid : run'.runId = run.runId) :
    run' = run := by
  unfold Knows at hk'
  rw [hid] at hk'
  exact Option.some.inj (hk'.symm.trans hk)

theorem Knows.of_runs (hk : Knows h run) (hruns : h'.store.runs = h.store.runs) :
    Knows h' run := by
  unfold Knows
  rw [hruns]
  exact hk

theorem OnRuns.refl (h : Machine (World options)) : OnRuns h h := ⟨rfl, rfl, rfl⟩

/-- A run took the place of the record of its identifier. -/
structure Updated (h : Machine (World options)) (run' : RunRecord) (h' : Machine (World options)) :
    Prop where
  knows : Knows h' run'
  runs : h'.store.runs.runs = h.store.runs.runs.map (put RunRecord.runId run')
  frame : OnRuns h h'
  supply : h'.supply = h.supply

theorem updated_of_runs (hk : Knows h run) (hid : run'.runId = run.runId)
    (hruns : h'.store.runs.runs = h.store.runs.runs.map (put RunRecord.runId run'))
    (hframe : OnRuns h h') (hsupply : h'.supply = h.supply) : Updated h run' h' := by
  refine ⟨?_, hruns, hframe, hsupply⟩
  unfold Knows at hk ⊢
  rw [hruns]
  refine lookup_put_self (?_ : lookup RunRecord.runId _ _ = some run)
  rw [hid]
  exact hk

/-! ## The stores as components -/

/-- The machine of the run store. -/
abbrev runsOf (h : Machine (World options)) : Machine RunStore :=
  (Host.lens (World.runsLens options)).get h

/-- The machine of the approval queue. -/
abbrev approvalsOf (h : Machine (World options)) : Machine ApprovalQueue :=
  (Host.lens (World.approvalsLens options)).get h

/-- The machine of the supervisor. -/
abbrev supervisorOf (h : Machine (World options)) : Machine (SupervisorQueue options.queue) :=
  (Host.lens (World.supervisorLens options)).get h

/-- The machine of the gateway. -/
abbrev gatewayOf (h : Machine (World options)) : Machine Gateway :=
  (Host.lens (World.gatewayLens options)).get h

/-- A failing write, or none at all, is a step that keeps the stores. -/
theorem step_kept (hstore : h'.store = h.store) (hdraws : Draws h h')
    (hw : h'.writes ⊆ h.writes) : Relation.ReflTransGen (Step full careless) h h' :=
  .single ⟨fun _ => hw, .kept hstore hdraws⟩

section walks

variable {α : Type} {Q : α → Machine (World options) → Prop}
  {E : Fault JsError → Machine (World options) → Prop}

/-- A refusal of a component goes no step. -/
theorem walks_refused {p : Proc (World options) α} (hr : h.Refuses (p h))
    (hE : ∀ e, E (.thrown e) h) : Walks (Step full careless) h p Q E := by
  obtain ⟨e, hrun⟩ := hr
  exact Walks.of_error hrun .refl (hE e)

/-- A computation without state goes no step. -/
theorem walks_ofExcept (result : Except JsError α) :
    Walks (Step full careless) h (ofExcept result : Proc (World options) α)
      (fun a h' => result = .ok a ∧ h' = h) (fun _ h' => h' = h) := by
  cases result with
  | ok a => exact Walks.of_pure ⟨rfl, rfl⟩
  | error e => exact Walks.of_throw rfl

theorem walks_throwIf (refused : Prop) [Decidable refused] (error : JsError) :
    Walks (Step full careless) h (throwIf refused error : Proc (World options) Unit)
      (fun _ h' => ¬ refused ∧ h' = h) (fun _ h' => h' = h) := by
  unfold throwIf
  split
  · exact Walks.of_throw rfl
  · rename_i hr
    exact Walks.of_pure ⟨hr, rfl⟩

theorem walks_throwAny (refusal : Option JsError) :
    Walks (Step full careless) h (throwAny refusal : Proc (World options) Unit)
      (fun _ h' => refusal = none ∧ h' = h) (fun _ h' => h' = h) := by
  cases refusal with
  | none => exact Walks.of_pure ⟨rfl, rfl⟩
  | some e => exact Walks.of_throw rfl

/-- Reading the stores first. -/
theorem walks_read_bind {f : World options → Proc (World options) α}
    (hf : Walks (Step full careless) h (f h.store) Q E) :
    Walks (Step full careless) h
      ((Host.read : Proc (World options) (World options)) >>= f) Q E := hf

end walks

/-! ## Calls of the run store -/

/-- A record that is rewritten is one step. -/
theorem walks_rewritten {p : Proc RunStore RunRecord} (hk : Knows h run)
    (hid : run'.runId = run.runId) (hchange : RunChange full careless h run run')
    (hr : Rewritten (runsOf h) run' (p (runsOf h))) :
    Walks (Step full careless) h (inRuns p) (fun a h' => a = run' ∧ Updated h run' h')
      (fun _ h' => h'.store = h.store) := by
  obtain ⟨store, hstore, ⟨ws, hws, hrun⟩ | ⟨fault, ws, hws, -, hrun⟩⟩ := hr
  · have hupdated : Updated h run'
        ((Host.lens (World.runsLens options)).set h ⟨store, ws, h.supply⟩) :=
      updated_of_runs hk hid hstore ⟨rfl, rfl, rfl⟩ rfl
    refine Walks.of_ok (zoom_run hrun) (.single ⟨fun _ => hws, ?_⟩) ⟨rfl, hupdated⟩
    exact .changed run run' hk hchange hupdated.runs hupdated.frame hupdated.supply
  · exact Walks.of_error (zoom_run hrun) (step_kept rfl (.inl rfl) hws) rfl

/-- The record of a run is read. -/
theorem walks_record (runId : JsString) :
    Walks (Step full careless) h (record runId)
      (fun run h' => h' = h ∧ Knows h run ∧ run.runId = runId) (fun _ h' => h' = h) := by
  have hfind := find_run (h := runsOf h) runId
  cases hl : lookup RunRecord.runId h.store.runs.runs runId with
  | none =>
    rw [show lookup RunRecord.runId (runsOf h).store.runs runId = none from hl] at hfind
    exact Walks.of_error (zoom_run hfind) .refl rfl
  | some run =>
    rw [show lookup RunRecord.runId (runsOf h).store.runs runId = some run from hl] at hfind
    exact Walks.of_ok (zoom_run hfind) .refl ⟨rfl, knows_of_lookup hl, (lookup_mem hl).2⟩

/-- What a function that rewrites one record comes to. -/
def Rewrote (h : Machine (World options)) (runId : JsString) (already refused : RunRecord → Bool)
    (f : RunRecord → RunRecord) (a : RunRecord) (h' : Machine (World options)) : Prop :=
  ∃ run, Knows h run ∧ run.runId = runId ∧
    ((already run = true ∧ a = run ∧ h' = h) ∨
      (already run = false ∧ refused run = false ∧ a = f run ∧ Updated h (f run) h'))

theorem walks_updateRun (runId : JsString) {already refused : RunRecord → Bool} {error : String}
    {f : RunRecord → RunRecord} (hid : ∀ run, (f run).runId = run.runId)
    (hchange : ∀ run, Knows h run → run.runId = runId → already run = false →
      refused run = false → RunChange full careless h run (f run)) :
    Walks (Step full careless) h (inRuns (updateRun runId already refused error f))
      (Rewrote h runId already refused f) (fun _ h' => h'.store = h.store) := by
  rcases updateRun_cases (h := runsOf h) runId already refused error hid with
    hr | ⟨run, hl, ha, hr⟩ | ⟨run, hl, ha, href, -, hr⟩
  · exact walks_refused hr.zoom fun _ => rfl
  · have hrid := (lookup_mem hl).2
    exact Walks.of_ok (zoom_run hr) .refl ⟨run, knows_of_lookup hl, hrid, .inl ⟨ha, rfl, rfl⟩⟩
  · have hrid := (lookup_mem hl).2
    have hk : Knows h run := knows_of_lookup hl
    refine (walks_rewritten hk (hid run) (hchange run hk hrid ha href) hr).mono ?_ fun _ _ he => he
    rintro a h' ⟨rfl, hup⟩
    exact ⟨run, hk, hrid, .inr ⟨ha, href, rfl, hup⟩⟩

end Autopilot
