/-
Tasks and the runs they are for.

A task of the supervisor carries a handoff that was built when it was entered;
its run can be unbound and bound again, to this task or to another one, before
the task comes up. That the handoff is still what the run says rests on two
facts. No two runs ever have a claim on one task: the identifier of a task is
drawn, or is made of the identifier of its run. And a run that has a claim on a
task in the queue is past its draft, where its revision does not change any more.
-/
import Autopilot.ControlPlane

set_option autoImplicit false

namespace Autopilot

open Prog Keyed RunStore

variable {options : OrchestratorOptions} {full careless : Prop}
variable {h h' : Machine (World options)} {run run' : RunRecord} {taskId text : JsString}

/-! ## Identifiers -/

theorem Uuid.text_injective {uuid uuid' : Uuid} (ht : uuid.text = uuid'.text) : uuid = uuid' := by
  cases uuid
  cases uuid'
  simp_all

theorem runTaskId_injective {a b : JsString} (ht : runTaskId a = runTaskId b) : a = b :=
  List.append_cancel_left ht

/-- No drawn identifier is the one of a group run. -/
theorem Uuid.text_ne_group (uuid : Uuid) (rest : JsString) : uuid.text ≠ js "bgr-" ++ rest := by
  intro ht
  have hshape := uuid.shape
  rw [ht] at hshape
  simp only [isUuidText, Bool.and_eq_true, List.all_append] at hshape
  exact absurd hshape.2.1 (by decide)

/-- The text was drawn. -/
def Drawn (h : Machine (World options)) (text : JsString) : Prop :=
  ∃ uuid ∈ h.supply.drawn, uuid.text = text

theorem Drawn.of_subset (hd : Drawn h text) (hsub : h.supply.drawn ⊆ h'.supply.drawn) :
    Drawn h' text := by
  obtain ⟨uuid, hmem, htext⟩ := hd
  exact ⟨uuid, hsub hmem, htext⟩

theorem Draws.subset (hd : Draws h h') : h.supply.drawn ⊆ h'.supply.drawn := by
  rcases hd with hsame | ⟨uuid, hnext⟩
  · rw [hsame]
    exact List.Subset.refl _
  · rw [(Supply.next_spec hnext).2]
    exact List.subset_cons_self ..

/-! ## Which run a task is for -/

/-- The run has a claim on the task: it is bound to it, or a group run it would
be bound to it. -/
def Owns (run : RunRecord) (taskId : JsString) : Prop :=
  run.supervisorTaskId = some taskId ∨ taskId = runTaskId run.runId

/-- What ties the tasks to the runs. -/
structure Ordered (h : Machine (World options)) : Prop where
  ids : ∀ run ∈ h.store.runs.runs, Drawn h run.runId ∨ ∃ rest, run.runId = js "bgr-" ++ rest
  bound : ∀ run ∈ h.store.runs.runs, ∀ taskId, run.supervisorTaskId = some taskId →
    run.approvedRevision ≠ none ∧
      ∃ text, taskId = runTaskId text ∧ (Drawn h text ∨ text = run.runId)
  single : ∀ run ∈ h.store.runs.runs, ∀ run' ∈ h.store.runs.runs, ∀ taskId,
    Owns run taskId → Owns run' taskId → run'.runId = run.runId
  tasks : ∀ task ∈ h.store.supervisor.state.tasks, ∃ text, task.taskId = runTaskId text ∧
    (Drawn h text ∨ ∃ run ∈ h.store.runs.runs, run.runId = text)
  handed : ∀ run ∈ h.store.runs.runs, ∀ task ∈ h.store.supervisor.state.tasks,
    Owns run task.taskId → run.status ≠ .draft ∧ HandoffOf run task.handoff
  file : h.store.supervisor.file = h.store.supervisor.state

theorem ordered_initial (writes : List (WriteOutcome JsError)) (uuids : List Uuid)
    (fresh : uuids.Nodup) :
    Ordered (⟨.initial options, writes, .fresh uuids fresh⟩ : Machine (World options)) := by
  refine ⟨?_, ?_, ?_, ?_, ?_, rfl⟩
  · intro run hrun
    cases hrun
  · intro run hrun
    cases hrun
  · intro run hrun
    cases hrun
  · intro task htask
    cases htask
  · intro run hrun
    cases hrun

/-- A text is new: it was not drawn, and no run has it. -/
structure NewText (h : Machine (World options)) (text : JsString) : Prop where
  drawn : ¬ Drawn h text
  runs : ∀ run ∈ h.store.runs.runs, run.runId ≠ text

/-- No run has a claim on a task with a new name. -/
theorem Ordered.unowned (ho : Ordered h) (hn : NewText h text) (hmem : run ∈ h.store.runs.runs) :
    ¬ Owns run (runTaskId text) := by
  rintro (hbound | hid)
  · obtain ⟨-, text', htask, hfrom⟩ := ho.bound run hmem _ hbound
    obtain rfl := runTaskId_injective htask
    rcases hfrom with hdrawn | hrun
    · exact hn.drawn hdrawn
    · exact hn.runs run hmem hrun.symm
  · exact hn.runs run hmem (runTaskId_injective hid).symm

/-- No task has a new name. -/
theorem Ordered.unqueued (ho : Ordered h) (hn : NewText h text) {task : SupervisorTask}
    (hmem : task ∈ h.store.supervisor.state.tasks) : task.taskId ≠ runTaskId text := by
  intro hid
  obtain ⟨text', htask, hfrom⟩ := ho.tasks task hmem
  obtain rfl := runTaskId_injective (hid.symm.trans htask)
  rcases hfrom with hdrawn | ⟨run, hrun, hrunId⟩
  · exact hn.drawn hdrawn
  · exact hn.runs run hrun hrunId

/-- What is drawn is new. -/
theorem Ordered.drawn_new (ho : Ordered h) {uuid : Uuid}
    (hnext : h.supply.next = some (uuid, h'.supply)) : NewText h uuid.text := by
  have hfresh : ¬ Drawn h uuid.text := by
    rintro ⟨uuid', hmem, htext⟩
    rw [Uuid.text_injective htext] at hmem
    exact (Supply.next_spec hnext).1 hmem
  refine ⟨hfresh, fun run hrun hid => ?_⟩
  rcases ho.ids run hrun with hdrawn | ⟨rest, hgroup⟩
  · exact hfresh (hid ▸ hdrawn)
  · exact uuid.text_ne_group rest (hid.symm.trans hgroup)

/-! ## Steps -/

/-- A run was added under a new name. -/
theorem Ordered.of_new (ho : Ordered h) {draft : RunDraft} {ref : Option OrchestrationRef}
    {request : Option OrchestrationRequest} (hn : NewText h draft.runId)
    (hid : Drawn h' draft.runId ∨ ∃ rest, draft.runId = js "bgr-" ++ rest)
    (hruns : h'.store.runs.runs = h.store.runs.runs ++ [newRun draft ref request])
    (hframe : OnRuns h h') (hdraws : Draws h h') : Ordered h' := by
  have hsub := hdraws.subset
  -- the new run has a claim on the task of its name only, which is not queued
  have howns : ∀ taskId, Owns (newRun draft ref request) taskId → taskId = runTaskId draft.runId := by
    rintro taskId (hbound | hname)
    · cases hbound
    · exact hname
  refine ⟨?_, ?_, ?_, ?_, ?_, ?_⟩
  · intro run hrun
    rw [hruns, List.mem_append, List.mem_singleton] at hrun
    rcases hrun with hrun | rfl
    · exact (ho.ids run hrun).imp_left (·.of_subset hsub)
    · exact hid
  · intro run hrun taskId hbound
    rw [hruns, List.mem_append, List.mem_singleton] at hrun
    rcases hrun with hrun | rfl
    · obtain ⟨happroved, text, htask, hfrom⟩ := ho.bound run hrun taskId hbound
      exact ⟨happroved, text, htask, hfrom.imp_left (·.of_subset hsub)⟩
    · cases hbound
  · intro run hrun run' hrun' taskId howned howned'
    rw [hruns, List.mem_append, List.mem_singleton] at hrun hrun'
    rcases hrun with hrun | rfl <;> rcases hrun' with hrun' | rfl
    · exact ho.single run hrun run' hrun' taskId howned howned'
    · rw [howns taskId howned'] at howned
      exact absurd howned (ho.unowned hn hrun)
    · rw [howns taskId howned] at howned'
      exact absurd howned' (ho.unowned hn hrun')
    · rfl
  · intro task htask
    rw [hframe.supervisor] at htask
    obtain ⟨text, hname, hfrom⟩ := ho.tasks task htask
    refine ⟨text, hname, ?_⟩
    rcases hfrom with hdrawn | ⟨run, hrun, hrunId⟩
    · exact .inl (hdrawn.of_subset hsub)
    · refine .inr ⟨run, ?_, hrunId⟩
      rw [hruns]
      exact List.mem_append_left _ hrun
  · intro run hrun task htask howned
    rw [hframe.supervisor] at htask
    rw [hruns, List.mem_append, List.mem_singleton] at hrun
    rcases hrun with hrun | rfl
    · exact ho.handed run hrun task htask howned
    · exact absurd (howns _ howned) (ho.unqueued hn htask)
  · rw [hframe.supervisor]
    exact ho.file

/-- What a run keeps of its claims when it is rewritten. -/
structure Persists (run run' : RunRecord) : Prop where
  runId : run'.runId = run.runId
  approved : run.approvedRevision ≠ none → run'.approvedRevision ≠ none
  past : run.status ≠ .draft → run'.status ≠ .draft ∧ run'.current = run.current

/-- A run was rewritten. The task it is bound to now is one it had a claim on, or
has a new name. -/
theorem Ordered.of_put (ho : Ordered h) (hk : Knows h run) (hp : Persists run run')
    (hbound : ∀ taskId, run'.supervisorTaskId = some taskId →
      Owns run taskId ∧ run'.approvedRevision ≠ none ∨
        ∃ text, taskId = runTaskId text ∧ NewText h text ∧ Drawn h' text ∧
          run'.approvedRevision ≠ none)
    (hruns : h'.store.runs.runs = h.store.runs.runs.map (put RunRecord.runId run'))
    (hframe : OnRuns h h') (hdraws : Draws h h') : Ordered h' := by
  have hsub := hdraws.subset
  have howns : ∀ taskId, Owns run' taskId →
      Owns run taskId ∨ ∃ text, taskId = runTaskId text ∧ NewText h text := by
    rintro taskId (hb | hname)
    · exact (hbound taskId hb).imp (·.1) fun ⟨text, htask, hn, _⟩ => ⟨text, htask, hn⟩
    · exact .inl (.inr (hname.trans (congrArg runTaskId hp.runId)))
  have hsingle : ∀ other ∈ h.store.runs.runs, ∀ taskId, Owns other taskId → Owns run' taskId →
      other.runId = run.runId := by
    intro other hother taskId howned howned'
    rcases howns taskId howned' with howned' | ⟨text, rfl, hn⟩
    · exact ho.single run hk.mem other hother taskId howned' howned
    · exact absurd howned (ho.unowned hn hother)
  refine ⟨?_, ?_, ?_, ?_, ?_, ?_⟩
  · intro other hother
    rw [hruns] at hother
    rcases mem_put hother with rfl | ⟨hother, -⟩
    · rw [hp.runId]
      exact (ho.ids run hk.mem).imp_left (·.of_subset hsub)
    · exact (ho.ids other hother).imp_left (·.of_subset hsub)
  · intro other hother taskId hb
    rw [hruns] at hother
    rcases mem_put hother with rfl | ⟨hother, -⟩
    · rcases hbound taskId hb with ⟨howned | hname, happroved⟩ | ⟨text, htask, -, hdrawn, happroved⟩
      · obtain ⟨-, text, htask, hfrom⟩ := ho.bound run hk.mem taskId howned
        rw [hp.runId]
        exact ⟨happroved, text, htask, hfrom.imp_left (·.of_subset hsub)⟩
      · exact ⟨happroved, run.runId, hname, .inr hp.runId.symm⟩
      · exact ⟨happroved, text, htask, .inl hdrawn⟩
    · obtain ⟨happroved, text, htask, hfrom⟩ := ho.bound other hother taskId hb
      exact ⟨happroved, text, htask, hfrom.imp_left (·.of_subset hsub)⟩
  · intro other hother other' hother' taskId howned howned'
    rw [hruns] at hother hother'
    rcases mem_put hother with rfl | ⟨hold, -⟩ <;>
      rcases mem_put hother' with rfl | ⟨hold', -⟩
    · rfl
    · rw [hp.runId]
      exact hsingle other' hold' taskId howned' howned
    · rw [hp.runId]
      exact (hsingle other hold taskId howned howned').symm
    · exact ho.single other hold other' hold' taskId howned howned'
  · intro task htask
    rw [hframe.supervisor] at htask
    obtain ⟨text, hname, hfrom⟩ := ho.tasks task htask
    refine ⟨text, hname, ?_⟩
    rcases hfrom with hdrawn | ⟨other, hother, hid⟩
    · exact .inl (hdrawn.of_subset hsub)
    · refine .inr ⟨put RunRecord.runId run' other, ?_, (key_put ..).trans hid⟩
      rw [hruns]
      exact List.mem_map_of_mem hother
  · intro other hother task htask howned
    rw [hframe.supervisor] at htask
    rw [hruns] at hother
    rcases mem_put hother with rfl | ⟨hother, -⟩
    · rcases howns _ howned with howned | ⟨text, hname, hn⟩
      · obtain ⟨hstatus, hhandoff⟩ := ho.handed run hk.mem task htask howned
        obtain ⟨hpast, hcurrent⟩ := hp.past hstatus
        exact ⟨hpast, hhandoff.of_stillAt hcurrent⟩
      · exact absurd hname (ho.unqueued hn htask)
    · exact ho.handed other hother task htask howned
  · rw [hframe.supervisor]
    exact ho.file

/-- The runs are as they were, and the tasks are the ones there were. -/
theorem Ordered.of_tasks (ho : Ordered h) (hruns : h'.store.runs = h.store.runs)
    (htasks : h'.store.supervisor.state.tasks.map (·.order)
      = h.store.supervisor.state.tasks.map (·.order))
    (hfile : h'.store.supervisor.file = h'.store.supervisor.state) (hdraws : Draws h h') :
    Ordered h' := by
  have hsub := hdraws.subset
  have hold : ∀ task ∈ h'.store.supervisor.state.tasks,
      ∃ old ∈ h.store.supervisor.state.tasks, old.taskId = task.taskId ∧
        old.handoff = task.handoff := by
    intro task htask
    have hmem : task.order ∈ h.store.supervisor.state.tasks.map (·.order) := by
      rw [← htasks]
      exact List.mem_map_of_mem htask
    obtain ⟨old, hold, horder⟩ := List.mem_map.1 hmem
    exact ⟨old, hold, congrArg Prod.fst horder, congrArg Prod.snd horder⟩
  refine ⟨?_, ?_, ?_, ?_, ?_, hfile⟩
  · intro run hrun
    rw [hruns] at hrun
    exact (ho.ids run hrun).imp_left (·.of_subset hsub)
  · intro run hrun taskId hbound
    rw [hruns] at hrun
    obtain ⟨happroved, text, htask, hfrom⟩ := ho.bound run hrun taskId hbound
    exact ⟨happroved, text, htask, hfrom.imp_left (·.of_subset hsub)⟩
  · rw [hruns]
    exact ho.single
  · intro task htask
    obtain ⟨old, hmem, hid, -⟩ := hold task htask
    obtain ⟨text, hname, hfrom⟩ := ho.tasks old hmem
    rw [hid] at hname
    rw [hruns]
    exact ⟨text, hname, hfrom.imp_left (·.of_subset hsub)⟩
  · intro run hrun task htask howned
    obtain ⟨old, hmem, hid, hhandoff⟩ := hold task htask
    rw [hruns] at hrun
    rw [← hid] at howned
    rw [← hhandoff]
    exact ho.handed run hrun old hmem howned

/-- The task of a run was entered. -/
theorem Ordered.of_entered (ho : Ordered h) {task : SupervisorTask} (hk : Knows h run)
    (hstatus : run.status ≠ .draft) (hbound : run.supervisorTaskId = some task.taskId)
    (hhandoff : HandoffOf run task.handoff)
    (htasks : h'.store.supervisor.state.tasks = h.store.supervisor.state.tasks ++ [task])
    (hfile : h'.store.supervisor.file = h'.store.supervisor.state)
    (hframe : OnSupervisor h h') (hsupply : h'.supply = h.supply) : Ordered h' := by
  have hsub : h.supply.drawn ⊆ h'.supply.drawn := Draws.subset (.inl hsupply)
  refine ⟨?_, ?_, ?_, ?_, ?_, hfile⟩
  · intro other hother
    rw [hframe.runs] at hother
    exact (ho.ids other hother).imp_left (·.of_subset hsub)
  · intro other hother taskId hb
    rw [hframe.runs] at hother
    obtain ⟨happroved, text, htask, hfrom⟩ := ho.bound other hother taskId hb
    exact ⟨happroved, text, htask, hfrom.imp_left (·.of_subset hsub)⟩
  · rw [hframe.runs]
    exact ho.single
  · intro other hother
    rw [htasks, List.mem_append, List.mem_singleton] at hother
    rw [hframe.runs]
    rcases hother with hother | rfl
    · obtain ⟨text, hname, hfrom⟩ := ho.tasks other hother
      exact ⟨text, hname, hfrom.imp_left (·.of_subset hsub)⟩
    · obtain ⟨-, text, hname, hfrom⟩ := ho.bound run hk.mem _ hbound
      exact ⟨text, hname, hfrom.imp (·.of_subset hsub) fun htext => ⟨run, hk.mem, htext.symm⟩⟩
  · intro other hother item hitem howned
    rw [hframe.runs] at hother
    rw [htasks, List.mem_append, List.mem_singleton] at hitem
    rcases hitem with hitem | rfl
    · exact ho.handed other hother item hitem howned
    · -- only the run itself has a claim on it
      have hid := ho.single run hk.mem other hother _ (.inl hbound) howned
      rw [hk.unique (knows_of_mem hother) hid]
      exact ⟨hstatus, hhandoff⟩

end Autopilot
