/-
What the stores of the control plane have in common.

The calls are any calls, in any order, also for groups and from processes that start anew, and any of
their writes can fail. No two runs share a task then, a run that is under way has a task and a
reservation, and the task carries what was approved. In the gateway the claimed slots and the active
reservations of the groups name one another, and an identifier that was ended is not used again.
-/
import Autopilot.ExactApproval

set_option autoImplicit false

namespace Autopilot

open Prog Keyed RunStore

variable {options : OrchestratorOptions} {h : Machine (World options)}

/-! ## Runs and tasks -/

/-- **A task is for one run**: no two runs are bound to one, and what it carries is the revision of its
run that was approved. A run that is queued or running is bound to a task and has a reservation, and
what the supervisor has in memory is in its file. -/
theorem tasks_are_for_their_runs (hr : ControlRun (fun _ _ => True) h) :
    (∀ run ∈ h.store.runs.runs, ∀ run' ∈ h.store.runs.runs, ∀ taskId,
        run.supervisorTaskId = some taskId → run'.supervisorTaskId = some taskId → run' = run) ∧
      (∀ run ∈ h.store.runs.runs, ∀ task ∈ h.store.supervisor.state.tasks,
        run.supervisorTaskId = some task.taskId →
          run.approvedRevision = some run.current.revision ∧ HandoffOf run task.handoff) ∧
      (∀ run ∈ h.store.runs.runs, run.status = .queued ∨ run.status = .running →
        run.supervisorTaskId ≠ none ∧ run.tokenReservation ≠ none) ∧
      h.store.supervisor.file = h.store.supervisor.state := by
  obtain ⟨ht, ho, -⟩ := hr.ordered_answered
  refine ⟨fun run hrun run' hrun' taskId hbound hbound' => ?_, fun run hrun task htask hbound => ?_,
    fun run hrun hunder => ?_, ho.file⟩
  · have hid := ho.single run hrun run' hrun' taskId (.inl hbound) (.inl hbound')
    exact (knows_of_mem hrun).unique (knows_of_mem hrun') hid
  · obtain ⟨hpast, hhandoff⟩ := ho.handed run hrun task htask (.inl hbound)
    obtain ⟨revision, hrevision⟩ := Option.ne_none_iff_exists'.1 (ho.bound run hrun _ hbound).1
    have hcurrent := (RunRecord.approvedRevision_eq (h.store.runs.record_valid hrun) hrevision).2
    exact ⟨by rw [hrevision, hcurrent], hhandoff⟩
  · have htidy := ht.runs run hrun
    have hheld := htidy.held hunder
    exact ⟨mt htidy.paired.2 hheld, hheld⟩

theorem tasks_are_for_their_runs_sample : ∃ run ∈ sampleQueued.store.runs.runs,
    run.status = .queued ∧ run.supervisorTaskId ≠ none := by
  have hqueued : sampleQueued.store.runs.runs.any (·.status = .queued) = true := by decide +kernel
  obtain ⟨run, hrun, hstatus⟩ := List.any_eq_true.1 hqueued
  have hstatus := of_decide_eq_true hstatus
  have hunder := (tasks_are_for_their_runs sampleQueued_run).2.2.1 run hrun (.inl hstatus)
  exact ⟨run, hrun, hstatus, hunder.1⟩

/-! ## Slots and reservations -/

/-- **The ledger is one ledger.** In every run of a gateway, whatever becomes of its writes: an active
reservation of a group is the one of a claimed slot, a claimed slot has an active reservation, an
identifier ends once and is not active after that, and what is kept of an end is how it ended. -/
theorem ledger_is_linked {limits : TokenGatewayLimits} {g : Machine Gateway}
    (hrun : GatewayRun limits (fun _ _ => True) g) :
    (∀ id r groupId, g.store.state.reservations.get? id = some r → r.groupId = some groupId →
        ∃ group slot, g.store.state.groups.get? groupId = some group ∧ slot ∈ group.slots ∧
          slot.state = .claimed ∧ slot.reservation = some r) ∧
      (∀ groupId group slot, g.store.state.groups.get? groupId = some group →
        slot ∈ group.slots → slot.state = .claimed →
          ∃ r, slot.reservation = some r ∧ r.groupId = some groupId ∧
            g.store.state.reservations.get? r.reservationId = some r) ∧
      (g.store.history.map (·.reservation.reservationId)).Nodup ∧
      (∀ x ∈ g.store.history,
        g.store.state.reservations.get? x.reservation.reservationId = none) ∧
      ∀ id t, g.store.state.terminal.get? id = some t → ∃ x ∈ g.store.history,
        x.reservation.reservationId = id ∧ x.event = t.event ∧ x.settlement = t.settlement := by
  have hlinked := hrun.linked
  refine ⟨fun id r groupId hget hgroup => ?_, fun groupId group slot hget hslot hclaimed => ?_,
    hlinked.history_nodup, hlinked.history_inactive, fun id t => hlinked.terminal_history⟩
  · obtain ⟨group, slot, hfound, hslot, -, hclaimed, hreservation⟩ := hlinked.grouped hget hgroup
    exact ⟨group, slot, hfound, hslot, hclaimed, hreservation⟩
  · obtain ⟨r, hreservation, hactive⟩ := hlinked.slot_claimed hget hslot hclaimed
    have hgroup := (hlinked.slot_reservation hget hslot hreservation).1
    exact ⟨r, hreservation, hgroup, hactive⟩

theorem ledger_is_linked_sample :
    sampleSettled.store.history.length = 1 ∧ ∀ x ∈ sampleSettled.store.history,
      sampleSettled.store.state.reservations.get? x.reservation.reservationId = none := by
  have hrun : GatewayRun defaultTokenGatewayLimits (fun _ _ => True) sampleSettled :=
    .call _ (.call _ (.start [] _ _) trivial) trivial
  exact ⟨by decide, (ledger_is_linked hrun).2.2.2.1⟩

end Autopilot
