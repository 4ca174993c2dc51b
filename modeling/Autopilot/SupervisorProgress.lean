/-
Why a queued task waits.

A task is claimed once all it depends on has completed. Since no task of a stored state reaches
itself, a queue does not wait in a circle: where a claim finds nothing, every queued task waits, by
itself or through what it depends on, for a task that waits for no other. That task is not due yet,
or depends on a name no task has, or it is running, needs an approval, failed or was cancelled.
-/
import Autopilot.DependencyCycles
import Autopilot.HeadOfLine

set_option autoImplicit false

namespace Autopilot

open Keyed
open Relation (TransGen ReflTransGen)

variable {options : OrchestratorOptions} {now : ℕ} {task : SupervisorTask}

/-- A task depends on another, in a list of tasks. -/
abbrev WaitsOn (tasks : List SupervisorTask) : JsString → JsString → Prop :=
  DependsOn (tasks.map (·.dependencies))

/-- The task holds up what depends on it, and waits for no other task. -/
inductive HoldsUp (tasks : List SupervisorTask) (now : ℕ) (task : SupervisorTask) : Prop
  | notDue (hqueued : task.status = .queued) (hlater : now < task.nextAttemptAt)
  | dangling (hqueued : task.status = .queued) (id : JsString) (hid : id ∈ task.dependencyIds)
      (hnone : id ∉ tasks.map (·.taskId))
  | elsewhere (hqueued : task.status ≠ .queued) (hopen : task.status ≠ .completed)

/-- A task that cannot be claimed holds up others by itself, or depends on one that has not
completed. -/
theorem holdsUp_or_waitsOn {queue : SupervisorQueueOptions} (state : SupervisorState queue)
    (htask : task ∈ state.tasks) (hqueued : task.status = .queued)
    (hnot : SupervisorQueue.claimable state.tasks now task = false) :
    HoldsUp state.tasks now task ∨ ∃ other ∈ state.tasks,
      WaitsOn state.tasks task.taskId other.taskId ∧ other.status ≠ .completed := by
  by_cases hlater : now < task.nextAttemptAt
  · exact .inl (.notDue hqueued hlater)
  have hdependencies : SupervisorQueue.dependenciesComplete state.tasks task = false := by
    simpa [SupervisorQueue.claimable, hqueued, Nat.le_of_not_lt hlater] using hnot
  obtain ⟨id, hid, hincomplete⟩ := List.all_eq_false.1 hdependencies
  cases hfound : lookup SupervisorTask.taskId state.tasks id with
  | none =>
    refine .inl (.dangling hqueued id hid fun hmem => ?_)
    obtain ⟨other, hother, rfl⟩ := List.mem_map.1 hmem
    have hname := List.find?_eq_none.1 hfound other hother
    simp at hname
  | some other =>
    obtain ⟨hother, rfl⟩ := lookup_mem hfound
    rw [hfound] at hincomplete
    refine .inr ⟨other, hother, ?_, by simpa using hincomplete⟩
    have hunique : ((state.tasks.map (·.dependencies)).map Prod.fst).Nodup := by
      have hvalid := state.valid
      simp only [isSupervisorState, Bool.and_eq_true, decide_eq_true_eq] at hvalid
      rw [List.map_map]
      exact hvalid.1.2
    exact dependsOn_of_mem hunique (List.mem_map_of_mem htask) hid
      (List.mem_map_of_mem (List.mem_map_of_mem hother))

/-- What a task reaches is below it. -/
theorem wellFounded_waitsOn {queue : SupervisorQueueOptions} (state : SupervisorState queue) :
    WellFounded fun below above : { task // task ∈ state.tasks } =>
      TransGen (WaitsOn state.tasks) above.1.taskId below.1.taskId := by
  have htrans : IsTrans { task // task ∈ state.tasks } fun below above =>
      TransGen (WaitsOn state.tasks) above.1.taskId below.1.taskId :=
    ⟨fun _ _ _ hbelow habove => habove.trans hbelow⟩
  have hirrefl : Std.Irrefl fun below above : { task // task ∈ state.tasks } =>
      TransGen (WaitsOn state.tasks) above.1.taskId below.1.taskId :=
    ⟨fun task => state.acyclic task.2⟩
  have hfinite : Finite { task // task ∈ state.tasks } := inferInstance
  exact Finite.wellFounded_of_trans_of_irrefl _

/-- **No queue waits in a circle**: every queued task has a cause to wait. -/
theorem claim_waits_for_a_cause {q q' : Machine (SupervisorQueue options.queue)}
    (hrun : SupervisorQueue.claim (some now) q = (.ok none, q')) :
    ∀ task ∈ q'.store.state.tasks, task.status = .queued →
      ∃ cause ∈ q'.store.state.tasks,
        ReflTransGen (WaitsOn q'.store.state.tasks) task.taskId cause.taskId ∧
          HoldsUp q'.store.state.tasks now cause := by
  have hnone := List.find?_eq_none.1 (claim_nothing hrun).2
  intro task htask
  -- the induction is on what the task reaches
  refine (wellFounded_waitsOn q'.store.state).induction
    (C := fun task => task.1.status = .queued → ∃ cause ∈ q'.store.state.tasks,
      ReflTransGen (WaitsOn q'.store.state.tasks) task.1.taskId cause.taskId ∧
        HoldsUp q'.store.state.tasks now cause) ⟨task, htask⟩ ?_
  rintro ⟨task, htask⟩ ih hqueued
  rcases holdsUp_or_waitsOn q'.store.state htask hqueued
    (Bool.eq_false_iff.2 (hnone task htask)) with hholds | ⟨other, hother, hwaits, hopen⟩
  · exact ⟨task, htask, .refl, hholds⟩
  · by_cases hother' : other.status = .queued
    · obtain ⟨cause, hcause, hpath, hholds⟩ := ih ⟨other, hother⟩ (.single hwaits) hother'
      exact ⟨cause, hcause, .head hwaits hpath, hholds⟩
    · exact ⟨other, hother, .single hwaits, .elsewhere hother' hopen⟩

/-! A task that depends on a name no task has. -/

section sample

def sampleWaiting : Machine (SupervisorQueue sampleControl.queue) :=
  (SupervisorQueue.enqueue
    { taskId := js "t", handoff := sampleHandoff, dependencyIds := [js "a"], now := some 0 }
    ⟨.initial sampleOptions, [], .fresh [] List.nodup_nil⟩).2

theorem claim_waits_for_a_cause_sample : ∃ q',
    SupervisorQueue.claim (some 1) sampleWaiting = (.ok none, q') ∧
      ∃ cause ∈ q'.store.state.tasks, HoldsUp q'.store.state.tasks 1 cause := by
  have hnone : (SupervisorQueue.claim (some 1) sampleWaiting).1.toOption.any Option.isNone = true :=
    by decide +kernel
  have hqueued : (SupervisorQueue.claim (some 1) sampleWaiting).2.store.state.tasks.any
      (·.status = .queued) = true := by decide +kernel
  rcases hrun : SupervisorQueue.claim (some 1) sampleWaiting with ⟨result, q'⟩
  rw [hrun] at hnone hqueued
  obtain ⟨task, htask, hstatus⟩ := List.any_eq_true.1 hqueued
  rcases result with fault | _ | claimed
  · cases hnone
  · obtain ⟨cause, hcause, -, hholds⟩ :=
      claim_waits_for_a_cause hrun task htask (of_decide_eq_true hstatus)
    exact ⟨q', rfl, cause, hcause, hholds⟩
  · cases hnone

end sample

end Autopilot
