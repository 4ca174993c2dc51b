/-
Cycles of dependencies between supervisor tasks.

`hasDependencyCycle` is a depth-first search over what the tasks depend on. A dependency may name no
task, a task may be depended on by many, and a task that was visited from one root is not visited
from the next. The search says that there is a cycle exactly when a task reaches itself, and it never
goes deeper than there are tasks.
-/
import Autopilot.Lib.DepthFirst
import Autopilot.SupervisorQueue

set_option autoImplicit false

namespace Autopilot

open Relation (TransGen)

/-! ## What a task depends on -/

/-- What the last of the tasks under an identifier depends on. -/
def lastDependencies (tasks : List (JsString × List JsString)) (taskId : JsString) :
    Option (List JsString) :=
  (tasks.reverse.find? fun task => task.1 = taskId).map Prod.snd

/-- The task depends on the other, and both exist. -/
def DependsOn (tasks : List (JsString × List JsString)) (taskId other : JsString) : Prop :=
  ∃ dependencyIds, lastDependencies tasks taskId = some dependencyIds ∧ other ∈ dependencyIds ∧
    other ∈ tasks.map Prod.fst

/-- Where every identifier is that of one task, a task depends on what it says. -/
theorem dependsOn_of_mem {tasks : List (JsString × List JsString)}
    (hunique : (tasks.map Prod.fst).Nodup) {task : JsString × List JsString} (htask : task ∈ tasks)
    {other : JsString} (hmem : other ∈ task.2) (hother : other ∈ tasks.map Prod.fst) :
    DependsOn tasks task.1 other := by
  have hreverse : (tasks.reverse.map Prod.fst).Nodup := by
    rw [List.map_reverse, List.nodup_reverse]
    exact hunique
  have hfound := Keyed.lookup_of_mem hreverse (List.mem_reverse.2 htask)
  unfold Keyed.lookup at hfound
  refine ⟨task.2, ?_, hmem, hother⟩
  unfold lastDependencies
  rw [hfound]
  rfl

/-! ## The search -/

/-- The map of `hasDependencyCycle`. -/
def dependencyRecord (tasks : List (JsString × List JsString)) : Record JsString (List JsString) :=
  tasks.foldl (fun record task => record.set task.1 task.2) .empty

/-- `dependencies.get(taskId) ?? []`. -/
def dependenciesOf (tasks : List (JsString × List JsString)) (taskId : JsString) : List JsString :=
  ((dependencyRecord tasks).get? taskId).getD []

/-- `hasDependencyCycle`, where `visit` may be called within itself up to a depth. There is no answer
if it is called deeper. -/
def cycleWithin (depth : ℕ) (tasks : List (JsString × List JsString)) : Option Bool :=
  match DepthFirst.search (dependenciesOf tasks) depth (dependencyRecord tasks).keys with
  | .ok _ => some false
  | .error .cycle => some true
  | .error .depth => none

variable {tasks : List (JsString × List JsString)}

theorem dependencyRecord_append (tasks : List (JsString × List JsString))
    (task : JsString × List JsString) :
    dependencyRecord (tasks ++ [task]) = (dependencyRecord tasks).set task.1 task.2 := by
  unfold dependencyRecord
  rw [List.foldl_append, List.foldl_cons, List.foldl_nil]

/-- The map has the last of the tasks under an identifier. -/
theorem get?_dependencyRecord (tasks : List (JsString × List JsString)) (taskId : JsString) :
    (dependencyRecord tasks).get? taskId = lastDependencies tasks taskId := by
  induction tasks using List.reverseRecOn with
  | nil => rfl
  | append_singleton tasks task ih =>
    unfold lastDependencies at ih ⊢
    rw [dependencyRecord_append, Record.get?_set, ih, List.reverse_append, List.reverse_singleton,
      List.singleton_append, List.find?_cons]
    by_cases h : taskId = task.1
    · rw [if_pos h, decide_eq_true h.symm]
      rfl
    · rw [if_neg h, decide_eq_false (Ne.symm h)]

theorem mem_keys_dependencyRecord (tasks : List (JsString × List JsString)) (taskId : JsString) :
    taskId ∈ (dependencyRecord tasks).keys ↔ taskId ∈ tasks.map Prod.fst := by
  rw [Record.mem_keys_iff, ← Option.isSome_iff_exists, get?_dependencyRecord]
  unfold lastDependencies
  rw [Option.isSome_map, List.find?_isSome, List.mem_map]
  constructor
  · rintro ⟨task, htask, hid⟩
    exact ⟨task, List.mem_reverse.1 htask, of_decide_eq_true hid⟩
  · rintro ⟨task, htask, hid⟩
    exact ⟨task, List.mem_reverse.2 htask, decide_eq_true hid⟩

theorem length_keys_le (tasks : List (JsString × List JsString)) :
    (dependencyRecord tasks).keys.length ≤ tasks.length := by
  have hsub : (dependencyRecord tasks).keys ⊆ tasks.map Prod.fst :=
    fun taskId hid => (mem_keys_dependencyRecord tasks taskId).1 hid
  have hnodup : (dependencyRecord tasks).keys.Nodup := (dependencyRecord tasks).nodup
  have hlength := (List.subperm_of_subset hnodup hsub).length_le
  rwa [List.length_map] at hlength

/-- What depends on something is a task. -/
theorem mem_keys_of_dependencies {taskId : JsString} (h : dependenciesOf tasks taskId ≠ []) :
    taskId ∈ (dependencyRecord tasks).keys := by
  rw [Record.mem_keys_iff]
  unfold dependenciesOf at h
  cases hget : (dependencyRecord tasks).get? taskId with
  | none =>
    rw [hget] at h
    exact absurd rfl h
  | some dependencyIds => exact ⟨dependencyIds, rfl⟩

/-! ## Edges between tasks -/

theorem edge_of_dependsOn {taskId other : JsString} (h : DependsOn tasks taskId other) :
    DepthFirst.Edge (dependenciesOf tasks) taskId other := by
  obtain ⟨dependencyIds, hlast, hmem, -⟩ := h
  unfold DepthFirst.Edge dependenciesOf
  rw [get?_dependencyRecord, hlast]
  exact hmem

theorem dependsOn_of_edge {taskId other : JsString}
    (h : DepthFirst.Edge (dependenciesOf tasks) taskId other)
    (hother : other ∈ (dependencyRecord tasks).keys) : DependsOn tasks taskId other := by
  obtain ⟨dependencyIds, hget⟩ := (Record.mem_keys_iff _ _).1
    (mem_keys_of_dependencies (List.ne_nil_of_mem h))
  have hmem : other ∈ dependencyIds := by
    unfold DepthFirst.Edge dependenciesOf at h
    rw [hget] at h
    exact h
  rw [get?_dependencyRecord] at hget
  exact ⟨dependencyIds, hget, hmem, (mem_keys_dependencyRecord tasks other).1 hother⟩

/-- A path to a task goes through tasks only. -/
theorem reaches_of_path {taskId other : JsString}
    (h : TransGen (DepthFirst.Edge (dependenciesOf tasks)) taskId other)
    (hother : other ∈ (dependencyRecord tasks).keys) :
    TransGen (DependsOn tasks) taskId other := by
  induction h with
  | single hedge => exact .single (dependsOn_of_edge hedge hother)
  | tail _ hedge ih =>
    have hbetween := mem_keys_of_dependencies (List.ne_nil_of_mem hedge)
    exact (ih hbetween).tail (dependsOn_of_edge hedge hother)

/-- A cycle of the search is one of the tasks. -/
theorem exists_cycle_iff (tasks : List (JsString × List JsString)) :
    (∃ taskId, TransGen (DepthFirst.Edge (dependenciesOf tasks)) taskId taskId) ↔
      ∃ task ∈ tasks, TransGen (DependsOn tasks) task.1 task.1 := by
  constructor
  · rintro ⟨taskId, hcycle⟩
    obtain ⟨other, hedge, -⟩ := TransGen.head'_iff.1 hcycle
    have hkey := mem_keys_of_dependencies (List.ne_nil_of_mem hedge)
    obtain ⟨task, htask, rfl⟩ := List.mem_map.1 ((mem_keys_dependencyRecord tasks _).1 hkey)
    exact ⟨task, htask, reaches_of_path hcycle hkey⟩
  · rintro ⟨task, -, hcycle⟩
    exact ⟨task.1, TransGen.mono (fun _ _ h => edge_of_dependsOn h) _ _ hcycle⟩

/-! ## The answer -/

theorem toOption_foldlM {f : List JsString → JsString → Except DepthFirst.Stop (List JsString)}
    (taskIds visited : List JsString) :
    (taskIds.foldlM f visited).toOption =
      taskIds.foldlM (fun visited taskId => (f visited taskId).toOption) visited := by
  induction taskIds generalizing visited with
  | nil => rfl
  | cons taskId rest ih =>
    rw [List.foldlM_cons, List.foldlM_cons]
    cases f visited taskId with
    | error stop => rfl
    | ok visited' => exact ih visited'

/-- The answer of `visit` does not tell a cycle from a depth that was exceeded. -/
theorem visitDependencies_eq (depth : ℕ) (active visited : List JsString) (taskId : JsString) :
    visitDependencies (dependencyRecord tasks) depth active visited taskId =
      (DepthFirst.visit (dependenciesOf tasks) depth active visited taskId).toOption := by
  induction depth generalizing active visited taskId with
  | zero => rfl
  | succ depth ih =>
    rw [visitDependencies, DepthFirst.visit]
    by_cases hactive : taskId ∈ active
    · rw [if_pos hactive, if_pos hactive]
      rfl
    rw [if_neg hactive, if_neg hactive]
    by_cases hvisited : taskId ∈ visited
    · rw [if_pos hvisited, if_pos hvisited]
      rfl
    rw [if_neg hvisited, if_neg hvisited]
    have hfold : (dependenciesOf tasks taskId).foldlM
        (visitDependencies (dependencyRecord tasks) depth (taskId :: active)) visited =
        ((dependenciesOf tasks taskId).foldlM
          (DepthFirst.visit (dependenciesOf tasks) depth (taskId :: active)) visited).toOption := by
      rw [toOption_foldlM]
      exact congrArg (fun f => (dependenciesOf tasks taskId).foldlM f visited)
        (funext fun visited' => funext fun other => ih (taskId :: active) visited' other)
    show ((dependenciesOf tasks taskId).foldlM _ visited >>= _) = _
    rw [hfold]
    cases (dependenciesOf tasks taskId).foldlM
      (DepthFirst.visit (dependenciesOf tasks) depth (taskId :: active)) visited with
    | error stop => rfl
    | ok between => rfl

/-- The answer, from the search. -/
theorem hasDependencyCycle_eq (tasks : List (JsString × List JsString)) :
    hasDependencyCycle tasks = (DepthFirst.search (dependenciesOf tasks)
      ((dependencyRecord tasks).size + 1) (dependencyRecord tasks).keys).toOption.isNone := by
  unfold hasDependencyCycle DepthFirst.search
  rw [toOption_foldlM]
  refine congrArg (fun f : List JsString → JsString → Option (List JsString) =>
    (List.foldlM f [] (dependencyRecord tasks).keys).isNone) ?_
  exact funext fun visited => funext fun taskId => visitDependencies_eq _ [] visited taskId

theorem hasDependencyCycle_iff (tasks : List (JsString × List JsString)) :
    hasDependencyCycle tasks = true ↔ ∃ task ∈ tasks, TransGen (DependsOn tasks) task.1 task.1 := by
  have hsize : (dependencyRecord tasks).keys.length < (dependencyRecord tasks).size + 1 := by
    unfold Record.keys Record.size
    rw [List.length_map]
    exact Nat.lt_succ_self _
  rw [← exists_cycle_iff, hasDependencyCycle_eq]
  rcases DepthFirst.search_exact (fun _ => mem_keys_of_dependencies) hsize with
    ⟨hcycle, hsearch⟩ | ⟨hnone, visited, hsearch⟩
  · rw [hsearch]
    exact ⟨fun _ => hcycle, fun _ => rfl⟩
  · rw [hsearch]
    exact ⟨fun h => (by cases h), fun h => absurd h hnone⟩

/-- **The answer is exact**: there is a cycle exactly when a task reaches itself through one or more
dependencies between tasks. The search ends: it goes no deeper than there are tasks, and gives the
same answer however deep it may go. -/
theorem hasDependencyCycle_exact (tasks : List (JsString × List JsString)) :
    (hasDependencyCycle tasks = true ↔
        ∃ task ∈ tasks, TransGen (DependsOn tasks) task.1 task.1) ∧
      ∀ depth, tasks.length < depth →
        cycleWithin depth tasks = some (hasDependencyCycle tasks) := by
  refine ⟨hasDependencyCycle_iff tasks, fun depth hdepth => ?_⟩
  have hanswer := hasDependencyCycle_iff tasks
  rw [← exists_cycle_iff] at hanswer
  unfold cycleWithin
  rcases DepthFirst.search_exact (fun _ => mem_keys_of_dependencies)
    ((length_keys_le tasks).trans_lt hdepth) with ⟨hcycle, hsearch⟩ | ⟨hnone, visited, hsearch⟩
  · rw [hsearch, hanswer.2 hcycle]
  · rw [hsearch, Bool.eq_false_iff.2 (mt hanswer.1 hnone)]

/-- **No task of a supervisor state reaches itself.** -/
theorem SupervisorState.acyclic {options : SupervisorQueueOptions} (state : SupervisorState options)
    {task : SupervisorTask} (htask : task ∈ state.tasks) :
    ¬TransGen (DependsOn (state.tasks.map (·.dependencies))) task.taskId task.taskId := by
  intro hcycle
  have hvalid := state.valid
  unfold isSupervisorState at hvalid
  rw [Bool.and_eq_true, Bool.not_eq_true'] at hvalid
  have hsome := (hasDependencyCycle_iff (state.tasks.map (·.dependencies))).2
    ⟨task.dependencies, List.mem_map_of_mem htask, hcycle⟩
  rw [hvalid.2] at hsome
  cases hsome

/-! Two tasks that share a dependency on no task, and three in a circle behind a fourth. -/

example : hasDependencyCycle [(js "a", [js "c", js "x"]), (js "b", [js "c"]), (js "c", [])] =
    false := by
  decide +kernel

example : hasDependencyCycle [(js "d", [js "a"]), (js "a", [js "b"]), (js "b", [js "c"]),
    (js "c", [js "a"])] = true := by
  decide +kernel

end Autopilot
