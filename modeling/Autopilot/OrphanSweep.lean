/-
The sweep for vendor processes that were left behind.

A registry keeps a record when a vendor process is spawned and one when it exits. A spawn record
that is too old and whose worker run has no exit record behind it stands for a process that was
left behind, if something still runs under its process id. The operating system gives a process id
away again, so what runs there may be a newer process.

This module is `selectOrphanedVendorPids` and `hasLaterVendorProcessExit` (`cliWorkerCapture.ts`).
How a time is read is a parameter, and so is what the operating system says of a process id; it is
asked once for a record and may say another thing each time. Times are in milliseconds, and exact.
-/
import Autopilot.Js
import Mathlib.Data.Rat.Defs
import Mathlib.Algebra.Order.Ring.Rat

set_option autoImplicit false

namespace Autopilot
namespace OrphanSweep

/-! ## The sweep -/

/-- `event` of a record. -/
inductive VendorProcessEvent where
  | spawned | exited
  deriving DecidableEq, Repr

/-- `VendorProcessRecord`. -/
structure VendorProcessRecord where
  recordedAt : JsString
  event : VendorProcessEvent
  pid : ℕ
  workerRunId : Option JsString
  deriving DecidableEq

/-- `VendorProcessSweepInput`, with the reading of times. `isPidAlive` is asked about the record at
a place of the registry, and may throw. -/
structure VendorProcessSweepInput where
  records : List VendorProcessRecord
  nowMs : ℚ
  maxAgeMs : ℚ
  isPidAlive : ℕ → ℕ → Except JsError Bool
  dateParse : JsString → Option ℤ

/-- `hasLaterVendorProcessExit`, of the records behind the spawn record. -/
def hasLaterVendorProcessExit (later : List VendorProcessRecord) (spawned : VendorProcessRecord) :
    Bool :=
  later.any fun candidate => candidate.event = .exited && candidate.pid = spawned.pid &&
    candidate.workerRunId = spawned.workerRunId

section sweep

variable (input : VendorProcessSweepInput)

/-- The record tells its time, and this is longer ago than the greatest age. -/
def isOld (record : VendorProcessRecord) : Bool :=
  match input.dateParse record.recordedAt with
  | some spawnedAtMs => !decide (input.nowMs - spawnedAtMs ≤ input.maxAgeMs)
  | none => false

/-- Something runs under the process id. A process id that cannot be checked is free. -/
def answers (index : ℕ) (pid : ℕ) : Bool :=
  match input.isPidAlive index pid with
  | .ok alive => alive
  | .error _ => false

/-- The loop over the records, from one of them on. -/
def sweep : ℕ → List VendorProcessRecord → List ℕ → List ℕ
  | _, [], orphaned => orphaned
  | index, record :: later, orphaned =>
    if record.event ≠ .spawned ∨ record.pid ∈ orphaned then sweep (index + 1) later orphaned
    else if ¬isOld input record then sweep (index + 1) later orphaned
    else if hasLaterVendorProcessExit later record then sweep (index + 1) later orphaned
    else if answers input index record.pid then
      sweep (index + 1) later (orphaned ++ [record.pid])
    else sweep (index + 1) later orphaned

/-- `selectOrphanedVendorPids`. -/
def selectOrphanedVendorPids : List ℕ := sweep input 0 input.records []

end sweep

/-! ## What condemns a process id -/

section condemned

variable (input : VendorProcessSweepInput)

/-- A record at a place of the registry that the sweep takes for a process left behind. -/
structure Condemns (index : ℕ) (record : VendorProcessRecord) (later : List VendorProcessRecord) :
    Prop where
  spawned : record.event = .spawned
  old : isOld input record = true
  unclosed : hasLaterVendorProcessExit later record = false
  answers : answers input index record.pid = true

/-- Some record from a place on condemns the process id. -/
def CondemnedFrom (index : ℕ) (records : List VendorProcessRecord) (pid : ℕ) : Prop :=
  ∃ before record later, records = before ++ record :: later ∧
    Condemns input (index + before.length) record later ∧ record.pid = pid

variable {input}

theorem condemnedFrom_cons {index pid : ℕ} {record : VendorProcessRecord}
    {later : List VendorProcessRecord} :
    CondemnedFrom input index (record :: later) pid ↔
      (Condemns input index record later ∧ record.pid = pid) ∨
        CondemnedFrom input (index + 1) later pid := by
  constructor
  · rintro ⟨before, other, rest, hsplit, hcondemns, hpid⟩
    cases before with
    | nil =>
      obtain ⟨rfl, rfl⟩ := List.cons.inj hsplit
      exact .inl ⟨hcondemns, hpid⟩
    | cons first before =>
      obtain ⟨rfl, rfl⟩ := List.cons.inj hsplit
      rw [List.length_cons, Nat.add_comm before.length, ← Nat.add_assoc] at hcondemns
      exact .inr ⟨before, other, rest, rfl, hcondemns, hpid⟩
  · rintro (⟨hcondemns, hpid⟩ | ⟨before, other, rest, rfl, hcondemns, hpid⟩)
    · exact ⟨[], record, later, rfl, hcondemns, hpid⟩
    · refine ⟨record :: before, other, rest, rfl, ?_, hpid⟩
      rw [List.length_cons, Nat.add_comm before.length, ← Nat.add_assoc]
      exact hcondemns

/-- **The loop adds the process ids that are condemned from its place on.** -/
theorem mem_sweep {records : List VendorProcessRecord} {index pid : ℕ} {orphaned : List ℕ} :
    pid ∈ sweep input index records orphaned ↔
      pid ∈ orphaned ∨ CondemnedFrom input index records pid := by
  induction records generalizing index orphaned with
  | nil =>
    rw [sweep]
    refine (or_iff_left ?_).symm
    rintro ⟨before, record, later, hsplit, -⟩
    exact absurd hsplit (by simp)
  | cons record later ih =>
    rw [sweep, condemnedFrom_cons]
    by_cases hseen : record.event ≠ .spawned ∨ record.pid ∈ orphaned
    · rw [if_pos hseen, ih]
      refine or_congr_right' fun hpid => (or_iff_right ?_).symm
      rintro ⟨hcondemns, rfl⟩
      exact hseen.elim (fun h => h hcondemns.spawned) hpid
    rw [not_or, not_not] at hseen
    by_cases hold : isOld input record = true
    · by_cases hclosed : hasLaterVendorProcessExit later record = true
      · rw [if_neg (by tauto), if_neg (not_not.2 hold), if_pos hclosed, ih]
        refine or_congr_right (or_iff_right ?_).symm
        rintro ⟨hcondemns, -⟩
        rw [hcondemns.unclosed] at hclosed
        cases hclosed
      · rw [if_neg (by tauto), if_neg (not_not.2 hold), if_neg hclosed]
        by_cases halive : answers input index record.pid = true
        · have hcondemns : Condemns input index record later :=
            ⟨hseen.1, hold, Bool.eq_false_iff.2 hclosed, halive⟩
          rw [if_pos halive, ih, List.mem_append, List.mem_singleton, or_assoc]
          refine or_congr_right (or_congr_left ?_)
          exact ⟨fun h => ⟨hcondemns, h.symm⟩, fun h => h.2.symm⟩
        · rw [if_neg halive, ih]
          refine or_congr_right (or_iff_right ?_).symm
          rintro ⟨hcondemns, -⟩
          exact halive hcondemns.answers
    · rw [if_neg (by tauto), if_pos hold, ih]
      refine or_congr_right (or_iff_right ?_).symm
      rintro ⟨hcondemns, -⟩
      exact hold hcondemns.old

end condemned

/-! ## What a process id stands for -/

/-- The newest spawn record of a process id, with the records behind it. -/
def newestSpawn (pid : ℕ) : List VendorProcessRecord →
    Option (VendorProcessRecord × List VendorProcessRecord)
  | [] => none
  | record :: later =>
    match newestSpawn pid later with
    | some newest => some newest
    | none => if record.event = .spawned ∧ record.pid = pid then some (record, later) else none

/-- The newest spawn record of the process id is too old, and no exit record of the process id
stands behind it. -/
def LeftBehind (input : VendorProcessSweepInput) (pid : ℕ) : Prop :=
  ∃ newest later, newestSpawn pid input.records = some (newest, later) ∧
    isOld input newest = true ∧ ∀ record ∈ later, ¬(record.event = .exited ∧ record.pid = pid)

/-- A process that was spawned a second ago under the process id of one that was spawned an hour
ago and whose exit was never recorded. -/
def sampleReuse : VendorProcessSweepInput where
  records := [⟨js "1", .spawned, 7, none⟩, ⟨js "2", .spawned, 7, none⟩]
  nowMs := 3600000
  maxAgeMs := 60000
  isPidAlive := fun _ _ => .ok true
  dateParse := fun text => if text = js "1" then some 0 else some 3599000

end OrphanSweep
end Autopilot
