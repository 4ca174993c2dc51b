/-
Records under optimistic concurrency.

Every record carries a version. A writer reads it, works on what it read, and
writes on the condition that the version is still the one it read; the write
raises the version by one, and nothing else does. `Versioned` says that of a
system of calls on a state, one call after the other, without naming the clients:
a list of calls is an interleaving of the calls of any number of them.

From the laws of one call follow those of a run. The version counts the writes,
and of the writers that read one version no more than one gets through.
-/
import Mathlib.Tactic.Common

set_option autoImplicit false

/-- A state of versioned records, and the calls on it. -/
structure Versioned (σ κ ι : Type) where
  version : σ → κ → ℕ
  run : σ → ι → σ
  /-- The record a call writes, when it gets through. -/
  writes : σ → ι → Option κ
  /-- The call goes back to this version of this record. -/
  basedOn : ι → κ → ℕ → Bool
  grows : ∀ s c k, writes s c = some k → version (run s c) k = version s k + 1
  others : ∀ s c k, writes s c ≠ some k → version (run s c) k = version s k
  current : ∀ s c k k' n, writes s c = some k → basedOn c k' n = true → k' = k ∧ version s k = n

namespace Versioned

variable {σ κ ι : Type} (V : Versioned σ κ ι)

/-- The state after a list of calls. -/
def through (s : σ) (calls : List ι) : σ := calls.foldl V.run s

theorem through_append (s : σ) (before rest : List ι) :
    V.through s (before ++ rest) = V.through (V.through s before) rest := List.foldl_append

variable [DecidableEq κ]

/-- How many calls write a record. -/
def writeCount (k : κ) (s : σ) : List ι → ℕ
  | [] => 0
  | c :: rest => (if V.writes s c = some k then 1 else 0) + writeCount k (V.run s c) rest

/-- How many of the calls that go back to one version of a record get through. -/
def winners (k : κ) (n : ℕ) (s : σ) : List ι → ℕ
  | [] => 0
  | c :: rest =>
    (if (V.writes s c).isSome ∧ V.basedOn c k n = true then 1 else 0) +
      winners k n (V.run s c) rest

/-- A call raises the version of a record by its writes of it. -/
theorem version_run (s : σ) (c : ι) (k : κ) :
    V.version (V.run s c) k = V.version s k + (if V.writes s c = some k then 1 else 0) := by
  split
  · rename_i h
    exact V.grows s c k h
  · rename_i h
    exact V.others s c k h

/-- **The version counts the writes.** -/
theorem version_through (s : σ) (k : κ) (calls : List ι) :
    V.version (V.through s calls) k = V.version s k + V.writeCount k s calls := by
  induction calls generalizing s with
  | nil => rfl
  | cons c rest ih =>
    have hstep := V.version_run s c k
    have hrest : V.version (V.through (V.run s c) rest) k
        = V.version (V.run s c) k + V.writeCount k (V.run s c) rest := ih (V.run s c)
    change V.version (V.through (V.run s c) rest) k = _
    unfold writeCount
    omega

/-- Nobody gets through who goes back behind the current version. -/
theorem winners_of_lt {s : σ} {k : κ} {n : ℕ} (h : n < V.version s k) (calls : List ι) :
    V.winners k n s calls = 0 := by
  induction calls generalizing s with
  | nil => rfl
  | cons c rest ih =>
    have hlater : V.winners k n (V.run s c) rest = 0 := by
      apply ih
      have := V.version_run s c k
      omega
    unfold winners
    rw [hlater, if_neg]
    rintro ⟨hwrites, hbase⟩
    rw [Option.isSome_iff_exists] at hwrites
    obtain ⟨k', hk'⟩ := hwrites
    obtain ⟨rfl, hcurrent⟩ := V.current s c k' k n hk' hbase
    omega

/-- **Of the writers that read one version, at most one gets through.** -/
theorem winners_le_one (s : σ) (k : κ) (n : ℕ) (calls : List ι) : V.winners k n s calls ≤ 1 := by
  induction calls generalizing s with
  | nil => exact Nat.zero_le 1
  | cons c rest ih =>
    unfold winners
    split
    · rename_i hwin
      obtain ⟨hwrites, hbase⟩ := hwin
      rw [Option.isSome_iff_exists] at hwrites
      obtain ⟨k', hk'⟩ := hwrites
      obtain ⟨rfl, hcurrent⟩ := V.current s c k' k n hk' hbase
      have hnext : n < V.version (V.run s c) k := by
        rw [V.grows s c k hk', hcurrent]
        exact Nat.lt_succ_self n
      have hnone : V.winners k n (V.run s c) rest = 0 := V.winners_of_lt hnext rest
      omega
    · rw [Nat.zero_add]
      exact ih (V.run s c)

end Versioned
