/-
The end of a growing list.

A log that is cut keeps its end. What is kept of a list is recent when nothing newer
is missing than the newest `n` elements, or nothing at all is.
-/
import Mathlib.Data.List.Basic

set_option autoImplicit false

/-- `kept` is an end of `all` that has at least its `n` newest elements. -/
def Recent {α : Type} (n : ℕ) (all kept : List α) : Prop :=
  ∃ k ≤ all.length, kept = all.drop k ∧ (k = 0 ∨ n ≤ kept.length)

namespace Recent

variable {α : Type} {n : ℕ} {all kept : List α}

theorem refl (n : ℕ) (all : List α) : Recent n all all := ⟨0, Nat.zero_le _, rfl, .inl rfl⟩

/-- A new element is kept with the others. -/
theorem append (h : Recent n all kept) (x : α) : Recent n (all ++ [x]) (kept ++ [x]) := by
  obtain ⟨k, hle, rfl, hk⟩ := h
  refine ⟨k, ?_, ?_, ?_⟩
  · rw [List.length_append]
    omega
  · rw [List.drop_append_of_le_length hle]
  · rw [List.length_append]
    omega

/-- Cutting off all but the newest. -/
theorem cut (h : Recent n all kept) : Recent n all (kept.drop (kept.length - n)) := by
  obtain ⟨k, hle, rfl, hk⟩ := h
  rw [List.drop_drop, List.length_drop]
  refine ⟨_, ?_, rfl, ?_⟩
  · omega
  · rw [List.length_drop] at hk ⊢
    omega

/-- An element is kept as long as fewer than `n` came after it. -/
theorem mem (h : Recent n all kept) {before after : List α} {x : α}
    (hall : all = before ++ x :: after) (hafter : after.length < n) : x ∈ kept := by
  obtain ⟨k, -, rfl, hk⟩ := h
  have hlength : all.length = before.length + after.length + 1 := by
    rw [hall, List.length_append, List.length_cons]
    omega
  have hbefore : k ≤ before.length := by
    rw [List.length_drop] at hk
    omega
  rw [hall, List.drop_append_of_le_length hbefore]
  exact List.mem_append_right _ List.mem_cons_self

end Recent
