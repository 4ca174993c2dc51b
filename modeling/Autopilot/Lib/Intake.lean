/-
Lists that take each value once.

Values come one after another, and each goes to the end of the list unless it is there.
A list that stops at a length holds the first values of the list that does not stop.
-/
import Mathlib.Data.List.Basic
import Mathlib.Data.List.Nodup

set_option autoImplicit false

namespace Intake

variable {α : Type} [DecidableEq α]

/-- The list with one more value at its end, unless it has the value. -/
def add (taken : List α) (x : α) : List α := if x ∈ taken then taken else taken ++ [x]

/-- The list with the new ones of some values at its end, in their order. -/
def addAll (taken xs : List α) : List α := xs.foldl add taken

@[simp] theorem addAll_cons (taken : List α) (x : α) (xs : List α) :
    addAll taken (x :: xs) = addAll (add taken x) xs := rfl

theorem prefix_add (taken : List α) (x : α) : taken <+: add taken x := by
  unfold add
  split_ifs
  · exact List.prefix_rfl
  · exact List.prefix_append ..

theorem prefix_addAll (taken xs : List α) : taken <+: addAll taken xs := by
  induction xs generalizing taken with
  | nil => exact List.prefix_rfl
  | cons x xs ih => exact (prefix_add taken x).trans (ih _)

/-- Where a list has `n` values, what comes later is not among the first `n`. -/
theorem take_eq_of_begins {α : Type} {n : ℕ} {taken more : List α} (hbegins : taken <+: more)
    (hfull : n ≤ taken.length) : more.take n = taken.take n := by
  obtain ⟨rest, rfl⟩ := hbegins
  exact List.take_append_of_le_length hfull

/-- Adding below a limit is adding, cut at the limit. -/
theorem take_add (n : ℕ) (taken : List α) (x : α) :
    (if (taken.take n).length < n ∧ x ∉ taken.take n then taken.take n ++ [x]
      else taken.take n) = (add taken x).take n := by
  by_cases hfull : n ≤ taken.length
  · -- the limit is reached: neither side changes
    rw [take_eq_of_begins (prefix_add taken x) hfull, if_neg]
    rw [List.length_take]
    omega
  · have hwhole : taken.take n = taken := List.take_of_length_le (by omega)
    rw [hwhole]
    unfold add
    by_cases hx : x ∈ taken
    · rw [if_neg (fun h => h.2 hx), if_pos hx, hwhole]
    · rw [if_pos ⟨by omega, hx⟩, if_neg hx, List.take_of_length_le]
      rw [List.length_append, List.length_singleton]
      omega

end Intake
