/-
A counter that is read again and again.

From one reading to the next the counter has moved by some difference. The differences of
readings that are put behind each other add up, and when the counter only grows, they are what
lies between the first reading and the last.
-/
import Mathlib.Algebra.Group.Basic
import Mathlib.Data.List.Chain

set_option autoImplicit false

namespace Readings

variable {U : Type} [AddCommMonoid U] (delta : U → U → U)

/-- The sum of the differences, from a first reading on. -/
def sumDeltas : U → List U → U
  | _, [] => 0
  | previous, next :: rest => delta previous next + sumDeltas next rest

/-- The loop that keeps the previous reading and the sum so far. -/
theorem foldl_deltas (first total : U) (readings : List U) :
    readings.foldl (fun state next => (next, state.2 + delta state.1 next)) (first, total) =
      (readings.getLastD first, total + sumDeltas delta first readings) := by
  induction readings generalizing first total with
  | nil => rw [List.foldl_nil, sumDeltas, add_zero, List.getLastD_nil]
  | cons next rest ih =>
    rw [List.foldl_cons, ih, sumDeltas, add_assoc, List.getLastD_cons]

/-- **The differences of a counter that only grows telescope.** -/
theorem add_sumDeltas [LE U] (hdelta : ∀ before after, before ≤ after →
    before + delta before after = after) {first : U} {readings : List U}
    (hgrows : (first :: readings).IsChain (· ≤ ·)) :
    first + sumDeltas delta first readings = readings.getLastD first := by
  induction readings generalizing first with
  | nil => rw [sumDeltas, add_zero, List.getLastD_nil]
  | cons next rest ih =>
    obtain ⟨hnext, hrest⟩ := List.isChain_cons_cons.1 hgrows
    rw [sumDeltas, ← add_assoc, hdelta first next hnext, ih hrest, List.getLastD_cons]

end Readings
