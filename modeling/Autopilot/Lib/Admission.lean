/-
Admission by announcing first.

Candidates announce themselves one behind the other, and a candidate counts the announcements
of its class at some time after its own. One that has counted more than the limit withdraws.
Nothing keeps two candidates apart while they count, and still no more of a class stay than
the limit: the last one of them to announce itself has counted all the others.
-/
import Mathlib.Data.List.Basic
import Mathlib.Data.List.Induction
import Mathlib.Data.List.Perm.Subperm
import Mathlib.Tactic.Common

set_option autoImplicit false

namespace Admission

variable {ι : Type}

/-- The candidate was among the announced when it counted at most `limit` of the class. -/
def Within (announced : List ι) (kind : ι → Bool) (limit : ℕ) (i : ι) : Prop :=
  ∃ front, front <+: announced ∧ i ∈ front ∧ (front.filter kind).length ≤ limit

variable {announced : List ι} {kind : ι → Bool} {limit : ℕ}

/-- Later announcements change nothing about what was counted. -/
theorem Within.mono {i : ι} (h : Within announced kind limit i) (more : List ι) :
    Within (announced ++ more) kind limit i := by
  obtain ⟨front, hfront, hi, hcount⟩ := h
  exact ⟨front, hfront.trans (List.prefix_append ..), hi, hcount⟩

/-- What is counted over all announcements up to now. -/
theorem within_of_count {i : ι} (hi : i ∈ announced) {count : ℕ}
    (hcount : (announced.filter kind).length ≤ count) (hlimit : count ≤ limit) :
    Within announced kind limit i :=
  ⟨announced, List.prefix_rfl, hi, Nat.le_trans hcount hlimit⟩

/-- Among the announced at most `limit` of a class are within the limit. -/
theorem length_filter_le (hnodup : announced.Nodup) (stays : ι → Bool)
    (h : ∀ i ∈ announced, kind i = true → stays i = true → Within announced kind limit i) :
    (announced.filter fun i => kind i && stays i).length ≤ limit := by
  induction announced using List.reverseRecOn with
  | nil => exact Nat.zero_le _
  | append_singleton rest last ih =>
    by_cases hlast : kind last = true ∧ stays last = true
    · -- the last to announce itself has counted everyone
      obtain ⟨front, hfront, hmem, hcount⟩ := h last (by simp) hlast.1 hlast.2
      have hall : front = rest ++ [last] := by
        rcases List.prefix_concat_iff.1 hfront with heq | hrest
        · exact heq
        · have hnot : last ∉ rest := by
            intro hin
            exact (List.nodup_append.1 hnodup).2.2 last hin last (by simp) rfl
          exact absurd (hrest.subset hmem) hnot
      rw [hall] at hcount
      refine Nat.le_trans ?_ hcount
      exact (List.monotone_filter_right _ fun i hi => (Bool.and_eq_true_iff.1 hi).1).length_le
    · have hskip : (kind last && stays last) = false := by
        rw [Bool.eq_false_iff, Ne, Bool.and_eq_true]
        exact hlast
      have hrest : (rest ++ [last]).filter (fun i => kind i && stays i) =
          rest.filter fun i => kind i && stays i := by
        rw [List.filter_append, List.filter_cons_of_neg (by simp [hskip]), List.filter_nil,
          List.append_nil]
      rw [hrest]
      refine ih (List.nodup_append.1 hnodup).1 fun i hi hkind hstays => ?_
      obtain ⟨front, hfront, hmem, hcount⟩ := h i (List.mem_append_left _ hi) hkind hstays
      rcases List.prefix_concat_iff.1 hfront with heq | hrest
      · refine ⟨rest, List.prefix_rfl, hi, Nat.le_trans ?_ hcount⟩
        rw [heq, List.filter_append, List.length_append]
        exact Nat.le_add_right ..
      · exact ⟨front, hrest, hmem, hcount⟩

/-- **No more of a class stay than the limit**, however the announcements and the counting
are mixed. -/
theorem length_le (kind : ι → Bool) (hnodup : announced.Nodup) {those : List ι}
    (hthose : those.Nodup)
    (h : ∀ i ∈ those, i ∈ announced ∧ kind i = true ∧ Within announced kind limit i) :
    those.length ≤ limit := by
  classical
  have hbound := length_filter_le hnodup (fun i => decide (i ∈ those)) fun i _ _ hi =>
    (h i (of_decide_eq_true hi)).2.2
  refine Nat.le_trans (hthose.subperm fun i hi => ?_).length_le hbound
  rw [List.mem_filter, Bool.and_eq_true]
  exact ⟨(h i hi).1, (h i hi).2.1, decide_eq_true hi⟩

end Admission
