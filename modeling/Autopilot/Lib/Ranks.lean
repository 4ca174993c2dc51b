/-
The values of a list by size.

What stands at a place of the ordered list is told by counting: it meets a condition that passes
down to smaller values exactly when more values than stand before it do. The nearest rank of a
share is the smallest value that at least that share of the values does not exceed.
-/
import Mathlib

set_option autoImplicit false

namespace Ranks

variable {α : Type} [LinearOrder α]

/-- The values by size. -/
def ordered (values : List α) : List α := values.insertionSort (· ≤ ·)

@[simp] theorem length_ordered (values : List α) : (ordered values).length = values.length :=
  List.length_insertionSort (· ≤ ·) values

theorem ordered_perm (values : List α) : (ordered values).Perm values :=
  List.perm_insertionSort (· ≤ ·) values

theorem ordered_pairwise (values : List α) : (ordered values).Pairwise (· ≤ ·) :=
  List.pairwise_insertionSort (· ≤ ·) values

/-- In an ordered list, the values that meet a condition which passes down stand in front. -/
theorem pairwise_getElem_iff {p : α → Bool} (hp : ∀ a b, a ≤ b → p b = true → p a = true)
    {values : List α} (hsorted : values.Pairwise (· ≤ ·)) {i : ℕ} {v : α}
    (hv : values[i]? = some v) : p v = true ↔ i < values.countP p := by
  induction values generalizing i with
  | nil => exact absurd hv (by simp)
  | cons first rest ih =>
    obtain ⟨hfirst, hrest⟩ := List.pairwise_cons.1 hsorted
    cases i with
    | zero =>
      rw [List.getElem?_cons_zero, Option.some.injEq] at hv
      subst hv
      by_cases hpf : p first = true
      · rw [List.countP_cons_of_pos hpf]
        exact ⟨fun _ => by omega, fun _ => hpf⟩
      · have hnone : rest.countP p = 0 :=
          List.countP_eq_zero.2 fun b hb hpb => hpf (hp first b (hfirst b hb) hpb)
        rw [List.countP_cons_of_neg hpf, hnone]
        exact ⟨fun h => absurd h hpf, fun h => absurd h (by omega)⟩
    | succ i =>
      rw [List.getElem?_cons_succ] at hv
      by_cases hpf : p first = true
      · rw [List.countP_cons_of_pos hpf, ih hrest hv]
        omega
      · have hmem : v ∈ rest := List.mem_of_getElem? hv
        have hnone : rest.countP p = 0 :=
          List.countP_eq_zero.2 fun b hb hpb => hpf (hp first b (hfirst b hb) hpb)
        rw [List.countP_cons_of_neg hpf, hnone]
        exact ⟨fun h => absurd (hp first v (hfirst v hmem) h) hpf, fun h => absurd h (by omega)⟩

section ordered

variable {values : List α} {i : ℕ} {v : α}

/-- What a condition that passes down says of the value at a place. -/
theorem ordered_getElem_iff {p : α → Bool} (hp : ∀ a b, a ≤ b → p b = true → p a = true)
    (hv : (ordered values)[i]? = some v) : p v = true ↔ i < values.countP p := by
  rw [pairwise_getElem_iff hp (ordered_pairwise values) hv, (ordered_perm values).countP_eq]

theorem ordered_le_iff (hv : (ordered values)[i]? = some v) (bound : α) :
    v ≤ bound ↔ i < values.countP (· ≤ bound) := by
  have h := ordered_getElem_iff (p := (· ≤ bound))
    (fun a b hab hb => decide_eq_true (hab.trans (of_decide_eq_true hb))) hv
  rwa [decide_eq_true_iff] at h

theorem ordered_lt_iff (hv : (ordered values)[i]? = some v) (bound : α) :
    v < bound ↔ i < values.countP (· < bound) := by
  have h := ordered_getElem_iff (p := (· < bound))
    (fun a b hab hb => decide_eq_true (hab.trans_lt (of_decide_eq_true hb))) hv
  rwa [decide_eq_true_iff] at h

end ordered

/-! ## Nearest ranks -/

/-- Fewer than the share are smaller, and at least the share is no greater. -/
def IsNearestRank (share : ℚ) (values : List α) (rank : α) : Prop :=
  (values.countP (· < rank) : ℚ) < share * values.length ∧
    share * values.length ≤ values.countP (· ≤ rank)

/-- A list has one nearest rank at most. -/
theorem IsNearestRank.unique {share : ℚ} {values : List α} {rank rank' : α}
    (h : IsNearestRank share values rank) (h' : IsNearestRank share values rank') :
    rank = rank' := by
  have hle : ∀ {a b : α}, IsNearestRank share values a → IsNearestRank share values b →
      a ≤ b := by
    intro a b ha hb
    by_contra hlt
    have hcount : values.countP (· ≤ b) ≤ values.countP (· < a) :=
      List.countP_mono_left fun v _ hv =>
        decide_eq_true ((of_decide_eq_true hv).trans_lt (not_le.1 hlt))
    have hrat : (values.countP (· ≤ b) : ℚ) ≤ values.countP (· < a) := Nat.cast_le.2 hcount
    linarith [ha.1, hb.2]
  exact le_antisymm (hle h h') (hle h' h)

/-- The place of a share among so many values. -/
def rankPlace (share : ℚ) (length : ℕ) : ℕ := ⌈share * length⌉.toNat - 1

theorem rankPlace_lt_iff {share : ℚ} {length : ℕ} (hshare : 0 < share) (hlength : 0 < length)
    (count : ℕ) : rankPlace share length < count ↔ share * length ≤ count := by
  have hpos : 0 < ⌈share * length⌉ :=
    Int.ceil_pos.2 (mul_pos hshare (Nat.cast_pos.2 hlength))
  have hceil : ⌈share * length⌉ ≤ (count : ℤ) ↔ share * length ≤ count := by
    rw [Int.ceil_le, Int.cast_natCast]
  rw [← hceil]
  unfold rankPlace
  omega

theorem rankPlace_lt_length {share : ℚ} {length : ℕ} (hshare : 0 < share) (hone : share ≤ 1)
    (hlength : 0 < length) : rankPlace share length < length := by
  rw [rankPlace_lt_iff hshare hlength]
  calc share * length ≤ 1 * length :=
        mul_le_mul_of_nonneg_right hone (Nat.cast_nonneg length)
    _ = length := one_mul _

section rank

variable {share : ℚ} {values : List α} {rank : α}

/-- The value at the place of a share stays within a bound when at least the share of the values
does. -/
theorem atPlace_le_iff (hshare : 0 < share)
    (hrank : (ordered values)[rankPlace share values.length]? = some rank) (bound : α) :
    rank ≤ bound ↔ share * values.length ≤ values.countP (· ≤ bound) := by
  have hlength : 0 < values.length := by
    have hplace := (List.getElem?_eq_some_iff.1 hrank).1
    rw [length_ordered] at hplace
    omega
  rw [ordered_le_iff hrank, rankPlace_lt_iff hshare hlength]

theorem atPlace_lt_iff (hshare : 0 < share)
    (hrank : (ordered values)[rankPlace share values.length]? = some rank) (bound : α) :
    rank < bound ↔ share * values.length ≤ values.countP (· < bound) := by
  have hlength : 0 < values.length := by
    have hplace := (List.getElem?_eq_some_iff.1 hrank).1
    rw [length_ordered] at hplace
    omega
  rw [ordered_lt_iff hrank, rankPlace_lt_iff hshare hlength]

/-- It is the nearest rank. -/
theorem atPlace_isNearestRank (hshare : 0 < share)
    (hrank : (ordered values)[rankPlace share values.length]? = some rank) :
    IsNearestRank share values rank :=
  ⟨not_le.1 fun h => lt_irrefl _ ((atPlace_lt_iff hshare hrank rank).2 h),
    (atPlace_le_iff hshare hrank rank).1 le_rfl⟩

end rank

end Ranks
