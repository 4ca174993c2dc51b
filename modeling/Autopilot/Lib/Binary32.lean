/-
Floats of 32 bits, as rational numbers.

A float is given by its bits: a sign, an exponent of eight bits and a mantissa of 23. A rational
number is rounded to the nearest float, and of two to the one whose mantissa is even. Rounding
keeps the order: the bits of a number that is not negative grow with it, and so does the value of
the bits.
-/
import Mathlib

set_option autoImplicit false

namespace Binary32

/-! ## Rounding to an integer -/

/-- The nearest integer, and of two the even one. -/
def roundEven (q : ℚ) : ℤ :=
  if q - ⌊q⌋ < 1 / 2 then ⌊q⌋
  else if 1 / 2 < q - ⌊q⌋ then ⌊q⌋ + 1
  else if ⌊q⌋ % 2 = 0 then ⌊q⌋ else ⌊q⌋ + 1

theorem floor_le_roundEven (q : ℚ) : ⌊q⌋ ≤ roundEven q := by
  unfold roundEven
  split_ifs <;> omega

theorem roundEven_le (q : ℚ) : roundEven q ≤ ⌊q⌋ + 1 := by
  unfold roundEven
  split_ifs <;> omega

theorem roundEven_intCast (n : ℤ) : roundEven n = n := by
  unfold roundEven
  rw [Int.floor_intCast, sub_self, if_pos (by norm_num)]

theorem roundEven_mono {q r : ℚ} (h : q ≤ r) : roundEven q ≤ roundEven r := by
  rcases (Int.floor_le_floor h).lt_or_eq with hlt | heq
  · calc roundEven q ≤ ⌊q⌋ + 1 := roundEven_le q
      _ ≤ ⌊r⌋ := hlt
      _ ≤ roundEven r := floor_le_roundEven r
  · have hfraction : q - ⌊q⌋ ≤ r - ⌊r⌋ := by
      rw [heq]
      linarith
    unfold roundEven
    rw [heq] at hfraction ⊢
    split_ifs
    all_goals first | omega | (exfalso; linarith)

/-! ## Bits -/

/-- The bits of infinity. Those below are of finite numbers. -/
def infinity : ℕ := 255 * 2 ^ 23

/-- The value of bits without a sign. -/
def magnitude (n : ℕ) : ℚ :=
  if n / 2 ^ 23 = 0 then n * 2 ^ (-149 : ℤ)
  else (2 ^ 23 + n % 2 ^ 23 : ℕ) * 2 ^ (((n / 2 ^ 23 : ℕ) : ℤ) - 150)

/-- The number that the bits stand for, if they stand for one. -/
def value (bits : UInt32) : Option ℚ :=
  let n := bits.toNat % 2 ^ 31
  if infinity ≤ n then none
  else some (if bits.toNat < 2 ^ 31 then magnitude n else -magnitude n)

/-- The exponent of the unit in which a positive number is counted, more 23. -/
def scale (q : ℚ) : ℤ := max (Int.log 2 q) (-126)

/-- The bits of the float nearest to a number that is not negative. -/
def magnitudeBits (q : ℚ) : ℕ :=
  if q = 0 then 0
  else min infinity ((scale q + 126).toNat * 2 ^ 23 + (roundEven (q / 2 ^ (scale q - 23))).toNat)

/-- The float nearest to a number. -/
def ofRat (q : ℚ) : UInt32 :=
  if q < 0 then (2 ^ 31 + magnitudeBits (-q)).toUInt32 else (magnitudeBits q).toUInt32

/-! ## Greater bits have a greater value -/

theorem magnitude_nonneg (n : ℕ) : 0 ≤ magnitude n := by
  unfold magnitude
  split
  · positivity
  · positivity

theorem magnitude_succ (n : ℕ) : magnitude n ≤ magnitude (n + 1) := by
  unfold magnitude
  have hunit : (0 : ℚ) < 2 ^ (-149 : ℤ) := by positivity
  by_cases hcarry : (n + 1) % 2 ^ 23 = 0
  · obtain ⟨e, he⟩ : ∃ e, n + 1 = (e + 1) * 2 ^ 23 := ⟨n / 2 ^ 23, by omega⟩
    have hnext : (n + 1) / 2 ^ 23 = e + 1 := by omega
    have hthis : n / 2 ^ 23 = e := by omega
    have hmantissa : n % 2 ^ 23 = 2 ^ 23 - 1 := by omega
    rw [hnext, hthis, hcarry, if_neg (Nat.succ_ne_zero e), Nat.add_zero]
    split
    · rename_i hzero
      subst hzero
      have hn : (n : ℚ) ≤ (2 ^ 23 : ℕ) := by exact_mod_cast (by omega : n ≤ 2 ^ 23)
      have hexponent : ((0 + 1 : ℕ) : ℤ) - 150 = -149 := by omega
      rw [hexponent]
      exact mul_le_mul_of_nonneg_right hn hunit.le
    · rename_i hpositive
      have hdouble : (2 : ℚ) ^ (((e + 1 : ℕ) : ℤ) - 150) = 2 * 2 ^ ((e : ℤ) - 150) := by
        rw [← zpow_one_add₀ (by norm_num : (2 : ℚ) ≠ 0)]
        congr 1
        push_cast
        ring
      have hpow : (0 : ℚ) < 2 ^ ((e : ℤ) - 150) := by positivity
      rw [hmantissa, hdouble, ← mul_assoc]
      refine mul_le_mul_of_nonneg_right ?_ hpow.le
      norm_num
  · have hsame : (n + 1) / 2 ^ 23 = n / 2 ^ 23 := by omega
    have hnext : (n + 1) % 2 ^ 23 = n % 2 ^ 23 + 1 := by omega
    rw [hsame, hnext]
    split
    · refine mul_le_mul_of_nonneg_right ?_ hunit.le
      exact_mod_cast Nat.le_succ n
    · refine mul_le_mul_of_nonneg_right ?_ (by positivity)
      exact_mod_cast (by omega : 2 ^ 23 + n % 2 ^ 23 ≤ 2 ^ 23 + (n % 2 ^ 23 + 1))

theorem magnitude_mono : Monotone magnitude := monotone_nat_of_le_succ magnitude_succ

/-! ## Greater numbers have greater bits -/

theorem scale_mono {q r : ℚ} (hq : 0 < q) (h : q ≤ r) : scale q ≤ scale r :=
  max_le_max_right _ (Int.log_mono_right hq h)

/-- The mantissa is no longer than 24 bits. -/
theorem roundEven_scaled_le (q : ℚ) : roundEven (q / 2 ^ (scale q - 23)) ≤ 2 ^ 24 := by
  have hlog := Int.lt_zpow_succ_log_self (by norm_num : 1 < 2) q
  have hscale : (2 : ℚ) ^ (Int.log 2 q + 1) ≤ 2 ^ (scale q + 1) :=
    zpow_le_zpow_right₀ (by norm_num) (by unfold scale; omega)
  have hsplit : (2 : ℚ) ^ (scale q + 1) = 2 ^ 24 * 2 ^ (scale q - 23) := by
    rw [← zpow_natCast, ← zpow_add₀ (by norm_num : (2 : ℚ) ≠ 0)]
    congr 1
    push_cast
    ring
  have hbound : q / 2 ^ (scale q - 23) ≤ ((2 ^ 24 : ℤ) : ℚ) := by
    rw [div_le_iff₀ (by positivity)]
    push_cast
    push_cast at hlog
    linarith
  calc roundEven (q / 2 ^ (scale q - 23)) ≤ roundEven ((2 ^ 24 : ℤ) : ℚ) := roundEven_mono hbound
    _ = 2 ^ 24 := roundEven_intCast _

/-- A number above the smallest unit has a mantissa of 24 bits. -/
theorem le_roundEven_scaled {q : ℚ} (hq : 0 < q) (h : -126 < scale q) :
    2 ^ 23 ≤ roundEven (q / 2 ^ (scale q - 23)) := by
  have hlog : (2 : ℚ) ^ Int.log 2 q ≤ q := by
    exact_mod_cast Int.zpow_log_le_self (by norm_num : 1 < 2) hq
  have hscale : scale q = Int.log 2 q := by
    unfold scale at h ⊢
    omega
  have hsplit : (2 : ℚ) ^ Int.log 2 q = 2 ^ 23 * 2 ^ (scale q - 23) := by
    rw [hscale, ← zpow_natCast, ← zpow_add₀ (by norm_num : (2 : ℚ) ≠ 0)]
    congr 1
    push_cast
    ring
  have hbound : ((2 ^ 23 : ℤ) : ℚ) ≤ q / 2 ^ (scale q - 23) := by
    rw [le_div_iff₀ (by positivity)]
    push_cast
    linarith
  calc (2 : ℤ) ^ 23 = roundEven ((2 ^ 23 : ℤ) : ℚ) := (roundEven_intCast _).symm
    _ ≤ roundEven (q / 2 ^ (scale q - 23)) := roundEven_mono hbound

theorem magnitudeBits_mono {q r : ℚ} (hq : 0 ≤ q) (h : q ≤ r) :
    magnitudeBits q ≤ magnitudeBits r := by
  unfold magnitudeBits
  by_cases hzero : q = 0
  · rw [if_pos hzero]
    exact Nat.zero_le _
  · have hpos : 0 < q := lt_of_le_of_ne hq (Ne.symm hzero)
    have hrpos : 0 < r := hpos.trans_le h
    rw [if_neg hzero, if_neg hrpos.ne']
    refine min_le_min_left _ ?_
    have hlow : -126 ≤ scale q := le_max_right _ _
    rcases (scale_mono hpos h).lt_or_eq with hlt | heq
    · have hmost := roundEven_scaled_le q
      have hleast := le_roundEven_scaled hrpos (by omega)
      omega
    · have hsame : roundEven (q / 2 ^ (scale q - 23)) ≤ roundEven (r / 2 ^ (scale r - 23)) := by
        rw [heq]
        exact roundEven_mono (div_le_div_of_nonneg_right h (by positivity))
      omega

/-- What is not too large is rounded to a finite number. -/
theorem magnitudeBits_lt {q : ℚ} (h : q < 2 ^ 127) : magnitudeBits q < infinity := by
  unfold magnitudeBits
  split
  · decide
  · rename_i hzero
    refine (min_le_right _ _).trans_lt ?_
    have hmost := roundEven_scaled_le q
    have hscale : scale q ≤ 126 := by
      unfold scale
      rcases le_or_gt q 0 with hneg | hpos
      · rw [Int.log_of_right_le_zero 2 hneg]
        decide
      · have hlog : Int.log 2 q < 127 := (Int.lt_zpow_iff_log_lt (by norm_num) hpos).1 (by
          exact_mod_cast h)
        omega
    unfold infinity
    omega

/-! ## Rounding to a float -/

/-- The value of the nearest float. -/
def rounded (q : ℚ) : ℚ :=
  if q < 0 then -magnitude (magnitudeBits (-q)) else magnitude (magnitudeBits q)

theorem value_ofRat {q : ℚ} (hlow : -2 ^ 127 < q) (hhigh : q < 2 ^ 127) :
    value (ofRat q) = some (rounded q) := by
  unfold ofRat rounded value
  by_cases hneg : q < 0
  · have hbits := magnitudeBits_lt (q := -q) (by linarith)
    have hlt : magnitudeBits (-q) < 2 ^ 31 := hbits.trans (by decide)
    have htoNat : ((2 ^ 31 + magnitudeBits (-q)).toUInt32).toNat = 2 ^ 31 + magnitudeBits (-q) :=
      UInt32.toNat_ofNat_of_lt' (by rw [UInt32.size]; omega)
    have hmod : (2 ^ 31 + magnitudeBits (-q)) % 2 ^ 31 = magnitudeBits (-q) := by omega
    rw [if_pos hneg, if_pos hneg]
    dsimp only
    rw [htoNat, hmod, if_neg (Nat.not_le.2 hbits), if_neg (by omega)]
  · have hbits := magnitudeBits_lt hhigh
    have hlt : magnitudeBits q < 2 ^ 31 := hbits.trans (by decide)
    have htoNat : ((magnitudeBits q).toUInt32).toNat = magnitudeBits q :=
      UInt32.toNat_ofNat_of_lt' (by rw [UInt32.size]; omega)
    have hmod : magnitudeBits q % 2 ^ 31 = magnitudeBits q := Nat.mod_eq_of_lt hlt
    rw [if_neg hneg, if_neg hneg]
    dsimp only
    rw [htoNat, hmod, if_neg (Nat.not_le.2 hbits), if_pos hlt]

/-- **Rounding keeps the order.** -/
theorem rounded_mono {q r : ℚ} (h : q ≤ r) : rounded q ≤ rounded r := by
  unfold rounded
  by_cases hq : q < 0
  · rw [if_pos hq]
    by_cases hr : r < 0
    · rw [if_pos hr]
      exact neg_le_neg (magnitude_mono (magnitudeBits_mono (by linarith) (by linarith)))
    · rw [if_neg hr]
      have hleft := magnitude_nonneg (magnitudeBits (-q))
      have hright := magnitude_nonneg (magnitudeBits r)
      linarith
  · rw [if_neg hq, if_neg (by linarith)]
    exact magnitude_mono (magnitudeBits_mono (by linarith) h)

/-- A number of few binary digits is the value of its bits. -/
theorem magnitude_magnitudeBits {m : ℕ} {e : ℤ} (hm : m < 2 ^ 24) (hlow : -126 ≤ e)
    (hhigh : e ≤ 100) : magnitude (magnitudeBits (m * 2 ^ e)) = m * 2 ^ e := by
  rcases Nat.eq_zero_or_pos m with rfl | hpos
  · rw [Nat.cast_zero, zero_mul, magnitudeBits, if_pos rfl, magnitude]
    norm_num
  have hunit : (0 : ℚ) < 2 ^ e := by positivity
  have hq : (0 : ℚ) < m * 2 ^ e := mul_pos (by exact_mod_cast hpos) hunit
  obtain ⟨l, hl⟩ : ∃ l, Nat.log 2 m = l := ⟨_, rfl⟩
  have hlog23 : l ≤ 23 := by
    rw [← hl]
    exact Nat.le_of_lt_succ (Nat.log_lt_of_lt_pow hpos.ne' hm)
  have hmost : m < 2 ^ (l + 1) := hl ▸ Nat.lt_pow_succ_log_self (by decide) m
  have hleast : 2 ^ l ≤ m := hl ▸ Nat.pow_log_le_self 2 hpos.ne'
  have hscale : scale (m * 2 ^ e) = l + e := by
    have hbelow : l + e ≤ Int.log 2 ((m : ℚ) * 2 ^ e) := by
      refine (Int.zpow_le_iff_le_log (by norm_num) hq).1 ?_
      rw [Nat.cast_ofNat, zpow_add₀ (by norm_num), zpow_natCast]
      exact mul_le_mul_of_nonneg_right (by exact_mod_cast hleast) hunit.le
    have habove : Int.log 2 ((m : ℚ) * 2 ^ e) < ((l + 1 : ℕ) : ℤ) + e := by
      refine (Int.lt_zpow_iff_log_lt (by norm_num) hq).1 ?_
      rw [Nat.cast_ofNat, zpow_add₀ (by norm_num), zpow_natCast]
      exact mul_lt_mul_of_pos_right (by exact_mod_cast hmost) hunit
    unfold scale
    omega
  -- the digits are shifted so that there are 24 of them
  obtain ⟨shift, hshift⟩ : ∃ shift, l + shift = 23 := ⟨23 - l, by omega⟩
  have hdigits : (m : ℚ) * 2 ^ e / 2 ^ ((l : ℤ) + e - 23) = ((m * 2 ^ shift : ℕ) : ℤ) := by
    rw [div_eq_iff (by positivity), show (l : ℤ) + e - 23 = e - shift by omega,
      zpow_sub₀ (by norm_num), zpow_natCast]
    push_cast
    field_simp
  have hfirst : 2 ^ 23 ≤ m * 2 ^ shift := by
    rw [← hshift, pow_add]
    exact Nat.mul_le_mul_right _ hleast
  have hlast : m * 2 ^ shift < 2 ^ 24 := by
    rw [show 24 = (l + 1) + shift by omega, pow_add]
    exact Nat.mul_lt_mul_of_pos_right hmost (by positivity)
  obtain ⟨k, hk⟩ : ∃ k : ℕ, (k : ℤ) = l + e + 126 := ⟨(l + e + 126).toNat, by omega⟩
  rw [magnitudeBits, if_neg hq.ne', hscale, hdigits, roundEven_intCast, Int.toNat_natCast, ← hk,
    Int.toNat_natCast, min_eq_right (by unfold infinity; omega), magnitude, if_neg (by omega)]
  generalize m * 2 ^ shift = digits at hdigits hfirst hlast
  rw [show 2 ^ 23 + (k * 2 ^ 23 + digits) % 2 ^ 23 = digits by omega,
    show (((k * 2 ^ 23 + digits) / 2 ^ 23 : ℕ) : ℤ) - 150 = (l : ℤ) + e - 23 by omega]
  rw [div_eq_iff (by positivity)] at hdigits
  rw [hdigits]
  push_cast
  rfl

/-- Such a number is not rounded. -/
theorem rounded_exact {m : ℤ} {e : ℤ} (hm : |m| < 2 ^ 24) (hlow : -126 ≤ e) (hhigh : e ≤ 100) :
    rounded (m * 2 ^ e) = m * 2 ^ e := by
  have hunit : (0 : ℚ) < 2 ^ e := by positivity
  obtain ⟨hleast, hmost⟩ := abs_lt.1 hm
  obtain ⟨n, rfl | rfl⟩ := Int.eq_nat_or_neg m
  · have hn : n < 2 ^ 24 := by omega
    rw [rounded, if_neg (not_lt.2 (by positivity)), Int.cast_natCast]
    exact magnitude_magnitudeBits hn hlow hhigh
  · have hn : n < 2 ^ 24 := by omega
    rcases Nat.eq_zero_or_pos n with rfl | hpos
    · rw [rounded, if_neg (by simp)]
      simpa using magnitude_magnitudeBits (m := 0) (by decide) hlow hhigh
    · have hneg : ((-(n : ℤ) : ℤ) : ℚ) * 2 ^ e < 0 := by
        push_cast
        have : (0 : ℚ) < n * 2 ^ e := mul_pos (by exact_mod_cast hpos) hunit
        linarith
      rw [rounded, if_pos hneg]
      push_cast
      rw [neg_mul, neg_neg, magnitude_magnitudeBits hn hlow hhigh]

end Binary32
