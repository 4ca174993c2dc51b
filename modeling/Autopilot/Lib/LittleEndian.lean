/-
Numbers as bytes, the lowest byte first.

A number is written with a fixed count of bytes, and a list of numbers one after the other. The
words of a list of bytes are read from the front, and are what was written. The values of a type
of numbers are written as their numbers.
-/
import Mathlib.Data.UInt
import Mathlib.Tactic.Common
import Mathlib.Tactic.Ring

set_option autoImplicit false

namespace LittleEndian

/-- The number of a list of bytes. -/
def number : List UInt8 → ℕ
  | [] => 0
  | b :: rest => b.toNat + 256 * number rest

/-- A number as so many bytes. What does not fit is dropped. -/
def word : ℕ → ℕ → List UInt8
  | 0, _ => []
  | width + 1, n => (n % 256).toUInt8 :: word width (n / 256)

/-- The numbers of a list of bytes, which has so many of a width. -/
def words (width : ℕ) : ℕ → List UInt8 → List ℕ
  | 0, _ => []
  | count + 1, bytes => number (bytes.take width) :: words width count (bytes.drop width)

theorem length_word (width n : ℕ) : (word width n).length = width := by
  induction width generalizing n with
  | zero => rfl
  | succ width ih => rw [word, List.length_cons, ih]

theorem length_flatMap_word (width : ℕ) (values : List ℕ) :
    (values.flatMap (word width)).length = values.length * width := by
  induction values with
  | nil => simp
  | cons n rest ih =>
    rw [List.flatMap_cons, List.length_append, length_word, ih, List.length_cons]
    ring

theorem number_word (width n : ℕ) : number (word width n) = n % 256 ^ width := by
  induction width generalizing n with
  | zero => simp [word, number, Nat.mod_one]
  | succ width ih =>
    have hbyte : (n % 256).toUInt8.toNat = n % 256 := by
      rw [Nat.toUInt8, UInt8.toNat_ofNat']
      omega
    rw [word, number, ih, hbyte, Nat.pow_succ, Nat.mul_comm (256 ^ width) 256, Nat.mod_mul]

theorem word_number (bytes : List UInt8) : word bytes.length (number bytes) = bytes := by
  induction bytes with
  | nil => rfl
  | cons b rest ih =>
    have hb := b.toNat_lt
    have hlow : (b.toNat + 256 * number rest) % 256 = b.toNat := by omega
    have hhigh : (b.toNat + 256 * number rest) / 256 = number rest := by omega
    rw [List.length_cons, number, word, hlow, hhigh, ih, Nat.toUInt8, UInt8.ofNat_toNat]

/-- **What was written is read**, when it fits. -/
theorem words_flatMap {width : ℕ} {values : List ℕ} (h : ∀ n ∈ values, n < 256 ^ width) :
    words width values.length (values.flatMap (word width)) = values := by
  induction values with
  | nil => rfl
  | cons n rest ih =>
    have htake : (word width n ++ rest.flatMap (word width)).take width = word width n :=
      List.take_left' (length_word width n)
    have hdrop : (word width n ++ rest.flatMap (word width)).drop width =
        rest.flatMap (word width) := List.drop_left' (length_word width n)
    rw [List.flatMap_cons, List.length_cons, words, htake, hdrop, number_word,
      Nat.mod_eq_of_lt (h n List.mem_cons_self), ih fun m hm => h m (List.mem_cons_of_mem n hm)]

/-- Bytes that are whole words are what is written for their numbers. -/
theorem flatMap_words {width count : ℕ} {bytes : List UInt8} (h : bytes.length = count * width) :
    (words width count bytes).flatMap (word width) = bytes := by
  induction count generalizing bytes with
  | zero => exact (List.eq_nil_of_length_eq_zero (by omega)).symm
  | succ count ih =>
    rw [Nat.succ_mul] at h
    have htake : (bytes.take width).length = width := by
      rw [List.length_take]
      omega
    have hword := word_number (bytes.take width)
    rw [htake] at hword
    rw [words, List.flatMap_cons, hword, ih (by rw [List.length_drop]; omega),
      List.take_append_drop]

theorem words_lt {width count : ℕ} {bytes : List UInt8} (h : bytes.length = count * width) :
    ∀ n ∈ words width count bytes, n < 256 ^ width := by
  induction count generalizing bytes with
  | zero => simp [words]
  | succ count ih =>
    rw [Nat.succ_mul] at h
    have htake : (bytes.take width).length = width := by
      rw [List.length_take]
      omega
    have hnumber := number_word width (number (bytes.take width))
    have hword := word_number (bytes.take width)
    rw [htake] at hword
    rw [hword] at hnumber
    rw [words, List.forall_mem_cons]
    refine ⟨?_, ih (by rw [List.length_drop]; omega)⟩
    rw [hnumber]
    exact Nat.mod_lt _ (Nat.pow_pos (by omega))

/-! ## Values of a type of numbers -/

section typed

variable {T : Type} {width : ℕ} {toNat : T → ℕ} {ofNat : ℕ → T}

theorem length_typed (values : List T) :
    (values.flatMap fun value => word width (toNat value)).length = values.length * width := by
  have hlength := length_flatMap_word width (values.map toNat)
  rwa [List.length_map, List.flatMap_map] at hlength

theorem words_typed (hlt : ∀ value, toNat value < 256 ^ width)
    (hback : ∀ value, ofNat (toNat value) = value) (values : List T) :
    (words width values.length (values.flatMap fun value => word width (toNat value))).map ofNat =
      values := by
  have hfit : ∀ n ∈ values.map toNat, n < 256 ^ width := by
    intro n hn
    obtain ⟨value, -, rfl⟩ := List.mem_map.1 hn
    exact hlt value
  have hwords := words_flatMap hfit
  rw [List.length_map, List.flatMap_map] at hwords
  rw [hwords, List.map_map]
  exact List.map_id'' hback values

theorem flatMap_typed (hforth : ∀ n < 256 ^ width, toNat (ofNat n) = n) {count : ℕ}
    {bytes : List UInt8} (h : bytes.length = count * width) :
    ((words width count bytes).map ofNat).flatMap (fun value => word width (toNat value)) =
      bytes := by
  have hsame : (words width count bytes).flatMap (fun n => word width (toNat (ofNat n))) =
      (words width count bytes).flatMap (word width) :=
    List.flatMap_congr fun n hn => by rw [hforth n (words_lt h n hn)]
  rw [List.flatMap_map, hsame, flatMap_words h]

end typed

end LittleEndian
