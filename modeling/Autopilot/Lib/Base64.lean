/-
Base64.

Three bytes are written as four letters, six bits a letter, and what is left at the end is
filled up with pads. A reader that is generous takes the letters of both alphabets, skips what
is no letter and stops at a pad. A reader that is strict takes the letters of one alphabet and
skips blanks only. What was written comes back from both.
-/
import Mathlib.Data.UInt
import Mathlib.Tactic.Common
import Mathlib.Tactic.IntervalCases

set_option autoImplicit false

namespace Base64

/-- The letter of six bits. -/
def letter (n : ℕ) : UInt16 :=
  if n < 26 then (65 + n).toUInt16
  else if n < 52 then (71 + n).toUInt16
  else if n < 62 then (n - 4).toUInt16
  else if n = 62 then 43 else 47

/-- The six bits of a letter, of either alphabet. -/
def value (c : UInt16) : Option ℕ :=
  if 65 ≤ c ∧ c ≤ 90 then some (c.toNat - 65)
  else if 97 ≤ c ∧ c ≤ 122 then some (c.toNat - 71)
  else if 48 ≤ c ∧ c ≤ 57 then some (c.toNat + 4)
  else if c = 43 ∨ c = 45 then some 62
  else if c = 47 ∨ c = 95 then some 63
  else none

def pad : UInt16 := 61

/-- The text of a list of bytes. -/
def encode : List UInt8 → List UInt16
  | [] => []
  | [a] => [letter (a.toNat / 4), letter (a.toNat % 4 * 16), pad, pad]
  | [a, b] =>
    [letter (a.toNat / 4), letter (a.toNat % 4 * 16 + b.toNat / 16), letter (b.toNat % 16 * 4), pad]
  | a :: b :: c :: rest =>
    letter (a.toNat / 4) :: letter (a.toNat % 4 * 16 + b.toNat / 16) ::
      letter (b.toNat % 16 * 4 + c.toNat / 64) :: letter (c.toNat % 64) :: encode rest

/-- The bytes of a list of six bits each. Bits that make no byte are dropped. -/
def bytes : List ℕ → List UInt8
  | x :: y :: z :: w :: rest =>
    (x * 4 + y / 16).toUInt8 :: (y % 16 * 16 + z / 4).toUInt8 :: (z % 4 * 64 + w).toUInt8 ::
      bytes rest
  | [x, y, z] => [(x * 4 + y / 16).toUInt8, (y % 16 * 16 + z / 4).toUInt8]
  | [x, y] => [(x * 4 + y / 16).toUInt8]
  | _ => []

/-- The bytes that a text is read as. -/
def decode (text : List UInt16) : List UInt8 :=
  bytes ((text.takeWhile fun c => c ≠ pad).filterMap value)

/-! ## What was written is read -/

theorem value_letter {n : ℕ} (h : n < 64) : value (letter n) = some n := by
  interval_cases n <;> decide

theorem letter_ne_pad {n : ℕ} (h : n < 64) : letter n ≠ pad := by
  interval_cases n <;> decide

/-- Six bits in front of a text that is read. -/
theorem takeWhile_letter {n : ℕ} (h : n < 64) (text : List UInt16) :
    ((letter n :: text).takeWhile fun c => c ≠ pad).filterMap value =
      n :: (text.takeWhile fun c => c ≠ pad).filterMap value := by
  rw [List.takeWhile_cons, if_pos (decide_eq_true (letter_ne_pad h)), List.filterMap_cons,
    value_letter h]

theorem takeWhile_pad (text : List UInt16) :
    ((pad :: text).takeWhile fun c => c ≠ pad).filterMap value = [] := by
  rw [List.takeWhile_cons, if_neg (by simp)]
  rfl

theorem toUInt8_eq {n : ℕ} {a : UInt8} (h : n = a.toNat) : n.toUInt8 = a := by
  rw [h]
  exact UInt8.ofNat_toNat

/-- **Reading what was written gives the bytes back.** -/
theorem decode_encode (content : List UInt8) : decode (encode content) = content := by
  unfold decode
  induction content using encode.induct with
  | case1 => rfl
  | case2 a =>
    have ha := a.toNat_lt
    rw [encode, takeWhile_letter (by omega), takeWhile_letter (by omega), takeWhile_pad, bytes,
      toUInt8_eq (a := a) (by omega)]
  | case3 a b =>
    have ha := a.toNat_lt
    have hb := b.toNat_lt
    rw [encode, takeWhile_letter (by omega), takeWhile_letter (by omega),
      takeWhile_letter (by omega), takeWhile_pad, bytes, toUInt8_eq (a := a) (by omega),
      toUInt8_eq (a := b) (by omega)]
  | case4 a b c rest ih =>
    have ha := a.toNat_lt
    have hb := b.toNat_lt
    have hc := c.toNat_lt
    rw [encode, takeWhile_letter (by omega), takeWhile_letter (by omega),
      takeWhile_letter (by omega), takeWhile_letter (by omega), bytes, ih,
      toUInt8_eq (a := a) (by omega), toUInt8_eq (a := b) (by omega),
      toUInt8_eq (a := c) (by omega)]

/-! ## What is written -/

theorem length_encode (content : List UInt8) :
    (encode content).length = 4 * ((content.length + 2) / 3) := by
  induction content using encode.induct with
  | case1 => rfl
  | case2 a => simp [encode]
  | case3 a b => simp [encode]
  | case4 a b c rest ih =>
    simp only [encode, List.length_cons, ih]
    omega

/-- The units of a text that is written are those of the alphabet, and pads. -/
theorem encode_units {P : UInt16 → Prop} (hletter : ∀ n < 64, P (letter n)) (hpad : P pad)
    (content : List UInt8) : ∀ c ∈ encode content, P c := by
  induction content using encode.induct with
  | case1 => simp [encode]
  | case2 a =>
    have ha := a.toNat_lt
    simp only [encode, List.forall_mem_cons]
    exact ⟨hletter _ (by omega), hletter _ (by omega), hpad, hpad, by simp⟩
  | case3 a b =>
    have ha := a.toNat_lt
    have hb := b.toNat_lt
    simp only [encode, List.forall_mem_cons]
    exact ⟨hletter _ (by omega), hletter _ (by omega), hletter _ (by omega), hpad, by simp⟩
  | case4 a b c rest ih =>
    have ha := a.toNat_lt
    have hb := b.toNat_lt
    have hc := c.toNat_lt
    simp only [encode, List.forall_mem_cons]
    exact ⟨hletter _ (by omega), hletter _ (by omega), hletter _ (by omega), hletter _ (by omega),
      ih⟩

/-! ## A reader that is strict -/

/-- The six bits of a letter of the alphabet that is written. -/
def standardValue (c : UInt16) : Option ℕ := if c = 45 ∨ c = 95 then none else value c

def isBlank (c : UInt16) : Bool := c = 9 || c = 10 || c = 12 || c = 13 || c = 32

/-- One pad or two are taken off a text of whole groups. -/
def withoutPads (text : List UInt16) : List UInt16 :=
  if text.length % 4 = 0 then
    if [pad, pad] <:+ text then text.dropLast.dropLast
    else if [pad] <:+ text then text.dropLast
    else text
  else text

/-- `atob`, with the bytes of the result. -/
def decodeStrict? (text : List UInt16) : Option (List UInt8) :=
  let letters := withoutPads (text.filter fun c => !isBlank c)
  if letters.length % 4 = 1 then none else (letters.mapM standardValue).map bytes

/-- The bits of a list of bytes, six at a time. -/
def sextets : List UInt8 → List ℕ
  | [] => []
  | [a] => [a.toNat / 4, a.toNat % 4 * 16]
  | [a, b] => [a.toNat / 4, a.toNat % 4 * 16 + b.toNat / 16, b.toNat % 16 * 4]
  | a :: b :: c :: rest =>
    a.toNat / 4 :: (a.toNat % 4 * 16 + b.toNat / 16) :: (b.toNat % 16 * 4 + c.toNat / 64) ::
      (c.toNat % 64) :: sextets rest

/-- How many pads are written behind so many bytes. -/
def padding (count : ℕ) : ℕ := (3 - count % 3) % 3

/-- What is written are letters and pads. -/
theorem encode_eq (content : List UInt8) : encode content =
    (sextets content).map letter ++ List.replicate (padding content.length) pad := by
  induction content using encode.induct with
  | case1 => rfl
  | case2 a => rfl
  | case3 a b => rfl
  | case4 a b c rest ih =>
    have hpadding : padding (a :: b :: c :: rest).length = padding rest.length := by
      simp only [padding, List.length_cons]
      omega
    rw [encode, ih, sextets, hpadding]
    rfl

theorem sextets_lt (content : List UInt8) : ∀ n ∈ sextets content, n < 64 := by
  induction content using encode.induct with
  | case1 => simp [sextets]
  | case2 a =>
    have ha := a.toNat_lt
    simp only [sextets, List.forall_mem_cons]
    exact ⟨by omega, by omega, by simp⟩
  | case3 a b =>
    have ha := a.toNat_lt
    have hb := b.toNat_lt
    simp only [sextets, List.forall_mem_cons]
    exact ⟨by omega, by omega, by omega, by simp⟩
  | case4 a b c rest ih =>
    have ha := a.toNat_lt
    have hb := b.toNat_lt
    have hc := c.toNat_lt
    simp only [sextets, List.forall_mem_cons]
    exact ⟨by omega, by omega, by omega, by omega, ih⟩

theorem length_sextets (content : List UInt8) :
    (sextets content).length + padding content.length = 4 * ((content.length + 2) / 3) := by
  rw [← length_encode, encode_eq, List.length_append, List.length_map, List.length_replicate]

theorem bytes_sextets (content : List UInt8) : bytes (sextets content) = content := by
  induction content using encode.induct with
  | case1 => rfl
  | case2 a =>
    have ha := a.toNat_lt
    rw [sextets, bytes, toUInt8_eq (a := a) (by omega)]
  | case3 a b =>
    have ha := a.toNat_lt
    have hb := b.toNat_lt
    rw [sextets, bytes, toUInt8_eq (a := a) (by omega), toUInt8_eq (a := b) (by omega)]
  | case4 a b c rest ih =>
    have ha := a.toNat_lt
    have hb := b.toNat_lt
    have hc := c.toNat_lt
    rw [sextets, bytes, ih, toUInt8_eq (a := a) (by omega), toUInt8_eq (a := b) (by omega),
      toUInt8_eq (a := c) (by omega)]

/-! ### Letters and pads -/

theorem pads_suffix {letters : List UInt16} (h : pad ∉ letters) (n k : ℕ) :
    List.replicate n pad <:+ letters ++ List.replicate k pad ↔ n ≤ k := by
  constructor
  · intro hsuffix
    have hcount := hsuffix.sublist.count_le pad
    rw [List.count_append, List.count_eq_zero.2 h, List.count_replicate_self,
      List.count_replicate_self] at hcount
    omega
  · intro hk
    obtain ⟨more, rfl⟩ := Nat.exists_eq_add_of_le hk
    refine ⟨letters ++ List.replicate more pad, ?_⟩
    rw [Nat.add_comm, List.replicate_add, List.append_assoc]

theorem two_pads_suffix {letters : List UInt16} (h : pad ∉ letters) (k : ℕ) :
    [pad, pad] <:+ letters ++ List.replicate k pad ↔ 2 ≤ k := pads_suffix h 2 k

theorem pad_suffix {letters : List UInt16} (h : pad ∉ letters) (k : ℕ) :
    [pad] <:+ letters ++ List.replicate k pad ↔ 1 ≤ k := pads_suffix h 1 k

theorem withoutPads_letters {letters : List UInt16} (h : pad ∉ letters) {k : ℕ} (hk : k ≤ 2)
    (hlength : (letters.length + k) % 4 = 0) :
    withoutPads (letters ++ List.replicate k pad) = letters := by
  have hgroups : (letters ++ List.replicate k pad).length % 4 = 0 := by
    rw [List.length_append, List.length_replicate]
    exact hlength
  rw [withoutPads, if_pos hgroups]
  interval_cases k
  · rw [if_neg (by rw [two_pads_suffix h]; omega), if_neg (by rw [pad_suffix h]; omega)]
    exact List.append_nil letters
  · rw [if_neg (by rw [two_pads_suffix h]; omega), if_pos ((pad_suffix h 1).2 (by omega))]
    exact List.dropLast_concat
  · have htwo : letters ++ List.replicate 2 pad = letters ++ [pad] ++ [pad] := by
      rw [List.append_assoc]
      rfl
    rw [if_pos ((two_pads_suffix h 2).2 (by omega)), htwo, List.dropLast_concat,
      List.dropLast_concat]

theorem letters_no_pad (content : List UInt8) : pad ∉ (sextets content).map letter := by
  intro h
  obtain ⟨n, hn, hletter⟩ := List.mem_map.1 h
  exact letter_ne_pad (sextets_lt content n hn) hletter

theorem standardValue_letter {n : ℕ} (h : n < 64) : standardValue (letter n) = some n := by
  interval_cases n <;> decide

theorem letter_visible {n : ℕ} (h : n < 64) : isBlank (letter n) = false := by
  interval_cases n <;> decide

theorem mapM_standardValue {digits : List ℕ} (h : ∀ n ∈ digits, n < 64) :
    (digits.map letter).mapM standardValue = some digits := by
  induction digits with
  | nil => rfl
  | cons n rest ih =>
    rw [List.map_cons, List.mapM_cons, standardValue_letter (h n List.mem_cons_self),
      ih fun m hm => h m (List.mem_cons_of_mem n hm)]
    rfl

/-- **The strict reader gives back what was written.** -/
theorem decodeStrict_encode (content : List UInt8) :
    decodeStrict? (encode content) = some content := by
  have hvisible : (encode content).filter (fun c => !isBlank c) = encode content := by
    refine List.filter_eq_self.2 (encode_units (fun n hn => ?_) (by decide) content)
    rw [letter_visible hn]
    rfl
  have hlength := length_sextets content
  have hpadding : padding content.length ≤ 2 := by
    unfold padding
    omega
  have hgroups : ((sextets content).map letter).length + padding content.length =
      4 * ((content.length + 2) / 3) := by rw [List.length_map, hlength]
  unfold decodeStrict?
  dsimp only
  rw [hvisible, encode_eq, withoutPads_letters (letters_no_pad content) hpadding (by omega)]
  have hrest : ((sextets content).map letter).length % 4 ≠ 1 := by omega
  rw [if_neg hrest, mapM_standardValue (sextets_lt content), Option.map_some, bytes_sextets]

end Base64
