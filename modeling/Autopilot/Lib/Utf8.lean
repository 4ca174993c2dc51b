/-
Texts of UTF-16 code units, and the files they are written to.

A file holds the UTF-8 bytes of a text. A half of a surrogate pair that stands alone
has no bytes of its own: it is written as the replacement character. A text without
such a half comes back from its file, also when it was appended to another text.
-/
import Autopilot.Lib.JsonText

set_option autoImplicit false

namespace Utf8

open JsonText

/-- The code units of a character. -/
def charUnits (c : Char) : List UInt16 :=
  if c.toNat < 0x10000 then [c.toNat.toUInt16]
  else [(0xd800 + (c.toNat - 0x10000) / 0x400).toUInt16,
    (0xdc00 + (c.toNat - 0x10000) % 0x400).toUInt16]

/-- The character of a unit that is no part of a pair. -/
def unitChar (c : UInt16) : Char := if isHigh c || isLow c then '\uFFFD' else Char.ofNat c.toNat

/-- The character of a pair. -/
def pairChar (c d : UInt16) : Char :=
  Char.ofNat (0x10000 + 0x400 * (c.toNat - 0xd800) + (d.toNat - 0xdc00))

/-- The characters of a text. -/
def chars : List UInt16 → List Char
  | [] => []
  | [c] => [unitChar c]
  | c :: d :: rest =>
    if isHigh c && isLow d then pairChar c d :: chars rest else unitChar c :: chars (d :: rest)

/-- The bytes of a text. -/
def encode (text : List UInt16) : List UInt8 := (chars text).flatMap String.utf8EncodeChar

/-- The text that bytes stand for, if there is one. -/
def decode (bytes : List UInt8) : Option (List UInt16) :=
  bytes.toByteArray.utf8Decode?.map fun cs => cs.toList.flatMap charUnits

/-- No half of a pair stands alone. -/
inductive Paired : List UInt16 → Prop
  | nil : Paired []
  | unit {c : UInt16} {rest : List UInt16} (hhigh : isHigh c = false) (hlow : isLow c = false)
      (h : Paired rest) : Paired (c :: rest)
  | pair {c d : UInt16} {rest : List UInt16} (hhigh : isHigh c = true) (hlow : isLow d = true)
      (h : Paired rest) : Paired (c :: d :: rest)

theorem isHigh_iff {c : UInt16} : isHigh c = true ↔ 0xd800 ≤ c.toNat ∧ c.toNat ≤ 0xdbff := by
  unfold isHigh
  rw [Bool.and_eq_true, decide_eq_true_eq, decide_eq_true_eq, UInt16.le_iff_toNat_le,
    UInt16.le_iff_toNat_le]
  exact Iff.rfl

theorem isLow_iff {c : UInt16} : isLow c = true ↔ 0xdc00 ≤ c.toNat ∧ c.toNat ≤ 0xdfff := by
  unfold isLow
  rw [Bool.and_eq_true, decide_eq_true_eq, decide_eq_true_eq, UInt16.le_iff_toNat_le,
    UInt16.le_iff_toNat_le]
  exact Iff.rfl

theorem toNat_ofNat {n : ℕ} (h : n.isValidChar) : (Char.ofNat n).toNat = n := by
  have hchar : Char.ofNat n = Char.ofNatAux n h := dif_pos h
  rw [hchar]
  rfl

theorem charUnits_unitChar {c : UInt16} (hhigh : isHigh c = false) (hlow : isLow c = false) :
    charUnits (unitChar c) = [c] := by
  have hc := c.toNat_lt
  have hhigh' := mt isHigh_iff.2 (Bool.eq_false_iff.1 hhigh)
  have hlow' := mt isLow_iff.2 (Bool.eq_false_iff.1 hlow)
  have hvalid : c.toNat.isValidChar := by
    unfold Nat.isValidChar
    omega
  unfold charUnits unitChar
  rw [hhigh, hlow, Bool.or_self, if_neg Bool.false_ne_true, toNat_ofNat hvalid, if_pos hc]
  simp

theorem charUnits_pairChar {c d : UInt16} (hhigh : isHigh c = true) (hlow : isLow d = true) :
    charUnits (pairChar c d) = [c, d] := by
  have hc := isHigh_iff.1 hhigh
  have hd := isLow_iff.1 hlow
  have hvalid : (0x10000 + 0x400 * (c.toNat - 0xd800) + (d.toNat - 0xdc00)).isValidChar := by
    unfold Nat.isValidChar
    omega
  have hfirst : 0xd800 + (0x10000 + 0x400 * (c.toNat - 0xd800) + (d.toNat - 0xdc00) - 0x10000) /
      0x400 = c.toNat := by omega
  have hsecond : 0xdc00 + (0x10000 + 0x400 * (c.toNat - 0xd800) + (d.toNat - 0xdc00) - 0x10000) %
      0x400 = d.toNat := by omega
  unfold charUnits pairChar
  rw [toNat_ofNat hvalid, if_neg (by omega), hfirst, hsecond]
  simp

section texts

variable {text more : List UInt16}

theorem chars_unit {c : UInt16} (hhigh : isHigh c = false) (rest : List UInt16) :
    chars (c :: rest) = unitChar c :: chars rest := by
  cases rest with
  | nil => rfl
  | cons d rest => rw [chars, hhigh, Bool.false_and, if_neg Bool.false_ne_true]

theorem chars_pair {c d : UInt16} (hhigh : isHigh c = true) (hlow : isLow d = true)
    (rest : List UInt16) : chars (c :: d :: rest) = pairChar c d :: chars rest := by
  rw [chars, hhigh, hlow, Bool.and_self, if_pos rfl]

/-- What follows a text without lone halves does not change its characters. -/
theorem chars_append (h : Paired text) : chars (text ++ more) = chars text ++ chars more := by
  induction h with
  | nil => rfl
  | unit hhigh hlow _ ih =>
    rw [List.cons_append, chars_unit hhigh, chars_unit hhigh, ih, List.cons_append]
  | pair hhigh hlow _ ih =>
    rw [List.cons_append, List.cons_append, chars_pair hhigh hlow, chars_pair hhigh hlow, ih,
      List.cons_append]

/-- A text without lone halves is that of its characters. -/
theorem units_chars (h : Paired text) : (chars text).flatMap charUnits = text := by
  induction h with
  | nil => rfl
  | unit hhigh hlow _ ih =>
    rw [chars_unit hhigh, List.flatMap_cons, charUnits_unitChar hhigh hlow, ih,
      List.singleton_append]
  | pair hhigh hlow _ ih =>
    rw [chars_pair hhigh hlow, List.flatMap_cons, charUnits_pairChar hhigh hlow, ih]
    rfl

theorem Paired.append (h : Paired text) (hmore : Paired more) : Paired (text ++ more) := by
  induction h with
  | nil => exact hmore
  | unit hhigh hlow _ ih => exact .unit hhigh hlow ih
  | pair hhigh hlow _ ih => exact .pair hhigh hlow ih

/-- The bytes of a file are those of the characters of its text. -/
theorem decode_chars {bytes : List UInt8} (h : decode bytes = some text) :
    ∃ cs : List Char, bytes = cs.flatMap String.utf8EncodeChar ∧ cs.flatMap charUnits = text := by
  unfold decode at h
  obtain ⟨cs, hcs, htext⟩ := Option.map_eq_some_iff.1 h
  have hsome : bytes.toByteArray.utf8Decode?.isSome := by rw [hcs]; rfl
  have hback := ByteArray.utf8Encode_get_utf8Decode? (h := hsome)
  simp only [hcs, Option.get_some] at hback
  refine ⟨cs.toList, ?_, htext⟩
  rw [← List.toList_data_toByteArray (l := bytes), ← hback, List.utf8Encode,
    List.toList_data_toByteArray]

/-- **What is appended to a file is read behind what the file held.** -/
theorem decode_append {bytes : List UInt8} (h : decode bytes = some text) (hmore : Paired more) :
    decode (bytes ++ encode more) = some (text ++ more) := by
  obtain ⟨cs, rfl, rfl⟩ := decode_chars h
  have hbytes : (cs.flatMap String.utf8EncodeChar ++ encode more).toByteArray =
      (cs ++ chars more).utf8Encode := by
    rw [List.utf8Encode_append, List.toByteArray_append]
    rfl
  unfold decode
  rw [hbytes, List.utf8Decode?_utf8Encode, Option.map_some, List.flatMap_append,
    units_chars hmore]

theorem decode_nil : decode [] = some [] := by
  unfold decode
  rw [List.toByteArray_nil, ByteArray.utf8Decode?_empty]
  rfl

/-- A text without lone halves comes back from its file. -/
theorem decode_encode (h : Paired text) : decode (encode text) = some text :=
  decode_append decode_nil h

/-- A character whose first unit is the byte order mark is that mark. -/
theorem eq_mark_of_charUnits {c : Char} {rest : List UInt16}
    (h : (charUnits c ++ rest).head? = some 0xfeff) : c = '\uFEFF' := by
  have hmark : (0xfeff : UInt16).toNat = 0xfeff := by decide
  unfold charUnits at h
  by_cases hsmall : c.toNat < 0x10000
  · rw [if_pos hsmall] at h
    have hnat := congrArg UInt16.toNat (Option.some.inj h)
    have hunit : c.toNat.toUInt16.toNat = c.toNat := by
      rw [Nat.toUInt16_eq, UInt16.toNat_ofNat', Nat.mod_eq_of_lt (by omega)]
    rw [hunit, hmark] at hnat
    exact Char.toNat_inj.1 hnat
  · -- the first unit of a pair is a high surrogate
    rw [if_neg hsmall] at h
    have hnat := congrArg UInt16.toNat (Option.some.inj h)
    have hvalid : c.toNat.isValidChar := c.valid
    unfold Nat.isValidChar at hvalid
    have hunit : (0xd800 + (c.toNat - 0x10000) / 0x400).toUInt16.toNat =
        0xd800 + (c.toNat - 0x10000) / 0x400 := by
      rw [Nat.toUInt16_eq, UInt16.toNat_ofNat', Nat.mod_eq_of_lt (by omega)]
    rw [hunit, hmark] at hnat
    omega

/-- A file begins with the byte order mark just when its text does. -/
theorem mark_prefix_iff {bytes : List UInt8} (h : decode bytes = some text) :
    [0xef, 0xbb, 0xbf] <+: bytes ↔ text.head? = some 0xfeff := by
  obtain ⟨cs, rfl, rfl⟩ := decode_chars h
  have hmark : String.utf8EncodeChar '\uFEFF' = [0xef, 0xbb, 0xbf] := by decide
  constructor
  · rintro ⟨rest, hrest⟩
    have hbytes : ['\uFEFF'].utf8Encode ++ rest.toByteArray = cs.utf8Encode := by
      rw [List.utf8Encode_singleton, hmark, ← List.toByteArray_append, hrest]
      rfl
    obtain ⟨more, rfl⟩ := List.isPrefix_of_utf8Encode_append_eq_utf8Encode _ hbytes
    rfl
  · intro hhead
    cases cs with
    | nil => cases hhead
    | cons c cs =>
      obtain rfl := eq_mark_of_charUnits hhead
      rw [List.flatMap_cons, hmark]
      exact List.prefix_append _ _

/-- The units of a character are one that is no half of a pair, or a pair. -/
theorem charUnits_cases (c : Char) :
    (∃ u, charUnits c = [u] ∧ isHigh u = false ∧ isLow u = false ∧ unitChar u = c) ∨
      ∃ u v, charUnits c = [u, v] ∧ isHigh u = true ∧ isLow v = true ∧ pairChar u v = c := by
  have hvalid : c.toNat.isValidChar := c.valid
  have hrange := hvalid
  unfold Nat.isValidChar at hrange
  unfold charUnits
  by_cases hsmall : c.toNat < 0x10000
  · have hunit : c.toNat.toUInt16.toNat = c.toNat := by
      rw [Nat.toUInt16_eq, UInt16.toNat_ofNat', Nat.mod_eq_of_lt (by omega)]
    have hhigh : isHigh c.toNat.toUInt16 = false := by
      rw [Bool.eq_false_iff, ne_eq, isHigh_iff, hunit]
      omega
    have hlow : isLow c.toNat.toUInt16 = false := by
      rw [Bool.eq_false_iff, ne_eq, isLow_iff, hunit]
      omega
    refine .inl ⟨_, if_pos hsmall, hhigh, hlow, ?_⟩
    unfold unitChar
    rw [hhigh, hlow, Bool.or_self, if_neg Bool.false_ne_true, hunit]
    exact Char.toNat_inj.1 (toNat_ofNat hvalid)
  · have hfirst : (0xd800 + (c.toNat - 0x10000) / 0x400).toUInt16.toNat =
        0xd800 + (c.toNat - 0x10000) / 0x400 := by
      rw [Nat.toUInt16_eq, UInt16.toNat_ofNat', Nat.mod_eq_of_lt (by omega)]
    have hsecond : (0xdc00 + (c.toNat - 0x10000) % 0x400).toUInt16.toNat =
        0xdc00 + (c.toNat - 0x10000) % 0x400 := by
      rw [Nat.toUInt16_eq, UInt16.toNat_ofNat', Nat.mod_eq_of_lt (by omega)]
    have hhigh : isHigh (0xd800 + (c.toNat - 0x10000) / 0x400).toUInt16 = true := by
      rw [isHigh_iff, hfirst]
      omega
    have hlow : isLow (0xdc00 + (c.toNat - 0x10000) % 0x400).toUInt16 = true := by
      rw [isLow_iff, hsecond]
      omega
    refine .inr ⟨_, _, if_neg hsmall, hhigh, hlow, ?_⟩
    unfold pairChar
    have hnat : 0x10000 + 0x400 * (0xd800 + (c.toNat - 0x10000) / 0x400 - 0xd800) +
        (0xdc00 + (c.toNat - 0x10000) % 0x400 - 0xdc00) = c.toNat := by omega
    rw [hfirst, hsecond, hnat]
    exact Char.toNat_inj.1 (toNat_ofNat hvalid)

/-- The units of characters have no lone halves, and are read as these characters. -/
theorem paired_units (cs : List Char) :
    Paired (cs.flatMap charUnits) ∧ chars (cs.flatMap charUnits) = cs := by
  induction cs with
  | nil => exact ⟨.nil, rfl⟩
  | cons c cs ih =>
    rw [List.flatMap_cons]
    rcases charUnits_cases c with ⟨u, hunits, hhigh, hlow, hc⟩ | ⟨u, v, hunits, hhigh, hlow, hc⟩
    · rw [hunits, List.singleton_append, chars_unit hhigh, ih.2, hc]
      exact ⟨.unit hhigh hlow ih.1, rfl⟩
    · rw [hunits]
      refine ⟨.pair hhigh hlow ih.1, ?_⟩
      show chars (u :: v :: cs.flatMap charUnits) = c :: cs
      rw [chars_pair hhigh hlow, ih.2, hc]

/-- **Bytes that stand for a text are the bytes of this text.** -/
theorem encode_of_decode {bytes : List UInt8} (h : decode bytes = some text) :
    Paired text ∧ encode text = bytes := by
  obtain ⟨cs, rfl, rfl⟩ := decode_chars h
  refine ⟨(paired_units cs).1, ?_⟩
  rw [encode, (paired_units cs).2]

theorem encode_append (h : Paired text) : encode (text ++ more) = encode text ++ encode more := by
  rw [encode, chars_append h, List.flatMap_append]
  rfl

/-- What stands in front of a unit of its own, and what stands behind it, has no lone halves. -/
theorem Paired.split {c : UInt16} (h : Paired (text ++ c :: more)) (hhigh : isHigh c = false)
    (hlow : isLow c = false) : Paired text ∧ Paired more := by
  generalize hwhole : text ++ c :: more = whole at h
  induction h generalizing text with
  | nil => exact absurd hwhole (by simp)
  | unit hhigh' hlow' hrest ih =>
    cases text with
    | nil =>
      obtain ⟨-, rfl⟩ := List.cons.inj hwhole
      exact ⟨.nil, hrest⟩
    | cons d text =>
      obtain ⟨rfl, htail⟩ := List.cons.inj hwhole
      exact ⟨.unit hhigh' hlow' (ih htail).1, (ih htail).2⟩
  | pair hhigh' hlow' hrest ih =>
    -- the unit is neither half of the pair
    cases text with
    | nil =>
      obtain ⟨rfl, -⟩ := List.cons.inj hwhole
      rw [hhigh] at hhigh'
      cases hhigh'
    | cons d text =>
      obtain ⟨rfl, htail⟩ := List.cons.inj hwhole
      cases text with
      | nil =>
        obtain ⟨rfl, -⟩ := List.cons.inj htail
        rw [hlow] at hlow'
        cases hlow'
      | cons e text =>
        obtain ⟨rfl, hrest'⟩ := List.cons.inj htail
        exact ⟨.pair hhigh' hlow' (ih hrest').1, (ih hrest').2⟩

theorem Paired.tail {c : UInt16} (h : Paired (c :: more)) (hhigh : isHigh c = false)
    (hlow : isLow c = false) : Paired more := by
  have hsplit : Paired ([] ++ c :: more) := h
  exact (hsplit.split hhigh hlow).2

end texts

end Utf8
