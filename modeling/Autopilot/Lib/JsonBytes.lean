/-
JSON documents as files.

What is written as JSON has no half of a surrogate pair that stands alone, so a document comes
back from the UTF-8 bytes of its text. How many bytes these are is bounded part by part: a unit
of a string takes six at most, and one when it stands for itself and is ASCII.
-/
import Autopilot.Lib.JsonDocument
import Autopilot.Lib.Utf8

set_option autoImplicit false

namespace JsonText

open Utf8 (Paired chars encode isHigh_iff isLow_iff)

/-! ## Texts without lone halves -/

/-- A unit that is ASCII is no half of a pair. -/
theorem notHalf_of_ascii {c : UInt16} (h : c.toNat < 128) :
    isHigh c = false ∧ isLow c = false := by
  constructor
  · rw [Bool.eq_false_iff, ne_eq, isHigh_iff]
    omega
  · rw [Bool.eq_false_iff, ne_eq, isLow_iff]
    omega

theorem ascii_of_all {text : List UInt16} (h : (text.all fun c => decide (c.toNat < 128)) = true) :
    ∀ c ∈ text, c.toNat < 128 := fun c hc => of_decide_eq_true (List.all_eq_true.1 h c hc)

theorem paired_of_ascii {text : List UInt16} (h : ∀ c ∈ text, c.toNat < 128) : Paired text := by
  induction text with
  | nil => exact .nil
  | cons c rest ih =>
    have hc := notHalf_of_ascii (h c (List.mem_cons_self ..))
    exact .unit hc.1 hc.2 (ih fun d hd => h d (List.mem_cons_of_mem _ hd))

theorem hexDigit_ascii {n : ℕ} (h : n < 16) : (hexDigit n).toNat < 128 := by
  interval_cases n <;> decide

theorem hexDigits_ascii (c : UInt16) : ∀ d ∈ [92, 117] ++ hexDigits c, d.toNat < 128 := by
  have hc := c.toNat_lt
  unfold hexDigits
  simp only [List.cons_append, List.nil_append, List.forall_mem_cons]
  exact ⟨by decide, by decide, hexDigit_ascii (by omega), hexDigit_ascii (by omega),
    hexDigit_ascii (by omega), hexDigit_ascii (by omega), by simp⟩

/-- A unit that is no half is written in ASCII, or as it stands. -/
theorem unitText_cases (c : UInt16) :
    ((∀ d ∈ unitText c, d.toNat < 128) ∧ (unitText c).length ≤ 6) ∨ unitText c = [c] := by
  unfold unitText
  cases hshort : shortEscape c with
  | some letter =>
    left
    have hmem := shortEscape_some hshort
    have hletter : letter.toNat < 128 := by
      simp only [List.mem_cons, Prod.mk.injEq, List.not_mem_nil, or_false] at hmem
      rcases hmem with h | h | h | h | h | h | h <;> rw [h.2] <;> decide
    simp [hletter]
  | none =>
    by_cases hcontrol : c < 32
    · left
      dsimp only
      rw [if_pos hcontrol]
      exact ⟨hexDigits_ascii c, by simp [hexDigits]⟩
    · right
      dsimp only
      rw [if_neg hcontrol]

theorem paired_unitText {c : UInt16} (hhalf : ¬(isHigh c || isLow c) = true) :
    Paired (unitText c) := by
  rw [Bool.or_eq_true, not_or, Bool.not_eq_true, Bool.not_eq_true] at hhalf
  rcases unitText_cases c with ⟨hascii, -⟩ | hself
  · exact paired_of_ascii hascii
  · rw [hself]
    exact .unit hhalf.1 hhalf.2 .nil

/-- What stands between the quotes of a string has no lone halves. -/
theorem paired_escaped (s : List UInt16) : Paired (escaped s) := by
  induction s using escaped.induct with
  | case1 => exact .nil
  | case2 c hhalf =>
    rw [escaped, if_pos hhalf]
    exact paired_of_ascii (hexDigits_ascii c)
  | case3 c hhalf =>
    rw [escaped, if_neg hhalf]
    exact paired_unitText hhalf
  | case4 c d tail hpair ih =>
    have hboth := Bool.and_eq_true_iff.1 hpair
    rw [escaped, if_pos hpair]
    exact .pair hboth.1 hboth.2 ih
  | case5 c d tail hpair hhalf ih =>
    rw [escaped, if_neg hpair, if_pos hhalf]
    exact (paired_of_ascii (hexDigits_ascii c)).append ih
  | case6 c d tail hpair hhalf ih =>
    rw [escaped, if_neg hpair, if_neg hhalf]
    exact (paired_unitText hhalf).append ih

theorem paired_cons_ascii {c : UInt16} (hc : c.toNat < 128) {text : List UInt16}
    (h : Paired text) : Paired (c :: text) :=
  .unit (notHalf_of_ascii hc).1 (notHalf_of_ascii hc).2 h

theorem paired_quoted (s : List UInt16) : Paired (quoted s) := by
  unfold quoted
  rw [List.cons_append]
  exact paired_cons_ascii (by decide)
    ((paired_escaped s).append (paired_cons_ascii (by decide) .nil))

/-- The units of a number. -/
theorem Numeral.ascii (n : Numeral) : ∀ c ∈ n.text, c.toNat < 128 := by
  have hdigit : ∀ digits : List UInt16, (∀ c ∈ digits, isDigit c = true) →
      ∀ c ∈ digits, c.toNat < 128 := by
    intro digits hdigits c hc
    have hbounds := isDigit_toNat (hdigits c hc)
    omega
  intro c hc
  unfold Numeral.text at hc
  rw [List.mem_append, List.mem_append] at hc
  rcases hc with (hc | hc) | hc
  · rcases n.wholeDigits with hzero | ⟨-, -, hdigits⟩
    · rw [hzero, List.mem_singleton] at hc
      rw [hc]
      decide
    · exact hdigit _ hdigits c hc
  · unfold Numeral.fractionText at hc
    split at hc
    · exact absurd hc List.not_mem_nil
    · rename_i digit digits hfraction
      have hdigits := n.fractionDigits
      rw [hfraction] at hdigits
      rw [List.mem_cons] at hc
      rcases hc with rfl | hc
      · decide
      · exact hdigit _ hdigits c hc
  · unfold Numeral.exponentText at hc
    split at hc
    · exact absurd hc List.not_mem_nil
    · rename_i negative digits hexponent
      have hdigits := (n.exponentDigits _ hexponent).2
      rw [List.mem_cons, List.mem_cons] at hc
      rcases hc with rfl | rfl | hc
      · decide
      · split <;> decide
      · exact hdigit _ hdigits c hc

theorem Scalar.paired (s : Scalar) : Paired s.text := by
  cases s with
  | string s => exact paired_quoted s
  | number n => exact paired_of_ascii n.ascii

mutual

/-- **A document is written without lone halves.** -/
theorem Document.paired : ∀ d : Document, Paired d.text
  | .scalar s => by
    rw [Document.text]
    exact s.paired
  | .array [] => by
    rw [Document.text]
    exact paired_of_ascii (ascii_of_all (by decide))
  | .array (d :: rest) => by
    rw [Document.text]
    exact paired_cons_ascii (by decide) (d.paired.append (paired_elementsTail rest))
  | .object [] => by
    rw [Document.text]
    exact paired_of_ascii (ascii_of_all (by decide))
  | .object ((name, d) :: rest) => by
    rw [Document.text]
    exact paired_cons_ascii (by decide) ((paired_quoted name).append
      (paired_cons_ascii (by decide) (d.paired.append (paired_membersTail rest))))

theorem paired_elementsTail : ∀ elements : List Document, Paired (elementsTail elements)
  | [] => by
    rw [elementsTail]
    exact paired_of_ascii (ascii_of_all (by decide))
  | d :: rest => by
    rw [elementsTail]
    exact paired_cons_ascii (by decide) (d.paired.append (paired_elementsTail rest))

theorem paired_membersTail : ∀ members : List (List UInt16 × Document),
    Paired (membersTail members)
  | [] => by
    rw [membersTail]
    exact paired_of_ascii (ascii_of_all (by decide))
  | (name, d) :: rest => by
    rw [membersTail]
    exact paired_cons_ascii (by decide) ((paired_quoted name).append
      (paired_cons_ascii (by decide) (d.paired.append (paired_membersTail rest))))

end

/-! ## How many bytes -/

theorem length_encode_append {text : List UInt16} (h : Paired text) (more : List UInt16) :
    (encode (text ++ more)).length = (encode text).length + (encode more).length := by
  unfold encode
  rw [Utf8.chars_append h, List.flatMap_append, List.length_append]

theorem utf8Size_eq (c : Char) : c.utf8Size =
    if c.toNat ≤ 0x7f then 1 else if c.toNat ≤ 0x7ff then 2 else if c.toNat ≤ 0xffff then 3
    else 4 := by
  unfold Char.utf8Size Char.toNat
  simp only [UInt32.le_iff_toNat_le]
  rfl

/-- A unit that is no half of a pair takes three bytes at most. -/
theorem length_encode_unit {c : UInt16} (hhigh : isHigh c = false) (hlow : isLow c = false) :
    (encode [c]).length ≤ 3 ∧ (c.toNat < 128 → (encode [c]).length = 1) := by
  have hc := c.toNat_lt
  have hhigh' := mt isHigh_iff.2 (Bool.eq_false_iff.1 hhigh)
  have hlow' := mt isLow_iff.2 (Bool.eq_false_iff.1 hlow)
  have hvalid : c.toNat.isValidChar := by
    unfold Nat.isValidChar
    omega
  have hchar : (Utf8.unitChar c).toNat = c.toNat := by
    unfold Utf8.unitChar
    rw [hhigh, hlow, Bool.or_self, if_neg Bool.false_ne_true, Utf8.toNat_ofNat hvalid]
  have hlength : (encode [c]).length = (Utf8.unitChar c).utf8Size := by
    unfold encode
    rw [chars, List.flatMap_singleton, String.length_utf8EncodeChar]
  rw [hlength, utf8Size_eq, hchar]
  constructor
  · split_ifs
    · omega
    · omega
    · exact le_rfl
    · omega
  · intro hascii
    rw [if_pos (by omega)]

/-- A text of ASCII units has these as its bytes. -/
theorem encode_ascii {text : List UInt16} (h : ∀ c ∈ text, c.toNat < 128) :
    encode text = text.map (·.toUInt8) := by
  induction text with
  | nil => rfl
  | cons c rest ih =>
    have hascii := h c List.mem_cons_self
    have hc := notHalf_of_ascii hascii
    have happend := @Utf8.encode_append [c] rest (.unit hc.1 hc.2 .nil)
    have hone : encode [c] = [c.toUInt8] := by
      have hchar : (Char.ofNat c.toNat).val.toNat = c.toNat :=
        Utf8.toNat_ofNat (.inl (by omega))
      unfold encode
      rw [chars, List.flatMap_singleton, Utf8.unitChar, hc.1, hc.2, Bool.or_self, if_neg (by simp),
        String.utf8EncodeChar, hchar, if_pos (by omega)]
      rfl
    rw [List.singleton_append] at happend
    rw [happend, hone, ih fun d hd => h d (List.mem_cons_of_mem _ hd)]
    rfl

theorem length_encode_ascii {text : List UInt16} (h : ∀ c ∈ text, c.toNat < 128) :
    (encode text).length = text.length := by
  rw [encode_ascii h, List.length_map]

/-- A pair takes four bytes. -/
theorem length_encode_pair {c d : UInt16} (hhigh : isHigh c = true) (hlow : isLow d = true) :
    (encode [c, d]).length ≤ 4 := by
  unfold encode
  rw [Utf8.chars_pair hhigh hlow, chars, List.flatMap_singleton, String.length_utf8EncodeChar]
  exact Char.utf8Size_le_four _

theorem length_encode_unitText {c : UInt16} (hhalf : ¬(isHigh c || isLow c) = true) :
    (encode (unitText c)).length ≤ 6 := by
  rw [Bool.or_eq_true, not_or, Bool.not_eq_true, Bool.not_eq_true] at hhalf
  rcases unitText_cases c with ⟨hascii, hlength⟩ | hself
  · rw [length_encode_ascii hascii]
    exact hlength
  · have hunit := (length_encode_unit hhalf.1 hhalf.2).1
    rw [hself]
    omega

theorem length_encode_hexDigits (c : UInt16) :
    (encode ([92, 117] ++ hexDigits c)).length = 6 := by
  rw [length_encode_ascii (hexDigits_ascii c)]
  rfl

/-- A unit of a string takes six bytes at most. -/
theorem length_encode_escaped (s : List UInt16) : (encode (escaped s)).length ≤ 6 * s.length := by
  induction s using escaped.induct with
  | case1 => exact Nat.zero_le _
  | case2 c hhalf =>
    rw [escaped, if_pos hhalf, length_encode_hexDigits]
    exact le_rfl
  | case3 c hhalf =>
    rw [escaped, if_neg hhalf]
    exact length_encode_unitText hhalf
  | case4 c d tail hpair ih =>
    have hboth := Bool.and_eq_true_iff.1 hpair
    have happend := length_encode_append (.pair hboth.1 hboth.2 .nil) (escaped tail)
    have hfour := length_encode_pair hboth.1 hboth.2
    rw [escaped, if_pos hpair]
    rw [List.cons_append, List.cons_append, List.nil_append] at happend
    rw [happend, List.length_cons, List.length_cons]
    omega
  | case5 c d tail hpair hhalf ih =>
    rw [escaped, if_neg hpair, if_pos hhalf,
      length_encode_append (paired_of_ascii (hexDigits_ascii c)), length_encode_hexDigits]
    rw [List.length_cons]
    omega
  | case6 c d tail hpair hhalf ih =>
    have hunit := length_encode_unitText hhalf
    rw [escaped, if_neg hpair, if_neg hhalf, length_encode_append (paired_unitText hhalf)]
    rw [List.length_cons]
    omega

/-- A string in quotes is its text and two more. -/
theorem length_encode_quoted (s : List UInt16) :
    (encode (quoted s)).length = (encode (escaped s)).length + 2 := by
  have hquote : ∀ c ∈ [(34 : UInt16)], c.toNat < 128 := ascii_of_all (by decide)
  have hsplit : quoted s = [34] ++ (escaped s ++ [34]) := by
    unfold quoted
    rw [List.cons_append, List.singleton_append]
  rw [hsplit, length_encode_append (paired_of_ascii hquote),
    length_encode_append (paired_escaped s), length_encode_ascii hquote, List.length_singleton]
  omega

/-- The unit stands for itself in a string, and takes one byte. -/
def Plain (c : UInt16) : Prop := 32 ≤ c.toNat ∧ c.toNat < 128 ∧ c ≠ 34 ∧ c ≠ 92

theorem unitText_plain {c : UInt16} (h : Plain c) : unitText c = [c] := by
  have h32 : (32 : UInt16).toNat = 32 := by decide
  have hcontrol : ¬c < 32 := by
    rw [UInt16.lt_iff_toNat_lt]
    have := h.1
    omega
  have hne : ∀ k : UInt16, k.toNat < 32 → c ≠ k := by
    intro k hk heq
    have := h.1
    rw [heq] at this
    omega
  unfold unitText shortEscape
  simp [hne 8 (by decide), hne 9 (by decide), hne 10 (by decide), hne 12 (by decide),
    hne 13 (by decide), h.2.2.1, h.2.2.2, hcontrol]

theorem escaped_plain {s : List UInt16} (h : ∀ c ∈ s, Plain c) : escaped s = s := by
  have hhalf : ∀ c ∈ s, ¬(isHigh c || isLow c) = true := by
    intro c hc
    have hnot := notHalf_of_ascii (h c hc).2.1
    rw [hnot.1, hnot.2]
    decide
  induction s using escaped.induct with
  | case1 => rfl
  | case2 c hc => exact absurd hc (hhalf c (List.mem_cons_self ..))
  | case3 c hc => rw [escaped, if_neg hc, unitText_plain (h c (List.mem_cons_self ..))]
  | case4 c d tail hpair ih =>
    have hboth := Bool.and_eq_true_iff.1 hpair
    exact absurd (by rw [hboth.1]; rfl) (hhalf c (List.mem_cons_self ..))
  | case5 c d tail hpair hc ih => exact absurd hc (hhalf c (List.mem_cons_self ..))
  | case6 c d tail hpair hc ih =>
    rw [escaped, if_neg hpair, if_neg hc, unitText_plain (h c (List.mem_cons_self ..)),
      ih (fun e he => h e (List.mem_cons_of_mem _ he))
        (fun e he => hhalf e (List.mem_cons_of_mem _ he))]
    rfl

/-- A plain string takes its length and two bytes. -/
theorem length_encode_quoted_plain {s : List UInt16} (h : ∀ c ∈ s, Plain c) :
    (encode (quoted s)).length = s.length + 2 := by
  rw [length_encode_quoted, escaped_plain h, length_encode_ascii fun c hc => (h c hc).2.1]

theorem length_encode_quoted_le (s : List UInt16) :
    (encode (quoted s)).length ≤ 6 * s.length + 2 := by
  have hescaped := length_encode_escaped s
  rw [length_encode_quoted]
  omega

def Scalar.size : Scalar → ℕ
  | .string s => (encode (quoted s)).length
  | .number n => n.text.length

mutual

/-- A bound of the bytes of a document, from those of its parts. -/
def Document.size : Document → ℕ
  | .scalar s => s.size
  | .array elements => elementsSize elements + 2
  | .object members => membersSize members + 2

def elementsSize : List Document → ℕ
  | [] => 0
  | d :: rest => d.size + 1 + elementsSize rest

def membersSize : List (List UInt16 × Document) → ℕ
  | [] => 0
  | (name, d) :: rest => (encode (quoted name)).length + d.size + 2 + membersSize rest

end

theorem length_encode_cons_ascii {c : UInt16} (hc : c.toNat < 128) (text : List UInt16) :
    (encode (c :: text)).length = (encode text).length + 1 := by
  have hnot := notHalf_of_ascii hc
  have happend := length_encode_append (.unit hnot.1 hnot.2 .nil) text
  rw [List.singleton_append, (length_encode_unit hnot.1 hnot.2).2 hc] at happend
  rw [happend]
  omega

mutual

/-- **The bytes of a document are bounded part by part.** -/
theorem Document.length_encode : ∀ d : Document, (encode d.text).length ≤ d.size
  | .scalar s => by
    rw [Document.text, Document.size]
    cases s with
    | string s => exact le_rfl
    | number n => exact le_of_eq (length_encode_ascii n.ascii)
  | .array [] => by
    rw [Document.text, Document.size, length_encode_ascii (ascii_of_all (by decide))]
    exact Nat.le_add_left _ _
  | .array (d :: rest) => by
    have hd := d.length_encode
    have hrest := length_encode_elementsTail rest
    rw [Document.text, Document.size, elementsSize, length_encode_cons_ascii (by decide),
      length_encode_append d.paired]
    omega
  | .object [] => by
    rw [Document.text, Document.size, length_encode_ascii (ascii_of_all (by decide))]
    exact Nat.le_add_left _ _
  | .object ((name, d) :: rest) => by
    have hd := d.length_encode
    have hrest := length_encode_membersTail rest
    rw [Document.text, Document.size, membersSize, length_encode_cons_ascii (by decide),
      length_encode_append (paired_quoted name), length_encode_cons_ascii (by decide),
      length_encode_append d.paired]
    omega

theorem length_encode_elementsTail : ∀ elements : List Document,
    (encode (elementsTail elements)).length ≤ elementsSize elements + 1
  | [] => by
    rw [elementsTail, length_encode_ascii (ascii_of_all (by decide))]
    exact Nat.le_add_left _ _
  | d :: rest => by
    have hd := d.length_encode
    have hrest := length_encode_elementsTail rest
    rw [elementsTail, elementsSize, length_encode_cons_ascii (by decide),
      length_encode_append d.paired]
    omega

theorem length_encode_membersTail : ∀ members : List (List UInt16 × Document),
    (encode (membersTail members)).length ≤ membersSize members + 1
  | [] => by
    rw [membersTail, length_encode_ascii (ascii_of_all (by decide))]
    exact Nat.le_add_left _ _
  | (name, d) :: rest => by
    have hd := d.length_encode
    have hrest := length_encode_membersTail rest
    rw [membersTail, membersSize, length_encode_cons_ascii (by decide),
      length_encode_append (paired_quoted name), length_encode_cons_ascii (by decide),
      length_encode_append d.paired]
    omega

end

end JsonText
