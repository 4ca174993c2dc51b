/-
Reading JSON.

A reader takes a value off the front of a text and gives it together with what
follows. The readers here are those of the grammar of JSON, and the main result is
that the reader of a whole text finds in a text that was written as a flat object,
members with strings and numbers, just these members.

A number is kept as the decimal it is spelled as, since what a decimal is rounded to
depends on the arithmetic of who reads it.
-/
import Autopilot.Lib.JsonText

set_option autoImplicit false

namespace JsonText

/-! ## Values -/

/-- A decimal number, `coefficient * 10 ^ scale` with its sign. -/
structure Decimal where
  negative : Bool
  coefficient : ℕ
  scale : ℤ
  deriving DecidableEq

/-- A value. An object keeps its members in the order they are read. -/
inductive Value where
  | null
  | bool (b : Bool)
  | number (n : Decimal)
  | string (s : List UInt16)
  | array (elements : List Value)
  | object (members : List (List UInt16 × Value))

/-- What an object holds under a name: the last member of that name counts. -/
def member (members : List (List UInt16 × Value)) (name : List UInt16) : Option Value :=
  (members.reverse.find? fun m => m.1 = name).map (·.2)

/-! ## Readers -/

/-- What a reader finds at the front of a text, and what follows it. -/
abbrev Reader (α : Type) := List UInt16 → Option (α × List UInt16)

def isBlank (c : UInt16) : Bool := c = 9 || c = 10 || c = 13 || c = 32

/-- The text without the blanks in front. -/
def skipBlanks (text : List UInt16) : List UInt16 := text.dropWhile isBlank

def isDigit (c : UInt16) : Bool := 48 ≤ c && c ≤ 57

/-- The number that digits stand for. -/
def digitsValue (digits : List UInt16) : ℕ :=
  digits.foldl (fun n c => 10 * n + (c.toNat - 48)) 0

/-- The digits in front. -/
def readDigits : Reader (List UInt16) := fun text =>
  match text.takeWhile isDigit with
  | [] => none
  | digit :: digits => some (digit :: digits, text.dropWhile isDigit)

/-- The digits in front of the point: there is no zero in front of other digits. -/
def readInteger : Reader (List UInt16)
  | 48 :: rest => some ([48], rest)
  | text => readDigits text

/-- The digits after a point, if there is one. -/
def readFraction : Reader (List UInt16)
  | 46 :: rest => readDigits rest
  | text => some ([], text)

/-- The digits of an exponent, after its sign. -/
def readExponentDigits : Reader ℤ
  | 45 :: rest => (readDigits rest).map fun d => (-(digitsValue d.1 : ℤ), d.2)
  | 43 :: rest => (readDigits rest).map fun d => ((digitsValue d.1 : ℤ), d.2)
  | text => (readDigits text).map fun d => ((digitsValue d.1 : ℤ), d.2)

/-- The exponent, if there is one. -/
def readExponent : Reader ℤ
  | 101 :: rest => readExponentDigits rest
  | 69 :: rest => readExponentDigits rest
  | text => some (0, text)

/-- A number without its sign. -/
def readMagnitude (negative : Bool) : Reader Decimal := fun text =>
  (readInteger text).bind fun whole =>
    (readFraction whole.2).bind fun fraction =>
      (readExponent fraction.2).map fun exponent =>
        (⟨negative, digitsValue (whole.1 ++ fraction.1), exponent.1 - fraction.1.length⟩,
          exponent.2)

/-- A number. -/
def readNumber : Reader Decimal
  | 45 :: rest => readMagnitude true rest
  | text => readMagnitude false text

/-- The value of a hexadecimal digit. -/
def hexValue (c : UInt16) : Option ℕ :=
  if 48 ≤ c ∧ c ≤ 57 then some (c.toNat - 48)
  else if 97 ≤ c ∧ c ≤ 102 then some (c.toNat - 87)
  else if 65 ≤ c ∧ c ≤ 70 then some (c.toNat - 55)
  else none

/-- The unit that four hexadecimal digits stand for. -/
def hexUnit (a b c d : UInt16) : Option UInt16 :=
  (hexValue a).bind fun a => (hexValue b).bind fun b => (hexValue c).bind fun c =>
    (hexValue d).map fun d => (4096 * a + 256 * b + 16 * c + d).toUInt16

/-- The unit a short escape stands for. -/
def unescape (letter : UInt16) : Option UInt16 :=
  if letter = 34 then some 34 else if letter = 92 then some 92 else if letter = 47 then some 47
  else if letter = 98 then some 8 else if letter = 102 then some 12
  else if letter = 110 then some 10 else if letter = 114 then some 13
  else if letter = 116 then some 9 else none

/-- The rest of a string, after its opening quote. -/
def readString : Reader (List UInt16)
  | [] => none
  | 34 :: rest => some ([], rest)
  | 92 :: 117 :: a :: b :: c :: d :: rest =>
    (hexUnit a b c d).bind fun unit => (readString rest).map fun s => (unit :: s.1, s.2)
  | 92 :: letter :: rest =>
    (unescape letter).bind fun unit => (readString rest).map fun s => (unit :: s.1, s.2)
  | c :: rest =>
    if c < 32 ∨ c = 92 then none else (readString rest).map fun s => (c :: s.1, s.2)

section compound

variable (read : Reader Value)

/-- The elements of an array, at most `fuel`. -/
def readElements : ℕ → Reader (List Value)
  | 0, _ => none
  | fuel + 1, text =>
    (read text).bind fun element =>
      match skipBlanks element.2 with
      | 44 :: rest => (readElements fuel rest).map fun more => (element.1 :: more.1, more.2)
      | 93 :: rest => some ([element.1], rest)
      | _ => none

/-- A member of an object: its name, a colon and its value. -/
def readMember : Reader (List UInt16 × Value) := fun text =>
  match skipBlanks text with
  | 34 :: rest =>
    (readString rest).bind fun name =>
      match skipBlanks name.2 with
      | 58 :: rest => (read rest).map fun value => ((name.1, value.1), value.2)
      | _ => none
  | _ => none

/-- The members of an object, at most `fuel`. -/
def readMembers : ℕ → Reader (List (List UInt16 × Value))
  | 0, _ => none
  | fuel + 1, text =>
    (readMember read text).bind fun member =>
      match skipBlanks member.2 with
      | 44 :: rest => (readMembers fuel rest).map fun more => (member.1 :: more.1, more.2)
      | 125 :: rest => some ([member.1], rest)
      | _ => none

end compound

/-- A value, with at most `fuel` values inside of each other. -/
def readValue : ℕ → Reader Value
  | 0, _ => none
  | fuel + 1, text =>
    match skipBlanks text with
    | 34 :: rest => (readString rest).map fun s => (.string s.1, s.2)
    | 91 :: rest =>
      match skipBlanks rest with
      | 93 :: rest => some (.array [], rest)
      | rest => (readElements (readValue fuel) rest.length rest).map fun xs => (.array xs.1, xs.2)
    | 123 :: rest =>
      match skipBlanks rest with
      | 125 :: rest => some (.object [], rest)
      | rest => (readMembers (readValue fuel) rest.length rest).map fun ms => (.object ms.1, ms.2)
    | 110 :: 117 :: 108 :: 108 :: rest => some (.null, rest)
    | 116 :: 114 :: 117 :: 101 :: rest => some (.bool true, rest)
    | 102 :: 97 :: 108 :: 115 :: 101 :: rest => some (.bool false, rest)
    | rest => (readNumber rest).map fun n => (.number n.1, n.2)

/-- `JSON.parse`: a text that is a value, with blanks around it. -/
def parse (text : List UInt16) : Option Value :=
  (readValue (text.length + 1) text).bind fun value =>
    if skipBlanks value.2 = [] then some value.1 else none


/-! ## What was written is read -/

theorem hexValue_hexDigit {n : ℕ} (hn : n < 16) : hexValue (hexDigit n) = some n := by
  interval_cases n <;> decide

/-- The four digits of a unit stand for it. -/
theorem hexUnit_hexDigits (c : UInt16) :
    hexUnit (hexDigit (c.toNat / 4096)) (hexDigit (c.toNat / 256 % 16))
      (hexDigit (c.toNat / 16 % 16)) (hexDigit (c.toNat % 16)) = some c := by
  have hc := c.toNat_lt
  have h₁ := hexValue_hexDigit (n := c.toNat / 4096) (by omega)
  have h₂ := hexValue_hexDigit (n := c.toNat / 256 % 16) (by omega)
  have h₃ := hexValue_hexDigit (n := c.toNat / 16 % 16) (by omega)
  have h₄ := hexValue_hexDigit (n := c.toNat % 16) (by omega)
  have hsum : 4096 * (c.toNat / 4096) + 256 * (c.toNat / 256 % 16) + 16 * (c.toNat / 16 % 16) +
      c.toNat % 16 = c.toNat := by omega
  unfold hexUnit
  simp only [h₁, h₂, h₃, h₄, Option.bind_some, Option.map_some, hsum]
  simp

/-- A unit that is written by its digits is read. -/
theorem readString_digits (c : UInt16) (text : List UInt16) :
    readString ([92, 117] ++ hexDigits c ++ text) =
      (readString text).map fun s => (c :: s.1, s.2) := by
  unfold hexDigits
  simp only [List.cons_append, List.nil_append]
  rw [readString, hexUnit_hexDigits, Option.bind_some]

/-- A unit that is written as it stands is read. -/
theorem readString_plain {c : UInt16} (text : List UInt16) (hcontrol : ¬c < 32) (hquote : c ≠ 34)
    (hslash : c ≠ 92) :
    readString (c :: text) = (readString text).map fun s => (c :: s.1, s.2) := by
  rw [readString.eq_def]
  split
  · simp_all
  · simp_all
  · simp_all
  · simp_all
  · simp_all

/-- A unit that is written by a short escape is read. -/
theorem readString_short {c letter : UInt16} (text : List UInt16)
    (h : shortEscape c = some letter) :
    readString (92 :: letter :: text) = (readString text).map fun s => (c :: s.1, s.2) := by
  have hu : letter ≠ 117 := fun hu => shortEscape_ne_u (hu ▸ h)
  have hback : unescape letter = some c := by
    have hmem := shortEscape_some h
    simp only [List.mem_cons, Prod.mk.injEq, List.not_mem_nil, or_false] at hmem
    rcases hmem with h | h | h | h | h | h | h <;> rw [h.1, h.2] <;> decide
  rw [readString.eq_def]
  split
  · simp_all
  · simp_all
  · simp_all
  · rename_i heq
    have hletter := (List.cons.inj (List.cons.inj heq).2)
    rw [← hletter.1, ← hletter.2, hback, Option.bind_some]
  · rename_i hother heq
    have hcons := List.cons.inj heq
    exact (hother letter text hcons.1.symm hcons.2.symm).elim

theorem readString_unitText (c : UInt16) (text : List UInt16) :
    readString (unitText c ++ text) = (readString text).map fun s => (c :: s.1, s.2) := by
  unfold unitText
  cases hshort : shortEscape c with
  | some letter => exact readString_short text hshort
  | none =>
    dsimp only
    by_cases hcontrol : c < 32
    · rw [if_pos hcontrol]
      exact readString_digits c text
    · rw [if_neg hcontrol]
      refine readString_plain text hcontrol (fun hc => ?_) (fun hc => ?_)
      · rw [hc] at hshort
        exact absurd hshort (by decide)
      · rw [hc] at hshort
        exact absurd hshort (by decide)

/-- Half of a pair is no unit that is escaped. -/
theorem readString_half {c : UInt16} (text : List UInt16) (h : isHigh c = true ∨ isLow c = true) :
    readString (c :: text) = (readString text).map fun s => (c :: s.1, s.2) := by
  have hge : 0xd800 ≤ c := by
    rcases h with h | h
    · unfold isHigh at h
      rw [Bool.and_eq_true, decide_eq_true_eq] at h
      exact h.1
    · unfold isLow at h
      rw [Bool.and_eq_true, decide_eq_true_eq] at h
      exact UInt16.le_trans (by decide) h.1
  rw [UInt16.le_iff_toNat_le] at hge
  have hval : (0xd800 : UInt16).toNat = 0xd800 := by decide
  refine readString_plain text (fun hlt => ?_) (fun hc => ?_) (fun hc => ?_)
  · rw [UInt16.lt_iff_toNat_lt] at hlt
    have h32 : (32 : UInt16).toNat = 32 := by decide
    omega
  · rw [hc] at hge
    exact absurd hge (by decide)
  · rw [hc] at hge
    exact absurd hge (by decide)

/-- A string that was written between quotes is read. -/
theorem readString_escaped (s rest : List UInt16) :
    readString (escaped s ++ 34 :: rest) = some (s, rest) := by
  induction s using escaped.induct with
  | case1 => rw [escaped, List.nil_append, readString]
  | case2 c hhalf =>
    rw [escaped, if_pos hhalf, readString_digits, readString]
    rfl
  | case3 c hhalf =>
    rw [escaped, if_neg hhalf, readString_unitText, readString]
    rfl
  | case4 c d tail hpair ih =>
    have hboth := Bool.and_eq_true_iff.1 hpair
    rw [escaped, if_pos hpair, List.cons_append, List.cons_append,
      readString_half _ (.inl hboth.1), readString_half _ (.inr hboth.2), ih]
    rfl
  | case5 c d tail hpair hhalf ih =>
    rw [escaped, if_neg hpair, if_pos hhalf, List.append_assoc, readString_digits, ih]
    rfl
  | case6 c d tail hpair hhalf ih =>
    rw [escaped, if_neg hpair, if_neg hhalf, List.append_assoc, readString_unitText, ih]
    rfl

/-! ### Numbers -/

/-- How a number that is not negative is spelled: the digits before and after the
point, and the exponent with its sign. -/
structure Numeral where
  whole : List UInt16
  fraction : List UInt16
  exponent : Option (Bool × List UInt16)
  wholeDigits : whole = [48] ∨ whole.head? ≠ some 48 ∧ whole ≠ [] ∧ ∀ c ∈ whole, isDigit c = true
  fractionDigits : ∀ c ∈ fraction, isDigit c = true
  exponentDigits : ∀ e ∈ exponent, e.2 ≠ [] ∧ ∀ c ∈ e.2, isDigit c = true

namespace Numeral

/-- The exponent as a number. -/
def power (n : Numeral) : ℤ :=
  match n.exponent with
  | none => 0
  | some (negative, digits) => if negative then -digitsValue digits else digitsValue digits

/-- The number that is spelled. -/
def decimal (n : Numeral) : Decimal :=
  ⟨false, digitsValue (n.whole ++ n.fraction), n.power - n.fraction.length⟩

def fractionText (n : Numeral) : List UInt16 :=
  match n.fraction with
  | [] => []
  | digit :: digits => 46 :: digit :: digits

def exponentText (n : Numeral) : List UInt16 :=
  match n.exponent with
  | none => []
  | some (negative, digits) => 101 :: (if negative then 45 else 43) :: digits

def text (n : Numeral) : List UInt16 := n.whole ++ n.fractionText ++ n.exponentText

end Numeral

/-- The text goes on with something that belongs to no number. -/
def AfterNumber (text : List UInt16) : Prop :=
  ∀ c ∈ text.head?, isDigit c = false ∧ c ≠ 46 ∧ c ≠ 101 ∧ c ≠ 69

theorem takeWhile_digits {digits rest : List UInt16} (hdigits : ∀ c ∈ digits, isDigit c = true)
    (hrest : ∀ c ∈ rest.head?, isDigit c = false) :
    (digits ++ rest).takeWhile isDigit = digits ∧ (digits ++ rest).dropWhile isDigit = rest := by
  induction digits with
  | nil =>
    cases rest with
    | nil => exact ⟨rfl, rfl⟩
    | cons c rest =>
      have hc := hrest c rfl
      simp [hc]
  | cons c digits ih =>
    have hc := hdigits c List.mem_cons_self
    have htail := ih fun d hd => hdigits d (List.mem_cons_of_mem c hd)
    rw [List.cons_append, List.takeWhile_cons_of_pos hc, List.dropWhile_cons_of_pos hc, htail.1,
      htail.2]
    exact ⟨rfl, rfl⟩

/-- Digits are read up to what is no digit. -/
theorem readDigits_append {digits rest : List UInt16} (hne : digits ≠ [])
    (hdigits : ∀ c ∈ digits, isDigit c = true) (hrest : ∀ c ∈ rest.head?, isDigit c = false) :
    readDigits (digits ++ rest) = some (digits, rest) := by
  have hspan := takeWhile_digits hdigits hrest
  unfold readDigits
  rw [hspan.1, hspan.2]
  cases digits with
  | nil => exact absurd rfl hne
  | cons digit digits => rfl

theorem readInteger_whole (n : Numeral) {rest : List UInt16}
    (hrest : ∀ c ∈ rest.head?, isDigit c = false) :
    readInteger (n.whole ++ rest) = some (n.whole, rest) := by
  rcases n.wholeDigits with hzero | ⟨hhead, hne, hdigits⟩
  · rw [hzero, List.cons_append, List.nil_append, readInteger]
  · have hread := readDigits_append hne hdigits hrest
    cases hwhole : n.whole with
    | nil => exact absurd hwhole hne
    | cons c digits =>
      rw [hwhole] at hhead hread
      have hc : c ≠ 48 := fun hc => hhead (congrArg some hc)
      rw [List.cons_append] at hread ⊢
      rw [readInteger.eq_def]
      split
      · simp_all
      · exact hread

theorem readExponent_text (n : Numeral) {rest : List UInt16} (hrest : AfterNumber rest) :
    readExponent (n.exponentText ++ rest) = some (n.power, rest) := by
  unfold Numeral.exponentText Numeral.power
  cases hexponent : n.exponent with
  | none =>
    dsimp only
    rw [List.nil_append, readExponent.eq_def]
    split
    · exact absurd rfl (hrest _ rfl).2.2.1
    · exact absurd rfl (hrest _ rfl).2.2.2
    · rfl
  | some exponent =>
    obtain ⟨negative, digits⟩ := exponent
    have hdigits := n.exponentDigits _ hexponent
    have hread := readDigits_append hdigits.1 hdigits.2 fun c hc => (hrest c hc).1
    dsimp only
    rw [List.cons_append, List.cons_append, readExponent]
    cases negative
    · rw [if_neg Bool.false_ne_true, if_neg Bool.false_ne_true, readExponentDigits, hread]
      rfl
    · rw [if_pos rfl, if_pos rfl, readExponentDigits, hread]
      rfl

/-- What follows the fraction is no digit. -/
theorem exponentText_head (n : Numeral) {rest : List UInt16} (hrest : AfterNumber rest) :
    ∀ c ∈ (n.exponentText ++ rest).head?, isDigit c = false ∧ c ≠ 46 := by
  intro c hc
  unfold Numeral.exponentText at hc
  cases hexponent : n.exponent with
  | none =>
    rw [hexponent] at hc
    exact ⟨(hrest c hc).1, (hrest c hc).2.1⟩
  | some exponent =>
    rw [hexponent] at hc
    obtain rfl : (101 : UInt16) = c := Option.some.inj hc
    exact ⟨by decide, by decide⟩

theorem readFraction_text (n : Numeral) {rest : List UInt16}
    (hrest : ∀ c ∈ rest.head?, isDigit c = false ∧ c ≠ 46) :
    readFraction (n.fractionText ++ rest) = some (n.fraction, rest) := by
  unfold Numeral.fractionText
  cases hfraction : n.fraction with
  | nil =>
    dsimp only
    rw [List.nil_append, readFraction.eq_def]
    split
    · exact absurd rfl (hrest _ rfl).2
    · rfl
  | cons digit digits =>
    have hdigits := n.fractionDigits
    rw [hfraction] at hdigits
    exact readDigits_append (List.cons_ne_nil digit digits) hdigits fun c hc => (hrest c hc).1

/-- What follows the digits before the point is no digit. -/
theorem fractionText_head (n : Numeral) {rest : List UInt16}
    (hrest : ∀ c ∈ rest.head?, isDigit c = false) :
    ∀ c ∈ (n.fractionText ++ rest).head?, isDigit c = false := by
  intro c hc
  unfold Numeral.fractionText at hc
  cases hfraction : n.fraction with
  | nil =>
    rw [hfraction] at hc
    exact hrest c hc
  | cons digit digits =>
    rw [hfraction] at hc
    obtain rfl : (46 : UInt16) = c := Option.some.inj hc
    decide

/-- A number that was spelled out is read. -/
theorem readNumber_text (n : Numeral) {rest : List UInt16} (hrest : AfterNumber rest) :
    readNumber (n.text ++ rest) = some (n.decimal, rest) := by
  have hexponent := readExponent_text n hrest
  have hhead := exponentText_head n hrest
  have hfraction := readFraction_text n hhead
  have hwhole := readInteger_whole n (fractionText_head n fun c hc => (hhead c hc).1)
  have hread : readMagnitude false (n.text ++ rest) = some (n.decimal, rest) := by
    unfold readMagnitude Numeral.text
    rw [List.append_assoc, List.append_assoc, hwhole, Option.bind_some]
    dsimp only
    rw [hfraction, Option.bind_some]
    dsimp only
    rw [hexponent, Option.map_some]
    rfl
  have hsign : ∀ tail, n.text ++ rest ≠ 45 :: tail := by
    intro tail htail
    unfold Numeral.text at htail
    rcases n.wholeDigits with hzero | ⟨-, hne, hdigits⟩
    · rw [hzero] at htail
      exact absurd (List.cons.inj htail).1 (by decide)
    · cases hw : n.whole with
      | nil => exact hne hw
      | cons c digits =>
        rw [hw] at htail hdigits
        have hc := hdigits c List.mem_cons_self
        rw [(List.cons.inj htail).1] at hc
        exact absurd hc (by decide)
  rw [readNumber.eq_def]
  split
  · rename_i tail heq
    exact absurd heq (hsign tail)
  · exact hread

/-! ### Flat objects -/

/-- A value that holds no others. -/
inductive Scalar where
  | string (s : List UInt16)
  | number (n : Numeral)

namespace Scalar

def value : Scalar → Value
  | string s => .string s
  | number n => .number n.decimal

def text : Scalar → List UInt16
  | string s => quoted s
  | number n => n.text

end Scalar

/-- The members of an object, and its end. -/
def membersText : List (List UInt16 × Scalar) → List UInt16
  | [] => [125]
  | [m] => quoted m.1 ++ 58 :: (m.2.text ++ [125])
  | m :: next :: rest => quoted m.1 ++ 58 :: (m.2.text ++ 44 :: membersText (next :: rest))

/-- An object without others inside. -/
def objectText (members : List (List UInt16 × Scalar)) : List UInt16 := 123 :: membersText members

/-- The members as values. -/
def values (members : List (List UInt16 × Scalar)) : List (List UInt16 × Value) :=
  members.map fun m => (m.1, m.2.value)

theorem skipBlanks_of_head {c : UInt16} {text : List UInt16} (h : isBlank c = false) :
    skipBlanks (c :: text) = c :: text := by
  unfold skipBlanks
  rw [List.dropWhile_cons_of_neg]
  simp [h]

/-- A number starts with a digit. -/
theorem Numeral.text_head (n : Numeral) : ∃ c rest, n.text = c :: rest ∧ isDigit c = true := by
  unfold Numeral.text
  rcases n.wholeDigits with hzero | ⟨-, hne, hdigits⟩
  · rw [hzero]
    exact ⟨48, _, rfl, by decide⟩
  · cases hw : n.whole with
    | nil => exact absurd hw hne
    | cons c digits =>
      rw [hw] at hdigits
      exact ⟨c, _, rfl, hdigits c List.mem_cons_self⟩

/-- A digit is no blank and starts nothing but a number. -/
theorem isDigit_toNat {c : UInt16} (h : isDigit c = true) : 48 ≤ c.toNat ∧ c.toNat ≤ 57 := by
  unfold isDigit at h
  rw [Bool.and_eq_true, decide_eq_true_eq, decide_eq_true_eq, UInt16.le_iff_toNat_le,
    UInt16.le_iff_toNat_le] at h
  exact h

/-- A scalar that was written is read. -/
theorem readValue_scalar (scalar : Scalar) (fuel : ℕ) {rest : List UInt16}
    (hrest : AfterNumber rest) :
    readValue (fuel + 1) (scalar.text ++ rest) = some (scalar.value, rest) := by
  cases scalar with
  | string s =>
    have hread := readString_escaped s rest
    have htext : (Scalar.string s).text ++ rest = 34 :: (escaped s ++ 34 :: rest) := by
      show quoted s ++ rest = _
      unfold quoted
      rw [List.cons_append, List.cons_append, List.append_assoc, List.singleton_append]
    rw [htext]
    show (readString (escaped s ++ 34 :: rest)).map _ = _
    rw [hread]
    rfl
  | number n =>
    have hread := readNumber_text n hrest
    have hhead := n.text_head
    obtain ⟨c, tail, htext, hdigit⟩ := hhead
    have hc := isDigit_toNat hdigit
    have hne : ∀ k : UInt16, k.toNat < 48 ∨ 57 < k.toNat → c ≠ k := by
      intro k hk heq
      rw [heq] at hc
      omega
    have hblank : isBlank c = false := by
      unfold isBlank
      simp [hne 9 (by decide), hne 10 (by decide), hne 13 (by decide), hne 32 (by decide)]
    have hwhole : (Scalar.number n).text ++ rest = c :: (tail ++ rest) := by
      show n.text ++ rest = _
      rw [htext, List.cons_append]
    rw [htext, List.cons_append] at hread
    rw [readValue, hwhole, skipBlanks_of_head hblank]
    -- none of the other values starts with a digit
    split
    · exact absurd (List.cons.inj ‹_›).1 (hne 34 (by decide))
    · exact absurd (List.cons.inj ‹_›).1 (hne 91 (by decide))
    · exact absurd (List.cons.inj ‹_›).1 (hne 123 (by decide))
    · exact absurd (List.cons.inj ‹_›).1 (hne 110 (by decide))
    · exact absurd (List.cons.inj ‹_›).1 (hne 116 (by decide))
    · exact absurd (List.cons.inj ‹_›).1 (hne 102 (by decide))
    · rw [hread]
      rfl

theorem afterNumber_comma (rest : List UInt16) : AfterNumber (44 :: rest) := by
  intro c hc
  obtain rfl : (44 : UInt16) = c := Option.some.inj hc
  decide

theorem afterNumber_brace (rest : List UInt16) : AfterNumber (125 :: rest) := by
  intro c hc
  obtain rfl : (125 : UInt16) = c := Option.some.inj hc
  decide

/-- A member that was written is read. -/
theorem readMember_text (m : List UInt16 × Scalar) (fuel : ℕ) {rest : List UInt16}
    (hrest : AfterNumber rest) :
    readMember (readValue (fuel + 1)) (quoted m.1 ++ 58 :: (m.2.text ++ rest)) =
      some ((m.1, m.2.value), rest) := by
  have hname := readString_escaped m.1 (58 :: (m.2.text ++ rest))
  have hvalue := readValue_scalar m.2 fuel hrest
  unfold quoted
  rw [List.cons_append, List.cons_append, List.append_assoc, List.singleton_append]
  show (readString (escaped m.1 ++ 34 :: 58 :: (m.2.text ++ rest))).bind _ = _
  rw [hname, Option.bind_some]
  show (readValue (fuel + 1) (m.2.text ++ rest)).map _ = _
  rw [hvalue]
  rfl

/-- The members that were written are read, one after the other. -/
theorem readMembers_text (fuel : ℕ) (rest : List UInt16) :
    ∀ (members : List (List UInt16 × Scalar)) (bound : ℕ), members ≠ [] →
      members.length ≤ bound →
      readMembers (readValue (fuel + 1)) bound (membersText members ++ rest) =
        some (values members, rest)
  | [], _, hne, _ => absurd rfl hne
  | _ :: _, 0, _, hbound => absurd hbound (Nat.not_succ_le_zero _)
  | [m], bound + 1, _, _ => by
    have hread := readMember_text m fuel (afterNumber_brace rest)
    unfold membersText readMembers
    rw [List.append_assoc, List.cons_append, List.append_assoc, List.singleton_append, hread,
      Option.bind_some]
    dsimp only
    rw [skipBlanks_of_head (by decide)]
    rfl
  | m :: next :: more, bound + 1, _, hbound => by
    have hread := readMember_text m fuel (afterNumber_comma (membersText (next :: more) ++ rest))
    have ih := readMembers_text fuel rest (next :: more) bound (List.cons_ne_nil next more)
      (Nat.le_of_succ_le_succ hbound)
    unfold membersText readMembers
    rw [List.append_assoc, List.cons_append, List.append_assoc, List.cons_append, hread,
      Option.bind_some]
    dsimp only
    show (readMembers (readValue (fuel + 1)) bound (membersText (next :: more) ++ rest)).map _ = _
    rw [ih]
    rfl

/-- The text has a unit for each member. -/
theorem length_le_membersText (members : List (List UInt16 × Scalar)) :
    members.length ≤ (membersText members).length := by
  induction members using membersText.induct with
  | case1 => exact Nat.zero_le _
  | case2 m =>
    unfold membersText
    simp only [List.length_append, List.length_cons, List.length_nil]
    omega
  | case3 m next rest ih =>
    unfold membersText
    simp only [List.length_append, List.length_cons] at ih ⊢
    omega

theorem membersText_head {members : List (List UInt16 × Scalar)} (hne : members ≠ []) :
    ∃ rest, membersText members = 34 :: rest := by
  cases members with
  | nil => exact absurd rfl hne
  | cons m rest =>
    cases rest with
    | nil => exact ⟨_, rfl⟩
    | cons next more => exact ⟨_, rfl⟩

/-- Blanks in front of a text change nothing. -/
theorem skipBlanks_append {blanks : List UInt16} (h : ∀ c ∈ blanks, isBlank c = true)
    (text : List UInt16) : skipBlanks (blanks ++ text) = skipBlanks text := by
  unfold skipBlanks
  induction blanks with
  | nil => rfl
  | cons c rest ih =>
    rw [List.cons_append, List.dropWhile_cons_of_pos (h c List.mem_cons_self)]
    exact ih fun d hd => h d (List.mem_cons_of_mem c hd)

/-- A flat object is read with any number of blanks in front of it. -/
theorem parse_blanks_objectText {blanks : List UInt16} (h : ∀ c ∈ blanks, isBlank c = true)
    (members : List (List UInt16 × Scalar)) :
    parse (blanks ++ objectText members) = some (.object (values members)) := by
  have hblanks : skipBlanks (blanks ++ objectText members) = objectText members := by
    rw [skipBlanks_append h]
    unfold objectText
    rw [skipBlanks_of_head (by decide)]
  obtain ⟨fuel, hfuel⟩ : ∃ fuel, (blanks ++ objectText members).length = fuel + 1 :=
    ⟨blanks.length + (membersText members).length, by
      unfold objectText
      rw [List.length_append, List.length_cons]
      omega⟩
  unfold parse
  rw [hfuel, readValue, hblanks]
  unfold objectText
  by_cases hne : members = []
  · rw [hne]
    rfl
  · obtain ⟨tail, htail⟩ := membersText_head hne
    have hread := readMembers_text fuel [] members (membersText members).length hne
      (length_le_membersText members)
    rw [List.append_nil] at hread
    rw [htail] at hread ⊢
    show ((readMembers (readValue (fuel + 1)) (34 :: tail).length (34 :: tail)).map _).bind _ = _
    rw [hread]
    rfl

/-- **A flat object that was written is read**, with just its members. -/
theorem parse_objectText (members : List (List UInt16 × Scalar)) :
    parse (objectText members) = some (.object (values members)) :=
  parse_blanks_objectText (fun _ hc => absurd hc List.not_mem_nil) members

end JsonText
