/-
Texts that can be cut off the front.

A writer is prefix-free when what it wrote can be taken off the front of any text
in one way only: from the text the value comes back, and what follows it. Writers
with this property compose, one after the other, so a document put together from
them determines all its parts.

The writers here are those of JSON: a string between quotes, with the escapes of
`JSON.stringify`, and an array. A string is a list of UTF-16 code units. A half of
a surrogate pair that stands alone is written as an escape, so the same unit is
written in two ways, depending on its neighbour. What counts for the reader is
that every word that is written spells one unit.
-/
import Mathlib.Data.UInt
import Mathlib.Tactic.Common
import Mathlib.Tactic.IntervalCases

set_option autoImplicit false

namespace JsonText

section prefixFree

variable {α β γ : Type}

/-- What `f` writes can be split off the front of any longer text. -/
def PrefixFree (f : α → List γ) : Prop :=
  ∀ a b s t, f a ++ s = f b ++ t → a = b ∧ s = t

theorem PrefixFree.injective {f : α → List γ} (h : PrefixFree f) : Function.Injective f := by
  intro a b hab
  have hnil : f a ++ [] = f b ++ [] := by rw [hab]
  exact (h a b [] [] hnil).1

/-- A writer of the values of an injective function. -/
theorem PrefixFree.comp {f : β → List γ} (h : PrefixFree f) {g : α → β}
    (hg : Function.Injective g) : PrefixFree fun a => f (g a) := by
  intro a b s t hst
  have hboth := h (g a) (g b) s t hst
  exact ⟨hg hboth.1, hboth.2⟩

/-- A fixed text, then a value. -/
theorem PrefixFree.after (lead : List γ) {f : α → List γ} (h : PrefixFree f) :
    PrefixFree fun a => lead ++ f a := by
  intro a b s t hst
  rw [List.append_assoc, List.append_assoc] at hst
  exact h a b s t (List.append_cancel_left hst)

/-- A value, then a fixed text. -/
theorem PrefixFree.before {f : α → List γ} (h : PrefixFree f) (tail : List γ) :
    PrefixFree fun a => f a ++ tail := by
  intro a b s t hst
  rw [List.append_assoc, List.append_assoc] at hst
  have hboth := h a b _ _ hst
  exact ⟨hboth.1, List.append_cancel_left hboth.2⟩

/-- Two values, one after the other. -/
theorem PrefixFree.pair {f : α → List γ} {g : β → List γ} (hf : PrefixFree f)
    (hg : PrefixFree g) : PrefixFree fun p : α × β => f p.1 ++ g p.2 := by
  intro p q s t hst
  rw [List.append_assoc, List.append_assoc] at hst
  have hfirst := hf p.1 q.1 _ _ hst
  have hsecond := hg p.2 q.2 s t hfirst.2
  exact ⟨Prod.ext hfirst.1 hsecond.1, hsecond.2⟩

/-- An optional value, when no value starts as its absence does. -/
theorem PrefixFree.option {f : α → List γ} (hf : PrefixFree f) {absent : List γ}
    (happart : ∀ a s t, f a ++ s ≠ absent ++ t) :
    PrefixFree fun value : Option α => (value.map f).getD absent := by
  intro a b s t hst
  cases a with
  | none =>
    cases b with
    | none => exact ⟨rfl, List.append_cancel_left hst⟩
    | some b => exact absurd hst.symm (happart b t s)
  | some a =>
    cases b with
    | none => exact absurd hst (happart a s t)
    | some b =>
      have hboth := hf a b s t hst
      exact ⟨congrArg some hboth.1, hboth.2⟩

end prefixFree

/-! ## Strings -/

/-- A hexadecimal digit, in lower case. -/
def hexDigit (n : ℕ) : UInt16 := if n < 10 then (48 + n).toUInt16 else (87 + n).toUInt16

/-- The four hexadecimal digits of a code unit. -/
def hexDigits (c : UInt16) : List UInt16 :=
  [hexDigit (c.toNat / 4096), hexDigit (c.toNat / 256 % 16), hexDigit (c.toNat / 16 % 16),
    hexDigit (c.toNat % 16)]

/-- The letter of a short escape. -/
def shortEscape (c : UInt16) : Option UInt16 :=
  if c = 8 then some 98 else if c = 9 then some 116 else if c = 10 then some 110
  else if c = 12 then some 102 else if c = 13 then some 114
  else if c = 34 then some 34 else if c = 92 then some 92 else none

/-- How a unit that is no half of a pair is written. -/
def unitText (c : UInt16) : List UInt16 :=
  match shortEscape c with
  | some letter => [92, letter]
  | none => if c < 32 then [92, 117] ++ hexDigits c else [c]

def isHigh (c : UInt16) : Bool := 0xd800 ≤ c && c ≤ 0xdbff
def isLow (c : UInt16) : Bool := 0xdc00 ≤ c && c ≤ 0xdfff

/-- What stands between the quotes. -/
def escaped : List UInt16 → List UInt16
  | [] => []
  | [c] => if isHigh c || isLow c then [92, 117] ++ hexDigits c else unitText c
  | c :: d :: rest =>
    if isHigh c && isLow d then c :: d :: escaped rest
    else if isHigh c || isLow c then [92, 117] ++ hexDigits c ++ escaped (d :: rest)
    else unitText c ++ escaped (d :: rest)

/-- A string in quotes. -/
def quoted (s : List UInt16) : List UInt16 := 34 :: escaped s ++ [34]

/-! ### Words -/

/-- The word spells the unit: as it is, by a short escape, or by its digits. -/
inductive Word (c : UInt16) : List UInt16 → Prop
  | plain (hquote : c ≠ 34) (hslash : c ≠ 92) : Word c [c]
  | short {letter : UInt16} (h : shortEscape c = some letter) : Word c [92, letter]
  | digits : Word c ([92, 117] ++ hexDigits c)

theorem hexDigit_injective {n m : ℕ} (hn : n < 16) (hm : m < 16) (h : hexDigit n = hexDigit m) :
    n = m := by
  interval_cases n <;> interval_cases m <;> first | rfl | exact absurd h (by decide)

theorem hexDigits_prefixFree : PrefixFree hexDigits := by
  intro c d s t h
  have hc := c.toNat_lt
  have hd := d.toNat_lt
  unfold hexDigits at h
  simp only [List.cons_append, List.nil_append, List.cons.injEq] at h
  have h₁ := hexDigit_injective (by omega) (by omega) h.1
  have h₂ := hexDigit_injective (by omega) (by omega) h.2.1
  have h₃ := hexDigit_injective (by omega) (by omega) h.2.2.1
  have h₄ := hexDigit_injective (by omega) (by omega) h.2.2.2.1
  exact ⟨UInt16.toNat.inj (by omega), h.2.2.2.2⟩

/-- The units that have a short escape, and its letter. -/
theorem shortEscape_some {c letter : UInt16} (h : shortEscape c = some letter) :
    (c, letter) ∈ [((8 : UInt16), (98 : UInt16)), (9, 116), (10, 110), (12, 102), (13, 114),
      (34, 34), (92, 92)] := by
  unfold shortEscape at h
  split_ifs at h <;> simp_all

theorem shortEscape_injective {c d letter : UInt16} (hc : shortEscape c = some letter)
    (hd : shortEscape d = some letter) : c = d := by
  have hc' := shortEscape_some hc
  have hd' := shortEscape_some hd
  simp only [List.mem_cons, Prod.mk.injEq, List.not_mem_nil, or_false] at hc' hd'
  rcases hc' with h | h | h | h | h | h | h <;> rcases hd' with h' | h' | h' | h' | h' | h' | h' <;>
    first
    | exact h.1.trans h'.1.symm
    | exact absurd (h.2.symm.trans h'.2) (by decide)

theorem shortEscape_ne_u {c : UInt16} : shortEscape c ≠ some 117 := by
  intro h
  have := shortEscape_some h
  revert this
  simp

/-- A word is no quote, and nothing else starts as it does. -/
theorem Word.unique {c d : UInt16} {w v s t : List UInt16} (hw : Word c w) (hv : Word d v)
    (h : w ++ s = v ++ t) : c = d ∧ s = t := by
  cases hw with
  | plain hquote hslash =>
    cases hv with
    | plain _ _ => exact ⟨(List.cons.inj h).1, (List.cons.inj h).2⟩
    | short _ => exact absurd (List.cons.inj h).1 hslash
    | digits => exact absurd (List.cons.inj h).1 hslash
  | short hc =>
    cases hv with
    | plain _ hslash => exact absurd (List.cons.inj h).1.symm hslash
    | short hd =>
      have hletter := List.cons.inj (List.cons.inj h).2
      exact ⟨shortEscape_injective hc (hletter.1 ▸ hd), hletter.2⟩
    | digits =>
      have hletter := List.cons.inj (List.cons.inj h).2
      exact absurd (hletter.1 ▸ hc) shortEscape_ne_u
  | digits =>
    cases hv with
    | plain _ hslash => exact absurd (List.cons.inj h).1.symm hslash
    | short hd =>
      have hletter := List.cons.inj (List.cons.inj h).2
      exact absurd (hletter.1 ▸ hd) shortEscape_ne_u
    | digits =>
      have hrest := (List.cons.inj (List.cons.inj h).2).2
      exact hexDigits_prefixFree c d s t hrest

theorem Word.ne_quote {c : UInt16} {w s t : List UInt16} (hw : Word c w) :
    w ++ s ≠ 34 :: t := by
  intro h
  cases hw with
  | plain hquote _ => exact hquote (List.cons.inj h).1
  | short _ => exact absurd (List.cons.inj h).1 (by decide)
  | digits => exact absurd (List.cons.inj h).1 (by decide)

/-- The text is made of words that spell the string. -/
inductive Spells : List UInt16 → List UInt16 → Prop
  | nil : Spells [] []
  | cons {c : UInt16} {w s text : List UInt16} (hw : Word c w) (hs : Spells s text) :
      Spells (c :: s) (w ++ text)

/-- Two spellings that are followed by a quote are of one string. -/
theorem Spells.unique {s s' text text' r r' : List UInt16} (hs : Spells s text)
    (hs' : Spells s' text') (h : text ++ 34 :: r = text' ++ 34 :: r') : s = s' ∧ r = r' := by
  induction hs generalizing s' text' with
  | nil =>
    cases hs' with
    | nil => exact ⟨rfl, (List.cons.inj h).2⟩
    | cons hw' _ =>
      rw [List.append_assoc] at h
      exact absurd h.symm hw'.ne_quote
  | cons hw _ ih =>
    cases hs' with
    | nil =>
      rw [List.append_assoc] at h
      exact absurd h hw.ne_quote
    | cons hw' hs'' =>
      rw [List.append_assoc, List.append_assoc] at h
      have hhead := hw.unique hw' h
      have htail := ih hs'' hhead.2
      exact ⟨by rw [hhead.1, htail.1], htail.2⟩

/-- The units that are written as they are. -/
theorem unitText_word (c : UInt16) : Word c (unitText c) := by
  unfold unitText
  split
  · rename_i letter hletter
    exact .short hletter
  · rename_i hnone
    split
    · exact .digits
    · -- a quote and a backslash have short escapes
      apply Word.plain
      · intro hc
        rw [hc] at hnone
        exact absurd hnone (by decide)
      · intro hc
        rw [hc] at hnone
        exact absurd hnone (by decide)

/-- Half of a pair is neither a quote nor a backslash. -/
theorem plain_of_half {c : UInt16} (h : isHigh c = true ∨ isLow c = true) : Word c [c] := by
  apply Word.plain
  · intro hc
    rw [hc] at h
    exact absurd h (by decide)
  · intro hc
    rw [hc] at h
    exact absurd h (by decide)

theorem spells_escaped (s : List UInt16) : Spells s (escaped s) := by
  induction s using escaped.induct with
  | case1 => exact .nil
  | case2 c hhalf =>
    unfold escaped
    rw [if_pos hhalf]
    have hword : Spells [c] (([92, 117] ++ hexDigits c) ++ []) := .cons .digits .nil
    rwa [List.append_nil] at hword
  | case3 c hhalf =>
    unfold escaped
    rw [if_neg hhalf, ← List.append_nil (unitText c)]
    exact .cons (unitText_word c) .nil
  | case4 c d rest hpair ih =>
    unfold escaped
    rw [if_pos hpair]
    rw [Bool.and_eq_true] at hpair
    exact .cons (plain_of_half (.inl hpair.1)) (.cons (plain_of_half (.inr hpair.2)) ih)
  | case5 c d rest hpair hhalf ih =>
    rw [escaped, if_neg hpair, if_pos hhalf]
    exact .cons .digits ih
  | case6 c d rest hpair hhalf ih =>
    rw [escaped, if_neg hpair, if_neg hhalf]
    exact .cons (unitText_word c) ih

/-- A string in quotes can be taken off the front of any text. -/
theorem quoted_prefixFree : PrefixFree quoted := by
  intro a b s t h
  unfold quoted at h
  simp only [List.cons_append, List.append_assoc, List.nil_append] at h
  exact (spells_escaped a).unique (spells_escaped b) (List.cons.inj h).2

/-! ## Arrays -/

section arrays

variable {α : Type}

/-- The elements of an array, and its end. -/
def elements (f : α → List UInt16) : List α → List UInt16
  | [] => [93]
  | [x] => f x ++ [93]
  | x :: y :: rest => f x ++ 44 :: elements f (y :: rest)

/-- An array. -/
def array (f : α → List UInt16) (xs : List α) : List UInt16 := 91 :: elements f xs

theorem elements_cons (f : α → List UInt16) (x : α) (xs : List α) :
    ∃ mark tail, elements f (x :: xs) = f x ++ mark :: tail ∧
      (xs = [] ∧ mark = 93 ∧ tail = [] ∨ xs ≠ [] ∧ mark = 44 ∧ tail = elements f xs) := by
  cases xs with
  | nil => exact ⟨93, [], rfl, .inl ⟨rfl, rfl, rfl⟩⟩
  | cons y rest => exact ⟨44, elements f (y :: rest), rfl, .inr ⟨by simp, rfl, rfl⟩⟩

/-- Arrays are prefix-free when their elements are and none starts as an array ends. -/
theorem array_prefixFree {f : α → List UInt16} (hf : PrefixFree f)
    (hopen : ∀ a s t, f a ++ s ≠ 93 :: t) : PrefixFree (array f) := by
  intro xs ys s t h
  unfold array at h
  replace h : elements f xs ++ s = elements f ys ++ t := (List.cons.inj h).2
  induction xs generalizing ys with
  | nil =>
    cases ys with
    | nil => exact ⟨rfl, (List.cons.inj h).2⟩
    | cons y ys =>
      obtain ⟨mark, tail, heq, -⟩ := elements_cons f y ys
      rw [heq, List.append_assoc] at h
      exact absurd h.symm (hopen y _ _)
  | cons x xs ih =>
    obtain ⟨mark, tail, heq, hmark⟩ := elements_cons f x xs
    rw [heq, List.append_assoc] at h
    cases ys with
    | nil => exact absurd h (hopen x _ _)
    | cons y ys =>
      obtain ⟨mark', tail', heq', hmark'⟩ := elements_cons f y ys
      rw [heq', List.append_assoc] at h
      have hhead := hf x y _ _ h
      have hsame := List.cons.inj hhead.2
      -- the mark after the element says whether the array goes on
      rcases hmark with ⟨hxs, hm, htail⟩ | ⟨hxs, hm, htail⟩ <;>
        rcases hmark' with ⟨hys, hm', htail'⟩ | ⟨hys, hm', htail'⟩
      · rw [hxs, hys, hhead.1]
        rw [htail, htail'] at hsame
        exact ⟨rfl, hsame.2⟩
      · rw [hm, hm'] at hsame
        exact absurd hsame.1 (by decide)
      · rw [hm, hm'] at hsame
        exact absurd hsame.1 (by decide)
      · rw [htail, htail'] at hsame
        have hrest := ih ys hsame.2
        rw [hhead.1, hrest.1]
        exact ⟨rfl, hrest.2⟩

theorem quoted_ne_bracket (a s t : List UInt16) : quoted a ++ s ≠ 93 :: t := by
  intro h
  exact absurd (List.cons.inj h).1 (by decide)

end arrays

end JsonText
