/-
What `stripAnsi` leaves of escape sequences.

A sequence is left when an escape of the raw text and the rest of the sequence stood apart, with
sequences of other kinds between its units, and these have been taken out after the pattern of the
sequence had been looked for. The text that is left is traced back through the four patterns, and the
other way round every such text is followed forward.
-/
import Autopilot.StripAnsi

set_option autoImplicit false

namespace Autopilot

namespace Ansi

open Erasure

/-! ## What stands behind an escape -/

/-- What makes an escape in front of it a sequence that is not a command. -/
def IsTail (tail : JsString) : Prop := CsiTail tail ∨ ∃ d, isSecond d = true ∧ tail = [d]

/-- `[\x20-\x7e]`. -/
def isPrintable (c : UInt16) : Bool := 0x20 ≤ c && c ≤ 0x7e

theorem isPrintable_iff (c : UInt16) :
    isPrintable c = true ↔ 0x20 ≤ c.toNat ∧ c.toNat ≤ 0x7e := by
  unfold isPrintable
  rw [Bool.and_eq_true, decide_eq_true_eq, decide_eq_true_eq, UInt16.le_iff_toNat_le,
    UInt16.le_iff_toNat_le]
  rfl

theorem isFinal_iff (c : UInt16) : isFinal c = true ↔ 0x40 ≤ c.toNat ∧ c.toNat ≤ 0x7e := by
  unfold isFinal
  rw [Bool.and_eq_true, decide_eq_true_eq, decide_eq_true_eq, UInt16.le_iff_toNat_le,
    UInt16.le_iff_toNat_le]
  rfl

theorem isSecond_iff (c : UInt16) :
    isSecond c = true ↔ 64 ≤ c.toNat ∧ c.toNat ≤ 90 ∨ 92 ≤ c.toNat ∧ c.toNat ≤ 95 := by
  unfold isSecond
  simp only [Bool.or_eq_true, Bool.and_eq_true, decide_eq_true_eq, UInt16.le_iff_toNat_le]
  rfl

theorem isFinal_of_isSecond {c : UInt16} (h : isSecond c = true) : isFinal c = true := by
  have hc := (isSecond_iff c).1 h
  rw [isFinal_iff]
  omega

theorem isPrintable_of_isFinal {c : UInt16} (h : isFinal c = true) : isPrintable c = true := by
  have hc := (isFinal_iff c).1 h
  rw [isPrintable_iff]
  omega

theorem isPrintable_of_isParameter {c : UInt16} (h : isParameter c = true) :
    isPrintable c = true := by
  unfold isParameter at h
  simp only [Bool.and_eq_true, decide_eq_true_eq, UInt16.le_iff_toNat_le] at h
  have h30 : (0x30 : UInt16).toNat = 0x30 := rfl
  have h3f : (0x3f : UInt16).toNat = 0x3f := rfl
  rw [isPrintable_iff]
  omega

theorem isPrintable_of_isIntermediate {c : UInt16} (h : isIntermediate c = true) :
    isPrintable c = true := by
  unfold isIntermediate at h
  simp only [Bool.and_eq_true, decide_eq_true_eq, UInt16.le_iff_toNat_le] at h
  have h20 : (0x20 : UInt16).toNat = 0x20 := rfl
  have h2f : (0x2f : UInt16).toNat = 0x2f := rfl
  rw [isPrintable_iff]
  omega

/-- A unit that is seen is no escape and no end of a line. -/
theorem ne_of_isPrintable {c : UInt16} (h : isPrintable c = true) : c ≠ esc ∧ c ≠ 13 ∧ c ≠ 10 := by
  refine ⟨?_, ?_, ?_⟩ <;> (rintro rfl; exact absurd h (by decide))

theorem isInLine_of_isPrintable {c : UInt16} (h : isPrintable c = true) : isInLine c = true := by
  obtain ⟨-, hcr, hlf⟩ := ne_of_isPrintable h
  unfold isInLine
  rw [Bool.and_eq_true, decide_eq_true_eq, decide_eq_true_eq]
  exact ⟨hcr, hlf⟩

namespace IsTail

variable {tail : JsString} (h : IsTail tail)

include h

theorem isPrintable : ∀ c ∈ tail, isPrintable c = true := by
  intro c hc
  rcases h with ⟨parameters, intermediates, last, hp, hi, hlast, rfl⟩ | ⟨d, hd, rfl⟩
  · rcases List.mem_cons.1 hc with rfl | hc
    · rfl
    rcases List.mem_append.1 hc with hc | hc
    · exact isPrintable_of_isParameter (hp c hc)
    rcases List.mem_append.1 hc with hc | hc
    · exact isPrintable_of_isIntermediate (hi c hc)
    · rw [List.mem_singleton.1 hc]
      exact isPrintable_of_isFinal hlast
  · rw [List.mem_singleton.1 hc]
    exact isPrintable_of_isFinal (isFinal_of_isSecond hd)

/-- It ends in a unit with which a control sequence may end. -/
theorem exists_last : ∃ init last, tail = init ++ [last] ∧ isFinal last = true := by
  rcases h with ⟨parameters, intermediates, last, -, -, hlast, rfl⟩ | ⟨d, hd, rfl⟩
  · exact ⟨91 :: (parameters ++ intermediates), last, by simp, hlast⟩
  · exact ⟨[], d, rfl, isFinal_of_isSecond hd⟩

theorem ne_nil : tail ≠ [] := by
  obtain ⟨init, last, rfl, -⟩ := h.exists_last
  exact List.append_ne_nil_of_right_ne_nil init (List.cons_ne_nil last [])

/-- The bracket alone is none. -/
theorem ne_bracket : tail ≠ [91] := by
  rintro rfl
  rcases h with ⟨parameters, intermediates, last, -, -, -, htail⟩ | ⟨d, hd, htail⟩
  · exact absurd (congrArg List.length htail) (by simp)
  · rw [← List.singleton_inj.1 htail] at hd
    exact absurd hd (by decide)

end IsTail

/-- Where no carriage return is, every pattern that finds something finds an escape with its rest. -/
theorem hasRecognised_iff {text : JsString} (hcr : 13 ∉ text) :
    HasRecognised text ↔ ∃ tail, IsTail tail ∧ esc :: tail <:+: text := by
  constructor
  · rintro ⟨g, hin, hg⟩
    have hcommand : ∀ body, g = esc :: 93 :: body → ∃ tail, IsTail tail ∧ esc :: tail <:+: text := by
      rintro body rfl
      exact ⟨[93], .inr ⟨93, rfl, rfl⟩, (List.prefix_append [esc, 93] body).isInfix.trans hin⟩
    rcases hg with ⟨tail, htail, rfl⟩ | ⟨body, -, hg | hg⟩ | ⟨body, -, hg⟩ | ⟨d, hd, rfl⟩ | rfl | rfl
    · exact ⟨tail, .inl htail, hin⟩
    · exact hcommand _ hg
    · exact hcommand _ hg
    · exact hcommand _ hg
    · exact ⟨[d], .inr ⟨d, hd, rfl⟩, hin⟩
    · exact absurd (hin.subset List.mem_cons_self) hcr
    · exact absurd (hin.subset List.mem_cons_self) hcr
  · rintro ⟨tail, htail | ⟨d, hd, rfl⟩, hin⟩
    · exact ⟨_, hin, .inl ⟨tail, htail, rfl⟩⟩
    · exact ⟨_, hin, .inr (.inr (.inr (.inl ⟨d, hd, rfl⟩)))⟩

/-! ## The ends of lines and the two ends of the text -/

section lines

variable {piece : JsString}

theorem starts_of_crlf (hpiece : ∀ c ∈ piece, c ≠ 10) {text more : JsString}
    (h : crlf text = piece ++ more) : piece <+: text := by
  induction piece generalizing text with
  | nil => exact List.nil_prefix
  | cons c piece ih =>
    cases text with
    | nil => cases h
    | cons d rest =>
      rw [crlf] at h
      split at h
      · -- behind a carriage return that goes, the line feed is what is written
        rename_i hdrop
        obtain ⟨tail, rfl⟩ := List.head?_eq_some_iff.1 hdrop.2
        rw [crlf, if_neg fun hc => absurd hc.1 (by decide)] at h
        exact absurd (List.cons.inj h).1.symm (hpiece c List.mem_cons_self)
      · obtain ⟨rfl, hrest⟩ := List.cons.inj h
        exact List.cons_prefix_cons.2
          ⟨rfl, ih (fun c hc => hpiece c (List.mem_cons_of_mem _ hc)) hrest⟩

theorem infix_of_crlf (hpiece : ∀ c ∈ piece, c ≠ 10) {text before more : JsString}
    (h : crlf text = before ++ (piece ++ more)) : piece <:+: text := by
  induction text generalizing before with
  | nil =>
    obtain ⟨-, hrest⟩ := List.append_eq_nil_iff.1 h.symm
    rw [(List.append_eq_nil_iff.1 hrest).1]
  | cons d rest ih =>
    cases before with
    | nil => exact (starts_of_crlf hpiece h).isInfix
    | cons e before =>
      rw [crlf] at h
      split at h
      · have hrest : crlf rest = (e :: before) ++ (piece ++ more) := h
        exact (ih hrest).trans (List.suffix_cons _ _).isInfix
      · exact (ih (List.cons.inj h).2).trans (List.suffix_cons _ _).isInfix

theorem crlf_append (hpiece : ∀ c ∈ piece, c ≠ 13) (text : JsString) :
    crlf (piece ++ text) = piece ++ crlf text := by
  induction piece with
  | nil => rfl
  | cons c piece ih =>
    rw [List.cons_append, crlf, if_neg fun hc => hpiece c List.mem_cons_self hc.1,
      ih fun c hc => hpiece c (List.mem_cons_of_mem _ hc), List.cons_append]

theorem suffix_crlf (before text : JsString) : crlf text <:+ crlf (before ++ text) := by
  induction before with
  | nil => exact List.suffix_refl _
  | cons d before ih =>
    rw [List.cons_append]
    conv_rhs => rw [crlf]
    split
    · exact ih
    · exact ih.trans (List.suffix_cons _ _)

theorem infix_crlf_iff (hpiece : ∀ c ∈ piece, c ≠ 13 ∧ c ≠ 10) (text : JsString) :
    piece <:+: crlf text ↔ piece <:+: text := by
  constructor
  · rintro ⟨before, behind, h⟩
    rw [List.append_assoc] at h
    exact infix_of_crlf (fun c hc => (hpiece c hc).2) h.symm
  · rintro ⟨before, behind, rfl⟩
    have hsuffix := suffix_crlf before (piece ++ behind)
    rw [crlf_append fun c hc => (hpiece c hc).1] at hsuffix
    rw [List.append_assoc]
    exact (List.prefix_append piece _).isInfix.trans hsuffix.isInfix

theorem infix_cr_iff (hpiece : ∀ c ∈ piece, c ≠ 13 ∧ c ≠ 10) (text : JsString) :
    piece <:+: cr text ↔ piece <:+: text := by
  have hcr : ∀ part : JsString, 13 ∉ part → cr part = part := fun _ => cr_eq_self
  constructor
  · rintro ⟨before, behind, h⟩
    unfold cr at h
    obtain ⟨front, behind', rfl, hfront, -⟩ := List.map_eq_append_iff.1 h.symm
    obtain ⟨before', piece', rfl, -, hpiece'⟩ := List.map_eq_append_iff.1 hfront
    -- a unit that is no line feed has not been a carriage return
    have hsame : piece' = piece := by
      rw [← hpiece']
      refine (cr_eq_self fun hin => ?_).symm
      exact (hpiece 10 (hpiece' ▸ List.mem_map.2 ⟨13, hin, rfl⟩)).2 rfl
    rw [← hsame]
    exact ⟨before', behind', rfl⟩
  · rintro ⟨before, behind, rfl⟩
    refine ⟨cr before, cr behind, ?_⟩
    unfold cr
    rw [List.map_append, List.map_append]
    congr 2
    exact (hcr piece fun hin => (hpiece 13 hin).1 rfl).symm

/-- A piece that does not start with a unit of the class stays when these go from the front. -/
theorem infix_dropWhile {p : UInt16 → Bool} {c : UInt16} (hc : p c = false) {rest text : JsString}
    (h : c :: rest <:+: text) : c :: rest <:+: text.dropWhile p := by
  obtain ⟨before, behind, rfl⟩ := h
  rw [List.append_assoc]
  induction before with
  | nil =>
    rw [List.nil_append, List.cons_append,
      List.dropWhile_cons_of_neg (by rw [hc]; exact Bool.false_ne_true)]
    exact (List.prefix_append (c :: rest) behind).isInfix
  | cons d before ih =>
    rw [List.cons_append, List.dropWhile_cons]
    split
    · exact ih
    · exact ⟨d :: before, behind, by simp⟩

theorem infix_trim_iff {c d : UInt16} {middle : JsString} (hc : isWhitespace c = false)
    (hd : isWhitespace d = false) (text : JsString) :
    c :: (middle ++ [d]) <:+: trim text ↔ c :: (middle ++ [d]) <:+: text := by
  constructor
  · intro h
    rw [PatternComponents.trim_eq] at h
    exact (h.trans (List.rdropWhile_prefix isWhitespace _).isInfix).trans
      (List.dropWhile_suffix isWhitespace).isInfix
  · intro h
    have hfront := List.reverse_infix.2 (infix_dropWhile hc h)
    have hreverse : (c :: (middle ++ [d])).reverse = d :: (middle.reverse ++ [c]) := by simp
    unfold trim
    rw [← List.reverse_infix, List.reverse_reverse, hreverse]
    rw [hreverse] at hfront
    exact infix_dropWhile hd hfront

end lines

/-- **An escape with its rest** is left in the end when the four patterns leave it. -/
theorem infix_stripAnsi_iff {tail : JsString} (h : IsTail tail) (raw : JsString) :
    esc :: tail <:+: stripAnsi raw ↔
      esc :: tail <:+: twoChar.erase (openOsc.erase (osc.erase (csi.erase raw))) := by
  have hpiece : ∀ c ∈ esc :: tail, c ≠ 13 ∧ c ≠ 10 := by
    intro c hc
    rcases List.mem_cons.1 hc with rfl | hc
    · decide
    · exact (ne_of_isPrintable (h.isPrintable c hc)).2
  unfold stripAnsi
  generalize twoChar.erase (openOsc.erase (osc.erase (csi.erase raw))) = text
  have hlines : esc :: tail <:+: cr (crlf text) ↔ esc :: tail <:+: text :=
    (infix_cr_iff hpiece (crlf text)).trans (infix_crlf_iff hpiece text)
  rw [← hlines]
  obtain ⟨init, last, rfl, hlast⟩ := h.exists_last
  refine infix_trim_iff (c := esc) (by decide) ?_ _
  -- no white space ends a sequence
  have hvalue := (isFinal_iff last).1 hlast
  unfold isWhitespace
  simp only [Bool.or_eq_false_iff, Bool.and_eq_false_iff, decide_eq_false_iff_not,
    UInt16.le_iff_toNat_le, ← UInt16.toNat_inj]
  simp
  omega

/-! ## Patterns in front of an escape -/

/-- A run of a class without the escape ends in front of one. -/
theorem dropWhile_append_esc {p : UInt16 → Bool} (hp : p esc = false) (text more : JsString) :
    (text ++ esc :: more).dropWhile p = text.dropWhile p ++ esc :: more := by
  induction text with
  | nil =>
    exact List.dropWhile_cons_of_neg (by rw [hp]; exact Bool.false_ne_true)
  | cons c rest ih =>
    rw [List.cons_append, List.dropWhile_cons, List.dropWhile_cons]
    split
    · exact ih
    · rfl

/-- A control sequence does not go on over an escape. -/
theorem cutCsi_append (c : UInt16) (rest more : JsString) :
    cutCsi (c :: rest ++ esc :: more) = (cutCsi (c :: rest)).map (· ++ esc :: more) := by
  cases rest with
  | nil => simp [cutCsi, esc]
  | cons d text =>
    by_cases hstart : c = esc ∧ d = 91
    · obtain ⟨rfl, rfl⟩ := hstart
      show cutCsi (esc :: 91 :: (text ++ esc :: more)) = _
      unfold cutCsi
      dsimp only
      rw [if_pos ⟨rfl, rfl⟩, if_pos ⟨rfl, rfl⟩, dropWhile_append_esc (by decide),
        dropWhile_append_esc (by decide)]
      cases (text.dropWhile isParameter).dropWhile isIntermediate with
      | nil => rfl
      | cons last behind =>
        dsimp only [List.cons_append]
        split <;> rfl
    · show cutCsi (c :: d :: (text ++ esc :: more)) = _
      unfold cutCsi
      dsimp only
      rw [if_neg hstart, if_neg hstart]
      rfl

/-- A command does not go on over an escape that does not end it. -/
theorem cutOsc_append (c : UInt16) (rest : JsString) {more : JsString} (hmore : more.head? ≠ some 92) :
    cutOsc (c :: rest ++ esc :: more) = (cutOsc (c :: rest)).map (· ++ esc :: more) := by
  cases rest with
  | nil => simp [cutOsc, esc]
  | cons d text =>
    by_cases hstart : c = esc ∧ d = 93
    · obtain ⟨rfl, rfl⟩ := hstart
      show cutOsc (esc :: 93 :: (text ++ esc :: more)) = _
      unfold cutOsc
      dsimp only
      rw [if_pos ⟨rfl, rfl⟩, if_pos ⟨rfl, rfl⟩, dropWhile_append_esc (by decide)]
      cases text.dropWhile isBody with
      | nil =>
        dsimp only [List.nil_append]
        rw [if_neg (by decide), if_neg hmore]
        rfl
      | cons last behind =>
        dsimp only [List.cons_append]
        by_cases hlast : last = 7
        · rw [if_pos hlast, if_pos hlast]
          rfl
        · rw [if_neg hlast, if_neg hlast]
          cases behind with
          | nil => rfl
          | cons d behind =>
            by_cases hd : d = 92
            · simp [hd]
            · simp [hd]
    · show cutOsc (c :: d :: (text ++ esc :: more)) = _
      unfold cutOsc
      dsimp only
      rw [if_neg hstart, if_neg hstart]
      rfl

/-- A command without an end does not go on over the end of its line. -/
theorem cutOpenOsc_append (c : UInt16) (rest more : JsString)
    (hends : ∀ v, c :: rest = esc :: 93 :: v → ∃ d ∈ v, isInLine d = false) :
    cutOpenOsc (c :: rest ++ esc :: more) = (cutOpenOsc (c :: rest)).map (· ++ esc :: more) := by
  cases rest with
  | nil => simp [cutOpenOsc, esc]
  | cons d text =>
    by_cases hstart : c = esc ∧ d = 93
    · obtain ⟨rfl, rfl⟩ := hstart
      obtain ⟨e, he, hline⟩ := hends text rfl
      have hnonempty : ¬(text.dropWhile isInLine).isEmpty = true := by
        rw [List.isEmpty_iff, List.dropWhile_eq_nil_iff]
        intro hall
        exact Bool.false_ne_true (hline.symm.trans (hall e he))
      show cutOpenOsc (esc :: 93 :: (text ++ esc :: more)) = _
      rw [cutOpenOsc_of_start, cutOpenOsc_of_start, List.dropWhile_append, if_neg hnonempty]
      rfl
    · show cutOpenOsc (c :: d :: (text ++ esc :: more)) = _
      unfold cutOpenOsc
      dsimp only
      rw [if_neg hstart, if_neg hstart]
      rfl

theorem cutTwo_append (c : UInt16) (rest more : JsString) :
    cutTwo (c :: rest ++ esc :: more) = (cutTwo (c :: rest)).map (· ++ esc :: more) := by
  cases rest with
  | nil => exact if_neg fun h => absurd h.2 (by decide)
  | cons d text =>
    show cutTwo (c :: d :: (text ++ esc :: more)) = _
    unfold cutTwo
    dsimp only
    split <;> rfl

/-! ## Texts that leave a sequence -/

/-- A sequence of two characters that is not the beginning of a command. -/
def IsPair (g : JsString) : Prop := ∃ d, isSecond d = true ∧ d ≠ 93 ∧ g = [esc, d]

/-- **An interrupted sequence**: an escape and the rest of a sequence, with sequences of two
characters in the rest, commands in what that gives, and control sequences in what that gives. The
escape itself starts no sequence. -/
def Interrupted (text : JsString) : Prop :=
  ∃ tail two commands controls, IsTail tail ∧
    Filled IsPair tail two ∧ cutTwo (esc :: two) = none ∧
    Filled IsOsc two commands ∧
    Filled IsCsi commands controls ∧ cutCsi (esc :: controls) = none ∧
    text = esc :: controls

/-- Behind the text, its control sequences and commands taken out, the line belongs to a command that
has not ended. -/
def OpensCommand (before : JsString) : Prop :=
  ∃ front line, osc.erase (csi.erase before) = front ++ esc :: 93 :: line ∧
    ∀ c ∈ line, isInLine c = true

/-- No sequence is interrupted, but where the line belongs to a command that has not ended. -/
def Uninterrupted (raw : JsString) : Prop :=
  ∀ before text behind, raw = before ++ (text ++ behind) → Interrupted text → OpensCommand before

theorem IsPair.starts {g : JsString} (h : IsPair g) : ∃ tail, g = esc :: tail := by
  obtain ⟨d, -, -, rfl⟩ := h
  exact ⟨_, rfl⟩

theorem IsOsc.starts {g : JsString} (h : IsOsc g) : ∃ tail, g = esc :: tail := by
  obtain ⟨body, -, rfl | rfl⟩ := h <;> exact ⟨_, rfl⟩

theorem IsCsi.starts {g : JsString} (h : IsCsi g) : ∃ tail, g = esc :: tail := by
  obtain ⟨tail, -, rfl⟩ := h
  exact ⟨_, rfl⟩

theorem ne_esc_of_isBody {c : UInt16} (h : isBody c = true) : c ≠ esc := by
  unfold isBody at h
  rw [Bool.and_eq_true, decide_eq_true_eq, decide_eq_true_eq] at h
  exact h.2

/-- A command holds no bracket of a control sequence behind an escape. -/
theorem IsOsc.guarded {g : JsString} (h : IsOsc g) : Guarded esc (· = 91) g := by
  obtain ⟨body, hbody, hg⟩ := h
  have hguarded : Guarded esc (· = 91) (93 :: body) := by
    refine guarded_of_notMem fun hin => ?_
    rcases List.mem_cons.1 hin with hin | hin
    · exact absurd hin (by decide)
    · exact ne_esc_of_isBody (hbody _ hin) rfl
  rcases hg with rfl | rfl
  · refine ⟨fun _ => ⟨93, body ++ [7], rfl, rfl⟩, hguarded.append ?_⟩
    exact ⟨fun h => absurd h (by decide), trivial⟩
  · refine ⟨fun _ => ⟨93, body ++ [esc, 92], rfl, rfl⟩, hguarded.append ?_⟩
    exact ⟨fun _ => ⟨92, [], rfl, rfl⟩, fun h => absurd h (by decide), trivial⟩

/-- Nor does a sequence of two characters. -/
theorem IsPair.guarded {g : JsString} (h : IsPair g) :
    Guarded esc (· = 91) g ∧ Guarded esc (· = 93) g := by
  obtain ⟨d, hd, hcommand, rfl⟩ := h
  have hesc : d ≠ esc := by
    rintro rfl
    exact absurd hd (by decide)
  have hcsi : d ≠ 91 := by
    rintro rfl
    exact absurd hd (by decide)
  exact ⟨⟨fun _ => ⟨d, [], rfl, decide_eq_false hcsi⟩, fun h => absurd h hesc, trivial⟩,
    ⟨fun _ => ⟨d, [], rfl, decide_eq_false hcommand⟩, fun h => absurd h hesc, trivial⟩⟩

theorem IsTail.notMem {tail : JsString} (h : IsTail tail) : esc ∉ tail :=
  fun hin => (ne_of_isPrintable (h.isPrintable _ hin)).1 rfl

/-- An escape of the rest with its pairs is followed by no bracket. -/
theorem IsTail.guarded {tail two : JsString} (h : IsTail tail) (hpairs : Filled IsPair tail two) :
    Guarded esc (· = 91) two ∧ Guarded esc (· = 93) two :=
  ⟨hpairs.guarded (fun _ hg => hg.starts) (by decide) (fun _ hg => hg.guarded.1)
      (guarded_of_notMem h.notMem),
    hpairs.guarded (fun _ hg => hg.starts) (by decide) (fun _ hg => hg.guarded.2)
      (guarded_of_notMem h.notMem)⟩

/-! ### What the pieces start and end with -/

section pieces

variable {tail two commands controls : JsString}

theorem Filled.ne_nil {seq : JsString → Prop} {text filled : JsString} (h : Filled seq text filled)
    (htext : text ≠ []) : filled ≠ [] := by
  rintro rfl
  have hlast := h.getLast?
  rw [List.getLast?_nil] at hlast
  exact htext (List.getLast?_eq_none_iff.1 hlast.symm)

theorem Filled.eq_singleton {seq : JsString → Prop} (hseq : ∀ g, seq g → ∃ tail, g = esc :: tail)
    {c : UInt16} (hc : c ≠ esc) {text : JsString} (h : Filled seq text [c]) : text = [c] := by
  cases text with
  | nil => cases h
  | cons d rest =>
    obtain ⟨tail, htail | ⟨htail, hrest⟩⟩ := h.head hseq
    · exact absurd (List.cons.inj htail).1 hc
    · obtain ⟨rfl, rfl⟩ := List.cons.inj htail
      cases rest with
      | nil => rfl
      | cons e rest => exact absurd rfl (Filled.ne_nil hrest (List.cons_ne_nil e rest))

/-- What comes behind the escape is not the second unit of a sequence. -/
theorem head_of_cutTwo (htwo : two ≠ []) (h : cutTwo (esc :: two) = none) :
    ∃ d rest, two = d :: rest ∧ isSecond d = false := by
  obtain ⟨d, rest, rfl⟩ := List.exists_cons_of_ne_nil htwo
  refine ⟨d, rest, rfl, ?_⟩
  cases hd : isSecond d with
  | false => rfl
  | true =>
    rw [show cutTwo (esc :: d :: rest) = some rest from if_pos ⟨rfl, hd⟩] at h
    cases h

theorem head_of_filled {seq : JsString → Prop} (hseq : ∀ g, seq g → ∃ tail, g = esc :: tail)
    (h : Filled seq two commands) (htwo : ∃ d rest, two = d :: rest ∧ isSecond d = false) :
    ∃ d rest, commands = d :: rest ∧ isSecond d = false := by
  obtain ⟨d, rest, rfl, hd⟩ := htwo
  obtain ⟨tail, rfl | ⟨rfl, -⟩⟩ := h.head hseq
  · exact ⟨esc, tail, rfl, rfl⟩
  · exact ⟨d, tail, rfl, hd⟩

/-- More text does not make a control sequence of what ends as one does. -/
theorem cutCsi_more {init : JsString} {last : UInt16} (hlast : isFinal last = true)
    (hbracket : init ++ [last] ≠ [91]) (h : cutCsi (esc :: (init ++ [last])) = none)
    (behind : JsString) : cutCsi (esc :: (init ++ [last] ++ behind)) = none := by
  cases init with
  | nil =>
    have hne : last ≠ 91 := fun hlast => hbracket (by rw [hlast]; rfl)
    exact if_neg fun hstart => hne hstart.2
  | cons d init =>
    by_cases hd : d = 91
    · subst hd
      obtain ⟨hparameter, hintermediate⟩ := not_class_of_final hlast
      -- the last unit is in neither run, so both end in front of it
      have hdrop : ∀ p : UInt16 → Bool, p last = false → ∀ text : JsString, last ∈ text →
          last ∈ text.dropWhile p ∧ ∀ more, (text ++ more).dropWhile p =
            text.dropWhile p ++ more := by
        intro p hp text hin
        have hmem : last ∈ text.dropWhile p := by
          rw [← List.takeWhile_append_dropWhile (p := p) (l := text)] at hin
          rcases List.mem_append.1 hin with hin | hin
          · exact absurd (hp.symm.trans (List.mem_takeWhile_imp hin)) Bool.false_ne_true
          · exact hin
        refine ⟨hmem, fun more => ?_⟩
        rw [List.dropWhile_append, if_neg]
        rw [List.isEmpty_iff]
        exact List.ne_nil_of_mem hmem
      obtain ⟨hin, happend⟩ := hdrop isParameter hparameter (init ++ [last])
        (List.mem_append_right _ List.mem_cons_self)
      obtain ⟨hin', happend'⟩ := hdrop isIntermediate hintermediate _ hin
      show cutCsi (esc :: 91 :: (init ++ [last] ++ behind)) = none
      change cutCsi (esc :: 91 :: (init ++ [last])) = none at h
      unfold cutCsi at h ⊢
      dsimp only at h ⊢
      rw [if_pos ⟨rfl, rfl⟩] at h ⊢
      rw [happend, happend']
      cases hrest : ((init ++ [last]).dropWhile isParameter).dropWhile isIntermediate with
      | nil =>
        rw [hrest] at hin'
        cases hin'
      | cons e rest =>
        rw [hrest] at h
        dsimp only [List.cons_append] at h ⊢
        by_cases he : isFinal e = true
        · rw [if_pos he] at h
          cases h
        · rw [if_neg he]
    · exact if_neg fun hstart => hd hstart.2

end pieces

/-! ### Following a text forward -/

theorem csi_before (before more : JsString) :
    csi.erase (before ++ esc :: more) = csi.erase before ++ csi.erase (esc :: more) :=
  Cutter.erase_append fun c rest _ => cutCsi_append c rest more

theorem osc_before (before : JsString) {more : JsString} (hmore : more.head? ≠ some 92) :
    osc.erase (before ++ esc :: more) = osc.erase before ++ osc.erase (esc :: more) :=
  Cutter.erase_append fun c rest _ => cutOsc_append c rest hmore

theorem openOsc_before {before : JsString} (more : JsString)
    (h : ¬∃ front line, before = front ++ esc :: 93 :: line ∧ ∀ c ∈ line, isInLine c = true) :
    openOsc.erase (before ++ esc :: more) =
      openOsc.erase before ++ openOsc.erase (esc :: more) := by
  refine Cutter.erase_append fun c rest hsuffix => cutOpenOsc_append c rest more ?_
  rintro line hline
  obtain ⟨front, hfront⟩ := hsuffix
  by_contra hnone
  push Not at hnone
  refine h ⟨front, line, by rw [← hline, hfront], fun d hd => ?_⟩
  cases hd' : isInLine d with
  | true => rfl
  | false => exact absurd hd' (hnone d hd)

theorem twoChar_before (before more : JsString) :
    twoChar.erase (before ++ esc :: more) = twoChar.erase before ++ twoChar.erase (esc :: more) :=
  Cutter.erase_append fun c rest _ => cutTwo_append c rest more

/-- What the first two patterns leave in front of an interrupted sequence, and of the sequence. -/
theorem erase_controls_commands {before two commands controls behind : JsString}
    (htwo : ∃ d rest, two = d :: rest ∧ isSecond d = false)
    (hguarded : Guarded esc (· = 91) two ∧ Guarded esc (· = 93) two)
    (hcommands : Filled IsOsc two commands) (hcontrols : Filled IsCsi commands controls)
    (hkept : cutCsi (esc :: (controls ++ behind)) = none) :
    osc.erase (csi.erase (before ++ esc :: (controls ++ behind))) =
      osc.erase (csi.erase before) ++ esc :: (two ++ osc.erase (csi.erase behind)) := by
  have hosc : ∀ g, IsOsc g → ∃ tail, g = esc :: tail := fun _ hg => hg.starts
  have hguardedCsi : Guarded esc (· = 91) commands :=
    hcommands.guarded hosc (by decide) (fun g hg => hg.guarded) hguarded.1
  have hcsi : csi.erase (before ++ esc :: (controls ++ behind)) =
      csi.erase before ++ esc :: (commands ++ csi.erase behind) := by
    rw [csi_before, Cutter.erase_kept (k := csi) hkept,
      Cutter.erase_filled (k := csi) (fun g hg => IsCsi.starts hg)
        (fun g rest hg => cutCsi_of_isCsi hg rest)
        (fun d rest hd => if_neg fun hstart => of_decide_eq_false hd hstart.2) (by decide)
        hcontrols hguardedCsi behind]
  obtain ⟨d, rest, rfl, hd⟩ := head_of_filled hosc hcommands htwo
  have hnot : d ≠ 92 ∧ d ≠ 93 := by
    constructor <;> (rintro rfl; exact absurd hd (by decide))
  have hkeptOsc : osc.cut (esc :: (d :: rest ++ csi.erase behind)) = none :=
    if_neg fun hstart => hnot.2 hstart.2
  have hhead : (d :: rest ++ csi.erase behind).head? ≠ some 92 :=
    fun hhead => hnot.1 (Option.some.inj hhead)
  rw [hcsi, osc_before _ hhead, Cutter.erase_kept hkeptOsc,
    Cutter.erase_filled (k := osc) hosc (fun g rest hg => cutOsc_of_isOsc hg rest)
      (fun d rest hd => if_neg fun hstart => of_decide_eq_false hd hstart.2) (by decide)
      hcommands hguarded.2]

/-- **An interrupted sequence is left**, where its line does not belong to a command. -/
theorem infix_of_interrupted {before text behind : JsString} (h : Interrupted text)
    (hopen : ¬OpensCommand before) : ∃ tail, IsTail tail ∧ esc :: tail <:+:
      twoChar.erase (openOsc.erase (osc.erase (csi.erase (before ++ (text ++ behind))))) := by
  obtain ⟨tail, two, commands, controls, htail, hpairs, hkeptTwo, hcommands, hcontrols, hkeptCsi,
    rfl⟩ := h
  refine ⟨tail, htail, ?_⟩
  obtain ⟨init, last, hinit, hlast⟩ := htail.exists_last
  have hends : controls.getLast? = some last := by
    rw [hcontrols.getLast?, hcommands.getLast?, hpairs.getLast?, hinit, List.getLast?_concat]
  have htwo := head_of_cutTwo (Filled.ne_nil hpairs htail.ne_nil) hkeptTwo
  have hguarded := htail.guarded hpairs
  have hbracket : controls ≠ [91] := by
    rintro rfl
    have hesc : (91 : UInt16) ≠ esc := by decide
    obtain rfl := Filled.eq_singleton (fun _ hg => hg.starts) hesc hcontrols
    obtain rfl := Filled.eq_singleton (fun _ hg => hg.starts) hesc hcommands
    obtain rfl := Filled.eq_singleton (fun _ hg => hg.starts) hesc hpairs
    exact htail.ne_bracket rfl
  have hkept : cutCsi (esc :: (controls ++ behind)) = none := by
    obtain ⟨front, hfront⟩ := List.getLast?_eq_some_iff.1 hends
    rw [hfront] at hbracket hkeptCsi ⊢
    exact cutCsi_more hlast hbracket hkeptCsi behind
  obtain ⟨d, rest, hd, hsecond⟩ := htwo
  have hcommand : d ≠ 93 := by
    rintro rfl
    exact absurd hsecond (by decide)
  generalize hbehind : osc.erase (csi.erase behind) = more
  have hkeptOpen : openOsc.cut (esc :: (two ++ more)) = none := by
    rw [hd]
    exact if_neg fun hstart => hcommand hstart.2
  have hkeptTwo' : twoChar.cut (esc :: (two ++ openOsc.erase more)) = none := by
    rw [hd]
    exact if_neg fun hstart => Bool.false_ne_true (hsecond.symm.trans hstart.2)
  have hthird : openOsc.erase (two ++ more) = two ++ openOsc.erase more :=
    Cutter.erase_filled (fun _ hg => hg.elim) (fun _ _ hg => hg.elim)
      (fun d rest hd => if_neg fun hstart => of_decide_eq_false hd hstart.2) (by decide)
      (Filled.refl (fun _ => False) two) hguarded.2 more
  have hfourth : twoChar.erase (two ++ openOsc.erase more) =
      tail ++ twoChar.erase (openOsc.erase more) :=
    Cutter.erase_filled (fun _ hg => IsPair.starts hg)
      (fun _ rest ⟨d, hd, _, hg⟩ => cutTwo_of_isTwo ⟨d, hd, hg⟩ rest)
      (fun d rest (hd : isSecond d = false) => if_neg fun hstart =>
        Bool.false_ne_true (hd.symm.trans hstart.2))
      (by decide) hpairs (guarded_of_notMem htail.notMem) _
  rw [List.cons_append,
    erase_controls_commands ⟨d, rest, hd, hsecond⟩ hguarded hcommands hcontrols hkept, hbehind,
    openOsc_before _ hopen, Cutter.erase_kept hkeptOpen, hthird, twoChar_before,
    Cutter.erase_kept hkeptTwo', hfourth]
  exact ⟨twoChar.erase (openOsc.erase (osc.erase (csi.erase before))),
    twoChar.erase (openOsc.erase more), by rw [List.append_assoc, List.cons_append]⟩

/-! ### Tracing a text back -/

/-- What the third pattern leaves on a line had stood there. -/
theorem prefix_of_openOsc {text piece more : JsString} (hpiece : ∀ c ∈ piece, isInLine c = true)
    (h : openOsc.erase text = piece ++ more) : piece <+: text := by
  induction text using openOsc.reading generalizing piece with
  | nil =>
    rw [Cutter.erase_nil] at h
    rw [(List.append_eq_nil_iff.1 h.symm).1]
  | kept c rest hcut ih =>
    cases piece with
    | nil => exact List.nil_prefix
    | cons d piece =>
      rw [Cutter.erase_kept hcut] at h
      obtain ⟨rfl, hrest⟩ := List.cons.inj h
      exact List.cons_prefix_cons.2
        ⟨rfl, ih (fun e he => hpiece e (List.mem_cons_of_mem _ he)) hrest⟩
  | gone text rest hcut ih =>
    cases piece with
    | nil => exact List.nil_prefix
    | cons d piece =>
      -- behind a command that has gone the line ends
      rw [Cutter.erase_cut hcut] at h
      obtain ⟨tail, htail⟩ := ih hpiece h
      obtain ⟨line, -, hrest⟩ := exists_of_cutOpenOsc hcut
      have hends := List.head?_dropWhile_not isInLine line
      rw [← hrest, ← htail] at hends
      exact absurd (hpiece d List.mem_cons_self) (by rw [hends]; exact Bool.false_ne_true)

/-- No command is left by the third pattern. -/
theorem openOsc_leaves (text before more : JsString) :
    openOsc.erase text ≠ before ++ esc :: 93 :: more := by
  intro h
  obtain ⟨start, behind, -, -, hkept, hbehind⟩ := Cutter.exists_of_erase_eq h
  obtain ⟨rest, rfl⟩ := prefix_of_openOsc (List.forall_mem_singleton.2 rfl)
    (show openOsc.erase behind = [93] ++ more from hbehind)
  rw [show openOsc.cut (esc :: ([93] ++ rest)) = _ from cutOpenOsc_of_start rest] at hkept
  cases hkept

/-- A place of a line that belongs to a command is not read. -/
theorem not_reached_of_command {front line more : JsString} (hline : ∀ c ∈ line, isInLine c = true) :
    ¬openOsc.Reached (front ++ esc :: 93 :: (line ++ esc :: more)) (esc :: more) := by
  generalize htext : front ++ esc :: 93 :: (line ++ esc :: more) = text
  generalize hplace : esc :: more = place
  intro h
  -- behind the command, what is read is shorter than the place
  have hshort : ∀ {rest}, rest = (esc :: 93 :: (line ++ esc :: more)).dropWhile isInLine →
      ¬openOsc.Reached rest (esc :: more) := by
    intro rest hrest hreached
    have hall : ∀ c ∈ esc :: 93 :: (line ++ [esc]), isInLine c = true := by
      intro c hc
      rcases List.mem_cons.1 hc with rfl | hc
      · decide
      rcases List.mem_cons.1 hc with rfl | hc
      · decide
      rcases List.mem_append.1 hc with hc | hc
      · exact hline c hc
      · rw [List.mem_singleton.1 hc]
        decide
    have hdrop : (esc :: 93 :: (line ++ [esc]) ++ more).dropWhile isInLine =
        more.dropWhile isInLine := List.dropWhile_append_of_pos hall
    rw [List.cons_append, List.cons_append, List.append_assoc, List.singleton_append] at hdrop
    have hlength := hreached.suffix.length_le
    rw [hrest, hdrop, List.length_cons] at hlength
    have hle := (List.dropWhile_suffix isInLine (l := more)).length_le
    omega
  induction h generalizing front with
  | here text =>
    have hlength := congrArg List.length (htext.trans hplace.symm)
    simp only [List.length_append, List.length_cons] at hlength
    omega
  | @kept c rest place hcut h ih =>
    cases front with
    | nil =>
      obtain ⟨rfl, rfl⟩ := List.cons.inj htext
      rw [show openOsc.cut (esc :: 93 :: _) = _ from cutOpenOsc_of_start _] at hcut
      cases hcut
    | cons d front => exact ih (List.cons.inj htext).2 hplace
  | @gone text rest place hcut h ih =>
    obtain ⟨body, rfl, hrest⟩ := exists_of_cutOpenOsc hcut
    subst hplace
    match front, htext with
    | [], htext =>
      obtain rfl := (List.cons.inj (List.cons.inj htext).2).2
      exact hshort (by rw [hrest]; rfl) h
    | [_], htext => exact absurd (List.cons.inj (List.cons.inj htext).2).1 (by decide)
    | _ :: _ :: front, htext =>
      have hbody : front ++ esc :: 93 :: (line ++ esc :: more) = body :=
        (List.cons.inj (List.cons.inj htext).2).2
      rw [← hbody, List.dropWhile_append] at hrest
      split at hrest
      · exact hshort hrest h
      · exact ih hrest.symm rfl

/-- What a pattern finds at the beginning of a text it finds when more text follows. -/
theorem cutCsi_of_append {text more : JsString} (h : cutCsi (text ++ more) = none) :
    cutCsi text = none := by
  cases hcut : cutCsi text with
  | none => rfl
  | some rest =>
    obtain ⟨g, hg, rfl⟩ := isCsi_of_cutCsi hcut
    rw [List.append_assoc, cutCsi_of_isCsi hg] at h
    cases h

theorem cutTwo_of_append {text more : JsString} (h : cutTwo (text ++ more) = none) :
    cutTwo text = none := by
  cases hcut : cutTwo text with
  | none => rfl
  | some rest =>
    obtain ⟨g, hg, rfl⟩ := isTwo_of_cutTwo hcut
    rw [List.append_assoc, cutTwo_of_isTwo hg] at h
    cases h

/-- **A sequence that is left has been interrupted**, where no line belonged to a command. -/
theorem interrupted_of_infix {raw tail : JsString} (htail : IsTail tail)
    (h : esc :: tail <:+: twoChar.erase (openOsc.erase (osc.erase (csi.erase raw)))) :
    ∃ before text behind, raw = before ++ (text ++ behind) ∧ Interrupted text ∧
      ¬OpensCommand before := by
  obtain ⟨before, behind, h⟩ := h
  rw [List.append_assoc, List.cons_append] at h
  -- the fourth pattern
  obtain ⟨start, place, hthird, -, hkeptTwo, hplace⟩ := Cutter.exists_of_erase_eq h.symm
  obtain ⟨two, more, rfl, htwo, -⟩ :=
    Cutter.filled_of_erase_eq (k := twoChar) (fun _ _ => isTwo_of_cutTwo) hplace
  have hpairs : Filled IsPair tail two := by
    refine htwo.mono fun g ⟨d, hd, hg⟩ hin => ⟨d, hd, ?_, hg⟩
    rintro rfl
    obtain ⟨front, rest, rfl⟩ := hin
    refine openOsc_leaves _ (start ++ esc :: front) (rest ++ more) (hthird.trans ?_)
    rw [hg]
    simp
  have hinLine : ∀ c ∈ two, isInLine c = true := by
    intro c hc
    rcases htwo.mem hc with hc | ⟨g, ⟨d, hd, rfl⟩, hc⟩
    · exact isInLine_of_isPrintable (htail.isPrintable c hc)
    · rcases List.mem_cons.1 hc with rfl | hc
      · decide
      · rw [List.mem_singleton.1 hc]
        exact isInLine_of_isPrintable (isPrintable_of_isFinal (isFinal_of_isSecond hd))
  -- the third pattern
  obtain ⟨start, place, hsecond, hreached, -, hplace⟩ := Cutter.exists_of_erase_eq hthird
  obtain ⟨more, rfl⟩ := prefix_of_openOsc hinLine hplace
  -- the second and the first one
  obtain ⟨start', place, hfirst, -, -, hplace⟩ := Cutter.exists_of_erase_eq hsecond
  obtain ⟨commands, more', rfl, hcommands, hmore⟩ :=
    Cutter.filled_of_erase_eq (k := osc) (fun _ _ => isOsc_of_cutOsc) hplace
  obtain ⟨front, place, rfl, -, hkeptCsi, hplace⟩ := Cutter.exists_of_erase_eq hfirst
  obtain ⟨controls, behind', rfl, hcontrols, hmore'⟩ :=
    Cutter.filled_of_erase_eq (k := csi) (fun _ _ => isCsi_of_cutCsi) hplace
  have hkeptTwo' : cutTwo (esc :: two) = none :=
    cutTwo_of_append ((List.cons_append ..).symm ▸ hkeptTwo)
  refine ⟨front, esc :: controls, behind', rfl, ⟨tail, two, commands, controls, htail, hpairs,
    hkeptTwo', hcommands, hcontrols,
    cutCsi_of_append ((List.cons_append ..).symm ▸ hkeptCsi), rfl⟩, ?_⟩
  rintro ⟨left, line, hleft, hline⟩
  have hhead := head_of_cutTwo (Filled.ne_nil hpairs htail.ne_nil) hkeptTwo'
  rw [erase_controls_commands hhead (htail.guarded hpairs) hcommands hcontrols hkeptCsi, hleft,
    hmore', hmore, List.append_assoc, List.cons_append, List.cons_append] at hreached
  exact not_reached_of_command hline hreached

/-! ## The law -/

/-- **Nothing is left that a pattern finds**, and to do it again changes nothing, exactly when no
sequence of the raw text is interrupted where its line does not belong to a command. -/
theorem stripAnsi_exact (raw : JsString) :
    (¬HasRecognised (stripAnsi raw) ↔ Uninterrupted raw) ∧
      (stripAnsi (stripAnsi raw) = stripAnsi raw ↔ Uninterrupted raw) := by
  have hexact : ¬HasRecognised (stripAnsi raw) ↔ Uninterrupted raw := by
    rw [hasRecognised_iff (notMem_stripAnsi raw)]
    constructor
    · rintro h before text behind rfl htext
      by_contra hopen
      obtain ⟨tail, htail, hin⟩ := infix_of_interrupted htext hopen
      exact h ⟨tail, htail, (infix_stripAnsi_iff htail _).2 hin⟩
    · rintro h ⟨tail, htail, hin⟩
      obtain ⟨before, text, behind, hraw, htext, hopen⟩ :=
        interrupted_of_infix htail ((infix_stripAnsi_iff htail raw).1 hin)
      exact hopen (h before text behind hraw htext)
  exact ⟨hexact, (stripAnsi_stripAnsi_iff raw).trans hexact⟩

/-- The end of the colour is put together from its two parts by taking out the one between them. -/
theorem stripAnsi_leaves_sequence :
    stripAnsi (js "\x1b\x1b[0m[0m") = js "\x1b[0m" ∧
      HasRecognised (stripAnsi (js "\x1b\x1b[0m[0m")) ∧
      stripAnsi (stripAnsi (js "\x1b\x1b[0m[0m")) ≠ stripAnsi (js "\x1b\x1b[0m[0m") := by
  have hleft : stripAnsi (js "\x1b\x1b[0m[0m") = js "\x1b[0m" := by decide
  have htail : CsiTail (js "[0m") :=
    ⟨[48], [], 109, List.forall_mem_singleton.2 rfl, List.forall_mem_nil _, rfl, rfl⟩
  rw [hleft]
  exact ⟨rfl, ⟨js "\x1b[0m", List.infix_rfl, .inl ⟨js "[0m", htail, rfl⟩⟩, by decide⟩

end Ansi

end Autopilot
