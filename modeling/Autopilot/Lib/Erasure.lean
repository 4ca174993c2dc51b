/-
Taking all sequences of a kind out of a text.

A sequence starts with a mark. A text is read from left to right; where a sequence starts it is left
out, and any other unit is kept. What has been written is not read again, so two parts of a sequence
that stood on the two sides of another one are left as a sequence.

The texts that leave a given one are those with sequences put in front of its units. This is said in
both directions: a beginning of what is left comes from such a text, and such a text leaves it, if no
mark of it is followed by a unit with which it would start a sequence itself.
-/
import Mathlib.Data.List.Basic
import Mathlib.Tactic.Common

set_option autoImplicit false

namespace Erasure

variable {α : Type} {esc : α}

/-- How a sequence is cut off a text that starts with one. -/
structure Cutter (esc : α) where
  cut : List α → Option (List α)
  starts : ∀ {text rest}, cut text = some rest → ∃ g, text = esc :: g ++ rest

namespace Cutter

variable (k : Cutter esc)

/-- What is left of a text, of which so many units are read at most. -/
def eraseFrom : ℕ → List α → List α
  | 0, text => text
  | _ + 1, [] => []
  | n + 1, c :: rest =>
    match k.cut (c :: rest) with
    | some behind => eraseFrom n behind
    | none => c :: eraseFrom n rest

/-- The text without its sequences. -/
def erase (text : List α) : List α := k.eraseFrom text.length text

variable {k} {text rest : List α} {c : α}

theorem length_lt_of_cut (h : k.cut text = some rest) : rest.length < text.length := by
  obtain ⟨g, rfl⟩ := k.starts h
  rw [List.cons_append, List.length_cons, List.length_append]
  omega

theorem cut_nil (k : Cutter esc) : k.cut [] = none := by
  cases h : k.cut [] with
  | none => rfl
  | some rest => exact absurd (length_lt_of_cut h) (Nat.not_lt_zero _)

theorem cut_of_ne (h : c ≠ esc) : k.cut (c :: rest) = none := by
  cases hcut : k.cut (c :: rest) with
  | none => rfl
  | some behind =>
    obtain ⟨g, hg⟩ := k.starts hcut
    exact absurd (List.cons.inj hg).1 h

/-- More units than the text has are not read. -/
theorem eraseFrom_eq {n : ℕ} (h : text.length ≤ n) : k.eraseFrom n text = k.erase text := by
  unfold erase
  induction n using Nat.strongRecOn generalizing text with
  | _ n ih =>
    cases text with
    | nil => cases n <;> rfl
    | cons c rest =>
      cases n with
      | zero => exact absurd h (Nat.not_succ_le_zero _)
      | succ n =>
        rw [List.length_cons] at h ⊢
        rw [eraseFrom, eraseFrom]
        cases hcut : k.cut (c :: rest) with
        | none =>
          dsimp only
          rw [ih n (Nat.lt_succ_self n) (Nat.le_of_succ_le_succ h)]
        | some behind =>
          have hless := length_lt_of_cut hcut
          rw [List.length_cons] at hless
          dsimp only
          rw [ih n (Nat.lt_succ_self n) (by omega),
            ih rest.length (by omega) (Nat.le_of_lt_succ hless)]

@[simp] theorem erase_nil (k : Cutter esc) : k.erase [] = [] := rfl

/-- A unit with which no sequence starts is kept. -/
theorem erase_kept (h : k.cut (c :: rest) = none) : k.erase (c :: rest) = c :: k.erase rest := by
  show k.eraseFrom (rest.length + 1) (c :: rest) = _
  rw [eraseFrom, h]
  rfl

/-- A sequence is left out. -/
theorem erase_cut (h : k.cut text = some rest) : k.erase text = k.erase rest := by
  cases text with
  | nil =>
    rw [cut_nil] at h
    cases h
  | cons c tail =>
    have hless := length_lt_of_cut h
    rw [List.length_cons] at hless
    show k.eraseFrom (tail.length + 1) (c :: tail) = _
    rw [eraseFrom, h]
    exact eraseFrom_eq (Nat.le_of_lt_succ hless)

/-- A text is read unit by unit and sequence by sequence. -/
theorem reading {P : List α → Prop} (nil : P [])
    (kept : ∀ c rest, k.cut (c :: rest) = none → P rest → P (c :: rest))
    (gone : ∀ text rest, k.cut text = some rest → P rest → P text) (text : List α) : P text := by
  generalize hn : text.length = n
  induction n using Nat.strongRecOn generalizing text with
  | _ n ih =>
    cases hcut : k.cut text with
    | some rest => exact gone text rest hcut (ih _ (hn ▸ length_lt_of_cut hcut) rest rfl)
    | none =>
      cases text with
      | nil => exact nil
      | cons c rest => exact kept c rest hcut (ih _ (hn ▸ Nat.lt_succ_self _) rest rfl)

theorem erase_sublist (k : Cutter esc) (text : List α) : (k.erase text).Sublist text := by
  induction text using k.reading with
  | nil => exact List.Sublist.refl []
  | kept c rest hcut ih =>
    rw [erase_kept hcut]
    exact ih.cons_cons c
  | gone text rest hcut ih =>
    rw [erase_cut hcut]
    obtain ⟨g, rfl⟩ := k.starts hcut
    exact ih.trans (List.sublist_append_right _ _)

theorem length_erase_le (k : Cutter esc) (text : List α) :
    (k.erase text).length ≤ text.length :=
  (k.erase_sublist text).length_le

/-- **A text stays as it is** when no sequence starts in it, and only then. -/
theorem erase_eq_self_iff (k : Cutter esc) (text : List α) :
    k.erase text = text ↔ ∀ before behind, text = before ++ behind → k.cut behind = none := by
  induction text using k.reading with
  | nil =>
    refine ⟨fun _ before behind h => ?_, fun _ => rfl⟩
    rw [(List.append_eq_nil_iff.1 h.symm).2, cut_nil]
  | kept c rest hcut ih =>
    rw [erase_kept hcut, List.cons.injEq, and_iff_right rfl, ih]
    constructor
    · intro h before behind heq
      cases before with
      | nil =>
        rw [List.nil_append] at heq
        rw [← heq]
        exact hcut
      | cons d before => exact h before behind (List.cons.inj heq).2
    · intro h before behind heq
      exact h (c :: before) behind (by rw [heq, List.cons_append])
  | gone text rest hcut ih =>
    constructor
    · intro h
      have hless := length_lt_of_cut hcut
      have hlength := k.length_erase_le rest
      rw [← erase_cut hcut, h] at hlength
      omega
    · intro h
      rw [h [] text rfl] at hcut
      cases hcut

/-! ## Two parts of a text -/

/-- Where no sequence goes on into what follows, the parts are read one by one. -/
theorem erase_append {more : List α} (hlocal : ∀ c rest, (c :: rest) <:+ text →
      k.cut (c :: rest ++ more) = (k.cut (c :: rest)).map (· ++ more)) :
    k.erase (text ++ more) = k.erase text ++ k.erase more := by
  induction text using k.reading with
  | nil => rfl
  | kept c rest hcut ih =>
    have hmore : k.cut (c :: (rest ++ more)) = none := by
      rw [← List.cons_append, hlocal c rest (List.suffix_refl _), hcut]
      rfl
    rw [List.cons_append, erase_kept hmore, erase_kept hcut, List.cons_append,
      ih fun d tail htail => hlocal d tail (htail.trans (List.suffix_cons _ _))]
  | gone text rest hcut ih =>
    obtain ⟨g, rfl⟩ := k.starts hcut
    have hmore : k.cut (esc :: g ++ rest ++ more) = some (rest ++ more) := by
      rw [List.cons_append, hlocal esc (g ++ rest) (List.suffix_refl _), ← List.cons_append, hcut]
      rfl
    rw [erase_cut hmore, erase_cut hcut,
      ih fun d tail htail => hlocal d tail (htail.trans (List.suffix_append _ _))]

/-- The places of a text that are read. -/
inductive Reached (k : Cutter esc) : List α → List α → Prop
  | here (text : List α) : Reached k text text
  | kept {c : α} {rest more : List α} (hcut : k.cut (c :: rest) = none) (h : Reached k rest more) :
      Reached k (c :: rest) more
  | gone {text rest more : List α} (hcut : k.cut text = some rest) (h : Reached k rest more) :
      Reached k text more

theorem Reached.suffix {more : List α} (h : Reached k text more) : more <:+ text := by
  induction h with
  | here text => exact List.suffix_refl text
  | kept _ _ ih => exact ih.trans (List.suffix_cons _ _)
  | gone hcut _ ih =>
    obtain ⟨g, rfl⟩ := k.starts hcut
    exact ih.trans (List.suffix_append _ _)

/-- **An end of what is left** comes from a place that is read, at which a unit is kept. -/
theorem exists_of_erase_eq {before more : List α} (h : k.erase text = before ++ c :: more) :
    ∃ start behind, text = start ++ c :: behind ∧ Reached k text (c :: behind) ∧
      k.cut (c :: behind) = none ∧ k.erase behind = more := by
  induction text using k.reading generalizing before with
  | nil => cases before <;> cases h
  | kept d rest hcut ih =>
    rw [erase_kept hcut] at h
    cases before with
    | nil =>
      obtain ⟨rfl, hrest⟩ := List.cons.inj h
      exact ⟨[], rest, rfl, .here _, hcut, hrest⟩
    | cons d' before =>
      obtain ⟨start, behind, htext, hreached, hkept, hmore⟩ := ih (List.cons.inj h).2
      exact ⟨d :: start, behind, by rw [htext]; rfl, .kept hcut hreached, hkept, hmore⟩
  | gone text rest hcut ih =>
    rw [erase_cut hcut] at h
    obtain ⟨start, behind, hrest, hreached, hkept, hmore⟩ := ih h
    obtain ⟨g, htext⟩ := k.starts hcut
    refine ⟨esc :: g ++ start, behind, ?_, .gone hcut hreached, hkept, hmore⟩
    rw [htext, hrest, List.append_assoc]

end Cutter

/-! ## Sequences put into a text -/

/-- The second text is the first, with sequences in front of its units. -/
inductive Filled (seq : List α → Prop) : List α → List α → Prop
  | nil : Filled seq [] []
  | unit (c : α) {text filled : List α} (h : Filled seq text filled) :
      Filled seq (c :: text) (c :: filled)
  | gap {g text filled : List α} {c : α} (hgap : seq g) (h : Filled seq (c :: text) filled) :
      Filled seq (c :: text) (g ++ filled)

theorem Filled.refl (seq : List α → Prop) (text : List α) : Filled seq text text := by
  induction text with
  | nil => exact .nil
  | cons c rest ih => exact .unit c ih

/-- A text with sequences in it ends as the text does. -/
theorem Filled.getLast? {seq : List α → Prop} {text filled : List α} (h : Filled seq text filled) :
    filled.getLast? = text.getLast? := by
  induction h with
  | nil => rfl
  | unit c _ ih => rw [List.getLast?_cons, List.getLast?_cons, ih]
  | gap _ _ ih => rw [List.getLast?_append, ih, List.getLast?_cons, Option.some_or]

/-- The sequences in it are parts of the text. -/
theorem Filled.mono {seq seq' : List α → Prop} {text filled : List α}
    (h : Filled seq text filled) (hseq : ∀ g, seq g → g <:+: filled → seq' g) :
    Filled seq' text filled := by
  induction h with
  | nil => exact .nil
  | unit c _ ih =>
    exact .unit c (ih fun g hg hin => hseq g hg (hin.trans (List.suffix_cons _ _).isInfix))
  | gap hgap _ ih =>
    exact .gap (hseq _ hgap (List.prefix_append _ _).isInfix)
      (ih fun g hg hin => hseq g hg (hin.trans (List.suffix_append _ _).isInfix))

/-- The units of a text with sequences in it are units of the text and of sequences. -/
theorem Filled.mem {seq : List α → Prop} {text filled : List α} (h : Filled seq text filled)
    {c : α} (hc : c ∈ filled) : c ∈ text ∨ ∃ g, seq g ∧ c ∈ g := by
  induction h with
  | nil => exact .inl hc
  | unit d _ ih =>
    rcases List.mem_cons.1 hc with rfl | hc
    · exact .inl List.mem_cons_self
    · exact (ih hc).imp (List.mem_cons_of_mem _) id
  | gap hgap _ ih =>
    rcases List.mem_append.1 hc with hc | hc
    · exact .inr ⟨_, hgap, hc⟩
    · exact ih hc

/-- Every mark of the text is followed by a unit with which it does not start a sequence. -/
def Guarded (esc : α) (bad : α → Bool) : List α → Prop
  | [] => True
  | c :: rest => (c = esc → ∃ d tail, rest = d :: tail ∧ bad d = false) ∧ Guarded esc bad rest

theorem guarded_of_notMem {bad : α → Bool} {text : List α} (h : esc ∉ text) :
    Guarded esc bad text := by
  induction text with
  | nil => trivial
  | cons c rest ih =>
    rw [List.mem_cons, not_or] at h
    exact ⟨fun hc => absurd hc.symm h.1, ih h.2⟩

theorem Guarded.append {bad : α → Bool} {text more : List α} (h : Guarded esc bad text)
    (hmore : Guarded esc bad more) : Guarded esc bad (text ++ more) := by
  induction text with
  | nil => exact hmore
  | cons c rest ih =>
    refine ⟨fun hc => ?_, ih h.2⟩
    obtain ⟨d, tail, rfl, hd⟩ := h.1 hc
    exact ⟨d, tail ++ more, rfl, hd⟩

/-- What a text with sequences in it starts with. -/
theorem Filled.head {seq : List α → Prop} (hseq : ∀ g, seq g → ∃ tail, g = esc :: tail) {c : α}
    {text filled : List α} (h : Filled seq (c :: text) filled) :
    ∃ tail, filled = esc :: tail ∨ filled = c :: tail ∧ Filled seq text tail := by
  cases h with
  | unit _ h => exact ⟨_, .inr ⟨rfl, h⟩⟩
  | gap hgap h =>
    obtain ⟨tail, rfl⟩ := hseq _ hgap
    exact ⟨tail ++ _, .inl rfl⟩

/-- Sequences that are guarded keep a guarded text so. -/
theorem Filled.guarded {seq : List α → Prop} (hseq : ∀ g, seq g → ∃ tail, g = esc :: tail)
    {bad : α → Bool} (hesc : bad esc = false) (hgaps : ∀ g, seq g → Guarded esc bad g)
    {text filled : List α} (h : Filled seq text filled) (htext : Guarded esc bad text) :
    Guarded esc bad filled := by
  induction h with
  | nil => trivial
  | unit c h ih =>
    refine ⟨fun hc => ?_, ih htext.2⟩
    obtain ⟨d, tail, rfl, hd⟩ := htext.1 hc
    obtain ⟨tail', hfilled | ⟨hfilled, -⟩⟩ := h.head hseq
    · exact ⟨esc, tail', hfilled, hesc⟩
    · exact ⟨d, tail', hfilled, hd⟩
  | gap hgap _ ih => exact (hgaps _ hgap).append (ih htext)

namespace Cutter

variable {k : Cutter esc} {seq : List α → Prop}

/-- **A beginning of what is left** comes from that text with sequences in it. -/
theorem filled_of_erase_eq
    (hcut : ∀ text rest, k.cut text = some rest → ∃ g, seq g ∧ text = g ++ rest)
    {text left more : List α} (h : k.erase text = left ++ more) :
    ∃ filled behind, text = filled ++ behind ∧ Filled seq left filled ∧ k.erase behind = more := by
  induction text using k.reading generalizing left with
  | nil =>
    rw [erase_nil] at h
    obtain ⟨rfl, rfl⟩ := List.append_eq_nil_iff.1 h.symm
    exact ⟨[], [], rfl, .nil, rfl⟩
  | kept c rest hkept ih =>
    cases left with
    | nil => exact ⟨[], c :: rest, rfl, .nil, h⟩
    | cons d left =>
      rw [erase_kept hkept] at h
      obtain ⟨rfl, hrest⟩ := List.cons.inj h
      obtain ⟨filled, behind, rfl, hfilled, hmore⟩ := ih hrest
      exact ⟨c :: filled, behind, rfl, .unit c hfilled, hmore⟩
  | gone text rest hgone ih =>
    cases left with
    | nil => exact ⟨[], text, rfl, .nil, h⟩
    | cons d left =>
      rw [erase_cut hgone] at h
      obtain ⟨filled, behind, rfl, hfilled, hmore⟩ := ih h
      obtain ⟨g, hg, rfl⟩ := hcut _ _ hgone
      exact ⟨g ++ filled, behind, (List.append_assoc ..).symm, .gap hg hfilled, hmore⟩

/-- **A text with sequences in it** leaves the text, if that is guarded. -/
theorem erase_filled (hseq : ∀ g, seq g → ∃ tail, g = esc :: tail)
    (hcut : ∀ g rest, seq g → k.cut (g ++ rest) = some rest) {bad : α → Bool}
    (hbad : ∀ d rest, bad d = false → k.cut (esc :: d :: rest) = none) (hesc : bad esc = false)
    {text filled : List α} (h : Filled seq text filled) (hguarded : Guarded esc bad text)
    (more : List α) : k.erase (filled ++ more) = text ++ k.erase more := by
  induction h with
  | nil => rfl
  | @unit c text filled h ih =>
    have hkept : k.cut (c :: (filled ++ more)) = none := by
      by_cases hc : c = esc
      · obtain ⟨d, tail, rfl, hd⟩ := hguarded.1 hc
        obtain ⟨tail', rfl | ⟨rfl, -⟩⟩ := h.head hseq
        · rw [hc]
          exact hbad esc _ hesc
        · rw [hc]
          exact hbad d _ hd
      · exact cut_of_ne hc
    rw [List.cons_append, erase_kept hkept, ih hguarded.2, List.cons_append]
  | gap hgap _ ih =>
    rw [List.append_assoc, erase_cut (hcut _ _ hgap), ih hguarded]

end Cutter

end Erasure
