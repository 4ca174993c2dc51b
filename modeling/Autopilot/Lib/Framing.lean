/-
Texts put between delimiters.

A document is made of lines, and some of its lines are blocks: an opening
delimiter, a content nobody vouches for, a closing delimiter. Who reads the
document cuts it at the delimiters. The cut gives back the blocks, and only the
blocks, when no content holds a delimiter, no delimiter holds another one, and no
delimiter reaches over the end of a line.

The first is what escaping is for: every occurrence of a delimiter in the content
is replaced by a mark. A delimiter could still be formed out of the mark and the
text around it, or of the texts on both sides of a mark. That is what `Apart`
rules out: no occurrence of the delimiter ever meets the mark.
-/
import Mathlib.Data.List.Basic
import Mathlib.Data.List.Infix
import Mathlib.Data.List.Nodup
import Mathlib.Tactic.Common

set_option autoImplicit false

namespace Framing

variable {α : Type} {d e r x y : List α} {s : α}

/-! ## Where a text occurs -/

/-- What does not hold `s` reaches no further than up to it. -/
theorem prefix_append_cons (hs : s ∉ d) : d <+: x ++ s :: y ↔ d <+: x := by
  constructor
  · intro hp
    by_cases hlen : d.length ≤ x.length
    · exact List.prefix_of_prefix_length_le hp (List.prefix_append x _) hlen
    · have hx : x ++ [s] <+: x ++ s :: y := ⟨y, by simp⟩
      have hover : x ++ [s] <+: d := by
        apply List.prefix_of_prefix_length_le hx hp
        rw [List.length_append, List.length_singleton]
        omega
      exact absurd (hover.subset (List.mem_append_right _ (List.mem_singleton_self s))) hs
  · intro hp
    exact hp.trans (List.prefix_append x _)

theorem not_prefix_cons (hs : s ∉ d) (hd : d ≠ []) : ¬ d <+: s :: y := by
  intro hp
  have hnil : d <+: [] := (prefix_append_cons hs).1 (show d <+: [] ++ s :: y from hp)
  exact hd (List.prefix_nil.1 hnil)

/-- What does not hold `s` occurs before it or after it. -/
theorem infix_append_cons (hs : s ∉ d) (hd : d ≠ []) :
    d <:+: x ++ s :: y ↔ d <:+: x ∨ d <:+: y := by
  induction x with
  | nil =>
    have hnot := not_prefix_cons (y := y) hs hd
    rw [List.nil_append, List.infix_cons_iff, List.infix_nil]
    tauto
  | cons c x ih =>
    rw [List.cons_append, List.infix_cons_iff, ih, ← List.cons_append, prefix_append_cons hs,
      List.infix_cons_iff]
    tauto

/-! ## Marks between texts -/

/-- `texts.join(separator)`. -/
def join (separator : List α) : List (List α) → List α
  | [] => []
  | [text] => text
  | text :: rest => text ++ separator ++ join separator rest

theorem join_cons (separator text next : List α) (rest : List (List α)) :
    join separator (text :: next :: rest) = text ++ separator ++ join separator (next :: rest) :=
  rfl

/-- No occurrence of `e` meets the mark `r`. -/
def Apart (e r : List α) : Prop := ∀ x y, e <:+: x ++ r ++ y → e <:+: x ∨ e <:+: y

/-- What is apart from the separator occurs in one of the texts that are joined. -/
theorem infix_of_infix_join (he : e ≠ []) (ha : Apart e r) {texts : List (List α)}
    (h : e <:+: join r texts) : ∃ text ∈ texts, e <:+: text := by
  induction texts with
  | nil => exact absurd (List.infix_nil.1 h) he
  | cons text rest ih =>
    cases rest with
    | nil => exact ⟨text, List.mem_singleton_self text, h⟩
    | cons next rest =>
      rcases ha text (join r (next :: rest)) h with h | h
      · exact ⟨text, List.mem_cons_self .., h⟩
      · obtain ⟨found, hfound, hin⟩ := ih h
        exact ⟨found, List.mem_cons_of_mem _ hfound, hin⟩

/-- A mark is apart from a longer text that holds neither the first two elements of the
mark nor its last two, one after the other. -/
theorem apart_of_edges {a b c z : α} {front back : List α} (hfront : r = a :: b :: front)
    (hback : r = back ++ [c, z]) (hlen : r.length < e.length)
    (hfirst : ∀ u v, e = u ++ a :: v → ∃ other w, v = other :: w ∧ other ≠ b)
    (hlast : ∀ u v, e = u ++ z :: v → ∃ other w, u = w ++ [other] ∧ other ≠ c) : Apart e r := by
  rintro x y ⟨p, q, hpq⟩
  rw [List.append_assoc, List.append_assoc, List.append_eq_append_iff] at hpq
  rcases hpq with ⟨u, rfl, hu⟩ | ⟨u, rfl, hu⟩
  · -- the occurrence starts in `x`
    rw [List.append_eq_append_iff] at hu
    rcases hu with ⟨w, rfl, -⟩ | ⟨w, rfl, hw⟩
    · exact .inl ⟨p, w, List.append_assoc _ _ _⟩
    · rcases w with _ | ⟨first, w⟩
      · exact .inl ⟨p, [], by simp⟩
      · simp only [hfront, List.cons_append, List.cons.injEq] at hw
        obtain ⟨rfl, hnext⟩ := hw
        obtain ⟨other, w', rfl, hne⟩ := hfirst u w rfl
        rw [List.cons_append, List.cons.injEq] at hnext
        exact absurd hnext.1.symm hne
  · -- it starts in the mark or after it
    rw [List.append_eq_append_iff] at hu
    rcases hu with ⟨w, rfl, hw⟩ | ⟨w, hrw, hw⟩
    · exact .inr ⟨w, q, by rw [hw, List.append_assoc]⟩
    · rcases List.eq_nil_or_concat w with rfl | ⟨init, last, rfl⟩
      · exact .inr ⟨[], q, hw⟩
      · rw [List.append_eq_append_iff] at hw
        rcases hw with ⟨v, hv, -⟩ | ⟨v, rfl, -⟩
        · -- the rest of the mark is shorter than the occurrence
          have h₁ := congrArg List.length hv
          have h₂ := congrArg List.length hrw
          simp only [List.length_append] at h₁ h₂
          omega
        · rw [hback] at hrw
          have hend : back ++ [c] = u ++ init ∧ [z] = [last] := by
            refine List.append_inj' (?_ : (back ++ [c]) ++ [z] = (u ++ init) ++ [last]) rfl
            simpa using hrw
          obtain rfl := List.singleton_injective hend.2
          obtain ⟨other, w, rfl, hne⟩ := hlast init v (by simp)
          have hcut : back ++ [c] = (u ++ w) ++ [other] := by simpa using hend.1
          exact absurd (List.singleton_injective (List.append_inj' hcut rfl).2).symm hne

/-- What comes before the first place of an element is the same in equal texts. -/
theorem append_cons_inj_of_first {u v : List α} (hx : s ∉ x) (hu : s ∉ u)
    (h : x ++ s :: y = u ++ s :: v) : x = u ∧ y = v := by
  rw [List.append_eq_append_iff] at h
  rcases h with ⟨w, rfl, hw⟩ | ⟨w, rfl, hw⟩
  · rcases w with _ | ⟨first, w⟩
    · rw [List.nil_append, List.cons.injEq] at hw
      exact ⟨(List.append_nil x).symm, hw.2⟩
    · rw [List.cons_append, List.cons.injEq] at hw
      rw [← hw.1] at hu
      exact absurd (List.mem_append_right x (List.mem_cons_self ..)) hu
  · rcases w with _ | ⟨first, w⟩
    · rw [List.nil_append, List.cons.injEq] at hw
      exact ⟨List.append_nil u, hw.2.symm⟩
    · rw [List.cons_append, List.cons.injEq] at hw
      rw [← hw.1] at hx
      exact absurd (List.mem_append_right u (List.mem_cons_self ..)) hx

variable [DecidableEq α]

/-- How often `d` occurs in a text. -/
def occurrences (d : List α) : List α → ℕ
  | [] => if d <+: [] then 1 else 0
  | c :: rest => (if d <+: c :: rest then 1 else 0) + occurrences d rest

theorem occurrences_cons (d : List α) (c : α) (rest : List α) :
    occurrences d (c :: rest) = (if d <+: c :: rest then 1 else 0) + occurrences d rest := rfl

theorem occurrences_eq_zero {t : List α} (h : ¬ d <:+: t) : occurrences d t = 0 := by
  induction t with
  | nil =>
    unfold occurrences
    rw [if_neg]
    exact fun hp => h hp.isInfix
  | cons c rest ih =>
    rw [List.infix_cons_iff, not_or] at h
    rw [occurrences_cons, if_neg h.1, ih h.2]

theorem occurrences_append_cons (hs : s ∉ d) (hd : d ≠ []) :
    occurrences d (x ++ s :: y) = occurrences d x + occurrences d y := by
  induction x with
  | nil =>
    have hnone : occurrences d [] = 0 := occurrences_eq_zero (by rwa [List.infix_nil])
    rw [List.nil_append, occurrences_cons, if_neg (not_prefix_cons hs hd), hnone]
  | cons c x ih =>
    rw [List.cons_append, occurrences_cons, occurrences_cons, ih, ← List.cons_append]
    simp only [prefix_append_cons hs]
    omega

/-- A text occurs once in itself. -/
theorem occurrences_self (hd : d ≠ []) : occurrences d d = 1 := by
  obtain ⟨c, rest, rfl⟩ := List.exists_cons_of_ne_nil hd
  have hshort : ¬ (c :: rest) <:+: rest := by
    intro hi
    have := hi.length_le
    rw [List.length_cons] at this
    omega
  rw [occurrences_cons, if_pos (List.prefix_refl _), occurrences_eq_zero hshort]

/-! ## Splitting and escaping -/

/-- `text.split(d)`, with the number of elements still to pass over, which belong
to the last occurrence. -/
def split (d : List α) : ℕ → List α → List (List α)
  | _, [] => [[]]
  | skip + 1, _ :: rest => split d skip rest
  | 0, c :: rest =>
    if d <+: c :: rest then [] :: split d (d.length - 1) rest
    else (split d 0 rest).modifyHead (c :: ·)

/-- Every occurrence of a delimiter replaced by the mark. -/
def replaceAll (d r text : List α) : List α := join r (split d 0 text)

/-- What splitting leaves are pieces of the text without the delimiter. -/
theorem split_pieces (hd : d ≠ []) (skip : ℕ) (t : List α) :
    ∃ first rest, split d skip t = first :: rest ∧ first <+: t.drop skip ∧ ¬ d <:+: first ∧
      ∀ piece ∈ rest, piece <:+: t ∧ ¬ d <:+: piece := by
  induction t generalizing skip with
  | nil =>
    refine ⟨[], [], by cases skip <;> rfl, List.nil_prefix, by rwa [List.infix_nil], ?_⟩
    intro piece hp
    cases hp
  | cons c t ih =>
    cases skip with
    | succ skip =>
      obtain ⟨first, rest, heq, hfirst, hclean, hrest⟩ := ih skip
      refine ⟨first, rest, heq, hfirst, hclean, fun piece hp => ?_⟩
      exact ⟨List.infix_cons (hrest piece hp).1, (hrest piece hp).2⟩
    | zero =>
      by_cases hp : d <+: c :: t
      · obtain ⟨first, rest, heq, hfirst, hclean, hrest⟩ := ih (d.length - 1)
        refine ⟨[], first :: rest, ?_, List.nil_prefix, by rwa [List.infix_nil], ?_⟩
        · unfold split
          rw [if_pos hp, heq]
        · intro piece hmem
          rcases List.mem_cons.1 hmem with rfl | hmem
          · refine ⟨List.infix_cons ?_, hclean⟩
            exact hfirst.isInfix.trans (List.drop_suffix _ t).isInfix
          · exact ⟨List.infix_cons (hrest piece hmem).1, (hrest piece hmem).2⟩
      · obtain ⟨first, rest, heq, hfirst, hclean, hrest⟩ := ih 0
        have hlonger : c :: first <+: c :: t := by
          rw [List.prefix_cons_inj]
          exact hfirst
        refine ⟨c :: first, rest, ?_, hlonger, ?_, fun piece hmem => ?_⟩
        · unfold split
          rw [if_neg hp, heq]
          rfl
        · rw [List.infix_cons_iff, not_or]
          exact ⟨fun h => hp (h.trans hlonger), hclean⟩
        · exact ⟨List.infix_cons (hrest piece hmem).1, (hrest piece hmem).2⟩

theorem split_clean (hd : d ≠ []) {t piece : List α} (h : piece ∈ split d 0 t) :
    piece <:+: t ∧ ¬ d <:+: piece := by
  obtain ⟨first, rest, heq, hfirst, hclean, hrest⟩ := split_pieces hd 0 t
  rw [heq] at h
  rcases List.mem_cons.1 h with rfl | h
  · exact ⟨hfirst.isInfix, hclean⟩
  · exact hrest piece h

/-- A delimiter that is replaced is gone. -/
theorem replaceAll_clean (hd : d ≠ []) (ha : Apart d r) (t : List α) :
    ¬ d <:+: replaceAll d r t := by
  intro h
  obtain ⟨piece, hpiece, hin⟩ := infix_of_infix_join hd ha h
  exact (split_clean hd hpiece).2 hin

/-- Replacing one delimiter brings no other one in. -/
theorem replaceAll_keeps (hd : d ≠ []) (he : e ≠ []) (ha : Apart e r) {t : List α}
    (ht : ¬ e <:+: t) : ¬ e <:+: replaceAll d r t := by
  intro h
  obtain ⟨piece, hpiece, hin⟩ := infix_of_infix_join he ha h
  exact ht (hin.trans (split_clean hd hpiece).1)

/-- Every delimiter replaced by the mark, one after the other. -/
def escapeAll (delimiters : List (List α)) (r text : List α) : List α :=
  delimiters.foldl (fun escaped d => replaceAll d r escaped) text

theorem escapeAll_keeps {delimiters : List (List α)} (hds : ∀ d ∈ delimiters, d ≠ [])
    (he : e ≠ []) (ha : Apart e r) {t : List α} (ht : ¬ e <:+: t) :
    ¬ e <:+: escapeAll delimiters r t := by
  induction delimiters generalizing t with
  | nil => exact ht
  | cons d rest ih =>
    apply ih fun d' hd' => hds d' (List.mem_cons_of_mem _ hd')
    exact replaceAll_keeps (hds d (List.mem_cons_self ..)) he ha ht

/-- **Escaping leaves no delimiter.** -/
theorem escapeAll_clean {delimiters : List (List α)} (hds : ∀ d ∈ delimiters, d ≠ [])
    (ha : ∀ d ∈ delimiters, Apart d r) (t : List α) (he : e ∈ delimiters) :
    ¬ e <:+: escapeAll delimiters r t := by
  induction delimiters generalizing t with
  | nil => cases he
  | cons d rest ih =>
    have hrest : ∀ d' ∈ rest, d' ≠ [] := fun d' hd' => hds d' (List.mem_cons_of_mem _ hd')
    rcases List.mem_cons.1 he with rfl | he
    · -- once replaced it does not come back
      have hne : e ≠ [] := hds e (List.mem_cons_self ..)
      have hae : Apart e r := ha e (List.mem_cons_self ..)
      exact escapeAll_keeps hrest hne hae (replaceAll_clean hne hae t)
    · exact ih hrest (fun d' hd' => ha d' (List.mem_cons_of_mem _ hd')) _ he

/-! ## Cutting at the delimiters -/

/-- A text cut at its delimiters: what stands before the first one, and each
delimiter with what stands after it. The number is what is still to pass over of
the last delimiter. -/
def cut (delimiters : List (List α)) : ℕ → List α → List α × List (List α × List α)
  | _, [] => ([], [])
  | skip + 1, _ :: rest => cut delimiters skip rest
  | 0, c :: rest =>
    match delimiters.find? (· <+: c :: rest) with
    | some d =>
      let after := cut delimiters (d.length - 1) rest
      ([], (d, after.1) :: after.2)
    | none =>
      let after := cut delimiters 0 rest
      (c :: after.1, after.2)

/-- Delimiters that can be told apart: none is empty, holds the end of a line or
holds another one. -/
structure Delimiters (newline : α) (delimiters : List (List α)) : Prop where
  nonempty : ∀ d ∈ delimiters, d ≠ []
  oneLine : ∀ d ∈ delimiters, newline ∉ d
  antichain : ∀ d ∈ delimiters, ∀ d' ∈ delimiters, d <:+: d' → d = d'
  nodup : delimiters.Nodup

section cutting

variable {newline : α} {delimiters : List (List α)}

theorem cut_skip (x y : List α) : cut delimiters x.length (x ++ y) = cut delimiters 0 y := by
  induction x with
  | nil => rfl
  | cons c x ih => exact ih

theorem cut_cons_none {c : α} {rest : List α}
    (h : delimiters.find? (· <+: c :: rest) = none) :
    cut delimiters 0 (c :: rest)
      = (c :: (cut delimiters 0 rest).1, (cut delimiters 0 rest).2) := by
  rw [cut, h]

theorem cut_cons_some {c : α} {rest : List α}
    (h : delimiters.find? (· <+: c :: rest) = some d) :
    cut delimiters 0 (c :: rest)
      = ([], (d, (cut delimiters (d.length - 1) rest).1) ::
          (cut delimiters (d.length - 1) rest).2) := by
  rw [cut, h]

/-- A line without delimiters is passed over. -/
theorem cut_plain (hds : Delimiters newline delimiters) (hx : ∀ d ∈ delimiters, ¬ d <:+: x) :
    cut delimiters 0 (x ++ newline :: y)
      = (x ++ newline :: (cut delimiters 0 y).1, (cut delimiters 0 y).2) := by
  induction x with
  | nil =>
    have hnone : delimiters.find? (· <+: newline :: y) = none := by
      rw [List.find?_eq_none]
      intro d hd
      rw [decide_eq_true_eq]
      exact not_prefix_cons (hds.oneLine d hd) (hds.nonempty d hd)
    rw [List.nil_append, cut_cons_none hnone]
    rfl
  | cons c x ih =>
    have hnone : delimiters.find? (· <+: c :: x ++ newline :: y) = none := by
      rw [List.find?_eq_none]
      intro d hd
      rw [decide_eq_true_eq, prefix_append_cons (hds.oneLine d hd)]
      exact fun hp => hx d hd hp.isInfix
    have hrest := ih fun d hd hi => hx d hd (List.infix_cons hi)
    rw [List.cons_append] at hnone ⊢
    rw [cut_cons_none hnone, hrest]
    rfl

theorem cut_last (hx : ∀ d ∈ delimiters, ¬ d <:+: x) : cut delimiters 0 x = (x, []) := by
  induction x with
  | nil => rfl
  | cons c x ih =>
    have hnone : delimiters.find? (· <+: c :: x) = none := by
      rw [List.find?_eq_none]
      intro d hd
      rw [decide_eq_true_eq]
      exact fun hp => hx d hd hp.isInfix
    rw [cut_cons_none hnone, ih fun d hd hi => hx d hd (List.infix_cons hi)]

/-- A delimiter is found where it stands. -/
theorem cut_delimiter (hds : Delimiters newline delimiters) (hd : d ∈ delimiters)
    (hy : ∀ d' ∈ delimiters, d' <+: d ++ y → d' <+: d) :
    cut delimiters 0 (d ++ y) = ([], (d, (cut delimiters 0 y).1) :: (cut delimiters 0 y).2) := by
  obtain ⟨c, rest, rfl⟩ := List.exists_cons_of_ne_nil (hds.nonempty d hd)
  have hfound : delimiters.find? (· <+: c :: rest ++ y) = some (c :: rest) := by
    cases hfind : delimiters.find? (· <+: c :: rest ++ y) with
    | none =>
      rw [List.find?_eq_none] at hfind
      have := hfind _ hd
      rw [decide_eq_true_eq] at this
      exact absurd (List.prefix_append _ _) this
    | some d' =>
      have hp := List.find?_some hfind
      rw [decide_eq_true_eq] at hp
      have hmem := List.mem_of_find?_eq_some hfind
      rw [hds.antichain d' hmem _ hd (hy d' hmem hp).isInfix]
  have hskip : cut delimiters rest.length (rest ++ y) = cut delimiters 0 y := cut_skip rest y
  rw [List.cons_append] at hfound ⊢
  rw [cut_cons_some hfound, List.length_cons, Nat.add_sub_cancel, hskip]

/-- A block is cut into its two delimiters, with the content after the first. -/
theorem cut_block (hds : Delimiters newline delimiters) {opening content closing : List α}
    (hopen : opening ∈ delimiters) (hclose : closing ∈ delimiters)
    (hcontent : ∀ d ∈ delimiters, ¬ d <:+: content)
    (hy : ∀ d ∈ delimiters, d <+: closing ++ y → d <+: closing) :
    cut delimiters 0 (opening ++ newline :: (content ++ newline :: (closing ++ y)))
      = ([], (opening, newline :: (content ++ [newline])) ::
          (closing, (cut delimiters 0 y).1) :: (cut delimiters 0 y).2) := by
  have hnone : ∀ d ∈ delimiters, ¬ d <:+: [] := by
    intro d hd h
    exact hds.nonempty d hd (List.infix_nil.1 h)
  have hopening : ∀ d ∈ delimiters,
      d <+: opening ++ newline :: (content ++ newline :: (closing ++ y)) → d <+: opening := by
    intro d hd
    exact (prefix_append_cons (hds.oneLine d hd)).1
  have hline := cut_plain (y := content ++ newline :: (closing ++ y)) hds hnone
  rw [List.nil_append, List.nil_append] at hline
  rw [cut_delimiter hds hopen hopening, hline, cut_plain hds hcontent, cut_delimiter hds hclose hy]

end cutting

/-! ## Documents -/

/-- A line of a document: a text of its own, or a block. -/
inductive Line (α : Type) where
  | plain (text : List α)
  | block (opening content closing : List α)

namespace Line

/-- A line as it is written. -/
def text (newline : α) : Line α → List α
  | .plain text => text
  | .block opening content closing => opening ++ newline :: (content ++ newline :: closing)

def delimiters : Line α → List (List α)
  | .plain _ => []
  | .block opening _ closing => [opening, closing]

def contents : Line α → List (List α)
  | .plain _ => []
  | .block _ content _ => [content]

/-- What of a line is no delimiter. -/
def foreign : Line α → List α
  | .plain text => text
  | .block _ content _ => content

end Line

/-- The lines as one text. -/
def document (newline : α) (lines : List (Line α)) : List α :=
  join [newline] (lines.map (Line.text newline))

/-- The first, the third, the fifth and so on. -/
def everyOther {β : Type} : List β → List β
  | [] => []
  | [x] => [x]
  | x :: _ :: rest => x :: everyOther rest

/-- A text that falls into exactly these contents between these delimiters, an
opening and a closing one by turns. -/
structure Framed (newline : α) (delimiters contents : List (List α)) (text : List α) : Prop where
  once : ∀ d ∈ delimiters, occurrences d text = 1
  order : (cut delimiters 0 text).2.map Prod.fst = delimiters
  contents : everyOther ((cut delimiters 0 text).2.map Prod.snd)
    = contents.map fun content => newline :: (content ++ [newline])

section documents

variable {newline : α} {delimiters : List (List α)} {lines : List (Line α)}

omit [DecidableEq α] in
theorem document_cons (line next : Line α) (rest : List (Line α)) :
    document newline (line :: next :: rest)
      = line.text newline ++ newline :: document newline (next :: rest) := by
  unfold document
  rw [List.map_cons, List.map_cons, join_cons, List.append_assoc]
  rfl

theorem occurrences_line (hds : Delimiters newline delimiters) {line : Line α}
    (hline : ∀ d ∈ line.delimiters, d ∈ delimiters)
    (hclean : ∀ d ∈ delimiters, ¬ d <:+: line.foreign) (hd : d ∈ delimiters) :
    occurrences d (line.text newline) = line.delimiters.count d := by
  have hforeign : occurrences d line.foreign = 0 := occurrences_eq_zero (hclean d hd)
  have hother : ∀ d' ∈ line.delimiters, occurrences d d' = if d' = d then 1 else 0 := by
    intro d' hd'
    split
    · rename_i heq
      rw [heq]
      exact occurrences_self (hds.nonempty d hd)
    · rename_i hne
      exact occurrences_eq_zero fun hi => hne (hds.antichain d hd d' (hline d' hd') hi).symm
  cases line with
  | plain text => exact hforeign
  | block opening content closing =>
    have hopen := hother opening (List.mem_cons_self ..)
    have hclose := hother closing (List.mem_cons_of_mem _ (List.mem_singleton_self _))
    have hcontent : occurrences d content = 0 := hforeign
    have hone := hds.oneLine d hd
    have hne := hds.nonempty d hd
    change occurrences d (opening ++ newline :: (content ++ newline :: closing)) = _
    rw [occurrences_append_cons hone hne, occurrences_append_cons hone hne, hopen, hclose, hcontent]
    simp only [Line.delimiters, List.count_cons, List.count_nil, beq_iff_eq]
    omega

/-- A delimiter occurs as often as the lines are made with it. -/
theorem occurrences_document (hds : Delimiters newline delimiters)
    (hlines : ∀ line ∈ lines, ∀ d ∈ line.delimiters, d ∈ delimiters)
    (hclean : ∀ line ∈ lines, ∀ d ∈ delimiters, ¬ d <:+: line.foreign) (hd : d ∈ delimiters) :
    occurrences d (document newline lines) = (lines.flatMap Line.delimiters).count d := by
  induction lines with
  | nil => exact occurrences_eq_zero fun h => hds.nonempty d hd (List.infix_nil.1 h)
  | cons line rest ih =>
    have hfirst : occurrences d (line.text newline) = line.delimiters.count d :=
      occurrences_line hds (hlines line (List.mem_cons_self ..))
        (hclean line (List.mem_cons_self ..)) hd
    have hrest := ih (fun l hl => hlines l (List.mem_cons_of_mem _ hl))
      (fun l hl => hclean l (List.mem_cons_of_mem _ hl))
    rw [List.flatMap_cons, List.count_append]
    cases rest with
    | nil => exact hfirst
    | cons next rest =>
      rw [document_cons, occurrences_append_cons (hds.oneLine d hd) (hds.nonempty d hd), hfirst,
        hrest]

/-- **Cutting a document** gives its delimiters in order, and after each opening one
the content of its block. -/
theorem cut_document (hds : Delimiters newline delimiters)
    (hlines : ∀ line ∈ lines, ∀ d ∈ line.delimiters, d ∈ delimiters)
    (hclean : ∀ line ∈ lines, ∀ d ∈ delimiters, ¬ d <:+: line.foreign) :
    (cut delimiters 0 (document newline lines)).2.map Prod.fst = lines.flatMap Line.delimiters ∧
      everyOther ((cut delimiters 0 (document newline lines)).2.map Prod.snd)
        = (lines.flatMap Line.contents).map fun content => newline :: (content ++ [newline]) := by
  induction lines with
  | nil => exact ⟨rfl, rfl⟩
  | cons line rest ih =>
    have hfirst := hlines line (List.mem_cons_self ..)
    have hforeign := hclean line (List.mem_cons_self ..)
    obtain ⟨horder, hcontents⟩ := ih (fun l hl => hlines l (List.mem_cons_of_mem _ hl))
      (fun l hl => hclean l (List.mem_cons_of_mem _ hl))
    rw [List.flatMap_cons, List.flatMap_cons]
    cases line with
    | plain text =>
      cases rest with
      | nil =>
        have hcut : cut delimiters 0 (document newline [Line.plain text]) = (text, []) :=
          cut_last hforeign
        rw [hcut]
        exact ⟨rfl, rfl⟩
      | cons next rest =>
        have hplain : ∀ d ∈ delimiters, ¬ d <:+: text := hforeign
        rw [document_cons, Line.text, cut_plain hds hplain]
        exact ⟨horder, hcontents⟩
    | block opening content closing =>
      have hopen : opening ∈ delimiters := hfirst opening (List.mem_cons_self ..)
      have hclose : closing ∈ delimiters :=
        hfirst closing (List.mem_cons_of_mem _ (List.mem_singleton_self _))
      have hcontent : ∀ d ∈ delimiters, ¬ d <:+: content := hforeign
      cases rest with
      | nil =>
        have hdoc : document newline [Line.block opening content closing]
            = opening ++ newline :: (content ++ newline :: (closing ++ [])) := by
          rw [List.append_nil]
          rfl
        rw [hdoc, cut_block hds hopen hclose hcontent (fun d _ hp => by rwa [List.append_nil] at hp)]
        exact ⟨rfl, rfl⟩
      | cons next rest =>
        have hdoc : document newline (Line.block opening content closing :: next :: rest)
            = opening ++ newline :: (content ++ newline ::
                (closing ++ newline :: document newline (next :: rest))) := by
          rw [document_cons]
          simp [Line.text]
        have hnext : ∀ d ∈ delimiters, ¬ d <:+: [] := fun d hd h =>
          hds.nonempty d hd (List.infix_nil.1 h)
        have hline := cut_plain (y := document newline (next :: rest)) hds hnext
        rw [List.nil_append, List.nil_append] at hline
        rw [hdoc, cut_block hds hopen hclose hcontent
          (fun d hd => (prefix_append_cons (hds.oneLine d hd)).1), hline]
        constructor
        · rw [List.map_cons, List.map_cons, horder]
          rfl
        · rw [List.map_cons, List.map_cons, everyOther, hcontents]
          rfl

/-- **A document is framed** by the delimiters of its blocks. -/
theorem framed_document (hds : Delimiters newline delimiters)
    (hlines : lines.flatMap Line.delimiters = delimiters)
    (hclean : ∀ line ∈ lines, ∀ d ∈ delimiters, ¬ d <:+: line.foreign) :
    Framed newline delimiters (lines.flatMap Line.contents) (document newline lines) := by
  have hmem : ∀ line ∈ lines, ∀ d ∈ line.delimiters, d ∈ delimiters := by
    intro line hl d hd
    rw [← hlines]
    exact List.mem_flatMap.2 ⟨line, hl, hd⟩
  obtain ⟨horder, hcontents⟩ := cut_document hds hmem hclean
  refine ⟨fun d hd => ?_, horder.trans hlines, hcontents⟩
  rw [occurrences_document hds hmem hclean hd, hlines]
  exact List.count_eq_one_of_mem hds.nodup hd

end documents

end Framing
