/-
Where a text is first found in another.

`List.dropInfix?` gives what stands before the first place where a list occurs, and what
stands behind it. Texts are put together from parts here: a character that is not in what
is looked for keeps the parts before and behind it apart.
-/
import Mathlib.Data.List.Basic
import Mathlib.Data.Nat.Find
import Mathlib.Tactic.Common

set_option autoImplicit false

namespace Search

variable {α : Type} [DecidableEq α] {part text before behind : List α}

theorem dropInfix_eq_some : text.dropInfix? part = some (before, behind) ↔
    text = before ++ part ++ behind ∧
      ∀ before' behind', text = before' ++ part ++ behind' → before.length ≤ before'.length := by
  rw [List.dropInfix?_eq_some_iff]
  simp only [beq_iff_eq]
  constructor
  · rintro ⟨⟨found, htext, rfl⟩, hfirst⟩
    exact ⟨htext, fun before' behind' h => hfirst before' found behind' h rfl⟩
  · rintro ⟨htext, hfirst⟩
    exact ⟨⟨part, htext, rfl⟩, fun before' found behind' h hfound => by
      subst hfound
      exact hfirst before' behind' h⟩

theorem dropInfix_eq_none : text.dropInfix? part = none ↔ ¬part <:+: text := by
  constructor
  · rintro hnone ⟨before, behind, htext⟩
    -- of the places where it occurs one is the first
    let place := fun n => ∃ before behind, text = before ++ part ++ behind ∧ before.length = n
    have hplace : ∃ n, place n := ⟨_, before, behind, htext.symm, rfl⟩
    classical
    obtain ⟨first, rest, hfirst, hlength⟩ := Nat.find_spec hplace
    have hsome : text.dropInfix? part = some (first, rest) :=
      dropInfix_eq_some.2 ⟨hfirst, fun before' behind' h => by
        rw [hlength]
        exact Nat.find_min' hplace ⟨before', behind', h, rfl⟩⟩
    rw [hnone] at hsome
    cases hsome
  · intro hpart
    cases hfound : text.dropInfix? part with
    | none => rfl
    | some found => exact absurd ⟨found.1, found.2, (dropInfix_eq_some.1 hfound).1.symm⟩ hpart

omit [DecidableEq α] in
/-- A character that is not in the part ends a place where it occurs. -/
theorem prefix_of_prefix_append_cons {c : α} (hc : c ∉ part) (h : part <+: before ++ c :: behind) :
    part <+: before := by
  obtain hprefix | ⟨rest, rfl⟩ := List.prefix_or_prefix_of_prefix h (List.prefix_append _ _)
  · exact hprefix
  · cases rest with
    | nil => simp
    | cons d rest =>
      rw [List.prefix_append_right_inj, List.cons_prefix_cons] at h
      exact absurd (by simp [h.1]) hc

/-- Nothing is found before such a character where the part does not occur there. -/
theorem dropInfix_append_cons {c : α} (hc : c ∉ part) (h : ¬part <:+: before) :
    (before ++ c :: behind).dropInfix? part =
      (behind.dropInfix? part).map fun found => (before ++ c :: found.1, found.2) := by
  -- a place where the part occurs lies behind the character
  have hplace : ∀ before' behind', before ++ c :: behind = before' ++ part ++ behind' →
      ∃ between, before' = before ++ c :: between ∧ behind = between ++ part ++ behind' := by
    intro before' behind' htext
    rw [List.append_assoc, List.append_eq_append_iff] at htext
    obtain ⟨between, rfl, hbehind⟩ | ⟨between, rfl, hbehind⟩ := htext
    · cases between with
      | nil =>
        rw [List.nil_append] at hbehind
        cases part with
        | nil => exact absurd List.nil_infix h
        | cons d part =>
          obtain ⟨rfl, -⟩ := List.cons.inj hbehind
          exact absurd List.mem_cons_self hc
      | cons d between =>
        obtain ⟨rfl, hrest⟩ := List.cons.inj hbehind
        exact ⟨between, rfl, by rw [List.append_assoc]; exact hrest⟩
    · have hprefix : part <+: between ++ c :: behind := ⟨behind', hbehind⟩
      obtain ⟨rest, rfl⟩ := prefix_of_prefix_append_cons hc hprefix
      exact absurd ⟨before', rest, by simp⟩ h
  cases hfound : behind.dropInfix? part with
  | none =>
    rw [Option.map_none, dropInfix_eq_none]
    rintro ⟨before', behind', htext⟩
    obtain ⟨between, -, hbehind⟩ := hplace before' behind' htext.symm
    exact dropInfix_eq_none.1 hfound ⟨between, behind', hbehind.symm⟩
  | some found =>
    obtain ⟨hbehind, hfirst⟩ := dropInfix_eq_some.1 hfound
    rw [Option.map_some, dropInfix_eq_some]
    refine ⟨by simp [hbehind], fun before' behind' htext => ?_⟩
    obtain ⟨between, rfl, hbetween⟩ := hplace before' behind' htext
    have := hfirst between behind' hbetween
    simp only [List.length_append, List.length_cons]
    omega

/-- What is found in a text is found first, whatever stands behind it. -/
theorem dropInfix_append (h : text.dropInfix? part = some (before, behind)) (rest : List α) :
    (text ++ rest).dropInfix? part = some (before, behind ++ rest) := by
  obtain ⟨htext, hfirst⟩ := dropInfix_eq_some.1 h
  rw [dropInfix_eq_some]
  refine ⟨by simp [htext], fun before' behind' h' => ?_⟩
  by_contra hshort
  -- an earlier place would lie in the text
  have hprefix : before' ++ part <+: text :=
    List.prefix_of_prefix_length_le ⟨behind', h'.symm⟩ (List.prefix_append text rest) (by
      rw [htext]
      simp only [List.length_append]
      omega)
  obtain ⟨between, hbetween⟩ := hprefix
  exact hshort (hfirst before' between hbetween.symm)

end Search
