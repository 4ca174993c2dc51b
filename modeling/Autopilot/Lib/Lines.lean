/-
The lines of a text.

A line is what a newline ends, the newline included; what stands behind the last newline
is a line as well. A text is cut between two lines where the part in front is empty, ends
in a newline or is the whole text.
-/
import Mathlib.Data.List.Basic
import Mathlib.Data.List.Induction
import Mathlib.Tactic.Common

set_option autoImplicit false

namespace Lines

variable {α : Type} {newline : α}

/-- No line is begun at the end of the text. -/
def EndsLine (newline : α) (text : List α) : Prop :=
  text = [] ∨ ∃ body, text = body ++ [newline]

theorem EndsLine.nil : EndsLine newline [] := .inl rfl

theorem EndsLine.snoc (body : List α) : EndsLine newline (body ++ [newline]) := .inr ⟨body, rfl⟩

theorem EndsLine.tail {c : α} {rest : List α} (h : EndsLine newline (c :: rest)) :
    EndsLine newline rest := by
  rcases h with h | ⟨body, h⟩
  · simp at h
  · cases body with
    | nil =>
      rw [List.nil_append] at h
      exact .inl (List.cons.inj h).2
    | cons d body => exact .inr ⟨body, (List.cons.inj h).2⟩

theorem EndsLine.cons {c : α} {rest : List α} (hne : rest ≠ []) (h : EndsLine newline rest) :
    EndsLine newline (c :: rest) := by
  obtain ⟨body, rfl⟩ := h.resolve_left hne
  exact .inr ⟨c :: body, rfl⟩

variable [DecidableEq α]

/-- A text is some whole lines and a beginning of one. -/
theorem exists_lastLine (newline : α) (text : List α) :
    ∃ front last, text = front ++ last ∧ EndsLine newline front ∧ newline ∉ last := by
  induction text using List.reverseRecOn with
  | nil => exact ⟨[], [], rfl, .nil, by simp⟩
  | append_singleton text c ih =>
    by_cases hc : c = newline
    · exact ⟨text ++ [c], [], by simp, hc ▸ .snoc text, by simp⟩
    · obtain ⟨front, last, rfl, hfront, hlast⟩ := ih
      refine ⟨front, last ++ [c], by simp, hfront, ?_⟩
      simpa [hlast] using fun h => hc h.symm

/-- The lines of a text, each with the newline that ends it. -/
def lines (newline : α) : List α → List (List α)
  | [] => []
  | c :: rest =>
    if c = newline then [c] :: lines newline rest
    else match lines newline rest with
      | [] => [[c]]
      | line :: more => (c :: line) :: more

@[simp] theorem lines_nil : lines newline ([] : List α) = [] := rfl

theorem lines_newline (rest : List α) :
    lines newline (newline :: rest) = [newline] :: lines newline rest := by
  rw [lines, if_pos rfl]

/-- A unit in front of a line belongs to the line. -/
theorem lines_cons {c : α} (hc : c ≠ newline) {rest line : List α} {more : List (List α)}
    (h : lines newline rest = line :: more) : lines newline (c :: rest) = (c :: line) :: more := by
  rw [lines, if_neg hc, h]

theorem lines_ne_nil {text : List α} (h : text ≠ []) : lines newline text ≠ [] := by
  cases text with
  | nil => exact absurd rfl h
  | cons c rest =>
    rw [lines]
    split_ifs
    · simp
    · split
      · simp
      · simp

@[simp] theorem flatten_lines (text : List α) : (lines newline text).flatten = text := by
  induction text with
  | nil => rfl
  | cons c rest ih =>
    by_cases hc : c = newline
    · rw [hc, lines_newline, List.flatten_cons, ih]
      rfl
    · cases hrest : lines newline rest with
      | nil =>
        have hempty : rest = [] := by
          by_contra hne
          exact lines_ne_nil hne hrest
        rw [hempty, lines, if_neg hc]
        rfl
      | cons line more =>
        rw [hrest] at ih
        rw [lines_cons hc hrest, ← ih]
        rfl

theorem ne_nil_of_mem_lines {text line : List α} (h : line ∈ lines newline text) : line ≠ [] := by
  induction text generalizing line with
  | nil => simp at h
  | cons c rest ih =>
    by_cases hc : c = newline
    · rw [hc, lines_newline, List.mem_cons] at h
      rcases h with rfl | h
      · simp
      · exact ih h
    · cases hrest : lines newline rest with
      | nil =>
        rw [lines, if_neg hc, hrest] at h
        rw [List.mem_singleton.1 h]
        simp
      | cons first more =>
        rw [lines_cons hc hrest, List.mem_cons] at h
        rcases h with rfl | h
        · simp
        · exact ih (hrest ▸ List.mem_cons_of_mem _ h)

/-- What follows a text that ends its line makes lines of its own. -/
theorem lines_append {front : List α} (h : EndsLine newline front) (back : List α) :
    lines newline (front ++ back) = lines newline front ++ lines newline back := by
  induction front with
  | nil => rfl
  | cons c rest ih =>
    have hrest := ih h.tail
    by_cases hc : c = newline
    · rw [hc, List.cons_append, lines_newline, lines_newline, hrest, List.cons_append]
    · have hne : rest ≠ [] := by
        rintro rfl
        rcases h with h | ⟨body, h⟩
        · simp at h
        · cases body with
          | nil =>
            rw [List.nil_append] at h
            exact hc (List.cons.inj h).1
          | cons d body => simp at h
      cases hlines : lines newline rest with
      | nil => exact absurd hlines (lines_ne_nil hne)
      | cons line more =>
        rw [hlines] at hrest
        rw [List.cons_append, lines_cons hc hrest, lines_cons hc hlines]
        rfl

/-- The first lines of a text end there, or they are the whole text. -/
theorem endsLine_take (text : List α) (k : ℕ) :
    EndsLine newline ((lines newline text).take k).flatten ∨
      ((lines newline text).take k).flatten = text := by
  induction text generalizing k with
  | nil => simp
  | cons c rest ih =>
    cases k with
    | zero => exact .inl .nil
    | succ k =>
      by_cases hc : c = newline
      · subst hc
        rw [lines_newline, List.take_succ_cons, List.flatten_cons]
        rcases ih k with hends | hall
        · by_cases hempty : ((lines c rest).take k).flatten = []
          · rw [hempty]
            exact .inl (.snoc [])
          · exact .inl (hends.cons hempty)
        · rw [hall]
          exact .inr rfl
      · cases hrest : lines newline rest with
        | nil =>
          have hempty : rest = [] := by
            by_contra hne
            exact lines_ne_nil hne hrest
          rw [hempty, lines, if_neg hc]
          simp
        | cons line more =>
          have hline : line ≠ [] :=
            ne_nil_of_mem_lines (by rw [hrest]; exact List.mem_cons_self ..)
          have htake : ((lines newline (c :: rest)).take (k + 1)).flatten =
              c :: ((lines newline rest).take (k + 1)).flatten := by
            rw [lines_cons hc hrest, hrest]
            rfl
          rw [htake]
          rcases ih (k + 1) with hends | hall
          · refine .inl (hends.cons ?_)
            rw [hrest, List.take_succ_cons, List.flatten_cons]
            simp [hline]
          · rw [hall]
            exact .inr rfl

/-- The text is cut between two lines behind `front`, or behind the last line. -/
def Cut (newline : α) (text front : List α) : Prop :=
  front <+: text ∧ (EndsLine newline front ∨ front = text)

theorem cut_iff {text front : List α} :
    Cut newline text front ↔ ∃ k, front = ((lines newline text).take k).flatten := by
  constructor
  · rintro ⟨⟨back, rfl⟩, hends | hall⟩
    · refine ⟨(lines newline front).length, ?_⟩
      rw [lines_append hends, List.take_left, flatten_lines]
    · refine ⟨(lines newline (front ++ back)).length, ?_⟩
      rw [List.take_length, flatten_lines]
      exact hall
  · rintro ⟨k, rfl⟩
    refine ⟨⟨((lines newline text).drop k).flatten, ?_⟩, endsLine_take text k⟩
    rw [← List.flatten_append, List.take_append_drop, flatten_lines]

/-- Two neighbouring parts of a text that are whole lines, by where the text is cut. -/
theorem exists_parts_iff {text middle back : List α} {n : ℕ} :
    (∃ k j, middle = (((lines newline text).drop k).take j).flatten ∧
        back = ((lines newline text).drop (k + j)).flatten ∧
        ((lines newline text).take k).flatten.length ≤ n) ↔
      ∃ front, text = front ++ middle ++ back ∧ Cut newline text front ∧
        Cut newline text (front ++ middle) ∧ front.length ≤ n := by
  have hall (k : ℕ) : text = ((lines newline text).take k).flatten ++
      ((lines newline text).drop k).flatten := by
    rw [← List.flatten_append, List.take_append_drop, flatten_lines]
  constructor
  · rintro ⟨k, j, rfl, rfl, hle⟩
    have htake : ((lines newline text).take k).flatten ++
        (((lines newline text).drop k).take j).flatten =
        ((lines newline text).take (k + j)).flatten := by
      rw [List.take_add, List.flatten_append]
    refine ⟨((lines newline text).take k).flatten, ?_, cut_iff.2 ⟨k, rfl⟩, ?_, hle⟩
    · rw [htake]
      exact hall (k + j)
    · rw [htake]
      exact cut_iff.2 ⟨k + j, rfl⟩
  · rintro ⟨front, htext, hfront, hmiddle, hle⟩
    obtain ⟨k, hk⟩ := cut_iff.1 hfront
    obtain ⟨k', hk'⟩ := cut_iff.1 hmiddle
    by_cases hlt : k ≤ k'
    · obtain ⟨j, rfl⟩ := Nat.exists_eq_add_of_le hlt
      refine ⟨k, j, ?_, ?_, hk ▸ hle⟩
      · rw [List.take_add, List.flatten_append, ← hk] at hk'
        exact List.append_cancel_left hk'
      · have hback := htext.symm.trans (hall (k + j))
        rw [← hk'] at hback
        exact List.append_cancel_left hback
    · -- the second cut is not before the first, so there is nothing between them
      have hshort : ((lines newline text).take k').flatten <+: front := by
        obtain ⟨j, hj⟩ := Nat.exists_eq_add_of_lt (Nat.lt_of_not_le hlt)
        rw [hk, hj, Nat.add_assoc, List.take_add, List.flatten_append]
        exact List.prefix_append ..
      have hlength := hshort.length_le
      rw [← hk', List.length_append] at hlength
      have hempty : middle = [] := List.eq_nil_of_length_eq_zero (by omega)
      refine ⟨k, 0, ?_, ?_, hk ▸ hle⟩
      · rw [hempty]
        rfl
      · have hback := htext.symm.trans (hall k)
        rw [hempty, List.append_nil, ← hk] at hback
        exact List.append_cancel_left hback

end Lines
