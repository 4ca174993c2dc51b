/-
Readers of a text, and the search for the places where one reads.

A reader reads at the front of a text and leaves the rest. Many readers are local: there is a unit
they never read, and so it makes no difference to them what stands from such a unit on. The search
tries the places of a text from left to right; it finds in a text what it finds in its front part,
or else what it finds behind it.
-/
import Mathlib.Data.List.Infix
import Mathlib.Tactic.Common

set_option autoImplicit false

namespace Searches

variable {α β γ : Type}

/-- What is read at the front of a text, and what is left. -/
abbrev Reader (α β : Type) := List α → Option (β × List α)

/-- One reader behind another one. -/
def Reader.andThen (p : Reader α β) (q : β → Reader α γ) : Reader α γ := fun text =>
  (p text).bind fun r => q r.1 r.2

/-- As many units as there are of a kind, one at least. -/
def taken (among : α → Bool) : Reader α (List α) := fun text =>
  if text.takeWhile among = [] then none
  else some (text.takeWhile among, text.dropWhile among)

/-- A word, unit by unit up to what counts as the same. -/
def literal (same : α → α → Bool) : List α → Reader α Unit
  | [], text => some ((), text)
  | _ :: _, [] => none
  | c :: word, d :: text => if same c d then literal same word text else none

/-- The first place where a reader reads: how many units are left there, what it reads, and what is
left behind that. -/
def search (p : Reader α β) : List α → Option (ℕ × β × List α)
  | [] => (p []).map fun r => (0, r)
  | c :: rest =>
    match p (c :: rest) with
    | some r => some (rest.length + 1, r)
    | none => search p rest

/-- What a reader reads at the first place where it does. -/
def Reader.later (p : Reader α β) : Reader α β := fun text => (search p text).map Prod.snd

/-- The places where a reader reads, each behind what was read before. -/
def searchAll (p : Reader α β) : ℕ → List α → List (ℕ × β)
  | 0, _ => []
  | fuel + 1, text =>
    match search p text with
    | none => []
    | some (place, value, rest) => (place, value) :: searchAll p fuel rest

/-! ## Local readers -/

/-- What stands from the unit on makes no difference to the reader. -/
def Local (stop : α) (p : Reader α β) : Prop :=
  ∀ text more : List α, (∀ c ∈ more.head?, c = stop) →
    p (text ++ more) = (p text).map fun r => (r.1, r.2 ++ more)

section localReaders

variable {stop : α} {p : Reader α β} {q : β → Reader α γ}

theorem Local.andThen (hp : Local stop p) (hq : ∀ b, Local stop (q b)) :
    Local stop (p.andThen q) := by
  intro text more hmore
  unfold Reader.andThen
  rw [hp text more hmore]
  cases p text with
  | none => rfl
  | some r => exact hq r.1 r.2 more hmore

theorem local_some (b : β) : Local stop (fun text : List α => some (b, text)) :=
  fun _ _ _ => rfl

/-- Where the front part ends, a run of units ends too if the next unit is none of them. -/
theorem takeWhile_append_stop {among : α → Bool} (h : among stop = false) (text : List α)
    {more : List α} (hmore : ∀ c ∈ more.head?, c = stop) :
    (text ++ more).takeWhile among = text.takeWhile among ∧
      (text ++ more).dropWhile among = text.dropWhile among ++ more := by
  induction text with
  | nil =>
    cases more with
    | nil => exact ⟨rfl, rfl⟩
    | cons c more =>
      obtain rfl : c = stop := hmore c rfl
      simp [h]
  | cons c text ih =>
    rw [List.cons_append]
    by_cases hc : among c = true
    · rw [List.takeWhile_cons_of_pos hc, List.takeWhile_cons_of_pos hc,
        List.dropWhile_cons_of_pos hc, List.dropWhile_cons_of_pos hc, ih.1, ih.2]
      exact ⟨rfl, rfl⟩
    · rw [List.takeWhile_cons_of_neg hc, List.takeWhile_cons_of_neg hc,
        List.dropWhile_cons_of_neg hc, List.dropWhile_cons_of_neg hc]
      exact ⟨rfl, rfl⟩

/-- A run ends in the text if there is a unit in it that does not belong to the run. -/
theorem taken_append_of_mem {among : α → Bool} {c : α} (hc : among c = false) {text : List α}
    (h : c ∈ text) (more : List α) :
    taken among (text ++ more) = (taken among text).map fun r => (r.1, r.2 ++ more) := by
  have hruns : (text ++ more).takeWhile among = text.takeWhile among ∧
      (text ++ more).dropWhile among = text.dropWhile among ++ more := by
    induction text with
    | nil => exact absurd h List.not_mem_nil
    | cons d text ih =>
      rw [List.cons_append]
      by_cases hd : among d = true
      · have hmem : c ∈ text := (List.mem_cons.1 h).resolve_left fun heq => by
          rw [heq, hd] at hc
          cases hc
        rw [List.takeWhile_cons_of_pos hd, List.takeWhile_cons_of_pos hd,
          List.dropWhile_cons_of_pos hd, List.dropWhile_cons_of_pos hd, (ih hmem).1, (ih hmem).2]
        exact ⟨rfl, rfl⟩
      · rw [List.takeWhile_cons_of_neg hd, List.takeWhile_cons_of_neg hd,
          List.dropWhile_cons_of_neg hd, List.dropWhile_cons_of_neg hd]
        exact ⟨rfl, rfl⟩
  unfold taken
  rw [hruns.1, hruns.2]
  split <;> rfl

theorem taken_cons {among : α → Bool} {c : α} (hc : among c = true) (text : List α) :
    taken among (c :: text) = some (c :: text.takeWhile among, text.dropWhile among) := by
  unfold taken
  rw [List.takeWhile_cons_of_pos hc, List.dropWhile_cons_of_pos hc, if_neg (List.cons_ne_nil _ _)]

theorem local_taken {among : α → Bool} (h : among stop = false) : Local stop (taken among) := by
  intro text more hmore
  obtain ⟨htake, hdrop⟩ := takeWhile_append_stop h text hmore
  unfold taken
  rw [htake, hdrop]
  split <;> rfl

theorem local_literal {same : α → α → Bool} {word : List α}
    (h : ∀ c ∈ word, same c stop = false) : Local stop (literal same word) := by
  intro text more hmore
  induction word generalizing text with
  | nil => rfl
  | cons c word ih =>
    have hword : ∀ d ∈ word, same d stop = false := fun d hd => h d (List.mem_cons_of_mem _ hd)
    cases text with
    | nil =>
      cases more with
      | nil => rfl
      | cons d more =>
        obtain rfl : d = stop := hmore d rfl
        show (if same c d then literal same word more else none) = none
        rw [h c List.mem_cons_self]
        rfl
    | cons d text =>
      rw [List.cons_append, literal, literal]
      split
      · exact ih hword text
      · rfl

/-- A word that starts with the unit is local everywhere but at the end of the text. -/
theorem literal_append {same : α → α → Bool} {c : α} {word : List α}
    (h : ∀ d ∈ word, same d stop = false) {text : List α} (htext : text ≠ []) {more : List α}
    (hmore : ∀ c ∈ more.head?, c = stop) :
    literal same (c :: word) (text ++ more) =
      (literal same (c :: word) text).map fun r => (r.1, r.2 ++ more) := by
  cases text with
  | nil => exact absurd rfl htext
  | cons d text =>
    rw [List.cons_append, literal, literal]
    split
    · exact local_literal h text more hmore
    · rfl

end localReaders

/-! ## Words -/

section words

variable {same : α → α → Bool}

theorem literal_self (h : ∀ c, same c c = true) (word rest : List α) :
    literal same word (word ++ rest) = some ((), rest) := by
  induction word with
  | nil => rfl
  | cons c word ih => rw [List.cons_append, literal, if_pos (h c), ih]

/-- A longer word is read where the shorter one is, and what is behind that. -/
theorem literal_append_word (word more text : List α) :
    literal same (word ++ more) text =
      (literal same word text).bind fun r => literal same more r.2 := by
  induction word generalizing text with
  | nil => rfl
  | cons c word ih =>
    cases text with
    | nil => rfl
    | cons d text =>
      rw [List.cons_append, literal, literal]
      split
      · exact ih text
      · rfl

/-- Each unit of a word that is read is in the text. -/
theorem mem_of_literal {word text : List α} {r : Unit × List α}
    (h : literal same word text = some r) : ∀ c ∈ word, ∃ d ∈ text, same c d = true := by
  induction word generalizing text with
  | nil => exact fun c hc => absurd hc List.not_mem_nil
  | cons c word ih =>
    cases text with
    | nil => cases h
    | cons d text =>
      rw [literal] at h
      split at h
      · rw [List.forall_mem_cons]
        refine ⟨⟨d, List.mem_cons_self, ‹_›⟩, fun c' hc' => ?_⟩
        obtain ⟨d', hd', hsame⟩ := ih h c' hc'
        exact ⟨d', List.mem_cons_of_mem d hd', hsame⟩
      · cases h

end words

/-! ## What is left -/

/-- What is left is the end of the text. -/
def Shrinks (p : Reader α β) : Prop := ∀ text r, p text = some r → r.2 <:+ text

theorem Shrinks.andThen {p : Reader α β} {q : β → Reader α γ} (hp : Shrinks p)
    (hq : ∀ b, Shrinks (q b)) : Shrinks (p.andThen q) := by
  intro text r h
  obtain ⟨mid, hmid, h⟩ := Option.bind_eq_some_iff.1 h
  exact (hq mid.1 mid.2 r h).trans (hp text mid hmid)

theorem shrinks_some (b : β) : Shrinks (fun text : List α => some (b, text)) := by
  intro text r h
  obtain rfl := Option.some.inj h
  exact List.suffix_refl _

theorem shrinks_taken (among : α → Bool) : Shrinks (taken among) := by
  intro text r h
  unfold taken at h
  split at h
  · cases h
  · obtain rfl := Option.some.inj h
    exact List.dropWhile_suffix _

theorem shrinks_literal (same : α → α → Bool) (word : List α) : Shrinks (literal same word) := by
  intro text r h
  induction word generalizing text with
  | nil =>
    obtain rfl := Option.some.inj h
    exact List.suffix_refl _
  | cons c word ih =>
    cases text with
    | nil => cases h
    | cons d text =>
      rw [literal] at h
      split at h
      · exact (ih text h).trans (List.suffix_cons d text)
      · cases h

/-! ## The search -/

section searches

variable {stop : α} {p : Reader α β}

theorem search_of_some {text rest : List α} {b : β} (h : p text = some (b, rest)) :
    search p text = some (text.length, b, rest) := by
  cases text with
  | nil => rw [search, h]; rfl
  | cons c text => rw [search, h]; rfl

theorem search_cons_of_none {c : α} {text : List α} (h : p (c :: text) = none) :
    search p (c :: text) = search p text := by rw [search, h]

/-- Nothing is found where the reader reads nowhere. -/
theorem search_eq_none_iff {text : List α} :
    search p text = none ↔ ∀ part, part <:+ text → p part = none := by
  induction text with
  | nil =>
    rw [search, Option.map_eq_none_iff]
    constructor
    · intro h part hpart
      rwa [List.suffix_nil.1 hpart]
    · exact fun h => h [] (List.suffix_refl _)
  | cons c text ih =>
    constructor
    · intro h part hpart
      cases hp : p (c :: text) with
      | some r => rw [search, hp] at h; cases h
      | none =>
        rw [search_cons_of_none hp] at h
        rcases List.suffix_cons_iff.1 hpart with rfl | hpart
        · exact hp
        · exact ih.1 h part hpart
    · intro h
      rw [search_cons_of_none (h _ (List.suffix_refl _))]
      exact ih.2 fun part hpart => h part (hpart.trans (List.suffix_cons c text))

/-- What is found behind a part where the reader does not read is found. -/
theorem search_append_of_none {text more : List α}
    (h : ∀ part, part ≠ [] → part <:+ text → p (part ++ more) = none) :
    search p (text ++ more) = search p more := by
  induction text with
  | nil => rfl
  | cons c text ih =>
    rw [List.cons_append, search_cons_of_none, ih]
    · exact fun part hne hpart => h part hne (hpart.trans (List.suffix_cons c text))
    · exact h (c :: text) (List.cons_ne_nil _ _) (List.suffix_refl _)

/-- A local reader is found in the front part, or else behind it. -/
theorem search_append (hp : Local stop p) (hnil : p [] = none) (text : List α) {more : List α}
    (hmore : ∀ c ∈ more.head?, c = stop) :
    search p (text ++ more) =
      match search p text with
      | some (place, b, rest) => some (place + more.length, b, rest ++ more)
      | none => search p more := by
  induction text with
  | nil =>
    rw [search, hnil]
    rfl
  | cons c text ih =>
    have hlocal := hp (c :: text) more hmore
    rw [List.cons_append] at hlocal ⊢
    rw [search, hlocal]
    cases hread : p (c :: text) with
    | some r =>
      rw [search, hread, Option.map_some]
      dsimp only
      rw [List.length_append, Nat.add_right_comm]
    | none =>
      rw [search_cons_of_none hread, Option.map_none]
      exact ih

/-- What is left is a part of the text, if it is for the reader. -/
theorem search_suffix (hp : Shrinks p) {text rest : List α}
    {place : ℕ} {b : β} (h : search p text = some (place, b, rest)) :
    rest <:+ text ∧ place ≤ text.length := by
  induction text with
  | nil =>
    rw [search] at h
    obtain ⟨r, hr, heq⟩ := Option.map_eq_some_iff.1 h
    obtain ⟨rfl, rfl, rfl⟩ := heq
    exact ⟨hp _ _ hr, Nat.le_refl _⟩
  | cons c text ih =>
    cases hread : p (c :: text) with
    | some r =>
      rw [search_of_some hread] at h
      obtain ⟨rfl, rfl, rfl⟩ := h
      exact ⟨hp _ _ hread, Nat.le_refl _⟩
    | none =>
      rw [search_cons_of_none hread] at h
      obtain ⟨hsuffix, hplace⟩ := ih h
      exact ⟨hsuffix.trans (List.suffix_cons c text), Nat.le_succ_of_le hplace⟩

/-- What is looked for behind a word is looked for behind the first place of the word: if it is not
found there, it is not found behind a later one. -/
theorem search_andThen_later {p : Reader α Unit} {q : Reader α β} {text rest : List α}
    (hp : Shrinks p) (hread : p text = some ((), rest))
    (hnone : search q rest = none → search q text = none) :
    (search (p.andThen fun _ => q.later) text).map Prod.snd = (search q rest).map Prod.snd := by
  have hfront : (p.andThen fun _ => q.later) text = (search q rest).map Prod.snd := by
    unfold Reader.andThen Reader.later
    rw [hread, Option.bind_some]
  cases hq : search q rest with
  | some m =>
    obtain ⟨place, b, left⟩ := m
    rw [hq] at hfront
    rw [search_of_some hfront]
    rfl
  | none =>
    rw [Option.map_none, Option.map_eq_none_iff]
    refine search_eq_none_iff.2 fun part hpart => ?_
    unfold Reader.andThen Reader.later
    cases hpartRead : p part with
    | none => rfl
    | some r =>
      rw [Option.bind_some, Option.map_eq_none_iff]
      have htext := search_eq_none_iff.1 (hnone hq)
      exact search_eq_none_iff.2 fun part' hpart' =>
        htext part' (hpart'.trans ((hp _ _ hpartRead).trans hpart))

/-- The value of a search is read at some place. -/
theorem exists_of_search {text : List α} {found : ℕ × β × List α} (h : search p text = some found) :
    ∃ part, part <:+ text ∧ p part = some found.2 := by
  induction text with
  | nil =>
    obtain ⟨r, hr, rfl⟩ := Option.map_eq_some_iff.1 h
    exact ⟨[], List.suffix_refl _, hr⟩
  | cons c text ih =>
    cases hread : p (c :: text) with
    | some r =>
      rw [search_of_some hread] at h
      obtain rfl := Option.some.inj h
      exact ⟨c :: text, List.suffix_refl _, hread⟩
    | none =>
      rw [search_cons_of_none hread] at h
      obtain ⟨part, hpart, hp⟩ := ih h
      exact ⟨part, hpart.trans (List.suffix_cons c text), hp⟩

theorem searchAll_congr {text text' : List α} (h : search p text = search p text') (fuel : ℕ) :
    searchAll p fuel text = searchAll p fuel text' := by
  cases fuel with
  | zero => rfl
  | succ fuel => rw [searchAll, searchAll, h]

theorem searchAll_of_none {text : List α} (h : search p text = none) (fuel : ℕ) :
    searchAll p fuel text = [] := by
  cases fuel with
  | zero => rfl
  | succ fuel => rw [searchAll, h]

end searches

end Searches
