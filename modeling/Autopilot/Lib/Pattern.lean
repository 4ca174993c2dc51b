/-
Patterns of a backtracking matcher, and the replacement of all they match.

A pattern is tried at a place of a text, and what it gives is the list of the places
where a match can end, the one the matcher prefers first. A repetition is greedy: it
prefers to go on. What follows a pattern takes the first of its ends it can go on from,
which is what trying the alternatives in order and going back comes to.

A place keeps what stands before it, since an assertion looks at both neighbours. In a
replacement the neighbours are those of the text that is searched, never the ones of
the text that is written.
-/
import Mathlib.Data.List.Infix
import Mathlib.Tactic.Common

set_option autoImplicit false

namespace Patterns

variable {α : Type}

/-- A place in a text: what stands before it, the last unit first, and what is left. -/
structure Place (α : Type) where
  before : List α
  after : List α

inductive Pattern (α : Type) where
  /-- One unit. -/
  | one (among : α → Bool)
  | empty
  | seq (p q : Pattern α)
  | alt (p q : Pattern α)
  /-- As many as possible, and none at last. -/
  | many (p : Pattern α)
  /-- What the units before and after the place have to be. -/
  | look (holds : Option α → Option α → Bool)

/-- The ends of a greedy repetition. A round that takes nothing is none. -/
def repeated (round : Place α → List (Place α)) : ℕ → Place α → List (Place α)
  | 0, z => [z]
  | fuel + 1, z =>
    ((round z).filter fun e => e.after.length < z.after.length).flatMap (repeated round fuel) ++ [z]

/-- Where a match can end, the preferred place first. -/
def Pattern.ends : Pattern α → Place α → List (Place α)
  | one among, z =>
    match z.after with
    | [] => []
    | c :: rest => if among c then [⟨c :: z.before, rest⟩] else []
  | empty, z => [z]
  | seq p q, z => (p.ends z).flatMap q.ends
  | alt p q, z => p.ends z ++ q.ends z
  -- a round takes a unit at least, so the units that are left bound the rounds
  | many p, z => repeated p.ends z.after.length z
  | look holds, z => if holds z.before.head? z.after.head? then [z] else []

namespace Pattern

/-- The pattern, or nothing. -/
def optional (p : Pattern α) : Pattern α := alt p empty

def many1 (p : Pattern α) : Pattern α := seq p (many p)

def times (p : Pattern α) : ℕ → Pattern α
  | 0 => empty
  | n + 1 => seq p (times p n)

def atLeast (p : Pattern α) (n : ℕ) : Pattern α := seq (times p n) (many p)

/-- The first of the patterns that goes. -/
def oneOf : List (Pattern α) → Pattern α
  | [] => alt (one fun _ => false) (one fun _ => false)
  | [p] => p
  | p :: rest => alt p (oneOf rest)

/-- One pattern after the other. -/
def inOrder : List (Pattern α) → Pattern α
  | [] => empty
  | [p] => p
  | p :: rest => seq p (inOrder rest)

end Pattern

/-! ## Replacing -/

/-- What is replaced: the part of the match that is kept, the part that is dropped, and
what stands in its place. -/
structure Rule (α : Type) where
  keep : Pattern α
  drop : Pattern α
  put : List α

namespace Rule

/-- The preferred match at a place: where the kept part ends, and where the match does. -/
def found (r : Rule α) (z : Place α) : Option (Place α × Place α) :=
  ((r.keep.ends z).flatMap fun mid => (r.drop.ends mid).map fun e => (mid, e)).head?

/-- The text from a place on, with the matches replaced from left to right. -/
def replaceFrom (r : Rule α) : ℕ → Place α → List α
  | 0, z => z.after
  | fuel + 1, z =>
    match z.after with
    | [] => []
    | c :: rest =>
      match r.found z with
      | some (mid, e) =>
        -- every match takes a unit at least
        if e.after.length < z.after.length then
          z.after.take (z.after.length - mid.after.length) ++ r.put ++ r.replaceFrom fuel e
        else c :: r.replaceFrom fuel ⟨c :: z.before, rest⟩
      | none => c :: r.replaceFrom fuel ⟨c :: z.before, rest⟩

/-- The text with all matches replaced. -/
def replaceAll (r : Rule α) (text : List α) : List α := r.replaceFrom text.length ⟨[], text⟩

end Rule

/-! ## What a match takes -/

theorem repeated_suffix {round : Place α → List (Place α)}
    (hround : ∀ z e, e ∈ round z → e.after <:+ z.after) {fuel : ℕ} {z e : Place α}
    (he : e ∈ repeated round fuel z) : e.after <:+ z.after := by
  induction fuel generalizing z with
  | zero =>
    rw [repeated, List.mem_singleton] at he
    rw [he]
  | succ fuel ih =>
    rw [repeated, List.mem_append, List.mem_flatMap, List.mem_singleton] at he
    rcases he with ⟨mid, hmid, he⟩ | he
    · exact (ih he).trans (hround z mid (List.mem_filter.1 hmid).1)
    · rw [he]

/-- What is left after a match is a part of what was left before. -/
theorem Pattern.ends_suffix (p : Pattern α) {z e : Place α} (he : e ∈ p.ends z) :
    e.after <:+ z.after := by
  induction p generalizing z e with
  | one among =>
    unfold Pattern.ends at he
    split at he
    · cases he
    · rename_i c rest hafter
      split at he
      · rw [List.mem_singleton] at he
        rw [he, hafter]
        exact List.suffix_cons c rest
      · cases he
  | empty =>
    rw [Pattern.ends, List.mem_singleton] at he
    rw [he]
  | seq p q ihp ihq =>
    rw [Pattern.ends, List.mem_flatMap] at he
    obtain ⟨mid, hmid, he⟩ := he
    exact (ihq he).trans (ihp hmid)
  | alt p q ihp ihq =>
    rw [Pattern.ends, List.mem_append] at he
    exact he.elim ihp ihq
  | many p ih => exact repeated_suffix (fun z e he => ih he) he
  | look holds =>
    unfold Pattern.ends at he
    split at he
    · rw [List.mem_singleton] at he
      rw [he]
    · cases he

/-- Every match of the pattern takes a unit that `P` holds of. -/
def Pattern.Needs (P : α → Prop) : Pattern α → Prop
  | one among => ∀ c, among c = true → P c
  | empty | many _ | look _ => False
  | seq p q => p.Needs P ∨ q.Needs P
  | alt p q => p.Needs P ∧ q.Needs P

theorem Pattern.Needs.exists_mem {P : α → Prop} {p : Pattern α} (hp : p.Needs P)
    {z e : Place α} (he : e ∈ p.ends z) : ∃ c ∈ z.after, P c := by
  induction p generalizing z e with
  | one among =>
    unfold Pattern.ends at he
    split at he
    · cases he
    · rename_i c rest hafter
      split at he
      · rename_i hamong
        rw [hafter]
        exact ⟨c, List.mem_cons_self, hp c hamong⟩
      · cases he
  | empty | many p ih | look holds => exact absurd hp id
  | seq p q ihp ihq =>
    rw [Pattern.ends, List.mem_flatMap] at he
    obtain ⟨mid, hmid, he⟩ := he
    rcases hp with hp | hq
    · exact ihp hp hmid
    · obtain ⟨c, hc, hPc⟩ := ihq hq he
      exact ⟨c, (p.ends_suffix hmid).subset hc, hPc⟩
  | alt p q ihp ihq =>
    rw [Pattern.ends, List.mem_append] at he
    rcases he with he | he
    · exact ihp hp.1 he
    · exact ihq hp.2 he

theorem Pattern.needs_oneOf {P : α → Prop} {ps : List (Pattern α)} (h : ∀ p ∈ ps, p.Needs P) :
    (oneOf ps).Needs P := by
  induction ps with
  | nil => exact ⟨fun c hc => absurd hc (by simp), fun c hc => absurd hc (by simp)⟩
  | cons p rest ih =>
    cases rest with
    | nil => exact h p List.mem_cons_self
    | cons q rest =>
      refine ⟨h p List.mem_cons_self, ih ?_⟩
      exact fun p' hp' => h p' (List.mem_cons_of_mem p hp')

theorem Pattern.needs_inOrder {P : α → Prop} {ps : List (Pattern α)} (h : ∃ p ∈ ps, p.Needs P) :
    (inOrder ps).Needs P := by
  induction ps with
  | nil =>
    obtain ⟨p, hp, -⟩ := h
    cases hp
  | cons p rest ih =>
    obtain ⟨found, hfound, hneeds⟩ := h
    rw [List.mem_cons] at hfound
    cases rest with
    | nil =>
      rcases hfound with hfound | hfound
      · rwa [hfound] at hneeds
      · cases hfound
    | cons q rest =>
      rcases hfound with hfound | hfound
      · rw [hfound] at hneeds
        exact .inl hneeds
      · exact .inr (ih ⟨found, hfound, hneeds⟩)

namespace Rule

/-- A rule that needs a unit finds nothing where there is none. -/
theorem found_eq_none {P : α → Prop} {r : Rule α} (hr : r.keep.Needs P ∨ r.drop.Needs P)
    {z : Place α} (hz : ∀ c ∈ z.after, ¬ P c) : r.found z = none := by
  unfold found
  rw [List.head?_eq_none_iff, List.flatMap_eq_nil_iff]
  intro mid hmid
  rw [List.map_eq_nil_iff, List.eq_nil_iff_forall_not_mem]
  intro e he
  rcases hr with hkeep | hdrop
  · obtain ⟨c, hc, hPc⟩ := hkeep.exists_mem hmid
    exact hz c hc hPc
  · obtain ⟨c, hc, hPc⟩ := hdrop.exists_mem he
    exact hz c ((r.keep.ends_suffix hmid).subset hc) hPc

theorem replaceFrom_eq_self {P : α → Prop} {r : Rule α}
    (hr : r.keep.Needs P ∨ r.drop.Needs P) {fuel : ℕ} {z : Place α}
    (hz : ∀ c ∈ z.after, ¬ P c) : r.replaceFrom fuel z = z.after := by
  induction fuel generalizing z with
  | zero => rfl
  | succ fuel ih =>
    unfold replaceFrom
    split
    · rename_i hafter
      rw [hafter]
    · rename_i c rest hafter
      rw [found_eq_none hr hz]
      have hrest : r.replaceFrom fuel ⟨c :: z.before, rest⟩ = rest := by
        apply ih
        intro d hd
        apply hz
        rw [hafter]
        exact List.mem_cons_of_mem c hd
      dsimp only
      rw [hrest, hafter]

/-- A text without the unit a rule needs is left as it is. -/
theorem replaceAll_eq_self {P : α → Prop} {r : Rule α} (hr : r.keep.Needs P ∨ r.drop.Needs P)
    {text : List α} (htext : ∀ c ∈ text, ¬ P c) : r.replaceAll text = text :=
  replaceFrom_eq_self hr htext

end Rule

end Patterns
