/-
Rankings by a score, with a key for those of one score.

Where no two items have one key, one of two items is always before the other. The items have a
single order then, and it does not matter in which order they came.
-/
import Mathlib.Data.List.Nodup
import Mathlib.Order.Lattice
import Mathlib.Tactic.Common

set_option autoImplicit false

namespace Ranking

variable {α S κ : Type} [LinearOrder S] {score : α → S} {key : α → κ}

/-- The first has the higher score, or the same and the smaller key. -/
def Before [LT κ] (score : α → S) (key : α → κ) (a b : α) : Prop :=
  score b < score a ∨ (score a = score b ∧ key a < key b)

section asymm

variable [LE κ] [LT κ] [Std.IsLinearOrder κ] [Std.LawfulOrderLT κ]

/-- Of two items one is not before the other. -/
theorem Before.asymm {a b : α} (h : Before score key a b) : ¬Before score key b a := by
  rintro (hba | ⟨heq, hkey⟩)
  · rcases h with hab | ⟨heq, -⟩
    · exact hab.asymm hba
    · exact hba.ne heq
  · rcases h with hab | ⟨-, hkey'⟩
    · exact hab.ne heq
    · exact Std.lt_irrefl (Std.lt_trans hkey hkey')

end asymm

variable [LE κ] [DecidableLE κ]

/-- The second is not before the first. -/
def notBehind (score : α → S) (key : α → κ) (a b : α) : Bool :=
  decide (score b < score a ∨ (score a = score b ∧ key a ≤ key b))

/-- The items, the best one first. -/
def ranked (score : α → S) (key : α → κ) (items : List α) : List α :=
  items.mergeSort (notBehind score key)

theorem ranked_perm (items : List α) : (ranked score key items).Perm items :=
  List.mergeSort_perm _ _

theorem mem_ranked {items : List α} {item : α} : item ∈ ranked score key items ↔ item ∈ items :=
  (ranked_perm items).mem_iff

variable [Std.IsLinearOrder κ]

theorem notBehind_trans (a b c : α) (hab : notBehind score key a b = true)
    (hbc : notBehind score key b c = true) : notBehind score key a c = true := by
  rw [notBehind, decide_eq_true_iff] at hab hbc ⊢
  rcases hab with hab | ⟨hab, hkab⟩
  · rcases hbc with hbc | ⟨hbc, -⟩
    · exact .inl (hbc.trans hab)
    · exact .inl (hbc ▸ hab)
  · rcases hbc with hbc | ⟨hbc, hkbc⟩
    · exact .inl (hab ▸ hbc)
    · exact .inr ⟨hab.trans hbc, Std.le_trans hkab hkbc⟩

theorem notBehind_total (a b : α) :
    (notBehind score key a b || notBehind score key b a) = true := by
  rw [Bool.or_eq_true, notBehind, notBehind, decide_eq_true_iff, decide_eq_true_iff]
  rcases lt_trichotomy (score a) (score b) with h | h | h
  · exact .inr (.inl h)
  · rcases Std.le_total (a := key a) (b := key b) with hkey | hkey
    · exact .inl (.inr ⟨h, hkey⟩)
    · exact .inr (.inr ⟨h.symm, hkey⟩)
  · exact .inl (.inl h)

/-- Two items that are not behind each other have one key. -/
theorem key_eq_of_notBehind {a b : α} (hab : notBehind score key a b = true)
    (hba : notBehind score key b a = true) : key a = key b := by
  rw [notBehind, decide_eq_true_iff] at hab hba
  rcases hab with hab | ⟨hab, hkab⟩
  · rcases hba with hba | ⟨hba, -⟩
    · exact absurd hba hab.asymm
    · exact absurd hba hab.ne
  · rcases hba with hba | ⟨-, hkba⟩
    · exact absurd hab hba.ne
    · exact Std.le_antisymm hkab hkba

theorem ranked_notBehind (items : List α) :
    (ranked score key items).Pairwise fun a b => notBehind score key a b = true :=
  List.pairwise_mergeSort notBehind_trans notBehind_total items

/-- The ranking does not depend on the order in which the items came. -/
theorem ranked_eq_of_perm {items items' : List α} (hnd : (items.map key).Nodup)
    (h : items.Perm items') :
    ranked score key items = ranked score key items' := by
  refine List.Perm.eq_of_pairwise (fun a b ha hb hab hba => ?_) (ranked_notBehind items)
    (ranked_notBehind items') ((ranked_perm items).trans (h.trans (ranked_perm items').symm))
  exact List.inj_on_of_nodup_map hnd (mem_ranked.1 ha) (h.mem_iff.2 (mem_ranked.1 hb))
    (key_eq_of_notBehind hab hba)

section before

variable [LT κ] [Std.LawfulOrderLT κ]

theorem before_of_notBehind {a b : α} (h : notBehind score key a b = true) (hkey : key a ≠ key b) :
    Before score key a b := by
  rw [notBehind, decide_eq_true_iff] at h
  exact h.imp_right fun heq => ⟨heq.1, Std.lt_of_le_of_ne heq.2 hkey⟩

variable {items : List α} (hnd : (items.map key).Nodup)

include hnd

/-- Each item is before the ones behind it. -/
theorem ranked_pairwise : (ranked score key items).Pairwise (Before score key) := by
  have hkeys : (ranked score key items).Pairwise fun a b => key a ≠ key b :=
    List.pairwise_map.1 (((ranked_perm items).map key).nodup_iff.2 hnd)
  exact (ranked_notBehind items).imp₂ (fun a b hle hne => before_of_notBehind hle hne) hkeys

/-- The first item is before all others. -/
theorem before_of_head {first : α} (hfirst : (ranked score key items).head? = some first) {item : α}
    (hitem : item ∈ items) : item = first ∨ Before score key first item := by
  have hpairwise : (ranked score key items).Pairwise (Before score key) := ranked_pairwise hnd
  cases hranked : ranked score key items with
  | nil =>
    rw [hranked] at hfirst
    cases hfirst
  | cons head rest =>
    rw [hranked, List.head?_cons, Option.some.injEq] at hfirst
    subst hfirst
    rw [hranked] at hpairwise
    have hmem : item ∈ ranked score key items := mem_ranked.2 hitem
    rw [hranked] at hmem
    rcases List.mem_cons.1 hmem with h | h
    · exact .inl h
    · exact .inr ((List.pairwise_cons.1 hpairwise).1 item h)

end before

end Ranking
