/-
Collecting the results of a partial function over a list.

`mapM` gives all the results, or fails at the first element that has none. So where it gives
something, elements and results stand side by side, and they do so in no other case. A check of
each element, `forM`, passes where every one of them does.
-/
import Mathlib.Data.List.Forall2

set_option autoImplicit false

namespace Collected

variable {α β ε : Type} {xs : List α} {ys : List β}

/-- What a computation that may throw came to, with the first thing it did. -/
theorem bind_ok {first : Except ε α} {next : α → Except ε β} {b : β}
    (h : (first >>= next) = .ok b) : ∃ a, first = .ok a ∧ next a = .ok b := by
  cases first with
  | error error => cases h
  | ok a => exact ⟨a, rfl, h⟩

theorem bind_ok_iff {first : Except ε α} {next : α → Except ε β} {b : β} :
    (first >>= next) = .ok b ↔ ∃ a, first = .ok a ∧ next a = .ok b := by
  refine ⟨bind_ok, ?_⟩
  rintro ⟨a, rfl, h⟩
  exact h

theorem mapM_eq_some {f : α → Option β} :
    xs.mapM f = some ys ↔ List.Forall₂ (fun x y => f x = some y) xs ys := by
  induction xs generalizing ys with
  | nil =>
    rw [List.mapM_nil, List.forall₂_nil_left_iff]
    exact ⟨fun h => (Option.some.inj h).symm, fun h => h ▸ rfl⟩
  | cons x xs ih =>
    rw [List.mapM_cons, List.forall₂_cons_left_iff]
    constructor
    · intro h
      obtain ⟨y, hy, h⟩ := Option.bind_eq_some_iff.1 h
      obtain ⟨ys', hys, h⟩ := Option.bind_eq_some_iff.1 h
      exact ⟨y, ys', hy, ih.1 hys, (Option.some.inj h).symm⟩
    · rintro ⟨y, ys', hy, hys, rfl⟩
      rw [hy, ih.2 hys]
      rfl

theorem mapM_eq_ok {f : α → Except ε β} :
    xs.mapM f = .ok ys ↔ List.Forall₂ (fun x y => f x = .ok y) xs ys := by
  induction xs generalizing ys with
  | nil =>
    rw [List.mapM_nil, List.forall₂_nil_left_iff]
    exact ⟨fun h => (Except.ok.inj h).symm, fun h => h ▸ rfl⟩
  | cons x xs ih =>
    rw [List.mapM_cons, List.forall₂_cons_left_iff]
    constructor
    · intro h
      obtain ⟨y, hy, h⟩ := bind_ok h
      obtain ⟨ys', hys, h⟩ := bind_ok h
      exact ⟨y, ys', hy, ih.1 hys, (Except.ok.inj h).symm⟩
    · rintro ⟨y, ys', hy, hys, rfl⟩
      rw [hy, ih.2 hys]
      rfl

/-- Where each element gives something, the results are what the elements give. -/
theorem mapM_ok_of_forall {f : α → Except ε β} (h : ∀ x ∈ xs, ∃ y, f x = .ok y) :
    ∃ ys, xs.mapM f = .ok ys ∧ ∀ y, y ∈ ys ↔ ∃ x ∈ xs, f x = .ok y := by
  induction xs with
  | nil => exact ⟨[], rfl, by simp⟩
  | cons x xs ih =>
    obtain ⟨y, hy⟩ := h x (List.mem_cons_self ..)
    obtain ⟨ys, hys, hmem⟩ := ih fun other hother => h other (List.mem_cons_of_mem _ hother)
    refine ⟨y :: ys, ?_, ?_⟩
    · rw [List.mapM_cons, hy, hys]
      rfl
    · intro other
      rw [List.mem_cons, hmem, List.exists_mem_cons_iff, hy, Except.ok.injEq, eq_comm]

/-- An error that is thrown on a condition. -/
def refuseIf (condition : Bool) (error : ε) : Except ε Unit :=
  if condition then .error error else .ok ()

theorem refuseIf_ok {condition : Bool} {error : ε} {u : Unit} :
    refuseIf condition error = .ok u ↔ condition = false := by
  cases condition with
  | false => exact ⟨fun _ => rfl, fun _ => rfl⟩
  | true => exact ⟨(nomatch ·), (nomatch ·)⟩

theorem forM_ok {f : α → Except ε Unit} (h : xs.forM f = .ok ()) : ∀ x ∈ xs, f x = .ok () := by
  induction xs with
  | nil => exact fun _ hx => absurd hx List.not_mem_nil
  | cons x xs ih =>
    obtain ⟨⟨⟩, hx, hrest⟩ := bind_ok h
    exact List.forall_mem_cons.2 ⟨hx, ih hrest⟩

end Collected
