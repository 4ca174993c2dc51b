/-
Processes that share a state.

Each process is at a point of its program, and a step of the system is a step of
one of them: it looks at the shared state, changes it, and goes to another point.
Nothing is said about which process goes next, so what holds in every state a run
reaches holds under every interleaving. A process that dies stays at a point from
which there is no step.

A run may be restricted to steps that are allowed where they are taken.
-/
import Mathlib.Logic.Function.Basic
import Mathlib.Logic.Relation
import Mathlib.Tactic.Common

set_option autoImplicit false

/-- Processes `ι`, each at a point `ℓ` of its program, on a shared state `σ`. -/
structure Parallel (ι ℓ σ : Type) where
  point : ι → ℓ
  shared : σ

namespace Parallel

variable {ι ℓ σ α : Type}

/-- What a process does next with an action, and the shared state it leaves. There
is no step with an action that is not one of this point. -/
abbrev Program (ι ℓ σ α : Type) := ι → α → Parallel ι ℓ σ → Option (ℓ × σ)

section move

variable [DecidableEq ι]

/-- The process `i` has made a step. -/
def move (s : Parallel ι ℓ σ) (i : ι) (next : ℓ × σ) : Parallel ι ℓ σ :=
  ⟨Function.update s.point i next.1, next.2⟩

@[simp] theorem move_shared (s : Parallel ι ℓ σ) (i : ι) (next : ℓ × σ) :
    (s.move i next).shared = next.2 := rfl

@[simp] theorem move_point_self (s : Parallel ι ℓ σ) (i : ι) (next : ℓ × σ) :
    (s.move i next).point i = next.1 := Function.update_self ..

@[simp] theorem move_move (s : Parallel ι ℓ σ) (i : ι) (next next' : ℓ × σ) :
    (s.move i next).move i next' = s.move i next' := by
  unfold move
  rw [Function.update_idem]

theorem move_point_of_ne (s : Parallel ι ℓ σ) {i j : ι} (next : ℓ × σ) (h : j ≠ i) :
    (s.move i next).point j = s.point j := Function.update_of_ne h ..

/-- A step of one of the processes, where it is allowed. -/
def Step (program : Program ι ℓ σ α) (allowed : Parallel ι ℓ σ → ι → α → Prop)
    (s s' : Parallel ι ℓ σ) : Prop :=
  ∃ i a next, allowed s i a ∧ program i a s = some next ∧ s' = s.move i next

/-- A run: any number of allowed steps. -/
abbrev Run (program : Program ι ℓ σ α) (allowed : Parallel ι ℓ σ → ι → α → Prop) :=
  Relation.ReflTransGen (Step program allowed)

variable {program : Program ι ℓ σ α} {allowed allowed' : Parallel ι ℓ σ → ι → α → Prop}
  {s s' : Parallel ι ℓ σ}

/-- **The invariant rule.** What every allowed step keeps, every run keeps. -/
theorem Run.invariant {P : Parallel ι ℓ σ → Prop} (hr : Run program allowed s s')
    (hstep : ∀ s i a next, P s → allowed s i a → program i a s = some next → P (s.move i next))
    (hs : P s) : P s' := by
  induction hr with
  | refl => exact hs
  | tail _ hlast ih =>
    obtain ⟨i, a, next, hallowed, hnext, rfl⟩ := hlast
    exact hstep _ i a next ih hallowed hnext

/-- A run with a stricter rule is a run. -/
theorem Run.mono (hr : Run program allowed s s') (hle : ∀ s i a, allowed s i a → allowed' s i a) :
    Run program allowed' s s' := by
  refine Relation.ReflTransGen.mono (fun s₁ s₂ hs => ?_) _ _ hr
  obtain ⟨i, a, next, hallowed, hnext⟩ := hs
  exact ⟨i, a, next, hle s₁ i a hallowed, hnext⟩

/-- One step more. -/
theorem Run.step (hr : Run program allowed s s') (i : ι) (a : α) {next : ℓ × σ}
    (hallowed : allowed s' i a) (hnext : program i a s' = some next) :
    Run program allowed s (s'.move i next) :=
  hr.tail ⟨i, a, next, hallowed, hnext, rfl⟩

/-- One step more of the only process that moves. -/
theorem Run.go {i : ι} {next next' : ℓ × σ} (hr : Run program allowed s (s.move i next)) (a : α)
    (hallowed : allowed (s.move i next) i a) (hnext : program i a (s.move i next) = some next') :
    Run program allowed s (s.move i next') := by
  have hstep := hr.step i a hallowed hnext
  rwa [move_move] at hstep

/-- Take steps one after the other, as long as there are any. -/
def execute (program : Program ι ℓ σ α) :
    List (ι × α) → Parallel ι ℓ σ → Option (Parallel ι ℓ σ)
  | [], s => some s
  | (i, a) :: rest, s => (program i a s).bind fun next => execute program rest (s.move i next)

theorem run_of_execute {actions : List (ι × α)} (h : execute program actions s = some s') :
    Run program (fun _ _ _ => True) s s' := by
  induction actions generalizing s with
  | nil =>
    obtain rfl := Option.some.inj h
    exact .refl
  | cons head rest ih =>
    obtain ⟨i, a⟩ := head
    obtain ⟨next, hnext, hrest⟩ := Option.bind_eq_some_iff.1 h
    exact .head ⟨i, a, next, trivial, hnext, rfl⟩ (ih hrest)

end move

end Parallel
