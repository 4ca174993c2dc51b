/-
Programs with state and exceptions, and the rules to reason about them.

A program of a language with mutable objects and exceptions keeps what it has
already written when it throws: a handler sees the half-updated state. `Prog`
is that reading, `σ → Except ε α × σ`, and not the one in which an exception
rolls the state back.

Three ways to speak about a program are developed here. `Moves R` says that
whatever the outcome the program only moves the state along `R`; it composes
without any intermediate assertion. `Walks Step` gives the steps a program goes
through, with a postcondition for the normal return and one for the throw, and
what is known on the way is kept for the guards of the steps to come. `zoom`
runs a program of a component on the state of the whole.
-/
import Mathlib.Logic.Relation
import Mathlib.Tactic.Common

set_option autoImplicit false

/-- A program on the state `σ` that returns an `α` or throws an `ε`. The state
it has reached is kept in both cases. -/
def Prog (ε σ α : Type) : Type := σ → Except ε α × σ

namespace Prog

variable {ε σ τ α β : Type}

/-! ## The monad -/

/-- Run `p`, then `f` on its result. A throw of `p` ends the program. -/
def andThen (p : Prog ε σ α) (f : α → Prog ε σ β) : Prog ε σ β := fun s =>
  match p s with
  | (.ok a, s') => f a s'
  | (.error e, s') => (.error e, s')

instance : Monad (Prog ε σ) where
  pure a := fun s => (.ok a, s)
  bind := andThen

@[simp] theorem pure_run (a : α) (s : σ) :
    (pure a : Prog ε σ α) s = (.ok a, s) := rfl

theorem bind_run (p : Prog ε σ α) (f : α → Prog ε σ β) (s : σ) :
    (p >>= f) s = match p s with
      | (.ok a, s') => f a s'
      | (.error e, s') => (.error e, s') := rfl

/-- A bind whose first half returns is its second half. -/
theorem bind_run_ok {p : Prog ε σ α} {f : α → Prog ε σ β} {s s' : σ} {a : α}
    (h : p s = (.ok a, s')) :
    (p >>= f) s = f a s' := by
  rw [bind_run, h]

/-- A bind whose first half throws throws there. -/
theorem bind_run_error {p : Prog ε σ α} {f : α → Prog ε σ β} {s s' : σ} {e : ε}
    (h : p s = (.error e, s')) :
    (p >>= f) s = (.error e, s') := by
  rw [bind_run, h]

/-- What a bind does, read backwards: the first half threw, or it returned and
the second half went on from there. -/
theorem bind_cases {p : Prog ε σ α} {f : α → Prog ε σ β} {s s' : σ} {r : Except ε β}
    (h : (p >>= f) s = (r, s')) :
    (∃ e, p s = (.error e, s') ∧ r = .error e) ∨
      ∃ a s₁, p s = (.ok a, s₁) ∧ f a s₁ = (r, s') := by
  rw [bind_run] at h
  rcases hp : p s with ⟨e | a, s₁⟩ <;> rw [hp] at h
  · simp only [Prod.mk.injEq] at h
    obtain ⟨rfl, rfl⟩ := h
    exact .inl ⟨e, rfl, rfl⟩
  · exact .inr ⟨a, s₁, rfl, h⟩

/-- A program that returned a value did so through its parts. -/
theorem bind_returned {p : Prog ε σ α} {f : α → Prog ε σ β} {s s' : σ} {b : β}
    (h : (p >>= f) s = (.ok b, s')) : ∃ a s₁, p s = (.ok a, s₁) ∧ f a s₁ = (.ok b, s') := by
  rcases bind_cases h with ⟨e, -, he⟩ | hreturned
  · cases he
  · exact hreturned

/-! ## State and exceptions -/

instance : MonadStateOf σ (Prog ε σ) where
  get := fun s => (.ok s, s)
  set s' := fun _ => (.ok (), s')
  modifyGet f := fun s => (.ok (f s).1, (f s).2)

@[simp] theorem get_run (s : σ) : (get : Prog ε σ σ) s = (.ok s, s) := rfl

@[simp] theorem modify_run (f : σ → σ) (s : σ) :
    (modify f : Prog ε σ Unit) s = (.ok (), f s) := rfl

/-- How a program can fail to return: it throws something a handler can catch,
or the process it runs in dies. -/
inductive Fault (ε : Type) where
  | thrown (e : ε)
  | crashed
  deriving DecidableEq, Repr

/-- A handler catches what was thrown; nothing catches a crash. -/
instance : MonadExceptOf ε (Prog (Fault ε) σ) where
  throw e := fun s => (.error (.thrown e), s)
  tryCatch p handler := fun s =>
    match p s with
    | (.error (.thrown e), s') => handler e s'
    | other => other

@[simp] theorem throw_run (e : ε) (s : σ) :
    (throw e : Prog (Fault ε) σ α) s = (.error (.thrown e), s) := rfl

theorem tryCatch_run (p : Prog (Fault ε) σ α) (handler : ε → Prog (Fault ε) σ α) (s : σ) :
    (tryCatch p handler : Prog (Fault ε) σ α) s = match p s with
      | (.error (.thrown e), s') => handler e s'
      | other => other := rfl

theorem tryCatch_run_ok {p : Prog (Fault ε) σ α} {handler : ε → Prog (Fault ε) σ α}
    {s s' : σ} {a : α} (h : p s = (.ok a, s')) :
    (tryCatch p handler : Prog (Fault ε) σ α) s = (.ok a, s') := by
  rw [tryCatch_run, h]

theorem tryCatch_run_thrown {p : Prog (Fault ε) σ α} {handler : ε → Prog (Fault ε) σ α}
    {s s' : σ} {e : ε} (h : p s = (.error (.thrown e), s')) :
    (tryCatch p handler : Prog (Fault ε) σ α) s = handler e s' := by
  rw [tryCatch_run, h]

theorem tryCatch_run_crashed {p : Prog (Fault ε) σ α} {handler : ε → Prog (Fault ε) σ α}
    {s s' : σ} (h : p s = (.error .crashed, s')) :
    (tryCatch p handler : Prog (Fault ε) σ α) s = (.error .crashed, s') := by
  rw [tryCatch_run, h]

/-- A handled program that returned did so itself, or its handler did. -/
theorem tryCatch_returned {p : Prog (Fault ε) σ α} {handler : ε → Prog (Fault ε) σ α}
    {s s' : σ} {a : α} (h : (tryCatch p handler : Prog (Fault ε) σ α) s = (.ok a, s')) :
    p s = (.ok a, s') ∨ ∃ e s₁, p s = (.error (.thrown e), s₁) ∧ handler e s₁ = (.ok a, s') := by
  rw [tryCatch_run] at h
  rcases hp : p s with ⟨(e | _) | b, s₁⟩ <;> rw [hp] at h
  · exact .inr ⟨e, s₁, rfl, h⟩
  · cases h
  · exact .inl h

/-! ## Programs that only move along a relation -/

/-- Whatever its outcome, the program takes the state along `R`. -/
def Moves (R : σ → σ → Prop) (p : Prog ε σ α) : Prop := ∀ s, R s (p s).2

namespace Moves

variable {R : σ → σ → Prop}

theorem of_pure (hrefl : ∀ s, R s s) (a : α) : Moves R (pure a : Prog ε σ α) := hrefl

theorem of_get (hrefl : ∀ s, R s s) : Moves R (get : Prog ε σ σ) := hrefl

theorem of_throw (hrefl : ∀ s, R s s) (e : ε) : Moves R (throw e : Prog (Fault ε) σ α) := hrefl

theorem bind (htrans : ∀ a b c, R a b → R b c → R a c) {p : Prog ε σ α}
    {f : α → Prog ε σ β} (hp : Moves R p) (hf : ∀ a, Moves R (f a)) :
    Moves R (p >>= f) := by
  intro s
  have hps := hp s
  rw [bind_run]
  rcases h : p s with ⟨e | a, s'⟩ <;> rw [h] at hps
  · exact hps
  · exact htrans _ _ _ hps (hf a s')

/-- Two programs, each along a relation of its own. -/
theorem seq {S T : σ → σ → Prop} (hstop : ∀ a b, R a b → T a b)
    (hcomp : ∀ a b c, R a b → S b c → T a c) {p : Prog ε σ α} {f : α → Prog ε σ β}
    (hp : Moves R p) (hf : ∀ a, Moves S (f a)) : Moves T (p >>= f) := by
  intro s
  have hps := hp s
  rw [bind_run]
  rcases h : p s with ⟨e | a, s'⟩ <;> rw [h] at hps
  · exact hstop _ _ hps
  · exact hcomp _ _ _ hps (hf a s')

theorem tryCatch (htrans : ∀ a b c, R a b → R b c → R a c) {p : Prog (Fault ε) σ α}
    {handler : ε → Prog (Fault ε) σ α} (hp : Moves R p) (hh : ∀ e, Moves R (handler e)) :
    Moves R (tryCatch p handler : Prog (Fault ε) σ α) := by
  intro s
  have hps := hp s
  rw [tryCatch_run]
  rcases h : p s with ⟨(e | _) | a, s'⟩ <;> rw [h] at hps
  · exact htrans _ _ _ hps (hh e s')
  · exact hps
  · exact hps

end Moves

/-! ## Programs that go step by step -/

/-- From `s` the program takes the state through steps of `Step`. Where it
returns it has reached `Q`, where it throws it has reached `E`. -/
def Walks (Step : σ → σ → Prop) (s : σ) (p : Prog ε σ α) (Q : α → σ → Prop)
    (E : ε → σ → Prop) : Prop :=
  match p s with
  | (.ok a, s') => Relation.ReflTransGen Step s s' ∧ Q a s'
  | (.error e, s') => Relation.ReflTransGen Step s s' ∧ E e s'

namespace Walks

variable {Step : σ → σ → Prop} {s : σ} {Q Q' : α → σ → Prop} {E E' : ε → σ → Prop}

/-- The steps of a program, whatever its outcome. -/
theorem path {p : Prog ε σ α} (h : Walks Step s p Q E) :
    Relation.ReflTransGen Step s (p s).2 := by
  unfold Walks at h
  rcases hp : p s with ⟨e | a, s'⟩ <;> rw [hp] at h
  · exact h.1
  · exact h.1

theorem of_ok {p : Prog ε σ α} {a : α} {s' : σ} (hrun : p s = (.ok a, s'))
    (hpath : Relation.ReflTransGen Step s s') (hQ : Q a s') : Walks Step s p Q E := by
  unfold Walks
  rw [hrun]
  exact ⟨hpath, hQ⟩

theorem of_error {p : Prog ε σ α} {e : ε} {s' : σ} (hrun : p s = (.error e, s'))
    (hpath : Relation.ReflTransGen Step s s') (hE : E e s') : Walks Step s p Q E := by
  unfold Walks
  rw [hrun]
  exact ⟨hpath, hE⟩

theorem of_pure {a : α} (hQ : Q a s) : Walks Step s (pure a : Prog ε σ α) Q E :=
  ⟨.refl, hQ⟩

theorem of_throw {Q : α → σ → Prop} {E : Fault ε → σ → Prop} {e : ε} (hE : E (.thrown e) s) :
    Walks Step s (throw e : Prog (Fault ε) σ α) Q E :=
  ⟨.refl, hE⟩

theorem bind {p : Prog ε σ α} {f : α → Prog ε σ β} {R : β → σ → Prop}
    (hp : Walks Step s p Q E) (hE : ∀ e s', E e s' → E' e s')
    (hf : ∀ a s', Relation.ReflTransGen Step s s' → Q a s' → Walks Step s' (f a) R E') :
    Walks Step s (p >>= f) R E' := by
  unfold Walks at hp
  rcases hrun : p s with ⟨e | a, s₁⟩ <;> rw [hrun] at hp
  · exact of_error (bind_run_error hrun) hp.1 (hE _ _ hp.2)
  · have hrest := hf a s₁ hp.1 hp.2
    unfold Walks at hrest
    rcases hrun₂ : f a s₁ with ⟨e | b, s₂⟩ <;> rw [hrun₂] at hrest
    · exact of_error ((bind_run_ok hrun).trans hrun₂) (hp.1.trans hrest.1) hrest.2
    · exact of_ok ((bind_run_ok hrun).trans hrun₂) (hp.1.trans hrest.1) hrest.2

theorem tryCatch {p : Prog (Fault ε) σ α} {handler : ε → Prog (Fault ε) σ α}
    {E E' : Fault ε → σ → Prop} (hp : Walks Step s p Q E)
    (hh : ∀ e s', Relation.ReflTransGen Step s s' → E (.thrown e) s' →
      Walks Step s' (handler e) Q E')
    (hcrash : ∀ s', E .crashed s' → E' .crashed s') :
    Walks Step s (tryCatch p handler : Prog (Fault ε) σ α) Q E' := by
  unfold Walks at hp
  rcases hrun : p s with ⟨(e | _) | a, s₁⟩ <;> rw [hrun] at hp
  · have hrest := hh e s₁ hp.1 hp.2
    unfold Walks at hrest
    rcases hrun₂ : handler e s₁ with ⟨f | b, s₂⟩ <;> rw [hrun₂] at hrest
    · exact of_error ((tryCatch_run_thrown hrun).trans hrun₂) (hp.1.trans hrest.1) hrest.2
    · exact of_ok ((tryCatch_run_thrown hrun).trans hrun₂) (hp.1.trans hrest.1) hrest.2
  · exact of_error (tryCatch_run_crashed hrun) hp.1 (hcrash _ hp.2)
  · exact of_ok (tryCatch_run_ok hrun) hp.1 hp.2

theorem mono {p : Prog ε σ α} (h : Walks Step s p Q E) (hQ : ∀ a s', Q a s' → Q' a s')
    (hE : ∀ e s', E e s' → E' e s') : Walks Step s p Q' E' := by
  unfold Walks at h ⊢
  rcases hrun : p s with ⟨e | a, s'⟩ <;> rw [hrun] at h
  · exact ⟨h.1, hE _ _ h.2⟩
  · exact ⟨h.1, hQ _ _ h.2⟩

/-- What holds where the program returns. -/
theorem returned {p : Prog ε σ α} (h : Walks Step s p Q E) {a : α} {s' : σ}
    (hrun : p s = (.ok a, s')) : Q a s' := by
  unfold Walks at h
  rw [hrun] at h
  exact h.2

end Walks

/-! ## Components of a larger state -/

/-- A component `τ` of a state `σ`: how to read it and how to put it back. -/
structure Lens (σ τ : Type) where
  get : σ → τ
  set : σ → τ → σ
  get_set : ∀ s t, get (set s t) = t
  set_get : ∀ s, set s (get s) = s
  set_set : ∀ s t t', set (set s t) t' = set s t'

attribute [simp] Lens.get_set Lens.set_get Lens.set_set

/-- Run a program of the component on the whole state. -/
def zoom (l : Lens σ τ) (p : Prog ε τ α) : Prog ε σ α := fun s =>
  ((p (l.get s)).1, l.set s (p (l.get s)).2)

theorem zoom_run {l : Lens σ τ} {p : Prog ε τ α} {s : σ} {r : Except ε α} {t : τ}
    (h : p (l.get s) = (r, t)) :
    zoom l p s = (r, l.set s t) := by
  rw [zoom, h]

end Prog
