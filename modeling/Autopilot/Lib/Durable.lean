/-
A process that writes files and draws unique identifiers.

Two things about the outside world decide what a program with durable state can
do. Each write of a file succeeds, or fails with an exception, or is the write
the process never gets to make because it dies first. Each identifier it draws
is one nobody has drawn before.

`Host` carries both beside the program's own state: the outcomes of the writes
to come, as a script, and the supply of identifiers, which is a list without
repetition by construction, so that freshness is a field and not a hypothesis.
A theorem that quantifies over the host quantifies over every pattern of failing
writes and over every crash point.
-/
import Autopilot.Lib.Prog
import Mathlib.Data.List.Nodup

set_option autoImplicit false

open Prog

/-! ## Outcomes and supplies -/

/-- What becomes of one write of a file. -/
inductive WriteOutcome (ε : Type) where
  | done
  | failed (e : ε)
  | crashed
  deriving DecidableEq, Repr

/-- Identifiers drawn so far and identifiers still to come, all different. -/
structure Supply (ι : Type) where
  drawn : List ι
  rest : List ι
  nodup : (rest ++ drawn).Nodup

/-- The state of a program together with the outside world it runs in. -/
structure Host (ε ι σ : Type) where
  store : σ
  /-- The outcomes of the next writes. An exhausted script means that every
  further write succeeds. -/
  writes : List (WriteOutcome ε)
  supply : Supply ι

namespace Supply

variable {ι : Type}

/-- A supply nobody has drawn from. -/
def fresh (rest : List ι) (h : rest.Nodup) : Supply ι := ⟨[], rest, by simpa using h⟩

/-- Draw the next identifier, if there is one. -/
def next (s : Supply ι) : Option (ι × Supply ι) :=
  match s with
  | ⟨_, [], _⟩ => none
  | ⟨drawn, i :: rest, h⟩ =>
    some (i, ⟨i :: drawn, rest, (List.perm_middle.nodup_iff).2 h⟩)

/-- A drawn identifier is new, and is the only one drawn. -/
theorem next_spec {s s' : Supply ι} {i : ι} (h : s.next = some (i, s')) :
    i ∉ s.drawn ∧ s'.drawn = i :: s.drawn := by
  rcases s with ⟨drawn, _ | ⟨j, rest⟩, hnd⟩
  · simp [next] at h
  · simp only [next, Option.some.injEq, Prod.mk.injEq] at h
    obtain ⟨rfl, rfl⟩ := h
    refine ⟨?_, rfl⟩
    rw [List.cons_append, List.nodup_cons] at hnd
    exact fun hmem => hnd.1 (List.mem_append_right _ hmem)

end Supply

/-! ## Writing and drawing -/

namespace Host

variable {ε ι σ τ α : Type}

/-- Every write to come succeeds. -/
def Reliable (h : Host ε ι σ) : Prop := ∀ w ∈ h.writes, w = .done

instance [DecidableEq ε] (h : Host ε ι σ) : Decidable h.Reliable :=
  inferInstanceAs (Decidable (∀ w ∈ h.writes, w = .done))

/-- The state of the program, read through the host. -/
def read : Prog (Fault ε) (Host ε ι σ) σ := fun h => (.ok h.store, h)

/-- Change the state of the program without writing a file. -/
def update (f : σ → σ) : Prog (Fault ε) (Host ε ι σ) Unit := fun h =>
  (.ok (), { h with store := f h.store })

/-- Write a file: `commit` is what the write does to the state. A write that
fails or is never made leaves the state as it is. -/
def write (commit : σ → σ) : Prog (Fault ε) (Host ε ι σ) Unit := fun h =>
  match h.writes with
  | [] => (.ok (), { h with store := commit h.store })
  | .done :: ws => (.ok (), { h with store := commit h.store, writes := ws })
  | .failed e :: ws => (.error (.thrown e), { h with writes := ws })
  | .crashed :: ws => (.error .crashed, { h with writes := ws })

/-- Draw an identifier, or throw when the source has none left to give. -/
def draw (exhausted : ε) : Prog (Fault ε) (Host ε ι σ) ι := fun h =>
  match h.supply.next with
  | none => (.error (.thrown exhausted), h)
  | some (i, s) => (.ok i, { h with supply := s })

@[simp] theorem read_run (h : Host ε ι σ) :
    (read : Prog (Fault ε) (Host ε ι σ) σ) h = (.ok h.store, h) := rfl

@[simp] theorem update_run (f : σ → σ) (h : Host ε ι σ) :
    (update f : Prog (Fault ε) (Host ε ι σ) Unit) h = (.ok (), { h with store := f h.store }) :=
  rfl

/-- A write either commits and returns, or leaves the state and throws. -/
theorem write_cases (commit : σ → σ) (h : Host ε ι σ) :
    (∃ ws, write commit h
        = (.ok (), { h with store := commit h.store, writes := ws }) ∧ ws ⊆ h.writes) ∨
      ∃ f ws, write commit h = (.error f, { h with writes := ws }) ∧ ws ⊆ h.writes ∧
        ¬ h.Reliable := by
  rcases h with ⟨s, _ | ⟨w, ws⟩, u⟩
  · exact .inl ⟨[], rfl, List.Subset.refl _⟩
  · cases w with
    | done => exact .inl ⟨ws, rfl, List.subset_cons_self _ _⟩
    | failed e =>
      exact .inr ⟨_, ws, rfl, List.subset_cons_self _ _, fun hr => by simpa using hr _ (.head _)⟩
    | crashed =>
      exact .inr ⟨_, ws, rfl, List.subset_cons_self _ _, fun hr => by simpa using hr _ (.head _)⟩

theorem Reliable.mono {h h' : Host ε ι σ} (hr : h.Reliable) (hw : h'.writes ⊆ h.writes) :
    h'.Reliable :=
  fun w hm => hr w (hw hm)

/-- The next `n` writes succeed. -/
def ReliableFor (n : ℕ) (h : Host ε ι σ) : Prop := ∀ w ∈ h.writes.take n, w = .done

theorem Reliable.for {h : Host ε ι σ} (hr : h.Reliable) (n : ℕ) : h.ReliableFor n :=
  fun w hm => hr w (List.mem_of_mem_take hm)

/-- A write that is known to succeed uses up one of the writes known to. -/
theorem write_reliableFor (commit : σ → σ) {n : ℕ} (h : Host ε ι σ) (hr : h.ReliableFor (n + 1)) :
    ∃ ws, write commit h = (.ok (), { h with store := commit h.store, writes := ws }) ∧
      ws ⊆ h.writes ∧ ∀ w ∈ ws.take n, w = .done := by
  rcases h with ⟨s, _ | ⟨w, ws⟩, u⟩
  · exact ⟨[], rfl, List.Subset.refl _, by simp⟩
  · obtain rfl : w = .done := hr w (by simp)
    refine ⟨ws, rfl, List.subset_cons_self _ _, fun w hm => hr w ?_⟩
    rw [List.take_succ_cons]
    exact List.mem_cons_of_mem _ hm

/-- A write, exactly: it is made when the next write is one that succeeds, and
it throws otherwise. -/
theorem write_outcome (commit : σ → σ) (h : Host ε ι σ) :
    (h.ReliableFor 1 ∧ write commit h
        = (.ok (), { h with store := commit h.store, writes := h.writes.drop 1 })) ∨
      ∃ fault, ¬ h.ReliableFor 1 ∧
        write commit h = (.error fault, { h with writes := h.writes.drop 1 }) := by
  rcases h with ⟨s, _ | ⟨w, ws⟩, u⟩
  · exact .inl ⟨by simp [ReliableFor], rfl⟩
  · cases w with
    | done => exact .inl ⟨by simp [ReliableFor], rfl⟩
    | failed e => exact .inr ⟨.thrown e, by simp [ReliableFor], rfl⟩
    | crashed => exact .inr ⟨.crashed, by simp [ReliableFor], rfl⟩

/-- The next `m + n` writes succeed when the next `m` do and the `n` after. -/
theorem reliableFor_add (m n : ℕ) (h : Host ε ι σ) :
    h.ReliableFor (m + n) ↔
      h.ReliableFor m ∧ ∀ w ∈ (h.writes.drop m).take n, w = .done := by
  unfold ReliableFor
  rw [List.take_add]
  simp only [List.mem_append, or_imp, forall_and]

/-! ## The two ways an operation ends that writes last -/

/-- The operation threw before it changed anything. -/
def Refuses (h : Host ε ι σ) (result : Except (Fault ε) α × Host ε ι σ) : Prop :=
  ∃ error, result = (.error (.thrown error), h)

/-- The one write of the operation is made and it returns `a`, or the write
throws and nothing changed. -/
def Writes (h : Host ε ι σ) (s : σ) (a : α) (result : Except (Fault ε) α × Host ε ι σ) : Prop :=
  (∃ ws, ws ⊆ h.writes ∧ result = (.ok a, ⟨s, ws, h.supply⟩)) ∨
    ∃ fault ws, ws ⊆ h.writes ∧ ¬ h.Reliable ∧ result = (.error fault, ⟨h.store, ws, h.supply⟩)

theorem write_writes (commit : σ → σ) (h : Host ε ι σ) :
    h.Writes (commit h.store) () (write commit h) := by
  rcases write_cases commit h with ⟨ws, hrun, hws⟩ | ⟨fault, ws, hrun, hws, hr⟩
  · exact .inl ⟨ws, hws, hrun⟩
  · exact .inr ⟨fault, ws, hws, hr, hrun⟩

/-- Returning something else after the write. -/
theorem Writes.bind_pure {β : Type} {h : Host ε ι σ} {s : σ} {a : α}
    {p : Prog (Fault ε) (Host ε ι σ) α} {f : α → Prog (Fault ε) (Host ε ι σ) β} {b : β}
    (hw : h.Writes s a (p h)) (hf : ∀ h', f a h' = (.ok b, h')) :
    h.Writes s b ((p >>= f) h) := by
  rcases hw with ⟨ws, hws, hrun⟩ | ⟨fault, ws, hws, hr, hrun⟩
  · rw [bind_run_ok hrun, hf]
    exact .inl ⟨ws, hws, rfl⟩
  · rw [bind_run_error hrun]
    exact .inr ⟨fault, ws, hws, hr, rfl⟩

/-- On a reliable host the write is made. -/
theorem Writes.reliable {h : Host ε ι σ} {s : σ} {a : α}
    {result : Except (Fault ε) α × Host ε ι σ} (hw : h.Writes s a result) (hr : h.Reliable) :
    ∃ ws, ws ⊆ h.writes ∧ result = (.ok a, ⟨s, ws, h.supply⟩) := by
  rcases hw with hw | ⟨_, _, -, hn, -⟩
  · exact hw
  · exact absurd hr hn

/-- A component of the program's state is a component of the host's. -/
def lens (l : Lens σ τ) : Lens (Host ε ι σ) (Host ε ι τ) where
  get h := { store := l.get h.store, writes := h.writes, supply := h.supply }
  set h t := { store := l.set h.store t.store, writes := t.writes, supply := t.supply }
  get_set h t := by simp
  set_get h := by simp
  set_set h t t' := by simp

theorem Refuses.zoom {l : Lens σ τ} {h : Host ε ι σ} {p : Prog (Fault ε) (Host ε ι τ) α}
    (hr : ((lens l).get h).Refuses (p ((lens l).get h))) :
    h.Refuses (Prog.zoom (lens l) p h) := by
  obtain ⟨error, hrun⟩ := hr
  refine ⟨error, ?_⟩
  rw [zoom_run hrun, Lens.set_get]

end Host
