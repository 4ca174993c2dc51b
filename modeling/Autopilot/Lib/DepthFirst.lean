/-
A depth-first search for cycles.

The search visits what a vertex leads to before it is done with the vertex. It keeps the vertices it
is at, one behind the other, and those it is done with, which it does not visit again. It stops when
it comes back to a vertex it is at. How deep it may go is bounded, and it says so when it stops for
this reason; a bound above the number of vertices that lead anywhere is never reached.

What carries the proof is that the vertices the search is done with lead to each other only, and that
none of them is on a cycle. So nothing is missed by not visiting them again, from whichever root.
-/
import Mathlib.Data.List.Nodup
import Mathlib.Data.List.Perm.Subperm
import Mathlib.Logic.Relation

set_option autoImplicit false

namespace DepthFirst

open Relation (TransGen ReflTransGen)

variable {α : Type}

/-- The vertex leads to the other directly. -/
def Edge (next : α → List α) (a b : α) : Prop := b ∈ next a

/-- Why a search stops. -/
inductive Stop where
  | cycle
  | depth
  deriving DecidableEq

variable [DecidableEq α] (next : α → List α)

/-- The vertices that the search is done with when it has visited one more. -/
def visit : ℕ → List α → List α → α → Except Stop (List α)
  | 0, _, _, _ => .error .depth
  | depth + 1, active, visited, x =>
    if x ∈ active then .error .cycle
    else if x ∈ visited then .ok visited
    else do
      let visited ← (next x).foldlM (visit depth (x :: active)) visited
      return x :: visited

/-- The search from some roots, one after the other. -/
def search (depth : ℕ) (roots : List α) : Except Stop (List α) :=
  roots.foldlM (visit next depth []) []

variable {next}

/-! ## One vertex after the other -/

omit [DecidableEq α] in
/-- Where a row of visits stops, one of them does. -/
theorem exists_of_foldlM_error {f : List α → α → Except Stop (List α)} {xs visited : List α}
    {stop : Stop} (h : xs.foldlM f visited = .error stop) :
    ∃ x ∈ xs, ∃ visited', f visited' x = .error stop := by
  induction xs generalizing visited with
  | nil => cases h
  | cons x rest ih =>
    rw [List.foldlM_cons] at h
    cases hx : f visited x with
    | error stop' =>
      rw [hx] at h
      obtain rfl : stop' = stop := Except.error.inj h
      exact ⟨x, List.mem_cons_self, visited, hx⟩
    | ok visited' =>
      rw [hx] at h
      obtain ⟨y, hy, hstop⟩ := ih h
      exact ⟨y, List.mem_cons_of_mem _ hy, hstop⟩

/-! ## What the search is done with -/

/-- Nothing leads out of the vertices, and none of them is on a cycle. -/
structure Explored (next : α → List α) (visited : List α) : Prop where
  closed : ∀ x ∈ visited, ∀ y ∈ next x, y ∈ visited
  acyclic : ∀ x ∈ visited, ¬TransGen (Edge next) x x

omit [DecidableEq α] in
theorem explored_nil : Explored next [] :=
  ⟨fun _ hx => absurd hx List.not_mem_nil, fun _ hx => absurd hx List.not_mem_nil⟩

omit [DecidableEq α] in
/-- What vertices that nothing leads out of lead to is among them. -/
theorem Explored.reaches {visited : List α} (h : Explored next visited) {x y : α} (hx : x ∈ visited)
    (hpath : ReflTransGen (Edge next) x y) : y ∈ visited := by
  induction hpath with
  | refl => exact hx
  | tail _ hedge ih => exact h.closed _ ih _ hedge

omit [DecidableEq α] in
/-- **A vertex that leads to explored ones only** is explored with them. -/
theorem Explored.cons {visited : List α} (h : Explored next visited) {x : α}
    (hnext : ∀ y ∈ next x, y ∈ visited) : Explored next (x :: visited) := by
  have hacyclic : ¬TransGen (Edge next) x x := by
    intro hcycle
    -- the cycle comes back to the vertex through explored ones
    obtain ⟨y, hedge, hpath⟩ := TransGen.head'_iff.1 hcycle
    exact h.acyclic x (h.reaches (hnext y hedge) hpath) hcycle
  refine ⟨?_, ?_⟩
  · intro a ha y hy
    rcases List.mem_cons.1 ha with rfl | ha
    · exact List.mem_cons_of_mem _ (hnext y hy)
    · exact List.mem_cons_of_mem _ (h.closed a ha y hy)
  · intro a ha
    rcases List.mem_cons.1 ha with rfl | ha
    · exact hacyclic
    · exact h.acyclic a ha

omit [DecidableEq α] in
/-- A row of visits, each of which keeps what was explored and adds its vertex. -/
theorem foldlM_explored {f : List α → α → Except Stop (List α)}
    (hf : ∀ visited x visited', f visited x = .ok visited' → Explored next visited →
      Explored next visited' ∧ visited ⊆ visited' ∧ x ∈ visited') {xs visited visited' : List α}
    (h : xs.foldlM f visited = .ok visited') (hvisited : Explored next visited) :
    Explored next visited' ∧ visited ⊆ visited' ∧ ∀ x ∈ xs, x ∈ visited' := by
  induction xs generalizing visited with
  | nil =>
    obtain rfl := Except.ok.inj h
    exact ⟨hvisited, List.Subset.refl _, fun _ hx => absurd hx List.not_mem_nil⟩
  | cons x rest ih =>
    rw [List.foldlM_cons] at h
    cases hx : f visited x with
    | error stop =>
      rw [hx] at h
      cases h
    | ok between =>
      rw [hx] at h
      obtain ⟨hbetween, hsub, hmem⟩ := hf _ _ _ hx hvisited
      obtain ⟨hafter, hsub', hrest⟩ := ih h hbetween
      refine ⟨hafter, fun _ hy => hsub' (hsub hy), ?_⟩
      intro y hy
      rcases List.mem_cons.1 hy with rfl | hy
      · exact hsub' hmem
      · exact hrest y hy

/-- **A visit that does not stop** leaves explored vertices, the visited one among them. -/
theorem visit_explored {depth : ℕ} {active visited visited' : List α} {x : α}
    (h : visit next depth active visited x = .ok visited') (hvisited : Explored next visited) :
    Explored next visited' ∧ visited ⊆ visited' ∧ x ∈ visited' := by
  induction depth generalizing active visited visited' x with
  | zero => cases h
  | succ depth ih =>
    rw [visit] at h
    split at h
    · cases h
    split at h
    · rename_i hx
      obtain rfl := Except.ok.inj h
      exact ⟨hvisited, List.Subset.refl _, hx⟩
    · cases hfold : (next x).foldlM (visit next depth (x :: active)) visited with
      | error stop =>
        rw [hfold] at h
        cases h
      | ok between =>
        rw [hfold] at h
        obtain rfl := Except.ok.inj h
        obtain ⟨hbetween, hsub, hnext⟩ := foldlM_explored (fun _ _ _ => ih) hfold hvisited
        exact ⟨hbetween.cons hnext, List.subset_cons_of_subset _ hsub, List.mem_cons_self⟩

/-! ## Why the search stops -/

/-- **A visit that stops at a cycle** has found one. Every vertex the search is at leads to the
visited one. -/
theorem visit_cycle {depth : ℕ} {active visited : List α} {x : α}
    (h : visit next depth active visited x = .error .cycle)
    (hactive : ∀ a ∈ active, TransGen (Edge next) a x) : ∃ a, TransGen (Edge next) a a := by
  induction depth generalizing active visited x with
  | zero => cases h
  | succ depth ih =>
    rw [visit] at h
    split at h
    · rename_i hx
      exact ⟨x, hactive x hx⟩
    split at h
    · cases h
    · cases hfold : (next x).foldlM (visit next depth (x :: active)) visited with
      | ok between =>
        rw [hfold] at h
        cases h
      | error stop =>
        rw [hfold] at h
        obtain rfl : stop = .cycle := Except.error.inj h
        obtain ⟨y, hy, visited', hstop⟩ := exists_of_foldlM_error hfold
        refine ih hstop fun a ha => ?_
        rcases List.mem_cons.1 ha with rfl | ha
        · exact TransGen.single hy
        · exact (hactive a ha).tail hy

/-- **A visit does not go too deep**, when the bound is above the number of vertices that lead
anywhere: those the search is at are all different. -/
theorem visit_depth {vertices : List α} (hvertices : ∀ x, next x ≠ [] → x ∈ vertices) {depth : ℕ}
    {active visited : List α} {x : α} (hnodup : active.Nodup) (hsub : active ⊆ vertices)
    (hdepth : vertices.length < depth + active.length) :
    visit next depth active visited x ≠ .error .depth := by
  induction depth generalizing active visited x with
  | zero =>
    have hlength := (List.subperm_of_subset hnodup hsub).length_le
    omega
  | succ depth ih =>
    intro h
    rw [visit] at h
    split at h
    · cases h
    rename_i hx
    split at h
    · cases h
    · cases hfold : (next x).foldlM (visit next depth (x :: active)) visited with
      | ok between =>
        rw [hfold] at h
        cases h
      | error stop =>
        rw [hfold] at h
        obtain rfl : stop = .depth := Except.error.inj h
        obtain ⟨y, hy, visited', hstop⟩ := exists_of_foldlM_error hfold
        refine ih (List.nodup_cons.2 ⟨hx, hnodup⟩) ?_ ?_ hstop
        · exact List.cons_subset.2 ⟨hvertices x (List.ne_nil_of_mem hy), hsub⟩
        · rw [List.length_cons]
          omega

/-! ## The search -/

theorem search_acyclic {depth : ℕ} {roots visited : List α}
    (h : search next depth roots = .ok visited) {x : α} (hx : x ∈ roots) :
    ¬TransGen (Edge next) x x := by
  obtain ⟨hexplored, -, hroots⟩ :=
    foldlM_explored (fun _ _ _ => visit_explored) h explored_nil
  exact hexplored.acyclic x (hroots x hx)

theorem search_cycle {depth : ℕ} {roots : List α} (h : search next depth roots = .error .cycle) :
    ∃ a, TransGen (Edge next) a a := by
  obtain ⟨x, -, visited, hstop⟩ := exists_of_foldlM_error h
  exact visit_cycle hstop fun _ ha => absurd ha List.not_mem_nil

theorem search_depth {vertices : List α} (hvertices : ∀ x, next x ≠ [] → x ∈ vertices) {depth : ℕ}
    (hdepth : vertices.length < depth) (roots : List α) :
    search next depth roots ≠ .error .depth := by
  intro h
  obtain ⟨x, -, visited, hstop⟩ := exists_of_foldlM_error h
  exact visit_depth hvertices List.nodup_nil (List.nil_subset _) hdepth hstop

/-- **The search is exact**: with a bound above the number of vertices that lead anywhere it stops
at a cycle, or there is none. -/
theorem search_exact {roots : List α} (hroots : ∀ x, next x ≠ [] → x ∈ roots) {depth : ℕ}
    (hdepth : roots.length < depth) :
    ((∃ a, TransGen (Edge next) a a) ∧ search next depth roots = .error .cycle) ∨
      ((¬∃ a, TransGen (Edge next) a a) ∧ ∃ visited, search next depth roots = .ok visited) := by
  cases h : search next depth roots with
  | error stop =>
    cases stop with
    | cycle => exact .inl ⟨search_cycle h, rfl⟩
    | depth => exact absurd h (search_depth hroots hdepth roots)
  | ok visited =>
    refine .inr ⟨?_, visited, rfl⟩
    rintro ⟨a, hcycle⟩
    -- a vertex on a cycle leads somewhere, so it is a root
    obtain ⟨y, hedge, -⟩ := TransGen.head'_iff.1 hcycle
    exact search_acyclic h (hroots a (List.ne_nil_of_mem hedge)) hcycle

end DepthFirst
