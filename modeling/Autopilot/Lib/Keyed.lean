/-
Lists of records that are known by a key.

A document that is a list of records is read by searching for a key and changed
by mapping over the list, with the one record replaced. This is the theory of
that: what is found after a map that keeps the keys, after a record was put in
place of the one of its key, and after a record was appended. Where keys are
unique, a member is what is found under its key.
-/
import Mathlib.Data.List.Forall2
import Mathlib.Data.List.Nodup
import Mathlib.Tactic.Common

set_option autoImplicit false

namespace Keyed

variable {α κ : Type} [DecidableEq κ] {key : α → κ}

/-- The first record of a key. -/
def lookup (key : α → κ) (xs : List α) (k : κ) : Option α := xs.find? (fun x => key x = k)

/-- The record `x` in place of a candidate of its key. -/
def put (key : α → κ) (x candidate : α) : α := if key candidate = key x then x else candidate

theorem lookup_mem {xs : List α} {k : κ} {x : α} (h : lookup key xs k = some x) :
    x ∈ xs ∧ key x = k :=
  ⟨List.mem_of_find?_eq_some h, by simpa using List.find?_some h⟩

theorem lookup_eq_none {xs : List α} {k : κ} :
    lookup key xs k = none ↔ ∀ x ∈ xs, key x ≠ k := by
  simp [lookup, List.find?_eq_none]

/-- A rewrite that keeps the keys rewrites what is found. -/
theorem lookup_map {xs : List α} {f : α → α} (hf : ∀ x ∈ xs, key (f x) = key x) (k : κ) :
    lookup key (xs.map f) k = (lookup key xs k).map f := by
  induction xs with
  | nil => rfl
  | cons x xs ih =>
    have hhead := hf x (List.mem_cons_self ..)
    have htail := ih fun y hy => hf y (List.mem_cons_of_mem _ hy)
    unfold lookup at htail ⊢
    rw [List.map_cons, List.find?_cons, List.find?_cons, hhead]
    by_cases h : key x = k
    · simp [h]
    · simpa [h] using htail

theorem key_put (x candidate : α) : key (put key x candidate) = key candidate := by
  unfold put
  split
  · rename_i h
    exact h.symm
  · rfl

/-- What is found after one record was put. -/
theorem lookup_put (xs : List α) (x : α) (k : κ) :
    lookup key (xs.map (put key x)) k
      = if k = key x then (lookup key xs k).map (fun _ => x) else lookup key xs k := by
  rw [lookup_map (fun candidate _ => key_put x candidate)]
  cases hl : lookup key xs k with
  | none => simp
  | some found =>
    obtain ⟨-, hkey⟩ := lookup_mem hl
    by_cases h : k = key x
    · simp [put, hkey, h]
    · simp [put, hkey, h]

/-- A record that was put over another one of its key is found. -/
theorem lookup_put_self {xs : List α} {x old : α} (h : lookup key xs (key x) = some old) :
    lookup key (xs.map (put key x)) (key x) = some x := by
  rw [lookup_put, if_pos rfl, h]
  rfl

/-- The keys after a record was put are the keys there were. -/
theorem map_key_put (xs : List α) (x : α) : (xs.map (put key x)).map key = xs.map key := by
  rw [List.map_map]
  exact List.map_congr_left fun candidate _ => key_put x candidate

/-- Of two records of one key the one put last stays. -/
theorem map_put_put (xs : List α) {x y : α} (hkey : key y = key x) :
    (xs.map (put key x)).map (put key y) = xs.map (put key y) := by
  rw [List.map_map]
  refine List.map_congr_left fun candidate _ => ?_
  simp only [Function.comp_apply, put]
  by_cases h : key candidate = key x
  · simp [h, hkey]
  · simp [h, hkey]

/-- A record of a new key does not hide the others. -/
theorem lookup_append {xs : List α} {x : α} (hnew : ∀ y ∈ xs, key y ≠ key x) (k : κ) :
    lookup key (xs ++ [x]) k = if k = key x then some x else lookup key xs k := by
  unfold lookup
  rw [List.find?_append]
  by_cases h : k = key x
  · subst h
    have hnone : xs.find? (fun y => key y = key x) = none := by
      rw [List.find?_eq_none]
      intro y hy
      simpa using hnew y hy
    rw [hnone, if_pos rfl]
    simp
  · have hne : ¬ key x = k := fun e => h e.symm
    simp [h, hne]

/-- Where keys are unique, a member is found under its key. -/
theorem lookup_of_mem {xs : List α} (hnd : (xs.map key).Nodup) {x : α} (h : x ∈ xs) :
    lookup key xs (key x) = some x := by
  induction xs with
  | nil => cases h
  | cons head xs ih =>
    rw [List.map_cons, List.nodup_cons] at hnd
    unfold lookup at ih ⊢
    rw [List.find?_cons]
    rcases List.mem_cons.1 h with rfl | h
    · simp
    · have hne : key head ≠ key x := by
        rintro heq
        exact hnd.1 (heq ▸ List.mem_map_of_mem h)
      simpa [hne] using ih hnd.2 h

/-- Where no two records have one key, a record is found under its key. -/
theorem lookup_eq_some_iff {xs : List α} (hnd : (xs.map key).Nodup) {k : κ} {x : α} :
    lookup key xs k = some x ↔ x ∈ xs ∧ key x = k := by
  constructor
  · exact lookup_mem
  · rintro ⟨hmem, rfl⟩
    exact lookup_of_mem hnd hmem

/-- Where no two records have one key, their order does not matter. -/
theorem lookup_perm {xs ys : List α} (hperm : xs.Perm ys) (hnd : (xs.map key).Nodup) (k : κ) :
    lookup key xs k = lookup key ys k := by
  have hnd' : (ys.map key).Nodup := (hperm.map key).nodup_iff.1 hnd
  refine Option.ext fun x => ?_
  rw [lookup_eq_some_iff hnd, lookup_eq_some_iff hnd', hperm.mem_iff]

/-- A part of a list is what is left when the list is filtered by the keys of the part. -/
theorem filter_keys_of_sublist {xs part : List α} (h : part.Sublist xs)
    (hnd : (xs.map key).Nodup) : xs.filter (fun x => key x ∈ part.map key) = part := by
  induction h with
  | slnil => rfl
  | cons x h ih =>
    rw [List.map_cons, List.nodup_cons] at hnd
    rw [List.filter_cons_of_neg, ih hnd.2]
    rw [decide_eq_true_iff]
    exact fun hmem => hnd.1 ((h.map key).subset hmem)
  | cons_cons x h ih =>
    rw [List.map_cons, List.nodup_cons] at hnd
    rw [List.filter_cons_of_pos (by simp)]
    refine congrArg (x :: ·) (Eq.trans (List.filter_congr fun y hy => ?_) (ih hnd.2))
    have hne : key y ≠ key x := fun heq => hnd.1 (heq ▸ List.mem_map_of_mem hy)
    rw [List.map_cons]
    exact decide_eq_decide.2 ⟨fun hmem => (List.mem_cons.1 hmem).resolve_left hne,
      List.mem_cons_of_mem _⟩

/-- A part of a list, and the records of other keys, are the list. -/
theorem append_filter_keys_perm {xs part : List α} (h : part.Sublist xs)
    (hnd : (xs.map key).Nodup) {others : α → Bool}
    (hothers : ∀ x, others x = true ↔ key x ∉ part.map key) :
    (part ++ xs.filter others).Perm xs := by
  have hsplit := List.filter_append_perm (fun x => decide (key x ∈ part.map key)) xs
  rw [filter_keys_of_sublist h hnd] at hsplit
  have heq : xs.filter others = xs.filter fun x => !decide (key x ∈ part.map key) :=
    List.filter_congr fun x _ => by
      rw [Bool.eq_iff_iff, hothers, Bool.not_eq_true', decide_eq_false_iff_not]
  rwa [heq]

/-- A record after a put is the one that was put, or one of another key. -/
theorem mem_put {xs : List α} {x y : α} (h : y ∈ xs.map (put key x)) :
    y = x ∨ (y ∈ xs ∧ key y ≠ key x) := by
  obtain ⟨candidate, hc, rfl⟩ := List.mem_map.1 h
  unfold put
  split
  · exact .inl rfl
  · rename_i hne
    exact .inr ⟨hc, hne⟩

/-! ## Lists changed record by record -/

variable {β : Type} {R : α → β → Prop} {xs : List α} {ys : List β}

/-- Every record of the changed list comes from one of the old list. -/
theorem exists_left_of_forall₂ (h : List.Forall₂ R xs ys) {y : β} (hy : y ∈ ys) :
    ∃ x ∈ xs, R x y := by
  induction h with
  | nil => cases hy
  | cons hR _ ih =>
    rcases List.mem_cons.1 hy with rfl | hy
    · exact ⟨_, List.mem_cons_self, hR⟩
    · obtain ⟨x, hx, hrel⟩ := ih hy
      exact ⟨x, List.mem_cons_of_mem _ hx, hrel⟩

/-- Every record of the old list has become one of the changed list. -/
theorem exists_right_of_forall₂ (h : List.Forall₂ R xs ys) {x : α} (hx : x ∈ xs) :
    ∃ y ∈ ys, R x y :=
  exists_left_of_forall₂ h.flip hx

end Keyed
