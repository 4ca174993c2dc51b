/-
Records: finite maps that remember the order in which their keys were added.

An object used as a dictionary enumerates its keys in insertion order;
overwriting a key keeps its place and deleting it forgets it. `Record` is an
association list with that behaviour, and carries as a field that no key occurs
twice. What the later proofs use of it is `get?` after each update, and the two
permutation lemmas, from which the value of any sum over the entries follows.
-/
import Mathlib.Algebra.BigOperators.Group.List.Basic
import Mathlib.Data.List.Nodup
import Mathlib.Data.List.Perm.Subperm

set_option autoImplicit false

/-- A finite map with its keys in insertion order. -/
structure Record (κ α : Type) where
  entries : List (κ × α)
  nodup : (entries.map Prod.fst).Nodup

namespace Record

variable {κ α : Type}

@[ext] theorem ext {r r' : Record κ α} (h : r.entries = r'.entries) : r = r' := by
  cases r; cases r'; cases h; rfl

instance [DecidableEq κ] [DecidableEq α] : DecidableEq (Record κ α) := fun r r' =>
  decidable_of_iff (r.entries = r'.entries) ⟨ext, fun h => h ▸ rfl⟩

/-- The record without entries. -/
def empty : Record κ α := ⟨[], List.nodup_nil⟩

def keys (r : Record κ α) : List κ := r.entries.map Prod.fst

def values (r : Record κ α) : List α := r.entries.map Prod.snd

def size (r : Record κ α) : ℕ := r.entries.length

variable [DecidableEq κ]

/-- The value of a key. -/
def get? (r : Record κ α) (k : κ) : Option α :=
  (r.entries.find? (fun e => e.1 = k)).map Prod.snd

/-- Delete a key. -/
def erase (r : Record κ α) (k : κ) : Record κ α where
  entries := r.entries.filter (fun e => e.1 ≠ k)
  nodup := (r.nodup.sublist (List.filter_sublist.map _))

/-- Overwrite a key in its place, or add it at the end. -/
def set (r : Record κ α) (k : κ) (v : α) : Record κ α where
  entries :=
    if k ∈ r.keys then r.entries.map (fun e => if e.1 = k then (k, v) else e)
    else r.entries ++ [(k, v)]
  nodup := by
    split
    · have hk : (r.entries.map (fun e => if e.1 = k then (k, v) else e)).map Prod.fst
          = r.entries.map Prod.fst := by
        rw [List.map_map]
        refine List.map_congr_left (fun e _ => ?_)
        by_cases he : e.1 = k <;> simp [he]
      rw [hk]
      exact r.nodup
    · rename_i hk
      rw [List.map_append, List.nodup_append]
      refine ⟨r.nodup, by simp, ?_⟩
      rintro a ha b hb rfl
      simp only [List.map_cons, List.map_nil, List.mem_singleton] at hb
      exact hk (hb ▸ ha)

/-- Overwriting a key keeps the keys. -/
theorem keys_set_of_mem (r : Record κ α) {k : κ} (h : k ∈ r.keys) (v : α) :
    (r.set k v).keys = r.keys := by
  rw [keys, set]
  dsimp only
  rw [if_pos h, List.map_map]
  refine List.map_congr_left fun e _ => ?_
  by_cases he : e.1 = k
  · simp [he]
  · simp [he]

/-- A new key is the last. -/
theorem keys_set_of_notMem (r : Record κ α) {k : κ} (h : k ∉ r.keys) (v : α) :
    (r.set k v).keys = r.keys ++ [k] := by
  rw [keys, set]
  dsimp only
  rw [if_neg h, List.map_append]
  rfl

/-! ## Reading after an update -/

theorem mem_entries_iff (r : Record κ α) (k : κ) (v : α) :
    (k, v) ∈ r.entries ↔ r.get? k = some v := by
  rcases r with ⟨es, hnd⟩
  unfold get?
  induction es with
  | nil => simp
  | cons e es ih =>
    rw [List.map_cons, List.nodup_cons] at hnd
    rcases e with ⟨k', v'⟩
    by_cases hk : k' = k
    · subst hk
      have hnot : ∀ w, (k', w) ∉ es := fun w hw => hnd.1 (List.mem_map.2 ⟨_, hw, rfl⟩)
      simp [hnot, eq_comm]
    · have := ih hnd.2
      simp only [List.mem_cons, Prod.mk.injEq, List.find?_cons, hk, decide_false] at this ⊢
      rw [← this]
      simp [Ne.symm hk]

theorem mem_values_iff (r : Record κ α) (v : α) :
    v ∈ r.values ↔ ∃ k, r.get? k = some v := by
  simp only [values, List.mem_map, Prod.exists, exists_eq_right, mem_entries_iff]

theorem mem_keys_iff (r : Record κ α) (k : κ) : k ∈ r.keys ↔ ∃ v, r.get? k = some v := by
  simp only [keys, List.mem_map, Prod.exists, exists_and_right, exists_eq_right, mem_entries_iff]

theorem get?_eq_none_iff (r : Record κ α) (k : κ) : r.get? k = none ↔ k ∉ r.keys := by
  rw [mem_keys_iff, Option.eq_none_iff_forall_not_mem]
  simp

@[simp] theorem get?_empty (k : κ) : (empty : Record κ α).get? k = none := rfl

/-- Two records with the same entries as sets read the same. -/
theorem get?_congr {r r' : Record κ α} (k : κ)
    (h : ∀ v, (k, v) ∈ r.entries ↔ (k, v) ∈ r'.entries) : r.get? k = r'.get? k := by
  ext v
  rw [← mem_entries_iff, h, mem_entries_iff]

@[simp] theorem get?_erase_self (r : Record κ α) (k : κ) : (r.erase k).get? k = none := by
  rw [get?_eq_none_iff]
  simp [keys, erase]

theorem get?_erase_of_ne (r : Record κ α) {k k' : κ} (h : k' ≠ k) :
    (r.erase k).get? k' = r.get? k' := by
  refine get?_congr k' (fun v => ?_)
  simp [erase, h]

theorem get?_erase (r : Record κ α) (k k' : κ) :
    (r.erase k).get? k' = if k' = k then none else r.get? k' := by
  split
  · rename_i h; rw [h, get?_erase_self]
  · rename_i h; exact get?_erase_of_ne r h

/-- What is left of a record when some keys are erased. -/
theorem get?_foldl_erase (keys : List κ) (r : Record κ α) (k : κ) :
    (keys.foldl erase r).get? k = if k ∈ keys then none else r.get? k := by
  induction keys generalizing r with
  | nil => simp
  | cons first rest ih =>
    rw [List.foldl_cons, ih, get?_erase]
    by_cases hrest : k ∈ rest
    · simp [hrest]
    · by_cases hfirst : k = first
      · simp [hfirst]
      · simp [hrest, hfirst]

@[simp] theorem get?_set_self (r : Record κ α) (k : κ) (v : α) : (r.set k v).get? k = some v := by
  rw [← mem_entries_iff]
  unfold set
  by_cases hk : k ∈ r.keys
  · obtain ⟨w, hw⟩ := (mem_keys_iff r k).1 hk
    simp only [hk, if_true, List.mem_map, Prod.exists]
    exact ⟨k, w, (mem_entries_iff r k w).2 hw, by simp⟩
  · simp [hk]

theorem get?_set_of_ne (r : Record κ α) {k k' : κ} (h : k' ≠ k) (v : α) :
    (r.set k v).get? k' = r.get? k' := by
  refine get?_congr k' (fun w => ?_)
  unfold set
  by_cases hk : k ∈ r.keys
  · simp only [hk, if_true, List.mem_map, Prod.exists]
    constructor
    · rintro ⟨a, b, hab, heq⟩
      by_cases ha : a = k
      · simp only [ha, if_true, Prod.mk.injEq] at heq
        exact absurd heq.1.symm h
      · simp only [ha, if_false, Prod.mk.injEq] at heq
        rwa [← heq.1, ← heq.2]
    · intro hm
      exact ⟨k', w, hm, by simp [h]⟩
  · simp [hk, h]

theorem get?_set (r : Record κ α) (k k' : κ) (v : α) :
    (r.set k v).get? k' = if k' = k then some v else r.get? k' := by
  split
  · rename_i h; rw [h, get?_set_self]
  · rename_i h; exact get?_set_of_ne r h v

/-- What is read after an update was set, or was there. -/
theorem get?_set_cases {r : Record κ α} {k k' : κ} {v v' : α}
    (h : (r.set k v).get? k' = some v') : (k' = k ∧ v' = v) ∨ r.get? k' = some v' := by
  rw [get?_set] at h
  split at h
  · exact .inl ⟨by assumption, (Option.some.inj h).symm⟩
  · exact .inr h

/-- The last value set for a key counts. -/
@[simp] theorem set_set (r : Record κ α) (k : κ) (v w : α) : (r.set k v).set k w = r.set k w := by
  have hmem : k ∈ (r.set k v).keys := (mem_keys_iff _ _).2 ⟨v, get?_set_self r k v⟩
  ext1
  by_cases hk : k ∈ r.keys
  · have hleft : ((r.set k v).set k w).entries
        = (r.set k v).entries.map (fun e => if e.1 = k then (k, w) else e) := if_pos hmem
    have hmid : (r.set k v).entries = r.entries.map (fun e => if e.1 = k then (k, v) else e) :=
      if_pos hk
    have hright : (r.set k w).entries = r.entries.map (fun e => if e.1 = k then (k, w) else e) :=
      if_pos hk
    rw [hleft, hmid, hright, List.map_map]
    refine List.map_congr_left (fun e _ => ?_)
    by_cases he : e.1 = k <;> simp [he]
  · have hleft : ((r.set k v).set k w).entries
        = (r.set k v).entries.map (fun e => if e.1 = k then (k, w) else e) := if_pos hmem
    have hmid : (r.set k v).entries = r.entries ++ [(k, v)] := if_neg hk
    have hright : (r.set k w).entries = r.entries ++ [(k, w)] := if_neg hk
    have hkeep : r.entries.map (fun e => if e.1 = k then (k, w) else e) = r.entries.map id := by
      refine List.map_congr_left (fun e he => if_neg ?_)
      exact fun hc => hk (hc ▸ List.mem_map_of_mem he)
    rw [hleft, hmid, hright, List.map_append, hkeep, List.map_id]
    simp

/-- Setting the value a key has already changes nothing. -/
theorem set_of_get? {r : Record κ α} {k : κ} {v : α} (h : r.get? k = some v) :
    r.set k v = r := by
  have hmem : k ∈ r.keys := (mem_keys_iff _ _).2 ⟨v, h⟩
  have hset : (r.set k v).entries = r.entries.map (fun e => if e.1 = k then (k, v) else e) :=
    if_pos hmem
  have hid : r.entries.map (fun e => if e.1 = k then (k, v) else e) = r.entries.map id := by
    refine List.map_congr_left (fun e he => ?_)
    by_cases hk : e.1 = k
    · have hget := (mem_entries_iff r e.1 e.2).1 he
      rw [hk, h] at hget
      simp only [hk, if_true, id]
      exact Prod.ext hk.symm (Option.some.inj hget)
    · simp [hk]
  ext1
  rw [hset, hid, List.map_id]

/-! ## Sums over the entries -/

/-- Taking a present key out. -/
theorem entries_perm_erase {r : Record κ α} {k : κ} {v : α} (h : r.get? k = some v) :
    r.entries.Perm ((k, v) :: (r.erase k).entries) := by
  rcases r with ⟨es, hnd⟩
  have hmem := (mem_entries_iff ⟨es, hnd⟩ k v).2 h
  simp only [erase] at hmem ⊢
  clear h
  induction es with
  | nil => simp at hmem
  | cons e es ih =>
    rw [List.map_cons, List.nodup_cons] at hnd
    rcases e with ⟨k', v'⟩
    by_cases hk : k' = k
    · subst hk
      have hnot : ∀ w, (k', w) ∉ es := fun w hw => hnd.1 (List.mem_map.2 ⟨_, hw, rfl⟩)
      have hfil : es.filter (fun e => e.1 ≠ k') = es := by
        refine List.filter_eq_self.2 (fun e he => ?_)
        have : e.1 ≠ k' := fun h => hnot e.2 (by rw [← h]; exact he)
        simpa using this
      have hv : v = v' := by simpa [hnot v] using hmem
      rw [List.filter_cons_of_neg (by simp), hfil, hv]
    · have hm : (k, v) ∈ es := by simpa [Ne.symm hk] using hmem
      rw [List.filter_cons_of_pos (by simpa using hk)]
      exact ((ih hnd.2 hm).cons _).trans (List.Perm.swap ..)

theorem erase_of_get?_none {r : Record κ α} {k : κ} (h : r.get? k = none) :
    r.erase k = r := by
  ext1
  refine List.filter_eq_self.2 (fun e he => ?_)
  have : e.1 ≠ k := fun hk => (get?_eq_none_iff r k).1 h (hk ▸ List.mem_map_of_mem he)
  simpa using this

/-- An updated record has the new entry and the others as they were. -/
theorem entries_set_perm (r : Record κ α) (k : κ) (v : α) :
    (r.set k v).entries.Perm ((k, v) :: (r.erase k).entries) := by
  refine (entries_perm_erase (get?_set_self r k v)).trans (List.Perm.cons _ ?_)
  rw [List.perm_ext_iff_of_nodup]
  · rintro ⟨a, b⟩
    rw [mem_entries_iff, mem_entries_iff, get?_erase, get?_erase, get?_set]
    split <;> simp_all
  · exact List.Nodup.of_map _ ((r.set k v).erase k).nodup
  · exact List.Nodup.of_map _ (r.erase k).nodup

/-- The sum of `f` over the values. -/
def sum {M : Type} [AddCommMonoid M] (r : Record κ α) (f : α → M) : M := (r.values.map f).sum

variable {M : Type} [AddCommMonoid M]

theorem sum_eq_add_erase {r : Record κ α} {k : κ} {v : α} (h : r.get? k = some v) (f : α → M) :
    r.sum f = f v + (r.erase k).sum f := by
  have := (((entries_perm_erase h).map Prod.snd).map f).sum_eq
  simpa [sum, values] using this

theorem sum_set (r : Record κ α) (k : κ) (v : α) (f : α → M) :
    (r.set k v).sum f = f v + (r.erase k).sum f := by
  have := (((entries_set_perm r k v).map Prod.snd).map f).sum_eq
  simpa [sum, values] using this

/-- Adding a new key adds its value's share. -/
theorem sum_set_of_none {r : Record κ α} {k : κ} (h : r.get? k = none) (v : α) (f : α → M) :
    (r.set k v).sum f = f v + r.sum f := by
  rw [sum_set, erase_of_get?_none h]

end Record
