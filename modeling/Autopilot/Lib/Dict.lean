/-
Dictionaries: the entries of a finite map, in the order their keys were added.

This is what a language with insertion-ordered objects and maps gives its programs.
A key is there once, which is a field. What is read after a change is said by the
simp lemmas, so that no proof about a program looks at the entries unless the program
does.
-/
import Autopilot.Lib.Keyed

set_option autoImplicit false

open Keyed

/-- A finite map, as its entries in the order their keys were added. -/
structure Dict (κ α : Type) [DecidableEq κ] where
  entries : List (κ × α)
  unique : (entries.map Prod.fst).Nodup

namespace Dict

variable {κ α : Type} [DecidableEq κ]

def empty : Dict κ α := ⟨[], List.nodup_nil⟩

/-- What is kept under a key. -/
def get (d : Dict κ α) (k : κ) : Option α := (lookup Prod.fst d.entries k).map Prod.snd

/-- The dictionary with the entries that `keep` holds of. -/
def filter (d : Dict κ α) (keep : κ × α → Bool) : Dict κ α :=
  ⟨d.entries.filter keep, d.unique.sublist (List.filter_sublist.map Prod.fst)⟩

/-- The dictionary without a key. -/
def delete (d : Dict κ α) (k : κ) : Dict κ α := d.filter fun entry => entry.1 ≠ k

/-- The entries after an entry was set: a key that is there keeps its place. -/
def setEntries (d : Dict κ α) (entry : κ × α) : List (κ × α) :=
  if (lookup Prod.fst d.entries entry.1).isSome then d.entries.map (put Prod.fst entry)
  else d.entries ++ [entry]

theorem setEntries_unique (d : Dict κ α) (entry : κ × α) :
    ((d.setEntries entry).map Prod.fst).Nodup := by
  unfold setEntries
  split
  · rw [map_key_put]
    exact d.unique
  · rename_i hnone
    rw [Option.isSome_iff_ne_none, not_not, lookup_eq_none] at hnone
    rw [List.map_append, List.nodup_append]
    refine ⟨d.unique, by simp, ?_⟩
    intro k hk other hother
    obtain ⟨stored, hstored, rfl⟩ := List.mem_map.1 hk
    rw [List.map_singleton, List.mem_singleton] at hother
    rw [hother]
    exact hnone stored hstored

/-- The dictionary with a key set to a value. -/
def set (d : Dict κ α) (k : κ) (a : α) : Dict κ α :=
  ⟨d.setEntries (k, a), d.setEntries_unique (k, a)⟩

/-! ## What is read after a change -/

theorem mem_iff {d : Dict κ α} {k : κ} {a : α} : (k, a) ∈ d.entries ↔ d.get k = some a := by
  constructor
  · intro h
    unfold get
    rw [show k = Prod.fst (k, a) from rfl, lookup_of_mem d.unique h, Option.map_some]
  · intro h
    obtain ⟨⟨k', a'⟩, hfound, hvalue⟩ := Option.map_eq_some_iff.1 h
    obtain ⟨hmem, hkey⟩ := lookup_mem hfound
    rwa [show k = k' from hkey.symm, show a = a' from hvalue.symm]

@[simp] theorem get_empty (k : κ) : (empty : Dict κ α).get k = none := rfl

@[simp] theorem get_filter (d : Dict κ α) (keep : κ × α → Bool) (k : κ) :
    (d.filter keep).get k = (d.get k).filter fun a => keep (k, a) := by
  apply Option.ext
  intro a
  have hmem : (k, a) ∈ (d.filter keep).entries ↔ (k, a) ∈ d.entries ∧ keep (k, a) = true :=
    List.mem_filter
  rw [mem_iff, mem_iff] at hmem
  rw [hmem, Option.filter_eq_some_iff]

@[simp] theorem get_delete (d : Dict κ α) (k k' : κ) :
    (d.delete k).get k' = if k' = k then none else d.get k' := by
  unfold delete
  rw [get_filter]
  by_cases h : k' = k
  · simp [h]
  · cases d.get k' with
    | none => simp [h]
    | some a => simp [h]

@[simp] theorem get_set (d : Dict κ α) (k k' : κ) (a : α) :
    (d.set k a).get k' = if k' = k then some a else d.get k' := by
  unfold get set setEntries
  dsimp only
  split
  · rename_i hsome
    obtain ⟨old, hold⟩ := Option.isSome_iff_exists.1 hsome
    rw [lookup_put]
    by_cases h : k' = k
    · subst h
      rw [if_pos rfl, if_pos rfl, hold]
      rfl
    · rw [if_neg h, if_neg h]
  · rename_i hnone
    rw [Option.isSome_iff_ne_none, not_not, lookup_eq_none] at hnone
    rw [lookup_append hnone]
    by_cases h : k' = k
    · rw [if_pos h, if_pos h]
      rfl
    · rw [if_neg h, if_neg h]

end Dict
