/-
Texts cut at separators.

A list of words that are joined by one separator comes back when the text is cut at every symbol
of a class that this separator belongs to and no word has a symbol of. Records that each end in
one symbol come back when the text without its last symbol is cut at it. Records of two fields that
each end in a symbol of their own are told apart, one text after the other.
-/
import Mathlib.Data.List.Basic

set_option autoImplicit false

namespace Separated

variable {α : Type}

/-! ## Words -/

section words

variable {p : α → Bool}

/-- No word that is cut out has a separator. -/
theorem not_separator_of_mem {text word : List α} (h : word ∈ text.splitOnP p) {c : α}
    (hc : c ∈ word) : p c = false := by
  induction text generalizing word with
  | nil =>
    rw [List.splitOnP_nil, List.mem_singleton] at h
    subst h
    cases hc
  | cons d rest ih =>
    rw [List.splitOnP_cons_eq_if_modifyHead] at h
    by_cases hd : p d = true
    · rw [if_pos hd] at h
      rcases List.mem_cons.1 h with rfl | h
      · cases hc
      · exact ih h hc
    · rw [if_neg hd] at h
      obtain ⟨first, more, hsplit⟩ := List.exists_cons_of_ne_nil (List.splitOnP_ne_nil p rest)
      rw [hsplit, List.modifyHead_cons] at h
      rw [hsplit] at ih
      rcases List.mem_cons.1 h with rfl | h
      · rcases List.mem_cons.1 hc with rfl | hc
        · exact Bool.eq_false_iff.2 hd
        · exact ih List.mem_cons_self hc
      · exact ih (List.mem_cons_of_mem _ h) hc

/-- **Words that are joined by a separator come back.** -/
theorem splitOnP_joined {separator : α} (hseparator : p separator = true) {words : List (List α)}
    (hne : words ≠ []) (hwords : ∀ word ∈ words, ∀ c ∈ word, p c = false) :
    ((words.intersperse [separator]).flatten).splitOnP p = words := by
  induction words with
  | nil => exact absurd rfl hne
  | cons word more ih =>
    have hword : ∀ c ∈ word, p c = false := hwords word List.mem_cons_self
    cases more with
    | nil =>
      rw [List.intersperse_singleton, List.flatten_singleton]
      exact List.splitOnP_eq_singleton hword
    | cons next more =>
      rw [List.intersperse_cons_cons, List.flatten_cons, List.flatten_cons, List.singleton_append,
        List.splitOnP_append_cons_of_forall_mem hword separator hseparator,
        ih (by simp) fun w hw => hwords w (List.mem_cons_of_mem _ hw)]

end words

/-! ## Records -/

section records

variable {z : α}

/-- Records that each end in a symbol. -/
def terminated (z : α) (records : List (List α)) : List α := records.flatMap (· ++ [z])

theorem terminated_cons (record : List α) (records : List (List α)) :
    terminated z (record :: records) = record ++ z :: terminated z records := by
  rw [terminated, List.flatMap_cons, List.append_assoc, List.singleton_append]
  rfl

/-- Without the last symbol, the records are joined by it. -/
theorem terminated_eq {records : List (List α)} (hne : records ≠ []) :
    terminated z records = [z].intercalate records ++ [z] := by
  induction records with
  | nil => exact absurd rfl hne
  | cons record more ih =>
    rw [terminated_cons]
    cases more with
    | nil =>
      rw [List.intercalate, List.intersperse_singleton, List.flatten_singleton]
      rfl
    | cons next more =>
      rw [ih (by simp), List.intercalate, List.intercalate, List.intersperse_cons_cons,
        List.flatten_cons, List.flatten_cons]
      simp

variable [DecidableEq α]

theorem splitOn_terminated {records : List (List α)} (hne : records ≠ [])
    (hrecords : ∀ record ∈ records, z ∉ record) :
    (terminated z records).dropLast.splitOn z = records := by
  rw [terminated_eq hne, List.dropLast_concat]
  exact List.splitOn_intercalate z hrecords hne

theorem not_mem_of_mem_splitOn {text record : List α} (h : record ∈ text.splitOn z) :
    z ∉ record := by
  intro hz
  rw [List.splitOn_eq_splitOnP] at h
  have hseparator := not_separator_of_mem h hz
  rw [beq_self_eq_true] at hseparator
  cases hseparator

theorem terminated_splitOn {text : List α} (h : text.getLast? = some z) :
    terminated z (text.dropLast.splitOn z) = text := by
  have hne : text ≠ [] := by
    rintro rfl
    cases h
  rw [terminated_eq (List.splitOn_ne_nil z _), List.intercalate_splitOn]
  have hlast := List.dropLast_concat_getLast hne
  rw [List.getLast?_eq_some_getLast hne, Option.some.injEq] at h
  rwa [h] at hlast

end records

/-! ## Records of two fields -/

section fields

variable {y z : α}

/-- Two fields, each with the symbol that ends it. -/
def fields (y z : α) (record : List α × List α) : List α := record.1 ++ y :: (record.2 ++ [z])

/-- A text up to the first of a symbol, and what stands behind it. -/
theorem append_cons_inj {a b more rest : List α} (ha : y ∉ a) (hb : y ∉ b)
    (h : a ++ y :: more = b ++ y :: rest) : a = b ∧ more = rest := by
  induction a generalizing b with
  | nil =>
    cases b with
    | nil => exact ⟨rfl, (List.cons.inj h).2⟩
    | cons c b => exact absurd ((List.cons.inj h).1 ▸ List.mem_cons_self) hb
  | cons c a ih =>
    cases b with
    | nil => exact absurd ((List.cons.inj h).1 ▸ List.mem_cons_self) ha
    | cons d b =>
      obtain ⟨rfl, htail⟩ := List.cons.inj h
      obtain ⟨rfl, hrest⟩ := ih (fun hy => ha (List.mem_cons_of_mem _ hy))
        (fun hy => hb (List.mem_cons_of_mem _ hy)) htail
      exact ⟨rfl, hrest⟩

/-- **Records of two fields are told apart**, when no field has the symbol that ends it. -/
theorem fields_injective {records others : List (List α × List α)}
    (hrecords : ∀ r ∈ records, y ∉ r.1 ∧ z ∉ r.2) (hothers : ∀ r ∈ others, y ∉ r.1 ∧ z ∉ r.2)
    (h : records.flatMap (fields y z) = others.flatMap (fields y z)) : records = others := by
  have hne (r : List α × List α) (more : List α) : fields y z r ++ more ≠ [] := by
    simp [fields]
  induction records generalizing others with
  | nil =>
    cases others with
    | nil => rfl
    | cons other others => exact absurd h.symm (hne other _)
  | cons record records ih =>
    cases others with
    | nil => exact absurd h (hne record _)
    | cons other others =>
      obtain ⟨hy, hz⟩ := hrecords record List.mem_cons_self
      obtain ⟨hy', hz'⟩ := hothers other List.mem_cons_self
      rw [List.flatMap_cons, List.flatMap_cons, fields, fields, List.append_assoc,
        List.append_assoc, List.cons_append, List.cons_append, List.append_assoc,
        List.append_assoc] at h
      obtain ⟨hfirst, h⟩ := append_cons_inj hy hy' h
      obtain ⟨hsecond, hrest⟩ := append_cons_inj hz hz' h
      rw [Prod.ext hfirst hsecond, ih (fun r hr => hrecords r (List.mem_cons_of_mem _ hr))
        (fun r hr => hothers r (List.mem_cons_of_mem _ hr)) hrest]

end fields

end Separated
