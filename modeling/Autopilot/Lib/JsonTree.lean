/-
JSON texts of any shape.

A tree is any value of JSON, with a number spelled out. It is written as `JSON.stringify` writes
it, without blanks, and what was written is read as the value it stands for. A list of trees is
read element by element, so the proofs for arrays and objects ask only that each element is read,
and the induction over the tree puts them together.
-/
import Autopilot.Lib.JsonReader

set_option autoImplicit false

namespace JsonText

/-- A value of JSON. A number is negative or not, and spelled out. -/
inductive Tree where
  | null
  | bool (b : Bool)
  | number (negative : Bool) (n : Numeral)
  | string (s : List UInt16)
  | array (elements : List Tree)
  | object (members : List (List UInt16 × Tree))

/-! ## Texts and values -/

mutual

/-- `JSON.stringify`. -/
def Tree.text : Tree → List UInt16
  | .null => [110, 117, 108, 108]
  | .bool true => [116, 114, 117, 101]
  | .bool false => [102, 97, 108, 115, 101]
  | .number true n => 45 :: n.text
  | .number false n => n.text
  | .string s => quoted s
  | .array [] => [91, 93]
  | .array (d :: rest) => 91 :: (d.text ++ treesTail rest)
  | .object [] => [123, 125]
  | .object ((name, d) :: rest) => 123 :: (quoted name ++ 58 :: (d.text ++ entriesTail rest))

/-- The elements of an array behind the first, and its end. -/
def treesTail : List Tree → List UInt16
  | [] => [93]
  | d :: rest => 44 :: (d.text ++ treesTail rest)

/-- The members of an object behind the first, and its end. -/
def entriesTail : List (List UInt16 × Tree) → List UInt16
  | [] => [125]
  | (name, d) :: rest => 44 :: (quoted name ++ 58 :: (d.text ++ entriesTail rest))

end

mutual

/-- The value a tree stands for. -/
def Tree.value : Tree → Value
  | .null => .null
  | .bool b => .bool b
  | .number negative n => .number { n.decimal with negative }
  | .string s => .string s
  | .array elements => .array (treeValues elements)
  | .object members => .object (entryValues members)

def treeValues : List Tree → List Value
  | [] => []
  | d :: rest => d.value :: treeValues rest

def entryValues : List (List UInt16 × Tree) → List (List UInt16 × Value)
  | [] => []
  | (name, d) :: rest => (name, d.value) :: entryValues rest

end

mutual

/-- How deep the values of a tree stand inside of each other. -/
def Tree.depth : Tree → ℕ
  | .array elements => treesDepth elements + 1
  | .object members => entriesDepth members + 1
  | _ => 0

def treesDepth : List Tree → ℕ
  | [] => 0
  | d :: rest => max d.depth (treesDepth rest)

def entriesDepth : List (List UInt16 × Tree) → ℕ
  | [] => 0
  | (_, d) :: rest => max d.depth (entriesDepth rest)

end

/-! ## The beginning of a text -/

theorem isDigit_start {c : UInt16} (h : isDigit c = true) :
    isBlank c = false ∧ c ≠ 93 ∧ c ≠ 125 := by
  have hc := isDigit_toNat h
  have hne : ∀ k : UInt16, k.toNat < 48 ∨ 57 < k.toNat → c ≠ k := by
    intro k hk heq
    rw [heq] at hc
    omega
  unfold isBlank
  simp [hne 9 (by decide), hne 10 (by decide), hne 13 (by decide), hne 32 (by decide),
    hne 93 (by decide), hne 125 (by decide)]

/-- A tree starts with neither a blank nor the end of what it stands in. -/
theorem Tree.text_head (d : Tree) :
    ∃ c tail, d.text = c :: tail ∧ isBlank c = false ∧ c ≠ 93 ∧ c ≠ 125 := by
  cases d with
  | null => exact ⟨110, _, by rw [Tree.text], by decide⟩
  | bool b =>
    cases b with
    | false => exact ⟨102, _, by rw [Tree.text], by decide⟩
    | true => exact ⟨116, _, by rw [Tree.text], by decide⟩
  | number negative n =>
    cases negative with
    | false =>
      obtain ⟨c, tail, htext, hdigit⟩ := n.text_head
      refine ⟨c, tail, ?_, isDigit_start hdigit⟩
      rw [Tree.text]
      exact htext
    | true => exact ⟨45, _, by rw [Tree.text], by decide⟩
  | string s =>
    refine ⟨34, escaped s ++ [34], ?_, by decide⟩
    rw [Tree.text]
    rfl
  | array elements =>
    cases elements with
    | nil => exact ⟨91, [93], by rw [Tree.text], by decide⟩
    | cons d rest => exact ⟨91, _, by rw [Tree.text], by decide⟩
  | object members =>
    cases members with
    | nil => exact ⟨123, [125], by rw [Tree.text], by decide⟩
    | cons m rest =>
      obtain ⟨name, d⟩ := m
      exact ⟨123, _, by rw [Tree.text], by decide⟩

/-! ### Brackets -/

theorem entriesTail_getLast (members : List (List UInt16 × Tree)) :
    ∃ middle, entriesTail members = middle ++ [125] := by
  induction members with
  | nil => exact ⟨[], by rw [entriesTail]; rfl⟩
  | cons m rest ih =>
    obtain ⟨name, d⟩ := m
    obtain ⟨middle, hmiddle⟩ := ih
    exact ⟨44 :: (quoted name ++ 58 :: (d.text ++ middle)), by rw [entriesTail, hmiddle]; simp⟩

/-- An object stands in braces. -/
theorem text_object (members : List (List UInt16 × Tree)) :
    ∃ middle, (Tree.object members).text = 123 :: (middle ++ [125]) := by
  cases members with
  | nil => exact ⟨[], by rw [Tree.text]; rfl⟩
  | cons m rest =>
    obtain ⟨name, d⟩ := m
    obtain ⟨middle, hmiddle⟩ := entriesTail_getLast rest
    exact ⟨quoted name ++ 58 :: (d.text ++ middle), by rw [Tree.text, hmiddle]; simp⟩

theorem afterNumber_bracket (rest : List UInt16) : AfterNumber (93 :: rest) := by
  intro c hc
  obtain rfl : (93 : UInt16) = c := Option.some.inj hc
  decide

theorem afterNumber_treesTail (elements : List Tree) (rest : List UInt16) :
    AfterNumber (treesTail elements ++ rest) := by
  cases elements with
  | nil =>
    rw [treesTail]
    exact afterNumber_bracket rest
  | cons d elements =>
    rw [treesTail]
    exact afterNumber_comma _

theorem afterNumber_entriesTail (members : List (List UInt16 × Tree)) (rest : List UInt16) :
    AfterNumber (entriesTail members ++ rest) := by
  cases members with
  | nil =>
    rw [entriesTail]
    exact afterNumber_brace rest
  | cons m members =>
    obtain ⟨name, d⟩ := m
    rw [entriesTail]
    exact afterNumber_comma _

/-! ## Reading elements -/

/-- The tree is read, whatever follows it that ends a number. -/
def ReadAt (fuel : ℕ) (d : Tree) : Prop :=
  ∀ rest, AfterNumber rest → readValue fuel (d.text ++ rest) = some (d.value, rest)

/-- Elements that are read one by one are read as those of an array. -/
theorem readElements_trees {fuel : ℕ} (rest : List UInt16) :
    ∀ (elements : List Tree) (d : Tree) (bound : ℕ), ReadAt fuel d →
      (∀ e ∈ elements, ReadAt fuel e) → elements.length < bound →
      readElements (readValue fuel) bound (d.text ++ (treesTail elements ++ rest)) =
        some (treeValues (d :: elements), rest)
  | _, _, 0, _, _, hbound => absurd hbound (Nat.not_lt_zero _)
  | [], d, bound + 1, hd, _, _ => by
    rw [readElements, hd _ (afterNumber_treesTail [] rest), Option.bind_some]
    dsimp only
    rw [treesTail, List.singleton_append, skipBlanks_of_head (by decide)]
    rfl
  | e :: elements, d, bound + 1, hd, he, hbound => by
    have ih := readElements_trees rest elements e bound (he e (List.mem_cons_self ..))
      (fun f hf => he f (List.mem_cons_of_mem _ hf)) (Nat.lt_of_succ_lt_succ hbound)
    rw [readElements, hd _ (afterNumber_treesTail (e :: elements) rest), Option.bind_some]
    dsimp only
    rw [treesTail, List.cons_append, skipBlanks_of_head (by decide), List.append_assoc]
    show (readElements (readValue fuel) bound
      (e.text ++ (treesTail elements ++ rest))).map _ = _
    rw [ih, treeValues]
    rfl

/-- A member whose value is read. -/
theorem readMember_tree {fuel : ℕ} {d : Tree} (hd : ReadAt fuel d) (name : List UInt16)
    {rest : List UInt16} (hrest : AfterNumber rest) :
    readMember (readValue fuel) (quoted name ++ 58 :: (d.text ++ rest)) =
      some ((name, d.value), rest) := by
  have hname := readString_escaped name (58 :: (d.text ++ rest))
  unfold quoted
  rw [List.cons_append, List.cons_append, List.append_assoc, List.singleton_append]
  show (readString (escaped name ++ 34 :: 58 :: (d.text ++ rest))).bind _ = _
  rw [hname, Option.bind_some]
  show (readValue fuel (d.text ++ rest)).map _ = _
  rw [hd rest hrest]
  rfl

/-- Members whose values are read one by one are read as those of an object. -/
theorem readMembers_tree {fuel : ℕ} (rest : List UInt16) :
    ∀ (members : List (List UInt16 × Tree)) (name : List UInt16) (d : Tree) (bound : ℕ),
      ReadAt fuel d → (∀ m ∈ members, ReadAt fuel m.2) → members.length < bound →
      readMembers (readValue fuel) bound
          (quoted name ++ 58 :: (d.text ++ (entriesTail members ++ rest))) =
        some (entryValues ((name, d) :: members), rest)
  | _, _, _, 0, _, _, hbound => absurd hbound (Nat.not_lt_zero _)
  | [], name, d, bound + 1, hd, _, _ => by
    rw [readMembers, readMember_tree hd name (afterNumber_entriesTail [] rest),
      Option.bind_some]
    dsimp only
    rw [entriesTail, List.singleton_append, skipBlanks_of_head (by decide)]
    rfl
  | (name', e) :: members, name, d, bound + 1, hd, he, hbound => by
    have ih := readMembers_tree rest members name' e bound (he _ (List.mem_cons_self ..))
      (fun f hf => he f (List.mem_cons_of_mem _ hf)) (Nat.lt_of_succ_lt_succ hbound)
    rw [readMembers, readMember_tree hd name
      (afterNumber_entriesTail ((name', e) :: members) rest), Option.bind_some]
    dsimp only
    rw [entriesTail, List.cons_append, skipBlanks_of_head (by decide), List.append_assoc,
      List.cons_append, List.append_assoc]
    show (readMembers (readValue fuel) bound
      (quoted name' ++ 58 :: (e.text ++ (entriesTail members ++ rest)))).map _ = _
    rw [ih, entryValues]
    rfl

theorem length_le_treesTail (elements : List Tree) :
    elements.length < (treesTail elements).length := by
  induction elements with
  | nil => decide
  | cons d rest ih =>
    rw [treesTail]
    simp only [List.length_cons, List.length_append]
    omega

theorem length_le_entriesTail (members : List (List UInt16 × Tree)) :
    members.length < (entriesTail members).length := by
  induction members with
  | nil => decide
  | cons m rest ih =>
    obtain ⟨name, d⟩ := m
    rw [entriesTail]
    simp only [List.length_cons, List.length_append]
    omega

/-! ## Trees -/

theorem readValue_bracket (fuel : ℕ) (text : List UInt16) :
    readValue (fuel + 1) (91 :: text) = match skipBlanks text with
      | 93 :: rest => some (Value.array [], rest)
      | rest => (readElements (readValue fuel) rest.length rest).map
          fun xs : List Value × List UInt16 => (Value.array xs.1, xs.2) := by
  rw [readValue, skipBlanks_of_head (by decide)]
  rfl

/-- An array whose elements are read. -/
theorem readAt_array {fuel : ℕ} {elements : List Tree}
    (h : ∀ e ∈ elements, ReadAt fuel e) : ReadAt (fuel + 1) (.array elements) := by
  intro rest _
  cases elements with
  | nil => rw [Tree.text]; rfl
  | cons d elements =>
    obtain ⟨c, tail, htext, hblank, hclose, -⟩ := d.text_head
    have hbound : elements.length <
        (d.text ++ (treesTail elements ++ rest)).length := by
      have hlength := length_le_treesTail elements
      simp only [List.length_append]
      omega
    have hread := readElements_trees rest elements d _ (h d (List.mem_cons_self ..))
      (fun e he => h e (List.mem_cons_of_mem _ he)) hbound
    rw [Tree.text, List.cons_append, List.append_assoc, readValue_bracket]
    rw [htext, List.cons_append] at hread ⊢
    rw [skipBlanks_of_head hblank]
    split
    · exact absurd (List.cons.inj ‹_›).1 hclose
    · rw [hread, Tree.value]
      rfl

theorem readValue_brace (fuel : ℕ) (text : List UInt16) :
    readValue (fuel + 1) (123 :: text) = match skipBlanks text with
      | 125 :: rest => some (Value.object [], rest)
      | rest => (readMembers (readValue fuel) rest.length rest).map
          fun ms : List (List UInt16 × Value) × List UInt16 => (Value.object ms.1, ms.2) := by
  rw [readValue, skipBlanks_of_head (by decide)]
  rfl

/-- An object whose members are read. -/
theorem readAt_object {fuel : ℕ} {members : List (List UInt16 × Tree)}
    (h : ∀ m ∈ members, ReadAt fuel m.2) : ReadAt (fuel + 1) (.object members) := by
  intro rest _
  cases members with
  | nil => rw [Tree.text]; rfl
  | cons m members =>
    obtain ⟨name, d⟩ := m
    have hbound : members.length <
        (quoted name ++ 58 :: (d.text ++ (entriesTail members ++ rest))).length := by
      have hlength := length_le_entriesTail members
      simp only [List.length_append, List.length_cons]
      omega
    have hread := readMembers_tree rest members name d _ (h _ (List.mem_cons_self ..))
      (fun e he => h e (List.mem_cons_of_mem _ he)) hbound
    rw [Tree.text, List.cons_append, List.append_assoc, List.cons_append, List.append_assoc,
      readValue_brace]
    unfold quoted at hread ⊢
    rw [List.cons_append, List.cons_append] at hread ⊢
    rw [skipBlanks_of_head (by decide)]
    show (readMembers (readValue fuel) _ _).map _ = _
    rw [hread, Tree.value]
    rfl

/-! ### Leaves -/

/-- The digits of a number are read in the same way behind a sign. -/
theorem readMagnitude_true (text : List UInt16) :
    readMagnitude true text =
      (readMagnitude false text).map fun n => ({ n.1 with negative := true }, n.2) := by
  unfold readMagnitude
  cases readInteger text with
  | none => rfl
  | some whole =>
    rw [Option.bind_some, Option.bind_some]
    cases readFraction whole.2 with
    | none => rfl
    | some fraction =>
      rw [Option.bind_some, Option.bind_some, Option.map_map]
      rfl

theorem readAt_number (fuel : ℕ) (negative : Bool) (n : Numeral) :
    ReadAt (fuel + 1) (.number negative n) := by
  intro rest hrest
  cases negative with
  | false =>
    rw [Tree.text, Tree.value]
    exact readValue_scalar (.number n) fuel hrest
  | true =>
    have hread := readNumber_text n hrest
    obtain ⟨c, tail, htext, hdigit⟩ := n.text_head
    have hsign : readNumber (n.text ++ rest) = readMagnitude false (n.text ++ rest) := by
      unfold readNumber
      split
      · rename_i behind heq
        rw [htext, List.cons_append] at heq
        rw [(List.cons.inj heq).1] at hdigit
        exact absurd hdigit (by decide)
      · rfl
    rw [hsign] at hread
    rw [Tree.text, Tree.value, List.cons_append, readValue, skipBlanks_of_head (by decide)]
    show (readMagnitude true (n.text ++ rest)).map _ = _
    rw [readMagnitude_true, hread]
    rfl

mutual

/-- **A tree that was written is read.** -/
theorem Tree.readAt : ∀ (d : Tree) (fuel : ℕ), d.depth < fuel → ReadAt fuel d
  | _, 0, h => absurd h (Nat.not_lt_zero _)
  | .null, fuel + 1, _ => fun _ _ => by rw [Tree.text, Tree.value]; rfl
  | .bool true, fuel + 1, _ => fun _ _ => by rw [Tree.text, Tree.value]; rfl
  | .bool false, fuel + 1, _ => fun _ _ => by rw [Tree.text, Tree.value]; rfl
  | .number negative n, fuel + 1, _ => readAt_number fuel negative n
  | .string s, fuel + 1, _ => fun _ hrest => by
    rw [Tree.text, Tree.value]
    exact readValue_scalar (.string s) fuel hrest
  | .array elements, fuel + 1, h => by
    rw [Tree.depth] at h
    exact readAt_array (trees_readAt elements fuel (Nat.lt_of_succ_lt_succ h))
  | .object members, fuel + 1, h => by
    rw [Tree.depth] at h
    exact readAt_object (entries_readAt members fuel (Nat.lt_of_succ_lt_succ h))

theorem trees_readAt : ∀ (elements : List Tree) (fuel : ℕ), treesDepth elements < fuel →
    ∀ e ∈ elements, ReadAt fuel e
  | [], _, _ => fun _ h => absurd h List.not_mem_nil
  | d :: rest, fuel, h => by
    rw [treesDepth] at h
    rw [List.forall_mem_cons]
    exact ⟨d.readAt fuel (by omega), trees_readAt rest fuel (by omega)⟩

theorem entries_readAt : ∀ (members : List (List UInt16 × Tree)) (fuel : ℕ),
    entriesDepth members < fuel → ∀ m ∈ members, ReadAt fuel m.2
  | [], _, _ => fun _ h => absurd h List.not_mem_nil
  | (_, d) :: rest, fuel, h => by
    rw [entriesDepth] at h
    rw [List.forall_mem_cons]
    exact ⟨d.readAt fuel (by omega), entries_readAt rest fuel (by omega)⟩

end

mutual

theorem Tree.depth_le : ∀ d : Tree, d.depth ≤ d.text.length
  | .null | .bool _ | .number _ _ | .string _ => Nat.zero_le _
  | .array [] => by
    rw [Tree.depth, Tree.text, treesDepth]
    decide
  | .array (d :: rest) => by
    have hd := d.depth_le
    have hrest := treesDepth_le rest
    rw [Tree.depth, Tree.text, treesDepth]
    simp only [List.length_cons, List.length_append]
    omega
  | .object [] => by
    rw [Tree.depth, Tree.text, entriesDepth]
    decide
  | .object ((name, d) :: rest) => by
    have hd := d.depth_le
    have hrest := entriesDepth_le rest
    rw [Tree.depth, Tree.text, entriesDepth]
    simp only [List.length_cons, List.length_append]
    omega

theorem treesDepth_le : ∀ elements : List Tree,
    treesDepth elements ≤ (treesTail elements).length
  | [] => Nat.zero_le _
  | d :: rest => by
    have hd := d.depth_le
    have hrest := treesDepth_le rest
    rw [treesDepth, treesTail]
    simp only [List.length_cons, List.length_append]
    omega

theorem entriesDepth_le : ∀ members : List (List UInt16 × Tree),
    entriesDepth members ≤ (entriesTail members).length
  | [] => Nat.zero_le _
  | (name, d) :: rest => by
    have hd := d.depth_le
    have hrest := entriesDepth_le rest
    rw [entriesDepth, entriesTail]
    simp only [List.length_cons, List.length_append]
    omega

end

/-- **Parsing what was written gives the value**, with blanks behind it. -/
theorem parse_tree (d : Tree) {blanks : List UInt16}
    (h : ∀ c ∈ blanks, isBlank c = true) (hafter : AfterNumber blanks) :
    parse (d.text ++ blanks) = some d.value := by
  have hdepth := d.depth_le
  have hread := d.readAt ((d.text ++ blanks).length + 1) (by
    rw [List.length_append]
    omega) blanks hafter
  have hskip := skipBlanks_append h []
  rw [List.append_nil] at hskip
  rw [parse, hread, Option.bind_some]
  dsimp only
  rw [hskip]
  rfl

theorem parse_text (d : Tree) : parse d.text = some d.value := by
  have h : parse (d.text ++ []) = some d.value := parse_tree d (by simp) (by simp [AfterNumber])
  rwa [List.append_nil] at h

end JsonText
