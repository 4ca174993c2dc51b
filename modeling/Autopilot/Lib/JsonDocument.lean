/-
Writing and reading JSON documents.

A document is a string, a number, an array or an object, of any depth. It is written as
`JSON.stringify` writes it, without blanks, and what was written is read as the value it stands
for, since a document is a tree without the rest of the values of JSON.
-/
import Autopilot.Lib.JsonTree

set_option autoImplicit false

namespace JsonText

/-- A document that can be written. -/
inductive Document where
  | scalar (s : Scalar)
  | array (elements : List Document)
  | object (members : List (List UInt16 × Document))

/-! ## Texts and values -/

mutual

/-- `JSON.stringify`. -/
def Document.text : Document → List UInt16
  | .scalar s => s.text
  | .array [] => [91, 93]
  | .array (d :: rest) => 91 :: (d.text ++ elementsTail rest)
  | .object [] => [123, 125]
  | .object ((name, d) :: rest) => 123 :: (quoted name ++ 58 :: (d.text ++ membersTail rest))

/-- The elements of an array behind the first, and its end. -/
def elementsTail : List Document → List UInt16
  | [] => [93]
  | d :: rest => 44 :: (d.text ++ elementsTail rest)

/-- The members of an object behind the first, and its end. -/
def membersTail : List (List UInt16 × Document) → List UInt16
  | [] => [125]
  | (name, d) :: rest => 44 :: (quoted name ++ 58 :: (d.text ++ membersTail rest))

end

mutual

/-- The value a document stands for. -/
def Document.value : Document → Value
  | .scalar s => s.value
  | .array elements => .array (elementValues elements)
  | .object members => .object (memberValues members)

def elementValues : List Document → List Value
  | [] => []
  | d :: rest => d.value :: elementValues rest

def memberValues : List (List UInt16 × Document) → List (List UInt16 × Value)
  | [] => []
  | (name, d) :: rest => (name, d.value) :: memberValues rest

end

theorem elementValues_eq (elements : List Document) :
    elementValues elements = elements.map Document.value := by
  induction elements with
  | nil => rfl
  | cons d rest ih => rw [elementValues, ih, List.map_cons]

theorem memberValues_eq (members : List (List UInt16 × Document)) :
    memberValues members = members.map fun m => (m.1, m.2.value) := by
  induction members with
  | nil => rfl
  | cons m rest ih =>
    obtain ⟨name, d⟩ := m
    rw [memberValues, ih, List.map_cons]

/-! ## Documents as trees -/

mutual

/-- The tree a document is. -/
def Document.tree : Document → Tree
  | .scalar (.string s) => .string s
  | .scalar (.number n) => .number false n
  | .array elements => .array (elementTrees elements)
  | .object members => .object (memberTrees members)

def elementTrees : List Document → List Tree
  | [] => []
  | d :: rest => d.tree :: elementTrees rest

def memberTrees : List (List UInt16 × Document) → List (List UInt16 × Tree)
  | [] => []
  | (name, d) :: rest => (name, d.tree) :: memberTrees rest

end

mutual

theorem Document.text_tree : ∀ d : Document, d.tree.text = d.text
  | .scalar (.string _) => by rw [Document.tree, Tree.text, Document.text]; rfl
  | .scalar (.number _) => by rw [Document.tree, Tree.text, Document.text]; rfl
  | .array [] => by rw [Document.tree, elementTrees, Tree.text, Document.text]
  | .array (d :: rest) => by
    rw [Document.tree, elementTrees, Tree.text, Document.text, d.text_tree, treesTail_trees rest]
  | .object [] => by rw [Document.tree, memberTrees, Tree.text, Document.text]
  | .object ((name, d) :: rest) => by
    rw [Document.tree, memberTrees, Tree.text, Document.text, d.text_tree, entriesTail_trees rest]

theorem treesTail_trees : ∀ elements : List Document,
    treesTail (elementTrees elements) = elementsTail elements
  | [] => by rw [elementTrees, treesTail, elementsTail]
  | d :: rest => by
    rw [elementTrees, treesTail, elementsTail, d.text_tree, treesTail_trees rest]

theorem entriesTail_trees : ∀ members : List (List UInt16 × Document),
    entriesTail (memberTrees members) = membersTail members
  | [] => by rw [memberTrees, entriesTail, membersTail]
  | (name, d) :: rest => by
    rw [memberTrees, entriesTail, membersTail, d.text_tree, entriesTail_trees rest]

end

mutual

theorem Document.value_tree : ∀ d : Document, d.tree.value = d.value
  | .scalar (.string _) => by rw [Document.tree, Tree.value, Document.value]; rfl
  | .scalar (.number _) => by rw [Document.tree, Tree.value, Document.value]; rfl
  | .array elements => by
    rw [Document.tree, Tree.value, Document.value, treeValues_trees elements]
  | .object members => by
    rw [Document.tree, Tree.value, Document.value, entryValues_trees members]

theorem treeValues_trees : ∀ elements : List Document,
    treeValues (elementTrees elements) = elementValues elements
  | [] => by rw [elementTrees, treeValues, elementValues]
  | d :: rest => by
    rw [elementTrees, treeValues, elementValues, d.value_tree, treeValues_trees rest]

theorem entryValues_trees : ∀ members : List (List UInt16 × Document),
    entryValues (memberTrees members) = memberValues members
  | [] => by rw [memberTrees, entryValues, memberValues]
  | (name, d) :: rest => by
    rw [memberTrees, entryValues, memberValues, d.value_tree, entryValues_trees rest]

end

/-- **Parsing what was written gives the value**, with blanks behind it. -/
theorem parse_document (d : Document) {blanks : List UInt16}
    (h : ∀ c ∈ blanks, isBlank c = true) (hafter : AfterNumber blanks) :
    parse (d.text ++ blanks) = some d.value := by
  rw [← d.text_tree, ← d.value_tree]
  exact parse_tree d.tree h hafter

/-- What an object holds under a name that is there once. -/
theorem member_of_mem {members : List (List UInt16 × Value)}
    (hnames : (members.map Prod.fst).Nodup) {name : List UInt16} {value : Value}
    (h : (name, value) ∈ members) : member members name = some value := by
  unfold member
  cases hfind : members.reverse.find? fun m => decide (m.1 = name) with
  | none =>
    have hnot := List.find?_eq_none.1 hfind (name, value) (List.mem_reverse.2 h)
    exact absurd (decide_eq_true rfl) hnot
  | some found =>
    have hname : found.1 = name := by simpa using List.find?_some hfind
    have hmem : found ∈ members := List.mem_reverse.1 (List.mem_of_find?_eq_some hfind)
    have hfound : found = (name, value) := List.inj_on_of_nodup_map hnames hmem h hname
    rw [Option.map_some, hfound]

end JsonText
