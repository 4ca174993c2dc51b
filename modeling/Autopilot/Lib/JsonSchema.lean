/-
JSON values, when two of them are equal, and when one is valid against a schema.

Values are those of a program: their numbers are of a type of its own, each of which has a value
and a spelling. Two values are equal if they are the same up to the order of members, and numbers
are if their values are. Writing a value as a text forgets no more than that. A schema asserts
something about a value on its own, and it applies further schemas to the value, to its elements
and to its members.

The meaning of the keywords is that of the 2020-12 draft, for `const`, `enum`, `type`, `minLength`,
`pattern`, `minimum`, `maximum`, `minItems`, `uniqueItems`, `required`, `allOf`, `if`, `then`,
`else`, `not`, `items`, `properties` and `additionalProperties: false`.
-/
import Autopilot.Lib.JsonTree
import Autopilot.Lib.Utf8
import Mathlib.Data.Rat.Defs
import Mathlib.Data.Option.Basic

set_option autoImplicit false

namespace JsonSchema

open JsonText

/-! ## Values -/

/-- A JSON value. An object keeps its members in their order. -/
inductive Json (N : Type) where
  | null
  | bool (b : Bool)
  | number (x : N)
  | string (s : List UInt16)
  | array (elements : List (Json N))
  | object (members : List (List UInt16 × Json N))

/-- The numbers of a program: their values, and how they are spelled. Numbers of one value have one
spelling, from which the value is read. -/
structure Numbers (N : Type) where
  value : N → ℚ
  spelled : N → Bool × Numeral
  read : Decimal → ℚ
  read_spelled : ∀ x, read { (spelled x).2.decimal with negative := (spelled x).1 } = value x
  spelled_eq : ∀ x y, value x = value y → spelled x = spelled y

variable {N : Type}

/-- The member of a name. -/
def own (members : List (List UInt16 × Json N)) (name : List UInt16) : Option (Json N) :=
  (members.find? fun m => m.1 = name).map Prod.snd

/-- Two values are equal. -/
inductive Equal (value : N → ℚ) : Json N → Json N → Prop
  | null : Equal value .null .null
  | bool (b : Bool) : Equal value (.bool b) (.bool b)
  | number (x y : N) (h : value x = value y) : Equal value (.number x) (.number y)
  | string (s : List UInt16) : Equal value (.string s) (.string s)
  | array (xs ys : List (Json N)) (h : List.Forall₂ (Equal value) xs ys) :
    Equal value (.array xs) (.array ys)
  | object (ms ns : List (List UInt16 × Json N))
    (h : ∀ name, Option.Rel (Equal value) (own ms name) (own ns name)) :
    Equal value (.object ms) (.object ns)

/-! ## Texts -/

section texts

variable (numbers : Numbers N)

mutual

def Json.tree : Json N → Tree
  | .null => .null
  | .bool b => .bool b
  | .number x => .number (numbers.spelled x).1 (numbers.spelled x).2
  | .string s => .string s
  | .array elements => .array (jsonTrees elements)
  | .object members => .object (jsonEntries members)

def jsonTrees : List (Json N) → List Tree
  | [] => []
  | d :: rest => d.tree :: jsonTrees rest

def jsonEntries : List (List UInt16 × Json N) → List (List UInt16 × Tree)
  | [] => []
  | (name, d) :: rest => (name, d.tree) :: jsonEntries rest

end

/-- `JSON.stringify`. -/
def Json.text (d : Json N) : List UInt16 := (d.tree numbers).text

/-- Names and values that agree one by one give related members. -/
theorem own_related {R : Json N → Json N → Prop} {ms ns : List (List UInt16 × Json N)}
    (h : List.Forall₂ (fun m n => m.1 = n.1 ∧ R m.2 n.2) ms ns) (name : List UInt16) :
    Option.Rel R (own ms name) (own ns name) := by
  unfold own
  induction h with
  | nil => exact .none
  | @cons m n ms ns hmn _ ih =>
    by_cases hname : m.1 = name
    · rw [List.find?_cons_of_pos (by simpa using hname),
        List.find?_cons_of_pos (by simpa using hmn.1 ▸ hname)]
      exact .some hmn.2
    · rw [List.find?_cons_of_neg (by simpa using hname),
        List.find?_cons_of_neg (by simpa using hmn.1 ▸ hname)]
      exact ih

mutual

theorem Json.equal_of_tree_value : ∀ a b : Json N,
    (a.tree numbers).value = (b.tree numbers).value → Equal numbers.value a b
  | .null, b, h => by
    cases b <;> simp only [Json.tree, Tree.value] at h <;> first | exact .null | cases h
  | .bool c, b, h => by
    cases b <;> simp only [Json.tree, Tree.value] at h <;> cases h
    exact .bool c
  | .number x, b, h => by
    cases b <;> simp only [Json.tree, Tree.value] at h <;> try cases h
    rename_i y
    refine .number x y ?_
    rw [← numbers.read_spelled x, ← numbers.read_spelled y, Value.number.inj h]
  | .string s, b, h => by
    cases b <;> simp only [Json.tree, Tree.value] at h <;> cases h
    exact .string s
  | .array xs, b, h => by
    cases b <;> simp only [Json.tree, Tree.value] at h <;> try cases h
    exact .array _ _ (jsons_equal xs _ (Value.array.inj h))
  | .object ms, b, h => by
    cases b <;> simp only [Json.tree, Tree.value] at h <;> try cases h
    exact .object _ _ (own_related (members_equal ms _ (Value.object.inj h)))

theorem jsons_equal : ∀ xs ys : List (Json N),
    treeValues (jsonTrees numbers xs) = treeValues (jsonTrees numbers ys) →
      List.Forall₂ (Equal numbers.value) xs ys
  | [], [], _ => .nil
  | [], _ :: _, h => by
    rw [jsonTrees, jsonTrees, treeValues, treeValues] at h
    cases h
  | _ :: _, [], h => by
    rw [jsonTrees, jsonTrees, treeValues, treeValues] at h
    cases h
  | x :: xs, y :: ys, h => by
    rw [jsonTrees, jsonTrees, treeValues, treeValues] at h
    obtain ⟨hx, hxs⟩ := List.cons.inj h
    exact .cons (x.equal_of_tree_value y hx) (jsons_equal xs ys hxs)

theorem members_equal : ∀ ms ns : List (List UInt16 × Json N),
    entryValues (jsonEntries numbers ms) = entryValues (jsonEntries numbers ns) →
      List.Forall₂ (fun m n => m.1 = n.1 ∧ Equal numbers.value m.2 n.2) ms ns
  | [], [], _ => .nil
  | [], (_, _) :: _, h => by
    rw [jsonEntries, jsonEntries, entryValues, entryValues] at h
    cases h
  | (_, _) :: _, [], h => by
    rw [jsonEntries, jsonEntries, entryValues, entryValues] at h
    cases h
  | (name, x) :: ms, (name', y) :: ns, h => by
    rw [jsonEntries, jsonEntries, entryValues, entryValues] at h
    obtain ⟨hx, hms⟩ := List.cons.inj h
    obtain ⟨hname, hvalue⟩ := Prod.ext_iff.1 hx
    exact .cons ⟨hname, x.equal_of_tree_value y hvalue⟩ (members_equal ms ns hms)

end

/-- **Values with one text are equal.** -/
theorem equal_of_text {a b : Json N} (h : a.text numbers = b.text numbers) :
    Equal numbers.value a b := by
  have hparse := congrArg parse h
  unfold Json.text at hparse
  rw [parse_text, parse_text] at hparse
  exact a.equal_of_tree_value numbers b (Option.some.inj hparse)

end texts

/-! ## Schemas -/

/-- The types of values. -/
inductive TypeName where
  | object | array | string | integer | number | boolean
  deriving DecidableEq

/-- What a schema asserts about a value on its own; of an object it asserts which members there
have to be, and whether there may be others than it has schemas for. -/
structure Assertions (N : Type) where
  const : Option (Json N)
  enum : Option (List (Json N))
  type : Option TypeName
  minLength : Option ℕ
  pattern : Option (List UInt16)
  minimum : Option N
  maximum : Option N
  minItems : Option ℕ
  uniqueItems : Bool
  required : List (List UInt16)
  closed : Bool

/-- A schema: what it asserts, and the schemas it applies. What is not there applies nothing. -/
inductive Schema (N : Type) where
  | mk (asserts : Assertions N) (allOf : List (Schema N))
    (ifSchema thenSchema elseSchema notSchema items : Option (Schema N))
    (properties : List (List UInt16 × Schema N))

/-- No assertions. -/
def noAssertions : Assertions N where
  const := none
  enum := none
  type := none
  minLength := none
  pattern := none
  minimum := none
  maximum := none
  minItems := none
  uniqueItems := false
  required := []
  closed := false

/-! ## Validity -/

section validity

variable (numbers : Numbers N) (found : List UInt16 → List UInt16 → Bool)

/-- A value is of a type. -/
def HasType : TypeName → Json N → Prop
  | .object, .object _ => True
  | .array, .array _ => True
  | .string, .string _ => True
  | .integer, .number x => (numbers.value x).isInt = true
  | .number, .number _ => True
  | .boolean, .bool _ => True
  | _, _ => False

/-- The number of characters of a text. -/
def characters (s : List UInt16) : ℕ := (Utf8.chars s).length

/-- What is asserted of texts, numbers, arrays and objects. -/
def Assertions.OfContent (asserts : Assertions N) (names : List (List UInt16)) : Json N → Prop
  | .string s => (∀ least ∈ asserts.minLength, least ≤ characters s) ∧
      ∀ pattern ∈ asserts.pattern, found pattern s = true
  | .number x => (∀ least ∈ asserts.minimum, numbers.value least ≤ numbers.value x) ∧
      ∀ most ∈ asserts.maximum, numbers.value x ≤ numbers.value most
  | .array xs => (∀ least ∈ asserts.minItems, least ≤ xs.length) ∧
      (asserts.uniqueItems = true → xs.Pairwise fun x y => ¬Equal numbers.value x y)
  | .object ms => (∀ name ∈ asserts.required, own ms name ≠ none) ∧
      (asserts.closed = true → ∀ m ∈ ms, m.1 ∈ names)
  | _ => True

/-- A value is as a schema with properties of some names asserts. -/
structure Assertions.Hold (asserts : Assertions N) (names : List (List UInt16)) (v : Json N) :
    Prop where
  const : ∀ c ∈ asserts.const, Equal numbers.value v c
  enum : ∀ items ∈ asserts.enum, ∃ item ∈ items, Equal numbers.value v item
  type : ∀ type ∈ asserts.type, HasType numbers type v
  content : asserts.OfContent numbers found names v

mutual

/-- **A value is valid against a schema.** -/
def Valid : Schema N → Json N → Prop
  | .mk asserts allOf ifSchema thenSchema elseSchema notSchema items properties, v =>
    asserts.Hold numbers found (properties.map fun p => p.1) v ∧
      ValidAll allOf v ∧
      (ifSchema.isSome = true →
        (ValidOption ifSchema v → ValidOption thenSchema v) ∧
        (¬ValidOption ifSchema v → ValidOption elseSchema v)) ∧
      (notSchema.isSome = true → ¬ValidOption notSchema v) ∧
      (∀ xs, v = .array xs → ∀ x ∈ xs, ValidOption items x) ∧
      ∀ ms, v = .object ms → ValidMembers properties ms

/-- Against all schemas of a list. -/
def ValidAll : List (Schema N) → Json N → Prop
  | [], _ => True
  | s :: rest, v => Valid s v ∧ ValidAll rest v

/-- Against a schema, if there is one. -/
def ValidOption : Option (Schema N) → Json N → Prop
  | none, _ => True
  | some s, v => Valid s v

/-- The members that are there are valid against the schemas of their names. -/
def ValidMembers : List (List UInt16 × Schema N) → List (List UInt16 × Json N) → Prop
  | [], _ => True
  | (name, s) :: rest, ms => (∀ x ∈ own ms name, Valid s x) ∧ ValidMembers rest ms

end

end validity

end JsonSchema
