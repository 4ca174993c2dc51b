/-
The validator of JSON values that the gates of the repository use.

It is compared with the meaning of the keywords. Of a keyword it sees what JavaScript shows of a
value: `Object.is` tells apart objects that are equal, a text has as many units as it has, the text
of a value has its members in their order, and every object has the members of `Object.prototype`.
Where none of this makes a difference on the way through the schema and the value, the validator
finds an issue exactly if the value is not valid.

This module is `validateJsonSchema` (`validation.ts`) on schemas that are built from the keywords
it implements; `format` is none of them, since it asserts nothing by default.
-/
import Autopilot.Js
import Autopilot.Lib.JsonSchema
import Mathlib.Tactic.FinCases

set_option autoImplicit false

namespace Autopilot
namespace SchemaValidation

open JsonSchema

/-! ## Values of the language -/

/-- What the validator is called with: a JSON value, or what an object has from its prototype. -/
inductive JsValue (N : Type) where
  | json (j : Json N)
  | function
  | objectPrototype

/-- The methods of `Object.prototype`. -/
def prototypeMethods : List JsString :=
  [js "constructor", js "__defineGetter__", js "__defineSetter__", js "hasOwnProperty",
    js "__lookupGetter__", js "__lookupSetter__", js "isPrototypeOf", js "propertyIsEnumerable",
    js "toString", js "valueOf", js "toLocaleString"]

section values

variable {N : Type}

/-- What an object has from its prototype. -/
def inherited (name : JsString) : Option (JsValue N) :=
  if name ∈ prototypeMethods then some .function
  else if name = js "__proto__" then some .objectPrototype
  else none

/-- `value[name]` of a record, where undefined is none. -/
def property : JsValue N → JsString → Option (JsValue N)
  | .json (.object members), name => ((own members name).map .json).or (inherited name)
  | .objectPrototype, name =>
    if name ∈ prototypeMethods then some .function
    else if name = js "__proto__" then some (.json .null)
    else none
  | _, _ => none

theorem property_object (members : List (JsString × Json N)) (name : JsString) :
    property (.json (.object members)) name =
      ((own members name).map .json).or (inherited name) := rfl

/-- `Object.keys` of a record. -/
def keys : JsValue N → List JsString
  | .json (.object members) => members.map fun m => m.1
  | _ => []

/-- `isRecord`. -/
def isRecord : JsValue N → Bool
  | .json (.object _) => true
  | .objectPrototype => true
  | _ => false

/-- The elements of an array. -/
def elements : JsValue N → Option (List (Json N))
  | .json (.array xs) => some xs
  | _ => none

end values

/-! ## Texts of messages -/

/-- What the language gives besides the numbers: the engine of the patterns, and `Object.is` of
numbers, which are the same or not. -/
structure SchemaHost (N : Type) extends Numbers N where
  test : JsString → JsString → Bool

/-- `JsonSchemaValidationIssue`. -/
structure Issue where
  path : JsString
  message : JsString
  deriving DecidableEq

section validator

variable {N : Type} [DecidableEq N] (host : SchemaHost N)

mutual

/-- `String(value)`, and nothing of null, as `join` has it. -/
def joinedText : Json N → JsString
  | .null => []
  | .bool b => if b then js "true" else js "false"
  | .number x => (JsonText.Tree.number (host.spelled x).1 (host.spelled x).2).text
  | .string s => s
  | .array xs => joinedTexts (js ",") xs
  | .object _ => js "[object Object]"

/-- `values.join(separator)`. -/
def joinedTexts (separator : JsString) : List (Json N) → JsString
  | [] => []
  | x :: rest => joinedText x ++ joinedRest separator rest

def joinedRest (separator : JsString) : List (Json N) → JsString
  | [] => []
  | x :: rest => separator ++ (joinedText x ++ joinedRest separator rest)

end

/-- The text of a number in a message. -/
def numberText (x : N) : JsString := joinedText host (.number x)

/-- An issue, if something is wrong. -/
def issueIf (wrong : Bool) (path message : JsString) : List Issue :=
  if wrong then [⟨path, message⟩] else []

/-- `Object.is(value, constant)`: no two objects or arrays are the same. -/
def objectIs : JsValue N → Json N → Bool
  | .json .null, .null => true
  | .json (.bool b), .bool c => b = c
  | .json (.number x), .number y => x = y
  | .json (.string s), .string t => s = t
  | _, _ => false

/-! ## Keywords -/

/-- What a keyword finds, if the schema has it. -/
def keyword {α : Type} (given : Option α) (check : α → List Issue) : List Issue :=
  (given.map check).getD []

/-- `const`. -/
def constIssues (const : Option (Json N)) (value : JsValue N) (path : JsString) : List Issue :=
  keyword const fun c => issueIf (!objectIs value c) path (js "must equal " ++ c.text host.toNumbers)

/-- `enum`. -/
def enumIssues (enum : Option (List (Json N))) (value : JsValue N) (path : JsString) :
    List Issue :=
  keyword enum fun items => issueIf (!items.any fun item => objectIs value item) path
    (js "must be one of: " ++ joinedTexts host (js ", ") items)

/-- A value is what `validateType` wants of a type. -/
def hasType : TypeName → JsValue N → Bool
  | .object, value => isRecord value
  | .array, value => (elements value).isSome
  | .string, .json (.string _) => true
  | .integer, .json (.number x) => (host.value x).isInt
  | .number, .json (.number _) => true
  | .boolean, .json (.bool _) => true
  | _, _ => false

/-- The message about a type. -/
def typeMessage : TypeName → JsString
  | .object => js "must be an object"
  | .array => js "must be an array"
  | .string => js "must be a string"
  | .integer => js "must be an integer"
  | .number => js "must be a number"
  | .boolean => js "must be a boolean"

/-- `validateType`. -/
def typeIssues (type : Option TypeName) (value : JsValue N) (path : JsString) : List Issue :=
  keyword type fun type => issueIf (!hasType host type value) path (typeMessage type)

/-- `validateString`. -/
def stringIssues (asserts : Assertions N) (value : JsString) (path : JsString) : List Issue :=
  (keyword asserts.minLength fun least => issueIf (value.length < least) path
    (js "must have at least " ++ (decimal least ++ js " characters"))) ++
  keyword asserts.pattern fun pattern => issueIf (!host.test pattern value) path
    (js "must match pattern " ++ pattern)

/-- `validateNumber`. -/
def numberIssues (asserts : Assertions N) (value : N) (path : JsString) : List Issue :=
  (keyword asserts.minimum fun least => issueIf (host.value value < host.value least) path
    (js "must be greater than or equal to " ++ numberText host least)) ++
  keyword asserts.maximum fun most => issueIf (host.value most < host.value value) path
    (js "must be less than or equal to " ++ numberText host most)

/-- `validateArray`, without the elements. -/
def arrayIssues (asserts : Assertions N) (value : List (Json N)) (path : JsString) : List Issue :=
  (keyword asserts.minItems fun least => issueIf (value.length < least) path
    (js "must contain at least " ++ (decimal least ++ js " item(s)"))) ++
  issueIf (asserts.uniqueItems &&
      ((value.map fun item => item.text host.toNumbers).dedup.length != value.length)) path
    (js "must contain unique items")

/-- `validateObject`, without the members: a name is missing if the record has no such property, and
not allowed if the properties of the schema, a record too, have none. -/
def objectIssues (asserts : Assertions N) (names : List JsString) (value : JsValue N)
    (path : JsString) : List Issue :=
  (asserts.required.flatMap fun field =>
    issueIf (property value field).isNone (path ++ (js "." ++ field)) (js "is required")) ++
  if asserts.closed then
    (keys value).flatMap fun key =>
      issueIf (key ∉ names && (inherited (N := N) key).isNone) (path ++ (js "." ++ key))
        (js "is not allowed")
  else []

/-- What the type of a value decides about it on its own. -/
def contentIssues (asserts : Assertions N) (names : List JsString) (value : JsValue N)
    (path : JsString) : List Issue :=
  match value with
  | .json (.string s) => stringIssues host asserts s path
  | .json (.number x) => numberIssues host asserts x path
  | .json (.array xs) => arrayIssues host asserts xs path
  | .json (.object _) | .objectPrototype => objectIssues asserts names value path
  | _ => []

/-- `if`: what `then` or `else` finds, by what the tested schema has found. -/
def conditional (tested : Option (List Issue)) (thenIssues elseIssues : List Issue) :
    List Issue :=
  match tested with
  | some [] => thenIssues
  | some (_ :: _) => elseIssues
  | none => []

/-- `not`. -/
def negated (tested : Option (List Issue)) (path : JsString) : List Issue :=
  match tested with
  | some [] => [⟨path, js "must not match the disallowed schema"⟩]
  | _ => []

/-- The path of an element. -/
def elementPath (path : JsString) (index : ℕ) : JsString :=
  path ++ (js "[" ++ (decimal index ++ js "]"))

mutual

/-- `validateJsonSchema`. -/
def validateJsonSchema : Schema N → JsValue N → JsString → List Issue
  | .mk asserts allOf ifSchema thenSchema elseSchema notSchema items properties, value, path =>
    constIssues host asserts.const value path ++
    validateAll allOf value path ++
    conditional (validateOption ifSchema value path)
      ((validateOption thenSchema value path).getD [])
      ((validateOption elseSchema value path).getD []) ++
    negated (validateOption notSchema value path) path ++
    typeIssues host asserts.type value path ++
    enumIssues host asserts.enum value path ++
    contentIssues host asserts (properties.map fun p => p.1) value path ++
    ((elements value).getD []).zipIdx.flatMap (fun item =>
      (validateOption items (.json item.1) (elementPath path item.2)).getD []) ++
    validateProperties properties value path

/-- The schemas of `allOf`. -/
def validateAll : List (Schema N) → JsValue N → JsString → List Issue
  | [], _, _ => []
  | s :: rest, value, path => validateJsonSchema s value path ++ validateAll rest value path

/-- A schema that may not be there. -/
def validateOption : Option (Schema N) → JsValue N → JsString → Option (List Issue)
  | none, _, _ => none
  | some s, value, path => some (validateJsonSchema s value path)

/-- The members that the schema has schemas for. -/
def validateProperties : List (JsString × Schema N) → JsValue N → JsString → List Issue
  | [], _, _ => []
  | (key, s) :: rest, value, path =>
    (match property value key with
      | some x => validateJsonSchema s x (path ++ (js "." ++ key))
      | none => []) ++ validateProperties rest value path

end

end validator

/-! ## Where the language makes no difference -/

section undisturbed

variable {N : Type} [DecidableEq N] (host : SchemaHost N)

/-- What a schema asserts about a value comes out the same: what equals a constant is the same for
`Object.is`, a text with enough units has enough characters, equal elements do not all differ in
their texts, and a name that is missing or not allowed is not one of `Object.prototype` only. -/
structure PlainAssertions (asserts : Assertions N) (names : List JsString) (v : Json N) : Prop where
  const : ∀ c ∈ asserts.const, Equal host.value v c → objectIs (.json v) c = true
  enum : ∀ items ∈ asserts.enum, (∃ item ∈ items, Equal host.value v item) →
    ∃ item ∈ items, objectIs (.json v) item = true
  minLength : ∀ s, v = .string s → ∀ least ∈ asserts.minLength, least ≤ s.length →
    least ≤ characters s
  uniqueItems : ∀ xs, v = .array xs → asserts.uniqueItems = true →
    (xs.Pairwise fun x y => x.text host.toNumbers ≠ y.text host.toNumbers) →
    xs.Pairwise fun x y => ¬Equal host.value x y
  required : ∀ ms, v = .object ms →
    (∀ name ∈ asserts.required, own ms name ≠ none ∨ (inherited (N := N) name).isSome = true) →
    ∀ name ∈ asserts.required, own ms name ≠ none
  closed : ∀ ms, v = .object ms → asserts.closed = true →
    (∀ m ∈ ms, m.1 ∈ names ∨ (inherited (N := N) m.1).isSome = true) → ∀ m ∈ ms, m.1 ∈ names

mutual

/-- Nothing of the language makes a difference on the way through a schema and a value. -/
def Undisturbed : Schema N → Json N → Prop
  | .mk asserts allOf ifSchema thenSchema elseSchema notSchema items properties, v =>
    PlainAssertions host asserts (properties.map fun p => p.1) v ∧
      UndisturbedAll allOf v ∧
      (ifSchema.isSome = true → UndisturbedOption ifSchema v ∧
        (ValidOption host.toNumbers host.test ifSchema v → UndisturbedOption thenSchema v) ∧
        (¬ValidOption host.toNumbers host.test ifSchema v → UndisturbedOption elseSchema v)) ∧
      UndisturbedOption notSchema v ∧
      (∀ xs, v = .array xs → ∀ x ∈ xs, UndisturbedOption items x) ∧
      ∀ ms, v = .object ms → UndisturbedMembers properties ms

def UndisturbedAll : List (Schema N) → Json N → Prop
  | [], _ => True
  | s :: rest, v => Undisturbed s v ∧ UndisturbedAll rest v

def UndisturbedOption : Option (Schema N) → Json N → Prop
  | none, _ => True
  | some s, v => Undisturbed s v

/-- A member that the schema has a schema for is there, or the prototype has none of its name. -/
def UndisturbedMembers : List (JsString × Schema N) → List (JsString × Json N) → Prop
  | [], _ => True
  | (name, s) :: rest, ms =>
    (∀ x ∈ own ms name, Undisturbed s x) ∧
      (own ms name = none → (inherited (N := N) name).isSome = false) ∧
      UndisturbedMembers rest ms

end

/-! ## The keywords one by one -/

variable {host} {v : Json N} {asserts : Assertions N} {names : List JsString}

omit [DecidableEq N] in
theorem issueIf_eq_nil {wrong : Bool} {path message : JsString} :
    issueIf wrong path message = [] ↔ wrong = false := by
  cases wrong with
  | false => exact iff_of_true rfl rfl
  | true => exact iff_of_false (List.cons_ne_nil _ _) Bool.noConfusion

omit [DecidableEq N] in
theorem keyword_eq_nil {α : Type} {given : Option α} {check : α → List Issue} :
    keyword given check = [] ↔ ∀ a ∈ given, check a = [] := by
  cases given with
  | none => exact iff_of_true rfl (fun _ h => nomatch h)
  | some a => exact ⟨fun h b hb => Option.some.inj hb ▸ h, fun h => h a rfl⟩

/-- What is the same is equal. -/
theorem equal_of_objectIs {c : Json N} (h : objectIs (.json v) c = true) :
    Equal host.value v c := by
  cases v <;> cases c <;> try cases h
  · exact .null
  · exact of_decide_eq_true h ▸ .bool _
  · rename_i x y
    rw [show x = y from of_decide_eq_true h]
    exact .number y y rfl
  · exact of_decide_eq_true h ▸ .string _

theorem constIssues_eq_nil (h : PlainAssertions host asserts names v) (path : JsString) :
    constIssues host asserts.const (.json v) path = [] ↔
      ∀ c ∈ asserts.const, Equal host.value v c := by
  unfold constIssues
  rw [keyword_eq_nil]
  refine forall₂_congr fun c hc => ?_
  rw [issueIf_eq_nil, Bool.not_eq_false']
  exact ⟨equal_of_objectIs, h.const c hc⟩

theorem enumIssues_eq_nil (h : PlainAssertions host asserts names v) (path : JsString) :
    enumIssues host asserts.enum (.json v) path = [] ↔
      ∀ items ∈ asserts.enum, ∃ item ∈ items, Equal host.value v item := by
  unfold enumIssues
  rw [keyword_eq_nil]
  refine forall₂_congr fun items hitems => ?_
  rw [issueIf_eq_nil, Bool.not_eq_false', List.any_eq_true]
  constructor
  · rintro ⟨item, hitem, hsame⟩
    exact ⟨item, hitem, equal_of_objectIs hsame⟩
  · exact h.enum items hitems

omit [DecidableEq N] in
theorem hasType_iff {type : TypeName} :
    hasType host type (.json v) = true ↔ HasType host.toNumbers type v := by
  cases type <;> cases v <;> first | exact Iff.rfl | exact iff_of_true rfl trivial |
    exact iff_of_false Bool.noConfusion id

omit [DecidableEq N] in
theorem typeIssues_eq_nil (path : JsString) :
    typeIssues host asserts.type (.json v) path = [] ↔
      ∀ type ∈ asserts.type, HasType host.toNumbers type v := by
  unfold typeIssues
  rw [keyword_eq_nil]
  refine forall₂_congr fun type _ => ?_
  rw [issueIf_eq_nil, Bool.not_eq_false', hasType_iff]

/-- A text has no more characters than units. -/
theorem characters_le (s : JsString) : characters s ≤ s.length := by
  unfold characters
  fun_induction Utf8.chars s with
  | case1 => exact Nat.le_refl 0
  | case2 c => exact Nat.le_refl 1
  | case3 c d rest _ ih => exact Nat.succ_le_succ (Nat.le_succ_of_le ih)
  | case4 c d rest _ ih => exact Nat.succ_le_succ ih

theorem stringIssues_eq_nil {s : JsString} (h : PlainAssertions host asserts names (.string s))
    (path : JsString) : stringIssues host asserts s path = [] ↔
      asserts.OfContent host.toNumbers host.test names (.string s) := by
  unfold stringIssues
  rw [List.append_eq_nil_iff, keyword_eq_nil, keyword_eq_nil]
  refine and_congr (forall₂_congr fun least hleast => ?_) (forall₂_congr fun pattern _ => ?_)
  · rw [issueIf_eq_nil, decide_eq_false_iff_not, Nat.not_lt]
    exact ⟨h.minLength s rfl least hleast, fun hle => hle.trans (characters_le s)⟩
  · rw [issueIf_eq_nil, Bool.not_eq_false']

omit [DecidableEq N] in
theorem numberIssues_eq_nil (x : N) (path : JsString) : numberIssues host asserts x path = [] ↔
    asserts.OfContent host.toNumbers host.test names (.number x) := by
  unfold numberIssues
  rw [List.append_eq_nil_iff, keyword_eq_nil, keyword_eq_nil]
  refine and_congr (forall₂_congr fun least _ => ?_) (forall₂_congr fun most _ => ?_)
  · rw [issueIf_eq_nil, decide_eq_false_iff_not, not_lt]
  · rw [issueIf_eq_nil, decide_eq_false_iff_not, not_lt]

theorem arrayIssues_eq_nil {xs : List (Json N)} (h : PlainAssertions host asserts names (.array xs))
    (path : JsString) : arrayIssues host asserts xs path = [] ↔
      asserts.OfContent host.toNumbers host.test names (.array xs) := by
  unfold arrayIssues
  rw [List.append_eq_nil_iff, keyword_eq_nil]
  refine and_congr (forall₂_congr fun least _ => ?_) ?_
  · rw [issueIf_eq_nil, decide_eq_false_iff_not, Nat.not_lt]
  · rw [issueIf_eq_nil, Bool.and_eq_false_imp]
    refine forall_congr' fun hunique => ?_
    have hnodup : (xs.map fun item => item.text host.toNumbers).Nodup ↔
        xs.Pairwise fun x y => x.text host.toNumbers ≠ y.text host.toNumbers := List.pairwise_map
    have hsize : ((xs.map fun item => item.text host.toNumbers).dedup.length != xs.length) = false ↔
        (xs.map fun item => item.text host.toNumbers).Nodup := by
      rw [bne_eq_false_iff_eq, ← List.dedup_eq_self]
      constructor
      · intro heq
        refine (List.dedup_sublist _).eq_of_length ?_
        rw [heq, List.length_map]
      · intro heq
        rw [heq, List.length_map]
    rw [hsize, hnodup]
    refine ⟨h.uniqueItems xs rfl hunique, fun hpairs => hpairs.imp fun hne heq => hne ?_⟩
    exact equal_of_text host.toNumbers heq

theorem objectIssues_eq_nil {ms : List (JsString × Json N)}
    (h : PlainAssertions host asserts names (.object ms)) (path : JsString) :
    objectIssues asserts names (.json (.object ms)) path = [] ↔
      asserts.OfContent host.toNumbers host.test names (.object ms) := by
  have hrequired : (asserts.required.flatMap fun field => issueIf
      (property (.json (.object ms)) field).isNone (path ++ (js "." ++ field)) (js "is required")) =
        [] ↔ ∀ name ∈ asserts.required, own ms name ≠ none := by
    rw [List.flatMap_eq_nil_iff]
    have hpresent : ∀ name, issueIf (property (.json (.object ms)) name).isNone
        (path ++ (js "." ++ name)) (js "is required") = [] ↔
          own ms name ≠ none ∨ (inherited (N := N) name).isSome = true := by
      intro name
      rw [issueIf_eq_nil, property_object]
      cases own ms name with
      | none =>
        rw [Option.map_none, Option.none_or, Option.isNone_eq_false_iff]
        exact ⟨.inr, fun h => h.resolve_left fun hne => hne rfl⟩
      | some x => exact iff_of_true rfl (.inl (Option.some_ne_none x))
    constructor
    · exact fun hall => h.required ms rfl fun name hname => (hpresent name).1 (hall name hname)
    · exact fun hall name hname => (hpresent name).2 (.inl (hall name hname))
  have hclosed : (if asserts.closed then (keys (.json (.object ms))).flatMap fun key =>
      issueIf (key ∉ names && (inherited (N := N) key).isNone) (path ++ (js "." ++ key))
        (js "is not allowed") else []) = [] ↔
      (asserts.closed = true → ∀ m ∈ ms, m.1 ∈ names) := by
    cases hflag : asserts.closed with
    | false => exact iff_of_true rfl (fun h => nomatch h)
    | true =>
      rw [if_pos rfl, List.flatMap_eq_nil_iff]
      have hallowed : ∀ key, issueIf (key ∉ names && (inherited (N := N) key).isNone)
          (path ++ (js "." ++ key)) (js "is not allowed") = [] ↔
            key ∈ names ∨ (inherited (N := N) key).isSome = true := by
        intro key
        rw [issueIf_eq_nil, Bool.and_eq_false_iff, decide_eq_false_iff_not, not_not,
          Option.isNone_eq_false_iff]
      constructor
      · intro hall _
        refine h.closed ms rfl hflag fun m hm => (hallowed m.1).1 (hall m.1 ?_)
        exact List.mem_map_of_mem hm
      · intro hall key hkey
        obtain ⟨m, hm, rfl⟩ := List.mem_map.1 hkey
        exact (hallowed m.1).2 (.inl (hall rfl m hm))
  unfold objectIssues
  rw [List.append_eq_nil_iff, hrequired, hclosed]
  exact Iff.rfl

/-- What a schema asserts is what the validator finds no issue with. -/
theorem asserted_iff (h : PlainAssertions host asserts names v) (path : JsString) :
    (constIssues host asserts.const (.json v) path = [] ∧
      typeIssues host asserts.type (.json v) path = [] ∧
      enumIssues host asserts.enum (.json v) path = [] ∧
      contentIssues host asserts names (.json v) path = []) ↔
      asserts.Hold host.toNumbers host.test names v := by
  have hcontent : contentIssues host asserts names (.json v) path = [] ↔
      asserts.OfContent host.toNumbers host.test names v := by
    cases v with
    | null => exact iff_of_true rfl trivial
    | bool b => exact iff_of_true rfl trivial
    | number x => exact numberIssues_eq_nil x path
    | string s => exact stringIssues_eq_nil h path
    | array xs => exact arrayIssues_eq_nil h path
    | object ms => exact objectIssues_eq_nil h path
  rw [constIssues_eq_nil h, typeIssues_eq_nil, enumIssues_eq_nil h, hcontent]
  exact ⟨fun h => ⟨h.1, h.2.2.1, h.2.1, h.2.2.2⟩, fun h => ⟨h.const, h.type, h.enum, h.content⟩⟩

end undisturbed

/-! ## Schemas and values -/

section agreement

variable {N : Type} [DecidableEq N] {host : SchemaHost N}

theorem conditional_eq_nil {tested : Option (List Issue)} {thenIssues elseIssues : List Issue}
    {isThere : Bool} {P Q R : Prop} (hthere : tested.isSome = isThere)
    (htested : isThere = true → (tested.getD [] = [] ↔ P))
    (hthen : isThere = true → P → (thenIssues = [] ↔ Q))
    (helse : isThere = true → ¬P → (elseIssues = [] ↔ R)) :
    conditional tested thenIssues elseIssues = [] ↔ (isThere = true → (P → Q) ∧ (¬P → R)) := by
  subst hthere
  match tested with
  | none => exact iff_of_true rfl (fun h => nomatch h)
  | some [] =>
    have hP : P := (htested rfl).1 rfl
    exact (hthen rfl hP).trans
      ⟨fun hQ _ => ⟨fun _ => hQ, fun hnot => absurd hP hnot⟩, fun h => (h rfl).1 hP⟩
  | some (issue :: issues) =>
    have hP : ¬P := fun hP => List.cons_ne_nil _ _ ((htested rfl).2 hP)
    exact (helse rfl hP).trans
      ⟨fun hR _ => ⟨fun h => absurd h hP, fun _ => hR⟩, fun h => (h rfl).2 hP⟩

theorem negated_eq_nil {tested : Option (List Issue)} {isThere : Bool} {P : Prop}
    (path : JsString) (hthere : tested.isSome = isThere) (htested : tested.getD [] = [] ↔ P) :
    negated tested path = [] ↔ (isThere = true → ¬P) := by
  subst hthere
  match tested with
  | none => exact iff_of_true rfl (fun h => nomatch h)
  | some [] => exact iff_of_false (List.cons_ne_nil _ _) fun h => h rfl (htested.1 rfl)
  | some (issue :: issues) =>
    exact iff_of_true rfl fun _ hP => List.cons_ne_nil _ _ (htested.2 hP)

theorem validateOption_isSome (o : Option (Schema N)) (value : JsValue N) (path : JsString) :
    (validateOption host o value path).isSome = o.isSome := by
  cases o <;> rw [validateOption] <;> rfl

/-- What is no record has no members. -/
theorem validateProperties_of_not_object {v : Json N} (h : ∀ ms, v ≠ .object ms)
    (properties : List (JsString × Schema N)) (path : JsString) :
    validateProperties host properties (.json v) path = [] := by
  induction properties with
  | nil => rw [validateProperties]
  | cons p rest ih =>
    obtain ⟨key, s⟩ := p
    have hnone : property (.json v) key = none := by
      cases v with
      | object ms => exact absurd rfl (h ms)
      | _ => rfl
    rw [validateProperties, hnone, ih]
    rfl

/-- The elements of an array, each looked at on its own. -/
theorem elements_eq_nil {items : Option (Schema N)} {v : Json N} {Q : Json N → Prop}
    (path : JsString)
    (hone : ∀ xs, v = .array xs → ∀ x ∈ xs, ∀ path' : JsString,
      ((validateOption host items (.json x) path').getD [] = [] ↔ Q x)) :
    (((elements (.json v)).getD []).zipIdx.flatMap fun item =>
      (validateOption host items (.json item.1) (elementPath path item.2)).getD []) = [] ↔
        ∀ xs, v = .array xs → ∀ x ∈ xs, Q x := by
  cases v with
  | array xs =>
    have helements : elements (.json (.array xs)) = some xs := rfl
    rw [helements, Option.getD_some, List.flatMap_eq_nil_iff]
    constructor
    · intro h ys hys x hx
      rw [Json.array.injEq] at hys
      subst hys
      obtain ⟨index, hindex, rfl⟩ := List.getElem_of_mem hx
      refine (hone xs rfl _ hx _).1 (h (xs[index], index) ?_)
      exact List.mk_mem_zipIdx_iff_getElem?.2 (List.getElem?_eq_getElem hindex)
    · intro h item hitem
      have hx : item.1 ∈ xs := List.fst_mem_of_mem_zipIdx hitem
      exact (hone xs rfl _ hx _).2 (h xs rfl _ hx)
  | null => exact iff_of_true rfl (by intro _ h; cases h)
  | bool b => exact iff_of_true rfl (by intro _ h; cases h)
  | number x => exact iff_of_true rfl (by intro _ h; cases h)
  | string s => exact iff_of_true rfl (by intro _ h; cases h)
  | object ms => exact iff_of_true rfl (by intro _ h; cases h)

/-- The members of a record. -/
theorem properties_eq_nil {properties : List (JsString × Schema N)} {v : Json N}
    {Q : List (JsString × Json N) → Prop} (path : JsString)
    (hone : ∀ ms, v = .object ms →
      (validateProperties host properties (.json (.object ms)) path = [] ↔ Q ms)) :
    validateProperties host properties (.json v) path = [] ↔ ∀ ms, v = .object ms → Q ms := by
  by_cases hobject : ∃ ms, v = .object ms
  · obtain ⟨ms, rfl⟩ := hobject
    refine (hone ms rfl).trans ⟨fun h ms' hms => ?_, fun h => h ms rfl⟩
    rw [Json.object.injEq] at hms
    exact hms ▸ h
  · have hnot : ∀ ms, v ≠ .object ms := fun ms h => hobject ⟨ms, h⟩
    exact iff_of_true (validateProperties_of_not_object hnot _ _) fun ms h => absurd h (hnot ms)

/-- One declared member. -/
theorem property_eq_nil {key : JsString} {s : Schema N} {ms : List (JsString × Json N)}
    {Q : Json N → Prop} {path : JsString}
    (hone : ∀ x ∈ own ms key, (validateJsonSchema host s (.json x) path = [] ↔ Q x))
    (habsent : own ms key = none → (inherited (N := N) key).isSome = false) :
    (match property (.json (.object ms)) key with
      | some x => validateJsonSchema host s x path
      | none => []) = [] ↔ ∀ x ∈ own ms key, Q x := by
  rw [property_object]
  cases hmember : own ms key with
  | none =>
    have hnone : (inherited (N := N) key) = none :=
      Option.isSome_eq_false_iff.1 (habsent hmember) |> Option.isNone_iff_eq_none.1
    rw [hnone]
    exact iff_of_true rfl (by intro _ h; cases h)
  | some x =>
    refine (hone x hmember).trans ⟨fun h y hy => ?_, fun h => h x rfl⟩
    rw [Option.mem_some_iff] at hy
    exact hy ▸ h

/-- A schema's keywords, put together. -/
theorem schema_eq_nil {constFound allFound ifFound notFound typeFound enumFound contentFound
      elementsFound membersFound : List Issue}
    {asserted all conditionally negatively elementwise memberwise : Prop}
    (hasserted : (constFound = [] ∧ typeFound = [] ∧ enumFound = [] ∧ contentFound = []) ↔ asserted)
    (hall : allFound = [] ↔ all) (hif : ifFound = [] ↔ conditionally)
    (hnot : notFound = [] ↔ negatively) (helements : elementsFound = [] ↔ elementwise)
    (hmembers : membersFound = [] ↔ memberwise) :
    constFound ++ allFound ++ ifFound ++ notFound ++ typeFound ++ enumFound ++ contentFound ++
      elementsFound ++ membersFound = [] ↔
        asserted ∧ all ∧ conditionally ∧ negatively ∧ elementwise ∧ memberwise := by
  simp only [List.append_eq_nil_iff]
  rw [← hasserted, ← hall, ← hif, ← hnot, ← helements, ← hmembers]
  constructor
  · rintro ⟨⟨⟨⟨⟨⟨⟨⟨hc, ha⟩, hi⟩, hn⟩, ht⟩, he⟩, hk⟩, hes⟩, hms⟩
    exact ⟨⟨hc, ht, he, hk⟩, ha, hi, hn, hes, hms⟩
  · rintro ⟨⟨hc, ht, he, hk⟩, ha, hi, hn, hes, hms⟩
    exact ⟨⟨⟨⟨⟨⟨⟨⟨hc, ha⟩, hi⟩, hn⟩, ht⟩, he⟩, hk⟩, hes⟩, hms⟩

mutual

/-- **The validator finds no issue with the valid values**, where the language makes no difference.
The induction is on the schema, with all schemas it applies. -/
theorem validateJsonSchema_eq_nil : ∀ (s : Schema N) (v : Json N) (path : JsString),
    Undisturbed host s v →
    (validateJsonSchema host s (.json v) path = [] ↔ Valid host.toNumbers host.test s v)
  | .mk asserts allOf ifSchema thenSchema elseSchema notSchema items properties, v, path, h => by
    rw [Undisturbed] at h
    obtain ⟨hasserts, hall, hif, hnot, hitems, hmembers⟩ := h
    rw [validateJsonSchema, Valid]
    refine schema_eq_nil (asserted_iff hasserts path) (validateAll_eq_nil allOf v path hall)
      (conditional_eq_nil (validateOption_isSome ifSchema (.json v) path)
        (fun hsome => validateOption_eq_nil ifSchema v path (hif hsome).1)
        (fun hsome hvalid => validateOption_eq_nil thenSchema v path ((hif hsome).2.1 hvalid))
        (fun hsome hvalid => validateOption_eq_nil elseSchema v path ((hif hsome).2.2 hvalid)))
      (negated_eq_nil path (validateOption_isSome notSchema (.json v) path)
        (validateOption_eq_nil notSchema v path hnot))
      (elements_eq_nil path fun xs hxs x hx path' =>
        validateOption_eq_nil items x path' (hitems xs hxs x hx))
      (properties_eq_nil path fun ms hms =>
        validateProperties_eq_nil properties ms path (hmembers ms hms))

theorem validateAll_eq_nil : ∀ (ss : List (Schema N)) (v : Json N) (path : JsString),
    UndisturbedAll host ss v →
    (validateAll host ss (.json v) path = [] ↔ ValidAll host.toNumbers host.test ss v)
  | [], _, _, _ => by
    rw [validateAll, ValidAll]
    exact iff_of_true rfl trivial
  | s :: rest, v, path, h => by
    rw [UndisturbedAll] at h
    rw [validateAll, ValidAll, List.append_eq_nil_iff, validateJsonSchema_eq_nil s v path h.1,
      validateAll_eq_nil rest v path h.2]

theorem validateOption_eq_nil : ∀ (o : Option (Schema N)) (v : Json N) (path : JsString),
    UndisturbedOption host o v →
    ((validateOption host o (.json v) path).getD [] = [] ↔
      ValidOption host.toNumbers host.test o v)
  | none, _, _, _ => by
    rw [validateOption, ValidOption]
    exact iff_of_true rfl trivial
  | some s, v, path, h => by
    rw [UndisturbedOption] at h
    rw [validateOption, ValidOption, Option.getD_some, validateJsonSchema_eq_nil s v path h]

theorem validateProperties_eq_nil : ∀ (properties : List (JsString × Schema N))
    (ms : List (JsString × Json N)) (path : JsString), UndisturbedMembers host properties ms →
    (validateProperties host properties (.json (.object ms)) path = [] ↔
      ValidMembers host.toNumbers host.test properties ms)
  | [], _, _, _ => by
    rw [validateProperties, ValidMembers]
    exact iff_of_true rfl trivial
  | (key, s) :: rest, ms, path, h => by
    rw [UndisturbedMembers] at h
    obtain ⟨hown, habsent, hrest⟩ := h
    rw [validateProperties, ValidMembers, List.append_eq_nil_iff,
      validateProperties_eq_nil rest ms path hrest]
    refine and_congr_left fun _ => property_eq_nil (fun x hx => ?_) habsent
    exact validateJsonSchema_eq_nil s x (path ++ (js "." ++ key)) (hown x hx)

end

end agreement

/-! ## Runs -/

section sample

/-- The numeral of one digit. -/
def digitNumeral (x : Fin 10) : JsonText.Numeral where
  whole := [(48 + x.val).toUInt16]
  fraction := []
  exponent := none
  wholeDigits := by
    fin_cases x
    · exact .inl rfl
    all_goals exact .inr ⟨by decide, List.cons_ne_nil _ _, List.forall_mem_singleton.2 rfl⟩
  fractionDigits := fun _ h => absurd h List.not_mem_nil
  exponentDigits := fun _ h => by cases h

/-- The numbers of one digit. -/
def digitNumbers : Numbers (Fin 10) where
  value x := (x.val : ℤ)
  spelled x := (false, digitNumeral x)
  read d := (d.coefficient : ℤ)
  read_spelled x := by
    fin_cases x <;> rfl
  spelled_eq x y h := by
    have hxy : x = y := Fin.ext (Int.ofNat.inj (Rat.intCast_inj.1 h))
    rw [hxy]

/-- With an engine that knows the pattern of one character. -/
def digitHost : SchemaHost (Fin 10) :=
  { digitNumbers with test := fun pattern s => pattern = js "." && s.any (· ≠ 10) }

/-- A schema with assertions only. -/
def asserting (asserts : Assertions (Fin 10)) : Schema (Fin 10) :=
  .mk asserts [] none none none none none []

/-- The record `{"a":1}`. -/
def sampleRecord : Json (Fin 10) := .object [(js "a", .number 1)]

/-- Whatever a schema without subschemas asserts, its validity is that. -/
theorem valid_asserting {asserts : Assertions (Fin 10)} {v : Json (Fin 10)} :
    Valid digitHost.toNumbers digitHost.test (asserting asserts) v ↔
      asserts.Hold digitHost.toNumbers digitHost.test [] v := by
  unfold asserting
  rw [Valid]
  constructor
  · exact fun h => h.1
  · intro h
    refine ⟨h, ?_, fun h => Bool.noConfusion h, fun h => Bool.noConfusion h, ?_, ?_⟩
    · rw [ValidAll]
      trivial
    · intro xs _ x _
      rw [ValidOption]
      trivial
    · intro ms _
      rw [ValidMembers]
      trivial

/-- A record is not the same as itself for the validator, so that the schema with it as its constant
finds it unequal; and every record has a `toString`, required or not. -/
theorem record_told_apart :
    (validateJsonSchema digitHost (asserting { noAssertions with const := some sampleRecord })
        (.json sampleRecord) (js "$") ≠ [] ∧
      Valid digitHost.toNumbers digitHost.test
        (asserting { noAssertions with const := some sampleRecord }) sampleRecord) ∧
    validateJsonSchema digitHost (asserting { noAssertions with required := [js "toString"] })
        (.json (.object [])) (js "$") = [] ∧
      ¬Valid digitHost.toNumbers digitHost.test
        (asserting { noAssertions with required := [js "toString"] }) (.object []) := by
  refine ⟨⟨?_, valid_asserting.2 ⟨?_, ?_, ?_, ?_⟩⟩, ?_, fun h => ?_⟩
  · decide
  · intro c hc
    rw [← Option.mem_some_iff.1 hc]
    exact equal_of_text digitHost.toNumbers rfl
  · intro _ h
    cases h
  · intro _ h
    cases h
  · exact ⟨fun _ h => absurd h List.not_mem_nil, fun h => Bool.noConfusion h⟩
  · decide
  · exact (valid_asserting.1 h).content.1 _ (List.mem_singleton.2 rfl) rfl

/-- A schema of records with a name and sizes, and without an error. -/
def sizesSchema : Schema (Fin 10) :=
  .mk { noAssertions with type := some .object, required := [js "name"], closed := true }
    [] none none none (some (asserting { noAssertions with required := [js "error"] })) none
    [(js "name", asserting { noAssertions with
        type := some .string, minLength := some 1, pattern := some (js ".") }),
      (js "sizes", .mk { noAssertions with type := some .array, uniqueItems := true }
        [] none none none none
        (some (asserting { noAssertions with type := some .integer, minimum := some 1 })) [])]

/-- The record `{"name":"ab","sizes":[3,5]}`. -/
def sizesRecord : Json (Fin 10) :=
  .object [(js "name", .string (js "ab")), (js "sizes", .array [.number 3, .number 5])]

theorem undisturbed_asserting {asserts : Assertions (Fin 10)} {v : Json (Fin 10)}
    (h : PlainAssertions digitHost asserts [] v) : Undisturbed digitHost (asserting asserts) v := by
  unfold asserting
  rw [Undisturbed]
  refine ⟨h, ?_, fun h => Bool.noConfusion h, ?_, ?_, ?_⟩
  · rw [UndisturbedAll]
    trivial
  · rw [UndisturbedOption]
    trivial
  · intro xs _ x _
    rw [UndisturbedOption]
    trivial
  · intro ms _
    rw [UndisturbedMembers]
    trivial

/-- Assertions without a constant and without `uniqueItems` about what is no record are plain if the
text is long enough. -/
theorem plain_of_leaf {asserts : Assertions (Fin 10)} {v : Json (Fin 10)}
    (hconst : asserts.const = none) (henum : asserts.enum = none)
    (hunique : asserts.uniqueItems = false)
    (hlength : ∀ s, v = .string s → characters s = s.length) (hobject : ∀ ms, v ≠ .object ms) :
    PlainAssertions digitHost asserts [] v where
  const c hc := by
    rw [hconst] at hc
    cases hc
  enum items hitems := by
    rw [henum] at hitems
    cases hitems
  minLength s hs least _ hle := hle.trans (hlength s hs).ge
  uniqueItems xs _ h := Bool.noConfusion (hunique.symm.trans h)
  required ms hms := absurd hms (hobject ms)
  closed ms hms := absurd hms (hobject ms)

/-- What a schema asserts about a record, without a constant. -/
theorem plain_of_record {asserts : Assertions (Fin 10)} {names : List JsString}
    {ms : List (JsString × Json (Fin 10))} (hconst : asserts.const = none)
    (henum : asserts.enum = none)
    (hrequired : ∀ name ∈ asserts.required, (inherited (N := Fin 10) name).isSome = false)
    (hnames : ∀ m ∈ ms, (inherited (N := Fin 10) m.1).isSome = false) :
    PlainAssertions digitHost asserts names (.object ms) where
  const c hc := by
    rw [hconst] at hc
    cases hc
  enum items hitems := by
    rw [henum] at hitems
    cases hitems
  minLength s hs := by cases hs
  uniqueItems xs hxs := by cases hxs
  required ms' hms h name hname := by
    rw [Json.object.injEq] at hms
    subst hms
    exact (h name hname).resolve_right fun hthere =>
      Bool.noConfusion (hthere.symm.trans (hrequired name hname))
  closed ms' hms _ h m hm := by
    rw [Json.object.injEq] at hms
    subst hms
    exact (h m hm).resolve_right fun hthere =>
      Bool.noConfusion (hthere.symm.trans (hnames m hm))

theorem undisturbed_sizes :
    Undisturbed digitHost (.mk { noAssertions with type := some .array, uniqueItems := true }
      [] none none none none
      (some (asserting { noAssertions with type := some .integer, minimum := some 1 })) [])
      (.array [.number 3, .number 5]) := by
  rw [Undisturbed]
  refine ⟨⟨?_, ?_, ?_, ?_, ?_, ?_⟩, ?_, fun h => Bool.noConfusion h, ?_, ?_, ?_⟩
  · intro _ h
    cases h
  · intro _ h
    cases h
  · intro _ h
    cases h
  · intro xs hxs _ _
    rw [Json.array.injEq] at hxs
    subst hxs
    refine List.pairwise_pair.2 fun h => ?_
    cases h with
    | number _ _ h => exact absurd (Rat.intCast_inj.1 h) (by decide)
  · intro _ h
    cases h
  · intro _ h
    cases h
  · rw [UndisturbedAll]
    trivial
  · rw [UndisturbedOption]
    trivial
  · intro xs hxs x hx
    rw [Json.array.injEq] at hxs
    subst hxs
    rw [UndisturbedOption]
    refine undisturbed_asserting ?_
    obtain rfl | hx := List.mem_cons.1 hx
    · exact plain_of_leaf rfl rfl rfl (by intro _ h; cases h) (by intro _ h; cases h)
    · obtain rfl := List.mem_singleton.1 hx
      exact plain_of_leaf rfl rfl rfl (by intro _ h; cases h) (by intro _ h; cases h)
  · intro ms hms
    cases hms

theorem undisturbed_sizesRecord : Undisturbed digitHost sizesSchema sizesRecord := by
  unfold sizesSchema
  rw [Undisturbed]
  refine ⟨?_, ?_, fun h => Bool.noConfusion h, ?_, ?_, ?_⟩
  · exact plain_of_record rfl rfl (List.forall_mem_singleton.2 rfl)
      (List.forall_mem_cons.2 ⟨rfl, List.forall_mem_singleton.2 rfl⟩)
  · rw [UndisturbedAll]
    trivial
  · rw [UndisturbedOption]
    exact undisturbed_asserting (plain_of_record rfl rfl (List.forall_mem_singleton.2 rfl)
      (List.forall_mem_cons.2 ⟨rfl, List.forall_mem_singleton.2 rfl⟩))
  · intro xs hxs
    cases hxs
  · intro ms hms
    unfold sizesRecord at hms
    rw [Json.object.injEq] at hms
    subst hms
    rw [UndisturbedMembers, UndisturbedMembers, UndisturbedMembers]
    refine ⟨?_, fun _ => rfl, ?_, fun _ => rfl, trivial⟩
    · intro x hx
      obtain rfl : Json.string (js "ab") = x := Option.some.inj hx
      refine undisturbed_asserting (plain_of_leaf rfl rfl rfl ?_ (by intro _ h; cases h))
      intro s hs
      rw [← Json.string.inj hs]
      decide
    · intro x hx
      obtain rfl : Json.array [.number 3, .number 5] = x := Option.some.inj hx
      exact undisturbed_sizes

theorem sizesRecord_agrees :
    validateJsonSchema digitHost sizesSchema (.json sizesRecord) (js "$") = [] ↔
      Valid digitHost.toNumbers digitHost.test sizesSchema sizesRecord :=
  validateJsonSchema_eq_nil sizesSchema sizesRecord (js "$") undisturbed_sizesRecord

end sample

end SchemaValidation
end Autopilot
