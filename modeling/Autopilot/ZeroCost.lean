/-
The guard that refuses an answer for which OpenRouter reports a cost.

A cost stands under some name that says so, anywhere in the usage of an answer. The guard walks
through the objects of the usage; it does not walk through arrays.

This module is `assertOpenRouterZeroCost` and the two walks behind it (`cliWorkerCapture.ts`). A
parsed object is what `Object.entries` lists of it: of members with one name, parsing has kept one.
A number is the decimal it was read from, and what is asked of it is asked of the double that this
decimal is rounded to.
-/
import Autopilot.OpenRouterLedgers

set_option autoImplicit false

namespace Autopilot
namespace ZeroCost

open JsonText (Decimal Value digitsValue hexValue isDigit member readExponent)
open OpenRouterLedgers (isFinite)

/-! ## Numbers -/

/-- The decimal is rounded to zero. -/
def roundsToZero (n : Decimal) : Bool :=
  if 0 ≤ n.scale then n.coefficient * 10 ^ n.scale.toNat * 2 ^ 1075 ≤ 1
  else n.coefficient * 2 ^ 1075 ≤ 10 ^ (-n.scale).toNat

/-- A digit of a number in some base. -/
def baseDigit? (base : ℕ) (c : UInt16) : Option ℕ := (hexValue c).filter (· < base)

/-- `0x`, `0o` or `0b`, as the base. -/
def baseOf (c : UInt16) : Option ℕ :=
  if c = 120 || c = 88 then some 16
  else if c = 111 || c = 79 then some 8
  else if c = 98 || c = 66 then some 2
  else none

/-- A number without a sign in a base of its own. -/
def nonDecimal? : JsString → Option Decimal
  | 48 :: x :: digits =>
    match baseOf x with
    | some base =>
      if digits = [] then none
      else (digits.mapM (baseDigit? base)).map fun values =>
        ⟨false, values.foldl (fun n digit => base * n + digit) 0, 0⟩
    | none => none
  | _ => none

/-- A decimal number without its sign: there is a digit in front of the point or behind it. -/
def unsignedDecimal? (negative : Bool) (text : JsString) : Option Decimal :=
  let whole := text.takeWhile isDigit
  let behind := text.dropWhile isDigit
  let fraction := if behind.head? = some 46 then behind.tail.takeWhile isDigit else []
  let rest := if behind.head? = some 46 then behind.tail.dropWhile isDigit else behind
  if whole = [] ∧ fraction = [] then none
  else
    match readExponent rest with
    | some (exponent, []) =>
      some ⟨negative, digitsValue (whole ++ fraction), exponent - fraction.length⟩
    | _ => none

def signedDecimal? : JsString → Option Decimal
  | 45 :: text => unsignedDecimal? true text
  | 43 :: text => unsignedDecimal? false text
  | text => unsignedDecimal? false text

/-- `Number(text)`, before it is rounded: nothing for `NaN` and for infinity. -/
def number? (text : JsString) : Option Decimal :=
  let text := trim text
  if text = [] then some ⟨false, 0, 0⟩
  else
    match nonDecimal? text with
    | some n => some n
    | none => signedDecimal? text

/-! ## The guard -/

def lowerUnit (c : UInt16) : UInt16 := if 65 ≤ c && c ≤ 90 then c + 32 else c

/-- `/cost/i`. -/
def isCostKey (key : JsString) : Bool := decide (js "cost" <:+: key.map lowerUnit)

/-- `numericCostValue`. -/
def numericCostValue : Value → Option Decimal
  | .number n => if isFinite n then some n else none
  | .string text =>
    if trim text ≠ [] then
      match number? text with
      | some n => if isFinite n then some n else none
      | none => none
    else none
  | _ => none

/-- `cost !== null && cost !== 0`, of an entry whose name says that it is a cost. -/
def isNonZeroCost (key : JsString) (item : Value) : Bool :=
  isCostKey key && (numericCostValue item).any fun cost => !roundsToZero cost

/-- `cost !== null && cost > 0`, with the cost. -/
def positiveCost? (key : JsString) (item : Value) : Option Decimal :=
  if isCostKey key then
    (numericCostValue item).filter fun cost => !cost.negative && !roundsToZero cost
  else none

mutual

/-- `hasNonZeroCostField`. -/
def hasNonZeroCostField : Value → Bool
  | .object entries => anyNonZeroCost entries
  | _ => false

/-- The loop over the entries. -/
def anyNonZeroCost : List (JsString × Value) → Bool
  | [] => false
  | (key, item) :: rest =>
    isNonZeroCost key item || hasNonZeroCostField item || anyNonZeroCost rest

end

mutual

/-- `firstPositiveOpenRouterCost`. -/
def firstPositiveOpenRouterCost : Value → Option Decimal
  | .object entries => firstPositiveCost entries
  | _ => none

/-- The loop over the entries. -/
def firstPositiveCost : List (JsString × Value) → Option Decimal
  | [] => none
  | (key, item) :: rest =>
    match positiveCost? key item with
    | some cost => some cost
    | none =>
      match firstPositiveOpenRouterCost item with
      | some cost => some cost
      | none => firstPositiveCost rest

end

/-- `asUnknownRecord(payload)?.usage`. -/
def usageOf : Value → Option Value
  | .object entries => member entries (js "usage")
  | _ => none

/-- `extractOpenRouterUsageCostUsd`. -/
def extractOpenRouterUsageCostUsd (payload : Value) : Option Decimal :=
  (usageOf payload).bind firstPositiveOpenRouterCost

/-- `assertOpenRouterZeroCost`. -/
def assertOpenRouterZeroCost (payload : Value) : Except JsError Unit :=
  if (usageOf payload).any hasNonZeroCostField then
    .error (.error (js "OpenRouterZeroCostAssertionError")
      (js "openrouter_nonzero_cost_detected: response usage reported nonzero cost"))
  else .ok ()

/-! ## Where a cost stands -/

/-- An entry of an object somewhere in a value. The flag says whether an array lies around it. -/
inductive EntryAt : Bool → Value → JsString → Value → Prop
  | here {entries : List (JsString × Value)} {key : JsString} {item : Value}
      (h : (key, item) ∈ entries) : EntryAt false (.object entries) key item
  | member {entries : List (JsString × Value)} {name key : JsString} {value item : Value}
      {inArray : Bool} (hmember : (name, value) ∈ entries)
      (h : EntryAt inArray value key item) : EntryAt inArray (.object entries) key item
  | element {elements : List Value} {key : JsString} {value item : Value} {inArray : Bool}
      (helement : value ∈ elements) (h : EntryAt inArray value key item) :
      EntryAt true (.array elements) key item

/-- A non-zero cost stands somewhere in a value, inside of an array or outside of all. -/
def CostAt (inArray : Bool) (value : Value) : Prop :=
  ∃ key item, EntryAt inArray value key item ∧ isNonZeroCost key item = true

/-- A positive cost stands somewhere in a value, outside of all arrays. -/
def PositiveCostAt (value : Value) (cost : Decimal) : Prop :=
  ∃ key item, EntryAt false value key item ∧ positiveCost? key item = some cost

/-- An entry of an object, or of what one of its entries is. -/
theorem exists_entryAt_object {entries : List (JsString × Value)}
    {P : JsString → Value → Prop} :
    (∃ key item, EntryAt false (.object entries) key item ∧ P key item) ↔
      ∃ entry ∈ entries, P entry.1 entry.2 ∨
        ∃ key item, EntryAt false entry.2 key item ∧ P key item := by
  constructor
  · rintro ⟨key, item, hat, hcost⟩
    cases hat with
    | here h => exact ⟨_, h, .inl hcost⟩
    | member hmember h => exact ⟨_, hmember, .inr ⟨key, item, h, hcost⟩⟩
  · rintro ⟨⟨name, value⟩, hmem, hcost | ⟨key, item, hat, hcost⟩⟩
    · exact ⟨name, value, .here hmem, hcost⟩
    · exact ⟨key, item, .member hmem hat, hcost⟩

theorem costAt_object {entries : List (JsString × Value)} :
    CostAt false (.object entries) ↔
      ∃ entry ∈ entries, isNonZeroCost entry.1 entry.2 = true ∨ CostAt false entry.2 :=
  exists_entryAt_object

/-- Only an object has entries that no array lies around. -/
theorem hasNonZeroCostField_other {value : Value} (h : ∀ entries, value ≠ .object entries) :
    hasNonZeroCostField value = true ↔ CostAt false value := by
  rw [hasNonZeroCostField]
  · refine iff_of_false Bool.false_ne_true ?_
    rintro ⟨key, item, hat, -⟩
    cases hat with
    | here _ => exact h _ rfl
    | member _ _ => exact h _ rfl
  · exact h

mutual

/-- **The guard sees a cost exactly when it stands outside of all arrays.** -/
theorem hasNonZeroCostField_iff : ∀ value : Value,
    hasNonZeroCostField value = true ↔ CostAt false value
  | .object entries => by
    rw [hasNonZeroCostField, anyNonZeroCost_iff, costAt_object]
  | .null => hasNonZeroCostField_other (by simp)
  | .bool _ => hasNonZeroCostField_other (by simp)
  | .number _ => hasNonZeroCostField_other (by simp)
  | .string _ => hasNonZeroCostField_other (by simp)
  | .array _ => hasNonZeroCostField_other (by simp)

theorem anyNonZeroCost_iff : ∀ entries : List (JsString × Value),
    anyNonZeroCost entries = true ↔
      ∃ entry ∈ entries, isNonZeroCost entry.1 entry.2 = true ∨ CostAt false entry.2
  | [] => by
    rw [anyNonZeroCost]
    simp
  | (key, item) :: rest => by
    rw [anyNonZeroCost, Bool.or_eq_true, Bool.or_eq_true, hasNonZeroCostField_iff item,
      anyNonZeroCost_iff rest, List.exists_mem_cons_iff]

end

/-! ## The cost that is written to the ledger -/

theorem positiveCostAt_object {entries : List (JsString × Value)} {cost : Decimal} :
    PositiveCostAt (.object entries) cost ↔
      ∃ entry ∈ entries, positiveCost? entry.1 entry.2 = some cost ∨
        PositiveCostAt entry.2 cost :=
  exists_entryAt_object

/-- A positive cost is not zero. -/
theorem isNonZeroCost_of_positive {key : JsString} {item : Value} {cost : Decimal}
    (h : positiveCost? key item = some cost) : isNonZeroCost key item = true := by
  unfold positiveCost? at h
  split at h
  · rename_i hkey
    obtain ⟨hvalue, hpositive⟩ := Option.filter_eq_some_iff.1 h
    rw [Bool.and_eq_true] at hpositive
    unfold isNonZeroCost
    rw [hkey, hvalue, Bool.true_and]
    exact hpositive.2
  · cases h

theorem CostAt.of_positive {value : Value} {cost : Decimal} (h : PositiveCostAt value cost) :
    CostAt false value := by
  obtain ⟨key, item, hat, hcost⟩ := h
  exact ⟨key, item, hat, isNonZeroCost_of_positive hcost⟩

mutual

/-- The cost that is found stands somewhere outside of all arrays. -/
theorem positiveCostAt_of_first : ∀ (value : Value) {cost : Decimal},
    firstPositiveOpenRouterCost value = some cost → PositiveCostAt value cost
  | .object entries, cost, h => by
    rw [firstPositiveOpenRouterCost] at h
    exact positiveCostAt_object.2 (positiveCostAt_of_firstIn entries h)
  | .null, _, h => nomatch h
  | .bool _, _, h => nomatch h
  | .number _, _, h => nomatch h
  | .string _, _, h => nomatch h
  | .array _, _, h => nomatch h

theorem positiveCostAt_of_firstIn : ∀ (entries : List (JsString × Value)) {cost : Decimal},
    firstPositiveCost entries = some cost →
      ∃ entry ∈ entries, positiveCost? entry.1 entry.2 = some cost ∨ PositiveCostAt entry.2 cost
  | [], _, h => nomatch h
  | (key, item) :: rest, cost, h => by
    rw [firstPositiveCost] at h
    split at h
    · rename_i first hfirst
      exact ⟨_, List.mem_cons_self, .inl (hfirst.trans h)⟩
    · split at h
      · rename_i nested hnested
        exact ⟨_, List.mem_cons_self, .inr (positiveCostAt_of_first item (hnested.trans h))⟩
      · obtain ⟨entry, hmem, hcost⟩ := positiveCostAt_of_firstIn rest h
        exact ⟨entry, List.mem_cons_of_mem _ hmem, hcost⟩

end

/-- What is written to the ledger as a cost is refused. -/
theorem refused_of_cost {payload : Value} {cost : Decimal}
    (h : extractOpenRouterUsageCostUsd payload = some cost) :
    ∃ e, assertOpenRouterZeroCost payload = .error e := by
  obtain ⟨usage, husage, hfirst⟩ := Option.bind_eq_some_iff.1 h
  have hcost := CostAt.of_positive (positiveCostAt_of_first usage hfirst)
  unfold assertOpenRouterZeroCost
  rw [husage, Option.any_some, if_pos ((hasNonZeroCostField_iff usage).2 hcost)]
  exact ⟨_, rfl⟩

/-! ## What the guard lets by -/

/-- The usage of an answer has a non-zero cost, inside of an array or outside of all. -/
def CostIn (inArray : Bool) (payload : Value) : Prop :=
  ∃ usage, usageOf payload = some usage ∧ CostAt inArray usage

theorem assertOpenRouterZeroCost_throws {payload : Value} :
    (∃ e, assertOpenRouterZeroCost payload = .error e) ↔ CostIn false payload := by
  unfold assertOpenRouterZeroCost CostIn
  constructor
  · rintro ⟨e, h⟩
    cases husage : usageOf payload with
    | none =>
      rw [husage] at h
      cases h
    | some usage =>
      rw [husage, Option.any_some] at h
      split at h
      · rename_i hfield
        exact ⟨usage, rfl, (hasNonZeroCostField_iff usage).1 hfield⟩
      · cases h
  · rintro ⟨usage, husage, hcost⟩
    rw [husage, Option.any_some, if_pos ((hasNonZeroCostField_iff usage).2 hcost)]
    exact ⟨_, rfl⟩

/-- **The guard is complete but for arrays.** It throws exactly when there is a non-zero cost, if
and only if the costs inside of arrays are not the only ones. -/
theorem zeroCost_complete_iff (payload : Value) :
    ((∃ e, assertOpenRouterZeroCost payload = .error e) ↔
      ∃ inArray, CostIn inArray payload) ↔
    (CostIn true payload → CostIn false payload) := by
  rw [assertOpenRouterZeroCost_throws]
  constructor
  · intro hiff hinside
    exact hiff.2 ⟨true, hinside⟩
  · intro hinside
    refine ⟨fun h => ⟨false, h⟩, ?_⟩
    rintro ⟨inArray, h⟩
    cases inArray with
    | false => exact h
    | true => exact hinside h

def costDollar : Value := .object [(js "cost", .number ⟨false, 1, 0⟩)]

theorem refused_of_cost_sample :
    ∃ e, assertOpenRouterZeroCost (.object [(js "usage", costDollar)]) = .error e :=
  refused_of_cost (show extractOpenRouterUsageCostUsd (.object [(js "usage", costDollar)]) =
    some ⟨false, 1, 0⟩ by decide +kernel)

/-- `{"usage": {"calls": [{"cost": 1}]}}` -/
def samplePayload : Value :=
  .object [(js "usage", .object [(js "calls", .array [costDollar])])]

theorem zeroCost_counterexample :
    ¬∀ payload, (∃ e, assertOpenRouterZeroCost payload = .error e) ↔
      ∃ inArray, CostIn inArray payload := by
  intro hall
  have hcost : CostIn true samplePayload := by
    refine ⟨_, rfl, js "cost", .number ⟨false, 1, 0⟩, ?_, by decide +kernel⟩
    have hinner : EntryAt true (.array [costDollar]) (js "cost") (.number ⟨false, 1, 0⟩) :=
      .element List.mem_cons_self (.here List.mem_cons_self)
    exact .member List.mem_cons_self hinner
  obtain ⟨e, h⟩ := (hall samplePayload).2 ⟨true, hcost⟩
  have hpasses : assertOpenRouterZeroCost samplePayload = .ok () := by decide +kernel
  rw [hpasses] at h
  cases h

end ZeroCost
end Autopilot
