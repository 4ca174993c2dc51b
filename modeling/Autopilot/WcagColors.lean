/-
What a colour of the style sheet comes to.

A colour is written as hexadecimal digits, as the value of a variable of the style sheet, or as a
mixture of two colours; variables name variables, and have texts to fall back on. It is resolved by
recursion. The texts that are resolved on the way may be longer than the one it began with, but a
variable whose value is entered is not entered again, and everything else that is resolved is a
part of the text before it.

This module is `resolveColor` and what it calls (`wcag-contrast.ts`). Channels and percentages are
exact rationals.
-/
import Autopilot.TokenCss
import Autopilot.Lib.JsonReader
import Mathlib

set_option autoImplicit false

namespace Autopilot
namespace WcagColors

open PatternComponents (asciiLower length_trim_le)
open TokenCss (joinedBy)

/-! ## Colours -/

/-- `Rgba`. -/
@[ext] structure Rgba where
  red : ℚ
  green : ℚ
  blue : ℚ
  alpha : ℚ
  deriving DecidableEq

/-- `Rgb`. -/
structure Rgb where
  red : ℚ
  green : ℚ
  blue : ℚ
  deriving DecidableEq

/-- A channel between nothing and full. -/
def IsChannel (x : ℚ) : Prop := 0 ≤ x ∧ x ≤ 255

/-- The channels and the alpha are in their ranges. -/
structure Rgba.InRange (color : Rgba) : Prop where
  red : IsChannel color.red
  green : IsChannel color.green
  blue : IsChannel color.blue
  alpha : 0 ≤ color.alpha ∧ color.alpha ≤ 1

structure Rgb.InRange (color : Rgb) : Prop where
  red : IsChannel color.red
  green : IsChannel color.green
  blue : IsChannel color.blue

/-- The value of a hexadecimal digit. -/
def hexDigitValue (c : UInt16) : ℕ := (JsonText.hexValue c).getD 0

/-- `Number.parseInt(digits, 16)`. -/
def parseHex (digits : JsString) : ℕ := digits.foldl (fun n c => 16 * n + hexDigitValue c) 0

/-- `parseHexColor`. -/
def parseHexColor (value : JsString) : Except JsString (ℕ × ℕ × ℕ) :=
  if value.head? = some 35 ∧ (value.length = 4 ∨ value.length = 7) ∧
      value.tail.all fun c => (JsonText.hexValue c).isSome then
    let normalized := if value.length = 4 then 35 :: value.tail.flatMap fun c => [c, c] else value
    .ok (parseHex ((normalized.drop 1).take 2), parseHex ((normalized.drop 3).take 2),
      parseHex ((normalized.drop 5).take 2))
  else .error (js "Expected hex color, received " ++ value ++ js ".")

/-! ## Parts of a text -/

/-- `value.indexOf(c)`. -/
def indexOf (value : JsString) (c : UInt16) : ℤ :=
  match value.findIdx? (· = c) with
  | some n => n
  | none => -1

/-- `value.lastIndexOf(c)`. -/
def lastIndexOf (value : JsString) (c : UInt16) : ℤ :=
  match value.reverse.findIdx? (· = c) with
  | some n => value.length - 1 - n
  | none => -1

/-- The place that an argument of `slice` stands for: a negative one counts from the end. -/
def slicePlace (length : ℕ) (i : ℤ) : ℕ := if i < 0 then (length + i).toNat else min i.toNat length

/-- `value.slice(start, stop)`. -/
def slice (value : JsString) (start stop : ℤ) : JsString :=
  (value.take (slicePlace value.length stop)).drop (slicePlace value.length start)

/-- `value.slice(value.indexOf("(") + 1, value.lastIndexOf(")"))`. -/
def inner (value : JsString) : JsString := slice value (indexOf value 40 + 1) (lastIndexOf value 41)

/-- The loop of `splitTopLevel`, from a depth and a part that has begun. -/
def splitFrom (separator : UInt16) : ℤ → JsString → JsString → List JsString
  | _, current, [] => [trim current]
  | depth, current, c :: rest =>
    let depth := if c = 40 then depth + 1 else if c = 41 then depth - 1 else depth
    if c = separator ∧ depth = 0 then trim current :: splitFrom separator depth [] rest
    else splitFrom separator depth (current ++ [c]) rest

/-- `splitTopLevel`. -/
def splitTopLevel (value : JsString) (separator : UInt16) : List JsString :=
  splitFrom separator 0 [] value

/-- `Number.parseFloat` of `[0-9]+(?:\.[0-9]+)?`, if the text is one. -/
def parseFloat (text : JsString) : Option ℚ :=
  let whole := text.takeWhile JsonText.isDigit
  if whole = [] then none
  else
    match text.dropWhile JsonText.isDigit with
    | [] => some (JsonText.digitsValue whole)
    | point :: fraction =>
      if point = 46 ∧ fraction ≠ [] ∧ fraction.all JsonText.isDigit then
        some (JsonText.digitsValue whole + JsonText.digitsValue fraction / 10 ^ fraction.length)
      else none

/-- What `/^\s+([0-9]+(?:\.[0-9]+)?)%$/` finds. -/
def percentageAt (text : JsString) : Option ℚ :=
  if (text.head?.any isWhitespace) ∧ text.getLast? = some 37 then
    parseFloat (text.dropWhile isWhitespace).dropLast
  else none

/-- What `/\s+([0-9]+(?:\.[0-9]+)?)%$/` finds, and the text in front of it. -/
def findPercentage (text : JsString) : Option (JsString × ℚ) :=
  (List.range text.length).findSome? fun index =>
    (percentageAt (text.drop index)).map fun percentage => (text.take index, percentage)

/-- `splitColorAndPercentage`. -/
def splitColorAndPercentage (component : JsString) : JsString × Option ℚ :=
  match findPercentage (trim component) with
  | none => (trim component, none)
  | some (before, percentage) => (trim before, some percentage)

/-! ## Mixing -/

/-- `channel` of `mixSrgb`. -/
def mixChannel (weightA weightB alphaA alphaB channelA channelB : ℚ) : ℚ :=
  let mixedAlpha := weightA * alphaA + weightB * alphaB
  if 0 < mixedAlpha then
    (weightA * alphaA * channelA + weightB * alphaB * channelB) / mixedAlpha
  else 0

/-- `percentA ?? (percentB === undefined ? 50 : Math.max(0, 100 - percentB))`. -/
def percentageOr (percent other : Option ℚ) : ℚ :=
  match percent, other with
  | some percent, _ => percent
  | none, none => 50
  | none, some other => max 0 (100 - other)

/-- `mixSrgb`. -/
def mixSrgb (a : Rgba) (percentA : Option ℚ) (b : Rgba) (percentB : Option ℚ) : Rgba :=
  let p1 := percentageOr percentA percentB
  let p2 := percentageOr percentB percentA
  let total := p1 + p2
  if total = 0 then ⟨0, 0, 0, 0⟩
  else
    let channel := mixChannel (p1 / total) (p2 / total) a.alpha b.alpha
    ⟨channel a.red b.red, channel a.green b.green, channel a.blue b.blue,
      (p1 / total * a.alpha + p2 / total * b.alpha) * min 1 (total / 100)⟩

/-- `compositeOver`. -/
def compositeOver (foreground : Rgba) (backdrop : Rgb) : Rgb :=
  let alpha := foreground.alpha
  ⟨foreground.red * alpha + backdrop.red * (1 - alpha),
    foreground.green * alpha + backdrop.green * (1 - alpha),
    foreground.blue * alpha + backdrop.blue * (1 - alpha)⟩

/-! ## Resolution -/

/-- An answer, an error, or nothing where the calls nest too deep. -/
abbrev Resolution := ExceptT JsString Option

/-- The call of `resolveRgba` inside another. -/
abbrev Resolver := JsString → List JsString → Resolution Rgba

/-- The error of a text. -/
def failure (parts : List JsString) : Resolution Rgba := throw parts.flatten

/-- The two dashes in front are taken away. -/
def withoutDashes (name : JsString) : JsString := if js "--" <+: name then name.drop 2 else name

/-- `resolveVar`. -/
def resolveVar (rootVars : Record JsString JsString) (resolve : Resolver) (value : JsString)
    (seen : List JsString) : Resolution Rgba :=
  match splitTopLevel (inner value) 44 with
  | [] => failure [js "Malformed var() expression: ", value, js "."]
  | rawName :: others =>
    if (trim rawName).length = 0 then
      failure [js "Malformed var() expression: ", value, js "."]
    else
      let name := withoutDashes (trim rawName)
      if name ∈ seen then
        failure [js "Cyclic var() reference while resolving --", name, js "."]
      else
        let fallback := if 0 < others.length then some (trim (joinedBy [44] others)) else none
        match rootVars.get? name with
        | some resolved => resolve resolved (name :: seen)
        | none =>
          match fallback with
          | some fallback =>
            if 0 < fallback.length then resolve fallback seen
            else failure [js "Rendered :root CSS is missing --", name, js "."]
          | none => failure [js "Rendered :root CSS is missing --", name, js "."]

/-- `/^in\s+srgb$/i`. -/
def isInSrgb (space : JsString) : Bool :=
  let lower := asciiLower space
  js "in" <+: lower && (lower.drop 2).head?.any isWhitespace &&
    (lower.drop 2).dropWhile isWhitespace = js "srgb"

/-- `resolveColorMix`. -/
def resolveColorMix (resolve : Resolver) (value : JsString) (seen : List JsString) :
    Resolution Rgba :=
  match splitTopLevel (inner value) 44 with
  | [space, componentA, componentB] =>
    if isInSrgb (trim space) then do
      let a ← resolve (splitColorAndPercentage componentA).1 seen
      let b ← resolve (splitColorAndPercentage componentB).1 seen
      return mixSrgb a (splitColorAndPercentage componentA).2 b
        (splitColorAndPercentage componentB).2
    else
      failure [js "Unsupported color-mix() interpolation space (only \"in srgb\" is supported): ",
        trim space, js "."]
  | _ => failure [js "Unsupported color-mix() form (expected \"in srgb, A, B\"): ", value, js "."]

/-- `resolveRgba`, with so many calls that may nest. -/
def resolveRgba (rootVars : Record JsString JsString) : ℕ → Resolver
  | 0, _, _ => ExceptT.mk none
  | depth + 1, value, seen =>
    let trimmed := trim value
    if asciiLower trimmed = js "transparent" then pure ⟨0, 0, 0, 0⟩
    else if js "#" <+: trimmed then
      match parseHexColor trimmed with
      | .ok (red, green, blue) => pure ⟨red, green, blue, 1⟩
      | .error message => throw message
    else if js "var(" <+: asciiLower trimmed then
      resolveVar rootVars (resolveRgba rootVars depth) trimmed seen
    else if js "color-mix(" <+: asciiLower trimmed then
      resolveColorMix (resolveRgba rootVars depth) trimmed seen
    else failure [js "Unsupported color value: ", trimmed, js "."]

/-- `resolveColor`. How an alpha is printed in the error is a parameter. -/
def resolveColor (toFixed : ℚ → JsString) (rootVars : Record JsString JsString) (depth : ℕ)
    (value : JsString) (backdrop : Option Rgb) : Resolution Rgb := do
  let color ← resolveRgba rootVars depth value []
  if 1 ≤ color.alpha then return ⟨color.red, color.green, color.blue⟩
  else
    match backdrop with
    | some backdrop => return compositeOver color backdrop
    | none =>
      throw (js "resolveColor: " ++ value ++ js " resolves to a translucent color (alpha " ++
        toFixed color.alpha ++ js "); supply an opaque backdrop to flatten it.")

/-! ## Lengths -/

section lengths

/-- A parenthesis in lower case is one in the text. -/
theorem parenthesis_mem {front text : JsString} (hfront : 40 ∈ front)
    (h : front <+: asciiLower text) : 40 ∈ text := by
  obtain ⟨c, hc, hlower⟩ := List.mem_map.1 (h.subset hfront)
  by_cases hupper : 65 ≤ c ∧ c ≤ 90
  · rw [if_pos hupper] at hlower
    have hvalue := congrArg UInt16.toNat hlower
    rw [UInt16.toNat_add] at hvalue
    have hlow : 65 ≤ c.toNat := hupper.1
    have hhigh : c.toNat ≤ 90 := hupper.2
    simp at hvalue
    omega
  · rw [if_neg hupper] at hlower
    exact hlower ▸ hc

/-- What stands behind a parenthesis is shorter than the text. -/
theorem length_inner_lt {value : JsString} (h : 40 ∈ value) :
    (inner value).length < value.length := by
  have hlength : 0 < value.length := List.length_pos_of_mem h
  have hindex : 0 ≤ indexOf value 40 := by
    unfold indexOf
    split
    · omega
    · rename_i hnone
      exact absurd (List.findIdx?_eq_none_iff.1 hnone 40 h) (by decide)
  have hplace : 0 < slicePlace value.length (indexOf value 40 + 1) := by
    unfold slicePlace
    rw [if_neg (by omega)]
    omega
  unfold inner slice
  rw [List.length_drop, List.length_take]
  omega

/-- The parts of a text, each with a separator behind it, are not longer than the text with one. -/
theorem sum_length_splitFrom (separator : UInt16) (depth : ℤ) (current rest : JsString) :
    ((splitFrom separator depth current rest).map fun part => part.length + 1).sum ≤
      current.length + rest.length + 1 := by
  induction rest generalizing depth current with
  | nil =>
    have htrim := length_trim_le current
    rw [splitFrom, List.map_singleton, List.sum_singleton, List.length_nil]
    omega
  | cons c rest ih =>
    rw [splitFrom]
    generalize (if c = 40 then depth + 1 else if c = 41 then depth - 1 else depth) = behind
    by_cases hsplit : c = separator ∧ behind = 0
    · have htrim := length_trim_le current
      have hrest := ih behind []
      rw [if_pos hsplit, List.map_cons, List.sum_cons, List.length_cons]
      rw [List.length_nil] at hrest
      omega
    · have hrest := ih behind (current ++ [c])
      rw [if_neg hsplit, List.length_cons]
      rw [List.length_append, List.length_singleton] at hrest
      omega

theorem sum_length_splitTopLevel (value : JsString) (separator : UInt16) :
    ((splitTopLevel value separator).map fun part => part.length + 1).sum ≤ value.length + 1 := by
  have h := sum_length_splitFrom separator 0 [] value
  rwa [List.length_nil, Nat.zero_add] at h

theorem length_joinedBy_le (c : UInt16) (values : List JsString) :
    (joinedBy [c] values).length ≤ (values.map fun part => part.length + 1).sum := by
  unfold joinedBy
  induction values with
  | nil => exact Nat.le_refl 0
  | cons value values ih =>
    cases values with
    | nil => simp
    | cons next values =>
      rw [List.intersperse_cons_cons, List.flatten_cons, List.flatten_cons, List.length_append,
        List.length_append, List.map_cons, List.sum_cons, List.length_singleton]
      omega

/-- What is found stands behind a part of the text. -/
theorem findPercentage_eq_some {text before : JsString} {percentage : ℚ}
    (h : findPercentage text = some (before, percentage)) :
    ∃ index, percentageAt (text.drop index) = some percentage ∧ text.take index = before := by
  obtain ⟨index, -, hat⟩ := List.exists_of_findSome?_eq_some h
  obtain ⟨found, hfound, heq⟩ := Option.map_eq_some_iff.1 hat
  obtain ⟨hbefore, rfl⟩ := Prod.mk.inj heq
  exact ⟨index, hfound, hbefore⟩

theorem length_splitColorAndPercentage (component : JsString) :
    (splitColorAndPercentage component).1.length ≤ component.length := by
  have htrim := length_trim_le component
  unfold splitColorAndPercentage
  split
  · exact htrim
  · rename_i before percentage hfound
    obtain ⟨index, -, hbefore⟩ := findPercentage_eq_some hfound
    have hagain := length_trim_le before
    have hlength : before.length ≤ (trim component).length := by
      rw [← hbefore]
      exact List.length_take_le' index _
    dsimp only
    omega

end lengths

/-! ## Ranges -/

section ranges

theorem hexDigitValue_le (c : UInt16) : hexDigitValue c ≤ 15 := by
  unfold hexDigitValue JsonText.hexValue
  split
  · rename_i h
    have hlow : 48 ≤ c.toNat := h.1
    have hhigh : c.toNat ≤ 57 := h.2
    rw [Option.getD_some]
    omega
  · split
    · rename_i h
      have hlow : 97 ≤ c.toNat := h.1
      have hhigh : c.toNat ≤ 102 := h.2
      rw [Option.getD_some]
      omega
    · split
      · rename_i h
        have hlow : 65 ≤ c.toNat := h.1
        have hhigh : c.toNat ≤ 70 := h.2
        rw [Option.getD_some]
        omega
      · exact Nat.zero_le _

/-- Two digits are a channel. -/
theorem parseHex_isChannel (digits : JsString) : IsChannel (parseHex (digits.take 2)) := by
  have hle : parseHex (digits.take 2) ≤ 255 := by
    match digits with
    | [] => exact Nat.zero_le _
    | [a] =>
      have ha := hexDigitValue_le a
      change 16 * 0 + hexDigitValue a ≤ 255
      omega
    | a :: b :: rest =>
      have ha := hexDigitValue_le a
      have hb := hexDigitValue_le b
      change 16 * (16 * 0 + hexDigitValue a) + hexDigitValue b ≤ 255
      omega
  exact ⟨Nat.cast_nonneg _, by exact_mod_cast hle⟩

theorem parseHexColor_inRange {value : JsString} {red green blue : ℕ}
    (h : parseHexColor value = .ok (red, green, blue)) :
    Rgba.InRange ⟨red, green, blue, 1⟩ := by
  unfold parseHexColor at h
  split at h
  · cases h
    exact ⟨parseHex_isChannel _, parseHex_isChannel _, parseHex_isChannel _, by norm_num⟩
  · cases h

theorem parseFloat_nonneg {text : JsString} {percentage : ℚ}
    (h : parseFloat text = some percentage) : 0 ≤ percentage := by
  unfold parseFloat at h
  dsimp only at h
  split at h
  · cases h
  · split at h
    · cases h
      exact Nat.cast_nonneg _
    · split at h
      · cases h
        positivity
      · cases h

theorem percentageAt_nonneg {text : JsString} {percentage : ℚ}
    (h : percentageAt text = some percentage) : 0 ≤ percentage := by
  unfold percentageAt at h
  split at h
  · exact parseFloat_nonneg h
  · cases h

theorem splitColorAndPercentage_nonneg (component : JsString) :
    ∀ percentage ∈ (splitColorAndPercentage component).2, 0 ≤ percentage := by
  intro percentage h
  unfold splitColorAndPercentage at h
  split at h
  · cases h
  · rename_i before found hfound
    obtain ⟨index, hat, -⟩ := findPercentage_eq_some hfound
    cases h
    exact percentageAt_nonneg hat

theorem percentageOr_nonneg {percent : Option ℚ} (h : ∀ p ∈ percent, 0 ≤ p) (other : Option ℚ) :
    0 ≤ percentageOr percent other := by
  unfold percentageOr
  split
  · exact h _ rfl
  · norm_num
  · exact le_max_left _ _

/-- Two colours with their weights make a channel. -/
theorem mixChannel_isChannel {weightA weightB alphaA alphaB channelA channelB : ℚ}
    (hA : 0 ≤ weightA * alphaA) (hB : 0 ≤ weightB * alphaB) (ha : IsChannel channelA)
    (hb : IsChannel channelB) :
    IsChannel (mixChannel weightA weightB alphaA alphaB channelA channelB) := by
  unfold mixChannel
  dsimp only
  split
  · rename_i hpos
    have hmixA : weightA * alphaA * channelA ≤ weightA * alphaA * 255 :=
      mul_le_mul_of_nonneg_left ha.2 hA
    have hmixB : weightB * alphaB * channelB ≤ weightB * alphaB * 255 :=
      mul_le_mul_of_nonneg_left hb.2 hB
    constructor
    · exact div_nonneg (add_nonneg (mul_nonneg hA ha.1) (mul_nonneg hB hb.1)) hpos.le
    · rw [div_le_iff₀ hpos]
      linarith
  · exact ⟨le_rfl, by norm_num⟩

theorem mixSrgb_inRange {a b : Rgba} (ha : a.InRange) (hb : b.InRange)
    {percentA percentB : Option ℚ} (hA : ∀ p ∈ percentA, 0 ≤ p) (hB : ∀ p ∈ percentB, 0 ≤ p) :
    (mixSrgb a percentA b percentB).InRange := by
  have hp1 := percentageOr_nonneg hA percentB
  have hp2 := percentageOr_nonneg hB percentA
  unfold mixSrgb
  dsimp only
  generalize percentageOr percentA percentB = p1 at hp1
  generalize percentageOr percentB percentA = p2 at hp2
  split
  · exact ⟨⟨le_rfl, by norm_num⟩, ⟨le_rfl, by norm_num⟩, ⟨le_rfl, by norm_num⟩, le_rfl, by norm_num⟩
  · rename_i htotal
    have hpos : 0 < p1 + p2 := lt_of_le_of_ne (add_nonneg hp1 hp2) (Ne.symm htotal)
    have hw1 : 0 ≤ p1 / (p1 + p2) := div_nonneg hp1 hpos.le
    have hw2 : 0 ≤ p2 / (p1 + p2) := div_nonneg hp2 hpos.le
    have hsum : p1 / (p1 + p2) + p2 / (p1 + p2) = 1 := by
      rw [← add_div]
      exact div_self htotal
    generalize p1 / (p1 + p2) = weightA at hw1 hsum
    generalize p2 / (p1 + p2) = weightB at hw2 hsum
    have hmixA : 0 ≤ weightA * a.alpha := mul_nonneg hw1 ha.alpha.1
    have hmixB : 0 ≤ weightB * b.alpha := mul_nonneg hw2 hb.alpha.1
    have hmixed : weightA * a.alpha + weightB * b.alpha ≤ 1 := by
      have hleA : weightA * a.alpha ≤ weightA * 1 := mul_le_mul_of_nonneg_left ha.alpha.2 hw1
      have hleB : weightB * b.alpha ≤ weightB * 1 := mul_le_mul_of_nonneg_left hb.alpha.2 hw2
      linarith
    have hscale : 0 ≤ min 1 ((p1 + p2) / 100) :=
      le_min (by norm_num) (div_nonneg hpos.le (by norm_num))
    refine ⟨mixChannel_isChannel hmixA hmixB ha.red hb.red,
      mixChannel_isChannel hmixA hmixB ha.green hb.green,
      mixChannel_isChannel hmixA hmixB ha.blue hb.blue,
      mul_nonneg (add_nonneg hmixA hmixB) hscale, ?_⟩
    exact mul_le_one₀ hmixed hscale (min_le_left _ _)

/-- A colour over an opaque one. -/
theorem compositeOver_inRange {foreground : Rgba} (h : foreground.InRange) {backdrop : Rgb}
    (hbackdrop : backdrop.InRange) : (compositeOver foreground backdrop).InRange := by
  have hchannel : ∀ {x y : ℚ}, IsChannel x → IsChannel y →
      IsChannel (x * foreground.alpha + y * (1 - foreground.alpha)) := by
    intro x y hx hy
    have halpha := h.alpha.1
    have hrest : 0 ≤ 1 - foreground.alpha := sub_nonneg.2 h.alpha.2
    have hxle : x * foreground.alpha ≤ 255 * foreground.alpha :=
      mul_le_mul_of_nonneg_right hx.2 halpha
    have hyle : y * (1 - foreground.alpha) ≤ 255 * (1 - foreground.alpha) :=
      mul_le_mul_of_nonneg_right hy.2 hrest
    exact ⟨add_nonneg (mul_nonneg hx.1 halpha) (mul_nonneg hy.1 hrest), by linarith⟩
  exact ⟨hchannel h.red hbackdrop.red, hchannel h.green hbackdrop.green,
    hchannel h.blue hbackdrop.blue⟩

end ranges

/-! ## Answers -/

section answers

variable {α β : Type}

/-- There is an answer, and a value that it gives is as the condition says. -/
def Answers (P : α → Prop) (resolution : Resolution α) : Prop :=
  ∃ result : Except JsString α, resolution.run = some result ∧
    ∀ value, result = .ok value → P value

/-- Whatever the first answers, the second answers too. -/
def Extends (first second : Resolution α) : Prop :=
  ∀ result, first.run = some result → second.run = some result

theorem Answers.pure {P : α → Prop} {value : α} (h : P value) :
    Answers P (Pure.pure value : Resolution α) :=
  ⟨.ok value, rfl, fun _ heq => Except.ok.inj heq ▸ h⟩

theorem Answers.throw (P : α → Prop) (message : JsString) :
    Answers P (MonadExcept.throw message : Resolution α) :=
  ⟨.error message, rfl, fun _ heq => (nomatch heq)⟩

theorem Answers.failure (P : Rgba → Prop) (parts : List JsString) : Answers P (failure parts) :=
  Answers.throw P _

theorem Answers.bind {P : α → Prop} {Q : β → Prop} {first : Resolution α}
    {rest : α → Resolution β} (hfirst : Answers P first)
    (hrest : ∀ value, P value → Answers Q (rest value)) : Answers Q (first >>= rest) := by
  obtain ⟨result, hrun, hvalue⟩ := hfirst
  cases result with
  | error message =>
    refine ⟨.error message, ?_, fun _ heq => (nomatch heq)⟩
    rw [ExceptT.run_bind, hrun]
    rfl
  | ok value =>
    obtain ⟨behind, hbehind, hQ⟩ := hrest value (hvalue value rfl)
    refine ⟨behind, ?_, hQ⟩
    rw [ExceptT.run_bind, hrun]
    exact hbehind

theorem Extends.refl (resolution : Resolution α) : Extends resolution resolution :=
  fun _ h => h

theorem Extends.bind {first second : Resolution α} {rest rest' : α → Resolution β}
    (hfirst : Extends first second) (hrest : ∀ value, Extends (rest value) (rest' value)) :
    Extends (first >>= rest) (second >>= rest') := by
  intro result h
  rw [ExceptT.run_bind] at h ⊢
  cases hrun : first.run with
  | none =>
    rw [hrun] at h
    cases h
  | some answer =>
    rw [hrun] at h
    rw [hfirst answer hrun]
    cases answer with
    | error message => exact h
    | ok value => exact hrest value result h

end answers

/-! ## Termination -/

section termination

variable {rootVars : Record JsString JsString}

/-- The variables that were not entered. -/
def unseen (rootVars : Record JsString JsString) (seen : List JsString) : ℕ :=
  (rootVars.keys.toFinset \ seen.toFinset).card

theorem unseen_le_size (rootVars : Record JsString JsString) (seen : List JsString) :
    unseen rootVars seen ≤ rootVars.size := by
  calc unseen rootVars seen ≤ rootVars.keys.toFinset.card := Finset.card_le_card Finset.sdiff_subset
    _ ≤ rootVars.keys.length := rootVars.keys.toFinset_card_le
    _ = rootVars.size := List.length_map _

/-- A variable that is entered is one fewer. -/
theorem unseen_cons_lt {seen : List JsString} {name : JsString} (hkey : name ∈ rootVars.keys)
    (hseen : name ∉ seen) : unseen rootVars (name :: seen) < unseen rootVars seen := by
  refine Finset.card_lt_card ⟨?_, fun hsubset => ?_⟩
  · refine Finset.sdiff_subset_sdiff (Finset.Subset.refl _) fun other hother => ?_
    rw [List.toFinset_cons]
    exact Finset.mem_insert_of_mem hother
  · have hmem : name ∈ rootVars.keys.toFinset \ seen.toFinset :=
      Finset.mem_sdiff.2 ⟨List.mem_toFinset.2 hkey, fun h => hseen (List.mem_toFinset.1 h)⟩
    have hnot := (Finset.mem_sdiff.1 (hsubset hmem)).2
    rw [List.toFinset_cons] at hnot
    exact hnot (Finset.mem_insert_self _ _)

/-- What a call still has before it: the variables that were not entered, and then its text. -/
def weight (rootVars : Record JsString JsString) (bound : ℕ) (value : JsString)
    (seen : List JsString) : ℕ := unseen rootVars seen * (bound + 1) + value.length

variable {bound : ℕ} {resolve resolve' : Resolver} {value : JsString} {seen : List JsString}

/-- A shorter text has less before it. -/
theorem weight_lt_of_length {shorter : JsString} (h : shorter.length < value.length) :
    weight rootVars bound shorter seen < weight rootVars bound value seen :=
  Nat.add_lt_add_left h _

/-- So has the value of a variable that is entered. -/
theorem weight_lt_of_entered {name resolved : JsString} (hkey : name ∈ rootVars.keys)
    (hseen : name ∉ seen) (hlength : resolved.length ≤ bound) :
    weight rootVars bound resolved (name :: seen) < weight rootVars bound value seen := by
  have hless := Nat.mul_le_mul_right (bound + 1) (unseen_cons_lt hkey hseen)
  rw [Nat.succ_mul] at hless
  unfold weight
  omega

section calls

variable (hresolve : ∀ value' seen', value'.length ≤ bound →
  weight rootVars bound value' seen' < weight rootVars bound value seen →
    Answers Rgba.InRange (resolve value' seen'))

include hresolve

/-- `resolveVar` answers when the calls with less before them do. -/
theorem resolveVar_answers (hvalues : ∀ text ∈ rootVars.values, text.length ≤ bound)
    (hparenthesis : 40 ∈ value) (hvalue : value.length ≤ bound) :
    Answers Rgba.InRange (resolveVar rootVars resolve value seen) := by
  have hinner := length_inner_lt hparenthesis
  have hparts := sum_length_splitTopLevel (inner value) 44
  unfold resolveVar
  cases hsplit : splitTopLevel (inner value) 44 with
  | nil => exact Answers.failure _ _
  | cons rawName others =>
    rw [hsplit, List.map_cons, List.sum_cons] at hparts
    dsimp only
    split
    · exact Answers.failure _ _
    · split
      · exact Answers.failure _ _
      · rename_i hseen
        cases hget : rootVars.get? (withoutDashes (trim rawName)) with
        | some resolved =>
          have hlength := hvalues resolved ((rootVars.mem_values_iff resolved).2 ⟨_, hget⟩)
          have hkey := (rootVars.mem_keys_iff _).2 ⟨resolved, hget⟩
          exact hresolve _ _ hlength (weight_lt_of_entered hkey hseen hlength)
        | none =>
          dsimp only
          split
          · rename_i fallback hfallback
            split at hfallback
            · cases hfallback
              have htrim := length_trim_le (joinedBy [44] others)
              have hjoined := length_joinedBy_le 44 others
              split
              · exact hresolve _ _ (by omega) (weight_lt_of_length (by omega))
              · exact Answers.failure _ _
            · cases hfallback
          · exact Answers.failure _ _

/-- So does `resolveColorMix`. -/
theorem resolveColorMix_answers (hparenthesis : 40 ∈ value) (hvalue : value.length ≤ bound) :
    Answers Rgba.InRange (resolveColorMix resolve value seen) := by
  have hinner := length_inner_lt hparenthesis
  have hparts := sum_length_splitTopLevel (inner value) 44
  unfold resolveColorMix
  split
  · rename_i space componentA componentB hsplit
    rw [hsplit, List.map_cons, List.map_cons, List.map_cons, List.sum_cons, List.sum_cons,
      List.sum_cons] at hparts
    have hA := length_splitColorAndPercentage componentA
    have hB := length_splitColorAndPercentage componentB
    split
    · refine Answers.bind (hresolve _ _ (by omega) (weight_lt_of_length (by omega)))
        fun a ha => ?_
      refine Answers.bind (hresolve _ _ (by omega) (weight_lt_of_length (by omega)))
        fun b hb => ?_
      exact Answers.pure (mixSrgb_inRange ha hb (splitColorAndPercentage_nonneg componentA)
        (splitColorAndPercentage_nonneg componentB))
    · exact Answers.failure _ _
  · exact Answers.failure _ _

end calls

/-- A colour is resolved where as many calls may nest as it has before it. -/
theorem resolveRgba_answers (hvalues : ∀ text ∈ rootVars.values, text.length ≤ bound)
    {depth : ℕ} (hvalue : value.length ≤ bound) (hdepth : weight rootVars bound value seen < depth) :
    Answers Rgba.InRange (resolveRgba rootVars depth value seen) := by
  induction depth generalizing value seen with
  | zero => exact absurd hdepth (Nat.not_lt_zero _)
  | succ depth ih =>
    have htrim := length_trim_le value
    have hcalls : ∀ value' seen', value'.length ≤ bound →
        weight rootVars bound value' seen' < weight rootVars bound (trim value) seen →
          Answers Rgba.InRange (resolveRgba rootVars depth value' seen') := by
      intro value' seen' hlength hless
      refine ih hlength ?_
      unfold weight at hless hdepth ⊢
      omega
    rw [resolveRgba]
    split
    · exact Answers.pure ⟨⟨le_rfl, by norm_num⟩, ⟨le_rfl, by norm_num⟩, ⟨le_rfl, by norm_num⟩,
        le_rfl, by norm_num⟩
    · split
      · split
        · rename_i red green blue hparsed
          exact Answers.pure (parseHexColor_inRange hparsed)
        · exact Answers.throw _ _
      · split
        · rename_i hvar
          exact resolveVar_answers hcalls hvalues (parenthesis_mem (by decide) hvar)
            (by omega)
        · split
          · rename_i hmix
            exact resolveColorMix_answers hcalls (parenthesis_mem (by decide) hmix) (by omega)
          · exact Answers.failure _ _

section deeper

variable (hresolve : ∀ value' seen', Extends (resolve value' seen') (resolve' value' seen'))

include hresolve

theorem resolveVar_extends : Extends (resolveVar rootVars resolve value seen)
    (resolveVar rootVars resolve' value seen) := by
  unfold resolveVar
  split
  · exact Extends.refl _
  · split
    · exact Extends.refl _
    · dsimp only
      split
      · exact Extends.refl _
      · split
        · exact hresolve _ _
        · split
          · split
            · exact hresolve _ _
            · exact Extends.refl _
          · exact Extends.refl _

theorem resolveColorMix_extends : Extends (resolveColorMix resolve value seen)
    (resolveColorMix resolve' value seen) := by
  unfold resolveColorMix
  split
  · split
    · exact Extends.bind (hresolve _ _) fun a => Extends.bind (hresolve _ _) fun b =>
        Extends.refl _
    · exact Extends.refl _
  · exact Extends.refl _

end deeper

/-- An answer stays where more calls may nest. -/
theorem resolveRgba_extends_succ (rootVars : Record JsString JsString) (depth : ℕ)
    (value : JsString) (seen : List JsString) :
    Extends (resolveRgba rootVars depth value seen)
      (resolveRgba rootVars (depth + 1) value seen) := by
  induction depth generalizing value seen with
  | zero => exact fun result h => (nomatch h)
  | succ depth ih =>
    rw [resolveRgba, resolveRgba]
    split
    · exact Extends.refl _
    · split
      · exact Extends.refl _
      · split
        · exact resolveVar_extends ih
        · split
          · exact resolveColorMix_extends ih
          · exact Extends.refl _

theorem resolveRgba_extends (rootVars : Record JsString JsString) {depth deeper : ℕ}
    (h : depth ≤ deeper) (value : JsString) (seen : List JsString) :
    Extends (resolveRgba rootVars depth value seen) (resolveRgba rootVars deeper value seen) := by
  induction h with
  | refl => exact Extends.refl _
  | step _ ih => exact fun result hresult => resolveRgba_extends_succ _ _ _ _ _ (ih _ hresult)

/-- How deep the calls for a text nest: no deeper than there are variables and texts. -/
def callDepth (rootVars : Record JsString JsString) (value : JsString) : ℕ :=
  (rootVars.size + 1) * (value.length + (rootVars.values.map List.length).sum + 1)

theorem weight_lt_callDepth (rootVars : Record JsString JsString) (value : JsString)
    (seen : List JsString) :
    weight rootVars (value.length + (rootVars.values.map List.length).sum) value seen <
      callDepth rootVars value := by
  have hunseen := Nat.mul_le_mul_right (value.length + (rootVars.values.map List.length).sum + 1)
    (unseen_le_size rootVars seen)
  unfold weight callDepth
  rw [Nat.succ_mul]
  omega

/-- **Every colour is resolved**, to a colour in range or to an error, whatever the variables are:
from some depth of calls on, the answer is the same. -/
theorem resolveRgba_terminates (rootVars : Record JsString JsString) (value : JsString)
    (seen : List JsString) :
    ∃ result : Except JsString Rgba,
      (∀ depth, callDepth rootVars value ≤ depth →
        (resolveRgba rootVars depth value seen).run = some result) ∧
      ∀ color, result = .ok color → color.InRange := by
  have hvalues : ∀ text ∈ rootVars.values,
      text.length ≤ value.length + (rootVars.values.map List.length).sum := fun text htext =>
    (List.single_le_sum (fun _ _ => Nat.zero_le _) _ (List.mem_map_of_mem htext)).trans
      (Nat.le_add_left _ _)
  obtain ⟨result, hresult, hrange⟩ := resolveRgba_answers hvalues (Nat.le_add_right _ _)
    (weight_lt_callDepth rootVars value seen)
  exact ⟨result, fun depth hdepth => resolveRgba_extends rootVars hdepth value seen result hresult,
    hrange⟩

/-- A colour over an opaque backdrop is resolved to channels in range. -/
theorem resolveColor_answers (toFixed : ℚ → JsString) (rootVars : Record JsString JsString)
    {depth : ℕ} (value : JsString) (hdepth : callDepth rootVars value ≤ depth)
    {backdrop : Option Rgb} (hbackdrop : ∀ rgb ∈ backdrop, rgb.InRange) :
    Answers Rgb.InRange (resolveColor toFixed rootVars depth value backdrop) := by
  obtain ⟨result, hresult, hrange⟩ := resolveRgba_terminates rootVars value []
  refine Answers.bind ⟨result, hresult depth hdepth, hrange⟩ fun color hcolor => ?_
  split
  · exact Answers.pure ⟨hcolor.red, hcolor.green, hcolor.blue⟩
  · cases backdrop with
    | none => exact Answers.throw _ _
    | some rgb => exact Answers.pure (compositeOver_inRange hcolor (hbackdrop rgb rfl))

/-- A variable whose value is itself. -/
def sampleCycle : Record JsString JsString := .set .empty (js "--a") (js "var(--a)")

theorem resolveColor_answers_sample : Answers Rgb.InRange (resolveColor (fun _ => []) sampleCycle
    (callDepth sampleCycle (js "var(--a)")) (js "var(--a)") (some ⟨255, 255, 255⟩)) := by
  refine resolveColor_answers _ _ _ (le_refl _) fun rgb hrgb => ?_
  cases hrgb
  exact ⟨⟨by norm_num, le_refl _⟩, ⟨by norm_num, le_refl _⟩, ⟨by norm_num, le_refl _⟩⟩

end termination

end WcagColors
end Autopilot
