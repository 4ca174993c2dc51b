/-
The values of the language the control plane is written in.

A string is its list of UTF-16 code units, since `length`, `slice` and the field
bounds of the stores all count those. A number that crosses an interface is a
`JsNumber`: not-a-number, an infinity, or a dyadic rational `m / 2^k`, which
covers every finite double exactly. The stores only keep counts that went
through `safeCount` or a safe-integer check, so inside the stores a count is a
natural number.
-/
import Autopilot.Lib.Durable
import Mathlib.Data.UInt
import Mathlib.Tactic.IntervalCases

set_option autoImplicit false

namespace Autopilot

open Prog

/-! ## Strings -/

/-- A string, as its UTF-16 code units. -/
abbrev JsString := List UInt16

instance : LawfulBEq JsString := inferInstance

/-- A literal of the source; the literals are ASCII. -/
def js (s : String) : JsString := s.toList.map (fun c => c.toNat.toUInt16)

/-- A literal, unit by unit. A proof that evaluates a long one rewrites with this first, as
the bytes of a literal are read slowly. -/
theorem js_ofList (chars : List Char) :
    js (String.ofList chars) = chars.map (fun c => c.toNat.toUInt16) := by
  rw [js, String.toList_ofList]

theorem js_append (s t : String) : js (s ++ t) = js s ++ js t := by
  rw [js, String.toList_append, List.map_append, js, js]

/-- `MAX_FIELD_LENGTH` of the gateway. -/
def maxFieldLength : ℕ := 128

/-- `value.replace(/[\r\n\t]/g, " ")`. -/
def blankControls (s : JsString) : JsString :=
  s.map (fun c => if c = 13 ∨ c = 10 ∨ c = 9 then 32 else c)

/-- `bounded`: control blanks become spaces, the field is cut to its maximal
length, and an empty field is no field. -/
def bounded (value : Option JsString) : Option JsString :=
  value.bind fun s =>
    let clean := (blankControls s).take maxFieldLength
    if clean.length > 0 then some clean else none

/-- A short text without control blanks is kept as it is. -/
theorem bounded_eq_self {s : JsString} (hpos : 0 < s.length) (hlen : s.length ≤ maxFieldLength)
    (hplain : ∀ c ∈ s, 32 ≤ c) : bounded (some s) = some s := by
  have hclean : blankControls s = s := by
    unfold blankControls
    conv_rhs => rw [← List.map_id s]
    refine List.map_congr_left (fun c hc => if_neg ?_)
    have hc' := hplain c hc
    rintro (rfl | rfl | rfl) <;> exact absurd hc' (by decide)
  unfold bounded
  rw [Option.bind_some]
  dsimp only
  rw [hclean, List.take_of_length_le hlen, if_pos hpos]

/-- The code unit is the first, or the second, half of a surrogate pair. -/
def isHighSurrogate (c : UInt16) : Bool := 0xd800 ≤ c && c ≤ 0xdbff
def isLowSurrogate (c : UInt16) : Bool := 0xdc00 ≤ c && c ≤ 0xdfff

/-- `Buffer.byteLength(value, "utf8")`. Half a pair on its own is written as the
replacement character, which takes three bytes. -/
def utf8Length : JsString → ℕ
  | [] => 0
  | [c] => if c < 0x80 then 1 else if c < 0x800 then 2 else 3
  | c :: d :: rest =>
    if c < 0x80 then 1 + utf8Length (d :: rest)
    else if c < 0x800 then 2 + utf8Length (d :: rest)
    else if isHighSurrogate c && isLowSurrogate d then 4 + utf8Length rest
    else 3 + utf8Length (d :: rest)

/-- The digits of a number, the last one first read off `fuel` times. -/
def decimalDigits : ℕ → ℕ → JsString
  | 0, _ => []
  | fuel + 1, n =>
    if n < 10 then [(48 + n).toUInt16]
    else decimalDigits fuel (n / 10) ++ [(48 + n % 10).toUInt16]

/-- `String(n)`. -/
def decimal (n : ℕ) : JsString := decimalDigits (n + 1) n

/-- The units of a number are digits. -/
theorem decimalDigits_units {fuel n : ℕ} {c : UInt16} (h : c ∈ decimalDigits fuel n) :
    48 ≤ c ∧ c ≤ 57 := by
  induction fuel generalizing n with
  | zero => cases h
  | succ fuel ih =>
    unfold decimalDigits at h
    split at h
    · rename_i hn
      rw [List.mem_singleton] at h
      subst h
      interval_cases n <;> decide
    · rw [List.mem_append, List.mem_singleton] at h
      rcases h with h | rfl
      · exact ih h
      · have hd : n % 10 < 10 := Nat.mod_lt _ (by decide)
        interval_cases n % 10 <;> decide

/-- A digit is none of the blanks `bounded` replaces. -/
theorem decimalDigits_ge {fuel n : ℕ} {c : UInt16} (h : c ∈ decimalDigits fuel n) : 48 ≤ c :=
  (decimalDigits_units h).1

theorem decimalDigits_length_le {fuel n : ℕ} (h : n < 100) :
    (decimalDigits fuel n).length ≤ 2 := by
  rcases fuel with _ | _ | fuel
  · exact Nat.zero_le _
  · unfold decimalDigits
    split <;> simp [decimalDigits]
  · unfold decimalDigits
    split
    · simp
    · have hn : n / 10 < 10 := by omega
      simp [decimalDigits, hn]

theorem digit_injective {a b : ℕ} (ha : a < 10) (hb : b < 10)
    (h : (48 + a).toUInt16 = (48 + b).toUInt16) : a = b := by
  interval_cases a <;> interval_cases b <;> first | rfl | exact absurd h (by decide)

/-- With fuel enough the digits are those of one number only. -/
theorem decimalDigits_injective {fuel fuel' n m : ℕ} (hn : n < fuel) (hm : m < fuel')
    (h : decimalDigits fuel n = decimalDigits fuel' m) : n = m := by
  have hne : ∀ fuel n, n < fuel → decimalDigits fuel n ≠ [] := by
    rintro (_ | fuel) n hlt
    · omega
    · unfold decimalDigits
      split <;> simp
  induction fuel generalizing fuel' n m with
  | zero => omega
  | succ fuel ih =>
    rcases fuel' with _ | fuel'
    · omega
    unfold decimalDigits at h
    -- a number of one digit has a text of one unit, any other a longer one
    split at h <;> split at h
    · rename_i hn' hm'
      exact digit_injective hn' hm' (List.singleton_injective h)
    · have hlen := congrArg List.length h
      have := List.length_pos_of_ne_nil (hne fuel' (m / 10) (by omega))
      simp only [List.length_singleton, List.length_append] at hlen
      omega
    · have hlen := congrArg List.length h
      have := List.length_pos_of_ne_nil (hne fuel (n / 10) (by omega))
      simp only [List.length_singleton, List.length_append] at hlen
      omega
    · obtain ⟨hrest, hlast⟩ := List.append_inj' h rfl
      have hhigh := ih (by omega) (by omega) hrest
      have hlow := digit_injective (Nat.mod_lt n (by decide)) (Nat.mod_lt m (by decide))
        (List.singleton_injective hlast)
      omega

theorem decimal_injective {n m : ℕ} (h : decimal n = decimal m) : n = m :=
  decimalDigits_injective (Nat.lt_succ_self n) (Nat.lt_succ_self m) h

/-! ## Numbers -/

/-- A number: a finite one is `m / 2^k`. -/
inductive JsNumber where
  | nan
  | posInf
  | negInf
  | finite (m : ℤ) (k : ℕ)
  deriving DecidableEq, Repr

/-- `Number.MAX_SAFE_INTEGER`. -/
def maxSafeInteger : ℕ := 2 ^ 53 - 1

namespace JsNumber

def ofNat (n : ℕ) : JsNumber := .finite n 0

/-- `value === n` for an integer `n`. -/
def isNat (x : JsNumber) (n : ℕ) : Bool :=
  match x with
  | .finite m k => m = n * 2 ^ k
  | _ => false

/-- `Number.isSafeInteger(value) && value >= 0`, with the integer it is. -/
def nonNegativeSafeInteger? (x : JsNumber) : Option ℕ :=
  match x with
  | .finite m k =>
    if m % 2 ^ k = 0 ∧ 0 ≤ m ∧ (m / 2 ^ k).toNat ≤ maxSafeInteger then some (m / 2 ^ k).toNat
    else none
  | _ => none

/-- `Number.isSafeInteger(value)`, with the integer it is. -/
def safeInteger? (x : JsNumber) : Option ℤ :=
  match x with
  | .finite m k =>
    if m % 2 ^ k = 0 ∧ (m / 2 ^ k).natAbs ≤ maxSafeInteger then some (m / 2 ^ k) else none
  | _ => none

end JsNumber

/-- `safeCount`: the floor of a non-negative finite number, and 0 for anything
else. -/
def safeCount (x : JsNumber) : ℕ :=
  match x with
  | .finite m k => if 0 ≤ m then (m / 2 ^ k).toNat else 0
  | _ => 0

@[simp] theorem safeCount_ofNat (n : ℕ) : safeCount (.ofNat n) = n := by
  simp [safeCount, JsNumber.ofNat]

/-! ## Exceptions, identifiers and processes -/

/-- A thrown value: an `Error` with its class name and message, or a value that
is no `Error` at all. -/
inductive JsError where
  | error (name message : JsString)
  | other
  deriving DecidableEq, Repr

/-- `new Error(message)`. -/
def JsError.new (message : String) : JsError := .error (js "Error") (js message)

/-- `error.message`, for an `Error`. -/
def JsError.message? : JsError → Option JsString
  | .error _ message => some message
  | .other => none

/-- The text of `randomUUID()`: 36 characters, hexadecimal digits and hyphens. -/
def isUuidText (s : JsString) : Bool :=
  s.length = 36 && s.all (fun c => (48 ≤ c && c ≤ 57) || (97 ≤ c && c ≤ 102) || c = 45)

/-- A value of `randomUUID()`. -/
structure Uuid where
  text : JsString
  shape : isUuidText text = true
  deriving DecidableEq

theorem Uuid.length_text (uuid : Uuid) : uuid.text.length = 36 := by
  have hshape := uuid.shape
  simp only [isUuidText, Bool.and_eq_true, decide_eq_true_eq] at hshape
  exact hshape.1

/-- The units of an identifier are no blanks. -/
theorem Uuid.units (uuid : Uuid) {c : UInt16} (hc : c ∈ uuid.text) : 32 ≤ c := by
  have hshape := uuid.shape
  simp only [isUuidText, Bool.and_eq_true, decide_eq_true_eq, List.all_eq_true, Bool.or_eq_true]
    at hshape
  have hdigit : (32 : UInt16) ≤ 48 := by decide
  have hletter : (32 : UInt16) ≤ 97 := by decide
  have hhyphen : (32 : UInt16) ≤ 45 := by decide
  rcases hshape.2 c hc with (⟨hlow, -⟩ | ⟨hlow, -⟩) | rfl
  · exact UInt16.le_trans hdigit hlow
  · exact UInt16.le_trans hletter hlow
  · exact hhyphen

/-- The outside world of one process of the control plane. -/
abbrev Machine (σ : Type) := Host JsError Uuid σ

/-- A function of the source that reads and writes the state `σ`. -/
abbrev Proc (σ α : Type) := Prog (Fault JsError) (Machine σ) α

/-- `if (refused) throw error`. -/
def throwIf {σ : Type} (refused : Prop) [Decidable refused] (error : JsError) : Proc σ Unit :=
  if refused then throw error else pure ()

@[simp] theorem throwIf_run {σ : Type} (refused : Prop) [Decidable refused] (error : JsError)
    (h : Machine σ) :
    (throwIf refused error : Proc σ Unit) h
      = if refused then (.error (.thrown error), h) else (.ok (), h) := by
  unfold throwIf
  split <;> rfl

/-- A refusal in front of a program. -/
theorem throwIf_bind_run {σ α : Type} (refused : Prop) [Decidable refused] (error : JsError)
    (rest : Unit → Proc σ α) (h : Machine σ) :
    (throwIf refused error >>= rest) h
      = if refused then (.error (.thrown error), h) else rest () h := by
  rw [bind_run, throwIf_run]
  by_cases hr : refused
  · rw [if_pos hr, if_pos hr]
  · rw [if_neg hr, if_neg hr]

/-- A computation without state, run as a function of the source. -/
def ofExcept {σ α : Type} (result : Except JsError α) : Proc σ α :=
  match result with
  | .ok a => pure a
  | .error error => throw error

/-- A computation without state in front of a program. -/
theorem ofExcept_bind_run {σ α β : Type} (result : Except JsError α) (rest : α → Proc σ β)
    (h : Machine σ) :
    (ofExcept result >>= rest) h = match result with
      | .ok a => rest a h
      | .error error => (.error (.thrown error), h) := by
  cases result <;> rfl

/-- `randomUUID()`. It throws when the system's random source gives nothing. -/
def randomUUID {σ : Type} : Proc σ Uuid := Host.draw (JsError.new "ERR_CRYPTO_OPERATION_FAILED")

/-- Drawing an identifier in front of a program. -/
theorem randomUUID_bind_run {σ α : Type} (rest : Uuid → Proc σ α) (h : Machine σ) :
    (randomUUID >>= rest) h = match h.supply.next with
      | none => (.error (.thrown (JsError.new "ERR_CRYPTO_OPERATION_FAILED")), h)
      | some (uuid, supply) => rest uuid { h with supply := supply } := by
  rw [bind_run]
  unfold randomUUID Host.draw
  cases h.supply.next <;> rfl

end Autopilot
