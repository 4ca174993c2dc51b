/-
The redaction of telemetry texts, `telemetryRedaction.ts`.

Ten patterns are replaced one after the other, and the result is cut. The letters of
most patterns are matched in either case; that is a matter of the ASCII letters alone,
since no other unit folds to one of them without the Unicode flag. A word boundary is
one of ASCII words for the same reason.
-/
import Autopilot.Lib.Pattern
import Autopilot.SupervisorQueue

set_option autoImplicit false

namespace Autopilot

namespace Redaction

open Patterns Pattern

/-! ## Units -/

/-- A letter in lower case. -/
def lowered (c : UInt16) : UInt16 := if 65 ≤ c ∧ c ≤ 90 then c + 32 else c

/-- `\w`. -/
def isWordUnit (c : UInt16) : Bool :=
  (48 ≤ c && c ≤ 57) || (65 ≤ c && c ≤ 90) || (97 ≤ c && c ≤ 122) || c = 95

/-- A line terminator, which `.` does not match. -/
def isLineEnd (c : UInt16) : Bool := c = 10 || c = 13 || c = 0x2028 || c = 0x2029

def isUpperOrDigit (c : UInt16) : Bool := (65 ≤ c && c ≤ 90) || (48 ≤ c && c ≤ 57)

/-- `[A-Za-z0-9_-]`. -/
def isKeyUnit (c : UInt16) : Bool := isWordUnit c || c = 45

/-! ## Patterns -/

/-- A unit as it stands, and a unit in either case. -/
def exactly (c : UInt16) : Pattern UInt16 := one fun d => d = c
def either (c : UInt16) : Pattern UInt16 := one fun d => lowered d = c

/-- A text as it stands, and a text in either case. -/
def text (s : String) : Pattern UInt16 := inOrder ((js s).map exactly)
def word (s : String) : Pattern UInt16 := inOrder ((js s).map either)

/-- `\s*` and `\s+`. -/
def spaces : Pattern UInt16 := many (one isWhitespace)
def spaces1 : Pattern UInt16 := many1 (one isWhitespace)

/-- `\b`. -/
def boundary : Pattern UInt16 :=
  look fun before after => before.any isWordUnit != after.any isWordUnit

/-- `[_-]?`. -/
def joint : Pattern UInt16 := optional (one fun c => c = 95 || c = 45)

/-- `aws[_-]?(?:access[_-]?key[_-]?id|secret[_-]?access[_-]?key|session[_-]?token)`. -/
def awsKey : Pattern UInt16 :=
  inOrder [word "aws", joint, oneOf
    [inOrder [word "access", joint, word "key", joint, word "id"],
      inOrder [word "secret", joint, word "access", joint, word "key"],
      inOrder [word "session", joint, word "token"]]]

/-- `password|passwd|api[_-]?key|access[_-]?token|…`, but for the last of them. -/
def secretKeys : List (Pattern UInt16) :=
  [word "password", word "passwd", inOrder [word "api", joint, word "key"],
    inOrder [word "access", joint, word "token"], inOrder [word "refresh", joint, word "token"],
    inOrder [word "client", joint, word "secret"], inOrder [word "private", joint, word "key"]]

def cookieKeys : List (Pattern UInt16) := [word "cookie", word "set-cookie"]

/-- A text between quotes, with escapes: `"(?:\\.|[^"\\])*"` for its quote. -/
def quotedText (quote : UInt16) : Pattern UInt16 :=
  inOrder [exactly quote,
    many (alt (seq (exactly 92) (one fun c => ! isLineEnd c))
      (one fun c => c ≠ quote && c ≠ 92)),
    exactly quote]

/-- `"(?:\\.|[^"\\])*"|'(?:\\.|[^'\\])*'|[^\s,;]+`. -/
def assignedValue : Pattern UInt16 :=
  oneOf [quotedText 34, quotedText 39,
    many1 (one fun c => ! isWhitespace c && c ≠ 44 && c ≠ 59)]

/-- `\s*[:=]\s*`. -/
def assignment : Pattern UInt16 := inOrder [spaces, one fun c => c = 58 || c = 61, spaces]

def redacted : JsString := js "[REDACTED]"

/-! ## The rules, in their order -/

/-- `-----BEGIN\b[\s\S]*`, in either case. -/
def beginRule : Rule UInt16 where
  keep := empty
  drop := inOrder [word "-----begin", boundary, many (one fun _ => true)]
  put := redacted

/-- `(authorization\s*:\s*bearer\s+)[^\s]+`, in either case. -/
def bearerRule : Rule UInt16 where
  keep := inOrder [word "authorization", spaces, exactly 58, spaces, word "bearer", spaces1]
  drop := many1 (one fun c => ! isWhitespace c)
  put := redacted

/-- The members of a JSON text with the name of a secret, for either quote. -/
def memberRule (quote : UInt16) : Rule UInt16 where
  keep := inOrder [exactly quote,
    oneOf (word "authorization" :: secretKeys ++ cookieKeys ++ [awsKey]), exactly quote, spaces,
    exactly 58, spaces]
  drop := quotedText quote
  put := [quote] ++ redacted ++ [quote]

/-- `\b(cookie|set-cookie)(\s*:\s*)[^\r\n]*`, in either case. -/
def cookieHeaderRule : Rule UInt16 where
  keep := inOrder [boundary, oneOf cookieKeys, spaces, exactly 58, spaces]
  drop := many (one fun c => c ≠ 13 && c ≠ 10)
  put := redacted

/-- The rules for what is assigned to the name of a secret. -/
def assignedRule (keys : List (Pattern UInt16)) : Rule UInt16 where
  keep := inOrder [boundary, oneOf keys, assignment]
  drop := assignedValue
  put := redacted

def cookieRule : Rule UInt16 := assignedRule cookieKeys

def secretRule : Rule UInt16 := assignedRule (secretKeys ++ [awsKey])

/-- `\b(?:AKIA|ASIA)[A-Z0-9]{16}\b`. -/
def awsIdRule : Rule UInt16 where
  keep := empty
  drop := inOrder [boundary, oneOf [text "AKIA", text "ASIA"], times (one isUpperOrDigit) 16,
    boundary]
  put := redacted

/-- `\bgithub_pat_[A-Za-z0-9_]{8,}\b`. -/
def githubRule : Rule UInt16 where
  keep := empty
  drop := inOrder [boundary, text "github_pat_", atLeast (one isWordUnit) 8, boundary]
  put := redacted

def tokenLeads : List String :=
  ["sk", "or", "ghp", "gho", "ghu", "ghs", "ghr", "xoxb", "xoxa", "xoxp", "xoxr", "xoxs"]

/-- `\b(?:sk|or|ghp|…)[-_][A-Za-z0-9_-]{8,}\b`. -/
def tokenRule : Rule UInt16 where
  keep := empty
  drop := inOrder [boundary, oneOf (tokenLeads.map text), one fun c => c = 45 || c = 95,
    atLeast (one isKeyUnit) 8, boundary]
  put := redacted

def rules : List (Rule UInt16) :=
  [beginRule, bearerRule, memberRule 34, memberRule 39, cookieHeaderRule, cookieRule, secretRule,
    awsIdRule, githubRule, tokenRule]

/-- The text after all replacements. -/
def replaced (value : JsString) : JsString := rules.foldl (fun text r => r.replaceAll text) value

/-- The bound a call asks for. -/
def boundedMax : JsNumber → ℕ
  | .finite m k => (m / 2 ^ k).toNat
  | _ => 2000

@[simp] theorem boundedMax_ofNat (n : ℕ) : boundedMax (.ofNat n) = n := by
  simp [boundedMax, JsNumber.ofNat]

/-- `redactTelemetryText`. -/
def redactTelemetryText (value : JsString) (maxChars : JsNumber := .ofNat 2000) : JsString :=
  (replaced value).take (boundedMax maxChars)

/-! ## Texts without anything to redact -/

/-- The units of identifiers and of timestamps. -/
def isPlainUnit (c : UInt16) : Bool :=
  (48 ≤ c && c ≤ 57) || (65 ≤ c && c ≤ 70) || (97 ≤ c && c ≤ 102) || c = 45 || c = 46 ||
    c = 58 || c = 84 || c = 90

/-- The pattern takes a unit that is not plain. -/
structure NeedsOther (p : Pattern UInt16) : Prop where
  takes : p.Needs fun c => ¬ isPlainUnit c = true

theorem needsOther_exactly {c : UInt16} (hc : isPlainUnit c = false) :
    NeedsOther (exactly c) := by
  constructor
  intro d hd hplain
  rw [of_decide_eq_true hd, hc] at hplain
  cases hplain

theorem needsOther_either {c : UInt16} (hlower : isPlainUnit c = false)
    (hupper : isPlainUnit (c - 32) = false) : NeedsOther (either c) := by
  constructor
  intro d hd hplain
  have hlowered := of_decide_eq_true hd
  unfold lowered at hlowered
  split at hlowered
  · rw [← hlowered, UInt16.add_sub_cancel, hplain] at hupper
    cases hupper
  · rw [← hlowered, hplain] at hlower
    cases hlower

theorem needsOther_inOrder {ps : List (Pattern UInt16)} {p : Pattern UInt16} (hp : p ∈ ps)
    (hneeds : NeedsOther p) : NeedsOther (inOrder ps) := ⟨needs_inOrder ⟨p, hp, hneeds.takes⟩⟩

theorem needsOther_oneOf {ps : List (Pattern UInt16)} (h : ∀ p ∈ ps, NeedsOther p) :
    NeedsOther (oneOf ps) := ⟨needs_oneOf fun p hp => (h p hp).takes⟩

theorem needsOther_text {s : String} (h : (js s).any fun c => ! isPlainUnit c) :
    NeedsOther (text s) := by
  obtain ⟨c, hc, hother⟩ := List.any_eq_true.1 h
  rw [Bool.not_eq_true'] at hother
  exact needsOther_inOrder (List.mem_map_of_mem hc) (needsOther_exactly hother)

theorem needsOther_word {s : String}
    (h : (js s).any fun c => ! isPlainUnit c && ! isPlainUnit (c - 32)) :
    NeedsOther (word s) := by
  obtain ⟨c, hc, hother⟩ := List.any_eq_true.1 h
  rw [Bool.and_eq_true, Bool.not_eq_true', Bool.not_eq_true'] at hother
  exact needsOther_inOrder (List.mem_map_of_mem hc) (needsOther_either hother.1 hother.2)

/-- A pattern that starts with one that takes a unit that is not plain. -/
theorem needsOther_head {p : Pattern UInt16} {rest : List (Pattern UInt16)} (hp : NeedsOther p) :
    NeedsOther (inOrder (p :: rest)) := needsOther_inOrder List.mem_cons_self hp

theorem needsOther_second {p q : Pattern UInt16} {rest : List (Pattern UInt16)}
    (hq : NeedsOther q) : NeedsOther (inOrder (p :: q :: rest)) :=
  needsOther_inOrder (List.mem_cons_of_mem p List.mem_cons_self) hq

theorem needsOther_awsKey : NeedsOther awsKey := by
  have haws : NeedsOther (word "aws") := needsOther_word (by decide)
  exact needsOther_head haws

theorem needsOther_secretKeys {p : Pattern UInt16} (hp : p ∈ secretKeys) : NeedsOther p := by
  simp only [secretKeys, List.mem_cons, List.not_mem_nil, or_false] at hp
  rcases hp with h | h | h | h | h | h | h <;> rw [h]
  · exact needsOther_word (by decide)
  · exact needsOther_word (by decide)
  all_goals exact needsOther_head (needsOther_word (by decide))

theorem needsOther_cookieKeys {p : Pattern UInt16} (hp : p ∈ cookieKeys) : NeedsOther p := by
  simp only [cookieKeys, List.mem_cons, List.not_mem_nil, or_false] at hp
  rcases hp with h | h <;> rw [h]
  · exact needsOther_word (by decide)
  · exact needsOther_word (by decide)

theorem needsOther_assignedRule {keys : List (Pattern UInt16)}
    (hkeys : ∀ p ∈ keys, NeedsOther p) : NeedsOther (assignedRule keys).keep := by
  have hone : NeedsOther (oneOf keys) := needsOther_oneOf hkeys
  exact needsOther_second hone

theorem needsOther_memberRule (quote : UInt16) (hquote : isPlainUnit quote = false) :
    NeedsOther (memberRule quote).keep := by
  dsimp only [memberRule]
  exact needsOther_head (needsOther_exactly hquote)

theorem needsOther_cookieHeaderRule : NeedsOther cookieHeaderRule.keep := by
  have hkeys : NeedsOther (oneOf cookieKeys) := needsOther_oneOf fun p hp => needsOther_cookieKeys hp
  dsimp only [cookieHeaderRule]
  exact needsOther_second hkeys

theorem needsOther_secretRule : NeedsOther secretRule.keep := by
  apply needsOther_assignedRule
  intro p hp
  rw [List.mem_append, List.mem_singleton] at hp
  rcases hp with hp | hp
  · exact needsOther_secretKeys hp
  · rw [hp]
    exact needsOther_awsKey

theorem needsOther_awsIdRule : NeedsOther awsIdRule.drop := by
  have hleads : NeedsOther (oneOf [text "AKIA", text "ASIA"]) := by
    apply needsOther_oneOf
    intro p hp
    simp only [List.mem_cons, List.not_mem_nil, or_false] at hp
    rcases hp with h | h <;> rw [h]
    · exact needsOther_text (by decide)
    · exact needsOther_text (by decide)
  dsimp only [awsIdRule]
  exact needsOther_second hleads

theorem needsOther_tokenRule : NeedsOther tokenRule.drop := by
  have hall : tokenLeads.all fun lead => (js lead).any fun c => ! isPlainUnit c := by decide
  have hleads : NeedsOther (oneOf (tokenLeads.map text)) := by
    apply needsOther_oneOf
    intro p hp
    obtain ⟨lead, hlead, hp⟩ := List.mem_map.1 hp
    rw [← hp]
    apply needsOther_text
    exact List.all_eq_true.1 hall lead hlead
  dsimp only [tokenRule]
  exact needsOther_second hleads

/-- Every rule takes a unit that is not plain. -/
theorem needsOther_rules {r : Rule UInt16} (hr : r ∈ rules) :
    NeedsOther r.keep ∨ NeedsOther r.drop := by
  simp only [rules, List.mem_cons, List.not_mem_nil, or_false] at hr
  rcases hr with h | h | h | h | h | h | h | h | h | h <;> rw [h]
  · have hbegin : NeedsOther (word "-----begin") := needsOther_word (by decide)
    dsimp only [beginRule]
    exact .inr (needsOther_head hbegin)
  · have hauthorization : NeedsOther (word "authorization") := needsOther_word (by decide)
    dsimp only [bearerRule]
    exact .inl (needsOther_head hauthorization)
  · exact .inl (needsOther_memberRule 34 (by decide))
  · exact .inl (needsOther_memberRule 39 (by decide))
  · exact .inl needsOther_cookieHeaderRule
  · exact .inl (needsOther_assignedRule fun p hp => needsOther_cookieKeys hp)
  · exact .inl needsOther_secretRule
  · exact .inr needsOther_awsIdRule
  · have hlead : NeedsOther (text "github_pat_") := needsOther_text (by decide)
    dsimp only [githubRule]
    exact .inr (needsOther_second hlead)
  · exact .inr needsOther_tokenRule

theorem takes_rules {r : Rule UInt16} (hr : r ∈ rules) :
    (r.keep.Needs fun c => ¬ isPlainUnit c = true) ∨
      r.drop.Needs fun c => ¬ isPlainUnit c = true :=
  (needsOther_rules hr).imp NeedsOther.takes NeedsOther.takes

/-- A plain text is left as it is. -/
theorem replaced_eq_self {value : JsString} (hplain : value.all isPlainUnit = true) :
    replaced value = value := by
  have hunits : ∀ c ∈ value, ¬ ¬ isPlainUnit c = true := by
    intro c hc
    rw [not_not]
    exact List.all_eq_true.1 hplain c hc
  have hall : ∀ rs : List (Rule UInt16), (∀ r ∈ rs, r ∈ rules) →
      rs.foldl (fun text r => r.replaceAll text) value = value := by
    intro rs
    induction rs with
    | nil => exact fun _ => rfl
    | cons r rest ih =>
      intro hrs
      rw [List.foldl_cons, Rule.replaceAll_eq_self
        (takes_rules (hrs r List.mem_cons_self)) hunits]
      exact ih fun r' hr' => hrs r' (List.mem_cons_of_mem r hr')
  exact hall rules fun _ hr => hr

end Redaction

end Autopilot
