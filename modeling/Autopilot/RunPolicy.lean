/-
What a run may cost and what may be kept of a worker's output.

The tokens of a prompt are bounded by its bytes, so the budget of a run is fixed
by its prompt. What a worker printed or threw is redacted and cut before it is
stored. The redaction is a fixed list of patterns followed by a cut, and the
patterns are a parameter here, since no result depends on what they match.
-/
import Autopilot.Js

set_option autoImplicit false

namespace Autopilot

/-! ## `runPromptPolicy.ts` -/

def runPromptTokenHardCap : ℕ := 9000
def runPromptReviewThreshold : ℕ := 1000
def runOutputTokenAllowance : ℕ := 8192

/-- `conservativeRunPromptTokens`. -/
def conservativeRunPromptTokens (prompt : JsString) : ℕ := utf8Length prompt

/-- What `assertRunPromptPolicy` throws. -/
def runPromptRefusal (prompt : JsString) (reviewAcknowledged : Bool) : Option JsError :=
  let tokens := conservativeRunPromptTokens prompt
  if tokens ≥ runPromptTokenHardCap then some (JsError.new "run_prompt_token_cap_exceeded")
  else if tokens > runPromptReviewThreshold && !reviewAcknowledged then
    some (JsError.new "run_prompt_review_required")
  else none

/-- `canonicalRunTokenBudget`. -/
def canonicalRunTokenBudget (prompt : JsString) : ℕ :=
  conservativeRunPromptTokens prompt + runOutputTokenAllowance

/-! ## `workerOutputPolicy.ts` -/

def maxPersistedWorkerOutputChars : ℕ := 32000
def maxPersistedWorkerErrorChars : ℕ := 2000

/-- `sanitize`: redact, cut, and leave no half of a surrogate pair at the end. -/
def sanitize (redactPatterns : JsString → JsString) (value : JsString) (maxChars : ℕ) : JsString :=
  let sanitized := (redactPatterns value).take maxChars
  if sanitized.getLast?.any isHighSurrogate then sanitized.dropLast else sanitized

/-- `sanitizeWorkerOutput`. -/
def sanitizeWorkerOutput (redactPatterns : JsString → JsString) (value : JsString) : JsString :=
  sanitize redactPatterns value maxPersistedWorkerOutputChars

/-- `sanitizeWorkerError`, of a text. -/
def sanitizeWorkerError (redactPatterns : JsString → JsString) (value : JsString) : JsString :=
  sanitize redactPatterns value maxPersistedWorkerErrorChars

theorem sanitize_length_le (redactPatterns : JsString → JsString) (value : JsString)
    (maxChars : ℕ) : (sanitize redactPatterns value maxChars).length ≤ maxChars := by
  have hcut : ((redactPatterns value).take maxChars).length ≤ maxChars := by
    rw [List.length_take]
    exact Nat.min_le_left _ _
  unfold sanitize
  dsimp only
  split
  · rw [List.length_dropLast]
    omega
  · exact hcut

end Autopilot
