/-
What is read from the usage screen of a provider CLI.

The screen is a text of sections, each with a heading: the session, the week of all models, and the
week of a family. A window is a percentage behind its heading, with the time when it resets; a
family has a percentage only. Behind a heading the patterns skip as little as they can, and they
skip whatever there is, other headings as well.

This module is `parseClaudeUsage` with `terminalText` (`providerUsageProbe.ts`). The readers are
the parts of its patterns. A run of blanks or digits is read as a whole: where the pattern could
give units back, the unit behind the run does not go on with them, except in front of the time of a
reset. Percentages are exact rationals.
-/
import Autopilot.Lib.Dict
import Autopilot.Lib.JsonReader
import Autopilot.Lib.Searches
import Autopilot.PatternComponents
import Autopilot.TelemetryRedaction
import Mathlib.Data.Rat.Defs

set_option autoImplicit false

namespace Autopilot
namespace ClaudeUsage

open Patterns Searches

/-! ## The text of a terminal -/

/-- `MAX_CAPTURE_BYTES`, which counts units. -/
def maxCaptureBytes : ℕ := 128 * 1024

/-- `\x1B(?:[@-Z\\-_]|\[[0-?]*[ -\x2f]*[@-~])`. -/
def escapeSequence : Pattern UInt16 :=
  .seq (Redaction.exactly 0x1b) (.alt
    (.one fun c => (0x40 ≤ c && c ≤ 0x5a) || (0x5c ≤ c && c ≤ 0x5f))
    (.inOrder
      [Redaction.exactly 0x5b, .many (.one fun c => 0x30 ≤ c && c ≤ 0x3f),
        .many (.one fun c => 0x20 ≤ c && c ≤ 0x2f), .one fun c => 0x40 ≤ c && c ≤ 0x7e]))

/-- `terminalText`. -/
def terminalText (raw : JsString) : JsString :=
  (({ keep := .empty, drop := escapeSequence, put := [] } : Rule UInt16).replaceAll
    (raw.take maxCaptureBytes)).filter fun c => c ≠ 13

/-! ## Readers -/

/-- The units are the same letter, or the same. -/
def sameLetter (c d : UInt16) : Bool := Redaction.lowered c = Redaction.lowered d

/-- A word in either case. -/
def word (s : String) : Reader UInt16 Unit := literal sameLetter (js s)

/-- `\s+`. -/
def blanks : Reader UInt16 JsString := taken isWhitespace

/-- `[0-9]+`. -/
def digits : Reader UInt16 JsString := taken JsonText.isDigit

/-- `(?:\.[0-9]+)?`. -/
def fraction : Reader UInt16 JsString
  | [] => some ([], [])
  | c :: rest =>
    if c = 46 then
      match digits rest with
      | some (part, left) => some (c :: part, left)
      | none => some ([], c :: rest)
    else some ([], c :: rest)

/-- `([0-9]+(?:\.[0-9]+)?)%\s+used`. -/
def percentUsed : Reader UInt16 JsString :=
  digits.andThen fun whole => fraction.andThen fun part => (word "%").andThen fun _ =>
    blanks.andThen fun _ => (word "used").andThen fun _ => fun rest => some (whole ++ part, rest)

/-- A percentage, with `\s+Resets` behind it. -/
def percentResets : Reader UInt16 JsString :=
  percentUsed.andThen fun percent => blanks.andThen fun _ => (word "Resets").andThen fun _ =>
    fun rest => some (percent, rest)

/-- `[^\r\n]`. -/
def isInLine (c : UInt16) : Bool := c ≠ 13 && c ≠ 10

/-- `[^\r\n]+`. -/
def restOfLine : Reader UInt16 JsString := taken isInLine

/-- `\s+([^\r\n]+)`: as many blanks as can be, so that something is left on the line. -/
def behindBlanks : Reader UInt16 JsString := fun text =>
  (List.range' 1 (text.takeWhile isWhitespace).length).reverse.findSome? fun count =>
    restOfLine (text.drop count)

/-- `([0-9]+(?:\.[0-9]+)?)%\s+used\s+Resets\s+([^\r\n]+)`. -/
def figure : Reader UInt16 (JsString × JsString) :=
  percentResets.andThen fun percent => behindBlanks.andThen fun resets =>
    fun rest => some ((percent, resets), rest)

/-- `[A-Za-z0-9 .-]`. -/
def isLabelUnit (c : UInt16) : Bool :=
  PatternComponents.isLetter c || JsonText.isDigit c || c = 32 || c = 46 || c = 45

/-- `([A-Za-z][A-Za-z0-9 .-]{0,40})\)`. -/
def label : Reader UInt16 JsString := fun text =>
  match taken isLabelUnit text with
  | some (name, 41 :: rest) =>
    if name.head?.any PatternComponents.isLetter && name.length ≤ 41 then some (name, rest)
    else none
  | _ => none

/-- `Current week \((?!all models\))([A-Za-z][A-Za-z0-9 .-]{0,40})\)`. -/
def familyHeading : Reader UInt16 JsString :=
  (word "Current week (").andThen fun _ => fun rest =>
    if (word "all models)" rest).isSome then none else label rest

/-- A heading of a family, and the percentage behind it. -/
def familyUsage : Reader UInt16 (JsString × JsString) :=
  familyHeading.andThen fun name => percentUsed.later.andThen fun percent =>
    fun rest => some ((name, percent), rest)

/-! ## What is found -/

/-- What the patterns of the sections match: the windows, and the families with the place of their
heading, counted by the units that are left there. -/
structure Matches where
  session : Option (JsString × JsString)
  week : Option (JsString × JsString)
  families : List (ℕ × JsString × JsString)
  deriving DecidableEq

/-- `text.match` of a heading and what is behind it. -/
def windowMatch (heading : String) (text : JsString) : Option (JsString × JsString) :=
  (search ((word heading).andThen fun _ => figure.later) text).map fun found => found.2.1

/-- The matches of the sections. -/
def claudeMatches (text : JsString) : Matches where
  session := windowMatch "Current session" text
  week := windowMatch "Current week (all models)" text
  families := searchAll familyUsage (text.length + 1) text

/-- The places of a text, from left to right. -/
def placesFrom (before : List UInt16) : JsString → List (Place UInt16)
  | [] => [⟨before, []⟩]
  | c :: rest => ⟨before, c :: rest⟩ :: placesFrom (c :: before) rest

/-- The first match of a rule: its place, where the kept part ends, and where the match does. -/
def firstFound (r : Rule UInt16) (text : JsString) :
    Option (Place UInt16 × Place UInt16 × Place UInt16) :=
  (placesFrom [] text).findSome? fun z => (r.found z).map fun found => (z, found)

/-- What stands between two places. -/
def between (z e : Place UInt16) : JsString := z.after.take (z.after.length - e.after.length)

/-- `[A-Za-z]+\s+\d+(?:\.\d+)?`. -/
def modelName : Pattern UInt16 :=
  .inOrder
    [.many1 (.one PatternComponents.isLetter), Redaction.spaces1, .many1 (.one JsonText.isDigit),
      .optional (.inOrder [Redaction.exactly 46, .many1 (.one JsonText.isDigit)])]

/-- `^([A-Za-z]+\s+\d+(?:\.\d+)?)\s+\([^\r\n]*context\)\s+·\s+Claude`. -/
def headerLabel (text : JsString) : Option JsString :=
  (firstFound
    { keep := .inOrder [.look fun before _ => before.all Redaction.isLineEnd, modelName]
      drop := .inOrder
        [Redaction.spaces1, Redaction.exactly 40, .many (.one isInLine),
          Redaction.word "context", Redaction.exactly 41, Redaction.spaces1,
          Redaction.exactly 0xb7, Redaction.spaces1, Redaction.word "claude"]
      put := [] } text).map fun found => between found.1 found.2.1

/-- `Extended:\s+([A-Za-z]+\s+\d+(?:\.\d+)?)`. -/
def extendedLabel (text : JsString) : Option JsString :=
  (firstFound
    { keep := .inOrder [Redaction.word "extended:", Redaction.spaces1]
      drop := modelName
      put := [] } text).map fun found => between found.2.1 found.2.2

/-! ## Usage -/

/-- The number that a decimal says. -/
def decimalValue (value : JsString) : ℚ :=
  JsonText.digitsValue (value.filter fun c => c ≠ 46) /
    10 ^ ((value.dropWhile fun c => c ≠ 46).length - 1)

/-- `boundedPercent`: a number that no double is near is not finite, and counts as 0. -/
def boundedPercent (value : JsString) : ℚ :=
  if 2 ^ 1024 - 2 ^ 970 ≤ decimalValue value then 0 else max 0 (min 100 (decimalValue value))

/-- A window of usage; its limit is 100. -/
structure UsageWindow where
  limit : ℚ
  used : ℚ
  remaining : ℚ
  resetsAt : JsString
  deriving DecidableEq

/-- `usedPercentWindow`. -/
def usedPercentWindow (used : ℚ) (resetsAt : JsString) : UsageWindow where
  limit := 100
  used
  remaining := 100 - used
  resetsAt := (trim resetsAt).take 200

/-- `ParsedUsage`. -/
structure ParsedUsage where
  fiveHour : UsageWindow
  weekly : UsageWindow
  models : List (JsString × Bool)
  deriving DecidableEq

/-- `QUOTA_LABEL_TO_CANONICAL.claude_cli`. -/
def quotaLabels : List (JsString × List JsString) :=
  [(js "Opus 4.8", [js "claude-opus-4-8"]), (js "Fable 5", [js "claude-fable-5"]),
    (js "Opus 5", [js "claude-opus-5"]), (js "Sonnet 5", [js "claude-sonnet-5"]),
    (js "Haiku 4.5", [js "claude-haiku-4-5-20251001"]), (js "Fable", [js "claude-fable-5"]),
    (js "Opus", [js "claude-opus-5", js "claude-opus-4-8"]),
    (js "Sonnet", [js "claude-sonnet-5"]), (js "Haiku", [js "claude-haiku-4-5-20251001"])]

/-- `expandQuotaLabel`. -/
def expandQuotaLabel (name : JsString) : List JsString :=
  ((quotaLabels.find? fun entry => entry.1 = name).map fun entry => entry.2).getD []

/-- The models of a label become available, or no longer are. -/
def setAvailability (models : Dict JsString Bool) (labelled : JsString × Bool) :
    Dict JsString Bool :=
  (expandQuotaLabel labelled.1).foldl
    (fun models model => models.set model (((models.get model).getD true) && labelled.2)) models

/-- What is made of the matches. -/
def claudeUsage (text : JsString) (found : Matches) : Option ParsedUsage :=
  match found.session, found.week with
  | some session, some week =>
    let sessionUsed := boundedPercent session.1
    let weeklyUsed := boundedPercent week.1
    let sharedAvailable := decide (weeklyUsed < 100) && decide (sessionUsed < 100)
    let labelled :=
      ([headerLabel text, extendedLabel text].filterMap id).map (fun name => (name, sharedAvailable)) ++
      (found.families.take 32).map fun family =>
        (trim family.2.1,
          sharedAvailable && decide (boundedPercent family.2.2 < 100))
    some
      { fiveHour := usedPercentWindow sessionUsed session.2
        weekly := usedPercentWindow weeklyUsed week.2
        models := (labelled.foldl setAvailability Dict.empty).entries.take 256 }
  | _, _ => none

/-- `parseClaudeUsage`. -/
def parseClaudeUsage (raw : JsString) : Option ParsedUsage :=
  claudeUsage (terminalText raw) (claudeMatches (terminalText raw))

end ClaudeUsage
end Autopilot
