/-
The incident store, `incidentStore.ts`.

Incidents are recorded and acknowledged in one file. What is given is redacted and cut
before it is stored, and the reader accepts a text only if redacting it again changes
nothing. A writer reads the file, changes the document as a value and writes it back; it
checks the size of what it writes, and nothing else.

A document is kept as the value it is written from, since reading a written document
gives that value back: a half of a surrogate pair is written as an escape. What the types
of the source exclude is refused before anything is written and is left out.
-/
import Autopilot.Lib.Dict
import Autopilot.Lib.JsonText
import Autopilot.TelemetryRedaction

set_option autoImplicit false

namespace Autopilot

namespace Incidents

open Prog Keyed Redaction

/-! ## Incidents -/

/-- `IncidentSeverity`. -/
inductive IncidentSeverity where
  | low | medium | high | critical
  deriving DecidableEq, Repr

/-- `IncidentStatus`, whose first member is `open`. -/
inductive IncidentStatus where
  | opened | acknowledged
  deriving DecidableEq, Repr

/-- `AutopilotIncidentInput`. The entries of the correlation ids stand in the order in which
`Object.entries` gives them. -/
structure AutopilotIncidentInput where
  severity : IncidentSeverity
  stage : JsString
  summary : JsString
  correlationIds : Dict JsString JsString
  impact : JsString
  retryCount : JsNumber
  eventRefs : List JsString

/-- `AutopilotIncident`. -/
structure AutopilotIncident where
  incidentId : JsString
  recordedAt : JsString
  status : IncidentStatus
  acknowledgedAt : Option JsString
  acknowledgedBy : Option JsString
  severity : IncidentSeverity
  stage : JsString
  summary : JsString
  correlationIds : Dict JsString JsString
  impact : JsString
  retryCount : ℕ
  eventRefs : List JsString

/-- `AutopilotIncidentIdentity`. -/
structure AutopilotIncidentIdentity where
  incidentId : JsString
  recordedAt : JsString

def maxIncidents : ℕ := 256
def maxStoreBytes : ℕ := 2 * 1024 * 1024
def maxSummaryChars : ℕ := 2000
def maxTextChars : ℕ := 2000
def maxIdChars : ℕ := 200
def maxCorrelationIds : ℕ := 32
def maxEventRefs : ℕ := 32

/-! ## Shapes of texts -/

/-- The text has a unit for each of the tests, and they hold. -/
def fits : List (UInt16 → Bool) → JsString → Bool
  | [], [] => true
  | p :: ps, c :: cs => p c && fits ps cs
  | _, _ => false

theorem fits_length {pattern : List (UInt16 → Bool)} {value : JsString}
    (h : fits pattern value = true) : value.length = pattern.length := by
  induction pattern generalizing value with
  | nil =>
    cases value with
    | nil => rfl
    | cons c rest => cases h
  | cons p ps ih =>
    cases value with
    | nil => cases h
    | cons c rest =>
      rw [fits, Bool.and_eq_true] at h
      rw [List.length_cons, List.length_cons, ih h.2]

def isDigit (c : UInt16) : Bool := 48 ≤ c && c ≤ 57

/-- `[0-9a-f]`, in either case. -/
def isHex (c : UInt16) : Bool := isDigit c || (97 ≤ lowered c && lowered c ≤ 102)

/-- A unit as it stands. -/
def unit (c : UInt16) : UInt16 → Bool := fun d => d = c

/-- `INCIDENT_ID_PATTERN`. -/
def incidentIdPattern : List (UInt16 → Bool) :=
  List.replicate 8 isHex ++ [unit 45] ++ List.replicate 4 isHex ++
    [unit 45, fun c => 49 ≤ c && c ≤ 53] ++ List.replicate 3 isHex ++
    [unit 45, fun c => c = 56 || c = 57 || lowered c = 97 || lowered c = 98] ++
    List.replicate 3 isHex ++ [unit 45] ++ List.replicate 12 isHex

/-- `ISO_TIMESTAMP_PATTERN`. -/
def isoTimestampPattern : List (UInt16 → Bool) :=
  List.replicate 4 isDigit ++ [unit 45] ++ List.replicate 2 isDigit ++ [unit 45] ++
    List.replicate 2 isDigit ++ [unit 84] ++ List.replicate 2 isDigit ++
    [unit 58] ++ List.replicate 2 isDigit ++ [unit 58] ++
    List.replicate 2 isDigit ++ [unit 46] ++ List.replicate 3 isDigit ++
    [unit 90]

/-- The number that the digits from a place on stand for. -/
def numberAt (value : JsString) (start length : ℕ) : ℕ :=
  ((value.drop start).take length).foldl (fun n c => 10 * n + (c.toNat - 48)) 0

def daysInMonth (year month : ℕ) : ℕ :=
  if month = 2 then
    if year % 4 = 0 ∧ (year % 100 ≠ 0 ∨ year % 400 = 0) then 29 else 28
  else if month = 4 ∨ month = 6 ∨ month = 9 ∨ month = 11 then 30
  else 31

/-- `isIsoTimestamp`: a text of the pattern is what its date is written as when it is a date
of the calendar and a time of the day. -/
def isIsoTimestamp (value : JsString) : Bool :=
  fits isoTimestampPattern value &&
    (1 ≤ numberAt value 5 2 && numberAt value 5 2 ≤ 12 && 1 ≤ numberAt value 8 2 &&
      numberAt value 8 2 ≤ daysInMonth (numberAt value 0 4) (numberAt value 5 2) &&
      numberAt value 11 2 ≤ 23 && numberAt value 14 2 ≤ 59 && numberAt value 17 2 ≤ 59)

/-- What `new Date().toISOString()` gives. -/
structure IsoTimestamp where
  text : JsString
  iso : isIsoTimestamp text = true

/-! ## What the reader accepts -/

/-- `boundedString`. -/
def boundedString (value : JsString) (chars : ℕ) : Bool := value.length ≤ chars

/-- `isRedacted`. -/
def isRedacted (value : JsString) : Bool :=
  redactTelemetryText value (.ofNat value.length) = value

/-- `isBoundedStringRecord`. -/
def isBoundedStringRecord (value : Dict JsString JsString) : Bool :=
  value.entries.length ≤ maxCorrelationIds && value.entries.all fun (key, item) =>
    0 < key.length && key.length ≤ maxIdChars && boundedString item maxIdChars &&
      isRedacted key && isRedacted item

/-- `isBoundedStringList`. -/
def isBoundedStringList (value : List JsString) (count chars : ℕ) : Bool :=
  value.length ≤ count && value.all fun item => boundedString item chars && isRedacted item

/-- What the status of an incident says of its acknowledgement. -/
def acknowledgementFits (incident : AutopilotIncident) : Bool :=
  match incident.status with
  | .opened => incident.acknowledgedAt = none && incident.acknowledgedBy = none
  | .acknowledged => incident.acknowledgedAt ≠ none && incident.acknowledgedBy ≠ none

/-- `isIncident`. -/
def isIncident (incident : AutopilotIncident) : Bool :=
  boundedString incident.incidentId maxIdChars && fits incidentIdPattern incident.incidentId &&
    isRedacted incident.incidentId && boundedString incident.recordedAt maxIdChars &&
    isIsoTimestamp incident.recordedAt && isRedacted incident.recordedAt &&
    boundedString incident.stage maxIdChars && boundedString incident.summary maxSummaryChars &&
    boundedString incident.impact maxTextChars &&
    [incident.stage, incident.summary, incident.impact].all isRedacted &&
    incident.retryCount ≤ 1000 &&
    incident.acknowledgedAt.all (fun time => boundedString time maxIdChars &&
      isIsoTimestamp time && isRedacted time) &&
    incident.acknowledgedBy.all (fun owner => boundedString owner maxIdChars &&
      isRedacted owner) &&
    acknowledgementFits incident && isBoundedStringRecord incident.correlationIds &&
    isBoundedStringList incident.eventRefs maxEventRefs maxIdChars

/-- `validateDocument`. -/
def validateDocument (incidents : List AutopilotIncident) : Bool :=
  incidents.length ≤ maxIncidents && incidents.all isIncident &&
    decide (incidents.map (·.incidentId)).Nodup

/-! ## The text of a document -/

section json

/-- A line of `JSON.stringify(document, null, 2)` starts so. -/
def newLine (depth : ℕ) : JsString := 10 :: List.replicate (2 * depth) 32

/-- What stands in brackets, a line each. -/
def bracketed (opening closing : UInt16) (depth : ℕ) (items : List JsString) : JsString :=
  if items = [] then [opening, closing]
  else
    [opening] ++ [44].intercalate (items.map (newLine (depth + 1) ++ ·)) ++ newLine depth ++
      [closing]

def member (key : String) (value : JsString) : JsString :=
  JsonText.quoted (js key) ++ js ": " ++ value

def severityText : IncidentSeverity → JsString
  | .low => js "low"
  | .medium => js "medium"
  | .high => js "high"
  | .critical => js "critical"

def statusText : IncidentStatus → JsString
  | .opened => js "open"
  | .acknowledged => js "acknowledged"

def nullableText (value : Option JsString) : JsString :=
  (value.map JsonText.quoted).getD (js "null")

def incidentText (incident : AutopilotIncident) : JsString :=
  bracketed 123 125 2
    [member "incident_id" (JsonText.quoted incident.incidentId),
      member "recorded_at" (JsonText.quoted incident.recordedAt),
      member "status" (JsonText.quoted (statusText incident.status)),
      member "acknowledged_at" (nullableText incident.acknowledgedAt),
      member "acknowledged_by" (nullableText incident.acknowledgedBy),
      member "severity" (JsonText.quoted (severityText incident.severity)),
      member "stage" (JsonText.quoted incident.stage),
      member "summary" (JsonText.quoted incident.summary),
      member "correlation_ids" (bracketed 123 125 3 (incident.correlationIds.entries.map
        fun (key, item) => JsonText.quoted key ++ js ": " ++ JsonText.quoted item)),
      member "impact" (JsonText.quoted incident.impact),
      member "retry_count" (decimal incident.retryCount),
      member "event_refs" (bracketed 91 93 3 (incident.eventRefs.map JsonText.quoted))]

/-- The bytes of the file of a document. -/
def documentBytes (incidents : List AutopilotIncident) : ℕ :=
  utf8Length (bracketed 123 125 0
    [member "schema_version" (JsonText.quoted (js "v1")),
      member "incidents" (bracketed 91 93 1 (incidents.map incidentText))] ++ [10])

end json

/-! ## Reading and writing -/

/-- The file: missing, or with a document. -/
abbrev IncidentFile := Option (List AutopilotIncident)

/-- `readIncidentStore`. -/
def readIncidentStore : IncidentFile → Except JsError (List AutopilotIncident)
  | none => .ok []
  | some incidents =>
    if documentBytes incidents ≤ maxStoreBytes ∧ validateDocument incidents = true then
      .ok incidents
    else .error (JsError.new "invalid_incident_store")

/-- `writeIncidentStore`. -/
def writeIncidentStore (incidents : List AutopilotIncident) : Proc IncidentFile Unit :=
  if documentBytes incidents > maxStoreBytes then throw (JsError.new "invalid_incident_store")
  else Host.write fun _ => some incidents

/-- The loop of `boundedText`: the text is cut until its bytes fit. -/
def fittingEnd (value : JsString) (bytes : ℕ) : ℕ → ℕ
  | 0 => 0
  | stop + 1 =>
    if utf8Length (value.take (stop + 1)) > bytes then fittingEnd value bytes stop else stop + 1

/-- `boundedText`. -/
def boundedText (value : JsString) (chars : ℕ) : JsString :=
  let redacted := redactTelemetryText value (.ofNat chars)
  if utf8Length redacted ≤ chars then redacted
  else redacted.take (fittingEnd redacted chars redacted.length)

/-- `boundedTextList`. -/
def boundedTextList (value : List JsString) (count chars : ℕ) : List JsString :=
  (value.take count).map (boundedText · chars)

/-- `boundedCorrelationIds`. Two keys that are cut to one text are one key. -/
def boundedCorrelationIds (value : Dict JsString JsString) : Dict JsString JsString :=
  ((value.entries.take maxCorrelationIds).map fun (key, item) =>
    (boundedText key maxIdChars, boundedText item maxIdChars)).foldl
      (fun record entry => record.set entry.1 entry.2) Dict.empty

/-- `boundedRetryCount`. -/
def boundedRetryCount : JsNumber → Except JsError ℕ
  | .finite m k =>
    if m % 2 ^ k = 0 ∧ 0 ≤ m then .ok (min (m / 2 ^ k).toNat 1000)
    else .error (JsError.new "invalid_incident")
  | _ => .error (JsError.new "invalid_incident")

/-- `requireIncidentId`. -/
def requireIncidentId (value : JsString) : Except JsError JsString :=
  if fits incidentIdPattern value then .ok value else .error (JsError.new "invalid_incident")

/-- `requireRecordedAt`. -/
def requireRecordedAt (value : JsString) : Except JsError JsString :=
  if isIsoTimestamp value then .ok value else .error (JsError.new "invalid_incident")

/-- The incidents that are kept when one is added. -/
def recent (incidents : List AutopilotIncident) : List AutopilotIncident :=
  incidents.drop (incidents.length - maxIncidents)

/-- The incident of an input, whose identifier, time and count were checked. -/
def newIncident (incidentId recordedAt : JsString) (retryCount : ℕ)
    (input : AutopilotIncidentInput) : AutopilotIncident where
  incidentId := incidentId
  recordedAt := recordedAt
  status := .opened
  acknowledgedAt := none
  acknowledgedBy := none
  severity := input.severity
  stage := boundedText input.stage maxIdChars
  summary := boundedText input.summary maxSummaryChars
  correlationIds := boundedCorrelationIds input.correlationIds
  impact := boundedText input.impact maxTextChars
  retryCount := retryCount
  eventRefs := boundedTextList input.eventRefs maxEventRefs maxIdChars

/-- The identifier of an incident that is recorded: the given one, or a new one. -/
def identify (identity : Option AutopilotIncidentIdentity) : Proc IncidentFile JsString :=
  match identity with
  | some identity => pure identity.incidentId
  | none => do
    let uuid ← randomUUID
    return uuid.text

/-- `recordAutopilotIncident`. -/
def recordAutopilotIncident (input : AutopilotIncidentInput)
    (identity : Option AutopilotIncidentIdentity) (now : IsoTimestamp) :
    Proc IncidentFile AutopilotIncident := do
  let file ← Host.read
  let incidents ← ofExcept (readIncidentStore file)
  let drawnId ← identify identity
  let incidentId ← ofExcept (requireIncidentId drawnId)
  let recordedAt ← ofExcept (requireRecordedAt ((identity.map (·.recordedAt)).getD now.text))
  let retryCount ← ofExcept (boundedRetryCount input.retryCount)
  let incident := newIncident incidentId recordedAt retryCount input
  writeIncidentStore (recent (incidents ++ [incident]))
  return incident

/-- The incident after its acknowledgement. An earlier one stays. -/
def acknowledgedBy (current : AutopilotIncident) (owner : JsString) (now : IsoTimestamp) :
    AutopilotIncident :=
  { current with
    status := .acknowledged
    acknowledgedAt := some (current.acknowledgedAt.getD now.text)
    acknowledgedBy := some (current.acknowledgedBy.getD (boundedText owner maxIdChars)) }

/-- `acknowledgeIncident`. -/
def acknowledgeIncident (incidentId owner : JsString) (now : IsoTimestamp) :
    Proc IncidentFile AutopilotIncident := do
  let file ← Host.read
  let incidents ← ofExcept (readIncidentStore file)
  match lookup AutopilotIncident.incidentId incidents incidentId with
  | none => throw (JsError.new "incident_not_found")
  | some current =>
    let acknowledged := acknowledgedBy current owner now
    writeIncidentStore (incidents.map (put AutopilotIncident.incidentId acknowledged))
    return acknowledged

end Incidents

end Autopilot
