/-
The ledgers of the OpenRouter lane: `openRouterLedgerMigration.ts`, and the records
that `cliWorkerCapture.ts` appends to them.

A ledger is a file with a JSON record on each line. Ledgers from before the managed
state directory lie in the directory above it, and each worker run begins with
publishing a copy of them in the state directory. The legacy files stay where they
are.

What `Date.parse` makes of a text and the digests of `sha256` are parameters. A file
that is no regular file is only marked as such.
-/
import Autopilot.IncidentStore
import Autopilot.Lib.JsonReader
import Autopilot.Lib.Utf8

set_option autoImplicit false

namespace Autopilot.OpenRouterLedgers

open JsonText

/-! ## Ledgers -/

/-- `OPENROUTER_LEDGER_MAX_BYTES`. -/
def openrouterLedgerMaxBytes : ℕ := 4 * 1024 * 1024

/-- `OPENROUTER_LEDGER_MAX_RECORDS`. -/
def openrouterLedgerMaxRecords : ℕ := 20000

/-- `OpenRouterLedgerKind`. -/
inductive OpenRouterLedgerKind where
  | attempt
  | spend
  deriving DecidableEq

/-- `LEDGER_SPECS`, in the order they are gone through. -/
def ledgerSpecs : List OpenRouterLedgerKind := [.attempt, .spend]

/-- `OPENROUTER_ATTEMPT_COUNTER_FILE` and `OPENROUTER_SPEND_LEDGER_FILE`. -/
def OpenRouterLedgerKind.fileName : OpenRouterLedgerKind → JsString
  | .attempt => js "openrouter-api-attempts.jsonl"
  | .spend => js "openrouter-api-spend.jsonl"

/-- A path that a call of the migration looks at. The temporary files of a call carry
a number that no other call draws. -/
inductive LedgerPath (ι : Type) where
  | legacy (kind : OpenRouterLedgerKind)
  | managed (kind : OpenRouterLedgerKind)
  | temporary (call : ι) (kind : OpenRouterLedgerKind)
  deriving DecidableEq

/-- The ledger that the path is about. -/
def LedgerPath.kind {ι : Type} : LedgerPath ι → OpenRouterLedgerKind
  | legacy kind => kind
  | managed kind => kind
  | temporary _ kind => kind

/-- What the migration throws. -/
inductive MigrationError (ι : Type) where
  /-- The error of `openSync` when there is no file any more, or one already. -/
  | notFound (path : LedgerPath ι)
  | alreadyThere (path : LedgerPath ι)
  | unsafeFile (path : LedgerPath ι)
  | tooLarge (path : LedgerPath ι)
  | tooManyRecords (path : LedgerPath ι)
  | malformed (path : LedgerPath ι)
  | sourceChanged (path : LedgerPath ι)
  | verificationFailed (path : LedgerPath ι)
  /-- The conflict is seen before anything is published, or in publishing. -/
  | conflict (kind : OpenRouterLedgerKind)
  | conflictAt (path : LedgerPath ι)
  deriving DecidableEq

/-! ## What a ledger has to hold -/

/-- The lines of `text.split(/\r?\n/)`: the first one, and the others. -/
def splitLines : JsString → JsString × List JsString
  | [] => ([], [])
  | 10 :: rest => ([], (splitLines rest).1 :: (splitLines rest).2)
  | 13 :: 10 :: rest => ([], (splitLines rest).1 :: (splitLines rest).2)
  | c :: rest => (c :: (splitLines rest).1, (splitLines rest).2)

/-- The decimal is rounded to a finite number. -/
def isFinite (n : Decimal) : Bool :=
  if 0 ≤ n.scale then n.coefficient * 10 ^ n.scale.toNat < 2 ^ 1024 - 2 ^ 970
  else n.coefficient < (2 ^ 1024 - 2 ^ 970) * 10 ^ (-n.scale).toNat

/-- `value >= 0`: a negative decimal that is rounded to zero is no less than it. -/
def isNonNegative (n : Decimal) : Bool :=
  !n.negative ||
    (if 0 ≤ n.scale then n.coefficient * 10 ^ n.scale.toNat * 2 ^ 1075 ≤ 1
      else n.coefficient * 2 ^ 1075 ≤ 10 ^ (-n.scale).toNat)

/-- `isNonEmptyString`, with the string. -/
def nonEmptyString? : Option Value → Option JsString
  | some (.string s) => if s.length > 0 then some s else none
  | _ => none

/-- `value === text`, for a text. -/
def isText (value : Option Value) (text : JsString) : Bool :=
  match value with
  | some (.string s) => s = text
  | _ => false

/-- `isOpenRouterMode`. -/
def isOpenRouterMode (value : Option Value) : Bool :=
  isText value (js "qwen3_code_draft") || isText value (js "nemotron_planning")

section reading

variable {ι ν : Type} (dateParse : JsString → Option ℤ) (sha256 : List UInt8 → JsString)

/-- `isValidLedgerRecord`. -/
def isValidLedgerRecord (kind : OpenRouterLedgerKind) : Value → Bool
  | .object members =>
    isText (member members (js "schema_version")) (js "v1") &&
      (nonEmptyString? (member members (js "recorded_at"))).any (fun s => (dateParse s).isSome) &&
      (nonEmptyString? (member members (js "model"))).isSome &&
      isOpenRouterMode (member members (js "openrouter_mode")) &&
      match kind with
      | .attempt =>
        isText (member members (js "provider")) (js "openrouter") &&
          (nonEmptyString? (member members (js "task_packet_ref"))).isSome
      | .spend =>
        match member members (js "cost_usd") with
        | some (.number n) => isFinite n && isNonNegative n
        | _ => false
  | _ => false

/-- What is wrong with the text of a ledger. -/
inductive LedgerFlaw where
  | malformed
  | tooManyRecords
  deriving DecidableEq

/-- The loop of `validateJsonl`, after `recordCount` records. -/
def validateLines (kind : OpenRouterLedgerKind) : ℕ → List JsString → Except LedgerFlaw Unit
  | _, [] => .ok ()
  | recordCount, line :: rest =>
    if (trim line).length = 0 then validateLines kind recordCount rest
    else if recordCount + 1 > openrouterLedgerMaxRecords then .error .tooManyRecords
    else
      match parse line with
      | none => .error .malformed
      | some value =>
        if isValidLedgerRecord dateParse kind value then validateLines kind (recordCount + 1) rest
        else .error .malformed

/-- `validateJsonl`. -/
def validateJsonl (kind : OpenRouterLedgerKind) (bytes : List UInt8) : Except LedgerFlaw Unit :=
  if [0xef, 0xbb, 0xbf] <+: bytes then .error .malformed
  else
    match Utf8.decode bytes with
    | none => .error .malformed
    | some ledgerText =>
      validateLines dateParse kind 0 ((splitLines ledgerText).1 :: (splitLines ledgerText).2)

/-- The error about a ledger. -/
def LedgerFlaw.error (path : LedgerPath ι) : LedgerFlaw → MigrationError ι
  | malformed => .malformed path
  | tooManyRecords => .tooManyRecords path

/-- `ValidatedLedger`. The device and the number of the file are one value. -/
structure ValidatedLedger (ν : Type) where
  bytes : List UInt8
  hash : JsString
  inode : ν
  deriving DecidableEq

/-- A file as it lies on the disk. -/
structure LedgerFile where
  isFile : Bool
  bytes : List UInt8
  deriving DecidableEq

/-- The end of `readValidatedLedgerIfPresent`, once the bytes are read. -/
def validatedLedger (path : LedgerPath ι) (kind : OpenRouterLedgerKind) (bytes : List UInt8)
    (inode : ν) : Except (MigrationError ι) (ValidatedLedger ν) :=
  match validateJsonl dateParse kind bytes with
  | .error flaw => .error (flaw.error path)
  | .ok () => .ok ⟨bytes, sha256 bytes, inode⟩

/-- What `readValidatedLedgerIfPresent` does with a file that nobody changes. -/
def readLedger (path : LedgerPath ι) (kind : OpenRouterLedgerKind) (file : LedgerFile)
    (inode : ν) : Except (MigrationError ι) (ValidatedLedger ν) :=
  if ¬file.isFile then .error (.unsafeFile path)
  else if file.bytes.length > openrouterLedgerMaxBytes then .error (.tooLarge path)
  else validatedLedger dateParse sha256 path kind file.bytes inode

/-- The migration takes the file for a ledger. -/
def SoundLedger (kind : OpenRouterLedgerKind) (file : LedgerFile) : Prop :=
  file.isFile = true ∧ file.bytes.length ≤ openrouterLedgerMaxBytes ∧
    validateJsonl dateParse kind file.bytes = .ok ()

end reading

section plans

variable {ι ν : Type} [DecidableEq ν]

/-- `ledgersMatch`. -/
def ledgersMatch (left right : ValidatedLedger ν) : Bool :=
  left.bytes.length = right.bytes.length && left.hash = right.hash

/-- `sameSourceSnapshot`. -/
def sameSourceSnapshot (left right : ValidatedLedger ν) : Bool :=
  left.inode = right.inode && ledgersMatch left right && left.bytes = right.bytes

/-- `LedgerMigrationPlan`. -/
structure LedgerMigrationPlan (ν : Type) where
  legacy : Option (ValidatedLedger ν)
  managed : Option (ValidatedLedger ν)

/-- The plan of each ledger. -/
abbrev Plans (ν : Type) := OpenRouterLedgerKind → LedgerMigrationPlan ν

/-- The ledger is there in both places, and not the same. -/
def LedgerMigrationPlan.conflicts (plan : LedgerMigrationPlan ν) : Bool :=
  match plan.legacy, plan.managed with
  | some legacy, some managed => !ledgersMatch legacy managed
  | _, _ => false

/-- The ledger is to be published. -/
def LedgerMigrationPlan.pending (plan : LedgerMigrationPlan ν) : Bool :=
  plan.legacy.isSome && plan.managed.isNone

/-- `OpenRouterLedgerMigrationResult["status"]`. -/
inductive MigrationStatus where
  | notNeeded
  | migrated
  | alreadyMigrated
  deriving DecidableEq

/-- `OpenRouterLedgerMigrationResult`. -/
structure OpenRouterLedgerMigrationResult (ι : Type) where
  status : MigrationStatus
  migratedFiles : List (LedgerPath ι)
  retainedLegacyFiles : List (LedgerPath ι)

/-- What `ensureOpenRouterLedgersMigrated` returns after it published some ledgers. -/
def migrationResult (plans : Plans ν) (migrated : List OpenRouterLedgerKind) :
    OpenRouterLedgerMigrationResult ι where
  status :=
    if migrated.length > 0 then .migrated
    else if ledgerSpecs.any (fun kind => (plans kind).legacy.isSome || (plans kind).managed.isSome)
      then .alreadyMigrated
    else .notNeeded
  migratedFiles := migrated.map .managed
  retainedLegacyFiles :=
    (ledgerSpecs.filter fun kind => (plans kind).legacy.isSome).map .legacy

end plans

/-! ## A call on its own -/

section call

variable (dateParse : JsString → Option ℤ) (sha256 : List UInt8 → JsString)

/-- The ledgers of the directory above, and of the state directory. -/
structure LedgerFiles where
  legacy : OpenRouterLedgerKind → Option LedgerFile
  managed : OpenRouterLedgerKind → Option LedgerFile

/-- The ledgers are sound, and those that are there in both places match. -/
structure Migratable (files : LedgerFiles) : Prop where
  legacy : ∀ kind, ∀ file ∈ files.legacy kind, SoundLedger dateParse kind file
  managed : ∀ kind, ∀ file ∈ files.managed kind, SoundLedger dateParse kind file
  same : ∀ kind, ∀ legacy ∈ files.legacy kind, ∀ managed ∈ files.managed kind,
    legacy.bytes.length = managed.bytes.length ∧ sha256 legacy.bytes = sha256 managed.bytes

/-- A path of the only call. -/
abbrev OwnPath := LedgerPath Unit

/-- `readValidatedLedgerIfPresent`. -/
def readValidatedLedgerIfPresent (path : OwnPath) (kind : OpenRouterLedgerKind)
    (file : Option LedgerFile) :
    Except (MigrationError Unit) (Option (ValidatedLedger OwnPath)) :=
  match file with
  | none => .ok none
  | some file => (readLedger dateParse sha256 path kind file path).map some

/-- `buildMigrationPlan`. -/
def buildMigrationPlan (files : LedgerFiles) (kind : OpenRouterLedgerKind) :
    Except (MigrationError Unit) (LedgerMigrationPlan OwnPath) := do
  let legacy ←
    readValidatedLedgerIfPresent dateParse sha256 (.legacy kind) kind (files.legacy kind)
  let managed ←
    readValidatedLedgerIfPresent dateParse sha256 (.managed kind) kind (files.managed kind)
  return ⟨legacy, managed⟩

/-- The plan of each ledger, in order. -/
def buildMigrationPlans (files : LedgerFiles) :
    Except (MigrationError Unit) (Plans OwnPath) := do
  let attempt ← buildMigrationPlan dateParse sha256 files .attempt
  let spend ← buildMigrationPlan dateParse sha256 files .spend
  return fun
    | .attempt => attempt
    | .spend => spend

/-- `if (ledger === null || !ledgersMatch(source, ledger)) throw`. -/
def requireMatch (source : ValidatedLedger OwnPath) (ledger : Option (ValidatedLedger OwnPath))
    (error : MigrationError Unit) : Except (MigrationError Unit) Unit :=
  if ledger.any (ledgersMatch source) then .ok () else .error error

/-- `publishLedgerWithoutOverwrite`, and the ledgers it leaves. -/
def publishLedgerWithoutOverwrite (source : ValidatedLedger OwnPath) (kind : OpenRouterLedgerKind)
    (files : LedgerFiles) : Except (MigrationError Unit) (Bool × LedgerFiles) := do
  let temporary ← readValidatedLedgerIfPresent dateParse sha256 (.temporary () kind) kind
    (some ⟨true, source.bytes⟩)
  requireMatch source temporary (.verificationFailed (.managed kind))
  match files.managed kind with
  | some existing =>
    let existing ←
      readValidatedLedgerIfPresent dateParse sha256 (.managed kind) kind (some existing)
    requireMatch source existing (.conflictAt (.managed kind))
    return (false, files)
  | none =>
    let published ← readValidatedLedgerIfPresent dateParse sha256 (.managed kind) kind
      (some ⟨true, source.bytes⟩)
    requireMatch source published (.verificationFailed (.managed kind))
    return (true, { files with
      managed := Function.update files.managed kind (some ⟨true, source.bytes⟩) })

/-- The loop over the plans that publishes what is pending. -/
def publishPending (plans : Plans OwnPath) :
    List OpenRouterLedgerKind → LedgerFiles →
      Except (MigrationError Unit) (List OpenRouterLedgerKind × LedgerFiles)
  | [], files => .ok ([], files)
  | kind :: rest, files =>
    match (plans kind).legacy, (plans kind).managed with
    | some legacy, none => do
      let published ← publishLedgerWithoutOverwrite dateParse sha256 legacy kind files
      let more ← publishPending plans rest published.2
      return (if published.1 then kind :: more.1 else more.1, more.2)
    | _, _ => publishPending plans rest files

/-- `assertRetainedLegacySourcesUnchanged`. -/
def assertRetainedLegacySourcesUnchanged (plans : Plans OwnPath) (files : LedgerFiles) :
    List OpenRouterLedgerKind → Except (MigrationError Unit) Unit
  | [] => .ok ()
  | kind :: rest =>
    match (plans kind).legacy with
    | none => assertRetainedLegacySourcesUnchanged plans files rest
    | some legacy => do
      let current ← readValidatedLedgerIfPresent dateParse sha256 (.legacy kind) kind
        (files.legacy kind)
      if current.any (sameSourceSnapshot legacy) then
        assertRetainedLegacySourcesUnchanged plans files rest
      else .error (.sourceChanged (.legacy kind))

/-- `ensureOpenRouterLedgersMigrated`, and the ledgers it leaves where it returns. -/
def ensureOpenRouterLedgersMigrated (files : LedgerFiles) :
    Except (MigrationError Unit) (OpenRouterLedgerMigrationResult Unit × LedgerFiles) := do
  let plans ← buildMigrationPlans dateParse sha256 files
  match ledgerSpecs.find? fun kind => (plans kind).conflicts with
  | some kind => .error (.conflict kind)
  | none =>
    let published ← publishPending dateParse sha256 plans ledgerSpecs files
    assertRetainedLegacySourcesUnchanged dateParse sha256 plans published.2 ledgerSpecs
    return (migrationResult plans published.1, published.2)

end call

/-! ## The records the program appends -/

/-- `OpenRouterMode`. -/
inductive OpenRouterMode where
  | qwen3CodeDraft
  | nemotronPlanning
  deriving DecidableEq

def OpenRouterMode.text : OpenRouterMode → JsString
  | qwen3CodeDraft => js "qwen3_code_draft"
  | nemotronPlanning => js "nemotron_planning"

/-- `OPENROUTER_MODE_ALLOWED_MODELS`. -/
def openrouterModeAllowedModels : OpenRouterMode → List JsString
  | .qwen3CodeDraft => [js "qwen/qwen3-coder:free", js "poolside/laguna-m.1:free"]
  | .nemotronPlanning => [js "nvidia/nemotron-3-ultra-550b-a55b:free"]

/-- `OpenRouterWorkerConfig`, as `resolveOpenRouterWorkerConfig` gives it. -/
structure OpenRouterWorkerConfig where
  openrouterMode : OpenRouterMode
  model : JsString
  taskPacketRef : JsString
  modelAllowed : model ∈ openrouterModeAllowedModels openrouterMode
  taskPacketRefGiven : taskPacketRef ≠ []

/-- The text of a cost: a finite number that is not negative, as `String` spells it. -/
structure CostText where
  numeral : Numeral
  finite : isFinite numeral.decimal = true

/-- A record of an attempt, or of what a response cost. -/
inductive LedgerRecord where
  | attempt (recordedAt : Incidents.IsoTimestamp) (config : OpenRouterWorkerConfig)
  | spend (recordedAt : Incidents.IsoTimestamp) (config : OpenRouterWorkerConfig)
      (costUsd : CostText)

namespace LedgerRecord

/-- The ledger the record goes to. -/
def kind : LedgerRecord → OpenRouterLedgerKind
  | attempt .. => .attempt
  | spend .. => .spend

/-- The members of the record, in the order of `incrementOpenRouterAttemptBudget` and
`appendOpenRouterSpendLedgerBestEffort`. -/
def members : LedgerRecord → List (JsString × Scalar)
  | attempt recordedAt config =>
    [(js "schema_version", .string (js "v1")), (js "recorded_at", .string recordedAt.text),
      (js "provider", .string (js "openrouter")),
      (js "openrouter_mode", .string config.openrouterMode.text),
      (js "model", .string config.model), (js "task_packet_ref", .string config.taskPacketRef)]
  | spend recordedAt config costUsd =>
    [(js "schema_version", .string (js "v1")), (js "recorded_at", .string recordedAt.text),
      (js "model", .string config.model),
      (js "openrouter_mode", .string config.openrouterMode.text),
      (js "cost_usd", .number costUsd.numeral)]

/-- `JSON.stringify(record)`. -/
def text (record : LedgerRecord) : JsString := objectText record.members

/-- The bytes that are appended: the record and the end of its line. -/
def lineBytes (record : LedgerRecord) : List UInt8 := Utf8.encode (record.text ++ [10])

end LedgerRecord

/-- `appendStateFile` on a ledger: a ledger that is missing is made. -/
def appendRecord (record : LedgerRecord) (files : LedgerFiles) : LedgerFiles :=
  { files with
    managed := Function.update files.managed record.kind
      (some ⟨true, ((files.managed record.kind).elim [] (·.bytes)) ++ record.lineBytes⟩) }

end Autopilot.OpenRouterLedgers
