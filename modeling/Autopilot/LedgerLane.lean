/-
Worker runs one after the other on the ledgers of the OpenRouter lane.

Each run begins with the migration and then appends its records to the managed ledgers,
while the legacy ledgers stay as they are. The migration compares a managed ledger with
its legacy ledger at each run, and validates both. So the lane stays open as long as no
record goes to a ledger that has a legacy one, and the ledgers stay within the bounds of
the validator.
-/
import Autopilot.LedgerRecords

set_option autoImplicit false

namespace Autopilot.OpenRouterLedgers

open JsonText

/-! ## What the migration does -/

section migration

variable (dateParse : JsString → Option ℤ) (sha256 : List UInt8 → JsString)

/-- What is read from a sound ledger. -/
def ledgerOf (path : OwnPath) (file : LedgerFile) : ValidatedLedger OwnPath :=
  ⟨file.bytes, sha256 file.bytes, path⟩

/-- The plans for sound ledgers. -/
def plansOf (files : LedgerFiles) : Plans OwnPath := fun kind =>
  ⟨(files.legacy kind).map (ledgerOf sha256 (.legacy kind)),
    (files.managed kind).map (ledgerOf sha256 (.managed kind))⟩

/-- Nothing is left to migrate. -/
structure Migrated (files : LedgerFiles) : Prop extends Migratable dateParse sha256 files where
  published : ∀ kind, (files.legacy kind).isSome → (files.managed kind).isSome

/-- The managed ledger after the migration. -/
def publishedLedger (files : LedgerFiles) (kind : OpenRouterLedgerKind) : Option LedgerFile :=
  match files.managed kind with
  | some managed => some managed
  | none => (files.legacy kind).map fun legacy => ⟨true, legacy.bytes⟩

/-- The ledger of a kind is published. -/
def publishKind (files : LedgerFiles) (kind : OpenRouterLedgerKind) : LedgerFiles :=
  { files with managed := Function.update files.managed kind (publishedLedger files kind) }

/-- Both ledgers are published. -/
def publishAll (files : LedgerFiles) : LedgerFiles :=
  publishKind (publishKind files .attempt) .spend

/-- The ledgers that are published. -/
def pendingKinds (files : LedgerFiles) : List OpenRouterLedgerKind :=
  ledgerSpecs.filter fun kind => (plansOf sha256 files kind).pending

end migration

section spec

variable {dateParse : JsString → Option ℤ} {sha256 : List UInt8 → JsString} {files : LedgerFiles}
  {kind : OpenRouterLedgerKind} {path : OwnPath}

/-- A ledger is read just where there is none or a sound one. -/
theorem readValidated_ok_iff {file : Option LedgerFile}
    {ledger : Option (ValidatedLedger OwnPath)} :
    readValidatedLedgerIfPresent dateParse sha256 path kind file = .ok ledger ↔
      (∀ f ∈ file, SoundLedger dateParse kind f) ∧ ledger = file.map (ledgerOf sha256 path) := by
  cases file with
  | none =>
    unfold readValidatedLedgerIfPresent
    rw [Except.ok.injEq]
    constructor
    · rintro rfl
      exact ⟨fun f hf => absurd hf (Option.not_mem_none f), rfl⟩
    · rintro ⟨-, rfl⟩
      rfl
  | some file =>
    unfold readValidatedLedgerIfPresent readLedger validatedLedger SoundLedger
    dsimp only
    by_cases hfile : file.isFile = true
    · rw [if_neg (not_not_intro hfile)]
      by_cases hsize : file.bytes.length > openrouterLedgerMaxBytes
      · rw [if_pos hsize]
        refine ⟨nofun, fun h => ?_⟩
        have hle := (h.1 file rfl).2.1
        omega
      · rw [if_neg hsize]
        cases hvalid : validateJsonl dateParse kind file.bytes with
        | error flaw =>
          refine ⟨nofun, fun h => ?_⟩
          have hok := (h.1 file rfl).2.2
          rw [hvalid] at hok
          cases hok
        | ok _ =>
          constructor
          · intro h
            refine ⟨fun f hf => ?_, (Except.ok.inj h).symm⟩
            obtain rfl := Option.some.inj hf
            exact ⟨hfile, not_lt.1 hsize, hvalid⟩
          · rintro ⟨-, rfl⟩
            rfl
    · rw [if_pos hfile]
      refine ⟨nofun, fun h => ?_⟩
      exact absurd (h.1 file rfl).1 hfile

/-- A plan is made just of sound ledgers. -/
theorem buildMigrationPlan_ok_iff {plan : LedgerMigrationPlan OwnPath} :
    buildMigrationPlan dateParse sha256 files kind = .ok plan ↔
      ((∀ f ∈ files.legacy kind, SoundLedger dateParse kind f) ∧
        ∀ f ∈ files.managed kind, SoundLedger dateParse kind f) ∧
      plan = plansOf sha256 files kind := by
  have hlegacy := @readValidated_ok_iff dateParse sha256 kind (.legacy kind) (files.legacy kind)
  have hmanaged := @readValidated_ok_iff dateParse sha256 kind (.managed kind) (files.managed kind)
  unfold buildMigrationPlan
  cases hl : readValidatedLedgerIfPresent dateParse sha256 (.legacy kind) kind
      (files.legacy kind) with
  | error error =>
    refine ⟨nofun, fun h => ?_⟩
    have hread := hlegacy.2 ⟨h.1.1, rfl⟩
    rw [hl] at hread
    cases hread
  | ok legacy =>
    obtain ⟨hsound, rfl⟩ := hlegacy.1 hl
    cases hm : readValidatedLedgerIfPresent dateParse sha256 (.managed kind) kind
        (files.managed kind) with
    | error error =>
      refine ⟨nofun, fun h => ?_⟩
      have hread := hmanaged.2 ⟨h.1.2, rfl⟩
      rw [hm] at hread
      cases hread
    | ok managed =>
      obtain ⟨hsound', rfl⟩ := hmanaged.1 hm
      constructor
      · intro h
        exact ⟨⟨hsound, hsound'⟩, (Except.ok.inj h).symm⟩
      · rintro ⟨-, rfl⟩
        rfl

/-- All ledgers are sound. -/
def AllSound (dateParse : JsString → Option ℤ) (files : LedgerFiles) : Prop :=
  ∀ kind, (∀ f ∈ files.legacy kind, SoundLedger dateParse kind f) ∧
    ∀ f ∈ files.managed kind, SoundLedger dateParse kind f

theorem buildMigrationPlans_ok_iff {plans : Plans OwnPath} :
    buildMigrationPlans dateParse sha256 files = .ok plans ↔
      AllSound dateParse files ∧ plans = plansOf sha256 files := by
  have hattempt := @buildMigrationPlan_ok_iff dateParse sha256 files .attempt
  have hspend := @buildMigrationPlan_ok_iff dateParse sha256 files .spend
  unfold buildMigrationPlans
  cases ha : buildMigrationPlan dateParse sha256 files .attempt with
  | error error =>
    refine ⟨nofun, fun h => ?_⟩
    have hplan := hattempt.2 ⟨h.1 .attempt, rfl⟩
    rw [ha] at hplan
    cases hplan
  | ok attempt =>
    obtain ⟨hsound, rfl⟩ := hattempt.1 ha
    cases hs : buildMigrationPlan dateParse sha256 files .spend with
    | error error =>
      refine ⟨nofun, fun h => ?_⟩
      have hplan := hspend.2 ⟨h.1 .spend, rfl⟩
      rw [hs] at hplan
      cases hplan
    | ok spend =>
      obtain ⟨hsound', rfl⟩ := hspend.1 hs
      constructor
      · intro h
        refine ⟨fun kind => ?_, ?_⟩
        · cases kind with
          | attempt => exact hsound
          | spend => exact hsound'
        · rw [← Except.ok.inj h]
          funext kind
          cases kind <;> rfl
      · rintro ⟨-, rfl⟩
        refine congrArg Except.ok (funext fun kind => ?_)
        cases kind <;> rfl

/-- The digests of a ledger that is there in both places differ. -/
theorem conflicts_plansOf :
    (plansOf sha256 files kind).conflicts = false ↔
      ∀ legacy ∈ files.legacy kind, ∀ managed ∈ files.managed kind,
        legacy.bytes.length = managed.bytes.length ∧
          sha256 legacy.bytes = sha256 managed.bytes := by
  unfold LedgerMigrationPlan.conflicts plansOf
  cases hl : files.legacy kind with
  | none => simp
  | some legacy =>
    cases hm : files.managed kind with
    | none => simp
    | some managed =>
      simp only [Option.map_some, ledgersMatch, ledgerOf]
      simp

/-- The legacy ledgers are found as they were read. -/
theorem assertRetained_ok (hsound : AllSound dateParse files) {after : LedgerFiles}
    (hlegacy : after.legacy = files.legacy) (kinds : List OpenRouterLedgerKind) :
    assertRetainedLegacySourcesUnchanged dateParse sha256 (plansOf sha256 files) after kinds =
      .ok () := by
  induction kinds with
  | nil => rfl
  | cons kind kinds ih =>
    have hread : readValidatedLedgerIfPresent dateParse sha256 (.legacy kind) kind
        (files.legacy kind) = .ok _ :=
      readValidated_ok_iff.2 ⟨(hsound kind).1, rfl⟩
    rw [assertRetainedLegacySourcesUnchanged, hlegacy]
    cases hl : files.legacy kind with
    | none =>
      have hplan : (plansOf sha256 files kind).legacy = none := by
        unfold plansOf
        rw [hl]
        rfl
      rw [hplan]
      exact ih
    | some file =>
      have hplan : (plansOf sha256 files kind).legacy =
          some (ledgerOf sha256 (.legacy kind) file) := by
        unfold plansOf
        rw [hl]
        rfl
      have hsame : (some (ledgerOf sha256 (.legacy kind) file)).any
          (sameSourceSnapshot (ledgerOf sha256 (.legacy kind) file)) = true := by
        simp [sameSourceSnapshot, ledgersMatch]
      rw [hl] at hread
      rw [hplan]
      dsimp only
      rw [hread]
      show (if (some (ledgerOf sha256 (.legacy kind) file)).any
        (sameSourceSnapshot (ledgerOf sha256 (.legacy kind) file)) then _ else _) = _
      rw [if_pos hsame]
      exact ih

/-- A legacy ledger is published where there is no managed one. -/
theorem publishLedger_ok {file : LedgerFile} (hsound : SoundLedger dateParse kind file)
    (hlegacy : files.legacy kind = some file) (hfree : files.managed kind = none) :
    publishLedgerWithoutOverwrite dateParse sha256 (ledgerOf sha256 (.legacy kind) file) kind
      files = .ok (true, publishKind files kind) := by
  have hcopy : ∀ f ∈ some (⟨true, file.bytes⟩ : LedgerFile), SoundLedger dateParse kind f := by
    intro f hf
    obtain rfl := Option.some.inj hf
    exact ⟨rfl, hsound.2⟩
  have hmatch : ∀ (path : OwnPath) (error : MigrationError Unit),
      requireMatch (ledgerOf sha256 (.legacy kind) file)
        ((some (⟨true, file.bytes⟩ : LedgerFile)).map (ledgerOf sha256 path)) error =
          .ok () := by
    intro path error
    have hboth : ((some (⟨true, file.bytes⟩ : LedgerFile)).map (ledgerOf sha256 path)).any
        (ledgersMatch (ledgerOf sha256 (.legacy kind) file)) = true := by
      simp [ledgersMatch, ledgerOf]
    unfold requireMatch
    rw [if_pos hboth]
  have hledger : publishedLedger files kind = some ⟨true, file.bytes⟩ := by
    unfold publishedLedger
    rw [hfree, hlegacy]
    rfl
  unfold publishLedgerWithoutOverwrite publishKind
  rw [hledger, hfree]
  dsimp only [ledgerOf]
  rw [readValidated_ok_iff.2 ⟨hcopy, rfl⟩, readValidated_ok_iff.2 ⟨hcopy, rfl⟩]
  show (requireMatch (ledgerOf sha256 (.legacy kind) file) _ _ >>= fun _ =>
    requireMatch (ledgerOf sha256 (.legacy kind) file) _ _ >>= fun _ => _) = _
  rw [hmatch, hmatch]
  rfl

theorem publishKind_managed : (publishKind files kind).managed =
    Function.update files.managed kind (publishedLedger files kind) := rfl

/-- Where nothing is pending nothing changes. -/
theorem publishKind_eq_self (h : (files.managed kind).isSome ∨ files.legacy kind = none) :
    publishKind files kind = files := by
  have hledger : publishedLedger files kind = files.managed kind := by
    unfold publishedLedger
    cases hm : files.managed kind with
    | some managed => rfl
    | none =>
      rcases h with hsome | hnone
      · rw [hm] at hsome
        cases hsome
      · rw [hnone]
        rfl
  unfold publishKind
  rw [hledger, Function.update_eq_self]

/-- One round of the loop that publishes. -/
theorem publishPending_cons (hsound : AllSound dateParse files) {current : LedgerFiles}
    (hlegacy : current.legacy = files.legacy) (hmanaged : current.managed kind = files.managed kind)
    (rest : List OpenRouterLedgerKind) :
    publishPending dateParse sha256 (plansOf sha256 files) (kind :: rest) current =
      (publishPending dateParse sha256 (plansOf sha256 files) rest
        (publishKind current kind)).map fun more =>
          (if (plansOf sha256 files kind).pending then kind :: more.1 else more.1, more.2) := by
  have hmap : ∀ result : Except (MigrationError Unit) (List OpenRouterLedgerKind × LedgerFiles),
      result = result.map fun more => (more.1, more.2) := by
    rintro (error | more) <;> rfl
  rw [publishPending]
  cases hl : files.legacy kind with
  | none =>
    have hplan : (plansOf sha256 files kind).legacy = none := by
      unfold plansOf
      rw [hl]
      rfl
    have hpending : (plansOf sha256 files kind).pending = false := by
      unfold LedgerMigrationPlan.pending
      rw [hplan]
      rfl
    rw [hplan, hpending, publishKind_eq_self (.inr (by rw [hlegacy, hl]))]
    exact hmap _
  | some file =>
    have hplan : (plansOf sha256 files kind).legacy =
        some (ledgerOf sha256 (.legacy kind) file) := by
      unfold plansOf
      rw [hl]
      rfl
    cases hm : files.managed kind with
    | some managed =>
      have hplan' : (plansOf sha256 files kind).managed =
          some (ledgerOf sha256 (.managed kind) managed) := by
        unfold plansOf
        rw [hm]
        rfl
      have hpending : (plansOf sha256 files kind).pending = false := by
        unfold LedgerMigrationPlan.pending
        rw [hplan, hplan']
        rfl
      rw [hplan, hplan', hpending,
        publishKind_eq_self (.inl (by rw [hmanaged, hm]; rfl))]
      exact hmap _
    | none =>
      have hplan' : (plansOf sha256 files kind).managed = none := by
        unfold plansOf
        rw [hm]
        rfl
      have hpending : (plansOf sha256 files kind).pending = true := by
        unfold LedgerMigrationPlan.pending
        rw [hplan, hplan']
        rfl
      have hpublish : publishLedgerWithoutOverwrite dateParse sha256 _ kind current = .ok _ :=
        publishLedger_ok ((hsound kind).1 file hl) (by rw [hlegacy, hl]) (by rw [hmanaged, hm])
      rw [hplan, hplan', hpending]
      dsimp only
      rw [hpublish]
      show (publishPending dateParse sha256 (plansOf sha256 files) rest
        (publishKind current kind) >>= fun more => _) = _
      cases publishPending dateParse sha256 (plansOf sha256 files) rest
        (publishKind current kind) <;> rfl

/-- The loop publishes what is pending. -/
theorem publishPending_ok (hsound : AllSound dateParse files) :
    publishPending dateParse sha256 (plansOf sha256 files) ledgerSpecs files =
      .ok (pendingKinds sha256 files, publishAll files) := by
  have hother : (publishKind files .attempt).managed .spend = files.managed .spend := by
    rw [publishKind_managed, Function.update_of_ne (by decide)]
  have hlegacy : (publishKind files .attempt).legacy = files.legacy := rfl
  unfold ledgerSpecs
  rw [publishPending_cons hsound rfl rfl, publishPending_cons hsound hlegacy hother]
  unfold pendingKinds publishAll ledgerSpecs
  rw [List.filter_cons, List.filter_cons, List.filter_nil]
  cases (plansOf sha256 files .attempt).pending <;>
    cases (plansOf sha256 files .spend).pending <;> rfl

/-- **The migration returns just where the ledgers are sound and in no conflict**, and
then it has published what was pending. -/
theorem ensure_ok_iff {outcome : OpenRouterLedgerMigrationResult Unit × LedgerFiles} :
    ensureOpenRouterLedgersMigrated dateParse sha256 files = .ok outcome ↔
      Migratable dateParse sha256 files ∧
      outcome = (migrationResult (plansOf sha256 files) (pendingKinds sha256 files),
        publishAll files) := by
  have hplans := @buildMigrationPlans_ok_iff dateParse sha256 files
  unfold ensureOpenRouterLedgersMigrated
  cases hp : buildMigrationPlans dateParse sha256 files with
  | error error =>
    refine ⟨nofun, fun h => ?_⟩
    have hread := hplans.2 ⟨fun kind => ⟨h.1.legacy kind, h.1.managed kind⟩, rfl⟩
    rw [hp] at hread
    cases hread
  | ok plans =>
    obtain ⟨hsound, rfl⟩ := hplans.1 hp
    dsimp only [bind, Except.bind]
    cases hfind : ledgerSpecs.find? fun kind => (plansOf sha256 files kind).conflicts with
    | some kind =>
      refine ⟨nofun, fun h => ?_⟩
      have hconflict := List.find?_some hfind
      have hnone := conflicts_plansOf.2 (h.1.same kind)
      rw [hnone] at hconflict
      cases hconflict
    | none =>
      have hsame : ∀ kind, (plansOf sha256 files kind).conflicts = false := by
        intro kind
        have hnot := List.find?_eq_none.1 hfind kind (by cases kind <;> decide)
        exact Bool.not_eq_true _ ▸ hnot
      have hretained : assertRetainedLegacySourcesUnchanged dateParse sha256
          (plansOf sha256 files) (publishAll files) ledgerSpecs = .ok () :=
        assertRetained_ok hsound rfl ledgerSpecs
      dsimp only
      rw [publishPending_ok hsound]
      show ((assertRetainedLegacySourcesUnchanged dateParse sha256 (plansOf sha256 files)
        (publishAll files) ledgerSpecs) >>= fun _ => _) = _ ↔ _
      rw [hretained]
      constructor
      · intro h
        exact ⟨⟨fun kind => (hsound kind).1, fun kind => (hsound kind).2,
          fun kind => conflicts_plansOf.1 (hsame kind)⟩, (Except.ok.inj h).symm⟩
      · rintro ⟨-, rfl⟩
        rfl

end spec

/-! ## Worker runs -/

section lane

variable (dateParse : JsString → Option ℤ) (sha256 : List UInt8 → JsString)

/-- What a call of the migration returns or throws. -/
abbrev CallOutcome := Except (MigrationError Unit) (OpenRouterLedgerMigrationResult Unit)

/-- The records of a run are appended, in order. -/
def appendRecords (records : List LedgerRecord) (files : LedgerFiles) : LedgerFiles :=
  records.foldl (fun files record => appendRecord record files) files

/-- The `openrouter_api` branch of `runCliWorker`: the migration, and where it returns the
records of the attempts and of what they cost. -/
def workerRun (records : List LedgerRecord) (files : LedgerFiles) : CallOutcome × LedgerFiles :=
  match ensureOpenRouterLedgersMigrated dateParse sha256 files with
  | .error error => (.error error, files)
  | .ok (result, migrated) => (.ok result, appendRecords records migrated)

/-- What the calls of the migration give in worker runs one after the other. -/
def workerRuns : List (List LedgerRecord) → LedgerFiles → List CallOutcome
  | [], _ => []
  | records :: rest, files =>
    (workerRun dateParse sha256 records files).1 ::
      workerRuns rest (workerRun dateParse sha256 records files).2

/-- The lane is open: the call returns, and had nothing to migrate. -/
def LaneOpen (outcome : CallOutcome) : Prop :=
  ∃ result, outcome = .ok result ∧ result.status ≠ .migrated

/-- The bytes of a managed ledger. -/
def managedBytes (files : LedgerFiles) (kind : OpenRouterLedgerKind) : List UInt8 :=
  (files.managed kind).elim [] (·.bytes)

/-- A record may be appended: its ledger has no legacy one, ends with its last line, and
has room for the record. -/
def Fits (files : LedgerFiles) (record : LedgerRecord) : Prop :=
  files.legacy record.kind = none ∧
    (∃ text, Utf8.decode (managedBytes files record.kind) = some text ∧ EndsLine text ∧
      recordCount (linesOf text) < openrouterLedgerMaxRecords) ∧
    (managedBytes files record.kind).length + record.lineBytes.length ≤ openrouterLedgerMaxBytes

/-- Each record fits where it is appended. -/
def AllFit : List LedgerRecord → LedgerFiles → Prop
  | [], _ => True
  | record :: rest, files => Fits files record ∧ AllFit rest (appendRecord record files)

/-- The records of all runs fit where they are appended. -/
def RunsFit : List (List LedgerRecord) → LedgerFiles → Prop
  | [], _ => True
  | records :: rest, files =>
    (∀ outcome, ensureOpenRouterLedgersMigrated dateParse sha256 files = .ok outcome →
      AllFit records outcome.2) ∧
    RunsFit rest (workerRun dateParse sha256 records files).2

end lane

section runs

variable {dateParse : JsString → Option ℤ} {sha256 : List UInt8 → JsString} {files : LedgerFiles}

theorem workerRun_ok (records : List LedgerRecord)
    {outcome : OpenRouterLedgerMigrationResult Unit × LedgerFiles}
    (h : ensureOpenRouterLedgersMigrated dateParse sha256 files = .ok outcome) :
    workerRun dateParse sha256 records files =
      (.ok outcome.1, appendRecords records outcome.2) := by
  unfold workerRun
  rw [h]

theorem workerRun_error {records : List LedgerRecord} {error : MigrationError Unit}
    (h : ensureOpenRouterLedgersMigrated dateParse sha256 files = .error error) :
    workerRun dateParse sha256 records files = (.error error, files) := by
  unfold workerRun
  rw [h]

theorem appendRecords_singleton (record : LedgerRecord) (files : LedgerFiles) :
    appendRecords [record] files = appendRecord record files := rfl

theorem publishAll_managed (kind : OpenRouterLedgerKind) :
    (publishAll files).managed kind = publishedLedger files kind := by
  have hspend : publishedLedger (publishKind files .attempt) .spend =
      publishedLedger files .spend := by
    unfold publishedLedger
    rw [publishKind_managed, Function.update_of_ne (by decide)]
    rfl
  unfold publishAll
  rw [publishKind_managed, hspend]
  cases kind with
  | attempt =>
    rw [Function.update_of_ne (by decide), publishKind_managed, Function.update_self]
  | spend => rw [Function.update_self]

/-- After the migration nothing is left to migrate. -/
theorem Migratable.publishAll (h : Migratable dateParse sha256 files) :
    Migrated dateParse sha256 (publishAll files) := by
  have hcases : ∀ kind, ∀ file ∈ (OpenRouterLedgers.publishAll files).managed kind,
      file ∈ files.managed kind ∨
        ∃ legacy ∈ files.legacy kind, file = ⟨true, legacy.bytes⟩ := by
    intro kind file hfile
    rw [publishAll_managed] at hfile
    unfold publishedLedger at hfile
    cases hm : files.managed kind with
    | some managed =>
      rw [hm] at hfile
      exact .inl hfile
    | none =>
      rw [hm] at hfile
      obtain ⟨legacy, hlegacy, heq⟩ := Option.map_eq_some_iff.1 hfile
      exact .inr ⟨legacy, hlegacy, heq.symm⟩
  refine ⟨⟨h.legacy, fun kind file hfile => ?_, fun kind legacy hlegacy managed hmanaged => ?_⟩,
    fun kind hsome => ?_⟩
  · rcases hcases kind file hfile with hold | ⟨legacy, hlegacy, rfl⟩
    · exact h.managed kind file hold
    · exact ⟨rfl, (h.legacy kind legacy hlegacy).2⟩
  · rcases hcases kind managed hmanaged with hold | ⟨other, hother, rfl⟩
    · exact h.same kind legacy hlegacy managed hold
    · obtain rfl := Option.some.inj (Eq.trans (Eq.symm hlegacy) hother)
      exact ⟨rfl, rfl⟩
  · rw [publishAll_managed]
    unfold publishedLedger
    cases files.managed kind with
    | some managed => rfl
    | none =>
      rw [Option.isSome_map]
      exact hsome

/-- Where nothing is left to migrate a call returns and changes nothing. -/
theorem Migrated.ensure (h : Migrated dateParse sha256 files) :
    ∃ result, ensureOpenRouterLedgersMigrated dateParse sha256 files = .ok (result, files) ∧
      result.status ≠ .migrated := by
  have hsettled : ∀ kind, (files.managed kind).isSome ∨ files.legacy kind = none := by
    intro kind
    cases hl : files.legacy kind with
    | none => exact .inr rfl
    | some legacy => exact .inl (h.published kind (Option.isSome_of_mem hl))
  have hfiles : publishAll files = files := by
    unfold publishAll
    rw [publishKind_eq_self (hsettled .attempt), publishKind_eq_self (hsettled .spend)]
  have hpending : pendingKinds sha256 files = [] := by
    unfold pendingKinds
    rw [List.filter_eq_nil_iff]
    intro kind _
    unfold LedgerMigrationPlan.pending plansOf
    rw [Bool.and_eq_true, not_and, Option.isSome_map, Option.isNone_map]
    intro hsome
    have hthere := h.published kind hsome
    rw [Option.isNone_iff_eq_none]
    intro hnone
    rw [hnone] at hthere
    cases hthere
  have hensure := ensure_ok_iff.2 ⟨h.toMigratable, rfl⟩
  rw [hfiles] at hensure
  refine ⟨_, hensure, ?_⟩
  unfold migrationResult
  rw [hpending]
  dsimp only
  rw [if_neg (by decide)]
  split <;> decide

theorem appendRecord_managed (record : LedgerRecord) (files : LedgerFiles) :
    (appendRecord record files).managed record.kind =
      some ⟨true, managedBytes files record.kind ++ record.lineBytes⟩ :=
  Function.update_self ..

/-- **A record that fits leaves nothing to migrate.** -/
theorem Migrated.append (hdate : ∀ time : Incidents.IsoTimestamp, (dateParse time.text).isSome)
    (h : Migrated dateParse sha256 files) {record : LedgerRecord} (hfits : Fits files record) :
    Migrated dateParse sha256 (appendRecord record files) := by
  obtain ⟨hlegacy, ⟨text, htext, hends, hroom⟩, hsize⟩ := hfits
  have hbytes : validateJsonl dateParse record.kind (managedBytes files record.kind) = .ok () := by
    unfold managedBytes
    cases hm : files.managed record.kind with
    | none => exact validateJsonl_nil
    | some file => exact (h.managed record.kind file hm).2.2
  have hsound : SoundLedger dateParse record.kind
      ⟨true, managedBytes files record.kind ++ record.lineBytes⟩ := by
    refine ⟨rfl, ?_, validateJsonl_append hdate record hbytes htext hends hroom⟩
    rw [List.length_append]
    exact hsize
  have hself := appendRecord_managed record files
  have hother : ∀ kind ≠ record.kind,
      (appendRecord record files).managed kind = files.managed kind :=
    fun kind hne => Function.update_of_ne hne ..
  refine ⟨⟨h.legacy, fun kind file hfile => ?_, fun kind legacy hl managed hm => ?_⟩,
    fun kind hsome => ?_⟩
  · by_cases hkind : kind = record.kind
    · subst hkind
      rw [hself] at hfile
      obtain rfl := Option.some.inj hfile
      exact hsound
    · rw [hother kind hkind] at hfile
      exact h.managed kind file hfile
  · -- the ledger that grows has no legacy one
    by_cases hkind : kind = record.kind
    · subst hkind
      have hnone : files.legacy record.kind = some legacy := hl
      rw [hlegacy] at hnone
      cases hnone
    · rw [hother kind hkind] at hm
      exact h.same kind legacy hl managed hm
  · by_cases hkind : kind = record.kind
    · subst hkind
      rw [hself]
      rfl
    · rw [hother kind hkind]
      exact h.published kind hsome

theorem Migrated.appendAll
    (hdate : ∀ time : Incidents.IsoTimestamp, (dateParse time.text).isSome)
    {records : List LedgerRecord} (h : Migrated dateParse sha256 files)
    (hfit : AllFit records files) : Migrated dateParse sha256 (appendRecords records files) := by
  induction records generalizing files with
  | nil => exact h
  | cons record rest ih => exact ih (h.append hdate hfit.1) hfit.2

/-- Once nothing is left to migrate, every later call finds the lane open. -/
theorem Migrated.lane (hdate : ∀ time : Incidents.IsoTimestamp, (dateParse time.text).isSome)
    {runs : List (List LedgerRecord)} (h : Migrated dateParse sha256 files)
    (hfit : RunsFit dateParse sha256 runs files) :
    ∀ outcome ∈ workerRuns dateParse sha256 runs files, LaneOpen outcome := by
  induction runs generalizing files with
  | nil => exact fun _ houtcome => absurd houtcome List.not_mem_nil
  | cons records rest ih =>
    obtain ⟨result, hensure, hstatus⟩ := h.ensure
    have hrun := workerRun_ok records hensure
    obtain ⟨hrecords, hrest⟩ := hfit
    intro outcome houtcome
    rw [hrun] at hrest
    rw [workerRuns, hrun] at houtcome
    rcases List.mem_cons.1 houtcome with rfl | hlater
    · exact ⟨result, rfl, hstatus⟩
    · exact ih (h.appendAll hdate (hrecords _ hensure)) hrest outcome hlater

/-- **The lane stays open while the records fit.** Once the first call of the migration
has returned, every later call returns with nothing to migrate, in worker runs whose
records go to ledgers that have no legacy one and keep within the bounds of the
validator. -/
theorem lane_stays_open
    (hdate : ∀ time : Incidents.IsoTimestamp, (dateParse time.text).isSome)
    {records : List LedgerRecord} {rest : List (List LedgerRecord)}
    {first : OpenRouterLedgerMigrationResult Unit × LedgerFiles}
    (hfirst : ensureOpenRouterLedgersMigrated dateParse sha256 files = .ok first)
    (hfit : RunsFit dateParse sha256 (records :: rest) files) :
    ∀ outcome ∈ workerRuns dateParse sha256 rest
      (workerRun dateParse sha256 records files).2, LaneOpen outcome := by
  obtain ⟨hmigratable, rfl⟩ := ensure_ok_iff.1 hfirst
  obtain ⟨hrecords, hrest⟩ := hfit
  rw [workerRun_ok _ hfirst] at hrest ⊢
  exact (hmigratable.publishAll.appendAll hdate (hrecords _ hfirst)).lane hdate hrest

theorem LedgerRecord.lineBytes_pos (record : LedgerRecord) : 0 < record.lineBytes.length := by
  have hbreak : Utf8.Paired ([10] : JsString) := .unit (by decide) (by decide) .nil
  have hdecode := Utf8.decode_encode (record.printed.paired.append hbreak)
  refine List.length_pos_of_ne_nil fun hnil => ?_
  unfold LedgerRecord.lineBytes at hnil
  rw [hnil, Utf8.decode_nil] at hdecode
  have htext := congrArg List.length (Option.some.inj hdecode)
  rw [List.length_append, List.length_singleton, List.length_nil] at htext
  omega

/-- **A record that goes to a ledger with a legacy one closes the lane.** Where nothing was
left to migrate, the migration throws after it. -/
theorem Migrated.closed (h : Migrated dateParse sha256 files) (record : LedgerRecord)
    (hlegacy : (files.legacy record.kind).isSome) :
    ∃ error, ensureOpenRouterLedgersMigrated dateParse sha256 (appendRecord record files) =
      .error error := by
  cases hensure : ensureOpenRouterLedgersMigrated dateParse sha256
      (appendRecord record files) with
  | error error => exact ⟨error, rfl⟩
  | ok outcome =>
    obtain ⟨legacy, hl⟩ := Option.isSome_iff_exists.1 hlegacy
    obtain ⟨managed, hm⟩ := Option.isSome_iff_exists.1 (h.published record.kind hlegacy)
    have hbytes : managedBytes files record.kind = managed.bytes := by
      unfold managedBytes
      rw [hm]
      rfl
    -- the managed ledger has become longer than the legacy one
    have hlength := (h.same record.kind legacy hl managed hm).1
    have hsame := ((ensure_ok_iff.1 hensure).1.same record.kind legacy hl _
      (appendRecord_managed record files)).1
    have hpos := record.lineBytes_pos
    rw [hbytes, List.length_append] at hsame
    omega

end runs

/-- No ledger is there. -/
def noLedgers : LedgerFiles := ⟨fun _ => none, fun _ => none⟩

theorem noLedgers_migratable : Migratable sampleDateParse sampleDigest noLedgers :=
  ⟨fun _ f hf => absurd hf (Option.not_mem_none f), fun _ f hf => absurd hf (Option.not_mem_none f),
    fun _ f hf => absurd hf (Option.not_mem_none f)⟩

/-- Without legacy ledgers an attempt is recorded, and the next call returns. -/
theorem lane_stays_open_sample :
    LaneOpen (workerRun sampleDateParse sampleDigest []
      (workerRun sampleDateParse sampleDigest [sampleAttempt] noLedgers).2).1 := by
  have hfirst := ensure_ok_iff.2 ⟨noLedgers_migratable, rfl⟩
  have hsame : publishAll noLedgers = noLedgers := by
    unfold publishAll
    rw [publishKind_eq_self (.inr rfl), publishKind_eq_self (.inr rfl)]
  rw [hsame] at hfirst
  have hfits : Fits noLedgers sampleAttempt :=
    ⟨rfl, ⟨[], Utf8.decode_nil, .inl rfl, by decide⟩, by decide +kernel⟩
  have hfit : RunsFit sampleDateParse sampleDigest [[sampleAttempt], []] noLedgers := by
    refine ⟨fun outcome houtcome => ?_, fun _ _ => trivial, trivial⟩
    obtain rfl := Except.ok.inj (hfirst.symm.trans houtcome)
    exact ⟨hfits, trivial⟩
  exact lane_stays_open (fun _ => rfl) hfirst hfit _ List.mem_cons_self

/-- **A retained legacy ledger closes the lane.** The first run publishes the ledger of the
attempts and appends its own attempt, and the call of the next run throws. -/
theorem attempt_closes_lane :
    ¬∀ (dateParse : JsString → Option ℤ) (sha256 : List UInt8 → JsString) (files : LedgerFiles)
      (records : List LedgerRecord) (rest : List (List LedgerRecord))
      (first : OpenRouterLedgerMigrationResult Unit × LedgerFiles),
      (∀ time : Incidents.IsoTimestamp, (dateParse time.text).isSome) →
      (∀ kind, files.managed kind = none) →
      ensureOpenRouterLedgersMigrated dateParse sha256 files = .ok first →
      ∀ outcome ∈ workerRuns dateParse sha256 rest (workerRun dateParse sha256 records files).2,
        LaneOpen outcome := by
  intro hclaim
  have hfirst := ensure_ok_iff.2 ⟨onlyAttempts_migratable, rfl⟩
  obtain ⟨error, herror⟩ := onlyAttempts_migratable.publishAll.closed sampleAttempt rfl
  have hopen := hclaim sampleDateParse sampleDigest (onlyAttempts sampleLedger) [sampleAttempt]
    [[]] _ (fun _ => rfl) (fun _ => rfl) hfirst
  rw [workerRun_ok _ hfirst, appendRecords_singleton, workerRuns, workerRun_error herror] at hopen
  obtain ⟨result, hresult, -⟩ := hopen (.error error) List.mem_cons_self
  cases hresult

end Autopilot.OpenRouterLedgers
