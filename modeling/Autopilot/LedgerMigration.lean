/-
Calls of the ledger migration next to each other.

`ensureOpenRouterLedgersMigrated` as a program of any number of calls on one state
directory, with one step for each access to the file system. Reading a file is five
accesses: it is looked up, opened, looked at, read piece by piece, and looked at once
more. A ledger is published by writing a temporary file piece by piece and linking it
under its name. A call may die before any access.

The legacy ledgers and the files that were there before lie still. Making the directory
and flushing files change nothing that is looked at and are left out.
-/
import Autopilot.LedgerRecords
import Autopilot.Lib.Interleaving

set_option autoImplicit false

namespace Autopilot.LedgerMigration

open Parallel OpenRouterLedgers

/-! ## The disk -/

/-- A file, whatever names it has: a legacy ledger, a ledger that was in the state
directory before, or the temporary file a call made. -/
inductive Inode (ι : Type) where
  | legacy (kind : OpenRouterLedgerKind)
  | earlier (kind : OpenRouterLedgerKind)
  | temporary (call : ι) (kind : OpenRouterLedgerKind)
  deriving DecidableEq

/-- A file with its time of change. -/
structure StoredFile where
  file : LedgerFile
  mtimeNs : ℕ
  deriving DecidableEq

/-- What `lstat` and `fstat` say. -/
structure FileStats (ι : Type) where
  isFile : Bool
  inode : Inode ι
  size : ℕ
  mtimeNs : ℕ
  deriving DecidableEq

/-- What the calls change: the file under the name of each managed ledger, the
temporary files, and whether they still have their names. -/
structure Disk (ι : Type) where
  managed : OpenRouterLedgerKind → Option (Inode ι)
  written : ι → OpenRouterLedgerKind → StoredFile
  temporary : ι → OpenRouterLedgerKind → Bool

section disk

variable {ι : Type} (before : LedgerFiles)

/-- No call has made a file. -/
def Disk.initial : Disk ι where
  managed kind := (before.managed kind).map fun _ => .earlier kind
  written _ _ := ⟨⟨false, []⟩, 0⟩
  temporary _ _ := false

/-- The file under a name. -/
def Disk.entry (disk : Disk ι) : LedgerPath ι → Option (Inode ι)
  | .legacy kind => (before.legacy kind).map fun _ => .legacy kind
  | .managed kind => disk.managed kind
  | .temporary call kind => if disk.temporary call kind then some (.temporary call kind) else none

/-- A file and its time of change. -/
def Disk.stored (disk : Disk ι) : Inode ι → StoredFile
  | .legacy kind => ⟨(before.legacy kind).getD ⟨false, []⟩, 0⟩
  | .earlier kind => ⟨(before.managed kind).getD ⟨false, []⟩, 0⟩
  | .temporary call kind => disk.written call kind

def Disk.stats (disk : Disk ι) (inode : Inode ι) : FileStats ι :=
  ⟨(disk.stored before inode).file.isFile, inode, (disk.stored before inode).file.bytes.length,
    (disk.stored before inode).mtimeNs⟩

/-- The bytes of a managed ledger, if there is one. -/
def Disk.managedBytes (disk : Disk ι) (kind : OpenRouterLedgerKind) : Option (List UInt8) :=
  (disk.managed kind).map fun inode => (disk.stored before inode).file.bytes

end disk

/-! ## Reading a ledger -/

/-- Where `readValidatedLedgerIfPresent` is, before an access. -/
inductive ReadPhase (ι : Type) where
  /-- `lstatSync`. -/
  | looking
  /-- `openSync`. -/
  | opening (seen : FileStats ι)
  /-- The first `fstatSync`, of what was opened. -/
  | opened (seen : FileStats ι) (descriptor : Inode ι)
  /-- `readSync`, behind the bytes read so far. -/
  | reading (opened : FileStats ι) (bytes : List UInt8)
  /-- The last `fstatSync`. -/
  | closing (opened : FileStats ι) (bytes : List UInt8)
  deriving DecidableEq

section reading

variable {ι : Type} [DecidableEq ι] (dateParse : JsString → Option ℤ)
  (sha256 : List UInt8 → JsString) (before : LedgerFiles)

/-- How reading goes on: with another access, or by returning or throwing. -/
abbrev Reading (ι : Type) :=
  ReadPhase ι ⊕ Except (MigrationError ι) (Option (ValidatedLedger (Inode ι)))

/-- An access of `readValidatedLedgerIfPresent`. A read gives at most `count + 1` bytes. -/
def readStep (disk : Disk ι) (path : LedgerPath ι) (kind : OpenRouterLedgerKind) (count : ℕ) :
    ReadPhase ι → Reading ι
  | .looking =>
    match disk.entry before path with
    | none => .inr (.ok none)
    | some inode =>
      if ¬(disk.stats before inode).isFile then .inr (.error (.unsafeFile path))
      else if (disk.stats before inode).size > openrouterLedgerMaxBytes then
        .inr (.error (.tooLarge path))
      else .inl (.opening (disk.stats before inode))
  | .opening seen =>
    match disk.entry before path with
    | none => .inr (.error (.notFound path))
    | some inode => .inl (.opened seen inode)
  | .opened seen descriptor =>
    if ¬(disk.stats before descriptor).isFile ∨ descriptor ≠ seen.inode ∨
        (disk.stats before descriptor).size > openrouterLedgerMaxBytes then
      .inr (.error (.unsafeFile path))
    else .inl (.reading (disk.stats before descriptor) [])
  | .reading opened bytes =>
    let piece := ((disk.stored before opened.inode).file.bytes.drop bytes.length).take
      (min (count + 1) (openrouterLedgerMaxBytes + 1 - bytes.length))
    if piece = [] then
      if bytes.length > openrouterLedgerMaxBytes then .inr (.error (.tooLarge path))
      else .inl (.closing opened bytes)
    else .inl (.reading opened (bytes ++ piece))
  | .closing opened bytes =>
    let final := disk.stats before opened.inode
    if final.size ≠ opened.size ∨ final.size ≠ bytes.length ∨ final.mtimeNs ≠ opened.mtimeNs then
      .inr (.error (.sourceChanged path))
    else .inr ((validatedLedger dateParse sha256 path kind bytes opened.inode).map some)

end reading

/-! ## A call -/

/-- The variables of a call that published some ledgers. -/
structure Course (ι : Type) where
  plans : Plans (Inode ι)
  migrated : List OpenRouterLedgerKind

/-- The variables of `publishLedgerWithoutOverwrite`, with what the loop around it still
has to do. -/
structure Job (ι : Type) where
  kind : OpenRouterLedgerKind
  source : ValidatedLedger (Inode ι)
  rest : List OpenRouterLedgerKind
  course : Course ι

/-- What a ledger is read for, with the variables at that place. -/
inductive ReadTask (ι : Type) where
  /-- `buildMigrationPlan`. -/
  | legacyPlan (kind : OpenRouterLedgerKind) (rest : List OpenRouterLedgerKind)
      (plans : Plans (Inode ι))
  | managedPlan (kind : OpenRouterLedgerKind) (rest : List OpenRouterLedgerKind)
      (plans : Plans (Inode ι))
  /-- `publishLedgerWithoutOverwrite`. -/
  | temporary (job : Job ι)
  | existing (job : Job ι)
  | published (job : Job ι)
  /-- `assertRetainedLegacySourcesUnchanged`. -/
  | retained (kind : OpenRouterLedgerKind) (legacy : ValidatedLedger (Inode ι))
      (rest : List OpenRouterLedgerKind) (course : Course ι)

/-- Where a call is, before an access to the file system. -/
inductive CallPoint (ι : Type) where
  | reading (task : ReadTask ι) (phase : ReadPhase ι)
  /-- `openSync` of the temporary file, and writing it. -/
  | creating (job : Job ι)
  | writing (job : Job ι) (done : ℕ)
  /-- `fstatSync` of the temporary file. -/
  | sizing (job : Job ι)
  /-- `linkSync`. -/
  | linking (job : Job ι)
  /-- `unlinkSync`, with what is returned or thrown after it. -/
  | unlinking (job : Job ι) (outcome : Except (MigrationError ι) Bool)
  | ended (result : Except (MigrationError ι) (OpenRouterLedgerMigrationResult ι))
  | dead

section control

variable {ι : Type}

namespace ReadTask

/-- The file that is read, by that call. -/
def path (call : ι) : ReadTask ι → LedgerPath ι
  | legacyPlan kind _ _ => .legacy kind
  | managedPlan kind _ _ => .managed kind
  | temporary job => .temporary call job.kind
  | existing job => .managed job.kind
  | published job => .managed job.kind
  | retained kind _ _ _ => .legacy kind

def kind : ReadTask ι → OpenRouterLedgerKind
  | legacyPlan kind _ _ => kind
  | managedPlan kind _ _ => kind
  | temporary job => job.kind
  | existing job => job.kind
  | published job => job.kind
  | retained kind _ _ _ => kind

end ReadTask

/-- `assertRetainedLegacySourcesUnchanged`, and returning. -/
def assertRetained (course : Course ι) : List OpenRouterLedgerKind → CallPoint ι
  | [] => .ended (.ok (migrationResult course.plans course.migrated))
  | kind :: rest =>
    match (course.plans kind).legacy with
    | none => assertRetained course rest
    | some legacy => .reading (.retained kind legacy rest course) .looking

/-- The loop that publishes what is pending. -/
def publishRest (course : Course ι) : List OpenRouterLedgerKind → CallPoint ι
  | [] => assertRetained course ledgerSpecs
  | kind :: rest =>
    match (course.plans kind).legacy, (course.plans kind).managed with
    | some legacy, none => .creating ⟨kind, legacy, rest, course⟩
    | _, _ => publishRest course rest

/-- All plans are made. -/
def afterPlans (plans : Plans (Inode ι)) : CallPoint ι :=
  match ledgerSpecs.find? fun kind => (plans kind).conflicts with
  | some kind => .ended (.error (.conflict kind))
  | none => publishRest ⟨plans, []⟩ ledgerSpecs

/-- The plans, with that of a ledger put in. -/
def setPlan (plans : Plans (Inode ι)) (kind : OpenRouterLedgerKind)
    (plan : LedgerMigrationPlan (Inode ι)) : Plans (Inode ι) :=
  Function.update plans kind plan

/-- The next plan. -/
def planRest (plans : Plans (Inode ι)) : List OpenRouterLedgerKind → CallPoint ι
  | [] => afterPlans plans
  | kind :: rest => .reading (.legacyPlan kind rest plans) .looking

/-- Where a call begins. -/
def callStart : CallPoint ι := planRest (fun _ => ⟨none, none⟩) ledgerSpecs

variable [DecidableEq ι]

/-- How a call goes on with what was read, or with what reading threw. -/
def resume (result : Except (MigrationError ι) (Option (ValidatedLedger (Inode ι)))) :
    ReadTask ι → CallPoint ι
  | .legacyPlan kind rest plans =>
    match result with
    | .error error => .ended (.error error)
    | .ok legacy => .reading (.managedPlan kind rest (setPlan plans kind ⟨legacy, none⟩)) .looking
  | .managedPlan kind rest plans =>
    match result with
    | .error error => .ended (.error error)
    | .ok managed => planRest (setPlan plans kind ⟨(plans kind).legacy, managed⟩) rest
  | .temporary job =>
    match result with
    | .error error => .unlinking job (.error error)
    | .ok temporary =>
      if temporary.any (ledgersMatch job.source) then .linking job
      else .unlinking job (.error (.verificationFailed (.managed job.kind)))
  | .existing job =>
    match result with
    | .error error => .unlinking job (.error error)
    | .ok existing =>
      if existing.any (ledgersMatch job.source) then .unlinking job (.ok false)
      else .unlinking job (.error (.conflictAt (.managed job.kind)))
  | .published job =>
    match result with
    | .error error => .unlinking job (.error error)
    | .ok published =>
      if published.any (ledgersMatch job.source) then .unlinking job (.ok true)
      else .unlinking job (.error (.verificationFailed (.managed job.kind)))
  | .retained kind legacy rest course =>
    match result with
    | .error error => .ended (.error error)
    | .ok current =>
      if current.any (sameSourceSnapshot legacy) then assertRetained course rest
      else .ended (.error (.sourceChanged (.legacy kind)))

end control

/-- What decides how a call goes on: the next access, with how many bytes it moves, or
the death of the call. -/
inductive CallAction where
  | proceed (count : ℕ)
  | crash

section program

variable {ι : Type} [DecidableEq ι] (dateParse : JsString → Option ℤ)
  (sha256 : List UInt8 → JsString) (before : LedgerFiles)

/-- The calls, and the disk. -/
abbrev MigrationSystem (ι : Type) := Parallel ι (CallPoint ι) (Disk ι)

/-- The temporary file of a call, after a write. -/
def Disk.write (disk : Disk ι) (call : ι) (kind : OpenRouterLedgerKind) (file : StoredFile) :
    Disk ι :=
  { disk with
    written := Function.update disk.written call (Function.update (disk.written call) kind file) }

/-- The name of a temporary file is made, or removed. -/
def Disk.name (disk : Disk ι) (call : ι) (kind : OpenRouterLedgerKind) (named : Bool) : Disk ι :=
  { disk with
    temporary :=
      Function.update disk.temporary call (Function.update (disk.temporary call) kind named) }

/-- The temporary file of a call gets the name of the managed ledger. -/
def Disk.link (disk : Disk ι) (call : ι) (kind : OpenRouterLedgerKind) : Disk ι :=
  { disk with managed := Function.update disk.managed kind (some (.temporary call kind)) }

/-- An access of a call to the file system. -/
def accessStep (call : ι) (disk : Disk ι) (count : ℕ) :
    CallPoint ι → Option (CallPoint ι × Disk ι)
  | .reading task phase =>
    match readStep dateParse sha256 before disk (task.path call) task.kind count phase with
    | .inl phase => some (.reading task phase, disk)
    | .inr result => some (resume result task, disk)
  | .creating job =>
    if disk.temporary call job.kind then
      some (.ended (.error (.alreadyThere (.temporary call job.kind))), disk)
    else
      some (.writing job 0, (disk.name call job.kind true).write call job.kind ⟨⟨true, []⟩, 0⟩)
  | .writing job done =>
    let piece := (job.source.bytes.drop done).take (count + 1)
    let stored := disk.written call job.kind
    if piece = [] then some (.sizing job, disk)
    else some (.writing job (done + piece.length), disk.write call job.kind
      ⟨{ stored.file with bytes := stored.file.bytes ++ piece }, stored.mtimeNs + 1⟩)
  | .sizing job =>
    if (disk.written call job.kind).file.bytes.length ≠ job.source.bytes.length then
      some (.unlinking job (.error (.verificationFailed (.managed job.kind))), disk)
    else some (.reading (.temporary job) .looking, disk)
  | .linking job =>
    match disk.managed job.kind with
    | some _ => some (.reading (.existing job) .looking, disk)
    | none =>
      some (.reading (.published job) .looking, disk.link call job.kind)
  | .unlinking job outcome =>
    let disk := disk.name call job.kind false
    match outcome with
    | .error error => some (.ended (.error error), disk)
    | .ok published =>
      let migrated := job.course.migrated ++ if published then [job.kind] else []
      some (publishRest { job.course with migrated := migrated } job.rest, disk)
  | .ended _ => none
  | .dead => none

/-- `ensureOpenRouterLedgersMigrated`, step by step. -/
def migrationProgram : Program ι (CallPoint ι) (Disk ι) CallAction := fun call action s =>
  match s.point call, action with
  | .dead, _ => none
  | .ended _, _ => none
  | _, .crash => some (.dead, s.shared)
  | point, .proceed count => accessStep dateParse sha256 before call s.shared count point

/-- No call has begun. -/
def MigrationSystem.initial : MigrationSystem ι := ⟨fun _ => callStart, .initial before⟩

/-- A run of the calls, in any order. -/
abbrev MigrationRun := Run (migrationProgram (ι := ι) dateParse sha256 before) fun _ _ _ => True

end program

/-! ## What a call knows -/

section invariant

variable {ι : Type} (dateParse : JsString → Option ℤ)
  (sha256 : List UInt8 → JsString) (before : LedgerFiles)

/-- Nobody changes the file any more: a temporary file holds the whole ledger. -/
def Settled (disk : Disk ι) : Inode ι → Prop
  | .legacy kind => (before.legacy kind).isSome
  | .earlier kind => (before.managed kind).isSome
  | .temporary call kind =>
    ∃ file ∈ before.legacy kind, (disk.written call kind).file = ⟨true, file.bytes⟩

/-- The file may be found under the path. -/
def Belongs (inode : Inode ι) : LedgerPath ι → Prop
  | .legacy kind => inode = .legacy kind
  | .managed kind => inode = .earlier kind ∨ ∃ call, inode = .temporary call kind
  | .temporary call kind => inode = .temporary call kind

/-- What may be read from a path. -/
def ReadOf (ledger : ValidatedLedger (Inode ι)) : LedgerPath ι → Prop
  | .legacy kind =>
    ∃ file ∈ before.legacy kind, ledger = ⟨file.bytes, sha256 file.bytes, .legacy kind⟩
  | .managed kind => ledger.hash = sha256 ledger.bytes ∧
    ((∃ file ∈ before.legacy kind, ledger.bytes = file.bytes) ∨
      ∃ file ∈ before.managed kind, ledger.bytes = file.bytes)
  | .temporary _ kind => ledger.hash = sha256 ledger.bytes ∧
    ∃ file ∈ before.legacy kind, ledger.bytes = file.bytes

/-- What `lstat` or `fstat` said of a file at the path is still true. -/
structure Seen (disk : Disk ι) (path : LedgerPath ι) (stats : FileStats ι) : Prop where
  stats_eq : stats = disk.stats before stats.inode
  settled : Settled before disk stats.inode
  belongs : Belongs stats.inode path
  isFile : stats.isFile = true
  size_le : stats.size ≤ openrouterLedgerMaxBytes

/-- What reading a path has come to. -/
def ReadOk (disk : Disk ι) (path : LedgerPath ι) : ReadPhase ι → Prop
  | .looking => True
  | .opening seen => Seen before disk path seen ∧ disk.entry before path = some seen.inode
  | .opened seen descriptor => Seen before disk path seen ∧ descriptor = seen.inode
  | .reading opened bytes =>
    Seen before disk path opened ∧ bytes <+: (disk.stored before opened.inode).file.bytes
  | .closing opened bytes =>
    Seen before disk path opened ∧ bytes = (disk.stored before opened.inode).file.bytes

/-- What reading a path returns or throws. -/
def ReadResult (disk : Disk ι) (path : LedgerPath ι) :
    Except (MigrationError ι) (Option (ValidatedLedger (Inode ι))) → Prop
  | .ok none => disk.entry before path = none
  | .ok (some ledger) => ReadOf sha256 before ledger path
  | .error _ => ∃ inode, Settled before disk inode ∧ Belongs inode path ∧
    ¬SoundLedger dateParse path.kind (disk.stored before inode).file

/-- The plans hold what was read. -/
structure PlansOk (plans : Plans (Inode ι)) : Prop where
  legacy : ∀ kind, ∀ ledger ∈ (plans kind).legacy, ReadOf sha256 before ledger (.legacy kind)
  managed : ∀ kind, ∀ ledger ∈ (plans kind).managed, ReadOf sha256 before ledger (.managed kind)

/-- What a call counts as migrated is the file it made. -/
structure CourseOk (disk : Disk ι) (call : ι) (course : Course ι) : Prop where
  plans : PlansOk sha256 before course.plans
  migrated : ∀ kind ∈ course.migrated, disk.managed kind = some (.temporary call kind)

/-- The call has made no temporary file for the ledger yet. -/
def Fresh (disk : Disk ι) (call : ι) (kind : OpenRouterLedgerKind) : Prop :=
  disk.temporary call kind = false ∧ (disk.written call kind).file.isFile = false

structure JobOk (disk : Disk ι) (call : ι) (job : Job ι) : Prop where
  course : CourseOk sha256 before disk call job.course
  source : ReadOf sha256 before job.source (.legacy job.kind)
  fresh : ∀ kind ∈ job.rest, Fresh disk call kind
  nodup : (job.kind :: job.rest).Nodup

/-- The temporary file holds the whole ledger. -/
def Written (disk : Disk ι) (call : ι) (job : Job ι) : Prop :=
  disk.temporary call job.kind = true ∧
    (disk.written call job.kind).file = ⟨true, job.source.bytes⟩

/-- What a call that reads knows besides what it reads. -/
def TaskOk (disk : Disk ι) (call : ι) : ReadTask ι → Prop
  | .legacyPlan _ _ plans => PlansOk sha256 before plans ∧ ∀ kind, Fresh disk call kind
  | .managedPlan _ _ plans => PlansOk sha256 before plans ∧ ∀ kind, Fresh disk call kind
  | .temporary job => JobOk sha256 before disk call job ∧ Written disk call job
  | .existing job => JobOk sha256 before disk call job ∧ disk.managed job.kind ≠ none
  | .published job => JobOk sha256 before disk call job ∧
    disk.managed job.kind = some (.temporary call job.kind)
  | .retained kind legacy _ course => CourseOk sha256 before disk call course ∧
    ReadOf sha256 before legacy (.legacy kind)

/-- What a call knows at a point. It throws only where the ledgers were not sound. -/
def PointOk (disk : Disk ι) (call : ι) : CallPoint ι → Prop
  | .reading task phase =>
    TaskOk sha256 before disk call task ∧ ReadOk before disk (task.path call) phase
  | .creating job => JobOk sha256 before disk call job ∧ Fresh disk call job.kind
  | .writing job done => JobOk sha256 before disk call job ∧
    disk.temporary call job.kind = true ∧
    (disk.written call job.kind).file = ⟨true, job.source.bytes.take done⟩
  | .sizing job => JobOk sha256 before disk call job ∧ Written disk call job
  | .linking job => JobOk sha256 before disk call job ∧ Written disk call job
  | .unlinking job outcome => JobOk sha256 before disk call job ∧
    match outcome with
    | .error _ => ¬Migratable dateParse sha256 before
    | .ok published => published = true → disk.managed job.kind = some (.temporary call job.kind)
  | .ended (.ok result) => ∀ kind, .managed kind ∈ result.migratedFiles →
    disk.managed kind = some (.temporary call kind)
  | .ended (.error _) => ¬Migratable dateParse sha256 before
  | .dead => True

/-- The managed ledgers are what was there before, or whole copies of legacy ledgers. -/
def DiskOk (disk : Disk ι) : Prop :=
  ∀ kind, disk.managed kind = (before.managed kind).map (fun _ => .earlier kind) ∨
    before.managed kind = none ∧ ∃ call, disk.managed kind = some (.temporary call kind) ∧
      Settled before disk (.temporary call kind)

/-- What a call may do to the disk as the others see it. -/
structure Grows (call : ι) (disk disk' : Disk ι) : Prop where
  managed : ∀ kind inode, disk.managed kind = some inode → disk'.managed kind = some inode
  others : ∀ other ≠ call, disk'.written other = disk.written other ∧
    disk'.temporary other = disk.temporary other
  settled : ∀ kind, Settled before disk (.temporary call kind) →
    disk'.written call kind = disk.written call kind

end invariant

/-! ## Steps -/

section steps

variable {ι : Type} {dateParse : JsString → Option ℤ}
  {sha256 : List UInt8 → JsString} {before : LedgerFiles} {disk disk' : Disk ι} {call other : ι}

theorem Grows.refl : Grows before call disk disk :=
  ⟨fun _ _ h => h, fun _ _ => ⟨rfl, rfl⟩, fun _ _ => rfl⟩

/-- A settled file stays as it is. -/
theorem Settled.grows {inode : Inode ι} (h : Settled before disk inode)
    (hg : Grows before call disk disk') :
    Settled before disk' inode ∧ disk'.stored before inode = disk.stored before inode := by
  cases inode with
  | legacy kind => exact ⟨h, rfl⟩
  | earlier kind => exact ⟨h, rfl⟩
  | temporary maker kind =>
    have hsame : disk'.written maker kind = disk.written maker kind := by
      by_cases hmaker : maker = call
      · subst hmaker
        exact hg.settled kind h
      · rw [(hg.others maker hmaker).1]
    refine ⟨?_, hsame⟩
    simp only [Settled] at h ⊢
    rwa [hsame]

/-- A path that another call reads keeps its file. -/
theorem entry_grows {path : LedgerPath ι} {inode : Inode ι} (hg : Grows before call disk disk')
    (hpath : ∀ kind, path ≠ .temporary call kind) (h : disk.entry before path = some inode) :
    disk'.entry before path = some inode := by
  cases path with
  | legacy kind => exact h
  | managed kind => exact hg.managed kind inode h
  | temporary maker kind =>
    have hmaker : maker ≠ call := fun heq => hpath kind (heq ▸ rfl)
    simp only [Disk.entry] at h ⊢
    rwa [(hg.others maker hmaker).2]

theorem Seen.grows {path : LedgerPath ι} {stats : FileStats ι} (h : Seen before disk path stats)
    (hg : Grows before call disk disk') : Seen before disk' path stats := by
  have hstays := h.settled.grows hg
  refine ⟨?_, hstays.1, h.belongs, h.isFile, h.size_le⟩
  have heq := h.stats_eq
  unfold Disk.stats at heq ⊢
  rwa [hstays.2]

theorem ReadOk.grows {path : LedgerPath ι} {phase : ReadPhase ι}
    (h : ReadOk before disk path phase) (hg : Grows before call disk disk')
    (hpath : ∀ kind, path ≠ .temporary call kind) : ReadOk before disk' path phase := by
  cases phase with
  | looking => trivial
  | opening seen => exact ⟨h.1.grows hg, entry_grows hg hpath h.2⟩
  | opened seen descriptor => exact ⟨h.1.grows hg, h.2⟩
  | reading opened bytes =>
    refine ⟨h.1.grows hg, ?_⟩
    rw [(h.1.settled.grows hg).2]
    exact h.2
  | closing opened bytes =>
    refine ⟨h.1.grows hg, ?_⟩
    rw [(h.1.settled.grows hg).2]
    exact h.2

theorem Fresh.grows {kind : OpenRouterLedgerKind} (h : Fresh disk other kind)
    (hg : Grows before call disk disk') (hne : other ≠ call) : Fresh disk' other kind := by
  have hsame := hg.others other hne
  unfold Fresh at h ⊢
  rwa [hsame.1, hsame.2]

theorem Written.grows {job : Job ι} (h : Written disk other job)
    (hg : Grows before call disk disk') (hne : other ≠ call) : Written disk' other job := by
  have hsame := hg.others other hne
  unfold Written at h ⊢
  rwa [hsame.1, hsame.2]

theorem CourseOk.grows {course : Course ι} (h : CourseOk sha256 before disk other course)
    (hg : Grows before call disk disk') : CourseOk sha256 before disk' other course :=
  ⟨h.plans, fun kind hk => hg.managed kind _ (h.migrated kind hk)⟩

theorem JobOk.grows {job : Job ι} (h : JobOk sha256 before disk other job)
    (hg : Grows before call disk disk') (hne : other ≠ call) :
    JobOk sha256 before disk' other job :=
  ⟨h.course.grows hg, h.source, fun kind hk => (h.fresh kind hk).grows hg hne, h.nodup⟩

theorem TaskOk.grows {task : ReadTask ι} (h : TaskOk sha256 before disk other task)
    (hg : Grows before call disk disk') (hne : other ≠ call) :
    TaskOk sha256 before disk' other task := by
  cases task with
  | legacyPlan kind rest plans => exact ⟨h.1, fun kind => (h.2 kind).grows hg hne⟩
  | managedPlan kind rest plans => exact ⟨h.1, fun kind => (h.2 kind).grows hg hne⟩
  | temporary job => exact ⟨h.1.grows hg hne, h.2.grows hg hne⟩
  | existing job =>
    refine ⟨h.1.grows hg hne, ?_⟩
    obtain ⟨inode, hinode⟩ := Option.ne_none_iff_exists'.1 h.2
    rw [hg.managed _ _ hinode]
    exact Option.some_ne_none inode
  | published job => exact ⟨h.1.grows hg hne, hg.managed _ _ h.2⟩
  | retained kind legacy rest course => exact ⟨h.1.grows hg, h.2⟩

/-- **What a call knows stays true while others go on.** -/
theorem PointOk.grows {point : CallPoint ι} (h : PointOk dateParse sha256 before disk other point)
    (hg : Grows before call disk disk') (hne : other ≠ call) :
    PointOk dateParse sha256 before disk' other point := by
  have hsame := hg.others other hne
  cases point with
  | reading task phase =>
    refine ⟨h.1.grows hg hne, h.2.grows hg ?_⟩
    intro kind hpath
    cases task with
    | temporary job => exact hne (LedgerPath.temporary.inj hpath).1
    | legacyPlan | managedPlan | existing | published | retained => cases hpath
  | creating job => exact ⟨h.1.grows hg hne, h.2.grows hg hne⟩
  | writing job done =>
    refine ⟨h.1.grows hg hne, ?_⟩
    rw [hsame.1, hsame.2]
    exact h.2
  | sizing job => exact ⟨h.1.grows hg hne, h.2.grows hg hne⟩
  | linking job => exact ⟨h.1.grows hg hne, h.2.grows hg hne⟩
  | unlinking job outcome =>
    refine ⟨h.1.grows hg hne, ?_⟩
    cases outcome with
    | error error => exact h.2
    | ok published => exact fun hp => hg.managed _ _ (h.2 hp)
  | ended result =>
    cases result with
    | error error => exact h
    | ok result => exact fun kind hk => hg.managed _ _ (h kind hk)
  | dead => trivial

theorem Grows.trans {disk'' : Disk ι} (h : Grows before call disk disk')
    (h' : Grows before call disk' disk'') : Grows before call disk disk'' := by
  refine ⟨fun k i hk => h'.managed k i (h.managed k i hk), fun other hne => ?_, fun k hs => ?_⟩
  · have hfirst := h.others other hne
    have hsecond := h'.others other hne
    exact ⟨hsecond.1.trans hfirst.1, hsecond.2.trans hfirst.2⟩
  · have hstays := hs.grows h
    rw [h'.settled k hstays.1]
    exact h.settled k hs

/-- The disk stays sound in the files of its managed ledgers. -/
theorem DiskOk.grows (h : DiskOk before disk) (hg : Grows before call disk disk')
    (hm : disk'.managed = disk.managed) : DiskOk before disk' := by
  intro kind
  rw [hm]
  rcases h kind with hsame | ⟨hnone, maker, hmaker, hsettled⟩
  · exact .inl hsame
  · exact .inr ⟨hnone, maker, hmaker, (Settled.grows hsettled hg).1⟩

/-- A job after an access that only changed the file of its ledger. -/
theorem JobOk.own {job : Job ι} (h : JobOk sha256 before disk call job)
    (hg : Grows before call disk disk')
    (hrest : ∀ kind ≠ job.kind, disk'.written call kind = disk.written call kind ∧
      disk'.temporary call kind = disk.temporary call kind) :
    JobOk sha256 before disk' call job := by
  refine ⟨h.course.grows hg, h.source, fun kind hk => ?_, h.nodup⟩
  have hne : kind ≠ job.kind := by
    rintro rfl
    exact (List.nodup_cons.1 h.nodup).1 hk
  have hsame := hrest kind hne
  have hfresh := h.fresh kind hk
  unfold Fresh at hfresh ⊢
  rwa [hsame.1, hsame.2]

end steps

/-! ## An access -/

section access

variable {ι : Type} {dateParse : JsString → Option ℤ} {sha256 : List UInt8 → JsString}
  {before : LedgerFiles} {disk : Disk ι} {call : ι} {path : LedgerPath ι}

/-- The file under a name can be read. -/
def Rests (before : LedgerFiles) (disk : Disk ι) (path : LedgerPath ι) : Prop :=
  ∀ inode, disk.entry before path = some inode →
    Settled before disk inode ∧ Belongs inode path

/-- A settled file at a path holds one of the ledgers that were there. -/
theorem readOf_stored {inode : Inode ι} (hs : Settled before disk inode)
    (hb : Belongs inode path) :
    ReadOf sha256 before
      ⟨(disk.stored before inode).file.bytes, sha256 (disk.stored before inode).file.bytes, inode⟩
      path := by
  cases path with
  | legacy kind =>
    subst hb
    obtain ⟨file, hfile⟩ := Option.isSome_iff_exists.1 hs
    refine ⟨file, hfile, ?_⟩
    simp only [Disk.stored, hfile, Option.getD_some]
  | managed kind =>
    rcases hb with rfl | ⟨maker, rfl⟩
    · obtain ⟨file, hfile⟩ := Option.isSome_iff_exists.1 hs
      refine ⟨rfl, .inr ⟨file, hfile, ?_⟩⟩
      simp only [Disk.stored, hfile, Option.getD_some]
    · obtain ⟨file, hfile, hwritten⟩ := hs
      refine ⟨rfl, .inl ⟨file, hfile, ?_⟩⟩
      simp only [Disk.stored, hwritten]
  | temporary maker kind =>
    subst hb
    obtain ⟨file, hfile, hwritten⟩ := hs
    refine ⟨rfl, file, hfile, ?_⟩
    simp only [Disk.stored, hwritten]

/-- What `validatedLedger` makes of the bytes of a settled file. -/
theorem validatedLedger_ok {inode : Inode ι} (hs : Settled before disk inode)
    (hb : Belongs inode path) :
    ReadResult dateParse sha256 before disk path
      ((validatedLedger dateParse sha256 path path.kind (disk.stored before inode).file.bytes
        inode).map some) := by
  unfold validatedLedger
  cases hvalid : validateJsonl dateParse path.kind (disk.stored before inode).file.bytes with
  | error flaw =>
    refine ⟨inode, hs, hb, fun hsound => ?_⟩
    rw [hsound.2.2] at hvalid
    cases hvalid
  | ok _ => exact readOf_stored hs hb

/-- A settled file at a path is sound where the ledgers were. -/
theorem sound_stored {inode : Inode ι} (hsound : Migratable dateParse sha256 before)
    (hs : Settled before disk inode) (hb : Belongs inode path) :
    SoundLedger dateParse path.kind (disk.stored before inode).file := by
  cases path with
  | legacy kind =>
    subst hb
    obtain ⟨file, hfile⟩ := Option.isSome_iff_exists.1 hs
    simp only [Disk.stored, hfile, Option.getD_some]
    exact hsound.legacy kind file hfile
  | managed kind =>
    rcases hb with rfl | ⟨maker, rfl⟩
    · obtain ⟨file, hfile⟩ := Option.isSome_iff_exists.1 hs
      simp only [Disk.stored, hfile, Option.getD_some]
      exact hsound.managed kind file hfile
    · obtain ⟨file, hfile, hwritten⟩ := hs
      have hfine := hsound.legacy kind file hfile
      simp only [Disk.stored, hwritten]
      exact ⟨rfl, hfine.2.1, hfine.2.2⟩
  | temporary maker kind =>
    subst hb
    obtain ⟨file, hfile, hwritten⟩ := hs
    have hfine := hsound.legacy kind file hfile
    simp only [Disk.stored, hwritten]
    exact ⟨rfl, hfine.2.1, hfine.2.2⟩

/-- The name of a managed ledger leads to a file that can be read. -/
theorem DiskOk.rests (h : DiskOk before disk) (kind : OpenRouterLedgerKind) :
    Rests before disk (.managed kind) := by
  intro inode hentry
  have hmanaged : disk.managed kind = some inode := hentry
  rcases h kind with hsame | ⟨-, maker, hmaker, hsettled⟩
  · rw [hsame, Option.map_eq_some_iff] at hmanaged
    obtain ⟨file, hfile, rfl⟩ := hmanaged
    exact ⟨Option.isSome_of_mem hfile, .inl rfl⟩
  · obtain rfl := Option.some.inj (hmaker.symm.trans hmanaged)
    exact ⟨hsettled, .inr ⟨maker, rfl⟩⟩

/-- A temporary file that was written is a whole ledger. -/
theorem Written.settled {job : Job ι} (h : Written disk call job)
    (hs : ReadOf sha256 before job.source (.legacy job.kind)) :
    Settled before disk (.temporary call job.kind) := by
  obtain ⟨file, hfile, heq⟩ := hs
  refine ⟨file, hfile, ?_⟩
  rw [h.2, heq]

theorem ReadTask.kind_path (task : ReadTask ι) (call : ι) : (task.path call).kind = task.kind := by
  cases task <;> rfl

/-- Whatever a call reads can be read. -/
theorem TaskOk.rests {task : ReadTask ι} (h : TaskOk sha256 before disk call task)
    (hd : DiskOk before disk) : Rests before disk (task.path call) := by
  have hlegacy : ∀ kind, Rests before disk (.legacy kind) := by
    intro kind inode hentry
    obtain ⟨file, hfile, rfl⟩ := Option.map_eq_some_iff.1 hentry
    exact ⟨Option.isSome_of_mem hfile, rfl⟩
  cases task with
  | legacyPlan kind rest plans => exact hlegacy kind
  | managedPlan kind rest plans => exact hd.rests kind
  | temporary job =>
    intro inode hentry
    simp only [ReadTask.path, Disk.entry, h.2.1, if_true] at hentry
    obtain rfl := Option.some.inj hentry
    exact ⟨h.2.settled h.1.source, rfl⟩
  | existing job => exact hd.rests job.kind
  | published job => exact hd.rests job.kind
  | retained kind legacy rest course => exact hlegacy kind

variable [DecidableEq ι]

/-- An access of reading, and what reading has come to after it. -/
theorem readStep_ok {phase : ReadPhase ι} (h : ReadOk before disk path phase)
    (hpath : Rests before disk path) (count : ℕ) :
    match readStep dateParse sha256 before disk path path.kind count phase with
    | .inl phase => ReadOk before disk path phase
    | .inr result => ReadResult dateParse sha256 before disk path result := by
  cases phase with
  | looking =>
    rw [readStep]
    cases hentry : disk.entry before path with
    | none => exact hentry
    | some inode =>
      obtain ⟨hs, hb⟩ := hpath inode hentry
      dsimp only
      by_cases hfile : (disk.stats before inode).isFile = true
      · rw [if_neg (not_not_intro hfile)]
        by_cases hsize : (disk.stats before inode).size > openrouterLedgerMaxBytes
        · rw [if_pos hsize]
          refine ⟨inode, hs, hb, fun hsound => ?_⟩
          exact absurd hsound.2.1 (not_le_of_gt hsize)
        · rw [if_neg hsize]
          exact ⟨⟨rfl, hs, hb, hfile, not_lt.1 hsize⟩, hentry⟩
      · rw [if_pos hfile]
        exact ⟨inode, hs, hb, fun hsound => hfile hsound.1⟩
  | opening seen =>
    rw [readStep, h.2]
    exact ⟨h.1, rfl⟩
  | opened seen descriptor =>
    obtain ⟨hseen, rfl⟩ := h
    -- what was opened is the file that was looked up
    have hstats : disk.stats before seen.inode = seen := hseen.stats_eq.symm
    have hsame : ¬(¬(disk.stats before seen.inode).isFile = true ∨ seen.inode ≠ seen.inode ∨
        (disk.stats before seen.inode).size > openrouterLedgerMaxBytes) := by
      rw [hstats]
      rintro (hfile | hne | hsize)
      · exact hfile hseen.isFile
      · exact hne rfl
      · exact absurd hseen.size_le (not_le_of_gt hsize)
    rw [readStep, if_neg hsame, hstats]
    exact ⟨hseen, List.nil_prefix⟩
  | reading opened bytes =>
    obtain ⟨hseen, hprefix⟩ := h
    obtain ⟨rest, hrest⟩ := hprefix
    have hsize : (disk.stored before opened.inode).file.bytes.length ≤
        openrouterLedgerMaxBytes := by
      have hle := hseen.size_le
      rw [hseen.stats_eq] at hle
      exact hle
    have hlength : bytes.length ≤ openrouterLedgerMaxBytes := by
      rw [← hrest, List.length_append] at hsize
      omega
    rw [readStep, ← hrest, List.drop_left]
    by_cases hpiece :
        rest.take (min (count + 1) (openrouterLedgerMaxBytes + 1 - bytes.length)) = []
    · -- there is room in the buffer, so nothing is left to read
      have hend : rest = [] := by
        rcases List.take_eq_nil_iff.1 hpiece with hzero | hnil
        · omega
        · exact hnil
      rw [if_pos hpiece, if_neg (not_lt_of_ge hlength)]
      rw [hend, List.append_nil] at hrest
      exact ⟨hseen, hrest⟩
    · rw [if_neg hpiece]
      refine ⟨hseen, ?_⟩
      rw [← hrest, List.prefix_append_right_inj]
      exact List.take_prefix _ _
  | closing opened bytes =>
    obtain ⟨hseen, rfl⟩ := h
    have hstats : disk.stats before opened.inode = opened := hseen.stats_eq.symm
    have hsame : ¬((disk.stats before opened.inode).size ≠ opened.size ∨
        (disk.stats before opened.inode).size ≠
          (disk.stored before opened.inode).file.bytes.length ∨
        (disk.stats before opened.inode).mtimeNs ≠ opened.mtimeNs) := by
      rintro (hne | hne | hne)
      · exact hne (by rw [hstats])
      · exact hne rfl
      · exact hne (by rw [hstats])
    rw [readStep, if_neg hsame]
    exact validatedLedger_ok hseen.settled hseen.belongs

end access

/-! ## How a call goes on -/

section control

variable {ι : Type} {dateParse : JsString → Option ℤ}
  {sha256 : List UInt8 → JsString} {before : LedgerFiles} {disk : Disk ι} {call : ι}

theorem assertRetained_ok {course : Course ι} (h : CourseOk sha256 before disk call course)
    (rest : List OpenRouterLedgerKind) :
    PointOk dateParse sha256 before disk call (assertRetained course rest) := by
  induction rest with
  | nil =>
    intro kind hk
    obtain ⟨migrated, hmem, heq⟩ := List.mem_map.1 hk
    obtain rfl := LedgerPath.managed.inj heq
    exact h.migrated migrated hmem
  | cons kind rest ih =>
    rw [assertRetained]
    cases hlegacy : (course.plans kind).legacy with
    | none => exact ih
    | some legacy => exact ⟨⟨h, h.plans.legacy kind legacy hlegacy⟩, trivial⟩

theorem publishRest_ok {course : Course ι} (h : CourseOk sha256 before disk call course)
    {rest : List OpenRouterLedgerKind} (hfresh : ∀ kind ∈ rest, Fresh disk call kind)
    (hnodup : rest.Nodup) :
    PointOk dateParse sha256 before disk call (publishRest course rest) := by
  induction rest with
  | nil => exact assertRetained_ok h ledgerSpecs
  | cons kind rest ih =>
    have hrest := ih (fun k hk => hfresh k (List.mem_cons_of_mem kind hk))
      (List.nodup_cons.1 hnodup).2
    rw [publishRest]
    cases hlegacy : (course.plans kind).legacy with
    | none => exact hrest
    | some legacy =>
      cases hmanaged : (course.plans kind).managed with
      | some managed => exact hrest
      | none =>
        have hsource := h.plans.legacy kind legacy hlegacy
        have hlater := fun k hk => hfresh k (List.mem_cons_of_mem kind hk)
        exact ⟨⟨h, hsource, hlater, hnodup⟩, hfresh kind List.mem_cons_self⟩

/-- Ledgers that were read from both places are not in conflict where they were sound. -/
theorem ledgersMatch_of_sound (hsound : Migratable dateParse sha256 before)
    {kind : OpenRouterLedgerKind} {legacy managed : ValidatedLedger (Inode ι)}
    (hl : ReadOf sha256 before legacy (.legacy kind))
    (hm : ReadOf sha256 before managed (.managed kind)) : ledgersMatch legacy managed = true := by
  obtain ⟨file, hfile, rfl⟩ := hl
  obtain ⟨hhash, hbytes⟩ := hm
  have hsame : file.bytes.length = managed.bytes.length ∧
      sha256 file.bytes = sha256 managed.bytes := by
    rcases hbytes with ⟨other, hother, heq⟩ | ⟨other, hother, heq⟩
    · obtain rfl := Option.some.inj (hfile.symm.trans hother)
      rw [heq]
      exact ⟨rfl, rfl⟩
    · rw [heq]
      exact hsound.same kind file hfile other hother
  unfold ledgersMatch
  rw [hhash, Bool.and_eq_true, decide_eq_true_eq, decide_eq_true_eq]
  exact hsame

theorem afterPlans_ok {plans : Plans (Inode ι)} (h : PlansOk sha256 before plans)
    (hfresh : ∀ kind, Fresh disk call kind) :
    PointOk dateParse sha256 before disk call (afterPlans plans) := by
  unfold afterPlans
  cases hfind : ledgerSpecs.find? fun kind => (plans kind).conflicts with
  | none =>
    have hcourse : CourseOk sha256 before disk call ⟨plans, []⟩ :=
      ⟨h, fun kind hk => absurd hk List.not_mem_nil⟩
    exact publishRest_ok hcourse (fun kind _ => hfresh kind) (by decide)
  | some kind =>
    intro hsound
    have hconflict := List.find?_some hfind
    unfold LedgerMigrationPlan.conflicts at hconflict
    cases hlegacy : (plans kind).legacy with
    | none =>
      rw [hlegacy] at hconflict
      cases hconflict
    | some legacy =>
      cases hmanaged : (plans kind).managed with
      | none =>
        rw [hlegacy, hmanaged] at hconflict
        cases hconflict
      | some managed =>
        have hmatch := ledgersMatch_of_sound hsound (h.legacy kind legacy hlegacy)
          (h.managed kind managed hmanaged)
        rw [hlegacy, hmanaged] at hconflict
        dsimp only at hconflict
        rw [hmatch] at hconflict
        cases hconflict

theorem planRest_ok {plans : Plans (Inode ι)} (h : PlansOk sha256 before plans)
    (hfresh : ∀ kind, Fresh disk call kind) (rest : List OpenRouterLedgerKind) :
    PointOk dateParse sha256 before disk call (planRest plans rest) := by
  cases rest with
  | nil => exact afterPlans_ok h hfresh
  | cons kind rest => exact ⟨⟨h, hfresh⟩, trivial⟩

/-- A plan that holds what was read may be put in. -/
theorem PlansOk.set {plans : Plans (Inode ι)} (h : PlansOk sha256 before plans)
    (kind : OpenRouterLedgerKind) (plan : LedgerMigrationPlan (Inode ι))
    (hl : ∀ ledger ∈ plan.legacy, ReadOf sha256 before ledger (.legacy kind))
    (hm : ∀ ledger ∈ plan.managed, ReadOf sha256 before ledger (.managed kind)) :
    PlansOk sha256 before (setPlan plans kind plan) := by
  refine ⟨fun k => ?_, fun k => ?_⟩
  · by_cases hk : k = kind
    · subst hk
      rw [setPlan, Function.update_self]
      exact hl
    · rw [setPlan, Function.update_of_ne hk]
      exact h.legacy k
  · by_cases hk : k = kind
    · subst hk
      rw [setPlan, Function.update_self]
      exact hm
    · rw [setPlan, Function.update_of_ne hk]
      exact h.managed k

/-- What was read, if something was. -/
theorem ReadResult.found {path : LedgerPath ι} {ledger : Option (ValidatedLedger (Inode ι))}
    (h : ReadResult dateParse sha256 before disk path (.ok ledger)) :
    ∀ l ∈ ledger, ReadOf sha256 before l path := by
  rintro l rfl
  exact h

/-- Reading throws only where the ledgers were not sound. -/
theorem ReadResult.unsound {path : LedgerPath ι} {error : MigrationError ι}
    (h : ReadResult dateParse sha256 before disk path (.error error)) :
    ¬Migratable dateParse sha256 before := by
  obtain ⟨inode, hs, hb, hflaw⟩ := h
  exact fun hsound => hflaw (sound_stored hsound hs hb)

/-- The ledger that is there matches the source of a job where the ledgers were sound. -/
theorem JobOk.matches {job : Job ι} (h : JobOk sha256 before disk call job)
    (hsound : Migratable dateParse sha256 before) {ledger : Option (ValidatedLedger (Inode ι))}
    (hread : ReadResult dateParse sha256 before disk (.managed job.kind) (.ok ledger))
    (hthere : disk.managed job.kind ≠ none) : ledger.any (ledgersMatch job.source) = true := by
  cases ledger with
  | none => exact absurd hread hthere
  | some ledger => exact ledgersMatch_of_sound hsound h.source hread

variable [DecidableEq ι] in
/-- **How a call goes on with what it read.** -/
theorem resume_ok {task : ReadTask ι} (h : TaskOk sha256 before disk call task)
    {result : Except (MigrationError ι) (Option (ValidatedLedger (Inode ι)))}
    (hread : ReadResult dateParse sha256 before disk (task.path call) result) :
    PointOk dateParse sha256 before disk call (resume result task) := by
  cases result with
  | error error =>
    have hflaw := hread.unsound
    cases task with
    | legacyPlan | managedPlan | retained => exact hflaw
    | temporary job => exact ⟨h.1, hflaw⟩
    | existing job => exact ⟨h.1, hflaw⟩
    | published job => exact ⟨h.1, hflaw⟩
  | ok ledger =>
    cases task with
    | legacyPlan kind rest plans =>
      have hplans := h.1.set kind ⟨ledger, none⟩ hread.found
        (fun l hl => absurd hl (Option.not_mem_none l))
      exact ⟨⟨hplans, h.2⟩, trivial⟩
    | managedPlan kind rest plans =>
      have hplans := h.1.set kind ⟨(plans kind).legacy, ledger⟩
        (h.1.legacy kind) hread.found
      exact planRest_ok hplans h.2 rest
    | temporary job =>
      obtain ⟨hjob, hwritten⟩ := h
      rw [resume]
      -- the temporary file is there, and it holds what was written
      have hmatch : ledger.any (ledgersMatch job.source) = true := by
        cases ledger with
        | none =>
          have hnone : disk.entry before (.temporary call job.kind) = none := hread
          simp only [Disk.entry, hwritten.1] at hnone
          cases hnone
        | some ledger =>
          obtain ⟨hhash, file, hfile, hbytes⟩ := hread
          obtain ⟨source, hsource, heq⟩ := hjob.source
          obtain rfl := Option.some.inj (hfile.symm.trans hsource)
          rw [Option.any_some, heq, ledgersMatch, hhash, hbytes]
          simp
      rw [if_pos hmatch]
      exact ⟨hjob, hwritten⟩
    | existing job =>
      obtain ⟨hjob, hthere⟩ := h
      rw [resume]
      by_cases hmatch : ledger.any (ledgersMatch job.source) = true
      · rw [if_pos hmatch]
        exact ⟨hjob, fun hfalse => absurd hfalse Bool.false_ne_true⟩
      · rw [if_neg hmatch]
        exact ⟨hjob, fun hsound => hmatch (hjob.matches hsound hread hthere)⟩
    | published job =>
      obtain ⟨hjob, hthere⟩ := h
      have hne : disk.managed job.kind ≠ none := by
        rw [hthere]
        exact Option.some_ne_none _
      rw [resume]
      by_cases hmatch : ledger.any (ledgersMatch job.source) = true
      · rw [if_pos hmatch]
        exact ⟨hjob, fun _ => hthere⟩
      · rw [if_neg hmatch]
        exact ⟨hjob, fun hsound => hmatch (hjob.matches hsound hread hne)⟩
    | retained kind legacy rest course =>
      obtain ⟨hcourse, file, hfile, rfl⟩ := h
      rw [resume]
      have hsame : ledger.any
          (sameSourceSnapshot ⟨file.bytes, sha256 file.bytes, .legacy kind⟩) = true := by
        cases ledger with
        | none =>
          have hnone : disk.entry before (.legacy kind) = none := hread
          rw [Disk.entry, Option.mem_def.1 hfile] at hnone
          cases hnone
        | some ledger =>
          obtain ⟨current, hcurrent, rfl⟩ := hread
          obtain rfl := Option.some.inj (hfile.symm.trans hcurrent)
          simp [sameSourceSnapshot, ledgersMatch]
      rw [if_pos hsame]
      exact assertRetained_ok hcourse rest

end control

/-! ## An access of a call -/

section calls

variable {ι : Type} [DecidableEq ι] {dateParse : JsString → Option ℤ}
  {sha256 : List UInt8 → JsString} {before : LedgerFiles} {disk disk' : Disk ι} {call : ι}

@[simp] theorem write_temporary (kind : OpenRouterLedgerKind) (file : StoredFile) :
    (disk.write call kind file).temporary = disk.temporary := rfl

@[simp] theorem name_written (kind : OpenRouterLedgerKind) (named : Bool) :
    (disk.name call kind named).written = disk.written := rfl

@[simp] theorem write_written_self (kind : OpenRouterLedgerKind) (file : StoredFile) :
    (disk.write call kind file).written call kind = file := by
  simp [Disk.write]

@[simp] theorem name_temporary_self (kind : OpenRouterLedgerKind) (named : Bool) :
    (disk.name call kind named).temporary call kind = named := by
  simp [Disk.name]

theorem write_written_of_ne {kind other : OpenRouterLedgerKind} (file : StoredFile)
    (h : other ≠ kind) : (disk.write call kind file).written call other =
      disk.written call other := by
  simp [Disk.write, h]

theorem name_temporary_of_ne {kind other : OpenRouterLedgerKind} (named : Bool)
    (h : other ≠ kind) : (disk.name call kind named).temporary call other =
      disk.temporary call other := by
  simp [Disk.name, h]

/-- A call that writes its own file while it is not a whole ledger disturbs nobody. -/
theorem grows_write {kind : OpenRouterLedgerKind} {file : StoredFile}
    (h : Settled before disk (.temporary call kind) → file = disk.written call kind) :
    Grows before call disk (disk.write call kind file) := by
  refine ⟨fun _ _ hm => hm, fun other hne => ⟨?_, rfl⟩, fun k hs => ?_⟩
  · exact Function.update_of_ne hne ..
  · by_cases hk : k = kind
    · subst hk
      rw [write_written_self]
      exact h hs
    · exact write_written_of_ne file hk

theorem grows_name (kind : OpenRouterLedgerKind) (named : Bool) :
    Grows before call disk (disk.name call kind named) :=
  ⟨fun _ _ hm => hm, fun _ hne => ⟨rfl, Function.update_of_ne hne ..⟩, fun _ _ => rfl⟩

/-- A piece of a text behind what was written of it. -/
theorem take_piece {α : Type} (text : List α) (done count : ℕ) :
    text.take (done + ((text.drop done).take count).length) =
      text.take done ++ (text.drop done).take count := by
  rw [List.take_add, List.length_take, ← List.take_eq_take_min]

/-- What an access has to keep. -/
structure AccessOk (dateParse : JsString → Option ℤ) (sha256 : List UInt8 → JsString)
    (before : LedgerFiles) (call : ι) (disk : Disk ι) (next : CallPoint ι × Disk ι) : Prop where
  point : PointOk dateParse sha256 before next.2 call next.1
  files : DiskOk before next.2
  grows : Grows before call disk next.2

/-- **An access of a call keeps what the calls know.** -/
theorem accessStep_ok {point : CallPoint ι} {next : CallPoint ι × Disk ι} {count : ℕ}
    (h : PointOk dateParse sha256 before disk call point) (hd : DiskOk before disk)
    (hnext : accessStep dateParse sha256 before call disk count point = some next) :
    AccessOk dateParse sha256 before call disk next := by
  cases point with
  | reading task phase =>
    have hread := @readStep_ok _ dateParse sha256 _ _ _ _ _ h.2 (h.1.rests hd) count
    rw [ReadTask.kind_path] at hread
    rw [accessStep] at hnext
    cases hstep : readStep dateParse sha256 before disk (task.path call) task.kind count phase with
    | inl phase' =>
      rw [hstep] at hread hnext
      obtain rfl := Option.some.inj hnext
      exact ⟨⟨h.1, hread⟩, hd, .refl⟩
    | inr result =>
      rw [hstep] at hread hnext
      obtain rfl := Option.some.inj hnext
      exact ⟨resume_ok h.1 hread, hd, .refl⟩
  | creating job =>
    obtain ⟨hjob, hunnamed, hblank⟩ := h
    rw [accessStep, hunnamed, if_neg Bool.false_ne_true] at hnext
    obtain rfl := Option.some.inj hnext
    -- a file that was not made is not settled
    have hg : Grows before call disk
        ((disk.name call job.kind true).write call job.kind ⟨⟨true, []⟩, 0⟩) := by
      refine (grows_name job.kind true).trans (grows_write fun hs => ?_)
      obtain ⟨file, -, heq⟩ := hs
      rw [name_written] at heq
      rw [heq] at hblank
      cases hblank
    refine ⟨⟨hjob.own hg fun kind hne => ⟨?_, ?_⟩, ?_, ?_⟩, hd.grows hg rfl, hg⟩
    · rw [write_written_of_ne _ hne, name_written]
    · rw [write_temporary, name_temporary_of_ne _ hne]
    · rw [write_temporary, name_temporary_self]
    · rw [write_written_self, List.take_zero]
  | writing job done =>
    obtain ⟨hjob, hnamed, hwritten⟩ := h
    rw [accessStep] at hnext
    by_cases hpiece : (job.source.bytes.drop done).take (count + 1) = []
    · rw [if_pos hpiece] at hnext
      obtain rfl := Option.some.inj hnext
      have hend : job.source.bytes.drop done = [] := by
        rcases List.take_eq_nil_iff.1 hpiece with hzero | hnil
        · omega
        · exact hnil
      have hall : job.source.bytes.take done = job.source.bytes :=
        List.take_of_length_le (List.drop_eq_nil_iff.1 hend)
      rw [hall] at hwritten
      exact ⟨⟨hjob, hnamed, hwritten⟩, hd, .refl⟩
    · rw [if_neg hpiece] at hnext
      obtain rfl := Option.some.inj hnext
      have hg : Grows before call disk (disk.write call job.kind
          ⟨{ (disk.written call job.kind).file with
              bytes := (disk.written call job.kind).file.bytes ++
                (job.source.bytes.drop done).take (count + 1) },
            (disk.written call job.kind).mtimeNs + 1⟩) := by
        refine grows_write fun hs => ?_
        -- a file with a piece missing is not settled
        obtain ⟨file, hfile, heq⟩ := hs
        obtain ⟨source, hsource, hsame⟩ := hjob.source
        obtain rfl := Option.some.inj (Eq.trans (Eq.symm hfile) hsource)
        rw [hwritten] at heq
        have hbytes := congrArg LedgerFile.bytes heq
        have hsplit := List.take_append_drop done job.source.bytes
        rw [hsame] at hbytes hsplit hpiece
        dsimp only at hbytes hsplit hpiece
        rw [hbytes] at hsplit
        have hdrop : file.bytes.drop done = [] := List.append_right_eq_self.1 hsplit
        rw [hdrop, List.take_nil] at hpiece
        exact absurd rfl hpiece
      refine ⟨⟨hjob.own hg fun kind hne => ⟨?_, rfl⟩, hnamed, ?_⟩, hd.grows hg rfl, hg⟩
      · exact write_written_of_ne _ hne
      · rw [write_written_self, hwritten, take_piece]
  | sizing job =>
    obtain ⟨hjob, hnamed, hwritten⟩ := h
    have hsize : ¬(disk.written call job.kind).file.bytes.length ≠ job.source.bytes.length := by
      rw [hwritten]
      exact not_not_intro rfl
    rw [accessStep, if_neg hsize] at hnext
    obtain rfl := Option.some.inj hnext
    exact ⟨⟨⟨hjob, hnamed, hwritten⟩, trivial⟩, hd, .refl⟩
  | linking job =>
    obtain ⟨hjob, hwritten⟩ := h
    rw [accessStep] at hnext
    cases hmanaged : disk.managed job.kind with
    | some inode =>
      rw [hmanaged] at hnext
      obtain rfl := Option.some.inj hnext
      refine ⟨⟨⟨hjob, ?_⟩, trivial⟩, hd, .refl⟩
      rw [hmanaged]
      exact Option.some_ne_none inode
    | none =>
      rw [hmanaged] at hnext
      obtain rfl := Option.some.inj hnext
      have hg : Grows before call disk (disk.link call job.kind) := by
        refine ⟨fun k inode hk => ?_, fun _ _ => ⟨rfl, rfl⟩, fun _ _ => rfl⟩
        have hne : k ≠ job.kind := by
          rintro rfl
          rw [hmanaged] at hk
          cases hk
        rw [← hk]
        exact Function.update_of_ne hne ..
      refine ⟨⟨⟨hjob.own hg fun _ _ => ⟨rfl, rfl⟩, ?_⟩, trivial⟩, fun k => ?_, hg⟩
      · exact Function.update_self ..
      · by_cases hk : k = job.kind
        · -- the name was free, so there was no such ledger before
          subst hk
          refine .inr ⟨?_, call, Function.update_self .., hwritten.settled hjob.source⟩
          rcases hd job.kind with hsame | ⟨hnone, -⟩
          · rw [hmanaged] at hsame
            exact Option.map_eq_none_iff.1 hsame.symm
          · exact hnone
        · rcases hd k with hsame | ⟨hnone, maker, hmaker, hsettled⟩
          · refine .inl ?_
            rw [← hsame]
            exact Function.update_of_ne hk ..
          · refine .inr ⟨hnone, maker, ?_, hsettled⟩
            rw [← hmaker]
            exact Function.update_of_ne hk ..
  | unlinking job outcome =>
    obtain ⟨hjob, houtcome⟩ := h
    have hg : Grows before call disk (disk.name call job.kind false) := grows_name job.kind false
    have hjob' := hjob.own hg fun kind hne => ⟨rfl, name_temporary_of_ne _ hne⟩
    rw [accessStep.eq_def] at hnext
    dsimp only at hnext
    cases outcome with
    | error error =>
      obtain rfl := Option.some.inj hnext
      exact ⟨houtcome, hd.grows hg rfl, hg⟩
    | ok published =>
      obtain rfl := Option.some.inj hnext
      have hcourse : CourseOk sha256 before (disk.name call job.kind false) call
          { job.course with
            migrated := job.course.migrated ++ if published then [job.kind] else [] } := by
        refine ⟨hjob'.course.plans, fun kind hk => ?_⟩
        rcases List.mem_append.1 hk with hold | hnew
        · exact hjob'.course.migrated kind hold
        · cases published with
          | false => exact absurd hnew List.not_mem_nil
          | true =>
            obtain rfl := List.mem_singleton.1 hnew
            exact houtcome rfl
      exact ⟨publishRest_ok hcourse hjob'.fresh (List.nodup_cons.1 hjob.nodup).2,
        hd.grows hg rfl, hg⟩
  | ended result => cases hnext
  | dead => cases hnext

end calls

/-! ## Runs -/

section runs

variable {ι : Type} [DecidableEq ι] {dateParse : JsString → Option ℤ}
  {sha256 : List UInt8 → JsString} {before : LedgerFiles} {s s' : MigrationSystem ι}

/-- What holds in every state of a run. -/
structure Consistent (dateParse : JsString → Option ℤ) (sha256 : List UInt8 → JsString)
    (before : LedgerFiles) (s : MigrationSystem ι) : Prop where
  files : DiskOk before s.shared
  points : ∀ call, PointOk dateParse sha256 before s.shared call (s.point call)

omit [DecidableEq ι] in
theorem consistent_initial :
    Consistent dateParse sha256 before (MigrationSystem.initial before : MigrationSystem ι) := by
  refine ⟨fun kind => .inl rfl, fun call => ?_⟩
  have hplans : PlansOk sha256 before (fun _ => ⟨none, none⟩ : Plans (Inode ι)) :=
    ⟨fun _ l hl => absurd hl (Option.not_mem_none l),
      fun _ l hl => absurd hl (Option.not_mem_none l)⟩
  exact planRest_ok hplans (fun _ => ⟨rfl, rfl⟩) ledgerSpecs

/-- What a step of a call is: it dies, or it makes its next access. -/
theorem migrationProgram_cases {call : ι} {action : CallAction} {next : CallPoint ι × Disk ι}
    (h : migrationProgram dateParse sha256 before call action s = some next) :
    next = (.dead, s.shared) ∨ ∃ count,
      accessStep dateParse sha256 before call s.shared count (s.point call) = some next := by
  unfold migrationProgram at h
  cases hpoint : s.point call with
  | dead | ended =>
    rw [hpoint] at h
    cases h
  | reading | creating | writing | sizing | linking | unlinking =>
    rw [hpoint] at h
    cases action with
    | crash => exact .inl (Option.some.inj h).symm
    | proceed count => exact .inr ⟨count, h⟩

/-- A step keeps what the calls know, and disturbs nothing that is settled. -/
theorem Consistent.step {call : ι} {action : CallAction} {next : CallPoint ι × Disk ι}
    (h : Consistent dateParse sha256 before s)
    (hnext : migrationProgram dateParse sha256 before call action s = some next) :
    Consistent dateParse sha256 before (s.move call next) ∧
      Grows before call s.shared next.2 := by
  have haccess : AccessOk dateParse sha256 before call s.shared next := by
    rcases migrationProgram_cases hnext with rfl | ⟨count, hstep⟩
    · exact ⟨trivial, h.files, .refl⟩
    · exact accessStep_ok (h.points call) h.files hstep
  refine ⟨⟨haccess.files, fun other => ?_⟩, haccess.grows⟩
  by_cases hother : other = call
  · subst hother
    rw [move_point_self]
    exact haccess.point
  · rw [move_point_of_ne _ _ hother]
    exact (h.points other).grows haccess.grows hother

theorem consistent_run (h : Consistent dateParse sha256 before s)
    (hr : MigrationRun dateParse sha256 before s s') : Consistent dateParse sha256 before s' :=
  hr.invariant (fun _ _ _ _ hc _ hnext => (hc.step hnext).1) h

omit [DecidableEq ι] in
/-- A managed ledger that is there is one of those that lay there before, or a legacy one. -/
theorem DiskOk.managedBytes {disk : Disk ι} (h : DiskOk before disk)
    (kind : OpenRouterLedgerKind) :
    disk.managedBytes before kind = (before.managed kind).map (·.bytes) ∨
      before.managed kind = none ∧ ∃ file, before.legacy kind = some file ∧
        disk.managedBytes before kind = some file.bytes := by
  unfold Disk.managedBytes
  rcases h kind with hsame | ⟨hnone, maker, hmaker, file, hfile, hwritten⟩
  · rw [hsame]
    refine .inl ?_
    cases hbefore : before.managed kind with
    | none => rfl
    | some file => simp only [Option.map_some, Disk.stored, hbefore, Option.getD_some]
  · refine .inr ⟨hnone, file, hfile, ?_⟩
    rw [hmaker, Option.map_some, Disk.stored, hwritten]

/-- What a managed ledger holds is never changed. -/
theorem managedBytes_run (h : Consistent dateParse sha256 before s)
    (hr : MigrationRun dateParse sha256 before s s') {kind : OpenRouterLedgerKind}
    {bytes : List UInt8} (hbytes : s.shared.managedBytes before kind = some bytes) :
    s'.shared.managedBytes before kind = some bytes := by
  have hboth : Consistent dateParse sha256 before s' ∧
      s'.shared.managedBytes before kind = some bytes := by
    refine hr.invariant (P := fun t => Consistent dateParse sha256 before t ∧
      t.shared.managedBytes before kind = some bytes) ?_ ⟨h, hbytes⟩
    rintro t call action next ⟨hc, ht⟩ - hnext
    obtain ⟨hc', hg⟩ := hc.step hnext
    refine ⟨hc', ?_⟩
    obtain ⟨inode, hmanaged, hstored⟩ := Option.map_eq_some_iff.1 ht
    have hrests := (hc.files.rests kind inode hmanaged).1
    have hkept := (hrests.grows hg).2
    unfold Disk.managedBytes
    rw [move_shared, hg.managed kind inode hmanaged, Option.map_some, hkept, hstored]
  exact hboth.2

/-- **Ledgers are published as a whole and once.** Whatever calls of the migration run
next to each other, and wherever they die: a managed ledger is what was there before,
or where there was none a whole copy of the legacy ledger; what is there once stays;
each ledger is reported as migrated by one call at most; and where the ledgers are
sound every call that comes to its end returns. -/
theorem publication_atomic
    (hr : MigrationRun dateParse sha256 before (MigrationSystem.initial before) s) :
    (∀ kind, s.shared.managedBytes before kind = (before.managed kind).map (·.bytes) ∨
      before.managed kind = none ∧ ∃ file, before.legacy kind = some file ∧
        s.shared.managedBytes before kind = some file.bytes) ∧
    (∀ s', MigrationRun dateParse sha256 before s s' → ∀ kind bytes,
      s.shared.managedBytes before kind = some bytes →
        s'.shared.managedBytes before kind = some bytes) ∧
    (∀ kind (call call' : ι) result result', s.point call = .ended (.ok result) →
      s.point call' = .ended (.ok result') → .managed kind ∈ result.migratedFiles →
        .managed kind ∈ result'.migratedFiles → call = call') ∧
    (Migratable dateParse sha256 before → ∀ call result, s.point call = .ended result →
      ∃ r, result = .ok r) := by
  have hc := consistent_run consistent_initial hr
  refine ⟨hc.files.managedBytes, fun s' hr' kind bytes hb => managedBytes_run hc hr' hb, ?_, ?_⟩
  · intro kind call call' result result' hpoint hpoint' hmem hmem'
    have hfirst := hc.points call
    have hsecond := hc.points call'
    rw [hpoint] at hfirst
    rw [hpoint'] at hsecond
    -- the name of the ledger leads to one file only
    have hsame := (hfirst kind hmem).symm.trans (hsecond kind hmem')
    injection hsame with hinode
    exact (Inode.temporary.inj hinode).1
  · intro hsound call result hpoint
    have hend := hc.points call
    rw [hpoint] at hend
    cases result with
    | error error => exact absurd hsound hend
    | ok result => exact ⟨result, rfl⟩

/-! ### A call on its own -/

/-- A call makes its next access. -/
theorem access_alone {call : ι} {point : CallPoint ι} {disk : Disk ι} (count : ℕ)
    (next : CallPoint ι × Disk ι)
    (hr : MigrationRun dateParse sha256 before s (s.move call (point, disk)))
    (hstep : accessStep dateParse sha256 before call disk count point = some next) :
    MigrationRun dateParse sha256 before s (s.move call next) := by
  have hnext : migrationProgram dateParse sha256 before call (.proceed count)
      (s.move call (point, disk)) = some next := by
    unfold migrationProgram
    rw [move_point_self, move_shared]
    cases point with
    | dead | ended => cases hstep
    | reading | creating | writing | sizing | linking | unlinking => exact hstep
  exact hr.go (.proceed count) trivial hnext

/-- A call finds no ledger. -/
theorem read_alone_none {call : ι} {task : ReadTask ι} {disk : Disk ι}
    (hr : MigrationRun dateParse sha256 before s
      (s.move call (.reading task .looking, disk)))
    (hentry : disk.entry before (task.path call) = none) :
    MigrationRun dateParse sha256 before s (s.move call (resume (.ok none) task, disk)) := by
  refine access_alone 0 _ hr ?_
  rw [accessStep, readStep, hentry]

/-- A call reads a sound ledger. -/
theorem read_alone_some {call : ι} {task : ReadTask ι} {disk : Disk ι} (inode : Inode ι)
    (hr : MigrationRun dateParse sha256 before s
      (s.move call (.reading task .looking, disk)))
    (hentry : disk.entry before (task.path call) = some inode)
    (hsound : SoundLedger dateParse task.kind (disk.stored before inode).file) :
    MigrationRun dateParse sha256 before s (s.move call
      (resume (.ok (some ⟨(disk.stored before inode).file.bytes,
        sha256 (disk.stored before inode).file.bytes, inode⟩)) task, disk)) := by
  obtain ⟨hfile, hsize, hvalid⟩ := hsound
  have hfile' : (disk.stats before inode).isFile = true := hfile
  have hsize' : (disk.stats before inode).size ≤ openrouterLedgerMaxBytes := hsize
  have hlooked := access_alone 0
    (.reading task (.opening (disk.stats before inode)), disk) hr (by
      rw [accessStep, readStep, hentry]
      dsimp only
      rw [if_neg (not_not_intro hfile'), if_neg (not_lt_of_ge hsize')])
  have hopened := access_alone 0
    (.reading task (.opened (disk.stats before inode) inode), disk) hlooked (by
      rw [accessStep, readStep, hentry])
  have hstart := access_alone 0
    (.reading task (.reading (disk.stats before inode) []), disk) hopened (by
      rw [accessStep, readStep, if_neg]
      rintro (hnot | hne | hlarge)
      · exact hnot hfile'
      · exact hne rfl
      · exact absurd hsize' (not_le_of_gt hlarge))
  -- all bytes come in one piece, if there are any
  have hpieces : MigrationRun dateParse sha256 before s (s.move call (.reading task
      (.reading (disk.stats before inode) (disk.stored before inode).file.bytes), disk)) := by
    by_cases hempty : (disk.stored before inode).file.bytes = []
    · rw [hempty]
      exact hstart
    · refine access_alone (disk.stored before inode).file.bytes.length _ hstart ?_
      have hpiece : ((disk.stored before inode).file.bytes.drop ([] : List UInt8).length).take
          (min ((disk.stored before inode).file.bytes.length + 1)
            (openrouterLedgerMaxBytes + 1 - ([] : List UInt8).length)) =
          (disk.stored before inode).file.bytes := by
        refine List.take_of_length_le ?_
        rw [List.length_nil, List.drop_zero]
        omega
      have hinode : (disk.stats before inode).inode = inode := rfl
      rw [accessStep, readStep, hinode, hpiece, if_neg hempty, List.nil_append]
  have hclosing := access_alone 0
    (.reading task
      (.closing (disk.stats before inode) (disk.stored before inode).file.bytes), disk) hpieces (by
      have hinode : (disk.stats before inode).inode = inode := rfl
      rw [accessStep, readStep, hinode, List.drop_length, List.take_nil, if_pos rfl,
        if_neg (not_lt_of_ge hsize)])
  refine access_alone 0 _ hclosing ?_
  have hinode : (disk.stats before inode).inode = inode := rfl
  rw [accessStep, readStep, hinode, if_neg]
  · unfold validatedLedger
    rw [hvalid]
    rfl
  · rintro (hne | hne | hne) <;> exact hne rfl

section publishing

variable {call : ι} {job : Job ι} {disk : Disk ι}

/-- A call writes its temporary file. -/
theorem write_alone (hr : MigrationRun dateParse sha256 before s
      (s.move call (.creating job, disk)))
    (hnamed : disk.temporary call job.kind = false) :
    ∃ disk' : Disk ι, Written disk' call job ∧ disk'.managed = disk.managed ∧
      MigrationRun dateParse sha256 before s (s.move call (.sizing job, disk')) := by
  have hcreated := access_alone 0 (.writing job 0,
      (disk.name call job.kind true).write call job.kind ⟨⟨true, []⟩, 0⟩) hr (by
    rw [accessStep, hnamed, if_neg Bool.false_ne_true])
  by_cases hempty : job.source.bytes = []
  · have hdone := access_alone 0 (.sizing job,
        (disk.name call job.kind true).write call job.kind ⟨⟨true, []⟩, 0⟩) hcreated (by
      rw [accessStep, hempty, List.drop_nil, List.take_nil, if_pos rfl])
    refine ⟨_, ⟨?_, ?_⟩, ?_, hdone⟩
    · rw [write_temporary, name_temporary_self]
    · rw [write_written_self, hempty]
    · rfl
  · -- all bytes go in one piece
    have hpiece : (job.source.bytes.drop 0).take (job.source.bytes.length + 1) =
        job.source.bytes := by
      rw [List.drop_zero]
      exact List.take_of_length_le (Nat.le_succ _)
    have hwritten := access_alone job.source.bytes.length (.writing job job.source.bytes.length,
          ((disk.name call job.kind true).write call job.kind ⟨⟨true, []⟩, 0⟩).write call job.kind
            ⟨⟨true, job.source.bytes⟩, 1⟩) hcreated (by
      rw [accessStep, hpiece, if_neg hempty, write_written_self, Nat.zero_add]
      rfl)
    have hdone := access_alone 0 (.sizing job,
        ((disk.name call job.kind true).write call job.kind ⟨⟨true, []⟩, 0⟩).write call job.kind
          ⟨⟨true, job.source.bytes⟩, 1⟩) hwritten (by
      rw [accessStep, List.drop_length, List.take_nil, if_pos rfl])
    refine ⟨_, ⟨?_, ?_⟩, ?_, hdone⟩
    · rw [write_temporary, write_temporary, name_temporary_self]
    · rw [write_written_self]
    · rfl

/-- A call publishes a ledger that is not there. -/
theorem job_alone (hr : MigrationRun dateParse sha256 before s
      (s.move call (.creating job, disk)))
    (hnamed : disk.temporary call job.kind = false) (hfree : disk.managed job.kind = none)
    (hsound : SoundLedger dateParse job.kind ⟨true, job.source.bytes⟩)
    (hhash : job.source.hash = sha256 job.source.bytes) :
    ∃ disk' : Disk ι, MigrationRun dateParse sha256 before s (s.move call (publishRest
      { job.course with migrated := job.course.migrated ++ [job.kind] } job.rest, disk')) := by
  obtain ⟨disk₁, ⟨hnamed₁, hwritten₁⟩, hmanaged₁, hsizing⟩ := write_alone hr hnamed
  have hmatch : ∀ inode : Inode ι, (some (⟨job.source.bytes, sha256 job.source.bytes, inode⟩ :
      ValidatedLedger (Inode ι))).any (ledgersMatch job.source) = true := by
    intro inode
    rw [Option.any_some, ledgersMatch, hhash]
    simp
  have hstored : (disk₁.stored before (.temporary call job.kind)).file =
      ⟨true, job.source.bytes⟩ := hwritten₁
  -- the temporary file is read back
  have htemporary := access_alone 0
      (.reading (.temporary job) .looking, disk₁) hsizing (by
    rw [accessStep, hwritten₁, if_neg (not_not_intro rfl)])
  have hread := read_alone_some (.temporary call job.kind) htemporary (by
    rw [ReadTask.path, Disk.entry, if_pos hnamed₁]) (by
    rw [hstored]
    exact hsound)
  rw [hstored, resume, if_pos (hmatch _)] at hread
  -- it is linked, and the ledger is read
  have hlinked := access_alone 0
      (.reading (.published job) .looking, disk₁.link call job.kind) hread (by
    rw [accessStep, hmanaged₁, hfree])
  have hstored' : ((disk₁.link call job.kind).stored before (.temporary call job.kind)).file =
      ⟨true, job.source.bytes⟩ := hwritten₁
  have hpublished := read_alone_some (.temporary call job.kind) hlinked
    (Function.update_self ..) (by
      rw [hstored']
      exact hsound)
  rw [hstored', resume, if_pos (hmatch _)] at hpublished
  exact ⟨_, access_alone 0 _ hpublished (accessStep.eq_def ..)⟩

end publishing

end runs

/-! ## A ledger that is published, and one that is refused -/

section lone

variable {ι : Type} [DecidableEq ι] {dateParse : JsString → Option ℤ}
  {sha256 : List UInt8 → JsString}

/-- A call has begun. -/
theorem begin_alone (before : LedgerFiles) (call : ι) :
    MigrationRun dateParse sha256 before (MigrationSystem.initial before)
      ((MigrationSystem.initial before).move call (callStart, .initial before)) := by
  have hsame : (MigrationSystem.initial before : MigrationSystem ι).move call
      (callStart, .initial before) = MigrationSystem.initial before := by
    unfold Parallel.move MigrationSystem.initial
    rw [Function.update_eq_self_iff.2 rfl]
  rw [hsame]

/-- A legacy ledger that was retained is found unchanged. -/
theorem retained_alone {before : LedgerFiles} {s : MigrationSystem ι} {call : ι}
    {kind : OpenRouterLedgerKind} {rest : List OpenRouterLedgerKind} {course : Course ι}
    {disk : Disk ι} {file : LedgerFile} (hfile : before.legacy kind = some file)
    (hsound : SoundLedger dateParse kind file)
    (hr : MigrationRun dateParse sha256 before s (s.move call (.reading
      (.retained kind ⟨file.bytes, sha256 file.bytes, .legacy kind⟩ rest course) .looking,
      disk))) :
    MigrationRun dateParse sha256 before s (s.move call (assertRetained course rest, disk)) := by
  have hentry : disk.entry before (.legacy kind) = some (.legacy kind) := by
    rw [Disk.entry, hfile, Option.map_some]
  have hstored : (disk.stored before (.legacy kind)).file = file := by
    rw [Disk.stored, hfile, Option.getD_some]
  have hread := read_alone_some _ hr hentry (by
    rw [hstored]
    exact hsound)
  have hsame : (some (⟨file.bytes, sha256 file.bytes, .legacy kind⟩ :
      ValidatedLedger (Inode ι))).any
        (sameSourceSnapshot ⟨file.bytes, sha256 file.bytes, .legacy kind⟩) = true := by
    simp [sameSourceSnapshot, ledgersMatch]
  rwa [hstored, resume, if_pos hsame] at hread

/-- A call that publishes a ledger on its own comes to its end. -/
theorem publish_alone {file : LedgerFile} (hsound : SoundLedger dateParse .attempt file)
    (call : ι) :
    ∃ s : MigrationSystem ι, MigrationRun dateParse sha256 (onlyAttempts file)
        (MigrationSystem.initial (onlyAttempts file)) s ∧
      ∃ result, s.point call = .ended (.ok result) ∧
        .managed .attempt ∈ result.migratedFiles := by
  -- the plans
  have hbegin : MigrationRun dateParse sha256 _ _ _ := begin_alone (onlyAttempts file) call
  have h₁ := read_alone_some (.legacy .attempt) hbegin rfl hsound
  have h₂ := read_alone_none h₁ rfl
  have h₃ := read_alone_none h₂ rfl
  have h₄ := read_alone_none h₃ rfl
  obtain ⟨disk, hpublished⟩ := job_alone h₄ rfl rfl ⟨rfl, hsound.2⟩ rfl
  -- the legacy ledger is read once more, and there is no other
  have h₅ := retained_alone rfl hsound hpublished
  exact ⟨_, h₅, _, move_point_self .., List.mem_singleton_self _⟩

end lone

/-- A call publishes a ledger of one attempt, and what holds in every run holds at its end. -/
theorem publication_atomic_sample :
    ∃ s : MigrationSystem Bool,
      (∃ result, s.point true = .ended (.ok result) ∧
        .managed .attempt ∈ result.migratedFiles) ∧
      (∀ kind, s.shared.managedBytes (onlyAttempts sampleLedger) kind = none ∨
        ∃ file, (onlyAttempts sampleLedger).legacy kind = some file ∧
          s.shared.managedBytes (onlyAttempts sampleLedger) kind = some file.bytes) ∧
      ∀ call result, s.point call = .ended result → ∃ r, result = .ok r := by
  obtain ⟨s, hr, hend⟩ := @publish_alone Bool _ _ sampleDigest _ sampleLedger_sound true
  have hatomic := publication_atomic hr
  refine ⟨s, hend, fun kind => ?_, hatomic.2.2.2 onlyAttempts_migratable⟩
  rcases hatomic.1 kind with hsame | ⟨-, hcopy⟩
  · exact .inl hsame
  · exact .inr hcopy

/-- **A legacy ledger that is not sound is refused.** A call that finds a byte order mark
in it comes to its end by throwing. -/
theorem malformed_ledger_refused :
    ¬∀ (dateParse : JsString → Option ℤ) (sha256 : List UInt8 → JsString) (before : LedgerFiles)
      (s : MigrationSystem Bool), (∀ kind, before.managed kind = none) →
      MigrationRun dateParse sha256 before (MigrationSystem.initial before) s →
      ∀ call result, s.point call = .ended result → ∃ r, result = .ok r := by
  intro hclaim
  have hrun : execute (migrationProgram sampleDateParse sampleDigest
      (onlyAttempts ⟨true, [0xef, 0xbb, 0xbf]⟩))
      [(true, .proceed 0), (true, .proceed 0), (true, .proceed 0), (true, .proceed 2),
        (true, .proceed 0), (true, .proceed 0)]
      (MigrationSystem.initial (onlyAttempts ⟨true, [0xef, 0xbb, 0xbf]⟩)) = some _ := rfl
  have hend := hclaim sampleDateParse sampleDigest _ _ (fun _ => rfl) (run_of_execute hrun) true
    _ rfl
  obtain ⟨r, hr⟩ := hend
  cases hr

end Autopilot.LedgerMigration
