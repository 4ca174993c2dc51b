/-
Restoring a backup of the state directory (`restoreStateBackup` of `stateRecovery.ts`).

The archive is copied to a staging folder beside the target, checked there, and its files are
made in the staging folder. Then an empty target is removed and the staging folder takes its
place. Whatever is thrown after the staging folder is there goes through one clean-up: the
staging folder is deleted, and a target that was removed and is missing is made again.

Every call that touches the file system is a step that may fail. A step that fails has no
effect, except that the staging folder may hold a part of what was written: nothing reads it
again, and it is left as it was before the step.
-/
import Autopilot.BackupArchives

set_option autoImplicit false

namespace Autopilot
namespace StateRecovery

open FileTree (Apart Made create createAll filesIn)
open Incidents (IsoTimestamp)
open Prog (Fault)
open StateBackups
open StateLogs (Bytes)

/-! ## The folders -/

/-- A directory: its mode and what stands in it. -/
structure Directory where
  mode : ℕ
  entries : StateEntries

namespace Directory

/-- The content of a file that stands in the directory itself. -/
def contentOf (name : JsString) (directory : Directory) : Option Bytes :=
  directory.entries.findSome? fun
    | (other, .file content) => if other = name then some content else none
    | _ => none

def remove (name : JsString) (directory : Directory) : Directory :=
  { directory with entries := directory.entries.filter fun entry => entry.1 ≠ name }

/-- Make a file, with the folders on the way to it. -/
def createFile (path : StatePath) (content : Bytes) (directory : Directory) : Option Directory :=
  (create content path directory.entries).map fun entries => { directory with entries }

end Directory

/-- `0o700`. -/
def privateMode : ℕ := 448

/-- What stands at the path of the target. -/
inductive Target where
  | absent
  /-- A link that leads nowhere: `existsSync` does not see it. -/
  | brokenLink
  /-- Neither a directory nor a broken link. -/
  | other
  | directory (directory : Directory)

/-- `existsSync`. -/
def Target.isThere : Target → Bool
  | .absent | .brokenLink => false
  | .other | .directory _ => true

structure RestoreState where
  target : Target
  staging : Option Directory
  targetRemoved : Bool

/-- A target before a restore. -/
def RestoreState.start (target : Target) : RestoreState := ⟨target, none, false⟩

/-! ## The steps -/

/-- The calls that can fail, those for a file with its place in the archive. -/
inductive RestoreStep where
  | inspectTarget | makeStaging | protectStaging
  | copyArchive | protectSnapshot | syncSnapshot | readForValidation | readSnapshot | removeSnapshot
  | makeFolders (file : ℕ) | openFile (file : ℕ) | writeFile (file : ℕ) | syncFile (file : ℕ)
  | closeFile (file : ℕ)
  | syncFolders | removeTarget | renameStaging | syncParent
  | removeStaging | remakeTarget
  deriving DecidableEq

/-- What a restore meets: the archive, the directory the target is in, the steps that fail, and
what is thrown where something stands in the way of a file or folder. -/
structure RecoveryHost extends BackupHost where
  archive : Bytes
  parentSafe : Bool
  stagingRoot : StatePath
  fails : RestoreStep → Option JsError
  clash : JsError

abbrev Restore (α : Type) := Prog (Fault JsError) RestoreState α

structure RestoreResult where
  applied : Bool
  fileCount : ℕ
  totalBytes : ℕ
  deriving DecidableEq

def archiveSnapshot : JsString := js ".validated-archive.json"

def validationFailed (validation : BackupValidation) : JsError :=
  .error (js "Error") (js "backup_validation_failed:" ++
    List.intercalate (js ",") validation.errors)

section restore

variable (host : RecoveryHost)

def perform (step : RestoreStep) : Restore Unit :=
  match host.fails step with
  | some error => throw error
  | none => pure ()

/-- `validateRestoreTarget`: whether the target exists. -/
def validateRestoreTarget : Restore Bool := do
  perform host .inspectTarget
  if !host.parentSafe then throw (JsError.new "unsafe_restore_target")
  else
    match (← get).target with
    | .absent | .brokenLink => pure false
    | .other => throw (JsError.new "unsafe_restore_target")
    | .directory directory =>
      if directory.entries.isEmpty then pure true
      else throw (JsError.new "restore_target_not_empty")

/-- Make a file in the staging folder, which is refused where something is in its way. -/
def createStaged (path : StatePath) (content : Bytes) : Restore Unit := do
  match (← get).staging.bind (·.createFile path content) with
  | none => throw host.clash
  | some staging => modify fun state => { state with staging := some staging }

/-- What reading the copy of the archive gives. -/
def readStaged (step : RestoreStep) : Restore (Except JsError Bytes) := do
  match host.fails step with
  | some error => pure (.error error)
  | none =>
    match (← get).staging.bind (·.contentOf archiveSnapshot) with
    | some bytes => pure (.ok bytes)
    | none => pure (.error (JsError.new "ENOENT"))

/-- `materializeRestoreFile`, of the file at a place in the archive. -/
def materializeRestoreFile (place : ℕ) (file : ArchiveFile) : Restore Unit := do
  let segments := segmentsOf file.path
  if segments.any isSpecialSegment || segments.head? = some authStateDirectoryName then
    throw (JsError.new "unsafe_restore_path")
  else if !staysBelow host.stagingRoot (resolveBelow host.stagingRoot segments) then
    throw (JsError.new "unsafe_restore_path")
  else
    perform host (.makeFolders place)
    perform host (.openFile place)
    createStaged host segments (Base64.decode file.data)
    tryCatch
      (do
        perform host (.writeFile place)
        perform host (.syncFile place))
      (fun error => do
        perform host (.closeFile place)
        throw error)
    perform host (.closeFile place)

def materializeFiles : ℕ → List ArchiveFile → Restore Unit
  | _, [] => pure ()
  | place, file :: files => do
    materializeRestoreFile host place file
    materializeFiles (place + 1) files

/-- The copy of the archive, checked, and its files in the staging folder. -/
def stageArchive : Restore BackupValidation := do
  perform host .copyArchive
  createStaged host [archiveSnapshot] host.archive
  perform host .protectSnapshot
  perform host .syncSnapshot
  let validation := validateStateBackup host.toBackupHost (← readStaged host .readForValidation)
  if !validation.valid then throw (validationFailed validation)
  else
    match ← readStaged host .readSnapshot with
    | .error error => throw error
    | .ok archive =>
      perform host .removeSnapshot
      modify fun state => { state with staging := state.staging.map (·.remove archiveSnapshot) }
      materializeFiles host 0 (archiveFiles host.toBackupHost archive)
      perform host .syncFolders
      pure validation

/-- `rename`, of the staging folder to the path of the target. -/
def renameStaging : Restore Unit := do
  perform host .renameStaging
  match (← get) with
  | ⟨.absent, some staging, removed⟩ => set (⟨.directory staging, none, removed⟩ : RestoreState)
  | _ => throw host.clash

/-- The staging folder takes the place of the target. -/
def swapIn (targetExists : Bool) (validation : BackupValidation) : Restore RestoreResult := do
  if targetExists then
    perform host .removeTarget
    modify fun state => { state with target := .absent, targetRemoved := true }
  renameStaging host
  perform host .syncParent
  pure ⟨true, validation.fileCount, validation.totalBytes⟩

/-- The clean-up of `restoreStateBackup`. -/
def cleanUp (error : JsError) : Restore RestoreResult := do
  perform host .removeStaging
  modify fun state => { state with staging := none }
  let state ← get
  if state.targetRemoved && !state.target.isThere then
    perform host .remakeTarget
    modify fun state => { state with target := .directory ⟨privateMode, []⟩ }
  throw error

/-- `restoreStateBackup`. -/
def restoreStateBackup (apply : Bool) : Restore RestoreResult := do
  if !apply then
    let validation := validateStateBackup host.toBackupHost
      (match host.fails .readForValidation with
        | some error => .error error
        | none => .ok host.archive)
    if !validation.valid then throw (validationFailed validation)
    else pure ⟨false, validation.fileCount, validation.totalBytes⟩
  else
    let targetExists ← validateRestoreTarget host
    perform host .makeStaging
    modify fun state => { state with staging := some ⟨privateMode, []⟩ }
    perform host .protectStaging
    tryCatch
      (do
        let validation ← stageArchive host
        swapIn host targetExists validation)
      (cleanUp host)

/-- What stands at the target after a restore. -/
def targetAfter (apply : Bool) (target : Target) : Target :=
  (restoreStateBackup host apply (.start target)).2.target

end restore

/-! ## A step that returns -/

section returns

variable {host : RecoveryHost} {α : Type} {s s' : RestoreState} {b : α}

theorem perform_bind_iff {step : RestoreStep} {rest : Unit → Restore α} :
    (perform host step >>= rest) s = (.ok b, s') ↔
      host.fails step = none ∧ rest () s = (.ok b, s') := by
  unfold perform
  cases h : host.fails step with
  | none => exact ⟨fun hrun => ⟨rfl, hrun⟩, fun hrun => hrun.2⟩
  | some error => exact ⟨fun hrun => (nomatch hrun), fun hrun => (nomatch hrun.1)⟩

theorem perform_iff {step : RestoreStep} {u : Unit} :
    perform host step s = (.ok u, s') ↔ host.fails step = none ∧ s = s' := by
  unfold perform
  cases h : host.fails step with
  | none =>
    refine ⟨fun hrun => ⟨rfl, (Prod.mk.inj hrun).2⟩, ?_⟩
    rintro ⟨-, rfl⟩
    rfl
  | some error => exact ⟨fun hrun => (nomatch hrun), fun hrun => (nomatch hrun.1)⟩

theorem createStaged_bind_iff {path : StatePath} {content : Bytes} {rest : Unit → Restore α} :
    (createStaged host path content >>= rest) s = (.ok b, s') ↔
      ∃ staging, s.staging.bind (·.createFile path content) = some staging ∧
        rest () { s with staging := some staging } = (.ok b, s') := by
  unfold createStaged
  rw [Prog.bind_run, Prog.bind_run, Prog.get_run]
  dsimp only
  cases s.staging.bind (·.createFile path content) with
  | none => exact ⟨fun h => (nomatch h), fun ⟨_, h, _⟩ => (nomatch h)⟩
  | some staging =>
    refine ⟨fun h => ⟨staging, rfl, h⟩, ?_⟩
    rintro ⟨staging', hstaging, h⟩
    cases hstaging
    exact h

theorem createStaged_bind_run {path : StatePath} {content : Bytes} {staging : Directory}
    (h : s.staging.bind (·.createFile path content) = some staging) (rest : Unit → Restore α) :
    (createStaged host path content >>= rest) s =
      rest () { s with staging := some staging } := by
  unfold createStaged
  rw [Prog.bind_run, Prog.bind_run, Prog.get_run]
  dsimp only
  rw [h]
  rfl

/-- Writing to a file returns when it is written, synced and closed. -/
theorem written_iff {place : ℕ} {u : Unit} :
    (tryCatch
      (do
        perform host (.writeFile place)
        perform host (.syncFile place))
      (fun error => do
        perform host (.closeFile place)
        throw error) >>= fun _ => perform host (.closeFile place)) s = (.ok u, s') ↔
      host.fails (.writeFile place) = none ∧ host.fails (.syncFile place) = none ∧
        host.fails (.closeFile place) = none ∧ s = s' := by
  have hthrow (error : JsError) (s₁ s₂ : RestoreState) :
      ¬(do perform host (.closeFile place); throw error : Restore Unit) s₁ = (.ok (), s₂) := by
    rw [perform_bind_iff]
    exact fun h => nomatch h.2
  constructor
  · intro h
    obtain ⟨⟨⟩, s₁, hwritten, hclosed⟩ := Prog.bind_returned h
    obtain ⟨hclose, rfl⟩ := perform_iff.1 hclosed
    rcases Prog.tryCatch_returned hwritten with hboth | ⟨error, s₂, -, hhandled⟩
    · obtain ⟨hwrite, hrest⟩ := perform_bind_iff.1 hboth
      obtain ⟨hsync, rfl⟩ := perform_iff.1 hrest
      exact ⟨hwrite, hsync, hclose, rfl⟩
    · exact absurd hhandled (hthrow error s₂ _)
  · rintro ⟨hwrite, hsync, hclose, rfl⟩
    refine (Prog.bind_run_ok (a := ()) (Prog.tryCatch_run_ok ?_)).trans
      (perform_iff.2 ⟨hclose, rfl⟩)
    exact perform_bind_iff.2 ⟨hwrite, perform_iff.2 ⟨hsync, rfl⟩⟩

end returns

/-! ## Staging -/

/-- A file of an archive as it stands in the folder it is restored to. -/
def restoredFile (file : ArchiveFile) : StatePath × Bytes :=
  (segmentsOf file.path, Base64.decode file.data)

/-- The files of the archive. -/
def restoredFiles (host : RecoveryHost) : List (StatePath × Bytes) :=
  (archiveFiles host.toBackupHost host.archive).map restoredFile

/-- The steps for the file at a place in the archive. -/
def fileSteps (place : ℕ) : List RestoreStep :=
  [.makeFolders place, .openFile place, .writeFile place, .syncFile place, .closeFile place]

/-- The steps between the staging folder and the swap, for an archive of so many files. -/
def stagingSteps (count : ℕ) : List RestoreStep :=
  [.copyArchive, .protectSnapshot, .syncSnapshot, .readForValidation, .readSnapshot,
    .removeSnapshot, .syncFolders] ++ (List.range count).flatMap fileSteps

section staging

variable {host : RecoveryHost} {s s' : RestoreState} {folder : Directory}

theorem materializeRestoreFile_iff {place : ℕ} {file : ArchiveFile} {u : Unit}
    (hs : s.staging = some folder) (hsafe : safeArchivePath file.path = true) :
    materializeRestoreFile host place file s = (.ok u, s') ↔
      (∀ step ∈ fileSteps place, host.fails step = none) ∧
        ∃ entries, create (restoredFile file).2 (restoredFile file).1 folder.entries =
          some entries ∧ s' = { s with staging := some { folder with entries } } := by
  obtain ⟨hnames, hne, hauth⟩ := names_of_safeArchivePath hsafe
  have hspecial : (segmentsOf file.path).any isSpecialSegment = false :=
    List.any_eq_false.2 fun name hname => Bool.eq_false_iff.1 (hnames name hname).special
  have hbelow : staysBelow host.stagingRoot
      (resolveBelow host.stagingRoot (segmentsOf file.path)) = true := by
    rw [resolveBelow_names hnames]
    exact staysBelow_append _ hne
  unfold materializeRestoreFile
  rw [if_neg (by rw [hspecial]; simp [hauth]), if_neg (by rw [hbelow]; simp),
    perform_bind_iff, perform_bind_iff, createStaged_bind_iff, hs, Option.bind_some]
  unfold fileSteps Directory.createFile restoredFile
  simp only [List.forall_mem_cons, List.not_mem_nil, Option.map_eq_some_iff]
  constructor
  · rintro ⟨hfolders, hopen, _, ⟨entries, hentries, rfl⟩, hrest⟩
    obtain ⟨hwrite, hsync, hclose, rfl⟩ := written_iff.1 hrest
    exact ⟨⟨hfolders, hopen, hwrite, hsync, hclose, fun _ h => h.elim⟩, entries, hentries, rfl⟩
  · rintro ⟨⟨hfolders, hopen, hwrite, hsync, hclose, -⟩, entries, hentries, rfl⟩
    exact ⟨hfolders, hopen, _, ⟨entries, hentries, rfl⟩,
      written_iff.2 ⟨hwrite, hsync, hclose, rfl⟩⟩

/-- **Making the files returns where every step does and no file is in the way of another.** -/
theorem materializeFiles_iff {files : List ArchiveFile} {place : ℕ} {u : Unit}
    (hs : s.staging = some folder) (hsafe : ∀ file ∈ files, safeArchivePath file.path = true) :
    materializeFiles host place files s = (.ok u, s') ↔
      (∀ i < files.length, ∀ step ∈ fileSteps (place + i), host.fails step = none) ∧
        ∃ entries, createAll (files.map restoredFile) folder.entries = some entries ∧
          s' = { s with staging := some { folder with entries } } := by
  induction files generalizing place s folder with
  | nil =>
    obtain ⟨target, staging, removed⟩ := s
    cases hs
    unfold materializeFiles createAll
    constructor
    · intro h
      cases h
      exact ⟨fun i hi => absurd hi (Nat.not_lt_zero i), folder.entries, rfl, rfl⟩
    · rintro ⟨-, entries, hentries, rfl⟩
      cases hentries
      rfl
  | cons file files ih =>
    rw [List.forall_mem_cons] at hsafe
    rw [materializeFiles, List.map_cons, createAll, List.foldlM_cons]
    constructor
    · intro h
      obtain ⟨⟨⟩, s₁, hfile, hrest⟩ := Prog.bind_returned h
      obtain ⟨hsteps, next, hnext, rfl⟩ := (materializeRestoreFile_iff hs hsafe.1).1 hfile
      obtain ⟨hmore, entries, hentries, rfl⟩ := (ih rfl hsafe.2).1 hrest
      refine ⟨fun i hi => ?_, entries, Option.bind_eq_some_iff.2 ⟨next, hnext, hentries⟩, rfl⟩
      cases i with
      | zero => exact hsteps
      | succ i =>
        rw [List.length_cons] at hi
        have hstep := hmore i (by omega)
        rwa [Nat.add_right_comm] at hstep
    · rintro ⟨hsteps, entries, hentries, rfl⟩
      obtain ⟨next, hnext, hentries⟩ := Option.bind_eq_some_iff.1 hentries
      have hfile : materializeRestoreFile host place file s =
          (.ok (), { s with staging := some { folder with entries := next } }) :=
        (materializeRestoreFile_iff hs hsafe.1).2
          ⟨hsteps 0 (Nat.zero_lt_succ _), next, hnext, rfl⟩
      have hstaged : ({ s with staging := some { folder with entries := next } } :
          RestoreState).staging = some { folder with entries := next } := rfl
      refine (Prog.bind_run_ok hfile).trans
        ((ih hstaged hsafe.2).2 ⟨fun i hi => ?_, entries, hentries, rfl⟩)
      have hstep := hsteps (i + 1) (Nat.succ_lt_succ hi)
      rwa [← Nat.add_assoc, Nat.add_right_comm] at hstep

/-- The copy of the archive is what was copied. -/
theorem readStaged_bind_run {α : Type} {step : RestoreStep} {mode : ℕ} {archive : Bytes}
    (hs : s.staging = some ⟨mode, [(archiveSnapshot, .file archive)]⟩)
    (rest : Except JsError Bytes → Restore α) :
    (readStaged host step >>= rest) s =
      rest (match host.fails step with
        | some error => .error error
        | none => .ok archive) s := by
  unfold readStaged
  cases hstep : host.fails step with
  | some error => rfl
  | none =>
    have hread : s.staging.bind (·.contentOf archiveSnapshot) = some archive := by
      rw [hs, Option.bind_some, Directory.contentOf, List.findSome?_cons]
      simp
    rw [Prog.bind_run]
    dsimp only
    rw [Prog.bind_run, Prog.get_run]
    dsimp only
    rw [hread]
    rfl

theorem forall_stagingSteps {count : ℕ} {P : RestoreStep → Prop} :
    (∀ step ∈ stagingSteps count, P step) ↔
      (P .copyArchive ∧ P .protectSnapshot ∧ P .syncSnapshot ∧ P .readForValidation ∧
        P .readSnapshot ∧ P .removeSnapshot ∧ P .syncFolders) ∧
      ∀ i < count, ∀ step ∈ fileSteps i, P step := by
  rw [stagingSteps, List.forall_mem_append]
  refine and_congr (by simp) ⟨fun h i hi step hstep => ?_, fun h step hstep => ?_⟩
  · exact h step (List.mem_flatMap.2 ⟨i, List.mem_range.2 hi, hstep⟩)
  · obtain ⟨i, hi, hmem⟩ := List.mem_flatMap.1 hstep
    exact h i (List.mem_range.1 hi) step hmem

/-- **Staging returns** where every step does, the archive is accepted, and no file is in the
way of another. -/
theorem stageArchive_iff {mode : ℕ} {validation : BackupValidation}
    (hs : s.staging = some ⟨mode, []⟩) :
    stageArchive host s = (.ok validation, s') ↔
      (∀ step ∈ stagingSteps (restoredFiles host).length, host.fails step = none) ∧
        (validateStateBackup host.toBackupHost (.ok host.archive)).valid = true ∧
        validation = validateStateBackup host.toBackupHost (.ok host.archive) ∧
        ∃ entries, createAll (restoredFiles host) [] = some entries ∧
          s' = { s with staging := some ⟨mode, entries⟩ } := by
  have hcreate : s.staging.bind (·.createFile [archiveSnapshot] host.archive) =
      some ⟨mode, [(archiveSnapshot, .file host.archive)]⟩ := by
    rw [hs]
    rfl
  have hremove : Directory.remove archiveSnapshot ⟨mode, [(archiveSnapshot, .file host.archive)]⟩ =
      ⟨mode, []⟩ := by simp [Directory.remove]
  rw [forall_stagingSteps, restoredFiles, List.length_map, stageArchive, perform_bind_iff,
    createStaged_bind_run hcreate, perform_bind_iff, perform_bind_iff, readStaged_bind_run rfl]
  constructor
  · rintro ⟨hcopy, hprotect, hsync, h⟩
    cases hread : host.fails .readForValidation with
    | some error =>
      rw [hread] at h
      dsimp only at h
      rw [validate_error] at h
      exact nomatch h
    | none =>
      rw [hread] at h
      dsimp only at h
      cases hvalid : (validateStateBackup host.toBackupHost (.ok host.archive)).valid with
      | false =>
        rw [hvalid] at h
        exact nomatch h
      | true =>
        rw [hvalid, Bool.not_true, if_neg Bool.false_ne_true, readStaged_bind_run rfl] at h
        cases hagain : host.fails .readSnapshot with
        | some error =>
          rw [hagain] at h
          exact nomatch h
        | none =>
          rw [hagain] at h
          dsimp only at h
          obtain ⟨hremoved, h⟩ := perform_bind_iff.1 h
          obtain ⟨⟨⟩, s₁, hmodify, h⟩ := Prog.bind_returned h
          cases hmodify
          obtain ⟨⟨⟩, s₂, hfiles, h⟩ := Prog.bind_returned h
          obtain ⟨hsteps, entries, hentries, rfl⟩ :=
            (materializeFiles_iff (congrArg some hremove) (safe_of_valid hvalid)).1 hfiles
          obtain ⟨hfolders, h⟩ := perform_bind_iff.1 h
          cases h
          exact ⟨⟨⟨hcopy, hprotect, hsync, rfl, rfl, hremoved, hfolders⟩,
            by simpa only [Nat.zero_add] using hsteps⟩, rfl, rfl, entries, hentries, rfl⟩
  · rintro ⟨⟨⟨hcopy, hprotect, hsync, hread, hagain, hremoved, hfolders⟩, hsteps⟩, hvalid, rfl,
      entries, hentries, rfl⟩
    refine ⟨hcopy, hprotect, hsync, ?_⟩
    rw [hread]
    dsimp only
    rw [hvalid, Bool.not_true, if_neg Bool.false_ne_true, readStaged_bind_run rfl, hagain]
    dsimp only
    refine perform_bind_iff.2 ⟨hremoved, ?_⟩
    refine (Prog.bind_run_ok (Prog.modify_run _ _)).trans ?_
    refine (Prog.bind_run_ok (a := ()) ((materializeFiles_iff (congrArg some hremove)
      (safe_of_valid hvalid)).2 ⟨by simpa only [Nat.zero_add] using hsteps, entries, hentries,
        rfl⟩)).trans ?_
    exact perform_bind_iff.2 ⟨hfolders, rfl⟩

end staging

/-! ## What leaves the target alone -/

/-- The target is as it was, and not marked as removed. -/
def Untouched (s s' : RestoreState) : Prop :=
  s'.target = s.target ∧ s'.targetRemoved = s.targetRemoved

theorem Untouched.refl (s : RestoreState) : Untouched s s := ⟨rfl, rfl⟩

theorem Untouched.trans (s₁ s₂ s₃ : RestoreState) (h : Untouched s₁ s₂) (h' : Untouched s₂ s₃) :
    Untouched s₁ s₃ := ⟨h'.1.trans h.1, h'.2.trans h.2⟩

section untouched

variable {host : RecoveryHost}

theorem perform_untouched (step : RestoreStep) : Prog.Moves Untouched (perform host step) := by
  intro s
  unfold perform
  cases host.fails step with
  | none => exact .refl s
  | some error => exact .refl s

theorem modifyStaging_untouched (f : RestoreState → Option Directory) :
    Prog.Moves Untouched
      (modify fun state => { state with staging := f state } : Restore PUnit) :=
  fun _ => ⟨rfl, rfl⟩

theorem createStaged_untouched (path : StatePath) (content : Bytes) :
    Prog.Moves Untouched (createStaged host path content) := by
  unfold createStaged
  refine .bind Untouched.trans (.of_get Untouched.refl) fun state => ?_
  split
  · exact .of_throw Untouched.refl _
  · exact modifyStaging_untouched _

theorem readStaged_untouched (step : RestoreStep) :
    Prog.Moves Untouched (readStaged host step) := by
  unfold readStaged
  split
  · exact .of_pure Untouched.refl _
  · refine .bind Untouched.trans (.of_get Untouched.refl) fun state => ?_
    split
    · exact .of_pure Untouched.refl _
    · exact .of_pure Untouched.refl _

theorem materializeRestoreFile_untouched (place : ℕ) (file : ArchiveFile) :
    Prog.Moves Untouched (materializeRestoreFile host place file) := by
  have hstep (step : RestoreStep) : Prog.Moves Untouched (perform host step) :=
    perform_untouched step
  unfold materializeRestoreFile
  dsimp only
  split
  · exact .of_throw Untouched.refl _
  · split
    · exact .of_throw Untouched.refl _
    · refine .bind Untouched.trans (hstep _) fun _ => ?_
      refine .bind Untouched.trans (hstep _) fun _ => ?_
      refine .bind Untouched.trans (createStaged_untouched _ _) fun _ => ?_
      refine .bind Untouched.trans ?_ fun _ => hstep _
      refine .tryCatch Untouched.trans ?_ fun error => ?_
      · exact .bind Untouched.trans (hstep _) fun _ => hstep _
      · exact .bind Untouched.trans (hstep _) fun _ => .of_throw Untouched.refl _

theorem materializeFiles_untouched (place : ℕ) (files : List ArchiveFile) :
    Prog.Moves Untouched (materializeFiles host place files) := by
  induction files generalizing place with
  | nil => exact .of_pure Untouched.refl _
  | cons file files ih =>
    unfold materializeFiles
    exact .bind Untouched.trans (materializeRestoreFile_untouched place file) fun _ => ih _

theorem stageArchive_untouched : Prog.Moves Untouched (stageArchive host) := by
  have hstep (step : RestoreStep) : Prog.Moves Untouched (perform host step) :=
    perform_untouched step
  unfold stageArchive
  refine .bind Untouched.trans (hstep _) fun _ => ?_
  refine .bind Untouched.trans (createStaged_untouched _ _) fun _ => ?_
  refine .bind Untouched.trans (hstep _) fun _ => ?_
  refine .bind Untouched.trans (hstep _) fun _ => ?_
  refine .bind Untouched.trans (readStaged_untouched _) fun read => ?_
  dsimp only
  split
  · exact .of_throw Untouched.refl _
  · refine .bind Untouched.trans (readStaged_untouched _) fun read => ?_
    split
    · exact .of_throw Untouched.refl _
    · refine .bind Untouched.trans (hstep _) fun _ => ?_
      refine .bind Untouched.trans (modifyStaging_untouched _) fun _ => ?_
      refine .bind Untouched.trans (materializeFiles_untouched _ _) fun _ => ?_
      exact .bind Untouched.trans (hstep _) fun _ => .of_pure Untouched.refl _

end untouched

/-! ## The swap and the clean-up -/

section swap

variable {host : RecoveryHost} {folder : Directory} {validation : BackupValidation}

theorem perform_none {step : RestoreStep} (h : host.fails step = none) (s : RestoreState) :
    perform host step s = (.ok (), s) := by
  rw [perform, h]
  rfl

theorem perform_some {step : RestoreStep} {error : JsError} (h : host.fails step = some error)
    (s : RestoreState) : perform host step s = (.error (.thrown error), s) := by
  rw [perform, h]
  rfl

/-- The clean-up leaves a target alone that was not removed, or that is there. -/
theorem cleanUp_keeps {s : RestoreState} (error : JsError)
    (h : s.targetRemoved = false ∨ s.target.isThere = true) :
    (cleanUp host error s).2.target = s.target := by
  have hskip : (s.targetRemoved && !s.target.isThere) = false := by
    rcases h with h | h
    · rw [h, Bool.false_and]
    · rw [h, Bool.not_true, Bool.and_false]
  unfold cleanUp
  cases hremove : host.fails .removeStaging with
  | some error' => rw [Prog.bind_run_error (perform_some hremove s)]
  | none =>
    rw [Prog.bind_run_ok (perform_none hremove s), Prog.bind_run_ok (Prog.modify_run _ _),
      Prog.bind_run_ok (Prog.get_run _)]
    dsimp only
    rw [hskip]
    rfl

/-- The clean-up makes a target again that was removed. -/
theorem cleanUp_remakes (staging : Option Directory) (error : JsError) :
    (cleanUp host error ⟨.absent, staging, true⟩).2.target =
      if host.fails .removeStaging = none ∧ host.fails .remakeTarget = none then
        .directory ⟨privateMode, []⟩
      else .absent := by
  unfold cleanUp
  cases hremove : host.fails .removeStaging with
  | some error' =>
    rw [Prog.bind_run_error (perform_some hremove _)]
    simp
  | none =>
    rw [Prog.bind_run_ok (perform_none hremove _), Prog.bind_run_ok (Prog.modify_run _ _),
      Prog.bind_run_ok (Prog.get_run _)]
    cases hremake : host.fails .remakeTarget with
    | some error' => simp [Target.isThere, Prog.bind_run, perform_some hremake]
    | none => simp [Target.isThere, Prog.bind_run, perform_none hremake]

/-- A rename that fails leaves the path of the target free. -/
theorem swapIn_renameFails {error : JsError} (hrename : host.fails .renameStaging = some error)
    (removed : Bool) :
    swapIn host false validation ⟨.absent, some folder, removed⟩ =
      (.error (.thrown error), ⟨.absent, some folder, removed⟩) := by
  simp [swapIn, renameStaging, Prog.bind_run, perform_some hrename]

/-- Behind the rename the staging folder is the target, also where the rest fails. -/
theorem swapIn_renames (hrename : host.fails .renameStaging = none) (removed : Bool) :
    ((tryCatch (swapIn host false validation) (cleanUp host) : Restore RestoreResult)
      ⟨.absent, some folder, removed⟩).2.target = .directory folder := by
  have hmoved : renameStaging host ⟨.absent, some folder, removed⟩ =
      (.ok (), ⟨.directory folder, none, removed⟩) := by
    rw [renameStaging, Prog.bind_run_ok (perform_none hrename _)]
    rfl
  cases hsync : host.fails .syncParent with
  | some error =>
    have hrun : swapIn host false validation ⟨.absent, some folder, removed⟩ =
        (.error (.thrown error), ⟨.directory folder, none, removed⟩) := by
      simp [swapIn, Prog.bind_run, hmoved, perform_some hsync]
    rw [Prog.tryCatch_run_thrown hrun, cleanUp_keeps error (.inr rfl)]
  | none =>
    have hrun : swapIn host false validation ⟨.absent, some folder, removed⟩ =
        (.ok ⟨true, validation.fileCount, validation.totalBytes⟩,
          ⟨.directory folder, none, removed⟩) := by
      simp [swapIn, Prog.bind_run, hmoved, perform_none hsync]
    rw [Prog.tryCatch_run_ok hrun]

/-- A folder cannot take the place of a link. -/
theorem swapIn_brokenLink :
    ((tryCatch (swapIn host false validation) (cleanUp host) : Restore RestoreResult)
      ⟨.brokenLink, some folder, false⟩).2.target = .brokenLink := by
  have hrun : ∃ error, swapIn host false validation ⟨.brokenLink, some folder, false⟩ =
      (.error (.thrown error), ⟨.brokenLink, some folder, false⟩) := by
    cases hrename : host.fails .renameStaging with
    | some error =>
      exact ⟨error, by simp [swapIn, renameStaging, Prog.bind_run, perform_some hrename]⟩
    | none =>
      exact ⟨host.clash, by simp [swapIn, renameStaging, Prog.bind_run, perform_none hrename]⟩
  obtain ⟨error, hrun⟩ := hrun
  rw [Prog.tryCatch_run_thrown hrun, cleanUp_keeps error (.inl rfl)]

/-- **What the swap makes of an empty target.** -/
theorem swapIn_directory (old : Directory) :
    ((tryCatch (swapIn host true validation) (cleanUp host) : Restore RestoreResult)
      ⟨.directory old, some folder, false⟩).2.target =
      if host.fails .removeTarget ≠ none then .directory old
      else if host.fails .renameStaging = none then .directory folder
      else if host.fails .removeStaging = none ∧ host.fails .remakeTarget = none then
        .directory ⟨privateMode, []⟩
      else .absent := by
  cases hremove : host.fails .removeTarget with
  | some error =>
    have hrun : swapIn host true validation ⟨.directory old, some folder, false⟩ =
        (.error (.thrown error), ⟨.directory old, some folder, false⟩) := by
      simp [swapIn, Prog.bind_run, perform_some hremove]
    rw [Prog.tryCatch_run_thrown hrun, cleanUp_keeps error (.inl rfl)]
    simp
  | none =>
    -- the target is gone, and the rest is the swap of a target that was not there
    have hrun : swapIn host true validation ⟨.directory old, some folder, false⟩ =
        swapIn host false validation ⟨.absent, some folder, true⟩ := by
      simp [swapIn, Prog.bind_run, perform_none hremove]
    rw [Prog.tryCatch_run, hrun, ← Prog.tryCatch_run, if_neg (by simp)]
    cases hrename : host.fails .renameStaging with
    | none => rw [swapIn_renames hrename, if_pos rfl]
    | some error =>
      rw [Prog.tryCatch_run_thrown (swapIn_renameFails hrename true), cleanUp_remakes,
        if_neg (Option.some_ne_none error)]

end swap

/-! ## All or nothing -/

/-- A folder holds just the files of the archive, in folders of theirs. -/
def Filled (host : RecoveryHost) (folder : Directory) : Prop :=
  Made folder.entries ∧ (filesIn folder.entries).Perm (restoredFiles host)

/-- The target is as it was, or it is a folder that holds just the files of the archive. -/
def AllOrNothing (host : RecoveryHost) (before after : Target) : Prop :=
  after = before ∨ ∃ folder, after = .directory folder ∧ Filled host folder

/-- Every step before the swap is made, the archive is accepted, and no file of it is in the way
of another. -/
structure Staged (host : RecoveryHost) : Prop where
  parent : host.parentSafe = true
  opened : ∀ step ∈ [RestoreStep.inspectTarget, .makeStaging, .protectStaging],
    host.fails step = none
  steps : ∀ step ∈ stagingSteps (restoredFiles host).length, host.fails step = none
  valid : (validateStateBackup host.toBackupHost (.ok host.archive)).valid = true
  apart : (restoredFiles host).Pairwise fun f g => Apart f.1 g.1

/-- What a restore breaks on: the empty target is removed, the staging folder cannot take its
place, and the clean-up does not bring back what was there. -/
structure Interrupted (host : RecoveryHost) (apply : Bool) (target : Target) : Prop where
  applied : apply = true
  empty : ∃ mode, target = .directory ⟨mode, []⟩ ∧
    (host.fails .removeStaging ≠ none ∨ host.fails .remakeTarget ≠ none ∨
      (mode ≠ privateMode ∧ restoredFiles host ≠ []))
  staged : Staged host
  removed : host.fails .removeTarget = none
  notRenamed : host.fails .renameStaging ≠ none

section restored

variable {host : RecoveryHost} {target : Target}

/-- The folders a restore is given as the target, with what `validateRestoreTarget` says. -/
inductive Accepts : Target → Bool → Prop where
  | absent : Accepts .absent false
  | brokenLink : Accepts .brokenLink false
  | empty (mode : ℕ) : Accepts (.directory ⟨mode, []⟩) true

theorem validateRestoreTarget_iff {s s' : RestoreState} {targetExists : Bool} :
    validateRestoreTarget host s = (.ok targetExists, s') ↔
      host.fails .inspectTarget = none ∧ host.parentSafe = true ∧ Accepts s.target targetExists ∧
        s = s' := by
  have hok {b : Bool} : (pure b : Restore Bool) s = (.ok targetExists, s') ↔
      b = targetExists ∧ s = s' := by
    refine ⟨fun h => ?_, ?_⟩
    · cases h
      exact ⟨rfl, rfl⟩
    · rintro ⟨rfl, rfl⟩
      rfl
  have hno {error : JsError} : ¬(throw error : Restore Bool) s = (.ok targetExists, s') :=
    fun h => nomatch h
  unfold validateRestoreTarget
  rw [perform_bind_iff]
  refine and_congr_right fun _ => ?_
  cases hparent : host.parentSafe with
  | false => exact iff_of_false hno (fun h => Bool.false_ne_true h.1)
  | true =>
    rw [Bool.not_true, if_neg Bool.false_ne_true, Prog.bind_run_ok (Prog.get_run s)]
    cases htarget : s.target with
    | absent =>
      refine hok.trans ⟨?_, ?_⟩
      · rintro ⟨rfl, hs⟩
        exact ⟨rfl, .absent, hs⟩
      · rintro ⟨-, haccepts, hs⟩
        cases haccepts
        exact ⟨rfl, hs⟩
    | brokenLink =>
      refine hok.trans ⟨?_, ?_⟩
      · rintro ⟨rfl, hs⟩
        exact ⟨rfl, .brokenLink, hs⟩
      · rintro ⟨-, haccepts, hs⟩
        cases haccepts
        exact ⟨rfl, hs⟩
    | other => exact iff_of_false hno (fun h => nomatch h.2.1)
    | directory folder =>
      obtain ⟨mode, entries⟩ := folder
      cases entries with
      | nil =>
        refine hok.trans ⟨?_, ?_⟩
        · rintro ⟨rfl, hs⟩
          exact ⟨rfl, .empty mode, hs⟩
        · rintro ⟨-, haccepts, hs⟩
          cases haccepts
          exact ⟨rfl, hs⟩
      | cons entry entries => exact iff_of_false hno (fun h => nomatch h.2.1)

theorem validateRestoreTarget_untouched :
    Prog.Moves Untouched (validateRestoreTarget host) := by
  unfold validateRestoreTarget
  refine .bind Untouched.trans (perform_untouched _) fun _ => ?_
  split
  · exact .of_throw Untouched.refl _
  · refine .bind Untouched.trans (.of_get Untouched.refl) fun state => ?_
    split
    · exact .of_pure Untouched.refl _
    · exact .of_pure Untouched.refl _
    · exact .of_throw Untouched.refl _
    · split
      · exact .of_pure Untouched.refl _
      · exact .of_throw Untouched.refl _

theorem createAll_filled {entries : StateEntries} (mode : ℕ)
    (h : createAll (restoredFiles host) [] = some entries) : Filled host ⟨mode, entries⟩ := by
  obtain ⟨hperm, hmade⟩ := FileTree.createAll_some .nil h
  rw [filesIn, List.append_nil] at hperm
  exact ⟨hmade, hperm⟩

/-- The files of an archive can be made where no path is the beginning of another. -/
theorem createAll_isSome
    (hvalid : (validateStateBackup host.toBackupHost (.ok host.archive)).valid = true) :
    (createAll (restoredFiles host) []).isSome ↔
      (restoredFiles host).Pairwise fun f g => Apart f.1 g.1 := by
  rw [FileTree.createAll_nil_iff, and_iff_right_iff_imp]
  intro _ f hf
  obtain ⟨file, hfile, rfl⟩ := List.mem_map.1 hf
  exact (names_of_safeArchivePath (safe_of_valid hvalid file hfile)).2.1

/-- **A restore leaves the target alone, or it comes to the swap.** -/
theorem targetAfter_cases (apply : Bool) (target : Target) :
    targetAfter host apply target = target ∨
      apply = true ∧ Staged host ∧ ∃ targetExists folder validation,
        Accepts target targetExists ∧ Filled host folder ∧
        targetAfter host apply target =
          ((tryCatch (swapIn host targetExists validation) (cleanUp host) : Restore RestoreResult)
            ⟨target, some folder, false⟩).2.target := by
  unfold targetAfter restoreStateBackup
  cases apply with
  | false =>
    refine .inl ?_
    have hcheck (validation : BackupValidation) :
        ((if !validation.valid then throw (validationFailed validation)
          else pure ⟨false, validation.fileCount, validation.totalBytes⟩ : Restore RestoreResult)
            (.start target)).2.target = target := by
      split
      · rfl
      · rfl
    exact hcheck _
  | true =>
    rw [Bool.not_true, if_neg Bool.false_ne_true]
    rcases htarget : validateRestoreTarget host (.start target) with ⟨error | targetExists, s₁⟩
    · have hkept : Untouched (.start target) (validateRestoreTarget host (.start target)).2 :=
        validateRestoreTarget_untouched (.start target)
      rw [htarget] at hkept
      rw [Prog.bind_run_error htarget]
      exact .inl hkept.1
    · obtain ⟨hinspect, hparent, haccepts, rfl⟩ := validateRestoreTarget_iff.1 htarget
      rw [Prog.bind_run_ok htarget]
      cases hmake : host.fails .makeStaging with
      | some error =>
        rw [Prog.bind_run_error (perform_some hmake _)]
        exact .inl rfl
      | none =>
        rw [Prog.bind_run_ok (perform_none hmake _), Prog.bind_run_ok (Prog.modify_run _ _)]
        cases hprotect : host.fails .protectStaging with
        | some error =>
          rw [Prog.bind_run_error (perform_some hprotect _)]
          exact .inl rfl
        | none =>
          rw [Prog.bind_run_ok (perform_none hprotect _)]
          dsimp only [RestoreState.start]
          rcases hstage : stageArchive host ⟨target, some ⟨privateMode, []⟩, false⟩ with
            ⟨error | validation, s₂⟩
          · have hkept : Untouched ⟨target, some ⟨privateMode, []⟩, false⟩
                (stageArchive host ⟨target, some ⟨privateMode, []⟩, false⟩).2 :=
              stageArchive_untouched _
            rw [hstage] at hkept
            refine .inl ?_
            cases error with
            | thrown error =>
              rw [Prog.tryCatch_run_thrown (Prog.bind_run_error hstage),
                cleanUp_keeps error (.inl hkept.2)]
              exact hkept.1
            | crashed =>
              rw [Prog.tryCatch_run_crashed (Prog.bind_run_error hstage)]
              exact hkept.1
          · obtain ⟨hsteps, hvalid, -, entries, hentries, rfl⟩ := (stageArchive_iff rfl).1 hstage
            refine .inr ⟨rfl, ⟨hparent, by simp [hinspect, hmake, hprotect], hsteps, hvalid,
              (createAll_isSome hvalid).1 (by rw [hentries]; rfl)⟩, targetExists,
              ⟨privateMode, entries⟩, validation, haccepts, createAll_filled _ hentries, ?_⟩
            rw [Prog.tryCatch_run, Prog.bind_run_ok hstage, ← Prog.tryCatch_run]

/-- **A restore comes to the swap** where every step before it is made. -/
theorem targetAfter_staged {targetExists : Bool} (hstaged : Staged host)
    (haccepts : Accepts target targetExists) :
    ∃ folder validation, Filled host folder ∧
      targetAfter host true target =
        ((tryCatch (swapIn host targetExists validation) (cleanUp host) : Restore RestoreResult)
          ⟨target, some folder, false⟩).2.target := by
  obtain ⟨entries, hentries⟩ := Option.isSome_iff_exists.1
    ((createAll_isSome hstaged.valid).2 hstaged.apart)
  have hopened := hstaged.opened
  rw [List.forall_mem_cons, List.forall_mem_cons, List.forall_mem_singleton] at hopened
  obtain ⟨hinspect, hmake, hprotect⟩ := hopened
  have htarget : validateRestoreTarget host (.start target) = (.ok targetExists, .start target) :=
    validateRestoreTarget_iff.2 ⟨hinspect, hstaged.parent, haccepts, rfl⟩
  have hstage : stageArchive host ⟨target, some ⟨privateMode, []⟩, false⟩ =
      (.ok (validateStateBackup host.toBackupHost (.ok host.archive)),
        ⟨target, some ⟨privateMode, entries⟩, false⟩) :=
    (stageArchive_iff rfl).2 ⟨hstaged.steps, hstaged.valid, rfl, entries, hentries, rfl⟩
  refine ⟨⟨privateMode, entries⟩, validateStateBackup host.toBackupHost (.ok host.archive),
    createAll_filled _ hentries, ?_⟩
  rw [targetAfter, restoreStateBackup, Bool.not_true, if_neg Bool.false_ne_true,
    Prog.bind_run_ok htarget, Prog.bind_run_ok (perform_none hmake _),
    Prog.bind_run_ok (Prog.modify_run _ _), Prog.bind_run_ok (perform_none hprotect _),
    Prog.tryCatch_run]
  dsimp only [RestoreState.start]
  rw [Prog.bind_run_ok hstage, ← Prog.tryCatch_run]

/-- **A restore that breaks is neither.** -/
theorem Interrupted.not_allOrNothing {apply : Bool} (h : Interrupted host apply target) :
    ¬AllOrNothing host target (targetAfter host apply target) := by
  obtain ⟨rfl, ⟨mode, rfl, hlost⟩, hstaged, hremoved, hnotRenamed⟩ := h
  obtain ⟨folder, validation, -, hafter⟩ := targetAfter_staged hstaged (.empty mode)
  rw [hafter, swapIn_directory, if_neg (not_not_intro hremoved), if_neg hnotRenamed]
  split
  · rename_i hclean
    obtain hremove | hremake | ⟨hmode, hfiles⟩ := hlost
    · exact absurd hclean.1 hremove
    · exact absurd hclean.2 hremake
    · rintro (hsame | ⟨filled, hfilled, -, hperm⟩)
      · exact hmode (congrArg Directory.mode (Target.directory.inj hsame)).symm
      · cases hfilled
        exact hfiles hperm.nil_eq.symm
  · rintro (hsame | ⟨filled, hfilled, -⟩)
    · exact nomatch hsame
    · exact nomatch hfilled

/-- **A restore is all or nothing unless it breaks.** -/
theorem restore_allOrNothing_iff (host : RecoveryHost) (apply : Bool) (target : Target) :
    AllOrNothing host target (targetAfter host apply target) ↔ ¬Interrupted host apply target := by
  constructor
  · exact fun hall hbroken => hbroken.not_allOrNothing hall
  · intro hwhole
    have hcases : targetAfter host apply target = target ∨ _ := targetAfter_cases apply target
    rcases hcases with
      hsame | ⟨rfl, hstaged, targetExists, folder, validation, haccepts, hfilled, hafter⟩
    · exact .inl hsame
    · cases haccepts with
      | absent =>
        rw [hafter]
        cases hrename : host.fails .renameStaging with
        | some error =>
          rw [Prog.tryCatch_run_thrown (swapIn_renameFails hrename false),
            cleanUp_keeps error (.inl rfl)]
          exact .inl rfl
        | none =>
          rw [swapIn_renames hrename]
          exact .inr ⟨folder, rfl, hfilled⟩
      | brokenLink =>
        rw [hafter, swapIn_brokenLink]
        exact .inl rfl
      | empty mode =>
        rw [hafter, swapIn_directory]
        split_ifs with hremove hrename hclean
        · exact .inl rfl
        · exact .inr ⟨folder, rfl, hfilled⟩
        · -- the target is made again, which is as good when the mode is the same, or when the
          -- archive has no files
          by_cases hmode : mode = privateMode
          · exact .inl (by rw [hmode])
          · by_cases hfiles : restoredFiles host = []
            · refine .inr ⟨⟨privateMode, []⟩, rfl, .nil, ?_⟩
              rw [hfiles]
              exact .refl _
            · exact absurd ⟨rfl, ⟨mode, rfl, .inr (.inr ⟨hmode, hfiles⟩)⟩, hstaged,
                not_not.1 hremove, hrename⟩ hwhole
        · rw [not_and_or] at hclean
          refine absurd ⟨rfl, ⟨mode, rfl, ?_⟩, hstaged, not_not.1 hremove, hrename⟩ hwhole
          exact hclean.imp_right .inl

end restored

/-! ## What an archive that was written is restored to -/

/-- **The files of an archive are those it was made of.** -/
theorem restoredFiles_archive {host : RecoveryHost} {files : List (StatePath × Bytes)}
    {createdAt : JsString} (hne : ∀ f ∈ files, f.1 ≠ [])
    (hnames : ∀ f ∈ files, ∀ name ∈ f.1, IsName name)
    (harchive : host.archive = archiveBytes createdAt (backupFiles host.toBackupHost files)) :
    restoredFiles host = files := by
  rw [restoredFiles, harchive, archiveFiles_archiveBytes, backupFiles, List.map_map, List.map_map]
  refine (List.map_congr_left fun f hf => ?_).trans (List.map_id files)
  refine Prod.ext (segmentsOf_portableRelative (hne f hf) (hnames f hf)) ?_
  exact Base64.decode_encode f.2

/-! ### An archive of one file -/

theorem sampleTime_iso : Incidents.isIsoTimestamp (js "2024-02-29T10:00:00.000Z") = true := by
  decide +kernel

def sampleTime : IsoTimestamp := ⟨js "2024-02-29T10:00:00.000Z", sampleTime_iso⟩

def sampleChecksum : JsString :=
  js "ca978112ca1bbdcafac231b39a23dc4da786eff8147c4e72b9807785afee48bb"

/-- A host on which the file `a` with the letter a in it was backed up, and a number is read if
it is a natural one. -/
def sampleBackupHost : BackupHost where
  checksum _ := sampleChecksum
  isHex _ := by decide +kernel
  replaced _ := []
  number decimal :=
    if decimal.negative ∨ decimal.scale ≠ 0 then .nan else .ofNat decimal.coefficient
  number_exact _ _ := rfl
  syntaxMessage _ := js "Unexpected token"

def sampleFiles : List (StatePath × Bytes) := [([js "a"], [97])]

/-- A restore of this archive in which some steps fail. -/
def sampleHost (steps : List RestoreStep) : RecoveryHost where
  toBackupHost := sampleBackupHost
  archive := archiveBytes sampleTime.text (backupFiles sampleBackupHost sampleFiles)
  parentSafe := true
  stagingRoot := [js "s"]
  fails step := if step ∈ steps then some (JsError.new "EIO") else none
  clash := JsError.new "EEXIST"

theorem sampleFiles_listed : Listed sampleFiles where
  count := by decide
  nonempty := by decide +kernel
  names f hf name hname := by
    rw [List.mem_singleton.1 hf, List.mem_singleton] at hname
    subst hname
    exact ⟨by decide +kernel, by decide +kernel⟩
  nodup := List.nodup_singleton _

theorem sampleFiles_safe : ∀ f ∈ sampleFiles, SafePath f.1 := by
  intro f hf
  rw [List.mem_singleton.1 hf]
  exact ⟨by decide +kernel, by decide +kernel, by decide +kernel⟩

theorem sampleHost_files (steps : List RestoreStep) :
    restoredFiles (sampleHost steps) = sampleFiles :=
  restoredFiles_archive sampleFiles_listed.nonempty sampleFiles_listed.names rfl

/-- A restore in which only steps of the swap and the clean-up fail comes to the swap. -/
theorem sampleHost_staged {steps : List RestoreStep}
    (hsteps : ∀ step ∈ RestoreStep.inspectTarget :: .makeStaging :: .protectStaging ::
      stagingSteps 1, step ∉ steps) : Staged (sampleHost steps) where
  parent := rfl
  opened step hstep := if_neg (hsteps step (by
    rw [List.mem_cons, List.mem_cons, List.mem_singleton] at hstep
    simp only [List.mem_cons]
    tauto))
  steps step hstep := by
    rw [sampleHost_files] at hstep
    refine if_neg (hsteps step ?_)
    exact List.mem_cons_of_mem _ (List.mem_cons_of_mem _ (List.mem_cons_of_mem _ hstep))
  valid := (validate_archive_iff sampleFiles_listed sampleTime).2
    ⟨sampleFiles_safe, by decide⟩
  apart := by
    rw [sampleHost_files]
    exact List.pairwise_singleton _ _

/-- The rename fails over an empty target, and then either the staging folder cannot be
deleted, and the target is gone, or all goes well, and the target has another mode. -/
theorem restore_breaks :
    ¬AllOrNothing (sampleHost [.renameStaging, .removeStaging]) (.directory ⟨493, []⟩)
        (targetAfter (sampleHost [.renameStaging, .removeStaging]) true (.directory ⟨493, []⟩)) ∧
      ¬AllOrNothing (sampleHost [.renameStaging]) (.directory ⟨493, []⟩)
        (targetAfter (sampleHost [.renameStaging]) true (.directory ⟨493, []⟩)) := by
  constructor
  · refine Interrupted.not_allOrNothing ⟨rfl, ⟨493, rfl, .inl ?_⟩, sampleHost_staged ?_, rfl, ?_⟩
    · exact nofun
    · decide
    · exact nofun
  · refine Interrupted.not_allOrNothing ⟨rfl, ⟨493, rfl, .inr (.inr ⟨?_, ?_⟩)⟩,
      sampleHost_staged ?_, rfl, ?_⟩
    · decide
    · rw [sampleHost_files]
      exact List.cons_ne_nil _ _
    · decide
    · exact nofun

end StateRecovery
end Autopilot
