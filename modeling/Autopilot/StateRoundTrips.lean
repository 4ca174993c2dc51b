/-
A backup of the state directory, and restoring it.

The two sides are put together here. An archive that was written is one the checks take when
every path in it is in order and its contents are within the limit of the checks, which may be
lower than the limit the backup was given. Restoring it makes the files that the rules of the
backup keep, and no others: the paths of a tree are apart, so no file is in the way of another.

The archive must also be there. Pruning keeps the last names, and an archive whose time lies
before that of others is deleted in the turn that wrote it.
-/
import Autopilot.StateRecovery

set_option autoImplicit false

namespace Autopilot
namespace StateBackups

open FileTree (Apart Made admits filesIn walkIn)
open GovernedDispatch (sorted)
open Incidents (IsoTimestamp)
open StateLogs (Bytes mem_drop_reverse_sorted_iff)
open StateRecovery (Accepts Filled RecoveryHost Staged Target restoredFiles restoredFiles_archive
  sampleBackupHost sampleTime targetAfter targetAfter_staged)

/-- A state directory: no folder has a name twice, and the names are names. -/
structure StateTree where
  entries : StateEntries
  names : (entries.map Prod.fst).Nodup
  distinct : FileTree.DistinctIn entries
  isName : ∀ f ∈ filesIn entries, ∀ name ∈ f.1, IsName name

/-! ## What a backup keeps -/

/-- The rules of the backup do not exclude a file: no folder on the way to it is left out, and
its name is not. -/
def Kept (backupDirectory : Option StatePath) (path : StatePath) : Prop :=
  (∀ folder ∈ path.inits, folder ≠ [] → folder ≠ path → visits backupDirectory folder = true) ∧
    ∀ name ∈ path.getLast?, isExcludedStateFile name = false

instance (backupDirectory : Option StatePath) : DecidablePred (Kept backupDirectory) :=
  fun _ => inferInstanceAs (Decidable (_ ∧ _))

/-- The regular files that the rules of the backup do not exclude. -/
def keptFiles (backupDirectory : Option StatePath) (tree : StateTree) : List (StatePath × Bytes) :=
  (filesIn tree.entries).filter fun f => Kept backupDirectory f.1

section kept

variable {backupDirectory : Option StatePath} {tree : StateTree}

theorem mem_keptFiles {f : StatePath × Bytes} :
    f ∈ keptFiles backupDirectory tree ↔ f ∈ filesIn tree.entries ∧ Kept backupDirectory f.1 := by
  rw [keptFiles, List.mem_filter, decide_eq_true_eq]

/-- **A backup lists the files its rules do not exclude.** -/
theorem regularBackupFiles_perm :
    (regularBackupFiles backupDirectory tree.entries).Perm (keptFiles backupDirectory tree) := by
  unfold regularBackupFiles keptFiles
  refine (List.perm_insertionSort _ _).trans ?_
  rw [FileTree.walkIn_eq, FileTree.selects_nil]
  refine List.Perm.of_eq (List.filter_congr fun f hf => ?_)
  rw [Bool.eq_iff_iff, FileTree.admits_iff, decide_eq_true_eq]
  have hname := List.getLast?_eq_some_getLast (FileTree.path_ne_nil hf)
  simp [Kept, hname]

theorem keptFiles_apart :
    (keptFiles backupDirectory tree).Pairwise fun f g => Apart f.1 g.1 :=
  (FileTree.filesIn_apart tree.entries tree.names tree.distinct).filter _

/-- No file that is listed is in the way of another. -/
theorem regularBackupFiles_apart :
    (regularBackupFiles backupDirectory tree.entries).Pairwise fun f g => Apart f.1 g.1 :=
  (regularBackupFiles_perm.pairwise_iff fun h => h.symm).2 keptFiles_apart

theorem mem_regularBackupFiles {f : StatePath × Bytes} :
    f ∈ regularBackupFiles backupDirectory tree.entries ↔
      f ∈ filesIn tree.entries ∧ Kept backupDirectory f.1 :=
  regularBackupFiles_perm.mem_iff.trans mem_keptFiles

theorem regularBackupFiles_listed
    (hcount : (regularBackupFiles backupDirectory tree.entries).length ≤ defaultMaxFiles) :
    Listed (regularBackupFiles backupDirectory tree.entries) where
  count := hcount
  nonempty _ hf := FileTree.path_ne_nil (mem_regularBackupFiles.1 hf).1
  names f hf := tree.isName f (mem_regularBackupFiles.1 hf).1
  nodup := by
    rw [List.Nodup, List.pairwise_map]
    refine regularBackupFiles_apart.imp fun {f g} hapart heq => hapart.1 ?_
    rw [heq]

theorem contentSize_keptFiles :
    contentSize (regularBackupFiles backupDirectory tree.entries) =
      contentSize (keptFiles backupDirectory tree) :=
  (regularBackupFiles_perm.map _).sum_eq

end kept

/-! ## What is written -/

section written

variable {host : BackupHost} {backupDirectory : Option StatePath} {tree : StateTree}
variable {options : CreateStateBackupOptions} {dir written : BackupDirectory}
variable {result : BackupResult}

/-- **What is written holds the files that are listed.** -/
theorem createStateBackupUnderLease_ok
    (h : createStateBackupUnderLease host backupDirectory tree.entries options dir =
      .ok (result, written)) :
    Listed (regularBackupFiles backupDirectory tree.entries) ∧
      backupName options.now ∉ dir.keys ∧
      result = ⟨backupName options.now,
        (regularBackupFiles backupDirectory tree.entries).length,
        contentSize (regularBackupFiles backupDirectory tree.entries)⟩ ∧
      written = dir.set (backupName options.now) (.file (archiveBytes options.now.text
        (backupFiles host (regularBackupFiles backupDirectory tree.entries)))) := by
  unfold createStateBackupUnderLease at h
  cases hcollect : collectStateBackup host backupDirectory tree.entries options with
  | error error =>
    rw [hcollect] at h
    cases h
  | ok collected =>
    obtain ⟨files, totalBytes⟩ := collected
    obtain ⟨hfiles, htotal, hcount⟩ := takeFiles_ok hcollect
    rw [List.nil_append] at hfiles
    rw [Nat.zero_add] at htotal
    have hlength : files.length = (regularBackupFiles backupDirectory tree.entries).length := by
      rw [hfiles]
      exact List.length_map ..
    rw [hcollect] at h
    dsimp only at h
    split_ifs at h with hname
    cases h
    refine ⟨regularBackupFiles_listed ?_, hname, ?_, ?_⟩
    · rw [← hlength]
      exact hcount (Nat.zero_le _)
    · rw [hlength, htotal]
    · rw [hfiles]

/-! ### Pruning -/

/-- The archives whose names sort behind a name. -/
def newerBackups (dir : BackupDirectory) (name : JsString) : List JsString :=
  (regularOperationalBackupNames dir).filter fun other =>
    isStateBackupFileName other ∧ name < other

/-- The archive of this time is not deleted in the turn that wrote it. -/
def Retained (options : CreateStateBackupOptions) (dir : BackupDirectory) : Prop :=
  options.retention = .defer ∨
    (newerBackups dir (backupName options.now)).length < max 1 options.keepBackups

instance (options : CreateStateBackupOptions) (dir : BackupDirectory) :
    Decidable (Retained options dir) :=
  inferInstanceAs (Decidable (_ ∨ _))

theorem isStateBackupFileName_backupName (now : IsoTimestamp) :
    isStateBackupFileName (backupName now) = true := by
  unfold isStateBackupFileName backupName
  rw [Bool.and_eq_true, List.isPrefixOf_iff_prefix, List.isSuffixOf_iff_suffix, List.append_assoc]
  exact ⟨List.prefix_append _ _, (List.suffix_append _ _).trans (List.suffix_append _ _)⟩

theorem isEnvironmentBackupFileName_backupName (now : IsoTimestamp) :
    isEnvironmentBackupFileName (backupName now) = false := by
  have hpattern : js "control-plane.env." = 99 :: js "ontrol-plane.env." := by decide +kernel
  have hname : js "autopilot-state-" = 97 :: js "utopilot-state-" := by decide +kernel
  rw [isEnvironmentBackupFileName, backupName, hpattern, hname]
  rfl

theorem regularOperationalBackupNames_set {dir : BackupDirectory} {name : JsString}
    (hname : name ∉ dir.keys) (content : Bytes) :
    regularOperationalBackupNames (dir.set name (.file content)) =
      regularOperationalBackupNames dir ++ [name] := by
  have hentries : (dir.set name (.file content)).entries =
      dir.entries ++ [(name, Stored.file content)] := if_neg hname
  rw [regularOperationalBackupNames, hentries, List.filter_append, List.map_append]
  rfl

/-- **Whether an archive outlives the pruning of its turn.** -/
theorem pruneOperationalBackups_get? {now : IsoTimestamp} {dir : BackupDirectory}
    (hname : backupName now ∉ dir.keys) (keepState : ℕ) (content : Bytes) :
    (pruneOperationalBackups keepState defaultKeepEnvironmentBackups
        (dir.set (backupName now) (.file content))).get? (backupName now) =
      if (newerBackups dir (backupName now)).length < max 1 keepState then some (.file content)
      else none := by
  have hnodup : (regularOperationalBackupNames (dir.set (backupName now) (.file content))).Nodup :=
    (dir.set (backupName now) (.file content)).nodup.sublist
      ((List.filter_sublist ..).map Prod.fst)
  have hnames := regularOperationalBackupNames_set hname content
  have hstate := isStateBackupFileName_backupName now
  have hmem : backupName now ∈ (regularOperationalBackupNames
      (dir.set (backupName now) (.file content))).filter isStateBackupFileName := by
    rw [hnames, List.mem_filter]
    exact ⟨by simp, hstate⟩
  have hnewer : ((regularOperationalBackupNames (dir.set (backupName now) (.file content))).filter
      isStateBackupFileName).filter (backupName now < ·) = newerBackups dir (backupName now) := by
    have hirrefl : ¬backupName now < backupName now := List.lt_irrefl _
    rw [hnames, List.filter_filter, List.filter_append, newerBackups]
    simp [hirrefl, Bool.and_comm]
  have henvironment (keep : ℕ) (names : List JsString) :
      backupName now ∉ (sorted (names.filter isEnvironmentBackupFileName)).reverse.drop keep := by
    intro hin
    have hfile := (List.perm_insertionSort _ _).mem_iff.1
      (List.mem_reverse.1 (List.mem_of_mem_drop hin))
    rw [List.mem_filter, isEnvironmentBackupFileName_backupName] at hfile
    exact Bool.false_ne_true hfile.2
  have hpruned : backupName now ∈ sorted (prunedNames (dir.set (backupName now) (.file content))
      keepState defaultKeepEnvironmentBackups) ↔
      ¬(newerBackups dir (backupName now)).length < max 1 keepState := by
    rw [sorted, (List.perm_insertionSort _ _).mem_iff, prunedNames, List.mem_append,
      or_iff_left (henvironment _ _), mem_drop_reverse_sorted_iff (hnodup.filter _) hmem, hnewer,
      Nat.not_lt]
  unfold pruneOperationalBackups
  rw [Record.get?_foldl_erase, Record.get?_set_self]
  by_cases hkeep : (newerBackups dir (backupName now)).length < max 1 keepState
  · rw [if_neg fun hin => hpruned.1 hin hkeep, if_pos hkeep]
  · rw [if_pos (hpruned.2 hkeep), if_neg hkeep]

/-! ## Back again -/

/-- A target a backup is restored to: nothing stands there, or an empty folder. -/
def IsFree (target : Target) : Prop :=
  target = .absent ∨ ∃ mode, target = .directory ⟨mode, []⟩

/-- **Backup then restore is the identity.** The backup returns, its archive is there and is one
the checks take, and restoring it makes just the files that are kept, when no step fails. -/
def RoundTrips (host : BackupHost) (backupDirectory : Option StatePath) (tree : StateTree)
    (options : CreateStateBackupOptions) (dir : BackupDirectory) : Prop :=
  ∃ result after bytes,
    createStateBackup host backupDirectory tree.entries options dir = (.ok result, after) ∧
    after.get? result.name = some (.file bytes) ∧
    (validateStateBackup host (.ok bytes)).valid = true ∧
    ∀ recovery : RecoveryHost, recovery.toBackupHost = host → recovery.archive = bytes →
      recovery.parentSafe = true → (∀ step, recovery.fails step = none) →
      ∀ target, IsFree target → ∃ folder, targetAfter recovery true target = .directory folder ∧
        Made folder.entries ∧
        ∀ f, f ∈ filesIn folder.entries ↔ f ∈ filesIn tree.entries ∧ Kept backupDirectory f.1

/-- What the way back rests on: the checks take every path, the contents are within their limit,
and the archive is not deleted at once. -/
structure Restorable (backupDirectory : Option StatePath) (tree : StateTree)
    (options : CreateStateBackupOptions) (dir : BackupDirectory) : Prop where
  paths : ∀ f ∈ filesIn tree.entries, Kept backupDirectory f.1 → SafePath f.1
  size : contentSize (keptFiles backupDirectory tree) ≤ defaultMaxTotalBytes
  retained : Retained options dir

/-- Restoring an archive that is taken makes its files. -/
theorem targetAfter_archive {recovery : RecoveryHost} {createdAt : JsString}
    {files : List (StatePath × Bytes)} (hfiles : Listed files)
    (hapart : files.Pairwise fun f g => Apart f.1 g.1)
    (harchive : recovery.archive = archiveBytes createdAt (backupFiles recovery.toBackupHost files))
    (hvalid : (validateStateBackup recovery.toBackupHost (.ok recovery.archive)).valid = true)
    (hparent : recovery.parentSafe = true) (hfails : ∀ step, recovery.fails step = none)
    {target : Target} (hfree : IsFree target) :
    ∃ folder, targetAfter recovery true target = .directory folder ∧ Made folder.entries ∧
      (filesIn folder.entries).Perm files := by
  have hrestored : restoredFiles recovery = files :=
    restoredFiles_archive hfiles.nonempty hfiles.names harchive
  have hstaged : Staged recovery :=
    ⟨hparent, fun step _ => hfails step, fun step _ => hfails step, hvalid, hrestored ▸ hapart⟩
  rcases hfree with rfl | ⟨mode, rfl⟩
  · obtain ⟨folder, validation, ⟨hmade, hperm⟩, hafter⟩ := targetAfter_staged hstaged .absent
    rw [StateRecovery.swapIn_renames (hfails _)] at hafter
    exact ⟨folder, hafter, hmade, hrestored ▸ hperm⟩
  · obtain ⟨folder, validation, ⟨hmade, hperm⟩, hafter⟩ :=
      targetAfter_staged hstaged (.empty mode)
    rw [StateRecovery.swapIn_directory, if_neg (not_not_intro (hfails _)), if_pos (hfails _)]
      at hafter
    exact ⟨folder, hafter, hmade, hrestored ▸ hperm⟩

/-- An archive that is refused makes the backup fail. -/
theorem createStateBackup_refused
    (hwrites : createStateBackupUnderLease host backupDirectory tree.entries options dir =
      .ok (result, written))
    (hinvalid : ¬(validateStateBackup host (.ok (archiveBytes options.now.text
      (backupFiles host (regularBackupFiles backupDirectory tree.entries))))).valid = true) :
    (createStateBackup host backupDirectory tree.entries options dir).1 =
      .error (JsError.new "backup_validation_failed") := by
  obtain ⟨-, -, hresult, hwritten⟩ := createStateBackupUnderLease_ok hwrites
  have hread : readStored written result.name = .ok (archiveBytes options.now.text
      (backupFiles host (regularBackupFiles backupDirectory tree.entries))) := by
    rw [readStored, hwritten, hresult, Record.get?_set_self]
  unfold createStateBackup
  rw [hwrites]
  dsimp only
  rw [hread, Bool.eq_false_iff.2 hinvalid]
  rfl

/-- A backup whose archive is taken returns, and leaves what pruning leaves. -/
theorem createStateBackup_accepted
    (hwrites : createStateBackupUnderLease host backupDirectory tree.entries options dir =
      .ok (result, written))
    (hsafe : ∀ f ∈ regularBackupFiles backupDirectory tree.entries, SafePath f.1)
    (hsize : contentSize (regularBackupFiles backupDirectory tree.entries) ≤
      defaultMaxTotalBytes) :
    createStateBackup host backupDirectory tree.entries options dir =
      (.ok result, if options.retention = .apply then
          pruneOperationalBackups options.keepBackups defaultKeepEnvironmentBackups written
        else written) := by
  obtain ⟨hlisted, -, hresult, hwritten⟩ := createStateBackupUnderLease_ok hwrites
  have hread : readStored written result.name = .ok (archiveBytes options.now.text
      (backupFiles host (regularBackupFiles backupDirectory tree.entries))) := by
    rw [readStored, hwritten, hresult, Record.get?_set_self]
  unfold createStateBackup
  rw [hwrites]
  dsimp only
  rw [hread, validate_archive_eq hlisted options.now hsafe hsize, hresult]
  simp only [BackupValidation.valid, decide_true, Bool.not_true, ne_eq, not_true_eq_false,
    decide_false, Bool.or_self, Bool.false_eq_true, if_false]
  split
  · rfl
  · rfl

/-- The archive of a backup that returned is there unless pruning deleted it. -/
theorem afterBackup_get? {content : Bytes} (hname : backupName options.now ∉ dir.keys) :
    (if options.retention = .apply then
        pruneOperationalBackups options.keepBackups defaultKeepEnvironmentBackups
          (dir.set (backupName options.now) (.file content))
      else dir.set (backupName options.now) (.file content)).get? (backupName options.now) =
        if Retained options dir then some (.file content) else none := by
  cases hretention : options.retention with
  | apply =>
    have hretained : Retained options dir ↔
        (newerBackups dir (backupName options.now)).length < max 1 options.keepBackups := by
      simp [Retained, hretention]
    rw [if_pos rfl, pruneOperationalBackups_get? hname, if_congr hretained rfl rfl]
  | defer =>
    rw [if_neg Retention.noConfusion, Record.get?_set_self, if_pos (.inl hretention)]

theorem RoundTrips.restorable
    (hwrites : createStateBackupUnderLease host backupDirectory tree.entries options dir =
      .ok (result, written))
    (h : RoundTrips host backupDirectory tree options dir) :
    Restorable backupDirectory tree options dir := by
  obtain ⟨hlisted, hname, hresult, hwritten⟩ := createStateBackupUnderLease_ok hwrites
  obtain ⟨returned, after, bytes, hcreate, hfile, -⟩ := h
  by_cases hvalid : (validateStateBackup host (.ok (archiveBytes options.now.text
      (backupFiles host (regularBackupFiles backupDirectory tree.entries))))).valid = true
  · obtain ⟨hsafe, hsize⟩ := (validate_archive_iff hlisted options.now).1 hvalid
    rw [createStateBackup_accepted hwrites hsafe hsize] at hcreate
    cases hcreate
    refine ⟨fun f hf hkept => hsafe f (mem_regularBackupFiles.2 ⟨hf, hkept⟩), ?_, ?_⟩
    · rw [← contentSize_keptFiles]
      exact hsize
    · by_contra hpruned
      rw [hresult, hwritten, afterBackup_get? hname, if_neg hpruned] at hfile
      cases hfile
  · have hrefused := createStateBackup_refused hwrites hvalid
    rw [hcreate] at hrefused
    cases hrefused

/-- **A backup that is written comes back if and only if it is restorable.** -/
theorem backup_roundTrips_iff
    (hwrites : createStateBackupUnderLease host backupDirectory tree.entries options dir =
      .ok (result, written)) :
    RoundTrips host backupDirectory tree options dir ↔
      Restorable backupDirectory tree options dir := by
  constructor
  · exact RoundTrips.restorable hwrites
  · intro h
    obtain ⟨hlisted, hname, hresult, hwritten⟩ := createStateBackupUnderLease_ok hwrites
    have hsafe : ∀ f ∈ regularBackupFiles backupDirectory tree.entries, SafePath f.1 := fun f hf =>
      h.paths f (mem_regularBackupFiles.1 hf).1 (mem_regularBackupFiles.1 hf).2
    have hsize := h.size
    rw [← contentSize_keptFiles] at hsize
    have hvalid : (validateStateBackup host (.ok (archiveBytes options.now.text
        (backupFiles host (regularBackupFiles backupDirectory tree.entries))))).valid = true :=
      (validate_archive_iff hlisted options.now).2 ⟨hsafe, hsize⟩
    refine ⟨result, _, _, createStateBackup_accepted hwrites hsafe hsize, ?_, hvalid, ?_⟩
    · rw [hresult, hwritten, afterBackup_get? hname, if_pos h.retained]
    · rintro recovery rfl harchive hparent hfails target hfree
      rw [← harchive] at hvalid
      obtain ⟨folder, hafter, hmade, hperm⟩ := targetAfter_archive hlisted
        regularBackupFiles_apart harchive hvalid hparent hfails hfree
      exact ⟨folder, hafter, hmade, fun f => hperm.mem_iff.trans mem_regularBackupFiles⟩

end written

/-! ### A directory with one file -/

def oneFile (name : JsString) (hname : IsName name) : StateTree where
  entries := [(name, .file [97])]
  names := List.nodup_singleton name
  distinct := ⟨trivial, trivial⟩
  isName f hf other hother := by
    rw [filesIn, filesIn, FileTree.Entry.files, List.append_nil, List.map_singleton,
      List.mem_singleton] at hf
    rw [hf, List.mem_singleton] at hother
    exact hother ▸ hname

/-- A directory with one file that is not excluded is backed up. -/
theorem oneFile_writes {name : JsString} (hname : IsName name)
    (hkept : isExcludedStateFile name = false) :
    createStateBackupUnderLease sampleBackupHost none (oneFile name hname).entries
        ⟨sampleTime, defaultMaxFileBytes, defaultMaxTotalBytes, defaultKeepStateBackups, .apply⟩
        .empty =
      .ok (⟨backupName sampleTime, 1, 1⟩, Record.empty.set (backupName sampleTime)
        (.file (archiveBytes sampleTime.text
          (backupFiles sampleBackupHost [([name], [97])])))) := by
  have hlist : regularBackupFiles none (oneFile name hname).entries = [([name], [97])] := by
    simp [regularBackupFiles, oneFile, walkIn, FileTree.Entry.walk, hkept]
  unfold createStateBackupUnderLease collectStateBackup
  rw [hlist]
  rfl

theorem mem_oneFile {name : JsString} {hname : IsName name} {f : StatePath × Bytes} :
    f ∈ filesIn (oneFile name hname).entries ↔ f = ([name], [97]) := by
  simp [oneFile, filesIn, FileTree.Entry.files]

theorem letterName : IsName (js "a") := ⟨by decide +kernel, by decide +kernel⟩

theorem backslashName : IsName (js "a\\b") := ⟨by decide +kernel, by decide +kernel⟩

theorem letter_kept : isExcludedStateFile (js "a") = false := by decide +kernel

theorem backslash_kept : isExcludedStateFile (js "a\\b") = false := by decide +kernel

theorem oneFile_roundTrips :
    RoundTrips sampleBackupHost none (oneFile (js "a") letterName)
      ⟨sampleTime, defaultMaxFileBytes, defaultMaxTotalBytes, defaultKeepStateBackups, .apply⟩
      .empty := by
  refine (backup_roundTrips_iff (oneFile_writes letterName letter_kept)).2 ⟨?_, ?_, .inr ?_⟩
  · intro f hf _
    rw [mem_oneFile.1 hf]
    exact ⟨by decide +kernel, by decide +kernel, by decide +kernel⟩
  · rw [← contentSize_keptFiles]
    decide +kernel
  · decide

/-- A file with a backslash in its name is written to the archive, and the checks refuse it. -/
theorem backslash_not_roundTrips :
    ¬∀ (host : BackupHost) (backupDirectory : Option StatePath) (tree : StateTree)
      (options : CreateStateBackupOptions) (dir : BackupDirectory),
      (∃ result written, createStateBackupUnderLease host backupDirectory tree.entries options dir =
        .ok (result, written)) → RoundTrips host backupDirectory tree options dir := by
  intro hall
  have hwrites := oneFile_writes backslashName backslash_kept
  have hrestorable := (hall _ _ _ _ _ ⟨_, _, hwrites⟩).restorable hwrites
  have hkept : Kept none [js "a\\b"] := by decide +kernel
  have hsafe := hrestorable.paths ([js "a\\b"], [97]) (mem_oneFile.2 rfl) hkept
  exact hsafe.backslash (js "a\\b") (List.mem_cons_self ..) (by decide +kernel)

end StateBackups
end Autopilot
