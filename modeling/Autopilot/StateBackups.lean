/-
The backups of the state directory (`stateBackup.ts`).

A backup walks the state directory, leaves out what the rules exclude and writes the other
regular files to one archive: a JSON document with a manifest and the contents in base64. The
archive is read back and checked before the backup returns, and one that fails the checks is
put aside. Then the archives that are too many are deleted, the oldest names first.

Paths are the names on the way from the state directory. The host is a POSIX one, so that a
path in an archive is these names with slashes between them, and a name may hold anything else.
What a reader makes of bytes that are no text, of a number and of a text that is no JSON is
part of the host.
-/
import Autopilot.Handoff
import Autopilot.StateLogs
import Autopilot.Lib.FileTree
import Autopilot.Lib.Base64
import Autopilot.Lib.JsonDocument
import Autopilot.Lib.Utf8

set_option autoImplicit false

namespace Autopilot
namespace StateBackups

open FileTree (Entry walkIn filesIn)
open GovernedDispatch (sorted)
open Incidents (IsoTimestamp fits)
open JsonText (Decimal Document Numeral Scalar Value member)
open StateLogs (Bytes stamp)

/-! ## The host -/

/-- What reading an archive rests on: SHA-256, the text that bytes which are no UTF-8 read as,
and what `JSON.parse` makes of a number and says of a text it refuses. -/
structure BackupHost where
  checksum : Bytes → JsString
  isHex : ∀ content, isHexDigest (checksum content) = true
  replaced : Bytes → JsString
  number : Decimal → JsNumber
  number_exact : ∀ n ≤ maxSafeInteger, number ⟨false, n, 0⟩ = .ofNat n
  syntaxMessage : JsString → JsString

/-- `readFileSync(path, "utf8")`, of the bytes of the file. -/
def BackupHost.readText (host : BackupHost) (bytes : Bytes) : JsString :=
  (Utf8.decode bytes).getD (host.replaced bytes)

/-! ## Limits and names -/

def backupVersion : ℕ := 1
def defaultMaxFileBytes : ℕ := 4 * 1024 * 1024
def defaultMaxTotalBytes : ℕ := 32 * 1024 * 1024
def defaultMaxFiles : ℕ := 2000
def defaultKeepStateBackups : ℕ := 7
def defaultKeepEnvironmentBackups : ℕ := 0

/-- `AUTH_STATE_DIRECTORY_NAME`. -/
def authStateDirectoryName : JsString := js "auth"

/-- The names on the way from the state directory. -/
abbrev StatePath := List JsString

/-- What stands in the state directory. -/
abbrev StateEntries := List (JsString × Entry JsString Bytes)

def slash : UInt16 := 47

/-- `portableRelative`. -/
def portableRelative (path : StatePath) : JsString := List.intercalate [slash] path

/-- `path.split("/")`. -/
def segmentsOf (path : JsString) : List JsString := path.splitOn slash

/-- A segment that stands for no name of its own: nothing, the folder itself, or its parent. -/
def isSpecialSegment (segment : JsString) : Bool :=
  segment = [] || segment = js "." || segment = js ".."

/-- `resolve(base, ...segments)`, for segments without slashes. -/
def resolveBelow (base : StatePath) (segments : List JsString) : StatePath :=
  segments.foldl (fun path segment =>
    if segment = [] ∨ segment = js "." then path
    else if segment = js ".." then path.dropLast
    else path ++ [segment]) base

/-- The resolved path lies below the base. -/
def staysBelow (base path : StatePath) : Bool :=
  base.isPrefixOf path && decide (base.length < path.length)

/-- `safeArchivePath`. -/
def safeArchivePath (path : JsString) : Bool :=
  !(path.length = 0 || path.length > 512 || path.head? = some slash || decide (92 ∈ path)) &&
    !(segmentsOf path).any isSpecialSegment &&
    !((segmentsOf path).head? = some authStateDirectoryName) &&
    staysBelow [js "restore"] (resolveBelow [js "restore"] (segmentsOf path))

/-! ## What is backed up -/

/-- `isExcludedStateFile`. -/
def isExcludedStateFile (name : JsString) : Bool :=
  (js ".tmp").isSuffixOf name || decide (js ".tmp-" <:+: name) ||
    decide (js ".quarantine" <:+: name) || (js ".apbackup.json").isSuffixOf name

/-- The walk goes into a directory, given by its path. Where the backups go is such a path when
it lies below the state directory. -/
def visits (backupDirectory : Option StatePath) (path : StatePath) : Bool :=
  !(backupDirectory = some path || path = [authStateDirectoryName] ||
    path.getLast? = some (js ".state-maintenance.lock") ||
    path.getLast?.any (js "-incident-spool").isSuffixOf)

/-- `regularBackupFiles`, with the contents of the files. The paths are sorted as they are
written. -/
def regularBackupFiles (backupDirectory : Option StatePath) (entries : StateEntries) :
    List (StatePath × Bytes) :=
  (walkIn (visits backupDirectory) (fun name => !isExcludedStateFile name) [] entries).insertionSort
    fun left right => portableRelative left.1 ≤ portableRelative right.1

/-! ## The archive -/

structure BackupEntry where
  path : JsString
  bytes : ℕ
  sha256 : JsString
  deriving DecidableEq

structure BackupFile extends BackupEntry where
  data : JsString
  deriving DecidableEq

/-- A file as the archive holds it. -/
def backupFile (host : BackupHost) (path : StatePath) (content : Bytes) : BackupFile where
  path := portableRelative path
  bytes := content.length
  sha256 := host.checksum content
  data := Base64.encode content

/-- The loop of `createStateBackupUnderLease` over the files, behind those it has taken. -/
def takeFiles (host : BackupHost) (maxFileBytes maxTotalBytes : ℕ) :
    List BackupFile → ℕ → List (StatePath × Bytes) → Except JsError (List BackupFile × ℕ)
  | files, totalBytes, [] => .ok (files, totalBytes)
  | files, totalBytes, (path, content) :: rest =>
    if files.length ≥ defaultMaxFiles then .error (JsError.new "backup_file_count_exceeded")
    else if content.length > maxFileBytes then
      .error (.error (js "Error") (js "backup_file_too_large:" ++ portableRelative path))
    else if totalBytes + content.length > maxTotalBytes then
      .error (JsError.new "backup_total_too_large")
    else takeFiles host maxFileBytes maxTotalBytes (files ++ [backupFile host path content])
      (totalBytes + content.length) rest

theorem decimalDigits_head {fuel n : ℕ} (hpos : 0 < n) (hfuel : n < fuel) :
    (decimalDigits fuel n).head? ≠ some 48 ∧ decimalDigits fuel n ≠ [] := by
  induction fuel generalizing n with
  | zero => exact absurd hfuel (Nat.not_lt_zero n)
  | succ fuel ih =>
    unfold decimalDigits
    by_cases hn : n < 10
    · rw [if_pos hn]
      interval_cases n <;> decide
    · rw [if_neg hn]
      obtain ⟨hhead, hne⟩ := ih (n := n / 10) (by omega) (by omega)
      rw [List.head?_append_of_ne_nil _ hne]
      exact ⟨hhead, by simp⟩

theorem digits_nil : ∀ c ∈ ([] : List UInt16), JsonText.isDigit c = true := List.forall_mem_nil _

theorem no_exponent : ∀ e ∈ (none : Option (Bool × List UInt16)),
    e.2 ≠ [] ∧ ∀ c ∈ e.2, JsonText.isDigit c = true := nofun

/-- How `JSON.stringify` spells a natural number. -/
def natNumeral (n : ℕ) : Numeral where
  whole := decimal n
  fraction := []
  exponent := none
  wholeDigits := by
    rcases Nat.eq_zero_or_pos n with rfl | hpos
    · exact .inl rfl
    · obtain ⟨hhead, hne⟩ := decimalDigits_head hpos (Nat.lt_succ_self n)
      refine .inr ⟨hhead, hne, fun c hc => ?_⟩
      have hunits := decimalDigits_units hc
      unfold JsonText.isDigit
      rw [decide_eq_true hunits.1, decide_eq_true hunits.2]
      rfl
  fractionDigits := digits_nil
  exponentDigits := no_exponent

def textDocument (text : JsString) : Document := .scalar (.string text)
def natDocument (n : ℕ) : Document := .scalar (.number (natNumeral n))

/-- The members of a manifest entry. -/
def BackupEntry.members (entry : BackupEntry) : List (JsString × Document) :=
  [(js "path", textDocument entry.path), (js "bytes", natDocument entry.bytes),
    (js "sha256", textDocument entry.sha256)]

/-- The archive of some files. -/
def archiveDocument (createdAt : JsString) (files : List BackupFile) : Document :=
  .object
    [(js "version", natDocument backupVersion), (js "created_at", textDocument createdAt),
      (js "manifest", .array (files.map fun file => .object file.toBackupEntry.members)),
      (js "files", .array (files.map fun file =>
        .object (file.toBackupEntry.members ++ [(js "data", textDocument file.data)])))]

/-- The bytes of the archive, with the line break behind it. -/
def archiveBytes (createdAt : JsString) (files : List BackupFile) : Bytes :=
  Utf8.encode ((archiveDocument createdAt files).text ++ [10])

/-! ## `validateStateBackup` -/

structure BackupValidation where
  fileCount : ℕ
  totalBytes : ℕ
  errors : List JsString
  deriving DecidableEq

def BackupValidation.valid (validation : BackupValidation) : Bool := validation.errors = []

/-- A file of an archive, as far as restoring reads it. -/
structure ArchiveFile where
  path : JsString
  data : JsString
  deriving DecidableEq

section validate

variable (host : BackupHost)

/-- The value of an archive, or the message of what reading it throws. -/
def readArchive : Except JsError Bytes → Except JsString Value
  | .error error => .error (error.message?.getD (js "invalid_archive"))
  | .ok bytes =>
    if bytes.length > defaultMaxTotalBytes * 2 then .error (js "archive_too_large")
    else match JsonText.parse (host.readText bytes) with
      | none => .error (host.syntaxMessage (host.readText bytes))
      | some value => .ok value

/-- The manifest and the files of an archive of this version. -/
def archiveParts : Value → Option (List Value × List Value)
  | .object members =>
    match member members (js "version"), member members (js "manifest"),
        member members (js "files") with
    | some (.number version), some (.array manifest), some (.array files) =>
      if (host.number version).isNat backupVersion then some (manifest, files) else none
    | _, _, _ => none
  | _ => none

/-- `isBackupEntry`, with the entry. -/
def backupEntry? : Value → Option BackupEntry
  | .object members =>
    match member members (js "path"), member members (js "bytes"),
        member members (js "sha256") with
    | some (.string path), some (.number bytes), some (.string sha256) =>
      match (host.number bytes).nonNegativeSafeInteger? with
      | some bytes => if isHexDigest sha256 then some ⟨path, bytes, sha256⟩ else none
      | none => none
    | _, _, _ => none
  | _ => none

/-- What `validateStateBackup` reads of a file of an archive. -/
def archiveFile? : Value → Option ArchiveFile
  | .object members =>
    match member members (js "path"), member members (js "data") with
    | some (.string path), some (.string data) => some ⟨path, data⟩
    | _, _ => none
  | _ => none

/-- The loop over the manifest: its errors, and the entries by their paths. -/
def readManifest : List Value → Record JsString BackupEntry →
    List JsString × Record JsString BackupEntry
  | [], manifest => ([], manifest)
  | value :: rest, manifest =>
    match backupEntry? host value with
    | none =>
      let more := readManifest rest manifest
      (js "invalid_manifest_entry" :: more.1, more.2)
    | some entry =>
      if !safeArchivePath entry.path || (manifest.get? entry.path).isSome then
        let more := readManifest rest manifest
        (js "invalid_manifest_entry" :: more.1, more.2)
      else readManifest rest (manifest.set entry.path entry)

/-- The errors of a file whose path is in order. -/
def fileErrors (manifest : Record JsString BackupEntry) (file : ArchiveFile) (content : Bytes) :
    List JsString :=
  (if Base64.encode content ≠ file.data then [js "invalid_base64:" ++ file.path] else []) ++
    match manifest.get? file.path with
    | none => [js "manifest_missing:" ++ file.path]
    | some entry =>
      if entry.bytes ≠ content.length then [js "size_mismatch:" ++ file.path]
      else if entry.sha256 ≠ host.checksum content then [js "checksum_mismatch:" ++ file.path]
      else []

/-- The loop over the files: its errors, the paths it has seen and the bytes of them. -/
def readFiles (manifest : Record JsString BackupEntry) : List Value → List JsString → ℕ →
    List JsString × List JsString × ℕ
  | [], seen, totalBytes => ([], seen, totalBytes)
  | value :: rest, seen, totalBytes =>
    match archiveFile? value with
    | none =>
      let more := readFiles manifest rest seen totalBytes
      (js "invalid_file_entry" :: more.1, more.2)
    | some file =>
      if !safeArchivePath file.path || decide (file.path ∈ seen) then
        let more := readFiles manifest rest seen totalBytes
        (js "invalid_file_entry" :: more.1, more.2)
      else
        let content := Base64.decode file.data
        let more := readFiles manifest rest (seen ++ [file.path]) (totalBytes + content.length)
        (fileErrors host manifest file content ++ more.1, more.2)

/-- The checks of a manifest and its files. -/
def checkArchive (manifest files : List Value) : BackupValidation :=
  if manifest.length > defaultMaxFiles ∨ files.length > defaultMaxFiles then
    ⟨0, 0, [js "backup_file_count_exceeded"]⟩
  else
    let entries := readManifest host manifest .empty
    let read := readFiles host entries.2 files [] 0
    { fileCount := read.2.1.length
      totalBytes := read.2.2
      errors := entries.1 ++ read.1 ++
        ((entries.2.keys.filter (· ∉ read.2.1)).map (js "payload_missing:" ++ ·)) ++
        (if read.2.2 > defaultMaxTotalBytes then [js "backup_total_too_large"] else []) }

/-- `validateStateBackup`, of what reading the file gives. -/
def validateStateBackup (read : Except JsError Bytes) : BackupValidation :=
  match readArchive host read with
  | .error message => ⟨0, 0, [message]⟩
  | .ok value =>
    match archiveParts host value with
    | none => ⟨0, 0, [js "invalid_archive_schema"]⟩
    | some (manifest, files) => checkArchive host manifest files

/-- The files of an archive, as restoring reads them. -/
def archiveFiles (bytes : Bytes) : List ArchiveFile :=
  match JsonText.parse (host.readText bytes) with
  | some (.object members) =>
    match member members (js "files") with
    | some (.array files) => files.filterMap archiveFile?
    | _ => []
  | _ => []

end validate

/-! ## The directory of the backups -/

/-- What stands in the directory of the backups. -/
inductive Stored where
  | file (content : Bytes)
  | other
  deriving DecidableEq

def Stored.isFile : Stored → Bool
  | .file _ => true
  | .other => false

abbrev BackupDirectory := Record JsString Stored

inductive Retention where
  | apply | defer
  deriving DecidableEq

structure CreateStateBackupOptions where
  now : IsoTimestamp
  maxFileBytes : ℕ := defaultMaxFileBytes
  maxTotalBytes : ℕ := defaultMaxTotalBytes
  keepBackups : ℕ := defaultKeepStateBackups
  retention : Retention := .apply

structure BackupResult where
  name : JsString
  fileCount : ℕ
  totalBytes : ℕ
  deriving DecidableEq

/-- The name of the archive of a time. -/
def backupName (now : IsoTimestamp) : JsString :=
  js "autopilot-state-" ++ stamp now ++ js ".apbackup.json"

/-- `isStateBackupFileName`. -/
def isStateBackupFileName (name : JsString) : Bool :=
  (js "autopilot-state-").isPrefixOf name && (js ".apbackup.json").isSuffixOf name

/-- `/^control-plane\.env\.\d{8}T\d{6}Z\.bak$/`. -/
def isEnvironmentBackupFileName (name : JsString) : Bool :=
  fits ((js "control-plane.env.").map (fun c d => d == c) ++ List.replicate 8 JsonText.isDigit ++
    [fun c => c == 84] ++ List.replicate 6 JsonText.isDigit ++
    (js "Z.bak").map (fun c d => d == c)) name

/-- `regularOperationalBackupNames`. -/
def regularOperationalBackupNames (dir : BackupDirectory) : List JsString :=
  (dir.entries.filter fun entry => entry.2.isFile).map Prod.fst

/-- The names a pruning deletes. -/
def prunedNames (dir : BackupDirectory) (keepState keepEnvironment : ℕ) : List JsString :=
  let names := regularOperationalBackupNames dir
  (sorted (names.filter isStateBackupFileName)).reverse.drop (max 1 keepState) ++
    (sorted (names.filter isEnvironmentBackupFileName)).reverse.drop keepEnvironment

/-- `pruneOperationalBackups`. -/
def pruneOperationalBackups (keepState keepEnvironment : ℕ) (dir : BackupDirectory) :
    BackupDirectory :=
  (sorted (prunedNames dir keepState keepEnvironment)).foldl Record.erase dir

/-- The name an archive is put aside under: the first that is free. -/
def quarantineName (dir : BackupDirectory) (name : JsString) : JsString :=
  let candidate (suffix : ℕ) :=
    name ++ js ".quarantine" ++ if suffix = 0 then [] else js "-" ++ decimal suffix
  candidate (((List.range (dir.size + 1)).find? fun suffix =>
    candidate suffix ∉ dir.keys).getD 0)

/-- `quarantineStateBackup`. -/
def quarantineStateBackup (dir : BackupDirectory) (name : JsString) (stored : Stored) :
    BackupDirectory :=
  (dir.erase name).set (quarantineName dir name) stored

section create

variable (host : BackupHost) (backupDirectory : Option StatePath) (entries : StateEntries)
variable (options : CreateStateBackupOptions) (dir : BackupDirectory)

/-- The files an archive is made of, and their size. -/
def collectStateBackup : Except JsError (List BackupFile × ℕ) :=
  takeFiles host options.maxFileBytes options.maxTotalBytes [] 0
    (regularBackupFiles backupDirectory entries)

/-- `createStateBackupUnderLease`: the archive is in the directory when it returns. -/
def createStateBackupUnderLease : Except JsError (BackupResult × BackupDirectory) :=
  match collectStateBackup host backupDirectory entries options with
  | .error error => .error error
  | .ok (files, totalBytes) =>
    if backupName options.now ∈ dir.keys then .error (JsError.new "backup_name_collision")
    else .ok (⟨backupName options.now, files.length, totalBytes⟩,
      dir.set (backupName options.now) (.file (archiveBytes options.now.text files)))

/-- Reading a file of the directory. -/
def readStored (dir : BackupDirectory) (name : JsString) : Except JsError Bytes :=
  match dir.get? name with
  | some (.file content) => .ok content
  | some .other => .error (JsError.new "EISDIR")
  | none => .error (JsError.new "ENOENT")

/-- `createStateBackup`, with the directory it leaves behind. -/
def createStateBackup : Except JsError BackupResult × BackupDirectory :=
  match createStateBackupUnderLease host backupDirectory entries options dir with
  | .error error => (.error error, dir)
  | .ok (result, written) =>
    let validation := validateStateBackup host (readStored written result.name)
    if !validation.valid || validation.fileCount ≠ result.fileCount ||
        validation.totalBytes ≠ result.totalBytes then
      (.error (JsError.new "backup_validation_failed"),
        quarantineStateBackup written result.name ((written.get? result.name).getD .other))
    else if options.retention = .apply then
      (.ok result,
        pruneOperationalBackups options.keepBackups defaultKeepEnvironmentBackups written)
    else (.ok result, written)

end create

end StateBackups
end Autopilot
