/-
What is written to an archive, and what the checks make of it.

The writer of an archive and its checks have rules of their own. A path is put together from
names, and the checks take it apart again: they refuse a path that is long, one with a backslash,
and one below the directory of the sessions, which the walk leaves out only when it is a
directory. Everything else that the walk lists passes, and an archive within the limit of its
contents is within the limit of its size.
-/
import Autopilot.StateBackups
import Autopilot.Lib.JsonBytes
import Autopilot.Lib.Separated
import Mathlib.Algebra.Order.BigOperators.Group.List

set_option autoImplicit false

namespace Autopilot
namespace StateBackups

open FileTree (Entry walkIn filesIn)
open Incidents (IsoTimestamp fits)
open JsonText (Document Value member AfterNumber)
open StateLogs (Bytes)

/-! ## Paths -/

/-- A name of a file or directory. -/
structure IsName (name : JsString) : Prop where
  slash : slash ∉ name
  special : isSpecialSegment name = false

theorem IsName.ne {name : JsString} (h : IsName name) :
    name ≠ [] ∧ name ≠ js "." ∧ name ≠ js ".." := by
  have hspecial := h.special
  unfold isSpecialSegment at hspecial
  rw [Bool.or_eq_false_iff, Bool.or_eq_false_iff] at hspecial
  exact ⟨of_decide_eq_false hspecial.1.1, of_decide_eq_false hspecial.1.2,
    of_decide_eq_false hspecial.2⟩

/-- A path that is taken apart has the names it was put together from. -/
theorem segmentsOf_portableRelative {path : StatePath} (hne : path ≠ [])
    (hnames : ∀ name ∈ path, IsName name) : segmentsOf (portableRelative path) = path :=
  List.splitOn_intercalate slash (fun name hname => (hnames name hname).slash) hne

/-- Segments that are names lead below the base. -/
theorem resolveBelow_names {path : List JsString} (hnames : ∀ name ∈ path, IsName name)
    (base : StatePath) : resolveBelow base path = base ++ path := by
  induction path generalizing base with
  | nil => simp [resolveBelow]
  | cons name rest ih =>
    have hname := (hnames name (List.mem_cons_self ..)).ne
    have hrest := ih (fun n hn => hnames n (List.mem_cons_of_mem _ hn)) (base ++ [name])
    unfold resolveBelow at hrest ⊢
    rw [List.foldl_cons, if_neg (by simp [hname.1, hname.2.1]), if_neg hname.2.2, hrest,
      List.append_assoc, List.singleton_append]

theorem staysBelow_append (base : StatePath) {path : StatePath} (hne : path ≠ []) :
    staysBelow base (base ++ path) = true := by
  have hlength := List.length_pos_of_ne_nil hne
  unfold staysBelow
  rw [Bool.and_eq_true, List.isPrefixOf_iff_prefix, decide_eq_true_eq, List.length_append]
  exact ⟨List.prefix_append _ _, by omega⟩

/-- The units of a path are those of its names, and slashes. -/
theorem mem_portableRelative {path : StatePath} {c : UInt16} (hc : c ≠ slash) :
    c ∈ portableRelative path ↔ ∃ name ∈ path, c ∈ name := by
  unfold portableRelative
  induction path with
  | nil => simp [List.intercalate_nil]
  | cons name rest ih =>
    cases rest with
    | nil => simp [List.intercalate_singleton]
    | cons next rest =>
      rw [List.intercalate_cons_cons, List.mem_append, List.mem_append, ih]
      simp [hc]

theorem portableRelative_head {path : StatePath} (hne : path ≠ [])
    (hnames : ∀ name ∈ path, IsName name) :
    ∃ c rest, portableRelative path = c :: rest ∧ c ≠ slash := by
  cases path with
  | nil => exact absurd rfl hne
  | cons name rest =>
    have hname := hnames name (List.mem_cons_self ..)
    cases name with
    | nil => exact absurd rfl hname.ne.1
    | cons c name =>
      have hc : c ≠ slash := fun h => hname.slash (by simp [h])
      cases rest with
      | nil =>
        refine ⟨c, name, ?_, hc⟩
        rw [portableRelative, List.intercalate_singleton]
      | cons next rest =>
        refine ⟨c, name ++ ([slash] ++ List.intercalate [slash] (next :: rest)), ?_, hc⟩
        rw [portableRelative, List.intercalate_cons_cons, List.append_assoc, List.cons_append]

/-- The checks take the path: it is short enough, there is no backslash in it, and it does not
lead into the directory of the sessions. -/
structure SafePath (path : StatePath) : Prop where
  length : (portableRelative path).length ≤ 512
  backslash : ∀ name ∈ path, 92 ∉ name
  auth : path.head? ≠ some authStateDirectoryName

/-- **Which paths the checks take**, of those that a walk can come to. -/
theorem safeArchivePath_iff {path : StatePath} (hne : path ≠ [])
    (hnames : ∀ name ∈ path, IsName name) :
    safeArchivePath (portableRelative path) = true ↔ SafePath path := by
  obtain ⟨c, rest, hhead, hc⟩ := portableRelative_head hne hnames
  have hspecial : path.any isSpecialSegment = false := by
    rw [List.any_eq_false]
    intro name hname
    rw [(hnames name hname).special]
    exact Bool.false_ne_true
  have hslash : (portableRelative path).head? ≠ some slash := by
    rw [hhead]
    intro h
    exact hc (Option.some.inj h)
  have hlength : (portableRelative path).length ≠ 0 := by
    rw [hhead]
    exact Nat.succ_ne_zero _
  have hback : (92 : UInt16) ∈ portableRelative path ↔ ∃ name ∈ path, 92 ∈ name :=
    mem_portableRelative (by decide)
  unfold safeArchivePath
  rw [segmentsOf_portableRelative hne hnames, resolveBelow_names hnames, hspecial,
    staysBelow_append _ hne]
  simp only [Bool.and_eq_true, Bool.not_eq_true', Bool.or_eq_false_iff, decide_eq_false_iff_not,
    hlength, hslash, hback, not_false_eq_true, true_and, and_true]
  constructor
  · rintro ⟨⟨hshort, hnone⟩, hauth⟩
    refine ⟨Nat.le_of_not_lt hshort, fun name hname hmem => hnone ⟨name, hname, hmem⟩, hauth⟩
  · intro hsafe
    refine ⟨⟨Nat.not_lt.2 hsafe.length, ?_⟩, hsafe.auth⟩
    rintro ⟨name, hname, hmem⟩
    exact hsafe.backslash name hname hmem

/-- A path the checks take leads through names. -/
theorem names_of_safeArchivePath {path : JsString} (h : safeArchivePath path = true) :
    (∀ name ∈ segmentsOf path, IsName name) ∧ segmentsOf path ≠ [] ∧
      (segmentsOf path).head? ≠ some authStateDirectoryName := by
  unfold safeArchivePath at h
  simp only [Bool.and_eq_true, Bool.not_eq_true'] at h
  refine ⟨fun name hname => ⟨?_, ?_⟩, ?_, of_decide_eq_false h.1.2⟩
  · exact Separated.not_mem_of_mem_splitOn hname
  · have hany := List.any_eq_false.1 h.1.1.2 name hname
    exact Bool.eq_false_iff.2 hany
  · exact List.splitOn_ne_nil slash path

/-! ## What is taken -/

/-- The size of some files. -/
def contentSize (files : List (StatePath × Bytes)) : ℕ := (files.map fun f => f.2.length).sum

/-- The files as an archive holds them. -/
def backupFiles (host : BackupHost) (files : List (StatePath × Bytes)) : List BackupFile :=
  files.map fun f => backupFile host f.1 f.2

/-- What the loop over the files comes to when it does not stop at a limit. -/
theorem takeFiles_ok {host : BackupHost} {maxFileBytes maxTotalBytes totalBytes total : ℕ}
    {taken files : List BackupFile} {more : List (StatePath × Bytes)}
    (h : takeFiles host maxFileBytes maxTotalBytes taken totalBytes more = .ok (files, total)) :
    files = taken ++ backupFiles host more ∧ total = totalBytes + contentSize more ∧
      (taken.length ≤ defaultMaxFiles → files.length ≤ defaultMaxFiles) := by
  induction more generalizing taken totalBytes with
  | nil =>
    cases h
    exact ⟨by simp [backupFiles], by simp [contentSize], id⟩
  | cons f more ih =>
    obtain ⟨path, content⟩ := f
    rw [takeFiles] at h
    split_ifs at h with hcount _ _
    obtain ⟨hfiles, htotal, hlength⟩ := ih h
    refine ⟨?_, ?_, fun _ => hlength ?_⟩
    · rw [hfiles, List.append_assoc]
      rfl
    · rw [htotal]
      simp [contentSize, Nat.add_assoc]
    · rw [List.length_append, List.length_singleton]
      omega

/-! ## The archive is read back -/

theorem digitsValue_append (digits : JsString) (c : UInt16) :
    JsonText.digitsValue (digits ++ [c]) = 10 * JsonText.digitsValue digits + (c.toNat - 48) := by
  unfold JsonText.digitsValue
  rw [List.foldl_append]
  rfl

theorem digitsValue_decimalDigits {fuel n : ℕ} (h : n < fuel) :
    JsonText.digitsValue (decimalDigits fuel n) = n := by
  have hdigit : ∀ m < 10, ((48 + m).toUInt16).toNat - 48 = m := by
    intro m hm
    interval_cases m <;> decide
  induction fuel generalizing n with
  | zero => exact absurd h (Nat.not_lt_zero n)
  | succ fuel ih =>
    unfold decimalDigits
    by_cases hn : n < 10
    · rw [if_pos hn]
      have hvalue := digitsValue_append [] (48 + n).toUInt16
      rw [List.nil_append, hdigit n hn] at hvalue
      rw [hvalue]
      exact Nat.zero_add n
    · rw [if_neg hn, digitsValue_append, ih (by omega), hdigit _ (Nat.mod_lt _ (by decide))]
      omega

/-- A natural number is read as itself. -/
theorem natNumeral_decimal (n : ℕ) : (natNumeral n).decimal = ⟨false, n, 0⟩ := by
  unfold JsonText.Numeral.decimal JsonText.Numeral.power natNumeral
  dsimp only
  rw [List.append_nil, decimal, digitsValue_decimalDigits (Nat.lt_succ_self n)]
  rfl

section read

variable (host : BackupHost) (createdAt : JsString) (files : List BackupFile)

/-- The text of an archive comes back from its bytes. -/
theorem readText_archiveBytes :
    host.readText (archiveBytes createdAt files) =
      (archiveDocument createdAt files).text ++ [10] := by
  have hpaired : Utf8.Paired ((archiveDocument createdAt files).text ++ [10]) :=
    (archiveDocument createdAt files).paired.append
      (JsonText.paired_of_ascii (JsonText.ascii_of_all (by decide)))
  unfold BackupHost.readText archiveBytes
  rw [Utf8.decode_encode hpaired]
  rfl

theorem parse_archiveBytes :
    JsonText.parse (host.readText (archiveBytes createdAt files)) =
      some (archiveDocument createdAt files).value := by
  rw [readText_archiveBytes]
  refine JsonText.parse_document _ (List.all_eq_true.1 (by decide)) ?_
  intro c hc
  obtain rfl : (10 : UInt16) = c := Option.some.inj hc
  decide

/-- The value of an entry of a manifest. -/
def BackupEntry.value (entry : BackupEntry) : Value :=
  .object (entry.members.map fun m => (m.1, m.2.value))

/-- The value of a file of an archive. -/
def BackupFile.value (file : BackupFile) : Value :=
  .object ((file.toBackupEntry.members ++ [(js "data", textDocument file.data)]).map
    fun m => (m.1, m.2.value))

/-- The members of the value of an archive. -/
def archiveMembers : List (JsString × Value) :=
  [(js "version", .number (natNumeral backupVersion).decimal),
    (js "created_at", (textDocument createdAt).value),
    (js "manifest", .array (files.map fun file => file.toBackupEntry.value)),
    (js "files", .array (files.map BackupFile.value))]

theorem archiveDocument_value :
    (archiveDocument createdAt files).value = .object (archiveMembers createdAt files) := by
  have hversion : (natDocument backupVersion).value =
      .number (natNumeral backupVersion).decimal := by
    rw [natDocument, Document.value]
    rfl
  have hmanifest : (Document.array (files.map fun file =>
      .object file.toBackupEntry.members)).value =
      .array (files.map fun file => file.toBackupEntry.value) := by
    rw [Document.value, JsonText.elementValues_eq, List.map_map]
    exact congrArg Value.array (List.map_congr_left fun _ _ => rfl)
  have hfiles : (Document.array (files.map fun file => .object (file.toBackupEntry.members ++
      [(js "data", textDocument file.data)]))).value = .array (files.map BackupFile.value) := by
    rw [Document.value, JsonText.elementValues_eq, List.map_map]
    exact congrArg Value.array (List.map_congr_left fun _ _ => rfl)
  rw [archiveDocument, Document.value, JsonText.memberValues_eq]
  simp only [List.map_cons, List.map_nil, hversion, hmanifest, hfiles]
  rfl

theorem member_archiveMembers {name : JsString} {value : Value}
    (h : (name, value) ∈ archiveMembers createdAt files) :
    member (archiveMembers createdAt files) name = some value := by
  have hnames : [js "version", js "created_at", js "manifest", js "files"].Nodup := by decide
  exact JsonText.member_of_mem (by exact hnames) h

theorem member_files : member (archiveMembers createdAt files) (js "files") =
    some (.array (files.map BackupFile.value)) :=
  member_archiveMembers createdAt files (List.mem_cons_of_mem _ (List.mem_cons_of_mem _
    (List.mem_cons_of_mem _ (List.mem_cons_self ..))))

/-- **The parts of an archive that is read back** are the entries and the files that were
written. -/
theorem archiveParts_archiveDocument :
    archiveParts host (archiveDocument createdAt files).value =
      some (files.map fun file => file.toBackupEntry.value, files.map BackupFile.value) := by
  have hone : (host.number (natNumeral backupVersion).decimal).isNat backupVersion = true := by
    rw [natNumeral_decimal, host.number_exact backupVersion (by decide)]
    rfl
  have hversion : member (archiveMembers createdAt files) (js "version") =
      some (.number (natNumeral backupVersion).decimal) :=
    member_archiveMembers createdAt files (List.mem_cons_self ..)
  have hmanifest : member (archiveMembers createdAt files) (js "manifest") =
      some (.array (files.map fun file => file.toBackupEntry.value)) :=
    member_archiveMembers createdAt files (List.mem_cons_of_mem _ (List.mem_cons_of_mem _
      (List.mem_cons_self ..)))
  rw [archiveDocument_value, archiveParts, hversion, hmanifest, member_files]
  dsimp only
  rw [if_pos hone]

end read

/-- What is read of a file of an archive. -/
theorem archiveFile?_value (file : BackupFile) :
    archiveFile? file.value = some ⟨file.path, file.data⟩ := by
  have hmember : ∀ {name value}, (name, value) ∈
      [(js "path", (textDocument file.path).value), (js "bytes", (natDocument file.bytes).value),
        (js "sha256", (textDocument file.sha256).value), (js "data", (textDocument file.data).value)] →
      member [(js "path", (textDocument file.path).value),
        (js "bytes", (natDocument file.bytes).value),
        (js "sha256", (textDocument file.sha256).value),
        (js "data", (textDocument file.data).value)] name = some value := by
    intro name value h
    have hnames : [js "path", js "bytes", js "sha256", js "data"].Nodup := by decide
    exact JsonText.member_of_mem (by exact hnames) h
  unfold BackupFile.value BackupEntry.members archiveFile?
  simp only [List.cons_append, List.nil_append, List.map_cons, List.map_nil]
  rw [hmember (List.mem_cons_self ..),
    hmember (List.mem_cons_of_mem _ (List.mem_cons_of_mem _ (List.mem_cons_of_mem _
      (List.mem_cons_self ..))))]
  rw [textDocument, textDocument, Document.value, Document.value]
  rfl

/-- What is read of an entry of a manifest. -/
theorem backupEntry?_value (host : BackupHost) {entry : BackupEntry}
    (hbytes : entry.bytes ≤ maxSafeInteger) (hhex : isHexDigest entry.sha256 = true) :
    backupEntry? host entry.value = some entry := by
  have hmember : ∀ {name value}, (name, value) ∈
      [(js "path", (textDocument entry.path).value),
        (js "bytes", (natDocument entry.bytes).value),
        (js "sha256", (textDocument entry.sha256).value)] →
      member [(js "path", (textDocument entry.path).value),
        (js "bytes", (natDocument entry.bytes).value),
        (js "sha256", (textDocument entry.sha256).value)] name = some value := by
    intro name value h
    have hnames : [js "path", js "bytes", js "sha256"].Nodup := by decide
    exact JsonText.member_of_mem (by exact hnames) h
  have hnumber : (host.number (natNumeral entry.bytes).decimal).nonNegativeSafeInteger? =
      some entry.bytes := by
    rw [natNumeral_decimal, host.number_exact _ hbytes]
    unfold JsNumber.ofNat JsNumber.nonNegativeSafeInteger?
    simp [hbytes]
  unfold BackupEntry.value BackupEntry.members backupEntry?
  simp only [List.map_cons, List.map_nil]
  rw [hmember (List.mem_cons_self ..), hmember (List.mem_cons_of_mem _ (List.mem_cons_self ..)),
    hmember (List.mem_cons_of_mem _ (List.mem_cons_of_mem _ (List.mem_cons_self ..)))]
  rw [textDocument, textDocument, natDocument, Document.value, Document.value, Document.value]
  simp only [JsonText.Scalar.value, hnumber]
  rw [if_pos hhex]

/-! ## The checks -/

section checks

variable {host : BackupHost}

/-- The manifest of files whose paths are in order. -/
theorem readManifest_values (files : List BackupFile) (manifest : Record JsString BackupEntry)
    (hentry : ∀ file ∈ files, backupEntry? host file.toBackupEntry.value =
      some file.toBackupEntry)
    (hsafe : ∀ file ∈ files, safeArchivePath file.path = true)
    (hpaths : (files.map (·.path)).Nodup) (hnew : ∀ file ∈ files, manifest.get? file.path = none) :
    (readManifest host (files.map fun file => file.toBackupEntry.value) manifest).1 = [] ∧
      (readManifest host (files.map fun file => file.toBackupEntry.value) manifest).2.keys =
        manifest.keys ++ files.map (·.path) ∧
      (∀ file ∈ files,
        (readManifest host (files.map fun file => file.toBackupEntry.value) manifest).2.get?
          file.path = some file.toBackupEntry) ∧
      ∀ path ∉ files.map (·.path),
        (readManifest host (files.map fun file => file.toBackupEntry.value) manifest).2.get? path =
          manifest.get? path := by
  induction files generalizing manifest with
  | nil => simp [readManifest]
  | cons file files ih =>
    rw [List.map_cons, List.nodup_cons] at hpaths
    rw [List.forall_mem_cons] at hentry hsafe hnew
    have hnew' : ∀ other ∈ files,
        (manifest.set file.path file.toBackupEntry).get? other.path = none := by
      intro other hother
      have hne : other.path ≠ file.path := by
        intro heq
        exact hpaths.1 (heq ▸ List.mem_map_of_mem hother)
      rw [Record.get?_set, if_neg hne]
      exact hnew.2 other hother
    obtain ⟨herrors, hkeys, hget, hother⟩ := ih _ hentry.2 hsafe.2 hpaths.2 hnew'
    have hstep : readManifest host ((file :: files).map fun file => file.toBackupEntry.value)
        manifest = readManifest host (files.map fun file => file.toBackupEntry.value)
          (manifest.set file.path file.toBackupEntry) := by
      rw [List.map_cons, readManifest, hentry.1]
      dsimp only
      rw [hsafe.1, hnew.1]
      rfl
    rw [hstep]
    refine ⟨herrors, ?_, ?_, ?_⟩
    · have hnotin : file.path ∉ manifest.keys :=
        (Record.get?_eq_none_iff _ _).1 hnew.1
      rw [hkeys, Record.keys_set_of_notMem _ hnotin, List.map_cons, List.append_assoc]
      rfl
    · rw [List.forall_mem_cons]
      refine ⟨?_, hget⟩
      rw [hother _ hpaths.1, Record.get?_set, if_pos rfl]
    · intro path hpath
      rw [List.map_cons, List.mem_cons, not_or] at hpath
      rw [hother path hpath.2, Record.get?_set, if_neg hpath.1]

/-- The files whose paths are in order and whose entries are in the manifest. -/
theorem readFiles_values (manifest : Record JsString BackupEntry)
    (files : List (StatePath × Bytes)) (seen : List JsString) (totalBytes : ℕ)
    (hsafe : ∀ f ∈ files, safeArchivePath (portableRelative f.1) = true)
    (hpaths : (files.map fun f => portableRelative f.1).Nodup)
    (hnew : ∀ f ∈ files, portableRelative f.1 ∉ seen)
    (hget : ∀ f ∈ files, manifest.get? (portableRelative f.1) =
      some (backupFile host f.1 f.2).toBackupEntry) :
    readFiles host manifest ((backupFiles host files).map BackupFile.value) seen totalBytes =
      ([], seen ++ files.map fun f => portableRelative f.1, totalBytes + contentSize files) := by
  induction files generalizing seen totalBytes with
  | nil => simp [readFiles, backupFiles, contentSize]
  | cons f files ih =>
    rw [List.map_cons, List.nodup_cons] at hpaths
    rw [List.forall_mem_cons] at hsafe hnew hget
    have hnew' : ∀ g ∈ files, portableRelative g.1 ∉ seen ++ [portableRelative f.1] := by
      intro g hg hmem
      rw [List.mem_append, List.mem_singleton] at hmem
      rcases hmem with hmem | heq
      · exact hnew.2 g hg hmem
      · exact hpaths.1 (heq ▸ List.mem_map_of_mem (f := fun g => portableRelative g.1) hg)
    have hrest := ih (seen ++ [portableRelative f.1]) (totalBytes + f.2.length) hsafe.2 hpaths.2
      hnew' hget.2
    have hfile : archiveFile? (backupFile host f.1 f.2).value =
        some ⟨portableRelative f.1, Base64.encode f.2⟩ := archiveFile?_value _
    have hnone : fileErrors host manifest ⟨portableRelative f.1, Base64.encode f.2⟩ f.2 = [] := by
      unfold fileErrors
      dsimp only
      rw [hget.1]
      simp [backupFile]
    unfold backupFiles at hrest ⊢
    rw [List.map_cons, List.map_cons, readFiles, hfile]
    dsimp only
    rw [hsafe.1, decide_eq_false hnew.1, Base64.decode_encode, hrest, hnone]
    simp [contentSize, Nat.add_assoc]

/-- Without an error the path of every file is in order, and its bytes are counted. -/
theorem readFiles_errors {manifest : Record JsString BackupEntry}
    {files : List (StatePath × Bytes)} {seen : List JsString} {totalBytes : ℕ}
    (h : (readFiles host manifest ((backupFiles host files).map BackupFile.value) seen
      totalBytes).1 = []) :
    (∀ f ∈ files, safeArchivePath (portableRelative f.1) = true) ∧
      (readFiles host manifest ((backupFiles host files).map BackupFile.value) seen
        totalBytes).2.2 = totalBytes + contentSize files := by
  induction files generalizing seen totalBytes with
  | nil => simp [readFiles, backupFiles, contentSize]
  | cons f files ih =>
    have hfile : archiveFile? (backupFile host f.1 f.2).value =
        some ⟨portableRelative f.1, Base64.encode f.2⟩ := archiveFile?_value _
    unfold backupFiles at h ih ⊢
    rw [List.map_cons, List.map_cons, readFiles, hfile] at h ⊢
    dsimp only at h ⊢
    by_cases hbad : (!safeArchivePath (portableRelative f.1) ||
        decide (portableRelative f.1 ∈ seen)) = true
    · rw [if_pos hbad] at h
      exact absurd h (List.cons_ne_nil _ _)
    · rw [if_neg hbad, Base64.decode_encode] at h ⊢
      rw [Bool.or_eq_true, not_or, Bool.not_eq_true', Bool.not_eq_false] at hbad
      obtain ⟨-, hmore⟩ := List.append_eq_nil_iff.1 h
      obtain ⟨hsafe, htotal⟩ := ih hmore
      rw [List.forall_mem_cons]
      refine ⟨⟨hbad.1, hsafe⟩, ?_⟩
      dsimp only
      rw [htotal]
      simp [contentSize, Nat.add_assoc]

theorem length_le_contentSize {files : List (StatePath × Bytes)} {f : StatePath × Bytes}
    (h : f ∈ files) : f.2.length ≤ contentSize files :=
  List.single_le_sum (fun _ _ => Nat.zero_le _) _
    (List.mem_map_of_mem (f := fun f : StatePath × Bytes => f.2.length) h)

/-- What the checks say of an archive whose paths are in order and whose contents are within the
limit. -/
theorem checkArchive_eq {files : List (StatePath × Bytes)}
    (hcount : files.length ≤ defaultMaxFiles)
    (hpaths : (files.map fun f => portableRelative f.1).Nodup)
    (hsafe : ∀ f ∈ files, safeArchivePath (portableRelative f.1) = true)
    (hsize : contentSize files ≤ defaultMaxTotalBytes) :
    checkArchive host ((backupFiles host files).map fun file => file.toBackupEntry.value)
        ((backupFiles host files).map BackupFile.value) =
      ⟨files.length, contentSize files, []⟩ := by
  have hbytes : ∀ f ∈ files, f.2.length ≤ maxSafeInteger := by
    intro f hf
    have hle := length_le_contentSize hf
    have hmax : defaultMaxTotalBytes ≤ maxSafeInteger := by decide
    omega
  have hmap : (backupFiles host files).map (·.path) =
      files.map fun f => portableRelative f.1 := by
    unfold backupFiles
    rw [List.map_map]
    rfl
  have hfile : ∀ file ∈ backupFiles host files, ∃ f ∈ files, file = backupFile host f.1 f.2 := by
    intro file hmem
    obtain ⟨f, hf, rfl⟩ := List.mem_map.1 hmem
    exact ⟨f, hf, rfl⟩
  obtain ⟨hmanifest, hkeys, hget, -⟩ := readManifest_values (backupFiles host files) .empty
    (fun file hmem => by
      obtain ⟨f, hf, rfl⟩ := hfile file hmem
      exact backupEntry?_value host (hbytes f hf) (host.isHex f.2))
    (fun file hmem => by
      obtain ⟨f, hf, rfl⟩ := hfile file hmem
      exact hsafe f hf)
    (by rw [hmap]; exact hpaths) (fun file _ => rfl)
  have hread := readFiles_values (readManifest host ((backupFiles host files).map fun file =>
      file.toBackupEntry.value) .empty).2 files [] 0 hsafe hpaths (fun _ _ => List.not_mem_nil)
    (fun f hf => hget _ (List.mem_map_of_mem hf))
  have hlengths : (backupFiles host files).length = files.length := List.length_map ..
  unfold checkArchive
  rw [if_neg (by simp only [List.length_map, hlengths]; omega)]
  dsimp only
  rw [hread, hmanifest, hkeys, hmap]
  dsimp only
  rw [if_neg (by omega)]
  simp [Record.keys, Record.empty]

/-- **When the checks of an archive find nothing**: every path is in order and the contents are
within the limit. -/
theorem checkArchive_valid_iff {files : List (StatePath × Bytes)}
    (hcount : files.length ≤ defaultMaxFiles)
    (hpaths : (files.map fun f => portableRelative f.1).Nodup) :
    (checkArchive host ((backupFiles host files).map fun file => file.toBackupEntry.value)
        ((backupFiles host files).map BackupFile.value)).valid = true ↔
      (∀ f ∈ files, safeArchivePath (portableRelative f.1) = true) ∧
        contentSize files ≤ defaultMaxTotalBytes := by
  constructor
  · intro hvalid
    have hlengths : (backupFiles host files).length = files.length := List.length_map ..
    unfold checkArchive BackupValidation.valid at hvalid
    rw [if_neg (by simp only [List.length_map, hlengths]; omega), decide_eq_true_eq] at hvalid
    simp only [List.append_eq_nil_iff] at hvalid
    obtain ⟨⟨⟨-, hfiles⟩, -⟩, hsize⟩ := hvalid
    obtain ⟨hsafe, htotal⟩ := readFiles_errors hfiles
    rw [htotal, Nat.zero_add] at hsize
    refine ⟨hsafe, Nat.le_of_not_lt fun hover => ?_⟩
    rw [if_pos hover] at hsize
    exact absurd hsize (List.cons_ne_nil _ _)
  · rintro ⟨hsafe, hsize⟩
    rw [checkArchive_eq hcount hpaths hsafe hsize]
    rfl

end checks

/-! ## The size of an archive -/

theorem decimalDigits_length {k n : ℕ} (hk : 0 < k) (h : n < 10 ^ k) (fuel : ℕ) :
    (decimalDigits fuel n).length ≤ k := by
  induction fuel generalizing n k with
  | zero => exact Nat.zero_le k
  | succ fuel ih =>
    unfold decimalDigits
    by_cases hn : n < 10
    · rw [if_pos hn]
      exact hk
    · rw [if_neg hn, List.length_append, List.length_singleton]
      obtain ⟨j, rfl⟩ := Nat.exists_eq_succ_of_ne_zero (Nat.pos_iff_ne_zero.1 hk)
      have hpow : 10 ^ (j + 1) = 10 * 10 ^ j := Nat.pow_succ'
      have hj : 0 < j := by
        by_contra hzero
        obtain rfl : j = 0 := by omega
        omega
      have hrest := ih hj (show n / 10 < 10 ^ j by omega)
      omega

section size

variable (host : BackupHost)

theorem size_textDocument (text : JsString) :
    (textDocument text).size ≤ 6 * text.length + 2 := by
  rw [textDocument, Document.size]
  exact JsonText.length_encode_quoted_le text

theorem size_plainDocument {text : JsString} (h : ∀ c ∈ text, JsonText.Plain c) :
    (textDocument text).size = text.length + 2 := by
  rw [textDocument, Document.size]
  exact JsonText.length_encode_quoted_plain h

theorem size_natDocument {k n : ℕ} (hk : 0 < k) (h : n < 10 ^ k) : (natDocument n).size ≤ k := by
  have hdigits := decimalDigits_length hk h (n + 1)
  have htext : (natNumeral n).text = decimal n := by
    unfold JsonText.Numeral.text natNumeral JsonText.Numeral.fractionText
      JsonText.Numeral.exponentText
    simp
  rw [natDocument, Document.size]
  show (natNumeral n).text.length ≤ k
  rw [htext]
  exact hdigits

theorem plain_base64 (content : Bytes) : ∀ c ∈ Base64.encode content, JsonText.Plain c := by
  have hletter : ∀ n < 64, JsonText.Plain (Base64.letter n) := by
    intro n hn
    unfold JsonText.Plain
    interval_cases n <;> decide
  exact Base64.encode_units hletter (by unfold JsonText.Plain; decide) content

theorem plain_hexDigest {text : JsString} (h : isHexDigest text = true) :
    text.length = 64 ∧ ∀ c ∈ text, JsonText.Plain c := by
  unfold isHexDigest at h
  rw [Bool.and_eq_true, decide_eq_true_eq, List.all_eq_true] at h
  refine ⟨h.1, fun c hc => ?_⟩
  have hunit := h.2 c hc
  simp only [Bool.or_eq_true, Bool.and_eq_true, decide_eq_true_eq, UInt16.le_iff_toNat_le] at hunit
  have h48 : (48 : UInt16).toNat = 48 := by decide
  have h57 : (57 : UInt16).toNat = 57 := by decide
  have h97 : (97 : UInt16).toNat = 97 := by decide
  have h102 : (102 : UInt16).toNat = 102 := by decide
  have hne : ∀ k : UInt16, k.toNat < 48 ∨ 57 < k.toNat ∧ k.toNat < 97 → c ≠ k := by
    rintro k hk rfl
    omega
  exact ⟨by omega, by omega, hne 34 (by decide), hne 92 (by decide)⟩

/-- The bytes of an entry of the manifest, and of a file. -/
theorem size_entry {f : StatePath × Bytes} (hpath : (portableRelative f.1).length ≤ 512)
    (hbytes : f.2.length ≤ defaultMaxTotalBytes) :
    JsonText.membersSize (backupFile host f.1 f.2).toBackupEntry.members ≤ 3180 := by
  have hdigits : (natDocument f.2.length).size ≤ 8 := by
    refine size_natDocument (by decide) ?_
    have hmax : defaultMaxTotalBytes < 10 ^ 8 := by decide
    omega
  have htext := size_textDocument (portableRelative f.1)
  have hhash : (textDocument (host.checksum f.2)).size = 66 := by
    obtain ⟨hlength, hplain⟩ := plain_hexDigest (host.isHex f.2)
    rw [size_plainDocument hplain, hlength]
  have hnames : (Utf8.encode (JsonText.quoted (js "path"))).length = 6 ∧
      (Utf8.encode (JsonText.quoted (js "bytes"))).length = 7 ∧
      (Utf8.encode (JsonText.quoted (js "sha256"))).length = 8 := by decide +kernel
  unfold BackupEntry.members backupFile
  simp only [JsonText.membersSize, hnames, hhash]
  omega

/-- The bytes of a file of an archive, with its content. -/
theorem size_file {f : StatePath × Bytes} (hpath : (portableRelative f.1).length ≤ 512)
    (hbytes : f.2.length ≤ defaultMaxTotalBytes) :
    JsonText.membersSize ((backupFile host f.1 f.2).toBackupEntry.members ++
      [(js "data", textDocument (backupFile host f.1 f.2).data)]) ≤
        3190 + 4 * ((f.2.length + 2) / 3) := by
  have hentry := size_entry host hpath hbytes
  have hdata : (textDocument (Base64.encode f.2)).size = 4 * ((f.2.length + 2) / 3) + 2 := by
    rw [size_plainDocument (plain_base64 f.2), Base64.length_encode]
  have hname : (Utf8.encode (JsonText.quoted (js "data"))).length = 6 := by decide +kernel
  unfold BackupEntry.members at hentry ⊢
  simp only [List.cons_append, List.nil_append, JsonText.membersSize] at hentry ⊢
  unfold backupFile at hentry ⊢
  simp only [hdata, hname]
  dsimp only at hentry
  omega

theorem elementsSize_entries {files : List (StatePath × Bytes)}
    (hpath : ∀ f ∈ files, (portableRelative f.1).length ≤ 512)
    (hbytes : ∀ f ∈ files, f.2.length ≤ defaultMaxTotalBytes) :
    JsonText.elementsSize ((backupFiles host files).map fun file =>
      .object file.toBackupEntry.members) ≤ 3183 * files.length := by
  induction files with
  | nil => exact Nat.zero_le _
  | cons f files ih =>
    rw [List.forall_mem_cons] at hpath hbytes
    have hrest := ih hpath.2 hbytes.2
    have hentry := size_entry host hpath.1 hbytes.1
    unfold backupFiles at hrest ⊢
    rw [List.map_cons, List.map_cons, JsonText.elementsSize, Document.size, List.length_cons]
    omega

theorem elementsSize_files {files : List (StatePath × Bytes)}
    (hpath : ∀ f ∈ files, (portableRelative f.1).length ≤ 512)
    (hbytes : ∀ f ∈ files, f.2.length ≤ defaultMaxTotalBytes) :
    3 * JsonText.elementsSize ((backupFiles host files).map fun file =>
      .object (file.toBackupEntry.members ++ [(js "data", textDocument file.data)])) ≤
        9600 * files.length + 4 * contentSize files := by
  induction files with
  | nil => exact Nat.zero_le _
  | cons f files ih =>
    rw [List.forall_mem_cons] at hpath hbytes
    have hrest := ih hpath.2 hbytes.2
    have hfile := size_file host hpath.1 hbytes.1
    have hsize : contentSize (f :: files) = f.2.length + contentSize files := by
      simp [contentSize]
    unfold backupFiles at hrest ⊢
    rw [List.map_cons, List.map_cons, JsonText.elementsSize, Document.size, List.length_cons, hsize]
    omega

/-- **An archive within the limit of its contents is within the limit of its size.** -/
theorem length_archiveBytes (now : IsoTimestamp) {files : List (StatePath × Bytes)}
    (hcount : files.length ≤ defaultMaxFiles)
    (hpath : ∀ f ∈ files, (portableRelative f.1).length ≤ 512)
    (hsize : contentSize files ≤ defaultMaxTotalBytes) :
    (archiveBytes now.text (backupFiles host files)).length ≤ defaultMaxTotalBytes * 2 := by
  have hbytes : ∀ f ∈ files, f.2.length ≤ defaultMaxTotalBytes := fun f hf =>
    (length_le_contentSize hf).trans hsize
  have hentries := elementsSize_entries host hpath hbytes
  have hfiles := elementsSize_files host hpath hbytes
  have hdocument := (archiveDocument now.text (backupFiles host files)).length_encode
  have hversion : (natDocument backupVersion).size ≤ 1 := size_natDocument (by decide) (by decide)
  have hcreated := size_textDocument now.text
  have hlength : now.text.length ≤ 24 := by
    have hiso := now.iso
    unfold Incidents.isIsoTimestamp at hiso
    rw [Bool.and_eq_true] at hiso
    exact le_of_eq (Incidents.fits_length hiso.1)
  have hnames : (Utf8.encode (JsonText.quoted (js "version"))).length = 9 ∧
      (Utf8.encode (JsonText.quoted (js "created_at"))).length = 12 ∧
      (Utf8.encode (JsonText.quoted (js "manifest"))).length = 10 ∧
      (Utf8.encode (JsonText.quoted (js "files"))).length = 7 := by decide +kernel
  unfold archiveBytes
  have hbreak : (Utf8.encode [10]).length = 1 :=
    JsonText.length_encode_ascii (JsonText.ascii_of_all (by decide))
  rw [JsonText.length_encode_append (Document.paired _), hbreak]
  have hsum : (archiveDocument now.text (backupFiles host files)).size =
      9 + (natDocument backupVersion).size + 2 + (12 + (textDocument now.text).size + 2 +
        (10 + (JsonText.elementsSize ((backupFiles host files).map fun file =>
            .object file.toBackupEntry.members) + 2) + 2 +
          (7 + (JsonText.elementsSize ((backupFiles host files).map fun file =>
            .object (file.toBackupEntry.members ++ [(js "data", textDocument file.data)])) + 2) + 2 +
            0))) + 2 := by
    unfold archiveDocument
    simp only [Document.size, JsonText.membersSize, hnames]
  unfold defaultMaxTotalBytes defaultMaxFiles at *
  omega

end size

/-! ## `validateStateBackup` of an archive -/

section validated

variable {host : BackupHost} {files : List (StatePath × Bytes)}

/-- Files that a walk can list: their paths lead through names, and no two are one. -/
structure Listed (files : List (StatePath × Bytes)) : Prop where
  count : files.length ≤ defaultMaxFiles
  nonempty : ∀ f ∈ files, f.1 ≠ []
  names : ∀ f ∈ files, ∀ name ∈ f.1, IsName name
  nodup : (files.map Prod.fst).Nodup

theorem Listed.portable_nodup (h : Listed files) :
    (files.map fun f => portableRelative f.1).Nodup := by
  have hmap : (files.map fun f => portableRelative f.1) =
      (files.map Prod.fst).map portableRelative := by
    rw [List.map_map]
    rfl
  rw [hmap]
  refine List.Nodup.map_on ?_ h.nodup
  intro p hp q hq heq
  obtain ⟨f, hf, rfl⟩ := List.mem_map.1 hp
  obtain ⟨g, hg, rfl⟩ := List.mem_map.1 hq
  have hsegments := congrArg segmentsOf heq
  rw [segmentsOf_portableRelative (h.nonempty f hf) (h.names f hf),
    segmentsOf_portableRelative (h.nonempty g hg) (h.names g hg)] at hsegments
  exact hsegments

theorem Listed.safe_iff (h : Listed files) :
    (∀ f ∈ files, safeArchivePath (portableRelative f.1) = true) ↔
      ∀ f ∈ files, SafePath f.1 := by
  constructor
  · intro hsafe f hf
    exact (safeArchivePath_iff (h.nonempty f hf) (h.names f hf)).1 (hsafe f hf)
  · intro hsafe f hf
    exact (safeArchivePath_iff (h.nonempty f hf) (h.names f hf)).2 (hsafe f hf)

theorem readArchive_bytes (bytes : Bytes) : readArchive host (.ok bytes) =
    if defaultMaxTotalBytes * 2 < bytes.length then .error (js "archive_too_large")
    else match JsonText.parse (host.readText bytes) with
      | none => .error (host.syntaxMessage (host.readText bytes))
      | some value => .ok value := rfl

/-- What `validateStateBackup` says of an archive is what the checks of its parts say, when it
is not too large. -/
theorem validate_archiveBytes (createdAt : JsString) (written : List BackupFile)
    (hsize : (archiveBytes createdAt written).length ≤ defaultMaxTotalBytes * 2) :
    validateStateBackup host (.ok (archiveBytes createdAt written)) =
      checkArchive host (written.map fun file => file.toBackupEntry.value)
        (written.map BackupFile.value) := by
  rw [validateStateBackup, readArchive_bytes, if_neg (Nat.not_lt.2 hsize), parse_archiveBytes]
  dsimp only
  rw [archiveParts_archiveDocument]

/-- **An archive that was written is accepted** when every path is in order and the contents
are within the limit. -/
theorem validate_archive_eq (h : Listed files) (now : IsoTimestamp)
    (hsafe : ∀ f ∈ files, SafePath f.1) (hsize : contentSize files ≤ defaultMaxTotalBytes) :
    validateStateBackup host (.ok (archiveBytes now.text (backupFiles host files))) =
      ⟨files.length, contentSize files, []⟩ := by
  have hlength := length_archiveBytes host now h.count
    (fun f hf => (hsafe f hf).length) hsize
  rw [validate_archiveBytes now.text (backupFiles host files) hlength]
  exact checkArchive_eq h.count h.portable_nodup (h.safe_iff.2 hsafe) hsize

/-- **Which archives that were written are accepted.** -/
theorem validate_archive_iff (h : Listed files) (now : IsoTimestamp) :
    (validateStateBackup host (.ok (archiveBytes now.text (backupFiles host files)))).valid = true ↔
      (∀ f ∈ files, SafePath f.1) ∧ contentSize files ≤ defaultMaxTotalBytes := by
  constructor
  · intro hvalid
    by_cases hlength : (archiveBytes now.text (backupFiles host files)).length ≤
        defaultMaxTotalBytes * 2
    · rw [validate_archiveBytes now.text _ hlength,
        checkArchive_valid_iff h.count h.portable_nodup, h.safe_iff] at hvalid
      exact hvalid
    · rw [validateStateBackup, readArchive_bytes, if_pos (Nat.lt_of_not_le hlength)] at hvalid
      exact absurd hvalid (by simp [BackupValidation.valid])
  · rintro ⟨hsafe, hsize⟩
    rw [validate_archive_eq h now hsafe hsize]
    rfl

/-- The files that restoring reads of an archive are those that were written. -/
theorem archiveFiles_archiveBytes (createdAt : JsString) (written : List BackupFile) :
    archiveFiles host (archiveBytes createdAt written) =
      written.map fun file => ⟨file.path, file.data⟩ := by
  have hsome : (archiveFile? ∘ BackupFile.value) = fun file =>
      some (ArchiveFile.mk file.path file.data) := funext archiveFile?_value
  rw [archiveFiles, parse_archiveBytes, archiveDocument_value]
  dsimp only
  rw [member_files]
  dsimp only
  rw [List.filterMap_map, hsome, List.filterMap_eq_map']

/-- Where the loop over the files finds no error, every path has been checked. -/
theorem readFiles_safe {manifest : Record JsString BackupEntry} {values : List Value}
    {seen : List JsString} {totalBytes : ℕ}
    (h : (readFiles host manifest values seen totalBytes).1 = []) :
    ∀ file ∈ values.filterMap archiveFile?, safeArchivePath file.path = true := by
  induction values generalizing seen totalBytes with
  | nil => exact fun file hfile => absurd hfile List.not_mem_nil
  | cons value values ih =>
    rw [readFiles] at h
    cases hvalue : archiveFile? value with
    | none =>
      rw [hvalue] at h
      exact absurd h (List.cons_ne_nil _ _)
    | some file =>
      rw [hvalue] at h
      dsimp only at h
      by_cases hrefused : (!safeArchivePath file.path || decide (file.path ∈ seen)) = true
      · rw [if_pos hrefused] at h
        exact absurd h (List.cons_ne_nil _ _)
      · rw [if_neg hrefused] at h
        rw [Bool.or_eq_true, not_or, Bool.not_eq_true', Bool.not_eq_false] at hrefused
        rw [List.filterMap_cons_some hvalue, List.forall_mem_cons]
        exact ⟨hrefused.1, ih (List.append_eq_nil_iff.1 h).2⟩

theorem archiveParts_files {value : Value} {manifest files : List Value}
    (h : archiveParts host value = some (manifest, files)) :
    ∃ members, value = .object members ∧ member members (js "files") = some (.array files) := by
  unfold archiveParts at h
  split at h
  · rename_i members
    split at h
    · rename_i hfiles
      split at h
      · cases h
        exact ⟨members, rfl, hfiles⟩
      · cases h
    · cases h
  · cases h

/-- **Every file of an accepted archive has a path the checks take.** -/
theorem safe_of_valid {bytes : Bytes} (h : (validateStateBackup host (.ok bytes)).valid = true) :
    ∀ file ∈ archiveFiles host bytes, safeArchivePath file.path = true := by
  unfold archiveFiles
  cases hparse : JsonText.parse (host.readText bytes) with
  | none => exact fun file hfile => absurd hfile List.not_mem_nil
  | some value =>
    rw [validateStateBackup, readArchive_bytes, hparse] at h
    by_cases hlength : defaultMaxTotalBytes * 2 < bytes.length
    · rw [if_pos hlength] at h
      exact absurd h (by simp [BackupValidation.valid])
    · rw [if_neg hlength] at h
      dsimp only at h
      cases hparts : archiveParts host value with
      | none =>
        rw [hparts] at h
        exact absurd h (by simp [BackupValidation.valid])
      | some parts =>
        obtain ⟨manifest, files⟩ := parts
        rw [hparts] at h
        dsimp only at h
        unfold checkArchive at h
        by_cases hcount : manifest.length > defaultMaxFiles ∨ files.length > defaultMaxFiles
        · rw [if_pos hcount] at h
          exact absurd h (by simp [BackupValidation.valid])
        · rw [if_neg hcount] at h
          have herrors := of_decide_eq_true h
          rw [List.append_eq_nil_iff, List.append_eq_nil_iff, List.append_eq_nil_iff] at herrors
          obtain ⟨members, rfl, hfiles⟩ := archiveParts_files hparts
          dsimp only
          rw [hfiles]
          exact readFiles_safe herrors.1.1.2

/-- What cannot be read is refused. -/
theorem validate_error (error : JsError) :
    (validateStateBackup host (.error error)).valid = false := by
  rw [validateStateBackup, readArchive]
  simp [BackupValidation.valid]

end validated

end StateBackups
end Autopilot
