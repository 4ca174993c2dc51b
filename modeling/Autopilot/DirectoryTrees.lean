/-
The hash of a directory that a hint names (`hashDirectoryTree`).

The files of the directory are listed, without what lies in the directories that are skipped, and
one text is hashed: in the order of the paths, each path and the blob hash of its file. A directory
with too many files is not hashed, and gets the same mark as every other such directory. Otherwise
the hash says which files there are and what is in them, as far as no two of the texts that are
hashed have one hash.

A directory is a tree with names as a file system gives them: without a slash and a zero, and with
no half of a pair of units alone. Paths are kept from the directory on. The paths on the disk all
begin with its own path, so they stand in the same order.
-/
import Autopilot.Lib.Separated
import Autopilot.Lib.JsonBytes
import Autopilot.RelatedFiles
import Mathlib.Data.Set.Card

set_option autoImplicit false

namespace Autopilot
namespace DirectoryTrees

open DecisionMesh (TextLocale)
open FileTree (Entry DistinctIn admits filesIn orderedIn walkIn)
open GovernedDispatch (sampleLocale)
open RelatedFiles
open StateBackups (StatePath portableRelative slash)
open StateLogs (Bytes)

/-! ## Directories -/

/-- A name that a file system gives. -/
abbrev FileName := {name : JsString // slash ∉ name ∧ 0 ∉ name ∧ Utf8.Paired name}

/-- The names on the way from the directory. -/
abbrev TreePath := List FileName

abbrev TreeFile := TreePath × Bytes

/-- What is below a directory. No folder has two entries of one name. -/
structure DirectoryTree where
  entries : List (FileName × Entry FileName Bytes)
  names : (entries.map Prod.fst).Nodup
  distinct : DistinctIn entries

/-- The text of a path, `relPosixPath`. -/
def relPosixPath (path : TreePath) : JsString := portableRelative (path.map Subtype.val)

/-! ## The code -/

def isHexText (length : ℕ) (s : JsString) : Bool :=
  s.length = length && s.all fun c => (48 ≤ c && c ≤ 57) || (97 ≤ c && c ≤ 102)

/-- The digests of `createHash`, as texts of hexadecimal digits. -/
structure HashHost where
  sha1 : Bytes → JsString
  sha256 : Bytes → JsString
  sha1_isHex : ∀ content, isHexText 40 (sha1 content) = true
  sha256_isHex : ∀ content, isHexText 64 (sha256 content) = true

/-- What `gitBlobHash` hashes of a content. -/
def blobOf (content : Bytes) : Bytes :=
  Utf8.encode (js "blob " ++ decimal content.length) ++ 0 :: content

def treeSkipDirectoryNames : List JsString :=
  ["node_modules", ".git", ".claude", "dist", "build", "coverage", ".vitest", "tmp"].map js

def maxTreeHashFiles : ℕ := 5000

mutual

/-- The body of the loop of `walk`: the files so far, and whether the walk goes on. -/
def visit (dir : TreePath) (files : List TreeFile) (name : FileName) :
    Entry FileName Bytes → List TreeFile × Bool
  | .folder entries =>
    if name.1 ∈ treeSkipDirectoryNames then (files, true) else walk (dir ++ [name]) files entries
  | .file content =>
    (files ++ [(dir ++ [name], content)], decide (files.length + 1 ≤ maxTreeHashFiles))
  | .special => (files, true)

/-- `walk`, in a directory with these entries. -/
def walk (dir : TreePath) (files : List TreeFile) :
    List (FileName × Entry FileName Bytes) → List TreeFile × Bool
  | [] => (files, true)
  | (name, entry) :: rest =>
    match visit dir files name entry with
    | (files, true) => walk dir files rest
    | (files, false) => (files, false)

end

section hash

variable (host : HashHost) (locale : TextLocale)

/-- `gitBlobHash`. -/
def gitBlobHash (content : Bytes) : JsString := host.sha1 (blobOf content)

/-- The text of a file, as it is hashed. -/
def fileRecord (file : TreeFile) : JsString :=
  relPosixPath file.1 ++ 0 :: (gitBlobHash host file.2 ++ [10])

/-- The files in the order of their paths. -/
def sortedFiles (files : List TreeFile) : List TreeFile :=
  files.mergeSort fun left right => decide (relPosixPath left.1 ≤ relPosixPath right.1)

/-- What is hashed of the files, one record after the other. -/
def treeBytes (files : List TreeFile) : Bytes :=
  (sortedFiles files).flatMap fun file => Utf8.encode (fileRecord host file)

/-- The entries in the order in which the walk goes through them. -/
def visited (tree : DirectoryTree) : List (FileName × Entry FileName Bytes) :=
  (orderedIn (fun a b => locale.notAfter a.1 b.1) tree.entries).mergeSort fun a b =>
    locale.notAfter a.1.1 b.1.1

/-- `hashDirectoryTree`. -/
def hashDirectoryTree (tree : DirectoryTree) : JsString :=
  match walk [] [] (visited locale tree) with
  | (files, true) => js "tree:" ++ host.sha256 (treeBytes host files)
  | (_, false) => js "tree:UNBOUNDED"

end hash

/-! ## What the walk lists -/

/-- The walk goes into a directory. -/
def enters (path : TreePath) : Bool := path.getLast?.all fun name => name.1 ∉ treeSkipDirectoryNames

/-- What the walk lists in a directory that it is in. -/
abbrev listed (dir : TreePath) (entries : List (FileName × Entry FileName Bytes)) : List TreeFile :=
  walkIn enters (fun _ => true) dir entries

mutual

theorem visit_spec : ∀ (entry : Entry FileName Bytes) (dir : TreePath) (files : List TreeFile)
    (name : FileName), files.length ≤ maxTreeHashFiles →
    ((visit dir files name entry).2 = true ↔
        (files ++ entry.walk enters (fun _ => true) dir name).length ≤ maxTreeHashFiles) ∧
      ((visit dir files name entry).2 = true →
        (visit dir files name entry).1 = files ++ entry.walk enters (fun _ => true) dir name)
  | .file content, dir, files, name, _ => by
    rw [visit, Entry.walk, if_pos rfl]
    simp
  | .folder entries, dir, files, name, hfiles => by
    have henters : enters (dir ++ [name]) = decide (name.1 ∉ treeSkipDirectoryNames) := by
      rw [enters, List.getLast?_concat, Option.all_some]
    rw [visit, Entry.walk, henters]
    by_cases hskip : name.1 ∈ treeSkipDirectoryNames
    · rw [if_pos hskip, if_neg (by simpa using hskip), List.append_nil]
      exact ⟨iff_of_true rfl hfiles, fun _ => rfl⟩
    · rw [if_neg hskip, if_pos (by simpa using hskip)]
      exact walk_spec entries (dir ++ [name]) files hfiles
  | .special, dir, files, name, hfiles => by
    rw [visit, Entry.walk, List.append_nil]
    exact ⟨iff_of_true rfl hfiles, fun _ => rfl⟩

/-- The walk goes through when it does not find too many files, and it then has listed them all. -/
theorem walk_spec : ∀ (entries : List (FileName × Entry FileName Bytes)) (dir : TreePath)
    (files : List TreeFile), files.length ≤ maxTreeHashFiles →
    ((walk dir files entries).2 = true ↔
        (files ++ listed dir entries).length ≤ maxTreeHashFiles) ∧
      ((walk dir files entries).2 = true →
        (walk dir files entries).1 = files ++ listed dir entries)
  | [], dir, files, hfiles => by
    rw [walk, listed, walkIn, List.append_nil]
    exact ⟨iff_of_true rfl hfiles, fun _ => rfl⟩
  | (name, entry) :: rest, dir, files, hfiles => by
    obtain ⟨hgoes, hlisted⟩ := visit_spec entry dir files name hfiles
    rw [walk, listed, walkIn, ← List.append_assoc]
    rcases hvisit : visit dir files name entry with ⟨more, goes⟩
    rw [hvisit] at hgoes hlisted
    cases goes with
    | false =>
      have hmany : ¬ (files ++ entry.walk enters (fun _ => true) dir name).length ≤
          maxTreeHashFiles := fun h => Bool.false_ne_true (hgoes.2 h)
      refine ⟨iff_of_false Bool.false_ne_true fun h => hmany ?_, fun h => (nomatch h)⟩
      rw [List.length_append] at h
      exact (Nat.le_add_right _ _).trans h
    | true =>
      obtain rfl : more = files ++ entry.walk enters (fun _ => true) dir name := hlisted rfl
      exact walk_spec rest dir _ (hgoes.1 rfl)

end

/-! ## The files of a directory -/

/-- The regular files outside of the directories that are skipped. -/
def treeFiles (tree : DirectoryTree) : Set TreeFile :=
  {f | f ∈ filesIn tree.entries ∧ ∀ name ∈ f.1.dropLast, name.1 ∉ treeSkipDirectoryNames}

theorem admits_enters (path rest : TreePath) : admits enters (fun _ => true) path rest = true ↔
    rest ≠ [] ∧ ∀ name ∈ rest.dropLast, name.1 ∉ treeSkipDirectoryNames := by
  induction rest generalizing path with
  | nil => exact iff_of_false Bool.false_ne_true fun h => h.1 rfl
  | cons name rest ih =>
    cases rest with
    | nil => exact iff_of_true rfl ⟨List.cons_ne_nil _ _, fun _ h => absurd h List.not_mem_nil⟩
    | cons next rest =>
      rw [admits, Bool.and_eq_true, ih, List.dropLast_cons_cons, List.forall_mem_cons, enters,
        List.getLast?_concat, Option.all_some, decide_eq_true_iff]
      exact ⟨fun h => ⟨List.cons_ne_nil _ _, h.1, h.2.2⟩,
        fun h => ⟨h.2.1, List.cons_ne_nil _ _, h.2.2⟩⟩

theorem listed_eq (entries : List (FileName × Entry FileName Bytes)) : listed [] entries =
    (filesIn entries).filter fun f => admits enters (fun _ => true) [] f.1 := by
  rw [listed, FileTree.walkIn_eq, FileTree.selects_nil]

theorem mem_listed {tree : DirectoryTree} {f : TreeFile} :
    f ∈ listed [] tree.entries ↔ f ∈ treeFiles tree := by
  rw [listed_eq, List.mem_filter, admits_enters]
  exact ⟨fun h => ⟨h.1, h.2.2⟩, fun h => ⟨h.1, FileTree.path_ne_nil h.1, h.2⟩⟩

/-- The order of the walk does not matter for what it lists. -/
theorem listed_visited (locale : TextLocale) (tree : DirectoryTree) :
    (listed [] (visited locale tree)).Perm (listed [] tree.entries) := by
  rw [listed_eq, listed_eq]
  exact ((FileTree.filesIn_perm (List.mergeSort_perm _ _)).trans
    (FileTree.filesIn_ordered _ _)).filter _

/-- The files that are listed have paths of their own. -/
theorem listed_apart (tree : DirectoryTree) :
    (listed [] tree.entries).Pairwise fun f g => f.1 ≠ g.1 := by
  rw [listed_eq]
  refine ((FileTree.filesIn_apart tree.entries tree.names tree.distinct).filter _).imp ?_
  rintro f g ⟨hnot, -⟩ heq
  exact hnot (heq ▸ List.prefix_refl _)

theorem listed_nodup (tree : DirectoryTree) : (listed [] tree.entries).Nodup :=
  (listed_apart tree).imp fun hne heq => hne (congrArg Prod.fst heq)

theorem length_listed (tree : DirectoryTree) :
    (listed [] tree.entries).length = (treeFiles tree).ncard := by
  classical
  have hset : treeFiles tree = ((listed [] tree.entries).toFinset : Set TreeFile) := by
    ext f
    rw [List.coe_toFinset]
    exact mem_listed.symm
  rw [hset, Set.ncard_coe_finset, List.toFinset_card_of_nodup (listed_nodup tree)]

/-! ## The text that is hashed -/

theorem relPosixPath_injective {path other : TreePath} (hne : path ≠ []) (hne' : other ≠ [])
    (h : relPosixPath path = relPosixPath other) : path = other := by
  have hback (p : TreePath) (hp : p ≠ []) : (relPosixPath p).splitOn slash = p.map Subtype.val := by
    refine List.splitOn_intercalate slash (fun name hname => ?_)
      (mt List.map_eq_nil_iff.1 hp)
    obtain ⟨n, -, rfl⟩ := List.mem_map.1 hname
    exact n.2.1
  have hnames : path.map Subtype.val = other.map Subtype.val := by
    rw [← hback path hne, ← hback other hne', h]
  exact List.map_injective_iff.2 Subtype.val_injective hnames

/-- What holds of the units of the names and of a slash holds of those of a path. -/
theorem mem_relPosixPath {path : TreePath} {c : UInt16} (h : c ∈ relPosixPath path) :
    c = slash ∨ ∃ name ∈ path, c ∈ name.1 := by
  unfold relPosixPath portableRelative at h
  obtain ⟨part, hpart, hc⟩ := List.mem_flatten.1 h
  induction path with
  | nil => cases hpart
  | cons name rest ih =>
    cases rest with
    | nil =>
      rw [List.map_cons, List.map_nil, List.intersperse_singleton, List.mem_singleton] at hpart
      exact .inr ⟨name, List.mem_cons_self, hpart ▸ hc⟩
    | cons next rest =>
      rw [List.map_cons, List.map_cons, List.intersperse_cons_cons, List.mem_cons,
        List.mem_cons] at hpart
      rcases hpart with rfl | rfl | hpart
      · exact .inr ⟨name, List.mem_cons_self, hc⟩
      · exact .inl (List.mem_singleton.1 hc)
      · rcases ih (List.mem_flatten.2 ⟨part, hpart, hc⟩) hpart with hslash | ⟨n, hn, hc⟩
        · exact .inl hslash
        · exact .inr ⟨n, List.mem_cons_of_mem _ hn, hc⟩

theorem zero_notMem_relPosixPath (path : TreePath) : 0 ∉ relPosixPath path := by
  intro h
  rcases mem_relPosixPath h with hslash | ⟨name, -, hname⟩
  · exact absurd hslash (by decide)
  · exact name.2.2.1 hname

theorem paired_relPosixPath (path : TreePath) : Utf8.Paired (relPosixPath path) := by
  unfold relPosixPath portableRelative
  induction path with
  | nil => exact .nil
  | cons name rest ih =>
    cases rest with
    | nil =>
      rw [List.map_cons, List.map_nil, List.intercalate_singleton]
      exact name.2.2.2
    | cons next rest =>
      rw [List.map_cons, List.map_cons, List.intercalate_cons_cons, List.append_assoc]
      exact name.2.2.2.append (.unit (by decide) (by decide) ih)

theorem isHexText_ascii {length : ℕ} {s : JsString} (h : isHexText length s = true) :
    ∀ c ∈ s, c.toNat ≤ 102 ∧ 48 ≤ c.toNat := by
  intro c hc
  have hdigit := List.all_eq_true.1 (Bool.and_eq_true_iff.1 h).2 c hc
  simp only [Bool.or_eq_true, Bool.and_eq_true, decide_eq_true_eq, UInt16.le_iff_toNat_le] at hdigit
  have hvalues : (48 : UInt16).toNat = 48 ∧ (57 : UInt16).toNat = 57 ∧ (97 : UInt16).toNat = 97 ∧
      (102 : UInt16).toNat = 102 := ⟨rfl, rfl, rfl, rfl⟩
  omega

/-- The content is read off what is hashed of it. -/
theorem blobOf_injective : Function.Injective blobOf := by
  intro content other h
  have hheader (c : Bytes) : 0 ∉ Utf8.encode (js "blob " ++ decimal c.length) := by
    have hascii : ∀ d ∈ js "blob " ++ decimal c.length, d.toNat < 128 ∧ 32 ≤ d.toNat := by
      intro d hd
      rcases List.mem_append.1 hd with hd | hd
      · have hletters : ((js "blob ").all fun d => d.toNat < 128 && 32 ≤ d.toNat) = true := by
          decide
        simpa using List.all_eq_true.1 hletters d hd
      · obtain ⟨hlow, hhigh⟩ := decimalDigits_units hd
        rw [UInt16.le_iff_toNat_le] at hlow hhigh
        have hvalues : (48 : UInt16).toNat = 48 ∧ (57 : UInt16).toNat = 57 := ⟨rfl, rfl⟩
        omega
    rw [JsonText.encode_ascii fun d hd => (hascii d hd).1]
    intro hzero
    obtain ⟨d, hd, heq⟩ := List.mem_map.1 hzero
    obtain ⟨hsmall, hlarge⟩ := hascii d hd
    have hnat : d.toUInt8.toNat = 0 := congrArg UInt8.toNat heq
    rw [UInt16.toNat_toUInt8, Nat.mod_eq_of_lt (by omega)] at hnat
    omega
  exact (Separated.append_cons_inj (hheader content) (hheader other) h).2

section hash

variable (host : HashHost) (locale : TextLocale)

/-- A list of files of a directory: each has a path, of its own. -/
structure Filed (files : List TreeFile) : Prop where
  named : ∀ f ∈ files, f.1 ≠ []
  apart : files.Pairwise fun f g => f.1 ≠ g.1

theorem filed_listed (tree : DirectoryTree) : Filed (listed [] tree.entries) where
  named _ hf := FileTree.path_ne_nil (mem_listed.1 hf).1
  apart := listed_apart tree

theorem Filed.perm {files others : List TreeFile} (h : Filed files) (hperm : files.Perm others) :
    Filed others where
  named f hf := h.named f (hperm.mem_iff.2 hf)
  apart := hperm.pairwise h.apart Ne.symm

/-- Files with one path are the same file. -/
theorem Filed.eq_of_path {files : List TreeFile} (h : Filed files) {f g : TreeFile}
    (hf : f ∈ files) (hg : g ∈ files) (heq : f.1 = g.1) : f = g := by
  by_contra hne
  have : Std.Symm fun f g : TreeFile => f.1 ≠ g.1 := ⟨fun _ _ => Ne.symm⟩
  exact h.apart.forall hf hg hne heq

/-- The order of the paths does not depend on the order in which the files were found. -/
theorem sortedFiles_perm {files others : List TreeFile} (h : Filed files)
    (hperm : files.Perm others) : sortedFiles files = sortedFiles others := by
  have htrans (a b c : TreeFile) (hab : decide (relPosixPath a.1 ≤ relPosixPath b.1) = true)
      (hbc : decide (relPosixPath b.1 ≤ relPosixPath c.1) = true) :
      decide (relPosixPath a.1 ≤ relPosixPath c.1) = true :=
    decide_eq_true (List.le_trans (of_decide_eq_true hab) (of_decide_eq_true hbc))
  have htotal (a b : TreeFile) : (decide (relPosixPath a.1 ≤ relPosixPath b.1) ||
      decide (relPosixPath b.1 ≤ relPosixPath a.1)) = true := by
    rw [Bool.or_eq_true, decide_eq_true_iff, decide_eq_true_iff]
    exact List.le_total _ _
  refine List.Perm.eq_of_pairwise (fun a b ha hb hle hge => ?_)
    (List.pairwise_mergeSort htrans htotal files) (List.pairwise_mergeSort htrans htotal others)
    (((List.mergeSort_perm files _).trans hperm).trans (List.mergeSort_perm others _).symm)
  have ha := (List.mergeSort_perm _ _).mem_iff.1 ha
  have hb := hperm.mem_iff.2 ((List.mergeSort_perm _ _).mem_iff.1 hb)
  exact h.eq_of_path ha hb (relPosixPath_injective (h.named a ha) (h.named b hb)
    (List.le_antisymm (of_decide_eq_true hle) (of_decide_eq_true hge)))

/-- The fields of a record. -/
def recordFields (file : TreeFile) : JsString × JsString :=
  (relPosixPath file.1, gitBlobHash host file.2)

theorem paired_records (files : List TreeFile) :
    Utf8.Paired (files.flatMap (fileRecord host)) := by
  induction files with
  | nil => exact .nil
  | cons file files ih =>
    have hhash : Utf8.Paired (gitBlobHash host file.2) :=
      JsonText.paired_of_ascii fun c hc =>
        (isHexText_ascii (host.sha1_isHex _) c hc).1.trans_lt (by decide)
    rw [List.flatMap_cons, fileRecord, List.append_assoc, List.cons_append, List.append_assoc]
    exact (paired_relPosixPath _).append (.unit (by decide) (by decide)
      (hhash.append (.unit (by decide) (by decide) ih)))

theorem treeBytes_eq (files : List TreeFile) :
    treeBytes host files = Utf8.encode ((sortedFiles files).flatMap (fileRecord host)) := by
  unfold treeBytes
  induction sortedFiles files with
  | nil => rfl
  | cons file files ih =>
    have hfile := paired_records host [file]
    rw [List.flatMap_singleton] at hfile
    rw [List.flatMap_cons, List.flatMap_cons, Utf8.encode_append hfile, ih]

/-- The text that is hashed has the path and the blob hash of every file. -/
theorem treeBytes_fields {files others : List TreeFile}
    (h : treeBytes host files = treeBytes host others) :
    (sortedFiles files).map (recordFields host) = (sortedFiles others).map (recordFields host) := by
  rw [treeBytes_eq, treeBytes_eq] at h
  have htexts := congrArg Utf8.decode h
  rw [Utf8.decode_encode (paired_records host _), Utf8.decode_encode (paired_records host _),
    Option.some.injEq] at htexts
  have hrecords (files : List TreeFile) : files.flatMap (fileRecord host) =
      (files.map (recordFields host)).flatMap (Separated.fields 0 10) := by
    rw [List.flatMap_map]
    rfl
  rw [hrecords, hrecords] at htexts
  refine Separated.fields_injective ?_ ?_ htexts
  all_goals
    intro r hr
    obtain ⟨file, -, rfl⟩ := List.mem_map.1 hr
    refine ⟨zero_notMem_relPosixPath _, fun hten => ?_⟩
    have hdigit := (isHexText_ascii (host.sha1_isHex _) 10 hten).2
    exact absurd hdigit (by decide)

/-- The hash of a directory, in terms of its files. -/
theorem hashDirectoryTree_eq (tree : DirectoryTree) : hashDirectoryTree host locale tree =
    if (treeFiles tree).ncard ≤ maxTreeHashFiles then
      js "tree:" ++ host.sha256 (treeBytes host (listed [] tree.entries))
    else js "tree:UNBOUNDED" := by
  have hperm := listed_visited locale tree
  obtain ⟨hgoes, hlisted⟩ := walk_spec (visited locale tree) [] [] (Nat.zero_le _)
  rw [List.nil_append] at hgoes hlisted
  rw [← length_listed, ← hperm.length_eq, hashDirectoryTree]
  rcases hwalk : walk [] [] (visited locale tree) with ⟨files, goes⟩
  rw [hwalk] at hgoes hlisted
  cases goes with
  | false => rw [if_neg fun h => Bool.false_ne_true (hgoes.2 h)]
  | true =>
    have hbytes : treeBytes host files = treeBytes host (listed [] tree.entries) := by
      have hfiles : files = listed [] (visited locale tree) := hlisted rfl
      rw [treeBytes, treeBytes, hfiles,
        sortedFiles_perm ((filed_listed tree).perm hperm.symm) hperm]
    rw [if_pos (hgoes.1 rfl), ← hbytes]

/-! ## Which directories have one hash -/

/-- No two different texts that are hashed for the two directories have one hash. -/
structure NoCollision (a b : DirectoryTree) : Prop where
  sha1 : ∀ f ∈ treeFiles a, ∀ g ∈ treeFiles b,
    host.sha1 (blobOf f.2) = host.sha1 (blobOf g.2) → blobOf f.2 = blobOf g.2
  sha256 : host.sha256 (treeBytes host (listed [] a.entries)) =
      host.sha256 (treeBytes host (listed [] b.entries)) →
    treeBytes host (listed [] a.entries) = treeBytes host (listed [] b.entries)

/-- There are too many files for a hash. -/
def Unbounded (tree : DirectoryTree) : Prop := maxTreeHashFiles < (treeFiles tree).ncard

omit host in
theorem eq_of_map_eq {α β : Type} {g : α → β} {l l' : List α}
    (hg : ∀ x ∈ l, ∀ y ∈ l', g x = g y → x = y) (h : l.map g = l'.map g) : l = l' := by
  induction l generalizing l' with
  | nil =>
    cases l' with
    | nil => rfl
    | cons y l' => cases h
  | cons x l ih =>
    cases l' with
    | nil => cases h
    | cons y l' =>
      obtain ⟨hfirst, hrest⟩ := List.cons.inj h
      rw [hg x List.mem_cons_self y List.mem_cons_self hfirst,
        ih (fun x hx y hy => hg x (List.mem_cons_of_mem _ hx) y (List.mem_cons_of_mem _ hy)) hrest]

/-- The text that is hashed says what the files are. -/
theorem treeFiles_of_treeBytes {a b : DirectoryTree} (hcollision : NoCollision host a b)
    (h : treeBytes host (listed [] a.entries) = treeBytes host (listed [] b.entries)) :
    treeFiles a = treeFiles b := by
  have hmem (tree : DirectoryTree) (f : TreeFile) :
      f ∈ sortedFiles (listed [] tree.entries) ↔ f ∈ treeFiles tree := by
    rw [sortedFiles, (List.mergeSort_perm _ _).mem_iff, mem_listed]
  have hsame : sortedFiles (listed [] a.entries) = sortedFiles (listed [] b.entries) := by
    refine eq_of_map_eq (fun f hf g hg heq => ?_) (treeBytes_fields host h)
    obtain ⟨hpath, hhash⟩ := Prod.ext_iff.1 heq
    have hf := (hmem a f).1 hf
    have hg := (hmem b g).1 hg
    exact Prod.ext
      (relPosixPath_injective (FileTree.path_ne_nil hf.1) (FileTree.path_ne_nil hg.1) hpath)
      (blobOf_injective (hcollision.sha1 f hf g hg hhash))
  ext f
  rw [← hmem a, ← hmem b, hsame]

/-- The same files make the same text. -/
theorem treeBytes_of_treeFiles {a b : DirectoryTree} (h : treeFiles a = treeFiles b) :
    treeBytes host (listed [] a.entries) = treeBytes host (listed [] b.entries) := by
  have hperm : (listed [] a.entries).Perm (listed [] b.entries) := by
    refine (List.perm_ext_iff_of_nodup (listed_nodup a) (listed_nodup b)).2 fun f => ?_
    rw [mem_listed, mem_listed, h]
  rw [treeBytes, treeBytes, sortedFiles_perm (filed_listed a) hperm]

/-- **Two directories have one hash exactly when they have the same files**, or both have too many
of them. -/
theorem hashDirectoryTree_inj {a b : DirectoryTree} (hcollision : NoCollision host a b) :
    hashDirectoryTree host locale a = hashDirectoryTree host locale b ↔
      treeFiles a = treeFiles b ∨ (Unbounded a ∧ Unbounded b) := by
  have hmark (content : Bytes) : js "tree:" ++ host.sha256 content ≠ js "tree:UNBOUNDED" := by
    intro h
    have hlength := of_decide_eq_true (Bool.and_eq_true_iff.1 (host.sha256_isHex content)).1
    have htotal := congrArg List.length h
    rw [List.length_append, hlength] at htotal
    exact absurd htotal (by decide)
  rw [hashDirectoryTree_eq, hashDirectoryTree_eq]
  unfold Unbounded
  by_cases ha : (treeFiles a).ncard ≤ maxTreeHashFiles
  · by_cases hb : (treeFiles b).ncard ≤ maxTreeHashFiles
    · rw [if_pos ha, if_pos hb]
      constructor
      · intro h
        exact .inl (treeFiles_of_treeBytes host hcollision
          (hcollision.sha256 (List.append_cancel_left h)))
      · rintro (h | h)
        · rw [treeBytes_of_treeFiles host h]
        · exact absurd h.1 (Nat.not_lt.2 ha)
    · rw [if_pos ha, if_neg hb]
      refine iff_of_false (hmark _) ?_
      rintro (h | h)
      · exact hb (h ▸ ha)
      · exact absurd h.1 (Nat.not_lt.2 ha)
  · by_cases hb : (treeFiles b).ncard ≤ maxTreeHashFiles
    · rw [if_neg ha, if_pos hb]
      refine iff_of_false (hmark _).symm ?_
      rintro (h | h)
      · exact ha (h ▸ hb)
      · exact absurd h.2 (Nat.not_lt.2 hb)
    · rw [if_neg ha, if_neg hb]
      exact iff_of_true rfl (.inr ⟨not_le.1 ha, not_le.1 hb⟩)

end hash

/-! ## The hints at directories -/

/-- What stands at a path. -/
inductive Standing where
  | file (content : Bytes)
  | directory (tree : DirectoryTree)

section status

variable (host : HashHost) (locale : TextLocale) (root : StatePath)

/-- What the status check sees of the files and directories. -/
def diskOf (files : StatePath → Option Standing) : Disk := fun path =>
  (files path).map fun
    | .file content => .file (gitBlobHash host content)
    | .directory tree => .directory (hashDirectoryTree host locale tree)

/-- A hash in a snapshot is that of what its hint names. -/
theorem snapshot_hash {disk : Disk} {prior : Option (Record JsString JsString)}
    {nodes : NodesDirectory} {hint hash : JsString}
    (h : (computeRelatedFilesStatus root disk prior nodes).snapshot.get? hint = some hash) :
    ∃ there, disk (hintPath root hint) = some there ∧ there.hash = hash := by
  unfold computeRelatedFilesStatus at h
  dsimp only at h
  have hentries (entry : RelatedFileEntry) (hash : JsString)
      (hmem : entry ∈ (listNodeFiles nodes).flatMap fun file =>
        (parseRelatedFiles file.2).map (entryOf root disk prior file.1))
      (hhash : entry.blobHash = some hash) :
      ∃ there, disk (hintPath root entry.relatedFile) = some there ∧ there.hash = hash := by
    obtain ⟨file, -, hmem⟩ := List.mem_flatMap.1 hmem
    obtain ⟨relatedFile, -, rfl⟩ := List.mem_map.1 hmem
    unfold entryOf at hhash ⊢
    split at hhash
    · cases hhash
    rename_i hplaceholder
    rw [if_neg hplaceholder]
    cases hthere : disk (hintPath root relatedFile) with
    | none =>
      rw [hthere] at hhash
      cases hhash
    | some there =>
      rw [hthere] at hhash
      exact ⟨there, hthere, Option.some.inj hhash⟩
  generalize (listNodeFiles nodes).flatMap (fun file =>
    (parseRelatedFiles file.2).map (entryOf root disk prior file.1)) = entries at h hentries
  induction entries using List.reverseRecOn with
  | nil => cases h
  | append_singleton entries entry ih =>
    have hbefore := fun e hash he => hentries e hash (List.mem_append_left _ he)
    rw [List.foldl_append, List.foldl_cons, List.foldl_nil] at h
    cases hblob : entry.blobHash with
    | none =>
      rw [hblob] at h
      exact ih h hbefore
    | some blobHash =>
      rw [hblob] at h
      dsimp only at h
      rcases Record.get?_set_cases h with ⟨heq, rfl⟩ | h
      · obtain ⟨there, hthere, hhash⟩ :=
          hentries entry _ (List.mem_append_right _ List.mem_cons_self) hblob
        exact ⟨there, heq ▸ hthere, hhash⟩
      · exact ih h hbefore

/-- The hash of a directory is not that of a file. -/
theorem gitBlobHash_ne (content : Bytes) (tree : DirectoryTree) :
    gitBlobHash host content ≠ hashDirectoryTree host locale tree := by
  intro h
  have hhead : (hashDirectoryTree host locale tree).head? = some 116 := by
    rw [hashDirectoryTree_eq]
    split <;> rfl
  rw [← h] at hhead
  have hdigit := (isHexText_ascii (host.sha1_isHex _) 116 (List.mem_of_mem_head? hhead)).1
  exact absurd hdigit (by decide)

/-- A hint is verified against a snapshot when it has the hash of what it names now. -/
theorem verified_hash {disk : Disk} {hashes : Record JsString JsString} {nodes : NodesDirectory}
    {entry : RelatedFileEntry}
    (h : entry ∈ (computeRelatedFilesStatus root disk (some hashes) nodes).entries)
    (hverified : entry.status = .verified) {there : OnDisk}
    (hthere : disk (hintPath root entry.relatedFile) = some there) :
    hashes.get? entry.relatedFile = some there.hash := by
  obtain ⟨file, -, hmem⟩ := List.mem_flatMap.1 h
  obtain ⟨relatedFile, -, rfl⟩ := List.mem_map.1 hmem
  have hhint : (entryOf root disk (some hashes) file.1 relatedFile).relatedFile = relatedFile := by
    unfold entryOf
    split
    · rfl
    · split <;> rfl
  rw [hhint] at hthere ⊢
  unfold entryOf at hverified
  split at hverified
  · cases hverified
  rw [hthere] at hverified
  dsimp only at hverified
  cases hhash : hashes.get? relatedFile with
  | none =>
    rw [hhash] at hverified
    cases hverified
  | some hash =>
    rw [hhash] at hverified
    dsimp only at hverified
    split at hverified
    · rename_i heq
      rw [heq]
    · cases hverified

/-- Two directories have one hash exactly when they have the same files outside of the directories
that are skipped, or both have too many. So a hint at a directory that is verified against an
earlier snapshot named a directory with the same files then, unless both had too many. -/
theorem directory_drift :
    (∀ a b : DirectoryTree, NoCollision host a b →
      (hashDirectoryTree host locale a = hashDirectoryTree host locale b ↔
        treeFiles a = treeFiles b ∨ (Unbounded a ∧ Unbounded b))) ∧
    ∀ (before after : StatePath → Option Standing) (prior : Option (Record JsString JsString))
      (nodes nodes' : NodesDirectory) (entry : RelatedFileEntry) (now : DirectoryTree),
      let snapshot :=
        (computeRelatedFilesStatus root (diskOf host locale before) prior nodes).snapshot
      entry ∈ (computeRelatedFilesStatus root (diskOf host locale after) (some snapshot)
          nodes').entries →
        entry.status = .verified →
        after (hintPath root entry.relatedFile) = some (.directory now) →
        ∃ earlier, before (hintPath root entry.relatedFile) = some (.directory earlier) ∧
          (NoCollision host earlier now →
            treeFiles earlier = treeFiles now ∨ (Unbounded earlier ∧ Unbounded now)) := by
  refine ⟨fun a b h => hashDirectoryTree_inj host locale h, ?_⟩
  intro before after prior nodes nodes' entry now snapshot hentry hverified hnow
  have hthere : diskOf host locale after (hintPath root entry.relatedFile) =
      some (.directory (hashDirectoryTree host locale now)) := by
    rw [diskOf, hnow]
    rfl
  obtain ⟨there, hbefore, hhash⟩ :=
    snapshot_hash root (verified_hash root hentry hverified hthere)
  unfold diskOf at hbefore
  obtain ⟨standing, hstanding, rfl⟩ := Option.map_eq_some_iff.1 hbefore
  cases standing with
  | file content => exact absurd hhash (gitBlobHash_ne host locale content now)
  | directory earlier =>
    exact ⟨earlier, hstanding, fun h => (hashDirectoryTree_inj host locale h).1 hhash⟩

end status

/-! Digests of the texts of two small directories. -/

def tableHash (table : List (Bytes × JsString)) (other : JsString) (content : Bytes) : JsString :=
  ((table.find? fun row => row.1 = content).map Prod.snd).getD other

theorem tableHash_isHex {length : ℕ} {table : List (Bytes × JsString)} {other : JsString}
    (hother : isHexText length other = true)
    (htable : table.all (fun row => isHexText length row.2) = true) (content : Bytes) :
    isHexText length (tableHash table other content) = true := by
  unfold tableHash
  cases hrow : table.find? fun row => row.1 = content with
  | none => exact hother
  | some row => exact List.all_eq_true.1 htable row (List.mem_of_find?_eq_some hrow)

def blobDigests : List (Bytes × JsString) :=
  [(blobOf [], js "e69de29bb2d1d6434b8b29ae775ad8c2e48c5391"),
    (blobOf [97], js "2e65efe2a145dda7ee51d1741299f848e5bf752e")]

def treeDigests : List (Bytes × JsString) :=
  [(Utf8.encode (js "a" ++ 0 :: (js "e69de29bb2d1d6434b8b29ae775ad8c2e48c5391" ++ [10])),
      js "af1b34432d25e32c9c2ae691fd641b71324e486cfed7670637075c662c27df34"),
    (Utf8.encode (js "a" ++ 0 :: (js "2e65efe2a145dda7ee51d1741299f848e5bf752e" ++ [10])),
      js "3391d4be49ddd2684a05f4519290e50715ac34c1d17d1386e71aa26099d175fc")]

def sampleHost : HashHost where
  sha1 := tableHash blobDigests (List.replicate 40 48)
  sha256 := tableHash treeDigests (List.replicate 64 48)
  sha1_isHex := tableHash_isHex (by decide) (by decide +kernel)
  sha256_isHex := tableHash_isHex (by decide) (by decide +kernel)

/-- A name of ASCII units. -/
def asciiName (name : JsString)
    (h : (name.all fun c => decide (48 ≤ c.toNat ∧ c.toNat < 128)) = true) : FileName :=
  have hall : ∀ c ∈ name, 48 ≤ c.toNat ∧ c.toNat < 128 :=
    fun c hc => of_decide_eq_true (List.all_eq_true.1 h c hc)
  ⟨name, fun hslash => absurd (hall slash hslash).1 (by decide),
    fun hzero => absurd (hall 0 hzero).1 (by decide),
    JsonText.paired_of_ascii fun c hc => (hall c hc).2⟩

/-- A directory with one file. -/
def oneFile (content : Bytes) : DirectoryTree where
  entries := [(asciiName (js "a") (by decide), .file content)]
  names := List.nodup_singleton _
  distinct := ⟨trivial, trivial⟩

theorem treeFiles_oneFile {content : Bytes} {f : TreeFile} (h : f ∈ treeFiles (oneFile content)) :
    f = ([asciiName (js "a") (by decide)], content) := by
  have hmem : f ∈ filesIn (oneFile content).entries := h.1
  exact List.mem_singleton.1 hmem

/-- The two directories do not have one hash. -/
theorem directory_drift_one_file :
    hashDirectoryTree sampleHost sampleLocale (oneFile []) ≠
      hashDirectoryTree sampleHost sampleLocale (oneFile [97]) := by
  have hcollision : NoCollision sampleHost (oneFile []) (oneFile [97]) := by
    refine ⟨fun f hf g hg h => ?_, fun h => ?_⟩
    · rw [treeFiles_oneFile hf, treeFiles_oneFile hg] at h
      exact absurd h (by decide +kernel)
    · exact absurd h (by decide +kernel)
  intro h
  rcases ((directory_drift sampleHost sampleLocale []).1 _ _ hcollision).1 h with hsame | hmany
  · have hmem : (([asciiName (js "a") (by decide)], []) : TreeFile) ∈ treeFiles (oneFile []) :=
      ⟨List.mem_singleton.2 rfl, fun _ h => absurd h List.not_mem_nil⟩
    rw [hsame] at hmem
    cases (Prod.ext_iff.1 (treeFiles_oneFile hmem)).2
  · have hfew : (treeFiles (oneFile [])).ncard = 1 := by
      rw [← length_listed]
      rfl
    have hmore := hmany.1
    rw [Unbounded, hfew] at hmore
    exact absurd hmore (by decide)

/-- A name of digits. -/
def numberName (i : ℕ) : FileName :=
  asciiName (decimal i) (List.all_eq_true.2 fun c hc => decide_eq_true (by
    obtain ⟨hlow, hhigh⟩ := decimalDigits_units hc
    rw [UInt16.le_iff_toNat_le] at hlow hhigh
    exact ⟨hlow, hhigh.trans_lt (by decide)⟩))

theorem numberName_injective : Function.Injective numberName := fun _ _ h =>
  decimal_injective (congrArg Subtype.val h)

/-- A directory of empty files. -/
def emptyFiles (n : ℕ) : DirectoryTree where
  entries := (List.range n).map fun i => (numberName i, .file [])
  names := by
    rw [List.map_map]
    exact List.nodup_range.map numberName_injective
  distinct := by
    refine FileTree.distinctIn_iff.2 fun e he => ?_
    obtain ⟨i, -, rfl⟩ := List.mem_map.1 he
    exact trivial

theorem treeFiles_emptyFiles (n : ℕ) (f : TreeFile) :
    f ∈ treeFiles (emptyFiles n) ↔ ∃ i < n, f = ([numberName i], []) := by
  have hfiles : filesIn (emptyFiles n).entries =
      (List.range n).map fun i => ([numberName i], []) := by
    rw [FileTree.filesIn_eq_flatMap, emptyFiles, List.flatMap_map]
    exact List.map_eq_flatMap.symm
  constructor
  · rintro ⟨hmem, -⟩
    rw [hfiles] at hmem
    obtain ⟨i, hi, rfl⟩ := List.mem_map.1 hmem
    exact ⟨i, List.mem_range.1 hi, rfl⟩
  · rintro ⟨i, hi, rfl⟩
    refine ⟨?_, fun _ h => absurd h List.not_mem_nil⟩
    rw [hfiles]
    exact List.mem_map_of_mem (List.mem_range.2 hi)

theorem unbounded_emptyFiles {n : ℕ} (h : maxTreeHashFiles < n) : Unbounded (emptyFiles n) := by
  have hset : treeFiles (emptyFiles n) =
      ↑((List.range n).map fun i => (([numberName i], []) : TreeFile)).toFinset := by
    ext f
    rw [treeFiles_emptyFiles, List.coe_toFinset]
    change _ ↔ f ∈ (List.range n).map _
    simp only [List.mem_map, List.mem_range, eq_comm]
  have hnodup : ((List.range n).map fun i => (([numberName i], []) : TreeFile)).Nodup :=
    List.nodup_range.map fun i j h =>
      numberName_injective (List.cons.inj (Prod.ext_iff.1 h).1).1
  rw [Unbounded, hset, Set.ncard_coe_finset, List.toFinset_card_of_nodup hnodup, List.length_map,
    List.length_range]
  exact h

/-- Two directories with too many files have one hash, and one has a file more. -/
theorem large_directories_alike :
    hashDirectoryTree sampleHost sampleLocale (emptyFiles 5001) =
        hashDirectoryTree sampleHost sampleLocale (emptyFiles 5002) ∧
      treeFiles (emptyFiles 5001) ≠ treeFiles (emptyFiles 5002) := by
  have hmark {n : ℕ} (h : maxTreeHashFiles < n) :
      hashDirectoryTree sampleHost sampleLocale (emptyFiles n) = js "tree:UNBOUNDED" := by
    rw [hashDirectoryTree_eq, if_neg (Nat.not_le.2 (unbounded_emptyFiles h))]
  refine ⟨?_, fun h => ?_⟩
  · rw [hmark (by unfold maxTreeHashFiles; omega), hmark (by unfold maxTreeHashFiles; omega)]
  · have hmore : (([numberName 5001], []) : TreeFile) ∈ treeFiles (emptyFiles 5002) :=
      (treeFiles_emptyFiles 5002 _).2 ⟨5001, by omega, rfl⟩
    rw [← h] at hmore
    obtain ⟨i, hi, heq⟩ := (treeFiles_emptyFiles 5001 _).1 hmore
    have hsame := numberName_injective (List.cons.inj (Prod.ext_iff.1 heq).1).1
    omega

end DirectoryTrees
end Autopilot
