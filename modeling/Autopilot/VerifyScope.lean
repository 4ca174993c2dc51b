/-
Which checks a change asks for.

A plan of checks follows from the profile, the risk and the files that changed. In the ordinary
case the plan is scoped to these files: it hands them to the gate of the mesh, and it adds the
tests of the parts they lie in. The files come from the command line or from `git status`, whose
records are read here.

This module is `verify-scope.ts` and `resolveVerificationMode` (`executionProfile.ts`). That the
plan is printed and run is left out.
-/
import Autopilot.ChangedFiles
import Autopilot.Handoff
import Autopilot.TokenCss
import Autopilot.Lib.JsonBytes
import Autopilot.Lib.Separated

set_option autoImplicit false

namespace Autopilot
namespace VerifyScope

open ChangedFiles (CommandInput isSeparator resolveChangedFiles splitArgument)
open DecisionMesh (unique)
open GovernedDispatch (sorted)
open Separated (splitOnP_joined terminated)
open TokenCss (joinedBy)

/-! ## Plans -/

/-- `VerificationMode`. -/
inductive VerificationMode where
  | diffScoped | fullFailClosed
  deriving DecidableEq, Repr

/-- `resolveVerificationMode`. -/
def resolveVerificationMode (profile : RunProfile) (risk : WorkUnitRisk) : VerificationMode :=
  if profile = .prod ∨ risk = .high then .fullFailClosed else .diffScoped

/-- `VerificationPlanInput`. -/
structure VerificationPlanInput where
  profile : RunProfile
  risk : WorkUnitRisk
  changedFiles : List JsString

/-- `PlannedCommand`, the arguments of `npm`. -/
structure PlannedCommand where
  args : List JsString
  deriving DecidableEq

/-- `VerificationPlan`. -/
structure VerificationPlan where
  mode : VerificationMode
  commands : List PlannedCommand
  deriving DecidableEq

/-- `fullVerificationPlan`. -/
def fullVerificationPlan : VerificationPlan where
  mode := .fullFailClosed
  commands := [⟨[js "run", js "verify"]⟩, ⟨[js "run", js "cockpit:test"]⟩,
    ⟨[js "run", js "browser:qa"]⟩]

/-- `hasUnsupportedPathCharacter`. -/
def hasUnsupportedPathCharacter (path : JsString) : Bool :=
  path.length = 0 || path.any fun c => isWhitespace c || c ≤ 0x1f || c = 0x7f

/-- `path.startsWith(root)` for one of the roots. -/
def liesIn (roots : List String) (path : JsString) : Bool :=
  roots.any fun root => (js root).isPrefixOf path

/-- `isMappedPath`. -/
def isMappedPath (path : JsString) : Bool :=
  liesIn ["src/data/delivery-system/", "tests/delivery-system/", "scripts/", "tests/scripts/",
    "cockpit/", "docs/"] path || path = js "README.md"

/-- The command that hands some files to the gate of the mesh. -/
def meshChangedCommand (files : List JsString) : PlannedCommand :=
  ⟨[js "run", js "mesh:changed", js "--", js "--files", joinedBy [32] files,
    js "--fail-on-blocker", js "--fail-on-ungoverned"]⟩

/-- The commands of a plan that is scoped to some files. -/
def scopedCommands (files : List JsString) : List PlannedCommand :=
  [⟨[js "run", js "runtime:check"]⟩, ⟨[js "run", js "typecheck"]⟩, meshChangedCommand files] ++
  (if files.any (liesIn ["src/data/delivery-system/", "tests/delivery-system/"]) then
    [⟨[js "test", js "--", js "tests/delivery-system"]⟩] else []) ++
  (if files.any (liesIn ["scripts/", "tests/scripts/"]) then
    [⟨[js "test", js "--", js "tests/scripts"]⟩] else []) ++
  (if files.any (liesIn ["cockpit/"]) then [⟨[js "run", js "cockpit:test"]⟩] else []) ++
  (if files.any (fun path => liesIn ["docs/"] path || path = js "README.md") then
    [⟨[js "run", js "docs:links"]⟩] else [])

/-- `resolveVerificationPlan`. -/
def resolveVerificationPlan (input : VerificationPlanInput) : Except JsError VerificationPlan :=
  match resolveVerificationMode input.profile input.risk with
  | .fullFailClosed => .ok fullVerificationPlan
  | .diffScoped =>
    let files := sorted (unique input.changedFiles)
    if files.length = 0 then .error (.new "verification_change_set_required")
    else if files.any hasUnsupportedPathCharacter then
      .error (.new "verification_change_path_unsupported")
    else if files.any (!isMappedPath ·) then .ok fullVerificationPlan
    else .ok ⟨.diffScoped, scopedCommands files⟩

/-! ## What the gate is handed -/

/-- What `npm run <script> -- <arguments>` hands to the script. -/
def scriptArguments (script : JsString) (command : PlannedCommand) : Option (List JsString) :=
  match command.args with
  | run :: name :: dashes :: arguments =>
    if run = js "run" ∧ name = script ∧ dashes = js "--" then some arguments else none
  | _ => none

/-- A plan hands the gate a list of files, and these are the ones that changed. -/
def HandsOver (plan : VerificationPlan) (surroundings : CommandInput)
    (changedFiles : List JsString) : Prop :=
  ∃ command ∈ plan.commands, ∃ argv, scriptArguments (js "mesh:changed") command = some argv ∧
    ∃ files, resolveChangedFiles argv surroundings = .ok files ∧
      ∀ path, path ∈ files ↔ path ∈ changedFiles

section plans

theorem mem_sorted_unique {values : List JsString} {value : JsString} :
    value ∈ sorted (unique values) ↔ value ∈ values := by
  unfold sorted unique
  rw [List.mem_insertionSort, List.mem_reverse, List.mem_dedup, List.mem_reverse]

/-- A plan that is scoped to the files has looked at each of them. -/
theorem resolveVerificationPlan_scoped {input : VerificationPlanInput} {plan : VerificationPlan}
    (h : resolveVerificationPlan input = .ok plan) (hmode : plan.mode = .diffScoped) :
    plan.commands = scopedCommands (sorted (unique input.changedFiles)) ∧
      input.changedFiles ≠ [] ∧
      ∀ path ∈ input.changedFiles, hasUnsupportedPathCharacter path = false := by
  unfold resolveVerificationPlan at h
  split at h
  · obtain rfl := Except.ok.inj h
    cases hmode
  · dsimp only at h
    by_cases hempty : (sorted (unique input.changedFiles)).length = 0
    · rw [if_pos hempty] at h
      cases h
    by_cases hunsupported : (sorted (unique input.changedFiles)).any hasUnsupportedPathCharacter
    · rw [if_neg hempty, if_pos hunsupported] at h
      cases h
    rw [if_neg hempty, if_neg hunsupported] at h
    split at h
    · obtain rfl := Except.ok.inj h
      cases hmode
    · obtain rfl := Except.ok.inj h
      refine ⟨rfl, ?_, fun path hpath => ?_⟩
      · intro hnil
        rw [hnil] at hempty
        exact hempty rfl
      · by_contra hbad
        rw [Bool.not_eq_false] at hbad
        exact hunsupported (List.any_eq_true.2 ⟨path, mem_sorted_unique.2 hpath, hbad⟩)

/-- Of the commands of a plan, one runs the gate. -/
theorem scriptArguments_scoped {files argv : List JsString} {command : PlannedCommand}
    (hmem : command ∈ scopedCommands files)
    (h : scriptArguments (js "mesh:changed") command = some argv) :
    command = meshChangedCommand files := by
  have hothers : ∀ other ∈ [⟨[js "run", js "runtime:check"]⟩, ⟨[js "run", js "typecheck"]⟩,
      ⟨[js "test", js "--", js "tests/delivery-system"]⟩,
      ⟨[js "test", js "--", js "tests/scripts"]⟩, ⟨[js "run", js "cockpit:test"]⟩,
      (⟨[js "run", js "docs:links"]⟩ : PlannedCommand)],
      scriptArguments (js "mesh:changed") other = none := by decide
  have hwhen {p : Prop} [Decidable p] {other : PlannedCommand}
      (hmem : command ∈ if p then [other] else []) : command = other := by
    split at hmem
    · exact List.mem_singleton.1 hmem
    · cases hmem
  by_contra hne
  have hlisted : command ∈ [⟨[js "run", js "runtime:check"]⟩, ⟨[js "run", js "typecheck"]⟩,
      ⟨[js "test", js "--", js "tests/delivery-system"]⟩,
      ⟨[js "test", js "--", js "tests/scripts"]⟩, ⟨[js "run", js "cockpit:test"]⟩,
      (⟨[js "run", js "docs:links"]⟩ : PlannedCommand)] := by
    unfold scopedCommands at hmem
    simp only [List.mem_append, List.mem_cons, List.not_mem_nil, or_false, hne] at hmem
    rcases hmem with (((((rfl | rfl) | hmem) | hmem) | hmem) | hmem)
    · exact List.mem_cons_self
    · exact List.mem_cons_of_mem _ List.mem_cons_self
    all_goals
      rw [hwhen hmem]
      decide
  rw [hothers command hlisted] at h
  cases h

/-- Paths without a separator that are joined by a space come back from the option. -/
theorem splitArgument_joined {files : List JsString} (hne : files ≠ [])
    (hfiles : ∀ path ∈ files, path ≠ [] ∧ ∀ c ∈ path, isSeparator c = false) :
    splitArgument (joinedBy [32] files) = files := by
  unfold splitArgument joinedBy
  rw [splitOnP_joined (by decide) hne fun path hpath => (hfiles path hpath).2,
    List.filter_eq_self]
  exact fun path hpath => decide_eq_true (hfiles path hpath).1

/-- No file that the option gives has a separator. -/
theorem not_separator_of_mem_splitArgument {text path : JsString} (h : path ∈ splitArgument text)
    {c : UInt16} (hc : c ∈ path) : isSeparator c = false :=
  Separated.not_separator_of_mem (List.mem_filter.1 h).1 hc

theorem resolveChangedFiles_meshChanged (files : List JsString) (surroundings : CommandInput) :
    resolveChangedFiles [js "--files", joinedBy [32] files, js "--fail-on-blocker",
      js "--fail-on-ungoverned"] surroundings = .ok (splitArgument (joinedBy [32] files)) := by
  have harg : ChangedFiles.arg [js "--files", joinedBy [32] files, js "--fail-on-blocker",
      js "--fail-on-ungoverned"] (js "--files") = some (joinedBy [32] files) := by
    unfold ChangedFiles.arg
    rw [List.findIdx?_cons, decide_eq_true rfl]
    rfl
  unfold resolveChangedFiles
  rw [harg]

theorem handsOver_scoped_iff {plan : VerificationPlan} {files changedFiles : List JsString}
    (hcommands : plan.commands = scopedCommands files) (surroundings : CommandInput) :
    HandsOver plan surroundings changedFiles ↔
      ∀ path, path ∈ splitArgument (joinedBy [32] files) ↔ path ∈ changedFiles := by
  have hhanded : scriptArguments (js "mesh:changed") (meshChangedCommand files) =
      some [js "--files", joinedBy [32] files, js "--fail-on-blocker",
        js "--fail-on-ungoverned"] := by
    unfold scriptArguments meshChangedCommand
    exact if_pos ⟨rfl, rfl, rfl⟩
  constructor
  · rintro ⟨command, hmem, argv, hargv, handed, hresolved, hiff⟩
    rw [hcommands] at hmem
    obtain rfl := scriptArguments_scoped hmem hargv
    rw [hhanded] at hargv
    obtain rfl := Option.some.inj hargv
    rw [resolveChangedFiles_meshChanged] at hresolved
    obtain rfl := Except.ok.inj hresolved
    exact hiff
  · intro hiff
    refine ⟨meshChangedCommand files, ?_, _, hhanded, _,
      resolveChangedFiles_meshChanged files surroundings, hiff⟩
    rw [hcommands]
    unfold scopedCommands
    simp only [List.append_assoc, List.cons_append, List.mem_cons, true_or, or_true]

end plans

/-- **What a scoped plan hands to the gate.** It is exactly the files that changed if and only if
none of them has a comma: the option is cut at commas, which the check of the paths lets by. -/
theorem scopedPlan_handsOver_iff {input : VerificationPlanInput} {plan : VerificationPlan}
    (h : resolveVerificationPlan input = .ok plan) (hmode : plan.mode = .diffScoped)
    (surroundings : CommandInput) :
    HandsOver plan surroundings input.changedFiles ↔ ∀ path ∈ input.changedFiles, 44 ∉ path := by
  obtain ⟨hcommands, hne, hsupported⟩ := resolveVerificationPlan_scoped h hmode
  rw [handsOver_scoped_iff hcommands]
  constructor
  · intro hiff path hpath hcomma
    have hseparator := not_separator_of_mem_splitArgument ((hiff path).2 hpath) hcomma
    exact absurd hseparator (by decide)
  · intro hcommas path
    rw [splitArgument_joined, mem_sorted_unique]
    · intro hnil
      obtain ⟨first, hfirst⟩ := List.exists_mem_of_ne_nil _ hne
      rw [← mem_sorted_unique, hnil] at hfirst
      cases hfirst
    · intro path hpath
      have hmem := mem_sorted_unique.1 hpath
      have hgood := hsupported path hmem
      unfold hasUnsupportedPathCharacter at hgood
      rw [Bool.or_eq_false_iff, decide_eq_false_iff_not, List.any_eq_false] at hgood
      refine ⟨fun hnil => hgood.1 (by rw [hnil]; rfl), fun c hc => ?_⟩
      have hblank : isWhitespace c = false := by
        have hunit := hgood.2 c hc
        simp only [Bool.or_eq_true, not_or, Bool.not_eq_true] at hunit
        exact hunit.1.1
      have hother : c ≠ 44 := fun heq => hcommas path hmem (heq ▸ hc)
      unfold isSeparator
      rw [hblank, Bool.false_or]
      exact decide_eq_false hother

def sampleSurroundings : CommandInput := ⟨fun _ => .ok [], none⟩

def sampleChange (path : JsString) : VerificationPlanInput := ⟨.dev, .ordinary, [path]⟩

theorem sampleChange_plan :
    resolveVerificationPlan (sampleChange (js "docs/a")) =
      .ok ⟨.diffScoped, scopedCommands [js "docs/a"]⟩ := by decide +kernel

theorem scopedPlan_handsOver_sample :
    HandsOver ⟨.diffScoped, scopedCommands [js "docs/a"]⟩ sampleSurroundings [js "docs/a"] :=
  (scopedPlan_handsOver_iff sampleChange_plan rfl sampleSurroundings).2 (by decide)

/-- A document with a comma in its name reaches the gate as two files. -/
theorem scopedPlan_comma_counterexample :
    ¬∀ (input : VerificationPlanInput) (plan : VerificationPlan) (surroundings : CommandInput),
      resolveVerificationPlan input = .ok plan → plan.mode = .diffScoped →
        HandsOver plan surroundings input.changedFiles := by
  intro hall
  have hplan : resolveVerificationPlan (sampleChange (js "docs/a,b")) =
      .ok ⟨.diffScoped, scopedCommands [js "docs/a,b"]⟩ := by decide +kernel
  have hhands := hall _ _ sampleSurroundings hplan rfl
  rw [handsOver_scoped_iff (rfl : _ = scopedCommands [js "docs/a,b"])] at hhands
  have hpart : js "docs/a" ∈ splitArgument (joinedBy [32] [js "docs/a,b"]) := by decide +kernel
  exact absurd ((hhands _).1 hpart) (by decide)

/-! ## The status of a working tree -/

def malformed : JsError := .new "verification_git_porcelain_malformed"

/-- `new TextDecoder("utf-8", { fatal: true }).decode`: a byte order mark in front is dropped. -/
def decodeText (output : List UInt8) : Option JsString :=
  (Utf8.decode output).map fun text => if text.head? = some 0xfeff then text.tail else text

/-- `[ MTADRCU?!]` -/
def isStatusUnit (c : UInt16) : Bool := (js " MTADRCU?!").contains c

/-- A record that is the head of an entry, as the status and the path. -/
def parseRecord (record : JsString) : Except JsError (JsString × JsString) :=
  if record.length < 4 ∨ record[2]? ≠ some 32 then .error malformed
  else
    let status := record.take 2
    if ¬status.all isStatusUnit ∨ status = js "  " then .error malformed
    else
      let path := record.drop 3
      if path.length = 0 then .error malformed else .ok (status, path)

/-- The status is that of a rename or a copy. -/
def isRenamed (status : JsString) : Bool := status.contains 82 || status.contains 67

/-- The loop of `parseGitPorcelain`. A rename or a copy takes the record behind its own. -/
def parseRecords : List JsString → Except JsError (List JsString)
  | [] => .ok []
  | [record] =>
    match parseRecord record with
    | .error e => .error e
    | .ok (status, path) => if isRenamed status then .error malformed else .ok [path]
  | record :: next :: rest =>
    match parseRecord record with
    | .error e => .error e
    | .ok (status, path) =>
      if isRenamed status then
        if next.length = 0 then .error malformed
        else (parseRecords rest).map fun files => path :: next :: files
      else (parseRecords (next :: rest)).map fun files => path :: files

/-- `parseGitPorcelain`. -/
def parseGitPorcelain (output : List UInt8) : Except JsError (List JsString) :=
  match decodeText output with
  | none => .error malformed
  | some decoded =>
    if decoded.length = 0 then .ok []
    else if decoded.getLast? ≠ some 0 then .error malformed
    else (parseRecords (decoded.dropLast.splitOn 0)).map fun files => sorted (unique files)

/-! ## What `git` prints -/

/-- A path that `git` prints: it is not empty, and it is Unicode text without a NUL. -/
structure PathText where
  text : JsString
  nonempty : text ≠ []
  noNul : 0 ∉ text
  paired : Utf8.Paired text

/-- An entry of the status: two status characters, a path, and the original path of a rename or a
copy. -/
structure StatusEntry where
  x : UInt16
  y : UInt16
  path : PathText
  original : Option PathText
  alphabet : isStatusUnit x = true ∧ isStatusUnit y = true
  renamed : original.isSome = isRenamed [x, y]

namespace StatusEntry

/-- Something has changed. -/
def Reported (entry : StatusEntry) : Prop := entry.x ≠ 32 ∨ entry.y ≠ 32

/-- The record that begins an entry. -/
def head (entry : StatusEntry) : JsString := entry.x :: entry.y :: 32 :: entry.path.text

def records (entry : StatusEntry) : List JsString :=
  entry.head :: (entry.original.map PathText.text).toList

def paths (entry : StatusEntry) : List JsString :=
  entry.path.text :: (entry.original.map PathText.text).toList

end StatusEntry

/-- The bytes of porcelain v1 with `-z`: every record ends in a NUL. -/
def encodeEntries (entries : List StatusEntry) : List UInt8 :=
  Utf8.encode (terminated 0 (entries.flatMap StatusEntry.records))

/-- A list in order without repetitions, with the members of another. -/
def IsSortedSet (files values : List JsString) : Prop :=
  files.Pairwise (· < ·) ∧ ∀ value, value ∈ files ↔ value ∈ values

def byteOrderMark : List UInt8 := [0xef, 0xbb, 0xbf]

section porcelain

theorem isSortedSet_sorted_unique (values : List JsString) :
    IsSortedSet (sorted (unique values)) values := by
  refine ⟨?_, fun value => mem_sorted_unique⟩
  have hperm : (sorted (unique values)).Perm (unique values) := List.perm_insertionSort _ _
  have hnodup : (unique values).Nodup := by
    unfold unique
    exact List.nodup_reverse.2 (List.nodup_dedup _)
  have hle : (sorted (unique values)).Pairwise (· ≤ ·) := List.pairwise_insertionSort (· ≤ ·) _
  refine (hle.and (hperm.nodup_iff.2 hnodup)).imp ?_
  rintro a b ⟨hab, hne⟩
  exact (List.le_iff_lt_or_eq.1 hab).resolve_right hne

/-! ### One record -/

theorem parseRecord_head {x y : UInt16} {path : JsString} (hx : isStatusUnit x = true)
    (hy : isStatusUnit y = true) (hreported : x ≠ 32 ∨ y ≠ 32) (hpath : path ≠ []) :
    parseRecord (x :: y :: 32 :: path) = .ok ([x, y], path) := by
  have hlength := List.length_pos_iff.2 hpath
  have hlong : ¬((x :: y :: 32 :: path).length < 4 ∨
      (x :: y :: 32 :: path)[2]? ≠ some (32 : UInt16)) := by
    simp only [List.length_cons]
    rintro (h | h)
    · omega
    · exact h rfl
  have hstatus : ¬(¬([x, y].all isStatusUnit) = true ∨ [x, y] = js "  ") := by
    rintro (h | h)
    · exact h (by simp [hx, hy])
    · obtain ⟨rfl, hrest⟩ := List.cons.inj h
      obtain ⟨rfl, -⟩ := List.cons.inj hrest
      rcases hreported with h | h <;> exact h rfl
  unfold parseRecord
  rw [if_neg hlong]
  dsimp only [List.take_succ_cons, List.take_zero, List.drop_succ_cons, List.drop_zero]
  rw [if_neg hstatus]
  exact if_neg hlength.ne'

/-- What a record says that is accepted. -/
theorem parseRecord_ok {record status path : JsString}
    (h : parseRecord record = .ok (status, path)) :
    ∃ x y, record = x :: y :: 32 :: path ∧ status = [x, y] ∧ isStatusUnit x = true ∧
      isStatusUnit y = true ∧ (x ≠ 32 ∨ y ≠ 32) ∧ path ≠ [] := by
  unfold parseRecord at h
  split at h
  · cases h
  rename_i hlong
  rw [not_or, not_lt, not_not] at hlong
  match record, hlong with
  | x :: y :: z :: rest, hlong =>
    obtain rfl : z = 32 := Option.some.inj hlong.2
    dsimp only [List.take_succ_cons, List.take_zero, List.drop_succ_cons, List.drop_zero] at h
    split at h
    · cases h
    rename_i hstatus
    rw [not_or, not_not] at hstatus
    split at h
    · cases h
    rename_i hpath
    obtain ⟨rfl, rfl⟩ := Prod.mk.inj (Except.ok.inj h)
    have hunits := hstatus.1
    simp only [List.all_cons, List.all_nil, Bool.and_true, Bool.and_eq_true] at hunits
    refine ⟨x, y, rfl, rfl, hunits.1, hunits.2, ?_, fun hnil => hpath (by rw [hnil]; rfl)⟩
    by_contra hblank
    rw [not_or, not_not, not_not] at hblank
    exact hstatus.2 (by rw [hblank.1, hblank.2]; rfl)
  | [], hlong => exact absurd hlong.1 (by decide)
  | [_], hlong => exact absurd hlong.1 (by simp)
  | [_, _], hlong => exact absurd hlong.1 (by simp)

theorem parseRecord_error {record : JsString} {error : JsError}
    (h : parseRecord record = .error error) : error = malformed := by
  unfold parseRecord at h
  dsimp only at h
  split_ifs at h
  all_goals exact (Except.error.inj h).symm

/-! ### The loop -/

section step

variable {record status path : JsString}

/-- A record that is no rename is an entry of its own. -/
theorem parseRecords_kept (h : parseRecord record = .ok (status, path))
    (hkept : isRenamed status = false) (rest : List JsString) :
    parseRecords (record :: rest) = (parseRecords rest).map fun files => path :: files := by
  cases rest with
  | nil =>
    have hlast : parseRecords [record] = .ok [path] := by
      rw [parseRecords, h]
      dsimp only
      rw [hkept, if_neg Bool.false_ne_true]
    exact hlast
  | cons next rest =>
    rw [parseRecords, h]
    dsimp only
    rw [hkept, if_neg Bool.false_ne_true]

/-- A rename takes the record behind its own. -/
theorem parseRecords_renamed (h : parseRecord record = .ok (status, path))
    (hrenamed : isRenamed status = true) {original : JsString} (horiginal : original ≠ [])
    (rest : List JsString) :
    parseRecords (record :: original :: rest) =
      (parseRecords rest).map fun files => path :: original :: files := by
  rw [parseRecords, h]
  dsimp only
  rw [if_pos hrenamed, if_neg (List.length_pos_iff.2 horiginal).ne']

end step

/-- **The records of entries give their paths.** -/
theorem parseRecords_entries (entries : List StatusEntry)
    (hreported : ∀ entry ∈ entries, entry.Reported) :
    parseRecords (entries.flatMap StatusEntry.records) =
      .ok (entries.flatMap StatusEntry.paths) := by
  induction entries with
  | nil => rfl
  | cons entry entries ih =>
    have ih := ih fun other hother => hreported other (List.mem_cons_of_mem _ hother)
    have hhead : parseRecord entry.head = .ok ([entry.x, entry.y], entry.path.text) :=
      parseRecord_head entry.alphabet.1 entry.alphabet.2 (hreported entry List.mem_cons_self)
        entry.path.nonempty
    rw [List.flatMap_cons, List.flatMap_cons, StatusEntry.records, StatusEntry.paths]
    have hrenamed := entry.renamed
    cases horiginal : entry.original with
    | none =>
      rw [horiginal] at hrenamed
      rw [Option.map_none, Option.toList_none, List.singleton_append, List.singleton_append,
        parseRecords_kept hhead hrenamed.symm, ih]
      rfl
    | some original =>
      rw [horiginal] at hrenamed
      rw [Option.map_some, Option.toList_some]
      show parseRecords (entry.head :: original.text :: entries.flatMap StatusEntry.records) = _
      rw [parseRecords_renamed hhead hrenamed.symm original.nonempty, ih]
      rfl

/-- A path in a record that was read as text up to a NUL. -/
def pathText {path : JsString} (hne : path ≠ []) (h : 0 ∉ path ∧ Utf8.Paired path) : PathText :=
  ⟨path, hne, h.1, h.2⟩

theorem isStatusUnit_ascii {c : UInt16} (h : isStatusUnit c = true) : c.toNat < 128 :=
  JsonText.ascii_of_all (by decide) c (List.contains_iff_mem.1 h)

/-- What stands behind the status and the blank of a record is read text as the record is. -/
theorem rest_of_record {x y : UInt16} {path : JsString} (hx : isStatusUnit x = true)
    (hy : isStatusUnit y = true)
    (h : 0 ∉ x :: y :: 32 :: path ∧ Utf8.Paired (x :: y :: 32 :: path)) :
    0 ∉ path ∧ Utf8.Paired path := by
  have hhalf {c : UInt16} (hc : c.toNat < 128) := JsonText.notHalf_of_ascii hc
  have hx' := hhalf (isStatusUnit_ascii hx)
  have hy' := hhalf (isStatusUnit_ascii hy)
  have hblank := hhalf (show (32 : UInt16).toNat < 128 by decide)
  have htail := (h.2.tail hx'.1 hx'.2).tail hy'.1 hy'.2
  refine ⟨fun hmem => h.1 ?_, htail.tail hblank.1 hblank.2⟩
  exact List.mem_cons_of_mem _ (List.mem_cons_of_mem _ (List.mem_cons_of_mem _ hmem))

/-- **Records that are accepted are those of entries.** -/
theorem entries_of_parseRecords (records : List JsString) {files : List JsString}
    (htexts : ∀ record ∈ records, 0 ∉ record ∧ Utf8.Paired record)
    (h : parseRecords records = .ok files) :
    ∃ entries : List StatusEntry, (∀ entry ∈ entries, entry.Reported) ∧
      entries.flatMap StatusEntry.records = records ∧
      entries.flatMap StatusEntry.paths = files := by
  induction hn : records.length using Nat.strong_induction_on generalizing records files with
  | _ n ih =>
    subst hn
    cases records with
    | nil =>
      obtain rfl := Except.ok.inj h
      exact ⟨[], by simp, rfl, rfl⟩
    | cons record rest =>
      cases hrecord : parseRecord record with
      | error e =>
        cases rest with
        | nil => rw [parseRecords, hrecord] at h; cases h
        | cons next rest => rw [parseRecords, hrecord] at h; cases h
      | ok pair =>
        obtain ⟨status, path⟩ := pair
        obtain ⟨x, y, rfl, rfl, hx, hy, hreported, hne⟩ := parseRecord_ok hrecord
        have hpath := rest_of_record hx hy (htexts _ List.mem_cons_self)
        cases hrenamed : isRenamed [x, y] with
        | false =>
          rw [parseRecords_kept hrecord hrenamed] at h
          cases hrest : parseRecords rest with
          | error e => rw [hrest] at h; cases h
          | ok others =>
            rw [hrest] at h
            obtain rfl := Except.ok.inj h
            obtain ⟨entries, hall, hrecords, hpaths⟩ := ih rest.length (Nat.lt_succ_self _) rest
              (fun other hother => htexts other (List.mem_cons_of_mem _ hother)) hrest rfl
            let entry : StatusEntry := ⟨x, y, pathText hne hpath, none, ⟨hx, hy⟩, hrenamed.symm⟩
            refine ⟨entry :: entries, List.forall_mem_cons.2 ⟨hreported, hall⟩, ?_, ?_⟩
            · rw [List.flatMap_cons, hrecords]
              rfl
            · rw [List.flatMap_cons, hpaths]
              rfl
        | true =>
          cases rest with
          | nil =>
            rw [parseRecords, hrecord] at h
            dsimp only at h
            rw [if_pos hrenamed] at h
            cases h
          | cons original rest =>
            by_cases hempty : original = []
            · rw [parseRecords, hrecord] at h
              dsimp only at h
              rw [if_pos hrenamed, hempty, List.length_nil, if_pos rfl] at h
              cases h
            rw [parseRecords_renamed hrecord hrenamed hempty] at h
            cases hrest : parseRecords rest with
            | error e => rw [hrest] at h; cases h
            | ok others =>
              rw [hrest] at h
              obtain rfl := Except.ok.inj h
              obtain ⟨entries, hall, hrecords, hpaths⟩ := ih rest.length
                (by simp only [List.length_cons]; omega) rest
                (fun other hother =>
                  htexts other (List.mem_cons_of_mem _ (List.mem_cons_of_mem _ hother))) hrest rfl
              have horiginal := htexts original (List.mem_cons_of_mem _ List.mem_cons_self)
              let entry : StatusEntry := ⟨x, y, pathText hne hpath,
                some (pathText hempty horiginal), ⟨hx, hy⟩, hrenamed.symm⟩
              refine ⟨entry :: entries, List.forall_mem_cons.2 ⟨hreported, hall⟩, ?_, ?_⟩
              · rw [List.flatMap_cons, hrecords]
                rfl
              · rw [List.flatMap_cons, hpaths]
                rfl

theorem parseRecords_error {records : List JsString} {error : JsError}
    (h : parseRecords records = .error error) : error = malformed := by
  have hmap {result : Except JsError (List JsString)} {f : List JsString → List JsString}
      (hresult : result.map f = .error error) : result = .error error := by
    cases result with
    | ok files => cases hresult
    | error e => exact hresult
  fun_induction parseRecords records with
  | case1 => cases h
  | case2 record e hrecord => exact Except.error.inj h ▸ parseRecord_error hrecord
  | case3 => exact (Except.error.inj h).symm
  | case4 => cases h
  | case5 record next rest e hrecord => exact Except.error.inj h ▸ parseRecord_error hrecord
  | case6 => exact (Except.error.inj h).symm
  | case7 record next rest status path hrecord hrenamed hnext ih => exact ih (hmap h)
  | case8 record next rest status path hrecord hkept ih => exact ih (hmap h)

/-! ### The bytes -/

/-- A text that is decoded is that of its bytes, with or without the mark in front. -/
theorem decodeText_some {bytes : List UInt8} {text : JsString} (h : decodeText bytes = some text) :
    Utf8.Paired text ∧ (bytes = Utf8.encode text ∨ bytes = byteOrderMark ++ Utf8.encode text) := by
  unfold decodeText at h
  obtain ⟨whole, hwhole, htext⟩ := Option.map_eq_some_iff.1 h
  obtain ⟨hpaired, hbytes⟩ := Utf8.encode_of_decode hwhole
  by_cases hmark : whole.head? = some 0xfeff
  · rw [if_pos hmark] at htext
    obtain ⟨rest, rfl⟩ : ∃ rest, whole = 0xfeff :: rest := by
      cases whole with
      | nil => cases hmark
      | cons c rest => exact ⟨rest, by rw [Option.some.inj hmark]⟩
    obtain rfl : rest = text := htext
    have hunit : Utf8.Paired [(0xfeff : UInt16)] := .unit (by decide) (by decide) .nil
    have hrest := hpaired.tail (by decide) (by decide)
    refine ⟨hrest, .inr ?_⟩
    have hbom : Utf8.encode [0xfeff] = byteOrderMark := by decide
    rw [← hbytes, ← hbom, ← Utf8.encode_append hunit]
    rfl
  · rw [if_neg hmark] at htext
    subst htext
    exact ⟨hpaired, .inl hbytes.symm⟩

theorem decodeText_encode {text : JsString} (h : Utf8.Paired text)
    (hmark : text.head? ≠ some 0xfeff) : decodeText (Utf8.encode text) = some text := by
  unfold decodeText
  rw [Utf8.decode_encode h, Option.map_some, if_neg hmark]

/-! ### Entries as text -/

theorem paired_terminated {records : List JsString} (h : ∀ record ∈ records, Utf8.Paired record) :
    Utf8.Paired (terminated 0 records) := by
  induction records with
  | nil => exact .nil
  | cons record records ih =>
    rw [Separated.terminated_cons]
    refine (h record List.mem_cons_self).append (.unit (by decide) (by decide) (ih ?_))
    exact fun other hother => h other (List.mem_cons_of_mem _ hother)

theorem paired_of_terminated {records : List JsString}
    (h : Utf8.Paired (terminated 0 records)) {record : JsString} (hmem : record ∈ records) :
    Utf8.Paired record := by
  induction records with
  | nil => cases hmem
  | cons first records ih =>
    rw [Separated.terminated_cons] at h
    have hparts := h.split (by decide) (by decide)
    rcases List.mem_cons.1 hmem with rfl | hmem
    · exact hparts.1
    · exact ih hparts.2 hmem

/-- A record of an entry is text without a NUL. -/
theorem record_text {entry : StatusEntry} {record : JsString} (h : record ∈ entry.records) :
    0 ∉ record ∧ Utf8.Paired record := by
  rcases List.mem_cons.1 h with rfl | h
  · have hunit {c : UInt16} (hc : isStatusUnit c = true) : (0 : UInt16) ≠ c := by
      rintro rfl
      exact absurd hc (by decide)
    have hhalf {c : UInt16} (hc : c.toNat < 128) := JsonText.notHalf_of_ascii hc
    have hx := hhalf (isStatusUnit_ascii entry.alphabet.1)
    have hy := hhalf (isStatusUnit_ascii entry.alphabet.2)
    refine ⟨?_, .unit hx.1 hx.2 (.unit hy.1 hy.2 (.unit (by decide) (by decide)
      entry.path.paired))⟩
    simp only [StatusEntry.head, List.mem_cons, not_or]
    exact ⟨hunit entry.alphabet.1, hunit entry.alphabet.2, by decide, entry.path.noNul⟩
  · cases horiginal : entry.original with
    | none =>
      rw [horiginal] at h
      cases h
    | some original =>
      rw [horiginal] at h
      obtain rfl := List.mem_singleton.1 h
      exact ⟨original.noNul, original.paired⟩

theorem records_text {entries : List StatusEntry} {record : JsString}
    (h : record ∈ entries.flatMap StatusEntry.records) : 0 ∉ record ∧ Utf8.Paired record := by
  obtain ⟨entry, -, hrecord⟩ := List.mem_flatMap.1 h
  exact record_text hrecord

end porcelain

/-- **The status that `git` prints is read back.** Entries that have changed give the sorted set of
their paths, and every other output than that of such entries, but for a byte order mark in front,
is refused with one error. -/
theorem parseGitPorcelain_inverts :
    (∀ entries : List StatusEntry, (∀ entry ∈ entries, entry.Reported) →
      ∃ files, parseGitPorcelain (encodeEntries entries) = .ok files ∧
        IsSortedSet files (entries.flatMap StatusEntry.paths)) ∧
    ∀ output : List UInt8,
      (∃ (entries : List StatusEntry) (files : List JsString),
        (∀ entry ∈ entries, entry.Reported) ∧
        (output = encodeEntries entries ∨ output = byteOrderMark ++ encodeEntries entries) ∧
        parseGitPorcelain output = .ok files ∧
        IsSortedSet files (entries.flatMap StatusEntry.paths)) ∨
      parseGitPorcelain output = .error malformed := by
  refine ⟨fun entries hreported => ?_, fun output => ?_⟩
  · have hparsed := parseRecords_entries entries hreported
    have htexts {record : JsString} (h : record ∈ entries.flatMap StatusEntry.records) :=
      records_text h
    have hpaired : Utf8.Paired (terminated 0 (entries.flatMap StatusEntry.records)) :=
      paired_terminated fun record hrecord => (htexts hrecord).2
    refine ⟨_, ?_, isSortedSet_sorted_unique _⟩
    unfold parseGitPorcelain encodeEntries
    cases entries with
    | nil =>
      rw [decodeText_encode hpaired (by decide)]
      rfl
    | cons entry entries =>
      have hfirst : (entry :: entries).flatMap StatusEntry.records =
          entry.head :: ((entry.original.map PathText.text).toList ++
            entries.flatMap StatusEntry.records) := rfl
      have hne : (entry :: entries).flatMap StatusEntry.records ≠ [] := by
        rw [hfirst]
        exact List.cons_ne_nil _ _
      have hhead : (terminated 0 ((entry :: entries).flatMap StatusEntry.records)).head? ≠
          some 0xfeff := by
        rw [hfirst, Separated.terminated_cons]
        intro h
        have hx := isStatusUnit_ascii entry.alphabet.1
        rw [show entry.x = 0xfeff from Option.some.inj h] at hx
        exact absurd hx (by decide)
      rw [decodeText_encode hpaired hhead]
      dsimp only
      rw [Separated.splitOn_terminated hne fun record hrecord => (htexts hrecord).1, hparsed,
        Separated.terminated_eq hne, List.getLast?_concat, if_neg (by simp), if_neg (by simp)]
      rfl
  · unfold parseGitPorcelain
    cases hdecoded : decodeText output with
    | none => exact .inr rfl
    | some text =>
      obtain ⟨hpaired, hbytes⟩ := decodeText_some hdecoded
      dsimp only
      by_cases hempty : text.length = 0
      · obtain rfl := List.length_eq_zero_iff.1 hempty
        rw [if_pos hempty]
        exact .inl ⟨[], [], by simp, hbytes, rfl, List.Pairwise.nil, by simp⟩
      by_cases hlast : text.getLast? = some 0
      · rw [if_neg hempty, if_neg (not_not.2 hlast)]
        have hterminated := Separated.terminated_splitOn hlast
        cases hparsed : parseRecords (text.dropLast.splitOn 0) with
        | error e =>
          rw [parseRecords_error hparsed]
          exact .inr rfl
        | ok files =>
          rw [← hterminated] at hpaired
          obtain ⟨entries, hreported, hrecords, rfl⟩ := entries_of_parseRecords _
            (fun record hrecord =>
              ⟨Separated.not_mem_of_mem_splitOn hrecord, paired_of_terminated hpaired hrecord⟩)
            hparsed
          refine .inl ⟨entries, _, hreported, ?_, rfl, isSortedSet_sorted_unique _⟩
          unfold encodeEntries
          rw [hrecords, hterminated]
          exact hbytes
      · rw [if_neg hempty, if_pos hlast]
        exact .inr rfl

def samplePath (c : UInt16) (h : c.toNat < 128) (hne : 0 ≠ c) : PathText where
  text := [c]
  nonempty := List.cons_ne_nil _ _
  noNul := by simpa using hne
  paired := JsonText.paired_of_ascii (by simpa using h)

/-- The file `b`, renamed from `a`. -/
def sampleRename : StatusEntry where
  x := 82
  y := 32
  path := samplePath 98 (by decide) (by decide)
  original := some (samplePath 97 (by decide) (by decide))
  alphabet := by decide
  renamed := by decide

theorem parseGitPorcelain_inverts_sample :
    ∃ files, parseGitPorcelain (encodeEntries [sampleRename]) = .ok files ∧
      IsSortedSet files [js "b", js "a"] :=
  parseGitPorcelain_inverts.1 [sampleRename] fun entry hentry => by
    rw [List.mem_singleton.1 hentry]
    exact .inl (by decide)

/-- An entry of the file `a` with two blanks for a status. -/
def sampleBlank : StatusEntry where
  x := 32
  y := 32
  path := samplePath 97 (by decide) (by decide)
  original := none
  alphabet := by decide
  renamed := by decide

/-- Two blanks are of the alphabet, but no status. -/
theorem parseGitPorcelain_blank_counterexample :
    ¬∀ entries : List StatusEntry, ∃ files,
      parseGitPorcelain (encodeEntries entries) = .ok files ∧
        IsSortedSet files (entries.flatMap StatusEntry.paths) := by
  intro hall
  obtain ⟨files, hparsed, -⟩ := hall [sampleBlank]
  have htext : decodeText (encodeEntries [sampleBlank]) = some (js "   a" ++ [0]) :=
    decodeText_encode (JsonText.paired_of_ascii (JsonText.ascii_of_all (by decide))) (by decide)
  have hrefused : parseRecords ((js "   a" ++ [0]).dropLast.splitOn 0) = .error malformed := by
    decide +kernel
  unfold parseGitPorcelain at hparsed
  rw [htext] at hparsed
  dsimp only at hparsed
  rw [if_neg (by decide), if_neg (by decide), hrefused] at hparsed
  cases hparsed

end VerifyScope
end Autopilot
