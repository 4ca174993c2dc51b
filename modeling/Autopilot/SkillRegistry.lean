/-
Skills that are imported, and the files that are read to load one.

A skill comes with a manifest, which names the file that is always read and those that are read on
demand, by their paths below the root of the skill. The manifest is checked before anything is
read, and so are the trust in it and the commit it was taken from; where the paths lead is not.

This module is `validateSkillManifest`, `verifySkillSourceCommit` and `loadSkill` of
`skillRegistry.ts`. A manifest is what was parsed: each of its fields may be missing. Patterns that
hold are those of whole texts.
-/
import Autopilot.StateBackups
import Autopilot.PatternComponents
import Autopilot.Lib.Framing

set_option autoImplicit false

namespace Autopilot
namespace SkillRegistry

open PatternComponents (asciiLower isDigitUnit isLetter)
open Prog (Fault)
open StateBackups (StatePath resolveBelow segmentsOf)

/-! ## Manifests -/

/-- `source` of a manifest. -/
structure SkillSource where
  kind : JsString
  locator : JsString
  commitSha : Option JsString

/-- `SkillManifest`, with the fields that are looked at here. -/
structure SkillManifest where
  schemaVersion : Option JsString
  id : Option JsString
  version : Option JsString
  source : Option SkillSource
  trust : Option JsString
  /-- `permissions.network`, where it is a truth value. -/
  network : Option Bool
  hotPath : Option JsString
  coldPaths : Option (List JsString)

/-- `/^[a-z0-9][a-z0-9._-]*$/`. -/
def isSkillId (text : JsString) : Bool :=
  let unit (c : UInt16) : Bool := (97 ≤ c && c ≤ 122) || isDigitUnit c
  text.head?.any unit && text.all fun c => unit c || c = 46 || c = 95 || c = 45

/-- What follows a run of digits, which has one at least. -/
def afterDigits (text : JsString) : Option JsString :=
  if text.head?.any isDigitUnit then some (text.dropWhile isDigitUnit) else none

/-- What follows a run of digits and a dot. -/
def afterNumber (text : JsString) : Option JsString :=
  match afterDigits text with
  | some (46 :: rest) => some rest
  | _ => none

/-- `/^\d+\.\d+\.\d+(?:[-+][0-9A-Za-z.-]+)?$/`. -/
def isSkillVersion (text : JsString) : Bool :=
  match ((afterNumber text).bind afterNumber).bind afterDigits with
  | none => false
  | some [] => true
  | some (c :: label) =>
    (c = 45 || c = 43) && !label.isEmpty &&
      label.all fun c => isDigitUnit c || isLetter c || c = 46 || c = 45

/-- `/^[a-f0-9]{40,64}$/i`. -/
def isCommitSha (text : JsString) : Bool :=
  40 ≤ text.length && text.length ≤ 64 &&
    (asciiLower text).all fun c => (97 ≤ c && c ≤ 102) || isDigitUnit c

/-- A text is missing or empty. -/
def isBlankField (field : Option JsString) : Bool := field.all (·.isEmpty)

def skillTrusts : List JsString := ["unverified", "reviewed", "approved", "rejected"].map js

/-- `validateSkillManifest`. -/
def validateSkillManifest (manifest : SkillManifest) : List JsString :=
  let check (failed : Bool) (field : String) : List JsString := if failed then [js field] else []
  check (manifest.schemaVersion ≠ some (js "v1")) "schema_version" ++
    check (!manifest.id.any isSkillId) "id" ++
    check (!manifest.version.any isSkillVersion) "version" ++
    check (!manifest.source.any fun source => !source.locator.isEmpty && !source.kind.isEmpty)
      "source" ++
    check (!manifest.trust.any (· ∈ skillTrusts)) "trust" ++
    check (isBlankField manifest.hotPath) "hot_path" ++
    check manifest.network.isNone "permissions"

/-! ## Loading -/

/-- What stands at a path. -/
inductive SkillEntry where
  | file (text : JsString)
  | directory

abbrev SkillFiles := StatePath → Option SkillEntry

/-- A program that reads files; its state is the paths it has read so far. -/
abbrev Loading := Prog (Fault JsError) (List StatePath)

structure LoadedSkill where
  hotContent : JsString
  coldContent : Record JsString JsString

structure LoadOptions where
  allowedTrust : Option (List JsString)
  includeCold : Bool
  sourceCommitSha : Option JsString

def failed {α : Type} (message : JsString) : Loading α := throw (.error (js "Error") message)

/-- `if (condition) throw new Error(message)`. -/
def refuseIf (condition : Bool) (message : JsString) : Loading Unit :=
  if condition then failed message else pure ()

/-- `id@version`, for the errors about a manifest. -/
def nameOf (manifest : SkillManifest) : JsString :=
  manifest.id.getD (js "undefined") ++ js "@" ++ manifest.version.getD (js "undefined")

/-- `readFileSync`. -/
def readFile (files : SkillFiles) (path : StatePath) : Loading JsString := do
  modify (· ++ [path])
  match files path with
  | some (.file text) => return text
  | some .directory => throw (.error (js "Error") (js "EISDIR"))
  | none => throw (.error (js "Error") (js "ENOENT"))

/-- The checks of `verifySkillSourceCommit` and of its answer. -/
def checkSource (manifest : SkillManifest) (source : SkillSource) (actual : Option JsString) :
    Loading Unit :=
  if source.kind = js "local" then pure ()
  else
    match actual, source.commitSha with
    | none, _ => failed (js "skill_source_unpinned: " ++ nameOf manifest)
    | some _, none => failed (js "skill_source_unpinned: " ++ nameOf manifest)
    | some actual, some expected =>
      if !isCommitSha expected then failed (js "skill_source_unpinned: " ++ nameOf manifest)
      else if !isCommitSha actual then failed (js "skill_source_sha_invalid: " ++ nameOf manifest)
      else if asciiLower expected = asciiLower actual then pure ()
      else failed (js "skill_source_mismatch: " ++ nameOf manifest)

/-- `join(root, path)`. -/
def pathBelow (root : StatePath) (path : JsString) : StatePath := resolveBelow root (segmentsOf path)

/-- The loop over the files that are read on demand. -/
def loadCold (files : SkillFiles) (root : StatePath) :
    List JsString → Record JsString JsString → Loading (Record JsString JsString)
  | [], coldContent => return coldContent
  | coldPath :: rest, coldContent => do
    let path := pathBelow root coldPath
    refuseIf (files path).isNone (js "skill_cold_path_missing: " ++ coldPath)
    let text ← readFile files path
    loadCold files root rest (coldContent.set coldPath text)

/-- What is read besides the hot file. -/
def loadColdPaths (files : SkillFiles) (root : StatePath) (manifest : SkillManifest)
    (options : LoadOptions) : Loading (Record JsString JsString) :=
  if options.includeCold then
    match manifest.coldPaths with
    | some coldPaths => loadCold files root coldPaths .empty
    | none => throw (.error (js "TypeError") (js "manifest.cold_paths is not iterable"))
  else pure .empty

/-- `loadSkill`. -/
def loadSkill (files : SkillFiles) (root : StatePath) (manifest : SkillManifest)
    (options : LoadOptions) : Loading LoadedSkill :=
  let errors := validateSkillManifest manifest
  match manifest.source, manifest.hotPath, errors with
  | some source, some hotPath, [] => do
    refuseIf (manifest.trust.all (· ∉ options.allowedTrust.getD [js "reviewed", js "approved"]))
      (js "skill_not_trusted: " ++ nameOf manifest)
    checkSource manifest source options.sourceCommitSha
    let path := pathBelow root hotPath
    refuseIf (files path).isNone (js "skill_hot_path_missing: " ++ hotPath)
    let cold ← loadColdPaths files root manifest options
    let hot ← readFile files path
    return ⟨hot, cold⟩
  | _, _, _ => failed (js "invalid_skill_manifest: " ++ Framing.join (js ",") errors)

/-! ## What is read -/

/-- The paths that a manifest names. -/
def namedPaths (manifest : SkillManifest) : List JsString :=
  manifest.hotPath.toList ++ manifest.coldPaths.getD []

/-- Further files have been read, all of them at such paths. -/
def ReadsOnly (allowed : StatePath → Prop) (reads reads' : List StatePath) : Prop :=
  ∃ new, reads' = reads ++ new ∧ ∀ path ∈ new, allowed path

section reads

variable {allowed : StatePath → Prop} {α β : Type}

theorem ReadsOnly.refl (reads : List StatePath) : ReadsOnly allowed reads reads :=
  ⟨[], (List.append_nil reads).symm, fun _ h => absurd h List.not_mem_nil⟩

theorem ReadsOnly.trans (reads reads' reads'' : List StatePath)
    (h : ReadsOnly allowed reads reads') (h' : ReadsOnly allowed reads' reads'') :
    ReadsOnly allowed reads reads'' := by
  obtain ⟨new, rfl, hnew⟩ := h
  obtain ⟨new', rfl, hnew'⟩ := h'
  exact ⟨new ++ new', List.append_assoc .., List.forall_mem_append.2 ⟨hnew, hnew'⟩⟩

/-- The program reads at such paths only. -/
abbrev Reads (allowed : StatePath → Prop) (p : Loading α) : Prop := p.Moves (ReadsOnly allowed)

theorem reads_pure (a : α) : Reads allowed (pure a : Loading α) := .of_pure .refl a

theorem reads_failed (message : JsString) : Reads allowed (failed message : Loading α) :=
  .of_throw .refl _

theorem reads_bind {p : Loading α} {f : α → Loading β} (hp : Reads allowed p)
    (hf : ∀ a, Reads allowed (f a)) : Reads allowed (p >>= f) := .bind .trans hp hf

theorem refuseIf_false {condition : Bool} (h : condition = false) (message : JsString)
    (reads : List StatePath) : refuseIf condition message reads = (.ok (), reads) := by
  rw [h]
  rfl

theorem reads_refuseIf (condition : Bool) (message : JsString) :
    Reads allowed (refuseIf condition message) := by
  unfold refuseIf
  split
  · exact reads_failed message
  · exact reads_pure _

theorem reads_readFile (files : SkillFiles) {path : StatePath} (h : allowed path) :
    Reads allowed (readFile files path) := by
  refine reads_bind (fun reads => ⟨[path], rfl, by simpa using h⟩) fun _ => ?_
  cases files path with
  | none => exact .of_throw .refl _
  | some entry =>
    cases entry with
    | file text => exact reads_pure text
    | directory => exact .of_throw .refl _

theorem reads_checkSource (manifest : SkillManifest) (source : SkillSource)
    (actual : Option JsString) : Reads allowed (checkSource manifest source actual) := by
  unfold checkSource
  split
  · exact reads_pure _
  · cases actual with
    | none => exact reads_failed _
    | some actual =>
      cases source.commitSha with
      | none => exact reads_failed _
      | some expected =>
        dsimp only
        split
        · exact reads_failed _
        · split
          · exact reads_failed _
          · split
            · exact reads_pure _
            · exact reads_failed _

theorem reads_loadCold (files : SkillFiles) (root : StatePath) {coldPaths : List JsString}
    (h : ∀ coldPath ∈ coldPaths, allowed (pathBelow root coldPath))
    (coldContent : Record JsString JsString) :
    Reads allowed (loadCold files root coldPaths coldContent) := by
  induction coldPaths generalizing coldContent with
  | nil => exact reads_pure _
  | cons coldPath rest ih =>
    rw [List.forall_mem_cons] at h
    exact reads_bind (reads_refuseIf _ _) fun _ =>
      reads_bind (reads_readFile files h.1) fun text => ih h.2 _

/-- **A skill is loaded from the paths that its manifest names.** -/
theorem reads_loadSkill (files : SkillFiles) (root : StatePath) (manifest : SkillManifest)
    (options : LoadOptions) (h : ∀ name ∈ namedPaths manifest, allowed (pathBelow root name)) :
    Reads allowed (loadSkill files root manifest options) := by
  have hcold : Reads allowed (loadColdPaths files root manifest options) := by
    unfold loadColdPaths
    split
    · cases hpaths : manifest.coldPaths with
      | none => exact .of_throw .refl _
      | some coldPaths =>
        refine reads_loadCold files root (fun coldPath hmem => h coldPath ?_) .empty
        unfold namedPaths
        rw [hpaths]
        exact List.mem_append_right _ hmem
    · exact reads_pure _
  unfold loadSkill
  dsimp only
  split
  · rename_i source hotPath hsource hhot herrors
    have hallowed : allowed (pathBelow root hotPath) := by
      refine h hotPath ?_
      unfold namedPaths
      rw [hhot]
      exact List.mem_append_left _ (List.mem_singleton_self hotPath)
    exact reads_bind (reads_refuseIf _ _) fun _ =>
      reads_bind (reads_checkSource manifest source options.sourceCommitSha) fun _ =>
        reads_bind (reads_refuseIf _ _) fun _ => reads_bind hcold fun cold =>
          reads_bind (reads_readFile files hallowed) fun hot => reads_pure _
  · exact reads_failed _

end reads

/-! ## Containment -/

/-- Each path that the manifest names leads to a place below the root. -/
def StaysInside (root : StatePath) (manifest : SkillManifest) : Prop :=
  ∀ name ∈ namedPaths manifest, root <+: pathBelow root name

/-- The skill is not a local one, and no commit is recorded that it could be checked against. -/
def Unpinned (manifest : SkillManifest) : Prop :=
  ∃ source, manifest.source = some source ∧ source.kind ≠ js "local" ∧
    source.commitSha.any isCommitSha = false

/-- Loading the skill reads below the root only, and refuses a manifest that names another path. -/
structure Contained (root : StatePath) (manifest : SkillManifest) : Prop where
  reads : ∀ files options, ∀ path ∈ (loadSkill files root manifest options []).2, root <+: path
  refuses : (∃ name ∈ namedPaths manifest, ¬ root <+: pathBelow root name) →
    ∀ files options, ∃ e, (loadSkill files root manifest options []).1 = .error e

section contained

variable {root : StatePath} {manifest : SkillManifest} {source : SkillSource} {hotPath : JsString}

/-- An accepted manifest has a source, a hot file and a trust. -/
theorem fields_of_accepted (h : validateSkillManifest manifest = []) :
    (∃ source, manifest.source = some source) ∧ (∃ hotPath, manifest.hotPath = some hotPath) ∧
      ∃ trust, manifest.trust = some trust := by
  unfold validateSkillManifest at h
  simp only [List.append_eq_nil_iff] at h
  obtain ⟨⟨⟨⟨-, hsource⟩, htrust⟩, hhot⟩, -⟩ := h
  refine ⟨?_, ?_, ?_⟩
  · cases hs : manifest.source with
    | none =>
      rw [hs] at hsource
      cases hsource
    | some source => exact ⟨source, rfl⟩
  · cases hh : manifest.hotPath with
    | none =>
      rw [hh] at hhot
      cases hhot
    | some hotPath => exact ⟨hotPath, rfl⟩
  · cases ht : manifest.trust with
    | none =>
      rw [ht] at htrust
      cases htrust
    | some trust => exact ⟨trust, rfl⟩

/-- The source of an unpinned skill is refused, whatever commit it is said to be at. -/
theorem checkSource_unpinned (hkind : source.kind ≠ js "local")
    (hsha : source.commitSha.any isCommitSha = false) (actual : Option JsString)
    (reads : List StatePath) :
    ∃ e, checkSource manifest source actual reads = (.error e, reads) := by
  unfold checkSource
  rw [if_neg hkind]
  cases actual with
  | none => exact ⟨_, rfl⟩
  | some actual =>
    cases hcommit : source.commitSha with
    | none => exact ⟨_, rfl⟩
    | some expected =>
      rw [hcommit, Option.any_some] at hsha
      dsimp only
      rw [hsha]
      exact ⟨_, rfl⟩

/-- The source of any other skill is verified for the commit that it names. -/
theorem checkSource_verified (hsource : manifest.source = some source)
    (hpinned : ¬ Unpinned manifest) (reads : List StatePath) :
    checkSource manifest source source.commitSha reads = (.ok (), reads) := by
  unfold checkSource
  by_cases hkind : source.kind = js "local"
  · rw [if_pos hkind]
    rfl
  · rw [if_neg hkind]
    have hsha : source.commitSha.any isCommitSha = true := by
      by_contra hsha
      exact hpinned ⟨source, hsource, hkind, Bool.eq_false_iff.2 hsha⟩
    cases hcommit : source.commitSha with
    | none =>
      rw [hcommit] at hsha
      cases hsha
    | some expected =>
      rw [hcommit, Option.any_some] at hsha
      simp [hsha]

/-- Trusted, at its own commit and with every file there, a skill is loaded. -/
theorem loadSkill_loads (haccepted : validateSkillManifest manifest = [])
    (hsource : manifest.source = some source) (hhot : manifest.hotPath = some hotPath)
    (hpinned : ¬ Unpinned manifest) :
    loadSkill (fun _ => some (.file [])) root manifest
        ⟨some manifest.trust.toList, false, source.commitSha⟩ [] =
      (.ok ⟨[], .empty⟩, [pathBelow root hotPath]) := by
  obtain ⟨-, -, trust, htrust⟩ := fields_of_accepted haccepted
  have hverified := checkSource_verified hsource hpinned []
  unfold loadSkill
  rw [haccepted, hsource, hhot]
  dsimp only
  have htrusted : (manifest.trust.all
      (· ∉ (some manifest.trust.toList).getD [js "reviewed", js "approved"])) = false := by
    simp [htrust]
  rw [Prog.bind_run_ok (refuseIf_false htrusted _ _), Prog.bind_run_ok hverified]
  rfl

/-- An unpinned skill is never loaded, and nothing is read. -/
theorem loadSkill_unpinned (haccepted : validateSkillManifest manifest = [])
    (hunpinned : Unpinned manifest) (files : SkillFiles) (options : LoadOptions) :
    ∃ e, loadSkill files root manifest options [] = (.error e, []) := by
  obtain ⟨-, ⟨hotPath, hhot⟩, -⟩ := fields_of_accepted haccepted
  obtain ⟨source, hsource, hkind, hsha⟩ := hunpinned
  obtain ⟨e, hrefused⟩ := @checkSource_unpinned manifest source hkind hsha options.sourceCommitSha []
  unfold loadSkill
  rw [haccepted, hsource, hhot]
  dsimp only
  by_cases htrust : (manifest.trust.all
      (· ∉ options.allowedTrust.getD [js "reviewed", js "approved"])) = true
  · exact ⟨_, Prog.bind_run_error (by rw [htrust]; rfl)⟩
  · rw [Bool.not_eq_true] at htrust
    rw [Prog.bind_run_ok (refuseIf_false htrust _ _)]
    exact ⟨e, Prog.bind_run_error hrefused⟩

/-- **A manifest that is accepted is contained just when its paths stay inside or it can never be
loaded.** -/
theorem contained_iff (haccepted : validateSkillManifest manifest = []) :
    Contained root manifest ↔ StaysInside root manifest ∨ Unpinned manifest := by
  constructor
  · intro hcontained
    by_cases hpinned : Unpinned manifest
    · exact .inr hpinned
    obtain ⟨⟨source, hsource⟩, ⟨hotPath, hhot⟩, -⟩ := fields_of_accepted haccepted
    have hloads := @loadSkill_loads root _ _ _ haccepted hsource hhot hpinned
    refine .inl fun name hname => ?_
    by_contra houtside
    obtain ⟨e, hrefused⟩ := hcontained.refuses ⟨name, hname, houtside⟩
      (fun _ => some (.file [])) ⟨some manifest.trust.toList, false, source.commitSha⟩
    rw [hloads] at hrefused
    cases hrefused
  · rintro (hinside | hunpinned)
    · constructor
      · intro files options path hpath
        obtain ⟨new, hreads, hnew⟩ := reads_loadSkill files root manifest options hinside []
        rw [List.nil_append] at hreads
        exact hnew path (hreads ▸ hpath)
      · rintro ⟨name, hname, houtside⟩
        exact absurd (hinside name hname) houtside
    · constructor
      · intro files options path hpath
        obtain ⟨e, hrefused⟩ := @loadSkill_unpinned root _ haccepted hunpinned files options
        rw [hrefused] at hpath
        cases hpath
      · intro _ files options
        obtain ⟨e, hrefused⟩ := @loadSkill_unpinned root _ haccepted hunpinned files options
        exact ⟨e, congrArg Prod.fst hrefused⟩

end contained

/-- A manifest that is accepted. -/
def sampleManifest (hotPath : JsString) : SkillManifest where
  schemaVersion := some (js "v1")
  id := some (js "skill")
  version := some (js "1.0.0")
  source := some ⟨js "local", js ".", none⟩
  trust := some (js "approved")
  network := some false
  hotPath := some hotPath
  coldPaths := some []

theorem contained_iff_sample :
    Contained [js "skill"] (sampleManifest (js "SKILL.md")) ↔
      StaysInside [js "skill"] (sampleManifest (js "SKILL.md")) ∨
        Unpinned (sampleManifest (js "SKILL.md")) :=
  contained_iff (by decide)

/-- The path `../a` leads out of the root, and the file there is read. -/
theorem outside_read : validateSkillManifest (sampleManifest (js "../a")) = [] ∧
    (loadSkill (fun _ => some (.file [])) [js "skill"] (sampleManifest (js "../a"))
      ⟨none, false, none⟩ []).2 = [[js "a"]] ∧
    ¬ Contained [js "skill"] (sampleManifest (js "../a")) := by
  have hread : (loadSkill (fun _ => some (.file [])) [js "skill"] (sampleManifest (js "../a"))
      ⟨none, false, none⟩ []).2 = [[js "a"]] := by decide
  refine ⟨by decide, hread, fun h => ?_⟩
  have hinside := h.reads (fun _ => some (.file [])) ⟨none, false, none⟩ [js "a"] (by simp [hread])
  exact absurd hinside (by decide)

end SkillRegistry
end Autopilot
