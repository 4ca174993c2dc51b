/-
The gate for changed files.

A change activates the nodes of the mesh that are about one of its files. The rules of these
nodes are reported, and those that block stop the change until every activated node they apply
to is acknowledged. A file that no node is about passes, unless it lies under a sensitive root.

This module is `changed-files-capabilities.ts` and its command line
(`changed-files-capabilities-cli.ts`), whose output on the console is left out.
-/
import Autopilot.RelatedFiles

set_option autoImplicit false

namespace Autopilot
namespace ChangedFiles

open DecisionMesh (unique)
open GovernedDispatch (sampleNode sampleRule)
open RelatedFiles (isPlaceholder normalizeRelatedFileHint yaml yml)
open StateBackups (slash)

/-! ## Activation -/

/-- `hintCovers`. -/
def hintCovers (changedFile rawHint : JsString) : Bool :=
  let hint := normalizeRelatedFileHint rawHint
  !isPlaceholder rawHint && !hint.isEmpty &&
    (changedFile = hint || (hint ++ [slash]).isPrefixOf changedFile ||
      (changedFile ++ [slash]).isPrefixOf hint)

/-- `ActivatedNode`. -/
structure ActivatedNode where
  id : JsString
  name : JsString
  matchedFiles : List JsString
  deriving DecidableEq

/-- `Escalation`. -/
structure Escalation where
  source : JsString
  target : JsString
  relation : JsString
  why : JsString
  deriving DecidableEq

/-- `ChangedFilesActivation`. -/
structure ChangedFilesActivation where
  changedFiles : List JsString
  activatedNodes : List ActivatedNode
  rules : List DecisionMeshRule
  blockers : List JsString
  requiredChecks : List JsString
  stopConditions : List JsString
  mustNotAssume : List JsString
  escalations : List Escalation
  ungovernedSensitive : List JsString
  deriving DecidableEq

/-- `SENSITIVE_ROOTS`. -/
def sensitiveRoots : List JsString :=
  ["src/data/delivery-system", "mcp", "src/lib/decision-mesh", "src/lib/mesh-tools",
    "src/governed-core", ".codex/hooks", "scripts/git-hooks"].map js

/-- `isMeshGovernanceSource`. -/
def isMeshGovernanceSource (file : JsString) : Bool :=
  file = js "mesh/rules.yaml" || file = js "mesh/edges.yaml" ||
    (js "mesh/nodes/").isPrefixOf file &&
      (let name := file.drop (js "mesh/nodes/").length
       !name.contains slash && (yaml.isSuffixOf name && yaml.length < name.length ||
         yml.isSuffixOf name && yml.length < name.length))

/-- `underSensitiveRoot`. -/
def underSensitiveRoot (file : JsString) : Bool :=
  sensitiveRoots.any (fun root => file = root || (root ++ [slash]).isPrefixOf file) ||
    isMeshGovernanceSource file

/-- `severityRank`. -/
def severityRank : RuleSeverity → ℕ
  | .blocker => 0
  | .major => 1
  | .minor => 2
  | .note => 3

/-- The files among those that changed which a node is about. -/
def matchedFiles (changedFiles : List JsString) (node : DecisionMeshNode) : List JsString :=
  changedFiles.filter fun file => node.relatedFiles.any (hintCovers file)

/-- The loop over the nodes in `activateForChangedFiles`. -/
def activatedNodes (mesh : DecisionMesh) (changedFiles : List JsString) : List ActivatedNode :=
  (mesh.nodes.filter fun node => matchedFiles changedFiles node ≠ []).map
    fun node => ⟨node.id, node.name, matchedFiles changedFiles node⟩

/-- `activateForChangedFiles`. -/
def activateForChangedFiles (mesh : DecisionMesh) (changedFiles : List JsString) :
    ChangedFilesActivation :=
  let activatedNodes := activatedNodes mesh changedFiles
  let activatedIds := activatedNodes.map (·.id)
  let activatedNodeObjs := mesh.nodes.filter fun node => node.id ∈ activatedIds
  let rules := (mesh.rules.filter fun rule => rule.appliesTo.any (· ∈ activatedIds)).insertionSort
    fun left right => severityRank left.severity ≤ severityRank right.severity
  let coveredFiles := activatedNodes.flatMap (·.matchedFiles)
  { changedFiles
    activatedNodes
    rules
    blockers := (rules.filter (·.severity = .blocker)).map (·.id)
    requiredChecks := unique (activatedNodeObjs.flatMap (·.requiredChecks))
    stopConditions := unique (activatedNodeObjs.flatMap fun node => node.stopConditions.getD [])
    mustNotAssume := unique (activatedNodeObjs.flatMap (fun node => node.mustNotAssume.getD []) ++
      rules.flatMap fun rule => rule.mustNotAssume.getD [])
    escalations := (mesh.edges.filter (·.source ∈ activatedIds)).map fun edge =>
      ⟨edge.source, edge.target, edge.relation, edge.why⟩
    ungovernedSensitive := changedFiles.filter fun file =>
      file ∉ coveredFiles && underSensitiveRoot file }

/-! ## Acknowledgements -/

/-- `AckResolution`. -/
structure AckResolution where
  ackedBlockers : List JsString
  unackedBlockers : List JsString
  unknownAcks : List JsString
  deriving DecidableEq

/-- What `resolveAckedBlockers` asks of a rule before it excuses it. -/
def excused (activated acked : List JsString) (rule : DecisionMeshRule) : Bool :=
  let via := rule.appliesTo.filter (· ∈ activated)
  via ≠ [] && via.all (· ∈ acked)

/-- `resolveAckedBlockers`. -/
def resolveAckedBlockers (activation : ChangedFilesActivation) (ackedNodeIds : List JsString) :
    AckResolution :=
  let activated := activation.activatedNodes.map (·.id)
  let acked := ackedNodeIds.filter (· ∈ activated)
  let blockers := activation.rules.filter (·.severity = .blocker)
  { ackedBlockers := (blockers.filter (excused activated acked)).map (·.id)
    unackedBlockers := (blockers.filter (!excused activated acked ·)).map (·.id)
    unknownAcks := unique (ackedNodeIds.filter (· ∉ activated)) }

/-! ## The command -/

/-- The two flags that turn a report into a gate. -/
structure GateFlags where
  failOnBlocker : Bool
  failOnUngoverned : Bool

/-- The exit code of the command. -/
def verdict (mesh : DecisionMesh) (changedFiles ackedNodeIds : List JsString) (flags : GateFlags) :
    ℕ :=
  let r := activateForChangedFiles mesh changedFiles
  let ack := resolveAckedBlockers r ackedNodeIds
  let blockerFail := flags.failOnBlocker && 0 < ack.unackedBlockers.length
  let ungovernedFail := flags.failOnUngoverned && 0 < r.ungovernedSensitive.length
  if blockerFail || ungovernedFail then 1 else 0

/-- `arg`, of the arguments behind the names of the program and of the script. These two are
absolute paths, and so no option. -/
def arg (argv : List JsString) (name : JsString) : Option JsString :=
  match argv.findIdx? (· = name) with
  | some i => argv[i + 1]?
  | none => none

/-- `[\s,]` -/
def isSeparator (c : UInt16) : Bool := isWhitespace c || c = 44

/-- `text.split(/[\s,]+/).filter(Boolean)`: a run of separators only adds empty texts. -/
def splitArgument (text : JsString) : List JsString :=
  (text.splitOnP isSeparator).filter (· ≠ [])

/-- `text.split("\n").map(trim).filter(Boolean)`. -/
def trimmedLines (text : JsString) : List JsString :=
  ((text.splitOn 10).map trim).filter (· ≠ [])

/-- What the command takes from its surroundings: the files that `git` names as changed since a
revision, and its standard input, unless it cannot be read. -/
structure CommandInput where
  gitDiff : JsString → Except JsError JsString
  standardInput : Option JsString

/-- `resolveChangedFiles`. -/
def resolveChangedFiles (argv : List JsString) (input : CommandInput) :
    Except JsError (List JsString) :=
  match arg argv (js "--files") with
  | some filesArg => .ok (splitArgument filesArg)
  | none =>
    match arg argv (js "--since") with
    | some since => (input.gitDiff since).map trimmedLines
    | none => .ok ((input.standardInput.map trimmedLines).getD [])

/-! ## What a change activates -/

section mesh

variable (mesh : DecisionMesh)

/-- A node is about a file. -/
def Covers (node : DecisionMeshNode) (file : JsString) : Prop :=
  ∃ hint ∈ node.relatedFiles, hintCovers file hint = true

/-- Some node with this id is about one of the files. -/
def Activated (files : List JsString) (id : JsString) : Prop :=
  ∃ node ∈ mesh.nodes, node.id = id ∧ ∃ file ∈ files, Covers node file

/-- No sensitive file is without a node that is about it. -/
def Governed (files : List JsString) : Prop :=
  ∀ file ∈ files, underSensitiveRoot file = true → ∃ node ∈ mesh.nodes, Covers node file

/-- A rule that applies to an activated node has all its activated nodes acknowledged. -/
def Acknowledged (files acks : List JsString) (rule : DecisionMeshRule) : Prop :=
  (∃ id ∈ rule.appliesTo, Activated mesh files id) →
    ∀ id ∈ rule.appliesTo, Activated mesh files id → id ∈ acks

variable {mesh} {files acks : List JsString}

theorem ne_nil_iff_exists_mem {α : Type} {l : List α} : l ≠ [] ↔ ∃ x, x ∈ l :=
  ⟨List.exists_mem_of_ne_nil l, fun h => List.ne_nil_of_mem h.choose_spec⟩

theorem mem_matchedFiles {node : DecisionMeshNode} {file : JsString} :
    file ∈ matchedFiles files node ↔ file ∈ files ∧ Covers node file := by
  rw [matchedFiles, List.mem_filter, List.any_eq_true]
  exact Iff.rfl

theorem mem_activatedNodes {activated : ActivatedNode} :
    activated ∈ activatedNodes mesh files ↔
      ∃ node ∈ mesh.nodes, (∃ file ∈ files, Covers node file) ∧
        ⟨node.id, node.name, matchedFiles files node⟩ = activated := by
  have hmatched (node : DecisionMeshNode) :
      matchedFiles files node ≠ [] ↔ ∃ file ∈ files, Covers node file := by
    rw [ne_nil_iff_exists_mem]
    simp only [mem_matchedFiles]
  simp only [activatedNodes, List.mem_map, List.mem_filter, decide_eq_true_eq, hmatched, and_assoc]

theorem mem_activatedIds {id : JsString} :
    id ∈ (activatedNodes mesh files).map (·.id) ↔ Activated mesh files id := by
  rw [List.mem_map]
  constructor
  · rintro ⟨activated, h, rfl⟩
    obtain ⟨node, hnode, hfile, rfl⟩ := mem_activatedNodes.1 h
    exact ⟨node, hnode, rfl, hfile⟩
  · rintro ⟨node, hnode, rfl, hfile⟩
    exact ⟨_, mem_activatedNodes.2 ⟨node, hnode, hfile, rfl⟩, rfl⟩

/-- The files that the activated nodes have matched are those that some node is about. -/
theorem mem_coveredFiles {file : JsString} :
    file ∈ (activatedNodes mesh files).flatMap (·.matchedFiles) ↔
      file ∈ files ∧ ∃ node ∈ mesh.nodes, Covers node file := by
  rw [List.mem_flatMap]
  constructor
  · rintro ⟨activated, h, hfile⟩
    obtain ⟨node, hnode, -, rfl⟩ := mem_activatedNodes.1 h
    have hmem := mem_matchedFiles.1 hfile
    exact ⟨hmem.1, node, hnode, hmem.2⟩
  · rintro ⟨hfile, node, hnode, hcovers⟩
    exact ⟨_, mem_activatedNodes.2 ⟨node, hnode, ⟨file, hfile, hcovers⟩, rfl⟩,
      mem_matchedFiles.2 ⟨hfile, hcovers⟩⟩

/-- What activates a node still activates it when more files change. -/
theorem Activated.mono {files' : List JsString} {id : JsString} (h : Activated mesh files id)
    (hfiles : files ⊆ files') : Activated mesh files' id := by
  obtain ⟨node, hnode, hid, file, hfile, hcovers⟩ := h
  exact ⟨node, hnode, hid, file, hfiles hfile, hcovers⟩

/-! ## The verdict -/

theorem ungovernedSensitive_eq_nil :
    (activateForChangedFiles mesh files).ungovernedSensitive = [] ↔ Governed mesh files := by
  unfold activateForChangedFiles Governed
  rw [List.filter_eq_nil_iff]
  refine forall₂_congr fun file hfile => ?_
  rw [Bool.and_eq_true, decide_eq_true_eq, mem_coveredFiles, not_and', not_not]
  exact ⟨fun h hroot => (h hroot).2, fun h hroot => ⟨hfile, h hroot⟩⟩

theorem mem_rules {rule : DecisionMeshRule} :
    rule ∈ (activateForChangedFiles mesh files).rules ↔
      rule ∈ mesh.rules ∧ ∃ id ∈ rule.appliesTo, Activated mesh files id := by
  unfold activateForChangedFiles
  rw [List.mem_insertionSort, List.mem_filter, List.any_eq_true]
  simp only [decide_eq_true_eq, mem_activatedIds]

/-- Only acknowledgements of activated nodes count, and a rule asks for no other. -/
theorem excused_iff {rule : DecisionMeshRule} :
    excused ((activatedNodes mesh files).map (·.id))
        (acks.filter (· ∈ (activatedNodes mesh files).map (·.id))) rule = true ↔
      (∃ id ∈ rule.appliesTo, Activated mesh files id) ∧
        ∀ id ∈ rule.appliesTo, Activated mesh files id → id ∈ acks := by
  unfold excused
  rw [Bool.and_eq_true, decide_eq_true_eq, ne_nil_iff_exists_mem, List.all_eq_true]
  simp only [List.mem_filter, decide_eq_true_eq, mem_activatedIds]
  refine and_congr Iff.rfl ⟨fun h id hid hactivated => ?_, fun h id hid => ?_⟩
  · exact (h id ⟨hid, hactivated⟩).1
  · exact ⟨h id hid.1 hid.2, hid.2⟩

theorem unackedBlockers_eq_nil :
    (resolveAckedBlockers (activateForChangedFiles mesh files) acks).unackedBlockers = [] ↔
      ∀ rule ∈ mesh.rules, rule.severity = .blocker → Acknowledged mesh files acks rule := by
  unfold resolveAckedBlockers
  rw [List.map_eq_nil_iff, List.filter_eq_nil_iff]
  have hids : (activateForChangedFiles mesh files).activatedNodes = activatedNodes mesh files := rfl
  constructor
  · intro h rule hrule hblocker happlies
    have hexcused := h rule (List.mem_filter.2
      ⟨mem_rules.2 ⟨hrule, happlies⟩, decide_eq_true hblocker⟩)
    rw [hids, Bool.not_eq_true', Bool.not_eq_false, excused_iff] at hexcused
    exact hexcused.2
  · intro h rule hmem
    obtain ⟨hrule, hblocker⟩ := List.mem_filter.1 hmem
    obtain ⟨hrule, happlies⟩ := mem_rules.1 hrule
    rw [hids, Bool.not_eq_true', Bool.not_eq_false, excused_iff]
    exact ⟨happlies, h rule hrule (of_decide_eq_true hblocker) happlies⟩

/-- What the gate with both flags asks for. -/
def Passes (mesh : DecisionMesh) (files acks : List JsString) : Prop :=
  Governed mesh files ∧
    ∀ rule ∈ mesh.rules, rule.severity = .blocker → Acknowledged mesh files acks rule

theorem verdict_eq_zero (mesh : DecisionMesh) (files acks : List JsString) :
    verdict mesh files acks ⟨true, true⟩ = 0 ↔ Passes mesh files acks := by
  unfold verdict Passes
  rw [← ungovernedSensitive_eq_nil, ← unackedBlockers_eq_nil]
  simp only [Bool.true_and, Bool.or_eq_true, decide_eq_true_eq, List.length_pos_iff]
  split
  · rename_i h
    simp only [Nat.one_ne_zero, false_iff]
    tauto
  · rename_i h
    rw [not_or, not_not, not_not] at h
    exact iff_of_true rfl ⟨h.2, h.1⟩

/-- More files and fewer acknowledgements only ask for more. -/
theorem Passes.anti {files' acks' : List JsString} (h : Passes mesh files' acks')
    (hfiles : files ⊆ files') (hacks : acks' ⊆ acks) : Passes mesh files acks := by
  refine ⟨fun file hfile => h.1 file (hfiles hfile), fun rule hrule hblocker => ?_⟩
  rintro ⟨id, hid, hactivated⟩ id' hid' hactivated'
  -- an acknowledgement that a further file has made effective names a node that it activates
  exact hacks (h.2 rule hrule hblocker ⟨id, hid, hactivated.mono hfiles⟩ id' hid'
    (hactivated'.mono hfiles))

end mesh

/-- **The gate is fail-closed and monotone.** With both flags it passes exactly when every
sensitive file is governed and every rule that blocks is acknowledged at all the nodes it is
activated through; a further file, or an acknowledgement less, never lets pass what failed. -/
theorem gate_failClosed_monotone (mesh : DecisionMesh) (files acks : List JsString) :
    (verdict mesh files acks ⟨true, true⟩ = 0 ↔
      (∀ file ∈ files, underSensitiveRoot file = true →
        ∃ node ∈ mesh.nodes, ∃ hint ∈ node.relatedFiles, hintCovers file hint = true) ∧
      ∀ rule ∈ mesh.rules, rule.severity = .blocker →
        (∃ id ∈ rule.appliesTo, Activated mesh files id) →
          ∀ id ∈ rule.appliesTo, Activated mesh files id → id ∈ acks) ∧
    ∀ files' acks', files ⊆ files' → acks' ⊆ acks →
      verdict mesh files acks ⟨true, true⟩ ≠ 0 → verdict mesh files' acks' ⟨true, true⟩ ≠ 0 := by
  refine ⟨verdict_eq_zero mesh files acks, fun files' acks' hfiles hacks hfails hpasses => ?_⟩
  exact hfails ((verdict_eq_zero ..).2 (((verdict_eq_zero ..).1 hpasses).anti hfiles hacks))

/-- A mesh with one node and one rule, which blocks. -/
def sampleGateMesh : DecisionMesh :=
  { nodes := [sampleNode], edges := []
    rules := [{ sampleRule (js "r") none with severity := .blocker }] }

theorem gate_failClosed_monotone_sample :
    verdict sampleGateMesh [js "mcp/a", js "README.md"] [] ⟨true, true⟩ ≠ 0 :=
  (gate_failClosed_monotone sampleGateMesh [js "README.md"] [js "capability_x"]).2 _ _
    (List.subset_cons_self ..) (List.nil_subset _) (by decide +kernel)

/-- The same change passes once its node is acknowledged and nothing in it is left ungoverned. -/
example : verdict sampleGateMesh [js "README.md"] [js "capability_routing"] ⟨true, true⟩ = 0 := by
  decide +kernel

end ChangedFiles
end Autopilot
