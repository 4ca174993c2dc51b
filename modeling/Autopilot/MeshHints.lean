/-
The two readers of the hints, side by side.

The status check takes the hints from the lines of the files that end in `.yaml`, and follows each
one through the directories of the repository. The gate for changed files takes them from the mesh,
which is also loaded from files that end in `.yml`, and compares a hint as a text with the path of
a file. The two agree where a hint is written so that it makes no difference: in a file that both
read, in lines that both understand, and as a path without a step that leads nowhere or back.
-/
import Autopilot.BackupArchives
import Autopilot.ChangedFiles
import Autopilot.Lib.Collected
import Autopilot.Lib.Separated

set_option autoImplicit false

namespace Autopilot
namespace RelatedFiles

open Collected (bind_ok)
open ChangedFiles (ActivatedNode Covers activateForChangedFiles activatedNodes hintCovers)
open GovernedDispatch (sorted)
open JsonText (Value)
open StateBackups (StatePath isSpecialSegment portableRelative resolveBelow segmentsOf slash)

/-! ## What the mesh was loaded from -/

/-- The nodes of a mesh, with the names of the files they were loaded from. -/
def loadedNodes (nodes : NodesDirectory) (mesh : DecisionMesh) :
    List (JsString × DecisionMeshNode) :=
  (meshFileNames nodes).zip mesh.nodes

section loaded

variable {host : MeshHost} {nodes : NodesDirectory} {mesh : DecisionMesh}
  {edges : Except JsError (List DecisionMeshEdge)} {rules : Except JsError (List DecisionMeshRule)}

theorem loadDecisionMesh_ok (h : loadDecisionMesh host nodes edges rules = .ok mesh) :
    List.Forall₂ (fun name node => parseNodeFile host name ((nodes.get? name).getD .other) =
      .ok node) (meshFileNames nodes) mesh.nodes ∧ validateMesh mesh = .ok () := by
  obtain ⟨parsed, hparsed, h⟩ := bind_ok h
  obtain ⟨parsedEdges, -, h⟩ := bind_ok h
  obtain ⟨parsedRules, -, h⟩ := bind_ok h
  obtain ⟨⟨⟩, hvalid, h⟩ := bind_ok h
  obtain rfl := Except.ok.inj h
  exact ⟨Collected.mapM_eq_ok.1 hparsed, hvalid⟩

/-- A node was read from the text of its file. -/
theorem loaded_text (h : loadDecisionMesh host nodes edges rules = .ok mesh) {name : JsString}
    {node : DecisionMeshNode} (hmem : (name, node) ∈ loadedNodes nodes mesh) :
    ∃ text, nodes.get? name = some (.file text) ∧
      parseNodeFile host name (.file text) = .ok node := by
  have hparsed := (List.forall₂_iff_zip.1 (loadDecisionMesh_ok h).1).2 hmem
  cases hentry : nodes.get? name with
  | none =>
    rw [hentry] at hparsed
    cases hparsed
  | some entry =>
    cases entry with
    | file text =>
      rw [hentry] at hparsed
      exact ⟨text, rfl, hparsed⟩
    | other =>
      rw [hentry] at hparsed
      cases hparsed

/-- A file gives one node. -/
theorem loaded_unique (h : loadDecisionMesh host nodes edges rules = .ok mesh) {name : JsString}
    {node node' : DecisionMeshNode} (hmem : (name, node) ∈ loadedNodes nodes mesh)
    (hmem' : (name, node') ∈ loadedNodes nodes mesh) : node = node' := by
  have hparsed := (List.forall₂_iff_zip.1 (loadDecisionMesh_ok h).1).2 hmem
  have hparsed' := (List.forall₂_iff_zip.1 (loadDecisionMesh_ok h).1).2 hmem'
  exact Except.ok.inj (hparsed.symm.trans hparsed')

/-- Each file of nodes gives a node. -/
theorem exists_loaded (h : loadDecisionMesh host nodes edges rules = .ok mesh) {name : JsString}
    (hname : name ∈ meshFileNames nodes) : ∃ node, (name, node) ∈ loadedNodes nodes mesh := by
  have hlength := (loadDecisionMesh_ok h).1.length_eq
  obtain ⟨i, hi, rfl⟩ := List.mem_iff_getElem.1 hname
  refine ⟨mesh.nodes[i], List.mem_iff_getElem.2 ⟨i, ?_, List.getElem_zip ..⟩⟩
  rw [loadedNodes, List.length_zip]
  omega

theorem mem_meshFileNames {name : JsString} :
    name ∈ meshFileNames nodes ↔
      name ∈ nodes.keys ∧ (yaml.isSuffixOf name = true ∨ yml.isSuffixOf name = true) := by
  unfold meshFileNames
  rw [GovernedDispatch.sorted, List.mem_insertionSort, List.mem_filter, Bool.or_eq_true]

/-- No two nodes of a mesh have one id. -/
theorem nodup_ids (h : validateMesh mesh = .ok ()) : (mesh.nodes.map (·.id)).Nodup := by
  obtain ⟨⟨⟩, hnodes, -⟩ := bind_ok h
  unfold List.Nodup
  rw [List.pairwise_iff_getElem]
  intro i j hi hj hlt heq
  rw [List.length_map] at hi hj
  have hchecked := Collected.forM_ok hnodes (mesh.nodes[j], j)
    (List.mem_zipIdx_iff_getElem?.2 (List.getElem?_eq_getElem hj))
  -- the id of the later node is among those before it
  dsimp only at hchecked
  rw [if_pos] at hchecked
  · cases hchecked
  · rw [List.getElem_map, List.getElem_map] at heq
    rw [← heq, List.mem_take_iff_getElem]
    exact ⟨i, by simp; omega, by simp⟩

end loaded

/-! ## What the status check examines -/

section examined

variable {root : StatePath} {disk : Disk} {prior : Option (Record JsString JsString)}
  {nodes : NodesDirectory}

@[simp] theorem entryOf_node (name hint : JsString) :
    (entryOf root disk prior name hint).node = name := by
  unfold entryOf
  split
  · rfl
  · split <;> rfl

@[simp] theorem entryOf_relatedFile (name hint : JsString) :
    (entryOf root disk prior name hint).relatedFile = hint := by
  unfold entryOf
  split
  · rfl
  · split <;> rfl

theorem mem_listNodeFiles {name text : JsString} :
    (name, text) ∈ listNodeFiles nodes ↔
      yaml.isSuffixOf name = true ∧ nodes.get? name = some (.file text) := by
  unfold listNodeFiles GovernedDispatch.sorted
  rw [List.mem_filterMap]
  constructor
  · rintro ⟨name', -, h⟩
    split at h
    · rename_i hyaml
      split at h
      · rename_i hfile
        obtain ⟨rfl, rfl⟩ := Prod.mk.inj (Option.some.inj h)
        exact ⟨hyaml, hfile⟩
      · cases h
    · cases h
  · rintro ⟨hyaml, hfile⟩
    refine ⟨name, (List.mem_insertionSort _).2 ((nodes.mem_keys_iff name).2 ⟨_, hfile⟩), ?_⟩
    rw [if_pos hyaml, hfile]

theorem listed_unique {name text text' : JsString} (h : (name, text) ∈ listNodeFiles nodes)
    (h' : (name, text') ∈ listNodeFiles nodes) : text = text' := by
  have heq := (mem_listNodeFiles.1 h).2.symm.trans (mem_listNodeFiles.1 h').2
  exact NodeEntry.file.inj (Option.some.inj heq)

/-- The hint stands in a file that the status check reads. -/
def Examined (nodes : NodesDirectory) (name hint : JsString) : Prop :=
  ∃ text, (name, text) ∈ listNodeFiles nodes ∧ hint ∈ parseRelatedFiles text

/-- The entries of the report are about the hints that were examined. -/
theorem exists_entry_iff {name hint : JsString} :
    (∃ entry ∈ (computeRelatedFilesStatus root disk prior nodes).entries,
      entry.node = name ∧ entry.relatedFile = hint) ↔ Examined nodes name hint := by
  unfold computeRelatedFilesStatus Examined
  simp only [List.mem_flatMap, List.mem_map]
  constructor
  · rintro ⟨entry, ⟨file, hfile, item, hitem, rfl⟩, rfl, rfl⟩
    rw [entryOf_node, entryOf_relatedFile]
    exact ⟨file.2, hfile, hitem⟩
  · rintro ⟨text, hfile, hhint⟩
    exact ⟨_, ⟨(name, text), hfile, hint, hhint, rfl⟩, entryOf_node .., entryOf_relatedFile ..⟩

end examined

/-! ## Where a hint leads -/

/-- Following the hint gives a file of the repository, at this path. -/
def Leads (root : StatePath) (disk : Disk) (hint : JsString) (path : StatePath) : Prop :=
  path ≠ [] ∧ hintPath root hint = root ++ path ∧ ∃ hash, disk (root ++ path) = some (.file hash)

/-- No step of the hint leads nowhere or back. -/
def Straight (hint : JsString) : Prop :=
  ∀ segment ∈ segmentsOf (normalizeRelatedFileHint hint), isSpecialSegment segment = false

/-- A straight hint is the path of the file it leads to. -/
theorem hintCovers_of_straight {root : StatePath} {disk : Disk} {hint : JsString}
    {path : StatePath} (hstraight : Straight hint) (hplaceholder : isPlaceholder hint = false)
    (h : Leads root disk hint path) : hintCovers (portableRelative path) hint = true := by
  obtain ⟨hne, hpath, -⟩ := h
  have hnames : ∀ name ∈ segmentsOf (normalizeRelatedFileHint hint), StateBackups.IsName name :=
    fun name hname => ⟨Separated.not_mem_of_mem_splitOn hname, hstraight name hname⟩
  have hsame : path = segmentsOf (normalizeRelatedFileHint hint) := by
    unfold hintPath at hpath
    rw [StateBackups.resolveBelow_names hnames] at hpath
    exact (List.append_cancel_left hpath).symm
  have hportable : portableRelative path = normalizeRelatedFileHint hint := by
    rw [hsame]
    exact List.intercalate_splitOn slash
  have hfilled : normalizeRelatedFileHint hint ≠ [] := by
    intro hnil
    have hspecial := hstraight [] (by rw [hnil]; decide)
    cases hspecial
  unfold hintCovers
  simp [hplaceholder, hfilled, hportable]

/-! ## The two bind points -/

section agreement

variable (root : StatePath) (disk : Disk) (nodes : NodesDirectory) (mesh : DecisionMesh)

/-- The status check examines the hints that the gate uses, and a change of a file to which one of
them leads activates its node. -/
structure BindPointsAgree (prior : Option (Record JsString JsString)) : Prop where
  pairs : ∀ name hint,
    (∃ entry ∈ (computeRelatedFilesStatus root disk prior nodes).entries,
      entry.node = name ∧ entry.relatedFile = hint) ↔
      ∃ node, (name, node) ∈ loadedNodes nodes mesh ∧ hint ∈ node.relatedFiles
  activates : ∀ entry ∈ (computeRelatedFilesStatus root disk prior nodes).entries,
    isPlaceholder entry.relatedFile = false → ∀ path, Leads root disk entry.relatedFile path →
      ∀ node, (entry.node, node) ∈ loadedNodes nodes mesh →
        ∃ activated ∈ (activateForChangedFiles mesh [portableRelative path]).activatedNodes,
          activated.id = node.id

/-- A file that only the gate reads has no hints. Of a file that both read, the lines hold the hints
that its list has. A hint that is not straight leads to a file which a hint of its node covers. -/
structure PlainlyWritten : Prop where
  yml : ∀ name node, (name, node) ∈ loadedNodes nodes mesh → yaml.isSuffixOf name = false →
    node.relatedFiles = []
  lines : ∀ name node text, (name, node) ∈ loadedNodes nodes mesh →
    (name, text) ∈ listNodeFiles nodes →
      ∀ hint, hint ∈ parseRelatedFiles text ↔ hint ∈ node.relatedFiles
  crooked : ∀ name node, (name, node) ∈ loadedNodes nodes mesh → ∀ hint ∈ node.relatedFiles,
    isPlaceholder hint = false → ¬ Straight hint → ∀ path, Leads root disk hint path →
      Covers node (portableRelative path)

end agreement

section theorems

variable {host : MeshHost} {nodes : NodesDirectory} {mesh : DecisionMesh}
  {edges : Except JsError (List DecisionMeshEdge)} {rules : Except JsError (List DecisionMeshRule)}

/-- A node of the mesh is activated by a file just when one of its hints covers it. -/
theorem activated_iff_covers (h : loadDecisionMesh host nodes edges rules = .ok mesh)
    {name file : JsString} {node : DecisionMeshNode}
    (hmem : (name, node) ∈ loadedNodes nodes mesh) :
    (∃ activated ∈ (activateForChangedFiles mesh [file]).activatedNodes,
      activated.id = node.id) ↔ Covers node file := by
  have hnode : node ∈ mesh.nodes := (List.of_mem_zip hmem).2
  constructor
  · rintro ⟨activated, hactivated, hid⟩
    obtain ⟨node', hnode', ⟨file', hfile', hcovers⟩, rfl⟩ :=
      ChangedFiles.mem_activatedNodes.1 hactivated
    obtain rfl := List.mem_singleton.1 hfile'
    obtain rfl : node' = node :=
      List.inj_on_of_nodup_map (nodup_ids (loadDecisionMesh_ok h).2) hnode' hnode hid
    exact hcovers
  · intro hcovers
    exact ⟨_, ChangedFiles.mem_activatedNodes.2
      ⟨node, hnode, ⟨file, List.mem_singleton_self file, hcovers⟩, rfl⟩, rfl⟩

/-- The text of a file with one node. -/
def sampleNodeText : JsString :=
  js "id: a\ntype: t\nname: n\nquestion: q\nwhy: w\nsignals: []\nrelated_agents: []\n" ++
    js "related_files:\n  - mcp\nrequired_checks: []\n"

def sampleMeshHost : MeshHost where
  parse text :=
    if text = sampleNodeText then
      .ok (.object [(js "id", .string (js "a")), (js "type", .string (js "t")),
        (js "name", .string (js "n")), (js "question", .string (js "q")),
        (js "why", .string (js "w")), (js "signals", .array []), (js "related_agents", .array []),
        (js "related_files", .array [.string (js "mcp")]), (js "required_checks", .array [])])
    else .error (.error (js "YAMLParseError") [])
  notAFile := .error (js "Error") (js "EISDIR")
  nodesPath := js "mesh/nodes"

def sampleLoaded : DecisionMesh where
  nodes := [⟨js "a", js "t", js "n", js "q", js "w", [], [], [js "mcp"], [], none, none, none⟩]
  edges := []
  rules := []

def sampleDirectory (name : JsString) : NodesDirectory :=
  Record.empty.set name (.file sampleNodeText)

end theorems

end RelatedFiles
end Autopilot
