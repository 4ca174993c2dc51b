/-
The hints of the mesh nodes at the files of a repository, and the two places that read them.

A node names files and directories it is about, its `related_files`. The status check reads the
names line by line from the node files and looks each one up in the repository
(`related-files-status.ts`). The gate for changed files takes them from the mesh, which a YAML
parser has read (`load.ts`), and compares them as texts with the paths of the files that changed
(`changed-files-capabilities.ts`). Both clean a hint the same way (`related-file-hints.ts`).

What the YAML parser makes of a text is part of the host, and so are the documents of the edges
and the rules, which are given as they were parsed. A directory of nodes holds files with their
texts, and other entries.
-/
import Autopilot.MeshPackets
import Autopilot.StateBackups
import Autopilot.TelemetryRedaction
import Autopilot.LedgerRecords
import Autopilot.PatternComponents
import Mathlib.Data.List.DropRight

set_option autoImplicit false

namespace Autopilot
namespace RelatedFiles

open DecisionMesh (unique)
open GovernedDispatch (sorted)
open JsonText (Value member)
open OpenRouterLedgers (linesOf)
open PatternComponents (isLineUnit)
open StateBackups (StatePath portableRelative resolveBelow segmentsOf slash)

/-! ## Hints -/

/-- `PLACEHOLDER_RE`. -/
def isPlaceholder (hint : JsString) : Bool := hint.any fun c => c = 60 || c = 62 || c = 42

/-- A run of slashes, as one. -/
def collapseSlashes : JsString → JsString
  | c :: d :: rest =>
    if c = slash && d = slash then collapseSlashes (d :: rest) else c :: collapseSlashes (d :: rest)
  | s => s

/-- The text without the `./` in front. -/
def dropDotSlashes : JsString → JsString
  | 46 :: 47 :: rest => dropDotSlashes rest
  | s => s

/-- `normalizeRelatedFileHint`. -/
def normalizeRelatedFileHint (hint : JsString) : JsString :=
  (dropDotSlashes (collapseSlashes (hint.map fun c => if c = 92 then slash else c))).rdropWhile
    fun c => c = slash || c = 46

/-! ## Node files -/

/-- What stands in the directory of the nodes. -/
inductive NodeEntry where
  | file (text : JsString)
  | other

abbrev NodesDirectory := Record JsString NodeEntry

/-! ### The lines of a node file -/

/-- `/^related_files:\s*$/`. -/
def opensBlock (line : JsString) : Bool :=
  (js "related_files:").isPrefixOf line &&
    (line.drop (js "related_files:").length).all isWhitespace

/-- `(.+?)\s*$`, of what is left of a line. -/
def itemText (rest : JsString) : Option JsString :=
  ((List.range rest.length).find? fun n =>
    (rest.take (n + 1)).all isLineUnit && (rest.drop (n + 1)).all isWhitespace).map
      fun n => rest.take (n + 1)

/-- `/^\s+-\s+(.+?)\s*$/`, with the item. -/
def itemOf (line : JsString) : Option JsString :=
  ((Patterns.Pattern.inOrder [Redaction.spaces1, Redaction.exactly 45,
    Redaction.spaces1]).ends ⟨[], line⟩).findSome? fun place => itemText place.after

/-- The loop of `parseRelatedFiles`, within the block or not. -/
def itemsOf : Bool → List JsString → List JsString
  | _, [] => []
  | inBlock, line :: lines =>
    if opensBlock line then itemsOf true lines
    else if !inBlock then itemsOf false lines
    else
      match itemOf line with
      | some item => item :: itemsOf true lines
      | none => itemsOf (line.head?.all isWhitespace) lines

/-- `parseRelatedFiles`. -/
def parseRelatedFiles (yamlText : JsString) : List JsString := itemsOf false (linesOf yamlText)

/-! ### The status of the hints -/

inductive RelatedFileStatus where
  | verified | stale | missing | placeholder | unsnapshotted
  deriving DecidableEq

/-- What stands at a path, with the hash of its content. -/
inductive OnDisk where
  | file (blobHash : JsString)
  | directory (treeHash : JsString)
  deriving DecidableEq

def OnDisk.hash : OnDisk → JsString
  | .file hash => hash
  | .directory hash => hash

/-- The files and directories of the host, by their paths from the root of all. -/
abbrev Disk := StatePath → Option OnDisk

structure RelatedFileEntry where
  node : JsString
  relatedFile : JsString
  status : RelatedFileStatus
  blobHash : Option JsString
  deriving DecidableEq

structure RelatedFilesSummary where
  total : ℕ
  verified : ℕ
  stale : ℕ
  missing : ℕ
  placeholder : ℕ
  unsnapshotted : ℕ

structure RelatedFilesReport where
  entries : List RelatedFileEntry
  summary : RelatedFilesSummary
  snapshot : Record JsString JsString

def yaml : JsString := js ".yaml"
def yml : JsString := js ".yml"

/-- `listNodeFiles`, with the texts. -/
def listNodeFiles (nodes : NodesDirectory) : List (JsString × JsString) :=
  (sorted nodes.keys).filterMap fun name =>
    if yaml.isSuffixOf name then
      match nodes.get? name with
      | some (.file text) => some (name, text)
      | _ => none
    else none

section status

variable (root : StatePath) (disk : Disk) (prior : Option (Record JsString JsString))

/-- `join(root, normalizeRelatedFileHint(hint))`. -/
def hintPath (hint : JsString) : StatePath :=
  resolveBelow root (segmentsOf (normalizeRelatedFileHint hint))

/-- The entry of a hint. -/
def entryOf (node relatedFile : JsString) : RelatedFileEntry :=
  if isPlaceholder relatedFile then ⟨node, relatedFile, .placeholder, none⟩
  else
    match disk (hintPath root relatedFile) with
    | none => ⟨node, relatedFile, .missing, none⟩
    | some there =>
      let status : RelatedFileStatus :=
        match prior with
        | none => .verified
        | some hashes =>
          match hashes.get? relatedFile with
          | none => .unsnapshotted
          | some hash => if hash = there.hash then .verified else .stale
      ⟨node, relatedFile, status, some there.hash⟩

/-- `computeRelatedFilesStatus`. -/
def computeRelatedFilesStatus (nodes : NodesDirectory) : RelatedFilesReport :=
  let entries := (listNodeFiles nodes).flatMap fun file =>
    (parseRelatedFiles file.2).map (entryOf root disk prior file.1)
  let count (status : RelatedFileStatus) : ℕ := (entries.filter (·.status = status)).length
  { entries
    summary := ⟨entries.length, count .verified, count .stale, count .missing,
      count .placeholder, count .unsnapshotted⟩
    snapshot := entries.foldl (fun snapshot entry =>
      match entry.blobHash with
      | some hash => snapshot.set entry.relatedFile hash
      | none => snapshot) .empty }

end status

/-! ### Loading the mesh -/

/-- What the YAML parser makes of a text, what the file system says of a directory that is read
as a file, and where the nodes are. -/
structure MeshHost where
  parse : JsString → Except JsError Value
  notAFile : JsError
  nodesPath : JsString

section load

/-- `asRecord`. -/
def asRecord (label : JsString) : Value → Except JsError (List (JsString × Value))
  | .object members => .ok members
  | _ => .error (.error (js "Error") (js "Expected " ++ label ++ js " to be an object"))

/-- `asString`. -/
def asString (label : JsString) (value : Option Value) : Except JsError JsString :=
  match value with
  | some (.string text) =>
    if trim text = [] then
      .error (.error (js "Error") (js "Expected " ++ label ++ js " to be a non-empty string"))
    else .ok text
  | _ => .error (.error (js "Error") (js "Expected " ++ label ++ js " to be a non-empty string"))

/-- The text of an element of `asStringArray`. -/
def filledText? : Value → Option JsString
  | .string text => if trim text = [] then none else some text
  | _ => none

/-- `asStringArray`. -/
def asStringArray (label : JsString) (value : Option Value) : Except JsError (List JsString) :=
  let refused : JsError := .error (js "Error")
    (js "Expected " ++ label ++ js " to be an array of non-empty strings")
  match value with
  | some (.array elements) =>
    match elements.mapM filledText? with
    | some texts => .ok texts
    | none => .error refused
  | _ => .error refused

/-- `optionalStringArray`, without a list that is empty. -/
def optionalStringArray (label : JsString) (value : Option Value) :
    Except JsError (Option (List JsString)) :=
  match value with
  | none => .ok none
  | some value => (asStringArray label (some value)).map fun texts =>
    if texts = [] then none else some texts

variable (host : MeshHost)

/-- `parseNodeFile`, of a file in the directory of the nodes. -/
def parseNodeFile (name : JsString) (entry : NodeEntry) : Except JsError DecisionMeshNode := do
  let path := host.nodesPath ++ js "/" ++ name
  let field (label : String) : JsString := path ++ js "." ++ js label
  let text ← match entry with
    | .file text => .ok text
    | .other => .error host.notAFile
  let members ← asRecord path (← host.parse text)
  let strings (label : String) := asStringArray (field label) (member members (js label))
  let optional (label : String) := optionalStringArray (field label) (member members (js label))
  let string (label : String) := asString (field label) (member members (js label))
  let stopConditions ← optional "stop_conditions"
  let mustNotAssume ← optional "must_not_assume"
  let objective ← optional "objective"
  let _ ← optional "failure_modes"
  return {
    id := ← string "id"
    type := ← string "type"
    name := ← string "name"
    question := ← string "question"
    why := ← string "why"
    signals := ← strings "signals"
    relatedAgents := ← strings "related_agents"
    relatedFiles := ← strings "related_files"
    requiredChecks := ← strings "required_checks"
    stopConditions, mustNotAssume, objective }

/-- The names of the node files that the mesh is loaded from. -/
def meshFileNames (nodes : NodesDirectory) : List JsString :=
  sorted (nodes.keys.filter fun name => yaml.isSuffixOf name || yml.isSuffixOf name)

/-- `validateMesh`. -/
def validateMesh (mesh : DecisionMesh) : Except JsError Unit := do
  let ids := mesh.nodes.map (·.id)
  let failed (message : JsString) : Except JsError Unit := .error (.error (js "Error") message)
  mesh.nodes.zipIdx.forM fun (node, i) => do
    if node.id ∈ ids.take i then failed (js "Duplicate Decision Mesh node id: " ++ node.id)
    else if trim node.why = [] then
      failed (js "Decision Mesh node " ++ node.id ++ js " is missing why")
    else pure ()
  mesh.edges.forM fun edge => do
    if edge.source ∉ ids then
      failed (js "Decision Mesh edge references missing from node: " ++ edge.source)
    else if edge.target ∉ ids then
      failed (js "Decision Mesh edge references missing to node: " ++ edge.target)
    else if edge.weight < 0 ∨ edge.weight > 1 then
      failed (js "Decision Mesh edge weight must be 0..1: " ++ edge.source ++ js " -> " ++
        edge.target)
    else pure ()
  mesh.rules.forM fun rule => rule.appliesTo.forM fun nodeId =>
    if nodeId ∉ ids then
      failed (js "Decision Mesh rule " ++ rule.id ++ js " references missing node: " ++ nodeId)
    else pure ()

/-- `loadDecisionMesh`, with the edges and the rules as they were parsed. -/
def loadDecisionMesh (nodes : NodesDirectory) (edges : Except JsError (List DecisionMeshEdge))
    (rules : Except JsError (List DecisionMeshRule)) : Except JsError DecisionMesh := do
  let nodes ← (meshFileNames nodes).mapM fun name =>
    parseNodeFile host name ((nodes.get? name).getD .other)
  let mesh : DecisionMesh := ⟨nodes, ← edges, ← rules⟩
  validateMesh mesh
  return mesh

end load

end RelatedFiles
end Autopilot
