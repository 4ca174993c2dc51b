/-
The decision mesh and the packets cut out of it.

A mesh is a graph of questions with rules attached to them. A task is matched
against the signals and the names of the nodes, the best nodes are taken, up to a
limit, and what room is left goes to their neighbours. The packet of an agent is
what these nodes and their rules say. The limit follows from a token budget, so a
tight packet could lose a rule that blocks; the nodes of the widest packet that
carry a blocker are put back.

This module is `query.ts`, the part that builds the packet of an agent. Lower case
and the order of two texts are what the locale of the runtime makes of them. A
score counts in halves of a point, as a rational number, and so does a weight.
-/
import Autopilot.RoutingModes
import Mathlib.Data.List.Sort
import Mathlib.Data.Rat.Defs

set_option autoImplicit false

namespace Autopilot

/-! ## Meshes -/

/-- `DecisionMeshNode`, without `failure_modes`, which no packet reads. -/
structure DecisionMeshNode where
  id : JsString
  type : JsString
  name : JsString
  question : JsString
  why : JsString
  signals : List JsString
  relatedAgents : List JsString
  relatedFiles : List JsString
  requiredChecks : List JsString
  stopConditions : Option (List JsString) := none
  mustNotAssume : Option (List JsString) := none
  objective : Option (List JsString) := none
  deriving DecidableEq

/-- `DecisionMeshEdge`. -/
structure DecisionMeshEdge where
  source : JsString
  target : JsString
  relation : JsString
  weight : ℚ
  why : JsString
  deriving DecidableEq

/-- `severity` of a rule. -/
inductive RuleSeverity where
  | blocker | major | minor | note
  deriving DecidableEq, Repr

/-- `DecisionMeshRule`. -/
structure DecisionMeshRule where
  id : JsString
  title : JsString
  appliesTo : List JsString
  instruction : JsString
  severity : RuleSeverity
  mustNotAssume : Option (List JsString) := none
  deriving DecidableEq

/-- `DecisionMesh`. -/
structure DecisionMesh where
  nodes : List DecisionMeshNode
  edges : List DecisionMeshEdge
  rules : List DecisionMeshRule
  deriving DecidableEq

namespace DecisionMesh

/-- What the locale of the runtime decides. The order of texts is what a stable
sort needs: any two texts are in order one way or the other. -/
structure TextLocale where
  toLowerCase : JsString → JsString
  /-- `left.localeCompare(right) <= 0`. -/
  notAfter : JsString → JsString → Bool
  total : ∀ a b, notAfter a b = true ∨ notAfter b a = true
  trans : ∀ a b c, notAfter a b = true → notAfter b c = true → notAfter a c = true

def defaultMaxNodes : ℕ := 12
def governanceFloorNodeIds : List JsString :=
  ["capability_routing", "context_economy_policy"].map js
def agentPacketMaxNodes : ℕ := 7

/-- `AGENT_ORDER`. -/
def agentOrder : List JsString :=
  ["architect", "web_architect", "backend", "backend_database", "frontend", "seo_performance",
    "data_processing", "automation", "design_ux", "security", "business", "qa", "qa_recovery",
    "content"].map js

/-! ## Scores -/

section locale

variable (locale : TextLocale)

/-- `normalize`. -/
def normalize (value : JsString) : JsString :=
  (locale.toLowerCase value).map fun c => if c = 95 ∨ c = 45 then 32 else c

/-- A run of white space, as its last unit. -/
def collapseSpaces : JsString → JsString
  | c :: d :: rest =>
    if isWhitespace c && isWhitespace d then collapseSpaces (d :: rest)
    else c :: collapseSpaces (d :: rest)
  | s => s

/-- `value.split(/\s+/)`. -/
def splitSpaces (value : JsString) : List JsString :=
  (collapseSpaces value).splitOnP isWhitespace

/-- `containsTerm`. -/
def containsTerm (normalizedTask term : JsString) : Bool :=
  let normalizedTerm := normalize locale term
  if 32 ∈ normalizedTerm then decide (normalizedTerm <:+: normalizedTask)
  else decide (normalizedTerm ∈ splitSpaces normalizedTask)

/-- `scoreNode`. An empty agent is no agent. -/
def scoreNode (node : DecisionMeshNode) (task : JsString) (agent : Option JsString) : ℚ :=
  let normalizedTask := normalize locale task
  let bySignals : ℚ := node.signals.foldl
    (fun score signal => if containsTerm locale normalizedTask signal then score + 4 else score) 0
  let terms := node.id.splitOn 95 ++ splitSpaces node.name ++ [node.type]
  let score := terms.foldl
    (fun score term =>
      if term.length > 2 ∧ containsTerm locale normalizedTask term then score + 1 else score)
    bySignals
  if score > 0 ∧ agent.any (fun agent => agent ≠ [] && node.relatedAgents.contains agent) then
    score + 1 / 2
  else score

/-- `ScoredNode`. -/
structure ScoredNode where
  node : DecisionMeshNode
  score : ℚ

/-- `compareScoredNodes(left, right) <= 0`. -/
def compareScoredNodes (left right : ScoredNode) : Bool :=
  right.score < left.score ||
    right.score = left.score && locale.notAfter left.node.id right.node.id

/-- The nodes with a score, the best one first. -/
def scoredNodes (mesh : DecisionMesh) (task : JsString) (agent : Option JsString) :
    List ScoredNode :=
  ((mesh.nodes.map fun node => ⟨node, scoreNode locale node task agent⟩).filter
    (fun entry : ScoredNode => entry.score > 0)).insertionSort
      fun left right => compareScoredNodes locale left right = true

/-! ## Subgraphs -/

/-- `[...new Set(values)]`: the first occurrence of each. -/
def unique (values : List JsString) : List JsString := values.reverse.dedup.reverse

/-- `orderAgents`. -/
def orderAgents (agents : List JsString) : List JsString :=
  let position (agent : JsString) : ℕ := (agentOrder.idxOf? agent).getD maxSafeInteger
  (unique agents).insertionSort fun left right =>
    position left < position right ∨
      position left = position right ∧ locale.notAfter left right = true

/-- `addId`. -/
def addId (maxNodes : ℕ) (selectedIds : List JsString) (nodeId : JsString) : List JsString :=
  if selectedIds.length < maxNodes ∧ nodeId ∉ selectedIds then selectedIds ++ [nodeId]
  else selectedIds

/-- A loop of `addId` that is left at the limit. -/
def addIds (maxNodes : ℕ) : List JsString → List JsString → List JsString
  | selectedIds, [] => selectedIds
  | selectedIds, nodeId :: rest =>
    let selectedIds := addId maxNodes selectedIds nodeId
    if selectedIds.length ≥ maxNodes then selectedIds else addIds maxNodes selectedIds rest

/-- `addConnectedNodes`: along the edges that leave the node, then along those that
reach it. At the limit nothing more is added, so the second loop may start there. -/
def addConnectedNodes (mesh : DecisionMesh) (maxNodes : ℕ) (selectedIds : List JsString)
    (sourceNodeId : JsString) : List JsString :=
  let byWeight (other : DecisionMeshEdge → JsString) (left right : DecisionMeshEdge) : Bool :=
    right.weight < left.weight ||
      right.weight = left.weight && locale.notAfter (other left) (other right)
  let outgoingEdges := (mesh.edges.filter (·.source = sourceNodeId)).insertionSort
    fun left right => byWeight (·.target) left right = true
  let incomingEdges := (mesh.edges.filter (·.target = sourceNodeId)).insertionSort
    fun left right => byWeight (·.source) left right = true
  addIds maxNodes (addIds maxNodes selectedIds (outgoingEdges.map (·.target)))
    (incomingEdges.map (·.source))

/-- A loop of `addConnectedNodes` that is left at the limit. -/
def addAllConnected (mesh : DecisionMesh) (maxNodes : ℕ) :
    List JsString → List JsString → List JsString
  | selectedIds, [] => selectedIds
  | selectedIds, sourceNodeId :: rest =>
    let selectedIds := addConnectedNodes locale mesh maxNodes selectedIds sourceNodeId
    if selectedIds.length ≥ maxNodes then selectedIds
    else addAllConnected mesh maxNodes selectedIds rest

/-- `requireNode`. -/
def requireNode (mesh : DecisionMesh) (nodeId : JsString) : Except JsError DecisionMeshNode :=
  match mesh.nodes.find? (·.id = nodeId) with
  | some node => .ok node
  | none => .error (.error (js "Error") (js "Decision Mesh node not found: " ++ nodeId))

/-- `RelevantSubgraphInput`. -/
structure RelevantSubgraphInput where
  task : JsString
  agent : Option JsString := none
  maxNodes : Option ℕ := none

/-- `FullRelevantSubgraph`. -/
structure FullRelevantSubgraph where
  task : JsString
  agent : Option JsString
  relevantNodes : List DecisionMeshNode
  relevantEdges : List DecisionMeshEdge
  requiredAgents : List JsString
  /-- The entries of the map. Of two entries with one key the later one counts. -/
  nodeScores : List (JsString × ℚ)

/-- `getRelevantSubgraphFull`. -/
def getRelevantSubgraphFull (mesh : DecisionMesh) (input : RelevantSubgraphInput) :
    Except JsError FullRelevantSubgraph := do
  let maxNodes := max 1 (min (input.maxNodes.getD defaultMaxNodes) mesh.nodes.length)
  let scored := scoredNodes locale mesh input.task input.agent
  let scoredIds := scored.map (·.node.id)
  let bestIds := addIds maxNodes [] scoredIds
  let selectedIds :=
    if bestIds.length < maxNodes then addAllConnected locale mesh maxNodes bestIds scoredIds
    else bestIds
  let relevantNodes ← selectedIds.mapM (requireNode mesh)
  return {
    task := input.task
    agent := input.agent.filter (· ≠ [])
    relevantNodes
    relevantEdges := mesh.edges.filter fun edge =>
      selectedIds.contains edge.source && selectedIds.contains edge.target
    requiredAgents := orderAgents locale (unique (relevantNodes.flatMap (·.relatedAgents)))
    nodeScores := scored.map fun entry => (entry.node.id, entry.score) }

/-- `DecisionMeshNodeReference`. -/
structure DecisionMeshNodeReference where
  id : JsString
  name : JsString
  score : ℚ

/-- `toNodeReference`. -/
def toNodeReference (nodeScores : List (JsString × ℚ)) (node : DecisionMeshNode) :
    DecisionMeshNodeReference where
  id := node.id
  name := node.name
  score := (nodeScores.reverse.lookup node.id).getD 0

/-- `RelevantSubgraph`. -/
structure RelevantSubgraph where
  task : JsString
  agent : Option JsString
  relevantNodes : List DecisionMeshNodeReference
  relevantEdges : List DecisionMeshEdge
  requiredAgents : List JsString

/-- `getRelevantSubgraph`. -/
def getRelevantSubgraph (mesh : DecisionMesh) (input : RelevantSubgraphInput) :
    Except JsError RelevantSubgraph := do
  let subgraph ← getRelevantSubgraphFull locale mesh input
  return {
    task := subgraph.task
    agent := subgraph.agent
    relevantNodes := subgraph.relevantNodes.map (toNodeReference subgraph.nodeScores)
    relevantEdges := subgraph.relevantEdges
    requiredAgents := subgraph.requiredAgents }

/-! ## Packets -/

/-- `withRelevantBlockerNodes`. -/
def withRelevantBlockerNodes (mesh : DecisionMesh) (baseNodes : List DecisionMeshNode)
    (task : JsString) (agent : Option JsString) (ceilingMaxNodes : ℕ) :
    Except JsError (List DecisionMeshNode) := do
  let haveIds := baseNodes.map (·.id)
  let blockerNodeIds := (mesh.rules.filter (·.severity = .blocker)).flatMap (·.appliesTo)
  let ceiling ← getRelevantSubgraph locale mesh
    { task, agent := agent.filter (· ≠ []), maxNodes := some ceilingMaxNodes }
  let ceilingIds := ceiling.relevantNodes.map (·.id)
  let forced := mesh.nodes.filter fun node =>
    !haveIds.contains node.id && blockerNodeIds.contains node.id && ceilingIds.contains node.id
  return baseNodes ++ forced

/-- `applyGovernanceFloor`: the nodes, and whether the task matched nothing. -/
def applyGovernanceFloor (mesh : DecisionMesh) (nodes : List DecisionMeshNode) :
    List DecisionMeshNode × Bool :=
  if nodes ≠ [] then (nodes, false)
  else (governanceFloorNodeIds.filterMap fun id => mesh.nodes.find? (·.id = id), true)

/-- `AgentPacketInput`. -/
structure AgentPacketInput where
  task : JsString
  agent : JsString
  tokenBudget : Option ℕ := none
  mode : Option RoutingModeId := none

/-- `AgentPacket`. -/
structure AgentPacket where
  agent : JsString
  task : JsString
  routingMode : Option RoutingModeId
  objective : List JsString
  rules : List JsString
  relevantNodes : List JsString
  requiredAgents : List JsString
  mustRead : List JsString
  mustNotAssume : List JsString
  requiredChecks : List JsString
  stopConditions : List JsString
  noGovernanceMatched : Bool
  deriving DecidableEq

/-- The number of nodes that a budget allows. -/
def packetMaxNodes (tokenBudget : Option ℕ) : ℕ :=
  max 4 (min agentPacketMaxNodes (tokenBudget.getD 7000 / 1000))

/-- `buildAgentPacket`. -/
def buildAgentPacket (mesh : DecisionMesh) (input : AgentPacketInput) :
    Except JsError AgentPacket := do
  let modeContract := input.mode.map getRoutingMode
  let subgraph ← getRelevantSubgraphFull locale mesh
    { task := input.task, agent := some input.agent,
      maxNodes := some (packetMaxNodes input.tokenBudget) }
  let scored ← withRelevantBlockerNodes locale mesh subgraph.relevantNodes input.task
    (some input.agent) agentPacketMaxNodes
  let (nodes, noGovernanceMatched) := applyGovernanceFloor mesh scored
  let selectedIds := nodes.map (·.id)
  let rules := mesh.rules.filter fun rule => rule.appliesTo.any selectedIds.contains
  return {
    agent := input.agent
    task := input.task
    routingMode := input.mode
    objective := unique (nodes.flatMap fun node =>
      node.objective.getD [js "Answer: " ++ node.question])
    rules := rules.map (·.id)
    relevantNodes := nodes.map (·.id)
    requiredAgents := orderAgents locale (unique (nodes.flatMap (·.relatedAgents)))
    mustRead := unique (nodes.flatMap (·.relatedFiles))
    mustNotAssume := unique (nodes.flatMap (·.mustNotAssume.getD []) ++
      rules.flatMap (·.mustNotAssume.getD []))
    requiredChecks := unique (nodes.flatMap (·.requiredChecks) ++
      (modeContract.map (·.requiredChecks)).getD [])
    stopConditions := unique (nodes.flatMap (·.stopConditions.getD []) ++
      (modeContract.map (·.stopConditions)).getD [])
    noGovernanceMatched }

/-! ## Budgets -/

/-- From seven thousand tokens on, a packet is as wide as it gets. -/
theorem packetMaxNodes_of_ge {budget : ℕ} (h : 7000 ≤ budget) :
    packetMaxNodes (some budget) = agentPacketMaxNodes := by
  have hseven : 7 ≤ budget / 1000 := by omega
  unfold packetMaxNodes agentPacketMaxNodes
  rw [Option.getD_some]
  omega

/-- The packet depends on its budget through the number of nodes only. -/
theorem buildAgentPacket_congr (mesh : DecisionMesh) {input input' : AgentPacketInput}
    (htask : input.task = input'.task) (hagent : input.agent = input'.agent)
    (hmode : input.mode = input'.mode)
    (hnodes : packetMaxNodes input.tokenBudget = packetMaxNodes input'.tokenBudget) :
    buildAgentPacket locale mesh input = buildAgentPacket locale mesh input' := by
  unfold buildAgentPacket
  rw [htask, hagent, hmode, hnodes]

/-- Two budgets of at least seven thousand tokens give one packet. -/
theorem buildAgentPacket_budget (mesh : DecisionMesh) (task agent : JsString)
    (mode : Option RoutingModeId) {budget budget' : ℕ} (h : 7000 ≤ budget)
    (h' : 7000 ≤ budget') :
    buildAgentPacket locale mesh { task, agent, tokenBudget := some budget, mode } =
      buildAgentPacket locale mesh { task, agent, tokenBudget := some budget', mode } := by
  apply buildAgentPacket_congr
  · rfl
  · rfl
  · rfl
  · show packetMaxNodes (some budget) = packetMaxNodes (some budget')
    rw [packetMaxNodes_of_ge h, packetMaxNodes_of_ge h']

end locale

end DecisionMesh

end Autopilot
