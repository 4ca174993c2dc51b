/-
Rules that no limit trims away.

A packet shows the rules that apply to its nodes. Which nodes it takes depends on how
many it may take, so a rule comes and goes with the limit. A rule that blocks must not:
the nodes that carry one are looked up in the widest packet the builder makes and are
put back. For an agent that widest packet is always the same one. For a project it is
as wide as the caller asks, but never narrower than twelve nodes, so beyond twelve the
blockers still depend on the limit.

This module is `buildProjectMeshPacket` of `query.ts`, and the blockers of both packets
in terms of the order in which nodes enter a subgraph that has no limit.
-/
import Autopilot.GovernedDispatch
import Autopilot.Lib.Intake

set_option autoImplicit false

namespace Autopilot

/-- One of the nodes is one that the rule applies to. -/
def DecisionMeshRule.Touches (rule : DecisionMeshRule) (ids : List JsString) : Prop :=
  ∃ id ∈ rule.appliesTo, id ∈ ids

namespace DecisionMesh

open GovernedDispatch (sampleLocale sampleNode sampleRule)

/-! ## Project packets -/

/-- `ProjectMeshPacketInput`. -/
structure ProjectMeshPacketInput where
  projectSlug : JsString
  task : JsString
  agent : Option JsString := none
  maxNodes : Option ℕ := none

/-- `ProjectMeshPacketRule`. -/
structure ProjectMeshPacketRule where
  id : JsString
  title : JsString
  severity : RuleSeverity
  instruction : JsString
  appliesTo : List JsString
  mustNotAssume : List JsString
  deriving DecidableEq

/-- `toProjectMeshPacketRule`. -/
def toProjectMeshPacketRule (rule : DecisionMeshRule) : ProjectMeshPacketRule where
  id := rule.id
  title := rule.title
  severity := rule.severity
  instruction := rule.instruction
  appliesTo := rule.appliesTo
  mustNotAssume := rule.mustNotAssume.getD []

/-- `ProjectMeshPacket`. -/
structure ProjectMeshPacket where
  projectSlug : JsString
  task : JsString
  agent : Option JsString
  relevantNodes : List JsString
  rules : List ProjectMeshPacketRule
  requiredAgents : List JsString
  mustRead : List JsString
  mustNotAssume : List JsString
  requiredChecks : List JsString
  stopConditions : List JsString
  why : List JsString
  noGovernanceMatched : Bool
  deriving DecidableEq

section locale

variable (locale : TextLocale)

/-- `buildProjectMeshPacket`. -/
def buildProjectMeshPacket (mesh : DecisionMesh) (input : ProjectMeshPacketInput) :
    Except JsError ProjectMeshPacket := do
  let agent := input.agent.filter (· ≠ [])
  let subgraph ← getRelevantSubgraphFull locale mesh
    { task := input.task, agent, maxNodes := some (input.maxNodes.getD defaultMaxNodes) }
  let scored ← withRelevantBlockerNodes locale mesh subgraph.relevantNodes input.task
    input.agent (max (input.maxNodes.getD defaultMaxNodes) defaultMaxNodes)
  let (nodes, noGovernanceMatched) := applyGovernanceFloor mesh scored
  let selectedIds := nodes.map (·.id)
  let rules := mesh.rules.filter fun rule => rule.appliesTo.any selectedIds.contains
  return {
    projectSlug := input.projectSlug
    task := input.task
    agent
    relevantNodes := nodes.map (·.id)
    rules := rules.map toProjectMeshPacketRule
    requiredAgents := orderAgents locale (unique (nodes.flatMap (·.relatedAgents)))
    mustRead := unique (nodes.flatMap (·.relatedFiles))
    mustNotAssume := unique (nodes.flatMap (·.mustNotAssume.getD []) ++
      rules.flatMap (·.mustNotAssume.getD []))
    requiredChecks := unique (nodes.flatMap (·.requiredChecks))
    stopConditions := unique (nodes.flatMap (·.stopConditions.getD []))
    why := unique (nodes.map (·.why))
    noGovernanceMatched }

/-! ## The order in which nodes enter -/

/-- The neighbours of a node, along the edges that leave it and then along those that
reach it. -/
def neighbours (mesh : DecisionMesh) (sourceNodeId : JsString) : List JsString :=
  let byWeight (other : DecisionMeshEdge → JsString) (left right : DecisionMeshEdge) : Bool :=
    right.weight < left.weight ||
      right.weight = left.weight && locale.notAfter (other left) (other right)
  ((mesh.edges.filter (·.source = sourceNodeId)).insertionSort
      fun left right => byWeight (·.target) left right = true).map (·.target) ++
    ((mesh.edges.filter (·.target = sourceNodeId)).insertionSort
      fun left right => byWeight (·.source) left right = true).map (·.source)

/-- The nodes of a subgraph without a limit, in the order in which they enter it. -/
def ranked (mesh : DecisionMesh) (task : JsString) (agent : Option JsString) : List JsString :=
  let scoredIds := (scoredNodes locale mesh task agent).map (·.node.id)
  Intake.addAll [] (scoredIds ++ scoredIds.flatMap (neighbours locale mesh))

/-- The first nodes of that order, as many as a subgraph takes for a limit. -/
def firstRanked (mesh : DecisionMesh) (task : JsString) (agent : Option JsString)
    (maxNodes : ℕ) : List JsString :=
  (ranked locale mesh task agent).take (max 1 (min maxNodes mesh.nodes.length))

theorem addIds_take (n : ℕ) (taken ids : List JsString) :
    addIds n (taken.take n) ids = (Intake.addAll taken ids).take n := by
  induction ids generalizing taken with
  | nil => rfl
  | cons id ids ih =>
    have hadd : addId n (taken.take n) id = (Intake.add taken id).take n := by
      rw [← Intake.take_add, addId]
      congr
    rw [addIds, hadd, Intake.addAll_cons]
    by_cases hfull : ((Intake.add taken id).take n).length ≥ n
    · rw [if_pos hfull]
      rw [List.length_take] at hfull
      exact (Intake.take_eq_of_begins (Intake.prefix_addAll _ ids) (by omega)).symm
    · rw [if_neg hfull]
      exact ih _

theorem addConnectedNodes_take (mesh : DecisionMesh) (n : ℕ) (taken : List JsString)
    (id : JsString) :
    addConnectedNodes locale mesh n (taken.take n) id =
      (Intake.addAll taken (neighbours locale mesh id)).take n := by
  unfold addConnectedNodes neighbours Intake.addAll
  rw [List.foldl_append]
  exact (congrArg (addIds n · _) (addIds_take n taken _)).trans (addIds_take n _ _)

theorem addAllConnected_take (mesh : DecisionMesh) (n : ℕ) (taken ids : List JsString) :
    addAllConnected locale mesh n (taken.take n) ids =
      (Intake.addAll taken (ids.flatMap (neighbours locale mesh))).take n := by
  induction ids generalizing taken with
  | nil => rfl
  | cons id ids ih =>
    have happend : Intake.addAll taken ((id :: ids).flatMap (neighbours locale mesh)) =
        Intake.addAll (Intake.addAll taken (neighbours locale mesh id))
          (ids.flatMap (neighbours locale mesh)) := by
      rw [List.flatMap_cons]
      exact List.foldl_append
    rw [addAllConnected, addConnectedNodes_take, happend]
    by_cases hfull : ((Intake.addAll taken (neighbours locale mesh id)).take n).length ≥ n
    · rw [if_pos hfull]
      rw [List.length_take] at hfull
      exact (Intake.take_eq_of_begins (Intake.prefix_addAll _ _) (by omega)).symm
    · rw [if_neg hfull]
      exact ih _

/-- What a subgraph selects is the beginning of the order without a limit. -/
theorem selected_eq_firstRanked (mesh : DecisionMesh) (n : ℕ) (scoredIds : List JsString) :
    (if (addIds n [] scoredIds).length < n then
        addAllConnected locale mesh n (addIds n [] scoredIds) scoredIds
      else addIds n [] scoredIds) =
      (Intake.addAll [] (scoredIds ++ scoredIds.flatMap (neighbours locale mesh))).take n := by
  have hbest : addIds n [] scoredIds = (Intake.addAll [] scoredIds).take n := by
    have h := addIds_take n [] scoredIds
    rw [List.take_nil] at h
    exact h
  have happend : Intake.addAll [] (scoredIds ++ scoredIds.flatMap (neighbours locale mesh)) =
      Intake.addAll (Intake.addAll [] scoredIds)
        (scoredIds.flatMap (neighbours locale mesh)) := List.foldl_append
  rw [hbest, happend]
  by_cases hroom : ((Intake.addAll [] scoredIds).take n).length < n
  · rw [if_pos hroom]
    exact addAllConnected_take locale mesh n _ scoredIds
  · rw [if_neg hroom]
    rw [List.length_take] at hroom
    exact (Intake.take_eq_of_begins (Intake.prefix_addAll _ _) (by omega)).symm

end locale

/-! ## What a subgraph holds -/

theorem requireNode_ok {mesh : DecisionMesh} {id : JsString} {node : DecisionMeshNode}
    (h : requireNode mesh id = .ok node) : node ∈ mesh.nodes ∧ node.id = id := by
  unfold requireNode at h
  split at h
  · next found hfound =>
    injection h with h
    rw [← h]
    exact ⟨List.mem_of_find?_eq_some hfound, by simpa using List.find?_some hfound⟩
  · injection h

theorem requireNode_of_mem {mesh : DecisionMesh} {node : DecisionMeshNode}
    (h : node ∈ mesh.nodes) : ∃ found, requireNode mesh node.id = .ok found := by
  have hfound : (mesh.nodes.find? (·.id = node.id)).isSome := by
    rw [List.find?_isSome]
    exact ⟨node, h, by simp⟩
  obtain ⟨found, hfound⟩ := Option.isSome_iff_exists.1 hfound
  unfold requireNode
  rw [hfound]
  exact ⟨found, rfl⟩

/-- Every one of the ids is a node of the mesh. -/
def Known (mesh : DecisionMesh) (ids : List JsString) : Prop :=
  ∀ id ∈ ids, ∃ node ∈ mesh.nodes, node.id = id

theorem requireNodes_ok {mesh : DecisionMesh} {ids : List JsString} :
    ∀ {nodes : List DecisionMeshNode}, ids.mapM (requireNode mesh) = .ok nodes →
      nodes.map (·.id) = ids ∧ ∀ node ∈ nodes, node ∈ mesh.nodes := by
  induction ids with
  | nil =>
    intro nodes h
    injection h with h
    rw [← h]
    simp
  | cons id ids ih =>
    intro nodes h
    rw [List.mapM_cons] at h
    cases hfirst : requireNode mesh id with
    | error e =>
      rw [hfirst] at h
      injection h
    | ok node =>
      cases hrest : ids.mapM (requireNode mesh) with
      | error e =>
        rw [hfirst, hrest] at h
        injection h
      | ok rest =>
        rw [hfirst, hrest] at h
        injection h with h
        have hnode := requireNode_ok hfirst
        have hmap := ih hrest
        rw [← h]
        refine ⟨?_, ?_⟩
        · rw [List.map_cons, hnode.2, hmap.1]
        · rintro other (_ | ⟨_, hother⟩)
          · exact hnode.1
          · exact hmap.2 other hother

theorem requireNodes_of_known {mesh : DecisionMesh} {ids : List JsString} :
    Known mesh ids → ∃ nodes, ids.mapM (requireNode mesh) = .ok nodes := by
  induction ids with
  | nil => exact fun _ => ⟨[], rfl⟩
  | cons id ids ih =>
    intro h
    obtain ⟨node, hnode, hid⟩ := h id (List.mem_cons_self ..)
    obtain ⟨found, hfound⟩ := requireNode_of_mem hnode
    obtain ⟨rest, hrest⟩ := ih fun other hother => h other (List.mem_cons_of_mem _ hother)
    rw [hid] at hfound
    rw [List.mapM_cons, hfound, hrest]
    exact ⟨found :: rest, rfl⟩

section locale

variable {locale : TextLocale} {mesh : DecisionMesh} {task : JsString} {agent : Option JsString}

/-- An empty agent adds to no score. -/
theorem ranked_filter : ranked locale mesh task (agent.filter (· ≠ [])) =
    ranked locale mesh task agent := by
  have hscore (node : DecisionMeshNode) : scoreNode locale node task (agent.filter (· ≠ [])) =
      scoreNode locale node task agent := by
    have hany : (agent.filter (· ≠ [])).any
        (fun agent => agent ≠ [] && node.relatedAgents.contains agent) =
        agent.any (fun agent => agent ≠ [] && node.relatedAgents.contains agent) := by
      cases agent with
      | none => rfl
      | some name =>
        by_cases hname : name = []
        · simp [hname, Option.filter]
        · simp [hname, Option.filter]
    unfold scoreNode
    rw [hany]
  unfold ranked scoredNodes
  simp only [hscore]

theorem firstRanked_filter {n : ℕ} : firstRanked locale mesh task (agent.filter (· ≠ [])) n =
    firstRanked locale mesh task agent n := by
  unfold firstRanked
  rw [ranked_filter]

theorem firstRanked_subset {n m : ℕ} (h : n ≤ m) :
    firstRanked locale mesh task agent n ⊆ firstRanked locale mesh task agent m :=
  List.take_subset_take_left _ (by omega)

theorem firstRanked_eq_nil {n : ℕ} :
    firstRanked locale mesh task agent n = [] ↔ ranked locale mesh task agent = [] := by
  unfold firstRanked
  rw [List.take_eq_nil_iff]
  constructor
  · intro h
    exact h.resolve_left (by omega)
  · exact .inr

variable (locale mesh) in
theorem getRelevantSubgraphFull_nodes (input : RelevantSubgraphInput) :
    (getRelevantSubgraphFull locale mesh input).map (·.relevantNodes) =
      (firstRanked locale mesh input.task input.agent
        (input.maxNodes.getD defaultMaxNodes)).mapM (requireNode mesh) := by
  have hselected := selected_eq_firstRanked locale mesh
    (max 1 (min (input.maxNodes.getD defaultMaxNodes) mesh.nodes.length))
    ((scoredNodes locale mesh input.task input.agent).map (·.node.id))
  unfold getRelevantSubgraphFull firstRanked ranked
  dsimp only
  rw [hselected]
  cases List.mapM (requireNode mesh) _ with
  | error e => rfl
  | ok nodes => rfl

theorem getRelevantSubgraphFull_ok {input : RelevantSubgraphInput}
    {subgraph : FullRelevantSubgraph}
    (h : getRelevantSubgraphFull locale mesh input = .ok subgraph) :
    subgraph.relevantNodes.map (·.id) = firstRanked locale mesh input.task input.agent
      (input.maxNodes.getD defaultMaxNodes) := by
  have hnodes := getRelevantSubgraphFull_nodes locale mesh input
  rw [h] at hnodes
  exact (requireNodes_ok hnodes.symm).1

theorem getRelevantSubgraphFull_isOk {input : RelevantSubgraphInput} :
    (∃ subgraph, getRelevantSubgraphFull locale mesh input = .ok subgraph) ↔
      Known mesh (firstRanked locale mesh input.task input.agent
        (input.maxNodes.getD defaultMaxNodes)) := by
  have hnodes := getRelevantSubgraphFull_nodes locale mesh input
  constructor
  · rintro ⟨subgraph, h⟩
    rw [h] at hnodes
    have hok := requireNodes_ok hnodes.symm
    intro id hid
    rw [← hok.1] at hid
    obtain ⟨node, hnode, rfl⟩ := List.mem_map.1 hid
    exact ⟨node, hok.2 node hnode, rfl⟩
  · intro hknown
    obtain ⟨nodes, hok⟩ := requireNodes_of_known hknown
    rw [hok] at hnodes
    cases hsub : getRelevantSubgraphFull locale mesh input with
    | error e =>
      rw [hsub] at hnodes
      injection hnodes
    | ok subgraph => exact ⟨subgraph, rfl⟩

/-! ## Blockers -/

theorem any_contains_iff {rule : DecisionMeshRule} {ids : List JsString} :
    rule.appliesTo.any ids.contains = true ↔ rule.Touches ids := by
  simp [DecisionMeshRule.Touches]

theorem Touches.mono {rule : DecisionMeshRule} {ids ids' : List JsString} (h : ids ⊆ ids') :
    rule.Touches ids → rule.Touches ids' := fun ⟨id, hrule, hid⟩ => ⟨id, hrule, h hid⟩

variable (locale mesh task agent) in
/-- The nodes whose blockers a packet shows: the first nodes of the order, up to the
ceiling of the builder, or the governance floor where the task matches no node. -/
def carriers (ceiling : ℕ) : List JsString :=
  let ids := firstRanked locale mesh task agent ceiling
  if ids = [] then
    (governanceFloorNodeIds.filterMap fun id => mesh.nodes.find? (·.id = id)).map (·.id)
  else ids

theorem carriers_subset {ceiling ceiling' : ℕ} (h : ceiling ≤ ceiling') :
    carriers locale mesh task agent ceiling ⊆ carriers locale mesh task agent ceiling' := by
  unfold carriers
  dsimp only
  by_cases hnone : ranked locale mesh task agent = []
  · rw [if_pos (firstRanked_eq_nil.2 hnone), if_pos (firstRanked_eq_nil.2 hnone)]
    exact List.Subset.refl _
  · rw [if_neg (mt firstRanked_eq_nil.1 hnone), if_neg (mt firstRanked_eq_nil.1 hnone)]
    exact firstRanked_subset h

theorem withRelevantBlockerNodes_ok {base scored : List DecisionMeshNode} {ceiling : ℕ}
    (h : withRelevantBlockerNodes locale mesh base task agent ceiling = .ok scored) :
    Known mesh (firstRanked locale mesh task agent ceiling) ∧
      ∀ id, id ∈ scored.map (·.id) ↔ id ∈ base.map (·.id) ∨
        id ∈ firstRanked locale mesh task agent ceiling ∧
          ∃ rule ∈ mesh.rules, rule.severity = .blocker ∧ id ∈ rule.appliesTo := by
  unfold withRelevantBlockerNodes getRelevantSubgraph at h
  cases hsub : getRelevantSubgraphFull locale mesh
      { task, agent := agent.filter (· ≠ []), maxNodes := some ceiling } with
  | error e =>
    rw [hsub] at h
    injection h
  | ok subgraph =>
    have hknown := getRelevantSubgraphFull_isOk.1 ⟨subgraph, hsub⟩
    have hids := getRelevantSubgraphFull_ok hsub
    dsimp only [Option.getD_some] at hknown hids
    rw [firstRanked_filter] at hknown hids
    rw [hsub] at h
    injection h with h
    refine ⟨hknown, fun id => ?_⟩
    have hceiling : (subgraph.relevantNodes.map (toNodeReference subgraph.nodeScores)).map
        (·.id) = firstRanked locale mesh task agent ceiling := by
      rw [← hids, List.map_map]
      rfl
    rw [← h, List.map_append, List.mem_append, hceiling]
    simp only [List.mem_map, List.mem_filter, Bool.and_eq_true, Bool.not_eq_true',
      List.contains_iff_mem, List.mem_flatMap, decide_eq_true_eq]
    constructor
    · rintro (hbase | ⟨node, ⟨hnode, ⟨-, rule, ⟨hrule, hblocker⟩, hid⟩, hfirst⟩, rfl⟩)
      · exact .inl hbase
      · exact .inr ⟨hfirst, rule, hrule, hblocker, hid⟩
    · rintro (hbase | ⟨hfirst, rule, hrule, hblocker, hid⟩)
      · exact .inl hbase
      · by_cases hhave : id ∈ base.map (·.id)
        · exact .inl (List.mem_map.1 hhave)
        · obtain ⟨node, hnode, rfl⟩ := hknown id hfirst
          refine .inr ⟨node, ⟨hnode, ⟨?_, rule, ⟨hrule, hblocker⟩, hid⟩, hfirst⟩, rfl⟩
          simpa using hhave

theorem withRelevantBlockerNodes_isOk (base : List DecisionMeshNode) {ceiling : ℕ}
    (hknown : Known mesh (firstRanked locale mesh task agent ceiling)) :
    ∃ scored, withRelevantBlockerNodes locale mesh base task agent ceiling = .ok scored := by
  rw [← firstRanked_filter] at hknown
  have hceiling : ∃ subgraph, getRelevantSubgraphFull locale mesh
      { task, agent := agent.filter (· ≠ []), maxNodes := some ceiling } = .ok subgraph :=
    getRelevantSubgraphFull_isOk.2 hknown
  obtain ⟨subgraph, hsub⟩ := hceiling
  unfold withRelevantBlockerNodes getRelevantSubgraph
  rw [hsub]
  exact ⟨_, rfl⟩

/-- A blocker is shown exactly when it applies to one of the carriers: the nodes that
were taken are among them, and of the others those that carry a blocker come back. -/
theorem touches_packet_iff {base scored : List DecisionMeshNode} {n ceiling : ℕ}
    (hbase : base.map (·.id) = firstRanked locale mesh task agent n) (hn : n ≤ ceiling)
    (hscored : withRelevantBlockerNodes locale mesh base task agent ceiling = .ok scored)
    {rule : DecisionMeshRule} (hrule : rule ∈ mesh.rules) (hblocker : rule.severity = .blocker) :
    rule.Touches ((applyGovernanceFloor mesh scored).1.map (·.id)) ↔
      rule.Touches (carriers locale mesh task agent ceiling) := by
  have hmem := (withRelevantBlockerNodes_ok hscored).2
  by_cases hnone : ranked locale mesh task agent = []
  · -- nothing was scored, and both sides are the governance floor
    have hempty : scored = [] := by
      apply List.map_eq_nil_iff.1
      apply List.eq_nil_iff_forall_not_mem.2
      intro id hid
      rw [hmem, hbase, firstRanked_eq_nil.2 hnone, firstRanked_eq_nil.2 hnone] at hid
      simp at hid
    unfold applyGovernanceFloor carriers
    rw [if_neg (not_not.2 hempty), if_pos (firstRanked_eq_nil.2 hnone)]
  · have hfull : scored ≠ [] := by
      intro hempty
      have hfirst : ∀ id, id ∉ firstRanked locale mesh task agent n := by
        intro id hid
        have h := (hmem id).2 (.inl (hbase ▸ hid))
        rw [hempty] at h
        simp at h
      exact hnone (firstRanked_eq_nil.1 (List.eq_nil_iff_forall_not_mem.2 hfirst))
    unfold applyGovernanceFloor carriers
    rw [if_pos hfull, if_neg (mt firstRanked_eq_nil.1 hnone)]
    constructor
    · rintro ⟨id, hid, hshown⟩
      rcases (hmem id).1 hshown with htaken | ⟨hfirst, -⟩
      · rw [hbase] at htaken
        exact ⟨id, hid, firstRanked_subset hn htaken⟩
      · exact ⟨id, hid, hfirst⟩
    · rintro ⟨id, hid, hfirst⟩
      exact ⟨id, hid, (hmem id).2 (.inr ⟨hfirst, rule, hrule, hblocker, hid⟩)⟩

end locale

/-! ## Agent packets -/

/-- The rules that apply to the nodes of a packet. -/
def shownRules (mesh : DecisionMesh) (relevantNodes : List JsString) : List DecisionMeshRule :=
  mesh.rules.filter fun rule => rule.appliesTo.any relevantNodes.contains

/-- The blockers among some rules. -/
def blockers (rules : List DecisionMeshRule) : List DecisionMeshRule :=
  rules.filter (·.severity = .blocker)

theorem mem_shownRules {mesh : DecisionMesh} {ids : List JsString} {rule : DecisionMeshRule} :
    rule ∈ shownRules mesh ids ↔ rule ∈ mesh.rules ∧ rule.Touches ids := by
  unfold shownRules
  rw [List.mem_filter, any_contains_iff]

/-- The blockers among the shown rules, where only they have to be compared. -/
theorem blockers_shownRules_congr {mesh : DecisionMesh} {ids ids' : List JsString}
    (h : ∀ rule ∈ mesh.rules, rule.severity = .blocker → (rule.Touches ids ↔ rule.Touches ids')) :
    blockers (shownRules mesh ids) = blockers (shownRules mesh ids') := by
  unfold blockers shownRules
  rw [List.filter_filter, List.filter_filter]
  apply List.filter_congr
  intro rule hrule
  by_cases hblocker : rule.severity = .blocker
  · have htouches := h rule hrule hblocker
    rw [← any_contains_iff, ← any_contains_iff] at htouches
    rw [Bool.eq_iff_iff.2 htouches]
  · simp [hblocker]

section agent

variable {locale : TextLocale} {mesh : DecisionMesh}

theorem packetMaxNodes_le (tokenBudget : Option ℕ) :
    packetMaxNodes tokenBudget ≤ agentPacketMaxNodes := by
  unfold packetMaxNodes agentPacketMaxNodes
  omega

/-- A packet that is returned, taken apart. -/
theorem buildAgentPacket_ok {input : AgentPacketInput} {packet : AgentPacket}
    (h : buildAgentPacket locale mesh input = .ok packet) :
    ∃ base scored, base.map (·.id) = firstRanked locale mesh input.task (some input.agent)
        (packetMaxNodes input.tokenBudget) ∧
      withRelevantBlockerNodes locale mesh base input.task (some input.agent)
        agentPacketMaxNodes = .ok scored ∧
      packet.relevantNodes = (applyGovernanceFloor mesh scored).1.map (·.id) ∧
      packet.rules = (shownRules mesh packet.relevantNodes).map (·.id) := by
  unfold buildAgentPacket at h
  cases hsub : getRelevantSubgraphFull locale mesh
      { task := input.task, agent := some input.agent,
        maxNodes := some (packetMaxNodes input.tokenBudget) } with
  | error e =>
    rw [hsub] at h
    injection h
  | ok subgraph =>
    cases hscored : withRelevantBlockerNodes locale mesh subgraph.relevantNodes input.task
        (some input.agent) agentPacketMaxNodes with
    | error e =>
      simp only [hsub, hscored, bind, Except.bind] at h
      injection h
    | ok scored =>
      refine ⟨subgraph.relevantNodes, scored, getRelevantSubgraphFull_ok hsub, hscored, ?_⟩
      simp only [hsub, hscored, bind, Except.bind, pure, Except.pure] at h
      rw [← Except.ok.inj h]
      exact ⟨rfl, rfl⟩

/-- A packet is returned, whatever its budget, when the widest subgraph has no unknown
node. -/
theorem buildAgentPacket_isOk {input : AgentPacketInput}
    (hknown : Known mesh (firstRanked locale mesh input.task (some input.agent)
      agentPacketMaxNodes)) :
    ∃ packet, buildAgentPacket locale mesh input = .ok packet := by
  have htaken : Known mesh (firstRanked locale mesh input.task (some input.agent)
      (packetMaxNodes input.tokenBudget)) :=
    fun id hid => hknown id (firstRanked_subset (packetMaxNodes_le _) hid)
  have hbase : ∃ subgraph, getRelevantSubgraphFull locale mesh
      { task := input.task, agent := some input.agent,
        maxNodes := some (packetMaxNodes input.tokenBudget) } = .ok subgraph :=
    getRelevantSubgraphFull_isOk.2 htaken
  obtain ⟨subgraph, hsub⟩ := hbase
  obtain ⟨scored, hscored⟩ :=
    withRelevantBlockerNodes_isOk subgraph.relevantNodes hknown
  unfold buildAgentPacket
  simp only [hsub, hscored, bind, Except.bind, pure, Except.pure]
  exact ⟨_, rfl⟩

/-- A packet that is returned for one budget is returned for every other one, and both
show the same blockers. -/
theorem agent_blockers_of_any_budget {input : AgentPacketInput} (tokenBudget : Option ℕ)
    {packet : AgentPacket} (h : buildAgentPacket locale mesh input = .ok packet) :
    ∃ other, buildAgentPacket locale mesh { input with tokenBudget } = .ok other ∧
      packet.rules = (shownRules mesh packet.relevantNodes).map (·.id) ∧
      other.rules = (shownRules mesh other.relevantNodes).map (·.id) ∧
      blockers (shownRules mesh packet.relevantNodes) =
        blockers (shownRules mesh other.relevantNodes) := by
  obtain ⟨base, scored, hbase, hscored, hnodes, hrules⟩ := buildAgentPacket_ok h
  have hknown := (withRelevantBlockerNodes_ok hscored).1
  have hreturns : ∃ other, buildAgentPacket locale mesh { input with tokenBudget } = .ok other :=
    buildAgentPacket_isOk hknown
  obtain ⟨other, hother⟩ := hreturns
  obtain ⟨base', scored', hbase', hscored', hnodes', hrules'⟩ := buildAgentPacket_ok hother
  refine ⟨other, hother, hrules, hrules', blockers_shownRules_congr ?_⟩
  intro rule hrule hblocker
  -- both ways the blockers are those of the widest packet
  rw [hnodes, hnodes', touches_packet_iff hbase (packetMaxNodes_le _) hscored hrule hblocker,
    touches_packet_iff hbase' (packetMaxNodes_le _) hscored' hrule hblocker]

/-- A mesh with a blocker on the last of five nodes: four nodes are taken for a thousand
tokens, and the fifth comes back. -/
def fiveNodes : DecisionMesh where
  nodes := ["a", "b", "c", "d", "e"].map fun id => { sampleNode with id := js id }
  edges := []
  rules := [{ sampleRule (js "stop") none with severity := .blocker, appliesTo := [js "e"] }]

theorem agent_blockers_of_any_budget_sample :
    ∃ packet other : AgentPacket,
      buildAgentPacket sampleLocale fiveNodes
        { task := js "lane", agent := [], tokenBudget := some 1000 } = .ok packet ∧
      buildAgentPacket sampleLocale fiveNodes
        { task := js "lane", agent := [], tokenBudget := some 7000 } = .ok other ∧
      blockers (shownRules fiveNodes packet.relevantNodes) = fiveNodes.rules ∧
      blockers (shownRules fiveNodes other.relevantNodes) = fiveNodes.rules := by
  have hreturns : ∃ packet, buildAgentPacket sampleLocale fiveNodes
      { task := js "lane", agent := [], tokenBudget := some 1000 } = .ok packet := by
    apply buildAgentPacket_isOk
    unfold Known
    decide +kernel
  obtain ⟨packet, hpacket⟩ := hreturns
  obtain ⟨other, hother, -, -, hsame⟩ := agent_blockers_of_any_budget (some 7000) hpacket
  have hnodes : (buildAgentPacket sampleLocale fiveNodes
      { task := js "lane", agent := [], tokenBudget := some 1000 }).toOption.map
        (·.relevantNodes) = some (["a", "b", "c", "d", "e"].map js) := by decide +kernel
  rw [hpacket] at hnodes
  have hids : packet.relevantNodes = ["a", "b", "c", "d", "e"].map js := Option.some.inj hnodes
  have hshown : blockers (shownRules fiveNodes packet.relevantNodes) = fiveNodes.rules := by
    rw [hids]
    decide +kernel
  exact ⟨packet, other, hpacket, hother, hshown, hsame ▸ hshown⟩

end agent

/-! ## Project packets and their limit -/

section project

variable {locale : TextLocale} {mesh : DecisionMesh}

/-- The ceiling of a project packet: what the caller asks for, from twelve nodes up. -/
def projectCeiling (maxNodes : Option ℕ) : ℕ :=
  max (maxNodes.getD defaultMaxNodes) defaultMaxNodes

theorem buildProjectMeshPacket_ok {input : ProjectMeshPacketInput} {packet : ProjectMeshPacket}
    (h : buildProjectMeshPacket locale mesh input = .ok packet) :
    ∃ base scored, base.map (·.id) = firstRanked locale mesh input.task input.agent
        (input.maxNodes.getD defaultMaxNodes) ∧
      withRelevantBlockerNodes locale mesh base input.task input.agent
        (projectCeiling input.maxNodes) = .ok scored ∧
      packet.rules = (shownRules mesh ((applyGovernanceFloor mesh scored).1.map (·.id))).map
        toProjectMeshPacketRule := by
  unfold buildProjectMeshPacket at h
  cases hsub : getRelevantSubgraphFull locale mesh
      { task := input.task, agent := input.agent.filter (· ≠ []),
        maxNodes := some (input.maxNodes.getD defaultMaxNodes) } with
  | error e =>
    simp only [hsub, bind, Except.bind] at h
    injection h
  | ok subgraph =>
    have hbase := getRelevantSubgraphFull_ok hsub
    dsimp only [Option.getD_some] at hbase
    rw [firstRanked_filter] at hbase
    cases hscored : withRelevantBlockerNodes locale mesh subgraph.relevantNodes input.task
        input.agent (projectCeiling input.maxNodes) with
    | error e =>
      unfold projectCeiling at hscored
      simp only [hsub, hscored, bind, Except.bind] at h
      injection h
    | ok scored =>
      refine ⟨subgraph.relevantNodes, scored, hbase, hscored, ?_⟩
      unfold projectCeiling at hscored
      simp only [hsub, hscored, bind, Except.bind, pure, Except.pure] at h
      rw [← Except.ok.inj h]
      rfl

theorem buildProjectMeshPacket_isOk {i : ProjectMeshPacketInput}
    (hknown : Known mesh (firstRanked locale mesh i.task i.agent (projectCeiling i.maxNodes))) :
    ∃ packet, buildProjectMeshPacket locale mesh i = .ok packet := by
  have htaken : Known mesh (firstRanked locale mesh i.task (i.agent.filter (· ≠ []))
      (i.maxNodes.getD defaultMaxNodes)) := by
    rw [firstRanked_filter]
    exact fun id hid => hknown id (firstRanked_subset (Nat.le_max_left ..) hid)
  have hbase : ∃ subgraph, getRelevantSubgraphFull locale mesh
      { task := i.task, agent := i.agent.filter (· ≠ []),
        maxNodes := some (i.maxNodes.getD defaultMaxNodes) } = .ok subgraph :=
    getRelevantSubgraphFull_isOk.2 htaken
  obtain ⟨subgraph, hsub⟩ := hbase
  obtain ⟨scored, hscored⟩ := withRelevantBlockerNodes_isOk subgraph.relevantNodes hknown
  unfold projectCeiling at hscored
  unfold buildProjectMeshPacket
  simp only [hsub, hscored, bind, Except.bind, pure, Except.pure]
  exact ⟨_, rfl⟩

/-- The blockers of a project packet. -/
theorem mem_project_blockers {input : ProjectMeshPacketInput} {packet : ProjectMeshPacket}
    (h : buildProjectMeshPacket locale mesh input = .ok packet)
    {shown : ProjectMeshPacketRule} :
    shown ∈ packet.rules ∧ shown.severity = .blocker ↔
      ∃ rule ∈ mesh.rules, rule.severity = .blocker ∧
        rule.Touches (carriers locale mesh input.task input.agent
          (projectCeiling input.maxNodes)) ∧
        toProjectMeshPacketRule rule = shown := by
  obtain ⟨base, scored, hbase, hscored, hrules⟩ := buildProjectMeshPacket_ok h
  have hle : input.maxNodes.getD defaultMaxNodes ≤ projectCeiling input.maxNodes :=
    Nat.le_max_left ..
  rw [hrules, List.mem_map]
  constructor
  · rintro ⟨⟨rule, hshown, rfl⟩, hblocker⟩
    have hmem := mem_shownRules.1 hshown
    exact ⟨rule, hmem.1, hblocker,
      (touches_packet_iff hbase hle hscored hmem.1 hblocker).1 hmem.2, rfl⟩
  · rintro ⟨rule, hrule, hblocker, htouches, rfl⟩
    refine ⟨⟨rule, mem_shownRules.2 ⟨hrule, ?_⟩, rfl⟩, hblocker⟩
    exact (touches_packet_iff hbase hle hscored hrule hblocker).2 htouches

theorem touches_carriers_mono {task : JsString} {agent : Option JsString} {n n' : ℕ}
    (h : n ≤ n') {rule : DecisionMeshRule}
    (htouches : rule.Touches (carriers locale mesh task agent n)) :
    rule.Touches (carriers locale mesh task agent n') := Touches.mono (carriers_subset h) htouches

/-- What a rule of a packet says about the nodes it applies to, every rule that is shown
like it says as well. -/
theorem touches_of_shown {ids : List JsString} {rule : DecisionMeshRule}
    (h : ∃ other ∈ mesh.rules, other.severity = .blocker ∧ other.Touches ids ∧
      toProjectMeshPacketRule other = toProjectMeshPacketRule rule) : rule.Touches ids := by
  obtain ⟨other, -, -, htouches, hsame⟩ := h
  have happlies : other.appliesTo = rule.appliesTo := congrArg (·.appliesTo) hsame
  unfold DecisionMeshRule.Touches at htouches ⊢
  rwa [← happlies]

/-- Two limits give the same blockers exactly when every blocker that applies to a node
below the higher ceiling applies to one below the lower ceiling already. -/
theorem project_blockers_agree_iff {input : ProjectMeshPacketInput} {maxNodes maxNodes' : Option ℕ}
    {packet packet' : ProjectMeshPacket}
    (h : buildProjectMeshPacket locale mesh { input with maxNodes := maxNodes } = .ok packet)
    (h' : buildProjectMeshPacket locale mesh { input with maxNodes := maxNodes' } = .ok packet') :
    (∀ shown, shown ∈ packet.rules ∧ shown.severity = .blocker ↔
        shown ∈ packet'.rules ∧ shown.severity = .blocker) ↔
      ∀ rule ∈ mesh.rules, rule.severity = .blocker →
        rule.Touches (carriers locale mesh input.task input.agent
          (max (projectCeiling maxNodes) (projectCeiling maxNodes'))) →
        rule.Touches (carriers locale mesh input.task input.agent
          (min (projectCeiling maxNodes) (projectCeiling maxNodes'))) := by
  have hmem := @mem_project_blockers locale mesh _ _ h
  have hmem' := @mem_project_blockers locale mesh _ _ h'
  dsimp only at hmem hmem'
  constructor
  · intro hsame rule hrule hblocker htouches
    rcases Nat.le_total (projectCeiling maxNodes) (projectCeiling maxNodes') with hle | hle
    · rw [Nat.max_eq_right hle] at htouches
      rw [Nat.min_eq_left hle]
      have hshown := (hsame _).2 (hmem'.2 ⟨rule, hrule, hblocker, htouches, rfl⟩)
      exact touches_of_shown (hmem.1 hshown)
    · rw [Nat.max_eq_left hle] at htouches
      rw [Nat.min_eq_right hle]
      have hshown := (hsame _).1 (hmem.2 ⟨rule, hrule, hblocker, htouches, rfl⟩)
      exact touches_of_shown (hmem'.1 hshown)
  · intro hnew shown
    rw [hmem, hmem']
    constructor
    · rintro ⟨rule, hrule, hblocker, htouches, hshown⟩
      have hmax := touches_carriers_mono (Nat.le_max_left _ (projectCeiling maxNodes')) htouches
      have hmin := hnew rule hrule hblocker hmax
      exact ⟨rule, hrule, hblocker, touches_carriers_mono (Nat.min_le_right ..) hmin, hshown⟩
    · rintro ⟨rule, hrule, hblocker, htouches, hshown⟩
      have hmax := touches_carriers_mono (Nat.le_max_right (projectCeiling maxNodes) _) htouches
      have hmin := hnew rule hrule hblocker hmax
      exact ⟨rule, hrule, hblocker, touches_carriers_mono (Nat.min_le_left ..) hmin, hshown⟩

/-- Thirteen nodes that a task ranks by their ids, with one blocker. -/
def thirteenNodes (appliesTo : List JsString) : DecisionMesh where
  nodes := ["a", "b", "c", "d", "e", "f", "g", "h", "i", "j", "k", "l", "m"].map
    fun id => { sampleNode with id := js id }
  edges := []
  rules := [{ sampleRule (js "stop") none with severity := .blocker, appliesTo }]

def projectInput (maxNodes : ℕ) : ProjectMeshPacketInput where
  projectSlug := js "p"
  task := js "lane"
  maxNodes := some maxNodes

theorem project_blockers_agree_sample :
    ∃ packet packet' : ProjectMeshPacket,
      buildProjectMeshPacket sampleLocale (thirteenNodes [js "b", js "m"]) (projectInput 12) =
        .ok packet ∧
      buildProjectMeshPacket sampleLocale (thirteenNodes [js "b", js "m"]) (projectInput 13) =
        .ok packet' ∧
      ∀ shown, shown ∈ packet.rules ∧ shown.severity = .blocker ↔
        shown ∈ packet'.rules ∧ shown.severity = .blocker := by
  have hreturns (n : ℕ) (hknown : ∀ id ∈ firstRanked sampleLocale
      (thirteenNodes [js "b", js "m"]) (js "lane") none (projectCeiling (some n)),
      ∃ node ∈ (thirteenNodes [js "b", js "m"]).nodes, node.id = id) :=
    buildProjectMeshPacket_isOk (i := projectInput n) hknown
  obtain ⟨packet, h⟩ := hreturns 12 (by decide +kernel)
  obtain ⟨packet', h'⟩ := hreturns 13 (by decide +kernel)
  refine ⟨packet, packet', h, h', ?_⟩
  refine (@project_blockers_agree_iff _ _ (projectInput 12) (some 12) (some 13) _ _ h h').2 ?_
  intro rule hrule hblocker htouches
  rw [List.mem_singleton.1 hrule]
  exact ⟨js "b", by decide +kernel, by decide +kernel⟩

/-- A thirteenth node may be asked for, and it brings its blocker. -/
theorem thirteenth_node_brings_blocker :
    (buildProjectMeshPacket sampleLocale (thirteenNodes [js "m"])
      (projectInput 12)).toOption.map (·.rules) = some [] ∧
    (buildProjectMeshPacket sampleLocale (thirteenNodes [js "m"])
      (projectInput 13)).toOption.map (·.rules) =
        some ((thirteenNodes [js "m"]).rules.map toProjectMeshPacketRule) := by
  constructor
  · decide +kernel
  · decide +kernel

end project

end DecisionMesh

end Autopilot
