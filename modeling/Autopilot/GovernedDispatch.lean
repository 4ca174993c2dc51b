/-
The governed dispatch of a handoff.

A handoff carries the hash of the packet it was made under. The dispatch rebuilds
the packet from the live mesh, with a budget of its own, and refuses a handoff whose
hash is another one. It then checks the route, the checks and the lane, and makes
the input of the worker. This module is `dispatch.ts` up to the call of the worker;
the records it writes on the way are best effort and decide nothing.

The hash is taken of a canonical text: five lists in one fixed order, each sorted,
and the mode. Reading the text back gives the sorted lists, so two packets have one
text when their lists are permutations of each other and their modes agree.

The routing decision of a handoff that asks for one and the answer of the token
gateway come from outside this module, as values.
-/
import Autopilot.DecisionMesh
import Autopilot.Lib.JsonText
import Autopilot.RunOrchestrator
import Mathlib.Data.List.Sort

set_option autoImplicit false

namespace Autopilot

open JsonText (PrefixFree quoted)

namespace GovernedDispatch

open DecisionMesh (AgentPacketInput TextLocale buildAgentPacket)

/-! ## Hashes -/

/-- `GovernanceHashPacket`. -/
structure GovernanceHashPacket where
  relevantNodes : List JsString
  rules : List JsString
  requiredChecks : List JsString
  stopConditions : List JsString
  mustNotAssume : List JsString
  deriving DecidableEq

/-- What the hash reads of a packet. -/
def governanceOf (packet : DecisionMesh.AgentPacket) : GovernanceHashPacket where
  relevantNodes := packet.relevantNodes
  rules := packet.rules
  requiredChecks := packet.requiredChecks
  stopConditions := packet.stopConditions
  mustNotAssume := packet.mustNotAssume

/-- `sorted`. -/
def sorted (values : List JsString) : List JsString := values.insertionSort (· ≤ ·)

/-- A list of texts, as JSON. -/
def textArray (values : List JsString) : JsString := JsonText.array quoted values

/-- The mode, as JSON. -/
def modeText (mode : Option RoutingModeId) : JsString :=
  (mode.map fun mode => quoted mode.text).getD (js "null")

/-- A member of an object, as JSON. -/
def member {α : Type} (key : String) (text : α → JsString) (value : α) : JsString :=
  quoted (js key) ++ [58] ++ text value

/-- `JSON.stringify(canonical)`. -/
def canonicalText (packet : GovernanceHashPacket) (routingMode : Option RoutingModeId) :
    JsString :=
  [123] ++ (member "relevant_nodes" textArray (sorted packet.relevantNodes) ++
    ([44] ++ (member "rules" textArray (sorted packet.rules) ++
    ([44] ++ (member "required_checks" textArray (sorted packet.requiredChecks) ++
    ([44] ++ (member "stop_conditions" textArray (sorted packet.stopConditions) ++
    ([44] ++ (member "must_not_assume" textArray (sorted packet.mustNotAssume) ++
    ([44] ++ (member "routing_mode" modeText routingMode ++ [125])))))))))))

/-- `computePacketHash`. -/
def computePacketHash (sha256 : Sha256) (packet : GovernanceHashPacket)
    (routingMode : Option RoutingModeId) : JsString :=
  sha256.digest (canonicalText packet routingMode)

/-- The governance lists of the two packets are permutations of one another. -/
structure SameGovernance (packet other : GovernanceHashPacket) : Prop where
  relevantNodes : packet.relevantNodes.Perm other.relevantNodes
  rules : packet.rules.Perm other.rules
  requiredChecks : packet.requiredChecks.Perm other.requiredChecks
  stopConditions : packet.stopConditions.Perm other.stopConditions
  mustNotAssume : packet.mustNotAssume.Perm other.mustNotAssume

theorem sorted_eq_iff {values others : List JsString} :
    sorted values = sorted others ↔ values.Perm others := by
  constructor
  · intro h
    have hvalues : (sorted values).Perm values := List.perm_insertionSort _ values
    have hothers : (sorted others).Perm others := List.perm_insertionSort _ others
    rw [h] at hvalues
    exact hvalues.symm.trans hothers
  · intro h
    have hvalues : (sorted values).Perm values := List.perm_insertionSort _ values
    have hothers : (sorted others).Perm others := List.perm_insertionSort _ others
    have hperm : (sorted values).Perm (sorted others) := hvalues.trans (h.trans hothers.symm)
    exact hperm.eq_of_pairwise' (List.pairwise_insertionSort (· ≤ ·) values)
      (List.pairwise_insertionSort (· ≤ ·) others)

/-! ### The text determines what it was made of -/

theorem textArray_prefixFree : PrefixFree textArray :=
  JsonText.array_prefixFree JsonText.quoted_prefixFree JsonText.quoted_ne_bracket

theorem modeText_prefixFree : PrefixFree modeText := by
  apply PrefixFree.option
  · exact JsonText.quoted_prefixFree.comp RoutingModeId.text_injective
  · intro mode s t h
    exact absurd (List.cons.inj h).1 (by decide)

theorem member_prefixFree {α : Type} (key : String) {text : α → JsString}
    (h : PrefixFree text) : PrefixFree (member key text) :=
  h.after (quoted (js key) ++ [58])

/-- The members of the object, as one value. -/
abbrev Members :=
  List JsString × List JsString × List JsString × List JsString × List JsString ×
    Option RoutingModeId

/-- The canonical text of sorted members. -/
def membersText (members : Members) : JsString :=
  [123] ++ (member "relevant_nodes" textArray members.1 ++
    ([44] ++ (member "rules" textArray members.2.1 ++
    ([44] ++ (member "required_checks" textArray members.2.2.1 ++
    ([44] ++ (member "stop_conditions" textArray members.2.2.2.1 ++
    ([44] ++ (member "must_not_assume" textArray members.2.2.2.2.1 ++
    ([44] ++ (member "routing_mode" modeText members.2.2.2.2.2 ++ [125])))))))))))

theorem membersText_prefixFree : PrefixFree membersText := by
  have hlist (key : String) : PrefixFree (member key textArray) :=
    member_prefixFree key textArray_prefixFree
  have hmode := (member_prefixFree "routing_mode" modeText_prefixFree).before [125]
  have hassume := ((hlist "must_not_assume").pair (hmode.after [44])).after [44]
  have hstop := ((hlist "stop_conditions").pair hassume).after [44]
  have hchecks := ((hlist "required_checks").pair hstop).after [44]
  have hrules := ((hlist "rules").pair hchecks).after [44]
  exact ((hlist "relevant_nodes").pair hrules).after [123]

/-- Two packets have one text when they govern alike under one mode. -/
theorem canonicalText_eq_iff {packet other : GovernanceHashPacket}
    {routingMode otherMode : Option RoutingModeId} :
    canonicalText packet routingMode = canonicalText other otherMode ↔
      SameGovernance packet other ∧ routingMode = otherMode := by
  constructor
  · intro h
    have hmembers := membersText_prefixFree.injective
      (show membersText (sorted packet.relevantNodes, sorted packet.rules,
          sorted packet.requiredChecks, sorted packet.stopConditions,
          sorted packet.mustNotAssume, routingMode) =
        membersText (sorted other.relevantNodes, sorted other.rules,
          sorted other.requiredChecks, sorted other.stopConditions,
          sorted other.mustNotAssume, otherMode) from h)
    simp only [Prod.mk.injEq, sorted_eq_iff] at hmembers
    exact ⟨⟨hmembers.1, hmembers.2.1, hmembers.2.2.1, hmembers.2.2.2.1, hmembers.2.2.2.2.1⟩,
      hmembers.2.2.2.2.2⟩
  · rintro ⟨hsame, hmode⟩
    unfold canonicalText
    rw [sorted_eq_iff.2 hsame.relevantNodes, sorted_eq_iff.2 hsame.rules,
      sorted_eq_iff.2 hsame.requiredChecks, sorted_eq_iff.2 hsame.stopConditions,
      sorted_eq_iff.2 hsame.mustNotAssume, hmode]

/-! ## Dispatch -/

/-- `CodexDispatchMode`. -/
inductive CodexDispatchMode where
  | codexImplement | codexReview | codexResearch
  deriving DecidableEq, Repr

/-- `SupervisorRoutingDecision`, the fields that are read. -/
structure SupervisorRoutingDecision where
  assignedProvider : Option JsString
  assignedTierId : Option JsString
  deriving DecidableEq

/-- A handoff with the fields that only a dispatch reads. -/
structure DispatchHandoff extends GovernedHandoff where
  skillIds : Option (List JsString) := none
  codexMode : Option CodexDispatchMode := none
  openrouterMode : Option OpenRouterMode := none
  routingMode : Option RoutingModeId := none
  taskPackageHash : Option JsString := none
  prepProvenance : Option BuildPrepProvenance := none
  /-- What `buildSupervisorRoutingDecision` makes of the routing context. -/
  routing : Option (Except JsError SupervisorRoutingDecision) := none
  addDirs : Option (List JsString) := none
  images : Option (List JsString) := none
  timeoutMs : Option JsNumber := none
  outputSchemaPath : Option JsString := none

/-- The handoff of a run, which has none of the other fields. -/
def DispatchHandoff.ofRun (handoff : GovernedHandoff) : DispatchHandoff :=
  { toGovernedHandoff := handoff }

/-- `CliWorkerInput`. -/
structure CliWorkerInput where
  handoffId : JsString
  sessionId : Option JsString
  skillIds : Option (List JsString)
  vendor : RunProvider
  prompt : JsString
  parentSessionHash : JsString
  parentTurnHash : JsString
  codexMode : Option CodexDispatchMode
  openrouterMode : Option OpenRouterMode
  model : Option JsString
  routingMode : Option RoutingModeId
  taskPacketRef : Option JsString
  cwd : Option JsString
  addDirs : Option (List JsString)
  images : Option (List JsString)
  timeoutMs : Option JsNumber
  outputSchemaPath : Option JsString
  maxPromptChars : Option ℕ
  supervisorOwnsRetry : Bool
  lockSource : JsString
  /-- `generationSettings.reasoning_effort`. -/
  reasoningEffort : Option JsString := none
  deriving DecidableEq

def defaultAgentPacketTokenBudget : ℕ := 8000
def verifiedLockSource : JsString := js "governed_dispatch_verified"

/-- `toCliWorkerInput`. -/
def toCliWorkerInput (handoff : DispatchHandoff) : CliWorkerInput where
  handoffId := handoff.handoffId
  sessionId := handoff.sessionId
  skillIds := handoff.skillIds
  vendor := handoff.vendor
  prompt := handoff.prompt
  parentSessionHash := handoff.parentSessionHash
  parentTurnHash := handoff.parentTurnHash
  codexMode := handoff.codexMode
  openrouterMode := handoff.openrouterMode
  model :=
    -- the app of this vendor would choose a model by itself
    if handoff.vendor = .agyCli ∧ handoff.model = none then some agyFastDefault
    else handoff.model
  routingMode := handoff.routingMode
  taskPacketRef := handoff.taskPacketRef
  cwd := handoff.cwd
  addDirs := handoff.addDirs
  images := handoff.images
  timeoutMs := handoff.timeoutMs
  outputSchemaPath := handoff.outputSchemaPath
  maxPromptChars := handoff.maxPromptChars
  supervisorOwnsRetry := true
  lockSource := verifiedLockSource

/-- `resolveHandoffLane`. -/
def resolveHandoffLane (handoff : DispatchHandoff) : Option RoutingLaneId :=
  resolveRoutingLane handoff.vendor handoff.openrouterMode handoff.model

/-- `hasViableAssignedProvider`. -/
def hasViableAssignedProvider (decision : SupervisorRoutingDecision) : Bool :=
  decision.assignedProvider.any fun provider => provider ≠ [] && provider ≠ js "none"

/-- `resolveTierId`: the tier, which may be absent, or nothing when no provider is
viable. -/
def resolveTierId (handoff : DispatchHandoff) : Except JsError (Option (Option JsString)) :=
  match handoff.routing with
  | none => .ok (some none)
  | some decision => do
    let decision ← decision
    return if hasViableAssignedProvider decision then some decision.assignedTierId else none

/-- `hasNonEmptyString`. -/
def hasNonEmptyString (value : Option JsString) : Bool := value.any (trim · ≠ [])

/-- The work is expensive and nothing says what it was prepared with. -/
def missingUpstreamDraft (handoff : DispatchHandoff) (lane : Option RoutingLaneId) : Bool :=
  handoff.routingMode = some .build && lane.any expensiveLanes.contains &&
    (!hasNonEmptyString handoff.taskPacketRef || !hasNonEmptyString handoff.taskPackageHash ||
      !isBuildPrepProvenanceSatisfied handoff.prepProvenance)

/-- Who holds the reservation of the tokens. -/
inductive ReservationOwner where
  | dispatch | caller
  deriving DecidableEq, Repr

/-- What the gateway answers when it refuses: an error of its own, or another one. -/
inductive ReserveFailure where
  | tokenGateway
  | other (error : JsError)

/-- A dispatch up to the worker: it is refused, or the worker gets its input. -/
inductive Dispatched where
  | refused (reason : DispatchRefusalReason) (tierId : Option JsString)
      (provenanceVerified : Bool)
  | worker (input : CliWorkerInput) (tierId : Option JsString)
  deriving DecidableEq

section dispatch

variable (reserve : CliWorkerInput → Except ReserveFailure Unit) (owner : ReservationOwner)

/-- The rest of a dispatch once the hash of the packet is found right. -/
def dispatchVerified (handoff : DispatchHandoff) : Except JsError Dispatched := do
  match ← resolveTierId handoff with
  | none => return .refused .routingNoViableProvider none true
  | some tierId =>
    if handoff.requiredChecks = [] then return .refused .missingRequiredChecks tierId true
    else
      let lane := handoff.routingMode.bind fun _ => resolveHandoffLane handoff
      let allowed := handoff.routingMode.all fun mode => lane.any (isLaneAllowedInMode mode)
      if !allowed then return .refused .laneNotAllowedInMode tierId true
      else if missingUpstreamDraft handoff lane then
        return .refused .missingUpstreamDraft tierId true
      else
        let workerInput := toCliWorkerInput handoff
        match owner with
        | .caller => return .worker workerInput tierId
        | .dispatch =>
          match reserve workerInput with
          | .ok _ => return .worker workerInput tierId
          | .error .tokenGateway => return .refused .tokenBudgetExhausted tierId true
          | .error (.other error) => throw error

/-- The packet a dispatch asks for. -/
def packetInputOf (handoff : DispatchHandoff) : AgentPacketInput where
  task := handoff.task
  agent := handoff.agent
  tokenBudget := some defaultAgentPacketTokenBudget

/-- `dispatchHandoff`, up to `runCliWorker`. -/
def dispatchHandoff (sha256 : Sha256) (locale : TextLocale) (mesh : DecisionMesh)
    (handoff : DispatchHandoff) : Except JsError Dispatched := do
  let packet ← buildAgentPacket locale mesh (packetInputOf handoff)
  if computePacketHash sha256 (governanceOf packet) handoff.routingMode ≠ handoff.packetHash then
    return .refused .packetProvenanceMismatch none false
  else dispatchVerified reserve owner handoff

end dispatch

/-- The environment of a run orchestrator that builds its packets from the mesh. -/
def onMesh (sha256 : Sha256) (locale : TextLocale) (mesh : DecisionMesh) (env : Environment) :
    Environment :=
  { env with
    buildAgentPacket := fun task agent budget => do
      let packet ← buildAgentPacket locale mesh { task, agent, tokenBudget := some budget }
      return ⟨computePacketHash sha256 (governanceOf packet) none, packet.requiredChecks⟩ }

/-! ### What a dispatch that reaches the worker has passed -/

section passed

variable {reserve : CliWorkerInput → Except ReserveFailure Unit} {owner : ReservationOwner}
variable {handoff : DispatchHandoff} {input : CliWorkerInput} {tierId : Option JsString}

/-- The worker gets what `toCliWorkerInput` makes of the handoff. -/
theorem dispatchVerified_worker
    (h : dispatchVerified reserve owner handoff = .ok (.worker input tierId)) :
    input = toCliWorkerInput handoff := by
  unfold dispatchVerified at h
  cases htier : resolveTierId handoff with
  | error error => simp [htier, bind, Except.bind] at h
  | ok tier =>
    simp only [htier, bind, Except.bind, pure, Except.pure] at h
    split at h
    · simp at h
    · -- the checks before the worker input is made answer with a refusal
      split_ifs at h
      · simp at h
      · simp at h
      · simp at h
      · split at h
        · simp only [Except.ok.injEq, Dispatched.worker.injEq] at h
          exact h.1.symm
        · split at h
          · simp only [Except.ok.injEq, Dispatched.worker.injEq] at h
            exact h.1.symm
          · simp at h
          · simp [throw, throwThe, MonadExceptOf.throw] at h

theorem dispatchHandoff_worker {sha256 : Sha256} {locale : TextLocale} {mesh : DecisionMesh}
    (h : dispatchHandoff reserve owner sha256 locale mesh handoff = .ok (.worker input tierId)) :
    input = toCliWorkerInput handoff := by
  unfold dispatchHandoff at h
  cases hpacket : buildAgentPacket locale mesh (packetInputOf handoff) with
  | error error => simp [hpacket, bind, Except.bind] at h
  | ok packet =>
    simp only [hpacket, bind, Except.bind, pure, Except.pure] at h
    split_ifs at h
    · simp at h
    · exact dispatchVerified_worker h

end passed

/-! ## Both sides of a hash -/

section agreement

variable {sha256 : Sha256} {locale : TextLocale} {mesh : DecisionMesh}

/-- The budget of a run is larger than what a packet needs to be as wide as it gets. -/
theorem canonicalRunTokenBudget_ge (prompt : JsString) :
    7000 ≤ canonicalRunTokenBudget prompt := by
  unfold canonicalRunTokenBudget runOutputTokenAllowance
  omega

/-- The handoff of a run carries the hash and the checks of the packet that was built
with the budget of the run. -/
theorem handoffFor_packet {env : Environment} {run : RunRecord} {handoff : GovernedHandoff}
    (h : handoffFor sha256 (onMesh sha256 locale mesh env) run = .ok handoff) :
    ∃ packet,
      buildAgentPacket locale mesh
        { task := handoff.task, agent := handoff.agent,
          tokenBudget := some (canonicalRunTokenBudget run.current.prompt) } = .ok packet ∧
      handoff.packetHash = computePacketHash sha256 (governanceOf packet) none ∧
      handoff.requiredChecks = packet.requiredChecks := by
  unfold handoffFor at h
  split at h
  · cases h
  · split at h
    · cases h
    · rename_i hbudget
      rw [not_not] at hbudget
      cases hpacket : buildAgentPacket locale mesh
          { task := js "Execute approved run " ++ run.runId ++ js " revision " ++
              decimal run.current.revision,
            agent := js "worker", tokenBudget := some run.current.estimatedTokens } with
      | error error =>
        simp only [onMesh, hpacket] at h
        cases h
      | ok packet =>
        cases hcwd : env.resolveEnabledProject run.current.projectId with
        | error error =>
          simp only [onMesh, hpacket, hcwd] at h
          cases h
        | ok cwd =>
          simp only [onMesh, hpacket, hcwd] at h
          cases h
          refine ⟨packet, ?_, rfl, rfl⟩
          rw [← hbudget]
          exact hpacket

/-- The packet that is rebuilt for the handoff of a run has the hash it carries. -/
theorem rebuilt_packet {env : Environment} {run : RunRecord} {handoff : GovernedHandoff}
    (h : handoffFor sha256 (onMesh sha256 locale mesh env) run = .ok handoff) :
    ∃ packet, buildAgentPacket locale mesh (packetInputOf (.ofRun handoff)) = .ok packet ∧
      computePacketHash sha256 (governanceOf packet) none = handoff.packetHash := by
  obtain ⟨packet, hbuilt, hhash, -⟩ := handoffFor_packet h
  have hsame := DecisionMesh.buildAgentPacket_budget locale mesh handoff.task handoff.agent none
    (canonicalRunTokenBudget_ge run.current.prompt)
    (show 7000 ≤ defaultAgentPacketTokenBudget by decide)
  exact ⟨packet, hsame.symm.trans hbuilt, hhash.symm⟩

theorem dispatchVerified_ne_mismatch {reserve : CliWorkerInput → Except ReserveFailure Unit}
    {owner : ReservationOwner} {handoff : DispatchHandoff} {tierId : Option JsString}
    {verified : Bool} :
    dispatchVerified reserve owner handoff ≠
      .ok (.refused .packetProvenanceMismatch tierId verified) := by
  intro h
  unfold dispatchVerified at h
  cases htier : resolveTierId handoff with
  | error error => simp [htier, bind, Except.bind] at h
  | ok tier =>
    simp only [htier, bind, Except.bind, pure, Except.pure] at h
    split at h
    · simp at h
    · split_ifs at h
      · simp at h
      · simp at h
      · simp at h
      · split at h
        · simp at h
        · split at h
          · simp at h
          · simp at h
          · simp [throw, throwThe, MonadExceptOf.throw] at h

/-- What sender and receiver of a handoff make of a packet. The hash that a run's handoff
carries, made with the budget of the run, is the one the dispatch finds with its own
budget, so the dispatch never refuses the handoff for its hash. And as long as SHA-256 does
not collide on the two canonical texts, two packets have one hash exactly when they govern
alike under one mode. -/
theorem packet_hashes_agree (sha256 : Sha256) (locale : TextLocale) (mesh : DecisionMesh) :
    (∀ env run handoff,
      handoffFor sha256 (onMesh sha256 locale mesh env) run = .ok handoff →
        (∃ packet, buildAgentPacket locale mesh (packetInputOf (.ofRun handoff)) = .ok packet ∧
          computePacketHash sha256 (governanceOf packet) none = handoff.packetHash) ∧
        ∀ reserve owner,
          dispatchHandoff reserve owner sha256 locale mesh (.ofRun handoff) =
            dispatchVerified reserve owner (.ofRun handoff) ∧
          ∀ tierId verified,
            dispatchHandoff reserve owner sha256 locale mesh (.ofRun handoff) ≠
              .ok (.refused .packetProvenanceMismatch tierId verified)) ∧
    ∀ packet other routingMode otherMode,
      (sha256.digest (canonicalText packet routingMode) =
          sha256.digest (canonicalText other otherMode) →
        canonicalText packet routingMode = canonicalText other otherMode) →
      (computePacketHash sha256 packet routingMode = computePacketHash sha256 other otherMode ↔
        SameGovernance packet other ∧ routingMode = otherMode) := by
  constructor
  · intro env run handoff h
    have hrebuilt := rebuilt_packet h
    refine ⟨hrebuilt, ?_⟩
    intro reserve owner
    have hpassed : dispatchHandoff reserve owner sha256 locale mesh (.ofRun handoff) =
        dispatchVerified reserve owner (.ofRun handoff) := by
      obtain ⟨packet, hbuilt, hhash⟩ := hrebuilt
      unfold dispatchHandoff
      simp only [hbuilt, bind, Except.bind, pure, Except.pure]
      rw [if_neg]
      rw [not_not]
      exact hhash
    refine ⟨hpassed, ?_⟩
    intro tierId verified
    rw [hpassed]
    exact dispatchVerified_ne_mismatch
  · intro packet other routingMode otherMode hcollision
    constructor
    · intro h
      exact canonicalText_eq_iff.1 (hcollision h)
    · intro h
      unfold computePacketHash
      rw [canonicalText_eq_iff.2 h]

end agreement

/-! A mesh with one node that every packet falls back on, and a packet that lacks one of
its rules. The hash gives the SHA-256 of their two texts. -/

section sample

def sampleLocale : TextLocale where
  toLowerCase text := text.map fun c => if 65 ≤ c ∧ c ≤ 90 then c + 32 else c
  notAfter left right := decide (left ≤ right)
  total left right := by
    simp only [decide_eq_true_eq]
    exact List.le_total left right
  trans left middle right h h' := by
    simp only [decide_eq_true_eq] at h h' ⊢
    exact List.le_trans h h'

def sampleNode : DecisionMeshNode where
  id := js "capability_routing"
  type := js "policy"
  name := js "Capability routing"
  question := js "Which lane?"
  why := js "Lanes differ."
  signals := [js "lane"]
  relatedAgents := [js "architect"]
  relatedFiles := [js "README.md"]
  requiredChecks := [js "tests", js "lint"]
  stopConditions := some [js "scope grows"]

def sampleRule (id : JsString) (mustNotAssume : Option (List JsString)) : DecisionMeshRule where
  id := id
  title := js "Rule"
  appliesTo := [js "capability_routing"]
  instruction := js "Stay bounded."
  severity := .major
  mustNotAssume := mustNotAssume

def sampleMesh : DecisionMesh where
  nodes := [sampleNode]
  edges := []
  rules := [sampleRule (js "stay_in_scope") none,
    sampleRule (js "bounded_work") (some [js "a free lane"])]

def sampleGovernance : GovernanceHashPacket where
  relevantNodes := [js "capability_routing"]
  rules := [js "bounded_work", js "stay_in_scope"]
  requiredChecks := [js "lint", js "tests"]
  stopConditions := [js "scope grows"]
  mustNotAssume := [js "a free lane"]

def samplePoorer : GovernanceHashPacket :=
  { sampleGovernance with rules := [js "bounded_work"] }

def sampleHash : Sha256 where
  digest text :=
    if text = canonicalText sampleGovernance none then
      js "a22669dba8e51f616396641982e130f4aa2fd531386b77bdcb70bef661c7aaec"
    else if text = canonicalText samplePoorer none then
      js "6f85cf8a3bb75737046c0b281abe0a28d073c9ec6e8657a8d22e942edb9e0ea3"
    else List.replicate 64 48
  isHex text := by
    split_ifs
    · decide +kernel
    · decide +kernel
    · decide +kernel

def sampleEnvironment : Environment where
  now := 1
  resolveEnabledProject _ := .ok (js "/work")
  routeAvailable _ _ _ _ _ := true
  buildAgentPacket _ _ _ := .error (JsError.new "no_mesh")

def sampleDraft : RunDraft :=
  RunStore.newDraft
    { projectId := js "project", prompt := js "run", provider := .codexCli, model := none,
      estimatedTokens := .ofNat 9000, requestedArtifacts := [], profile := .dev,
      requestedReasoningEffort := some .high }
    (js "00000000-0000-4000-8000-000000000001") 1 1

/-- The run of the draft, approved by its owner. -/
def sampleRun : RunRecord :=
  { RunStore.newRun sampleDraft none none with
    status := .approved
    approvedRevision := some 1
    approvedBy := some (js "owner")
    approvedAt := some 1 }

/-- The handoff of a run, when there is one. -/
def sampleHandoff (run : RunRecord) : Option GovernedHandoff :=
  (handoffFor sampleHash (onMesh sampleHash sampleLocale sampleMesh sampleEnvironment)
    run).toOption

theorem packet_hashes_agree_sample :
    (∃ handoff, sampleHandoff sampleRun = some handoff ∧
      ∀ tierId verified,
        dispatchHandoff (fun _ => .ok ()) .caller sampleHash sampleLocale sampleMesh
            (.ofRun handoff) ≠ .ok (.refused .packetProvenanceMismatch tierId verified)) ∧
    computePacketHash sampleHash
        { sampleGovernance with requiredChecks := [js "tests", js "lint"] } none =
      computePacketHash sampleHash sampleGovernance none ∧
    computePacketHash sampleHash sampleGovernance none ≠
      computePacketHash sampleHash samplePoorer none := by
  have hagree := packet_hashes_agree sampleHash sampleLocale sampleMesh
  refine ⟨?_, ?_, ?_⟩
  · have hsome : (sampleHandoff sampleRun).isSome = true := by decide +kernel
    rw [Option.isSome_iff_exists] at hsome
    obtain ⟨handoff, hhandoff⟩ := hsome
    refine ⟨handoff, hhandoff, ?_⟩
    unfold sampleHandoff at hhandoff
    cases hrun : handoffFor sampleHash
        (onMesh sampleHash sampleLocale sampleMesh sampleEnvironment) sampleRun with
    | error error =>
      rw [hrun] at hhandoff
      cases hhandoff
    | ok found =>
      rw [hrun] at hhandoff
      cases hhandoff
      exact ((hagree.1 sampleEnvironment sampleRun handoff hrun).2 (fun _ => .ok ()) .caller).2
  · apply (hagree.2 _ sampleGovernance none none ?_).2
    · refine ⟨⟨.refl _, .refl _, ?_, .refl _, .refl _⟩, rfl⟩
      exact List.Perm.swap _ _ []
    · intro _
      decide +kernel
  · intro h
    have hsame := (hagree.2 sampleGovernance samplePoorer none none ?_).1 h
    · exact absurd hsame.1.rules.length_eq (by decide)
    · intro hdigest
      exact absurd hdigest (by decide +kernel)

end sample

end GovernedDispatch

end Autopilot
