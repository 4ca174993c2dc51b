/-
Promotion packets and the production runs they are for.

A completed development run is promoted by a packet. The packet is approved or
rejected, its verification is recorded, a production run is drafted for it, and when
that run is completed the packet is published. The packet is in one store and the
run in another one; the run names its packet, and the packet names the run only when
it is published.

This module is `promotionPacket.ts` with the routes of the control plane that write
both stores. The redaction of a text is a parameter: the store only asks whether a
text is left as it is. The limit of the file's size is one of the ways a write fails.
-/
import Autopilot.Lib.JsonText
import Autopilot.RunOrchestrator
import Autopilot.RunHistories

set_option autoImplicit false

namespace Autopilot

namespace Promotions

open Prog Keyed

/-! ## Packets -/

/-- `PromotionStatus`. -/
inductive PromotionStatus where
  | promotionPending | approved | rejected | published | rolledBack
  deriving DecidableEq, Repr

/-- `PromotionApproval`. -/
structure PromotionApproval where
  approver : JsString
  approvedAt : ℕ
  reviewRef : JsString
  deriving DecidableEq

/-- `PromotionPublishEvidence`. -/
structure PromotionPublishEvidence where
  prodRunId : JsString
  fullVerificationRef : JsString
  releaseAcceptanceRef : JsString
  rollbackRef : JsString
  deriving DecidableEq

/-- `PromotionPacket`. -/
structure PromotionPacket where
  packetId : JsString
  sourceRunId : JsString
  sourceRevision : ℕ
  intent : JsString
  artifactHash : JsString
  artifactRef : JsString
  diffSummary : JsString
  tests : List JsString
  risks : List JsString
  approvals : List PromotionApproval
  prodRunId : Option JsString
  fullVerificationRef : Option JsString
  releaseAcceptanceRef : Option JsString
  rollbackRef : Option JsString
  status : PromotionStatus
  createdAt : ℕ
  updatedAt : ℕ
  deriving DecidableEq

def maxPackets : ℕ := 256
def maxIntent : ℕ := 2000
def maxDiff : ℕ := 32000
def maxTests : ℕ := 32
def maxRisks : ℕ := 20
def maxListItem : ℕ := 512
def maxApprovals : ℕ := 8
def maxId : ℕ := 256
def maxRef : ℕ := 2000

/-! ## What a stored packet has to satisfy -/

/-- `redactTelemetryText(value, maxChars)`. -/
abbrev Redaction := JsString → ℕ → JsString

/-- `boundedString`. -/
def boundedString (value : JsString) (maximum : ℕ) : Bool :=
  trim value ≠ [] && value.length ≤ maximum

section redaction

variable (redact : Redaction)

/-- `safeStoredString`. -/
def safeStoredString (value : JsString) (maximum : ℕ) : Bool :=
  boundedString value maximum && redact value maximum = value

/-- `nullableSafeStoredString`. -/
def nullableSafeStoredString (value : Option JsString) (maximum : ℕ) : Bool :=
  value.all (safeStoredString redact · maximum)

/-- `safeStoredList`. -/
def safeStoredList (values : List JsString) (maximumItems : ℕ) : Bool :=
  values.length ≤ maximumItems && values.all (safeStoredString redact · maxListItem)

/-- `isApproval`. -/
def isApproval (approval : PromotionApproval) : Bool :=
  safeStoredString redact approval.approver maxId &&
    safeStoredString redact approval.reviewRef maxRef

/-- What the status of a packet says of its approvals and its evidence. -/
def evidenceFits (packet : PromotionPacket) : Bool :=
  let noEvidence := packet.prodRunId = none && packet.fullVerificationRef = none &&
    packet.releaseAcceptanceRef = none && packet.rollbackRef = none
  match packet.status with
  | .promotionPending | .rejected => packet.approvals = [] && noEvidence
  | .approved =>
    packet.approvals ≠ [] && packet.prodRunId = none && packet.releaseAcceptanceRef = none &&
      packet.rollbackRef = none
  | .published | .rolledBack =>
    packet.approvals ≠ [] && packet.prodRunId ≠ none && packet.fullVerificationRef ≠ none &&
      packet.releaseAcceptanceRef ≠ none && packet.rollbackRef ≠ none

/-- `isPromotionPacket`. -/
def isPromotionPacket (packet : PromotionPacket) : Bool :=
  boundedString packet.packetId maxId && boundedString packet.sourceRunId maxId &&
    packet.sourceRevision ≤ maxSafeInteger && 1 ≤ packet.sourceRevision &&
    safeStoredString redact packet.intent maxIntent && isHexDigest packet.artifactHash &&
    safeStoredString redact packet.artifactRef maxRef &&
    safeStoredString redact packet.diffSummary maxDiff &&
    safeStoredList redact packet.tests maxTests && safeStoredList redact packet.risks maxRisks &&
    packet.approvals.length ≤ maxApprovals && packet.approvals.all (isApproval redact) &&
    nullableSafeStoredString redact packet.prodRunId maxId &&
    nullableSafeStoredString redact packet.fullVerificationRef maxRef &&
    nullableSafeStoredString redact packet.releaseAcceptanceRef maxRef &&
    nullableSafeStoredString redact packet.rollbackRef maxRef && evidenceFits packet

/-- `parsePromotionStore`. -/
def isPromotionStore (packets : List PromotionPacket) : Bool :=
  packets.length ≤ maxPackets && packets.all (isPromotionPacket redact) &&
    decide (packets.map (·.packetId)).Nodup

/-- `PromotionStoreDocument`. -/
structure PromotionStore where
  packets : List PromotionPacket
  valid : isPromotionStore redact packets = true
  deriving DecidableEq

/-- What a missing file reads as. -/
def PromotionStore.empty : PromotionStore redact := ⟨[], by simp [isPromotionStore, maxPackets]⟩

/-! ## Writing packets -/

/-- `boundedRedactedText`. -/
def boundedRedactedText (value : JsString) (maximum : ℕ) : Except JsError JsString :=
  if trim value = [] then .error (JsError.new "invalid_promotion_packet")
  else
    let redacted := redact value maximum
    if boundedString redacted maximum then .ok redacted
    else .error (JsError.new "invalid_promotion_packet")

/-- `boundedRedactedList`. -/
def boundedRedactedList (values : List JsString) (maximumItems : ℕ) :
    Except JsError (List JsString) :=
  if values.length > maximumItems then .error (JsError.new "invalid_promotion_packet")
  else values.mapM (boundedRedactedText redact · maxListItem)

variable {redact}

/-- `writePromotionStore`. -/
def writePromotionStore (packets : List PromotionPacket) : Proc (PromotionStore redact) Unit :=
  if h : isPromotionStore redact packets = true then Host.write fun _ => ⟨packets, h⟩
  else throw (JsError.new "invalid_promotion_store")

/-- `transition`. No two packets share an identifier, so the one that was found is the
one that is replaced. -/
def transition (packetId : JsString)
    (update : PromotionPacket → Except JsError PromotionPacket) :
    Proc (PromotionStore redact) PromotionPacket := do
  throwIf (¬ boundedString packetId maxId) (JsError.new "promotion_not_found")
  let store ← Host.read
  match lookup PromotionPacket.packetId store.packets packetId with
  | none => throw (JsError.new "promotion_not_found")
  | some packet =>
    let next ← ofExcept (update packet)
    writePromotionStore (store.packets.map (put PromotionPacket.packetId next))
    return next

/-- The material of `artifactHash`: the run, its revision and its artifacts, as JSON. -/
def artifactMaterial (run : RunRecord) : JsString :=
  let typeText : RunArtifactType → JsString
    | .text => js "text"
    | .visual => js "visual"
  let field (key : String) (value : JsString) : JsString :=
    JsonText.quoted (js key) ++ [58] ++ value
  let artifactText (artifact : RunArtifact) : JsString :=
    [123] ++ field "id" (JsonText.quoted artifact.artifactId) ++ [44] ++
      field "type" (JsonText.quoted (typeText artifact.type)) ++ [44] ++
      field "preview" (JsonText.quoted artifact.preview) ++ [125]
  [123] ++ field "run" (JsonText.quoted run.runId) ++ [44] ++
    field "rev" (decimal run.current.revision) ++ [44] ++
    field "artifacts" (JsonText.array artifactText run.artifacts) ++ [125]

/-- The texts a packet is built with. -/
structure PromoteInput where
  intent : JsString
  diffSummary : JsString
  tests : List JsString
  risks : List JsString

/-- `buildPromotionPacket`. -/
def buildPromotionPacket (sha256 : Sha256) (run : RunRecord) (input : PromoteInput)
    (now : ℕ) : Proc (PromotionStore redact) PromotionPacket := do
  throwIf (run.status ≠ .completed) (JsError.new "promotion_source_not_completed")
  throwIf (run.current.profile ≠ .dev) (JsError.new "promotion_source_not_dev")
  throwIf (¬ boundedString run.runId maxId ∨ run.current.revision > maxSafeInteger ∨
    run.current.revision < 1) (JsError.new "invalid_promotion_packet")
  let intent ← ofExcept (boundedRedactedText redact input.intent maxIntent)
  let diffSummary ← ofExcept (boundedRedactedText redact input.diffSummary maxDiff)
  let tests ← ofExcept (boundedRedactedList redact input.tests maxTests)
  let risks ← ofExcept (boundedRedactedList redact input.risks maxRisks)
  let store ← Host.read
  throwIf (store.packets.length ≥ maxPackets) (JsError.new "promotion_limit")
  let uuid ← randomUUID
  let packet : PromotionPacket :=
    { packetId := js "promo-" ++ run.runId ++ js "-" ++ decimal run.current.revision ++ js "-" ++
        uuid.text.take 8
      sourceRunId := run.runId
      sourceRevision := run.current.revision
      intent
      artifactHash := sha256.digest (artifactMaterial run)
      artifactRef := js "run:" ++ run.runId ++ js "@" ++ decimal run.current.revision
      diffSummary, tests, risks
      approvals := []
      prodRunId := none, fullVerificationRef := none, releaseAcceptanceRef := none
      rollbackRef := none
      status := .promotionPending
      createdAt := now, updatedAt := now }
  writePromotionStore (store.packets ++ [packet])
  return packet

/-- `approvePromotion`. -/
def approvePromotion (packetId : JsString) (approval : PromotionApproval) (now : ℕ) :
    Proc (PromotionStore redact) PromotionPacket := do
  throwIf (¬ boundedString approval.approver maxId ∨ ¬ boundedString approval.reviewRef maxRef)
    (JsError.new "promotion_not_approved")
  let approver ← ofExcept (boundedRedactedText redact approval.approver maxId)
  let reviewRef ← ofExcept (boundedRedactedText redact approval.reviewRef maxRef)
  transition packetId fun packet =>
    if packet.status ≠ .promotionPending then
      .error (JsError.new "invalid_promotion_transition")
    else
      .ok { packet with
        approvals := [{ approver, approvedAt := approval.approvedAt, reviewRef }]
        status := .approved, updatedAt := now }

/-- `rejectPromotion`. -/
def rejectPromotion (packetId : JsString) (now : ℕ) :
    Proc (PromotionStore redact) PromotionPacket :=
  transition packetId fun packet =>
    if packet.status ≠ .promotionPending then
      .error (JsError.new "invalid_promotion_transition")
    else .ok { packet with status := .rejected, updatedAt := now }

/-- `recordPromotionVerification`. -/
def recordPromotionVerification (packetId fullVerificationRef : JsString) (now : ℕ) :
    Proc (PromotionStore redact) PromotionPacket := do
  throwIf (¬ boundedString fullVerificationRef maxRef) (JsError.new "promotion_evidence_required")
  let normalized ← ofExcept (boundedRedactedText redact fullVerificationRef maxRef)
  transition packetId fun packet =>
    if packet.status ≠ .approved ∨ packet.approvals = [] then
      .error (JsError.new "promotion_not_approved")
    else if packet.fullVerificationRef.any (· ≠ normalized) then
      .error (JsError.new "promotion_verification_mismatch")
    else .ok { packet with fullVerificationRef := some normalized, updatedAt := now }

/-- `markPromotionPublished`. -/
def markPromotionPublished (packetId : JsString) (evidence : PromotionPublishEvidence)
    (now : ℕ) : Proc (PromotionStore redact) PromotionPacket := do
  throwIf (¬ ([evidence.prodRunId, evidence.fullVerificationRef, evidence.releaseAcceptanceRef,
    evidence.rollbackRef].all (boundedString · maxRef))) (JsError.new "promotion_evidence_required")
  let prodRunId ← ofExcept (boundedRedactedText redact evidence.prodRunId maxId)
  let fullVerificationRef ← ofExcept
    (boundedRedactedText redact evidence.fullVerificationRef maxRef)
  let releaseAcceptanceRef ← ofExcept
    (boundedRedactedText redact evidence.releaseAcceptanceRef maxRef)
  let rollbackRef ← ofExcept (boundedRedactedText redact evidence.rollbackRef maxRef)
  transition packetId fun packet =>
    if packet.status ≠ .approved ∨ packet.approvals = [] ∨ packet.fullVerificationRef = none then
      .error (JsError.new "promotion_not_ready")
    else if packet.fullVerificationRef ≠ some fullVerificationRef then
      .error (JsError.new "promotion_verification_mismatch")
    else
      .ok { packet with
        prodRunId := some prodRunId, fullVerificationRef := some fullVerificationRef
        releaseAcceptanceRef := some releaseAcceptanceRef, rollbackRef := some rollbackRef
        status := .published, updatedAt := now }

/-- `markPromotionRolledBack`. -/
def markPromotionRolledBack (packetId : JsString) (now : ℕ) :
    Proc (PromotionStore redact) PromotionPacket :=
  transition packetId fun packet =>
    if packet.status ≠ .published then .error (JsError.new "promotion_not_published")
    else .ok { packet with status := .rolledBack, updatedAt := now }

end redaction

/-! ## The routes of the control plane -/

/-- The stores of the orchestrator and the packets. -/
structure Plane (options : OrchestratorOptions) (redact : Redaction) where
  world : World options
  promotions : PromotionStore redact
  deriving DecidableEq

section plane

variable {options : OrchestratorOptions} {redact : Redaction} {α : Type}

def worldLens : Lens (Plane options redact) (World options) where
  get := Plane.world
  set plane world := { plane with world }
  get_set _ _ := rfl
  set_get _ := rfl
  set_set _ _ _ := rfl

def promotionsLens : Lens (Plane options redact) (PromotionStore redact) where
  get := Plane.promotions
  set plane promotions := { plane with promotions }
  get_set _ _ := rfl
  set_get _ := rfl
  set_set _ _ _ := rfl

/-- A function of the orchestrator. -/
def inWorld (p : Proc (World options) α) : Proc (Plane options redact) α :=
  zoom (Host.lens worldLens) p

/-- A function of the promotion store. -/
def inPromotions (p : Proc (PromotionStore redact) α) : Proc (Plane options redact) α :=
  zoom (Host.lens promotionsLens) p

/-- `new HttpError(409, code)`. -/
def conflict (code : String) : JsError := .error (js "HttpError") (js code)

/-- What a packet has to be for a draft of its production run. -/
def readyFor (packet : PromotionPacket) (fullVerificationRef : JsString) : Bool :=
  packet.status = .approved && packet.approvals.any (·.approver = js "owner") &&
    packet.prodRunId = none && packet.fullVerificationRef = some fullVerificationRef

/-- `createProdDraft`. A reference that is no text is no reference. -/
def createProdDraft (env : Environment) (input : RunDraftInput)
    (fullVerificationRef : Option JsString) : Proc (Plane options redact) RunRecord :=
  match input.promotionPacketId, fullVerificationRef with
  | some packetId, some fullVerificationRef => do
    throwIf (packetId = [] ∨ fullVerificationRef = []) (conflict "promotion_evidence_required")
    let plane ← Host.read
    match lookup PromotionPacket.packetId plane.promotions.packets packetId with
    | none => throw (conflict "promotion_not_found")
    | some packet =>
      let alreadyLinked := plane.world.runs.runs.any
        (·.current.promotionPacketId = some packetId)
      throwIf (¬ readyFor packet fullVerificationRef ∨ alreadyLinked)
        (conflict "promotion_not_ready")
      inWorld (prepareRun env input)
  | _, _ => throw (conflict "promotion_evidence_required")

/-- `reviseProdDraft`. -/
def reviseProdDraft (env : Environment) (runId : JsString) (revision : ℕ)
    (input : RunDraftInput) (fullVerificationRef : Option JsString) :
    Proc (Plane options redact) RunRecord := do
  let plane ← Host.read
  match lookup RunRecord.runId plane.world.runs.runs runId, input.promotionPacketId,
      fullVerificationRef with
  | some existing, some packetId, some fullVerificationRef =>
    throwIf (existing.current.profile ≠ .prod ∨ input.profile ≠ .prod ∨
      existing.current.promotionPacketId ≠ some packetId ∨ fullVerificationRef = [])
      (conflict "promotion_not_ready")
    let packet := lookup PromotionPacket.packetId plane.promotions.packets packetId
    let duplicate := plane.world.runs.runs.any fun run =>
      run.runId ≠ runId && run.current.promotionPacketId = some packetId
    throwIf (¬ packet.any (readyFor · fullVerificationRef) ∨ duplicate)
      (conflict "promotion_not_ready")
    inWorld (reviseRunWithApproval env runId revision input)
  | _, _, _ => throw (conflict "promotion_not_ready")

/-- The route that creates a run. -/
def createRun (env : Environment) (input : RunDraftInput)
    (fullVerificationRef : Option JsString) : Proc (Plane options redact) RunRecord :=
  if input.profile = .prod then createProdDraft env input fullVerificationRef
  else inWorld (prepareRun env input)

/-- The route that revises a run. -/
def reviseRun (env : Environment) (runId : JsString) (revision : ℕ) (input : RunDraftInput)
    (fullVerificationRef : Option JsString) : Proc (Plane options redact) RunRecord := do
  throwIf (¬ env.routeAvailable input.provider input.model input.profile
    input.requestedReasoningEffort false) (conflict "run_route_unavailable")
  let plane ← Host.read
  match lookup RunRecord.runId plane.world.runs.runs runId with
  | none => throw (conflict "run_not_found")
  | some existing =>
    if existing.current.profile = .prod ∨ input.profile = .prod then
      reviseProdDraft env runId revision input fullVerificationRef
    else inWorld (reviseRunWithApproval env runId revision input)

/-- The check of `publishPromotion`: the run of the evidence is a completed production run
of the packet. -/
def publishable (runs : List RunRecord) (packetId : JsString)
    (evidence : PromotionPublishEvidence) : Bool :=
  (lookup RunRecord.runId runs evidence.prodRunId).any fun run =>
    run.status = .completed && run.current.profile = .prod &&
      run.current.promotionPacketId = some packetId

/-- `publishPromotion`. -/
def publishPromotion (packetId : JsString) (evidence : PromotionPublishEvidence) (now : ℕ) :
    Proc (Plane options redact) PromotionPacket := do
  let plane ← Host.read
  throwIf (¬ publishable plane.world.runs.runs packetId evidence)
    (conflict "promotion_not_ready")
  inPromotions (markPromotionPublished packetId evidence now)

end plane

end Promotions

end Autopilot
