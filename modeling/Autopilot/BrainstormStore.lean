/-
The brainstorm store: one brief, the routes it is put to, and how far it got.

A brainstorm is a plan that never changes, fixed when it is created, and a
progress that does: its status, the runs bound to its slots, the conflicts found
and the artifact it ends with. Every write carries a revision. This module is the
store as `brainstormStore.ts` has it, with the token envelope of
`brainstormBudget.ts`.

The numbers of a record are safe natural numbers in every document the store
accepts. A caller can pass others, which the checks in front of each write refuse
as they refuse a zero.
-/
import Autopilot.RunStore

set_option autoImplicit false

namespace Autopilot

open Prog Keyed

/-! ## Brainstorms -/

def maxBrainstorms : ℕ := 256
def maxBriefChars : ℕ := 32000
def maxModelChars : ℕ := 256
def maxIdChars : ℕ := 256
def maxStoredConflicts : ℕ := 256
def maxConflictSummaryChars : ℕ := 32000
def maxFinalArtifactChars : ℕ := 64000

/-- `BrainstormStatus`. -/
inductive BrainstormStatus where
  | draft | approved | fanoutRunning | consolidating | needsArbitration | arbitrating
  | completed | failed | cancelled
  deriving DecidableEq, Repr

/-- `BrainstormStage`. -/
inductive BrainstormStage where
  | fanout | consolidation | arbitration
  deriving DecidableEq, Repr

/-- `BrainstormSlot["state"]`. -/
inductive BrainstormSlotState where
  | planned | created | queued | terminal | released
  deriving DecidableEq, Repr

/-- `BrainstormSlot`. -/
structure BrainstormSlot where
  slotId : JsString
  stage : BrainstormStage
  routeIndex : Option ℕ
  runId : Option JsString
  state : BrainstormSlotState
  deriving DecidableEq

/-- `BrainstormRoute`. -/
structure BrainstormRoute where
  provider : RunProvider
  model : JsString
  reasoningEffort : Option RunReasoningEffort
  estimatedTokens : ℕ
  deriving DecidableEq

/-- `BrainstormConflict`. -/
structure BrainstormConflict where
  conflictId : JsString
  outputRunIds : JsString × JsString
  summary : JsString
  material : Bool
  deriving DecidableEq

/-- `BrainstormTokenEnvelope`. -/
structure BrainstormTokenEnvelope where
  fanoutTokens : ℕ
  consolidationTokens : ℕ
  optionalArbitrationTokens : ℕ
  minimumTokens : ℕ
  maximumTokens : ℕ
  deriving DecidableEq

/-- `approval_state`. -/
inductive BrainstormApprovalState where
  | none | pending | reserved
  deriving DecidableEq, Repr

/-- `BrainstormRecord`. -/
structure BrainstormRecord where
  brainstormId : JsString
  projectId : JsString
  brief : JsString
  routes : List BrainstormRoute
  synthesizerRoute : BrainstormRoute
  arbitrationRoute : Option BrainstormRoute
  tokenEnvelope : BrainstormTokenEnvelope
  childRunIds : List JsString
  consolidationRunId : Option JsString
  arbitrationRunId : Option JsString
  conflicts : List BrainstormConflict
  finalArtifact : Option JsString
  status : BrainstormStatus
  revision : ℕ
  approvalState : BrainstormApprovalState
  orchestrationGroupId : Option JsString
  slots : List BrainstormSlot
  approvedBy : Option JsString
  createdAt : ℕ
  updatedAt : ℕ
  deriving DecidableEq

/-- `BrainstormCreateInput`. -/
structure BrainstormCreateInput where
  projectId : JsString
  brief : JsString
  routes : List BrainstormRoute
  synthesizerRoute : BrainstormRoute
  arbitrationRoute : Option BrainstormRoute
  tokenEnvelope : BrainstormTokenEnvelope

/-! ## `brainstormBudget.ts` -/

/-- `safeTokenSum`, `none` where it throws. -/
def safeTokenSum (left right : ℕ) : Option ℕ :=
  if left + right ≤ maxSafeInteger then some (left + right) else none

/-- `positiveTokenCount`. -/
def positiveTokenCount (value : ℕ) : Bool := value ≤ maxSafeInteger && 0 < value

/-- `estimateBrainstormTokenEnvelope`, `none` where it throws. -/
def estimateBrainstormTokenEnvelope (routes : List BrainstormRoute)
    (consolidationTokens optionalArbitrationTokens : ℕ) : Option BrainstormTokenEnvelope := do
  if routes = [] || !positiveTokenCount consolidationTokens ||
      !(optionalArbitrationTokens ≤ maxSafeInteger : Bool) ||
      !routes.all (fun route => positiveTokenCount route.estimatedTokens) then none
  let fanoutTokens ← routes.foldlM (fun sum route => safeTokenSum sum route.estimatedTokens) 0
  let minimumTokens ← safeTokenSum fanoutTokens consolidationTokens
  let maximumTokens ← safeTokenSum minimumTokens optionalArbitrationTokens
  return {
    fanoutTokens, consolidationTokens, optionalArbitrationTokens, minimumTokens, maximumTokens }

/-! ## What a stored document has to satisfy -/

/-- `SAFE_ID_PATTERN` and the bound of `safeId`:
`/^[A-Za-z0-9][A-Za-z0-9._:-]{0,255}$/`. -/
def safeId (value : JsString) : Bool :=
  let alphanumeric := fun c : UInt16 =>
    (65 ≤ c && c ≤ 90) || (97 ≤ c && c ≤ 122) || (48 ≤ c && c ≤ 57)
  match value with
  | [] => false
  | c :: rest =>
    alphanumeric c && rest.length < maxIdChars &&
      rest.all (fun c => alphanumeric c || c = 46 || c = 95 || c = 58 || c = 45)

/-- `boundedString`. -/
def boundedString (value : JsString) (maximum : ℕ) (allowEmpty : Bool := false) : Bool :=
  value.length ≤ maximum && (allowEmpty || 0 < value.length)

/-- `isBrainstormRoute`. -/
def isBrainstormRoute (route : BrainstormRoute) : Bool :=
  boundedString route.model maxModelChars && route.estimatedTokens ≤ maxSafeInteger &&
    0 < route.estimatedTokens &&
    (if supportedReasoningEfforts route.provider = [] then route.reasoningEffort = none
      else route.reasoningEffort.any (· ∈ supportedReasoningEfforts route.provider))

/-- `isCanonicalEnvelope`. -/
def isCanonicalEnvelope (value : BrainstormTokenEnvelope) (routes : List BrainstormRoute)
    (synthesizerRoute : BrainstormRoute) (arbitrationRoute : Option BrainstormRoute) : Bool :=
  estimateBrainstormTokenEnvelope routes synthesizerRoute.estimatedTokens
    ((arbitrationRoute.map (·.estimatedTokens)).getD 0) = some value

/-- `validConflicts`. -/
def validConflicts (conflicts : List BrainstormConflict) : Bool :=
  decide (conflicts.map (·.conflictId)).Nodup && conflicts.all fun conflict =>
    safeId conflict.conflictId && safeId conflict.outputRunIds.1 &&
      safeId conflict.outputRunIds.2 && conflict.outputRunIds.1 ≠ conflict.outputRunIds.2 &&
      boundedString conflict.summary maxConflictSummaryChars

/-- The slots of a new brainstorm, one for each route and each later stage. -/
def plannedSlots (routeCount : ℕ) (hasArbitration : Bool) : List BrainstormSlot :=
  (List.range routeCount).map (fun index =>
      { slotId := js "fanout-" ++ decimal index, stage := .fanout, routeIndex := some index
        runId := none, state := .planned }) ++
    [{ slotId := js "consolidation", stage := .consolidation, routeIndex := none, runId := none
       state := .planned }] ++
    if hasArbitration then
      [{ slotId := js "arbitration", stage := .arbitration, routeIndex := none, runId := none
         state := .planned }]
    else []

/-- `({ run_id: _run, state: _state, ...slot }) => slot`: what of a slot never
changes. -/
def BrainstormSlot.plan (slot : BrainstormSlot) : JsString × BrainstormStage × Option ℕ :=
  (slot.slotId, slot.stage, slot.routeIndex)

/-- `validSlots`. -/
def validSlots (slots : List BrainstormSlot) (routeCount : ℕ) (hasArbitration : Bool) : Bool :=
  slots.map (·.plan) = (plannedSlots routeCount hasArbitration).map (·.plan) &&
    slots.all (·.runId.all safeId)

/-- `isBrainstormRecord`. -/
def isBrainstormRecord (record : BrainstormRecord) : Bool :=
  safeId record.brainstormId && isProjectId record.projectId &&
    boundedString record.brief maxBriefChars &&
    3 ≤ record.routes.length && record.routes.length ≤ 4 && record.routes.all isBrainstormRoute &&
    decide (record.routes.map (·.provider)).Nodup &&
    isBrainstormRoute record.synthesizerRoute && record.arbitrationRoute.all isBrainstormRoute &&
    isCanonicalEnvelope record.tokenEnvelope record.routes record.synthesizerRoute
      record.arbitrationRoute &&
    record.childRunIds.length ≤ record.routes.length && record.childRunIds.all safeId &&
    decide record.childRunIds.Nodup &&
    record.consolidationRunId.all safeId && record.arbitrationRunId.all safeId &&
    (record.arbitrationRoute.isSome || record.arbitrationRunId.isNone) &&
    record.conflicts.length ≤ maxStoredConflicts && validConflicts record.conflicts &&
    record.finalArtifact.all (boundedString · maxFinalArtifactChars true) &&
    record.revision ≤ maxSafeInteger && 1 ≤ record.revision &&
    record.orchestrationGroupId.all safeId &&
    validSlots record.slots record.routes.length record.arbitrationRoute.isSome &&
    record.approvedBy.all safeId

/-- `isBrainstormStoreDocument`. -/
def isBrainstormStoreDocument (brainstorms : List BrainstormRecord) : Bool :=
  brainstorms.length ≤ maxBrainstorms && brainstorms.all isBrainstormRecord &&
    decide (brainstorms.map (·.brainstormId)).Nodup

/-- `BrainstormStoreDocument`: brainstorms the loader accepts. -/
structure BrainstormStore where
  brainstorms : List BrainstormRecord
  valid : isBrainstormStoreDocument brainstorms = true
  deriving DecidableEq

/-- What a missing file reads as. -/
def BrainstormStore.empty : BrainstormStore := ⟨[], by decide⟩

/-! ## Reading and writing -/

/-- `sameImmutableFields`. -/
def sameImmutableFields (existing replacement : BrainstormRecord) : Bool :=
  existing.brainstormId = replacement.brainstormId &&
    existing.projectId = replacement.projectId &&
    existing.brief = replacement.brief &&
    existing.routes = replacement.routes &&
    existing.synthesizerRoute = replacement.synthesizerRoute &&
    existing.arbitrationRoute = replacement.arbitrationRoute &&
    existing.tokenEnvelope = replacement.tokenEnvelope &&
    existing.slots.map (·.plan) = replacement.slots.map (·.plan) &&
    existing.createdAt = replacement.createdAt

/-- What `assertCreateInput` throws. -/
def createInputRefusal (input : BrainstormCreateInput) : Option JsError :=
  if input.routes.length < 3 || input.routes.length > 4 then
    some (JsError.new "brainstorm_route_count")
  else if !input.routes.all isBrainstormRoute then some (JsError.new "invalid_brainstorm")
  else if !decide (input.routes.map (·.provider)).Nodup then
    some (JsError.new "brainstorm_provider_duplicate")
  else if !isProjectId input.projectId || !boundedString input.brief maxBriefChars ||
      !isBrainstormRoute input.synthesizerRoute ||
      !input.arbitrationRoute.all isBrainstormRoute then
    some (JsError.new "invalid_brainstorm")
  else if !isCanonicalEnvelope input.tokenEnvelope input.routes input.synthesizerRoute
      input.arbitrationRoute then
    some (JsError.new "brainstorm_token_envelope_noncanonical")
  else none

namespace BrainstormStore

/-- `writeBrainstormStore`. A document above the size limit of the file is one
more way for the write to throw. -/
def write (next : List BrainstormRecord) : Proc BrainstormStore Unit :=
  if h : isBrainstormStoreDocument next = true then Host.write fun _ => ⟨next, h⟩
  else throw (JsError.new "invalid_brainstorm_store")

/-- The record of a brainstorm, or `brainstorm_not_found`. -/
def get (brainstormId : JsString) : Proc BrainstormStore BrainstormRecord := do
  let store ← Host.read
  match lookup BrainstormRecord.brainstormId store.brainstorms brainstormId with
  | some record => return record
  | none => throw (JsError.new "brainstorm_not_found")

/-- The record of a new brainstorm. -/
def newBrainstorm (input : BrainstormCreateInput) (createdAt : ℕ) (id : Uuid) :
    BrainstormRecord where
  brainstormId := id.text
  projectId := input.projectId
  brief := input.brief
  routes := input.routes
  synthesizerRoute := input.synthesizerRoute
  arbitrationRoute := input.arbitrationRoute
  tokenEnvelope := input.tokenEnvelope
  childRunIds := []
  consolidationRunId := none
  arbitrationRunId := none
  conflicts := []
  finalArtifact := none
  status := .draft
  revision := 1
  approvalState := .none
  orchestrationGroupId := none
  slots := plannedSlots input.routes.length input.arbitrationRoute.isSome
  approvedBy := none
  createdAt
  updatedAt := createdAt

/-- `createBrainstorm`. A text that names no instant is `none`. -/
def createBrainstorm (input : BrainstormCreateInput) (createdAt : Option ℕ) :
    Proc BrainstormStore BrainstormRecord := do
  match createInputRefusal input, createdAt with
  | some error, _ => throw error
  | none, none => throw (JsError.new "invalid_brainstorm")
  | none, some createdAt =>
    let store ← Host.read
    throwIf (store.brainstorms.length ≥ maxBrainstorms) (JsError.new "brainstorm_limit")
    let id ← randomUUID
    let record := newBrainstorm input createdAt id
    write (store.brainstorms ++ [record])
    return record

/-- `replaceBrainstorm`. -/
def replaceBrainstorm (record : BrainstormRecord) : Proc BrainstormStore BrainstormRecord := do
  throwIf (!isBrainstormRecord record) (JsError.new "invalid_brainstorm")
  let existing ← get record.brainstormId
  throwIf (!sameImmutableFields existing record) (JsError.new "brainstorm_immutable_fields")
  throwIf (record.revision ≠ existing.revision + 1) (JsError.new "brainstorm_revision_conflict")
  let store ← Host.read
  write (store.brainstorms.map (put BrainstormRecord.brainstormId record))
  return record

/-- `compareAndSwapBrainstorm`. The function of the caller gets a copy of the
record, and may throw. -/
def compareAndSwapBrainstorm (brainstormId : JsString) (expectedRevision : JsNumber)
    (mutate : BrainstormRecord → Except JsError BrainstormRecord) :
    Proc BrainstormStore BrainstormRecord := do
  let current ← get brainstormId
  throwIf (!expectedRevision.isNat current.revision) (JsError.new "brainstorm_revision_conflict")
  let proposed ← ofExcept (mutate current)
  let replacement := { proposed with revision := current.revision + 1 }
  throwIf (!isBrainstormRecord replacement) (JsError.new "invalid_brainstorm")
  throwIf (!sameImmutableFields current replacement) (JsError.new "brainstorm_immutable_fields")
  let store ← Host.read
  write (store.brainstorms.map (put BrainstormRecord.brainstormId replacement))
  return replacement

end BrainstormStore

end Autopilot
