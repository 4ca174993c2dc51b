/-
The coordinator of a brainstorm: which outputs it puts before the consolidator, and how it reads
the answer.

The outputs go into one prompt under labels, in the order of the fanout slots. The answer names
outputs by these labels, and the coordinator turns a label back into the run of a slot. Between
the two the record of the brainstorm is written again and again, by this call and by others.

This module is `terminalText`, `assertBoundRun`, `bindSlot`, `parseConsolidation` and the writes of
`brainstormCoordinator.ts`, with the fanout and the consolidation stage of `tick`. `SHA-256` is a
parameter. A number of the answer is the decimal it is spelled as, and what is asked of it is asked
of the double that this decimal is rounded to.
-/
import Autopilot.BrainstormPrompts
import Autopilot.BrainstormWriters
import Autopilot.OpenRouterLedgers

set_option autoImplicit false

namespace Autopilot
namespace Coordinator

open JsonText (Decimal Value member)
open OpenRouterLedgers (isFinite isNonNegative)

def maxResultBytes : ℕ := 24000
def maxConsensus : ℕ := 64
def maxConflicts : ℕ := 64
def maxItemChars : ℕ := 2000
def maxFinalChars : ℕ := 16000

/-! ## The runs of the slots -/

/-- `record.slots.filter((slot) => slot.stage === "fanout")` -/
def fanoutSlots (record : BrainstormRecord) : List BrainstormSlot :=
  record.slots.filter (·.stage = .fanout)

/-- `routeForSlot`. A route that is missing is noticed when its provider is read. -/
def routeForSlot (record : BrainstormRecord) (slot : BrainstormSlot) :
    Except JsError BrainstormRoute :=
  match slot.stage, slot.routeIndex, record.arbitrationRoute with
  | .fanout, some index, _ =>
    match record.routes[index]? with
    | some route => .ok route
    | none => .error (.error (js "TypeError") (js "Cannot read properties of undefined"))
  | .consolidation, _, _ => .ok record.synthesizerRoute
  | .arbitration, _, some route => .ok route
  | _, _, _ => .error (JsError.new "brainstorm_slot_route_missing")

/-- The run is the one that was made for the slot. -/
def isBoundRun (record : BrainstormRecord) (slot : BrainstormSlot) (route : BrainstormRoute)
    (run : RunRecord) : Bool :=
  slot.runId = some run.runId &&
    run.orchestrationRef.any (fun ref =>
      record.orchestrationGroupId = some ref.groupId && ref.slotId = slot.slotId) &&
    run.current.revision = 1 && run.revisions.length = 1 &&
    run.current.provider = route.provider && run.current.model = some route.model &&
    run.current.requestedReasoningEffort = route.reasoningEffort &&
    run.orchestrationRequest.any (·.estimatedTokens = route.estimatedTokens) &&
    (slot.stage ≠ .fanout || run.current.prompt = record.brief)

/-- `assertBoundRun`. -/
def assertBoundRun (record : BrainstormRecord) (slot : BrainstormSlot) (run : Option RunRecord) :
    Except JsError RunRecord := do
  let route ← routeForSlot record slot
  match run with
  | some run =>
    if isBoundRun record slot route run then return run
    else throw (JsError.new "brainstorm_child_run_mismatch")
  | none => throw (JsError.new "brainstorm_child_run_mismatch")

/-- `runs.find((run) => run.current.run_id === slot.run_id)` -/
def runOf (runs : List RunRecord) (slot : BrainstormSlot) : Option RunRecord :=
  runs.find? fun run => some run.runId = slot.runId

/-- `terminalText`. -/
def terminalText (run : RunRecord) : Option JsString :=
  if run.status ≠ .completed then none
  else
    match run.providerResult with
    | some (.accepted worker) =>
      if some worker.workerRunId ≠ run.workerRunId then none
      else
        match run.artifacts.find? (·.artifactId = js "text-" ++ worker.workerRunId) with
        | some artifact =>
          if artifact.type ≠ .text then none
          else if artifact.preview ≠ worker.rawOutput then none
          else some artifact.preview
        | none => none
    | _ => none

/-- What a stage of `tick` finds. -/
inductive Stage (α : Type) where
  | failed
  | waiting
  | done (result : α)

/-- The fanout stage of `tick`, up to the outputs that `ensureConsolidation` is given. -/
def fanoutStage (record : BrainstormRecord) (runs : List RunRecord) :
    Except JsError (Stage (List JsString)) := do
  let children ← (fanoutSlots record).mapM fun slot =>
    assertBoundRun record slot (runOf runs slot)
  if children.any fun run => run.status = .failed || run.status = .cancelled then return .failed
  match children.mapM terminalText with
  | some outputs => return .done outputs
  | none => return .waiting

/-! ## The answer of the consolidator -/

/-- `exactObject`, with the members. -/
def exactObject (value : Value) (keys : List JsString) : Option (List (JsString × Value)) :=
  match value with
  | .object members => if (members.map (·.1)).dedup.Perm keys then some members else none
  | _ => none

/-- `bounded`, with the text. -/
def boundedText (value : Option Value) (maximum : ℕ) (allowEmpty : Bool := false) :
    Option JsString :=
  match value with
  | some (.string text) =>
    if text.length ≤ maximum && (allowEmpty || 0 < text.length) then some text else none
  | _ => none

/-- `value <= 1`: a decimal up to half of a step above it is rounded to it. -/
def isAtMostOne (n : Decimal) : Bool :=
  n.negative ||
    (if 0 ≤ n.scale then n.coefficient * 10 ^ n.scale.toNat ≤ 1
      else n.coefficient * 2 ^ 53 ≤ (2 ^ 53 + 1) * 10 ^ (-n.scale).toNat)

/-- A confidence that is a number from 0 to 1. -/
def isConfidence : Option Value → Bool
  | some (.number n) => isFinite n && isNonNegative n && isAtMostOne n
  | _ => false

/-- The output that a label names: `/^[A-D]$/`, of one of `count` outputs. -/
def labelIndex (count : ℕ) : Value → Option ℕ
  | .string [c] => if 65 ≤ c ∧ c ≤ 68 ∧ c.toNat - 65 < count then some (c.toNat - 65) else none
  | _ => none

/-- Two labels that are not the same. -/
def labelPair (count : ℕ) : Option Value → Option (ℕ × ℕ)
  | some (.array [first, second]) =>
    match labelIndex count first, labelIndex count second with
    | some i, some j => if i ≠ j then some (i, j) else none
    | _, _ => none
  | _ => none

/-- `conflict_id`. -/
def conflictId (sha256 : JsString → JsString) (index : ℕ) (ids : JsString × JsString)
    (summary : JsString) : JsString :=
  js "bsc-" ++ (sha256 (decimal index ++ 0 :: (ids.1 ++ 0 :: ids.2) ++ 0 :: summary)).take 32

/-- A conflict of the answer. -/
def parseConflict (sha256 : JsString → JsString) (childRunIds : List JsString) (item : Value)
    (index : ℕ) : Option BrainstormConflict := do
  let conflict ← exactObject item [js "output_labels", js "summary", js "material"]
  let (i, j) ← labelPair childRunIds.length (member conflict (js "output_labels"))
  let summary ← boundedText (member conflict (js "summary")) maxItemChars
  let ids := (childRunIds.getD i [], childRunIds.getD j [])
  match member conflict (js "material") with
  | some (.bool material) =>
    return {
      conflictId := conflictId sha256 index ids summary, outputRunIds := ids, summary, material }
  | _ => none

/-- What `parseConsolidation` returns. -/
structure Consolidation where
  conflicts : List BrainstormConflict
  final : JsString
  material : Bool

/-- `parseConsolidation`; every refusal is the same error. -/
def parseConsolidation (sha256 : JsString → JsString) (text : JsString)
    (childRunIds : List JsString) : Option Consolidation :=
  if utf8Length text > maxResultBytes then none
  else do
    let value ← JsonText.parse text
    let result ← exactObject value [js "consensus", js "conflicts", js "confidence", js "final"]
    match member result (js "consensus"), member result (js "conflicts") with
    | some (.array consensus), some (.array conflicts) =>
      if consensus.length > maxConsensus ||
          !consensus.all (fun item => (boundedText (some item) maxItemChars).isSome) ||
          conflicts.length > maxConflicts || !isConfidence (member result (js "confidence")) then
        none
      else
        let final ← boundedText (member result (js "final")) maxFinalChars true
        let conflicts ← conflicts.zipIdx.mapM fun (item, index) =>
          parseConflict sha256 childRunIds item index
        return { conflicts, final, material := conflicts.any (·.material) }
    | _, _ => none

/-- The consolidation stage of `tick`, up to what it writes. -/
def consolidationStage (sha256 : JsString → JsString) (record : BrainstormRecord)
    (runs : List RunRecord) : Except JsError (Stage Consolidation) := do
  match record.slots.find? (·.stage = .consolidation) with
  | none => throw (.error (js "TypeError") (js "Cannot read properties of undefined"))
  | some slot =>
    let run ← assertBoundRun record slot (runOf runs slot)
    if run.status = .failed || run.status = .cancelled then return .failed
    match terminalText run with
    | none => return .waiting
    | some text =>
      match parseConsolidation sha256 text record.childRunIds with
      | some parsed => return .done parsed
      | none => return .failed

/-! ## What is written -/

/-- A write of the coordinator, with what comes from outside of the record. -/
inductive CoordinatorWrite where
  /-- `approve`, before the group is reserved. -/
  | approve (groupId operator : JsString)
  /-- `approve`, after the group is reserved. -/
  | reserve
  /-- `bindSlot`. -/
  | bind (slotId runId : JsString)
  /-- `approve` at its end, `markFailed`, `ensureArbitration` and `cancel`. -/
  | setStatus (status : BrainstormStatus)
  /-- `tick`, when every run of the fanout is completed. -/
  | finishFanout (runs : List RunRecord)
  /-- `ensureConsolidation`, for the outputs of a record that was read before, and its runs. -/
  | consolidate (asked : BrainstormRecord) (runs : List RunRecord)
  /-- `tick`, on the answer of the consolidator. -/
  | finishConsolidation (runs : List RunRecord)
  /-- `tick`, on the resolution of the arbiter. -/
  | finishArbitration (resolution : JsString)

/-- `tick` takes a record for one in this status. -/
def isIn (status : BrainstormStatus) (record : BrainstormRecord) : Bool :=
  record.status = status && record.approvalState = .reserved

/-- The slots, those of one stage being done with. -/
def withTerminal (stage : BrainstormStage) (slots : List BrainstormSlot) : List BrainstormSlot :=
  slots.map fun slot => if slot.stage = stage then { slot with state := .terminal } else slot

/-- `child_run_ids` of the slots. -/
def boundRunIds (slots : List BrainstormSlot) : List JsString :=
  (slots.filter (·.stage = .fanout)).filterMap (·.runId)

/-- The slots, one of them bound to a run. -/
def withRun (slotId runId : JsString) (slots : List BrainstormSlot) : List BrainstormSlot :=
  slots.map fun item =>
    if item.slotId = slotId then { item with runId := some runId, state := .queued } else item

/-- The record that `bindSlot` puts in place of the one it read. -/
def bindSlot (record : BrainstormRecord) (slotId runId : JsString) :
    Option (BrainstormRecord → BrainstormRecord) := do
  let slot ← record.slots.find? (·.slotId = slotId)
  if slot.runId.any (· ≠ runId) then none
  if slot.runId = some runId && slot.state = .queued then none
  return fun current =>
    { current with
      slots := withRun slotId runId current.slots
      childRunIds := boundRunIds (withRun slotId runId current.slots)
      consolidationRunId :=
        if slot.stage = .consolidation then some runId else current.consolidationRunId
      arbitrationRunId :=
        if slot.stage = .arbitration then some runId else current.arbitrationRunId }

/-- The record that the answer of the consolidator makes of this one. -/
def consolidated (record : BrainstormRecord) (parsed : Consolidation) (current : BrainstormRecord) :
    BrainstormRecord :=
  { current with
    slots := withTerminal .consolidation current.slots
    conflicts := parsed.conflicts
    finalArtifact := if parsed.material then none else some parsed.final
    status :=
      if parsed.material && record.arbitrationRoute = none then .failed
      else if parsed.material then .needsArbitration else .completed }

/-- What a write makes of the current record, when the coordinator holds this one; nothing where
it does not get to the write. -/
def CoordinatorWrite.mutate (sha256 : JsString → JsString) (record : BrainstormRecord) :
    CoordinatorWrite → Option (BrainstormRecord → BrainstormRecord)
  | .approve groupId operator =>
    if record.approvalState = .none ∧ record.status = .draft ∧ operator ≠ [] then
      some fun current =>
        { current with
          status := .approved
          approvalState := .pending
          orchestrationGroupId := some groupId
          approvedBy := some operator }
    else none
  | .reserve =>
    if record.approvalState = .pending then
      some fun current => { current with approvalState := .reserved }
    else none
  | .bind slotId runId => bindSlot record slotId runId
  | .setStatus status =>
    if status ∈ [.fanoutRunning, .failed, .arbitrating, .cancelled] ∧ record.status ≠ status then
      some fun current => { current with status }
    else none
  | .finishFanout runs =>
    match fanoutStage record runs with
    | .ok (.done _) =>
      if isIn .fanoutRunning record then
        some fun current => { current with slots := withTerminal .fanout current.slots }
      else none
    | _ => none
  | .consolidate asked runs =>
    match fanoutStage asked runs with
    | .ok (.done _) =>
      if isIn .fanoutRunning asked ∧ record.status ≠ .consolidating then
        some fun current => { current with status := .consolidating }
      else none
    | _ => none
  | .finishConsolidation runs =>
    match consolidationStage sha256 record runs with
    | .ok (.done parsed) =>
      if isIn .consolidating record then some (consolidated record parsed) else none
    | _ => none
  | .finishArbitration resolution =>
    if isIn .arbitrating record then
      some fun current =>
        { current with
          slots := withTerminal .arbitration current.slots
          finalArtifact := some resolution
          status := .completed }
    else none

/-- The record that a write goes back to, besides the one it is based on. -/
def CoordinatorWrite.asked? : CoordinatorWrite → Option BrainstormRecord
  | .consolidate asked _ => some asked
  | _ => none

/-! ## Runs of any number of calls -/

/-- The store, with every record it has held: a call of the coordinator holds one of them, which
it has read some time ago. -/
structure System where
  machine : Machine BrainstormStore
  held : List BrainstormRecord

/-- A step of some call. -/
inductive Step where
  /-- `createBrainstorm`. -/
  | create (input : BrainstormCreateInput) (createdAt : Option ℕ)
  /-- `update`, by a call that holds this record. -/
  | update (record : BrainstormRecord) (now : ℕ) (write : CoordinatorWrite)

/-- The call of the store that a step makes. -/
def Step.call (sha256 : JsString → JsString) (held : List BrainstormRecord) :
    Step → Option BrainstormCall
  | .create input createdAt => some (.create input createdAt)
  | .update record now write =>
    if record ∈ held ∧
        write.asked?.all (fun asked => asked ∈ held ∧ asked.brainstormId = record.brainstormId) then
      (write.mutate sha256 record).map fun mutate =>
        .compareAndSwap record.brainstormId (.ofNat record.revision) fun current =>
          .ok (mutate { current with updatedAt := now })
    else none

/-- The system after a step. A call that gets through has made one record more. -/
def System.after (sha256 : JsString → JsString) (system : System) (step : Step) : System :=
  match step.call sha256 system.held with
  | none => system
  | some call =>
    match call.outcome system.machine with
    | (.ok record, machine) => ⟨machine, system.held ++ [record]⟩
    | (.error _, machine) => ⟨machine, system.held⟩

/-- The system after a list of steps. -/
def System.afterAll (sha256 : JsString → JsString) (system : System) (steps : List Step) :
    System :=
  steps.foldl (System.after sha256) system

/-- Nothing has happened yet. -/
def System.initial (writes : List (WriteOutcome JsError)) (supply : Supply Uuid) : System :=
  ⟨⟨.empty, writes, supply⟩, []⟩

end Coordinator
end Autopilot
