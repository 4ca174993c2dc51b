/-
The token gateway: the ledger every dispatch has to pass.

The gateway counts tokens under three keys for each route, one per provider, one
per model and one per session. A reservation adds its estimate under its three
keys; settling it replaces the estimate by what was used, releasing it gives the
estimate back. A group reserves several slots at once, each with its own hold,
and a slot is claimed later by an ordinary-looking reservation whose tokens are
already held.

This module is the gateway as `tokenGateway.ts` has it, operation by operation.
The instance keeps the whole ledger in memory, changes it there, and only then
writes the file; a write that throws leaves the change in memory. Two fields of
the instance are not in the source and nothing reads them back: `history`
remembers every terminal record ever made (the source prunes and acknowledges
them away), and `clamped` counts the times `Math.max(0, …)` changed a value.
-/
import Autopilot.Js
import Autopilot.Lib.Record
import Mathlib.Data.List.Sort

set_option autoImplicit false

namespace Autopilot

open Prog

/-! ## Refusals and limits -/

/-- `TokenGatewayRefusalCode`. -/
inductive TokenGatewayRefusalCode where
  | tokenInputCapExceeded
  | tokenOutputCapExceeded
  | tokenBudgetExhausted
  | tokenReservationMissing
  | tokenRouteMismatch
  | tokenSettlementExceedsReservation
  | tokenReservationLimit
  deriving DecidableEq, Repr

/-- The text of a refusal code. -/
def TokenGatewayRefusalCode.text : TokenGatewayRefusalCode → String
  | .tokenInputCapExceeded => "token_input_cap_exceeded"
  | .tokenOutputCapExceeded => "token_output_cap_exceeded"
  | .tokenBudgetExhausted => "token_budget_exhausted"
  | .tokenReservationMissing => "token_reservation_missing"
  | .tokenRouteMismatch => "token_route_mismatch"
  | .tokenSettlementExceedsReservation => "token_settlement_exceeds_reservation"
  | .tokenReservationLimit => "token_reservation_limit"

/-- `new TokenGatewayError(code)`. -/
def tokenGatewayError (code : TokenGatewayRefusalCode) : JsError :=
  .error (js "TokenGatewayError") (js code.text)

/-- The limits of a gateway. The budgets are safe integers, so that comparing a
rounded sum with one decides what comparing the exact sum would. -/
structure TokenGatewayLimits where
  inputCapTokens : ℕ
  outputCapTokens : ℕ
  providerBudgetTokens : ℕ
  modelBudgetTokens : ℕ
  sessionBudgetTokens : ℕ
  safe : providerBudgetTokens ≤ maxSafeInteger ∧ modelBudgetTokens ≤ maxSafeInteger ∧
    sessionBudgetTokens ≤ maxSafeInteger

/-- `DEFAULT_TOKEN_GATEWAY_LIMITS`. -/
def defaultTokenGatewayLimits : TokenGatewayLimits where
  inputCapTokens := 128000
  outputCapTokens := 16000
  providerBudgetTokens := 1000000
  modelBudgetTokens := 500000
  sessionBudgetTokens := 500000
  safe := by decide

def maxActiveReservations : ℕ := 512
def maxTerminalReservations : ℕ := 1024
def maxUsageKeys : ℕ := maxActiveReservations * 3

/-! ## The data of the ledger -/

structure TokenGatewayRoute where
  provider : JsString
  model : Option JsString
  sessionId : Option JsString
  deriving DecidableEq

/-- A request as it arrives. -/
structure TokenReservationRequest extends TokenGatewayRoute where
  inputTokens : JsNumber
  outputTokens : JsNumber
  handoffId : Option JsString := none
  deriving DecidableEq

/-- A request after `normalizeRequest`: the counts are non-negative integers. -/
structure NormalizedRequest extends TokenGatewayRoute where
  inputTokens : ℕ
  outputTokens : ℕ
  handoffId : Option JsString
  deriving DecidableEq

structure TokenReservation extends NormalizedRequest where
  reservationId : JsString
  reservedAt : ℕ
  totalTokens : ℕ
  groupId : Option JsString := none
  slotId : Option JsString := none
  heldTokens : Option ℕ := none
  deriving DecidableEq

/-- A slot of a group as it is asked for. -/
structure TokenGroupSlotRequest extends TokenGatewayRoute where
  slotId : JsString
  holdTokens : JsNumber
  deriving DecidableEq

structure OrchestrationGroupSpec where
  groupId : JsString
  slots : List TokenGroupSlotRequest
  deriving DecidableEq

inductive SlotState where
  | reserved | claimed | settled | released
  deriving DecidableEq, Repr

structure TokenGroupSlotReservation extends TokenGatewayRoute where
  slotId : JsString
  holdTokens : ℕ
  state : SlotState
  reservation : Option TokenReservation
  deriving DecidableEq

structure TokenGroupReservation where
  groupId : JsString
  slots : List TokenGroupSlotReservation
  maximumTokens : ℕ
  deriving DecidableEq

/-- What a worker used, as it is reported. -/
structure TokenUsage where
  inputTokens : JsNumber
  outputTokens : JsNumber
  released : Bool := false

structure TokenSettlement where
  inputTokens : ℕ
  outputTokens : ℕ
  released : Bool
  deriving DecidableEq

inductive TerminalEvent where
  | settled | released
  deriving DecidableEq, Repr

/-- The state a slot gets when its reservation ends. -/
def TerminalEvent.slotState : TerminalEvent → SlotState
  | .settled => .settled
  | .released => .released

structure TerminalRecord where
  event : TerminalEvent
  settlement : TokenSettlement
  completedAt : ℕ
  deriving DecidableEq

/-- `GatewayState`, the content of the file. -/
structure GatewayState where
  used : Record JsString ℕ
  reservations : Record JsString TokenReservation
  terminal : Record JsString TerminalRecord
  groups : Record JsString TokenGroupReservation
  deriving DecidableEq

/-- What a missing file reads as. -/
def GatewayState.empty : GatewayState := ⟨.empty, .empty, .empty, .empty⟩

/-- One terminal record that was made, with the reservation it ended. -/
structure Retirement where
  reservation : TokenReservation
  event : TerminalEvent
  settlement : TokenSettlement
  deriving DecidableEq

/-- One gateway instance and the file it writes. -/
structure Gateway where
  state : GatewayState
  file : GatewayState
  history : List Retirement
  clamped : ℕ
  deriving DecidableEq

/-- A gateway on an empty directory. -/
def Gateway.initial : Gateway := ⟨.empty, .empty, [], 0⟩

/-! ## Keys and usage -/

/-- `routeUsageKeys`. -/
def routeUsageKeys (route : TokenGatewayRoute) : List JsString :=
  [js "provider:" ++ route.provider,
   js "model:" ++ route.provider ++ js ":" ++ route.model.getD (js "default"),
   js "session:" ++ route.sessionId.getD (js "unscoped")]

/-- The budgets in the order of `routeUsageKeys`. -/
def TokenGatewayLimits.budgets (limits : TokenGatewayLimits) : List ℕ :=
  [limits.providerBudgetTokens, limits.modelBudgetTokens, limits.sessionBudgetTokens]

/-- `used(key)`. -/
def GatewayState.usedTokens (state : GatewayState) (key : JsString) : ℕ :=
  (state.used.get? key).getD 0

/-- One round of the loop in `addUsage`. -/
def Gateway.addUsageAt (gateway : Gateway) (amount : ℤ) (key : JsString) : Gateway :=
  let sum : ℤ := gateway.state.usedTokens key + amount
  let usage := max 0 sum
  { gateway with
    state := { gateway.state with
      used := if usage = 0 then gateway.state.used.erase key
        else gateway.state.used.set key usage.toNat }
    clamped := if sum < 0 then gateway.clamped + 1 else gateway.clamped }

/-- `addUsage`, and `addRouteUsage`, which is the same loop. -/
def Gateway.addUsage (gateway : Gateway) (route : TokenGatewayRoute) (amount : ℤ) : Gateway :=
  (routeUsageKeys route).foldl (fun g key => g.addUsageAt amount key) gateway

/-- Set the state of a slot that has the given name. -/
def TokenGroupSlotReservation.mark (slot : TokenGroupSlotReservation) (slotId : JsString)
    (slotState : SlotState) : TokenGroupSlotReservation :=
  if slot.slotId = slotId then { slot with state := slotState } else slot

/-- `updateGroupSlot`. -/
def GatewayState.updateGroupSlot (state : GatewayState) (reservation : TokenReservation)
    (slotState : SlotState) : GatewayState :=
  match reservation.groupId, reservation.slotId with
  | some groupId, some slotId =>
    match state.groups.get? groupId with
    | none => state
    | some group =>
      let slots := group.slots.map (·.mark slotId slotState)
      { state with groups := state.groups.set groupId { group with slots } }
  | _, _ => state

/-- The order `pruneTerminal` sorts by: the oldest record first, the identifier
breaking ties. Identifiers have one shape, so comparing them by locale is
comparing them by code unit. -/
def terminalBefore (left right : JsString × TerminalRecord) : Bool :=
  left.2.completedAt < right.2.completedAt ||
    (left.2.completedAt = right.2.completedAt && left.1 ≤ right.1)

/-- `pruneTerminal`: only the newest `MAX_TERMINAL_RESERVATIONS` records stay. -/
def pruneTerminal (terminal : Record JsString TerminalRecord) : Record JsString TerminalRecord :=
  let entries := terminal.entries.insertionSort (fun left right => terminalBefore left right)
  let stale := entries.take (entries.length - maxTerminalReservations)
  stale.foldl (fun terminal entry => terminal.erase entry.1) terminal

/-- `persist`. A ledger above the size limit of the file is one more way for it
to throw, so the outcome of the write stands for that check too. -/
def persist : Proc Gateway Unit := Host.write fun gateway => { gateway with file := gateway.state }

/-! ## Requests -/

/-- `normalizeRequest`. -/
def normalizeRequest (input : TokenReservationRequest) : NormalizedRequest where
  provider := (bounded (some input.provider)).getD (js "unknown")
  model := bounded input.model
  sessionId := bounded input.sessionId
  inputTokens := safeCount input.inputTokens
  outputTokens := safeCount input.outputTokens
  handoffId := input.handoffId.map fun handoffId =>
    (bounded (some handoffId)).getD (js "unknown")

/-- `isCanonicalRequest`: normalising changed nothing. -/
def isCanonicalRequest (input : TokenReservationRequest) (normalized : NormalizedRequest) : Bool :=
  input.toTokenGatewayRoute = normalized.toTokenGatewayRoute &&
    input.inputTokens.isNat normalized.inputTokens &&
    input.outputTokens.isNat normalized.outputTokens &&
    input.handoffId = normalized.handoffId

/-- `isPersistedString`, for a value that is a string. -/
def isPersistedString (value : JsString) : Bool := bounded (some value) = some value

/-- A group slot whose fields passed the checks of `normalizeGroup`. -/
structure NormalizedSlot extends TokenGatewayRoute where
  slotId : JsString
  holdTokens : ℕ
  deriving DecidableEq

/-- The checks `normalizeGroup` makes of one slot. -/
def normalizeSlot (slot : TokenGroupSlotRequest) : Option NormalizedSlot :=
  if isPersistedString slot.slotId ∧ isPersistedString slot.provider ∧
      slot.model.all isPersistedString ∧ slot.sessionId.all isPersistedString then
    match slot.holdTokens.nonNegativeSafeInteger? with
    | some holdTokens =>
      if holdTokens = 0 then none
      else some { slot.toTokenGatewayRoute with slotId := slot.slotId, holdTokens }
    | none => none
  else none

/-- `normalizeGroup`. -/
def normalizeGroup (input : OrchestrationGroupSpec) : Except JsError (List NormalizedSlot) :=
  match input.slots.mapM normalizeSlot with
  | some slots =>
    if isPersistedString input.groupId ∧ (slots.map (·.slotId)).Nodup then .ok slots
    else .error (JsError.new "token_group_mismatch")
  | none => .error (JsError.new "token_group_mismatch")

/-- `sameGroupRequest`. -/
def sameGroupRequest (existing : TokenGroupReservation) (groupId : JsString)
    (slots : List NormalizedSlot) : Bool :=
  existing.groupId = groupId &&
    existing.slots.map (fun slot => (slot.slotId, slot.toTokenGatewayRoute, slot.holdTokens))
      = slots.map (fun slot => (slot.slotId, slot.toTokenGatewayRoute, slot.holdTokens))

/-- The names an object has without being given them. `groups` is a plain
object, so a group under such a name reads as present and never matches the
request for it. -/
def objectPrototypeNames : List JsString :=
  ["constructor", "__defineGetter__", "__defineSetter__", "hasOwnProperty", "__lookupGetter__",
   "__lookupSetter__", "isPrototypeOf", "propertyIsEnumerable", "toString", "valueOf",
   "__proto__", "toLocaleString"].map js

/-! ## The operations -/

/-- `slot.state === "reserved" || slot.state === "claimed"`: the slot holds tokens. -/
def TokenGroupSlotReservation.isOpen (slot : TokenGroupSlotReservation) : Bool :=
  slot.state = .reserved || slot.state = .claimed

/-- The slots of a group that hold tokens. -/
def TokenGroupReservation.openSlots (group : TokenGroupReservation) :
    List TokenGroupSlotReservation :=
  group.slots.filter (·.isOpen)

/-- What counts against `MAX_ACTIVE_RESERVATIONS`: the open slots of all groups
and the reservations that belong to none. -/
def GatewayState.activeCount (state : GatewayState) : ℕ :=
  (state.groups.values.flatMap (·.openSlots)).length +
    (state.reservations.values.filter (·.groupId = none)).length

/-- `findActiveReservation`. -/
def GatewayState.findActiveReservation (state : GatewayState) (handoffId : JsString) :
    Option TokenReservation :=
  state.reservations.values.find? (·.handoffId = some handoffId)

/-- The refusals of `reserve`, in the order it makes them. -/
def reserveRefusal (limits : TokenGatewayLimits) (state : GatewayState)
    (request : NormalizedRequest) : Option TokenGatewayRefusalCode :=
  let routeKeys := routeUsageKeys request.toTokenGatewayRoute
  let total := request.inputTokens + request.outputTokens
  if state.activeCount ≥ maxActiveReservations then some .tokenReservationLimit
  else if state.used.size + (routeKeys.filter fun key => state.used.get? key = none).length
      > maxUsageKeys then some .tokenReservationLimit
  else if request.inputTokens > limits.inputCapTokens then some .tokenInputCapExceeded
  else if request.outputTokens > limits.outputCapTokens then some .tokenOutputCapExceeded
  else if (routeKeys.zip limits.budgets).any fun (key, cap) => state.usedTokens key + total > cap
    then some .tokenBudgetExhausted
  else none

/-- Enter a new reservation of its own tokens. -/
def Gateway.grant (gateway : Gateway) (reservation : TokenReservation) : Gateway :=
  { gateway with state := { gateway.state with
      reservations := gateway.state.reservations.set reservation.reservationId reservation }
    }.addUsage reservation.toTokenGatewayRoute reservation.totalTokens

/-- `reserve`. -/
def reserve (limits : TokenGatewayLimits) (now : ℕ) (input : TokenReservationRequest) :
    Proc Gateway TokenReservation := do
  let request := normalizeRequest input
  let gateway ← Host.read
  match request.handoffId.bind gateway.state.findActiveReservation with
  | some existing =>
    if existing.toNormalizedRequest = request then return existing
    else throw (tokenGatewayError .tokenRouteMismatch)
  | none =>
    match reserveRefusal limits gateway.state request with
    | some code => throw (tokenGatewayError code)
    | none =>
      let uuid ← randomUUID
      let reservation : TokenReservation :=
        { toNormalizedRequest := request
          reservationId := js "tgr-" ++ uuid.text
          reservedAt := now
          totalTokens := request.inputTokens + request.outputTokens }
      Host.update (·.grant reservation)
      persist
      return reservation

/-- One key of the inner loop in `reserveGroup`, on the candidate usage. -/
def holdKey (holdTokens : ℕ) (candidate : Record JsString ℕ) (entry : JsString × ℕ) :
    Except JsError (Record JsString ℕ) :=
  let next := (candidate.get? entry.1).getD 0 + holdTokens
  if next > maxSafeInteger ∨ next > entry.2 then .error (tokenGatewayError .tokenBudgetExhausted)
  else .ok (candidate.set entry.1 next)

/-- One slot of the loop in `reserveGroup`, over the running maximum and the
candidate usage. -/
def holdSlot (limits : TokenGatewayLimits) (acc : ℕ × Record JsString ℕ) (slot : NormalizedSlot) :
    Except JsError (ℕ × Record JsString ℕ) :=
  if acc.1 + slot.holdTokens > maxSafeInteger then .error (JsError.new "token_group_mismatch")
  else do
    let candidate ← ((routeUsageKeys slot.toTokenGatewayRoute).zip limits.budgets).foldlM
      (holdKey slot.holdTokens) acc.2
    return (acc.1 + slot.holdTokens, candidate)

/-- `reserveGroup`. -/
def reserveGroup (limits : TokenGatewayLimits) (input : OrchestrationGroupSpec) :
    Proc Gateway TokenGroupReservation := do
  match normalizeGroup input with
  | .error error => throw error
  | .ok slots =>
    let gateway ← Host.read
    let state := gateway.state
    if input.groupId ∈ objectPrototypeNames then throw (JsError.new "token_group_mismatch")
    else match state.groups.get? input.groupId with
    | some existing =>
      if sameGroupRequest existing input.groupId slots then return existing
      else throw (JsError.new "token_group_mismatch")
    | none =>
      if state.groups.size ≥ maxActiveReservations ∨ slots.length = 0 ∨
          state.activeCount + slots.length > maxActiveReservations then
        throw (tokenGatewayError .tokenReservationLimit)
      else match slots.foldlM (holdSlot limits) (0, state.used) with
      | .error error => throw error
      | .ok (maximumTokens, candidate) =>
        if candidate.size > maxUsageKeys then throw (tokenGatewayError .tokenReservationLimit)
        else
          let group : TokenGroupReservation :=
            { groupId := input.groupId
              slots := slots.map fun slot =>
                { slot with state := .reserved, reservation := none }
              maximumTokens }
          Host.update fun gateway => { gateway with state := { gateway.state with
            used := candidate
            groups := gateway.state.groups.set input.groupId group } }
          persist
          return group

/-- `findGroup`. -/
def GatewayState.findGroup (state : GatewayState) (groupId : JsString) :
    Option TokenGroupReservation :=
  state.groups.get? groupId

/-- The position of a slot in its group, and the slot. -/
def TokenGroupReservation.findSlot (group : TokenGroupReservation) (slotId : JsString) :
    Option (ℕ × TokenGroupSlotReservation) :=
  (group.slots.findIdx? (·.slotId = slotId)).bind fun index =>
    group.slots[index]?.map fun slot => (index, slot)

/-- Enter the reservation of a claimed slot. Its tokens are held already, so the
usage stays. -/
def Gateway.claimSlot (gateway : Gateway) (groupId : JsString) (group : TokenGroupReservation)
    (index : ℕ) (slot : TokenGroupSlotReservation) (reservation : TokenReservation) : Gateway :=
  { gateway with state := { gateway.state with
      reservations := gateway.state.reservations.set reservation.reservationId reservation
      groups := gateway.state.groups.set groupId { group with
        slots := group.slots.set index
          { slot with state := .claimed, reservation := some reservation } } } }

/-- `claimGroupSlot`. Whether the slot is still open is not looked at. -/
def claimGroupSlot (limits : TokenGatewayLimits) (now : ℕ) (groupId slotId : JsString)
    (input : TokenReservationRequest) : Proc Gateway TokenReservation := do
  let gateway ← Host.read
  match gateway.state.groups.get? groupId with
  | none => throw (JsError.new "token_group_slot_missing")
  | some group =>
    match group.findSlot slotId with
    | none => throw (JsError.new "token_group_slot_missing")
    | some (index, slot) =>
      let request := normalizeRequest input
      if !isCanonicalRequest input request ||
          slot.toTokenGatewayRoute ≠ request.toTokenGatewayRoute ||
          request.inputTokens + request.outputTokens > slot.holdTokens then
        throw (JsError.new "token_group_slot_mismatch")
      else match slot.reservation with
      | some existing =>
        if existing.toNormalizedRequest = request then return existing
        else throw (JsError.new "token_group_slot_mismatch")
      | none =>
        if request.inputTokens > limits.inputCapTokens then
          throw (tokenGatewayError .tokenInputCapExceeded)
        else if request.outputTokens > limits.outputCapTokens then
          throw (tokenGatewayError .tokenOutputCapExceeded)
        else
          let uuid ← randomUUID
          let reservation : TokenReservation :=
            { toNormalizedRequest := request
              reservationId := js "tgr-" ++ uuid.text
              reservedAt := now
              totalTokens := request.inputTokens + request.outputTokens
              groupId := some groupId
              slotId := some slotId
              heldTokens := some slot.holdTokens }
          Host.update (·.claimSlot groupId group index slot reservation)
          persist
          return reservation

/-- The tokens an active reservation gives back: `heldTokens ?? totalTokens`. -/
def TokenReservation.held (reservation : TokenReservation) : ℕ :=
  reservation.heldTokens.getD reservation.totalTokens

/-- The end both `settle` and `release` come to: the reservation leaves the
active ones, gets its terminal record, its slot follows, old records go. -/
def Gateway.retire (gateway : Gateway) (now : ℕ) (reservationId : JsString)
    (active : TokenReservation) (event : TerminalEvent) (settlement : TokenSettlement) : Gateway :=
  let state := { gateway.state with
    reservations := gateway.state.reservations.erase reservationId
    terminal := gateway.state.terminal.set reservationId
      { event, settlement, completedAt := now } }
  let state := state.updateGroupSlot active event.slotState
  { gateway with
    state := { state with terminal := pruneTerminal state.terminal }
    history := gateway.history ++ [{ reservation := active, event, settlement }] }

/-- `release`. -/
def release (now : ℕ) (reservation : TokenReservation) : Proc Gateway Unit := do
  let gateway ← Host.read
  match gateway.state.reservations.get? reservation.reservationId with
  | none =>
    if gateway.state.terminal.get? reservation.reservationId ≠ none then return ()
    else throw (tokenGatewayError .tokenReservationMissing)
  | some active =>
    if active.toTokenGatewayRoute ≠ reservation.toTokenGatewayRoute then
      throw (tokenGatewayError .tokenRouteMismatch)
    else
      Host.update fun gateway =>
        (gateway.addUsage active.toTokenGatewayRoute (-active.held)).retire now
          reservation.reservationId active .released
          { inputTokens := 0, outputTokens := 0, released := true }
      persist

/-- The loop of `releaseGroupSlots`. A claimed slot goes through `release`,
which writes the file on the way. -/
def releaseSlots (now : ℕ) (requested : List JsString) :
    List TokenGroupSlotReservation → Proc Gateway (List TokenGroupSlotReservation)
  | [] => pure []
  | slot :: slots => do
    let slot' ←
      if slot.slotId ∉ requested ∨ slot.state = .released ∨ slot.state = .settled then
        pure slot
      else do
        match slot.state, slot.reservation with
        | .claimed, some reservation => release now reservation
        | _, _ => Host.update (·.addUsage slot.toTokenGatewayRoute (-slot.holdTokens))
        pure { slot with state := .released }
    let slots' ← releaseSlots now requested slots
    pure (slot' :: slots')

/-- `releaseGroupSlots`. -/
def releaseGroupSlots (now : ℕ) (groupId : JsString) (slotIds : List JsString) :
    Proc Gateway TokenGroupReservation := do
  let gateway ← Host.read
  match gateway.state.groups.get? groupId with
  | none => throw (JsError.new "token_group_missing")
  | some group =>
    if ¬ slotIds.Nodup ∨ slotIds.any (fun id => group.slots.all (·.slotId ≠ id)) then
      throw (JsError.new "token_group_slot_missing")
    else
      let slots ← releaseSlots now slotIds group.slots
      Host.update fun gateway => { gateway with state := { gateway.state with
        groups := gateway.state.groups.set groupId { group with slots } } }
      persist
      return { group with slots }

/-- The refusals of `settle` for an active reservation, in the order it makes
them. -/
def settleRefusal (limits : TokenGatewayLimits) (state : GatewayState)
    (active : TokenReservation) (inputTokens outputTokens : ℕ) :
    Option TokenGatewayRefusalCode :=
  let actualTotal := inputTokens + outputTokens
  let routes := routeUsageKeys active.toTokenGatewayRoute
  if inputTokens > limits.inputCapTokens then some .tokenInputCapExceeded
  else if outputTokens > limits.outputCapTokens then some .tokenOutputCapExceeded
  else if actualTotal > active.totalTokens then some .tokenSettlementExceedsReservation
  else if (routes.zip limits.budgets).any fun (key, cap) =>
      (state.usedTokens key : ℤ) - active.held + actualTotal > cap then some .tokenBudgetExhausted
  else none

/-- `settle`. -/
def settle (limits : TokenGatewayLimits) (now : ℕ) (reservation : TokenReservation)
    (usage : TokenUsage) : Proc Gateway TokenSettlement := do
  let gateway ← Host.read
  match gateway.state.reservations.get? reservation.reservationId with
  | none =>
    match gateway.state.terminal.get? reservation.reservationId with
    | some { event := .settled, settlement, .. } => return settlement
    | _ => throw (tokenGatewayError .tokenReservationMissing)
  | some active =>
    if active.toTokenGatewayRoute ≠ reservation.toTokenGatewayRoute then
      throw (tokenGatewayError .tokenRouteMismatch)
    else
      let inputTokens := safeCount usage.inputTokens
      let outputTokens := safeCount usage.outputTokens
      match settleRefusal limits gateway.state active inputTokens outputTokens with
      | some code => throw (tokenGatewayError code)
      | none =>
        let settled : TokenSettlement := { inputTokens, outputTokens, released := usage.released }
        Host.update fun gateway =>
          ((gateway.addUsage active.toTokenGatewayRoute (-active.held)).addUsage
            active.toTokenGatewayRoute (inputTokens + outputTokens : ℕ)).retire now
              reservation.reservationId active .settled settled
        persist
        return settled

/-- `acknowledgeTerminal`. -/
def acknowledgeTerminal (reservationId : JsString) : Proc Gateway Unit := do
  let gateway ← Host.read
  if gateway.state.terminal.get? reservationId = none then return ()
  else
    Host.update fun gateway => { gateway with state := { gateway.state with
      terminal := gateway.state.terminal.erase reservationId } }
    persist

end Autopilot
