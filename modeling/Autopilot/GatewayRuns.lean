/-
Runs of one gateway, and the conservation of its tokens.

A run is any sequence of calls on one instance, starting from an empty ledger;
a call that throws leaves the instance as far as it got, and the next call goes
on from there. What a run may contain is a parameter, so that one induction
serves both results.

For conservation the runs are those in which writes succeed and a slot is only
claimed while it is reserved or claimed. Then every counter is the sum of what
was settled and what is held, that sum respects the cap, and `Math.max(0, …)`
never had anything to do.

The life of the group slots is in `GroupSlots`, over the same runs.
-/
import Autopilot.TokenGatewaySpec

set_option autoImplicit false

namespace Autopilot

open Prog Budget

/-! ## Calls and runs -/

/-- A call of one of the operations. -/
inductive GatewayCall where
  | reserve (now : ℕ) (input : TokenReservationRequest)
  | reserveGroup (input : OrchestrationGroupSpec)
  | claimGroupSlot (now : ℕ) (groupId slotId : JsString) (input : TokenReservationRequest)
  | releaseGroupSlots (now : ℕ) (groupId : JsString) (slotIds : List JsString)
  | settle (now : ℕ) (reservation : TokenReservation) (usage : TokenUsage)
  | release (now : ℕ) (reservation : TokenReservation)
  | acknowledgeTerminal (reservationId : JsString)

/-- The instance after a call, whether it returned or threw. -/
def GatewayCall.run (limits : TokenGatewayLimits) (c : GatewayCall) (h : Machine Gateway) :
    Machine Gateway :=
  match c with
  | .reserve now input => (Autopilot.reserve limits now input h).2
  | .reserveGroup input => (Autopilot.reserveGroup limits input h).2
  | .claimGroupSlot now groupId slotId input =>
    (Autopilot.claimGroupSlot limits now groupId slotId input h).2
  | .releaseGroupSlots now groupId slotIds =>
    (Autopilot.releaseGroupSlots now groupId slotIds h).2
  | .settle now reservation usage => (Autopilot.settle limits now reservation usage h).2
  | .release now reservation => (Autopilot.release now reservation h).2
  | .acknowledgeTerminal reservationId => (Autopilot.acknowledgeTerminal reservationId h).2

/-- The instances reached by permitted calls, under any outcome of the writes
and any supply of identifiers. -/
inductive GatewayRun (limits : TokenGatewayLimits)
    (permitted : Machine Gateway → GatewayCall → Prop) : Machine Gateway → Prop where
  | start (writes : List (WriteOutcome JsError)) (uuids : List Uuid) (fresh : uuids.Nodup) :
    GatewayRun limits permitted ⟨.initial, writes, .fresh uuids fresh⟩
  | call {h : Machine Gateway} (c : GatewayCall) (before : GatewayRun limits permitted h)
    (ok : permitted h c) : GatewayRun limits permitted (c.run limits h)

/-- The checks `claimGroupSlot` makes of the slot it found, up to the point where
it returns a reservation. -/
def claimGranted (limits : TokenGatewayLimits) (h : Machine Gateway)
    (slot : TokenGroupSlotReservation) (input : TokenReservationRequest) : Prop :=
  claimFits slot input ∧
    match slot.reservation with
    | some existing => existing.toNormalizedRequest = normalizeRequest input
    | none => (normalizeRequest input).inputTokens ≤ limits.inputCapTokens ∧
        (normalizeRequest input).outputTokens ≤ limits.outputCapTokens ∧ h.supply.next ≠ none

/-- The slot of a name in the group of a name. -/
def GatewayState.slotAt (state : GatewayState) (groupId slotId : JsString) :
    Option TokenGroupSlotReservation :=
  (state.groups.get? groupId).bind fun group => (group.findSlot slotId).map (·.2)

theorem slotAt_eq {state : GatewayState} {groupId slotId : JsString}
    {group : TokenGroupReservation} {index : ℕ} {slot : TokenGroupSlotReservation}
    (hg : state.groups.get? groupId = some group)
    (hf : group.findSlot slotId = some (index, slot)) :
    state.slotAt groupId slotId = some slot := by
  simp [GatewayState.slotAt, hg, hf]

/-- A claim that is granted finds its slot reserved or claimed. -/
def GatewayCall.ClaimsOpenSlot (limits : TokenGatewayLimits) (h : Machine Gateway) :
    GatewayCall → Prop
  | .claimGroupSlot _ groupId slotId input =>
    ∀ slot ∈ h.store.state.slotAt groupId slotId, claimGranted limits h slot input → slot.isOpen
  | _ => True

/-- The writes in the middle of `releaseGroupSlots` succeed. -/
def GatewayCall.NestedWritesSucceed (h : Machine Gateway) : GatewayCall → Prop
  | .releaseGroupSlots _ groupId slotIds => ∀ group,
      h.store.state.groups.get? groupId = some group →
      h.ReliableFor (nestedReleases slotIds group.slots)
  | _ => True

/-- **The step lemma.** A call keeps the ledger coherent, whatever becomes of its
last write. -/
theorem GatewayCall.coherent {limits : TokenGatewayLimits} {h : Machine Gateway}
    (hc : Coherent limits h.store h.supply.drawn) (c : GatewayCall)
    (hopen : c.ClaimsOpenSlot limits h) (hwrites : c.NestedWritesSucceed h) :
    Coherent limits (c.run limits h).store (c.run limits h).supply.drawn := by
  cases c with
  | reserve now input =>
    rcases reserve_cases limits now h input with ⟨e, hr⟩ | ⟨r, id, -, -, -, hr⟩ |
      ⟨uuid, supply, hnext, -, hroom, hr⟩
    · simp only [run, hr]; exact hc
    · simp only [run, hr]; exact hc
    · obtain ⟨hnew, hdrawn⟩ := Supply.next_spec hnext
      exact Coherent.commits (by rw [hdrawn]; exact hc.grant hnew hroom) hr
  | reserveGroup input =>
    rcases reserveGroup_cases limits h input with ⟨e, hr⟩ | ⟨g, -, hr⟩ |
      ⟨slots, maximumTokens, candidate, hadmits, hr⟩
    · simp only [run, hr]; exact hc
    · simp only [run, hr]; exact hc
    · exact Coherent.commits (hc.hold hadmits) hr
  | claimGroupSlot now groupId slotId input =>
    rcases claimGroupSlot_cases limits now h groupId slotId input with ⟨e, hr⟩ |
      ⟨group, index, slot, hg, hf, hfits, ⟨r, hres, hsame, hr⟩ |
        ⟨uuid, supply, hnext, hnone, hin, hout, hr⟩⟩
    · simp only [run, hr]; exact hc
    · simp only [run, hr]; exact hc
    · obtain ⟨hnew, hdrawn⟩ := Supply.next_spec hnext
      have hgranted : claimGranted limits h slot input := by
        refine ⟨hfits, ?_⟩
        rw [hnone]
        exact ⟨hin, hout, by simp [hnext]⟩
      have hslot := hopen slot (slotAt_eq hg hf) hgranted
      exact Coherent.commits
        (by rw [hdrawn]; exact hc.claim hnew hg hf hfits hnone hslot) hr
  | releaseGroupSlots now groupId slotIds =>
    rcases releaseGroupSlots_cases now groupId slotIds h hc hwrites with ⟨e, hr⟩ |
      ⟨group, gateway', -, hc', -, hr⟩
    · simp only [run, hr]; exact hc
    · exact Coherent.commits hc' hr
  | settle now reservation usage =>
    rcases settle_cases limits now h reservation usage with ⟨e, hr⟩ | ⟨t, -, -, -, hr⟩ |
      ⟨active, hget, -, hrefusal, hr⟩
    · simp only [run, hr]; exact hc
    · simp only [run, hr]; exact hc
    · exact Coherent.commits (hc.settled hget (settleRefusal_total hrefusal)) hr
  | release now reservation =>
    rcases release_cases now h reservation with ⟨e, hr⟩ | ⟨-, -, hr⟩ | ⟨active, hget, -, hr⟩
    · simp only [run, hr]; exact hc
    · simp only [run, hr]; exact hc
    · exact Coherent.commits (hc.released hget) hr
  | acknowledgeTerminal id =>
    rcases acknowledgeTerminal_cases h id with ⟨-, hr⟩ | hr
    · simp only [run, hr]; exact hc
    · exact Coherent.commits (hc.acknowledged id) hr

/-- **The run lemma.** -/
theorem GatewayRun.coherent {limits : TokenGatewayLimits}
    {permitted : Machine Gateway → GatewayCall → Prop} {h : Machine Gateway}
    (hrun : GatewayRun limits permitted h)
    (hpermitted : ∀ h c, permitted h c → c.ClaimsOpenSlot limits h ∧ c.NestedWritesSucceed h) :
    Coherent limits h.store h.supply.drawn := by
  induction hrun with
  | start writes uuids fresh => exact coherent_initial limits
  | call c before ok ih =>
    obtain ⟨hopen, hwrites⟩ := hpermitted _ c ok
    exact c.coherent ih hopen hwrites

/-! ## Conservation of tokens -/

/-- The actual totals of the settlements made so far that map to a key. -/
def settledTokens (history : List Retirement) (key : JsString) : ℕ :=
  ((history.filter (·.event = .settled)).map fun x =>
    if key ∈ routeUsageKeys x.reservation.toTokenGatewayRoute then
      x.settlement.inputTokens + x.settlement.outputTokens else 0).sum

/-- The amounts still held for a key: the estimate of each active reservation of
no group, and the hold of each slot that is reserved or claimed. -/
def GatewayState.heldTokens (state : GatewayState) (key : JsString) : ℕ :=
  ((state.reservations.values.filter (·.groupId = none)).map fun r =>
    if key ∈ routeUsageKeys r.toTokenGatewayRoute then r.totalTokens else 0).sum +
  ((state.groups.values.flatMap (·.openSlots)).map fun slot =>
    if key ∈ routeUsageKeys slot.toTokenGatewayRoute then slot.holdTokens else 0).sum

/-- Counters, holds and settlements agree, within the caps, and nothing was ever
clamped. -/
def Conserves (limits : TokenGatewayLimits) (gateway : Gateway) : Prop :=
  (∀ key, gateway.state.usedTokens key =
      settledTokens gateway.history key + gateway.state.heldTokens key ∧
    settledTokens gateway.history key + gateway.state.heldTokens key ≤ limits.cap key) ∧
  gateway.clamped = 0

/-- The total of a list of holds. -/
theorem total_coe (holds : List (Hold JsString)) (key : JsString) :
    total (holds : Multiset (Hold JsString)) key = (holds.map (·.on key)).sum := by
  simp [total]

theorem total_sum {α : Type} (r : Record JsString α) (f : α → Multiset (Hold JsString))
    (key : JsString) : total (r.sum f) key = (r.values.map fun v => total (f v) key).sum := by
  unfold Record.sum
  induction r.values with
  | nil => rfl
  | cons v vs ih => simp [ih]

theorem total_settledHolds (history : List Retirement) (key : JsString) :
    total (settledHolds history) key = settledTokens history key := by
  rw [settledHolds, total_coe, List.map_map, settledTokens]
  simp [Function.comp_def, Hold.on, Retirement.hold, TokenGatewayRoute.keys]

/-- The holds of a linked ledger take from a key what is held for it. -/
theorem total_holds {gateway : Gateway} {drawn : List Uuid} (h : gateway.Linked drawn)
    (key : JsString) : total gateway.state.holds key = gateway.state.heldTokens key := by
  rw [GatewayState.holds, total_add, total_sum, total_sum, GatewayState.heldTokens]
  congr 1
  · have hvalues : ∀ r ∈ gateway.state.reservations.values, total r.ordinaryHold key =
        if r.groupId = none then
          (if key ∈ routeUsageKeys r.toTokenGatewayRoute then r.totalTokens else 0) else 0 := by
      intro r hr
      obtain ⟨id, hget⟩ := (Record.mem_values_iff _ _).1 hr
      by_cases hg : r.groupId = none
      · simp [TokenReservation.ordinaryHold, hg, Hold.on, TokenReservation.hold,
          TokenGatewayRoute.keys, h.ordinary hget hg]
      · simp [TokenReservation.ordinaryHold, hg]
    rw [List.map_congr_left hvalues]
    induction gateway.state.reservations.values with
    | nil => rfl
    | cons r rs ih =>
      by_cases hg : r.groupId = none <;> simp [hg, ih]
  · induction gateway.state.groups.values with
    | nil => rfl
    | cons group groups ih =>
      rw [List.map_cons, List.sum_cons, ih, List.flatMap_cons, List.map_append, List.sum_append]
      congr 1
      rw [openHolds, total_coe, List.map_map, TokenGroupReservation.openSlots]
      simp [Function.comp_def, Hold.on, TokenGroupSlotReservation.hold, TokenGatewayRoute.keys]

/-- A coherent ledger conserves tokens. -/
theorem Coherent.conserves {limits : TokenGatewayLimits} {gateway : Gateway} {drawn : List Uuid}
    (h : Coherent limits gateway drawn) : Conserves limits gateway := by
  obtain ⟨account, hb⟩ := h.books
  have hsum : ∀ key, account.used key =
      settledTokens gateway.history key + gateway.state.heldTokens key := by
    intro key
    rw [Account.used, hb.spent, hb.held, total_settledHolds, total_holds h.linked]
  refine ⟨fun key => ⟨?_, ?_⟩, hb.clamped⟩
  · rw [hb.used, hsum]
  · rw [← hsum]
    exact account.used_le_cap key

/-- The calls of a run with successful writes that claims only slots that are
still reserved or claimed. -/
def ClaimsOnlyOpenSlots (h : Machine Gateway) (c : GatewayCall) : Prop :=
  h.Reliable ∧ match c with
    | .claimGroupSlot _ groupId slotId _ =>
      ∀ slot ∈ h.store.state.slotAt groupId slotId, slot.state = .reserved ∨ slot.state = .claimed
    | _ => True

/-- **Conservation of tokens.** In every run with successful writes that claims
only open slots, the counter of every key is the sum of what was settled and
what is held under it, that sum is within the cap of the key, and no counter was
ever clamped. -/
theorem gateway_conserves_tokens (limits : TokenGatewayLimits) (h : Machine Gateway)
    (hrun : GatewayRun limits ClaimsOnlyOpenSlots h) :
    Conserves limits h.store := by
  refine (hrun.coherent ?_).conserves
  rintro h c ⟨hreliable, hclaims⟩
  constructor
  · cases c with
    | claimGroupSlot now groupId slotId input =>
      intro slot hslot _
      simpa [TokenGroupSlotReservation.isOpen] using hclaims slot hslot
    | _ => trivial
  · cases c with
    | releaseGroupSlots now groupId slotIds => exact fun group _ => hreliable.for _
    | _ => trivial

/-! A run that reserves 15 tokens, settles 7 of them, reserves a group of one
slot and claims it. -/

section sample

def sampleUuid : Uuid := ⟨js "00000000-0000-4000-8000-000000000001", by decide⟩

def sampleUuid' : Uuid := ⟨js "00000000-0000-4000-8000-000000000002", by decide⟩

theorem sampleUuids_nodup : [sampleUuid, sampleUuid'].Nodup := by decide

def sampleMachine : Machine Gateway :=
  ⟨.initial, [], .fresh [sampleUuid, sampleUuid'] sampleUuids_nodup⟩

def sampleRequest : TokenReservationRequest :=
  { provider := js "codex", model := none, sessionId := none,
    inputTokens := .ofNat 10, outputTokens := .ofNat 5 }

def sampleGroup : OrchestrationGroupSpec :=
  { groupId := js "group"
    slots := [{ slotId := js "slot", provider := js "codex", model := none, sessionId := none,
                holdTokens := .ofNat 20 }] }

def sampleReserved : Machine Gateway :=
  (GatewayCall.reserve 0 sampleRequest).run defaultTokenGatewayLimits sampleMachine

def sampleSettled : Machine Gateway :=
  (GatewayCall.settle 1 (newReservation 0 (normalizeRequest sampleRequest) sampleUuid)
    { inputTokens := .ofNat 4, outputTokens := .ofNat 3 }).run defaultTokenGatewayLimits
    sampleReserved

def sampleGrouped : Machine Gateway :=
  (GatewayCall.reserveGroup sampleGroup).run defaultTokenGatewayLimits sampleSettled

def sampleClaimed : Machine Gateway :=
  (GatewayCall.claimGroupSlot 2 (js "group") (js "slot") sampleRequest).run
    defaultTokenGatewayLimits sampleGrouped

theorem gateway_conserves_tokens_sample :
    sampleClaimed.store.state.usedTokens (js "provider:codex") = 27 ∧
      Conserves defaultTokenGatewayLimits sampleClaimed.store := by
  refine ⟨by decide, gateway_conserves_tokens _ _ ?_⟩
  have reserved : GatewayRun _ ClaimsOnlyOpenSlots sampleReserved :=
    .call _ (.start [] _ _) ⟨by decide, trivial⟩
  have settled : GatewayRun _ ClaimsOnlyOpenSlots sampleSettled :=
    .call _ reserved ⟨by decide, trivial⟩
  have grouped : GatewayRun _ ClaimsOnlyOpenSlots sampleGrouped :=
    .call _ settled ⟨by decide, trivial⟩
  have claimed : GatewayRun _ ClaimsOnlyOpenSlots sampleClaimed :=
    .call _ grouped ⟨by decide, by decide⟩
  exact claimed

end sample

end Autopilot
