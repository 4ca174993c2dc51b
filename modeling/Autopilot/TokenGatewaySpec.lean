/-
What each gateway operation can do, and that it keeps the ledger coherent.

Every operation either throws and leaves the ledger alone, or returns what is
there already, or makes one change in memory and then writes the file. The
`_cases` theorem of an operation says which, with every guard the operation
checked on the way; nothing later unfolds an operation again. The write is the
last thing an operation does, so `Commits` has only two outcomes: the file
follows the memory and the operation returns, or the write throws and the change
stays in memory alone.

`Coherent` is the invariant: the ledger is linked, and its counters are those of
an account. The step theorems at the end keep it through every operation, under
every outcome of the writes. Two operations have a condition. A claim must not
be granted on a slot that is closed already, and the writes in the middle of
`releaseGroupSlots` have to succeed.
-/
import Autopilot.TokenLedger

set_option autoImplicit false

namespace Autopilot

open Prog Budget

/-! ## Writing the file last -/

/-- The ledger in memory becomes `gateway`, and the file follows unless its
write throws. -/
def Commits {α : Type} (h : Machine Gateway) (gateway : Gateway) (supply : Supply Uuid) (a : α)
    (result : Except (Fault JsError) α × Machine Gateway) : Prop :=
  (∃ ws, ws ⊆ h.writes ∧ result = (.ok a, ⟨{ gateway with file := gateway.state }, ws, supply⟩)) ∨
    ∃ fault ws, ws ⊆ h.writes ∧ ¬ h.Reliable ∧ result = (.error fault, ⟨gateway, ws, supply⟩)

theorem persist_cases {h : Machine Gateway} (h' : Machine Gateway) (hw : h'.writes = h.writes) :
    Commits h h'.store h'.supply () (persist h') := by
  rcases Host.write_cases (fun g : Gateway => { g with file := g.state }) h' with
    ⟨ws, hrun, hws⟩ | ⟨f, ws, hrun, hws, hr⟩
  · exact .inl ⟨ws, hw ▸ hws, hrun⟩
  · exact .inr ⟨f, ws, hw ▸ hws, by simpa [Host.Reliable, hw] using hr, hrun⟩

theorem persist_commits {α : Type} {h : Machine Gateway} (h' : Machine Gateway)
    (hw : h'.writes = h.writes) (a : α) :
    Commits h h'.store h'.supply a ((persist >>= fun _ => (pure a : Proc Gateway α)) h') := by
  rcases persist_cases h' hw with ⟨ws, hws, hrun⟩ | ⟨f, ws, hws, hr, hrun⟩
  · exact .inl ⟨ws, hws, bind_run_ok hrun⟩
  · exact .inr ⟨f, ws, hws, hr, bind_run_error hrun⟩

section ops

variable (limits : TokenGatewayLimits) (now : ℕ) (h : Machine Gateway)

/-- The reservation `reserve` makes for a request. -/
def newReservation (request : NormalizedRequest) (uuid : Uuid) : TokenReservation :=
  { toNormalizedRequest := request
    reservationId := reservationIdOf uuid
    reservedAt := now
    totalTokens := request.inputTokens + request.outputTokens }

/-- A request that passes the checks of `reserve` is granted, and then the file
is written. -/
theorem reserve_run {input : TokenReservationRequest} {uuid : Uuid} {supply : Supply Uuid}
    (hfind : (normalizeRequest input).handoffId.bind h.store.state.findActiveReservation = none)
    (hrefusal : reserveRefusal limits h.store.state (normalizeRequest input) = none)
    (hnext : h.supply.next = some (uuid, supply)) :
    reserve limits now input h = (persist >>= fun _ =>
        (pure (newReservation now (normalizeRequest input) uuid) : Proc Gateway TokenReservation))
      ⟨h.store.grant (newReservation now (normalizeRequest input) uuid), h.writes, supply⟩ := by
  simp only [reserve, bind_run, Host.read_run, hfind, hrefusal]
  simp only [randomUUID, Host.draw, hnext]
  rfl

/-- **What `reserve` does.** -/
theorem reserve_cases (input : TokenReservationRequest) :
    (∃ e, reserve limits now input h = (.error (.thrown e), h)) ∨
      (∃ existing id, h.store.state.reservations.get? id = some existing ∧
        existing.toNormalizedRequest = normalizeRequest input ∧
        existing.handoffId ≠ none ∧ reserve limits now input h = (.ok existing, h)) ∨
      ∃ uuid supply, h.supply.next = some (uuid, supply) ∧
        (normalizeRequest input).handoffId.bind h.store.state.findActiveReservation = none ∧
        reserveRefusal limits h.store.state (normalizeRequest input) = none ∧
        Commits h (h.store.grant (newReservation now (normalizeRequest input) uuid)) supply
          (newReservation now (normalizeRequest input) uuid) (reserve limits now input h) := by
  cases hfind : (normalizeRequest input).handoffId.bind h.store.state.findActiveReservation with
  | some existing =>
    obtain ⟨handoffId, -, hf⟩ := Option.bind_eq_some_iff.1 hfind
    obtain ⟨id, hget⟩ := (Record.mem_values_iff _ _).1 (List.mem_of_find?_eq_some hf)
    have hid : existing.handoffId = some handoffId := by simpa using List.find?_some hf
    simp only [reserve, bind_run, Host.read_run, hfind]
    by_cases hsame : existing.toNormalizedRequest = normalizeRequest input
    · exact .inr (.inl ⟨existing, id, hget, hsame, by simp [hid], by simp [hsame]⟩)
    · exact .inl ⟨_, by simp only [hsame, if_false]; rfl⟩
  | none =>
    cases hrefusal : reserveRefusal limits h.store.state (normalizeRequest input) with
    | some code =>
      refine .inl ⟨tokenGatewayError code, ?_⟩
      simp only [reserve, bind_run, Host.read_run, hfind, hrefusal]
      rfl
    | none =>
      cases hnext : h.supply.next with
      | none =>
        refine .inl ⟨JsError.new "ERR_CRYPTO_OPERATION_FAILED", ?_⟩
        simp only [reserve, bind_run, Host.read_run, hfind, hrefusal]
        simp only [randomUUID, Host.draw, hnext]
      | some drawn =>
        obtain ⟨uuid, supply⟩ := drawn
        refine .inr (.inr ⟨uuid, supply, rfl, rfl, rfl, ?_⟩)
        rw [reserve_run limits now h hfind hrefusal hnext]
        exact persist_commits ⟨h.store.grant (newReservation now (normalizeRequest input) uuid),
          h.writes, supply⟩ rfl _

/-- The group `reserveGroup` makes for its slots. -/
def newGroup (groupId : JsString) (slots : List NormalizedSlot) (maximumTokens : ℕ) :
    TokenGroupReservation :=
  { groupId
    slots := slots.map fun slot => { slot with state := .reserved, reservation := none }
    maximumTokens }

/-- A request passes the checks of `reserveGroup`: its slots are `slots`, their
holds sum up to `maximumTokens` and the usage with them is `candidate`. -/
structure AdmitsGroup (state : GatewayState) (input : OrchestrationGroupSpec)
    (slots : List NormalizedSlot) (maximumTokens : ℕ) (candidate : Record JsString ℕ) : Prop where
  normal : normalizeGroup input = .ok slots
  named : input.groupId ∉ objectPrototypeNames
  fresh : state.groups.get? input.groupId = none
  room : ¬ (state.groups.size ≥ maxActiveReservations ∨ slots.length = 0 ∨
    state.activeCount + slots.length > maxActiveReservations)
  held : slots.foldlM (holdSlot limits) (0, state.used) = .ok (maximumTokens, candidate)
  keys : ¬ candidate.size > maxUsageKeys

variable {limits} in
theorem AdmitsGroup.nodup {state : GatewayState} {input : OrchestrationGroupSpec}
    {slots : List NormalizedSlot} {maximumTokens : ℕ} {candidate : Record JsString ℕ}
    (ha : AdmitsGroup limits state input slots maximumTokens candidate) :
    (slots.map (·.slotId)).Nodup := by
  have hnorm := ha.normal
  unfold normalizeGroup at hnorm
  split at hnorm
  · split at hnorm
    · rename_i hcond
      cases hnorm
      exact hcond.2
    · cases hnorm
  · cases hnorm

/-- The ledger with a new group in it. -/
def Gateway.entered (gateway : Gateway) (groupId : JsString) (slots : List NormalizedSlot)
    (maximumTokens : ℕ) (candidate : Record JsString ℕ) : Gateway :=
  { gateway with state := { gateway.state with
      used := candidate
      groups := gateway.state.groups.set groupId (newGroup groupId slots maximumTokens) } }

/-- A group that passes the checks is entered, and then the file is written. -/
theorem reserveGroup_run {input : OrchestrationGroupSpec} {slots : List NormalizedSlot}
    {maximumTokens : ℕ} {candidate : Record JsString ℕ}
    (ha : AdmitsGroup limits h.store.state input slots maximumTokens candidate) :
    reserveGroup limits input h = (persist >>= fun _ =>
        (pure (newGroup input.groupId slots maximumTokens) : Proc Gateway TokenGroupReservation))
      { h with store := h.store.entered input.groupId slots maximumTokens candidate } := by
  simp only [reserveGroup, ha.normal, bind_run, Host.read_run, ha.named, if_false, ha.fresh,
    ha.room, ha.held, ha.keys]
  rfl

/-- **What `reserveGroup` does.** -/
theorem reserveGroup_cases (input : OrchestrationGroupSpec) :
    (∃ e, reserveGroup limits input h = (.error (.thrown e), h)) ∨
      (∃ existing, h.store.state.groups.get? input.groupId = some existing ∧
        reserveGroup limits input h = (.ok existing, h)) ∨
      ∃ slots maximumTokens candidate,
        AdmitsGroup limits h.store.state input slots maximumTokens candidate ∧
        Commits h (h.store.entered input.groupId slots maximumTokens candidate) h.supply
          (newGroup input.groupId slots maximumTokens) (reserveGroup limits input h) := by
  cases hnorm : normalizeGroup input with
  | error e => exact .inl ⟨e, by simp only [reserveGroup, hnorm]; rfl⟩
  | ok slots =>
    by_cases hproto : input.groupId ∈ objectPrototypeNames
    · refine .inl ⟨JsError.new "token_group_mismatch", ?_⟩
      simp only [reserveGroup, hnorm, bind_run, Host.read_run, hproto, if_true]
      rfl
    cases hg : h.store.state.groups.get? input.groupId with
    | some existing =>
      simp only [reserveGroup, hnorm, bind_run, Host.read_run, hproto, if_false, hg]
      by_cases hsame : sameGroupRequest existing input.groupId slots = true
      · exact .inr (.inl ⟨existing, rfl, by simp [hsame]⟩)
      · exact .inl ⟨_, by simp only [hsame]; rfl⟩
    | none =>
      by_cases hroom : h.store.state.groups.size ≥ maxActiveReservations ∨ slots.length = 0 ∨
          h.store.state.activeCount + slots.length > maxActiveReservations
      · refine .inl ⟨tokenGatewayError .tokenReservationLimit, ?_⟩
        simp only [reserveGroup, hnorm, bind_run, Host.read_run, hproto, if_false, hg, hroom,
          if_true]
        rfl
      cases hfold : slots.foldlM (holdSlot limits) (0, h.store.state.used) with
      | error e =>
        refine .inl ⟨e, ?_⟩
        simp only [reserveGroup, hnorm, bind_run, Host.read_run, hproto, if_false, hg, hroom, hfold]
        rfl
      | ok acc =>
        obtain ⟨maximumTokens, candidate⟩ := acc
        by_cases hkeys : candidate.size > maxUsageKeys
        · refine .inl ⟨tokenGatewayError .tokenReservationLimit, ?_⟩
          simp only [reserveGroup, hnorm, bind_run, Host.read_run, hproto, if_false, hg, hroom,
            hfold, hkeys, if_true]
          rfl
        · have ha : AdmitsGroup limits h.store.state input slots maximumTokens candidate :=
            ⟨hnorm, hproto, hg, hroom, hfold, hkeys⟩
          refine .inr (.inr ⟨slots, maximumTokens, candidate, ha, ?_⟩)
          rw [reserveGroup_run limits h ha]
          exact persist_commits { h with
            store := h.store.entered input.groupId slots maximumTokens candidate } rfl _

/-- The reservation `claimGroupSlot` makes for a request. -/
def newSlotReservation (groupId slotId : JsString) (slot : TokenGroupSlotReservation)
    (request : NormalizedRequest) (uuid : Uuid) : TokenReservation :=
  { newReservation now request uuid with
    groupId := some groupId, slotId := some slotId, heldTokens := some slot.holdTokens }

/-- Where a slot was found. -/
theorem findSlot_split {group : TokenGroupReservation} {slotId : JsString} {index : ℕ}
    {slot : TokenGroupSlotReservation} (hf : group.findSlot slotId = some (index, slot)) :
    slot.slotId = slotId ∧ ∃ pre post, group.slots = pre ++ slot :: post ∧
      ∀ slot', group.slots.set index slot' = pre ++ slot' :: post := by
  unfold TokenGroupReservation.findSlot at hf
  obtain ⟨i, hi, hget⟩ := Option.bind_eq_some_iff.1 hf
  simp only [Option.map_eq_some_iff, Prod.mk.injEq] at hget
  obtain ⟨a, ha, rfl, rfl⟩ := hget
  obtain ⟨hlt, hval⟩ := List.getElem?_eq_some_iff.1 ha
  have hp := (List.findIdx?_eq_some_iff_getElem.1 hi).2.1
  rw [hval] at hp
  refine ⟨by simpa using hp, group.slots.take i, group.slots.drop (i + 1), ?_, fun slot' => ?_⟩
  · rw [← hval, List.getElem_cons_drop hlt, List.take_append_drop]
  · exact List.set_eq_take_append_cons_drop .. |>.trans (if_pos hlt)

/-- The checks a claim has to pass before anything is looked up in the slot. -/
def claimFits (slot : TokenGroupSlotReservation) (input : TokenReservationRequest) : Prop :=
  isCanonicalRequest input (normalizeRequest input) = true ∧
    slot.toTokenGatewayRoute = (normalizeRequest input).toTokenGatewayRoute ∧
    (normalizeRequest input).inputTokens + (normalizeRequest input).outputTokens ≤ slot.holdTokens

/-- A claim that passes the checks takes the slot, and then the file is written. -/
theorem claimGroupSlot_run {groupId slotId : JsString} {input : TokenReservationRequest}
    {group : TokenGroupReservation} {index : ℕ} {slot : TokenGroupSlotReservation} {uuid : Uuid}
    {supply : Supply Uuid} (hg : h.store.state.groups.get? groupId = some group)
    (hf : group.findSlot slotId = some (index, slot)) (hfits : claimFits slot input)
    (hnone : slot.reservation = none)
    (hin : ¬ (normalizeRequest input).inputTokens > limits.inputCapTokens)
    (hout : ¬ (normalizeRequest input).outputTokens > limits.outputCapTokens)
    (hnext : h.supply.next = some (uuid, supply)) :
    claimGroupSlot limits now groupId slotId input h = (persist >>= fun _ =>
        (pure (newSlotReservation now groupId slotId slot (normalizeRequest input) uuid) :
          Proc Gateway TokenReservation))
      ⟨h.store.claimSlot groupId group index slot
        (newSlotReservation now groupId slotId slot (normalizeRequest input) uuid),
        h.writes, supply⟩ := by
  obtain ⟨hcanonical, hroute, hhold⟩ := hfits
  have hhold' := Nat.not_lt.2 hhold
  simp only [claimGroupSlot, bind_run, Host.read_run, hg, hf]
  rw [if_neg (by simp [hcanonical, hroute, hhold])]
  simp only [hnone, hin, hout, if_false]
  simp only [randomUUID, Host.draw, bind_run, hnext]
  rfl

/-- **What `claimGroupSlot` does.** -/
theorem claimGroupSlot_cases (groupId slotId : JsString) (input : TokenReservationRequest) :
    (∃ e, claimGroupSlot limits now groupId slotId input h = (.error (.thrown e), h)) ∨
      ∃ group index slot, h.store.state.groups.get? groupId = some group ∧
        group.findSlot slotId = some (index, slot) ∧ claimFits slot input ∧
        ((∃ existing, slot.reservation = some existing ∧
            existing.toNormalizedRequest = normalizeRequest input ∧
            claimGroupSlot limits now groupId slotId input h = (.ok existing, h)) ∨
          (∃ uuid supply, h.supply.next = some (uuid, supply) ∧ slot.reservation = none ∧
            (normalizeRequest input).inputTokens ≤ limits.inputCapTokens ∧
            (normalizeRequest input).outputTokens ≤ limits.outputCapTokens ∧
            Commits h (h.store.claimSlot groupId group index slot
                (newSlotReservation now groupId slotId slot (normalizeRequest input) uuid)) supply
              (newSlotReservation now groupId slotId slot (normalizeRequest input) uuid)
              (claimGroupSlot limits now groupId slotId input h))) := by
  cases hg : h.store.state.groups.get? groupId with
  | none => exact .inl ⟨_, by simp only [claimGroupSlot, bind_run, Host.read_run, hg]; rfl⟩
  | some group =>
    cases hf : group.findSlot slotId with
    | none => exact .inl ⟨_, by simp only [claimGroupSlot, bind_run, Host.read_run, hg, hf]; rfl⟩
    | some found =>
      obtain ⟨index, slot⟩ := found
      by_cases hfits : claimFits slot input
      swap
      · refine .inl ⟨JsError.new "token_group_slot_mismatch", ?_⟩
        simp only [claimGroupSlot, bind_run, Host.read_run, hg, hf]
        rw [if_pos (by simpa [claimFits, and_assoc, imp_iff_not_or, or_assoc] using hfits)]
        rfl
      have hpass : ¬ (!isCanonicalRequest input (normalizeRequest input) ||
          slot.toTokenGatewayRoute ≠ (normalizeRequest input).toTokenGatewayRoute ||
          (normalizeRequest input).inputTokens + (normalizeRequest input).outputTokens
            > slot.holdTokens) = true := by
        obtain ⟨hcanonical, hroute, hhold⟩ := hfits
        simp [hcanonical, hroute, hhold]
      cases hres : slot.reservation with
      | some existing =>
        simp only [claimGroupSlot, bind_run, Host.read_run, hg, hf]
        rw [if_neg hpass, hres]
        by_cases hsame : existing.toNormalizedRequest = normalizeRequest input
        · exact .inr ⟨group, index, slot, rfl, hf, hfits,
            .inl ⟨existing, hres, hsame, by simp [hsame]⟩⟩
        · exact .inl ⟨_, by simp only [hsame, if_false]; rfl⟩
      | none =>
        by_cases hin : (normalizeRequest input).inputTokens > limits.inputCapTokens
        · refine .inl ⟨tokenGatewayError .tokenInputCapExceeded, ?_⟩
          simp only [claimGroupSlot, bind_run, Host.read_run, hg, hf]
          rw [if_neg hpass, hres]
          simp only [hin, if_true]
          rfl
        by_cases hout : (normalizeRequest input).outputTokens > limits.outputCapTokens
        · refine .inl ⟨tokenGatewayError .tokenOutputCapExceeded, ?_⟩
          simp only [claimGroupSlot, bind_run, Host.read_run, hg, hf]
          rw [if_neg hpass, hres]
          simp only [hin, hout, if_false, if_true]
          rfl
        cases hnext : h.supply.next with
        | none =>
          refine .inl ⟨JsError.new "ERR_CRYPTO_OPERATION_FAILED", ?_⟩
          simp only [claimGroupSlot, bind_run, Host.read_run, hg, hf]
          rw [if_neg hpass, hres]
          simp only [hin, hout, if_false]
          simp only [randomUUID, Host.draw, bind_run, hnext]
        | some drawn =>
          obtain ⟨uuid, supply⟩ := drawn
          refine .inr ⟨group, index, slot, rfl, hf, hfits,
            .inr ⟨uuid, supply, rfl, hres, by omega, by omega, ?_⟩⟩
          rw [claimGroupSlot_run limits now h hg hf hfits hres hin hout hnext]
          exact persist_commits ⟨h.store.claimSlot groupId group index slot
            (newSlotReservation now groupId slotId slot (normalizeRequest input) uuid),
            h.writes, supply⟩ rfl _

/-- The ledger after an active reservation was released. -/
def Gateway.released (gateway : Gateway) (now : ℕ) (id : JsString) (active : TokenReservation) :
    Gateway :=
  (gateway.addUsage active.toTokenGatewayRoute (-active.held)).retire now id active .released
    { inputTokens := 0, outputTokens := 0, released := true }

/-- Releasing an active reservation changes the ledger and writes the file. -/
theorem release_run_active {reservation active : TokenReservation}
    (hr : h.store.state.reservations.get? reservation.reservationId = some active)
    (hroute : active.toTokenGatewayRoute = reservation.toTokenGatewayRoute) :
    release now reservation h =
      persist { h with store := h.store.released now reservation.reservationId active } := by
  simp only [release, bind_run, Host.read_run, hr]
  simp only [hroute, ne_eq, not_true_eq_false, if_false, bind_run, Host.update_run]
  simp only [Gateway.released, hroute]

/-- Releasing a reservation that has ended already does nothing. -/
theorem release_run_terminal {reservation : TokenReservation}
    (hr : h.store.state.reservations.get? reservation.reservationId = none)
    (ht : h.store.state.terminal.get? reservation.reservationId ≠ none) :
    release now reservation h = (.ok (), h) := by
  simp only [release, bind_run, Host.read_run, hr]
  simp only [ne_eq, ht, not_false_eq_true, if_true]
  rfl

/-- **What `release` does.** -/
theorem release_cases (reservation : TokenReservation) :
    (∃ e, release now reservation h = (.error (.thrown e), h)) ∨
      (h.store.state.reservations.get? reservation.reservationId = none ∧
        h.store.state.terminal.get? reservation.reservationId ≠ none ∧
        release now reservation h = (.ok (), h)) ∨
      ∃ active, h.store.state.reservations.get? reservation.reservationId = some active ∧
        active.toTokenGatewayRoute = reservation.toTokenGatewayRoute ∧
        Commits h (h.store.released now reservation.reservationId active) h.supply ()
          (release now reservation h) := by
  cases hr : h.store.state.reservations.get? reservation.reservationId with
  | none =>
    by_cases ht : h.store.state.terminal.get? reservation.reservationId = none
    · refine .inl ⟨tokenGatewayError .tokenReservationMissing, ?_⟩
      simp only [release, bind_run, Host.read_run, hr]
      simp only [ne_eq, ht, not_true_eq_false, if_false]
      rfl
    · exact .inr (.inl ⟨rfl, ht, release_run_terminal now h hr ht⟩)
  | some active =>
    by_cases hroute : active.toTokenGatewayRoute = reservation.toTokenGatewayRoute
    · refine .inr (.inr ⟨active, rfl, hroute, ?_⟩)
      rw [release_run_active now h hr hroute]
      exact persist_cases
        { h with store := h.store.released now reservation.reservationId active } rfl
    · refine .inl ⟨tokenGatewayError .tokenRouteMismatch, ?_⟩
      simp only [release, bind_run, Host.read_run, hr]
      simp only [ne_eq, hroute, not_false_eq_true, if_true]
      rfl

/-- The ledger after an active reservation was settled. -/
def Gateway.settled (gateway : Gateway) (now : ℕ) (id : JsString) (active : TokenReservation)
    (settlement : TokenSettlement) : Gateway :=
  ((gateway.addUsage active.toTokenGatewayRoute (-active.held)).addUsage
    active.toTokenGatewayRoute (settlement.inputTokens + settlement.outputTokens : ℕ)).retire now
      id active .settled settlement

/-- The settlement a report of usage asks for. -/
def TokenUsage.settlement (usage : TokenUsage) : TokenSettlement :=
  { inputTokens := safeCount usage.inputTokens, outputTokens := safeCount usage.outputTokens,
    released := usage.released }

/-- Settling an active reservation within its limits changes the ledger and
writes the file. -/
theorem settle_run_active {reservation active : TokenReservation} {usage : TokenUsage}
    (hr : h.store.state.reservations.get? reservation.reservationId = some active)
    (hroute : active.toTokenGatewayRoute = reservation.toTokenGatewayRoute)
    (hrefusal : settleRefusal limits h.store.state active usage.settlement.inputTokens
      usage.settlement.outputTokens = none) :
    settle limits now reservation usage h = (persist >>= fun _ => (pure usage.settlement :
      Proc Gateway TokenSettlement)) { h with
        store := h.store.settled now reservation.reservationId active usage.settlement } := by
  simp only [TokenUsage.settlement] at hrefusal
  simp only [settle, bind_run, Host.read_run, hr]
  simp only [hroute, ne_eq, not_true_eq_false, if_false, hrefusal, bind_run, Host.update_run]
  simp only [Gateway.settled, hroute, TokenUsage.settlement]

/-- Settling a reservation that was settled before gives the settlement again. -/
theorem settle_run_terminal {reservation : TokenReservation} {usage : TokenUsage}
    {t : TerminalRecord}
    (hr : h.store.state.reservations.get? reservation.reservationId = none)
    (ht : h.store.state.terminal.get? reservation.reservationId = some t)
    (hevent : t.event = .settled) :
    settle limits now reservation usage h = (.ok t.settlement, h) := by
  rcases t with ⟨event, settlement, completedAt⟩
  cases hevent
  simp only [settle, bind_run, Host.read_run, hr, ht]
  rfl

/-- **What `settle` does.** -/
theorem settle_cases (reservation : TokenReservation) (usage : TokenUsage) :
    (∃ e, settle limits now reservation usage h = (.error (.thrown e), h)) ∨
      (∃ t, h.store.state.reservations.get? reservation.reservationId = none ∧
        h.store.state.terminal.get? reservation.reservationId = some t ∧ t.event = .settled ∧
        settle limits now reservation usage h = (.ok t.settlement, h)) ∨
      ∃ active, h.store.state.reservations.get? reservation.reservationId = some active ∧
        active.toTokenGatewayRoute = reservation.toTokenGatewayRoute ∧
        settleRefusal limits h.store.state active usage.settlement.inputTokens
          usage.settlement.outputTokens = none ∧
        Commits h (h.store.settled now reservation.reservationId active usage.settlement) h.supply
          usage.settlement (settle limits now reservation usage h) := by
  cases hr : h.store.state.reservations.get? reservation.reservationId with
  | none =>
    cases ht : h.store.state.terminal.get? reservation.reservationId with
    | none =>
      refine .inl ⟨tokenGatewayError .tokenReservationMissing, ?_⟩
      simp only [settle, bind_run, Host.read_run, hr, ht]
      rfl
    | some t =>
      by_cases hevent : t.event = .settled
      · exact .inr (.inl ⟨t, rfl, rfl, hevent, settle_run_terminal limits now h hr ht hevent⟩)
      · refine .inl ⟨tokenGatewayError .tokenReservationMissing, ?_⟩
        rcases t with ⟨event, settlement, completedAt⟩
        cases event with
        | settled => exact absurd rfl hevent
        | released =>
          simp only [settle, bind_run, Host.read_run, hr, ht]
          rfl
  | some active =>
    by_cases hroute : active.toTokenGatewayRoute = reservation.toTokenGatewayRoute
    · cases hrefusal : settleRefusal limits h.store.state active usage.settlement.inputTokens
        usage.settlement.outputTokens with
      | some code =>
        refine .inl ⟨tokenGatewayError code, ?_⟩
        simp only [TokenUsage.settlement] at hrefusal
        simp only [settle, bind_run, Host.read_run, hr]
        simp only [hroute, ne_eq, not_true_eq_false, if_false, hrefusal]
        rfl
      | none =>
        refine .inr (.inr ⟨active, rfl, hroute, hrefusal, ?_⟩)
        rw [settle_run_active limits now h hr hroute hrefusal]
        exact persist_commits { h with
          store := h.store.settled now reservation.reservationId active usage.settlement } rfl _
    · refine .inl ⟨tokenGatewayError .tokenRouteMismatch, ?_⟩
      simp only [settle, bind_run, Host.read_run, hr]
      simp only [ne_eq, hroute, not_false_eq_true, if_true]
      rfl

/-- **What `acknowledgeTerminal` does.** -/
theorem acknowledgeTerminal_cases (id : JsString) :
    (h.store.state.terminal.get? id = none ∧ acknowledgeTerminal id h = (.ok (), h)) ∨
      Commits h { h.store with state := { h.store.state with
        terminal := h.store.state.terminal.erase id } } h.supply () (acknowledgeTerminal id h) := by
  unfold acknowledgeTerminal
  simp only [bind_run, Host.read_run]
  by_cases ht : h.store.state.terminal.get? id = none
  · exact .inl ⟨ht, by simp only [ht, if_true]; rfl⟩
  · refine .inr ?_
    simp only [ht, if_false, bind_run, Host.update_run]
    exact persist_cases { h with store := { h.store with state := { h.store.state with
      terminal := h.store.state.terminal.erase id } } } rfl

end ops

/-! ## The shape of the ledger

Every change an operation makes keeps the ledger linked. The counters have no
part in this, so nothing is asked of the writes, and a claim may be granted on
any slot that has no reservation yet. -/

section Linked

variable {gateway : Gateway} {drawn : List Uuid} {limits : TokenGatewayLimits} {now : ℕ}
variable {id : JsString} {active : TokenReservation} {uuid : Uuid}

theorem linked_initial : Gateway.initial.Linked [] := by
  constructor <;> simp [Gateway.initial, GatewayState.empty]

theorem Gateway.Linked.granted (h : gateway.Linked drawn) (hu : uuid ∉ drawn)
    (request : NormalizedRequest) :
    (gateway.grant (newReservation now request uuid)).Linked (uuid :: drawn) := by
  have hl : Autopilot.Linked
      (gateway.state.reservations.set (newReservation now request uuid).reservationId
        (newReservation now request uuid)) gateway.state.terminal gateway.state.groups
      gateway.history (uuid :: drawn) := h.grant hu rfl rfl rfl
  simpa only [Gateway.grant, Gateway.Linked, addUsage_reservations, addUsage_terminal,
    addUsage_groups, addUsage_history] using hl

theorem Gateway.Linked.entered {input : OrchestrationGroupSpec} {slots : List NormalizedSlot}
    {maximumTokens : ℕ} {candidate : Record JsString ℕ} (h : gateway.Linked drawn)
    (ha : AdmitsGroup limits gateway.state input slots maximumTokens candidate) :
    (gateway.entered input.groupId slots maximumTokens candidate).Linked drawn := by
  refine h.hold rfl ha.fresh ?_ ?_
  · simpa [newGroup, Function.comp_def] using ha.nodup
  · intro slot hs
    obtain ⟨slot', -, rfl⟩ := List.mem_map.1 hs
    exact ⟨rfl, rfl⟩

theorem Gateway.Linked.claimed {groupId slotId : JsString} {group : TokenGroupReservation}
    {index : ℕ} {slot : TokenGroupSlotReservation} {input : TokenReservationRequest}
    (h : gateway.Linked drawn) (hu : uuid ∉ drawn)
    (hg : gateway.state.groups.get? groupId = some group)
    (hf : group.findSlot slotId = some (index, slot)) (hfits : claimFits slot input)
    (hnone : slot.reservation = none) :
    (gateway.claimSlot groupId group index slot
      (newSlotReservation now groupId slotId slot (normalizeRequest input) uuid)).Linked
      (uuid :: drawn) := by
  obtain ⟨rfl, pre, post, hslots, hset⟩ := findSlot_split hf
  simp only [Gateway.claimSlot, hset]
  exact h.claim hu rfl hg hslots hnone rfl rfl rfl rfl hfits.2.2 hfits.2.1.symm

theorem Gateway.Linked.released (h : gateway.Linked drawn)
    (hr : gateway.state.reservations.get? id = some active) :
    (gateway.released now id active).Linked drawn :=
  (retire_spec (h.addUsage _ _) (by simpa using hr) ..).1

theorem Gateway.Linked.settled (h : gateway.Linked drawn)
    (hr : gateway.state.reservations.get? id = some active) (settlement : TokenSettlement) :
    (gateway.settled now id active settlement).Linked drawn :=
  (retire_spec ((h.addUsage _ _).addUsage _ _) (by simpa using hr) ..).1

theorem Gateway.Linked.acknowledged (h : gateway.Linked drawn) (id : JsString) :
    Gateway.Linked { gateway with state := { gateway.state with
      terminal := gateway.state.terminal.erase id } } drawn := by
  refine h.forget (fun id' t ht => ?_)
  rw [Record.get?_erase] at ht
  split at ht
  · cases ht
  · exact ht

end Linked

/-! ## The invariant -/

/-- The ledger of an instance is linked and its counters are those of an
account. -/
structure Coherent (limits : TokenGatewayLimits) (gateway : Gateway) (drawn : List Uuid) :
    Prop where
  linked : gateway.Linked drawn
  books : ∃ account, Books limits gateway account

section Coherent

variable {limits : TokenGatewayLimits} {gateway : Gateway} {drawn : List Uuid} {now : ℕ}
variable {id : JsString} {active : TokenReservation}

/-- The empty ledger. -/
theorem coherent_initial (limits : TokenGatewayLimits) : Coherent limits .initial [] where
  linked := linked_initial
  books := ⟨.empty, fun _ => rfl, rfl, rfl, rfl⟩

/-- The file is no part of the ledger in memory. -/
theorem Coherent.withFile (h : Coherent limits gateway drawn) (file : GatewayState) :
    Coherent limits { gateway with file } drawn :=
  ⟨h.linked, h.books.imp fun _ b => ⟨b.used, b.held, b.spent, b.clamped⟩⟩

theorem Coherent.commits {α : Type} {h : Machine Gateway} {supply : Supply Uuid} {a : α}
    {result : Except (Fault JsError) α × Machine Gateway}
    (hc : Coherent limits gateway supply.drawn) (hres : Commits h gateway supply a result) :
    Coherent limits result.2.store result.2.supply.drawn := by
  rcases hres with ⟨ws, -, rfl⟩ | ⟨f, ws, -, -, rfl⟩
  · exact hc.withFile _
  · exact hc

/-- A request that was not refused has room under every key. -/
theorem reserveRefusal_room {state : GatewayState} {request : NormalizedRequest}
    (h : reserveRefusal limits state request = none) :
    ∀ k ∈ request.toTokenGatewayRoute.keys,
      state.usedTokens k + (request.inputTokens + request.outputTokens) ≤ limits.cap k := by
  intro k hk
  simp only [reserveRefusal] at h
  split at h <;> try cases h
  split at h <;> try cases h
  split at h <;> try cases h
  split at h <;> try cases h
  split at h <;> try cases h
  rename_i hcap
  rw [zip_budgets] at hcap
  simp only [List.any_map, List.any_eq_true, Function.comp, decide_eq_true_eq, not_exists,
    not_and] at hcap
  have := hcap k (List.mem_toFinset.1 hk)
  omega

theorem Coherent.grant {uuid : Uuid} {request : NormalizedRequest}
    (h : Coherent limits gateway drawn) (hu : uuid ∉ drawn)
    (hroom : reserveRefusal limits gateway.state request = none) :
    Coherent limits (gateway.grant (newReservation now request uuid)) (uuid :: drawn) := by
  obtain ⟨account, hb⟩ := h.books
  have hfresh : gateway.state.reservations.get? (reservationIdOf uuid) = none := h.linked.fresh hu
  refine ⟨h.linked.granted hu request, _, hb.grant hfresh rfl rfl (fun k hk => ?_)⟩
  rw [← hb.used]
  exact reserveRefusal_room hroom k hk

/-- A group that fits is entered. -/
theorem Coherent.hold {input : OrchestrationGroupSpec} {slots : List NormalizedSlot}
    {maximumTokens : ℕ} {candidate : Record JsString ℕ} (h : Coherent limits gateway drawn)
    (ha : AdmitsGroup limits gateway.state input slots maximumTokens candidate) :
    Coherent limits (gateway.entered input.groupId slots maximumTokens candidate) drawn := by
  obtain ⟨account, hb⟩ := h.books
  refine ⟨h.linked.entered ha, ?_⟩
  have hused : ∀ k, ((((0, gateway.state.used) : ℕ × Record JsString ℕ).2.get? k).getD 0)
      = account.used k := hb.used
  obtain ⟨account', hu, hh, hsp⟩ := holdSlots_spec account hused ha.held
  refine ⟨account', hu, ?_, hsp.trans hb.spent, hb.clamped⟩
  have hnew : openHolds (newGroup input.groupId slots maximumTokens).slots
      = ((slots.map (·.hold) : List _) : Multiset (Hold JsString)) := by
    simp only [newGroup, openHolds]
    rw [List.filter_eq_self.2]
    · simp [Function.comp_def, TokenGroupSlotReservation.hold, NormalizedSlot.hold]
    · intro slot hs
      obtain ⟨slot', -, rfl⟩ := List.mem_map.1 hs
      rfl
  rw [hh, hb.held]
  simp only [GatewayState.holds, Gateway.entered]
  rw [Record.sum_set_of_none ha.fresh, hnew]
  abel

/-- An open slot without a reservation is claimed within its hold. -/
theorem Coherent.claim {groupId slotId : JsString} {group : TokenGroupReservation} {index : ℕ}
    {slot : TokenGroupSlotReservation} {input : TokenReservationRequest} {uuid : Uuid}
    (h : Coherent limits gateway drawn) (hu : uuid ∉ drawn)
    (hg : gateway.state.groups.get? groupId = some group)
    (hf : group.findSlot slotId = some (index, slot)) (hfits : claimFits slot input)
    (hnone : slot.reservation = none) (hopen : slot.isOpen) :
    Coherent limits (gateway.claimSlot groupId group index slot
      (newSlotReservation now groupId slotId slot (normalizeRequest input) uuid))
      (uuid :: drawn) := by
  obtain ⟨account, hb⟩ := h.books
  have hfresh : gateway.state.reservations.get? (reservationIdOf uuid) = none := h.linked.fresh hu
  refine ⟨h.linked.claimed hu hg hf hfits hnone, account, ?_⟩
  obtain ⟨rfl, pre, post, hslots, hset⟩ := findSlot_split hf
  simp only [Gateway.claimSlot, hset]
  exact hb.claim hfresh (by simp [newSlotReservation]) hg hslots hopen rfl rfl

theorem Coherent.released (h : Coherent limits gateway drawn)
    (hr : gateway.state.reservations.get? id = some active) :
    Coherent limits (gateway.released now id active) drawn := by
  obtain ⟨account, hb⟩ := h.books
  exact ⟨h.linked.released hr, hb.release h.linked hr now _⟩

theorem settleRefusal_total {state : GatewayState} {inputTokens outputTokens : ℕ}
    (h : settleRefusal limits state active inputTokens outputTokens = none) :
    inputTokens + outputTokens ≤ active.totalTokens := by
  simp only [settleRefusal] at h
  split at h <;> try cases h
  split at h <;> try cases h
  split at h <;> try cases h
  omega

theorem Coherent.settled {settlement : TokenSettlement} (h : Coherent limits gateway drawn)
    (hr : gateway.state.reservations.get? id = some active)
    (hle : settlement.inputTokens + settlement.outputTokens ≤ active.totalTokens) :
    Coherent limits (gateway.settled now id active settlement) drawn := by
  obtain ⟨account, hb⟩ := h.books
  exact ⟨h.linked.settled hr settlement, hb.settle h.linked hr now hle⟩

theorem Coherent.acknowledged (h : Coherent limits gateway drawn) (id : JsString) :
    Coherent limits { gateway with state := { gateway.state with
      terminal := gateway.state.terminal.erase id } } drawn :=
  ⟨h.linked.acknowledged id, h.books.imp fun _ b => ⟨b.used, b.held, b.spent, b.clamped⟩⟩

/-! ## Releasing the slots of a group

The loop works on the counters and the reservations while the group still shows
its slots as they were. `withSlots` is the ledger as it will be recorded, and
the loop keeps that one coherent. -/

/-- The ledger with the slots of one group replaced. -/
def Gateway.withSlots (gateway : Gateway) (groupId : JsString) (group : TokenGroupReservation)
    (slots : List TokenGroupSlotReservation) : Gateway :=
  { gateway with state := { gateway.state with
      groups := gateway.state.groups.set groupId { group with slots } } }

/-- What `releaseGroupSlots` makes of one slot. -/
def TokenGroupSlotReservation.giveBack (slot : TokenGroupSlotReservation)
    (requested : List JsString) : TokenGroupSlotReservation :=
  if slot.slotId ∉ requested ∨ slot.state = .released ∨ slot.state = .settled then slot
  else { slot with state := .released }

theorem withSlots_addUsage (gateway : Gateway) (groupId : JsString)
    (group : TokenGroupReservation) (slots : List TokenGroupSlotReservation)
    (route : TokenGatewayRoute) (amount : ℤ) :
    (gateway.withSlots groupId group slots).addUsage route amount =
      (gateway.addUsage route amount).withSlots groupId group slots := by
  unfold Gateway.addUsage
  induction routeUsageKeys route generalizing gateway with
  | nil => rfl
  | cons key keys ih =>
    simp only [List.foldl_cons]
    exact ih (gateway.addUsageAt amount key)

/-- Releasing the reservation of a slot, seen on the ledger as it will be
recorded. -/
theorem withSlots_released {groupId : JsString} {group : TokenGroupReservation}
    {pre post : List TokenGroupSlotReservation} {slot : TokenGroupSlotReservation}
    (hgid : active.groupId = some groupId) (hsid : active.slotId = some slot.slotId)
    (hnd : ((pre ++ slot :: post).map (·.slotId)).Nodup) :
    (gateway.withSlots groupId group (pre ++ slot :: post)).released now id active =
      (gateway.released now id active).withSlots groupId group
        (pre ++ { slot with state := .released } :: post) := by
  have hset : ∀ state : GatewayState,
      (state.updateGroupSlot active .released).groups.set groupId
        { group with slots := pre ++ { slot with state := .released } :: post } =
        state.groups.set groupId
          { group with slots := pre ++ { slot with state := .released } :: post } := by
    intro state
    simp only [GatewayState.updateGroupSlot, hgid, hsid]
    split <;> simp
  simp only [Gateway.released, withSlots_addUsage]
  generalize gateway.addUsage active.toTokenGatewayRoute (-active.held) = freed
  simp only [Gateway.retire, Gateway.withSlots, TerminalEvent.slotState, hset]
  rw [updateGroupSlot_eq, updateGroupSlot_claimed hgid hsid (Record.get?_set_self ..) rfl hnd,
    updateGroupSlot_eq { freed.state with reservations := _, terminal := _ }]
  simp only [Record.set_set]

/-- Giving a reserved slot back keeps the ledger linked, seen as it will be
recorded. -/
theorem Gateway.Linked.giveBack {groupId : JsString} {group : TokenGroupReservation}
    {pre post : List TokenGroupSlotReservation} {slot : TokenGroupSlotReservation}
    (h : (gateway.withSlots groupId group (pre ++ slot :: post)).Linked drawn)
    (hreserved : slot.state = .reserved) :
    ((gateway.addUsage slot.toTokenGatewayRoute (-slot.holdTokens)).withSlots
      groupId group (pre ++ { slot with state := .released } :: post)).Linked drawn := by
  have hg : (gateway.withSlots groupId group (pre ++ slot :: post)).state.groups.get? groupId
      = some { group with slots := pre ++ slot :: post } := Record.get?_set_self ..
  have hslot : slot ∈ pre ++ slot :: post := List.mem_append_right _ (List.mem_cons_self ..)
  have hnone : ∀ r, slot.reservation ≠ some r := fun r hr =>
    (h.slot_reservation hg hslot hr).2.2.2.2 hreserved
  have hl := h.close .released hg rfl ⟨by simp, by simp⟩ (fun hr => ⟨hr, hnone _⟩) (fun hr _ => hr)
  simpa [Gateway.Linked, Gateway.withSlots] using hl

/-- Giving a reserved slot back, seen on the ledger as it will be recorded. -/
theorem Coherent.giveBack {groupId : JsString} {group : TokenGroupReservation}
    {pre post : List TokenGroupSlotReservation} {slot : TokenGroupSlotReservation}
    (h : Coherent limits (gateway.withSlots groupId group (pre ++ slot :: post)) drawn)
    (hreserved : slot.state = .reserved) :
    Coherent limits ((gateway.addUsage slot.toTokenGatewayRoute (-slot.holdTokens)).withSlots
      groupId group (pre ++ { slot with state := .released } :: post)) drawn := by
  have hg : (gateway.withSlots groupId group (pre ++ slot :: post)).state.groups.get? groupId
      = some { group with slots := pre ++ slot :: post } := Record.get?_set_self ..
  have hopen : slot.isOpen := by simp [TokenGroupSlotReservation.isOpen, hreserved]
  obtain ⟨account, hb⟩ := h.books
  obtain ⟨account', hb'⟩ := hb.giveBack hg rfl hopen
  refine ⟨h.linked.giveBack hreserved, account', ?_⟩
  rw [withSlots_addUsage] at hb'
  simpa [Gateway.withSlots] using hb'

/-- The slots whose release writes the file in the middle of the loop. -/
def nestedReleases (requested : List JsString) (slots : List TokenGroupSlotReservation) : ℕ :=
  (slots.filter fun slot => slot.slotId ∈ requested ∧ slot.state = .claimed).length

theorem nestedReleases_cons (requested : List JsString) (slot : TokenGroupSlotReservation)
    (slots : List TokenGroupSlotReservation) :
    nestedReleases requested (slot :: slots) =
      (if slot.slotId ∈ requested ∧ slot.state = .claimed then 1 else 0)
        + nestedReleases requested slots := by
  unfold nestedReleases
  by_cases h : slot.slotId ∈ requested ∧ slot.state = .claimed
  · rw [List.filter_cons_of_pos (by simpa using h), List.length_cons, if_pos h, Nat.add_comm]
  · rw [List.filter_cons_of_neg (by simpa using h), if_neg h, Nat.zero_add]

section releaseSlots

variable {requested : List JsString} {slot : TokenGroupSlotReservation}
variable (todo : List TokenGroupSlotReservation) (h : Machine Gateway)

/-- What the loop does after one slot. -/
def releaseRest (now : ℕ) (requested : List JsString) (slot : TokenGroupSlotReservation)
    (todo : List TokenGroupSlotReservation) : Proc Gateway (List TokenGroupSlotReservation) :=
  releaseSlots now requested todo >>= fun slots' => pure (slot.giveBack requested :: slots')

/-- A slot that is closed or not asked for is passed over. -/
theorem releaseSlots_skip
    (hskip : slot.slotId ∉ requested ∨ slot.state = .released ∨ slot.state = .settled) :
    releaseSlots now requested (slot :: todo) h = releaseRest now requested slot todo h := by
  have hgive : slot.giveBack requested = slot := if_pos hskip
  rw [releaseSlots, if_pos hskip, releaseRest, hgive]
  rfl

/-- A reserved slot gives its tokens back. -/
theorem releaseSlots_reserved (hmem : slot.slotId ∈ requested) (hreserved : slot.state = .reserved) :
    releaseSlots now requested (slot :: todo) h = releaseRest now requested slot todo
      { h with store := h.store.addUsage slot.toTokenGatewayRoute (-slot.holdTokens) } := by
  have hskip : ¬ (slot.slotId ∉ requested ∨ slot.state = .released ∨ slot.state = .settled) := by
    simp [hmem, hreserved]
  have hgive : slot.giveBack requested = { slot with state := .released } := if_neg hskip
  rw [releaseSlots, if_neg hskip, releaseRest, hgive]
  simp only [hreserved]
  rfl

/-- A claimed slot has its reservation released, with a write of the file. -/
theorem releaseSlots_claimed {r : TokenReservation} (hmem : slot.slotId ∈ requested)
    (hclaimed : slot.state = .claimed) (hr : slot.reservation = some r)
    (hact : h.store.state.reservations.get? r.reservationId = some r) :
    releaseSlots now requested (slot :: todo) h =
      (persist >>= fun _ => releaseRest now requested slot todo)
        { h with store := h.store.released now r.reservationId r } := by
  have hskip : ¬ (slot.slotId ∉ requested ∨ slot.state = .released ∨ slot.state = .settled) := by
    simp [hmem, hclaimed]
  have hgive : slot.giveBack requested = { slot with state := .released } := if_neg hskip
  rw [releaseSlots, if_neg hskip]
  simp only [hclaimed, hr, bind_run, release_run_active now h hact rfl]
  cases persist { h with store := h.store.released now r.reservationId r } with
  | mk result h' =>
    simp only [releaseRest, hgive, hr]
    cases result with
    | error fault => rfl
    | ok done => rfl

end releaseSlots

/-- **The loop of `releaseGroupSlots`**, from a ledger that shows the slots of
the group as `pre ++ todo`. The induction is on the slots still to do; the
ledger as it will be recorded stays coherent throughout. -/
theorem releaseSlots_spec {groupId : JsString} {group : TokenGroupReservation}
    (requested : List JsString) (todo pre : List TokenGroupSlotReservation) (h : Machine Gateway)
    (hc : Coherent limits (h.store.withSlots groupId group (pre ++ todo)) h.supply.drawn)
    (hw : h.ReliableFor (nestedReleases requested todo)) :
    ∃ gateway' ws, releaseSlots now requested todo h
        = (.ok (todo.map (·.giveBack requested)), ⟨gateway', ws, h.supply⟩) ∧ ws ⊆ h.writes ∧
      Coherent limits (gateway'.withSlots groupId group
        (pre ++ todo.map (·.giveBack requested))) h.supply.drawn ∧
      ∀ group', gateway'.state.groups.set groupId group'
        = h.store.state.groups.set groupId group' := by
  induction todo generalizing pre h with
  | nil => exact ⟨h.store, h.writes, rfl, List.Subset.refl _, hc, fun _ => rfl⟩
  | cons slot todo ih =>
    -- one slot is dealt with: the rest runs from the machine it leaves
    have step : ∀ gateway₁ ws₁, ws₁ ⊆ h.writes →
        (∀ w ∈ ws₁.take (nestedReleases requested todo), w = .done) →
        Coherent limits (gateway₁.withSlots groupId group
          (pre ++ slot.giveBack requested :: todo)) h.supply.drawn →
        (∀ group', gateway₁.state.groups.set groupId group'
          = h.store.state.groups.set groupId group') →
        ∃ gateway' ws, releaseRest now requested slot todo ⟨gateway₁, ws₁, h.supply⟩
          = (.ok ((slot :: todo).map (·.giveBack requested)), ⟨gateway', ws, h.supply⟩) ∧
          ws ⊆ h.writes ∧
          Coherent limits (gateway'.withSlots groupId group
            (pre ++ (slot :: todo).map (·.giveBack requested))) h.supply.drawn ∧
          ∀ group', gateway'.state.groups.set groupId group'
            = h.store.state.groups.set groupId group' := by
      intro gateway₁ ws₁ hws₁ hrel₁ hc₁ hgroups₁
      obtain ⟨gateway', ws, hrun, hws, hc', hgroups⟩ := ih (pre ++ [slot.giveBack requested])
        ⟨gateway₁, ws₁, h.supply⟩ (by simpa using hc₁) hrel₁
      refine ⟨gateway', ws, ?_, List.Subset.trans hws hws₁, by simpa using hc',
        fun group' => (hgroups group').trans (hgroups₁ group')⟩
      rw [releaseRest, bind_run_ok hrun]
      rfl
    have hg : (h.store.withSlots groupId group (pre ++ slot :: todo)).state.groups.get? groupId
        = some { group with slots := pre ++ slot :: todo } := Record.get?_set_self ..
    have hslot : slot ∈ pre ++ slot :: todo := List.mem_append_right _ (List.mem_cons_self ..)
    rw [nestedReleases_cons] at hw
    by_cases hskip : slot.slotId ∉ requested ∨ slot.state = .released ∨ slot.state = .settled
    · have hgive : slot.giveBack requested = slot := if_pos hskip
      rw [if_neg (by rcases hskip with hs | hs | hs <;> simp [hs]), Nat.zero_add] at hw
      rw [releaseSlots_skip todo h hskip]
      exact step h.store h.writes (List.Subset.refl _) hw (by rw [hgive]; exact hc) (fun _ => rfl)
    have hgive : slot.giveBack requested = { slot with state := .released } := if_neg hskip
    have hmem : slot.slotId ∈ requested := not_not.1 (not_or.1 hskip).1
    by_cases hclaimed : slot.state = .claimed
    · obtain ⟨r, hr, hact⟩ := hc.linked.slot_claimed hg hslot hclaimed
      obtain ⟨hgid, hsid, -⟩ := hc.linked.slot_reservation hg hslot hr
      have hnd := (hc.linked.group_ids hg).2
      rw [if_pos ⟨hmem, hclaimed⟩, Nat.add_comm] at hw
      obtain ⟨ws₁, hwrite, hws₁, hrel₁⟩ := Host.write_reliableFor
        (fun g : Gateway => { g with file := g.state })
        { h with store := h.store.released now r.reservationId r } hw
      have hc₁ : Coherent limits ((h.store.withSlots groupId group (pre ++ slot :: todo)).released
        now r.reservationId r) h.supply.drawn := hc.released hact
      rw [withSlots_released hgid hsid hnd] at hc₁
      rw [releaseSlots_claimed todo h hmem hclaimed hr hact, persist, bind_run_ok hwrite]
      refine step { h.store.released now r.reservationId r with
          file := (h.store.released now r.reservationId r).state } ws₁ hws₁ hrel₁
        (by rw [hgive]; exact hc₁.withFile _) ?_
      intro group'
      simp only [Gateway.released, Gateway.retire, GatewayState.updateGroupSlot, hgid, hsid]
      split <;> simp
    · have hreserved : slot.state = .reserved := by
        cases hs : slot.state <;> simp_all
      rw [if_neg (fun hboth => hclaimed hboth.2), Nat.zero_add] at hw
      rw [releaseSlots_reserved todo h hmem hreserved]
      exact step (h.store.addUsage slot.toTokenGatewayRoute (-slot.holdTokens)) h.writes
        (List.Subset.refl _) hw (by rw [hgive]; exact hc.giveBack hreserved) (by simp)

/-- **What `releaseGroupSlots` does**, from a coherent ledger, when the writes in
the middle of its loop succeed. -/
theorem releaseGroupSlots_cases (now : ℕ) (groupId : JsString) (slotIds : List JsString)
    (h : Machine Gateway) (hc : Coherent limits h.store h.supply.drawn)
    (hw : ∀ group, h.store.state.groups.get? groupId = some group →
      h.ReliableFor (nestedReleases slotIds group.slots)) :
    (∃ e, releaseGroupSlots now groupId slotIds h = (.error (.thrown e), h)) ∨
      ∃ group gateway', h.store.state.groups.get? groupId = some group ∧
        Coherent limits gateway' h.supply.drawn ∧
        gateway'.state.groups = h.store.state.groups.set groupId
          { group with slots := group.slots.map (·.giveBack slotIds) } ∧
        Commits h gateway' h.supply
          { group with slots := group.slots.map (·.giveBack slotIds) }
          (releaseGroupSlots now groupId slotIds h) := by
  unfold releaseGroupSlots
  simp only [bind_run, Host.read_run]
  cases hg : h.store.state.groups.get? groupId with
  | none => exact .inl ⟨_, rfl⟩
  | some group =>
    dsimp only
    split
    · exact .inl ⟨_, rfl⟩
    · -- the group as it is shown is the group as it is recorded so far
      have hself : h.store.withSlots groupId group ([] ++ group.slots) = h.store := by
        simp only [Gateway.withSlots, List.nil_append]
        rw [Record.set_of_get? hg]
      obtain ⟨gateway', ws, hrun, hws, hc', hgroups⟩ := releaseSlots_spec slotIds group.slots [] h
        (by rw [hself]; exact hc) (hw group hg)
      rw [List.nil_append] at hc'
      let group' : TokenGroupReservation :=
        { group with slots := group.slots.map (·.giveBack slotIds) }
      let recorded : Machine Gateway :=
        ⟨gateway'.withSlots groupId group group'.slots, ws, h.supply⟩
      refine .inr ⟨group, recorded.store, rfl, hc', hgroups group', ?_⟩
      rw [bind_run_ok hrun, bind_run, Host.update_run]
      have hcommits : Commits recorded recorded.store recorded.supply group'
          ((persist >>= fun _ => (pure group' : Proc Gateway _)) recorded) :=
        persist_commits recorded rfl group'
      rcases hcommits with ⟨ws', hws', hr⟩ | ⟨f, ws', hws', hnr, hr⟩
      · exact .inl ⟨ws', List.Subset.trans hws' hws, hr⟩
      · exact .inr ⟨f, ws', List.Subset.trans hws' hws, fun hrel => hnr (hrel.mono hws), hr⟩

end Coherent

end Autopilot
