/-
What the gateway's counters mean.

The gateway keeps numbers and adds and subtracts in place. This module reads
them as an account: the open holds are the ordinary active reservations and the
open slots of the groups, the spent holds are the settlements ever made, and the
counter of a key has used what both take from it. `Books` is that reading, and
`Linked` the part of the ledger's shape it rests on: a claimed slot and the
reservation that claimed it point at each other, and no identifier is reused.

Each operation changes the account by one of its own operations, so the caps and
the absence of underflow come from the account and are not proved again here.
The one place where this is not a step of its own is the loop of
`releaseGroupSlots`, which gives slots back before the group records it; there
the reading is of the group as it will be recorded.
-/
import Autopilot.TokenGateway
import Autopilot.Lib.Budget
import Mathlib.Tactic.Abel

set_option autoImplicit false

namespace Autopilot

open Prog Budget

/-! ## Keys, caps and holds -/

theorem routeUsageKeys_nodup (route : TokenGatewayRoute) : (routeUsageKeys route).Nodup := by
  simp [routeUsageKeys, js]

/-- The keys of a route, as a set. -/
def TokenGatewayRoute.keys (route : TokenGatewayRoute) : Finset JsString :=
  (routeUsageKeys route).toFinset

/-- The configured cap of a usage key: the budget of its kind. -/
def TokenGatewayLimits.cap (limits : TokenGatewayLimits) (key : JsString) : ℕ :=
  if js "provider:" <+: key then limits.providerBudgetTokens
  else if js "model:" <+: key then limits.modelBudgetTokens
  else limits.sessionBudgetTokens

/-- The budgets the operations compare with are the caps of the route's keys. -/
theorem zip_budgets (limits : TokenGatewayLimits) (route : TokenGatewayRoute) :
    (routeUsageKeys route).zip limits.budgets =
      (routeUsageKeys route).map fun key => (key, limits.cap key) := by
  simp [routeUsageKeys, TokenGatewayLimits.budgets, TokenGatewayLimits.cap, js,
    List.cons_prefix_cons]

/-- What an ordinary reservation holds. -/
def TokenReservation.hold (reservation : TokenReservation) : Hold JsString :=
  ⟨reservation.toTokenGatewayRoute.keys, reservation.held⟩

/-- What an open slot holds. -/
def TokenGroupSlotReservation.hold (slot : TokenGroupSlotReservation) : Hold JsString :=
  ⟨slot.toTokenGatewayRoute.keys, slot.holdTokens⟩

/-- What a settlement spent. -/
def Retirement.hold (retirement : Retirement) : Hold JsString :=
  ⟨retirement.reservation.toTokenGatewayRoute.keys,
    retirement.settlement.inputTokens + retirement.settlement.outputTokens⟩

/-- The hold of a reservation that belongs to no group. A group's reservation
holds nothing of its own, its slot does. -/
def TokenReservation.ordinaryHold (reservation : TokenReservation) : Multiset (Hold JsString) :=
  if reservation.groupId = none then {reservation.hold} else 0

/-- The holds of the open slots among `slots`. -/
def openHolds (slots : List TokenGroupSlotReservation) : Multiset (Hold JsString) :=
  ((slots.filter (·.isOpen)).map (·.hold) : List (Hold JsString))

/-- The open holds of a ledger. -/
def GatewayState.holds (state : GatewayState) : Multiset (Hold JsString) :=
  state.reservations.sum (·.ordinaryHold) + state.groups.sum (openHolds ·.slots)

/-- The spent holds of a history. -/
def settledHolds (history : List Retirement) : Multiset (Hold JsString) :=
  ((history.filter (·.event = .settled)).map (·.hold) : List (Hold JsString))

theorem openHolds_cons (slot : TokenGroupSlotReservation)
    (slots : List TokenGroupSlotReservation) :
    openHolds (slot :: slots) =
      (if slot.isOpen then {slot.hold} else 0) + openHolds slots := by
  unfold openHolds
  by_cases h : slot.isOpen = true <;> simp [h, ← Multiset.cons_coe, Multiset.singleton_add]

theorem openHolds_append (slots slots' : List TokenGroupSlotReservation) :
    openHolds (slots ++ slots') = openHolds slots + openHolds slots' := by
  unfold openHolds
  rw [List.filter_append, List.map_append, ← Multiset.coe_add]

/-! ## The counters -/

theorem addUsageAt_usedTokens (gateway : Gateway) (amount : ℤ) (key k : JsString) :
    (gateway.addUsageAt amount key).state.usedTokens k =
      if k = key then (max 0 (gateway.state.usedTokens key + amount)).toNat
      else gateway.state.usedTokens k := by
  unfold Gateway.addUsageAt
  by_cases h0 : max 0 ((gateway.state.usedTokens key : ℤ) + amount) = 0
  · simp only [h0, if_true]
    simp only [GatewayState.usedTokens, Record.get?_erase]
    split <;> rfl
  · simp only [h0, if_false]
    simp only [GatewayState.usedTokens, Record.get?_set]
    split <;> rfl

/-- The parts of the instance a change of usage leaves alone. -/
def Gateway.frame (gateway : Gateway) :
    Record JsString TokenReservation × Record JsString TerminalRecord ×
      Record JsString TokenGroupReservation × List Retirement :=
  (gateway.state.reservations, gateway.state.terminal, gateway.state.groups, gateway.history)

theorem foldl_addUsageAt {keys : List JsString} (hnd : keys.Nodup) (amount : ℤ)
    (gateway : Gateway) :
    let gateway' := keys.foldl (fun g key => g.addUsageAt amount key) gateway
    gateway'.frame = gateway.frame ∧ gateway'.file = gateway.file ∧
      (∀ k, gateway'.state.usedTokens k =
        if k ∈ keys then (max 0 (gateway.state.usedTokens k + amount)).toNat
        else gateway.state.usedTokens k) ∧
      ((∀ k ∈ keys, 0 ≤ (gateway.state.usedTokens k : ℤ) + amount) →
        gateway'.clamped = gateway.clamped) := by
  induction keys generalizing gateway with
  | nil => simp
  | cons key keys ih =>
    rw [List.nodup_cons] at hnd
    obtain ⟨hframe, hfile, hused, hclamped⟩ := ih hnd.2 (gateway.addUsageAt amount key)
    simp only [List.foldl_cons]
    refine ⟨hframe, hfile, fun k => ?_, fun hpos => ?_⟩
    · rw [hused, addUsageAt_usedTokens]
      by_cases hk : k = key
      · subst hk
        simp [hnd.1]
      · simp [hk]
    · rw [hclamped]
      · have h0 := hpos key (List.mem_cons_self ..)
        simp only [Gateway.addUsageAt]
        rw [if_neg (by omega)]
      · intro k hk
        have hne : k ≠ key := fun h => hnd.1 (h ▸ hk)
        rw [addUsageAt_usedTokens, if_neg hne]
        exact hpos k (List.mem_cons_of_mem _ hk)

/-- **The loop of `addUsage`.** It moves the three counters of the route and
nothing else, and clamps nothing when none of them would go below zero. -/
theorem addUsage_spec (gateway : Gateway) (route : TokenGatewayRoute) (amount : ℤ) :
    (gateway.addUsage route amount).frame = gateway.frame ∧
      (gateway.addUsage route amount).file = gateway.file ∧
      (∀ k, (gateway.addUsage route amount).state.usedTokens k =
        if k ∈ route.keys then (max 0 (gateway.state.usedTokens k + amount)).toNat
        else gateway.state.usedTokens k) ∧
      ((∀ k ∈ route.keys, 0 ≤ (gateway.state.usedTokens k : ℤ) + amount) →
        (gateway.addUsage route amount).clamped = gateway.clamped) := by
  simpa only [Gateway.addUsage, TokenGatewayRoute.keys, List.mem_toFinset]
    using foldl_addUsageAt (routeUsageKeys_nodup route) amount gateway

section
variable (gateway : Gateway) (route : TokenGatewayRoute) (amount : ℤ)

@[simp] theorem addUsage_reservations :
    (gateway.addUsage route amount).state.reservations = gateway.state.reservations :=
  congrArg (·.1) (addUsage_spec gateway route amount).1

@[simp] theorem addUsage_terminal :
    (gateway.addUsage route amount).state.terminal = gateway.state.terminal :=
  congrArg (·.2.1) (addUsage_spec gateway route amount).1

@[simp] theorem addUsage_groups :
    (gateway.addUsage route amount).state.groups = gateway.state.groups :=
  congrArg (·.2.2.1) (addUsage_spec gateway route amount).1

@[simp] theorem addUsage_history :
    (gateway.addUsage route amount).history = gateway.history :=
  congrArg (·.2.2.2) (addUsage_spec gateway route amount).1

@[simp] theorem addUsage_file :
    (gateway.addUsage route amount).file = gateway.file :=
  (addUsage_spec gateway route amount).2.1

@[simp] theorem addUsage_holds :
    (gateway.addUsage route amount).state.holds = gateway.state.holds := by
  simp [GatewayState.holds]

end

/-! ## The shape of the ledger -/

/-- The identifier a reservation gets from a drawn UUID. -/
def reservationIdOf (uuid : Uuid) : JsString := js "tgr-" ++ uuid.text

theorem reservationIdOf_injective {u v : Uuid} (h : reservationIdOf u = reservationIdOf v) :
    u = v := by
  rcases u with ⟨t, ht⟩
  rcases v with ⟨t', ht'⟩
  simpa [reservationIdOf] using h

/-- How the parts of a ledger refer to each other. `drawn` are the identifiers
drawn so far: every reservation, active or ended, has one of them. -/
structure Linked (reservations : Record JsString TokenReservation)
    (terminal : Record JsString TerminalRecord) (groups : Record JsString TokenGroupReservation)
    (history : List Retirement) (drawn : List Uuid) : Prop where
  id_eq : ∀ {id r}, reservations.get? id = some r → r.reservationId = id
  active_drawn : ∀ {id r}, reservations.get? id = some r → ∃ u ∈ drawn, id = reservationIdOf u
  history_drawn : ∀ x ∈ history, ∃ u ∈ drawn, x.reservation.reservationId = reservationIdOf u
  history_inactive : ∀ x ∈ history, reservations.get? x.reservation.reservationId = none
  history_nodup : (history.map (·.reservation.reservationId)).Nodup
  terminal_history : ∀ {id t}, terminal.get? id = some t →
    ∃ x ∈ history, x.reservation.reservationId = id ∧ x.event = t.event ∧
      x.settlement = t.settlement
  total_le_held : ∀ {id r}, reservations.get? id = some r → r.totalTokens ≤ r.held
  ordinary : ∀ {id r}, reservations.get? id = some r → r.groupId = none → r.held = r.totalTokens
  grouped : ∀ {id r gid}, reservations.get? id = some r → r.groupId = some gid →
    ∃ group slot, groups.get? gid = some group ∧ slot ∈ group.slots ∧
      r.slotId = some slot.slotId ∧ slot.state = .claimed ∧ slot.reservation = some r
  group_ids : ∀ {gid group}, groups.get? gid = some group →
    group.groupId = gid ∧ (group.slots.map (·.slotId)).Nodup
  slot_claimed : ∀ {gid group slot}, groups.get? gid = some group → slot ∈ group.slots →
    slot.state = .claimed →
      ∃ r, slot.reservation = some r ∧ reservations.get? r.reservationId = some r
  slot_reservation : ∀ {gid group slot r}, groups.get? gid = some group → slot ∈ group.slots →
    slot.reservation = some r →
      r.groupId = some gid ∧ r.slotId = some slot.slotId ∧ r.held = slot.holdTokens ∧
        r.toTokenGatewayRoute = slot.toTokenGatewayRoute ∧ slot.state ≠ .reserved

/-- The ledger of an instance is linked. -/
def Gateway.Linked (gateway : Gateway) (drawn : List Uuid) : Prop :=
  Autopilot.Linked gateway.state.reservations gateway.state.terminal gateway.state.groups
    gateway.history drawn

/-- Two slots of one group with one name are the same slot. -/
theorem slot_unique {slots : List TokenGroupSlotReservation}
    (hnd : (slots.map (·.slotId)).Nodup) {a b : TokenGroupSlotReservation} (ha : a ∈ slots)
    (hb : b ∈ slots) (h : a.slotId = b.slotId) : a = b :=
  List.inj_on_of_nodup_map hnd ha hb h

/-- Marking by name changes one slot of a group without repeated names. -/
theorem map_mark {pre post : List TokenGroupSlotReservation} {slot : TokenGroupSlotReservation}
    (hnd : ((pre ++ slot :: post).map (·.slotId)).Nodup) (slotState : SlotState) :
    (pre ++ slot :: post).map (·.mark slot.slotId slotState) =
      pre ++ { slot with state := slotState } :: post := by
  rw [List.map_append, List.map_cons, List.nodup_append, List.nodup_cons] at hnd
  obtain ⟨-, ⟨hpost, -⟩, hdisj⟩ := hnd
  have hpre : pre.map (·.mark slot.slotId slotState) = pre.map id := by
    refine List.map_congr_left (fun a ha => ?_)
    have hne : a.slotId ≠ slot.slotId := hdisj _ (List.mem_map_of_mem ha) _ (List.mem_cons_self ..)
    exact if_neg hne
  have hpost : post.map (·.mark slot.slotId slotState) = post.map id := by
    refine List.map_congr_left (fun a ha => ?_)
    have hne : a.slotId ≠ slot.slotId := fun h => hpost (h ▸ List.mem_map_of_mem ha)
    exact if_neg hne
  rw [List.map_append, List.map_cons, hpre, hpost, List.map_id, List.map_id]
  simp [TokenGroupSlotReservation.mark]

section Linked

variable {reservations : Record JsString TokenReservation}
variable {terminal terminal' : Record JsString TerminalRecord}
variable {groups : Record JsString TokenGroupReservation}
variable {history : List Retirement} {drawn : List Uuid} {u : Uuid} {r : TokenReservation}
variable {gid : JsString} {group : TokenGroupReservation} {slot : TokenGroupSlotReservation}
variable {pre post : List TokenGroupSlotReservation}

/-- A drawn identifier belongs to no reservation yet. -/
theorem Linked.fresh (h : Linked reservations terminal groups history drawn) (hu : u ∉ drawn) :
    reservations.get? (reservationIdOf u) = none := by
  cases hr : reservations.get? (reservationIdOf u) with
  | none => rfl
  | some r =>
    obtain ⟨v, hv, heq⟩ := h.active_drawn hr
    exact absurd (reservationIdOf_injective heq ▸ hv) hu

/-- Nothing in the ledger breaks when identifiers are drawn for something else. -/
theorem Linked.draw (h : Linked reservations terminal groups history drawn) :
    Linked reservations terminal groups history (u :: drawn) where
  id_eq := h.id_eq
  active_drawn hr := by
    obtain ⟨v, hv, heq⟩ := h.active_drawn hr
    exact ⟨v, List.mem_cons_of_mem _ hv, heq⟩
  history_drawn x hx := by
    obtain ⟨v, hv, heq⟩ := h.history_drawn x hx
    exact ⟨v, List.mem_cons_of_mem _ hv, heq⟩
  history_inactive := h.history_inactive
  history_nodup := h.history_nodup
  terminal_history := h.terminal_history
  total_le_held := h.total_le_held
  ordinary := h.ordinary
  grouped := h.grouped
  group_ids := h.group_ids
  slot_claimed := h.slot_claimed
  slot_reservation := h.slot_reservation

/-- Terminal records may be forgotten. -/
theorem Linked.forget (h : Linked reservations terminal groups history drawn)
    (hsub : ∀ id t, terminal'.get? id = some t → terminal.get? id = some t) :
    Linked reservations terminal' groups history drawn :=
  { h with terminal_history := fun ht => h.terminal_history (hsub _ _ ht) }

/-- An ordinary reservation is entered under a new identifier. -/
theorem Linked.grant (h : Linked reservations terminal groups history drawn) (hu : u ∉ drawn)
    (hid : r.reservationId = reservationIdOf u) (hgroup : r.groupId = none)
    (hheld : r.held = r.totalTokens) :
    Linked (reservations.set r.reservationId r) terminal groups history (u :: drawn) := by
  have hfresh := h.fresh hu
  rw [← hid] at hfresh
  refine { h.draw with
    id_eq := ?_, active_drawn := ?_, history_inactive := ?_, total_le_held := ?_, ordinary := ?_,
    grouped := ?_, slot_claimed := ?_ }
  · intro id r' hr'
    rcases Record.get?_set_cases hr' with ⟨rfl, rfl⟩ | hr'
    · rfl
    · exact h.id_eq hr'
  · intro id r' hr'
    rcases Record.get?_set_cases hr' with ⟨rfl, rfl⟩ | hr'
    · exact ⟨u, List.mem_cons_self .., hid⟩
    · exact h.draw.active_drawn hr'
  · intro x hx
    have hne : x.reservation.reservationId ≠ r.reservationId := by
      obtain ⟨v, hv, heq⟩ := h.history_drawn x hx
      rw [heq, hid]
      exact fun hc => hu (reservationIdOf_injective hc ▸ hv)
    rw [Record.get?_set_of_ne _ hne]
    exact h.history_inactive x hx
  · intro id r' hr'
    rcases Record.get?_set_cases hr' with ⟨rfl, rfl⟩ | hr'
    · exact hheld.ge
    · exact h.total_le_held hr'
  · intro id r' hr' hgid
    rcases Record.get?_set_cases hr' with ⟨rfl, rfl⟩ | hr'
    · exact hheld
    · exact h.ordinary hr' hgid
  · intro id r' gid hr' hgid
    rcases Record.get?_set_cases hr' with ⟨rfl, rfl⟩ | hr'
    · rw [hgroup] at hgid
      cases hgid
    · exact h.grouped hr' hgid
  · intro gid group slot hg hs hc
    obtain ⟨r', hr', hact⟩ := h.slot_claimed hg hs hc
    refine ⟨r', hr', ?_⟩
    rw [Record.get?_set_of_ne]
    · exact hact
    · intro hc'
      rw [hc', hfresh] at hact
      cases hact

/-- A group is entered with all its slots reserved. -/
theorem Linked.hold (h : Linked reservations terminal groups history drawn)
    (hid : group.groupId = gid) (hnone : groups.get? gid = none)
    (hnd : (group.slots.map (·.slotId)).Nodup)
    (hslots : ∀ slot ∈ group.slots, slot.state = .reserved ∧ slot.reservation = none) :
    Linked reservations terminal (groups.set gid group) history drawn := by
  refine { h with grouped := ?_, group_ids := ?_, slot_claimed := ?_, slot_reservation := ?_ }
  · intro id r gid' hr hgid
    obtain ⟨group', slot, hg, hrest⟩ := h.grouped hr hgid
    refine ⟨group', slot, ?_, hrest⟩
    rw [Record.get?_set_of_ne]
    · exact hg
    · rintro rfl
      rw [hnone] at hg
      cases hg
  · intro gid' group' hg
    rcases Record.get?_set_cases hg with ⟨rfl, rfl⟩ | hg
    · exact ⟨hid, hnd⟩
    · exact h.group_ids hg
  · intro gid' group' slot hg hs hc
    rcases Record.get?_set_cases hg with ⟨rfl, rfl⟩ | hg
    · rw [(hslots slot hs).1] at hc
      cases hc
    · exact h.slot_claimed hg hs hc
  · intro gid' group' slot r hg hs hr
    rcases Record.get?_set_cases hg with ⟨rfl, rfl⟩ | hg
    · rw [(hslots slot hs).2] at hr
      cases hr
    · exact h.slot_reservation hg hs hr

/-- Where a slot of the ledger comes from after one slot of one group was
rewritten: it is the rewritten one, or it was there and is another one. -/
theorem slot_after_set {gid' : JsString} {group' : TokenGroupReservation}
    {slot' a : TokenGroupSlotReservation}
    (hnd : (group.slots.map (·.slotId)).Nodup) (hslots : group.slots = pre ++ slot :: post)
    (hg : groups.get? gid = some group)
    (hg' : (groups.set gid { group with slots := pre ++ slot' :: post }).get? gid' = some group')
    (ha : a ∈ group'.slots) :
    (gid' = gid ∧ a = slot') ∨
      ∃ group'', groups.get? gid' = some group'' ∧ a ∈ group''.slots ∧
        (gid' = gid → a.slotId ≠ slot.slotId) := by
  rw [Record.get?_set] at hg'
  split at hg'
  · obtain rfl := Option.some.inj hg'
    rw [hslots, List.map_append, List.map_cons, List.nodup_append, List.nodup_cons] at hnd
    obtain ⟨-, ⟨hpost, -⟩, hdisj⟩ := hnd
    have hgid : gid' = gid := by assumption
    simp only [List.mem_append, List.mem_cons] at ha
    rcases ha with ha | rfl | ha
    · refine .inr ⟨group, hgid ▸ hg, hslots ▸ List.mem_append_left _ ha, fun _ => ?_⟩
      exact hdisj _ (List.mem_map_of_mem ha) _ (List.mem_cons_self ..)
    · exact .inl ⟨hgid, rfl⟩
    · refine .inr ⟨group, hgid ▸ hg,
        hslots ▸ List.mem_append_right _ (List.mem_cons_of_mem _ ha), fun _ hc => ?_⟩
      exact hpost (hc ▸ List.mem_map_of_mem ha)
  · rename_i hne
    exact .inr ⟨group', hg', ha, fun hc => absurd hc hne⟩

/-- A slot of the ledger that is not the rewritten one is still there. -/
theorem slot_kept (slot' : TokenGroupSlotReservation) {gid' : JsString}
    {group' : TokenGroupReservation} {a : TokenGroupSlotReservation}
    (hslots : group.slots = pre ++ slot :: post) (hg : groups.get? gid = some group)
    (hg' : groups.get? gid' = some group') (ha : a ∈ group'.slots)
    (hne : gid' = gid → a ≠ slot) :
    ∃ group'', (groups.set gid { group with slots := pre ++ slot' :: post }).get? gid'
        = some group'' ∧ a ∈ group''.slots := by
  by_cases hgid : gid' = gid
  · subst hgid
    rw [hg] at hg'
    obtain rfl := Option.some.inj hg'
    refine ⟨_, Record.get?_set_self .., ?_⟩
    rw [hslots, List.mem_append, List.mem_cons] at ha
    rcases ha with ha | rfl | ha
    · exact List.mem_append_left _ ha
    · exact absurd rfl (hne rfl)
    · exact List.mem_append_right _ (List.mem_cons_of_mem _ ha)
  · exact ⟨group', by rw [Record.get?_set_of_ne _ hgid]; exact hg', ha⟩

/-- Rewriting one slot in place keeps the names of its group. -/
theorem group_ids_after_set {gid' : JsString} {group' : TokenGroupReservation}
    {slot' : TokenGroupSlotReservation}
    (h : Linked reservations terminal groups history drawn)
    (hslots : group.slots = pre ++ slot :: post) (hg : groups.get? gid = some group)
    (hid : slot'.slotId = slot.slotId)
    (hg' : (groups.set gid { group with slots := pre ++ slot' :: post }).get? gid' = some group') :
    group'.groupId = gid' ∧ (group'.slots.map (·.slotId)).Nodup := by
  rw [Record.get?_set] at hg'
  split at hg'
  · obtain rfl := Option.some.inj hg'
    have hids := h.group_ids hg
    have hgid : gid' = gid := by assumption
    refine ⟨hgid ▸ hids.1, ?_⟩
    have hnd := hids.2
    rw [hslots] at hnd
    simpa [hid] using hnd
  · exact h.group_ids hg'

/-- An open slot without a reservation is claimed by a new one. -/
theorem Linked.claim {slot' : TokenGroupSlotReservation}
    (h : Linked reservations terminal groups history drawn) (hu : u ∉ drawn)
    (hid : r.reservationId = reservationIdOf u) (hg : groups.get? gid = some group)
    (hslots : group.slots = pre ++ slot :: post) (hnone : slot.reservation = none)
    (hslot' : slot' = { slot with state := .claimed, reservation := some r })
    (hgid : r.groupId = some gid) (hsid : r.slotId = some slot.slotId)
    (hheld : r.held = slot.holdTokens) (htotal : r.totalTokens ≤ r.held)
    (hroute : r.toTokenGatewayRoute = slot.toTokenGatewayRoute) :
    Linked (reservations.set r.reservationId r) terminal
      (groups.set gid { group with slots := pre ++ slot' :: post }) history (u :: drawn) := by
  have hfresh := h.fresh hu
  rw [← hid] at hfresh
  have hmem : slot' ∈ pre ++ slot' :: post := List.mem_append_right _ (List.mem_cons_self ..)
  have hnd := (h.group_ids hg).2
  have hkept : ∀ {id r'}, reservations.get? id = some r' →
      (reservations.set r.reservationId r).get? id = some r' := by
    intro id r' hr'
    rw [Record.get?_set_of_ne]
    · exact hr'
    · rintro rfl
      rw [hfresh] at hr'
      cases hr'
  refine { id_eq := ?_, active_drawn := ?_, history_drawn := h.draw.history_drawn,
           history_inactive := ?_, history_nodup := h.history_nodup,
           terminal_history := h.terminal_history, total_le_held := ?_, ordinary := ?_,
           grouped := ?_, group_ids := group_ids_after_set h hslots hg (by rw [hslot']),
           slot_claimed := ?_, slot_reservation := ?_ }
  · intro id r' hr'
    rcases Record.get?_set_cases hr' with ⟨rfl, rfl⟩ | hr'
    · rfl
    · exact h.id_eq hr'
  · intro id r' hr'
    rcases Record.get?_set_cases hr' with ⟨rfl, rfl⟩ | hr'
    · exact ⟨u, List.mem_cons_self .., hid⟩
    · exact h.draw.active_drawn hr'
  · intro x hx
    have hne : x.reservation.reservationId ≠ r.reservationId := by
      obtain ⟨v, hv, heq⟩ := h.history_drawn x hx
      rw [heq, hid]
      exact fun hc => hu (reservationIdOf_injective hc ▸ hv)
    rw [Record.get?_set_of_ne _ hne]
    exact h.history_inactive x hx
  · intro id r' hr'
    rcases Record.get?_set_cases hr' with ⟨rfl, rfl⟩ | hr'
    · exact htotal
    · exact h.total_le_held hr'
  · intro id r' hr' hnogroup
    rcases Record.get?_set_cases hr' with ⟨rfl, rfl⟩ | hr'
    · rw [hgid] at hnogroup
      cases hnogroup
    · exact h.ordinary hr' hnogroup
  · intro id r' gid' hr' hgid'
    rcases Record.get?_set_cases hr' with ⟨rfl, rfl⟩ | hr'
    · obtain rfl : gid = gid' := Option.some.inj (hgid.symm.trans hgid')
      exact ⟨_, slot', Record.get?_set_self .., hmem, by rw [hsid, hslot'], by rw [hslot'],
        by rw [hslot']⟩
    · obtain ⟨group', a, hga, ha, hsa, hca, hra⟩ := h.grouped hr' hgid'
      obtain ⟨group'', hg'', ha''⟩ := slot_kept slot' hslots hg hga ha (by
        rintro - rfl
        rw [hnone] at hra
        cases hra)
      exact ⟨group'', a, hg'', ha'', hsa, hca, hra⟩
  · intro gid' group' a hg' ha hca
    rcases slot_after_set hnd hslots hg hg' ha with ⟨-, rfl⟩ | ⟨group'', hg'', ha'', -⟩
    · exact ⟨r, by rw [hslot'], Record.get?_set_self ..⟩
    · obtain ⟨r', hr', hact⟩ := h.slot_claimed hg'' ha'' hca
      exact ⟨r', hr', hkept hact⟩
  · intro gid' group' a r' hg' ha hra
    rcases slot_after_set hnd hslots hg hg' ha with ⟨rfl, rfl⟩ | ⟨group'', hg'', ha'', -⟩
    · rw [hslot'] at hra ⊢
      obtain rfl := Option.some.inj hra
      exact ⟨hgid, hsid, hheld, hroute, by simp⟩
    · exact h.slot_reservation hg'' ha'' hra

/-- An open slot is closed, and the reservation that claimed it, if there is
one, leaves the active ones. -/
theorem Linked.close {reservations' : Record JsString TokenReservation} (slotState : SlotState)
    (h : Linked reservations terminal groups history drawn) (hg : groups.get? gid = some group)
    (hslots : group.slots = pre ++ slot :: post)
    (hclosed : slotState ≠ .reserved ∧ slotState ≠ .claimed)
    (hsub : ∀ {id r}, reservations'.get? id = some r →
      reservations.get? id = some r ∧ slot.reservation ≠ some r)
    (hkeep : ∀ {id r}, reservations.get? id = some r → slot.reservation ≠ some r →
      reservations'.get? id = some r) :
    Linked reservations' terminal
      (groups.set gid { group with slots := pre ++ { slot with state := slotState } :: post })
      history drawn := by
  have hnd := (h.group_ids hg).2
  have hslot : slot ∈ group.slots := hslots ▸ List.mem_append_right _ (List.mem_cons_self ..)
  refine { id_eq := fun hr => h.id_eq (hsub hr).1,
           active_drawn := fun hr => h.active_drawn (hsub hr).1,
           history_drawn := h.history_drawn, history_inactive := ?_,
           history_nodup := h.history_nodup, terminal_history := h.terminal_history,
           total_le_held := fun hr => h.total_le_held (hsub hr).1,
           ordinary := fun hr => h.ordinary (hsub hr).1, grouped := ?_,
           group_ids := group_ids_after_set h hslots hg rfl, slot_claimed := ?_,
           slot_reservation := ?_ }
  · intro x hx
    cases hr : reservations'.get? x.reservation.reservationId with
    | none => rfl
    | some r =>
      have := h.history_inactive x hx
      rw [(hsub hr).1] at this
      cases this
  · intro id r gid' hr hgid
    obtain ⟨group', a, hg', ha, hsa, hca, hra⟩ := h.grouped (hsub hr).1 hgid
    obtain ⟨group'', hg'', ha''⟩ := slot_kept { slot with state := slotState } hslots hg hg'
      ha (by rintro - rfl; exact (hsub hr).2 hra)
    exact ⟨group'', a, hg'', ha'', hsa, hca, hra⟩
  · intro gid' group' a hg' ha hca
    rcases slot_after_set hnd hslots hg hg' ha with ⟨-, rfl⟩ | ⟨group'', hg'', ha'', hne⟩
    · exact absurd hca hclosed.2
    · obtain ⟨r, hr, hact⟩ := h.slot_claimed hg'' ha'' hca
      refine ⟨r, hr, hkeep hact (fun hc => ?_)⟩
      -- two slots claimed by one reservation have its group and its name
      have h1 := h.slot_reservation hg'' ha'' hr
      have h2 := h.slot_reservation hg hslot hc
      have hgid : gid' = gid := Option.some.inj (h1.1.symm.trans h2.1)
      exact hne hgid (Option.some.inj (h1.2.1.symm.trans h2.2.1))
  · intro gid' group' a r hg' ha hra
    rcases slot_after_set hnd hslots hg hg' ha with ⟨rfl, rfl⟩ | ⟨group'', hg'', ha'', -⟩
    · obtain ⟨h1, h2, h3, h4, -⟩ := h.slot_reservation hg hslot hra
      exact ⟨h1, h2, h3, h4, hclosed.1⟩
    · exact h.slot_reservation hg'' ha'' hra

/-- A reservation of no group leaves the active ones. -/
theorem Linked.erase {id : JsString} (h : Linked reservations terminal groups history drawn)
    (hr : reservations.get? id = some r) (hgroup : r.groupId = none) :
    Linked (reservations.erase id) terminal groups history drawn := by
  have hsub : ∀ {id' r'}, (reservations.erase id).get? id' = some r' →
      reservations.get? id' = some r' := by
    intro id' r' hr'
    rw [Record.get?_erase] at hr'
    split at hr'
    · cases hr'
    · exact hr'
  refine { id_eq := fun hr' => h.id_eq (hsub hr'),
           active_drawn := fun hr' => h.active_drawn (hsub hr'),
           history_drawn := h.history_drawn, history_inactive := ?_,
           history_nodup := h.history_nodup, terminal_history := h.terminal_history,
           total_le_held := fun hr' => h.total_le_held (hsub hr'),
           ordinary := fun hr' => h.ordinary (hsub hr'),
           grouped := fun hr' => h.grouped (hsub hr'), group_ids := h.group_ids,
           slot_claimed := ?_, slot_reservation := h.slot_reservation }
  · intro x hx
    rw [Record.get?_erase, h.history_inactive x hx]
    split <;> rfl
  · intro gid group slot hg hs hc
    obtain ⟨r', hr', hact⟩ := h.slot_claimed hg hs hc
    refine ⟨r', hr', ?_⟩
    rw [Record.get?_erase_of_ne]
    · exact hact
    · rintro rfl
      rw [hr] at hact
      obtain rfl := Option.some.inj hact
      rw [(h.slot_reservation hg hs hr').1] at hgroup
      cases hgroup

/-- A reservation that is active no more gets its terminal record. -/
theorem Linked.record (x : Retirement) (t : TerminalRecord)
    (h : Linked reservations terminal groups history drawn)
    (hnone : reservations.get? x.reservation.reservationId = none)
    (hdrawn : ∃ u ∈ drawn, x.reservation.reservationId = reservationIdOf u)
    (hnew : x.reservation.reservationId ∉ history.map (·.reservation.reservationId))
    (ht : x.event = t.event ∧ x.settlement = t.settlement) :
    Linked reservations (terminal.set x.reservation.reservationId t) groups (history ++ [x])
      drawn := by
  refine { h with history_drawn := ?_, history_inactive := ?_, history_nodup := ?_,
                  terminal_history := ?_ }
  · intro y hy
    rcases List.mem_append.1 hy with hy | hy
    · exact h.history_drawn y hy
    · rw [List.mem_singleton.1 hy]
      exact hdrawn
  · intro y hy
    rcases List.mem_append.1 hy with hy | hy
    · exact h.history_inactive y hy
    · rw [List.mem_singleton.1 hy]
      exact hnone
  · rw [List.map_append, List.nodup_append]
    refine ⟨h.history_nodup, by simp, ?_⟩
    rintro a ha b hb rfl
    simp only [List.map_cons, List.map_nil, List.mem_singleton] at hb
    exact hnew (hb ▸ ha)
  · intro id t' ht'
    rcases Record.get?_set_cases ht' with ⟨rfl, rfl⟩ | ht'
    · exact ⟨x, by simp, by simp_all, ht⟩
    · obtain ⟨y, hy, hrest⟩ := h.terminal_history ht'
      exact ⟨y, List.mem_append_left _ hy, hrest⟩

/-- An identifier that is still active is not in the history. -/
theorem Linked.not_retired {id : JsString}
    (h : Linked reservations terminal groups history drawn)
    (hr : reservations.get? id = some r) : id ∉ history.map (·.reservation.reservationId) := by
  intro hc
  obtain ⟨x, hx, rfl⟩ := List.mem_map.1 hc
  rw [h.history_inactive x hx] at hr
  cases hr

end Linked

/-! ## Ending a reservation -/

/-- Erasing keys only forgets. -/
theorem foldl_erase_get? {α : Type} (stale : List (JsString × α)) {r : Record JsString α}
    {id : JsString} {t : α}
    (h : (stale.foldl (fun r entry => r.erase entry.1) r).get? id = some t) :
    r.get? id = some t := by
  induction stale generalizing r with
  | nil => exact h
  | cons entry stale ih =>
    have hget := ih h
    rw [Record.get?_erase] at hget
    split at hget
    · cases hget
    · exact hget

theorem pruneTerminal_get? {terminal : Record JsString TerminalRecord} {id : JsString}
    {t : TerminalRecord} (h : (pruneTerminal terminal).get? id = some t) :
    terminal.get? id = some t := foldl_erase_get? _ h

/-- `updateGroupSlot` only touches the groups. -/
theorem updateGroupSlot_eq (state : GatewayState) (reservation : TokenReservation)
    (slotState : SlotState) :
    state.updateGroupSlot reservation slotState =
      { state with groups := (state.updateGroupSlot reservation slotState).groups } := by
  unfold GatewayState.updateGroupSlot
  split
  · split <;> rfl
  · rfl

/-- A reservation of no group updates no slot. -/
theorem updateGroupSlot_ordinary (state : GatewayState) {reservation : TokenReservation}
    (h : reservation.groupId = none) (slotState : SlotState) :
    state.updateGroupSlot reservation slotState = state := by
  unfold GatewayState.updateGroupSlot
  simp [h]

/-- A reservation of a group updates the slot it claimed. -/
theorem updateGroupSlot_claimed {state : GatewayState} {reservation : TokenReservation}
    {gid : JsString} {group : TokenGroupReservation} {slot : TokenGroupSlotReservation}
    {pre post : List TokenGroupSlotReservation} (hgid : reservation.groupId = some gid)
    (hsid : reservation.slotId = some slot.slotId) (hg : state.groups.get? gid = some group)
    (hslots : group.slots = pre ++ slot :: post) (hnd : (group.slots.map (·.slotId)).Nodup)
    (slotState : SlotState) :
    (state.updateGroupSlot reservation slotState).groups =
      state.groups.set gid
        { group with slots := pre ++ { slot with state := slotState } :: post } := by
  unfold GatewayState.updateGroupSlot
  simp only [hgid, hsid, hg, hslots]
  rw [map_mark (hslots ▸ hnd)]

/-- What ending a reservation does to the groups: the slot it claimed, if it
belongs to a group, is closed. -/
theorem updateGroupSlot_cases {gateway : Gateway} {drawn : List Uuid} {id : JsString}
    {active : TokenReservation} (h : gateway.Linked drawn)
    (hr : gateway.state.reservations.get? id = some active) {state : GatewayState}
    (hstate : state.groups = gateway.state.groups) (slotState : SlotState) :
    (active.groupId = none ∧ (state.updateGroupSlot active slotState).groups = state.groups) ∨
      ∃ gid group slot pre post, active.groupId = some gid ∧
        gateway.state.groups.get? gid = some group ∧ group.slots = pre ++ slot :: post ∧
        slot.state = .claimed ∧ slot.reservation = some active ∧
        (state.updateGroupSlot active slotState).groups =
          state.groups.set gid
            { group with slots := pre ++ { slot with state := slotState } :: post } := by
  cases hgid : active.groupId with
  | none => exact .inl ⟨rfl, by rw [updateGroupSlot_ordinary _ hgid]⟩
  | some gid =>
    obtain ⟨group, slot, hg, hslot, hsid, hclaimed, hres⟩ := h.grouped hr hgid
    obtain ⟨pre, post, hslots⟩ := List.append_of_mem hslot
    exact .inr ⟨gid, group, slot, pre, post, rfl, hg, hslots, hclaimed, hres,
      updateGroupSlot_claimed hgid hsid (hstate ▸ hg) hslots (h.group_ids hg).2 slotState⟩

section retire

variable {gateway : Gateway} {drawn : List Uuid} {id : JsString} {active : TokenReservation}

/-- **Ending a reservation** keeps the ledger linked and takes exactly its hold
off the open ones. -/
theorem retire_spec (h : gateway.Linked drawn)
    (hr : gateway.state.reservations.get? id = some active) (now : ℕ) (event : TerminalEvent)
    (settlement : TokenSettlement) :
    (gateway.retire now id active event settlement).Linked drawn ∧
      gateway.state.holds =
        active.hold ::ₘ (gateway.retire now id active event settlement).state.holds := by
  have hid := h.id_eq hr
  have hdrawn := h.active_drawn hr
  subst hid
  have hnew := h.not_retired hr
  have hnone : (gateway.state.reservations.erase active.reservationId).get?
      active.reservationId = none := Record.get?_erase_self ..
  let x : Retirement := { reservation := active, event, settlement }
  let t : TerminalRecord := { event, settlement, completedAt := now }
  let ended : GatewayState := { gateway.state with
    reservations := gateway.state.reservations.erase active.reservationId
    terminal := gateway.state.terminal.set active.reservationId t }
  have hkept : ended.groups = gateway.state.groups := rfl
  rcases updateGroupSlot_cases h hr hkept event.slotState with
    ⟨hgid, hgroups⟩ | ⟨gid, group, slot, pre, post, hgid, hg, hslots, hclaimed, hres, hgroups⟩
  · constructor
    · have hl : Linked _ ended.terminal _ (gateway.history ++ [x]) drawn :=
        (h.erase hr hgid).record x t hnone hdrawn hnew ⟨rfl, rfl⟩
      simp only [Gateway.retire, Gateway.Linked]
      rw [updateGroupSlot_eq, hgroups]
      exact hl.forget (fun _ _ ht => pruneTerminal_get? ht)
    · simp only [Gateway.retire, GatewayState.holds]
      rw [updateGroupSlot_eq, hgroups, Record.sum_eq_add_erase hr]
      simp [TokenReservation.ordinaryHold, hgid, Multiset.singleton_add, ended]
  · have hclosed : event.slotState ≠ .reserved ∧ event.slotState ≠ .claimed := by
      cases event <;> simp [TerminalEvent.slotState]
    let closed : TokenGroupSlotReservation := { slot with state := event.slotState }
    let groups := gateway.state.groups.set gid { group with slots := pre ++ closed :: post }
    have hslot : slot ∈ group.slots := hslots ▸ List.mem_append_right _ (List.mem_cons_self ..)
    obtain ⟨-, -, hheld, hroute, -⟩ := h.slot_reservation hg hslot hres
    constructor
    · have hcl : Linked ended.reservations gateway.state.terminal groups gateway.history drawn := by
        refine Linked.close event.slotState h hg hslots hclosed ?_ ?_
        · intro id' r' hr'
          rw [Record.get?_erase] at hr'
          split at hr'
          · cases hr'
          · rename_i hne
            refine ⟨hr', fun hc => hne ?_⟩
            rw [hres] at hc
            rw [← h.id_eq hr', Option.some.inj hc]
        · intro id' r' hr' hc
          rw [Record.get?_erase_of_ne]
          · exact hr'
          · rintro rfl
            rw [hr] at hr'
            exact hc (hres.trans hr')
      have hl : Linked _ ended.terminal _ (gateway.history ++ [x]) drawn :=
        hcl.record x t hnone hdrawn hnew ⟨rfl, rfl⟩
      simp only [Gateway.retire, Gateway.Linked]
      rw [updateGroupSlot_eq, hgroups]
      exact hl.forget (fun _ _ ht => pruneTerminal_get? ht)
    · have hopen : slot.isOpen = true := by simp [TokenGroupSlotReservation.isOpen, hclaimed]
      have hshut : closed.isOpen = false := by
        simp [TokenGroupSlotReservation.isOpen, closed, hclosed.1, hclosed.2]
      have hhold : slot.hold = active.hold := by
        simp [TokenGroupSlotReservation.hold, TokenReservation.hold, hheld, hroute]
      have hnot : active.ordinaryHold = 0 := by simp [TokenReservation.ordinaryHold, hgid]
      simp only [Gateway.retire, GatewayState.holds]
      rw [updateGroupSlot_eq, hgroups, Record.sum_eq_add_erase hr, Record.sum_eq_add_erase hg,
        Record.sum_set, hslots]
      simp only [openHolds_append, openHolds_cons, hopen, hhold, hnot, if_true, zero_add,
        ← Multiset.singleton_add]
      rw [if_neg (by rw [hshut]; simp)]
      abel

end retire

/-! ## The counters are those of an account -/

/-- The counters of an instance are those of an account whose open holds are the
ledger's and whose spent holds are the settlements ever made, and no counter was
ever clamped. -/
structure Books (limits : TokenGatewayLimits) (gateway : Gateway)
    (account : Account limits.cap) : Prop where
  used : ∀ k, gateway.state.usedTokens k = account.used k
  held : account.held = gateway.state.holds
  spent : account.spent = settledHolds gateway.history
  clamped : gateway.clamped = 0

/-- Adding `n` tokens to a route moves its counters by a hold of `n`. -/
theorem addUsage_add (gateway : Gateway) (route : TokenGatewayRoute) (n : ℕ) :
    (∀ k, (gateway.addUsage route n).state.usedTokens k =
      gateway.state.usedTokens k + (⟨route.keys, n⟩ : Hold JsString).on k) ∧
      (gateway.addUsage route n).clamped = gateway.clamped := by
  obtain ⟨-, -, hused, hclamped⟩ := addUsage_spec gateway route n
  refine ⟨fun k => ?_, hclamped (fun k _ => by omega)⟩
  rw [hused, Hold.on]
  dsimp only
  split <;> omega

/-- Taking `n` tokens off a route moves its counters back by a hold of `n`,
when they have that much. -/
theorem addUsage_sub {gateway : Gateway} {route : TokenGatewayRoute} {n : ℕ}
    (hle : ∀ k, (⟨route.keys, n⟩ : Hold JsString).on k ≤ gateway.state.usedTokens k) :
    (∀ k, (gateway.addUsage route (-n)).state.usedTokens k =
      gateway.state.usedTokens k - (⟨route.keys, n⟩ : Hold JsString).on k) ∧
      (gateway.addUsage route (-n)).clamped = gateway.clamped := by
  obtain ⟨-, -, hused, hclamped⟩ := addUsage_spec gateway route (-n)
  refine ⟨fun k => ?_, hclamped (fun k hk => ?_)⟩
  · rw [hused, Hold.on]
    dsimp only
    split <;> omega
  · have := hle k
    simp only [Hold.on, hk, if_true] at this
    omega

section Books

variable {limits : TokenGatewayLimits} {gateway : Gateway} {account : Account limits.cap}

/-- Entering an ordinary reservation acquires its hold. -/
theorem Books.grant {r : TokenReservation} (h : Books limits gateway account)
    (hfresh : gateway.state.reservations.get? r.reservationId = none) (hgroup : r.groupId = none)
    (hheld : r.held = r.totalTokens)
    (room : ∀ k ∈ r.hold.keys, account.used k + r.hold.amount ≤ limits.cap k) :
    Books limits (gateway.grant r) (account.acquire r.hold room) := by
  obtain ⟨hused, hclamped⟩ := addUsage_add { gateway with state := { gateway.state with
    reservations := gateway.state.reservations.set r.reservationId r } }
    r.toTokenGatewayRoute r.totalTokens
  have hhold : r.hold = ⟨r.toTokenGatewayRoute.keys, r.totalTokens⟩ := by
    simp [TokenReservation.hold, hheld]
  refine ⟨fun k => ?_, ?_, ?_, ?_⟩
  · rw [Gateway.grant, hused, Account.used_acquire, hhold, ← h.used]
    rfl
  · rw [Gateway.grant, addUsage_holds]
    simp only [Account.acquire, h.held, GatewayState.holds]
    rw [Record.sum_set_of_none hfresh]
    simp [TokenReservation.ordinaryHold, hgroup, Multiset.singleton_add]
  · simp only [Gateway.grant, addUsage_history, Account.acquire]
    exact h.spent
  · rw [Gateway.grant, hclamped]
    exact h.clamped

/-- Ending a reservation spends or drops the hold the account has for it. -/
theorem Books.open_hold {drawn : List Uuid} {id : JsString} {active : TokenReservation}
    (h : Books limits gateway account) (hl : gateway.Linked drawn)
    (hr : gateway.state.reservations.get? id = some active) (now : ℕ) (event : TerminalEvent)
    (settlement : TokenSettlement) :
    account.held =
      active.hold ::ₘ (gateway.retire now id active event settlement).state.holds := by
  rw [h.held]
  exact (retire_spec hl hr now event settlement).2

/-- What `retire` leaves alone. -/
theorem retire_frame (gateway : Gateway) (now : ℕ) (id : JsString) (active : TokenReservation)
    (event : TerminalEvent) (settlement : TokenSettlement) :
    (gateway.retire now id active event settlement).state.used = gateway.state.used ∧
      (gateway.retire now id active event settlement).clamped = gateway.clamped ∧
      (gateway.retire now id active event settlement).file = gateway.file ∧
      (gateway.retire now id active event settlement).history =
        gateway.history ++ [{ reservation := active, event, settlement }] ∧
      (gateway.retire now id active event settlement).state.reservations =
        gateway.state.reservations.erase id := by
  refine ⟨?_, rfl, rfl, rfl, ?_⟩ <;>
  · simp only [Gateway.retire]
    rw [updateGroupSlot_eq]

theorem settledHolds_append (history : List Retirement) (x : Retirement) :
    settledHolds (history ++ [x]) =
      settledHolds history + if x.event = .settled then {x.hold} else 0 := by
  unfold settledHolds
  rw [List.filter_append, List.map_append, ← Multiset.coe_add]
  by_cases h : x.event = .settled <;> simp [h]

/-- The ledger's shape does not depend on the counters. -/
theorem Gateway.Linked.addUsage {drawn : List Uuid} (h : gateway.Linked drawn)
    (route : TokenGatewayRoute) (amount : ℤ) : (gateway.addUsage route amount).Linked drawn := by
  simpa [Gateway.Linked] using h

/-- Releasing a reservation drops its hold. -/
theorem Books.release {drawn : List Uuid} {id : JsString} {active : TokenReservation}
    (h : Books limits gateway account) (hl : gateway.Linked drawn)
    (hr : gateway.state.reservations.get? id = some active) (now : ℕ)
    (settlement : TokenSettlement) :
    ∃ account', Books limits ((gateway.addUsage active.toTokenGatewayRoute (-active.held)).retire
      now id active .released settlement) account' := by
  have hroom : ∀ k, active.hold.on k ≤ gateway.state.usedTokens k := by
    intro k
    rw [h.used]
    exact Account.le_used (h.open_hold hl hr now .released settlement) k
  obtain ⟨hused, hclamped⟩ := addUsage_sub hroom
  set freed := gateway.addUsage active.toTokenGatewayRoute (-active.held) with hfreed
  have hr' : freed.state.reservations.get? id = some active := by rw [hfreed]; simpa using hr
  have hspec := retire_spec (hl.addUsage _ _) hr' now .released settlement
  have hopen : account.held
      = active.hold ::ₘ (freed.retire now id active .released settlement).state.holds := by
    rw [h.held, ← hspec.2, addUsage_holds]
  obtain ⟨hu, hc, -, hh, -⟩ := retire_frame freed now id active .released settlement
  refine ⟨account.drop active.hold _ hopen, fun k => ?_, rfl, ?_, ?_⟩
  · rw [GatewayState.usedTokens, hu, ← GatewayState.usedTokens, hused, Account.used_drop, h.used]
    rfl
  · rw [hh, settledHolds_append]
    simp only [Account.drop, hfreed, addUsage_history, reduceCtorEq, if_false, add_zero]
    exact h.spent
  · rw [hc, hclamped]
    exact h.clamped

/-- Settling a reservation spends its hold at what was used. -/
theorem Books.settle {drawn : List Uuid} {id : JsString} {active : TokenReservation}
    (h : Books limits gateway account) (hl : gateway.Linked drawn)
    (hr : gateway.state.reservations.get? id = some active) (now : ℕ)
    {settlement : TokenSettlement}
    (hle : settlement.inputTokens + settlement.outputTokens ≤ active.totalTokens) :
    ∃ account', Books limits (((gateway.addUsage active.toTokenGatewayRoute
      (-active.held)).addUsage active.toTokenGatewayRoute
        (settlement.inputTokens + settlement.outputTokens : ℕ)).retire
      now id active .settled settlement) account' := by
  have hroom : ∀ k, active.hold.on k ≤ gateway.state.usedTokens k := by
    intro k
    rw [h.used]
    exact Account.le_used (h.open_hold hl hr now .settled settlement) k
  obtain ⟨hused, hclamped⟩ := addUsage_sub hroom
  set freed := gateway.addUsage active.toTokenGatewayRoute (-active.held) with hfreed
  obtain ⟨hused', hclamped'⟩ := addUsage_add freed active.toTokenGatewayRoute
    (settlement.inputTokens + settlement.outputTokens)
  set paid := freed.addUsage active.toTokenGatewayRoute
    (settlement.inputTokens + settlement.outputTokens : ℕ) with hpaid
  have hr' : paid.state.reservations.get? id = some active := by
    rw [hpaid, hfreed]; simpa using hr
  have hspec := retire_spec ((hl.addUsage _ _).addUsage _ _) hr' now .settled settlement
  have hopen : account.held
      = active.hold ::ₘ (paid.retire now id active .settled settlement).state.holds := by
    rw [h.held, ← hspec.2, addUsage_holds, addUsage_holds]
  have hamount : settlement.inputTokens + settlement.outputTokens ≤ active.hold.amount :=
    hle.trans (hl.total_le_held hr)
  obtain ⟨hu, hc, -, hh, -⟩ := retire_frame paid now id active .settled settlement
  refine ⟨account.spend active.hold _ hopen _ hamount, fun k => ?_, rfl, ?_, ?_⟩
  · rw [GatewayState.usedTokens, hu, ← GatewayState.usedTokens, hused', hused,
      Account.used_spend, h.used]
    rfl
  · rw [hh, settledHolds_append]
    simp only [Account.spend, hpaid, hfreed, addUsage_history, if_true]
    rw [h.spent]
    exact (Multiset.singleton_add _ _).symm.trans (add_comm _ _)
  · rw [hc, hclamped', hclamped]
    exact h.clamped

/-- Claiming an open slot moves its hold from the slot's state to another: the
account stays as it is. -/
theorem Books.claim {r : TokenReservation} {gid : JsString} {group : TokenGroupReservation}
    {slot slot' : TokenGroupSlotReservation} {pre post : List TokenGroupSlotReservation}
    (h : Books limits gateway account)
    (hfresh : gateway.state.reservations.get? r.reservationId = none) (hgroup : r.groupId ≠ none)
    (hg : gateway.state.groups.get? gid = some group) (hslots : group.slots = pre ++ slot :: post)
    (hopen : slot.isOpen) (hopen' : slot'.isOpen) (hhold : slot'.hold = slot.hold) :
    Books limits { gateway with state := { gateway.state with
      reservations := gateway.state.reservations.set r.reservationId r
      groups := gateway.state.groups.set gid { group with slots := pre ++ slot' :: post } } }
      account := by
  refine ⟨h.used, ?_, h.spent, h.clamped⟩
  rw [h.held]
  simp only [GatewayState.holds]
  rw [Record.sum_set_of_none hfresh, Record.sum_eq_add_erase hg, Record.sum_set, hslots]
  simp only [openHolds_append, openHolds_cons, hopen, hopen', hhold,
    TokenReservation.ordinaryHold, hgroup, if_false, zero_add]

/-- Giving a slot back drops its hold. -/
theorem Books.giveBack {gid : JsString} {group : TokenGroupReservation}
    {slot : TokenGroupSlotReservation} {pre post : List TokenGroupSlotReservation}
    (h : Books limits gateway account) (hg : gateway.state.groups.get? gid = some group)
    (hslots : group.slots = pre ++ slot :: post) (hopen : slot.isOpen) :
    let freed := gateway.addUsage slot.toTokenGatewayRoute (-slot.holdTokens)
    let released : TokenGroupSlotReservation := { slot with state := .released }
    ∃ account', Books limits { freed with state := { freed.state with
      groups := freed.state.groups.set gid { group with slots := pre ++ released :: post } } }
      account' := by
  intro freed released
  have hheld : account.held = slot.hold ::ₘ (gateway.state.reservations.sum (·.ordinaryHold) +
      (gateway.state.groups.set gid { group with slots := pre ++ released :: post }).sum
        (openHolds ·.slots)) := by
    have hshut : released.isOpen = false := by
      simp [released, TokenGroupSlotReservation.isOpen]
    rw [h.held, GatewayState.holds, Record.sum_eq_add_erase hg, Record.sum_set, hslots]
    simp only [openHolds_append, openHolds_cons, hopen, hshut, if_true, Bool.false_eq_true,
      if_false, zero_add, ← Multiset.singleton_add]
    abel
  have hroom : ∀ k, slot.hold.on k ≤ gateway.state.usedTokens k := by
    intro k
    rw [h.used]
    exact Account.le_used hheld k
  obtain ⟨hused, hclamped⟩ := addUsage_sub hroom
  refine ⟨account.drop slot.hold _ hheld, fun k => ?_, ?_, ?_, ?_⟩
  · rw [Account.used_drop, ← h.used]
    exact hused k
  · simp [Account.drop, GatewayState.holds, freed]
  · simp only [Account.drop, freed, addUsage_history]
    exact h.spent
  · exact hclamped.trans h.clamped

end Books

/-! ## Reserving a group -/

theorem foldlM_keys_spec {limits : TokenGatewayLimits} {n : ℕ} {keys : List JsString}
    (hnd : keys.Nodup) {candidate candidate' : Record JsString ℕ}
    (h : (keys.map fun key => (key, limits.cap key)).foldlM (holdKey n) candidate
      = .ok candidate') :
    ∀ k, (candidate'.get? k).getD 0 = (candidate.get? k).getD 0 + (if k ∈ keys then n else 0) ∧
      (k ∈ keys → (candidate.get? k).getD 0 + n ≤ limits.cap k) := by
  induction keys generalizing candidate with
  | nil =>
    intro k
    simp only [List.map_nil, List.foldlM_nil] at h
    cases h
    simp
  | cons key keys ih =>
    rw [List.nodup_cons] at hnd
    simp only [List.map_cons, List.foldlM_cons, holdKey] at h
    split at h
    · cases h
    · rename_i hcap
      intro k
      obtain ⟨hk, hle⟩ := ih hnd.2 h k
      rw [Record.get?_set] at hk hle
      by_cases hkey : k = key
      · subst hkey
        simp only [if_true, Option.getD_some, hnd.1, if_false] at hk
        simp only [List.mem_cons_self, if_true]
        omega
      · simp only [hkey, if_false] at hk hle
        simp only [List.mem_cons, hkey, false_or]
        exact ⟨hk, hle⟩

/-- What a requested slot will hold. -/
def NormalizedSlot.hold (slot : NormalizedSlot) : Hold JsString :=
  ⟨slot.toTokenGatewayRoute.keys, slot.holdTokens⟩

/-- The loop of `reserveGroup` acquires the holds of the slots one after the
other, in a candidate copy of the counters. -/
theorem holdSlots_spec {limits : TokenGatewayLimits} {slots : List NormalizedSlot}
    {acc acc' : ℕ × Record JsString ℕ} (account : Account limits.cap)
    (hused : ∀ k, (acc.2.get? k).getD 0 = account.used k)
    (h : slots.foldlM (holdSlot limits) acc = .ok acc') :
    ∃ account' : Account limits.cap, (∀ k, (acc'.2.get? k).getD 0 = account'.used k) ∧
      account'.held = account.held + ((slots.map (·.hold) : List _) : Multiset (Hold JsString)) ∧
      account'.spent = account.spent := by
  induction slots generalizing acc account with
  | nil =>
    simp only [List.foldlM_nil] at h
    cases h
    exact ⟨account, hused, by simp, rfl⟩
  | cons slot slots ih =>
    simp only [List.foldlM_cons] at h
    cases hs : holdSlot limits acc slot with
    | error e => rw [hs] at h; cases h
    | ok acc₁ =>
      rw [hs] at h
      unfold holdSlot at hs
      split at hs
      · cases hs
      · rw [zip_budgets] at hs
        cases hk : ((routeUsageKeys slot.toTokenGatewayRoute).map
            fun key => (key, limits.cap key)).foldlM (holdKey slot.holdTokens) acc.2 with
        | error e => rw [hk] at hs; cases hs
        | ok candidate =>
          rw [hk] at hs
          cases hs
          have hkeys := foldlM_keys_spec (routeUsageKeys_nodup _) hk
          have room : ∀ k ∈ slot.hold.keys, account.used k + slot.hold.amount ≤ limits.cap k := by
            intro k hmem
            rw [← hused]
            exact (hkeys k).2 (List.mem_toFinset.1 hmem)
          have hused' : ∀ k,
              (candidate.get? k).getD 0 = (account.acquire slot.hold room).used k := by
            intro k
            rw [(hkeys k).1, Account.used_acquire, hused]
            simp [Hold.on, NormalizedSlot.hold, TokenGatewayRoute.keys]
          obtain ⟨account', hu, hh, hsp⟩ := ih (account.acquire slot.hold room) hused' h
          refine ⟨account', hu, ?_, hsp⟩
          rw [hh]
          simp only [Account.acquire, List.map_cons, ← Multiset.cons_coe, ← Multiset.singleton_add]
          abel

end Autopilot
