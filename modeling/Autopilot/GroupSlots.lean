/-
The life of a group slot.

A slot is meant to go from reserved to claimed to settled or released, or from
reserved straight to released, and a reservation handed out for it is meant to
be active with the slot's hold counted. Nothing in `claimGroupSlot` looks at the
state of the slot, though. A slot that was released is claimed like a fresh one,
its tokens already given back, and a claim repeated after the release hands out
the reservation that has ended. The loader of the same file rejects the first
state, since a claimed slot's hold has to be in the counters.

The main result is exact. In a run that has behaved so far, the next call keeps
the slots in order and hands out only active reservations if and only if it is
not a claim that is granted on a closed slot.
-/
import Autopilot.GatewayRuns

set_option autoImplicit false

namespace Autopilot

open Prog

/-! ## The order of the states -/

/-- The moves of a slot within one call. -/
def SlotState.Leads (a b : SlotState) : Prop :=
  a = b ∨ (a = .reserved ∧ b ≠ .settled) ∨ (a = .claimed ∧ (b = .settled ∨ b = .released))

/-- A closed slot stays as it is. -/
theorem SlotState.Leads.closed {a b : SlotState} (h : a.Leads b)
    (hclosed : a = .settled ∨ a = .released) : b = a := by
  rcases h with h | ⟨h, -⟩ | ⟨h, -⟩
  · exact h.symm
  · rcases hclosed with hc | hc <;> rw [hc] at h <;> cases h
  · rcases hclosed with hc | hc <;> rw [hc] at h <;> cases h

/-- Every slot there was is still there and only moved along the order, and a
slot that is new is reserved. -/
def SlotsMonotone (before after : GatewayState) : Prop :=
  (∀ gid group, before.groups.get? gid = some group → ∀ slot ∈ group.slots,
    ∃ group', after.groups.get? gid = some group' ∧
      ∃ slot' ∈ group'.slots, slot'.slotId = slot.slotId ∧ slot.state.Leads slot'.state) ∧
  ∀ gid group', after.groups.get? gid = some group' → before.groups.get? gid = none →
    ∀ slot ∈ group'.slots, slot.state = .reserved

theorem SlotsMonotone.of_groups_eq {before after : GatewayState}
    (h : after.groups = before.groups) : SlotsMonotone before after := by
  constructor
  · intro gid group hg slot hs
    exact ⟨group, by rw [h]; exact hg, slot, hs, rfl, .inl rfl⟩
  · intro gid group' hg hnone
    rw [h, hnone] at hg
    cases hg

/-- One group is rewritten, or entered. -/
theorem SlotsMonotone.of_set {before after : GatewayState} {gid : JsString}
    {group' : TokenGroupReservation} (h : after.groups = before.groups.set gid group')
    (hold : ∀ group, before.groups.get? gid = some group → ∀ slot ∈ group.slots,
      ∃ slot' ∈ group'.slots, slot'.slotId = slot.slotId ∧ slot.state.Leads slot'.state)
    (hnew : before.groups.get? gid = none → ∀ slot ∈ group'.slots, slot.state = .reserved) :
    SlotsMonotone before after := by
  constructor
  · intro gid' group hg slot hs
    rw [h, Record.get?_set]
    by_cases hgid : gid' = gid
    · subst hgid
      rw [if_pos rfl]
      exact ⟨group', rfl, hold group hg slot hs⟩
    · rw [if_neg hgid]
      exact ⟨group, hg, slot, hs, rfl, .inl rfl⟩
  · intro gid' group'' hg hnone
    rw [h, Record.get?_set] at hg
    by_cases hgid : gid' = gid
    · subst hgid
      rw [if_pos rfl] at hg
      cases hg
      exact hnew hnone
    · rw [if_neg hgid, hnone] at hg
      cases hg

/-- One slot of one group is rewritten. -/
theorem SlotsMonotone.of_set_slot {before after : GatewayState} {gid : JsString}
    {group : TokenGroupReservation} {pre post : List TokenGroupSlotReservation}
    {slot : TokenGroupSlotReservation} (slot' : TokenGroupSlotReservation)
    (h : after.groups = before.groups.set gid { group with slots := pre ++ slot' :: post })
    (hg : before.groups.get? gid = some group) (hslots : group.slots = pre ++ slot :: post)
    (hid : slot'.slotId = slot.slotId) (hleads : slot.state.Leads slot'.state) :
    SlotsMonotone before after := by
  refine .of_set h ?_ (fun hnone => ?_)
  · intro group₀ hg₀ a ha
    obtain rfl := Option.some.inj (hg.symm.trans hg₀)
    rw [hslots, List.mem_append, List.mem_cons] at ha
    rcases ha with ha | rfl | ha
    · exact ⟨a, List.mem_append_left _ ha, rfl, .inl rfl⟩
    · exact ⟨slot', List.mem_append_right _ (List.mem_cons_self ..), hid, hleads⟩
    · exact ⟨a, List.mem_append_right _ (List.mem_cons_of_mem _ ha), rfl, .inl rfl⟩
  · rw [hnone] at hg
    cases hg

/-- An open slot may become claimed. -/
theorem leads_claimed {slot : TokenGroupSlotReservation} (h : slot.isOpen) :
    slot.state.Leads .claimed := by
  cases hs : slot.state <;> simp_all [SlotState.Leads, TokenGroupSlotReservation.isOpen]

theorem giveBack_leads (slot : TokenGroupSlotReservation) (requested : List JsString) :
    (slot.giveBack requested).slotId = slot.slotId ∧
      slot.state.Leads (slot.giveBack requested).state := by
  unfold TokenGroupSlotReservation.giveBack
  split
  · exact ⟨rfl, .inl rfl⟩
  · rename_i h
    refine ⟨rfl, ?_⟩
    cases hs : slot.state <;> simp_all [SlotState.Leads]

/-! ## What a call has to guarantee -/

/-- A reservation returned by a claim is active, it is the one its slot was
claimed with, and the counters agree with the holds, that of the slot among
them. -/
def ClaimReturnsActive (limits : TokenGatewayLimits) (h : Machine Gateway) : GatewayCall → Prop
  | .claimGroupSlot now groupId slotId input => ∀ r,
      (claimGroupSlot limits now groupId slotId input h).1 = .ok r →
      let after := (claimGroupSlot limits now groupId slotId input h).2.store
      after.state.reservations.get? r.reservationId = some r ∧
        (∃ group, after.state.groups.get? groupId = some group ∧ ∃ slot ∈ group.slots,
          slot.slotId = slotId ∧ slot.state = .claimed ∧ slot.reservation = some r) ∧
        Conserves limits after
  | _ => True

/-- What is claimed of one call. -/
def SlotsInOrder (limits : TokenGatewayLimits) (h : Machine Gateway) (c : GatewayCall) : Prop :=
  SlotsMonotone h.store.state (c.run limits h).store.state ∧ ClaimReturnsActive limits h c

/-- A call that claims no closed slot and whose writes in the middle succeed. -/
def KeepsOrder (limits : TokenGatewayLimits) (h : Machine Gateway) (c : GatewayCall) : Prop :=
  c.ClaimsOpenSlot limits h ∧ c.NestedWritesSucceed h

theorem Commits.state {α : Type} {h : Machine Gateway} {gateway : Gateway}
    {supply : Supply Uuid} {a : α} {result : Except (Fault JsError) α × Machine Gateway}
    (hres : Commits h gateway supply a result) : result.2.store.state = gateway.state := by
  rcases hres with ⟨ws, -, rfl⟩ | ⟨f, ws, -, -, rfl⟩ <;> rfl

theorem Commits.returned {α : Type} {h : Machine Gateway} {gateway : Gateway}
    {supply : Supply Uuid} {a a' : α} {result : Except (Fault JsError) α × Machine Gateway}
    (hres : Commits h gateway supply a result) (hok : result.1 = .ok a') : a' = a := by
  rcases hres with ⟨ws, -, rfl⟩ | ⟨f, ws, -, -, rfl⟩
  · cases hok
    rfl
  · cases hok

section step

variable {limits : TokenGatewayLimits} {h : Machine Gateway}

/-- Ending a reservation closes the slot it claimed. -/
theorem retire_monotone {gateway : Gateway} {id : JsString} {active : TokenReservation}
    (hc : Coherent limits gateway h.supply.drawn)
    (hr : gateway.state.reservations.get? id = some active) {gateway' : Gateway}
    (hgroups : gateway'.state.groups = gateway.state.groups) (now : ℕ) (event : TerminalEvent)
    (settlement : TokenSettlement) :
    SlotsMonotone gateway.state (gateway'.retire now id active event settlement).state := by
  let ended : GatewayState := { gateway'.state with
    reservations := gateway'.state.reservations.erase id
    terminal := gateway'.state.terminal.set id { event, settlement, completedAt := now } }
  have hended : ended.groups = gateway.state.groups := hgroups
  have hafter : (gateway'.retire now id active event settlement).state.groups
      = (ended.updateGroupSlot active event.slotState).groups := by
    simp only [Gateway.retire, ended]
  rcases updateGroupSlot_cases hc.linked hr hended event.slotState with
    ⟨-, hupd⟩ | ⟨gid, group, slot, pre, post, -, hg, hslots, hclaimed, -, hupd⟩
  · exact .of_groups_eq (hafter.trans (hupd.trans hended))
  · refine .of_set_slot { slot with state := event.slotState }
      (hafter.trans (hupd.trans (by rw [hended]))) hg hslots rfl ?_
    refine .inr (.inr ⟨hclaimed, ?_⟩)
    cases event
    · exact .inl rfl
    · exact .inr rfl

/-- A call that claims no closed slot moves the slots in order. -/
theorem GatewayCall.monotone (hc : Coherent limits h.store h.supply.drawn) (c : GatewayCall)
    (hkeeps : KeepsOrder limits h c) :
    SlotsMonotone h.store.state (c.run limits h).store.state := by
  obtain ⟨hopen, hwrites⟩ := hkeeps
  cases c with
  | reserve now input =>
    rcases reserve_cases limits now h input with ⟨e, hr⟩ | ⟨r, id, -, -, -, hr⟩ |
      ⟨uuid, supply, -, -, -, hr⟩
    · exact .of_groups_eq (by simp only [run, hr])
    · exact .of_groups_eq (by simp only [run, hr])
    · refine .of_groups_eq ?_
      rw [run, hr.state]
      simp [Gateway.grant]
  | reserveGroup input =>
    rcases reserveGroup_cases limits h input with ⟨e, hr⟩ | ⟨g, -, hr⟩ |
      ⟨slots, maximumTokens, candidate, hadmits, hr⟩
    · exact .of_groups_eq (by simp only [run, hr])
    · exact .of_groups_eq (by simp only [run, hr])
    · have hgroups : ((GatewayCall.reserveGroup input).run limits h).store.state.groups =
          h.store.state.groups.set input.groupId (newGroup input.groupId slots maximumTokens) := by
        rw [run, hr.state]
        rfl
      refine .of_set hgroups (fun group hg => ?_) (fun _ slot hs => ?_)
      · rw [hadmits.fresh] at hg
        cases hg
      · obtain ⟨slot', -, rfl⟩ := List.mem_map.1 hs
        rfl
  | claimGroupSlot now groupId slotId input =>
    rcases claimGroupSlot_cases limits now h groupId slotId input with ⟨e, hr⟩ |
      ⟨group, index, slot, hg, hf, hfits, ⟨r, hres, hsame, hr⟩ |
        ⟨uuid, supply, hnext, hnone, hin, hout, hr⟩⟩
    · exact .of_groups_eq (by simp only [run, hr])
    · exact .of_groups_eq (by simp only [run, hr])
    · have hgranted : claimGranted limits h slot input := by
        refine ⟨hfits, ?_⟩
        rw [hnone]
        exact ⟨hin, hout, by simp [hnext]⟩
      have hslot := hopen slot (slotAt_eq hg hf) hgranted
      obtain ⟨-, pre, post, hslots, hset⟩ := findSlot_split hf
      let claimed : TokenGroupSlotReservation := { slot with
        state := .claimed
        reservation := some (newSlotReservation now groupId slotId slot (normalizeRequest input)
          uuid) }
      have hgroups : ((claimGroupSlot now groupId slotId input).run limits h).store.state.groups
          = h.store.state.groups.set groupId { group with slots := pre ++ claimed :: post } := by
        rw [run, hr.state, Gateway.claimSlot, hset]
      exact .of_set_slot claimed hgroups hg hslots rfl (leads_claimed hslot)
  | releaseGroupSlots now groupId slotIds =>
    rcases releaseGroupSlots_cases now groupId slotIds h hc hwrites with ⟨e, hr⟩ |
      ⟨group, gateway', hg, -, hgroups, hr⟩
    · exact .of_groups_eq (by simp only [run, hr])
    · refine .of_set (by rw [run, hr.state, hgroups]) (fun group₀ hg₀ slot hs => ?_)
        (fun hnone => ?_)
      · obtain rfl := Option.some.inj (hg.symm.trans hg₀)
        exact ⟨slot.giveBack slotIds, List.mem_map_of_mem hs, giveBack_leads slot slotIds⟩
      · rw [hnone] at hg
        cases hg
  | settle now reservation usage =>
    rcases settle_cases limits now h reservation usage with ⟨e, hr⟩ | ⟨t, -, -, -, hr⟩ |
      ⟨active, hget, -, -, hr⟩
    · exact .of_groups_eq (by simp only [run, hr])
    · exact .of_groups_eq (by simp only [run, hr])
    · rw [run, hr.state]
      exact retire_monotone hc hget (by simp) ..
  | release now reservation =>
    rcases release_cases now h reservation with ⟨e, hr⟩ | ⟨-, -, hr⟩ | ⟨active, hget, -, hr⟩
    · exact .of_groups_eq (by simp only [run, hr])
    · exact .of_groups_eq (by simp only [run, hr])
    · rw [run, hr.state]
      exact retire_monotone hc hget (by simp) ..
  | acknowledgeTerminal id =>
    rcases acknowledgeTerminal_cases h id with ⟨-, hr⟩ | hr
    · exact .of_groups_eq (by simp only [run, hr])
    · exact .of_groups_eq (by rw [run, hr.state])

/-- A granted claim goes through. -/
theorem claimGroupSlot_granted (now : ℕ) {groupId slotId : JsString}
    {input : TokenReservationRequest} {slot : TokenGroupSlotReservation}
    (hslot : slot ∈ h.store.state.slotAt groupId slotId)
    (hgranted : claimGranted limits h slot input) :
    ∃ group index, h.store.state.groups.get? groupId = some group ∧
      group.findSlot slotId = some (index, slot) ∧
      ((∃ existing, slot.reservation = some existing ∧
          claimGroupSlot limits now groupId slotId input h = (.ok existing, h)) ∨
        ∃ uuid supply, h.supply.next = some (uuid, supply) ∧ slot.reservation = none ∧
          Commits h (h.store.claimSlot groupId group index slot
              (newSlotReservation now groupId slotId slot (normalizeRequest input) uuid)) supply
            (newSlotReservation now groupId slotId slot (normalizeRequest input) uuid)
            (claimGroupSlot limits now groupId slotId input h)) := by
  obtain ⟨group, hg, hfound⟩ := Option.bind_eq_some_iff.1 hslot
  obtain ⟨⟨index, slot₀⟩, hf, rfl⟩ := Option.map_eq_some_iff.1 hfound
  refine ⟨group, index, hg, hf, ?_⟩
  obtain ⟨hfits, hrest⟩ := hgranted
  dsimp only at hfits hrest
  cases hres : slot₀.reservation with
  | some existing =>
    rw [hres] at hrest
    have hpass : ¬ ((!isCanonicalRequest input (normalizeRequest input) ||
        slot₀.toTokenGatewayRoute ≠ (normalizeRequest input).toTokenGatewayRoute ||
        (normalizeRequest input).inputTokens + (normalizeRequest input).outputTokens
          > slot₀.holdTokens) = true) := by
      obtain ⟨hcanonical, hroute, hholds⟩ := hfits
      simp [hcanonical, hroute, hholds]
    simp only [claimGroupSlot, bind_run, Host.read_run, hg, hf]
    rw [if_neg hpass, hres]
    exact .inl ⟨existing, rfl, by simp only [hrest, if_true]; rfl⟩
  | none =>
    rw [hres] at hrest
    obtain ⟨hin, hout, hnext⟩ := hrest
    obtain ⟨⟨uuid, supply⟩, hnext⟩ := Option.ne_none_iff_exists'.1 hnext
    refine .inr ⟨uuid, supply, hnext, rfl, ?_⟩
    rw [claimGroupSlot_run limits now h hg hf hfits hres (by omega) (by omega) hnext]
    exact persist_commits ⟨h.store.claimSlot groupId group index slot₀
      (newSlotReservation now groupId slotId slot₀ (normalizeRequest input) uuid),
      h.writes, supply⟩ rfl _

/-- A claimed slot of a coherent ledger has an active reservation. -/
theorem Coherent.claimed_active {gid : JsString} {group : TokenGroupReservation}
    {slot : TokenGroupSlotReservation} {r : TokenReservation}
    (hc : Coherent limits h.store h.supply.drawn)
    (hg : h.store.state.groups.get? gid = some group) (hmem : slot ∈ group.slots)
    (hres : slot.reservation = some r) (hopen : slot.isOpen) :
    slot.state = .claimed ∧ h.store.state.reservations.get? r.reservationId = some r := by
  have hclaimed : slot.state = .claimed := by
    have hne := (hc.linked.slot_reservation hg hmem hres).2.2.2.2
    cases hs : slot.state <;> simp_all [TokenGroupSlotReservation.isOpen]
  obtain ⟨r', hr', hact⟩ := hc.linked.slot_claimed hg hmem hclaimed
  obtain rfl := Option.some.inj (hres.symm.trans hr')
  exact ⟨hclaimed, hact⟩

/-- A reservation handed out by a claim on an open slot is active. -/
theorem GatewayCall.returns_active (hc : Coherent limits h.store h.supply.drawn) (c : GatewayCall)
    (hkeeps : KeepsOrder limits h c) : ClaimReturnsActive limits h c := by
  have hafter := c.coherent hc hkeeps.1 hkeeps.2
  cases c with
  | claimGroupSlot now groupId slotId input =>
    intro r hok
    refine and_assoc.1 ⟨?_, hafter.conserves⟩
    rcases claimGroupSlot_cases limits now h groupId slotId input with ⟨e, hr⟩ |
      ⟨group, index, slot, hg, hf, hfits, ⟨existing, hres, hsame, hr⟩ |
        ⟨uuid, supply, hnext, hnone, hin, hout, hr⟩⟩
    · rw [hr] at hok
      cases hok
    · rw [hr] at hok ⊢
      cases hok
      obtain ⟨hid, pre, post, hslots, -⟩ := findSlot_split hf
      have hmem : slot ∈ group.slots := hslots ▸ List.mem_append_right _ (List.mem_cons_self ..)
      have hopen := hkeeps.1 slot (slotAt_eq hg hf) ⟨hfits, by rw [hres]; exact hsame⟩
      obtain ⟨hclaimed, hact⟩ := hc.claimed_active hg hmem hres hopen
      exact ⟨hact, group, hg, slot, hmem, hid, hclaimed, hres⟩
    · obtain rfl := hr.returned hok
      rw [hr.state]
      obtain ⟨hid, pre, post, hslots, hset⟩ := findSlot_split hf
      let claimed : TokenGroupSlotReservation := { slot with
        state := .claimed
        reservation := some (newSlotReservation now groupId slotId slot (normalizeRequest input)
          uuid) }
      refine ⟨Record.get?_set_self .., _, Record.get?_set_self .., claimed, ?_, hid, rfl, rfl⟩
      rw [hset]
      exact List.mem_append_right _ (List.mem_cons_self ..)
  | _ => trivial

/-- A granted claim on a closed slot breaks the order: it hands out a reservation
that has ended, or it opens the slot again. -/
theorem GatewayCall.claims_open_of_inOrder (hc : Coherent limits h.store h.supply.drawn)
    (c : GatewayCall) (horder : SlotsInOrder limits h c) : c.ClaimsOpenSlot limits h := by
  obtain ⟨hmono, hactive⟩ := horder
  cases c with
  | claimGroupSlot now groupId slotId input =>
    intro slot hslot hgranted
    by_contra hshut
    have hclosed : slot.state = .settled ∨ slot.state = .released := by
      cases hs : slot.state <;> simp_all [TokenGroupSlotReservation.isOpen]
    obtain ⟨group, index, hg, hf, hgo⟩ := claimGroupSlot_granted now hslot hgranted
    obtain ⟨hid, pre, post, hslots, hset⟩ := findSlot_split hf
    have hmem : slot ∈ group.slots := hslots ▸ List.mem_append_right _ (List.mem_cons_self ..)
    have hnd := (hc.linked.group_ids hg).2
    rcases hgo with ⟨existing, hres, hr⟩ | ⟨uuid, supply, hnext, hnone, hr⟩
    · -- the slot the returned reservation claimed is this one, which is closed
      obtain ⟨-, ⟨group', hg', slot', hmem', hid', hclaimed, -⟩, -⟩ :=
        hactive existing (by rw [hr])
      rw [hr] at hg'
      obtain rfl := Option.some.inj (hg.symm.trans hg')
      obtain rfl := slot_unique hnd hmem' hmem (hid'.trans hid.symm)
      rcases hclosed with hs | hs <;> rw [hs] at hclaimed <;> cases hclaimed
    · obtain ⟨group', hg', slot', hmem', hid', hleads⟩ := hmono.1 groupId group hg slot hmem
      have hclosed' := hleads.closed hclosed
      rw [run, hr.state] at hg'
      simp only [Gateway.claimSlot, Record.get?_set_self, Option.some.injEq, hset] at hg'
      subst hg'
      rw [hslots] at hnd
      have hnd' : ((pre ++ { slot with
          state := .claimed
          reservation := some (newSlotReservation now groupId slotId slot (normalizeRequest input)
            uuid) } :: post).map (·.slotId)).Nodup := by simpa using hnd
      have heq := slot_unique hnd' hmem' (List.mem_append_right _ (List.mem_cons_self ..)) hid'
      rw [heq] at hclosed'
      rcases hclosed with hs | hs <;> rw [hs] at hclosed' <;> cases hclosed'
  | _ => trivial

end step

/-- **The life of the slots.** After any run of calls that kept the order, the
next call keeps it, and hands out only an active reservation whose hold is
counted, exactly when it is not a claim granted on a closed slot. -/
theorem group_slots_in_order_iff (limits : TokenGatewayLimits) (h : Machine Gateway)
    (c : GatewayCall) (hrun : GatewayRun limits (KeepsOrder limits) h)
    (hwrites : c.NestedWritesSucceed h) :
    SlotsInOrder limits h c ↔ c.ClaimsOpenSlot limits h := by
  have hc : Coherent limits h.store h.supply.drawn := hrun.coherent fun _ _ hk => hk
  constructor
  · exact c.claims_open_of_inOrder hc
  · intro hopen
    exact ⟨c.monotone hc ⟨hopen, hwrites⟩, c.returns_active hc ⟨hopen, hwrites⟩⟩

/-! A group of one slot, released and then claimed. -/

section sample

def sampleHeld : Machine Gateway :=
  (GatewayCall.reserveGroup sampleGroup).run defaultTokenGatewayLimits sampleMachine

def sampleReleased : Machine Gateway :=
  (GatewayCall.releaseGroupSlots 1 (js "group") [js "slot"]).run defaultTokenGatewayLimits
    sampleHeld

def sampleClaim : GatewayCall := .claimGroupSlot 2 (js "group") (js "slot") sampleRequest

theorem group_slots_in_order_iff_sample :
    SlotsInOrder defaultTokenGatewayLimits sampleHeld sampleClaim ↔
      sampleClaim.ClaimsOpenSlot defaultTokenGatewayLimits sampleHeld :=
  group_slots_in_order_iff _ _ _ (.call _ (.start [] _ _) ⟨trivial, trivial⟩) trivial

/-- The order does not hold for every run: the slot was released, its tokens were
given back, and the claim opens it again. -/
theorem group_slots_in_order_false :
    ¬ ∀ (limits : TokenGatewayLimits) (h : Machine Gateway) (c : GatewayCall),
      GatewayRun limits (fun h _ => h.Reliable) h → h.Reliable → SlotsInOrder limits h c := by
  intro hall
  have held : GatewayRun defaultTokenGatewayLimits (fun h _ => h.Reliable) sampleHeld :=
    .call _ (.start [] _ _) (by decide)
  have released : GatewayRun defaultTokenGatewayLimits (fun h _ => h.Reliable) sampleReleased :=
    .call _ held (by decide)
  have coherent : Coherent defaultTokenGatewayLimits sampleReleased.store
      sampleReleased.supply.drawn := by
    refine GatewayCall.coherent ?_ (.releaseGroupSlots 1 (js "group") [js "slot"]) trivial
      (fun group _ => Host.Reliable.for (by decide) _)
    exact GatewayCall.coherent (coherent_initial _) (.reserveGroup sampleGroup) trivial trivial
  let slot : TokenGroupSlotReservation :=
    { slotId := js "slot", provider := js "codex", model := none, sessionId := none,
      holdTokens := 20, state := .released, reservation := none }
  have hslot : slot ∈ sampleReleased.store.state.slotAt (js "group") (js "slot") := by decide
  have hgranted : claimGranted defaultTokenGatewayLimits sampleReleased slot sampleRequest :=
    ⟨⟨by decide, by decide, by decide⟩, by decide, by decide, Option.some_ne_none _⟩
  have hopen := GatewayCall.claims_open_of_inOrder coherent sampleClaim
    (hall _ _ sampleClaim released (by decide)) slot hslot hgranted
  exact absurd hopen (by decide)

end sample

end Autopilot
