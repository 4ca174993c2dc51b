/-
What a call of the gateway leaves in memory when it throws.

Every operation changes the ledger in memory and only then writes the file, and
nothing puts the change back when the write throws. So a denied request leaves
the ledger alone, and a request that passed every check and whose write failed
leaves behind a reservation nobody was given, a group nobody knows of, or a
release that is not in the file.

`Proceeds` are the checks of each operation, read off the state before the call,
and `writeCount` the writes it makes. The main result is exact: a call that
throws leaves reservations, groups and counters as they were if and only if it
does not proceed or all of its writes succeed. In a run of such calls the ledger
in memory is the one a restart would read from the file.

The ledger has to be linked for this, so that what a write saves really is a
change. It is in every run, whatever becomes of the writes.
-/
import Autopilot.GatewayRuns

set_option autoImplicit false

namespace Autopilot

open Prog

/-! ## Calls that throw -/

/-- The call does not return. A crash is a throw nothing catches. -/
def GatewayCall.Throws (limits : TokenGatewayLimits) (h : Machine Gateway) : GatewayCall → Prop
  | .reserve now input => (Autopilot.reserve limits now input h).1.isOk = false
  | .reserveGroup input => (Autopilot.reserveGroup limits input h).1.isOk = false
  | .claimGroupSlot now groupId slotId input =>
    (Autopilot.claimGroupSlot limits now groupId slotId input h).1.isOk = false
  | .releaseGroupSlots now groupId slotIds =>
    (Autopilot.releaseGroupSlots now groupId slotIds h).1.isOk = false
  | .settle now reservation usage =>
    (Autopilot.settle limits now reservation usage h).1.isOk = false
  | .release now reservation => (Autopilot.release now reservation h).1.isOk = false
  | .acknowledgeTerminal reservationId =>
    (Autopilot.acknowledgeTerminal reservationId h).1.isOk = false

/-- The same reservations, groups and usage counters. -/
def SameLedger (a b : GatewayState) : Prop :=
  a.reservations = b.reservations ∧ a.groups = b.groups ∧ a.used = b.used

theorem SameLedger.refl (a : GatewayState) : SameLedger a a := ⟨rfl, rfl, rfl⟩

theorem SameLedger.trans {a b c : GatewayState} (hab : SameLedger a b) (hbc : SameLedger b c) :
    SameLedger a c :=
  ⟨hab.1.trans hbc.1, hab.2.1.trans hbc.2.1, hab.2.2.trans hbc.2.2⟩

/-- A release or a settlement of an active reservation on its own route. -/
def EndsActive (state : GatewayState) (reservation active : TokenReservation) : Prop :=
  state.reservations.get? reservation.reservationId = some active ∧
    active.toTokenGatewayRoute = reservation.toTokenGatewayRoute

/-- The call passes every check and has something to change in the
reservations, the groups or the counters. -/
def GatewayCall.Proceeds (limits : TokenGatewayLimits) (h : Machine Gateway) : GatewayCall → Prop
  | .reserve _ input =>
    (normalizeRequest input).handoffId.bind h.store.state.findActiveReservation = none ∧
      reserveRefusal limits h.store.state (normalizeRequest input) = none ∧
      h.supply.next ≠ none
  | .reserveGroup input => ∃ slots maximumTokens candidate,
      AdmitsGroup limits h.store.state input slots maximumTokens candidate
  | .claimGroupSlot _ groupId slotId input => ∃ slot ∈ h.store.state.slotAt groupId slotId,
      claimGranted limits h slot input ∧ slot.reservation = none
  | .releaseGroupSlots _ groupId slotIds => ∃ group,
      h.store.state.groups.get? groupId = some group ∧
      ¬ (¬ slotIds.Nodup ∨ slotIds.any (fun id => group.slots.all (·.slotId ≠ id))) ∧
      ∃ slot ∈ group.openSlots, slot.slotId ∈ slotIds
  | .settle _ reservation usage => ∃ active, EndsActive h.store.state reservation active ∧
      settleRefusal limits h.store.state active usage.settlement.inputTokens
        usage.settlement.outputTokens = none
  | .release _ reservation => ∃ active, EndsActive h.store.state reservation active
  | .acknowledgeTerminal _ => False

/-- The writes a call makes: one, and in `releaseGroupSlots` one more for each
claimed slot. -/
def GatewayCall.writeCount (h : Machine Gateway) : GatewayCall → ℕ
  | .releaseGroupSlots _ groupId slotIds =>
    ((h.store.state.groups.get? groupId).map fun group =>
      nestedReleases slotIds group.slots).getD 0 + 1
  | _ => 1

/-- The writes of a call that changes the ledger succeed. -/
def WritesWhatItChanges (limits : TokenGatewayLimits) (h : Machine Gateway) (c : GatewayCall) :
    Prop :=
  c.Proceeds limits h → h.ReliableFor (c.writeCount h)

/-! ## The last write -/

/-- An operation that ends with its one write, exactly. -/
theorem persist_outcome {α : Type} (h' : Machine Gateway) (a : α) :
    (h'.ReliableFor 1 ∧ (persist >>= fun _ => (pure a : Proc Gateway α)) h' =
        (.ok a, ⟨{ h'.store with file := h'.store.state }, h'.writes.drop 1, h'.supply⟩)) ∨
      ∃ fault, ¬ h'.ReliableFor 1 ∧ (persist >>= fun _ => (pure a : Proc Gateway α)) h' =
        (.error fault, { h' with writes := h'.writes.drop 1 }) := by
  rcases Host.write_outcome (fun g : Gateway => { g with file := g.state }) h' with
    ⟨hrel, hrun⟩ | ⟨fault, hrel, hrun⟩
  · exact .inl ⟨hrel, bind_run_ok hrun⟩
  · exact .inr ⟨fault, hrel, bind_run_error hrun⟩

/-- What a call that changes the ledger comes to: all its writes are made and the
file is the ledger in memory, or one fails, it throws and memory has changed. -/
def Saves {α : Type} (h : Machine Gateway) (writes : ℕ)
    (result : Except (Fault JsError) α × Machine Gateway) : Prop :=
  (h.ReliableFor writes ∧ result.1.isOk = true ∧ result.2.store.file = result.2.store.state) ∨
    (¬ h.ReliableFor writes ∧ result.1.isOk = false ∧
      ¬ SameLedger result.2.store.state h.store.state)

/-- An operation that changes the ledger and then makes its one write. -/
theorem saves_of_persist {α : Type} {h : Machine Gateway} {a : α} (h' : Machine Gateway)
    (hw : h'.writes = h.writes) (hchanged : ¬ SameLedger h'.store.state h.store.state) :
    Saves h 1 ((persist >>= fun _ => (pure a : Proc Gateway α)) h') := by
  have hrel : h'.ReliableFor 1 ↔ h.ReliableFor 1 := by
    unfold Host.ReliableFor
    rw [hw]
  rcases persist_outcome h' a with ⟨hr, hrun⟩ | ⟨fault, hr, hrun⟩
  · rw [hrun]
    exact .inl ⟨hrel.1 hr, rfl, rfl⟩
  · rw [hrun]
    exact .inr ⟨fun hc => hr (hrel.2 hc), rfl, hchanged⟩

/-! ## What counts as a change -/

/-- A reservation that is there on one side only. -/
theorem not_sameLedger_of_reservation {a b : GatewayState} (id : JsString)
    (h : a.reservations.get? id ≠ b.reservations.get? id) : ¬ SameLedger a b := by
  intro hsame
  rw [hsame.1] at h
  exact h rfl

theorem not_sameLedger_of_group {a b : GatewayState} (gid : JsString)
    (h : a.groups.get? gid ≠ b.groups.get? gid) : ¬ SameLedger a b := by
  intro hsame
  rw [hsame.2.1] at h
  exact h rfl

theorem released_reservations (gateway : Gateway) (now : ℕ) (id : JsString)
    (active : TokenReservation) :
    (gateway.released now id active).state.reservations = gateway.state.reservations.erase id := by
  obtain ⟨-, -, -, -, hres⟩ := retire_frame
    (gateway.addUsage active.toTokenGatewayRoute (-active.held)) now id active .released
    { inputTokens := 0, outputTokens := 0, released := true }
  rw [Gateway.released, hres, addUsage_reservations]

theorem settled_reservations (gateway : Gateway) (now : ℕ) (id : JsString)
    (active : TokenReservation) (settlement : TokenSettlement) :
    (gateway.settled now id active settlement).state.reservations =
      gateway.state.reservations.erase id := by
  obtain ⟨-, -, -, -, hres⟩ := retire_frame
    ((gateway.addUsage active.toTokenGatewayRoute (-active.held)).addUsage
      active.toTokenGatewayRoute (settlement.inputTokens + settlement.outputTokens : ℕ)) now id
    active .settled settlement
  rw [Gateway.settled, hres, addUsage_reservations, addUsage_reservations]

/-- Taking an active reservation out is a change. -/
theorem not_sameLedger_of_erase {a b : GatewayState} {id : JsString} {active : TokenReservation}
    (herase : a.reservations = b.reservations.erase id)
    (hactive : b.reservations.get? id = some active) : ¬ SameLedger a b := by
  refine not_sameLedger_of_reservation id ?_
  rw [herase, Record.get?_erase_self, hactive]
  simp

/-! ## The loop of `releaseGroupSlots` under failing writes -/

section releaseSlots

variable {drawn : List Uuid} {now : ℕ} {groupId : JsString} {group : TokenGroupReservation}

/-- A reservation that was active before is not any more. -/
def LosesReservation (before after : GatewayState) : Prop :=
  ∃ id, before.reservations.get? id ≠ none ∧ after.reservations.get? id = none

theorem LosesReservation.changed {before after : GatewayState}
    (h : LosesReservation before after) : ¬ SameLedger after before := by
  obtain ⟨id, hbefore, hafter⟩ := h
  refine not_sameLedger_of_reservation id ?_
  rw [hafter]
  exact hbefore.symm

/-- A loop over slots none of which is open and asked for does nothing. -/
theorem releaseSlots_idle {requested : List JsString} {todo : List TokenGroupSlotReservation}
    (h : Machine Gateway) (hidle : ∀ slot ∈ todo, slot.isOpen → slot.slotId ∉ requested) :
    releaseSlots now requested todo h = (.ok todo, h) := by
  induction todo with
  | nil => rfl
  | cons slot todo ih =>
    have hrun := ih (fun s hs => hidle s (List.mem_cons_of_mem _ hs))
    have hskip : slot.slotId ∉ requested ∨ slot.state = .released ∨ slot.state = .settled := by
      have hslot := hidle slot (List.mem_cons_self ..)
      cases hs : slot.state <;> simp_all [TokenGroupSlotReservation.isOpen]
    have hgive : slot.giveBack requested = slot := if_pos hskip
    rw [releaseSlots_skip todo h hskip, releaseRest, bind_run_ok hrun, hgive]
    rfl

/-- **The loop, under any outcome of its writes.** It comes through when the
writes in its middle succeed. Otherwise it stops with the ledger linked and a
reservation gone. The induction is on the slots still to do. -/
theorem releaseSlots_outcome (requested : List JsString)
    (todo pre : List TokenGroupSlotReservation) (h : Machine Gateway)
    (hl : h.store.Linked drawn)
    (hrecorded : (h.store.withSlots groupId group (pre ++ todo)).Linked drawn) :
    (h.ReliableFor (nestedReleases requested todo) ∧ ∃ gateway',
      releaseSlots now requested todo h = (.ok (todo.map (·.giveBack requested)),
        ⟨gateway', h.writes.drop (nestedReleases requested todo), h.supply⟩) ∧
      (gateway'.withSlots groupId group (pre ++ todo.map (·.giveBack requested))).Linked drawn ∧
      ∀ group', gateway'.state.groups.set groupId group'
        = h.store.state.groups.set groupId group') ∨
    (¬ h.ReliableFor (nestedReleases requested todo) ∧ ∃ fault gateway' ws,
      releaseSlots now requested todo h = (.error fault, ⟨gateway', ws, h.supply⟩) ∧
      gateway'.Linked drawn ∧ LosesReservation h.store.state gateway'.state) := by
  induction todo generalizing pre h with
  | nil => exact .inl ⟨by simp [nestedReleases, Host.ReliableFor], h.store, rfl, hrecorded,
      fun _ => rfl⟩
  | cons slot todo ih =>
    have hg : (h.store.withSlots groupId group (pre ++ slot :: todo)).state.groups.get? groupId
        = some { group with slots := pre ++ slot :: todo } := Record.get?_set_self ..
    have hslot : slot ∈ pre ++ slot :: todo := List.mem_append_right _ (List.mem_cons_self ..)
    rw [nestedReleases_cons]
    by_cases hskip : slot.slotId ∉ requested ∨ slot.state = .released ∨ slot.state = .settled
    · have hgive : slot.giveBack requested = slot := if_pos hskip
      rw [if_neg (by rcases hskip with hs | hs | hs <;> simp [hs]), Nat.zero_add,
        releaseSlots_skip todo h hskip]
      rcases ih (pre ++ [slot]) h hl (by simpa using hrecorded) with
        ⟨hrel, gateway', hrun, hl', hgroups⟩ | ⟨hrel, fault, gateway', ws, hrun, hrest⟩
      · refine .inl ⟨hrel, gateway', ?_, by simpa [hgive] using hl', hgroups⟩
        rw [releaseRest, bind_run_ok hrun]
        rfl
      · exact .inr ⟨hrel, fault, gateway', ws, bind_run_error hrun, hrest⟩
    have hgive : slot.giveBack requested = { slot with state := .released } := if_neg hskip
    have hmem : slot.slotId ∈ requested := not_not.1 (not_or.1 hskip).1
    by_cases hclaimed : slot.state = .claimed
    · obtain ⟨r, hr, hact⟩ := hrecorded.slot_claimed hg hslot hclaimed
      obtain ⟨hgid, hsid, -⟩ := hrecorded.slot_reservation hg hslot hr
      have hnd := (hrecorded.group_ids hg).2
      have hact' : h.store.state.reservations.get? r.reservationId = some r := hact
      have hreleased : (h.store.released now r.reservationId r).Linked drawn := hl.released hact'
      have hrecorded₁ : ((h.store.withSlots groupId group (pre ++ slot :: todo)).released now
        r.reservationId r).Linked drawn := hrecorded.released hact
      rw [withSlots_released hgid hsid hnd] at hrecorded₁
      rw [if_pos ⟨hmem, hclaimed⟩, releaseSlots_claimed todo h hmem hclaimed hr hact',
        Host.reliableFor_add]
      -- the write of this release, and then the rest
      rcases Host.write_outcome (fun g : Gateway => { g with file := g.state })
        { h with store := h.store.released now r.reservationId r } with
        ⟨hone, hwrite⟩ | ⟨fault, hone, hwrite⟩
      · let h₁ : Machine Gateway := ⟨{ h.store.released now r.reservationId r with
          file := (h.store.released now r.reservationId r).state }, h.writes.drop 1, h.supply⟩
        rw [persist, bind_run_ok hwrite]
        rcases ih (pre ++ [slot.giveBack requested]) h₁ hreleased
          (by rw [hgive, List.append_assoc]; exact hrecorded₁) with
          ⟨hrel, gateway', hrun, hl', hgroups⟩ | ⟨hrel, fault, gateway', ws, hrun, hl', hlost⟩
        · refine .inl ⟨⟨hone, hrel⟩, gateway', ?_, by simpa using hl', fun group' => ?_⟩
          · rw [releaseRest, bind_run_ok hrun, List.drop_drop, Nat.add_comm]
            rfl
          · rw [hgroups group']
            simp only [h₁, Gateway.released, Gateway.retire, GatewayState.updateGroupSlot, hgid,
              hsid]
            split <;> simp
        · refine .inr ⟨fun hc => hrel hc.2, fault, gateway', ws, bind_run_error hrun, hl', ?_⟩
          -- what is lost later was there to begin with
          obtain ⟨id, hbefore, hafter⟩ := hlost
          refine ⟨id, fun hnone => hbefore ?_, hafter⟩
          rw [released_reservations, Record.get?_erase, hnone]
          split <;> rfl
      · refine .inr ⟨fun hc => hone hc.1, fault, h.store.released now r.reservationId r,
          h.writes.drop 1, ?_, hreleased, r.reservationId, ?_, ?_⟩
        · rw [persist, bind_run_error hwrite]
        · rw [hact']
          simp
        · rw [released_reservations, Record.get?_erase_self]
    · have hreserved : slot.state = .reserved := by
        cases hs : slot.state <;> simp_all
      rw [if_neg (fun hboth => hclaimed hboth.2), Nat.zero_add,
        releaseSlots_reserved todo h hmem hreserved]
      let h₁ : Machine Gateway :=
        { h with store := h.store.addUsage slot.toTokenGatewayRoute (-slot.holdTokens) }
      have hlost : ∀ after, LosesReservation h₁.store.state after →
          LosesReservation h.store.state after := by
        rintro after ⟨id, hbefore, hafter⟩
        rw [addUsage_reservations] at hbefore
        exact ⟨id, hbefore, hafter⟩
      rcases ih (pre ++ [slot.giveBack requested]) h₁ (hl.addUsage _ _)
        (by simpa [hgive] using hrecorded.giveBack hreserved) with
        ⟨hrel, gateway', hrun, hl', hgroups⟩ | ⟨hrel, fault, gateway', ws, hrun, hl', hlost₁⟩
      · refine .inl ⟨hrel, gateway', ?_, by simpa using hl', fun group' => ?_⟩
        · rw [releaseRest, bind_run_ok hrun]
          rfl
        · rw [hgroups group', addUsage_groups]
      · exact .inr ⟨hrel, fault, gateway', ws, bind_run_error hrun, hl', hlost _ hlost₁⟩

end releaseSlots

/-! ## One call -/

section calls

variable {limits : TokenGatewayLimits} {h : Machine Gateway}

/-- `releaseGroupSlots` after its checks: the loop, and what is recorded then. -/
theorem releaseGroupSlots_run (now : ℕ) {groupId : JsString} {slotIds : List JsString}
    {group : TokenGroupReservation} (hg : h.store.state.groups.get? groupId = some group)
    (hfound : ¬ (¬ slotIds.Nodup ∨ slotIds.any (fun id => group.slots.all (·.slotId ≠ id)))) :
    releaseGroupSlots now groupId slotIds h =
      (releaseSlots now slotIds group.slots >>= fun slots =>
        Host.update (fun gateway : Gateway => gateway.withSlots groupId group slots) >>= fun _ =>
          persist >>= fun _ => (pure { group with slots } : Proc Gateway _)) h := by
  simp only [releaseGroupSlots, bind_run, Host.read_run, hg]
  rw [if_neg hfound]
  rfl

/-- A release of slots that are open saves what it changed. -/
theorem releaseGroupSlots_saves {drawn : List Uuid} (hl : h.store.Linked drawn) (now : ℕ)
    {groupId : JsString} {slotIds : List JsString} {group : TokenGroupReservation}
    (hg : h.store.state.groups.get? groupId = some group)
    (hfound : ¬ (¬ slotIds.Nodup ∨ slotIds.any (fun id => group.slots.all (·.slotId ≠ id))))
    {slot : TokenGroupSlotReservation} (hslot : slot ∈ group.openSlots)
    (hmem : slot.slotId ∈ slotIds) :
    Saves h (nestedReleases slotIds group.slots + 1) (releaseGroupSlots now groupId slotIds h) := by
  have hself : h.store.withSlots groupId group ([] ++ group.slots) = h.store := by
    simp only [Gateway.withSlots, List.nil_append]
    rw [Record.set_of_get? hg]
  rw [releaseGroupSlots_run now hg hfound, Saves, Host.reliableFor_add]
  rcases releaseSlots_outcome slotIds group.slots [] h hl (by rw [hself]; exact hl) with
    ⟨hrel, gateway', hrun, -, hgroups⟩ | ⟨hrel, fault, gateway', ws, hrun, -, hlost⟩
  · rw [bind_run_ok hrun, bind_run, Host.update_run]
    let slots := group.slots.map (·.giveBack slotIds)
    let h' : Machine Gateway := ⟨gateway'.withSlots groupId group slots,
      h.writes.drop (nestedReleases slotIds group.slots), h.supply⟩
    -- the open slot that was asked for is released now
    have hchanged : ¬ SameLedger h'.store.state h.store.state := by
      refine not_sameLedger_of_group groupId ?_
      have hget : h'.store.state.groups.get? groupId = some { group with slots } :=
        Record.get?_set_self ..
      rw [hget, hg]
      intro hsame
      have hslots : slots = group.slots := congrArg (·.slots) (Option.some.inj hsame)
      obtain ⟨hin, hopen⟩ := List.mem_filter.1 hslot
      have hfix : slot.giveBack slotIds = slot := by
        have hall := List.map_eq_map_iff.1 (hslots.trans (List.map_id _).symm)
        exact hall slot hin
      have hgive : slot.giveBack slotIds = { slot with state := .released } := by
        refine if_neg ?_
        cases hs : slot.state <;> simp_all [TokenGroupSlotReservation.isOpen]
      have hstate : slot.state = .released := by
        rw [← hfix, hgive]
      rw [TokenGroupSlotReservation.isOpen, hstate] at hopen
      cases hopen
    rcases persist_outcome h' { group with slots } with ⟨hr, hlast⟩ | ⟨fault, hr, hlast⟩
    · dsimp only
      rw [hlast]
      exact .inl ⟨⟨hrel, hr⟩, rfl, rfl⟩
    · dsimp only
      rw [hlast]
      exact .inr ⟨fun hc => hr hc.2, rfl, hchanged⟩
  · rw [bind_run_error hrun]
    exact .inr ⟨fun hc => hrel hc.1, rfl, hlost.changed⟩

/-- **A call that proceeds** either makes all its writes, or it throws and memory
has changed. -/
theorem GatewayCall.saves (hl : h.store.Linked h.supply.drawn) (c : GatewayCall)
    (hp : c.Proceeds limits h) :
    (h.ReliableFor (c.writeCount h) ∧ ¬ c.Throws limits h ∧
        (c.run limits h).store.file = (c.run limits h).store.state) ∨
      (¬ h.ReliableFor (c.writeCount h) ∧ c.Throws limits h ∧
        ¬ SameLedger (c.run limits h).store.state h.store.state) := by
  cases c with
  | reserve now input =>
    obtain ⟨hfind, hrefusal, hnext⟩ := hp
    obtain ⟨⟨uuid, supply⟩, hnext⟩ := Option.ne_none_iff_exists'.1 hnext
    obtain ⟨hnew, -⟩ := Supply.next_spec hnext
    have hfresh := hl.fresh hnew
    have hsaves : Saves h 1 (Autopilot.reserve limits now input h) := by
      rw [reserve_run limits now h hfind hrefusal hnext]
      refine saves_of_persist _ rfl (not_sameLedger_of_reservation (reservationIdOf uuid) ?_)
      rw [hfresh]
      simp [Gateway.grant, newReservation]
    simpa [Saves, Throws, run, writeCount] using hsaves
  | reserveGroup input =>
    obtain ⟨slots, maximumTokens, candidate, ha⟩ := hp
    have hsaves : Saves h 1 (Autopilot.reserveGroup limits input h) := by
      rw [reserveGroup_run limits h ha]
      refine saves_of_persist _ rfl (not_sameLedger_of_group input.groupId ?_)
      rw [ha.fresh]
      simp [Gateway.entered]
    simpa [Saves, Throws, run, writeCount] using hsaves
  | claimGroupSlot now groupId slotId input =>
    obtain ⟨slot, hslot, ⟨hfits, hrest⟩, hnone⟩ := hp
    obtain ⟨group, hg, hfound⟩ := Option.bind_eq_some_iff.1 hslot
    obtain ⟨⟨index, slot₀⟩, hf, rfl⟩ := Option.map_eq_some_iff.1 hfound
    rw [hnone] at hrest
    obtain ⟨hin, hout, hnext⟩ := hrest
    obtain ⟨⟨uuid, supply⟩, hnext⟩ := Option.ne_none_iff_exists'.1 hnext
    obtain ⟨hnew, -⟩ := Supply.next_spec hnext
    have hfresh := hl.fresh hnew
    have hsaves : Saves h 1 (Autopilot.claimGroupSlot limits now groupId slotId input h) := by
      rw [claimGroupSlot_run limits now h hg hf hfits hnone (by omega) (by omega) hnext]
      refine saves_of_persist _ rfl (not_sameLedger_of_reservation (reservationIdOf uuid) ?_)
      rw [hfresh]
      simp [Gateway.claimSlot, newSlotReservation, newReservation]
    simpa [Saves, Throws, run, writeCount] using hsaves
  | releaseGroupSlots now groupId slotIds =>
    obtain ⟨group, hg, hfound, slot, hslot, hmem⟩ := hp
    have hsaves := releaseGroupSlots_saves hl now hg hfound hslot hmem
    simpa [Saves, Throws, run, writeCount, hg] using hsaves
  | settle now reservation usage =>
    obtain ⟨active, ⟨hact, hroute⟩, hrefusal⟩ := hp
    have hsaves : Saves h 1 (Autopilot.settle limits now reservation usage h) := by
      rw [settle_run_active limits now h hact hroute hrefusal]
      exact saves_of_persist _ rfl (not_sameLedger_of_erase (settled_reservations ..) hact)
    simpa [Saves, Throws, run, writeCount] using hsaves
  | release now reservation =>
    obtain ⟨active, hact, hroute⟩ := hp
    have hsaves : Saves h 1 (Autopilot.release now reservation h) := by
      have hunit : (persist : Proc Gateway Unit) = persist >>= fun _ => pure () := by
        funext h'
        rw [bind_run]
        rcases persist h' with ⟨fault | ⟨⟩, h''⟩ <;> rfl
      rw [release_run_active now h hact hroute, hunit]
      exact saves_of_persist _ rfl (not_sameLedger_of_erase (released_reservations ..) hact)
    simpa [Saves, Throws, run, writeCount] using hsaves
  | acknowledgeTerminal id => exact hp.elim

/-- A release that does not proceed is refused, or records the group as it was:
no slot that was asked for is open. -/
theorem releaseGroupSlots_idle {now : ℕ} {groupId : JsString} {slotIds : List JsString}
    (hp : ¬ (GatewayCall.releaseGroupSlots now groupId slotIds).Proceeds limits h) :
    (∃ e, releaseGroupSlots now groupId slotIds h = (.error (.thrown e), h)) ∨
      ∃ group, Commits h h.store h.supply group (releaseGroupSlots now groupId slotIds h) := by
  cases hg : h.store.state.groups.get? groupId with
  | none =>
    refine .inl ⟨JsError.new "token_group_missing", ?_⟩
    simp only [releaseGroupSlots, bind_run, Host.read_run, hg]
    rfl
  | some group =>
    by_cases hfound : ¬ slotIds.Nodup ∨ slotIds.any (fun id => group.slots.all (·.slotId ≠ id))
    · refine .inl ⟨JsError.new "token_group_slot_missing", ?_⟩
      simp only [releaseGroupSlots, bind_run, Host.read_run, hg]
      rw [if_pos hfound]
      rfl
    · have hidle : ∀ slot ∈ group.slots, slot.isOpen → slot.slotId ∉ slotIds :=
        fun slot hslot hopen hmem =>
          hp ⟨group, hg, hfound, slot, List.mem_filter.2 ⟨hslot, hopen⟩, hmem⟩
      have hself : h.store.withSlots groupId group group.slots = h.store := by
        simp only [Gateway.withSlots]
        rw [Record.set_of_get? hg]
      refine .inr ⟨group, ?_⟩
      rw [releaseGroupSlots_run now hg hfound, bind_run_ok (releaseSlots_idle h hidle), bind_run,
        Host.update_run]
      dsimp only
      rw [hself]
      exact persist_commits h rfl group

theorem Commits.sameLedger {α : Type} {gateway : Gateway} {supply : Supply Uuid} {a : α}
    {result : Except (Fault JsError) α × Machine Gateway} (hr : Commits h gateway supply a result)
    (hsame : SameLedger gateway.state h.store.state) :
    SameLedger result.2.store.state h.store.state ∧
      (result.2.store.file = gateway.file ∨ result.2.store.file = result.2.store.state) := by
  rcases hr with ⟨ws, -, rfl⟩ | ⟨fault, ws, -, -, rfl⟩
  · exact ⟨hsame, .inr rfl⟩
  · exact ⟨hsame, .inl rfl⟩

/-- **A call that does not proceed** leaves reservations, groups and counters as
they are, whether it returns or throws. -/
theorem GatewayCall.stays (c : GatewayCall) (hp : ¬ c.Proceeds limits h) :
    SameLedger (c.run limits h).store.state h.store.state ∧
      ((c.run limits h).store.file = h.store.file ∨
        (c.run limits h).store.file = (c.run limits h).store.state) := by
  have hrefl : ∀ file : GatewayState, SameLedger h.store.state h.store.state ∧
      (h.store.file = h.store.file ∨ h.store.file = file) := fun _ => ⟨.refl _, .inl rfl⟩
  cases c with
  | reserve now input =>
    rcases reserve_cases limits now h input with ⟨e, hr⟩ | ⟨r, id, -, -, -, hr⟩ |
      ⟨uuid, supply, hnext, hfind, hrefusal, -⟩
    · rw [run, hr]; exact hrefl _
    · rw [run, hr]; exact hrefl _
    · exact absurd ⟨hfind, hrefusal, by rw [hnext]; simp⟩ hp
  | reserveGroup input =>
    rcases reserveGroup_cases limits h input with ⟨e, hr⟩ | ⟨g, -, hr⟩ |
      ⟨slots, maximumTokens, candidate, hadmits, -⟩
    · rw [run, hr]; exact hrefl _
    · rw [run, hr]; exact hrefl _
    · exact absurd ⟨slots, maximumTokens, candidate, hadmits⟩ hp
  | claimGroupSlot now groupId slotId input =>
    rcases claimGroupSlot_cases limits now h groupId slotId input with ⟨e, hr⟩ |
      ⟨group, index, slot, hg, hf, hfits, ⟨r, hres, hsame, hr⟩ |
        ⟨uuid, supply, hnext, hnone, hin, hout, -⟩⟩
    · rw [run, hr]; exact hrefl _
    · rw [run, hr]; exact hrefl _
    · refine absurd ⟨slot, slotAt_eq hg hf, ⟨hfits, ?_⟩, hnone⟩ hp
      rw [hnone]
      exact ⟨hin, hout, by rw [hnext]; simp⟩
  | releaseGroupSlots now groupId slotIds =>
    rcases releaseGroupSlots_idle hp with ⟨e, hr⟩ | ⟨group, hr⟩
    · rw [run, hr]; exact hrefl _
    · exact hr.sameLedger (.refl _)
  | settle now reservation usage =>
    rcases settle_cases limits now h reservation usage with ⟨e, hr⟩ | ⟨t, -, -, -, hr⟩ |
      ⟨active, hget, hroute, hrefusal, -⟩
    · rw [run, hr]; exact hrefl _
    · rw [run, hr]; exact hrefl _
    · exact absurd ⟨active, ⟨hget, hroute⟩, hrefusal⟩ hp
  | release now reservation =>
    rcases release_cases now h reservation with ⟨e, hr⟩ | ⟨-, -, hr⟩ | ⟨active, hget, hroute, -⟩
    · rw [run, hr]; exact hrefl _
    · rw [run, hr]; exact hrefl _
    · exact absurd ⟨active, hget, hroute⟩ hp
  | acknowledgeTerminal id =>
    rcases acknowledgeTerminal_cases h id with ⟨-, hr⟩ | hr
    · rw [run, hr]; exact hrefl _
    · exact hr.sameLedger ⟨rfl, rfl, rfl⟩

theorem Gateway.Linked.commits {α : Type} {gateway : Gateway} {supply : Supply Uuid} {a : α}
    {result : Except (Fault JsError) α × Machine Gateway} (hl : gateway.Linked supply.drawn)
    (hr : Commits h gateway supply a result) :
    result.2.store.Linked result.2.supply.drawn := by
  rcases hr with ⟨ws, -, rfl⟩ | ⟨fault, ws, -, -, rfl⟩
  · exact hl
  · exact hl

/-- **The step lemma.** Every call keeps the ledger linked, whatever becomes of
its writes. -/
theorem GatewayCall.linked (hl : h.store.Linked h.supply.drawn) (c : GatewayCall) :
    (c.run limits h).store.Linked (c.run limits h).supply.drawn := by
  cases c with
  | reserve now input =>
    rcases reserve_cases limits now h input with ⟨e, hr⟩ | ⟨r, id, -, -, -, hr⟩ |
      ⟨uuid, supply, hnext, -, -, hr⟩
    · rw [run, hr]; exact hl
    · rw [run, hr]; exact hl
    · obtain ⟨hnew, hdrawn⟩ := Supply.next_spec hnext
      exact Gateway.Linked.commits (by rw [hdrawn]; exact hl.granted hnew _) hr
  | reserveGroup input =>
    rcases reserveGroup_cases limits h input with ⟨e, hr⟩ | ⟨g, -, hr⟩ |
      ⟨slots, maximumTokens, candidate, hadmits, hr⟩
    · rw [run, hr]; exact hl
    · rw [run, hr]; exact hl
    · exact Gateway.Linked.commits (hl.entered hadmits) hr
  | claimGroupSlot now groupId slotId input =>
    rcases claimGroupSlot_cases limits now h groupId slotId input with ⟨e, hr⟩ |
      ⟨group, index, slot, hg, hf, hfits, ⟨r, -, -, hr⟩ | ⟨uuid, supply, hnext, hnone, -, -, hr⟩⟩
    · rw [run, hr]; exact hl
    · rw [run, hr]; exact hl
    · obtain ⟨hnew, hdrawn⟩ := Supply.next_spec hnext
      exact Gateway.Linked.commits
        (by rw [hdrawn]; exact hl.claimed hnew hg hf hfits hnone) hr
  | releaseGroupSlots now groupId slotIds =>
    by_cases hp : (GatewayCall.releaseGroupSlots now groupId slotIds).Proceeds limits h
    · obtain ⟨group, hg, hfound, -⟩ := hp
      have hself : h.store.withSlots groupId group ([] ++ group.slots) = h.store := by
        simp only [Gateway.withSlots, List.nil_append]
        rw [Record.set_of_get? hg]
      rw [run, releaseGroupSlots_run now hg hfound]
      rcases releaseSlots_outcome slotIds group.slots [] h hl (by rw [hself]; exact hl) with
        ⟨-, gateway', hrun, hl', -⟩ | ⟨-, fault, gateway', ws, hrun, hl', -⟩
      · rw [bind_run_ok hrun, bind_run, Host.update_run]
        exact Gateway.Linked.commits hl' (persist_commits _ rfl _)
      · rw [bind_run_error hrun]
        exact hl'
    · rcases releaseGroupSlots_idle hp with ⟨e, hr⟩ | ⟨group, hr⟩
      · rw [run, hr]; exact hl
      · exact Gateway.Linked.commits hl hr
  | settle now reservation usage =>
    rcases settle_cases limits now h reservation usage with ⟨e, hr⟩ | ⟨t, -, -, -, hr⟩ |
      ⟨active, hget, -, -, hr⟩
    · rw [run, hr]; exact hl
    · rw [run, hr]; exact hl
    · exact Gateway.Linked.commits (hl.settled hget _) hr
  | release now reservation =>
    rcases release_cases now h reservation with ⟨e, hr⟩ | ⟨-, -, hr⟩ | ⟨active, hget, -, hr⟩
    · rw [run, hr]; exact hl
    · rw [run, hr]; exact hl
    · exact Gateway.Linked.commits (hl.released hget) hr
  | acknowledgeTerminal id =>
    rcases acknowledgeTerminal_cases h id with ⟨-, hr⟩ | hr
    · rw [run, hr]; exact hl
    · exact Gateway.Linked.commits (hl.acknowledged id) hr

end calls

/-! ## Runs -/

theorem GatewayRun.linked {limits : TokenGatewayLimits}
    {permitted : Machine Gateway → GatewayCall → Prop} {h : Machine Gateway}
    (hrun : GatewayRun limits permitted h) : h.store.Linked h.supply.drawn := by
  induction hrun with
  | start writes uuids fresh => exact linked_initial
  | call c before ok ih => exact c.linked ih

/-- A call whose writes succeed where it changes the ledger leaves memory and
file alike. -/
theorem GatewayCall.keepsFile {limits : TokenGatewayLimits} {h : Machine Gateway}
    (hl : h.store.Linked h.supply.drawn) (c : GatewayCall) (hc : WritesWhatItChanges limits h c)
    (hfile : SameLedger h.store.state h.store.file) :
    SameLedger (c.run limits h).store.state (c.run limits h).store.file := by
  by_cases hp : c.Proceeds limits h
  · rcases c.saves hl hp with ⟨-, -, hsaved⟩ | ⟨hfails, -, -⟩
    · rw [hsaved]
      exact .refl _
    · exact absurd (hc hp) hfails
  · obtain ⟨hsame, hkept | hsaved⟩ := c.stays hp
    · rw [hkept]
      exact hsame.trans hfile
    · rw [hsaved]
      exact .refl _

/-- **Atomicity under write failure, exactly.** In every reachable state a call
that throws leaves reservations, groups and counters as they were if and only if
the writes of what it changes succeed. And where every call of a run is of that
kind, the ledger in memory is the one in the file. -/
theorem gateway_calls_atomic_iff (limits : TokenGatewayLimits) :
    (∀ h, GatewayRun limits (fun _ _ => True) h → ∀ c : GatewayCall,
      ((c.Throws limits h → SameLedger (c.run limits h).store.state h.store.state) ↔
        WritesWhatItChanges limits h c)) ∧
    ∀ h, GatewayRun limits (WritesWhatItChanges limits) h →
      SameLedger h.store.state h.store.file := by
  constructor
  · intro h hrun c
    have hl := hrun.linked
    constructor
    · intro hatomic hp
      rcases c.saves hl hp with ⟨hwrites, -, -⟩ | ⟨-, hthrows, hchanged⟩
      · exact hwrites
      · exact absurd (hatomic hthrows) hchanged
    · intro hwrites hthrows
      by_cases hp : c.Proceeds limits h
      · rcases c.saves hl hp with ⟨-, hreturns, -⟩ | ⟨hfails, -, -⟩
        · exact absurd hthrows hreturns
        · exact absurd (hwrites hp) hfails
      · exact (c.stays hp).1
  · intro h hrun
    induction hrun with
    | start writes uuids fresh => exact .refl _
    | call c before ok ih => exact c.keepsFile before.linked ok ih

/-! A gateway whose disk is full: the reservation `reserve` refused to hand out is
held all the same. -/

section sample

def fullDisk : Machine Gateway :=
  ⟨.initial, [.failed (JsError.new "ENOSPC")], .fresh [sampleUuid] (List.nodup_singleton _)⟩

theorem gateway_calls_atomic_iff_sample :
    ((GatewayCall.reserve 0 sampleRequest).Throws defaultTokenGatewayLimits fullDisk →
      SameLedger ((GatewayCall.reserve 0 sampleRequest).run defaultTokenGatewayLimits
        fullDisk).store.state fullDisk.store.state) ↔
    WritesWhatItChanges defaultTokenGatewayLimits fullDisk (.reserve 0 sampleRequest) :=
  (gateway_calls_atomic_iff defaultTokenGatewayLimits).1 fullDisk (.start _ _ _)
    (.reserve 0 sampleRequest)

theorem gateway_calls_atomic_false :
    ¬ ∀ (limits : TokenGatewayLimits) (h : Machine Gateway),
      GatewayRun limits (fun _ _ => True) h → ∀ c : GatewayCall,
        c.Throws limits h → SameLedger (c.run limits h).store.state h.store.state := by
  intro hatomic
  have hthrows : (GatewayCall.reserve 0 sampleRequest).Throws defaultTokenGatewayLimits
      fullDisk := by
    unfold GatewayCall.Throws
    decide
  have hsame := hatomic defaultTokenGatewayLimits fullDisk (.start _ _ _)
    (.reserve 0 sampleRequest) hthrows
  -- the counters are the cheapest to look at
  have hused : ((GatewayCall.reserve 0 sampleRequest).run defaultTokenGatewayLimits
      fullDisk).store.state.used.size = 3 := by decide
  rw [hsame.2.2] at hused
  exact absurd hused (by decide)

end sample

end Autopilot
