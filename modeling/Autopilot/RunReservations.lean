/-
What becomes of the reservations of the runs.

A run that has its own reservation, and no group, knows the gateway's reservation as the gateway has
it, or has it from before it ended. A run that says its reservation is over has it from a gateway
that had ended it by then, once. A run at its end says so, or never had one; and since the gateway
holds one reservation for a handoff at most, and a new one is asked for an approved run without one
only, nothing is held for it any more.

This is about one process and the calls that concern one run; it does not matter which of their
writes succeed.
-/
import Autopilot.HeadOfLine

set_option autoImplicit false

namespace Autopilot

open Prog Keyed RunStore

variable {options : OrchestratorOptions} {careless : Prop}
variable {h h' : Machine (World options)} {run run' : RunRecord}

/-! ## The gateway under the calls for one run -/

section gateway

variable {limits : TokenGatewayLimits}

/-- What a call does to the active reservations and to the list of those that ended. -/
inductive Metered (c : GatewayCall) (g g' : Gateway) : Prop
  | kept (hreservations : g'.state.reservations = g.state.reservations)
      (hhistory : g'.history = g.history)
  | granted (now : ℕ) (input : TokenReservationRequest) (r : TokenReservation)
      (hcall : c = .reserve now input) (hhandoff : r.handoffId = input.handoffId.map keptHandoffId)
      (hnew : g.state.reservations.get? r.reservationId = none)
      (hreservations : g'.state.reservations = g.state.reservations.set r.reservationId r)
      (hhistory : g'.history = g.history)
  | ended (id : JsString) (x : Retirement)
      (hget : g.state.reservations.get? id = some x.reservation)
      (hwithin : x.event = .settled →
        x.settlement.inputTokens + x.settlement.outputTokens ≤ x.reservation.totalTokens)
      (hreservations : g'.state.reservations = g.state.reservations.erase id)
      (hhistory : g'.history = g.history ++ [x])

theorem Metered.of_commits {α : Type} {c : GatewayCall} {g : Machine Gateway} {gateway : Gateway}
    {supply : Supply Uuid} {a : α} {result : Except (Fault JsError) α × Machine Gateway}
    (hm : Metered c g.store gateway) (hc : Commits g gateway supply a result) :
    Metered c g.store result.2.store := by
  rcases hc with ⟨ws, -, rfl⟩ | ⟨fault, ws, -, -, rfl⟩
  · cases hm with
    | kept hreservations hhistory => exact .kept hreservations hhistory
    | granted now input r hcall hhandoff hnew hreservations hhistory =>
      exact .granted now input r hcall hhandoff hnew hreservations hhistory
    | ended id x hget hwithin hreservations hhistory =>
      exact .ended id x hget hwithin hreservations hhistory
  · cases hm with
    | kept hreservations hhistory => exact .kept hreservations hhistory
    | granted now input r hcall hhandoff hnew hreservations hhistory =>
      exact .granted now input r hcall hhandoff hnew hreservations hhistory
    | ended id x hget hwithin hreservations hhistory =>
      exact .ended id x hget hwithin hreservations hhistory

theorem Metered.history_sub {c : GatewayCall} {g g' : Gateway} (hm : Metered c g g') :
    ∀ x ∈ g.history, x ∈ g'.history := by
  intro x hx
  cases hm with
  | kept _ hhistory => exact hhistory ▸ hx
  | granted _ _ _ _ _ _ _ hhistory => exact hhistory ▸ hx
  | ended _ _ _ _ _ hhistory =>
    rw [hhistory]
    exact List.mem_append_left _ hx

/-- **What a call for one run does**, one case per operation. -/
theorem GatewayCall.metered {g : Machine Gateway} (hl : g.store.Linked g.supply.drawn)
    (c : GatewayCall) (hcalled : c.Called h) : Metered c g.store (c.run limits g).store := by
  cases c with
  | reserve now input =>
    rcases reserve_cases limits now g input with ⟨e, hr⟩ | ⟨r, id, -, -, -, hr⟩ |
      ⟨uuid, supply, hnext, -, -, hr⟩
    · rw [run, hr]
      exact .kept rfl rfl
    · rw [run, hr]
      exact .kept rfl rfl
    · obtain ⟨hfresh, -⟩ := Supply.next_spec hnext
      rw [run]
      refine Metered.of_commits (.granted now input
        (newReservation now (normalizeRequest input) uuid) rfl rfl (hl.fresh hfresh) ?_ ?_) hr
      · rw [Gateway.grant, addUsage_reservations]
      · rw [Gateway.grant, addUsage_history]
  | settle now reservation usage =>
    rcases settle_cases limits now g reservation usage with ⟨e, hr⟩ | ⟨t, -, -, -, hr⟩ |
      ⟨active, hget, -, hrefusal, hr⟩
    · rw [run, hr]
      exact .kept rfl rfl
    · rw [run, hr]
      exact .kept rfl rfl
    · rw [run]
      exact Metered.of_commits (.ended _ ⟨active, .settled, usage.settlement⟩ hget
        (fun _ => settleRefusal_total hrefusal) (settled_reservations ..) rfl) hr
  | release now reservation =>
    rcases release_cases now g reservation with ⟨e, hr⟩ | ⟨-, -, hr⟩ | ⟨active, hget, -, hr⟩
    · rw [run, hr]
      exact .kept rfl rfl
    · rw [run, hr]
      exact .kept rfl rfl
    · rw [run]
      exact Metered.of_commits (.ended _ ⟨active, .released, ⟨0, 0, true⟩⟩ hget
        (fun h => by cases h) (released_reservations ..) rfl) hr
  | acknowledgeTerminal id =>
    rcases acknowledgeTerminal_cases g id with ⟨-, hr⟩ | hr
    · rw [run, hr]
      exact .kept rfl rfl
    · have hm : Metered (.acknowledgeTerminal id) g.store { g.store with
          state := { g.store.state with terminal := g.store.state.terminal.erase id } } :=
        .kept rfl rfl
      rw [run]
      exact hm.of_commits hr
  | reserveGroup => exact hcalled.elim
  | claimGroupSlot => exact hcalled.elim
  | releaseGroupSlots => exact hcalled.elim

end gateway

/-! ## What the record of a run says of its reservation -/

/-- What ties one run to the gateway. -/
structure RunAccounted (g : Gateway) (run : RunRecord) : Prop where
  draft : run.status = .draft → run.tokenReservation = none
  terminal : run.status.terminal = true → run.reservationStatus ≠ .active
  known : ∀ r, run.tokenReservation = some r →
    g.state.reservations.get? r.reservationId = some r ∨ ∃ x ∈ g.history, x.reservation = r
  ended : ∀ r, run.tokenReservation = some r → run.reservationStatus ≠ .active →
    g.state.reservations.get? r.reservationId = none ∧ ∃ x ∈ g.history, x.reservation = r
  settled : ∀ r s, run.tokenReservation = some r → run.tokenSettlement = some s →
    s.totalTokens ≤ r.totalTokens
  only : ∀ r, run.tokenReservation = some r → ∀ id r', g.state.reservations.get? id = some r' →
    r'.handoffId = some (keptHandoffId (handoffIdFor run)) → id = r.reservationId
  unheld : run.status.terminal = true → run.tokenReservation = none →
    g.unheld (keptHandoffId (handoffIdFor run))

variable {g g' : Gateway}

/-- A record that says the same of its reservation. -/
theorem RunAccounted.of_same (ha : RunAccounted g run) (hcurrent : run'.current = run.current)
    (hreservation : run'.tokenReservation = run.tokenReservation)
    (hstatus : run'.reservationStatus = run.reservationStatus)
    (hsettlement : run'.tokenSettlement = run.tokenSettlement)
    (hdraft : run'.status = .draft → run.status = .draft)
    (hterminal : run'.status.terminal = true → run.status.terminal = true) :
    RunAccounted g run' := by
  have hhandoff : handoffIdFor run' = handoffIdFor run := by
    unfold handoffIdFor RunRecord.runId
    rw [hcurrent]
  refine ⟨fun hd => ?_, fun ht => ?_, fun r hr => ?_, fun r hr hs => ?_, fun r s hr hs => ?_,
    fun r hr => ?_, fun ht hr => ?_⟩
  · rw [hreservation]
    exact ha.draft (hdraft hd)
  · rw [hstatus]
    exact ha.terminal (hterminal ht)
  · exact ha.known r (hreservation ▸ hr)
  · exact ha.ended r (hreservation ▸ hr) (hstatus ▸ hs)
  · exact ha.settled r s (hreservation ▸ hr) (hsettlement ▸ hs)
  · rw [hhandoff]
    exact ha.only r (hreservation ▸ hr)
  · rw [hhandoff]
    exact ha.unheld (hterminal ht) (hreservation ▸ hr)

/-- A run without a reservation that is no run at its end. -/
theorem RunAccounted.of_none (hnone : run.tokenReservation = none)
    (hopen : run.status.terminal = false) : RunAccounted g run := by
  refine ⟨fun _ => hnone, fun ht => ?_, fun r hr => ?_, fun r hr => ?_, fun r s hr => ?_,
    fun r hr => ?_, fun ht => ?_⟩
  · exact absurd (hopen.symm.trans ht) Bool.false_ne_true
  · cases hnone.symm.trans hr
  · cases hnone.symm.trans hr
  · cases hnone.symm.trans hr
  · cases hnone.symm.trans hr
  · exact absurd (hopen.symm.trans ht) Bool.false_ne_true

/-- A run whose reservation is over at the gateway. -/
theorem RunAccounted.of_ended (ha : RunAccounted g run) {r : TokenReservation}
    (hheld : run.tokenReservation = some r)
    (hover : g.state.reservations.get? r.reservationId = none)
    (hcurrent : run'.current = run.current) (hstatus : run'.status = run.status)
    (hreservation : run'.tokenReservation = run.tokenReservation)
    (hended : run'.reservationStatus ≠ .active)
    (hsettled : ∀ s, run'.tokenSettlement = some s → s.totalTokens ≤ r.totalTokens) :
    RunAccounted g run' := by
  have hhandoff : handoffIdFor run' = handoffIdFor run := by
    unfold handoffIdFor RunRecord.runId
    rw [hcurrent]
  have hhistory : ∃ x ∈ g.history, x.reservation = r := by
    rcases ha.known r hheld with hget | hhistory
    · cases hover.symm.trans hget
    · exact hhistory
  have hone : ∀ r', run'.tokenReservation = some r' → r' = r := fun r' hr' =>
    Option.some.inj ((hreservation ▸ hr').symm.trans hheld)
  refine ⟨fun hd => ?_, fun _ => hended, fun r' hr' => ?_, fun r' hr' _ => ?_,
    fun r' s hr' hs => ?_, fun r' hr' => ?_, fun _ hr' => ?_⟩
  · rw [hreservation]
    exact ha.draft (hstatus ▸ hd)
  · rw [hone r' hr']
    exact .inr hhistory
  · rw [hone r' hr']
    exact ⟨hover, hhistory⟩
  · rw [hone r' hr']
    exact hsettled s hs
  · rw [hone r' hr', hhandoff]
    exact ha.only r hheld
  · rw [hreservation, hheld] at hr'
    cases hr'

/-- A run that comes to its end. -/
theorem RunAccounted.of_closed (ha : RunAccounted g run) {status : RunStatus}
    (hclosed : status.terminal = true) (hended : run.reservationStatus ≠ .active)
    (hunheld : run.tokenReservation = none → g.unheld (keptHandoffId (handoffIdFor run)))
    {reason : Option JsString} {now : ℕ} :
    RunAccounted g { run with status := status, terminalReason := reason, updatedAt := now } := by
  refine ⟨fun hd => ?_, fun _ => hended, ha.known, ha.ended, ha.settled, ha.only, fun _ => hunheld⟩
  rw [show status = .draft from hd] at hclosed
  cases hclosed

/-- **The step lemma** for one run. -/
theorem RunChange.accounted (hl : h.store.gateway.Linked h.supply.drawn)
    (hwithin : ∀ x ∈ h.store.gateway.history, x.event = .settled →
      x.settlement.inputTokens + x.settlement.outputTokens ≤ x.reservation.totalTokens)
    (ht : run.Tidy) (hc : RunChange False careless h run run')
    (ha : RunAccounted h.store.gateway run) : RunAccounted h.store.gateway run' := by
  cases hc with
  | revised input now hdraft =>
    refine .of_none (ha.draft hdraft) ?_
    rw [show (revisedRun run _ now).status = run.status from rfl, hdraft]
    rfl
  | approved operator now hdraft => exact .of_none (ha.draft hdraft) rfl
  | groupBound hfull => exact hfull.elim
  | unbound now happroved =>
    refine .of_none rfl ?_
    rw [show (unboundRun run now).status = run.status from rfl, happroved]
    rfl
  | queued => exact ha.of_same rfl rfl rfl rfl nofun nofun
  | started => exact ha.of_same rfl rfl rfl rfl nofun nofun
  | settled r inputTokens outputTokens now hactive hheld hgateway =>
    obtain ⟨hover, hsettled⟩ := hgateway id
    refine ha.of_ended hheld hover rfl rfl rfl nofun fun s hs => ?_
    obtain rfl := Option.some.inj hs
    -- the entry of the gateway is the one of this reservation
    obtain ⟨x, hx, hid, hevent, hinput, houtput⟩ : ∃ x ∈ h.store.gateway.history,
        x.reservation.reservationId = r.reservationId ∧ x.event = .settled ∧
          x.settlement.inputTokens = inputTokens ∧ x.settlement.outputTokens = outputTokens := by
      rcases hsettled with ⟨t, hget, hevent, hinput, houtput⟩ | hhistory
      · obtain ⟨x, hx, hid, hsame, hsettlement⟩ := hl.terminal_history hget
        exact ⟨x, hx, hid, hsame.trans hevent, hsettlement ▸ hinput, hsettlement ▸ houtput⟩
      · exact hhistory
    rcases ha.known r hheld with hget | ⟨y, hy, hr⟩
    · cases hover.symm.trans hget
    · have hxy : x = y :=
        List.inj_on_of_nodup_map hl.history_nodup hx hy (hid.trans (by rw [hr]))
      have hle := hwithin x hx hevent
      rw [hinput, houtput, hxy, hr] at hle
      exact hle
  | released r now hactive hheld hgateway =>
    exact ha.of_ended hheld (hgateway id).1 rfl rfl rfl nofun fun s hs => ha.settled r s hheld hs
  | finalized status reason now hopen hend hended =>
    refine ha.of_closed ?_ hended fun hnone => ?_
    · rcases hend with rfl | rfl <;> rfl
    · exact absurd hnone (ht.held hopen.symm)
  | cancelled now hopen hended horphan =>
    have hclosed : RunStatus.cancelled.terminal = true := rfl
    exact ha.of_closed hclosed hended (horphan id)
  | flagged => exact ha.of_same rfl rfl rfl rfl id id
  | noted _ hcore =>
    have hsame := sameCourse_of_core hcore
    have hstatus := hsame.status
    refine ha.of_same hsame.current hsame.tokenReservation (congrArg (·.reservationStatus) hcore)
      (congrArg (·.tokenSettlement) hcore) ?_ ?_
    · rw [hstatus]
      exact id
    · rw [hstatus]
      exact id

/-- A call of the gateway keeps what a run says, if it asks for no reservation of its own. -/
theorem RunAccounted.of_metered {c : GatewayCall} {drawn : List Uuid} (ha : RunAccounted g run)
    (hm : Metered c g g') (hl : g'.Linked drawn)
    (hother : ∀ now input, c = .reserve now input →
      run.tokenReservation ≠ none ∨ run.status.terminal = true →
        input.handoffId.map keptHandoffId ≠ some (keptHandoffId (handoffIdFor run))) :
    RunAccounted g' run := by
  have hold : ∀ id r, g.state.reservations.get? id = some r →
      g'.state.reservations.get? id = some r ∨ ∃ x ∈ g'.history, x.reservation = r := by
    intro id r hget
    cases hm with
    | kept hreservations => exact .inl (hreservations ▸ hget)
    | granted now input new hcall hhandoff hnew hreservations =>
      left
      have hne : id ≠ new.reservationId := by
        rintro rfl
        cases hnew.symm.trans hget
      rw [hreservations, Record.get?_set_of_ne _ hne _]
      exact hget
    | ended id' x hget' hwithin hreservations hhistory =>
      by_cases hid : id = id'
      · subst hid
        refine .inr ⟨x, ?_, Option.some.inj (hget'.symm.trans hget)⟩
        rw [hhistory]
        exact List.mem_append_right _ (List.mem_singleton_self x)
      · left
        rw [hreservations, Record.get?_erase_of_ne _ hid]
        exact hget
  have hhistory := hm.history_sub
  have hnew : run.tokenReservation ≠ none ∨ run.status.terminal = true → ∀ id r,
      g'.state.reservations.get? id = some r →
      r.handoffId = some (keptHandoffId (handoffIdFor run)) →
      g.state.reservations.get? id = some r := by
    intro hwhen id r hget hsame
    cases hm with
    | kept hreservations => exact hreservations ▸ hget
    | granted now input new hcall hhandoff hfresh hreservations =>
      rw [hreservations] at hget
      rcases Record.get?_set_cases hget with ⟨-, rfl⟩ | hget
      · exact absurd (hhandoff.symm.trans hsame) (hother now input hcall hwhen)
      · exact hget
    | ended _ _ _ _ hreservations =>
      rw [hreservations] at hget
      exact get?_of_erase hget
  refine ⟨ha.draft, ha.terminal, fun r hr => ?_, fun r hr hs => ?_, ha.settled,
    fun r hr id r' hget hsame => ?_, fun hterminal hnone id r' hget hsame => ?_⟩
  · rcases ha.known r hr with hget | ⟨x, hx, hxr⟩
    · exact hold _ r hget
    · exact .inr ⟨x, hhistory x hx, hxr⟩
  · obtain ⟨x, hx, hxr⟩ := (ha.ended r hr hs).2
    have hover := hl.history_inactive x (hhistory x hx)
    rw [hxr] at hover
    exact ⟨hover, x, hhistory x hx, hxr⟩
  · refine ha.only r hr id r' (hnew (.inl ?_) id r' hget hsame) hsame
    rw [hr]
    exact Option.some_ne_none r
  · exact ha.unheld hterminal hnone id r' (hnew (.inr hterminal) id r' hget hsame) hsame

/-! ## Every step -/

/-- What ties the runs to the gateway. -/
structure AllAccounted (h : Machine (World options)) : Prop where
  within : ∀ x ∈ h.store.gateway.history, x.event = .settled →
    x.settlement.inputTokens + x.settlement.outputTokens ≤ x.reservation.totalTokens
  runs : ∀ run ∈ h.store.runs.runs, RunAccounted h.store.gateway run

theorem accounted_initial (writes : List (WriteOutcome JsError)) (uuids : List Uuid)
    (fresh : uuids.Nodup) :
    AllAccounted (⟨.initial options, writes, .fresh uuids fresh⟩ : Machine (World options)) := by
  refine ⟨fun x hx => ?_, fun run hrun => ?_⟩
  · exact absurd hx List.not_mem_nil
  · exact absurd hrun List.not_mem_nil

theorem AllAccounted.of_gateway (ha : AllAccounted h) (hgateway : h'.store.gateway = h.store.gateway)
    (hruns : ∀ run ∈ h'.store.runs.runs, RunAccounted h.store.gateway run) : AllAccounted h' := by
  refine ⟨?_, ?_⟩
  · rw [hgateway]
    exact ha.within
  · rw [hgateway]
    exact hruns

theorem AllAccounted.of_others (ha : AllAccounted h) (hruns : h'.store.runs = h.store.runs)
    (hgateway : h'.store.gateway = h.store.gateway) : AllAccounted h' := by
  refine ha.of_gateway hgateway ?_
  rw [hruns]
  exact ha.runs

theorem AllAccounted.of_put (ha : AllAccounted h) (hrun : RunAccounted h.store.gateway run')
    (hruns : h'.store.runs.runs = h.store.runs.runs.map (put RunRecord.runId run'))
    (hframe : OnRuns h h') : AllAccounted h' := by
  refine ha.of_gateway hframe.gateway fun other hother => ?_
  rw [hruns] at hother
  rcases mem_put hother with rfl | ⟨hmem, -⟩
  · exact hrun
  · exact ha.runs other hmem

theorem metered_of_run (ht : Tidy False h) {c : GatewayCall} (hcalled : c.Called h)
    (hrun : c.run options.limits (gatewayOf h) = gatewayOf h') :
    Metered c h.store.gateway h'.store.gateway := by
  have hl : (gatewayOf h).store.Linked (gatewayOf h).supply.drawn := ht.linked id
  have hm : Metered c (gatewayOf h).store (c.run options.limits (gatewayOf h)).store :=
    c.metered hl hcalled
  rwa [hrun] at hm

/-- Two runs whose handoffs the gateway keeps under one identifier are one run. -/
theorem runId_of_keptHandoffId (ht : Tidy False h) (hrun : run ∈ h.store.runs.runs)
    (hrun' : run' ∈ h.store.runs.runs)
    (hsame : keptHandoffId (handoffIdFor run') = keptHandoffId (handoffIdFor run)) :
    run'.runId = run.runId := by
  obtain ⟨uuid, hid⟩ := ht.named id run hrun
  obtain ⟨uuid', hid'⟩ := ht.named id run' hrun'
  rw [keptHandoffId_eq (h.store.runs.record_valid hrun) hid,
    keptHandoffId_eq (h.store.runs.record_valid hrun') hid'] at hsame
  unfold handoffIdFor at hsame
  rw [List.append_assoc, List.append_assoc, List.append_assoc, List.append_assoc] at hsame
  have hlength : run'.runId.length = run.runId.length := by
    rw [hid, hid', uuid.length_text, uuid'.length_text]
  exact (List.append_inj (List.append_cancel_left hsame) hlength).1

/-- **The step lemma.** -/
theorem Step.accounted (hs : Step False careless h h') (ht : Tidy False h) (ha : AllAccounted h) :
    AllAccounted h' := by
  have ht' := hs.tidy ht
  obtain ⟨-, hchange⟩ := hs
  cases hchange with
  | kept hstore =>
    exact ha.of_others (congrArg World.runs hstore) (congrArg World.gateway hstore)
  | created input now uuid hnext hinput hruns hframe =>
    refine ha.of_gateway hframe.gateway fun run hrun => ?_
    rw [hruns, List.mem_append, List.mem_singleton] at hrun
    rcases hrun with hrun | rfl
    · exact ha.runs run hrun
    · exact .of_none rfl rfl
  | groupCreated hfull => exact hfull.elim
  | changed run run' hknows hchange hruns hframe =>
    have hmem := hknows.mem
    exact ha.of_put (hchange.accounted (ht.linked id) ha.within (ht.runs run hmem)
      (ha.runs run hmem)) hruns hframe
  | bound run uuid r now hnext hknows happroved hfree hholds hruns hframe =>
    obtain ⟨⟨id, hget⟩, hhandoff⟩ := hholds not_false
    have hrun := ha.runs run hknows.mem
    obtain rfl := (ht.linked not_false).id_eq hget
    refine ha.of_put ⟨fun hd => ?_, fun hterminal => ?_, fun r' hr' => ?_, fun r' _ hs => ?_,
      fun r' s hr' hs => ?_, fun r' hr' id r'' hget'' hsame => ?_, fun _ hnone => ?_⟩ hruns hframe
    · cases happroved.symm.trans hd
    · rw [show (boundRun run (runTaskId uuid.text) r now).status = run.status from rfl,
        happroved] at hterminal
      cases hterminal
    · obtain rfl := Option.some.inj hr'
      exact .inl hget
    · exact absurd rfl hs
    · -- a valid record that is active has no settlement
      have hmem : boundRun run (runTaskId uuid.text) r now ∈ h'.store.runs.runs := by
        rw [hruns]
        exact List.mem_map.2 ⟨run, hknows.mem, if_pos rfl⟩
      rcases RunRecord.settlement_settled (h'.store.runs.record_valid hmem) with hnone | hsettled
      · cases hnone.symm.trans hs
      · cases hsettled
    · obtain rfl := Option.some.inj hr'
      exact ht.single not_false id _ r'' _ hget'' hget (hsame.trans hhandoff.symm)
        (by rw [hsame]; exact Option.some_ne_none _)
    · cases hnone
  | asked _ _ _ _ _ _ _ hframe => exact ha.of_others hframe.runs hframe.gateway
  | decided _ hframe => exact ha.of_others hframe.runs hframe.gateway
  | entered _ _ _ _ _ _ _ hframe => exact ha.of_others hframe.runs hframe.gateway
  | moved _ _ hframe => exact ha.of_others hframe.runs hframe.gateway
  | metered c hcalled hrun hframe =>
    have hm := metered_of_run ht (hcalled not_false) hrun
    refine ⟨fun x hx => ?_, fun run hmem => ?_⟩
    · cases hm with
      | kept _ hhistory => exact ha.within x (hhistory ▸ hx)
      | granted _ _ _ _ _ _ _ hhistory => exact ha.within x (hhistory ▸ hx)
      | ended _ y _ hwithin _ hhistory =>
        rw [hhistory, List.mem_append, List.mem_singleton] at hx
        rcases hx with hx | rfl
        · exact ha.within x hx
        · exact hwithin
    · rw [hframe.runs] at hmem
      refine (ha.runs run hmem).of_metered hm (ht'.linked id) fun now input hcall hwhen hsame => ?_
      obtain ⟨asking, hknows, happroved, hfree, hinput⟩ : ∃ asking, Knows h asking ∧
          asking.status = .approved ∧
          (asking.tokenReservation = none ∨ asking.supervisorTaskId = none) ∧
          input.handoffId = some (handoffIdFor asking) := by
        subst hcall
        exact hcalled not_false
      rw [hinput] at hsame
      have hid := runId_of_keptHandoffId ht hmem hknows.mem (Option.some.inj hsame)
      have hone : asking = run := (knows_of_mem hmem).unique hknows hid
      subst hone
      -- the run that asks is approved and has none
      rcases hwhen with hheld | hterminal
      · rcases hfree with hnone | hnone
        · exact hheld hnone
        · exact hheld ((ht.runs asking hmem).paired.2 hnone)
      · rw [happroved] at hterminal
        cases hterminal
  | reloaded hfull => exact hfull.elim

/-! ## A reservation from when a run holds it -/

variable {runId : JsString} {r : TokenReservation}

/-- The run holds the reservation, or the reservation has ended at the gateway. -/
def Tracked (runId : JsString) (r : TokenReservation) (h : Machine (World options)) : Prop :=
  ∃ run ∈ h.store.runs.runs, run.runId = runId ∧
    (run.tokenReservation = some r ∨ ∃ x ∈ h.store.gateway.history, x.reservation = r)

theorem Tracked.of_sub (ht : Tracked runId r h)
    (hruns : ∀ run ∈ h.store.runs.runs, run ∈ h'.store.runs.runs)
    (hhistory : ∀ x ∈ h.store.gateway.history, x ∈ h'.store.gateway.history) :
    Tracked runId r h' := by
  obtain ⟨run, hmem, hid, hwhere⟩ := ht
  refine ⟨run, hruns run hmem, hid, hwhere.imp_right ?_⟩
  rintro ⟨x, hx, hxr⟩
  exact ⟨x, hhistory x hx, hxr⟩

theorem Tracked.of_others (ht : Tracked runId r h) (hruns : h'.store.runs = h.store.runs)
    (hgateway : h'.store.gateway = h.store.gateway) : Tracked runId r h' := by
  refine ht.of_sub ?_ ?_
  · rw [hruns]
    exact fun _ => id
  · rw [hgateway]
    exact fun _ => id

/-- A run gives its reservation up only when the gateway has ended it. -/
theorem Tracked.of_put (ht : Tracked runId r h) (hknows : Knows h run)
    (hid : run'.runId = run.runId)
    (hkeeps : run.tokenReservation = some r →
      run'.tokenReservation = some r ∨ ∃ x ∈ h.store.gateway.history, x.reservation = r)
    (hruns : h'.store.runs.runs = h.store.runs.runs.map (put RunRecord.runId run'))
    (hgateway : h'.store.gateway = h.store.gateway) : Tracked runId r h' := by
  obtain ⟨other, hmem, hother, hwhere⟩ := ht
  unfold Tracked
  rw [hruns, hgateway]
  by_cases hsame : other.runId = run'.runId
  · obtain rfl : other = run := hknows.unique (knows_of_mem hmem) (hsame.trans hid)
    refine ⟨run', List.mem_map.2 ⟨other, hmem, if_pos hsame⟩, hid.trans hother, ?_⟩
    rcases hwhere with hheld | hended
    · exact hkeeps hheld
    · exact .inr hended
  · exact ⟨other, List.mem_map.2 ⟨other, hmem, if_neg hsame⟩, hother, hwhere⟩

theorem RunChange.keeps_reservation (hc : RunChange False careless h run run')
    (ha : RunAccounted h.store.gateway run) (hheld : run.tokenReservation = some r) :
    run'.tokenReservation = some r ∨ ∃ x ∈ h.store.gateway.history, x.reservation = r := by
  cases hc with
  | revised input now hdraft => cases (ha.draft hdraft).symm.trans hheld
  | groupBound hfull => exact hfull.elim
  | unbound now happroved hended => exact .inr (ha.ended r hheld hended).2
  | noted _ hcore => exact .inl ((sameCourse_of_core hcore).tokenReservation.trans hheld)
  | _ => exact .inl hheld

/-- **The step lemma.** -/
theorem Step.tracked (hs : Step False careless h h') (ht : Tidy False h) (ha : AllAccounted h)
    (hr : Tracked runId r h) : Tracked runId r h' := by
  obtain ⟨-, hchange⟩ := hs
  cases hchange with
  | kept hstore =>
    exact hr.of_others (congrArg World.runs hstore) (congrArg World.gateway hstore)
  | created input now uuid hnext hinput hruns hframe =>
    refine hr.of_sub ?_ ?_
    · rw [hruns]
      exact fun _ => List.mem_append_left _
    · rw [hframe.gateway]
      exact fun _ => id
  | groupCreated hfull => exact hfull.elim
  | changed run run' hknows hchange hruns hframe =>
    have hkeeps := hchange.keeps_reservation (r := r) (ha.runs run hknows.mem)
    exact hr.of_put hknows hchange.runId hkeeps hruns hframe.gateway
  | bound run uuid new now hnext hknows happroved hfree hholds hruns hframe =>
    have hid : (boundRun run (runTaskId uuid.text) new now).runId = run.runId := rfl
    refine hr.of_put hknows hid (fun hheld => ?_) hruns hframe.gateway
    cases ((ht.runs run hknows.mem).paired.2 hfree).symm.trans hheld
  | asked _ _ _ _ _ _ _ hframe => exact hr.of_others hframe.runs hframe.gateway
  | decided _ hframe => exact hr.of_others hframe.runs hframe.gateway
  | entered _ _ _ _ _ _ _ hframe => exact hr.of_others hframe.runs hframe.gateway
  | moved _ _ hframe => exact hr.of_others hframe.runs hframe.gateway
  | metered c hcalled hrun hframe =>
    refine hr.of_sub ?_ (metered_of_run ht (hcalled not_false) hrun).history_sub
    rw [hframe.runs]
    exact fun _ => id
  | reloaded hfull => exact hfull.elim

/-! ## Every run of the control plane -/

theorem ControlRun.accounted (hr : ControlRun (fun _ c => ControlCall.Single c) h) :
    Tidy False h ∧ AllAccounted h := by
  have hstep : ∀ h h' : Machine (World options), Tidy False h → AllAccounted h →
      Step False True h h' → AllAccounted h' := fun _ _ ht ha hs => hs.accounted ht ha
  exact ControlRun.invariant (fun _ _ => .inr) (fun _ _ _ => .inl trivial) accounted_initial
    hstep hr

/-- The stores some calls later. -/
def Later (h h' : Machine (World options)) : Prop :=
  Relation.ReflTransGen (fun a b => ∃ c : ControlCall, c.Single ∧ b = c.run a) h h'

theorem Later.reached (hl : Later h h') (hr : ControlRun (fun _ c => ControlCall.Single c) h) :
    ControlRun (fun _ c => ControlCall.Single c) h' := by
  induction hl with
  | refl => exact hr
  | tail _ hcall ih =>
    obtain ⟨c, hsingle, rfl⟩ := hcall
    exact .call c ih hsingle

theorem Later.tracked (hl : Later h h') (hr : ControlRun (fun _ c => ControlCall.Single c) h)
    (ht : Tracked runId r h) : Tracked runId r h' := by
  induction hl with
  | refl => exact ht
  | tail hbefore hcall ih =>
    obtain ⟨c, hsingle, rfl⟩ := hcall
    obtain ⟨htidy, ha⟩ := (Later.reached hbefore hr).accounted
    have hstep : ∀ h h' : Machine (World options), Tidy False h →
        AllAccounted h ∧ Tracked runId r h → Step False True h h' →
        AllAccounted h' ∧ Tracked runId r h' := fun _ _ htidy hP hs =>
      ⟨hs.accounted htidy hP.1, hs.tracked htidy hP.1 hP.2⟩
    exact (c.invariant hstep (.inr hsingle) (.inl trivial) htidy ⟨ha, ih⟩).2.2

/-- How often the gateway settled or released a reservation. -/
def Gateway.terminalEvents (g : Gateway) (id : JsString) : ℕ :=
  g.history.countP (fun x => x.reservation.reservationId = id)

theorem terminalEvents_le_one {drawn : List Uuid} (hl : g.Linked drawn) (id : JsString) :
    g.terminalEvents id ≤ 1 := by
  unfold Gateway.terminalEvents
  have hcount := List.nodup_iff_count_le_one.1 hl.history_nodup id
  rw [List.count_eq_countP, List.countP_map] at hcount
  refine le_of_eq_of_le (List.countP_congr fun x _ => ?_) hcount
  simp

theorem terminalEvents_eq_one {drawn : List Uuid} (hl : g.Linked drawn)
    (hended : ∃ x ∈ g.history, x.reservation = r) : g.terminalEvents r.reservationId = 1 := by
  obtain ⟨x, hx, rfl⟩ := hended
  refine le_antisymm (terminalEvents_le_one hl _) (List.countP_pos_iff.2 ⟨x, hx, ?_⟩)
  exact decide_eq_true rfl

/-- A run at its end has nothing at the gateway any more. -/
theorem RunAccounted.unheld_of_terminal (ha : RunAccounted g run)
    (hterminal : run.status.terminal = true) :
    g.unheld (keptHandoffId (handoffIdFor run)) := by
  cases hheld : run.tokenReservation with
  | none => exact ha.unheld hterminal hheld
  | some r =>
    intro id r' hget hsame
    obtain rfl := ha.only r hheld id r' hget hsame
    cases (ha.ended r hheld (ha.terminal hterminal)).1.symm.trans hget

/-- **Reservations are accounted for.** A run that is completed, failed or cancelled holds nothing: its
record says so, and the gateway has no active reservation for its handoff. What was settled is within
what was reserved. And from the moment a run holds a reservation on, the gateway settles or releases
it at most once, and it has done so once when the run is at its end or has given the reservation up. -/
theorem reservations_accounted (hr : ControlRun (fun _ c => ControlCall.Single c) h) :
    (∀ run ∈ h.store.runs.runs, run.status.terminal = true →
        run.reservationStatus ≠ .active ∧
          h.store.gateway.unheld (keptHandoffId (handoffIdFor run))) ∧
      (∀ run ∈ h.store.runs.runs, ∀ r s, run.tokenReservation = some r →
        run.tokenSettlement = some s → s.totalTokens ≤ r.totalTokens) ∧
      ∀ run ∈ h.store.runs.runs, ∀ r, run.tokenReservation = some r → ∀ h', Later h h' →
        h'.store.gateway.terminalEvents r.reservationId ≤ 1 ∧
          ∃ run' ∈ h'.store.runs.runs, run'.runId = run.runId ∧
            (run'.status.terminal = true ∨ run'.tokenReservation ≠ some r →
              h'.store.gateway.terminalEvents r.reservationId = 1 ∧
                h'.store.gateway.state.reservations.get? r.reservationId = none) := by
  obtain ⟨-, ha⟩ := hr.accounted
  refine ⟨fun run hrun hterminal => ?_, fun run hrun => (ha.runs run hrun).settled,
    fun run hrun r hheld h' hlater => ?_⟩
  · exact ⟨(ha.runs run hrun).terminal hterminal,
      (ha.runs run hrun).unheld_of_terminal hterminal⟩
  · obtain ⟨ht', ha'⟩ := (hlater.reached hr).accounted
    have hlinked := ht'.linked not_false
    refine ⟨terminalEvents_le_one hlinked _, ?_⟩
    obtain ⟨run', hrun', hid, hwhere⟩ := hlater.tracked hr ⟨run, hrun, rfl, .inl hheld⟩
    refine ⟨run', hrun', hid, fun hdone => ?_⟩
    have hended : ∃ x ∈ h'.store.gateway.history, x.reservation = r := by
      rcases hwhere with hheld' | hended
      · rcases hdone with hterminal | hgiven
        · have hrun := ha'.runs run' hrun'
          exact (hrun.ended r hheld' (hrun.terminal hterminal)).2
        · exact absurd hheld' hgiven
      · exact hended
    refine ⟨terminalEvents_eq_one hlinked hended, ?_⟩
    obtain ⟨x, hx, rfl⟩ := hended
    exact hlinked.history_inactive x hx

/-! A run that is queued, and cancelled then. -/

section sample

theorem reservations_accounted_sample : ∃ run ∈ sampleQueued.store.runs.runs, ∃ r,
    run.tokenReservation = some r ∧ ∃ run' ∈ sampleDropped.store.runs.runs,
      run'.runId = run.runId ∧ run'.status = .cancelled ∧
        sampleDropped.store.gateway.terminalEvents r.reservationId = 1 ∧
        sampleDropped.store.gateway.state.reservations.get? r.reservationId = none := by
  have hqueued : ControlRun (fun _ c => ControlCall.Single c) sampleQueued :=
    .call _ (.call _ (.start [] _ _) trivial) trivial
  have hlater : Later sampleQueued sampleDropped :=
    .single ⟨.cancel sampleEnvironment sampleUuid.text, trivial, rfl⟩
  have hheld : sampleQueued.store.runs.runs.any (·.tokenReservation.isSome) = true := by
    decide +kernel
  have hdropped : ∀ run ∈ sampleDropped.store.runs.runs, run.status = .cancelled := by
    have hall : sampleDropped.store.runs.runs.all (fun run => run.status = .cancelled) = true := by
      decide +kernel
    exact fun run hrun => of_decide_eq_true (List.all_eq_true.1 hall run hrun)
  obtain ⟨run, hrun, hsome⟩ := List.any_eq_true.1 hheld
  obtain ⟨r, hr⟩ := Option.isSome_iff_exists.1 hsome
  obtain ⟨-, run', hrun', hid, hdone⟩ :=
    (reservations_accounted hqueued).2.2 run hrun r hr sampleDropped hlater
  have hcancelled := hdropped run' hrun'
  refine ⟨run, hrun, r, hr, run', hrun', hid, hcancelled, hdone (.inl ?_)⟩
  rw [hcancelled]
  rfl

end sample

end Autopilot
