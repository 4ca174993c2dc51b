/-
Two gateways on one state directory.

The control plane keeps one gateway and a dispatch may build another on the same
directory. Each reads the file once, when it is constructed, and writes the
whole ledger back on every change, so a call on an instance whose copy is older
than the file puts the older ledger back: what the other instance granted or
ended since is gone, and so is its share of the counters.

What holds is this. As long as every call that is made finds its instance's copy
equal to the file, the directory behaves like one gateway: the file has every
reservation ever granted in its latest status, and its counters are what both
instances hold and have settled together, within the caps. One more thing makes
a file forget: it keeps the newest `MAX_TERMINAL_RESERVATIONS` terminal records.
-/
import Autopilot.GatewayRuns

set_option autoImplicit false

namespace Autopilot

open Prog Budget

/-! ## The directory -/

/-- A state directory with the copies two instances have of its ledger. What the
instances granted and ended, together, is remembered beside it. -/
structure SharedDirectory where
  file : GatewayState
  memory : Bool → GatewayState
  granted : List TokenReservation
  history : List Retirement
  clamped : ℕ

/-- An empty directory on which both instances have been constructed. -/
def SharedDirectory.initial : SharedDirectory := ⟨.empty, fun _ => .empty, [], [], 0⟩

/-- One instance, as a gateway. -/
def SharedDirectory.gateway (i : Bool) : Lens SharedDirectory Gateway where
  get d := ⟨d.memory i, d.file, d.history, d.clamped⟩
  set d g := { d with
    file := g.file
    memory := Function.update d.memory i g.state
    history := g.history
    clamped := g.clamped }
  get_set d g := by simp
  set_get d := by simp
  set_set d g g' := by simp

/-- A call on one of the instances; `construct` makes a new instance in its
place. -/
inductive SharedCall where
  | construct
  | reserve (now : ℕ) (input : TokenReservationRequest)
  | settle (now : ℕ) (reservation : TokenReservation) (usage : TokenUsage)
  | release (now : ℕ) (reservation : TokenReservation)

/-- Remember a reservation that was handed out. -/
def SharedDirectory.grantedTo (d : SharedDirectory)
    (result : Except (Fault JsError) TokenReservation) :
    SharedDirectory :=
  match result with
  | .ok r => { d with granted := if r ∈ d.granted then d.granted else d.granted ++ [r] }
  | .error _ => d

/-- The directory after a call on the instance `i`. -/
def SharedCall.run (limits : TokenGatewayLimits) (i : Bool) (c : SharedCall)
    (h : Machine SharedDirectory) : Machine SharedDirectory :=
  let instance' : Lens (Machine SharedDirectory) (Machine Gateway) :=
    Host.lens (SharedDirectory.gateway i)
  match c with
  | .construct => { h with store := { h.store with
      memory := Function.update h.store.memory i h.store.file } }
  | .reserve now input =>
    let (result, after) := zoom instance' (Autopilot.reserve limits now input) h
    { after with store := after.store.grantedTo result }
  | .settle now reservation usage =>
    (zoom instance' (Autopilot.settle limits now reservation usage) h).2
  | .release now reservation => (zoom instance' (Autopilot.release now reservation) h).2

/-- The directories reached by permitted calls. -/
inductive SharedRun (limits : TokenGatewayLimits)
    (permitted : Machine SharedDirectory → Bool → SharedCall → Prop) :
    Machine SharedDirectory → Prop where
  | start (uuids : List Uuid) (fresh : uuids.Nodup) :
    SharedRun limits permitted ⟨.initial, [], .fresh uuids fresh⟩
  | call {h : Machine SharedDirectory} (i : Bool) (c : SharedCall)
    (before : SharedRun limits permitted h) (ok : permitted h i c) :
    SharedRun limits permitted (c.run limits i h)

/-! ## What the file has to say -/

/-- The last terminal event of a reservation. -/
def latestEnd (history : List Retirement) (id : JsString) : Option Retirement :=
  history.reverse.find? (·.reservation.reservationId = id)

/-- The file has a reservation in its latest status: active while it has not
ended, and otherwise under its terminal record. -/
def HasLatest (d : SharedDirectory) (r : TokenReservation) : Prop :=
  match latestEnd d.history r.reservationId with
  | none => d.file.reservations.get? r.reservationId = some r
  | some x => d.file.reservations.get? r.reservationId = none ∧
      ∃ t, d.file.terminal.get? r.reservationId = some t ∧ t.event = x.event ∧
        t.settlement = x.settlement

/-- The tokens the granted reservations that have not ended hold under a key. -/
def SharedDirectory.heldTokens (d : SharedDirectory) (key : JsString) : ℕ :=
  ((d.granted.filter fun r => latestEnd d.history r.reservationId = none).map fun r =>
    if key ∈ routeUsageKeys r.toTokenGatewayRoute then r.totalTokens else 0).sum

/-- Nothing was lost: every granted reservation is in the file in its latest
status, and the counters of the file are what both instances settled and hold,
within the caps. -/
def NothingLost (limits : TokenGatewayLimits) (d : SharedDirectory) : Prop :=
  (∀ r ∈ d.granted, HasLatest d r) ∧
    ∀ key, d.file.usedTokens key = settledTokens d.history key + d.heldTokens key ∧
      d.file.usedTokens key ≤ limits.cap key

/-- The call changes the ledger of its instance and writes the file: the checks
the operation makes of the copy its instance has all pass. -/
def SharedCall.Writes (limits : TokenGatewayLimits) (h : Machine SharedDirectory) (i : Bool) :
    SharedCall → Prop
  | .construct => False
  | .reserve _ input =>
    (normalizeRequest input).handoffId.bind (h.store.memory i).findActiveReservation = none ∧
      reserveRefusal limits (h.store.memory i) (normalizeRequest input) = none ∧
      h.supply.next ≠ none
  | .settle _ reservation usage => ∃ active,
      (h.store.memory i).reservations.get? reservation.reservationId = some active ∧
      active.toTokenGatewayRoute = reservation.toTokenGatewayRoute ∧
      settleRefusal limits (h.store.memory i) active usage.settlement.inputTokens
        usage.settlement.outputTokens = none
  | .release _ reservation => ∃ active,
      (h.store.memory i).reservations.get? reservation.reservationId = some active ∧
      active.toTokenGatewayRoute = reservation.toTokenGatewayRoute

/-- A call that writes finds the copy of its instance equal to the file, and when
it ends a reservation the file has room for one more terminal record. -/
def UpToDate (limits : TokenGatewayLimits) (h : Machine SharedDirectory) (i : Bool)
    (c : SharedCall) : Prop :=
  c.Writes limits h i → h.store.memory i = h.store.file ∧
    match c with
    | .settle .. | .release .. => h.store.file.terminal.size < maxTerminalReservations
    | _ => True

/-! ## The directory behaves like one gateway -/

/-- The file is the ledger of a coherent gateway that has lived through the whole
history, and its reservations and terminal records are those of what was
granted. -/
structure Accounted (limits : TokenGatewayLimits) (d : SharedDirectory) (drawn : List Uuid) :
    Prop where
  coherent : Coherent limits ⟨d.file, d.file, d.history, d.clamped⟩ drawn
  groups : d.file.groups = .empty
  granted_nodup : d.granted.Nodup
  granted_iff : ∀ r, r ∈ d.granted ↔
    d.file.reservations.get? r.reservationId = some r ∨ ∃ x ∈ d.history, x.reservation = r
  recorded : ∀ x ∈ d.history, ∃ t, d.file.terminal.get? x.reservation.reservationId = some t ∧
    t.event = x.event ∧ t.settlement = x.settlement
  memory_granted : ∀ i id r, (d.memory i).reservations.get? id = some r → r ∈ d.granted

theorem latestEnd_some {history : List Retirement} {id : JsString} {x : Retirement}
    (h : latestEnd history id = some x) : x ∈ history ∧ x.reservation.reservationId = id :=
  ⟨List.mem_reverse.1 (List.mem_of_find?_eq_some h), by simpa using List.find?_some h⟩

theorem latestEnd_none {history : List Retirement} {id : JsString} :
    latestEnd history id = none ↔ ∀ x ∈ history, x.reservation.reservationId ≠ id := by
  simp [latestEnd]

section Accounted

variable {limits : TokenGatewayLimits} {d : SharedDirectory} {drawn : List Uuid}

/-- Without groups every reservation is an ordinary one. -/
theorem Accounted.ordinary (h : Accounted limits d drawn) {id : JsString} {r : TokenReservation}
    (hr : d.file.reservations.get? id = some r) : r.groupId = none := by
  cases hgid : r.groupId with
  | none => rfl
  | some gid =>
    obtain ⟨group, slot, hg, -⟩ := h.coherent.linked.grouped hr hgid
    rw [show (_ : Record JsString TokenGroupReservation) = _ from h.groups] at hg
    cases hg

/-- The granted reservations that have not ended are the active ones. -/
theorem Accounted.active_perm (h : Accounted limits d drawn) :
    (d.granted.filter fun r => latestEnd d.history r.reservationId = none).Perm
      d.file.reservations.values := by
  have hid : ∀ {id r}, d.file.reservations.get? id = some r → r.reservationId = id :=
    h.coherent.linked.id_eq
  have hvalues : d.file.reservations.values.Nodup := by
    refine List.Nodup.of_map (·.reservationId) ?_
    have hkeys : d.file.reservations.values.map (·.reservationId) = d.file.reservations.keys := by
      simp only [Record.values, Record.keys, List.map_map]
      exact List.map_congr_left fun e he => hid ((Record.mem_entries_iff _ e.1 e.2).1 he)
    rw [hkeys]
    exact d.file.reservations.nodup
  rw [List.perm_ext_iff_of_nodup (h.granted_nodup.filter _) hvalues]
  intro r
  rw [List.mem_filter, decide_eq_true_eq, latestEnd_none, h.granted_iff, Record.mem_values_iff]
  constructor
  · rintro ⟨hr | ⟨x, hx, rfl⟩, hnone⟩
    · exact ⟨_, hr⟩
    · exact absurd rfl (hnone x hx)
  · rintro ⟨id, hr⟩
    have := hid hr
    subst this
    refine ⟨.inl hr, fun x hx hc => ?_⟩
    have hinactive := h.coherent.linked.history_inactive x hx
    rw [hc] at hinactive
    rw [hr] at hinactive
    cases hinactive

/-- An accounted directory has lost nothing. -/
theorem Accounted.nothing_lost (h : Accounted limits d drawn) : NothingLost limits d := by
  constructor
  · intro r hr
    unfold HasLatest
    cases hend : latestEnd d.history r.reservationId with
    | none =>
      rcases (h.granted_iff r).1 hr with hact | ⟨x, hx, rfl⟩
      · exact hact
      · exact absurd rfl (latestEnd_none.1 hend x hx)
    | some x =>
      obtain ⟨hx, hid⟩ := latestEnd_some hend
      rw [← hid]
      exact ⟨h.coherent.linked.history_inactive x hx, h.recorded x hx⟩
  · intro key
    obtain ⟨hused, hcap⟩ := h.coherent.conserves.1 key
    have hheld : d.heldTokens key = d.file.heldTokens key := by
      rw [SharedDirectory.heldTokens, (h.active_perm.map _).sum_eq, GatewayState.heldTokens,
        h.groups]
      have hall : d.file.reservations.values.filter (·.groupId = none)
          = d.file.reservations.values := by
        refine List.filter_eq_self.2 (fun r hr => ?_)
        obtain ⟨id, hget⟩ := (Record.mem_values_iff _ _).1 hr
        simpa using h.ordinary hget
      rw [hall]
      simp [Record.values, Record.empty]
    rw [hheld]
    exact ⟨hused, hused ▸ hcap⟩

/-- A new instance has the reservations of the file. -/
theorem Accounted.construct (h : Accounted limits d drawn) (i : Bool) :
    Accounted limits { d with memory := Function.update d.memory i d.file } drawn :=
  { h with
    memory_granted := by
      intro j id r hr
      dsimp only at hr
      by_cases hj : j = i
      · subst hj
        rw [Function.update_self] at hr
        have hid : r.reservationId = id := h.coherent.linked.id_eq hr
        subst hid
        exact (h.granted_iff r).2 (.inl hr)
      · rw [Function.update_of_ne hj] at hr
        exact h.memory_granted j id r hr }

/-- An instance whose file follows its memory is its ledger twice. -/
theorem gateway_eq_of_file {gateway : Gateway} (h : gateway.file = gateway.state) :
    gateway = ⟨gateway.state, gateway.state, gateway.history, gateway.clamped⟩ := by
  rcases gateway with ⟨state, file, history, clamped⟩
  cases h
  rfl

/-- An up-to-date instance grants a reservation and writes the file. -/
theorem Accounted.grant {i : Bool} {uuid : Uuid} {r : TokenReservation} {after : Gateway}
    (h : Accounted limits d drawn) (hnew : uuid ∉ drawn)
    (hid : r.reservationId = reservationIdOf uuid) (hfile : after.file = after.state)
    (hc : Coherent limits after (uuid :: drawn))
    (hres : after.state.reservations = d.file.reservations.set r.reservationId r)
    (hterminal : after.state.terminal = d.file.terminal)
    (hgroups : after.state.groups = d.file.groups) (hhistory : after.history = d.history) :
    Accounted limits (((SharedDirectory.gateway i).set d after).grantedTo (.ok r))
      (uuid :: drawn) := by
  have hfresh : d.file.reservations.get? r.reservationId = none := by
    rw [hid]
    exact h.coherent.linked.fresh hnew
  have hended : ∀ x ∈ d.history, x.reservation.reservationId ≠ r.reservationId := by
    intro x hx hc
    obtain ⟨v, hv, heq⟩ := h.coherent.linked.history_drawn x hx
    rw [heq, hid] at hc
    exact hnew (reservationIdOf_injective hc ▸ hv)
  have hmem : r ∉ d.granted := by
    intro hr
    rcases (h.granted_iff r).1 hr with hact | ⟨x, hx, rfl⟩
    · rw [hfresh] at hact
      cases hact
    · exact hended x hx rfl
  have hgranted : ∀ r', r' ∈ d.granted ++ [r] ↔
      after.state.reservations.get? r'.reservationId = some r' ∨
        ∃ x ∈ d.history, x.reservation = r' := by
    intro r'
    rw [List.mem_append, List.mem_singleton, h.granted_iff, hres, Record.get?_set]
    by_cases hr' : r'.reservationId = r.reservationId
    · rw [if_pos hr', hr', hfresh]
      simp only [reduceCtorEq, false_or, Option.some.injEq]
      rw [or_comm]
      exact or_congr_left eq_comm
    · rw [if_neg hr']
      have hne : r' ≠ r := fun hc => hr' (hc ▸ rfl)
      simp [hne]
  have hafter : ((SharedDirectory.gateway i).set d after).grantedTo (.ok r) =
      { file := after.state, memory := Function.update d.memory i after.state,
        granted := d.granted ++ [r], history := d.history, clamped := after.clamped } := by
    simp only [SharedDirectory.gateway, SharedDirectory.grantedTo, if_neg hmem, hfile, hhistory]
  rw [hafter]
  refine { coherent := ?_, groups := hgroups.trans h.groups,
           granted_nodup := ?_, granted_iff := hgranted, recorded := ?_, memory_granted := ?_ }
  · dsimp only
    rw [← hhistory, ← gateway_eq_of_file hfile]
    exact hc
  · exact List.nodup_append.2 ⟨h.granted_nodup, by simp, by
      rintro a ha b hb rfl
      exact hmem (List.mem_singleton.1 hb ▸ ha)⟩
  · intro x hx
    dsimp only
    rw [hterminal]
    exact h.recorded x hx
  · intro j id r' hr'
    dsimp only at hr'
    by_cases hj : j = i
    · subst hj
      rw [Function.update_self] at hr'
      have hid' : r'.reservationId = id := hc.linked.id_eq hr'
      subst hid'
      exact (hgranted r').2 (.inl hr')
    · rw [Function.update_of_ne hj] at hr'
      exact List.mem_append_left _ (h.memory_granted j id r' hr')

/-- An up-to-date instance ends a reservation and writes the file. -/
theorem Accounted.ended {i : Bool} (x : Retirement) (t : TerminalRecord) {after : Gateway}
    (h : Accounted limits d drawn) (hfile : after.file = after.state)
    (hc : Coherent limits after drawn)
    (hact : d.file.reservations.get? x.reservation.reservationId = some x.reservation)
    (hres : after.state.reservations = d.file.reservations.erase x.reservation.reservationId)
    (hterminal : after.state.terminal = d.file.terminal.set x.reservation.reservationId t)
    (hgroups : after.state.groups = d.file.groups) (hhistory : after.history = d.history ++ [x])
    (ht : t.event = x.event ∧ t.settlement = x.settlement) :
    Accounted limits ((SharedDirectory.gateway i).set d after) drawn := by
  have hgranted : ∀ r, r ∈ d.granted ↔
      after.state.reservations.get? r.reservationId = some r ∨
        ∃ y ∈ after.history, y.reservation = r := by
    intro r
    rw [h.granted_iff, hres, hhistory, Record.get?_erase]
    by_cases hr : r.reservationId = x.reservation.reservationId
    · rw [if_pos hr, hr, hact]
      simp only [Option.some.injEq, List.mem_append, List.mem_singleton, reduceCtorEq, false_or]
      constructor
      · rintro (rfl | ⟨y, hy, rfl⟩)
        · exact ⟨x, .inr rfl, rfl⟩
        · exact ⟨y, .inl hy, rfl⟩
      · rintro ⟨y, hy | rfl, rfl⟩
        · exact .inr ⟨y, hy, rfl⟩
        · exact .inl rfl
    · rw [if_neg hr]
      have hne : x.reservation ≠ r := fun hc => hr (hc ▸ rfl)
      simp [or_and_right, exists_or, hne]
  have hfile' : ((SharedDirectory.gateway i).set d after).file = after.state := hfile
  refine { coherent := ?_, groups := ?_, granted_nodup := h.granted_nodup,
           granted_iff := ?_, recorded := ?_, memory_granted := ?_ }
  · rw [hfile']
    exact gateway_eq_of_file hfile ▸ hc
  · rw [hfile', hgroups, h.groups]
  · rw [hfile']
    exact hgranted
  · intro y hy
    rw [hfile', hterminal, Record.get?_set]
    have hy' : y ∈ d.history ++ [x] := by rw [← hhistory]; exact hy
    rcases List.mem_append.1 hy' with hy | hy
    · have hne : y.reservation.reservationId ≠ x.reservation.reservationId := by
        intro hc'
        have hinactive := h.coherent.linked.history_inactive y hy
        rw [hc'] at hinactive
        rw [hact] at hinactive
        cases hinactive
      rw [if_neg hne]
      exact h.recorded y hy
    · rw [List.mem_singleton.1 hy, if_pos rfl]
      exact ⟨t, rfl, ht⟩
  · intro j id r hr
    by_cases hj : j = i
    · subst hj
      have hr' : after.state.reservations.get? id = some r := by
        simpa [SharedDirectory.gateway] using hr
      have hid : r.reservationId = id := hc.linked.id_eq hr'
      subst hid
      exact (hgranted r).2 (.inl hr')
    · have hr' : (d.memory j).reservations.get? id = some r := by
        simpa [SharedDirectory.gateway, Function.update_of_ne hj] using hr
      exact h.memory_granted j id r hr'

/-- A terminal record fits without pruning. -/
theorem pruneTerminal_set {terminal : Record JsString TerminalRecord}
    (hsize : terminal.size < maxTerminalReservations) (id : JsString) (t : TerminalRecord) :
    pruneTerminal (terminal.set id t) = terminal.set id t := by
  have hlen : (terminal.set id t).entries.length ≤ maxTerminalReservations := by
    have hperm := (Record.entries_set_perm terminal id t).length_eq
    have hfilter : (terminal.erase id).entries.length ≤ terminal.entries.length :=
      List.length_filter_le ..
    rw [hperm, List.length_cons]
    unfold Record.size at hsize
    omega
  unfold pruneTerminal
  dsimp only
  rw [List.length_insertionSort, Nat.sub_eq_zero_of_le hlen, List.take_zero]
  rfl

/-- The ledger after an ordinary reservation ended and nothing was pruned. -/
theorem retire_ordinary {gateway : Gateway} {active : TokenReservation}
    (hgid : active.groupId = none)
    (hsize : gateway.state.terminal.size < maxTerminalReservations) (now : ℕ) (id : JsString)
    (event : TerminalEvent) (settlement : TokenSettlement) :
    (gateway.retire now id active event settlement).state = { gateway.state with
      reservations := gateway.state.reservations.erase id
      terminal := gateway.state.terminal.set id { event, settlement, completedAt := now } } := by
  unfold Gateway.retire
  dsimp only
  rw [updateGroupSlot_ordinary _ hgid]
  dsimp only
  rw [pruneTerminal_set hsize]

end Accounted

section step

variable {limits : TokenGatewayLimits} {h : Machine SharedDirectory}

/-- The instance `i` as a gateway of its own. -/
def SharedDirectory.machine (h : Machine SharedDirectory) (i : Bool) : Machine Gateway :=
  (Host.lens (SharedDirectory.gateway i)).get h

/-- A call that ends an ordinary reservation on an up-to-date instance. -/
theorem Accounted.commits_end {α : Type} {i : Bool} {active : TokenReservation} {a : α}
    {gateway after : Gateway} {event : TerminalEvent} {settlement : TokenSettlement} {now : ℕ}
    {result : Except (Fault JsError) α × Machine Gateway}
    (hacc : Accounted limits h.store h.supply.drawn) (hw : h.writes = [])
    (hact : h.store.file.reservations.get? active.reservationId = some active)
    (hsize : h.store.file.terminal.size < maxTerminalReservations)
    (hgateway : gateway.frame = (h.store.file.reservations, h.store.file.terminal,
      h.store.file.groups, h.store.history))
    (hafter : after = gateway.retire now active.reservationId active event settlement)
    (hc : Coherent limits after h.supply.drawn)
    (hres : Commits (SharedDirectory.machine h i) after h.supply a result) :
    Accounted limits ((SharedDirectory.gateway i).set h.store result.2.store)
        result.2.supply.drawn ∧ result.2.writes = [] := by
  simp only [Gateway.frame, Prod.mk.injEq] at hgateway
  obtain ⟨hr, ht, hg, hh⟩ := hgateway
  have hstate := retire_ordinary (hacc.ordinary hact) (ht ▸ hsize) now active.reservationId event
    settlement
  rw [← hafter] at hstate
  have hreliable : (SharedDirectory.machine h i).Reliable := by
    simp [SharedDirectory.machine, Host.lens, Host.Reliable, hw]
  rcases hres with ⟨ws, hws, rfl⟩ | ⟨f, ws, -, hn, -⟩
  · refine ⟨hacc.ended ⟨active, event, settlement⟩ ⟨event, settlement, now⟩ rfl (hc.withFile _)
      hact ?_ ?_ ?_ ?_ ⟨rfl, rfl⟩, ?_⟩
    · simp only [hstate, hr]
    · simp only [hstate, ht]
    · simp only [hstate, hg]
    · have hhistory := (retire_frame gateway now active.reservationId active event
        settlement).2.2.2.1
      simp only [hafter, hhistory, hh]
    · have : ws ⊆ [] := by simpa [SharedDirectory.machine, Host.lens, hw] using hws
      exact List.subset_nil.1 this
  · exact absurd hreliable hn

/-- A call that leaves its instance alone leaves the directory alone. -/
theorem zoom_unchanged {α : Type} {i : Bool} {p : Proc Gateway α}
    {result : Except (Fault JsError) α}
    (hr : p (SharedDirectory.machine h i) = (result, SharedDirectory.machine h i)) :
    zoom (Host.lens (SharedDirectory.gateway i)) p h = (result, h) := by
  rw [zoom_run hr, SharedDirectory.machine, Lens.set_get]

/-- **The step lemma.** A call on an up-to-date instance, or one that writes
nothing, keeps the directory accounted. -/
theorem SharedCall.accounted (hacc : Accounted limits h.store h.supply.drawn)
    (hw : h.writes = []) (i : Bool) (c : SharedCall) (hup : UpToDate limits h i c) :
    Accounted limits (c.run limits i h).store (c.run limits i h).supply.drawn ∧
      (c.run limits i h).writes = [] := by
  have hfresh : h.store.memory i = h.store.file → Coherent limits
      (SharedDirectory.machine h i).store h.supply.drawn := by
    intro hmem
    have := hacc.coherent
    rw [← hmem] at this
    exact this.withFile _
  cases c with
  | construct => exact ⟨hacc.construct i, hw⟩
  | reserve now input =>
    rcases reserve_cases limits now (SharedDirectory.machine h i) input with ⟨e, hr⟩ |
      ⟨existing, id, hget, -, -, hr⟩ | ⟨uuid, supply, hnext, hfind, hrefusal, hr⟩
    · simp only [run, zoom_unchanged hr]
      exact ⟨hacc, hw⟩
    · simp only [run, zoom_unchanged hr, SharedDirectory.grantedTo,
        hacc.memory_granted i id existing hget, if_true]
      exact ⟨hacc, hw⟩
    · obtain ⟨hmem, -⟩ := hup ⟨hfind, hrefusal, by rw [show h.supply.next = _ from hnext]; simp⟩
      obtain ⟨hnew, hdrawn⟩ := Supply.next_spec hnext
      have hc : Coherent limits ((SharedDirectory.machine h i).store.grant
          (newReservation now (normalizeRequest input) uuid)) (uuid :: h.supply.drawn) :=
        (hfresh hmem).grant hnew hrefusal
      rcases hr with ⟨ws, hws, hr⟩ | ⟨f, ws, -, hn, -⟩
      · have hempty : ws = [] := by
          have : ws ⊆ [] := by simpa [SharedDirectory.machine, Host.lens, hw] using hws
          exact List.subset_nil.1 this
        simp only [run, zoom_run hr]
        refine ⟨?_, hempty⟩
        have hdrawn' : supply.drawn = uuid :: h.supply.drawn := hdrawn
        change Accounted limits (((SharedDirectory.gateway i).set h.store _).grantedTo _)
          supply.drawn
        rw [hdrawn']
        refine hacc.grant hnew rfl rfl (hc.withFile _) ?_ ?_ ?_ ?_ <;>
          simp [Gateway.grant, SharedDirectory.machine, Host.lens, SharedDirectory.gateway, hmem]
      · exact absurd (by simp [SharedDirectory.machine, Host.lens, Host.Reliable, hw]) hn
  | settle now reservation usage =>
    rcases settle_cases limits now (SharedDirectory.machine h i) reservation usage with ⟨e, hr⟩ |
      ⟨t, -, -, -, hr⟩ | ⟨active, hget, hroute, hrefusal, hr⟩
    · simp only [run, zoom_unchanged hr]
      exact ⟨hacc, hw⟩
    · simp only [run, zoom_unchanged hr]
      exact ⟨hacc, hw⟩
    · obtain ⟨hmem, hsize⟩ := hup ⟨active, hget, hroute, hrefusal⟩
      have hc := hfresh hmem
      have hid : active.reservationId = reservation.reservationId := hc.linked.id_eq hget
      rw [← hid] at hget hr
      refine hacc.commits_end hw (hmem ▸ hget) hsize ?_ rfl
        (hc.settled hget (settleRefusal_total hrefusal)) hr
      simp [Gateway.frame, SharedDirectory.machine, Host.lens, SharedDirectory.gateway, hmem]
  | release now reservation =>
    rcases release_cases now (SharedDirectory.machine h i) reservation with ⟨e, hr⟩ |
      ⟨-, -, hr⟩ | ⟨active, hget, hroute, hr⟩
    · simp only [run, zoom_unchanged hr]
      exact ⟨hacc, hw⟩
    · simp only [run, zoom_unchanged hr]
      exact ⟨hacc, hw⟩
    · obtain ⟨hmem, hsize⟩ := hup ⟨active, hget, hroute⟩
      have hc := hfresh hmem
      have hid : active.reservationId = reservation.reservationId := hc.linked.id_eq hget
      rw [← hid] at hget hr
      refine hacc.commits_end hw (hmem ▸ hget) hsize ?_ rfl (hc.released hget) hr
      simp [Gateway.frame, SharedDirectory.machine, Host.lens, SharedDirectory.gateway, hmem]

end step

/-- **The run lemma.** -/
theorem SharedRun.accounted {limits : TokenGatewayLimits} {h : Machine SharedDirectory}
    (hrun : SharedRun limits (UpToDate limits) h) :
    Accounted limits h.store h.supply.drawn ∧ h.writes = [] := by
  induction hrun with
  | start uuids fresh =>
    refine ⟨⟨(coherent_initial limits).withFile _, rfl, List.nodup_nil, ?_, ?_, ?_⟩, rfl⟩ <;>
      simp [SharedDirectory.initial, GatewayState.empty]
  | call i c before ok ih => exact c.accounted ih.1 ih.2 i ok

/-- **Nothing is lost between up-to-date gateways.** In every interleaving of the
calls of two gateways on one directory in which each call that writes is made on
an instance whose copy is the file, the file has every granted reservation in
its latest status, and its counters are what both instances settled and hold,
within the caps. -/
theorem shared_gateways_lose_nothing (limits : TokenGatewayLimits) (h : Machine SharedDirectory)
    (hrun : SharedRun limits (UpToDate limits) h) :
    NothingLost limits h.store :=
  hrun.accounted.1.nothing_lost

/-! Two instances of an empty directory: the first reserves, then the second. -/

section sample

def sampleDirectory : Machine SharedDirectory :=
  ⟨.initial, [], .fresh [sampleUuid, sampleUuid'] sampleUuids_nodup⟩

def sampleFirst : Machine SharedDirectory :=
  (SharedCall.reserve 0 sampleRequest).run defaultTokenGatewayLimits false sampleDirectory

def sampleBoth : Machine SharedDirectory :=
  (SharedCall.reserve 0 sampleRequest).run defaultTokenGatewayLimits true sampleFirst

/-- After the first call nothing is lost. -/
theorem shared_gateways_lose_nothing_sample :
    NothingLost defaultTokenGatewayLimits sampleFirst.store :=
  shared_gateways_lose_nothing _ _ (.call false _ (.start _ _) fun _ => ⟨rfl, trivial⟩)

/-- After the second the file does not have the first reservation any more. -/
theorem shared_gateways_lose_nothing_false :
    ¬ ∀ (limits : TokenGatewayLimits) (h : Machine SharedDirectory),
      SharedRun limits (fun _ _ _ => True) h → NothingLost limits h.store := by
  intro hall
  have hrun : SharedRun defaultTokenGatewayLimits (fun _ _ _ => True) sampleBoth :=
    .call true _ (.call false _ (.start _ _) trivial) trivial
  have hlost := (hall _ _ hrun).1 (newReservation 0 (normalizeRequest sampleRequest) sampleUuid)
    (by decide)
  exact absurd hlost (by decide : ¬ sampleBoth.store.file.reservations.get?
    (newReservation 0 (normalizeRequest sampleRequest) sampleUuid).reservationId = some _)

end sample

end Autopilot
