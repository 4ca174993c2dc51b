/-
What the orchestrator relies on without looking.

A run that has a reservation has a task, and the other way round; a run that is
queued has both. While no groups are used and the process does not start anew,
the ledger of the gateway is the one the earlier calls left, it holds one
reservation for a handoff at most, and the runs have drawn identifiers. All of
this is kept by every step, so it is known at every point of a call.

The second half of the module is about the calls of the gateway, which are steps
of their own.
-/
import Autopilot.GatewayAtomicity
import Autopilot.RunSteps

set_option autoImplicit false

namespace Autopilot

open Prog Keyed RunStore

variable {options : OrchestratorOptions} {full careless : Prop}
variable {h h' : Machine (World options)} {run run' : RunRecord}

/-! ## What stays known -/

/-- Two records of a run that is at the same point of its course. -/
structure SameCourse (run run' : RunRecord) : Prop where
  current : run'.current = run.current
  status : run'.status = run.status
  approvedRevision : run'.approvedRevision = run.approvedRevision
  orchestrationRef : run'.orchestrationRef = run.orchestrationRef
  supervisorTaskId : run'.supervisorTaskId = run.supervisorTaskId
  tokenReservation : run'.tokenReservation = run.tokenReservation
  cancellationRequested : run'.cancellationRequested = run.cancellationRequested

theorem SameCourse.refl (run : RunRecord) : SameCourse run run := ⟨rfl, rfl, rfl, rfl, rfl, rfl, rfl⟩

theorem SameCourse.trans {run'' : RunRecord} (h₁ : SameCourse run run') (h₂ : SameCourse run' run'') :
    SameCourse run run'' :=
  ⟨h₂.1.trans h₁.1, h₂.2.trans h₁.2, h₂.3.trans h₁.3, h₂.4.trans h₁.4, h₂.5.trans h₁.5,
    h₂.6.trans h₁.6, h₂.7.trans h₁.7⟩

theorem SameCourse.runId (hs : SameCourse run run') : run'.runId = run.runId :=
  congrArg RunDraft.runId hs.current

theorem sameCourse_of_core (hc : run'.core = run.core) : SameCourse run run' :=
  ⟨congrArg (·.current) hc, congrArg (·.status) hc, congrArg (·.approvedRevision) hc,
    congrArg (·.orchestrationRef) hc, congrArg (·.supervisorTaskId) hc,
    congrArg (·.tokenReservation) hc, congrArg (·.cancellationRequested) hc⟩

theorem Guarded.of_course (hg : Guarded careless run) (hs : SameCourse run run') :
    Guarded careless run' := by
  intro hflag
  rw [hs.status]
  exact hg (hs.cancellationRequested ▸ hflag)

/-! ## A tidy state -/

/-- The binding of a run is whole, and is there when it is needed. -/
structure RunRecord.Tidy (run : RunRecord) : Prop where
  paired : run.tokenReservation = none ↔ run.supervisorTaskId = none
  held : run.status = .queued ∨ run.status = .running → run.tokenReservation ≠ none

/-- What holds in every state. -/
structure Tidy (full : Prop) (h : Machine (World options)) : Prop where
  runs : ∀ run ∈ h.store.runs.runs, run.Tidy
  linked : ¬ full → h.store.gateway.Linked h.supply.drawn
  single : ¬ full → h.store.gateway.singlyHeld
  named : ¬ full → ∀ run ∈ h.store.runs.runs, ∃ uuid : Uuid, run.runId = uuid.text

theorem tidy_newRun (draft : RunDraft) (ref : Option OrchestrationRef)
    (request : Option OrchestrationRequest) : (newRun draft ref request).Tidy := by
  refine ⟨by simp [newRun], ?_⟩
  rintro (hs | hs) <;> cases hs

/-- What a run's record keeps of its binding when it is rewritten. -/
theorem RunRecord.Tidy.of_same (ht : run.Tidy)
    (hreservation : run'.tokenReservation = run.tokenReservation)
    (htask : run'.supervisorTaskId = run.supervisorTaskId)
    (hstatus : run'.status = .queued ∨ run'.status = .running →
      run.status = .queued ∨ run.status = .running) : run'.Tidy := by
  refine ⟨?_, fun hs => ?_⟩
  · rw [hreservation, htask]
    exact ht.paired
  · rw [hreservation]
    exact ht.held (hstatus hs)

theorem RunChange.runId (hc : RunChange full careless h run run') : run'.runId = run.runId := by
  cases hc with
  | noted _ hcore => exact (sameCourse_of_core hcore).runId
  | _ => rfl

theorem RunChange.tidy (hc : RunChange full careless h run run') (ht : run.Tidy) : run'.Tidy := by
  cases hc with
  | revised => exact ht.of_same rfl rfl id
  | approved =>
    refine ht.of_same rfl rfl ?_
    rintro (hs | hs) <;> cases hs
  | groupBound => exact ⟨by simp [boundRun], by simp [boundRun]⟩
  | unbound now happroved =>
    refine ⟨by simp [unboundRun], ?_⟩
    rintro (hs | hs) <;> simp [unboundRun, happroved] at hs
  | queued now happroved hheld => exact ⟨ht.paired, fun _ => hheld⟩
  | started now hqueued => exact ht.of_same rfl rfl fun _ => .inl hqueued
  | settled => exact ht.of_same rfl rfl id
  | released => exact ht.of_same rfl rfl id
  | finalized status reason now hopen hend =>
    refine ht.of_same rfl rfl ?_
    rintro (hs | hs) <;> rcases hend with rfl | rfl <;> cases hs
  | cancelled =>
    refine ht.of_same rfl rfl ?_
    rintro (hs | hs) <;> cases hs
  | flagged => exact ht.of_same rfl rfl id
  | noted _ hcore =>
    have hsame := sameCourse_of_core hcore
    refine ht.of_same hsame.tokenReservation hsame.supervisorTaskId ?_
    rw [hsame.status]
    exact id

/-! ## The ledger under the calls of the orchestrator -/

section ledger

variable {gateway : Gateway} {drawn : List Uuid}

/-- Fewer reservations hold no handoff twice either. -/
theorem Gateway.singlyHeld.of_sub {gateway' : Gateway} (hs : gateway.singlyHeld)
    (hsub : ∀ id r, gateway'.state.reservations.get? id = some r →
      gateway.state.reservations.get? id = some r) : gateway'.singlyHeld :=
  fun _ _ _ _ hr hr' => hs _ _ _ _ (hsub _ _ hr) (hsub _ _ hr')

theorem get?_of_erase {record : Record JsString TokenReservation} {id id' : JsString}
    {r : TokenReservation} (hr : (record.erase id').get? id = some r) :
    record.get? id = some r := by
  by_cases hid : id = id'
  · rw [hid, Record.get?_erase_self] at hr
    cases hr
  · rwa [Record.get?_erase_of_ne _ hid] at hr

/-- A handoff nothing is held for is not found. -/
theorem unheld_of_find {handoffId : JsString}
    (hfind : gateway.state.findActiveReservation handoffId = none) : gateway.unheld handoffId := by
  intro id r hr hhandoff
  have hmem : r ∈ gateway.state.reservations.values := (Record.mem_values_iff _ _).2 ⟨id, hr⟩
  simpa [hhandoff] using List.find?_eq_none.1 hfind r hmem

/-- **The step lemma.** A call about a single reservation holds no handoff
twice. -/
theorem GatewayCall.singlyHeld {limits : TokenGatewayLimits} {g : Machine Gateway}
    (hs : g.store.singlyHeld) (c : GatewayCall) (hcalled : c.Called h) : (c.run limits g).store.singlyHeld := by
  have commits : ∀ {α : Type} {gateway : Gateway} {supply : Supply Uuid} {a : α}
      {result : Except (Fault JsError) α × Machine Gateway}, gateway.singlyHeld →
      Commits g gateway supply a result → result.2.store.singlyHeld := by
    rintro α gateway supply a _ hgateway (⟨ws, -, rfl⟩ | ⟨fault, ws, -, -, rfl⟩)
    · exact hgateway
    · exact hgateway
  cases c with
  | reserve now input =>
    rcases reserve_cases limits now g input with ⟨e, hr⟩ | ⟨r, id, -, -, -, hr⟩ |
      ⟨uuid, supply, hnext, hfind, -, hr⟩
    · rw [run, hr]; exact hs
    · rw [run, hr]; exact hs
    · rw [GatewayCall.run]
      refine commits ?_ hr
      obtain ⟨hnew, -⟩ := Supply.next_spec hnext
      set reservation := newReservation now (normalizeRequest input) uuid with hreservation
      -- the new reservation is the first one for its handoff
      have hfirst : ∀ id r, g.store.state.reservations.get? id = some r →
          r.handoffId = reservation.handoffId → reservation.handoffId = none := by
        intro id r hget hsame
        cases hid : reservation.handoffId with
        | none => rfl
        | some handoffId =>
          have hfind' : g.store.state.findActiveReservation handoffId = none := by
            have hrequest : (normalizeRequest input).handoffId = some handoffId := hid
            rwa [hrequest] at hfind
          exact absurd (hsame.trans hid) (unheld_of_find hfind' id r hget)
      have hgrant : (g.store.grant reservation).state.reservations =
          g.store.state.reservations.set reservation.reservationId reservation := by
        rw [Gateway.grant, addUsage_reservations]
      intro id id' r r' hget hget' hsame hsome
      rw [hgrant] at hget hget'
      rcases Record.get?_set_cases hget with ⟨hid, rfl⟩ | hget <;>
        rcases Record.get?_set_cases hget' with ⟨hid', rfl⟩ | hget'
      · rw [hid, hid']
      · exact absurd (hfirst id' r' hget' hsame.symm) hsome
      · rw [hsame] at hsome
        exact absurd (hfirst id r hget hsame) hsome
      · exact hs id id' r r' hget hget' hsame hsome
  | settle now reservation usage =>
    rcases settle_cases limits now g reservation usage with ⟨e, hr⟩ | ⟨t, -, -, -, hr⟩ |
      ⟨active, -, -, -, hr⟩
    · rw [run, hr]; exact hs
    · rw [run, hr]; exact hs
    · rw [GatewayCall.run]
      refine commits (hs.of_sub fun id r hget => ?_) hr
      rw [settled_reservations] at hget
      exact get?_of_erase hget
  | release now reservation =>
    rcases release_cases now g reservation with ⟨e, hr⟩ | ⟨-, -, hr⟩ | ⟨active, -, -, hr⟩
    · rw [run, hr]; exact hs
    · rw [run, hr]; exact hs
    · rw [GatewayCall.run]
      refine commits (hs.of_sub fun id r hget => ?_) hr
      rw [released_reservations] at hget
      exact get?_of_erase hget
  | acknowledgeTerminal id =>
    rcases acknowledgeTerminal_cases g id with ⟨-, hr⟩ | hr
    · rw [run, hr]; exact hs
    · rw [GatewayCall.run]
      have hsub : ({ g.store with state := { g.store.state with
          terminal := g.store.state.terminal.erase id } } : Gateway).singlyHeld := hs
      exact commits hsub hr
  | reserveGroup => exact hcalled.elim
  | claimGroupSlot => exact hcalled.elim
  | releaseGroupSlots => exact hcalled.elim

end ledger

/-! ## Every step keeps the state tidy -/

theorem linked_of_draws (hd : Draws h h') {gateway : Gateway}
    (hl : gateway.Linked h.supply.drawn) : gateway.Linked h'.supply.drawn := by
  rcases hd with hsame | ⟨uuid, hnext⟩
  · rw [hsame]
    exact hl
  · rw [(Supply.next_spec hnext).2]
    exact Linked.draw hl

/-- The ledger and the names are as they were. -/
theorem Tidy.of_gateway (ht : Tidy full h) (hgateway : h'.store.gateway = h.store.gateway)
    (hdraws : Draws h h') (hruns : ∀ run ∈ h'.store.runs.runs, run.Tidy)
    (hnamed : ¬ full → ∀ run ∈ h'.store.runs.runs, ∃ uuid : Uuid, run.runId = uuid.text) :
    Tidy full h' where
  runs := hruns
  linked hfull := by
    rw [hgateway]
    exact linked_of_draws hdraws (ht.linked hfull)
  single hfull := by
    rw [hgateway]
    exact ht.single hfull
  named := hnamed

/-- Only the stores beside the runs and the gateway changed. -/
theorem Tidy.of_others (ht : Tidy full h) (hruns : h'.store.runs = h.store.runs)
    (hgateway : h'.store.gateway = h.store.gateway) (hdraws : Draws h h') : Tidy full h' := by
  refine ht.of_gateway hgateway hdraws ?_ ?_
  · rw [hruns]
    exact ht.runs
  · rw [hruns]
    exact ht.named

/-- One run was rewritten. -/
theorem Tidy.of_put (ht : Tidy full h) (hk : Knows h run) (hid : run'.runId = run.runId)
    (htidy : run'.Tidy) (hruns : h'.store.runs.runs = h.store.runs.runs.map (put RunRecord.runId run'))
    (hframe : OnRuns h h') (hdraws : Draws h h') : Tidy full h' := by
  refine ht.of_gateway hframe.gateway hdraws ?_ ?_
  · intro other hother
    rw [hruns] at hother
    rcases mem_put hother with rfl | ⟨hmem, -⟩
    · exact htidy
    · exact ht.runs other hmem
  · intro hfull other hother
    rw [hruns] at hother
    rcases mem_put hother with rfl | ⟨hmem, -⟩
    · rw [hid]
      exact ht.named hfull run hk.mem
    · exact ht.named hfull other hmem

/-- **The step lemma.** Every step keeps the state tidy. -/
theorem Step.tidy (hs : Step full careless h h') (ht : Tidy full h) : Tidy full h' := by
  obtain ⟨-, hchange⟩ := hs
  cases hchange with
  | kept hstore hdraws =>
    exact ht.of_others (congrArg World.runs hstore) (congrArg World.gateway hstore) hdraws
  | created input now uuid hnext hinput hruns hframe =>
    refine ht.of_gateway hframe.gateway (.inr ⟨uuid, hnext⟩) ?_ ?_
    · intro run hrun
      rw [hruns, List.mem_append, List.mem_singleton] at hrun
      rcases hrun with hrun | rfl
      · exact ht.runs run hrun
      · exact tidy_newRun ..
    · intro hfull run hrun
      rw [hruns, List.mem_append, List.mem_singleton] at hrun
      rcases hrun with hrun | rfl
      · exact ht.named hfull run hrun
      · exact ⟨uuid, rfl⟩
  | groupCreated hfull input now ref request hinput hnew hruns hframe hsupply =>
    refine ht.of_gateway hframe.gateway (.inl hsupply) ?_ (fun hn => absurd hfull hn)
    intro run hrun
    rw [hruns, List.mem_append, List.mem_singleton] at hrun
    rcases hrun with hrun | rfl
    · exact ht.runs run hrun
    · exact tidy_newRun ..
  | changed run run' hknows hchange hruns hframe hsupply =>
    exact ht.of_put hknows hchange.runId (hchange.tidy (ht.runs run hknows.mem)) hruns hframe
      (.inl hsupply)
  | bound run uuid reservation now hnext hknows happroved hfree hholds hruns hframe =>
    have htidy : (boundRun run (runTaskId uuid.text) reservation now).Tidy :=
      ⟨by simp [boundRun], by simp [boundRun]⟩
    exact ht.of_put hknows (by rfl) htidy hruns hframe (.inr ⟨uuid, hnext⟩)
  | asked run approval now hknows hfor hrecords hstatus hframe hsupply =>
    exact ht.of_others hframe.runs hframe.gateway (.inl hsupply)
  | decided hrecords hframe hsupply =>
    exact ht.of_others hframe.runs hframe.gateway (.inl hsupply)
  | entered run task hknows hbound hhandoff htasks hfile hframe hsupply =>
    exact ht.of_others hframe.runs hframe.gateway (.inl hsupply)
  | moved htasks hfile hframe hsupply =>
    exact ht.of_others hframe.runs hframe.gateway (.inl hsupply)
  | metered c hcalled hrun hframe hdraws =>
    refine ⟨by rw [hframe.runs]; exact ht.runs, fun hfull => ?_, fun hfull => ?_,
      by rw [hframe.runs]; exact ht.named⟩
    · have hl : (gatewayOf h).store.Linked (gatewayOf h).supply.drawn := ht.linked hfull
      have hl' : (c.run options.limits (gatewayOf h)).store.Linked
          (c.run options.limits (gatewayOf h)).supply.drawn := GatewayCall.linked hl c
      rwa [hrun] at hl'
    · have hs : (gatewayOf h).store.singlyHeld := ht.single hfull
      have hs' : (c.run options.limits (gatewayOf h)).store.singlyHeld :=
        GatewayCall.singlyHeld hs c (hcalled hfull)
      rwa [hrun] at hs'
  | reloaded hfull hstore hsupply =>
    refine ⟨?_, fun hn => absurd hfull hn, fun hn => absurd hfull hn, fun hn => absurd hfull hn⟩
    rw [hstore]
    exact ht.runs

theorem tidy_of_path (hpath : Relation.ReflTransGen (Step full careless) h h')
    (ht : Tidy full h) : Tidy full h' := by
  induction hpath with
  | refl => exact ht
  | tail _ hs ih => exact hs.tidy ih

section walks

variable {α β : Type} {Q : α → Machine (World options) → Prop}
  {R : β → Machine (World options) → Prop} {E E' : Fault JsError → Machine (World options) → Prop}

/-- One program after the other, from a tidy state on. -/
theorem walks_bind (ht : Tidy full h) {p : Proc (World options) α}
    {f : α → Proc (World options) β} (hp : Walks (Step full careless) h p Q E)
    (hE : ∀ e h', E e h' → E' e h')
    (hf : ∀ a h', Tidy full h' → Q a h' → Walks (Step full careless) h' (f a) R E') :
    Walks (Step full careless) h (p >>= f) R E' :=
  Walks.bind hp hE fun a h' hpath hQ => hf a h' (tidy_of_path hpath ht) hQ

/-- The same, where nobody catches what is thrown. -/
theorem walks_then (ht : Tidy full h) {p : Proc (World options) α}
    {f : α → Proc (World options) β} (hp : Walks (Step full careless) h p Q E)
    (hf : ∀ a h', Tidy full h' → Q a h' →
      Walks (Step full careless) h' (f a) R (fun _ _ => True)) :
    Walks (Step full careless) h (p >>= f) R (fun _ _ => True) :=
  walks_bind ht hp (fun _ _ _ => trivial) hf

/-- A handler, from a tidy state on. -/
theorem walks_tryCatch (ht : Tidy full h) {p : Proc (World options) α}
    {handler : JsError → Proc (World options) α} (hp : Walks (Step full careless) h p Q E)
    (hh : ∀ e h', Tidy full h' → E (.thrown e) h' →
      Walks (Step full careless) h' (handler e) Q E')
    (hcrash : ∀ h', E .crashed h' → E' .crashed h') :
    Walks (Step full careless) h (tryCatch p handler) Q E' :=
  Walks.tryCatch hp (fun e h' hpath hE => hh e h' (tidy_of_path hpath ht) hE) hcrash

end walks

/-! ## Calls of the gateway -/

/-- The identifiers drawn by a call of the gateway: none, or one. -/
def Drew (g g' : Machine Gateway) : Prop :=
  g'.supply = g.supply ∨ ∃ uuid, g.supply.next = some (uuid, g'.supply)

/-- **Every call of the gateway** is a step. -/
theorem walks_metered {α : Type} {p : Proc Gateway α} (c : GatewayCall)
    (hcalled : ¬ full → c.Called h)
    (hrun : c.run options.limits (gatewayOf h) = (p (gatewayOf h)).2)
    (hw : ¬ full → (p (gatewayOf h)).2.writes ⊆ h.writes)
    (hdrew : Drew (gatewayOf h) (p (gatewayOf h)).2) :
    Walks (Step full careless) h (inGateway p)
      (fun a h' => p (gatewayOf h) = (.ok a, gatewayOf h') ∧ OnGateway h h')
      (fun _ h' => OnGateway h h') := by
  rcases hresult : p (gatewayOf h) with ⟨result, g⟩
  rw [hresult] at hrun hw hdrew
  have hstep : Step full careless h ((Host.lens (World.gatewayLens options)).set h g) :=
    ⟨hw, .metered c hcalled (hrun.trans (Lens.get_set ..).symm) ⟨rfl, rfl, rfl⟩ hdrew⟩
  cases result with
  | error e => exact Walks.of_error (zoom_run hresult) (.single hstep) ⟨rfl, rfl, rfl⟩
  | ok a => exact Walks.of_ok (zoom_run hresult) (.single hstep) ⟨by rfl, ⟨rfl, rfl, rfl⟩⟩

theorem Commits.writes {α : Type} {g : Machine Gateway} {gateway : Gateway} {supply : Supply Uuid}
    {a : α} {result : Except (Fault JsError) α × Machine Gateway}
    (hc : Commits g gateway supply a result) : result.2.writes ⊆ g.writes := by
  rcases hc with ⟨ws, hws, rfl⟩ | ⟨fault, ws, hws, -, rfl⟩
  · exact hws
  · exact hws

theorem Commits.supply {α : Type} {g : Machine Gateway} {gateway : Gateway} {supply : Supply Uuid}
    {a : α} {result : Except (Fault JsError) α × Machine Gateway}
    (hc : Commits g gateway supply a result) : result.2.supply = supply := by
  rcases hc with ⟨ws, -, rfl⟩ | ⟨fault, ws, -, -, rfl⟩
  · rfl
  · rfl

theorem Commits.reservations {α : Type} {g : Machine Gateway} {gateway : Gateway}
    {supply : Supply Uuid} {a : α} {result : Except (Fault JsError) α × Machine Gateway}
    (hc : Commits g gateway supply a result) :
    result.2.store.state.reservations = gateway.state.reservations := by
  rcases hc with ⟨ws, -, rfl⟩ | ⟨fault, ws, -, -, rfl⟩
  · rfl
  · rfl

/-- What the release of a reservation comes to. -/
theorem release_spent {g : Machine Gateway} (hl : g.store.Linked g.supply.drawn) (now : ℕ)
    (reservation : TokenReservation) (hok : (release now reservation g).1 = .ok ()) :
    (release now reservation g).2.store.spent reservation.reservationId := by
  rcases release_cases now g reservation with ⟨e, hr⟩ | ⟨hnone, hended, hr⟩ |
    ⟨active, hget, -, hr⟩
  · rw [hr] at hok
    cases hok
  · rw [hr]
    exact ⟨hnone, .inl hended⟩
  · rcases hr with ⟨ws, -, hr⟩ | ⟨fault, ws, -, -, hr⟩
    · rw [hr]
      refine ⟨?_, .inr ⟨⟨active, .released, ⟨0, 0, true⟩⟩, ?_, hl.id_eq hget⟩⟩
      · show (g.store.released now reservation.reservationId active).state.reservations.get? _ = _
        rw [released_reservations, Record.get?_erase_self]
      · exact List.mem_append_right _ (List.mem_singleton_self _)
    · rw [hr] at hok
      cases hok

/-- What the settlement of a reservation comes to. -/
theorem settle_settledAs {limits : TokenGatewayLimits} {g : Machine Gateway}
    (hl : g.store.Linked g.supply.drawn) (now : ℕ) (reservation : TokenReservation)
    (usage : TokenUsage) {a : TokenSettlement}
    (hok : (settle limits now reservation usage g).1 = .ok a) :
    (settle limits now reservation usage g).2.store.settledAs reservation.reservationId
      a.inputTokens a.outputTokens := by
  rcases settle_cases limits now g reservation usage with ⟨e, hr⟩ |
    ⟨t, hnone, hended, hevent, hr⟩ | ⟨active, hget, -, -, hr⟩
  · rw [hr] at hok
    cases hok
  · rw [hr] at hok ⊢
    cases hok
    exact ⟨hnone, .inl ⟨t, hended, hevent, rfl, rfl⟩⟩
  · rcases hr with ⟨ws, -, hr⟩ | ⟨fault, ws, -, -, hr⟩
    · rw [hr] at hok ⊢
      cases hok
      refine ⟨?_, .inr ⟨⟨active, .settled, usage.settlement⟩, ?_, hl.id_eq hget, rfl, rfl, rfl⟩⟩
      · show (g.store.settled now reservation.reservationId active
          usage.settlement).state.reservations.get? _ = _
        rw [settled_reservations, Record.get?_erase_self]
      · exact List.mem_append_right _ (List.mem_singleton_self _)
    · rw [hr] at hok
      cases hok

/-- A released reservation is over at the gateway, and no other one has come up. -/
theorem walks_release (ht : Tidy full h) (now : ℕ) (reservation : TokenReservation) :
    Walks (Step full careless) h (inGateway (release now reservation))
      (fun _ h' => (¬ full → h'.store.gateway.spent reservation.reservationId) ∧
        (∀ id r, h'.store.gateway.state.reservations.get? id = some r →
          h.store.gateway.state.reservations.get? id = some r) ∧ OnGateway h h')
      (fun _ h' => OnGateway h h') := by
  have hframe : (release now reservation (gatewayOf h)).2.writes ⊆ h.writes ∧
      (release now reservation (gatewayOf h)).2.supply = h.supply ∧
      ∀ id r, (release now reservation (gatewayOf h)).2.store.state.reservations.get? id = some r →
        h.store.gateway.state.reservations.get? id = some r := by
    rcases release_cases now (gatewayOf h) reservation with ⟨e, hr⟩ | ⟨-, -, hr⟩ |
      ⟨active, -, -, hr⟩
    · rw [hr]
      exact ⟨List.Subset.refl _, rfl, fun _ _ hget => hget⟩
    · rw [hr]
      exact ⟨List.Subset.refl _, rfl, fun _ _ hget => hget⟩
    · refine ⟨hr.writes, hr.supply, fun id r hget => ?_⟩
      rw [hr.reservations, released_reservations] at hget
      exact get?_of_erase hget
  refine Walks.mono (walks_metered (.release now reservation) (fun _ => trivial) rfl
    (fun _ => hframe.1) (.inl hframe.2.1)) ?_ (fun _ _ he => he)
  rintro a h' ⟨hrun, hon⟩
  refine ⟨fun hfull => ?_, fun id r hget => ?_, hon⟩
  · have hl : (gatewayOf h).store.Linked (gatewayOf h).supply.drawn := ht.linked hfull
    have hspent := release_spent hl now reservation (congrArg Prod.fst hrun)
    rwa [hrun] at hspent
  · refine hframe.2.2 id r ?_
    rw [hrun]
    exact hget

/-- A settled reservation is over at the gateway, with the counts returned. -/
theorem walks_settle (ht : Tidy full h) (now : ℕ) (reservation : TokenReservation)
    (usage : TokenUsage) :
    Walks (Step full careless) h (inGateway (settle options.limits now reservation usage))
      (fun a h' => (¬ full → h'.store.gateway.settledAs reservation.reservationId a.inputTokens
        a.outputTokens) ∧ OnGateway h h')
      (fun _ h' => OnGateway h h') := by
  have hframe : (settle options.limits now reservation usage (gatewayOf h)).2.writes ⊆ h.writes ∧
      (settle options.limits now reservation usage (gatewayOf h)).2.supply = h.supply := by
    rcases settle_cases options.limits now (gatewayOf h) reservation usage with ⟨e, hr⟩ |
      ⟨t, -, -, -, hr⟩ | ⟨active, -, -, -, hr⟩
    · rw [hr]
      exact ⟨List.Subset.refl _, rfl⟩
    · rw [hr]
      exact ⟨List.Subset.refl _, rfl⟩
    · exact ⟨hr.writes, hr.supply⟩
  refine Walks.mono (walks_metered (.settle now reservation usage) (fun _ => trivial) rfl
    (fun _ => hframe.1) (.inl hframe.2)) ?_ (fun _ _ he => he)
  rintro a h' ⟨hrun, hon⟩
  refine ⟨fun hfull => ?_, hon⟩
  have hl : (gatewayOf h).store.Linked (gatewayOf h).supply.drawn := ht.linked hfull
  have hsettled := settle_settledAs hl now reservation usage (congrArg Prod.fst hrun)
  rwa [hrun] at hsettled

theorem walks_acknowledge (id : JsString) :
    Walks (Step full careless) h (inGateway (acknowledgeTerminal id))
      (fun _ h' => OnGateway h h') (fun _ h' => OnGateway h h') := by
  have hframe : (acknowledgeTerminal id (gatewayOf h)).2.writes ⊆ h.writes ∧
      (acknowledgeTerminal id (gatewayOf h)).2.supply = h.supply := by
    rcases acknowledgeTerminal_cases (gatewayOf h) id with ⟨-, hr⟩ | hr
    · rw [hr]
      exact ⟨List.Subset.refl _, rfl⟩
    · exact ⟨hr.writes, hr.supply⟩
  exact Walks.mono (walks_metered (.acknowledgeTerminal id) (fun _ => trivial) rfl
    (fun _ => hframe.1) (.inl hframe.2)) (fun _ _ hq => hq.2) (fun _ _ he => he)

/-- A reservation for an approved run is active, and is for its handoff. -/
theorem walks_reserve (hk : Knows h run) (happroved : run.status = .approved)
    (hfree : run.tokenReservation = none ∨ run.supervisorTaskId = none) (now : ℕ)
    {input : TokenReservationRequest} (hhandoff : input.handoffId = some (handoffIdFor run)) :
    Walks (Step full careless) h (inGateway (reserve options.limits now input))
      (fun a h' => HoldsFor h' run a ∧ OnGateway h h') (fun _ h' => OnGateway h h') := by
  have hkept : (normalizeRequest input).handoffId = some (keptHandoffId (handoffIdFor run)) := by
    rw [normalizeRequest, hhandoff]
    rfl
  have hframe : (reserve options.limits now input (gatewayOf h)).2.writes ⊆ h.writes ∧
      Drew (gatewayOf h) (reserve options.limits now input (gatewayOf h)).2 ∧
      ∀ a, (reserve options.limits now input (gatewayOf h)).1 = .ok a →
        (∃ id, (reserve options.limits now input (gatewayOf h)).2.store.state.reservations.get? id
          = some a) ∧ a.handoffId = some (keptHandoffId (handoffIdFor run)) := by
    rcases reserve_cases options.limits now (gatewayOf h) input with ⟨e, hr⟩ |
      ⟨existing, id, hget, hsame, -, hr⟩ | ⟨uuid, supply, hnext, -, -, hr⟩
    · rw [hr]
      exact ⟨List.Subset.refl _, .inl rfl, fun a ha => by cases ha⟩
    · rw [hr]
      refine ⟨List.Subset.refl _, .inl rfl, fun a ha => ?_⟩
      cases ha
      refine ⟨⟨id, hget⟩, ?_⟩
      rw [← hkept, ← hsame]
    · refine ⟨hr.writes, .inr ⟨uuid, ?_⟩, fun a ha => ?_⟩
      · rw [hr.supply]
        exact hnext
      · rcases hr with ⟨ws, -, hr⟩ | ⟨fault, ws, -, -, hr⟩
        · rw [hr] at ha ⊢
          cases ha
          refine ⟨⟨reservationIdOf uuid, ?_⟩, hkept⟩
          show ((gatewayOf h).store.grant _).state.reservations.get? _ = _
          rw [Gateway.grant, addUsage_reservations]
          exact Record.get?_set_self ..
        · rw [hr] at ha
          cases ha
  refine Walks.mono (walks_metered (.reserve now input) (fun _ => ?_) rfl
    (fun _ => hframe.1) hframe.2.1) ?_ (fun _ _ he => he)
  · exact ⟨run, hk, happroved, hfree, hhandoff⟩
  · rintro a h' ⟨hrun, hon⟩
    have ha := hframe.2.2 a (by rw [hrun])
    rw [hrun] at ha
    exact ⟨ha, hon⟩

end Autopilot
