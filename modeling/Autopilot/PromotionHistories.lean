/-
The integrity of promotions.

The link between a packet and its production run is kept by the run: the run names
the packet. Whatever the order in which runs are drafted, revised and moved to their
ends, and packets are approved, rejected, verified and published, no two runs ever
name one packet, a run never names another one than at first, and a packet that is
published has a completed run.

Every call is one of a few effects on the two stores. The invariants follow from the
effects, not from the calls. A publication checks the run before it takes the lock of
the packets, so it is two calls here as well as one, and anything can happen between
them.
-/
import Autopilot.ExactApproval
import Autopilot.PromotionPackets

set_option autoImplicit false

namespace Autopilot

namespace Promotions

open Prog Keyed RunStore

/-! ## Effects on runs -/

/-- No two runs name one packet. -/
def AtMostOneRun (runs : List RunRecord) : Prop :=
  ∀ run ∈ runs, ∀ other ∈ runs, ∀ packetId, run.current.promotionPacketId = some packetId →
    other.current.promotionPacketId = some packetId → other.runId = run.runId

/-- The later record names the same packet, and a completed run stays as it is. -/
structure StaysLinked (run run' : RunRecord) : Prop where
  runId : run'.runId = run.runId
  link : run'.current.promotionPacketId = run.current.promotionPacketId
  completed : run.status = .completed →
    run'.status = .completed ∧ run'.current.profile = run.current.profile

/-- What a call does to the runs. -/
inductive RunsEffect (runs runs' : List RunRecord) : Prop
  | kept (hruns : runs' = runs)
  /-- A new run that names no packet, or one that no run names. -/
  | added (run : RunRecord)
      (hlink : ∀ packetId, run.current.promotionPacketId = some packetId →
        ∀ other ∈ runs, other.current.promotionPacketId ≠ some packetId)
      (hruns : runs' = runs ++ [run])
  | changed (run run' : RunRecord) (hmem : run ∈ runs) (hstays : StaysLinked run run')
      (hruns : runs' = runs.map (put RunRecord.runId run'))

theorem StaysLinked.refl (run : RunRecord) : StaysLinked run run :=
  ⟨rfl, rfl, fun hcompleted => ⟨hcompleted, rfl⟩⟩

theorem StaysLinked.trans {run run' run'' : RunRecord} (h₁ : StaysLinked run run')
    (h₂ : StaysLinked run' run'') : StaysLinked run run'' := by
  refine ⟨h₂.runId.trans h₁.runId, h₂.link.trans h₁.link, ?_⟩
  intro hcompleted
  have hfirst := h₁.completed hcompleted
  have hsecond := h₂.completed hfirst.1
  exact ⟨hsecond.1, hsecond.2.trans hfirst.2⟩

/-- Every run of the earlier list is in the later one, with its link. -/
def AllStayLinked (runs runs' : List RunRecord) : Prop :=
  ∀ run ∈ runs, ∃ run' ∈ runs', StaysLinked run run'

theorem AllStayLinked.refl (runs : List RunRecord) : AllStayLinked runs runs :=
  fun run hrun => ⟨run, hrun, .refl run⟩

theorem AllStayLinked.trans {runs runs' runs'' : List RunRecord} (h₁ : AllStayLinked runs runs')
    (h₂ : AllStayLinked runs' runs'') : AllStayLinked runs runs'' := by
  intro run hrun
  obtain ⟨run', hrun', hstays⟩ := h₁ run hrun
  obtain ⟨run'', hrun'', hstays'⟩ := h₂ run' hrun'
  exact ⟨run'', hrun'', hstays.trans hstays'⟩

/-- A record of a changed list is the changed one or one of the others, and each comes from
a record of the list before. -/
theorem stays_of_mem_put {runs : List RunRecord} {run run' other : RunRecord} (hmem : run ∈ runs)
    (hstays : StaysLinked run run') (hother : other ∈ runs.map (put RunRecord.runId run')) :
    ∃ before ∈ runs, StaysLinked before other := by
  rcases mem_put hother with heq | ⟨hin, -⟩
  · rw [heq]
    exact ⟨run, hmem, hstays⟩
  · exact ⟨other, hin, .refl other⟩

theorem RunsEffect.atMostOne {runs runs' : List RunRecord} (he : RunsEffect runs runs')
    (hone : AtMostOneRun runs) : AtMostOneRun runs' := by
  cases he with
  | kept hruns => rwa [hruns]
  | added run hlink hruns =>
    rw [hruns]
    intro a ha b hb packetId hpa hpb
    rw [List.mem_append, List.mem_singleton] at ha hb
    rcases ha with ha | ha <;> rcases hb with hb | hb
    · exact hone a ha b hb packetId hpa hpb
    · rw [hb] at hpb
      exact absurd hpa (hlink packetId hpb a ha)
    · rw [ha] at hpa
      exact absurd hpb (hlink packetId hpa b hb)
    · rw [ha, hb]
  | changed run run' hmem hstays hruns =>
    rw [hruns]
    intro a ha b hb packetId hpa hpb
    obtain ⟨a₀, ha₀, hsa⟩ := stays_of_mem_put hmem hstays ha
    obtain ⟨b₀, hb₀, hsb⟩ := stays_of_mem_put hmem hstays hb
    rw [hsa.link] at hpa
    rw [hsb.link] at hpb
    rw [hsa.runId, hsb.runId]
    exact hone a₀ ha₀ b₀ hb₀ packetId hpa hpb

theorem RunsEffect.stay {runs runs' : List RunRecord} (he : RunsEffect runs runs')
    (hnodup : (runs.map RunRecord.runId).Nodup) : AllStayLinked runs runs' := by
  cases he with
  | kept hruns =>
    rw [hruns]
    exact .refl runs
  | added run hlink hruns =>
    rw [hruns]
    intro other hother
    exact ⟨other, List.mem_append_left _ hother, .refl other⟩
  | changed run run' hmem hstays hruns =>
    rw [hruns]
    intro other hother
    refine ⟨put RunRecord.runId run' other, List.mem_map_of_mem hother, ?_⟩
    unfold put
    split
    · rename_i hid
      -- two records of one identifier are one
      have hl := Keyed.lookup_of_mem hnodup hother
      rw [hid, hstays.runId, Keyed.lookup_of_mem hnodup hmem] at hl
      rw [← Option.some.inj hl]
      exact hstays
    · exact .refl other

/-- A write of the run store that makes no revision keeps the link. -/
theorem runsEffect_of_oneWrite {runs runs' : List RunRecord}
    (hw : OneWrite (fun _ => False) runs runs') : RunsEffect runs runs' := by
  cases hw with
  | refl => exact .kept rfl
  | single hw =>
    cases hw with
    | created input hallowed runId now ref request hfresh hruns => exact absurd hallowed id
    | revised record hmem hdraft input hallowed now hruns => exact absurd hallowed id
    | changed record record' hmem hcurrent hrevisions hstatus happroved hruns =>
      refine .changed record record' hmem ⟨?_, ?_, ?_⟩ hruns
      · unfold RunRecord.runId
        rw [hcurrent]
      · rw [hcurrent]
      · intro hcompleted
        refine ⟨?_, by rw [hcurrent]⟩
        rcases hstatus with hsame | hmove | happroval
        · rw [hsame, hcompleted]
        · -- nothing follows on a completed run
          rw [hcompleted] at hmove
          cases hmove
        · rw [hcompleted] at happroval
          exact absurd happroval.1 (by decide)

/-! ## Effects on packets -/

/-- A move of the status of a packet. -/
inductive PromotionMove : PromotionStatus → PromotionStatus → Prop
  | approved : PromotionMove .promotionPending .approved
  | rejected : PromotionMove .promotionPending .rejected
  | published : PromotionMove .approved .published
  | rolledBack : PromotionMove .published .rolledBack

/-- The run of a packet is completed, and it is a production run. -/
def CompletedRun (runs : List RunRecord) (packetId : JsString) : Prop :=
  ∃ run ∈ runs, run.current.promotionPacketId = some packetId ∧ run.status = .completed ∧
    run.current.profile = .prod

/-- What is needed to publish a packet: it is approved, its recorded verification is the
one that is given, and its run is completed. -/
structure Publishes (runs : List RunRecord) (given : JsString → Prop)
    (packet packet' : PromotionPacket) : Prop where
  status : packet.status = .approved
  approvals : packet.approvals ≠ []
  verification : ∃ reference, packet.fullVerificationRef = some reference ∧ given reference ∧
    packet'.fullVerificationRef = some reference
  run : CompletedRun runs packet.packetId

/-- How a call changes a packet. -/
structure PacketChange (runs : List RunRecord) (given : JsString → Prop)
    (packet packet' : PromotionPacket) : Prop where
  packetId : packet'.packetId = packet.packetId
  status : packet'.status = packet.status ∨ PromotionMove packet.status packet'.status
  publishes : packet.status ≠ .published → packet'.status = .published →
    Publishes runs given packet packet'

theorem PacketChange.refl (runs : List RunRecord) (given : JsString → Prop)
    (packet : PromotionPacket) : PacketChange runs given packet packet :=
  ⟨rfl, .inl rfl, fun hnot hpublished => absurd hpublished hnot⟩

/-- What a call does to the packets. -/
inductive PacketsEffect (runs : List RunRecord) (given : JsString → Prop)
    (packets packets' : List PromotionPacket) : Prop
  | kept (hpackets : packets' = packets)
  | added (packet : PromotionPacket) (hpending : packet.status = .promotionPending)
      (hpackets : packets' = packets ++ [packet])
  | changed (packet packet' : PromotionPacket) (hmem : packet ∈ packets)
      (hchange : PacketChange runs given packet packet')
      (hpackets : packets' = packets.map (put PromotionPacket.packetId packet'))

/-- Every packet of the earlier list is in the later one, and has changed as it may. -/
def AllChange (runs : List RunRecord) (given : JsString → Prop)
    (packets packets' : List PromotionPacket) : Prop :=
  ∀ packet ∈ packets, ∃ packet' ∈ packets', PacketChange runs given packet packet'

theorem PacketsEffect.change {runs : List RunRecord} {given : JsString → Prop}
    {packets packets' : List PromotionPacket} (he : PacketsEffect runs given packets packets')
    (hnodup : (packets.map PromotionPacket.packetId).Nodup) :
    AllChange runs given packets packets' := by
  cases he with
  | kept hpackets =>
    rw [hpackets]
    exact fun packet hpacket => ⟨packet, hpacket, .refl runs given packet⟩
  | added packet hpending hpackets =>
    rw [hpackets]
    intro other hother
    exact ⟨other, List.mem_append_left _ hother, .refl runs given other⟩
  | changed packet packet' hmem hchange hpackets =>
    rw [hpackets]
    intro other hother
    refine ⟨put PromotionPacket.packetId packet' other, List.mem_map_of_mem hother, ?_⟩
    unfold put
    split
    · rename_i hid
      have hl := Keyed.lookup_of_mem hnodup hother
      rw [hid, hchange.packetId, Keyed.lookup_of_mem hnodup hmem] at hl
      rw [← Option.some.inj hl]
      exact hchange
    · exact .refl runs given other

/-- A packet of the later list was there before, or it is pending. -/
def NewPending (packets packets' : List PromotionPacket) : Prop :=
  ∀ packet' ∈ packets', packet'.status = .promotionPending ∨
    ∃ packet ∈ packets, packet.packetId = packet'.packetId

theorem PacketsEffect.newPending {runs : List RunRecord} {given : JsString → Prop}
    {packets packets' : List PromotionPacket} (he : PacketsEffect runs given packets packets') :
    NewPending packets packets' := by
  intro packet' hpacket'
  cases he with
  | kept hpackets =>
    rw [hpackets] at hpacket'
    exact .inr ⟨packet', hpacket', rfl⟩
  | added packet hpending hpackets =>
    rw [hpackets, List.mem_append, List.mem_singleton] at hpacket'
    rcases hpacket' with hin | heq
    · exact .inr ⟨packet', hin, rfl⟩
    · rw [heq]
      exact .inl hpending
  | changed before after hmem hchange hpackets =>
    rw [hpackets] at hpacket'
    rcases mem_put hpacket' with heq | ⟨hin, -⟩
    · rw [heq]
      exact .inr ⟨before, hmem, hchange.packetId.symm⟩
    · exact .inr ⟨packet', hin, rfl⟩

/-- The packet is not published, or its run is completed. -/
def Covered (runs : List RunRecord) (packet : PromotionPacket) : Prop :=
  packet.status = .published ∨ packet.status = .rolledBack → CompletedRun runs packet.packetId

theorem CompletedRun.stays {runs runs' : List RunRecord} {packetId : JsString}
    (hc : CompletedRun runs packetId) (hstay : AllStayLinked runs runs') :
    CompletedRun runs' packetId := by
  obtain ⟨run, hrun, hlink, hcompleted, hprofile⟩ := hc
  obtain ⟨run', hrun', hstays⟩ := hstay run hrun
  have hdone := hstays.completed hcompleted
  exact ⟨run', hrun', hstays.link.trans hlink, hdone.1, hdone.2.trans hprofile⟩

theorem PacketChange.covered {runs : List RunRecord} {given : JsString → Prop}
    {packet packet' : PromotionPacket} (hchange : PacketChange runs given packet packet') (hcovered : Covered runs packet) :
    Covered runs packet' := by
  intro hout
  rw [hchange.packetId]
  by_cases hbefore : packet.status = .published ∨ packet.status = .rolledBack
  · exact hcovered hbefore
  · have hnot : packet.status ≠ .published := fun h => hbefore (.inl h)
    rcases hout with hpublished | hrolled
    · exact (hchange.publishes hnot hpublished).run
    · -- only a published packet is rolled back
      rcases hchange.status with hsame | hmove
      · rw [hsame] at hrolled
        exact absurd (.inr hrolled) hbefore
      · rw [hrolled] at hmove
        generalize packet.status = before at hmove hnot
        cases hmove
        exact absurd rfl hnot

theorem PacketsEffect.covered {runs : List RunRecord} {given : JsString → Prop}
    {packets packets' : List PromotionPacket} (he : PacketsEffect runs given packets packets')
    (hcovered : ∀ packet ∈ packets, Covered runs packet) :
    ∀ packet ∈ packets', Covered runs packet := by
  cases he with
  | kept hpackets => rwa [hpackets]
  | added packet hpending hpackets =>
    rw [hpackets]
    intro other hother
    rw [List.mem_append, List.mem_singleton] at hother
    rcases hother with hother | hother
    · exact hcovered other hother
    · intro hout
      rw [hother, hpending] at hout
      exact absurd hout (by decide)
  | changed packet packet' hmem hchange hpackets =>
    rw [hpackets]
    intro other hother
    rcases mem_put hother with heq | ⟨hin, -⟩
    · rw [heq]
      exact hchange.covered (hcovered packet hmem)
    · exact hcovered other hin

/-! ## Calls on runs -/

/-- What a call does to the runs, in one write or in several. -/
structure RunsKept (runs runs' : List RunRecord) : Prop where
  one : AtMostOneRun runs → AtMostOneRun runs'
  stay : AllStayLinked runs runs'

theorem RunsKept.refl (runs : List RunRecord) : RunsKept runs runs := ⟨id, .refl runs⟩

theorem RunsKept.trans {runs runs' runs'' : List RunRecord} (h₁ : RunsKept runs runs')
    (h₂ : RunsKept runs' runs'') : RunsKept runs runs'' :=
  ⟨fun hone => h₂.one (h₁.one hone), h₁.stay.trans h₂.stay⟩

theorem RunsEffect.keeps {runs runs' : List RunRecord} (he : RunsEffect runs runs')
    (hnodup : (runs.map RunRecord.runId).Nodup) : RunsKept runs runs' :=
  ⟨he.atMostOne, he.stay hnodup⟩

theorem runsKept_of_callWrites {runs runs' : List RunRecord}
    (hw : CallWrites (fun _ => False) runs runs') (hnodup : (runs.map RunRecord.runId).Nodup) :
    RunsKept runs runs' := by
  obtain ⟨between, hfirst, hsecond⟩ := hw
  have hbetween := (hfirst.continues hnodup).1
  exact ((runsEffect_of_oneWrite hfirst).keeps hnodup).trans
    ((runsEffect_of_oneWrite hsecond).keeps hbetween)

section world

variable {options : OrchestratorOptions}

/-- The runs are the same. -/
def SameRuns (h h' : Machine (World options)) : Prop := h'.store.runs = h.store.runs

theorem moves_askApproval (approval : ApprovalQueueRecord) :
    Moves SameRuns (askApproval approval : Proc (World options) Unit) := by
  intro h
  rfl

theorem moves_record (runId : JsString) :
    Moves SameRuns (record runId : Proc (World options) RunRecord) := by
  intro h
  show (RunStore.find runId ((Host.lens (World.runsLens options)).get h)).2.store = h.store.runs
  rw [find_run]
  split <;> rfl

/-- The runs after `prepareRun`: as before, or with a first revision of the input. -/
def Prepared (input : RunDraftInput) (now : ℕ) (h h' : Machine (World options)) : Prop :=
  h'.store.runs = h.store.runs ∨
    ∃ runId, h'.store.runs.runs
      = h.store.runs.runs ++ [newRun (newDraft input runId 1 now) none none]

theorem moves_prepareRun (env : Environment) (input : RunDraftInput) :
    Moves (Prepared input env.now) (prepareRun env input : Proc (World options) RunRecord) := by
  intro h
  unfold prepareRun
  rw [ofExcept_bind_run]
  split
  · rw [throwIf_bind_run]
    split
    · exact .inl rfl
    · -- the draft is stored, and what follows leaves the runs alone
      refine Moves.seq (R := Prepared input env.now) (S := SameRuns) (fun _ _ hp => hp) ?_ ?_ ?_ h
      · intro a b c hp hs
        unfold Prepared
        rw [show c.store.runs = b.store.runs from hs]
        exact hp
      · intro a
        rcases createRunDraft_cases (h := (Host.lens (World.runsLens options)).get a)
            env.resolveEnabledProject input env.now with
          ⟨fault, h', hrun, hdrew⟩ | ⟨uuid, h', -, -, -, hruns, hrun⟩
        · refine .inl ?_
          unfold inRuns
          rw [zoom_run hrun]
          exact hdrew.1
        · refine .inr ⟨uuid.text, ?_⟩
          unfold inRuns
          rw [zoom_run hrun]
          exact hruns
      · intro draft
        apply Moves.bind
        · exact fun _ _ _ hab hbc => Eq.trans hbc hab
        · exact moves_askApproval _
        · exact fun _ => moves_record _
  · exact .inl rfl

/-- The runs after `reviseRunWithApproval`: as before, or with a revision of the run. -/
def Revised (runId : JsString) (revision : ℕ) (input : RunDraftInput) (now : ℕ)
    (h h' : Machine (World options)) : Prop :=
  h'.store.runs = h.store.runs ∨
    ∃ run, lookup RunRecord.runId h.store.runs.runs runId = some run ∧ run.status = .draft ∧
      h'.store.runs.runs = h.store.runs.runs.map (put RunRecord.runId
        (revisedRun run (newDraft input runId (revision + 1) now) now))

theorem moves_reviseRunWithApproval (env : Environment) (runId : JsString) (revision : ℕ)
    (input : RunDraftInput) :
    Moves (Revised runId revision input env.now)
      (reviseRunWithApproval env runId revision input : Proc (World options) RunRecord) := by
  have hsame : ∀ a b c : Machine (World options), SameRuns a b → SameRuns b c → SameRuns a c :=
    fun _ _ _ hab hbc => Eq.trans hbc hab
  have hafter : ∀ a b c : Machine (World options), Revised runId revision input env.now a b →
      SameRuns b c → Revised runId revision input env.now a c := by
    intro a b c hr hs
    unfold Revised
    rw [show c.store.runs = b.store.runs from hs]
    exact hr
  intro h
  unfold reviseRunWithApproval
  rw [ofExcept_bind_run]
  split
  · refine Moves.seq (R := SameRuns) (S := Revised runId revision input env.now) ?_ ?_
      (moves_record runId) ?_ h
    · exact fun _ _ hs => .inl hs
    · intro a b c hs hr
      unfold Revised at hr ⊢
      rw [show b.store.runs = a.store.runs from hs] at hr
      exact hr
    · intro before
      refine Moves.seq (R := Revised runId revision input env.now) (S := SameRuns)
        (fun _ _ hr => hr) hafter ?_ ?_
      · intro a
        split
        · exact .inl rfl
        · rcases reviseRunDraft_cases (h := (Host.lens (World.runsLens options)).get a)
              env.resolveEnabledProject runId revision input env.now with
            ⟨fault, h', hrun, hdrew⟩ | ⟨run, h', hl, hdraft, -, -, hstored, hrun⟩
          · refine .inl ?_
            unfold inRuns
            rw [zoom_run hrun]
            exact hdrew.1
          · refine .inr ⟨run, hl, hdraft, ?_⟩
            unfold inRuns
            rw [zoom_run hrun]
            exact hstored.1
      · intro draft
        apply Moves.bind hsame
        · exact fun _ => rfl
        · intro world
          apply Moves.bind hsame
          · split
            · exact fun _ => rfl
            · exact moves_askApproval _
          · exact fun _ => moves_record _
  · exact .inl rfl

end world

/-! ## Calls on packets -/

section packets

variable {redact : Redaction}

/-- The packets after a transition: as before, or with one packet changed as `good` says. -/
def Transited (good : PromotionPacket → PromotionPacket → Prop)
    (s s' : Machine (PromotionStore redact)) : Prop :=
  s'.store = s.store ∨ ∃ packet ∈ s.store.packets, ∃ packet', good packet packet' ∧
    s'.store.packets = s.store.packets.map (put PromotionPacket.packetId packet')

theorem writePromotionStore_packets (packets : List PromotionPacket)
    (s : Machine (PromotionStore redact)) :
    (writePromotionStore packets s).2.store = s.store ∨
      (writePromotionStore packets s).2.store.packets = packets := by
  unfold writePromotionStore
  split
  · rename_i hvalid
    rcases Host.write_writes (fun _ => (⟨packets, hvalid⟩ : PromotionStore redact)) s with
      ⟨ws, -, hrun⟩ | ⟨fault, ws, -, -, hrun⟩
    · rw [hrun]
      exact .inr rfl
    · rw [hrun]
      exact .inl rfl
  · exact .inl rfl

theorem moves_transition (packetId : JsString)
    {update : PromotionPacket → Except JsError PromotionPacket}
    {good : PromotionPacket → PromotionPacket → Prop}
    (hgood : ∀ packet packet', packet.packetId = packetId → update packet = .ok packet' →
      good packet packet') :
    Moves (Transited good)
      (transition packetId update : Proc (PromotionStore redact) PromotionPacket) := by
  intro s
  unfold transition
  rw [throwIf_bind_run]
  split
  · exact .inl rfl
  · rw [bind_run, Host.read_run]
    dsimp only
    cases hl : lookup PromotionPacket.packetId s.store.packets packetId with
    | none => exact .inl rfl
    | some packet =>
      dsimp only
      rw [ofExcept_bind_run]
      cases hupdate : update packet with
      | error error => exact .inl rfl
      | ok packet' =>
        dsimp only
        have hmem := lookup_mem hl
        rw [bind_run]
        have hwrite := writePromotionStore_packets
          (s.store.packets.map (put PromotionPacket.packetId packet')) s
        split <;> rename_i hrun <;> rw [hrun] at hwrite
        · rcases hwrite with hsame | hstored
          · exact .inl hsame
          · exact .inr ⟨packet, hmem.1, packet', hgood packet packet' hmem.2 hupdate, hstored⟩
        · rcases hwrite with hsame | hstored
          · exact .inl hsame
          · exact .inr ⟨packet, hmem.1, packet', hgood packet packet' hmem.2 hupdate, hstored⟩

variable {α β : Type} {R : Machine (PromotionStore redact) → Machine (PromotionStore redact) → Prop}

/-- A check in front of a program. -/
theorem moves_throwIf_bind (hrefl : ∀ s, R s s) {refused : Prop} [Decidable refused]
    {error : JsError} {rest : Unit → Proc (PromotionStore redact) α}
    (hrest : Moves R (rest ())) : Moves R (throwIf refused error >>= rest) := by
  intro s
  rw [throwIf_bind_run]
  split
  · exact hrefl s
  · exact hrest s

/-- A text that is redacted in front of a program. -/
theorem moves_ofExcept_bind (hrefl : ∀ s, R s s) {result : Except JsError β}
    {rest : β → Proc (PromotionStore redact) α} (hrest : ∀ b, result = .ok b → Moves R (rest b)) :
    Moves R (ofExcept result >>= rest) := by
  intro s
  rw [ofExcept_bind_run]
  split
  · exact hrest _ rfl s
  · exact hrefl s

theorem Transited.refl {good : PromotionPacket → PromotionPacket → Prop}
    (s : Machine (PromotionStore redact)) : Transited good s s := .inl rfl

variable (runs : List RunRecord) (given : JsString → Prop)

theorem moves_approvePromotion (packetId : JsString) (approval : PromotionApproval) (now : ℕ) :
    Moves (Transited (PacketChange runs given))
      (approvePromotion packetId approval now : Proc (PromotionStore redact) PromotionPacket) := by
  unfold approvePromotion
  apply moves_throwIf_bind Transited.refl
  apply moves_ofExcept_bind Transited.refl
  intro approver _
  apply moves_ofExcept_bind Transited.refl
  intro reviewRef _
  apply moves_transition
  intro packet packet' _ hupdate
  split at hupdate
  · cases hupdate
  · rename_i hpending
    rw [not_not] at hpending
    cases hupdate
    refine ⟨rfl, .inr ?_, ?_⟩
    · rw [hpending]
      exact .approved
    · intro _ hpublished
      cases hpublished

theorem moves_rejectPromotion (packetId : JsString) (now : ℕ) :
    Moves (Transited (PacketChange runs given))
      (rejectPromotion packetId now : Proc (PromotionStore redact) PromotionPacket) := by
  apply moves_transition
  intro packet packet' _ hupdate
  split at hupdate
  · cases hupdate
  · rename_i hpending
    rw [not_not] at hpending
    cases hupdate
    refine ⟨rfl, .inr ?_, ?_⟩
    · rw [hpending]
      exact .rejected
    · intro _ hpublished
      cases hpublished

theorem moves_recordPromotionVerification (packetId fullVerificationRef : JsString) (now : ℕ) :
    Moves (Transited (PacketChange runs given))
      (recordPromotionVerification packetId fullVerificationRef now :
        Proc (PromotionStore redact) PromotionPacket) := by
  unfold recordPromotionVerification
  apply moves_throwIf_bind Transited.refl
  apply moves_ofExcept_bind Transited.refl
  intro normalized _
  apply moves_transition
  intro packet packet' _ hupdate
  split at hupdate
  · cases hupdate
  · split at hupdate
    · cases hupdate
    · cases hupdate
      exact ⟨rfl, .inl rfl, fun hnot hpublished => absurd hpublished hnot⟩

theorem moves_markPromotionRolledBack (packetId : JsString) (now : ℕ) :
    Moves (Transited (PacketChange runs given))
      (markPromotionRolledBack packetId now : Proc (PromotionStore redact) PromotionPacket) := by
  apply moves_transition
  intro packet packet' _ hupdate
  split at hupdate
  · cases hupdate
  · rename_i hpublished
    rw [not_not] at hpublished
    cases hupdate
    refine ⟨rfl, .inr ?_, ?_⟩
    · rw [hpublished]
      exact .rolledBack
    · intro hnot _
      exact absurd hpublished hnot

/-- The reference of the evidence, as it is stored. -/
def Gives (redact : Redaction) (evidence : PromotionPublishEvidence) (reference : JsString) :
    Prop :=
  boundedRedactedText redact evidence.fullVerificationRef maxRef = .ok reference

/-- A packet whose run is completed is published as it has to be. -/
theorem moves_markPromotionPublished (packetId : JsString) (evidence : PromotionPublishEvidence)
    (now : ℕ) (hrun : CompletedRun runs packetId) :
    Moves (Transited (PacketChange runs (Gives redact evidence)))
      (markPromotionPublished packetId evidence now :
        Proc (PromotionStore redact) PromotionPacket) := by
  unfold markPromotionPublished
  apply moves_throwIf_bind Transited.refl
  apply moves_ofExcept_bind Transited.refl
  intro prodRunId _
  apply moves_ofExcept_bind Transited.refl
  intro fullVerificationRef hreference
  apply moves_ofExcept_bind Transited.refl
  intro releaseAcceptanceRef _
  apply moves_ofExcept_bind Transited.refl
  intro rollbackRef _
  apply moves_transition
  intro packet packet' hid hupdate
  split at hupdate
  · cases hupdate
  · rename_i hready
    simp only [not_or, not_not] at hready
    split at hupdate
    · cases hupdate
    · rename_i hmatch
      rw [not_not] at hmatch
      cases hupdate
      refine ⟨rfl, .inr ?_, ?_⟩
      · rw [hready.1]
        exact .published
      · intro _ _
        refine ⟨hready.1, hready.2.1, ⟨fullVerificationRef, hmatch, hreference, rfl⟩, ?_⟩
        rw [hid]
        exact hrun

/-- The packets after one was built: as before, or with a new one that is pending. -/
def Built (s s' : Machine (PromotionStore redact)) : Prop :=
  s'.store = s.store ∨ ∃ packet : PromotionPacket, packet.status = .promotionPending ∧
    s'.store.packets = s.store.packets ++ [packet]

theorem Built.refl (s : Machine (PromotionStore redact)) : Built s s := .inl rfl

theorem built_write {packet : PromotionPacket} (hpending : packet.status = .promotionPending)
    (s : Machine (PromotionStore redact)) :
    Built s ((writePromotionStore (s.store.packets ++ [packet]) >>= fun _ =>
      (pure packet : Proc (PromotionStore redact) PromotionPacket)) s).2 := by
  have hwrite := writePromotionStore_packets (s.store.packets ++ [packet]) s
  rw [bind_run]
  split <;> rename_i hrun <;> rw [hrun] at hwrite
  · rcases hwrite with hsame | hstored
    · exact .inl hsame
    · exact .inr ⟨packet, hpending, hstored⟩
  · rcases hwrite with hsame | hstored
    · exact .inl hsame
    · exact .inr ⟨packet, hpending, hstored⟩

theorem moves_buildPromotionPacket (sha256 : Sha256) (run : RunRecord) (input : PromoteInput)
    (now : ℕ) :
    Moves Built
      (buildPromotionPacket sha256 run input now :
        Proc (PromotionStore redact) PromotionPacket) := by
  unfold buildPromotionPacket
  apply moves_throwIf_bind Built.refl
  apply moves_throwIf_bind Built.refl
  apply moves_throwIf_bind Built.refl
  apply moves_ofExcept_bind Built.refl
  intro intent _
  apply moves_ofExcept_bind Built.refl
  intro diffSummary _
  apply moves_ofExcept_bind Built.refl
  intro tests _
  apply moves_ofExcept_bind Built.refl
  intro risks _ s
  rw [bind_run, Host.read_run]
  dsimp only
  rw [throwIf_bind_run]
  split
  · exact .refl s
  · rw [randomUUID_bind_run]
    split
    · exact .refl s
    · rename_i uuid supply hnext
      exact built_write rfl { s with supply := supply }

end packets

/-! ## Calls of the control plane -/

section plane

variable {options : OrchestratorOptions} {redact : Redaction}

/-- The stores, and the publications whose run was found completed. -/
structure Scene (options : OrchestratorOptions) (redact : Redaction) where
  machine : Machine (Plane options redact)
  checked : List (JsString × PromotionPublishEvidence)

namespace Scene

/-- The stored runs. -/
def runs (scene : Scene options redact) : List RunRecord :=
  scene.machine.store.world.runs.runs

/-- The stored packets. -/
def packets (scene : Scene options redact) : List PromotionPacket :=
  scene.machine.store.promotions.packets

end Scene

def runsLens : Lens (Plane options redact) RunStore where
  get plane := plane.world.runs
  set plane runs := { plane with world := { plane.world with runs } }
  get_set _ _ := rfl
  set_get _ := rfl
  set_set _ _ _ := rfl

/-- A call of the control plane. -/
inductive PlaneCall where
  | create (env : Environment) (input : RunDraftInput) (fullVerificationRef : Option JsString)
  | revise (env : Environment) (runId : JsString) (revision : ℕ) (input : RunDraftInput)
      (fullVerificationRef : Option JsString)
  /-- A function of the run store, as the orchestrator calls it. -/
  | onRuns (call : RunCall)
  | build (runId : JsString) (input : PromoteInput) (now : ℕ)
  | approve (packetId : JsString) (approval : PromotionApproval) (now : ℕ)
  | reject (packetId : JsString) (now : ℕ)
  | verify (packetId fullVerificationRef : JsString) (now : ℕ)
  | publish (packetId : JsString) (evidence : PromotionPublishEvidence) (now : ℕ)
  /-- The two halves of a publication. -/
  | checkRun (packetId : JsString) (evidence : PromotionPublishEvidence)
  | markPublished (packetId : JsString) (evidence : PromotionPublishEvidence) (now : ℕ)
  | rollBack (packetId : JsString) (now : ℕ)

/-- The route that builds a packet. -/
def promoteRun (runId : JsString) (input : PromoteInput) (now : ℕ) :
    Proc (Plane options redact) PromotionPacket := do
  let plane ← Host.read
  match lookup RunRecord.runId plane.world.runs.runs runId with
  | none => throw (conflict "run_not_found")
  | some run => inPromotions (buildPromotionPacket options.queue.sha256 run input now)

/-- The stores after a call. -/
def PlaneCall.run (h : Machine (Plane options redact)) :
    PlaneCall → Machine (Plane options redact)
  | .create env input fullVerificationRef => (createRun env input fullVerificationRef h).2
  | .revise env runId revision input fullVerificationRef =>
    (reviseRun env runId revision input fullVerificationRef h).2
  | .onRuns call =>
    (Host.lens runsLens).set h (call.run ((Host.lens runsLens).get h))
  | .build runId input now => (promoteRun runId input now h).2
  | .approve packetId approval now => (inPromotions (approvePromotion packetId approval now) h).2
  | .reject packetId now => (inPromotions (rejectPromotion packetId now) h).2
  | .verify packetId fullVerificationRef now =>
    (inPromotions (recordPromotionVerification packetId fullVerificationRef now) h).2
  | .publish packetId evidence now => (publishPromotion packetId evidence now h).2
  | .checkRun _ _ => h
  | .markPublished packetId evidence now =>
    (inPromotions (markPromotionPublished packetId evidence now) h).2
  | .rollBack packetId now => (inPromotions (markPromotionRolledBack packetId now) h).2

/-- The scene after a call. -/
def PlaneCall.step (scene : Scene options redact) (call : PlaneCall) : Scene options redact where
  machine := call.run scene.machine
  checked :=
    match call with
    | .checkRun packetId evidence =>
      if publishable scene.runs packetId evidence then (packetId, evidence) :: scene.checked
      else scene.checked
    | _ => scene.checked

/-- The functions of the run store that are called apart from the two routes: the ones that
make no revision, and the drafts of groups, which are development runs. -/
def RunCall.OffRoute : RunCall → Prop
  | .createDraft .. | .reviseDraft .. => False
  | .createGroupDraft _ _ _ _ _ input _ => input.profile = .dev
  | _ => True

/-- The calls the code makes. -/
def PlaneCall.Permitted (scene : Scene options redact) : PlaneCall → Prop
  | .onRuns call => RunCall.OffRoute call
  | .markPublished packetId evidence _ => (packetId, evidence) ∈ scene.checked
  | _ => True

/-- The reference that a publication gives. -/
def PlaneCall.gives (redact : Redaction) : PlaneCall → JsString → Prop
  | .publish _ evidence _ | .markPublished _ evidence _ => Gives redact evidence
  | _ => fun _ => False

/-- What a call does to the two stores: it changes one of them. -/
inductive Outcome (given : JsString → Prop) (plane plane' : Plane options redact) : Prop
  | onRuns (hruns : RunsKept plane.world.runs.runs plane'.world.runs.runs)
      (hpackets : plane'.promotions.packets = plane.promotions.packets)
  | onPackets (hruns : plane'.world.runs.runs = plane.world.runs.runs)
      (hpackets : PacketsEffect plane.world.runs.runs given plane.promotions.packets
        plane'.promotions.packets)

theorem Outcome.refl {given : JsString → Prop} (plane : Plane options redact) :
    Outcome given plane plane :=
  .onPackets rfl (.kept rfl)

/-- A run that is no production run names no packet. -/
theorem link_of_not_prod {run : RunRecord} (hv : isRunRecord run = true)
    (hprofile : run.current.profile ≠ .prod) : run.current.promotionPacketId = none := by
  have hdraft : validDraft run.current = true := by
    simp only [isRunRecord, Bool.and_eq_true] at hv
    exact hv.1.1.1.1.1.1.1.1.1.1.1.1.1.2
  simp only [validDraft, validStoredProfileFields, Bool.and_eq_true] at hdraft
  have hfields := hdraft.2
  split at hfields
  · simp only [Bool.and_eq_true, decide_eq_true_eq] at hfields
    exact hfields.2
  · simp only [Bool.and_eq_true, decide_eq_true_eq] at hfields
    exact hfields.2
  · rename_i hprod
    exact absurd hprod hprofile

theorem dev_of_not_prod {input : RunDraftInput} (h : input.profile ≠ .prod) :
    input.profile = .dev := by
  cases hprofile : input.profile with
  | dev => rfl
  | prod => exact absurd hprofile h

variable {given : JsString → Prop}

/-- A first revision that names no packet of another run. -/
theorem outcome_prepared (env : Environment) (input : RunDraftInput)
    (h : Machine (Plane options redact))
    (hlink : ∀ packetId, (if input.profile = .dev then none else input.promotionPacketId)
        = some packetId →
      ∀ other ∈ h.store.world.runs.runs, other.current.promotionPacketId ≠ some packetId) :
    Outcome given h.store (inWorld (prepareRun env input) h).2.store := by
  have hmoves := moves_prepareRun env input
    ((Host.lens worldLens).get h)
  refine .onRuns ?_ rfl
  rcases hmoves with hsame | ⟨runId, hadded⟩
  · rw [show (inWorld (prepareRun env input) h).2.store.world.runs = h.store.world.runs from hsame]
    exact .refl _
  · have heffect : RunsEffect h.store.world.runs.runs
        (inWorld (prepareRun env input) h).2.store.world.runs.runs :=
      .added (newRun (newDraft input runId 1 env.now) none none) hlink hadded
    exact heffect.keeps h.store.world.runs.nodup

theorem outcome_createRun (env : Environment) (input : RunDraftInput)
    (fullVerificationRef : Option JsString) (h : Machine (Plane options redact)) :
    Outcome given h.store (createRun env input fullVerificationRef h).2.store := by
  unfold createRun
  split
  · rename_i hprod
    unfold createProdDraft
    cases hpacketId : input.promotionPacketId with
    | none => exact .refl _
    | some packetId =>
      cases fullVerificationRef with
      | none => exact .refl _
      | some reference =>
        dsimp only
        rw [throwIf_bind_run]
        split
        · exact .refl _
        · rw [bind_run, Host.read_run]
          dsimp only
          cases hl : lookup PromotionPacket.packetId h.store.promotions.packets packetId with
          | none => exact .refl _
          | some packet =>
            dsimp only
            rw [throwIf_bind_run]
            split
            · exact .refl _
            · rename_i hready
              -- no run names the packet yet
              apply outcome_prepared
              intro found hfound other hother hlinked
              rw [hprod, if_neg (by decide), hpacketId] at hfound
              have hsame : packetId = found := Option.some.inj hfound
              apply hready
              refine .inr (List.any_eq_true.2 ⟨other, hother, ?_⟩)
              rw [hlinked, hsame]
              exact decide_eq_true rfl
  · rename_i hprod
    apply outcome_prepared
    intro found hfound
    rw [if_pos (dev_of_not_prod hprod)] at hfound
    cases hfound

/-- A revision that keeps the link of the run. -/
theorem outcome_revised (env : Environment) (runId : JsString) (revision : ℕ)
    (input : RunDraftInput) (h : Machine (Plane options redact))
    (hlink : ∀ run, lookup RunRecord.runId h.store.world.runs.runs runId = some run →
      (if input.profile = .dev then none else input.promotionPacketId)
        = run.current.promotionPacketId) :
    Outcome given h.store (inWorld (reviseRunWithApproval env runId revision input) h).2.store := by
  have hmoves := moves_reviseRunWithApproval env runId revision input
    ((Host.lens worldLens).get h)
  refine .onRuns ?_ rfl
  rcases hmoves with hsame | ⟨run, hl, hdraft, hstored⟩
  · rw [show (inWorld (reviseRunWithApproval env runId revision input) h).2.store.world.runs
      = h.store.world.runs from hsame]
    exact .refl _
  · have hid : runId = run.runId := (lookup_mem hl).2.symm
    have hstays : StaysLinked run
        (revisedRun run (newDraft input runId (revision + 1) env.now) env.now) := by
      refine ⟨hid, hlink run hl, ?_⟩
      intro hcompleted
      rw [hdraft] at hcompleted
      cases hcompleted
    have heffect : RunsEffect h.store.world.runs.runs
        (inWorld (reviseRunWithApproval env runId revision input) h).2.store.world.runs.runs :=
      .changed run _ (lookup_mem hl).1 hstays hstored
    exact heffect.keeps h.store.world.runs.nodup

theorem outcome_reviseProdDraft (env : Environment) (runId : JsString) (revision : ℕ)
    (input : RunDraftInput) (fullVerificationRef : Option JsString)
    (h : Machine (Plane options redact)) :
    Outcome given h.store
      (reviseProdDraft env runId revision input fullVerificationRef h).2.store := by
  unfold reviseProdDraft
  rw [bind_run, Host.read_run]
  dsimp only
  cases hl : lookup RunRecord.runId h.store.world.runs.runs runId with
  | none => exact .refl _
  | some existing =>
    cases hpacketId : input.promotionPacketId with
    | none => exact .refl _
    | some packetId =>
      cases fullVerificationRef with
      | none => exact .refl _
      | some reference =>
        dsimp only
        rw [throwIf_bind_run]
        split
        · exact .refl _
        · rename_i hsame
          simp only [not_or, not_not] at hsame
          rw [throwIf_bind_run]
          split
          · exact .refl _
          · apply outcome_revised
            intro run hrun
            rw [hl] at hrun
            rw [← Option.some.inj hrun, hsame.2.1, if_neg (by decide), hpacketId, hsame.2.2.1]

theorem outcome_reviseRun (env : Environment) (runId : JsString) (revision : ℕ)
    (input : RunDraftInput) (fullVerificationRef : Option JsString)
    (h : Machine (Plane options redact)) :
    Outcome given h.store (reviseRun env runId revision input fullVerificationRef h).2.store := by
  unfold reviseRun
  rw [throwIf_bind_run]
  split
  · exact .refl _
  · rw [bind_run, Host.read_run]
    dsimp only
    cases hl : lookup RunRecord.runId h.store.world.runs.runs runId with
    | none => exact .refl _
    | some existing =>
      dsimp only
      split
      · exact outcome_reviseProdDraft env runId revision input fullVerificationRef h
      · rename_i hdev
        simp only [not_or] at hdev
        apply outcome_revised
        intro run hrun
        rw [hl] at hrun
        have hlink := link_of_not_prod
          (h.store.world.runs.record_valid (lookup_mem hl).1) hdev.1
        rw [if_pos (dev_of_not_prod hdev.2), ← Option.some.inj hrun, hlink]

/-- The functions of the run store keep the links. -/
theorem runsKept_offRoute {call : RunCall} (hoff : RunCall.OffRoute call)
    (h : Machine RunStore) : RunsKept h.store.runs (call.run h).store.runs := by
  by_cases hinput : call.input? = none
  · apply runsKept_of_callWrites _ h.store.nodup
    apply call.writes
    intro input hsome
    rw [hinput] at hsome
    cases hsome
  · -- the draft of a group
    cases call with
    | createGroupDraft sha256 resolve runId ref operator input now =>
      have heffect : RunsEffect h.store.runs
          (createGroupRunDraft sha256 resolve runId ref operator input now h).2.store.runs := by
        rcases createGroupRunDraft_cases (h := h) sha256 resolve runId ref operator input now with
          ⟨fault, h', hrun, hdrew⟩ | ⟨request, h', -, -, -, -, hruns, hrun⟩
        · rw [hrun, hdrew.1]
          exact .kept rfl
        · rw [hrun]
          refine .added _ ?_ hruns
          intro packetId hlink
          replace hlink : (if input.profile = .dev then none else input.promotionPacketId)
            = some packetId := hlink
          have hdev : input.profile = .dev := hoff
          rw [if_pos hdev] at hlink
          cases hlink
      exact heffect.keeps h.store.nodup
    | createDraft => exact absurd hoff id
    | reviseDraft => exact absurd hoff id
    | _ => exact absurd rfl hinput

/-- A transition of a packet leaves the runs alone. -/
theorem outcome_transited {p : Proc (PromotionStore redact) PromotionPacket}
    {h : Machine (Plane options redact)}
    (hp : Moves (Transited (PacketChange h.store.world.runs.runs given)) p) :
    Outcome given h.store (inPromotions p h).2.store := by
  refine .onPackets rfl ?_
  rcases hp ((Host.lens promotionsLens).get h) with hsame | ⟨packet, hmem, packet', hgood, hput⟩
  · exact .kept (congrArg PromotionStore.packets hsame)
  · exact .changed packet packet' hmem hgood hput

theorem completedRun_of_publishable {runs : List RunRecord} {packetId : JsString}
    {evidence : PromotionPublishEvidence} (h : publishable runs packetId evidence = true) :
    CompletedRun runs packetId := by
  unfold publishable at h
  rw [Option.any_eq_true] at h
  obtain ⟨run, hl, hrun⟩ := h
  simp only [Bool.and_eq_true, decide_eq_true_eq] at hrun
  exact ⟨run, (lookup_mem hl).1, hrun.2, hrun.1.1, hrun.1.2⟩

/-- **Every call** has one of the two outcomes. -/
theorem PlaneCall.outcome {scene : Scene options redact} (call : PlaneCall)
    (hpermitted : call.Permitted scene)
    (hchecked : ∀ x ∈ scene.checked, CompletedRun scene.runs x.1) :
    Outcome (call.gives redact) scene.machine.store (call.run scene.machine).store := by
  cases call with
  | create env input fullVerificationRef => exact outcome_createRun ..
  | revise env runId revision input fullVerificationRef => exact outcome_reviseRun ..
  | onRuns call =>
    refine .onRuns ?_ rfl
    exact runsKept_offRoute hpermitted ((Host.lens runsLens).get scene.machine)
  | build runId input now =>
    show Outcome _ scene.machine.store (promoteRun runId input now scene.machine).2.store
    unfold promoteRun
    rw [bind_run, Host.read_run]
    dsimp only
    cases hl : lookup RunRecord.runId scene.machine.store.world.runs.runs runId with
    | none => exact .refl _
    | some run =>
      refine .onPackets rfl ?_
      rcases moves_buildPromotionPacket options.queue.sha256 run input now
        ((Host.lens promotionsLens).get scene.machine) with hsame | ⟨packet, hpending, hadded⟩
      · exact .kept (congrArg PromotionStore.packets hsame)
      · exact .added packet hpending hadded
  | approve packetId approval now => exact outcome_transited (moves_approvePromotion _ _ packetId approval now)
  | reject packetId now => exact outcome_transited (moves_rejectPromotion _ _ packetId now)
  | verify packetId fullVerificationRef now =>
    exact outcome_transited
      (moves_recordPromotionVerification _ _ packetId fullVerificationRef now)
  | publish packetId evidence now =>
    show Outcome _ scene.machine.store (publishPromotion packetId evidence now scene.machine).2.store
    unfold publishPromotion
    rw [bind_run, Host.read_run]
    dsimp only
    rw [throwIf_bind_run]
    split
    · exact .refl _
    · rename_i hpublishable
      rw [not_not] at hpublishable
      exact outcome_transited (moves_markPromotionPublished _ packetId evidence now
        (completedRun_of_publishable hpublishable))
  | checkRun packetId evidence => exact .refl _
  | markPublished packetId evidence now =>
    exact outcome_transited (moves_markPromotionPublished _ packetId evidence now
      (hchecked _ hpermitted))
  | rollBack packetId now => exact outcome_transited (moves_markPromotionRolledBack _ _ packetId now)

/-! ## Runs of the control plane -/

/-- What holds between any two calls. -/
structure Integrity (scene : Scene options redact) : Prop where
  one : AtMostOneRun scene.runs
  covered : ∀ packet ∈ scene.packets, Covered scene.runs packet
  checked : ∀ x ∈ scene.checked, CompletedRun scene.runs x.1

/-- What one call does to runs and packets. -/
structure CallChange (given : JsString → Prop) (scene scene' : Scene options redact) : Prop where
  runs : AllStayLinked scene.runs scene'.runs
  packets : AllChange scene.runs given scene.packets scene'.packets
  added : NewPending scene.packets scene'.packets

theorem packets_nodup (store : PromotionStore redact) :
    (store.packets.map PromotionPacket.packetId).Nodup := by
  have hvalid := store.valid
  simp only [isPromotionStore, Bool.and_eq_true, decide_eq_true_eq] at hvalid
  exact hvalid.2

/-- The publications found ready stay ready, and a new one is. -/
theorem PlaneCall.checked_step {scene : Scene options redact} (call : PlaneCall)
    (hchecked : ∀ x ∈ scene.checked, CompletedRun scene.runs x.1) :
    ∀ x ∈ (call.step scene).checked, CompletedRun scene.runs x.1 := by
  cases call with
  | checkRun packetId evidence =>
    intro x hx
    replace hx : x ∈ if publishable scene.runs packetId evidence then
      (packetId, evidence) :: scene.checked else scene.checked := hx
    split at hx
    · rename_i hpublishable
      rw [List.mem_cons] at hx
      rcases hx with heq | hin
      · rw [heq]
        exact completedRun_of_publishable hpublishable
      · exact hchecked x hin
    · exact hchecked x hx
  | _ => exact hchecked

/-- **One call** keeps the integrity and changes the stores as it may. -/
theorem PlaneCall.integrity {scene : Scene options redact} (call : PlaneCall)
    (hpermitted : call.Permitted scene) (hi : Integrity scene) :
    Integrity (call.step scene) ∧ CallChange (call.gives redact) scene (call.step scene) := by
  have hchecked := call.checked_step hi.checked
  cases call.outcome hpermitted hi.checked with
  | onRuns hruns hpackets =>
    replace hruns : RunsKept scene.runs (call.step scene).runs := hruns
    replace hpackets : (call.step scene).packets = scene.packets := hpackets
    refine ⟨⟨hruns.one hi.one, ?_, ?_⟩, ⟨hruns.stay, ?_, ?_⟩⟩
    · intro packet hpacket hout
      rw [hpackets] at hpacket
      exact (hi.covered packet hpacket hout).stays hruns.stay
    · intro x hx
      exact (hchecked x hx).stays hruns.stay
    · rw [hpackets]
      intro packet hpacket
      exact ⟨packet, hpacket, .refl _ _ packet⟩
    · rw [hpackets]
      intro packet hpacket
      exact .inr ⟨packet, hpacket, rfl⟩
  | onPackets hruns hpackets =>
    replace hruns : (call.step scene).runs = scene.runs := hruns
    replace hpackets : PacketsEffect scene.runs (call.gives redact) scene.packets
      (call.step scene).packets := hpackets
    refine ⟨⟨?_, ?_, ?_⟩, ⟨?_, ?_, hpackets.newPending⟩⟩
    · rw [hruns]
      exact hi.one
    · rw [hruns]
      exact hpackets.covered hi.covered
    · rw [hruns]
      exact hchecked
    · rw [hruns]
      exact .refl scene.runs
    · exact hpackets.change (packets_nodup _)

/-- The scenes that calls lead to from one where nothing is stored. -/
inductive PromotionRun : Scene options redact → Prop
  | start (machine : Machine (Plane options redact)) (hruns : machine.store.world.runs = .empty)
      (hpackets : machine.store.promotions = .empty redact) : PromotionRun ⟨machine, []⟩
  | call {scene : Scene options redact} (hrun : PromotionRun scene) (c : PlaneCall)
      (hpermitted : c.Permitted scene) : PromotionRun (c.step scene)

/-- The later scene comes from the earlier one by calls. -/
inductive Leads (scene : Scene options redact) : Scene options redact → Prop
  | refl : Leads scene scene
  | call {scene' : Scene options redact} (hl : Leads scene scene') (c : PlaneCall)
      (hpermitted : c.Permitted scene') : Leads scene (c.step scene')

theorem PromotionRun.integrity {scene : Scene options redact} (hr : PromotionRun scene) :
    Integrity scene := by
  induction hr with
  | start machine hruns hpackets =>
    refine ⟨?_, ?_, ?_⟩
    · intro run hrun
      replace hrun : run ∈ machine.store.world.runs.runs := hrun
      rw [hruns] at hrun
      cases hrun
    · intro packet hpacket
      replace hpacket : packet ∈ machine.store.promotions.packets := hpacket
      rw [hpackets] at hpacket
      cases hpacket
    · intro x hx
      cases hx
  | call hrun c hpermitted ih => exact (c.integrity hpermitted ih).1

theorem PromotionRun.leads {scene scene' : Scene options redact} (hr : PromotionRun scene)
    (hl : Leads scene scene') : PromotionRun scene' := by
  induction hl with
  | refl => exact hr
  | call hl c hpermitted ih => exact ih.call c hpermitted

/-- The packet is kept, and its status has only made the moves there are. -/
def Moved (packets packets' : List PromotionPacket) : Prop :=
  ∀ packet ∈ packets, ∃ packet' ∈ packets', packet'.packetId = packet.packetId ∧
    Relation.ReflTransGen PromotionMove packet.status packet'.status

theorem Moved.refl (packets : List PromotionPacket) : Moved packets packets :=
  fun packet hpacket => ⟨packet, hpacket, rfl, .refl⟩

/-- A change moves the status once or not at all. -/
theorem Moved.change {runs : List RunRecord} {given : JsString → Prop}
    {packets packets' packets'' : List PromotionPacket} (hm : Moved packets packets')
    (hc : AllChange runs given packets' packets'') : Moved packets packets'' := by
  intro packet hpacket
  obtain ⟨packet', hpacket', hid, hmoves⟩ := hm packet hpacket
  obtain ⟨packet'', hpacket'', hchange⟩ := hc packet' hpacket'
  refine ⟨packet'', hpacket'', hchange.packetId.trans hid, ?_⟩
  rcases hchange.status with hsame | hmove
  · rw [hsame]
    exact hmoves
  · exact hmoves.tail hmove

theorem PromotionRun.past {scene scene' : Scene options redact} (hr : PromotionRun scene)
    (hl : Leads scene scene') :
    AllStayLinked scene.runs scene'.runs ∧ Moved scene.packets scene'.packets := by
  induction hl with
  | refl => exact ⟨.refl scene.runs, .refl scene.packets⟩
  | call hl c hpermitted ih =>
    have hchange := (c.integrity hpermitted (hr.leads hl).integrity).2
    exact ⟨ih.1.trans hchange.runs, ih.2.change hchange.packets⟩

/-- **Promotions keep their integrity.** Between any two moments of any run of the control
plane: no two runs name one packet, and a run names the packet it named; a packet has only
moved from pending to approved, published and rolled back, or to rejected; a packet that was
published has a completed production run. The next call, whichever it is, publishes a packet
only if it was approved, its recorded verification is the one that is given and its run is
completed. -/
theorem promotion_integrity {scene scene' : Scene options redact} (hr : PromotionRun scene)
    (hl : Leads scene scene') :
    (AtMostOneRun scene'.runs ∧ AllStayLinked scene.runs scene'.runs) ∧
      Moved scene.packets scene'.packets ∧
      (∀ packet ∈ scene'.packets, Covered scene'.runs packet) ∧
      ∀ c : PlaneCall, c.Permitted scene' →
        CallChange (c.gives redact) scene' (c.step scene') := by
  have hi := (hr.leads hl).integrity
  have hpast := hr.past hl
  refine ⟨⟨hi.one, hpast.1⟩, hpast.2, hi.covered, ?_⟩
  intro c hpermitted
  exact (c.integrity hpermitted hi).2

end plane

/-! A development run is promoted: its packet is approved and verified, and published when
the production run is completed. -/

section sample

abbrev PromotionScene := Scene sampleControl (fun value maximum => value.take maximum)

def promotionStart : PromotionScene where
  machine := ⟨⟨.initial sampleControl, .empty _⟩, [],
    .fresh [sampleUuid, sampleUuid', sampleUuid''] sampleThree_nodup⟩
  checked := []

def promotionRunCompleted (runId : JsString) : List PlaneCall :=
  [.onRuns (.approve runId 1 (js "owner") 2), .onRuns (.transition runId .queued 3),
    .onRuns (.transition runId .running 4), .onRuns (.transition runId .completed 5)]

def promotedPacket : JsString := js "promo-" ++ sampleUuid.text ++ js "-1-00000000"

def promotedInput : RunDraftInput :=
  { sampleInput with profile := .prod, promotionPacketId := some promotedPacket }

def promotionEvidence : PromotionPublishEvidence where
  prodRunId := sampleUuid''.text
  fullVerificationRef := js "checks/1"
  releaseAcceptanceRef := js "release/1"
  rollbackRef := js "rollback/1"

def promotionCalls : List PlaneCall :=
  .create sampleEnvironment sampleInput none :: promotionRunCompleted sampleUuid.text ++
    [.build sampleUuid.text ⟨js "ship", js "one line", [js "unit"], []⟩ 6,
      .approve promotedPacket ⟨js "owner", 7, js "review/1"⟩ 7,
      .verify promotedPacket (js "checks/1") 8,
      .create sampleEnvironment promotedInput (some (js "checks/1"))] ++
    promotionRunCompleted sampleUuid''.text

/-- The scene after some calls. -/
def playPlane (scene : PromotionScene) (calls : List PlaneCall) : PromotionScene :=
  calls.foldl (fun scene c => c.step scene) scene

theorem playPlane_leads {scene before : PromotionScene} (hl : Leads before scene)
    {calls : List PlaneCall}
    (hcalls : ∀ c ∈ calls, ∀ scene : PromotionScene, c.Permitted scene) :
    Leads before (playPlane scene calls) := by
  induction calls generalizing scene with
  | nil => exact hl
  | cons c rest ih =>
    apply ih (hl.call c (hcalls c List.mem_cons_self scene))
    exact fun c' hc' => hcalls c' (List.mem_cons_of_mem c hc')

def promotionReady : PromotionScene := playPlane promotionStart promotionCalls

def promotionPublished : PromotionScene :=
  (PlaneCall.publish promotedPacket promotionEvidence 9).step promotionReady

theorem promotion_integrity_sample :
    (promotionReady.packets.map (·.status) = [.approved] ∧
      promotionPublished.packets.map (·.status) = [.published]) ∧
      Moved promotionStart.packets promotionPublished.packets ∧
      ∀ packet ∈ promotionPublished.packets, Covered promotionPublished.runs packet := by
  have hready : Leads promotionStart promotionReady := by
    apply playPlane_leads .refl
    intro c hc scene
    simp only [promotionCalls, promotionRunCompleted, List.cons_append, List.nil_append,
      List.mem_cons, List.not_mem_nil, or_false] at hc
    rcases hc with h | h | h | h | h | h | h | h | h | h | h | h | h <;> rw [h] <;> trivial
  have hpublished : Leads promotionStart promotionPublished := hready.call _ trivial
  have hkept := promotion_integrity (.start _ rfl rfl) hpublished
  exact ⟨by decide +kernel, hkept.2.1, hkept.2.2.1⟩

end sample

end Promotions

end Autopilot
