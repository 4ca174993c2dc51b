/-
The history of a run store.

A call of the store reads the document, changes one record or adds one, and writes
the document. Whatever the order of the calls, and whichever of their writes fail,
the status of a run moves along the table or by an approval, its revisions are only
ever appended to, and what is on disk reads back as what was written.

The file is modelled apart from the documents: a record on disk may lack the fields
that later versions added, and the reader fills them in. A file that is no document
of this kind, or too long, is unreadable. The writer refuses what the reader would.
-/
import Autopilot.RunStoreSpec

set_option autoImplicit false

namespace Autopilot

open Prog Keyed RunStore

/-! ## The file -/

/-- A draft on disk. -/
structure StoredDraft where
  /-- The draft, apart from the acknowledgement. -/
  draft : RunDraft
  promptReviewAcknowledged : Option Bool
  deriving DecidableEq

/-- `orchestration_request` on disk. -/
structure StoredRequest where
  operator : JsString
  estimatedTokens : ℕ
  promptCommitment : Option (Option JsString)
  deriving DecidableEq

/-- A record on disk. A field that may be missing is an option. -/
structure StoredRun where
  orchestrationRef : Option (Option OrchestrationRef)
  orchestrationRequest : Option StoredRequest
  current : StoredDraft
  revisions : List StoredDraft
  status : RunStatus
  approvedRevision : Option ℕ
  approvedBy : Option JsString
  approvedAt : Option ℕ
  supervisorTaskId : Option JsString
  workerRunId : Option JsString
  terminalReason : Option JsString
  tokenReservation : Option (Option TokenReservation)
  tokenSettlement : Option (Option RunTokenSettlement)
  reservationStatus : Option ReservationStatus
  providerResult : Option (Option RunProviderResult)
  cancellationRequested : Option Bool
  queueCompensationRequested : Option Bool
  dispatchFailure : Option (Option JsString)
  retryInputTokens : Option ℕ
  retryOutputTokens : Option ℕ
  artifacts : List RunArtifact
  updatedAt : ℕ
  deriving DecidableEq

/-- The file of the runs. -/
inductive RunsFile where
  | missing
  /-- No JSON, a document of another kind, or one that is too long. -/
  | unreadable
  | document (runs : List StoredRun)
  deriving DecidableEq

namespace RunStore

/-- `{ prompt_review_acknowledged: false, ...revision }`. -/
def readDraft (stored : StoredDraft) : RunDraft :=
  { stored.draft with
    promptReviewAcknowledged := stored.promptReviewAcknowledged.getD false }

/-- `{ prompt_commitment: null, ...orchestration_request }`. -/
def readRequest (stored : StoredRequest) : OrchestrationRequest where
  operator := stored.operator
  estimatedTokens := stored.estimatedTokens
  promptCommitment := stored.promptCommitment.getD none

/-- The record the reader makes of a record on disk. -/
def readRecord (stored : StoredRun) : RunRecord where
  orchestrationRef := stored.orchestrationRef.getD none
  orchestrationRequest := stored.orchestrationRequest.map readRequest
  current := readDraft stored.current
  revisions := stored.revisions.map readDraft
  status := stored.status
  approvedRevision := stored.approvedRevision
  approvedBy := stored.approvedBy
  approvedAt := stored.approvedAt
  supervisorTaskId := stored.supervisorTaskId
  workerRunId := stored.workerRunId
  terminalReason := stored.terminalReason
  tokenReservation := stored.tokenReservation.getD none
  tokenSettlement := stored.tokenSettlement.getD none
  reservationStatus := stored.reservationStatus.getD .none
  providerResult := stored.providerResult.getD none
  cancellationRequested := stored.cancellationRequested.getD false
  queueCompensationRequested := stored.queueCompensationRequested.getD false
  dispatchFailure := stored.dispatchFailure.getD none
  retryInputTokens := stored.retryInputTokens.getD 0
  retryOutputTokens := stored.retryOutputTokens.getD 0
  artifacts := stored.artifacts
  updatedAt := stored.updatedAt

/-- `readRunStore`. -/
def readRunStore : RunsFile → Except JsError RunStore
  | .missing => .ok .empty
  | .unreadable => .error (JsError.new "invalid_run_store")
  | .document runs =>
    if h : isRunStore (runs.map readRecord) = true then .ok ⟨runs.map readRecord, h⟩
    else .error (JsError.new "invalid_run_store")

/-- A draft as it is written. -/
def storeDraft (draft : RunDraft) : StoredDraft :=
  ⟨draft, some draft.promptReviewAcknowledged⟩

/-- A record as it is written: all its fields are there. -/
def storeRecord (record : RunRecord) : StoredRun where
  orchestrationRef := some record.orchestrationRef
  orchestrationRequest := record.orchestrationRequest.map fun request =>
    ⟨request.operator, request.estimatedTokens, some request.promptCommitment⟩
  current := storeDraft record.current
  revisions := record.revisions.map storeDraft
  status := record.status
  approvedRevision := record.approvedRevision
  approvedBy := record.approvedBy
  approvedAt := record.approvedAt
  supervisorTaskId := record.supervisorTaskId
  workerRunId := record.workerRunId
  terminalReason := record.terminalReason
  tokenReservation := some record.tokenReservation
  tokenSettlement := some record.tokenSettlement
  reservationStatus := some record.reservationStatus
  providerResult := some record.providerResult
  cancellationRequested := some record.cancellationRequested
  queueCompensationRequested := some record.queueCompensationRequested
  dispatchFailure := some record.dispatchFailure
  retryInputTokens := some record.retryInputTokens
  retryOutputTokens := some record.retryOutputTokens
  artifacts := record.artifacts
  updatedAt := record.updatedAt

/-- The file a document is written to. -/
def fileOf (store : RunStore) : RunsFile := .document (store.runs.map storeRecord)

theorem readRecord_storeRecord (record : RunRecord) :
    readRecord (storeRecord record) = record := by
  have hrequest : (record.orchestrationRequest.map fun request : OrchestrationRequest =>
      (⟨request.operator, request.estimatedTokens, some request.promptCommitment⟩ :
        StoredRequest)).map readRequest = record.orchestrationRequest := by
    cases record.orchestrationRequest <;> rfl
  have hrevisions : (record.revisions.map storeDraft).map readDraft = record.revisions := by
    rw [List.map_map]
    exact List.map_id _
  unfold readRecord storeRecord
  dsimp only
  rw [hrequest, hrevisions]
  rfl

/-- **What is written reads back unchanged.** -/
theorem readRunStore_fileOf (store : RunStore) : readRunStore (fileOf store) = .ok store := by
  have hsame : (store.runs.map storeRecord).map readRecord = store.runs := by
    rw [List.map_map, show readRecord ∘ storeRecord = id from funext readRecord_storeRecord,
      List.map_id]
  unfold readRunStore fileOf
  dsimp only
  rw [dif_pos (by rw [hsame]; exact store.valid)]
  congr 1
  cases store
  simp only at hsame
  simp only [RunStore.mk.injEq]
  exact hsame

/-! ## Calls -/

/-- `recordRunTokenSettlement`. -/
def recordRunTokenSettlement (runId : JsString) (inputTokens outputTokens : ℕ)
    (updatedAt : ℕ) : Proc RunStore RunRecord := do
  let record ← find runId
  let normalized := runTokenSettlement inputTokens outputTokens
  throwIf (¬ validTokenSettlement normalized) (JsError.new "invalid_run_token_settlement")
  if record.tokenSettlement ≠ none then
    throwIf (record.tokenSettlement ≠ some normalized)
      (JsError.new "run_token_settlement_conflict")
    return record
  else
    replace { record with tokenSettlement := some normalized, updatedAt }

end RunStore

/-- How a run is finalized. -/
inductive RunEnd where
  | completed | failed
  deriving DecidableEq, Repr

/-- The status a run is finalized with. -/
def RunEnd.status : RunEnd → RunStatus
  | .completed => .completed
  | .failed => .failed

/-- A call of the run store. -/
inductive RunCall where
  | createDraft (resolve : JsString → Except JsError JsString) (input : RunDraftInput)
      (now : ℕ)
  | createGroupDraft (sha256 : Sha256) (resolve : JsString → Except JsError JsString)
      (runId : JsString) (ref : OrchestrationRef) (operator : JsString)
      (input : RunDraftInput) (now : ℕ)
  | reviseDraft (resolve : JsString → Except JsError JsString) (runId : JsString)
      (revision : ℕ) (input : RunDraftInput) (now : ℕ)
  | approve (runId : JsString) (revision : ℕ) (operator : JsString) (now : ℕ)
  | transition (runId : JsString) (status : RunStatus) (now : ℕ)
  | appendArtifact (runId artifactId : JsString) (type : RunArtifactType)
      (preview : JsString) (now : ℕ)
  | bind (runId taskId : JsString) (reservation : TokenReservation) (now : ℕ)
  | clearBinding (runId : JsString) (now : ℕ)
  | recordResult (runId : JsString) (result : RunProviderResult) (now : ℕ)
  | clearResult (runId : JsString) (inputTokens outputTokens now : ℕ)
  | recordSettlement (runId : JsString) (inputTokens outputTokens now : ℕ)
  | settle (runId : JsString) (inputTokens outputTokens now : ℕ)
  | markTerminal (runId : JsString) (event : TerminalEvent) (now : ℕ)
  | finalize (runId : JsString) (how : RunEnd) (reason : Option JsString) (now : ℕ)
  | requestCancellation (runId : JsString) (now : ℕ)
  | requestCompensation (runId : JsString) (now : ℕ)
  | recordFailure (runId reason : JsString) (now : ℕ)
  | clearFailure (runId : JsString) (now : ℕ)

/-- The store after a call, whether it returned or threw. -/
def RunCall.run (h : Machine RunStore) : RunCall → Machine RunStore
  | .createDraft resolve input now => (createRunDraft resolve input now h).2
  | .createGroupDraft sha256 resolve runId ref operator input now =>
    (createGroupRunDraft sha256 resolve runId ref operator input now h).2
  | .reviseDraft resolve runId revision input now =>
    (reviseRunDraft resolve runId revision input now h).2
  | .approve runId revision operator now =>
    (approveRunRevision runId revision operator now h).2
  | .transition runId status now => (transitionRun runId status now h).2
  | .appendArtifact runId artifactId type preview now =>
    (appendRunArtifact runId artifactId type preview now h).2
  | .bind runId taskId reservation now =>
    (bindRunToSupervisor runId taskId reservation now h).2
  | .clearBinding runId now => (clearRunSupervisorBinding runId now h).2
  | .recordResult runId result now => (recordRunProviderResult runId result now h).2
  | .clearResult runId inputTokens outputTokens now =>
    (clearRunProviderResultForRetry runId inputTokens outputTokens now h).2
  | .recordSettlement runId inputTokens outputTokens now =>
    (recordRunTokenSettlement runId inputTokens outputTokens now h).2
  | .settle runId inputTokens outputTokens now =>
    (settleRunReservation runId inputTokens outputTokens now h).2
  | .markTerminal runId event now => (markRunReservationTerminal runId event now h).2
  | .finalize runId how reason now => (finalizeRun runId how.status reason now h).2
  | .requestCancellation runId now => (requestRunCancellation runId now h).2
  | .requestCompensation runId now => (requestRunQueueCompensation runId now h).2
  | .recordFailure runId reason now => (recordRunDispatchFailure runId reason now h).2
  | .clearFailure runId now => (clearRunDispatchFailure runId now h).2

/-- The input a call makes a revision of. -/
def RunCall.input? : RunCall → Option RunDraftInput
  | .createDraft _ input _ | .createGroupDraft _ _ _ _ _ input _
  | .reviseDraft _ _ _ input _ => some input
  | _ => none

/-! ## One write -/

/-- A move of the status of a run: along the table, or by an approval. -/
def StatusMove (status status' : RunStatus) : Prop :=
  status' ∈ status.transitions ∨ (status = .draft ∧ status' = .approved)

/-- What one write does to the runs. The revisions it makes are of an allowed input. -/
inductive RunWrite (allowed : RunDraftInput → Prop) (runs runs' : List RunRecord) : Prop
  | created (input : RunDraftInput) (hallowed : allowed input) (runId : JsString) (now : ℕ)
      (ref : Option OrchestrationRef) (request : Option OrchestrationRequest)
      (hfresh : runId ∉ runs.map RunRecord.runId)
      (hruns : runs' = runs ++ [newRun (newDraft input runId 1 now) ref request])
  | revised (record : RunRecord) (hmem : record ∈ runs) (hdraft : record.status = .draft)
      (input : RunDraftInput) (hallowed : allowed input) (now : ℕ)
      (hruns : runs' = runs.map (put RunRecord.runId
        (revisedRun record (newDraft input record.runId (record.current.revision + 1) now) now)))
  | changed (record record' : RunRecord) (hmem : record ∈ runs)
      (hcurrent : record'.current = record.current)
      (hrevisions : record'.revisions = record.revisions)
      (hstatus : record'.status = record.status ∨ StatusMove record.status record'.status)
      (happroved : record.status = .draft ∨
        record'.approvedRevision = record.approvedRevision)
      (hruns : runs' = runs.map (put RunRecord.runId record'))

/-- A write that was made, or not. -/
abbrev OneWrite (allowed : RunDraftInput → Prop) := Relation.ReflGen (RunWrite allowed)

/-- The writes of a call: two at the most. -/
def CallWrites (allowed : RunDraftInput → Prop) (runs runs' : List RunRecord) : Prop :=
  ∃ between, OneWrite allowed runs between ∧ OneWrite allowed between runs'

section writes

variable {allowed : RunDraftInput → Prop} {h : Machine RunStore}

theorem oneWrite_of_refuses {α : Type} {p : Proc RunStore α} (hr : h.Refuses (p h)) :
    OneWrite allowed h.store.runs (p h).2.store.runs := by
  obtain ⟨error, hrun⟩ := hr
  rw [hrun]

theorem oneWrite_of_kept {α : Type} {p : Proc RunStore α} {a : α} (hr : p h = (.ok a, h)) :
    OneWrite allowed h.store.runs (p h).2.store.runs := by
  rw [hr]

/-- A record that is stored by a function is one write of the table. -/
theorem oneWrite_of_rewritten {p : Proc RunStore RunRecord} {record' : RunRecord}
    (hr : Rewritten h record' (p h))
    (hwrite : RunWrite allowed h.store.runs (h.store.runs.map (put RunRecord.runId record'))) :
    OneWrite allowed h.store.runs (p h).2.store.runs := by
  obtain ⟨store, hstore, ⟨ws, -, hrun⟩ | ⟨fault, ws, -, -, hrun⟩⟩ := hr
  · rw [hrun]
    show OneWrite allowed h.store.runs store.runs
    rw [hstore]
    exact .single hwrite
  · rw [hrun]

/-- The change of a record that keeps its revisions. -/
theorem runWrite_changed (record' : RunRecord) {record : RunRecord} {runId : JsString}
    (hl : lookup RunRecord.runId h.store.runs runId = some record)
    (hcurrent : record'.current = record.current)
    (hrevisions : record'.revisions = record.revisions)
    (hstatus : record'.status = record.status ∨ StatusMove record.status record'.status)
    (happroved : record.status = .draft ∨
      record'.approvedRevision = record.approvedRevision) :
    RunWrite allowed h.store.runs (h.store.runs.map (put RunRecord.runId record')) :=
  .changed record record' (lookup_mem hl).1 hcurrent hrevisions hstatus happroved rfl

/-- Most functions keep the revisions and the approval of the record they change. -/
theorem oneWrite_updateRun (runId : JsString) (already refused : RunRecord → Bool)
    (error : String) {f : RunRecord → RunRecord}
    (hcurrent : ∀ record, (f record).current = record.current)
    (hrevisions : ∀ record, (f record).revisions = record.revisions)
    (hstatus : ∀ record, refused record = false →
      (f record).status = record.status ∨ StatusMove record.status (f record).status)
    (happroved : ∀ record, (f record).approvedRevision = record.approvedRevision) :
    OneWrite allowed h.store.runs
      (updateRun runId already refused error f h).2.store.runs := by
  have hid : ∀ record, (f record).runId = record.runId := by
    intro record
    unfold RunRecord.runId
    rw [hcurrent]
  rcases updateRun_cases (h := h) runId already refused error hid with
    hr | ⟨record, -, -, hr⟩ | ⟨record, hl, -, hrefused, -, hr⟩
  · exact oneWrite_of_refuses hr
  · exact oneWrite_of_kept hr
  · apply oneWrite_of_rewritten hr
    exact runWrite_changed _ hl (hcurrent record) (hrevisions record) (hstatus record hrefused)
      (.inr (happroved record))

/-- A run is moved along the table by `transitionRun`. -/
theorem oneWrite_transitionRun (runId : JsString) (status : RunStatus) (now : ℕ) :
    OneWrite allowed h.store.runs (transitionRun runId status now h).2.store.runs := by
  apply oneWrite_updateRun
  · intro record
    rfl
  · intro record
    rfl
  · intro record hrefused
    simp only [decide_eq_false_iff_not, not_not] at hrefused
    exact .inr (.inl hrefused)
  · intro record
    rfl

theorem oneWrite_approveRunRevision (runId : JsString) (revision : ℕ) (operator : JsString)
    (now : ℕ) :
    OneWrite allowed h.store.runs
      (approveRunRevision runId revision operator now h).2.store.runs := by
  rcases approveRunRevision_cases (h := h) runId revision operator now with
    hr | ⟨record, -, -, hr⟩ | ⟨record, hl, hdraft, -, -, hr⟩
  · exact oneWrite_of_refuses hr
  · exact oneWrite_of_kept hr
  · apply oneWrite_of_rewritten hr
    exact runWrite_changed _ hl rfl rfl (.inr (.inr ⟨hdraft, rfl⟩)) (.inl hdraft)

theorem oneWrite_recordRunTokenSettlement (runId : JsString) (inputTokens outputTokens now : ℕ) :
    OneWrite allowed h.store.runs
      (recordRunTokenSettlement runId inputTokens outputTokens now h).2.store.runs := by
  unfold recordRunTokenSettlement
  rw [find_bind_run]
  cases hl : lookup RunRecord.runId h.store.runs runId with
  | none => exact .refl
  | some record =>
    dsimp only
    rw [throwIf_bind_run]
    split
    · exact .refl
    · split
      · rw [throwIf_bind_run]
        split
        · exact .refl
        · exact .refl
      · have hl' : lookup RunRecord.runId h.store.runs
            ({ record with
              tokenSettlement := some (runTokenSettlement inputTokens outputTokens)
              updatedAt := now } : RunRecord).runId = some record := (lookup_mem hl).2 ▸ hl
        rcases replaceRun_cases hl' with hr | ⟨-, hr⟩
        · exact oneWrite_of_refuses hr
        · exact oneWrite_of_rewritten hr (runWrite_changed _ hl rfl rfl (.inl rfl) (.inr rfl))

/-- A run that is finalized was running, or is made running by a write before. -/
theorem callWrites_finalizeRun (runId : JsString) (how : RunEnd) (reason : Option JsString)
    (now : ℕ) :
    CallWrites allowed h.store.runs
      (finalizeRun runId how.status reason now h).2.store.runs := by
  have hends : how.status ∈ RunStatus.running.transitions := by
    cases how <;> decide
  have hstarts : RunStatus.running ∈ RunStatus.queued.transitions := by decide
  -- the write that makes a queued run running
  have hstart : ∀ record, lookup RunRecord.runId h.store.runs runId = some record →
      record.status = .queued →
      RunWrite allowed h.store.runs (h.store.runs.map
        (put RunRecord.runId { record with status := .running, updatedAt := now })) := by
    intro record hl hqueued
    apply runWrite_changed { record with status := .running, updatedAt := now } hl rfl rfl _
      (.inr rfl)
    rw [hqueued]
    exact .inr (.inl hstarts)
  rcases finalizeRun_cases (h := h) runId how.status reason now with
    ⟨fault, h', hrun, hstore, -, -⟩ | ⟨record, -, -, hrun⟩ |
    ⟨record, h', hl, hopen, -, hstored, hrun⟩
  · refine ⟨h'.store.runs, ?_, ?_⟩
    · rcases hstore with hstore | ⟨record, hl, hqueued, hruns⟩
      · rw [hstore]
      · rw [hruns]
        exact .single (hstart record hl hqueued)
    · rw [hrun]
  · exact ⟨h.store.runs, .refl, oneWrite_of_kept hrun⟩
  · rw [hrun]
    show CallWrites allowed h.store.runs h'.store.runs
    rw [hstored.1]
    by_cases hqueued : record.status = .queued
    · -- two writes: the second one is put over the first
      let running : RunRecord := { record with status := .running, updatedAt := now }
      have hid : RunRecord.runId (finalizedRun record how.status reason now)
          = RunRecord.runId running := rfl
      have hmem : running ∈ h.store.runs.map (put RunRecord.runId running) :=
        List.mem_map.2 ⟨record, (lookup_mem hl).1, if_pos rfl⟩
      refine ⟨_, .single (hstart record hl hqueued), .single ?_⟩
      apply RunWrite.changed running (finalizedRun record how.status reason now) hmem rfl rfl
        (.inr (.inl hends)) (.inr rfl)
      rw [map_put_put _ hid]
    · have hrunning : record.status = .running := by
        rcases hopen with hrunning | hq
        · exact hrunning
        · exact absurd hq hqueued
      refine ⟨_, .refl, .single ?_⟩
      apply runWrite_changed (finalizedRun record how.status reason now) hl rfl rfl _ (.inr rfl)
      rw [hrunning]
      exact .inr (.inl hends)

/-- A run that was appended to a store has an identifier of its own. -/
theorem fresh_of_appended {h' : Machine RunStore} {draft : RunDraft}
    {ref : Option OrchestrationRef} {request : Option OrchestrationRequest}
    (hruns : h'.store.runs = h.store.runs ++ [newRun draft ref request]) :
    draft.runId ∉ h.store.runs.map RunRecord.runId := by
  have hnodup := h'.store.nodup
  rw [hruns, List.map_append, List.nodup_append] at hnodup
  intro hmem
  exact hnodup.2.2 _ hmem _ (List.mem_singleton_self _) rfl

/-- A call that finalizes no run writes once at the most. -/
theorem RunCall.oneWrite (c : RunCall)
    (hallowed : ∀ input, c.input? = some input → allowed input)
    (hone : ∀ runId how reason now, c ≠ .finalize runId how reason now) :
    OneWrite allowed h.store.runs (c.run h).store.runs := by
  cases c with
  | createDraft resolve input now =>
    rcases createRunDraft_cases (h := h) resolve input now with
      ⟨fault, h', hrun, hdrew⟩ | ⟨uuid, h', -, -, -, hruns, hrun⟩
    · show OneWrite allowed h.store.runs (createRunDraft resolve input now h).2.store.runs
      rw [hrun, hdrew.1]
    · show OneWrite allowed h.store.runs (createRunDraft resolve input now h).2.store.runs
      rw [hrun]
      exact .single (.created input (hallowed input rfl) uuid.text now none none
        (fresh_of_appended hruns) hruns)
  | createGroupDraft sha256 resolve runId ref operator input now =>
    rcases createGroupRunDraft_cases (h := h) sha256 resolve runId ref operator input now with
      ⟨fault, h', hrun, hdrew⟩ | ⟨request, h', -, -, -, -, hruns, hrun⟩
    · show OneWrite allowed h.store.runs
        (createGroupRunDraft sha256 resolve runId ref operator input now h).2.store.runs
      rw [hrun, hdrew.1]
    · show OneWrite allowed h.store.runs
        (createGroupRunDraft sha256 resolve runId ref operator input now h).2.store.runs
      rw [hrun]
      exact .single (.created input (hallowed input rfl) runId now (some ref) (some request)
        (fresh_of_appended hruns) hruns)
  | reviseDraft resolve runId revision input now =>
    rcases reviseRunDraft_cases (h := h) resolve runId revision input now with
      ⟨fault, h', hrun, hdrew⟩ | ⟨record, h', hl, hdraft, hrevision, -, hstored, hrun⟩
    · show OneWrite allowed h.store.runs
        (reviseRunDraft resolve runId revision input now h).2.store.runs
      rw [hrun, hdrew.1]
    · show OneWrite allowed h.store.runs
        (reviseRunDraft resolve runId revision input now h).2.store.runs
      rw [hrun]
      have hid : record.runId = runId := (lookup_mem hl).2
      apply Relation.ReflGen.single
      apply RunWrite.revised record (lookup_mem hl).1 hdraft input (hallowed input rfl) now
      rw [hid, hrevision]
      exact hstored.1
  | approve runId revision operator now => exact oneWrite_approveRunRevision ..
  | transition runId status now => exact oneWrite_transitionRun ..
  | appendArtifact runId artifactId type preview now =>
    rcases appendRunArtifact_cases (h := h) runId artifactId type preview now with
      hr | ⟨record, hl, -, hr⟩
    · exact oneWrite_of_refuses hr
    · exact oneWrite_of_rewritten hr (runWrite_changed _ hl rfl rfl (.inl rfl) (.inr rfl))
  | bind runId taskId reservation now =>
    apply oneWrite_updateRun <;> intro record
    · rfl
    · rfl
    · exact fun _ => .inl rfl
    · rfl
  | clearBinding runId now =>
    apply oneWrite_updateRun <;> intro record
    · rfl
    · rfl
    · exact fun _ => .inl rfl
    · rfl
  | recordResult runId result now =>
    rcases recordRunProviderResult_cases (h := h) runId result now with
      hr | ⟨record, -, -, -, hr⟩ | ⟨record, hl, -, -, -, hr⟩
    · exact oneWrite_of_refuses hr
    · exact oneWrite_of_kept hr
    · exact oneWrite_of_rewritten hr (runWrite_changed _ hl rfl rfl (.inl rfl) (.inr rfl))
  | clearResult runId inputTokens outputTokens now =>
    apply oneWrite_updateRun <;> intro record
    · rfl
    · rfl
    · exact fun _ => .inl rfl
    · rfl
  | recordSettlement runId inputTokens outputTokens now =>
    exact oneWrite_recordRunTokenSettlement ..
  | settle runId inputTokens outputTokens now =>
    rcases settleRunReservation_cases (h := h) runId inputTokens outputTokens now with
      hr | ⟨record, -, -, hr⟩ | ⟨record, hl, -, -, hr⟩
    · exact oneWrite_of_refuses hr
    · exact oneWrite_of_kept hr
    · exact oneWrite_of_rewritten hr (runWrite_changed _ hl rfl rfl (.inl rfl) (.inr rfl))
  | markTerminal runId event now =>
    apply oneWrite_updateRun <;> intro record
    · rfl
    · rfl
    · exact fun _ => .inl rfl
    · rfl
  | finalize runId how reason now => exact absurd rfl (hone runId how reason now)
  | requestCancellation runId now =>
    apply oneWrite_updateRun <;> intro record
    · rfl
    · rfl
    · exact fun _ => .inl rfl
    · rfl
  | requestCompensation runId now =>
    apply oneWrite_updateRun <;> intro record
    · rfl
    · rfl
    · exact fun _ => .inl rfl
    · rfl
  | recordFailure runId reason now =>
    apply oneWrite_updateRun <;> intro record
    · rfl
    · rfl
    · exact fun _ => .inl rfl
    · rfl
  | clearFailure runId now =>
    apply oneWrite_updateRun <;> intro record
    · rfl
    · rfl
    · exact fun _ => .inl rfl
    · rfl

/-- **Every call** writes twice at the most, each time as the table allows. -/
theorem RunCall.writes (c : RunCall)
    (hallowed : ∀ input, c.input? = some input → allowed input) :
    CallWrites allowed h.store.runs (c.run h).store.runs := by
  by_cases hfinal : ∃ runId how reason now, c = .finalize runId how reason now
  · obtain ⟨runId, how, reason, now, hc⟩ := hfinal
    rw [hc]
    exact callWrites_finalizeRun runId how reason now
  · simp only [not_exists] at hfinal
    exact ⟨h.store.runs, .refl, c.oneWrite hallowed hfinal⟩

/-! ## What a path of writes keeps -/

/-- The later record continues the earlier one. -/
structure Continues (run run' : RunRecord) : Prop where
  runId : run'.runId = run.runId
  revisions : run.revisions <+: run'.revisions
  status : Relation.ReflTransGen StatusMove run.status run'.status

theorem Continues.refl (run : RunRecord) : Continues run run :=
  ⟨rfl, List.prefix_refl _, .refl⟩

theorem Continues.trans {run run' run'' : RunRecord} (h₁ : Continues run run')
    (h₂ : Continues run' run'') : Continues run run'' :=
  ⟨h₂.runId.trans h₁.runId, h₁.revisions.trans h₂.revisions, h₁.status.trans h₂.status⟩

/-- Every run of the earlier list is continued in the later one. -/
def AllContinue (runs runs' : List RunRecord) : Prop :=
  ∀ run ∈ runs, ∃ run' ∈ runs', Continues run run'

theorem AllContinue.trans {runs runs' runs'' : List RunRecord} (h₁ : AllContinue runs runs')
    (h₂ : AllContinue runs' runs'') : AllContinue runs runs'' := by
  intro run hrun
  obtain ⟨run', hrun', hc⟩ := h₁ run hrun
  obtain ⟨run'', hrun'', hc'⟩ := h₂ run' hrun'
  exact ⟨run'', hrun'', hc.trans hc'⟩

/-- A record of a list with distinct identifiers is changed by itself. -/
theorem allContinue_put {runs : List RunRecord} (hnodup : (runs.map RunRecord.runId).Nodup)
    {record record' : RunRecord} (hmem : record ∈ runs) (hc : Continues record record') :
    AllContinue runs (runs.map (put RunRecord.runId record')) := by
  intro run hrun
  refine ⟨put RunRecord.runId record' run, List.mem_map_of_mem hrun, ?_⟩
  unfold put
  split
  · rename_i hid
    -- two records of one identifier are one
    have hl := Keyed.lookup_of_mem hnodup hrun
    rw [hid, hc.runId, Keyed.lookup_of_mem hnodup hmem] at hl
    rw [← Option.some.inj hl]
    exact hc
  · exact .refl run

/-- **The step lemma**: a write continues every run and gives no identifier twice. -/
theorem RunWrite.continues {runs runs' : List RunRecord} (hw : RunWrite allowed runs runs')
    (hnodup : (runs.map RunRecord.runId).Nodup) :
    (runs'.map RunRecord.runId).Nodup ∧ AllContinue runs runs' := by
  cases hw with
  | created input hallowed runId now ref request hfresh hruns =>
    rw [hruns]
    constructor
    · rw [List.map_append, List.nodup_append]
      refine ⟨hnodup, List.nodup_singleton _, ?_⟩
      intro id hid id' hid' heq
      rw [List.map_singleton, List.mem_singleton] at hid'
      rw [heq, hid'] at hid
      exact hfresh hid
    · intro run hrun
      exact ⟨run, List.mem_append_left _ hrun, .refl run⟩
  | revised record hmem hdraft input hallowed now hruns =>
    rw [hruns]
    constructor
    · rwa [map_key_put]
    · apply allContinue_put hnodup hmem
      exact ⟨rfl, List.prefix_append _ _, .refl⟩
  | changed record record' hmem hcurrent hrevisions hstatus happroved hruns =>
    rw [hruns]
    constructor
    · rwa [map_key_put]
    · apply allContinue_put hnodup hmem
      refine ⟨?_, ?_, ?_⟩
      · unfold RunRecord.runId
        rw [hcurrent]
      · rw [hrevisions]
      · rcases hstatus with hsame | hmove
        · rw [hsame]
        · exact .single hmove

theorem OneWrite.continues {runs runs' : List RunRecord} (hw : OneWrite allowed runs runs')
    (hnodup : (runs.map RunRecord.runId).Nodup) :
    (runs'.map RunRecord.runId).Nodup ∧ AllContinue runs runs' := by
  cases hw with
  | refl => exact ⟨hnodup, fun run hrun => ⟨run, hrun, .refl run⟩⟩
  | single hw => exact hw.continues hnodup

theorem RunCall.continues (c : RunCall) : AllContinue h.store.runs (c.run h).store.runs := by
  have hallowed : ∀ input, c.input? = some input → True := fun _ _ => trivial
  obtain ⟨between, hfirst, hsecond⟩ := c.writes (h := h) hallowed
  have hfirst' := hfirst.continues h.store.nodup
  have hsecond' := hsecond.continues hfirst'.1
  exact hfirst'.2.trans hsecond'.2

end writes

/-! ## Histories -/

/-- A run as every stored document has it. -/
structure Kept (run : RunRecord) : Prop where
  current : run.revisions.getLast? = some run.current
  numbered : run.revisions.map (·.revision) = (List.range run.revisions.length).map (· + 1)
  undecided : run.status = .draft → run.approvedRevision = none
  approved : run.status ≠ .draft → run.status ≠ .cancelled →
    run.approvedRevision = some run.current.revision
  cancelled : run.status = .cancelled →
    run.approvedRevision = none ∨ run.approvedRevision = some run.current.revision

theorem kept_of_valid {run : RunRecord} (hv : isRunRecord run = true) : Kept run := by
  have happroval := RunRecord.approval_valid hv
  have hrevisions : validRevisions run.current run.revisions = true := by
    simp only [isRunRecord, Bool.and_eq_true] at hv
    exact hv.1.1.1.1.1.1.1.1.1.1.1.1.2
  simp only [validRevisions, Bool.and_eq_true, decide_eq_true_eq] at hrevisions
  refine ⟨hrevisions.1.1.1.1.2, hrevisions.2, ?_, ?_, ?_⟩
  · intro hdraft
    simp only [RunRecord.approvalIsValid, hdraft, RunRecord.lacksApproval, Bool.and_eq_true,
      decide_eq_true_eq] at happroval
    exact happroval.1.1
  · exact RunRecord.approvedRevision_of_status hv
  · intro hcancelled
    simp only [RunRecord.approvalIsValid, hcancelled, RunRecord.lacksApproval,
      RunRecord.hasApproval, Bool.or_eq_true, Bool.and_eq_true, decide_eq_true_eq] at happroval
    rcases happroval with hlacks | hhas
    · exact .inl hlacks.1.1
    · exact .inr hhas.1.1

/-- What a sequence of calls leads to. -/
inductive RunHistory (h : Machine RunStore) : Machine RunStore → Prop
  | start : RunHistory h h
  | call {h' : Machine RunStore} (before : RunHistory h h') (c : RunCall) :
      RunHistory h (c.run h')

/-- **The run lemma.** -/
theorem RunHistory.continues {h h' : Machine RunStore} (hh : RunHistory h h') :
    AllContinue h.store.runs h'.store.runs := by
  induction hh with
  | start => exact fun run hrun => ⟨run, hrun, .refl run⟩
  | call before c ih => exact ih.trans c.continues

section sample

def historyInput : RunDraftInput where
  projectId := js "project"
  prompt := js "run"
  provider := .codexCli
  model := none
  estimatedTokens := .ofNat 9000
  requestedArtifacts := []
  profile := .dev
  requestedReasoningEffort := none

def historyUuid : Uuid := ⟨js "00000000-0000-4000-8000-000000000021", by decide⟩

def historyStart : Machine RunStore := ⟨.empty, [], .fresh [historyUuid] (by decide)⟩

def historyDraft : Machine RunStore :=
  RunCall.run historyStart (.createDraft (fun _ => .ok (js "/work")) historyInput 1)

def historyApproved : Machine RunStore :=
  RunCall.run historyDraft (.approve historyUuid.text 1 (js "owner") 2)

def historyCancelled : Machine RunStore :=
  RunCall.run historyDraft (.transition historyUuid.text .cancelled 2)

end sample

end Autopilot
