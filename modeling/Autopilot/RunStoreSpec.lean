/-
What each function of the run store can do.

A function reads the record, returns it as it is or throws, or replaces it and
writes the document. Which record is stored, and under which checks, is said
once for each function in its `_cases` theorem. A record of the same run that
passes the checks of `validate` can always be stored, so a function whose checks
are met on a reliable host returns the record it stores.
-/
import Autopilot.RunStore

set_option autoImplicit false

namespace Autopilot

open Prog Keyed RunStore

/-! ## Stored records -/

theorem RunStore.record_valid (store : RunStore) {record : RunRecord}
    (h : record ∈ store.runs) : isRunRecord record = true := by
  have hv := store.valid
  simp only [isRunStore, Bool.and_eq_true, List.all_eq_true] at hv
  exact hv.1.1.2 record h

/-- A valid record has a reservation as long as it says so. -/
theorem RunRecord.reservation_iff {record : RunRecord} (hv : isRunRecord record = true) :
    record.reservationStatus = .none ↔ record.tokenReservation = none := by
  simp only [isRunRecord, Bool.and_eq_true, decide_eq_true_eq] at hv
  exact hv.1.1.1.1.1.1.2

/-- A valid record has a settlement only for a reservation that was settled. -/
theorem RunRecord.settlement_settled {record : RunRecord} (hv : isRunRecord record = true) :
    record.tokenSettlement = none ∨ record.reservationStatus = .settled := by
  simp only [isRunRecord, Bool.and_eq_true, Bool.or_eq_true, decide_eq_true_eq] at hv
  exact hv.1.1.1.1.2

/-- A valid record is at one of its revisions. -/
theorem RunRecord.revision_le {record : RunRecord} (hv : isRunRecord record = true) :
    record.current.revision ≤ maxRevisions := by
  simp only [isRunRecord, validRevisions, Bool.and_eq_true, decide_eq_true_eq] at hv
  omega

theorem RunRecord.approval_valid {record : RunRecord} (hv : isRunRecord record = true) :
    record.approvalIsValid = true := by
  simp only [isRunRecord, Bool.and_eq_true] at hv
  exact hv.1.1.1.1.1.1.1.1.1.1.1.2

/-- What is approved of a valid record is its current revision. -/
theorem RunRecord.approvedRevision_eq {record : RunRecord} (hv : isRunRecord record = true)
    {revision : ℕ} (ha : record.approvedRevision = some revision) :
    record.status ≠ .draft ∧ revision = record.current.revision := by
  have happroval := RunRecord.approval_valid hv
  unfold RunRecord.approvalIsValid at happroval
  split at happroval
  all_goals simp_all [RunRecord.lacksApproval, RunRecord.hasApproval]

/-- A valid record is approved from its draft to its end. -/
theorem RunRecord.approvedRevision_of_status {record : RunRecord}
    (hv : isRunRecord record = true) (hdraft : record.status ≠ .draft)
    (hcancelled : record.status ≠ .cancelled) :
    record.approvedRevision = some record.current.revision := by
  have happroval := RunRecord.approval_valid hv
  unfold RunRecord.approvalIsValid at happroval
  split at happroval
  all_goals simp_all [RunRecord.hasApproval]

/-- The current revision is one of those a valid record keeps, which differ by
their numbers. -/
theorem RunRecord.revisions_valid {record : RunRecord} (hv : isRunRecord record = true) :
    record.current ∈ record.revisions ∧
      (∀ draft ∈ record.revisions, draft.runId = record.runId) ∧
      (record.revisions.map (·.revision)).Nodup := by
  simp only [isRunRecord, validRevisions, Bool.and_eq_true, decide_eq_true_eq, List.all_eq_true]
    at hv
  obtain ⟨⟨⟨⟨⟨-, hlast⟩, -⟩, -⟩, hids⟩, hnumbers⟩ := hv.1.1.1.1.1.1.1.1.1.1.1.1.2
  refine ⟨List.mem_of_getLast? hlast, hids, ?_⟩
  rw [hnumbers]
  exact List.nodup_range.map fun a b hab => by omega

theorem RunStore.nodup (store : RunStore) : (store.runs.map RunRecord.runId).Nodup := by
  have hv := store.valid
  simp only [isRunStore, Bool.and_eq_true, decide_eq_true_eq] at hv
  exact hv.1.2

/-- A stored record is found under its identifier. -/
theorem RunStore.lookup_of_mem (store : RunStore) {record : RunRecord}
    (h : record ∈ store.runs) :
    lookup RunRecord.runId store.runs record.runId = some record :=
  Keyed.lookup_of_mem store.nodup h

/-- A valid record of a stored run can take its place. -/
theorem isRunStore_put (store : RunStore) {record record' : RunRecord}
    (hmem : record ∈ store.runs) (hvalid : isRunRecord record' = true)
    (hid : record'.runId = record.runId)
    (href : record'.orchestrationRef = record.orchestrationRef) :
    isRunStore (store.runs.map (put RunRecord.runId record')) = true := by
  have hrefs : (store.runs.map (put RunRecord.runId record')).filterMap (·.orchestrationRef)
      = store.runs.filterMap (·.orchestrationRef) := by
    rw [List.filterMap_map]
    apply List.filterMap_congr
    intro candidate hc
    simp only [Function.comp_apply, put]
    split
    · rename_i heq
      -- the candidate of that identifier is the record itself
      have h1 := store.lookup_of_mem hc
      rw [heq, hid, store.lookup_of_mem hmem] at h1
      rw [href, Option.some.inj h1]
    · rfl
  have hv := store.valid
  unfold isRunStore at hv ⊢
  rw [map_key_put, hrefs, List.length_map]
  simp only [Bool.and_eq_true] at hv ⊢
  refine ⟨⟨⟨hv.1.1.1, ?_⟩, hv.1.2⟩, hv.2⟩
  rw [List.all_eq_true]
  intro candidate hc
  rcases mem_put hc with rfl | ⟨hc, -⟩
  · exact hvalid
  · exact store.record_valid hc

/-! ## Reading and replacing -/

variable {h : Machine RunStore} {runId : JsString}

theorem find_run (runId : JsString) :
    find runId h = match lookup RunRecord.runId h.store.runs runId with
      | some record => (.ok record, h)
      | none => (.error (.thrown (JsError.new "run_not_found")), h) := by
  unfold RunStore.find
  rw [bind_run, Host.read_run]
  dsimp only
  cases lookup RunRecord.runId h.store.runs runId <;> rfl

/-- Finding a record in front of a program. -/
theorem find_bind_run {α : Type} (runId : JsString) (rest : RunRecord → Proc RunStore α) :
    (find runId >>= rest) h = match lookup RunRecord.runId h.store.runs runId with
      | some record => rest record h
      | none => (.error (.thrown (JsError.new "run_not_found")), h) := by
  rw [bind_run, find_run]
  cases lookup RunRecord.runId h.store.runs runId <;> rfl

/-- The record takes the place of the one of its run and is returned. -/
def Rewritten (h : Machine RunStore) (record' : RunRecord)
    (result : Except (Fault JsError) RunRecord × Machine RunStore) : Prop :=
  ∃ store : RunStore, store.runs = h.store.runs.map (put RunRecord.runId record') ∧
    h.Writes store record' result

theorem write_cases (next : List RunRecord) :
    h.Refuses (write next h) ∨
      ∃ store : RunStore, store.runs = next ∧ h.Writes store () (write next h) := by
  unfold RunStore.write
  by_cases hv : isRunStore next = true
  · rw [dif_pos hv]
    exact .inr ⟨⟨next, hv⟩, rfl, Host.write_writes (fun _ => (⟨next, hv⟩ : RunStore)) h⟩
  · rw [dif_neg hv]
    exact .inl ⟨_, rfl⟩

/-- **What `replace` does** with a record of a stored run. -/
theorem replaceRun_cases {record record' : RunRecord}
    (hl : lookup RunRecord.runId h.store.runs record'.runId = some record) :
    h.Refuses (RunStore.replace record' h) ∨
      (record.current.profile ≠ .legacy ∧ Rewritten h record' (RunStore.replace record' h)) := by
  have hrun : RunStore.replace record' h
      = (throwIf (record.current.profile = .legacy) (JsError.new "legacy_run_read_only") >>=
          fun _ => RunStore.write (h.store.runs.map (put RunRecord.runId record')) >>=
          fun _ => (pure record' : Proc RunStore RunRecord)) h := by
    unfold RunStore.replace
    simp only [bind_run, Host.read_run, hl, Option.all_some, decide_eq_true_eq]
  rw [hrun, throwIf_bind_run]
  split
  · exact .inl ⟨_, rfl⟩
  · rename_i hlegacy
    rcases write_cases (h := h) (h.store.runs.map (put RunRecord.runId record')) with
      ⟨error, hw⟩ | ⟨store, hstore, hw⟩
    · exact .inl ⟨error, bind_run_error hw⟩
    · exact .inr ⟨hlegacy, store, hstore, hw.bind_pure fun _ => rfl⟩

/-- A valid record of a run that is not a legacy one is stored. -/
theorem replace_rewritten {record record' : RunRecord}
    (hl : lookup RunRecord.runId h.store.runs record'.runId = some record)
    (hlegacy : record.current.profile ≠ .legacy) (hvalid : isRunRecord record' = true)
    (href : record'.orchestrationRef = record.orchestrationRef) :
    Rewritten h record' (RunStore.replace record' h) := by
  obtain ⟨hmem, hid⟩ := lookup_mem hl
  have hstore := isRunStore_put h.store hmem hvalid hid.symm href
  refine ⟨⟨_, hstore⟩, rfl, ?_⟩
  unfold RunStore.replace
  simp only [bind_run, Host.read_run, hl, Option.all_some, decide_eq_true_eq, throwIf_run,
    if_neg hlegacy]
  have hw : h.Writes (⟨_, hstore⟩ : RunStore) ()
      (RunStore.write (h.store.runs.map (put RunRecord.runId record')) h) := by
    unfold RunStore.write
    rw [dif_pos hstore]
    exact Host.write_writes (fun _ => (⟨_, hstore⟩ : RunStore)) h
  exact hw.bind_pure fun _ => rfl

/-- **What `updateRun` does**, and with it most functions of the store. -/
theorem updateRun_cases (runId : JsString) (already refused : RunRecord → Bool) (error : String)
    {f : RunRecord → RunRecord} (hid : ∀ record, (f record).runId = record.runId) :
    h.Refuses (updateRun runId already refused error f h) ∨
      (∃ record, lookup RunRecord.runId h.store.runs runId = some record ∧
        already record = true ∧ updateRun runId already refused error f h = (.ok record, h)) ∨
      ∃ record, lookup RunRecord.runId h.store.runs runId = some record ∧
        already record = false ∧ refused record = false ∧ record.current.profile ≠ .legacy ∧
        Rewritten h (f record) (updateRun runId already refused error f h) := by
  unfold updateRun
  rw [find_bind_run]
  cases hl : lookup RunRecord.runId h.store.runs runId with
  | none => exact .inl ⟨_, rfl⟩
  | some record =>
    dsimp only
    by_cases ha : already record = true
    · rw [if_pos ha]
      exact .inr (.inl ⟨record, rfl, ha, rfl⟩)
    · rw [if_neg ha, throwIf_bind_run]
      split
      · exact .inl ⟨_, rfl⟩
      · rename_i hr
        have hl' : lookup RunRecord.runId h.store.runs (f record).runId = some record := by
          rw [hid, (lookup_mem hl).2, hl]
        rcases replaceRun_cases hl' with hrep | ⟨hlegacy, hrep⟩
        · exact .inl hrep
        · exact .inr (.inr ⟨record, rfl, by simpa using ha, by simpa using hr, hlegacy, hrep⟩)

/-- A record that is as it should be is returned. -/
theorem updateRun_already (already refused : RunRecord → Bool) (error : String)
    (f : RunRecord → RunRecord) {record : RunRecord}
    (hl : lookup RunRecord.runId h.store.runs runId = some record)
    (ha : already record = true) :
    updateRun runId already refused error f h = (.ok record, h) := by
  unfold updateRun
  rw [find_bind_run, hl]
  dsimp only
  rw [if_pos ha]
  rfl

theorem updateRun_refused (already refused : RunRecord → Bool) (error : String)
    (f : RunRecord → RunRecord) {record : RunRecord}
    (hl : lookup RunRecord.runId h.store.runs runId = some record)
    (ha : already record = false) (hr : refused record = true) :
    h.Refuses (updateRun runId already refused error f h) := by
  unfold updateRun
  rw [find_bind_run, hl]
  dsimp only
  rw [if_neg (by simp [ha]), throwIf_bind_run, if_pos hr]
  exact ⟨_, rfl⟩

/-- Where its checks are met `updateRun` stores the record. -/
theorem updateRun_rewritten {already refused : RunRecord → Bool} (error : String)
    {f : RunRecord → RunRecord} {record : RunRecord}
    (hl : lookup RunRecord.runId h.store.runs runId = some record)
    (ha : already record = false) (hr : refused record = false)
    (hlegacy : record.current.profile ≠ .legacy) (hvalid : isRunRecord (f record) = true)
    (hid : (f record).runId = record.runId)
    (href : (f record).orchestrationRef = record.orchestrationRef) :
    Rewritten h (f record) (updateRun runId already refused error f h) := by
  unfold updateRun
  rw [find_bind_run, hl]
  dsimp only
  rw [if_neg (by simp [ha]), throwIf_bind_run, if_neg (by simp [hr])]
  have hl' : lookup RunRecord.runId h.store.runs (f record).runId = some record := by
    rw [hid, (lookup_mem hl).2, hl]
  exact replace_rewritten hl' hlegacy hvalid href

/-! ## The functions with a shape of their own -/

/-- A run whose revision was approved. -/
def approvedRun (record : RunRecord) (revision : ℕ) (operator : JsString) (now : ℕ) : RunRecord :=
  { record with
    status := .approved, approvedRevision := some revision, approvedBy := some operator
    approvedAt := some now, updatedAt := now }

theorem approveRunRevision_cases (runId : JsString) (revision : ℕ) (operator : JsString) (now : ℕ) :
    h.Refuses (approveRunRevision runId revision operator now h) ∨
      (∃ record, lookup RunRecord.runId h.store.runs runId = some record ∧
        record.approvedRevision = some revision ∧
        approveRunRevision runId revision operator now h = (.ok record, h)) ∨
      ∃ record, lookup RunRecord.runId h.store.runs runId = some record ∧
        record.status = .draft ∧ record.current.revision = revision ∧
        record.current.profile ≠ .legacy ∧
        Rewritten h (approvedRun record revision operator now)
          (approveRunRevision runId revision operator now h) := by
  unfold approveRunRevision
  rw [find_bind_run]
  cases hl : lookup RunRecord.runId h.store.runs runId with
  | none => exact .inl ⟨_, rfl⟩
  | some record =>
    dsimp only
    by_cases ha : record.approvedRevision = some revision ∧ record.approvedBy = some operator
    · rw [if_pos ha]
      exact .inr (.inl ⟨record, rfl, ha.1, rfl⟩)
    · rw [if_neg ha, throwIf_bind_run]
      split
      · exact .inl ⟨_, rfl⟩
      · rename_i hdraft
        rw [throwIf_bind_run]
        split
        · exact .inl ⟨_, rfl⟩
        · have hl' : lookup RunRecord.runId h.store.runs
              (approvedRun record revision operator now).runId = some record :=
            (lookup_mem hl).2 ▸ hl
          rcases replaceRun_cases hl' with hrep | ⟨hlegacy, hrep⟩
          · exact .inl hrep
          · refine .inr (.inr ⟨record, rfl, ?_, ?_, hlegacy, hrep⟩)
            · exact by_contra fun hs => hdraft (.inl hs)
            · exact by_contra fun hs => hdraft (.inr hs)

/-- A run with one more artifact. -/
def withArtifact (record : RunRecord) (artifact : RunArtifact) : RunRecord :=
  { record with artifacts := record.artifacts ++ [artifact], updatedAt := artifact.createdAt }

theorem appendRunArtifact_cases (runId artifactId : JsString) (type : RunArtifactType)
    (preview : JsString) (now : ℕ) :
    h.Refuses (appendRunArtifact runId artifactId type preview now h) ∨
      ∃ record, lookup RunRecord.runId h.store.runs runId = some record ∧
        record.current.profile ≠ .legacy ∧
        Rewritten h (withArtifact record ⟨artifactId, type, preview, now⟩)
          (appendRunArtifact runId artifactId type preview now h) := by
  unfold appendRunArtifact
  rw [find_bind_run]
  cases hl : lookup RunRecord.runId h.store.runs runId with
  | none => exact .inl ⟨_, rfl⟩
  | some record =>
    dsimp only
    rw [throwIf_bind_run]
    split
    · exact .inl ⟨_, rfl⟩
    rw [throwIf_bind_run]
    split
    · exact .inl ⟨_, rfl⟩
    have hl' : lookup RunRecord.runId h.store.runs
        (withArtifact record ⟨artifactId, type, preview, now⟩).runId = some record :=
      (lookup_mem hl).2 ▸ hl
    rcases replaceRun_cases hl' with hrep | ⟨hlegacy, hrep⟩
    · exact .inl hrep
    · exact .inr ⟨record, rfl, hlegacy, hrep⟩

/-- A run with the result of its worker. -/
def withResult (record : RunRecord) (result : RunProviderResult) (now : ℕ) : RunRecord :=
  { record with
    providerResult := some result, workerRunId := result.workerRunId, updatedAt := now }

theorem recordRunProviderResult_cases (runId : JsString) (result : RunProviderResult) (now : ℕ) :
    h.Refuses (recordRunProviderResult runId result now h) ∨
      (∃ record, lookup RunRecord.runId h.store.runs runId = some record ∧
        (record.status = .queued ∨ record.status = .running) ∧ record.providerResult ≠ none ∧
        recordRunProviderResult runId result now h = (.ok record, h)) ∨
      ∃ record, lookup RunRecord.runId h.store.runs runId = some record ∧
        (record.status = .queued ∨ record.status = .running) ∧ record.providerResult = none ∧
        record.current.profile ≠ .legacy ∧
        Rewritten h (withResult record result now)
          (recordRunProviderResult runId result now h) := by
  unfold recordRunProviderResult
  rw [find_bind_run]
  cases hl : lookup RunRecord.runId h.store.runs runId with
  | none => exact .inl ⟨_, rfl⟩
  | some record =>
    dsimp only
    rw [throwIf_bind_run]
    split
    · exact .inl ⟨_, rfl⟩
    · rename_i hopen
      have hstatus : record.status = .queued ∨ record.status = .running := by
        by_cases hq : record.status = .queued
        · exact .inl hq
        · exact .inr (by_contra fun hr => hopen (.inl ⟨hq, hr⟩))
      by_cases hres : record.providerResult = none
      · rw [if_neg (by simp [hres])]
        have hl' : lookup RunRecord.runId h.store.runs (withResult record result now).runId
            = some record := (lookup_mem hl).2 ▸ hl
        rcases replaceRun_cases hl' with hrep | ⟨hlegacy, hrep⟩
        · exact .inl hrep
        · exact .inr (.inr ⟨record, rfl, hstatus, hres, hlegacy, hrep⟩)
      · rw [if_pos hres]
        exact .inr (.inl ⟨record, rfl, hstatus, hres, rfl⟩)

/-- A run whose reservation was settled. -/
def settledRun (record : RunRecord) (settlement : RunTokenSettlement) (now : ℕ) : RunRecord :=
  { record with
    reservationStatus := .settled, tokenSettlement := some settlement, updatedAt := now }

theorem settleRunReservation_cases (runId : JsString) (inputTokens outputTokens now : ℕ) :
    h.Refuses (settleRunReservation runId inputTokens outputTokens now h) ∨
      (∃ record, lookup RunRecord.runId h.store.runs runId = some record ∧
        record.reservationStatus = .settled ∧
        settleRunReservation runId inputTokens outputTokens now h = (.ok record, h)) ∨
      ∃ record, lookup RunRecord.runId h.store.runs runId = some record ∧
        record.reservationStatus = .active ∧ record.current.profile ≠ .legacy ∧
        Rewritten h (settledRun record (runTokenSettlement inputTokens outputTokens) now)
          (settleRunReservation runId inputTokens outputTokens now h) := by
  unfold settleRunReservation
  rw [find_bind_run]
  cases hl : lookup RunRecord.runId h.store.runs runId with
  | none => exact .inl ⟨_, rfl⟩
  | some record =>
    dsimp only
    rw [throwIf_bind_run]
    split
    · exact .inl ⟨_, rfl⟩
    by_cases ha : record.reservationStatus = .settled ∧ record.tokenSettlement ≠ none
    · rw [if_pos ha, throwIf_bind_run]
      split
      · exact .inl ⟨_, rfl⟩
      · exact .inr (.inl ⟨record, rfl, ha.1, rfl⟩)
    · rw [if_neg ha, throwIf_bind_run]
      split
      · exact .inl ⟨_, rfl⟩
      · rename_i hactive
        have hl' : lookup RunRecord.runId h.store.runs (settledRun record
            (runTokenSettlement inputTokens outputTokens) now).runId = some record :=
          (lookup_mem hl).2 ▸ hl
        rcases replaceRun_cases hl' with hrep | ⟨hlegacy, hrep⟩
        · exact .inl hrep
        · refine .inr (.inr ⟨record, rfl, ?_, hlegacy, hrep⟩)
          exact by_contra fun hs => hactive (.inl hs)

/-- A run at its end. -/
def finalizedRun (record : RunRecord) (status : RunStatus) (reason : Option JsString) (now : ℕ) :
    RunRecord :=
  { record with status := status, terminalReason := reason, updatedAt := now }

/-- The store a function leaves when it has stored one record. -/
def Stored (h : Machine RunStore) (record : RunRecord) (h' : Machine RunStore) : Prop :=
  h'.store.runs = h.store.runs.map (put RunRecord.runId record) ∧ h'.writes ⊆ h.writes ∧
    h'.supply = h.supply

theorem Rewritten.stored {record record' : RunRecord} {h' : Machine RunStore}
    (hr : Rewritten h record' (.ok record, h')) : record = record' ∧ Stored h record' h' := by
  obtain ⟨store, hstore, ⟨ws, hws, hrun⟩ | ⟨fault, ws, -, -, hrun⟩⟩ := hr
  · cases hrun
    exact ⟨rfl, hstore, hws, rfl⟩
  · cases hrun

/-- A function that threw left the store as it was. -/
theorem Rewritten.threw {record' : RunRecord} {fault : Fault JsError} {h' : Machine RunStore}
    (hr : Rewritten h record' (.error fault, h')) :
    h'.store = h.store ∧ h'.writes ⊆ h.writes ∧ h'.supply = h.supply ∧ ¬ h.Reliable := by
  obtain ⟨store, hstore, ⟨ws, -, hrun⟩ | ⟨fault, ws, hws, hrel, hrun⟩⟩ := hr
  · cases hrun
  · cases hrun
    exact ⟨rfl, hws, rfl, hrel⟩

/-- **What `finalizeRun` does.** A run that is queued is made running by a write
of its own, so the function can throw with that write made. -/
theorem finalizeRun_cases (runId : JsString) (status : RunStatus) (reason : Option JsString) (now : ℕ) :
    (∃ fault h', finalizeRun runId status reason now h = (.error fault, h') ∧
      (h'.store = h.store ∨ ∃ record, lookup RunRecord.runId h.store.runs runId = some record ∧
        record.status = .queued ∧
        h'.store.runs = h.store.runs.map
          (put RunRecord.runId { record with status := .running, updatedAt := now })) ∧
      h'.writes ⊆ h.writes ∧ h'.supply = h.supply) ∨
    (∃ record, lookup RunRecord.runId h.store.runs runId = some record ∧
      record.status = status ∧ finalizeRun runId status reason now h = (.ok record, h)) ∨
    ∃ record h', lookup RunRecord.runId h.store.runs runId = some record ∧
      (record.status = .running ∨ record.status = .queued) ∧ record.current.profile ≠ .legacy ∧
      Stored h (finalizedRun record status reason now) h' ∧
      finalizeRun runId status reason now h
        = (.ok (finalizedRun record status reason now), h') := by
  unfold finalizeRun
  rw [find_bind_run]
  cases hl : lookup RunRecord.runId h.store.runs runId with
  | none => exact .inl ⟨_, h, rfl, .inl rfl, List.Subset.refl _, rfl⟩
  | some record =>
    dsimp only
    by_cases hsame : record.status = status
    · rw [if_pos hsame]
      exact .inr (.inl ⟨record, rfl, hsame, rfl⟩)
    rw [if_neg hsame]
    by_cases hq : record.status = .queued
    · rw [if_pos hq]
      set running : RunRecord := { record with status := .running, updatedAt := now } with hrunning
      have hid : ∀ record : RunRecord,
          ({ record with status := .running, updatedAt := now } : RunRecord).runId
            = record.runId := fun _ => rfl
      rcases updateRun_cases (h := h) runId (fun _ => false)
          (fun record => RunStatus.running ∉ record.status.transitions) "invalid_run_transition"
          hid with ⟨e, hr⟩ | ⟨_, -, hc, -⟩ | ⟨found, hfound, -, -, hlegacy, hr⟩
      · exact .inl ⟨_, h, bind_run_error hr, .inl rfl, List.Subset.refl _, rfl⟩
      · cases hc
      obtain rfl := Option.some.inj (hl.symm.trans hfound)
      change Rewritten h running (transitionRun runId .running now h) at hr
      rcases htrans : transitionRun runId .running now h with ⟨fault | a, h₁⟩ <;> rw [htrans] at hr
      · obtain ⟨hstore, hws, hsup, -⟩ := hr.threw
        exact .inl ⟨fault, h₁, bind_run_error htrans, .inl hstore, hws, hsup⟩
      obtain ⟨rfl, hstore, hws, hsup⟩ := hr.stored
      rw [bind_run_ok htrans, throwIf_bind_run]
      have hmid : h₁.store.runs = h.store.runs.map (put RunRecord.runId running) := hstore
      split
      · exact .inl ⟨_, h₁, rfl, .inr ⟨record, rfl, hq, hmid⟩, hws, hsup⟩
      have hfinal : lookup RunRecord.runId h.store.runs running.runId = some record :=
        (lookup_mem hl).2 ▸ hl
      have hl₁ : lookup RunRecord.runId h₁.store.runs running.runId = some running := by
        rw [hmid]
        exact lookup_put_self hfinal
      -- putting the final record over the running one is putting it over the first
      have htwice : ∀ runs, runs = h₁.store.runs.map
          (put RunRecord.runId (finalizedRun running status reason now)) →
          runs = h.store.runs.map
            (put RunRecord.runId (finalizedRun record status reason now)) := by
        rintro runs rfl
        rw [hmid, map_put_put _ (show RunRecord.runId (finalizedRun running status reason now)
          = RunRecord.runId running from rfl)]
        rfl
      have hl₂ : lookup RunRecord.runId h₁.store.runs
          (finalizedRun running status reason now).runId = some running := hl₁
      rcases replaceRun_cases hl₂ with
        ⟨e, hrep⟩ | ⟨-, hrep⟩
      · exact .inl ⟨_, h₁, hrep, .inr ⟨record, rfl, hq, hmid⟩, hws, hsup⟩
      · rcases hrun : RunStore.replace (finalizedRun running status reason now) h₁ with
          ⟨fault | a, h₂⟩ <;> rw [hrun] at hrep
        · obtain ⟨hstore₂, hws₂, hsup₂, -⟩ := hrep.threw
          exact .inl ⟨fault, h₂, hrun, .inr ⟨record, rfl, hq, hstore₂ ▸ hmid⟩,
            List.Subset.trans hws₂ hws,
            hsup₂.trans hsup⟩
        · obtain ⟨rfl, hstore₂, hws₂, hsup₂⟩ := hrep.stored
          exact .inr (.inr ⟨record, h₂, rfl, .inr hq, hlegacy,
            ⟨htwice _ hstore₂, List.Subset.trans hws₂ hws, hsup₂.trans hsup⟩, hrun⟩)
    · rw [if_neg hq, bind_run_ok (show (pure record : Proc RunStore RunRecord) h = (.ok record, h)
        from rfl), throwIf_bind_run]
      split
      · exact .inl ⟨_, h, rfl, .inl rfl, List.Subset.refl _, rfl⟩
      rename_i hopen
      have hrunning : record.status = .running := by_contra fun hs => hopen (.inl hs)
      have hl' : lookup RunRecord.runId h.store.runs (finalizedRun record status reason now).runId
          = some record := (lookup_mem hl).2 ▸ hl
      rcases replaceRun_cases hl' with ⟨e, hrep⟩ | ⟨hlegacy, hrep⟩
      · exact .inl ⟨_, h, hrep, .inl rfl, List.Subset.refl _, rfl⟩
      · rcases hrun : RunStore.replace (finalizedRun record status reason now) h with
          ⟨fault | a, h₂⟩ <;> rw [hrun] at hrep
        · obtain ⟨hstore₂, hws₂, hsup₂, -⟩ := hrep.threw
          exact .inl ⟨fault, h₂, hrun, .inl hstore₂, hws₂, hsup₂⟩
        · obtain ⟨rfl, hstored⟩ := hrep.stored
          exact .inr (.inr ⟨record, h₂, rfl, .inl hrunning, hlegacy, hstored, hrun⟩)

/-! ## New runs and revisions -/

/-- The checks of an input in front of a program. -/
theorem checkDraft_bind_run {α : Type} (resolve : JsString → Except JsError JsString)
    (input : RunDraftInput) (rest : Unit → Proc RunStore α) :
    (∃ e, (checkDraft resolve input >>= rest) h = (.error (.thrown e), h)) ∨
      (draftRefusal input = none ∧ (checkDraft resolve input >>= rest) h = rest () h) := by
  rw [bind_run]
  unfold checkDraft
  rw [ofExcept_bind_run]
  cases hres : resolve input.projectId with
  | error e => exact .inl ⟨e, rfl⟩
  | ok cwd =>
    dsimp only
    cases href : draftRefusal input with
    | some e => exact .inl ⟨e, rfl⟩
    | none => exact .inr ⟨rfl, rfl⟩

/-- Nothing but the supply of identifiers moved. -/
def OnlyDrew (h h' : Machine RunStore) : Prop :=
  h'.store = h.store ∧ h'.writes ⊆ h.writes ∧
    (h'.supply = h.supply ∨ ∃ uuid, h.supply.next = some (uuid, h'.supply))

/-- **What `createRunDraft` does.** -/
theorem createRunDraft_cases (resolve : JsString → Except JsError JsString)
    (input : RunDraftInput) (now : ℕ) :
    (∃ fault h', createRunDraft resolve input now h = (.error fault, h') ∧ OnlyDrew h h') ∨
      ∃ uuid h', h.supply.next = some (uuid, h'.supply) ∧ draftRefusal input = none ∧
        h'.writes ⊆ h.writes ∧
        h'.store.runs = h.store.runs ++ [newRun (newDraft input uuid.text 1 now) none none] ∧
        createRunDraft resolve input now h = (.ok (newDraft input uuid.text 1 now), h') := by
  unfold createRunDraft
  rcases checkDraft_bind_run (h := h) resolve input
    (fun _ => Host.read >>= fun store => throwIf (store.runs.length ≥ maxRuns)
      (JsError.new "run_limit") >>= fun _ => randomUUID >>= fun uuid =>
      write (store.runs ++ [newRun (newDraft input uuid.text 1 now) none none]) >>= fun _ =>
      pure (newDraft input uuid.text 1 now)) with ⟨e, hr⟩ | ⟨href, hr⟩
  · exact .inl ⟨_, h, hr, rfl, List.Subset.refl _, .inl rfl⟩
  rw [hr, bind_run, Host.read_run]
  dsimp only
  rw [throwIf_bind_run]
  split
  · exact .inl ⟨_, h, rfl, rfl, List.Subset.refl _, .inl rfl⟩
  cases hnext : h.supply.next with
  | none =>
    have hdraw : (randomUUID : Proc RunStore Uuid) h
        = (.error (.thrown (JsError.new "ERR_CRYPTO_OPERATION_FAILED")), h) := by
      simp only [randomUUID, Host.draw, hnext]
    exact .inl ⟨_, h, bind_run_error hdraw, rfl, List.Subset.refl _, .inl rfl⟩
  | some drawn =>
    obtain ⟨uuid, supply⟩ := drawn
    have hdraw : (randomUUID : Proc RunStore Uuid) h
        = (.ok uuid, { h with supply := supply }) := by
      simp only [randomUUID, Host.draw, hnext]
    rw [bind_run_ok hdraw]
    rcases write_cases (h := { h with supply := supply })
      (h.store.runs ++ [newRun (newDraft input uuid.text 1 now) none none]) with
      ⟨e, hw⟩ | ⟨store, hstore, ⟨ws, hws, hw⟩ | ⟨fault, ws, hws, -, hw⟩⟩
    · exact .inl ⟨_, _, bind_run_error hw, rfl, List.Subset.refl _, .inr ⟨uuid, hnext⟩⟩
    · exact .inr ⟨uuid, _, rfl, href, hws, hstore, bind_run_ok hw⟩
    · exact .inl ⟨_, _, bind_run_error hw, rfl, hws, .inr ⟨uuid, hnext⟩⟩

/-- A run at a later revision. -/
def revisedRun (record : RunRecord) (draft : RunDraft) (now : ℕ) : RunRecord :=
  { record with current := draft, revisions := record.revisions ++ [draft], updatedAt := now }

/-- **What `reviseRunDraft` does.** -/
theorem reviseRunDraft_cases (resolve : JsString → Except JsError JsString) (runId : JsString)
    (revision : ℕ) (input : RunDraftInput) (now : ℕ) :
    (∃ fault h', reviseRunDraft resolve runId revision input now h = (.error fault, h') ∧
      OnlyDrew h h') ∨
      ∃ record h', lookup RunRecord.runId h.store.runs runId = some record ∧
        record.status = .draft ∧ record.current.revision = revision ∧
        draftRefusal input = none ∧
        Stored h (revisedRun record (newDraft input runId (revision + 1) now) now) h' ∧
        reviseRunDraft resolve runId revision input now h
          = (.ok (newDraft input runId (revision + 1) now), h') := by
  unfold reviseRunDraft
  rw [find_bind_run]
  cases hl : lookup RunRecord.runId h.store.runs runId with
  | none => exact .inl ⟨_, h, rfl, rfl, List.Subset.refl _, .inl rfl⟩
  | some record =>
    dsimp only
    rw [throwIf_bind_run]
    split
    · exact .inl ⟨_, h, rfl, rfl, List.Subset.refl _, .inl rfl⟩
    rename_i hdraft
    rw [throwIf_bind_run]
    split
    · exact .inl ⟨_, h, rfl, rfl, List.Subset.refl _, .inl rfl⟩
    rcases checkDraft_bind_run (h := h) resolve input
      (fun _ => RunStore.replace
        (revisedRun record (newDraft input runId (revision + 1) now) now) >>= fun _ =>
        pure (newDraft input runId (revision + 1) now)) with ⟨e, hr⟩ | ⟨href, hr⟩
    · exact .inl ⟨_, h, hr, rfl, List.Subset.refl _, .inl rfl⟩
    have hstatus : record.status = .draft := by_contra fun hs => hdraft (.inl hs)
    have hrev : record.current.revision = revision := by_contra fun hs => hdraft (.inr hs)
    have hl' : lookup RunRecord.runId h.store.runs
        (revisedRun record (newDraft input runId (revision + 1) now) now).runId = some record :=
      hl
    rcases replaceRun_cases hl' with ⟨e, hrep⟩ | ⟨-, hrep⟩
    · rw [bind_run_error hrep] at hr
      exact .inl ⟨_, h, hr, rfl, List.Subset.refl _, .inl rfl⟩
    · rcases hrun : RunStore.replace
        (revisedRun record (newDraft input runId (revision + 1) now) now) h with
        ⟨fault | a, h'⟩ <;> rw [hrun] at hrep
      · obtain ⟨hstore, hws, hsup, -⟩ := hrep.threw
        rw [bind_run_error hrun] at hr
        exact .inl ⟨fault, h', hr, hstore, hws, .inl hsup⟩
      · obtain ⟨-, hstored⟩ := hrep.stored
        rw [bind_run_ok hrun] at hr
        exact .inr ⟨record, h', rfl, hstatus, hrev, href, hstored, hr⟩

/-- **What `createGroupRunDraft` does.** -/
theorem createGroupRunDraft_cases (sha256 : Sha256)
    (resolve : JsString → Except JsError JsString) (runId : JsString) (ref : OrchestrationRef)
    (operator : JsString) (input : RunDraftInput) (now : ℕ) :
    (∃ fault h', createGroupRunDraft sha256 resolve runId ref operator input now h
      = (.error fault, h') ∧ OnlyDrew h h') ∨
      ∃ request h', (∀ run ∈ h.store.runs, run.runId ≠ runId) ∧ draftRefusal input = none ∧
        h'.writes ⊆ h.writes ∧ h'.supply = h.supply ∧
        h'.store.runs
          = h.store.runs ++ [newRun (newDraft input runId 1 now) (some ref) (some request)] ∧
        createGroupRunDraft sha256 resolve runId ref operator input now h
          = (.ok (newDraft input runId 1 now), h') := by
  unfold createGroupRunDraft
  rw [throwIf_bind_run]
  split
  · exact .inl ⟨_, h, rfl, rfl, List.Subset.refl _, .inl rfl⟩
  let request : OrchestrationRequest :=
    { operator
      estimatedTokens := (input.estimatedTokens.safeInteger?.getD 0).toNat
      promptCommitment := some (sha256.digest input.prompt) }
  rcases checkDraft_bind_run (h := h) resolve input
    (fun _ => Host.read >>= fun store =>
      throwIf (store.runs.any fun run => run.runId = runId || run.orchestrationRef = some ref)
        (JsError.new "orchestration_group_run_exists") >>= fun _ =>
      throwIf (store.runs.length ≥ maxRuns) (JsError.new "run_limit") >>= fun _ =>
      write (store.runs ++ [newRun (newDraft input runId 1 now) (some ref) (some request)]) >>=
        fun _ => pure (newDraft input runId 1 now)) with ⟨e, hr⟩ | ⟨href, hr⟩
  · exact .inl ⟨_, h, hr, rfl, List.Subset.refl _, .inl rfl⟩
  rw [hr, bind_run, Host.read_run]
  dsimp only
  rw [throwIf_bind_run]
  split
  · exact .inl ⟨_, h, rfl, rfl, List.Subset.refl _, .inl rfl⟩
  rename_i hnew
  rw [throwIf_bind_run]
  split
  · exact .inl ⟨_, h, rfl, rfl, List.Subset.refl _, .inl rfl⟩
  have hfresh : ∀ run ∈ h.store.runs, run.runId ≠ runId := by
    rintro run hrun heq
    exact hnew (List.any_eq_true.2 ⟨run, hrun, by simp [heq]⟩)
  rcases write_cases (h := h)
    (h.store.runs ++ [newRun (newDraft input runId 1 now) (some ref) (some request)]) with
    ⟨e, hw⟩ | ⟨store, hstore, ⟨ws, hws, hw⟩ | ⟨fault, ws, hws, -, hw⟩⟩
  · exact .inl ⟨_, h, bind_run_error hw, rfl, List.Subset.refl _, .inl rfl⟩
  · exact .inr ⟨request, ⟨store, ws, h.supply⟩, hfresh, href, hws, rfl, hstore, bind_run_ok hw⟩
  · exact .inl ⟨_, _, bind_run_error hw, rfl, hws, .inl rfl⟩

end Autopilot
