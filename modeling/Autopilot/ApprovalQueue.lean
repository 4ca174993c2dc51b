/-
The approval queue: what the owner has decided about a revision of a run.

A record is made for one revision of one run, and it carries what the owner gets
to see of it. The document is a list of records; a function of the control plane
reads it, changes it as a value, and writes it back, and only what `validate`
accepts is written. The same check stands in the reader, so the document carries
it as a field.
-/
import Autopilot.Handoff

set_option autoImplicit false

namespace Autopilot

open Prog

def maxApprovalRecords : ℕ := 512
def maxApprovalField : ℕ := 512

/-- `ApprovalStatus`. -/
inductive ApprovalStatus where
  | pending | approved | rejected
  deriving DecidableEq, Repr

/-- `ApprovalQueueRecord`. -/
structure ApprovalQueueRecord where
  approvalId : JsString
  runId : Option JsString
  revision : Option ℕ
  sessionId : JsString
  vendor : JsString
  model : Option JsString
  skillIds : List JsString
  promptPreview : JsString
  promptFile : Option JsString
  estimatedTokens : ℕ
  inputTokenBound : ℕ
  outputTokenAllowance : ℕ
  promptReviewAcknowledged : Bool
  status : ApprovalStatus
  createdAt : ℕ
  decidedAt : Option ℕ
  rejectionReason : Option JsString
  deriving DecidableEq

/-- `validText`. -/
def validText (value : JsString) (maximum : ℕ) : Bool :=
  0 < value.length && value.length ≤ maximum

/-- The checks `validate` makes of one record. -/
def isApprovalRecord (record : ApprovalQueueRecord) : Bool :=
  validText record.approvalId maxApprovalField &&
    record.runId.all (validText · maxApprovalField) &&
    record.revision.all (fun revision => revision ≤ maxSafeInteger && 1 ≤ revision) &&
    validText record.sessionId maxApprovalField && validText record.vendor maxApprovalField &&
    record.model.all (validText · maxApprovalField) &&
    record.skillIds.length ≤ 64 && record.skillIds.all (validText · maxApprovalField) &&
    record.promptPreview.length ≤ 500 && record.promptFile.all (validText · 2048) &&
    record.inputTokenBound ≤ maxSafeInteger && record.outputTokenAllowance ≤ maxSafeInteger &&
    record.estimatedTokens ≤ maxSafeInteger &&
    record.estimatedTokens = record.inputTokenBound + record.outputTokenAllowance &&
    record.rejectionReason.all (validText · 200)

/-- `validate`. -/
def isApprovalQueue (records : List ApprovalQueueRecord) : Bool :=
  records.length ≤ maxApprovalRecords && records.all isApprovalRecord

/-- `ApprovalQueueDocument`: records the reader accepts. -/
structure ApprovalQueue where
  records : List ApprovalQueueRecord
  valid : isApprovalQueue records = true
  deriving DecidableEq

namespace ApprovalQueue

/-- What a missing file reads as. -/
def empty : ApprovalQueue := ⟨[], by decide⟩

/-- `writeApprovalQueue`. -/
def writeApprovalQueue (records : List ApprovalQueueRecord) : Proc ApprovalQueue Unit :=
  if h : isApprovalQueue records = true then Host.write fun _ => ⟨records, h⟩
  else throw (JsError.new "invalid_approval_queue")

/-- The input of `createApprovalRecord`. -/
structure ApprovalInput where
  approvalId : JsString
  runId : Option JsString
  revision : Option ℕ
  sessionId : JsString
  vendor : JsString
  model : Option JsString
  skillIds : List JsString
  prompt : JsString
  promptFile : Option JsString := none
  estimatedTokens : ℕ
  inputTokenBound : ℕ
  outputTokenAllowance : ℕ
  promptReviewAcknowledged : Bool

/-- `createApprovalRecord`. -/
def createApprovalRecord (input : ApprovalInput) (now : ℕ) : ApprovalQueueRecord where
  approvalId := input.approvalId
  runId := input.runId
  revision := input.revision
  sessionId := input.sessionId
  vendor := input.vendor
  model := input.model
  -- `[...new Set(ids)]` keeps the first of each
  skillIds := input.skillIds.reverse.dedup.reverse
  promptPreview := input.prompt.take 500
  promptFile := input.promptFile
  estimatedTokens := input.estimatedTokens
  inputTokenBound := input.inputTokenBound
  outputTokenAllowance := input.outputTokenAllowance
  promptReviewAcknowledged := input.promptReviewAcknowledged
  status := .pending
  createdAt := now
  decidedAt := none
  rejectionReason := none

/-- `decideApproval`. -/
def decideApproval (record : ApprovalQueueRecord) (approved : Bool) (now : ℕ)
    (rejectionReason : Option JsString) : Except JsError ApprovalQueueRecord :=
  if record.status ≠ .pending then .error (JsError.new "approval_already_decided")
  else .ok { record with
    status := if approved then .approved else .rejected
    decidedAt := some now
    rejectionReason :=
      if approved then none
      else some ((rejectionReason.map (·.take 200)).getD (js "rejected_by_owner")) }

/-- The decision of the control plane's approval route: every record of the
identifier is decided, and one that is decided already stops it. -/
def decideApprovalHttp (approvalId : JsString) (approved : Bool) (now : ℕ)
    (rejectionReason : Option JsString) : Proc ApprovalQueue Unit := do
  let queue ← Host.read
  throwIf (queue.records.all (·.approvalId ≠ approvalId)) (JsError.new "approval_not_found")
  let records ← ofExcept (queue.records.mapM fun record =>
    if record.approvalId = approvalId then decideApproval record approved now rejectionReason
    else .ok record)
  writeApprovalQueue records

/-! ## What a decision changes -/

variable {record record' : ApprovalQueueRecord}

/-- A record without what a decision sets. -/
def undecided (record : ApprovalQueueRecord) : ApprovalQueueRecord :=
  { record with status := .pending, decidedAt := none, rejectionReason := none }

/-- The record is as it was, or it was pending and is decided now. Either way it
is about the same revision of the same run. -/
def Decides (record record' : ApprovalQueueRecord) : Prop :=
  undecided record' = undecided record ∧ (record.status ≠ .pending → record' = record)

theorem Decides.refl (record : ApprovalQueueRecord) : Decides record record :=
  ⟨rfl, fun _ => rfl⟩

theorem decideApproval_decides {approved : Bool} {now : ℕ} {reason : Option JsString}
    (h : decideApproval record approved now reason = .ok record') :
    record.status = .pending ∧ record'.status = (if approved then .approved else .rejected) ∧
      Decides record record' := by
  unfold decideApproval at h
  split at h
  · cases h
  · rename_i hs
    have hpending : record.status = .pending := by_contra hs
    simp only [Except.ok.injEq] at h
    subst h
    exact ⟨hpending, rfl, rfl, fun hc => absurd hpending hc⟩

variable {h : Machine ApprovalQueue}

theorem writeApprovalQueue_cases (records : List ApprovalQueueRecord) :
    h.Refuses (writeApprovalQueue records h) ∨
      ∃ queue : ApprovalQueue, queue.records = records ∧
        h.Writes queue () (writeApprovalQueue records h) := by
  unfold writeApprovalQueue
  by_cases hv : isApprovalQueue records = true
  · rw [dif_pos hv]
    exact .inr ⟨⟨records, hv⟩, rfl, Host.write_writes (fun _ => (⟨records, hv⟩ : ApprovalQueue)) h⟩
  · rw [dif_neg hv]
    exact .inl ⟨_, rfl⟩

/-- Deciding some records of a list decides none of the others. -/
theorem mapM_decides {f : ApprovalQueueRecord → Except JsError ApprovalQueueRecord}
    (hf : ∀ record record', f record = .ok record' → Decides record record') :
    ∀ {records records' : List ApprovalQueueRecord}, records.mapM f = .ok records' →
      List.Forall₂ Decides records records'
  | [], records', h => by
    cases h
    exact .nil
  | record :: records, records', h => by
    rw [List.mapM_cons] at h
    cases hr : f record with
    | error e =>
      rw [hr] at h
      cases h
    | ok decided =>
      cases hrest : records.mapM f with
      | error e =>
        rw [hr, hrest] at h
        cases h
      | ok rest =>
        rw [hr, hrest] at h
        cases h
        exact .cons (hf _ _ hr) (mapM_decides hf hrest)

/-- **What the approval route does.** -/
theorem decideApprovalHttp_cases (approvalId : JsString) (approved : Bool) (now : ℕ)
    (reason : Option JsString) :
    h.Refuses (decideApprovalHttp approvalId approved now reason h) ∨
      ∃ queue : ApprovalQueue, List.Forall₂ Decides h.store.records queue.records ∧
        h.Writes queue () (decideApprovalHttp approvalId approved now reason h) := by
  unfold decideApprovalHttp
  rw [bind_run, Host.read_run]
  dsimp only
  rw [throwIf_bind_run]
  split
  · exact .inl ⟨_, rfl⟩
  rw [ofExcept_bind_run]
  cases hm : h.store.records.mapM fun record =>
      if record.approvalId = approvalId then decideApproval record approved now reason
      else .ok record with
  | error e => exact .inl ⟨_, rfl⟩
  | ok records =>
    have hall : List.Forall₂ Decides h.store.records records := by
      refine mapM_decides (fun record record' hrec => ?_) hm
      split at hrec
      · exact (decideApproval_decides hrec).2.2
      · cases hrec
        exact .refl record
    rcases writeApprovalQueue_cases (h := h) records with hr | ⟨queue, rfl, hw⟩
    · exact .inl hr
    · exact .inr ⟨queue, hall, hw⟩

end ApprovalQueue

end Autopilot
