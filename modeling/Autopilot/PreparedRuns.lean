/-
A call of `prepareRun` writes two files, the run store and then the approval queue.

The two are checked apart. A request that the run store takes makes an approval
record the queue takes too, with one exception: a model named by the empty text. The
queue has limits of its own besides, and its file is written by a write of its own.
Where one of these keeps the approval out, the draft is stored without one.
-/
import Autopilot.ExactApproval

set_option autoImplicit false

namespace Autopilot

open Prog Keyed RunStore

/-! ## What the run store takes -/

/-- The draft of a request is stored: the request passes the checks, the store has
room for the draft, and the file is written. -/
structure Drafts (resolve : JsString → Except JsError JsString) (input : RunDraftInput) (now : ℕ)
    (h : Machine RunStore) (uuid : Uuid) (supply : Supply Uuid) : Prop where
  project : ∃ cwd, resolve input.projectId = .ok cwd
  request : draftRefusal input = none
  room : h.store.runs.length < maxRuns
  drawn : h.supply.next = some (uuid, supply)
  valid : isRunStore (h.store.runs ++ [newRun (newDraft input uuid.text 1 now) none none]) = true
  made : h.ReliableFor 1

section drafts

variable {resolve : JsString → Except JsError JsString} {input : RunDraftInput} {now : ℕ}
variable {h : Machine RunStore} {uuid : Uuid} {supply : Supply Uuid}

/-- The run store with one run more. -/
def Drafts.stored (hd : Drafts resolve input now h uuid supply) : Machine RunStore :=
  ⟨⟨h.store.runs ++ [newRun (newDraft input uuid.text 1 now) none none], hd.valid⟩,
    h.writes.drop 1, supply⟩

theorem checkDraft_passes {cwd : JsString} (hproject : resolve input.projectId = .ok cwd)
    (hrequest : draftRefusal input = none) : checkDraft resolve input h = (.ok (), h) := by
  unfold checkDraft
  rw [ofExcept_bind_run, hproject]
  dsimp only
  rw [hrequest]
  rfl

theorem Drafts.run (hd : Drafts resolve input now h uuid supply) :
    createRunDraft resolve input now h = (.ok (newDraft input uuid.text 1 now), hd.stored) := by
  obtain ⟨cwd, hproject⟩ := hd.project
  have hroom : ¬ h.store.runs.length ≥ maxRuns := not_le.2 hd.room
  unfold createRunDraft
  rw [bind_run_ok (checkDraft_passes hproject hd.request), bind_run, Host.read_run]
  dsimp only
  rw [throwIf_bind_run, if_neg hroom, randomUUID_bind_run, hd.drawn]
  dsimp only
  have hwrite : write (h.store.runs ++ [newRun (newDraft input uuid.text 1 now) none none])
      { h with supply := supply } = (.ok (), hd.stored) := by
    unfold write
    rw [dif_pos hd.valid]
    rcases Host.write_outcome (fun _ => (⟨_, hd.valid⟩ : RunStore)) { h with supply := supply } with
      ⟨-, hrun⟩ | ⟨fault, hnot, -⟩
    · exact hrun
    · exact absurd hd.made hnot
  rw [bind_run_ok hwrite]
  rfl

/-- A draft that is not stored leaves the store as it was. -/
theorem createRunDraft_refused (hd : ∀ uuid supply, ¬ Drafts resolve input now h uuid supply) :
    ∃ fault h', createRunDraft resolve input now h = (.error fault, h') ∧ h'.store = h.store := by
  unfold createRunDraft
  cases hproject : resolve input.projectId with
  | error e =>
    refine ⟨.thrown e, h, bind_run_error ?_, rfl⟩
    unfold checkDraft
    rw [ofExcept_bind_run, hproject]
  | ok cwd =>
    cases hrequest : draftRefusal input with
    | some e =>
      refine ⟨.thrown e, h, bind_run_error ?_, rfl⟩
      unfold checkDraft
      rw [ofExcept_bind_run, hproject]
      dsimp only
      rw [hrequest]
      rfl
    | none =>
      rw [bind_run_ok (checkDraft_passes hproject hrequest), bind_run, Host.read_run]
      dsimp only
      rw [throwIf_bind_run]
      by_cases hroom : h.store.runs.length ≥ maxRuns
      · rw [if_pos hroom]
        exact ⟨_, h, rfl, rfl⟩
      · rw [if_neg hroom, randomUUID_bind_run]
        cases hdrawn : h.supply.next with
        | none => exact ⟨_, h, rfl, rfl⟩
        | some drawn =>
          obtain ⟨uuid, supply⟩ := drawn
          dsimp only
          by_cases hvalid : isRunStore (h.store.runs ++
              [newRun (newDraft input uuid.text 1 now) none none]) = true
          · rcases Host.write_outcome (fun _ => (⟨_, hvalid⟩ : RunStore))
              { h with supply := supply } with ⟨hmade, -⟩ | ⟨fault, -, hrun⟩
            · exact absurd ⟨⟨cwd, hproject⟩, hrequest, not_le.1 hroom, hdrawn, hvalid, hmade⟩
                (hd uuid supply)
            · have hwrite : write
                  (h.store.runs ++ [newRun (newDraft input uuid.text 1 now) none none])
                  { h with supply := supply }
                  = (.error fault, { h with supply := supply, writes := h.writes.drop 1 }) := by
                unfold write
                rw [dif_pos hvalid]
                exact hrun
              exact ⟨fault, _, bind_run_error hwrite, rfl⟩
          · have hwrite : write
                (h.store.runs ++ [newRun (newDraft input uuid.text 1 now) none none])
                { h with supply := supply }
                = (.error (.thrown (JsError.new "invalid_run_store")),
                  { h with supply := supply }) := by
              unfold write
              rw [dif_neg hvalid]
              rfl
            exact ⟨_, _, bind_run_error hwrite, rfl⟩

end drafts

/-! ## What the approval queue takes -/

theorem safeInteger?_le {x : JsNumber} {n : ℤ} (hx : x.safeInteger? = some n) :
    n ≤ maxSafeInteger := by
  cases x with
  | finite m k =>
    unfold JsNumber.safeInteger? at hx
    dsimp only at hx
    split at hx
    · rename_i hsafe
      obtain rfl := Option.some.inj hx
      omega
    · cases hx
  | _ => cases hx

/-- What the run store has checked of an input. -/
theorem draftRefusal_none {input : RunDraftInput} (hrequest : draftRefusal input = none) :
    canonicalRunTokenBudget input.prompt ≤ maxSafeInteger ∧
      input.model.all (·.length ≤ maxIdLength) = true := by
  unfold draftRefusal at hrequest
  split at hrequest
  · cases hrequest
  · split at hrequest
    · cases hrequest
    · rename_i hbudget
      split at hrequest
      · rename_i hvalid
        have hbudget := not_not.1 hbudget
        obtain ⟨tokens, htokens, hcanonical⟩ := (Option.any_eq_true ..).1 hbudget
        have hcanonical := of_decide_eq_true hcanonical
        have hsafe := safeInteger?_le htokens
        refine ⟨by omega, ?_⟩
        simp only [Bool.and_eq_true, validDraftInput] at hvalid
        exact hvalid.2.1.1.1.1.1.2
      · cases hrequest

/-- **The record of a draft that is stored** passes the check of the queue, unless the
model is named by the empty text. -/
theorem isApprovalRecord_approvalFor {input : RunDraftInput} (hrequest : draftRefusal input = none)
    (uuid : Uuid) (createdAt now : ℕ) :
    isApprovalRecord (approvalFor (newDraft input uuid.text 1 createdAt) now)
      = decide (input.model ≠ some []) := by
  obtain ⟨hsafe, hmodel⟩ := draftRefusal_none hrequest
  have hid : (approvalIdFor (newDraft input uuid.text 1 createdAt)).length = 51 := by
    show (js "run-approval-" ++ uuid.text ++ js "-" ++ decimal 1).length = 51
    rw [List.length_append, List.length_append, List.length_append, uuid.length_text]
    rfl
  have hvendor : validText input.provider.text maxApprovalField = true := by
    cases input.provider <;> rfl
  have hnamed : input.model.all (validText · maxApprovalField)
      = decide (input.model ≠ some []) := by
    cases hm : input.model with
    | none => rfl
    | some model =>
      rw [hm] at hmodel
      have hlength : model.length ≤ maxIdLength := of_decide_eq_true hmodel
      have hshort : model.length ≤ maxApprovalField := hlength.trans (by decide)
      simp [validText, hshort, List.length_pos_iff]
  have hrun : validText uuid.text maxApprovalField = true := by
    simp [validText, uuid.length_text, maxApprovalField]
  have happroval : validText (approvalIdFor (newDraft input uuid.text 1 createdAt))
      maxApprovalField = true := by
    simp [validText, hid, maxApprovalField]
  -- the number of the prompt's tokens and the one of the answer's are below the sum of the two
  have hprompt : conservativeRunPromptTokens input.prompt ≤ maxSafeInteger := by
    unfold canonicalRunTokenBudget at hsafe
    omega
  have htaken : (input.prompt.take 500).length ≤ 500 := List.length_take_le 500 input.prompt
  have hbudget : conservativeRunPromptTokens input.prompt + 8192 ≤ maxSafeInteger := hsafe
  unfold isApprovalRecord
  dsimp only [approvalFor, ApprovalQueue.createApprovalRecord]
  rw [happroval]
  dsimp only [newDraft]
  rw [hnamed]
  have hone : 1 ≤ maxSafeInteger := by decide
  have hallowance : 8192 ≤ maxSafeInteger := by decide
  simp [hrun, hvendor, hprompt, hbudget, hone, hallowance, canonicalRunTokenBudget,
    runOutputTokenAllowance]

section approvals

variable {options : OrchestratorOptions} {h : Machine (World options)}

/-- The approval of a new draft can be stored. -/
structure TakesApproval (input : RunDraftInput) (h : Machine (World options)) : Prop where
  room : h.store.approvals.records.length < maxApprovalRecords
  named : input.model ≠ some []
  /-- The write after the next one does not fail. -/
  made : ∀ e, (h.writes.drop 1).head? ≠ some (.failed e)

theorem isApprovalQueue_append {queue : ApprovalQueue} {approval : ApprovalQueueRecord} :
    isApprovalQueue (queue.records ++ [approval]) = true ↔
      queue.records.length < maxApprovalRecords ∧ isApprovalRecord approval = true := by
  have hvalid := queue.valid
  unfold isApprovalQueue at hvalid ⊢
  rw [Bool.and_eq_true] at hvalid
  rw [Bool.and_eq_true, List.all_append, hvalid.2, Bool.true_and, List.all_cons, List.all_nil,
    Bool.and_true, List.length_append, List.length_singleton, decide_eq_true_eq]
  exact and_congr_left' Nat.succ_le_iff

/-- Asking for an approval throws just where the queue refuses the record or its file is
not written, and it changes no run. -/
theorem askApproval_run (approval : ApprovalQueueRecord) :
    (askApproval approval h).2.store.runs = h.store.runs ∧
      ((∃ error, (askApproval approval h).1 = .error (.thrown error)) ↔
        ¬ (isApprovalQueue (h.store.approvals.records ++ [approval]) = true ∧
          ∀ e, h.writes.head? ≠ some (.failed e))) := by
  unfold askApproval
  rw [bind_run, Host.read_run]
  dsimp only
  unfold ApprovalQueue.writeApprovalQueue
  by_cases hvalid : isApprovalQueue (h.store.approvals.records ++ [approval]) = true
  · rw [dif_pos hvalid]
    obtain ⟨world, writes, supply⟩ := h
    rcases writes with _ | ⟨outcome, writes⟩
    · exact ⟨rfl, by simp [inApprovals, zoom, Host.write, Host.lens, hvalid]⟩
    · cases outcome with
      | done => exact ⟨rfl, by simp [inApprovals, zoom, Host.write, Host.lens, hvalid]⟩
      | failed e => exact ⟨rfl, by simp [inApprovals, zoom, Host.write, Host.lens]⟩
      | crashed => exact ⟨rfl, by simp [inApprovals, zoom, Host.write, Host.lens, hvalid]⟩
  · rw [dif_neg hvalid]
    refine ⟨rfl, fun _ hboth => hvalid hboth.1, fun _ => ⟨_, rfl⟩⟩

/-- The draft of a request is stored. -/
def Prepares (env : Environment) (input : RunDraftInput) (h : Machine (World options))
    (uuid : Uuid) (supply : Supply Uuid) : Prop :=
  env.routeAvailable input.provider input.model input.profile input.requestedReasoningEffort false
      = true ∧
    Drafts env.resolveEnabledProject input env.now (runsOf h) uuid supply

variable {env : Environment} {input : RunDraftInput} {uuid : Uuid} {supply : Supply Uuid}

theorem record_found {runId : JsString} (hmem : ∃ run ∈ h.store.runs.runs, run.runId = runId) :
    ∃ run, record runId h = (.ok run, h) := by
  obtain ⟨run, hrun, hid⟩ := hmem
  have hfind := find_run (h := runsOf h) runId
  rw [show lookup RunRecord.runId (runsOf h).store.runs runId = some run from
    hid ▸ knows_of_mem hrun] at hfind
  refine ⟨run, ?_⟩
  have hzoom := zoom_run (l := Host.lens (World.runsLens options)) hfind
  rwa [Lens.set_get] at hzoom

/-- A request that is not stored throws before anything is written. -/
theorem prepareRun_refused (hnot : ¬ ∃ uuid supply, Prepares env input h uuid supply) :
    ∃ fault h', prepareRun env input h = (.error fault, h') ∧ h'.store = h.store := by
  unfold prepareRun
  rw [ofExcept_bind_run]
  cases hproject : env.resolveEnabledProject input.projectId with
  | error e => exact ⟨_, h, rfl, rfl⟩
  | ok cwd =>
    dsimp only
    rw [throwIf_bind_run]
    by_cases hroute : env.routeAvailable input.provider input.model input.profile
        input.requestedReasoningEffort false = true
    · rw [if_neg (not_not.2 hroute)]
      have hdrafts : ∀ uuid supply,
          ¬ Drafts env.resolveEnabledProject input env.now (runsOf h) uuid supply :=
        fun uuid supply hdraft => hnot ⟨uuid, supply, hroute, hdraft⟩
      obtain ⟨fault, store, hrun, hsame⟩ := createRunDraft_refused hdrafts
      refine ⟨fault, _, bind_run_error (zoom_run hrun), ?_⟩
      show { h.store with runs := store.store } = h.store
      rw [hsame]
      rfl
    · rw [if_pos hroute]
      exact ⟨_, h, rfl, rfl⟩

/-- A request that is stored goes on to the approval queue, with one run more. -/
theorem prepareRun_prepared (hp : Prepares env input h uuid supply) :
    ∃ h₁, prepareRun env input h = (askApproval (approvalFor (newDraft input uuid.text 1 env.now)
        env.now) >>= fun _ => record uuid.text) h₁ ∧
      h₁.store.approvals = h.store.approvals ∧ h₁.writes = h.writes.drop 1 ∧
      h₁.store.runs.runs
        = h.store.runs.runs ++ [newRun (newDraft input uuid.text 1 env.now) none none] := by
  obtain ⟨hroute, hdraft⟩ := hp
  obtain ⟨cwd, hproject⟩ := hdraft.project
  refine ⟨(Host.lens (World.runsLens options)).set h hdraft.stored, ?_, rfl, rfl, rfl⟩
  unfold prepareRun
  rw [ofExcept_bind_run, hproject]
  dsimp only
  rw [throwIf_bind_run, if_neg (not_not.2 hroute)]
  exact bind_run_ok (zoom_run hdraft.run)

/-- The queue takes the approval of a draft that is stored, and does not throw. -/
theorem takesApproval_iff (hp : Prepares env input h uuid supply) :
    TakesApproval input h ↔
      isApprovalQueue (h.store.approvals.records ++
          [approvalFor (newDraft input uuid.text 1 env.now) env.now]) = true ∧
        ∀ e, (h.writes.drop 1).head? ≠ some (.failed e) := by
  rw [isApprovalQueue_append, isApprovalRecord_approvalFor hp.2.request, decide_eq_true_eq]
  exact ⟨fun ht => ⟨⟨ht.room, ht.named⟩, ht.made⟩, fun ⟨⟨hroom, hnamed⟩, hmade⟩ =>
    ⟨hroom, hnamed, hmade⟩⟩

end approvals

/-! A queue of as many records as it takes. -/

section sample

def sampleApproval : ApprovalQueueRecord :=
  approvalFor (newDraft sampleInput sampleUuid'.text 1 1) 1

def sampleFull : ApprovalQueue where
  records := List.replicate 512 sampleApproval
  valid := by
    have hrecord : isApprovalRecord sampleApproval = true := by decide
    unfold isApprovalQueue
    rw [Bool.and_eq_true, List.length_replicate]
    refine ⟨by decide, List.all_eq_true.2 fun record hmem => ?_⟩
    rw [List.eq_of_mem_replicate hmem]
    exact hrecord

def sampleCrowded : Machine (World sampleControl) :=
  ⟨{ World.initial sampleControl with approvals := sampleFull }, [],
    .fresh [sampleUuid] (List.nodup_singleton _)⟩

end sample

end Autopilot
