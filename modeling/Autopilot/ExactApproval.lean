/-
Nothing is dispatched but what was approved.

The content of a run is written four times on its way to a worker: as a revision,
as a record for the owner to decide, as the handoff of a task, and as the handoff
that is dispatched. Each is made from the one before, at its own time, and the
run can be revised, cancelled, unbound and queued again in between. Here the four
are put together: what is dispatched is the current revision of its run, that is
the one that was approved, and the owner decided on the record of that very
revision.
-/
import Autopilot.Lib.Framing
import Autopilot.RunTasks
import Autopilot.SupervisorLifecycle

set_option autoImplicit false

namespace Autopilot

open Prog Keyed RunStore

variable {options : OrchestratorOptions} {full careless : Prop}
variable {h h' : Machine (World options)} {run run' : RunRecord}

/-! ## The changes of a run -/

theorem RunChange.persists (hc : RunChange full careless h run run') : Persists run run' := by
  have hid := hc.runId
  cases hc with
  | revised input now hdraft hinput => exact ⟨hid, id, fun hn => absurd hdraft hn⟩
  | approved operator now hdraft hgranted =>
    exact ⟨hid, fun _ => by simp [approvedRun], fun hn => absurd hdraft hn⟩
  | groupBound => exact ⟨hid, id, fun hn => ⟨hn, rfl⟩⟩
  | unbound => exact ⟨hid, id, fun hn => ⟨hn, rfl⟩⟩
  | queued => exact ⟨hid, id, fun _ => ⟨by simp [movedRun], rfl⟩⟩
  | started => exact ⟨hid, id, fun _ => ⟨by simp [movedRun], rfl⟩⟩
  | settled => exact ⟨hid, id, fun hn => ⟨hn, rfl⟩⟩
  | released => exact ⟨hid, id, fun hn => ⟨hn, rfl⟩⟩
  | finalized status reason now hopen hend =>
    refine ⟨hid, id, fun _ => ⟨?_, rfl⟩⟩
    show status ≠ .draft
    rcases hend with rfl | rfl <;> decide
  | cancelled => exact ⟨hid, id, fun _ => ⟨by simp [movedRun], rfl⟩⟩
  | flagged => exact ⟨hid, id, fun hn => ⟨hn, rfl⟩⟩
  | noted _ hcore =>
    have hsame := sameCourse_of_core hcore
    exact ⟨hid, fun ha => by rwa [hsame.approvedRevision], fun hn => by
      rw [hsame.status]
      exact ⟨hn, hsame.current⟩⟩

/-- The task a run is bound to after a change it was bound to before, or is the
one a group run is bound to. -/
theorem RunChange.claims (hc : RunChange full careless h run run')
    (hv : isRunRecord run = true) {taskId : JsString}
    (hbound : run'.supervisorTaskId = some taskId) :
    run.supervisorTaskId = some taskId ∨
      (taskId = runTaskId run.runId ∧ run'.approvedRevision ≠ none) := by
  cases hc with
  | groupBound hfull reservation now happroved hfree hgroup =>
    refine .inr ⟨(Option.some.inj hbound).symm, ?_⟩
    have happ := RunRecord.approvedRevision_of_status hv (by simp [happroved]) (by simp [happroved])
    show run.approvedRevision ≠ none
    rw [happ]
    exact Option.some_ne_none _
  | unbound => cases hbound
  | noted _ hcore =>
    rw [(sameCourse_of_core hcore).supervisorTaskId] at hbound
    exact .inl hbound
  | _ => exact .inl hbound

/-- **The step lemma for the tasks.** -/
theorem Step.ordered (hs : Step full careless h h') (ho : Ordered h) : Ordered h' := by
  obtain ⟨-, hchange⟩ := hs
  cases hchange with
  | kept hstore hdraws =>
    refine ho.of_tasks (congrArg World.runs hstore) ?_ ?_ hdraws
    · rw [hstore]
    · rw [hstore]
      exact ho.file
  | created input now uuid hnext hinput hruns hframe =>
    refine ho.of_new (ho.drawn_new hnext) (.inl ⟨uuid, ?_, rfl⟩) hruns hframe (.inr ⟨uuid, hnext⟩)
    rw [(Supply.next_spec hnext).2]
    exact List.mem_cons_self
  | groupCreated hfull input now ref request hinput hnew hruns hframe hsupply =>
    have hgroup : ∃ rest, deterministicGroupRunId options.queue.sha256 ref.groupId ref.slotId
        = js "bgr-" ++ rest := ⟨_, rfl⟩
    refine ho.of_new ⟨?_, hnew⟩ (.inr hgroup) hruns hframe (.inl hsupply)
    rintro ⟨uuid, -, htext⟩
    exact uuid.text_ne_group _ htext
  | changed run run' hknows hchange hruns hframe hsupply =>
    have hv := h.store.runs.record_valid hknows.mem
    refine ho.of_put hknows hchange.persists (fun taskId hbound => .inl ?_) hruns hframe
      (.inl hsupply)
    rcases hchange.claims hv hbound with hsame | ⟨hname, happroved⟩
    · exact ⟨.inl hsame, hchange.persists.approved (ho.bound run hknows.mem taskId hsame).1⟩
    · exact ⟨.inr hname, happroved⟩
  | bound run uuid reservation now hnext hknows happroved hfree hholds hruns hframe =>
    have hv := h.store.runs.record_valid hknows.mem
    have happ := RunRecord.approvedRevision_of_status hv (by simp [happroved]) (by simp [happroved])
    have hpersists : Persists run (boundRun run (runTaskId uuid.text) reservation now) :=
      ⟨by rfl, id, fun hn => ⟨hn, rfl⟩⟩
    refine ho.of_put hknows hpersists (fun taskId hbound => .inr ?_) hruns hframe
      (.inr ⟨uuid, hnext⟩)
    refine ⟨uuid.text, (Option.some.inj hbound).symm, ho.drawn_new hnext, ⟨uuid, ?_, rfl⟩, ?_⟩
    · rw [(Supply.next_spec hnext).2]
      exact List.mem_cons_self
    · show run.approvedRevision ≠ none
      rw [happ]
      exact Option.some_ne_none _
  | asked run approval now hknows hfor hrecords hstatus hframe hsupply =>
    refine ho.of_tasks hframe.runs (by rw [hframe.supervisor]) ?_ (.inl hsupply)
    rw [hframe.supervisor]
    exact ho.file
  | decided hrecords hframe hsupply =>
    refine ho.of_tasks hframe.runs (by rw [hframe.supervisor]) ?_ (.inl hsupply)
    rw [hframe.supervisor]
    exact ho.file
  | entered run task hknows hbound hhandoff htasks hfile hframe hsupply =>
    have hv := h.store.runs.record_valid hknows.mem
    obtain ⟨happroved, -⟩ := ho.bound run hknows.mem _ hbound
    obtain ⟨revision, hrevision⟩ := Option.ne_none_iff_exists'.1 happroved
    exact ho.of_entered hknows (RunRecord.approvedRevision_eq hv hrevision).1 hbound hhandoff
      htasks hfile hframe hsupply
  | moved htasks hfile hframe hsupply => exact ho.of_tasks hframe.runs htasks hfile (.inl hsupply)
  | metered c hcalled hrun hframe hdraws =>
    refine ho.of_tasks hframe.runs (by rw [hframe.supervisor]) ?_ hdraws
    rw [hframe.supervisor]
    exact ho.file
  | reloaded hfull hstore hsupply =>
    refine ho.of_tasks (by rw [hstore]; rfl) ?_ ?_ (.inl hsupply)
    · rw [hstore]
      exact congrArg (fun state : SupervisorState options.queue => state.tasks.map (·.order)) ho.file
    · rw [hstore]
      rfl

/-! ## What the owner decided on -/

/-- The record is the one of that revision, whatever was decided. -/
def Describes (record : ApprovalQueueRecord) (draft : RunDraft) : Prop :=
  ∃ now, ApprovalQueue.undecided record = approvalFor draft now

theorem Describes.fields {record : ApprovalQueueRecord} {draft : RunDraft}
    (hd : Describes record draft) : record.approvalId = approvalIdFor draft ∧
      record.runId = some draft.runId ∧ record.revision = some draft.revision := by
  obtain ⟨now, hrecord⟩ := hd
  exact ⟨congrArg (·.approvalId) hrecord, congrArg (·.runId) hrecord,
    congrArg (·.revision) hrecord⟩

/-- The identifier of an approval names one revision of one run. -/
theorem approvalIdFor_injective {draft draft' : RunDraft}
    (ha : approvalIdFor draft = approvalIdFor draft') :
    draft.runId = draft'.runId ∧ draft.revision = draft'.revision := by
  unfold approvalIdFor at ha
  have hhyphen : ∀ n : ℕ, (45 : UInt16) ∉ (decimal n).reverse := by
    intro n hmem
    exact absurd (decimalDigits_units (List.mem_reverse.1 hmem)).1 (by decide)
  -- read from the end, the number ends at the first hyphen
  have hrev := congrArg List.reverse ha
  simp only [List.reverse_append, List.append_assoc] at hrev
  have hsplit : (js "-").reverse = [45] := by decide
  rw [hsplit, List.singleton_append, List.singleton_append] at hrev
  obtain ⟨hnumber, hrest⟩ := Framing.append_cons_inj_of_first (hhyphen _) (hhyphen _) hrev
  refine ⟨?_, decimal_injective (List.reverse_injective hnumber)⟩
  exact List.reverse_injective (List.append_cancel_right hrest)

/-- What ties the approvals to the runs. -/
structure Answered (h : Machine (World options)) : Prop where
  profiles : ∀ run ∈ h.store.runs.runs, run.current.profile ≠ .legacy
  records : ∀ record ∈ h.store.approvals.records,
    ∃ run ∈ h.store.runs.runs, ∃ draft ∈ run.revisions, Describes record draft
  granted : ∀ run ∈ h.store.runs.runs, run.approvedRevision ≠ none →
    ∃ record ∈ h.store.approvals.records, record.status = .approved ∧
      record.isFor run.runId run.current.revision = true

theorem answered_initial (writes : List (WriteOutcome JsError)) (uuids : List Uuid)
    (fresh : uuids.Nodup) :
    Answered (⟨.initial options, writes, .fresh uuids fresh⟩ : Machine (World options)) := by
  refine ⟨?_, ?_, ?_⟩
  · intro run hrun
    cases hrun
  · intro record hrecord
    cases hrecord
  · intro run hrun
    cases hrun

/-- The runs and the approvals are as they were. -/
theorem Answered.of_same (ha : Answered h) (hruns : h'.store.runs = h.store.runs)
    (happrovals : h'.store.approvals = h.store.approvals) : Answered h' := by
  refine ⟨?_, ?_, ?_⟩
  · rw [hruns]
    exact ha.profiles
  · rw [hruns, happrovals]
    exact ha.records
  · rw [hruns, happrovals]
    exact ha.granted

theorem newDraft_profile (input : RunDraftInput) (runId : JsString) (revision now : ℕ) :
    (newDraft input runId revision now).profile ≠ .legacy := by
  show input.profile.stored ≠ .legacy
  cases input.profile <;> decide

theorem Answered.of_new (ha : Answered h) {input : RunDraftInput} {runId : JsString} {now : ℕ}
    {ref : Option OrchestrationRef} {request : Option OrchestrationRequest}
    (hruns : h'.store.runs.runs
      = h.store.runs.runs ++ [newRun (newDraft input runId 1 now) ref request])
    (hframe : OnRuns h h') : Answered h' := by
  refine ⟨?_, ?_, ?_⟩
  · intro run hrun
    rw [hruns, List.mem_append, List.mem_singleton] at hrun
    rcases hrun with hrun | rfl
    · exact ha.profiles run hrun
    · exact newDraft_profile input _ _ _
  · intro record hrecord
    rw [hframe.approvals] at hrecord
    obtain ⟨run, hrun, hdraft⟩ := ha.records record hrecord
    rw [hruns]
    exact ⟨run, List.mem_append_left _ hrun, hdraft⟩
  · intro run hrun happroved
    rw [hframe.approvals]
    rw [hruns, List.mem_append, List.mem_singleton] at hrun
    rcases hrun with hrun | rfl
    · exact ha.granted run hrun happroved
    · exact absurd rfl happroved

/-- A run was rewritten, and kept its revisions. -/
theorem Answered.of_put (ha : Answered h) (hk : Knows h run) (hid : run'.runId = run.runId)
    (hprofile : run'.current.profile ≠ .legacy) (hrevisions : run.revisions ⊆ run'.revisions)
    (hgranted : run'.approvedRevision ≠ none → ∃ record ∈ h.store.approvals.records,
      record.status = .approved ∧ record.isFor run.runId run'.current.revision = true)
    (hruns : h'.store.runs.runs = h.store.runs.runs.map (put RunRecord.runId run'))
    (hframe : OnRuns h h') : Answered h' := by
  refine ⟨?_, ?_, ?_⟩
  · intro other hother
    rw [hruns] at hother
    rcases mem_put hother with rfl | ⟨hother, -⟩
    · exact hprofile
    · exact ha.profiles other hother
  · intro record hrecord
    rw [hframe.approvals] at hrecord
    obtain ⟨other, hother, draft, hdraft, hd⟩ := ha.records record hrecord
    rw [hruns]
    refine ⟨put RunRecord.runId run' other, List.mem_map_of_mem hother, draft, ?_, hd⟩
    unfold put
    split
    · rename_i hsame
      rw [hk.unique (knows_of_mem hother) (hsame.trans hid)] at hdraft
      exact hrevisions hdraft
    · exact hdraft
  · intro other hother happroved
    rw [hframe.approvals]
    rw [hruns] at hother
    rcases mem_put hother with rfl | ⟨hother, -⟩
    · rw [hid]
      exact hgranted happroved
    · exact ha.granted other hother happroved

/-- A change of a run keeps its revisions, and approves nothing that was not
granted. -/
theorem RunChange.answered (hc : RunChange full careless h run run') (ha : Answered h)
    (hk : Knows h run) : run'.current.profile ≠ .legacy ∧ run.revisions ⊆ run'.revisions ∧
      (run'.approvedRevision ≠ none → ∃ record ∈ h.store.approvals.records,
        record.status = .approved ∧ record.isFor run.runId run'.current.revision = true) := by
  have hprofile := ha.profiles run hk.mem
  have hgranted := ha.granted run hk.mem
  cases hc with
  | revised input now hdraft hinput =>
    refine ⟨newDraft_profile input _ _ _, List.subset_append_left .., fun happroved => ?_⟩
    -- a draft is not approved
    obtain ⟨revision, hrevision⟩ := Option.ne_none_iff_exists'.1 happroved
    exact absurd hdraft
      (RunRecord.approvedRevision_eq (h.store.runs.record_valid hk.mem) hrevision).1
  | approved operator now hdraft hgrant =>
    exact ⟨hprofile, List.Subset.refl _, fun _ => hgrant⟩
  | noted run' hcore =>
    have hsame := sameCourse_of_core hcore
    have hrevisions : run'.revisions = run.revisions := congrArg (·.revisions) hcore
    rw [hsame.current, hrevisions, hsame.approvedRevision]
    exact ⟨hprofile, List.Subset.refl _, hgranted⟩
  | _ => exact ⟨hprofile, List.Subset.refl _, hgranted⟩

/-- The owner decided, or a granted record was copied. -/
theorem Answered.of_decided (ha : Answered h)
    (hrecords : List.Forall₂ (Settles h.store.approvals.records) h.store.approvals.records
      h'.store.approvals.records)
    (hframe : OnApprovals h h') : Answered h' := by
  refine ⟨?_, ?_, ?_⟩
  · rw [hframe.runs]
    exact ha.profiles
  · intro record hrecord
    rw [hframe.runs]
    obtain ⟨old, hold, hsettles⟩ := exists_left_of_forall₂ hrecords hrecord
    rcases hsettles with hdecides | ⟨source, hsource, -, hdecides, -⟩
    · obtain ⟨run, hrun, draft, hdraft, now, hd⟩ := ha.records old hold
      exact ⟨run, hrun, draft, hdraft, now, hdecides.1.trans hd⟩
    · obtain ⟨run, hrun, draft, hdraft, now, hd⟩ := ha.records source hsource
      exact ⟨run, hrun, draft, hdraft, now, hdecides.1.trans hd⟩
  · intro run hrun happroved
    rw [hframe.runs] at hrun
    obtain ⟨old, hold, hstatus, hfor⟩ := ha.granted run hrun happroved
    obtain ⟨record, hrecord, hsettles⟩ := exists_right_of_forall₂ hrecords hold
    rcases hsettles with hdecides | ⟨source, hsource, hid, hdecides, hgranted⟩
    · -- a record that is decided stays as it is
      rw [hdecides.2 (by rw [hstatus]; decide)] at hrecord
      exact ⟨old, hrecord, hstatus, hfor⟩
    · -- the copy is about the same revision
      obtain ⟨-, -, draft, -, hd⟩ := ha.records old hold
      obtain ⟨-, -, draft', -, hd'⟩ := ha.records source hsource
      obtain ⟨hid₁, hrun₁, hrevision₁⟩ := hd.fields
      obtain ⟨hid₂, hrun₂, hrevision₂⟩ := hd'.fields
      obtain ⟨hrunId, hrevision⟩ := approvalIdFor_injective (hid₂.symm.trans (hid.trans hid₁))
      have hrecordRun : record.runId = source.runId := congrArg (·.runId) hdecides.1
      have hrecordRevision : record.revision = source.revision := congrArg (·.revision) hdecides.1
      refine ⟨record, hrecord, hgranted, ?_⟩
      unfold ApprovalQueueRecord.isFor at hfor ⊢
      rw [hrecordRun, hrecordRevision, hrun₂, hrevision₂, hrunId, hrevision, ← hrun₁, ← hrevision₁]
      exact hfor

/-- **The step lemma for the approvals.** -/
theorem Step.answered (hs : Step full careless h h') (ha : Answered h) : Answered h' := by
  obtain ⟨-, hchange⟩ := hs
  cases hchange with
  | kept hstore hdraws =>
    exact ha.of_same (congrArg World.runs hstore) (congrArg World.approvals hstore)
  | created input now uuid hnext hinput hruns hframe => exact ha.of_new hruns hframe
  | groupCreated hfull input now ref request hinput hnew hruns hframe hsupply =>
    exact ha.of_new hruns hframe
  | changed run run' hknows hchange hruns hframe hsupply =>
    obtain ⟨hprofile, hrevisions, hgranted⟩ := hchange.answered ha hknows
    exact ha.of_put hknows hchange.runId hprofile hrevisions hgranted hruns hframe
  | bound run uuid reservation now hnext hknows happroved hfree hholds hruns hframe =>
    have hprofile : (boundRun run (runTaskId uuid.text) reservation now).current.profile ≠ .legacy :=
      ha.profiles run hknows.mem
    exact ha.of_put hknows (by rfl) hprofile (List.Subset.refl _) (ha.granted run hknows.mem) hruns
      hframe
  | asked run approval now hknows hfor hrecords hstatus hframe hsupply =>
    refine ⟨?_, ?_, ?_⟩
    · rw [hframe.runs]
      exact ha.profiles
    · intro record hrecord
      rw [hrecords, List.mem_append, List.mem_singleton] at hrecord
      rw [hframe.runs]
      rcases hrecord with hrecord | rfl
      · exact ha.records record hrecord
      · have hv := h.store.runs.record_valid hknows.mem
        exact ⟨run, hknows.mem, run.current, (RunRecord.revisions_valid hv).1, now, hfor⟩
    · intro other hother happroved
      rw [hframe.runs] at hother
      obtain ⟨record, hrecord, hgranted⟩ := ha.granted other hother happroved
      refine ⟨record, ?_, hgranted⟩
      rw [hrecords]
      exact List.mem_append_left _ hrecord
  | decided hrecords hframe hsupply => exact ha.of_decided hrecords hframe
  | entered run task hknows hbound hhandoff htasks hfile hframe hsupply =>
    exact ha.of_same hframe.runs hframe.approvals
  | moved htasks hfile hframe hsupply => exact ha.of_same hframe.runs hframe.approvals
  | metered c hcalled hrun hframe hdraws => exact ha.of_same hframe.runs hframe.approvals
  | reloaded hfull hstore hsupply =>
    exact ha.of_same (by rw [hstore]; rfl) (by rw [hstore]; rfl)

/-! ## In every state -/

/-- The records about the current revision of a run say what that revision says. -/
theorem Answered.exact (ha : Answered h) (hrun : run ∈ h.store.runs.runs)
    {record : ApprovalQueueRecord} (hrecord : record ∈ h.store.approvals.records)
    (hfor : record.isFor run.runId run.current.revision = true) : Describes record run.current := by
  obtain ⟨other, hother, draft, hdraft, hd⟩ := ha.records record hrecord
  obtain ⟨-, hid, hrevision⟩ := hd.fields
  simp only [ApprovalQueueRecord.isFor, hid, hrevision, Bool.and_eq_true, decide_eq_true_eq,
    Option.some.injEq] at hfor
  have hv := RunRecord.revisions_valid (h.store.runs.record_valid hother)
  have hsame : other = run := by
    have hotherId : other.runId = run.runId := (hv.2.1 draft hdraft).symm.trans hfor.1
    exact (knows_of_mem hrun).unique (knows_of_mem hother) hotherId
  subst hsame
  -- the revisions of a run have different numbers
  have hcurrent : draft = other.current := List.inj_on_of_nodup_map hv.2.2 hdraft hv.1 hfor.2
  rwa [hcurrent] at hd

/-- Where the current revision of a run is approved, the owner granted the record
of that revision. -/
def ExactlyApproved (h : Machine (World options)) (run : RunRecord) : Prop :=
  run.approvedRevision = some run.current.revision ∧
    ∃ record ∈ h.store.approvals.records, record.status = .approved ∧
      record.isFor run.runId run.current.revision = true ∧ Describes record run.current

theorem Answered.exactly (ha : Answered h) (hrun : run ∈ h.store.runs.runs)
    (happroved : run.approvedRevision ≠ none) : ExactlyApproved h run := by
  obtain ⟨revision, hrevision⟩ := Option.ne_none_iff_exists'.1 happroved
  have heq := (RunRecord.approvedRevision_eq (h.store.runs.record_valid hrun) hrevision).2
  rw [heq] at hrevision
  obtain ⟨record, hrecord, hstatus, hfor⟩ := ha.granted run hrun happroved
  exact ⟨hrevision, record, hrecord, hstatus, hfor, ha.exact hrun hrecord hfor⟩

/-- The handoff carries what the revision says. -/
structure Carries (handoff : GovernedHandoff) (draft : RunDraft) : Prop where
  prompt : handoff.prompt = draft.prompt
  vendor : handoff.vendor = draft.provider
  model : handoff.model = draft.model
  reasoningEffort : handoff.reasoningEffort = draft.requestedReasoningEffort.map (·.text)

theorem HandoffOf.carries {handoff : GovernedHandoff} (hh : HandoffOf run handoff)
    (hprofile : run.current.profile ≠ .legacy) : Carries handoff run.current := by
  refine ⟨hh.prompt, hh.vendor, hh.model, ?_⟩
  rw [hh.reasoningEffort, resolveLegacyRequestedReasoning, if_neg hprofile]

/-- Both invariants hold in every state. -/
theorem ControlRun.ordered_answered {permitted : Machine (World options) → ControlCall → Prop}
    (hr : ControlRun permitted h) : Tidy True h ∧ Ordered h ∧ Answered h := by
  refine ControlRun.invariant (P := fun h => Ordered h ∧ Answered h) (fun _ _ _ => .inl trivial)
    (fun _ _ _ => .inl trivial) ?_ ?_ hr
  · intro writes uuids fresh
    exact ⟨ordered_initial writes uuids fresh, answered_initial writes uuids fresh⟩
  · intro h h' _ hP (hs : Step True True h h')
    exact ⟨hs.ordered hP.1, hs.answered hP.2⟩

/-- **Exact approval.** In every state the control plane can reach, under any
outcome of the writes, an approved revision is the current one and the owner
granted its own record, and whatever is about the current revision describes it;
and every handoff for the dispatcher carries the current revision of its run,
approved in this way. -/
theorem dispatched_as_approved (hr : ControlRun (fun _ _ => True) h) :
    (∀ run ∈ h.store.runs.runs, run.approvedRevision ≠ none → ExactlyApproved h run) ∧
      (∀ run ∈ h.store.runs.runs, ∀ record ∈ h.store.approvals.records,
        record.isFor run.runId run.current.revision = true → Describes record run.current) ∧
      ∀ env d h', runSupervisorOnce env h = (.ok (.dispatching d), h') →
        ∃ run ∈ h'.store.runs.runs, run.runId = d.runId ∧ Carries d.handoff run.current ∧
          ExactlyApproved h' run := by
  obtain ⟨ht, -, ha⟩ := hr.ordered_answered
  refine ⟨fun run hrun => ha.exactly hrun, fun run hrun record => ha.exact hrun, ?_⟩
  intro env d h' hrun
  have hr' : ControlRun (fun _ _ => True) h' := by
    have hcall := ControlRun.call (.supervise env) hr trivial
    rwa [show ControlCall.run h (.supervise env) = h' from congrArg Prod.snd hrun] at hcall
  obtain ⟨-, ho', ha'⟩ := hr'.ordered_answered
  have hwalks : Walks (Step True True) h (runSupervisorOnce env) Dispatches (fun _ _ => True) :=
    walks_runSupervisorOnce ht env
  obtain ⟨run, task, hd⟩ := hwalks.returned hrun d rfl
  have hmem := hd.knows.mem
  -- the task is the run's own, so its handoff is the one of the current revision
  have hhandoff := (ho'.handed run hmem task hd.queued (.inl hd.bound)).2
  have happroved := (ho'.bound run hmem task.taskId hd.bound).1
  obtain ⟨cwd, hcwd⟩ := hd.handoff
  have hcarries := hhandoff.carries (ha'.profiles run hmem)
  refine ⟨run, hmem, hd.runId.symm, ?_, ha'.exactly hmem happroved⟩
  rw [hcwd]
  exact ⟨hcarries.prompt, hcarries.vendor, hcarries.model, hcarries.reasoningEffort⟩

/-! A run that is prepared, approved and dispatched. -/

section sample

def sampleControl : OrchestratorOptions where
  queue := sampleOptions
  limits := defaultTokenGatewayLimits
  redactPatterns := id

def sampleEnvironment : Environment where
  now := 1
  resolveEnabledProject _ := .ok (js "/work")
  routeAvailable _ _ _ _ _ := true
  buildAgentPacket _ _ _ := .ok ⟨js "hash", [js "tests"]⟩

def sampleInput : RunDraftInput where
  projectId := js "project"
  prompt := js "run"
  provider := .codexCli
  model := none
  estimatedTokens := .ofNat 9000
  requestedArtifacts := []
  profile := .dev
  requestedReasoningEffort := some .high

def sampleUuid'' : Uuid := ⟨js "00000000-0000-4000-8000-000000000003", by decide⟩

theorem sampleThree_nodup : [sampleUuid, sampleUuid', sampleUuid''].Nodup := by decide

def samplePlane : Machine (World sampleControl) :=
  ⟨.initial sampleControl, [], .fresh [sampleUuid, sampleUuid', sampleUuid''] sampleThree_nodup⟩

def samplePrepared : Machine (World sampleControl) :=
  ControlCall.run samplePlane (.prepare sampleEnvironment sampleInput)

def sampleQueued : Machine (World sampleControl) :=
  ControlCall.run samplePrepared
    (.approveAndQueue sampleEnvironment sampleUuid.text 1 (js "owner"))

theorem sampleQueued_run : ControlRun (fun _ _ => True) sampleQueued :=
  .call _ (.call _ (.start [] _ _) trivial) trivial

/-- The call dispatches. -/
def dispatchesNow (h : Machine (World options)) (env : Environment) : Bool :=
  match (runSupervisorOnce env h).1 with
  | .ok (.dispatching _) => true
  | _ => false

theorem dispatched_as_approved_sample :
    ∃ d h', runSupervisorOnce sampleEnvironment sampleQueued = (.ok (.dispatching d), h') ∧
      ∃ run ∈ h'.store.runs.runs, run.runId = d.runId ∧ Carries d.handoff run.current ∧
        ExactlyApproved h' run := by
  have hnow : dispatchesNow sampleQueued sampleEnvironment = true := by decide +kernel
  unfold dispatchesNow at hnow
  rcases hrun : runSupervisorOnce sampleEnvironment sampleQueued with ⟨result, h'⟩
  rw [hrun] at hnow
  dsimp only at hnow
  split at hnow
  · rename_i d
    exact ⟨d, h', rfl, (dispatched_as_approved sampleQueued_run).2.2 _ d h' hrun⟩
  · cases hnow

end sample

end Autopilot
