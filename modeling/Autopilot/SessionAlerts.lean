/-
The session file, and the alerts for the supervisor in it.

Two programs add to `session.json`. The delivery system writes a pending alert
(`supervisorAlerts.ts`), and the hooks update the whole manifest, where two of the
handlers add an alert (`autopilot-hook.mjs`). Each of them reads the file, makes the
next manifest from what it read, and puts a new file in its place. Putting the file
there is one step of the file system, and reading it was another. An update that did
not see the alert of the one before it leaves it out.
-/
import Autopilot.Handoff
import Autopilot.Lib.Dict
import Autopilot.Lib.Interleaving

set_option autoImplicit false

namespace Autopilot.SessionAlerts

open Parallel

/-! ## The manifest -/

/-- `AlertSeverity`. -/
inductive AlertSeverity where
  | info | warning | blocker
  deriving DecidableEq

/-- `SupervisorAlert`. -/
structure SupervisorAlert where
  id : JsString
  trigger : JsString
  severity : AlertSeverity
  provider : Option JsString
  context : JsString
  recommendedAction : JsString
  createdAt : ℕ
  resolved : Bool
  resolvedAt : Option ℕ
  deriving DecidableEq

/-- `SessionStateManifest`, as the readers leave it. -/
structure SessionStateManifest where
  claudeSessionStartedAt : ℕ
  lastUpdatedAt : ℕ
  activeHandoffId : Option JsString
  workflowState : JsString
  pendingAlerts : List SupervisorAlert
  activeCorrectionLoopCount : ℕ
  providerStatus : Dict JsString JsString
  hookEventCount : ℕ
  investigationQueueDepth : ℕ
  supervisorSessionHash : Option JsString

/-- `createInitialSessionState`, and `createInitialSessionManifest` of the hooks. -/
def createInitialSessionState (now : ℕ) : SessionStateManifest where
  claudeSessionStartedAt := now
  lastUpdatedAt := now
  activeHandoffId := none
  workflowState := js "planning"
  pendingAlerts := []
  activeCorrectionLoopCount := 0
  providerStatus := Dict.empty
  hookEventCount := 0
  investigationQueueDepth := 0
  supervisorSessionHash := none

/-! ## The updates -/

/-- What a hook sees while it makes the next manifest. -/
structure HookLook where
  now : ℕ
  /-- `hash(input.session_id ?? "")`. -/
  sessionHash : JsString
  /-- The lines of the event ledger and of the investigation queue. -/
  eventCount : ℕ
  queueDepth : ℕ

/-- `createSupervisorAlert` of the hooks, for the two triggers they have. -/
def createSupervisorAlert (sha256 : Sha256) (trigger context : JsString)
    (provider : Option JsString) (now : ℕ) : SupervisorAlert where
  -- `trigger.replaceAll("_", "-")`
  id := js "alert-" ++ trigger.map (fun c => if c = 95 then 45 else c) ++ js "-" ++ decimal now ++
    js "-" ++ (sha256.digest context).take 16
  trigger
  severity := if trigger = js "missing_owner_decision" then .blocker else .warning
  provider
  context
  recommendedAction :=
    if trigger = js "missing_owner_decision" then
      js "Wait for the required owner decision before continuing."
    else js "Record the exhausted Gemini session and consider an approved Gemini fallback tier."
  createdAt := now
  resolved := false
  resolvedAt := none

/-- A call that updates the session file. -/
inductive SessionUpdate where
  /-- `writePendingSupervisorAlert`. -/
  | writePending (alert : SupervisorAlert)
  /-- `handleSessionStart`. -/
  | sessionStart (look : HookLook)
  /-- `handlePostToolUse`, where Gemini has no capacity left. -/
  | geminiExhausted (look : HookLook)
  /-- `handleStop`, and whether the owner has to decide. -/
  | stop (look : HookLook) (needsOwner : Bool)

namespace SessionUpdate

variable (sha256 : Sha256)

/-- The alerts an update adds. -/
def alerts : SessionUpdate → List SupervisorAlert
  | .writePending alert => [alert]
  | .sessionStart _ => []
  | .geminiExhausted look =>
    [createSupervisorAlert sha256 (js "gemini_session_exhausted")
      (js "gemini_rate_limit_phrase_detected") (some (js "gemini_cli")) look.now]
  | .stop look needsOwner =>
    if needsOwner then
      [createSupervisorAlert sha256 (js "missing_owner_decision")
        (js "governance_surface_completion_needs_owner_decision") none look.now]
    else []

/-- The next manifest. -/
def apply (update : SessionUpdate) (state : SessionStateManifest) : SessionStateManifest :=
  match update with
  | .writePending alert =>
    { state with
      lastUpdatedAt := alert.createdAt
      pendingAlerts := state.pendingAlerts ++ update.alerts sha256 }
  | .sessionStart look =>
    { state with
      lastUpdatedAt := look.now
      supervisorSessionHash := some (state.supervisorSessionHash.getD look.sessionHash)
      hookEventCount := look.eventCount
      investigationQueueDepth := look.queueDepth }
  | .geminiExhausted look =>
    { state with
      lastUpdatedAt := look.now
      providerStatus := state.providerStatus.set (js "gemini_cli") (js "rate_limited")
      pendingAlerts := state.pendingAlerts ++ update.alerts sha256
      hookEventCount := look.eventCount
      investigationQueueDepth := look.queueDepth }
  | .stop look _ =>
    { state with
      lastUpdatedAt := look.now
      pendingAlerts := state.pendingAlerts ++ update.alerts sha256
      hookEventCount := look.eventCount
      investigationQueueDepth := look.queueDepth }

/-- Every update keeps the alerts there are, and adds its own. -/
theorem apply_pendingAlerts (update : SessionUpdate) (state : SessionStateManifest) :
    (update.apply sha256 state).pendingAlerts
      = state.pendingAlerts ++ update.alerts sha256 := by
  cases update with
  | writePending | geminiExhausted | stop => rfl
  | sessionStart =>
    unfold alerts
    rw [List.append_nil]
    rfl

end SessionUpdate

/-! ## The calls, step by step -/

/-- Where a call is. -/
inductive UpdatePoint where
  | starting
  /-- It has the manifest it read. -/
  | updating (read : SessionStateManifest)
  /-- The new file is in place. -/
  | replaced
  | returned
  /-- The call threw, was aborted after its 200 ms, or its process died. -/
  | failed

/-- What decides how a call goes on. -/
inductive UpdateAction where
  | read
  /-- The file cannot be read: the call goes on from an initial manifest. -/
  | readFailed (now : ℕ)
  /-- The temporary file is written and renamed. -/
  | replace
  | return
  | fail

section program

variable {ι : Type} (sha256 : Sha256) (updates : ι → SessionUpdate)

/-- `writePendingSupervisorAlert`, and `writeSessionJsonSafe` with the update of a
handler. The maintenance lock of the former is taken around the one step of
replacing the file, and the hooks do not take it. -/
def updateProgram : Program ι UpdatePoint SessionStateManifest UpdateAction := fun i action s =>
  match s.point i, action with
  | .starting, .read => some (.updating s.shared, s.shared)
  | .starting, .readFailed now => some (.updating (createInitialSessionState now), s.shared)
  | .updating read, .replace => some (.replaced, (updates i).apply sha256 read)
  | .replaced, .return => some (.returned, s.shared)
  | .starting, .fail | .updating _, .fail | .replaced, .fail => some (.failed, s.shared)
  | _, _ => none

/-- The file has the alerts that the call read, where the call replaces it. -/
def Current (s : Parallel ι UpdatePoint SessionStateManifest) (i : ι) : UpdateAction → Prop
  | .replace => ∀ read, s.point i = .updating read → s.shared.pendingAlerts = read.pendingAlerts
  | _ => True

/-- The alerts of the calls that have put their file in place. -/
structure Kept (before : List SupervisorAlert) (s : Parallel ι UpdatePoint SessionStateManifest) :
    Prop where
  before : ∀ alert ∈ before, alert ∈ s.shared.pendingAlerts
  written : ∀ i, s.point i = .replaced ∨ s.point i = .returned →
    ∀ alert ∈ (updates i).alerts sha256, alert ∈ s.shared.pendingAlerts

variable [DecidableEq ι] {before : List SupervisorAlert}
variable {s s' : Parallel ι UpdatePoint SessionStateManifest}

/-- A step that does not replace the file loses nothing. -/
theorem Kept.look (hk : Kept sha256 updates before s) {i : ι} {point : UpdatePoint}
    (hpoint : point = .replaced ∨ point = .returned → s.point i = .replaced) :
    Kept sha256 updates before (s.move i (point, s.shared)) where
  before := hk.before
  written j hj alert halert := by
    by_cases hmoved : j = i
    · subst hmoved
      rw [move_point_self] at hj
      exact hk.written j (.inl (hpoint hj)) alert halert
    · rw [move_point_of_ne s _ hmoved] at hj
      exact hk.written j hj alert halert

/-- **The step.** A call that has seen every alert of the file leaves each of them in it. -/
theorem Kept.step (hk : Kept sha256 updates before s) {i : ι} {action : UpdateAction}
    {next : UpdatePoint × SessionStateManifest} (hcurrent : Current s i action)
    (hnext : updateProgram sha256 updates i action s = some next) :
    Kept sha256 updates before (s.move i next) := by
  unfold updateProgram at hnext
  split at hnext
  · cases hnext
    exact hk.look sha256 updates (by simp)
  · cases hnext
    exact hk.look sha256 updates (by simp)
  · rename_i read hpoint
    cases hnext
    have hseen : s.shared.pendingAlerts = read.pendingAlerts := hcurrent read hpoint
    have hfile : ((updates i).apply sha256 read).pendingAlerts
        = s.shared.pendingAlerts ++ (updates i).alerts sha256 := by
      rw [SessionUpdate.apply_pendingAlerts, hseen]
    refine ⟨fun alert halert => ?_, fun j hj alert halert => ?_⟩
    · rw [move_shared, hfile]
      exact List.mem_append_left _ (hk.before alert halert)
    · rw [move_shared, hfile]
      by_cases hmoved : j = i
      · subst hmoved
        exact List.mem_append_right _ halert
      · rw [move_point_of_ne s _ hmoved] at hj
        exact List.mem_append_left _ (hk.written j hj alert halert)
  · rename_i hpoint
    cases hnext
    exact hk.look sha256 updates fun _ => hpoint
  · cases hnext
    exact hk.look sha256 updates (by simp)
  · cases hnext
    exact hk.look sha256 updates (by simp)
  · cases hnext
    exact hk.look sha256 updates (by simp)
  · cases hnext

/-- Every call is about to begin. -/
def UpdatesStart (file : SessionStateManifest) : Parallel ι UpdatePoint SessionStateManifest :=
  ⟨fun _ => .starting, file⟩

/-- **No alert is lost**, in any interleaving of the calls where none replaces the file
over an alert that it has not read: the alerts the file began with are in it at any
moment, and so is every alert whose call has returned. -/
theorem alerts_kept (file : SessionStateManifest)
    (hr : Run (updateProgram sha256 updates) Current (UpdatesStart file) s) :
    (∀ alert ∈ file.pendingAlerts, alert ∈ s.shared.pendingAlerts) ∧
      ∀ i, s.point i = .returned → ∀ alert ∈ (updates i).alerts sha256,
        alert ∈ s.shared.pendingAlerts := by
  have hkept : Kept sha256 updates file.pendingAlerts s := by
    refine hr.invariant (fun s i action next hk hcurrent hnext => ?_) ?_
    · exact hk.step sha256 updates hcurrent hnext
    · exact ⟨fun _ halert => halert, fun i hi => by rcases hi with hi | hi <;> cases hi⟩
  exact ⟨hkept.before, fun i hi => hkept.written i (.inr hi)⟩

end program

/-! Two calls that have read the same file. -/

section sample

theorem sampleDigest_isHex : isHexDigest (List.replicate 64 48) = true := by decide

def sampleDigest : Sha256 := ⟨fun _ => List.replicate 64 48, fun _ => sampleDigest_isHex⟩

def sampleAlert : SupervisorAlert :=
  ⟨js "alert-timeout-1", js "timeout", .blocker, none, js "worker", js "Stop.", 0, false, none⟩

def sampleLook : HookLook := ⟨1, js "session", 3, 0⟩

/-- An alert of the delivery system, and the start of a session. -/
def sampleUpdates : Fin 2 → SessionUpdate
  | 0 => .writePending sampleAlert
  | 1 => .sessionStart sampleLook

def sampleSession : Parallel (Fin 2) UpdatePoint SessionStateManifest :=
  UpdatesStart (createInitialSessionState 0)

/-- The hook has read the file before the alert is in it, and replaces it after. -/
theorem late_update_drops_alert : ∃ s : Parallel (Fin 2) UpdatePoint SessionStateManifest,
    Run (updateProgram sampleDigest sampleUpdates) (fun _ _ _ => True) sampleSession s ∧
      s.point 0 = .returned ∧ sampleAlert ∈ (sampleUpdates 0).alerts sampleDigest ∧
      sampleAlert ∉ s.shared.pendingAlerts := by
  have hrun : ∃ s, execute (updateProgram sampleDigest sampleUpdates)
      [(1, .read), (0, .read), (0, .replace), (0, .return), (1, .replace)] sampleSession = some s ∧
        s.point 0 = .returned ∧ s.shared.pendingAlerts = [] := ⟨_, rfl, rfl, rfl⟩
  obtain ⟨s, hexecute, hpoint, hnone⟩ := hrun
  refine ⟨s, run_of_execute hexecute, hpoint, List.mem_singleton.2 rfl, ?_⟩
  rw [hnone]
  exact List.not_mem_nil

theorem alerts_kept_sample : ∃ s : Parallel (Fin 2) UpdatePoint SessionStateManifest,
    s.point 0 = .returned ∧ s.point 1 = .returned ∧ sampleAlert ∈ s.shared.pendingAlerts := by
  have hstart : Run (updateProgram sampleDigest sampleUpdates) Current sampleSession
      sampleSession := .refl
  have hread := hstart.step 0 .read trivial rfl
  have hreplaced := hread.step 0 .replace (fun read hpoint => by cases hpoint; rfl) rfl
  have hreturned := hreplaced.step 0 .return trivial rfl
  -- the hook reads the file with the alert in it
  have hseen := hreturned.step 1 .read trivial rfl
  have hupdated := hseen.step 1 .replace (fun read hpoint => by cases hpoint; rfl) rfl
  have hdone := hupdated.step 1 .return trivial rfl
  exact ⟨_, rfl, rfl, (alerts_kept sampleDigest sampleUpdates _ hdone).2 0 rfl sampleAlert
    (List.mem_singleton.2 rfl)⟩

end sample

end Autopilot.SessionAlerts
