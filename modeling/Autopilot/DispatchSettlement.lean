/-
The second half of a dispatch (`dispatch.ts`): the reservation of the tokens, the worker, and
the settlement.

A dispatch that holds the reservation itself reserves the estimate of the prompt and a fixed
output before the worker starts. A worker that throws has its reservation released. A worker
that returns has it settled with the estimate of its output, which is cut before it is
estimated. A settlement that is refused leaves the reservation as it is, so what matters is
that it is not refused.

Telemetry and the records of the decisions are left out.
-/
import Autopilot.GovernedDispatch
import Autopilot.GatewayAtomicity
import Autopilot.RunDispatch

set_option autoImplicit false

namespace Autopilot
namespace GovernedDispatch

open Prog
open DecisionMesh (TextLocale)

/-! ## The worker -/

/-- `estimateTokenCount`. -/
def estimateTokenCount (text : JsString) : ℕ := (text.length + 3) / 4

/-- What `runCliWorker` comes to: another worker holds the lock, or the output is captured. -/
inductive WorkerCapture where
  | busy (workerRunId : JsString)
  | captured (worker : WorkerResult)

/-- The result of `runCliWorker`. -/
def runCliWorker (redactPatterns : JsString → JsString) : WorkerCapture → WorkerResult
  | .busy workerRunId =>
    { workerRunId
      exitCode := -1
      rawOutput := []
      errorReason := some (js "worker_busy: another worker holds the lock")
      lockStatus := .alreadyLocked }
  | .captured worker => worker.sanitized redactPatterns

/-! ## The dispatch -/

/-- How a dispatch ends. -/
inductive DispatchEnd where
  | refused (reason : DispatchRefusalReason) (tierId : Option JsString)
      (provenanceVerified : Bool)
  | dispatched (worker : WorkerResult) (tierId : Option JsString)
  deriving DecidableEq

/-- What a dispatch reserves for a worker. -/
def reservationRequest (input : CliWorkerInput) : TokenReservationRequest where
  provider := input.vendor.text
  model := input.model
  sessionId := input.sessionId
  inputTokens := .ofNat (estimateTokenCount input.prompt)
  outputTokens := .ofNat defaultAgentPacketTokenBudget
  handoffId := some input.handoffId

/-- What a dispatch settles when its worker is done. -/
def usageOf (input : CliWorkerInput) (worker : WorkerResult) : TokenUsage where
  inputTokens := .ofNat (estimateTokenCount input.prompt)
  outputTokens := .ofNat (estimateTokenCount worker.rawOutput)

/-- `error instanceof TokenGatewayError`, with the code of the error. -/
def gatewayErrorCode : JsError → Option JsString
  | .error name message => if name = js "TokenGatewayError" then some message else none
  | .other => none

/-- What a program returns or throws, as a value. -/
def attempt {σ α : Type} (p : Proc σ α) : Proc σ (Except JsError α) :=
  tryCatch (p >>= fun a => pure (.ok a)) fun error => pure (.error error)

section dispatch

variable (redactPatterns : JsString → JsString) (limits : TokenGatewayLimits) (now later : ℕ)
variable (work : CliWorkerInput → Proc Gateway WorkerCapture)

/-- The settlement, and the result when it is refused. -/
def settleDispatch (reservation : TokenReservation) (input : CliWorkerInput)
    (worker : WorkerResult) (tierId : Option JsString) : Proc Gateway DispatchEnd := do
  match ← attempt (settle limits later reservation (usageOf input worker)) with
  | .ok _ => return .dispatched worker tierId
  | .error error =>
    match gatewayErrorCode error, worker.errorReason with
    | some code, none => return .dispatched { worker with errorReason := some code } tierId
    | _, _ => return .dispatched worker tierId

/-- The worker under a reservation. -/
def dispatchReserved (reservation : TokenReservation) (input : CliWorkerInput)
    (tierId : Option JsString) : Proc Gateway DispatchEnd := do
  match ← attempt (work input) with
  | .error error =>
    release later reservation
    throw error
  | .ok capture =>
    settleDispatch limits later reservation input (runCliWorker redactPatterns capture) tierId

/-- A dispatch from its reservation on. -/
def dispatchWorker (input : CliWorkerInput) (tierId : Option JsString) :
    Proc Gateway DispatchEnd := do
  match ← attempt (reserve limits now (reservationRequest input)) with
  | .error error =>
    match gatewayErrorCode error with
    | some _ => return .refused .tokenBudgetExhausted tierId true
    | none => throw error
  | .ok reservation =>
    dispatchReserved redactPatterns limits later work reservation input tierId

/-- `dispatchHandoff`, to its end. The checks in front of the worker are those of a caller
that holds the reservation, since a dispatch reserves only behind all of them. -/
def dispatchHandoffOn (sha256 : Sha256) (locale : TextLocale) (mesh : DecisionMesh)
    (owner : ReservationOwner) (handoff : DispatchHandoff) : Proc Gateway DispatchEnd := do
  match ← ofExcept (dispatchHandoff (fun _ => .ok ()) .caller sha256 locale mesh handoff) with
  | .refused reason tierId verified => return .refused reason tierId verified
  | .worker input tierId =>
    match owner with
    | .caller => do
      let capture ← work input
      return .dispatched (runCliWorker redactPatterns capture) tierId
    | .dispatch => dispatchWorker redactPatterns limits now later work input tierId

end dispatch

/-! ## The checks are those of a dispatch that reserves -/

section checks

variable (reserve : CliWorkerInput → Except ReserveFailure Unit)

/-- What becomes of a dispatch when the tokens are reserved behind its checks. -/
def reserveBehind : Except JsError Dispatched → Except JsError Dispatched
  | .ok (.worker input tierId) =>
    match reserve input with
    | .ok _ => .ok (.worker input tierId)
    | .error .tokenGateway => .ok (.refused .tokenBudgetExhausted tierId true)
    | .error (.other error) => .error error
  | other => other

end checks

/-! ## The output fits what is reserved -/

theorem runCliWorker_length (redactPatterns : JsString → JsString) (capture : WorkerCapture) :
    (runCliWorker redactPatterns capture).rawOutput.length ≤ maxPersistedWorkerOutputChars := by
  cases capture with
  | busy workerRunId => exact Nat.zero_le _
  | captured worker => exact sanitize_length_le redactPatterns worker.rawOutput _

/-- The estimate of an output is at most what was reserved for it. -/
theorem estimate_output_le (redactPatterns : JsString → JsString) (capture : WorkerCapture) :
    estimateTokenCount (runCliWorker redactPatterns capture).rawOutput ≤
      defaultAgentPacketTokenBudget := by
  have hlength := runCliWorker_length redactPatterns capture
  have hmax : maxPersistedWorkerOutputChars = 4 * defaultAgentPacketTokenBudget := by decide
  rw [hmax] at hlength
  rw [estimateTokenCount]
  omega

/-- A settlement within what was reserved, and within the counters, is not refused. -/
theorem settleRefusal_none {limits : TokenGatewayLimits} {state : GatewayState}
    {active : TokenReservation} {inputTokens outputTokens : ℕ}
    (hinput : inputTokens ≤ limits.inputCapTokens)
    (houtput : outputTokens ≤ limits.outputCapTokens)
    (htotal : inputTokens + outputTokens ≤ active.totalTokens)
    (hroom : ∀ k ∈ active.toTokenGatewayRoute.keys,
      (state.usedTokens k : ℤ) - active.held + (inputTokens + outputTokens : ℕ) ≤ limits.cap k) :
    settleRefusal limits state active inputTokens outputTokens = none := by
  rw [settleRefusal]
  dsimp only
  rw [if_neg (by omega), if_neg (by omega), if_neg (by omega), if_neg]
  rw [zip_budgets, List.any_map, List.any_eq_true]
  rintro ⟨k, hk, hover⟩
  have hle := hroom k (List.mem_toFinset.2 hk)
  have hlt : (limits.cap k : ℤ) < state.usedTokens k - active.held +
      (inputTokens + outputTokens : ℕ) := of_decide_eq_true hover
  omega

/-- A request that is not refused is within the caps. -/
theorem reserveRefusal_caps {limits : TokenGatewayLimits} {state : GatewayState}
    {request : NormalizedRequest} (h : reserveRefusal limits state request = none) :
    request.inputTokens ≤ limits.inputCapTokens ∧
      request.outputTokens ≤ limits.outputCapTokens := by
  rw [reserveRefusal] at h
  dsimp only at h
  split_ifs at h with _ _ hinput houtput
  exact ⟨Nat.le_of_not_lt hinput, Nat.le_of_not_lt houtput⟩

/-! ## The end of a reservation -/

/-- A change that is written when no write fails. -/
theorem Commits.reliable {α : Type} {h : Machine Gateway} {gateway : Gateway}
    {supply : Supply Uuid} {a : α} {result : Except (Fault JsError) α × Machine Gateway}
    (hc : Commits h gateway supply a result) (hr : h.Reliable) :
    ∃ after, result = (.ok a, after) ∧
      after.store = { gateway with file := gateway.state } ∧ after.Reliable := by
  rcases hc with ⟨ws, hws, hdone⟩ | ⟨fault, ws, -, hn, -⟩
  · exact ⟨_, hdone, rfl, fun w hw => hr w (hws hw)⟩
  · exact absurd hr hn

theorem attempt_ok {σ α : Type} {p : Proc σ α} {h h' : Machine σ} {a : α}
    (hp : p h = (.ok a, h')) : attempt p h = (.ok (.ok a), h') :=
  tryCatch_run_ok (bind_run_ok hp)

theorem attempt_thrown {σ α : Type} {p : Proc σ α} {h h' : Machine σ} {error : JsError}
    (hp : p h = (.error (.thrown error), h')) : attempt p h = (.ok (.error error), h') :=
  tryCatch_run_thrown (bind_run_error hp)

/-- The gateway does not refuse to settle the reservation. -/
structure Settleable (limits : TokenGatewayLimits) (state : GatewayState)
    (reservation : TokenReservation) : Prop where
  input : reservation.inputTokens ≤ limits.inputCapTokens
  output : reservation.outputTokens ≤ limits.outputCapTokens
  total : reservation.totalTokens = reservation.inputTokens + reservation.outputTokens
  held : reservation.totalTokens ≤ reservation.held
  room : ∀ k ∈ reservation.toTokenGatewayRoute.keys, state.usedTokens k ≤ limits.cap k

/-- A reservation that is granted can be settled. -/
theorem settleable_grant {limits : TokenGatewayLimits} {gateway : Gateway}
    {request : NormalizedRequest} (now : ℕ) (uuid : Uuid)
    (h : reserveRefusal limits gateway.state request = none) :
    Settleable limits (gateway.grant (newReservation now request uuid)).state
      (newReservation now request uuid) where
  input := (reserveRefusal_caps h).1
  output := (reserveRefusal_caps h).2
  total := rfl
  held := le_rfl
  room k hk := by
    have hroom := reserveRefusal_room h k hk
    have hused := (addUsage_add { gateway with state := { gateway.state with
      reservations := gateway.state.reservations.set (reservationIdOf uuid)
        (newReservation now request uuid) } } request.toTokenGatewayRoute
        (request.inputTokens + request.outputTokens)).1 k
    dsimp only [Budget.Hold.on] at hused
    rw [if_pos (show k ∈ request.keys from hk)] at hused
    exact (le_of_eq hused).trans hroom

section ends

variable (redactPatterns : JsString → JsString) (later : ℕ) (tierId : Option JsString)
variable {limits : TokenGatewayLimits} {h : Machine Gateway} {reservation : TokenReservation}
variable {input : CliWorkerInput}

/-- The reservation is the dispatch's own, and it can be settled. -/
structure OwnReservation (limits : TokenGatewayLimits) (h : Machine Gateway)
    (input : CliWorkerInput) (reservation : TokenReservation) : Prop where
  active : h.store.state.reservations.get? reservation.reservationId = some reservation
  settleable : Settleable limits h.store.state reservation
  input : reservation.inputTokens = estimateTokenCount input.prompt
  output : reservation.outputTokens = defaultAgentPacketTokenBudget

/-- The usage of a worker, as the gateway reads it. -/
theorem usageOf_settlement (input : CliWorkerInput) (worker : WorkerResult) :
    (usageOf input worker).settlement =
      ⟨estimateTokenCount input.prompt, estimateTokenCount worker.rawOutput, false⟩ := by
  simp [TokenUsage.settlement, usageOf]

/-- The settlement of a dispatch. -/
def settlementOf (input : CliWorkerInput) (worker : WorkerResult) : TokenSettlement :=
  ⟨estimateTokenCount input.prompt, estimateTokenCount worker.rawOutput, false⟩

/-- What a release settles. -/
def nothingUsed : TokenSettlement := { inputTokens := 0, outputTokens := 0, released := true }

/-- The reservation is over, and the last record the gateway made is of its end. -/
structure EndsWith (before after : Gateway) (reservation : TokenReservation)
    (event : TerminalEvent) (settlement : TokenSettlement) : Prop where
  inactive : after.state.reservations.get? reservation.reservationId = none
  others : ∀ id, id ≠ reservation.reservationId →
    after.state.reservations.get? id = before.state.reservations.get? id
  recorded : after.history = before.history ++ [⟨reservation, event, settlement⟩]
  file : after.file = after.state

theorem endsWith_of_erase {before after : Gateway} {event : TerminalEvent}
    {settlement : TokenSettlement}
    (herase : after.state.reservations =
      before.state.reservations.erase reservation.reservationId)
    (hrecorded : after.history = before.history ++ [⟨reservation, event, settlement⟩])
    (hfile : after.file = after.state) :
    EndsWith before after reservation event settlement where
  inactive := by rw [herase, Record.get?_erase_self]
  others id hne := by rw [herase, Record.get?_erase, if_neg hne]
  recorded := hrecorded
  file := hfile

/-- **The settlement goes through**, whatever the worker did. -/
theorem settleDispatch_run (hown : OwnReservation limits h input reservation)
    (hwrites : h.Reliable) (capture : WorkerCapture) :
    ∃ after, settleDispatch limits later reservation input (runCliWorker redactPatterns capture)
        tierId h = (.ok (.dispatched (runCliWorker redactPatterns capture) tierId), after) ∧
      EndsWith h.store after.store reservation .settled
        (settlementOf input (runCliWorker redactPatterns capture)) := by
  have houtput := estimate_output_le redactPatterns capture
  have hheld := hown.settleable.held
  have htotal := hown.settleable.total
  have hinput := hown.settleable.input
  have hreserved := hown.settleable.output
  rw [hown.input] at hinput htotal
  rw [hown.output] at hreserved htotal
  generalize runCliWorker redactPatterns capture = worker at houtput ⊢
  have hrefusal : settleRefusal limits h.store.state reservation
      (usageOf input worker).settlement.inputTokens
      (usageOf input worker).settlement.outputTokens = none := by
    rw [usageOf_settlement]
    refine settleRefusal_none hinput (houtput.trans hreserved) (by dsimp only; omega) ?_
    intro k hk
    have hroom := hown.settleable.room k hk
    dsimp only
    omega
  have hrun := settle_run_active limits later h hown.active rfl hrefusal
  have hcommits := persist_commits { h with
    store := h.store.settled later reservation.reservationId reservation
      (usageOf input worker).settlement } rfl (usageOf input worker).settlement
  rw [← hrun] at hcommits
  obtain ⟨after, hresult, hstore, -⟩ := Commits.reliable hcommits hwrites
  refine ⟨after, ?_, ?_⟩
  · rw [settleDispatch, bind_run_ok (attempt_ok hresult)]
    rfl
  · rw [hstore]
    refine endsWith_of_erase (settled_reservations ..) ?_ rfl
    dsimp only
    rw [usageOf_settlement, Gateway.settled, (retire_frame ..).2.2.2.1, addUsage_history,
      addUsage_history]
    rfl

/-- A release of an active reservation goes through. -/
theorem release_run (hactive : h.store.state.reservations.get? reservation.reservationId =
    some reservation) (hwrites : h.Reliable) :
    ∃ after, release later reservation h = (.ok (), after) ∧
      EndsWith h.store after.store reservation .released nothingUsed := by
  have hcommits := persist_cases
    { h with store := h.store.released later reservation.reservationId reservation } rfl
  rw [← release_run_active later h hactive rfl] at hcommits
  obtain ⟨after, hresult, hstore, -⟩ := Commits.reliable hcommits hwrites
  refine ⟨after, hresult, ?_⟩
  rw [hstore]
  refine endsWith_of_erase (released_reservations ..) ?_ rfl
  dsimp only
  rw [Gateway.released, (retire_frame ..).2.2.2.1, addUsage_history]
  rfl

/-- How a dispatch ends a reservation, by what the worker came to. -/
def EndsReservation (redactPatterns : JsString → JsString) (before : Gateway)
    (reservation : TokenReservation) (input : CliWorkerInput) (tierId : Option JsString)
    (capture : Except JsError WorkerCapture)
    (outcome : Except (Fault JsError) DispatchEnd × Machine Gateway) : Prop :=
  match capture with
  | .ok seen =>
    outcome.1 = .ok (.dispatched (runCliWorker redactPatterns seen) tierId) ∧
      EndsWith before outcome.2.store reservation .settled
        (settlementOf input (runCliWorker redactPatterns seen))
  | .error error =>
    outcome.1 = .error (.thrown error) ∧
      EndsWith before outcome.2.store reservation .released nothingUsed

theorem EndsReservation.endsWith {redactPatterns : JsString → JsString} {before : Gateway}
    {tierId : Option JsString} {seen : Except JsError WorkerCapture}
    {outcome : Except (Fault JsError) DispatchEnd × Machine Gateway}
    (hends : EndsReservation redactPatterns before reservation input tierId seen outcome) :
    ∃ event settlement, EndsWith before outcome.2.store reservation event settlement := by
  cases seen with
  | ok seen => exact ⟨_, _, hends.2⟩
  | error error => exact ⟨_, _, hends.2⟩

/-- **Behind the reservation every way out ends it.** -/
theorem dispatchReserved_run (capture : CliWorkerInput → Except JsError WorkerCapture)
    (hown : OwnReservation limits h input reservation) (hwrites : h.Reliable) :
    EndsReservation redactPatterns h.store reservation input tierId (capture input)
      (dispatchReserved redactPatterns limits later (fun input => ofExcept (capture input))
        reservation input tierId h) := by
  unfold dispatchReserved
  cases hseen : capture input with
  | error error =>
    have hwork : attempt ((fun input => ofExcept (capture input)) input) h =
        (.ok (.error error), h) := by
      dsimp only
      rw [hseen]
      exact attempt_thrown rfl
    obtain ⟨after, hrelease, hends⟩ := release_run later hown.active hwrites
    rw [bind_run_ok hwork]
    dsimp only
    rw [bind_run_ok hrelease]
    exact ⟨rfl, hends⟩
  | ok seen =>
    have hwork : attempt ((fun input => ofExcept (capture input)) input) h =
        (.ok (.ok seen), h) := by
      dsimp only
      rw [hseen]
      exact attempt_ok rfl
    obtain ⟨after, hsettle, hends⟩ :=
      settleDispatch_run redactPatterns later tierId hown hwrites seen
    rw [bind_run_ok hwork]
    dsimp only
    rw [hsettle]
    exact ⟨rfl, hends⟩

end ends

/-! ## The whole dispatch -/

/-- Nothing is active that was not. -/
def OnlyEnds (before after : Gateway) : Prop :=
  ∀ id, after.state.reservations.get? id ≠ none → before.state.reservations.get? id ≠ none

theorem onlyEnds_of_erase {before after : Gateway} {id : JsString}
    (h : after.state.reservations = before.state.reservations.erase id) :
    OnlyEnds before after := by
  intro other hafter hbefore
  rw [h, Record.get?_erase, hbefore] at hafter
  split_ifs at hafter
  · exact hafter rfl
  · exact hafter rfl

theorem Commits.onlyEnds {α : Type} {h : Machine Gateway} {gateway : Gateway}
    {supply : Supply Uuid} {a : α} {result : Except (Fault JsError) α × Machine Gateway}
    {id : JsString} (hc : Commits h gateway supply a result)
    (herase : gateway.state.reservations = h.store.state.reservations.erase id) :
    OnlyEnds h.store result.2.store := by
  rcases hc with ⟨ws, -, rfl⟩ | ⟨fault, ws, -, -, rfl⟩
  · exact onlyEnds_of_erase herase
  · exact onlyEnds_of_erase herase

theorem settle_onlyEnds (limits : TokenGatewayLimits) (now : ℕ) (h : Machine Gateway)
    (reservation : TokenReservation) (usage : TokenUsage) :
    OnlyEnds h.store (settle limits now reservation usage h).2.store := by
  rcases settle_cases limits now h reservation usage with ⟨e, hr⟩ | ⟨t, -, -, -, hr⟩ |
    ⟨active, -, -, -, hr⟩
  · rw [hr]
    exact fun _ => id
  · rw [hr]
    exact fun _ => id
  · exact Commits.onlyEnds hr (settled_reservations ..)

theorem release_onlyEnds (now : ℕ) (h : Machine Gateway) (reservation : TokenReservation) :
    OnlyEnds h.store (release now reservation h).2.store := by
  rcases release_cases now h reservation with ⟨e, hr⟩ | ⟨-, -, hr⟩ | ⟨active, -, -, hr⟩
  · rw [hr]
    exact fun _ => id
  · rw [hr]
    exact fun _ => id
  · exact Commits.onlyEnds hr (released_reservations ..)

/-- What an attempt leaves behind is what the program does. -/
theorem attempt_run {σ α : Type} (p : Proc σ α) (h : Machine σ) :
    (∃ result, attempt p h = (.ok result, (p h).2)) ∨
      ∃ fault, attempt p h = (.error fault, (p h).2) := by
  rcases hp : p h with ⟨_ | a, h'⟩
  · rename_i fault
    cases fault with
    | thrown error => exact .inl ⟨_, attempt_thrown hp⟩
    | crashed =>
      refine .inr ⟨.crashed, ?_⟩
      rw [attempt, tryCatch_run_crashed (bind_run_error hp)]
  · exact .inl ⟨_, attempt_ok hp⟩

section whole

variable (redactPatterns : JsString → JsString) (limits : TokenGatewayLimits) (later : ℕ)
variable (capture : CliWorkerInput → Except JsError WorkerCapture) (h : Machine Gateway)
variable (reservation : TokenReservation) (input : CliWorkerInput) (tierId : Option JsString)

theorem settleDispatch_onlyEnds (worker : WorkerResult) :
    OnlyEnds h.store
      (settleDispatch limits later reservation input worker tierId h).2.store := by
  have hends := settle_onlyEnds limits later h reservation (usageOf input worker)
  unfold settleDispatch
  rcases attempt_run (settle limits later reservation (usageOf input worker)) h with
    ⟨result, hrun⟩ | ⟨fault, hrun⟩
  · rw [bind_run_ok hrun]
    cases result with
    | ok settlement => exact hends
    | error error =>
      dsimp only
      cases gatewayErrorCode error with
      | none => exact hends
      | some code =>
        cases worker.errorReason with
        | none => exact hends
        | some reason => exact hends
  · rw [bind_run_error hrun]
    exact hends

theorem dispatchReserved_onlyEnds :
    OnlyEnds h.store (dispatchReserved redactPatterns limits later
      (fun input => ofExcept (capture input)) reservation input tierId h).2.store := by
  unfold dispatchReserved
  cases hseen : capture input with
  | error error =>
    have hwork : attempt ((fun input => ofExcept (capture input)) input) h =
        (.ok (.error error), h) := by
      dsimp only
      rw [hseen]
      exact attempt_thrown rfl
    have hends := release_onlyEnds later h reservation
    rw [bind_run_ok hwork]
    dsimp only
    rcases hrun : release later reservation h with ⟨fault | done, after⟩
    · rw [hrun] at hends
      rw [bind_run_error hrun]
      exact hends
    · rw [hrun] at hends
      rw [bind_run_ok hrun]
      exact hends
  | ok seen =>
    have hwork : attempt ((fun input => ofExcept (capture input)) input) h =
        (.ok (.ok seen), h) := by
      dsimp only
      rw [hseen]
      exact attempt_ok rfl
    rw [bind_run_ok hwork]
    exact settleDispatch_onlyEnds limits later h reservation input tierId _

variable (now : ℕ)

/-- The dispatch can end what the gateway gives it: it is made for this dispatch, or it was
there for the same handoff, under its own name and within the caps. -/
def CanEnd : Prop :=
  (normalizeRequest (reservationRequest input)).handoffId.bind
      h.store.state.findActiveReservation = none ∨
    h.store.state.reservations.get? reservation.reservationId = some reservation ∧
      Settleable limits h.store.state reservation

/-- A reservation under the handoff of a request is found. -/
theorem findActive_ne_none {state : GatewayState} {request : NormalizedRequest} {id : JsString}
    {existing : TokenReservation} (hget : state.reservations.get? id = some existing)
    (hsame : existing.toNormalizedRequest = request) (hhandoff : existing.handoffId ≠ none) :
    request.handoffId.bind state.findActiveReservation ≠ none := by
  obtain ⟨handoffId, hid⟩ := Option.ne_none_iff_exists'.1 hhandoff
  have hmem := (Record.mem_values_iff state.reservations existing).2 ⟨id, hget⟩
  rw [← hsame, hid, Option.bind_some, GatewayState.findActiveReservation]
  intro hnone
  have habsent := List.find?_eq_none.1 hnone existing hmem
  exact habsent (by simp [hid])

/-- What a reservation for a dispatch comes to. -/
theorem reserve_own {reserved : Machine Gateway} (hwrites : h.Reliable)
    (hreserve : reserve limits now (reservationRequest input) h = (.ok reservation, reserved))
    (hcan : CanEnd limits h reservation input) :
    OwnReservation limits reserved input reservation ∧ reserved.Reliable := by
  have hnormal : (normalizeRequest (reservationRequest input)).inputTokens =
      estimateTokenCount input.prompt ∧ (normalizeRequest (reservationRequest input)).outputTokens =
        defaultAgentPacketTokenBudget := by
    simp [normalizeRequest, reservationRequest]
  rcases reserve_cases limits now h (reservationRequest input) with ⟨e, hr⟩ |
    ⟨existing, id, hget, hsame, hhandoff, hr⟩ | ⟨uuid, supply, hnext, hfind, hrefusal, hr⟩
  · rw [hr] at hreserve
    cases hreserve
  · rw [hr] at hreserve
    cases hreserve
    rcases hcan with hnone | ⟨hactive, hsettle⟩
    · exact absurd hnone (findActive_ne_none hget hsame hhandoff)
    · refine ⟨⟨hactive, hsettle, ?_, ?_⟩, hwrites⟩
      · rw [hsame]
        exact hnormal.1
      · rw [hsame]
        exact hnormal.2
  · obtain ⟨after, hresult, hstore, hreliable⟩ := Commits.reliable hr hwrites
    rw [hresult] at hreserve
    cases hreserve
    refine ⟨⟨?_, ?_, hnormal.1, hnormal.2⟩, hreliable⟩
    · rw [hstore]
      simp [Gateway.grant, newReservation]
    · rw [hstore]
      exact settleable_grant now uuid hrefusal

/-- With a reservation a dispatch is the worker under it. -/
theorem dispatchWorker_reserved (work : CliWorkerInput → Proc Gateway WorkerCapture)
    {reserved : Machine Gateway}
    (hreserve : reserve limits now (reservationRequest input) h = (.ok reservation, reserved)) :
    dispatchWorker redactPatterns limits now later work input tierId h =
      dispatchReserved redactPatterns limits later work reservation input tierId reserved := by
  unfold dispatchWorker
  rw [bind_run_ok (attempt_ok hreserve)]

theorem dispatchWorker_onlyEnds (hwrites : h.Reliable) :
    OnlyEnds h.store (dispatchWorker redactPatterns limits now later
      (fun input => ofExcept (capture input)) input tierId h).2.store := by
  rcases reserve_cases limits now h (reservationRequest input) with ⟨error, hr⟩ |
    ⟨existing, id, -, -, -, hr⟩ | ⟨uuid, supply, -, hfind, -, hr⟩
  · unfold dispatchWorker
    rw [bind_run_ok (attempt_thrown hr)]
    dsimp only
    cases gatewayErrorCode error with
    | none => exact fun _ => id
    | some code => exact fun _ => id
  · rw [dispatchWorker_reserved redactPatterns limits later h existing input tierId now _ hr]
    exact dispatchReserved_onlyEnds redactPatterns limits later capture h existing input tierId
  · obtain ⟨reserved, hresult, hstore, -⟩ := Commits.reliable hr hwrites
    obtain ⟨hown, hreliable⟩ := reserve_own limits h _ input now hwrites hresult (.inl hfind)
    rw [dispatchWorker_reserved redactPatterns limits later h _ input tierId now _ hresult]
    obtain ⟨event, settlement, hends⟩ :=
      (dispatchReserved_run redactPatterns later tierId capture hown hreliable).endsWith
    have hgranted : ∀ id, id ≠ reservationIdOf uuid →
        reserved.store.state.reservations.get? id = h.store.state.reservations.get? id := by
      intro id hne
      rw [hstore]
      simp [Gateway.grant, newReservation, Record.get?_set, hne]
    intro id hafter
    by_cases hid : id = reservationIdOf uuid
    · rw [hid] at hafter
      exact absurd hends.inactive hafter
    · rw [hends.others id hid, hgranted id hid] at hafter
      exact hafter

end whole

/-- **A dispatch ends what it reserved.** Whatever the gateway holds, whatever the handoff and
whatever the worker does, nothing is active afterwards that was not before. And what was
reserved for the worker is settled with what the worker used when it returned, and released
when it threw. -/
theorem dispatch_ends_its_reservation (redactPatterns : JsString → JsString)
    (limits : TokenGatewayLimits) (now later : ℕ) (sha256 : Sha256) (locale : TextLocale)
    (mesh : DecisionMesh) (handoff : DispatchHandoff)
    (capture : CliWorkerInput → Except JsError WorkerCapture) (h : Machine Gateway)
    (hwrites : h.Reliable) :
    OnlyEnds h.store (dispatchHandoffOn redactPatterns limits now later
      (fun input => ofExcept (capture input)) sha256 locale mesh .dispatch handoff h).2.store ∧
    ∀ input tierId reservation reserved,
      dispatchHandoff (fun _ => .ok ()) .caller sha256 locale mesh handoff =
        .ok (.worker input tierId) →
      reserve limits now (reservationRequest input) h = (.ok reservation, reserved) →
      CanEnd limits h reservation input →
      EndsReservation redactPatterns reserved.store reservation input tierId (capture input)
        (dispatchHandoffOn redactPatterns limits now later
          (fun input => ofExcept (capture input)) sha256 locale mesh .dispatch handoff h) := by
  have hstart : ∀ result,
      dispatchHandoff (fun _ => .ok ()) .caller sha256 locale mesh handoff = result →
      dispatchHandoffOn redactPatterns limits now later (fun input => ofExcept (capture input))
        sha256 locale mesh .dispatch handoff h =
      match result with
      | .error error => (.error (.thrown error), h)
      | .ok (.refused reason tierId verified) => (.ok (.refused reason tierId verified), h)
      | .ok (.worker input tierId) => dispatchWorker redactPatterns limits now later
          (fun input => ofExcept (capture input)) input tierId h := by
    intro result hresult
    rw [dispatchHandoffOn, hresult, ofExcept_bind_run]
    rcases result with error | ⟨reason, tierId, verified⟩ | ⟨input, tierId⟩
    · rfl
    · rfl
    · rfl
  constructor
  · rw [hstart _ rfl]
    rcases dispatchHandoff (fun _ => .ok ()) .caller sha256 locale mesh handoff with
      error | ⟨reason, tierId, verified⟩ | ⟨input, tierId⟩
    · exact fun _ => id
    · exact fun _ => id
    · exact dispatchWorker_onlyEnds redactPatterns limits later capture h input tierId now hwrites
  · intro input tierId reservation reserved hworker hreserve hcan
    obtain ⟨hown, hreliable⟩ := reserve_own limits h reservation input now hwrites hreserve hcan
    rw [hstart _ hworker]
    dsimp only
    rw [dispatchWorker_reserved redactPatterns limits later h reservation input tierId now _
      hreserve]
    exact dispatchReserved_run redactPatterns later tierId capture hown hreliable

/-! The sample run, dispatched with a gateway of its own. -/

section sample

def sampleGateway : Machine Gateway := ⟨.initial, [], .fresh [sampleUuid] (List.nodup_singleton _)⟩

/-- What the checks make of the sample run. -/
def sampleInput : Option (CliWorkerInput × Option JsString) :=
  match sampleHandoff sampleRun with
  | none => none
  | some handoff =>
    match dispatchHandoff (fun _ => .ok ()) .caller sampleHash sampleLocale sampleMesh
        (.ofRun handoff) with
    | .ok (.worker input tierId) => some (input, tierId)
    | _ => none

/-- A worker that prints more than is kept of its output. -/
def sampleCapture : WorkerCapture :=
  .captured
    { workerRunId := js "worker"
      exitCode := 0
      rawOutput := List.replicate 40000 97
      errorReason := none
      lockStatus := .acquiredSupervisorSpawn }

theorem dispatch_ends_its_reservation_sample :
    ∃ handoff input tierId reservation reserved,
      dispatchHandoff (fun _ => .ok ()) .caller sampleHash sampleLocale sampleMesh handoff =
        .ok (.worker input tierId) ∧
      reserve defaultTokenGatewayLimits 1 (reservationRequest input) sampleGateway =
        (.ok reservation, reserved) ∧
      EndsReservation id reserved.store reservation input tierId (.ok sampleCapture)
        (dispatchHandoffOn id defaultTokenGatewayLimits 1 2
          (fun _ => ofExcept (.ok sampleCapture)) sampleHash sampleLocale sampleMesh .dispatch
          handoff sampleGateway) := by
  have hsome : (sampleInput.any fun found => (reserve defaultTokenGatewayLimits 1
      (reservationRequest found.1) sampleGateway).1.isOk) = true := by decide +kernel
  obtain ⟨⟨input, tierId⟩, hinput, hok⟩ := (Option.any_eq_true ..).1 hsome
  unfold sampleInput at hinput
  split at hinput
  · cases hinput
  · rename_i handoff hhandoff
    split at hinput
    · rename_i found tier hworker
      cases hinput
      rcases hreserve : reserve defaultTokenGatewayLimits 1 (reservationRequest input)
          sampleGateway with ⟨fault | reservation, reserved⟩
      · rw [hreserve] at hok
        cases hok
      · refine ⟨.ofRun handoff, input, tierId, reservation, reserved, hworker, hreserve, ?_⟩
        exact (dispatch_ends_its_reservation id defaultTokenGatewayLimits 1 2 sampleHash
          sampleLocale sampleMesh (.ofRun handoff) (fun _ => .ok sampleCapture) sampleGateway
          (by decide)).2 input tierId reservation reserved hworker hreserve (.inl rfl)
    · cases hinput

end sample

end GovernedDispatch
end Autopilot
