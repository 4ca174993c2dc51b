/-
The quota scheduler: `providerQuotaScheduler.ts`.

The scheduler polls every provider there is demand for, and a provider that was
polled again when its timer fires. It lives in an event loop: a poll is started in
one turn of the loop and goes on in a later one, when its adapter has answered or
its time is up. A scheduler that is stopped lets go of its polls, and they are not
over.

The model has the fields of the scheduler, and what the loop keeps for it: the
timers the clock has not fired or cleared, and the polls that have not come to
their end. What the outside gives a turn of the loop is a list of looks, since a
turn reads clock and sessions several times over and they may differ.
-/
import Autopilot.Js
import Autopilot.Lib.Dict

set_option autoImplicit false

namespace Autopilot.QuotaScheduler

open Prog

/-- A provider, by the command of its agent. -/
abbrev Provider := JsString

def successIntervalMs : ℕ := 5 * 60 * 1000
def initialBackoffMs : ℕ := 60 * 1000
def maxBackoffMs : ℕ := 30 * 60 * 1000
def reconcileIntervalMs : ℕ := 1000
def probeLeaseTtlMs : ℕ := 10 * 60 * 1000
def probeLeaseCooldownMs : ℕ := 30 * 1000

/-! ## What the scheduler sees -/

/-- A `SessionRegistryRecord`, with what the scheduler reads of it. -/
structure SessionRegistryRecord where
  agentCommand : Provider
  /-- `status === "active"` -/
  active : Bool
  /-- `owner_expires_at`: none, a text that is no time, or a time. -/
  ownerExpiresAt : Option (Option ℕ)

/-- `isSessionOwnerExpired`. -/
def isSessionOwnerExpired (session : SessionRegistryRecord) (now : ℕ) : Bool :=
  match session.ownerExpiresAt with
  | none => false
  | some none => true
  | some (some expiresAt) => expiresAt ≤ now

/-- One look at clock and sessions. Reading the sessions may throw. -/
structure Look where
  now : ℕ
  sessions : Except JsError (List SessionRegistryRecord)

/-! ## The scheduler -/

/-- A poll that has not come to its end. -/
structure Poll where
  /-- Which poll it is: its `AbortController`. -/
  controller : ℕ
  provider : Provider
  timeoutHandle : ℕ
  aborted : Bool
  timedOut : Bool
  /-- How many times the scheduler had been stopped when the poll was started. No
  function reads it. -/
  generation : ℕ
  deriving DecidableEq

/-- What a timer is for. -/
inductive Purpose where
  | reconcile
  /-- The next poll of a provider, `generation` that of the poll that armed it. No
  function reads that. -/
  | poll (provider : Provider) (generation : ℕ)
  | timeout (controller : ℕ)
  deriving DecidableEq

/-- A timer that the clock has neither fired nor cleared. -/
structure Timer where
  handle : ℕ
  purpose : Purpose
  delayMs : ℕ
  deriving DecidableEq

/-- `ProviderQuotaScheduler`, in its event loop. -/
structure Scheduler where
  timers : Dict Provider ℕ
  inFlight : Dict Provider ℕ
  failures : Dict Provider ℕ
  leases : Dict Provider ℕ
  leaseRequests : Dict Provider ℕ
  running : Bool
  reconcileTimer : Option ℕ
  /-- The timers of the clock. -/
  live : List Timer
  polls : List Poll
  /-- How many handles and controllers there have been. -/
  issued : ℕ
  /-- How many times it has been stopped. No function reads it. -/
  stops : ℕ
  /-- What this turn of the loop gets to see, and how many looks it has taken. -/
  looks : ℕ → Look
  looked : ℕ

/-- What a scheduler is constructed with: the keys of its adapters, and the
providers it may lease. -/
structure Options where
  adapters : List Provider
  leaseProviders : List Provider
  pollTimeoutMs : ℕ

/-- A function of the scheduler. -/
abbrev Turn (α : Type) := Prog (Fault JsError) Scheduler α

/-- A promise nobody waits for: what it throws goes nowhere. -/
def quietly (p : Turn Unit) : Turn Unit := fun s => (.ok (), (p s).2)

/-- `try { p } finally { cleanup }`. -/
def finallyDo (p : Turn Unit) (cleanup : Scheduler → Scheduler) : Turn Unit := fun s =>
  ((p s).1, cleanup (p s).2)

/-! ### Demand -/

/-- The providers there is demand for: those of the active sessions and those with
a lease. -/
def demand (look : Look) (leases : Dict Provider ℕ) : List Provider :=
  match look.sessions with
  | .error _ => []
  | .ok sessions =>
    ((sessions.filter fun session =>
        session.active && !isSessionOwnerExpired session look.now).map (·.agentCommand) ++
      (leases.filter fun lease => look.now < lease.2).entries.map Prod.fst).eraseDups

/-- `activeProviders`. -/
def activeProviders : Turn (List Provider) := fun s =>
  let look := s.looks s.looked
  match look.sessions with
  | .error error => (.error (.thrown error), { s with looked := s.looked + 1 })
  | .ok _ =>
    (.ok (demand look s.leases),
      { s with
        looked := s.looked + 1
        leases := s.leases.filter fun lease => look.now < lease.2
        leaseRequests := s.leaseRequests.filter fun request =>
          look.now < request.2 + probeLeaseCooldownMs })

/-! ### Polls -/

/-- The state a poll is started in: it has a controller and a timer for its time. -/
def Scheduler.begin (options : Options) (s : Scheduler) (provider : Provider) : Scheduler :=
  { s with
    inFlight := s.inFlight.set provider s.issued
    polls := s.polls ++ [⟨s.issued, provider, s.issued + 1, false, false, s.stops⟩]
    live := s.live ++ [⟨s.issued + 1, .timeout s.issued, options.pollTimeoutMs⟩]
    issued := s.issued + 2 }

/-- `poll`, up to where it waits. -/
def poll (options : Options) (provider : Provider) : Turn Unit := do
  let s ← get
  if s.running then
    let active ← activeProviders
    let s ← get
    if provider ∈ active ∧ s.inFlight.get provider = none ∧ provider ∈ options.adapters then
      modify fun s => s.begin options provider

/-- The state with a timer for the next poll of a provider. -/
def Scheduler.arm (s : Scheduler) (provider : Provider) (generation delayMs : ℕ) : Scheduler :=
  { s with
    live := s.live ++ [⟨s.issued, .poll provider generation, delayMs⟩]
    timers := s.timers.set provider s.issued
    issued := s.issued + 1 }

/-- `schedule`. -/
def schedule (provider : Provider) (generation delayMs : ℕ) : Turn Unit := do
  let s ← get
  if s.running then
    let active ← activeProviders
    if provider ∈ active then
      modify fun s => s.arm provider generation delayMs

/-- `noteFailure`. What it reports of a first failure is not followed here. -/
def noteFailure (provider : Provider) : Turn ℕ := fun s =>
  let failureCount := (s.failures.get provider).getD 0 + 1
  (.ok failureCount, { s with failures := s.failures.set provider failureCount })

/-- The delay after so many failures in a row. -/
def backoff (failureCount : ℕ) : ℕ :=
  min (initialBackoffMs * 2 ^ (failureCount - 1)) maxBackoffMs

/-- How the race of a poll was decided, and what the store said to the snapshots the
poll then persists. -/
structure Settlement where
  /-- The snapshot says it failed, or the race was lost. -/
  fetched : Except JsError Bool
  /-- `persist` of the snapshot, and of the one made up after a failure. -/
  persisted : Except JsError Unit
  failurePersisted : Except JsError Unit

/-- `persist`: the store takes the snapshot, or throws. -/
def persist (stored : Except JsError Unit) : Turn Unit :=
  match stored with
  | .ok () => pure ()
  | .error error => throw error

/-- What a poll does with a snapshot. -/
def takeSnapshot (p : Poll) (settlement : Settlement) (failed : Bool) : Turn Unit := do
  let s ← get
  if s.running then
    let active ← activeProviders
    if p.provider ∈ active then
      persist settlement.persisted
      if failed then
        let failureCount ← noteFailure p.provider
        schedule p.provider p.generation (backoff failureCount)
      else
        modify fun s => { s with failures := s.failures.delete p.provider }
        schedule p.provider p.generation successIntervalMs

/-- The handler of a poll. -/
def takeFailure (p : Poll) (settlement : Settlement) : Turn Unit := do
  let s ← get
  if s.running then
    let active ← activeProviders
    if p.provider ∈ active ∧ (p.timedOut ∨ ¬ p.aborted) then
      persist settlement.failurePersisted
      let failureCount ← noteFailure p.provider
      schedule p.provider p.generation (backoff failureCount)

/-- The state after a poll has come to its end. It clears what the scheduler has in
flight for its provider, whatever poll that is. -/
def Scheduler.finish (s : Scheduler) (p : Poll) : Scheduler :=
  { s with
    live := s.live.filter fun timer => timer.handle ≠ p.timeoutHandle
    inFlight := s.inFlight.delete p.provider
    polls := s.polls.filter fun other => other.controller ≠ p.controller }

/-- `poll`, from where it waited to its end. -/
def settlePoll (p : Poll) (settlement : Settlement) : Turn Unit :=
  finallyDo
    (tryCatch
      (match settlement.fetched with
        | .ok failed => takeSnapshot p settlement failed
        | .error error => throw error)
      fun _ => takeFailure p settlement)
    fun s => s.finish p

/-! ### Starting, stopping and reconciling -/

/-- The poll after `abort` was called of some controllers. -/
def Poll.abortBy (controllers : List ℕ) (p : Poll) : Poll :=
  if p.controller ∈ controllers then { p with aborted := true } else p

/-- Nothing of a poll moves when it is aborted but that. -/
theorem Poll.abortBy_spec (controllers : List ℕ) (p : Poll) :
    (p.abortBy controllers).provider = p.provider ∧
      (p.abortBy controllers).controller = p.controller ∧
      (p.abortBy controllers).timeoutHandle = p.timeoutHandle ∧
      (p.abortBy controllers).generation = p.generation ∧
      (p.aborted = true → (p.abortBy controllers).aborted = true) := by
  unfold Poll.abortBy
  split
  · exact ⟨rfl, rfl, rfl, rfl, fun _ => rfl⟩
  · exact ⟨rfl, rfl, rfl, rfl, id⟩

/-- The polls of providers there is no demand for are aborted. -/
def Scheduler.abortOthers (s : Scheduler) (active : List Provider) : Scheduler :=
  let doomed := (s.inFlight.filter fun entry => entry.1 ∉ active).entries.map Prod.snd
  { s with polls := s.polls.map (Poll.abortBy doomed) }

/-- The timers of providers there is no demand for are cleared. -/
def Scheduler.dropOthers (s : Scheduler) (active : List Provider) : Scheduler :=
  let doomed := (s.timers.filter fun entry => entry.1 ∉ active).entries.map Prod.snd
  { s with
    live := s.live.filter fun timer => timer.handle ∉ doomed
    timers := s.timers.filter fun entry => entry.1 ∈ active }

/-- The last loop of `reconcile`. -/
def pollAll (options : Options) : List Provider → Turn Unit
  | [] => pure ()
  | provider :: active => do
    let s ← get
    if s.timers.get provider = none ∧ s.inFlight.get provider = none then
      quietly (poll options provider)
    pollAll options active

/-- `reconcile`, and `reconcileDemand`. -/
def reconcile (options : Options) : Turn Unit := do
  let s ← get
  if s.running then
    let active ← activeProviders
    modify fun s => (s.abortOthers active).dropOthers active
    pollAll options active

/-- `scheduleReconcile`. -/
def scheduleReconcile : Turn Unit := modify fun s =>
  if s.running then
    { s with
      reconcileTimer := some s.issued
      live := s.live ++ [⟨s.issued, .reconcile, reconcileIntervalMs⟩]
      issued := s.issued + 1 }
  else s

/-- `start`. -/
def start (options : Options) : Turn Unit := do
  let s ← get
  if s.running = false then
    modify fun s => { s with running := true }
    reconcile options
    scheduleReconcile

/-- `stop`. -/
def stop : Turn Unit := modify fun s =>
  let cleared := s.timers.entries.map Prod.snd ++ s.reconcileTimer.toList
  let controllers := s.inFlight.entries.map Prod.snd
  { s with
    running := false
    live := s.live.filter fun timer => timer.handle ∉ cleared
    timers := Dict.empty
    reconcileTimer := none
    polls := s.polls.map (Poll.abortBy controllers)
    inFlight := Dict.empty
    leases := Dict.empty
    leaseRequests := Dict.empty
    stops := s.stops + 1 }

/-! ### Leases -/

/-- The time to live a lease gets for the one it asks for. -/
def boundedTtl (ttlMs : JsNumber) : ℕ :=
  match ttlMs with
  | .finite m k => if 0 < m then min (max 1 (m / 2 ^ k).toNat) probeLeaseTtlMs else probeLeaseTtlMs
  | _ => probeLeaseTtlMs

/-- The request of one provider, in the loop of `requestProbeLease`: whether it is
accepted, and the lease it then has. -/
def Scheduler.lease (options : Options) (now expiresAt : ℕ) (s : Scheduler)
    (provider : Provider) : Option (ℕ × Scheduler) :=
  if provider ∉ options.adapters ∨ provider ∉ options.leaseProviders ∨
      (s.leaseRequests.get provider).any (now < · + probeLeaseCooldownMs) then none
  else
    let actual := max ((s.leases.get provider).getD 0) expiresAt
    some (actual,
      { s with
        leaseRequests := s.leaseRequests.set provider now
        leases := s.leases.set provider actual })

/-- The loop of `requestProbeLease`: the expiries of the accepted, the rejected. -/
def leaseAll (options : Options) (now expiresAt : ℕ) :
    List Provider → Scheduler → (List (Provider × ℕ) × List Provider) × Scheduler
  | [], s => (([], []), s)
  | provider :: providers, s =>
    match s.lease options now expiresAt provider with
    | none =>
      let (result, s') := leaseAll options now expiresAt providers s
      ((result.1, provider :: result.2), s')
    | some (actual, s₁) =>
      let (result, s') := leaseAll options now expiresAt providers s₁
      (((provider, actual) :: result.1, result.2), s')

/-- `ProviderProbeLeaseResult`. -/
structure ProviderProbeLeaseResult where
  accepted : List Provider
  rejected : List Provider
  expiresAt : ℕ

/-- The expiry `requestProbeLease` answers with: the earliest of the accepted leases
or, where there is none, of the leases that the rejected ones have. -/
def leaseExpiry (accepted : List (Provider × ℕ)) (rejected : List Provider)
    (leases : Dict Provider ℕ) (now expiresAt : ℕ) : ℕ :=
  let expiries := if accepted ≠ [] then accepted.map Prod.snd
    else (rejected.filterMap leases.get).filter (now < ·)
  expiries.min?.getD expiresAt

/-- `requestProbeLease`. -/
def requestProbeLease (options : Options) (providers : List Provider) (ttlMs : JsNumber) :
    Turn ProviderProbeLeaseResult := fun s =>
  let now := (s.looks s.looked).now
  let expiresAt := now + boundedTtl ttlMs
  let unique := providers.eraseDups
  if s.running then
    let ((accepted, rejected), leased) :=
      leaseAll options now expiresAt unique { s with looked := s.looked + 1 }
    let (outcome, after) :=
      if accepted ≠ [] then reconcile options leased else (.ok (), leased)
    (outcome.map fun _ => ⟨accepted.map Prod.fst, rejected,
      leaseExpiry accepted rejected after.leases now expiresAt⟩, after)
  else (.ok ⟨[], unique, expiresAt⟩, { s with looked := s.looked + 1 })

/-- `leaseState`, with the expiry where there is a lease. -/
def leaseState (provider : Provider) : Turn (Option ℕ) := fun s =>
  match s.leases.get provider with
  | none => (.ok none, s)
  | some expiresAt =>
    if expiresAt ≤ (s.looks s.looked).now then
      (.ok none, { s with looked := s.looked + 1, leases := s.leases.delete provider })
    else (.ok (some expiresAt), { s with looked := s.looked + 1 })

/-! ## The event loop -/

/-- What happens in one turn of the loop: a call, a timer that fires, or a poll that
goes on. -/
inductive Event where
  | start
  | stop
  | reconcileDemand
  | requestProbeLease (providers : List Provider) (ttlMs : JsNumber)
  | leaseState (provider : Provider)
  | fire (handle : ℕ)
  | settle (controller : ℕ) (settlement : Settlement)

/-- The callback of a timer that has fired. -/
def callback (options : Options) : Purpose → Turn Unit
  | .reconcile => do
    modify fun s => { s with reconcileTimer := none }
    reconcile options
    scheduleReconcile
  | .poll provider _ => do
    modify fun s => { s with timers := s.timers.delete provider }
    quietly (poll options provider)
  | .timeout controller => modify fun s =>
    { s with
      polls := s.polls.map fun p =>
        if p.controller = controller then { p with aborted := true, timedOut := true } else p }

/-- What an event runs. A timer that is not live does not fire, and a poll that has
come to its end does not go on. -/
def handle (options : Options) : Event → Turn Unit
  | .start => start options
  | .stop => stop
  | .reconcileDemand => reconcile options
  | .requestProbeLease providers ttlMs => do
    let _ ← requestProbeLease options providers ttlMs
  | .leaseState provider => do
    let _ ← leaseState provider
  | .fire fired => do
    let s ← get
    match s.live.find? (fun timer => timer.handle = fired) with
    | none => pure ()
    | some timer =>
      modify fun s => { s with live := s.live.filter fun timer => timer.handle ≠ fired }
      callback options timer.purpose
  | .settle controller settlement => do
    let s ← get
    match s.polls.find? (fun p => p.controller = controller) with
    | none => pure ()
    | some p => settlePoll p settlement

/-- The state after one turn, in which the loop gets to see `looks`. -/
def turn (options : Options) (s : Scheduler) (event : Event) (looks : ℕ → Look) : Scheduler :=
  (handle options event { s with looks := looks, looked := 0 }).2

/-- A scheduler as it is constructed. -/
def initial : Scheduler where
  timers := Dict.empty
  inFlight := Dict.empty
  failures := Dict.empty
  leases := Dict.empty
  leaseRequests := Dict.empty
  running := false
  reconcileTimer := none
  live := []
  polls := []
  issued := 0
  stops := 0
  looks := fun _ => ⟨0, .ok []⟩
  looked := 0

end Autopilot.QuotaScheduler
