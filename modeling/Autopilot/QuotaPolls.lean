/-
A poll comes to its end, and the next one is due.

A poll waits for its adapter or for its own time to be up, so it does not wait for
ever. When it goes on it looks at the demand again, and again before it arms the
timer of the next poll. Where there is still demand, and the record of a failure is
written where the poll comes to write one, it ends without throwing and the next poll
is scheduled.
-/
import Autopilot.QuotaSchedulerRuns

set_option autoImplicit false

namespace Autopilot.QuotaScheduler

open Prog

/-! ## The looks of a turn -/

/-- Every look of the turn can read the sessions. -/
def Readable (looks : ℕ → Look) : Prop := ∀ n, ∃ sessions, (looks n).sessions = .ok sessions

/-- The leases that are left after so many looks. -/
def Scheduler.leasesAfter (s : Scheduler) : ℕ → Dict Provider ℕ
  | 0 => s.leases
  | n + 1 => (s.leasesAfter n).filter fun lease => (s.looks (s.looked + n)).now < lease.2

/-- The demand that the look after so many others finds. -/
def Scheduler.demandAfter (s : Scheduler) (n : ℕ) : List Provider :=
  demand (s.looks (s.looked + n)) (s.leasesAfter n)

/-- Whenever the turn looks, the scheduler runs and there is demand for the provider. -/
structure Wanted (s : Scheduler) (provider : Provider) : Prop where
  running : s.running = true
  demanded : ∀ n, provider ∈ s.demandAfter n

variable {s s' : Scheduler} {p : Poll} {settlement : Settlement} {provider : Provider}

/-- The state after a look at the demand. -/
def Scheduler.look (s : Scheduler) : Scheduler :=
  { s with
    looked := s.looked + 1
    leases := s.leasesAfter 1
    leaseRequests := s.leaseRequests.filter fun request =>
      (s.looks s.looked).now < request.2 + probeLeaseCooldownMs }

theorem leasesAfter_look (s : Scheduler) (n : ℕ) :
    s.look.leasesAfter n = s.leasesAfter (n + 1) := by
  induction n with
  | zero => rfl
  | succ n ih =>
    have hindex : s.look.looked + n = s.looked + (n + 1) := by
      show s.looked + 1 + n = s.looked + (n + 1)
      omega
    show (s.look.leasesAfter n).filter _ = (s.leasesAfter (n + 1)).filter _
    rw [ih, hindex]
    rfl

theorem demandAfter_look (s : Scheduler) (n : ℕ) :
    s.look.demandAfter n = s.demandAfter (n + 1) := by
  have hindex : s.look.looked + n = s.looked + (n + 1) := by
    show s.looked + 1 + n = s.looked + (n + 1)
    omega
  unfold Scheduler.demandAfter
  rw [leasesAfter_look, hindex]
  rfl

/-- What is wanted is wanted in the rest of the turn. -/
theorem Wanted.congr (hw : Wanted s provider) (hrunning : s'.running = s.running)
    (hlooks : s'.looks = s.looks) (hlooked : s'.looked = s.looked)
    (hleases : s'.leases = s.leases) :
    Wanted s' provider := by
  have hleft : ∀ n, s'.leasesAfter n = s.leasesAfter n := by
    intro n
    induction n with
    | zero => exact hleases
    | succ n ih =>
      show (s'.leasesAfter n).filter _ = (s.leasesAfter n).filter _
      rw [ih, hlooks, hlooked]
  refine ⟨hrunning.trans hw.running, fun n => ?_⟩
  have hdemanded := hw.demanded n
  unfold Scheduler.demandAfter at hdemanded ⊢
  rwa [hleft, hlooks, hlooked]

theorem Wanted.look (hw : Wanted s provider) : Wanted s.look provider := by
  refine ⟨hw.running, fun n => ?_⟩
  rw [demandAfter_look]
  exact hw.demanded (n + 1)

/-- A look that can read the sessions. -/
theorem activeProviders_readable (hread : Readable s.looks) :
    activeProviders s = (.ok (s.demandAfter 0), s.look) := by
  obtain ⟨sessions, hsessions⟩ := hread s.looked
  unfold activeProviders
  dsimp only
  rw [hsessions]
  rfl

/-! ## What a poll does where there is demand -/

/-- The timer of a handle is for the next poll of the provider, after so long. -/
def Scheduled (s : Scheduler) (handle : ℕ) (provider : Provider) (delayMs : ℕ) : Prop :=
  s.timers.get provider = some handle ∧
    ∃ generation, ⟨handle, .poll provider generation, delayMs⟩ ∈ s.live

/-- The program returns, and where the provider is wanted it schedules the next poll. -/
def Schedules (p : Turn Unit) (s : Scheduler) (provider : Provider) (delayMs : ℕ) : Prop :=
  ∃ s', p s = (.ok (), s') ∧ (Wanted s provider → Scheduled s' s.issued provider delayMs)

theorem schedule_schedules (hread : Readable s.looks) (provider : Provider)
    (generation delayMs : ℕ) :
    Schedules (schedule provider generation delayMs) s provider delayMs := by
  unfold Schedules schedule
  rw [bind_run, get_run]
  dsimp only
  by_cases hrunning : s.running = true
  · rw [if_pos hrunning]
    rw [bind_run_ok (activeProviders_readable hread)]
    by_cases hdemanded : provider ∈ s.demandAfter 0
    · rw [if_pos hdemanded]
      refine ⟨_, rfl, fun _ => ⟨?_, generation, ?_⟩⟩
      · show (s.look.timers.set provider s.look.issued).get provider = some s.look.issued
        rw [Dict.get_set, if_pos rfl]
      · exact List.mem_append_right _ (List.mem_singleton.2 rfl)
    · rw [if_neg hdemanded]
      exact ⟨_, rfl, fun hw => absurd (hw.demanded 0) hdemanded⟩
  · rw [if_neg hrunning]
    exact ⟨_, rfl, fun hw => absurd hw.running hrunning⟩

/-- The failures in a row, with this one. -/
def Scheduler.failureCount (s : Scheduler) (provider : Provider) : ℕ :=
  (s.failures.get provider).getD 0 + 1

/-- A failure is counted, and the next poll comes later for it. -/
theorem noteFailure_schedules (hread : Readable s.looks) (provider : Provider) (generation : ℕ) :
    Schedules (noteFailure provider >>= fun failureCount =>
      schedule provider generation (backoff failureCount)) s provider
      (backoff (s.failureCount provider)) := by
  have hnote : noteFailure provider s = (.ok (s.failureCount provider),
      { s with failures := s.failures.set provider (s.failureCount provider) }) := rfl
  unfold Schedules
  rw [bind_run_ok hnote]
  obtain ⟨s', hrun, hscheduled⟩ := schedule_schedules
    (s := { s with failures := s.failures.set provider (s.failureCount provider) }) hread provider
    generation (backoff (s.failureCount provider))
  exact ⟨s', hrun, fun hw => hscheduled (hw.congr rfl rfl rfl rfl)⟩

/-- **The handler of a poll** returns where the record of the failure is written. -/
theorem takeFailure_schedules (hread : Readable s.looks)
    (hstored : settlement.failurePersisted = .ok ()) :
    ∃ s', takeFailure p settlement s = (.ok (), s') ∧
      (Wanted s p.provider → p.timedOut = true ∨ p.aborted = false →
        Scheduled s' s.issued p.provider (backoff (s.failureCount p.provider))) := by
  unfold takeFailure
  rw [bind_run, get_run]
  dsimp only
  by_cases hrunning : s.running = true
  · rw [if_pos hrunning, bind_run_ok (activeProviders_readable hread)]
    by_cases hfail : p.provider ∈ s.demandAfter 0 ∧ (p.timedOut ∨ ¬ p.aborted)
    · rw [if_pos hfail, hstored]
      obtain ⟨s', hrun, hscheduled⟩ := noteFailure_schedules (s := s.look) hread p.provider
        p.generation
      exact ⟨s', hrun, fun hw _ => hscheduled hw.look⟩
    · rw [if_neg hfail]
      refine ⟨_, rfl, fun hw hkept => absurd ⟨hw.demanded 0, ?_⟩ hfail⟩
      simpa using hkept
  · rw [if_neg hrunning]
    exact ⟨_, rfl, fun hw _ => absurd hw.running hrunning⟩

/-- **The start of a poll** returns. -/
theorem poll_returns (hread : Readable s.looks) (options : Options) (provider : Provider) :
    (poll options provider s).1 = .ok () := by
  unfold poll
  rw [bind_run, get_run]
  dsimp only
  by_cases hrunning : s.running = true
  · rw [if_pos hrunning, bind_run_ok (activeProviders_readable hread), bind_run, get_run]
    dsimp only
    split
    · rfl
    · rfl
  · rw [if_neg hrunning]
    rfl

/-- **A poll with a snapshot** returns, or the store did not take the snapshot. -/
theorem takeSnapshot_schedules (hread : Readable s.looks) (settlement : Settlement)
    (failed : Bool) :
    (settlement.persisted = .ok () ∧
      Schedules (takeSnapshot p settlement failed) s p.provider
        (if failed then backoff (s.failureCount p.provider) else successIntervalMs)) ∨
      (∃ s', takeSnapshot p settlement failed s = (.ok (), s') ∧ ¬ Wanted s p.provider) ∨
      ∃ error, settlement.persisted = .error error ∧
        takeSnapshot p settlement failed s = (.error (.thrown error), s.look) := by
  unfold takeSnapshot Schedules
  rw [bind_run, get_run]
  dsimp only
  by_cases hrunning : s.running = true
  · rw [if_pos hrunning, bind_run_ok (activeProviders_readable hread)]
    by_cases hdemanded : p.provider ∈ s.demandAfter 0
    · rw [if_pos hdemanded]
      cases hpersisted : settlement.persisted with
      | error error => exact .inr (.inr ⟨error, rfl, rfl⟩)
      | ok u =>
        left
        refine ⟨rfl, ?_⟩
        cases failed with
        | true =>
          obtain ⟨s', hrun, hscheduled⟩ := noteFailure_schedules (s := s.look) hread p.provider
            p.generation
          exact ⟨s', hrun, fun hw => hscheduled hw.look⟩
        | false =>
          obtain ⟨s', hrun, hscheduled⟩ := schedule_schedules
            (s := { s.look with failures := s.look.failures.delete p.provider }) hread p.provider
            p.generation successIntervalMs
          exact ⟨s', hrun, fun hw => hscheduled (hw.look.congr rfl rfl rfl rfl)⟩
    · rw [if_neg hdemanded]
      exact .inr (.inl ⟨_, rfl, fun hw => hdemanded (hw.demanded 0)⟩)
  · rw [if_neg hrunning]
    exact .inr (.inl ⟨_, rfl, fun hw => hrunning hw.running⟩)

/-- The poll has a snapshot, and the store takes it. -/
def Settlement.stored (settlement : Settlement) : Bool :=
  match settlement.fetched, settlement.persisted with
  | .ok _, .ok _ => true
  | _, _ => false

/-- How long after a poll the next one comes: after a snapshot without a failure the usual
time, and else longer with every failure in a row. -/
def Settlement.delay (settlement : Settlement) (failureCount : ℕ) : ℕ :=
  match settlement.fetched, settlement.persisted with
  | .ok false, .ok _ => successIntervalMs
  | _, _ => backoff failureCount

/-- The end of a poll leaves the timer of the next one. -/
theorem Scheduled.finish {handle delayMs : ℕ} (hs : Scheduled s handle provider delayMs)
    (hother : p.timeoutHandle ≠ handle) : Scheduled (s.finish p) handle provider delayMs := by
  obtain ⟨harmed, generation, hlive⟩ := hs
  refine ⟨harmed, generation, List.mem_filter.2 ⟨hlive, ?_⟩⟩
  simpa using hother.symm

/-- **The end of a poll.** -/
theorem settlePoll_schedules (hread : Readable s.looks)
    (hstored : settlement.failurePersisted = .ok ()) (hissued : p.timeoutHandle < s.issued) :
    (settlePoll p settlement s).1 = .ok () ∧
      (settlePoll p settlement s).2.inFlight.get p.provider = none ∧
      (Wanted s p.provider → settlement.stored = true ∨ p.timedOut = true ∨ p.aborted = false →
        Scheduled (settlePoll p settlement s).2 s.issued p.provider
          (settlement.delay (s.failureCount p.provider))) := by
  have hother : p.timeoutHandle ≠ s.issued := by omega
  have hcleared : ∀ s' : Scheduler, (s'.finish p).inFlight.get p.provider = none := by
    intro s'
    show (s'.inFlight.delete p.provider).get p.provider = none
    rw [Dict.get_delete, if_pos rfl]
  unfold settlePoll finallyDo
  dsimp only
  cases hfetched : settlement.fetched with
  | error error =>
    -- the race is lost
    obtain ⟨s', hrun, hscheduled⟩ := takeFailure_schedules (p := p) hread hstored
    dsimp only
    rw [tryCatch_run, throw_run]
    dsimp only
    rw [hrun]
    refine ⟨rfl, hcleared s', fun hw hkept => ?_⟩
    have hlost : p.timedOut = true ∨ p.aborted = false := by
      simpa [Settlement.stored, hfetched] using hkept
    simpa [Settlement.delay, hfetched] using (hscheduled hw hlost).finish hother
  | ok failed =>
    dsimp only
    rcases takeSnapshot_schedules (p := p) hread settlement failed with
      ⟨hpersisted, s', hrun, hscheduled⟩ | ⟨s', hrun, hunwanted⟩ | ⟨error, hpersisted, hrun⟩
    · rw [tryCatch_run_ok hrun]
      refine ⟨rfl, hcleared s', fun hw _ => ?_⟩
      have hdelay : settlement.delay (s.failureCount p.provider)
          = if failed then backoff (s.failureCount p.provider) else successIntervalMs := by
        unfold Settlement.delay
        rw [hfetched, hpersisted]
        cases failed with
        | true => rfl
        | false => rfl
      rw [hdelay]
      exact (hscheduled hw).finish hother
    · rw [tryCatch_run_ok hrun]
      exact ⟨rfl, hcleared s', fun hw => absurd hw hunwanted⟩
    · -- the store did not take the snapshot, and the handler makes up another one
      obtain ⟨s', hhandled, hscheduled⟩ :=
        takeFailure_schedules (s := s.look) (p := p) hread hstored
      rw [tryCatch_run_thrown hrun, hhandled]
      refine ⟨rfl, hcleared s', fun hw hkept => ?_⟩
      have hlost : p.timedOut = true ∨ p.aborted = false := by
        simpa [Settlement.stored, hfetched, hpersisted] using hkept
      have hlater : Scheduled (s'.finish p) s.issued p.provider
          (backoff (s.failureCount p.provider)) := (hscheduled hw.look hlost).finish hother
      simpa [Settlement.delay, hfetched, hpersisted] using hlater

/-! ## A poll does not wait for ever -/

/-- Every poll has a timer for its time, or its time was up. No other timer has the
handle of that timer, and no call clears it. -/
structure Timed (s : Scheduler) : Prop where
  live : ∀ timer ∈ s.live, timer.handle < s.issued
  timers : ∀ provider handle, s.timers.get provider = some handle → handle < s.issued
  reconcileTimer : ∀ handle, s.reconcileTimer = some handle → handle < s.issued
  handle : ∀ p ∈ s.polls, p.timeoutHandle = p.controller + 1 ∧ p.timeoutHandle < s.issued
  own : ∀ p ∈ s.polls, ∀ timer ∈ s.live, timer.handle = p.timeoutHandle →
    timer.purpose = .timeout p.controller
  scheduled : ∀ p ∈ s.polls, ∀ provider, s.timers.get provider ≠ some p.timeoutHandle
  reconciled : ∀ p ∈ s.polls, s.reconcileTimer ≠ some p.timeoutHandle
  timed : ∀ p ∈ s.polls, p.timedOut = true ∨ ∃ timer ∈ s.live, timer.handle = p.timeoutHandle

namespace Timed

/-- Polls may be aborted, and timers may go that are no poll's. -/
theorem mono (ht : Timed s) (f : Poll → Poll)
    (hf : ∀ p, (f p).controller = p.controller ∧ (f p).timeoutHandle = p.timeoutHandle ∧
      (p.timedOut = true → (f p).timedOut = true))
    (hpolls : ∀ p' ∈ s'.polls, ∃ p ∈ s.polls, p' = f p) (hissued : s'.issued = s.issued)
    (hlive : ∀ timer ∈ s'.live, timer ∈ s.live)
    (hkept : ∀ p ∈ s.polls, f p ∈ s'.polls → ∀ timer ∈ s.live, timer.handle = p.timeoutHandle →
      timer ∈ s'.live ∨ (f p).timedOut = true)
    (htimers : ∀ provider handle, s'.timers.get provider = some handle →
      s.timers.get provider = some handle)
    (hreconcile : ∀ handle, s'.reconcileTimer = some handle → s.reconcileTimer = some handle) :
    Timed s' where
  live timer hmem := hissued ▸ ht.live timer (hlive timer hmem)
  timers provider handle harmed := hissued ▸ ht.timers provider handle (htimers _ _ harmed)
  reconcileTimer handle harmed := hissued ▸ ht.reconcileTimer handle (hreconcile _ harmed)
  handle p' hp' := by
    obtain ⟨p, hp, rfl⟩ := hpolls p' hp'
    rw [(hf p).1, (hf p).2.1, hissued]
    exact ht.handle p hp
  own p' hp' timer hmem hhandle := by
    obtain ⟨p, hp, rfl⟩ := hpolls p' hp'
    rw [(hf p).2.1] at hhandle
    rw [(hf p).1]
    exact ht.own p hp timer (hlive timer hmem) hhandle
  scheduled p' hp' provider harmed := by
    obtain ⟨p, hp, rfl⟩ := hpolls p' hp'
    rw [(hf p).2.1] at harmed
    exact ht.scheduled p hp provider (htimers _ _ harmed)
  reconciled p' hp' harmed := by
    obtain ⟨p, hp, rfl⟩ := hpolls p' hp'
    rw [(hf p).2.1] at harmed
    exact ht.reconciled p hp (hreconcile _ harmed)
  timed p' hp' := by
    obtain ⟨p, hp, rfl⟩ := hpolls p' hp'
    rcases ht.timed p hp with hup | ⟨timer, hmem, hhandle⟩
    · exact .inl ((hf p).2.2 hup)
    · rcases hkept p hp hp' timer hmem hhandle with hstill | hup
      · exact .inr ⟨timer, hstill, hhandle.trans (hf p).2.1.symm⟩
      · exact .inl hup

/-- Whatever else moved, the timers and the polls are the same. -/
theorem same (ht : Timed s) (hlive : s'.live = s.live) (hpolls : s'.polls = s.polls)
    (hissued : s'.issued = s.issued) (htimers : s'.timers = s.timers)
    (hreconcile : s'.reconcileTimer = s.reconcileTimer) : Timed s' := by
  refine ht.mono id (fun _ => ⟨rfl, rfl, id⟩) ?_ hissued ?_ ?_ ?_ ?_
  · intro p hp
    exact ⟨p, hpolls ▸ hp, rfl⟩
  · intro timer hmem
    exact hlive ▸ hmem
  · intro p _ _ timer hmem _
    exact .inl (hlive.symm ▸ hmem)
  · intro provider handle harmed
    exact htimers ▸ harmed
  · intro handle harmed
    exact hreconcile ▸ harmed

/-- A poll starts with a timer of its own. -/
theorem begin (ht : Timed s) (options : Options) (provider : Provider) :
    Timed (s.begin options provider) where
  live timer hmem := by
    show timer.handle < s.issued + 2
    rcases List.mem_append.1 hmem with hold | hnew
    · have := ht.live timer hold
      omega
    · rw [List.mem_singleton.1 hnew]
      show s.issued + 1 < s.issued + 2
      omega
  timers provider handle harmed := Nat.lt_add_right 2 (ht.timers provider handle harmed)
  reconcileTimer handle harmed := Nat.lt_add_right 2 (ht.reconcileTimer handle harmed)
  handle p hp := by
    rcases List.mem_append.1 hp with hold | hnew
    · exact ⟨(ht.handle p hold).1, Nat.lt_add_right 2 (ht.handle p hold).2⟩
    · rw [List.mem_singleton.1 hnew]
      exact ⟨rfl, Nat.lt_succ_self _⟩
  own p hp timer hmem hhandle := by
    rcases List.mem_append.1 hp with hold | hnew
    · rcases List.mem_append.1 hmem with hmem | hmem
      · exact ht.own p hold timer hmem hhandle
      · -- the handle of the new timer is new
        rw [List.mem_singleton.1 hmem] at hhandle
        have hbelow := (ht.handle p hold).2
        have : s.issued + 1 = p.timeoutHandle := hhandle
        omega
    · rw [List.mem_singleton.1 hnew] at hhandle ⊢
      rcases List.mem_append.1 hmem with hmem | hmem
      · have hbelow := ht.live timer hmem
        have : timer.handle = s.issued + 1 := hhandle
        omega
      · rw [List.mem_singleton.1 hmem]
  scheduled p hp provider harmed := by
    have hbelow := ht.timers provider _ harmed
    rcases List.mem_append.1 hp with hold | hnew
    · exact ht.scheduled p hold provider harmed
    · rw [List.mem_singleton.1 hnew] at hbelow
      have : s.issued + 1 < s.issued := hbelow
      omega
  reconciled p hp harmed := by
    have hbelow := ht.reconcileTimer _ harmed
    rcases List.mem_append.1 hp with hold | hnew
    · exact ht.reconciled p hold harmed
    · rw [List.mem_singleton.1 hnew] at hbelow
      have : s.issued + 1 < s.issued := hbelow
      omega
  timed p hp := by
    rcases List.mem_append.1 hp with hold | hnew
    · exact (ht.timed p hold).imp_right fun ⟨timer, hmem, hhandle⟩ =>
        ⟨timer, List.mem_append_left _ hmem, hhandle⟩
    · rw [List.mem_singleton.1 hnew]
      exact .inr ⟨_, List.mem_append_right _ (List.mem_singleton.2 rfl), rfl⟩

/-- A timer comes that is for no poll's time. -/
theorem add (ht : Timed s) {purpose : Purpose} {delayMs : ℕ}
    (hlive : s'.live = s.live ++ [⟨s.issued, purpose, delayMs⟩]) (hpolls : s'.polls = s.polls)
    (hissued : s'.issued = s.issued + 1)
    (htimers : ∀ provider handle, s'.timers.get provider = some handle →
      s.timers.get provider = some handle ∨ handle = s.issued)
    (hreconcile : ∀ handle, s'.reconcileTimer = some handle →
      s.reconcileTimer = some handle ∨ handle = s.issued) : Timed s' where
  live timer hmem := by
    rw [hlive] at hmem
    rcases List.mem_append.1 hmem with hold | hnew
    · have := ht.live timer hold
      omega
    · rw [List.mem_singleton.1 hnew, hissued]
      exact Nat.lt_succ_self _
  timers provider handle harmed := by
    rcases htimers provider handle harmed with hold | hnew
    · have := ht.timers provider handle hold
      omega
    · omega
  reconcileTimer handle harmed := by
    rcases hreconcile handle harmed with hold | hnew
    · have := ht.reconcileTimer handle hold
      omega
    · omega
  handle p hp := by
    rw [hpolls] at hp
    have := ht.handle p hp
    omega
  own p hp timer hmem hhandle := by
    rw [hpolls] at hp
    rw [hlive] at hmem
    rcases List.mem_append.1 hmem with hold | hnew
    · exact ht.own p hp timer hold hhandle
    · rw [List.mem_singleton.1 hnew] at hhandle
      have hbelow := (ht.handle p hp).2
      have : s.issued = p.timeoutHandle := hhandle
      omega
  scheduled p hp provider harmed := by
    rw [hpolls] at hp
    rcases htimers provider _ harmed with hold | hnew
    · exact ht.scheduled p hp provider hold
    · have := (ht.handle p hp).2
      omega
  reconciled p hp harmed := by
    rw [hpolls] at hp
    rcases hreconcile _ harmed with hold | hnew
    · exact ht.reconciled p hp hold
    · have := (ht.handle p hp).2
      omega
  timed p hp := by
    rw [hpolls] at hp
    refine (ht.timed p hp).imp_right fun ⟨timer, hmem, hhandle⟩ => ⟨timer, ?_, hhandle⟩
    rw [hlive]
    exact List.mem_append_left _ hmem

/-- A poll comes to its end. -/
theorem finish (ht : Timed s) (hhandle : p.timeoutHandle = p.controller + 1) :
    Timed (s.finish p) := by
  refine ht.mono id (fun _ => ⟨rfl, rfl, id⟩) ?_ rfl ?_ ?_ ?_ ?_
  · intro q hq
    exact ⟨q, (List.mem_filter.1 hq).1, rfl⟩
  · intro timer hmem
    exact (List.mem_filter.1 hmem).1
  · -- the timer that goes is the one of the poll that goes
    intro q hq hstill timer hmem htimer
    left
    refine List.mem_filter.2 ⟨hmem, ?_⟩
    have hother : q.controller ≠ p.controller := by
      simpa using (List.mem_filter.1 hstill).2
    have hqhandle := (ht.handle q hq).1
    have hne : timer.handle ≠ p.timeoutHandle := by omega
    simpa using hne
  · intro provider handle harmed
    exact harmed
  · intro handle harmed
    exact harmed

end Timed

/-! ### Every function of the scheduler keeps it -/

/-- What is known of the polls is kept. -/
def KeepsTimed (s s' : Scheduler) : Prop := Timed s → Timed s'

section keeps

variable {α β : Type} (options : Options)

theorem keepsTimed_bind {p : Turn α} {f : α → Turn β} (hp : Moves KeepsTimed p)
    (hf : ∀ a, Moves KeepsTimed (f a)) : Moves KeepsTimed (p >>= f) :=
  Moves.bind (fun _ _ _ hab hbc ht => hbc (hab ht)) hp hf

theorem keepsTimed_pure (a : α) : Moves KeepsTimed (pure a : Turn α) := fun _ ht => ht

theorem keepsTimed_get : Moves KeepsTimed (get : Turn Scheduler) := fun _ ht => ht

theorem keepsTimed_same {f : Scheduler → Scheduler} (hf : ∀ s, Timed s → Timed (f s)) :
    Moves KeepsTimed (modify f : Turn Unit) := hf

theorem keepsTimed_activeProviders : Moves KeepsTimed activeProviders := by
  intro s ht
  unfold activeProviders
  dsimp only
  split
  · exact ht.same rfl rfl rfl rfl rfl
  · exact ht.same rfl rfl rfl rfl rfl

theorem keepsTimed_poll (provider : Provider) : Moves KeepsTimed (poll options provider) := by
  unfold poll
  apply keepsTimed_bind keepsTimed_get
  intro s
  split
  · apply keepsTimed_bind keepsTimed_activeProviders
    intro active
    apply keepsTimed_bind keepsTimed_get
    intro s
    split
    · exact keepsTimed_same fun _ ht => ht.begin options provider
    · exact keepsTimed_pure ()
  · exact keepsTimed_pure ()

theorem keepsTimed_quietly {p : Turn Unit} (hp : Moves KeepsTimed p) :
    Moves KeepsTimed (quietly p) := hp

theorem Timed.arm (ht : Timed s) (provider : Provider) (generation delayMs : ℕ) :
    Timed (s.arm provider generation delayMs) := by
  refine ht.add rfl rfl rfl ?_ fun handle harmed => .inl harmed
  intro other handle harmed
  have hset : (s.timers.set provider s.issued).get other = some handle := harmed
  rw [Dict.get_set] at hset
  split at hset
  · exact .inr (Option.some.inj hset).symm
  · exact .inl hset

theorem keepsTimed_schedule (provider : Provider) (generation delayMs : ℕ) :
    Moves KeepsTimed (schedule provider generation delayMs) := by
  unfold schedule
  apply keepsTimed_bind keepsTimed_get
  intro s
  split
  · apply keepsTimed_bind keepsTimed_activeProviders
    intro active
    split
    · exact keepsTimed_same fun _ ht => ht.arm provider generation delayMs
    · exact keepsTimed_pure ()
  · exact keepsTimed_pure ()

theorem keepsTimed_noteFailure (provider : Provider) : Moves KeepsTimed (noteFailure provider) :=
  fun _ ht => ht.same rfl rfl rfl rfl rfl

theorem keepsTimed_persist (stored : Except JsError Unit) : Moves KeepsTimed (persist stored) := by
  cases stored with
  | ok u => exact fun _ ht => ht
  | error error => exact fun _ ht => ht

/-- A failure is counted and the next poll scheduled. -/
theorem keepsTimed_back (provider : Provider) (generation : ℕ) :
    Moves KeepsTimed (noteFailure provider >>= fun failureCount =>
      schedule provider generation (backoff failureCount)) :=
  keepsTimed_bind (keepsTimed_noteFailure provider) fun _ => keepsTimed_schedule _ _ _

theorem keepsTimed_takeSnapshot (p : Poll) (settlement : Settlement) (failed : Bool) :
    Moves KeepsTimed (takeSnapshot p settlement failed) := by
  unfold takeSnapshot
  apply keepsTimed_bind keepsTimed_get
  intro s
  split
  · apply keepsTimed_bind keepsTimed_activeProviders
    intro active
    split
    · apply keepsTimed_bind (keepsTimed_persist _)
      intro _
      split
      · exact keepsTimed_back _ _
      · refine keepsTimed_bind ?_ fun _ => keepsTimed_schedule _ _ _
        intro s ht
        exact ht.same rfl rfl rfl rfl rfl
    · exact keepsTimed_pure ()
  · exact keepsTimed_pure ()

theorem keepsTimed_takeFailure (p : Poll) (settlement : Settlement) :
    Moves KeepsTimed (takeFailure p settlement) := by
  unfold takeFailure
  apply keepsTimed_bind keepsTimed_get
  intro s
  split
  · apply keepsTimed_bind keepsTimed_activeProviders
    intro active
    split
    · apply keepsTimed_bind (keepsTimed_persist _)
      intro _
      exact keepsTimed_back _ _
    · exact keepsTimed_pure ()
  · exact keepsTimed_pure ()

theorem keepsTimed_settlePoll (hhandle : p.timeoutHandle = p.controller + 1)
    (settlement : Settlement) : Moves KeepsTimed (settlePoll p settlement) := by
  have hbody {body : Turn Unit} (h : Moves KeepsTimed body) :
      Moves KeepsTimed (tryCatch body fun _ => takeFailure p settlement) :=
    Moves.tryCatch (fun _ _ _ hab hbc ht => hbc (hab ht)) h
      fun _ => keepsTimed_takeFailure p settlement
  unfold settlePoll
  refine fun s ht => (hbody ?_ s ht).finish hhandle
  cases settlement.fetched with
  | ok failed => exact keepsTimed_takeSnapshot p settlement failed
  | error error => exact fun _ ht => ht

/-- Aborting a poll keeps its handles. -/
theorem Timed.aborted (ht : Timed s) (controllers : List ℕ)
    (hpolls : s'.polls = s.polls.map (Poll.abortBy controllers)) (hissued : s'.issued = s.issued)
    (hlive : ∀ timer ∈ s'.live, timer ∈ s.live)
    (hkept : ∀ p ∈ s.polls, ∀ timer ∈ s.live, timer.handle = p.timeoutHandle → timer ∈ s'.live)
    (htimers : ∀ provider handle, s'.timers.get provider = some handle →
      s.timers.get provider = some handle)
    (hreconcile : ∀ handle, s'.reconcileTimer = some handle → s.reconcileTimer = some handle) :
    Timed s' := by
  refine ht.mono (Poll.abortBy controllers) ?_ ?_ hissued hlive ?_ htimers hreconcile
  · intro p
    obtain ⟨-, hcontroller, hhandle, -, -⟩ := Poll.abortBy_spec controllers p
    refine ⟨hcontroller, hhandle, fun hup => ?_⟩
    unfold Poll.abortBy
    split
    · exact hup
    · exact hup
  · intro p' hp'
    rw [hpolls] at hp'
    obtain ⟨p, hp, rfl⟩ := List.mem_map.1 hp'
    exact ⟨p, hp, rfl⟩
  · exact fun p hp _ timer hmem hhandle => .inl (hkept p hp timer hmem hhandle)

theorem Timed.abortOthers (ht : Timed s) (active : List Provider) : Timed (s.abortOthers active) :=
  ht.aborted _ rfl rfl (fun _ hmem => hmem) (fun _ _ _ hmem _ => hmem) (fun _ _ harmed => harmed)
    fun _ harmed => harmed

/-- No timer of a poll is among those that are cleared. -/
theorem Timed.dropOthers (ht : Timed s) (active : List Provider) : Timed (s.dropOthers active) := by
  refine ht.mono id (fun _ => ⟨rfl, rfl, id⟩) (fun p hp => ⟨p, hp, rfl⟩) rfl ?_ ?_ ?_
    fun _ harmed => harmed
  · exact fun timer hmem => (List.mem_filter.1 hmem).1
  · intro p hp _ timer hmem hhandle
    refine .inl (List.mem_filter.2 ⟨hmem, ?_⟩)
    have hnot : timer.handle ∉ ((s.timers.filter fun entry => entry.1 ∉ active).entries.map
        Prod.snd) := by
      intro hdoomed
      obtain ⟨entry, hentry, hsame⟩ := List.mem_map.1 hdoomed
      have harmed : s.timers.get entry.1 = some entry.2 :=
        Dict.mem_iff.1 (List.mem_filter.1 hentry).1
      rw [hsame, hhandle] at harmed
      exact ht.scheduled p hp entry.1 harmed
    simpa using hnot
  · intro provider handle harmed
    have hfilter : (s.timers.filter fun entry => entry.1 ∈ active).get provider = some handle :=
      harmed
    rw [Dict.get_filter] at hfilter
    exact (Option.filter_eq_some_iff.1 hfilter).1

theorem keepsTimed_pollAll (active : List Provider) :
    Moves KeepsTimed (pollAll options active) := by
  induction active with
  | nil => exact keepsTimed_pure ()
  | cons provider active ih =>
    unfold pollAll
    apply keepsTimed_bind keepsTimed_get
    intro s
    split
    · apply keepsTimed_bind (keepsTimed_quietly (keepsTimed_poll options provider))
      intro _
      exact ih
    · exact ih

theorem keepsTimed_reconcile : Moves KeepsTimed (reconcile options) := by
  unfold reconcile
  apply keepsTimed_bind keepsTimed_get
  intro s
  split
  · apply keepsTimed_bind keepsTimed_activeProviders
    intro active
    apply keepsTimed_bind (keepsTimed_same fun _ ht => (ht.abortOthers active).dropOthers active)
    intro _
    exact keepsTimed_pollAll options active
  · exact keepsTimed_pure ()

theorem keepsTimed_scheduleReconcile : Moves KeepsTimed scheduleReconcile := by
  refine keepsTimed_same fun s ht => ?_
  split
  · exact ht.add rfl rfl rfl (fun _ _ harmed => .inl harmed)
      fun _ harmed => .inr (Option.some.inj harmed).symm
  · exact ht

theorem keepsTimed_start : Moves KeepsTimed (start options) := by
  unfold start
  apply keepsTimed_bind keepsTimed_get
  intro s
  split
  · refine keepsTimed_bind ?_ fun _ => keepsTimed_bind (keepsTimed_reconcile options) fun _ =>
      keepsTimed_scheduleReconcile
    intro s ht
    exact ht.same rfl rfl rfl rfl rfl
  · exact keepsTimed_pure ()

/-- Stopping clears the timers of the next polls and the one of the reconciliation, and no
timer of a poll is among them. -/
theorem keepsTimed_stop : Moves KeepsTimed stop := by
  refine keepsTimed_same fun s ht =>
    ht.aborted (s.inFlight.entries.map Prod.snd) rfl rfl ?_ ?_ ?_ ?_
  · exact fun timer hmem => (List.mem_filter.1 hmem).1
  · intro p hp timer hmem hhandle
    refine List.mem_filter.2 ⟨hmem, ?_⟩
    have hnot : timer.handle ∉ s.timers.entries.map Prod.snd ++ s.reconcileTimer.toList := by
      intro hcleared
      rcases List.mem_append.1 hcleared with hscheduled | hreconciled
      · obtain ⟨entry, hentry, hsame⟩ := List.mem_map.1 hscheduled
        have harmed : s.timers.get entry.1 = some entry.2 := Dict.mem_iff.1 hentry
        rw [hsame, hhandle] at harmed
        exact ht.scheduled p hp entry.1 harmed
      · rw [Option.mem_toList, hhandle] at hreconciled
        exact ht.reconciled p hp hreconciled
    simpa using hnot
  · intro provider handle harmed
    cases harmed
  · intro handle harmed
    cases harmed

theorem Timed.leaseAll (ht : Timed s) (now expiresAt : ℕ) (providers : List Provider) :
    Timed (leaseAll options now expiresAt providers s).2 := by
  induction providers generalizing s with
  | nil => exact ht
  | cons provider providers ih =>
    unfold QuotaScheduler.leaseAll
    cases hlease : s.lease options now expiresAt provider with
    | none => exact ih ht
    | some leased =>
      obtain ⟨actual, s₁⟩ := leased
      unfold Scheduler.lease at hlease
      split at hlease
      · cases hlease
      · obtain rfl := congrArg Prod.snd (Option.some.inj hlease)
        exact ih (ht.same rfl rfl rfl rfl rfl)

theorem keepsTimed_requestProbeLease (providers : List Provider) (ttlMs : JsNumber) :
    Moves KeepsTimed (requestProbeLease options providers ttlMs) := by
  intro s ht
  have hlook : Timed { s with looked := s.looked + 1 } := ht.same rfl rfl rfl rfl rfl
  have hleased := hlook.leaseAll options (s.looks s.looked).now
    ((s.looks s.looked).now + boundedTtl ttlMs) providers.eraseDups
  unfold requestProbeLease
  dsimp only
  split
  · split
    · exact keepsTimed_reconcile options _ hleased
    · exact hleased
  · exact hlook

theorem keepsTimed_leaseState (provider : Provider) : Moves KeepsTimed (leaseState provider) := by
  intro s ht
  unfold leaseState
  split
  · exact ht
  · split
    · exact ht.same rfl rfl rfl rfl rfl
    · exact ht.same rfl rfl rfl rfl rfl

/-- The clock lets go of a timer that is no poll's. -/
theorem Timed.fired (ht : Timed s) {timer : Timer} (hmem : timer ∈ s.live)
    (hother : ∀ controller, timer.purpose ≠ .timeout controller) :
    Timed { s with live := s.live.filter fun other => other.handle ≠ timer.handle } := by
  refine ht.mono id (fun _ => ⟨rfl, rfl, id⟩) (fun p hp => ⟨p, hp, rfl⟩) rfl ?_ ?_
    (fun _ _ harmed => harmed) fun _ harmed => harmed
  · exact fun other hother => (List.mem_filter.1 hother).1
  · intro p hp _ other hlive hhandle
    refine .inl (List.mem_filter.2 ⟨hlive, ?_⟩)
    have hne : other.handle ≠ timer.handle := by
      intro hsame
      exact hother p.controller (ht.own p hp timer hmem (hsame.symm.trans hhandle))
    simpa using hne

/-- **A timer fires.** The one of a poll says that the time of the poll is up. -/
theorem Timed.fires (ht : Timed s) {timer : Timer} (hmem : timer ∈ s.live) :
    Timed (callback options timer.purpose
      { s with live := s.live.filter fun other => other.handle ≠ timer.handle }).2 := by
  cases hpurpose : timer.purpose with
  | reconcile =>
    have hfired := ht.fired hmem (by simp [hpurpose])
    have hkeeps : Moves KeepsTimed (callback options .reconcile) := by
      refine keepsTimed_bind ?_ fun _ => keepsTimed_bind (keepsTimed_reconcile options) fun _ =>
        keepsTimed_scheduleReconcile
      intro s ht
      exact ht.mono id (fun _ => ⟨rfl, rfl, id⟩) (fun p hp => ⟨p, hp, rfl⟩) rfl
        (fun _ hmem => hmem) (fun _ _ _ _ hmem _ => .inl hmem) (fun _ _ harmed => harmed)
        fun _ harmed => by cases harmed
    exact hkeeps _ hfired
  | poll provider generation =>
    have hfired := ht.fired hmem (by simp [hpurpose])
    have hkeeps : Moves KeepsTimed (callback options (.poll provider generation)) := by
      refine keepsTimed_bind ?_ fun _ => keepsTimed_quietly (keepsTimed_poll options provider)
      intro s ht
      refine ht.mono id (fun _ => ⟨rfl, rfl, id⟩) (fun p hp => ⟨p, hp, rfl⟩) rfl
        (fun _ hmem => hmem) (fun _ _ _ _ hmem _ => .inl hmem) ?_ fun _ harmed => harmed
      intro other handle harmed
      have hdelete : (s.timers.delete provider).get other = some handle := harmed
      rw [Dict.get_delete] at hdelete
      split at hdelete
      · cases hdelete
      · exact hdelete
    exact hkeeps _ hfired
  | timeout controller =>
    refine ht.mono (fun p => if p.controller = controller then
      { p with aborted := true, timedOut := true } else p) ?_ ?_ rfl ?_ ?_
      (fun _ _ harmed => harmed) fun _ harmed => harmed
    · intro p
      split
      · exact ⟨rfl, rfl, fun _ => rfl⟩
      · exact ⟨rfl, rfl, id⟩
    · intro p' hp'
      obtain ⟨p, hp, rfl⟩ := List.mem_map.1 hp'
      exact ⟨p, hp, rfl⟩
    · exact fun other hother => (List.mem_filter.1 hother).1
    · intro p hp _ other hlive hhandle
      by_cases hsame : other.handle = timer.handle
      · -- the timer that fires is the one of this poll
        right
        have hown := ht.own p hp timer hmem (hsame.symm.trans hhandle)
        have hcontroller : p.controller = controller := by
          simpa using (hown.symm.trans hpurpose)
        rw [if_pos hcontroller]
      · left
        exact List.mem_filter.2 ⟨hlive, by simpa using hsame⟩

theorem keepsTimed_handle (event : Event) : Moves KeepsTimed (handle options event) := by
  cases event with
  | start => exact keepsTimed_start options
  | stop => exact keepsTimed_stop
  | reconcileDemand => exact keepsTimed_reconcile options
  | requestProbeLease providers ttlMs =>
    exact keepsTimed_bind (keepsTimed_requestProbeLease options providers ttlMs) fun _ =>
      keepsTimed_pure ()
  | leaseState provider =>
    exact keepsTimed_bind (keepsTimed_leaseState provider) fun _ => keepsTimed_pure ()
  | fire fired =>
    intro s ht
    change Timed (((get : Turn Scheduler) >>= fun s => _) s).2
    rw [bind_run, get_run]
    dsimp only
    cases hfind : s.live.find? (fun timer => timer.handle = fired) with
    | none => exact ht
    | some timer =>
      have hhandle : timer.handle = fired := by simpa using List.find?_some hfind
      subst hhandle
      exact ht.fires options (List.mem_of_find?_eq_some hfind)
  | settle controller settlement =>
    intro s ht
    change Timed (((get : Turn Scheduler) >>= fun s => _) s).2
    rw [bind_run, get_run]
    dsimp only
    cases hfind : s.polls.find? (fun p => p.controller = controller) with
    | none => exact ht
    | some p =>
      exact keepsTimed_settlePoll (ht.handle p (List.mem_of_find?_eq_some hfind)).1 settlement s ht

end keeps

/-- The states a scheduler reaches, whatever the turns and whatever they see. -/
inductive Turns (options : Options) : Scheduler → Prop where
  | initial : Turns options initial
  | turn {s : Scheduler} (event : Event) (looks : ℕ → Look) (before : Turns options s) :
      Turns options (turn options s event looks)

theorem Turns.timed {options : Options} (hr : Turns options s) : Timed s := by
  induction hr with
  | initial =>
    constructor
    case timers => exact fun _ _ harmed => by cases harmed
    case reconcileTimer => exact fun _ harmed => by cases harmed
    all_goals exact fun _ hmem => (List.not_mem_nil hmem).elim
  | turn event looks _ ih =>
    exact keepsTimed_handle options event _ (ih.same rfl rfl rfl rfl rfl)

/-- The state a turn starts from. -/
def Scheduler.sees (s : Scheduler) (looks : ℕ → Look) : Scheduler :=
  { s with looks := looks, looked := 0 }

/-- **A poll never rejects.** In every run of the scheduler a poll starts without throwing,
and while it waits its time is running or up. Whatever its adapter answered and whatever
the store says to its snapshot, it ends without throwing, and nothing is in flight for its
provider then, where the record of a failure is written. While the scheduler runs and
there is demand, the next poll is scheduled, if there is a snapshot in the store or the
poll was not aborted but by its time. -/
theorem quota_poll_resolves {options : Options} (hr : Turns options s) :
    (∀ provider looks, Readable looks → (poll options provider (s.sees looks)).1 = .ok ()) ∧
      ∀ p ∈ s.polls,
        (p.timedOut = true ∨ ∃ timer ∈ s.live, timer.handle = p.timeoutHandle ∧
          timer.purpose = .timeout p.controller) ∧
        ∀ settlement looks, Readable looks → settlement.failurePersisted = .ok () →
          (settlePoll p settlement (s.sees looks)).1 = .ok () ∧
          (settlePoll p settlement (s.sees looks)).2.inFlight.get p.provider = none ∧
          (Wanted (s.sees looks) p.provider →
            settlement.stored = true ∨ p.timedOut = true ∨ p.aborted = false →
            Scheduled (settlePoll p settlement (s.sees looks)).2 s.issued p.provider
              (settlement.delay (s.failureCount p.provider))) := by
  refine ⟨fun provider looks hread => poll_returns hread options provider, fun p hp => ⟨?_, ?_⟩⟩
  · refine (hr.timed.timed p hp).imp_right ?_
    rintro ⟨timer, hmem, hhandle⟩
    exact ⟨timer, hmem, hhandle, hr.timed.own p hp timer hmem hhandle⟩
  · intro settlement looks hread hstored
    exact settlePoll_schedules (s := s.sees looks) hread hstored (hr.timed.handle p hp).2

/-! A poll of a provider whose session has ended, and one that goes on. -/

section sample

/-- The first poll of a started scheduler. -/
def samplePoll : Poll := ⟨0, sampleProvider, 1, false, false, 0⟩

def sampleEnded : ℕ → Look := fun _ => ⟨0, .ok []⟩

theorem sampleStarted_turns : Turns sampleQuotaOptions (sampleRun [.start]) :=
  .turn .start sampleLooks .initial

/-- Where the session has ended, the scheduler runs on and does not schedule a poll. -/
theorem ended_session_unscheduled : ∃ looks s p, Readable looks ∧
    Turns sampleQuotaOptions s ∧ p ∈ s.polls ∧
      (settlePoll p sampleSnapshot (s.sees looks)).2.running = true ∧
      ∀ handle delayMs, ¬ Scheduled (settlePoll p sampleSnapshot (s.sees looks)).2 handle
        p.provider delayMs := by
  refine ⟨sampleEnded, sampleRun [.start], samplePoll, fun _ => ⟨_, rfl⟩, sampleStarted_turns,
    by decide +kernel, by decide +kernel, ?_⟩
  rintro handle delayMs ⟨harmed, -⟩
  have hnone : (settlePoll samplePoll sampleSnapshot
      ((sampleRun [.start]).sees sampleEnded)).2.timers.get samplePoll.provider = none := by
    decide +kernel
  rw [hnone] at harmed
  cases harmed

theorem quota_poll_resolves_sample :
    Scheduled (settlePoll samplePoll sampleSnapshot ((sampleRun [.start]).sees sampleLooks)).2 3
      sampleProvider 300000 := by
  have hread : Readable sampleLooks := fun _ => ⟨_, rfl⟩
  have hp : samplePoll ∈ (sampleRun [.start]).polls := by decide +kernel
  have hleases : ∀ n, ((sampleRun [.start]).sees sampleLooks).leasesAfter n = Dict.empty := by
    intro n
    induction n with
    | zero => rfl
    | succ n ih =>
      show Dict.filter _ _ = Dict.empty
      rw [ih]
      rfl
  have hwanted : Wanted ((sampleRun [.start]).sees sampleLooks) samplePoll.provider := by
    refine ⟨by decide +kernel, fun n => ?_⟩
    unfold Scheduler.demandAfter
    rw [hleases]
    exact (by decide : sampleProvider ∈ demand (sampleLooks 0) Dict.empty)
  have hissued : (sampleRun [.start]).issued = 3 := by decide +kernel
  have hresolved := ((quota_poll_resolves sampleStarted_turns).2 samplePoll hp).2 sampleSnapshot
    sampleLooks hread rfl
  exact hissued ▸ hresolved.2.2 hwanted (.inl rfl)

end sample

end Autopilot.QuotaScheduler
