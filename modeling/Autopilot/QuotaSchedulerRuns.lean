/-
One poll and one timer for a provider.

In a run of the scheduler that is not restarted while polls are out, a provider has
at most one poll that has not come to its end and at most one timer, and it does not
have both. What goes wrong after a restart is that the scheduler no longer knows the
polls it let go of: it starts another one beside such a poll, the poll clears what
the other one put in flight, and its result arms a timer. So the condition is that no
turn of the loop finds demand for the provider of a poll that was let go of.
-/
import Autopilot.QuotaScheduler

set_option autoImplicit false

namespace Autopilot.QuotaScheduler

open Prog

/-! ## What a function may leave as it is -/

/-- Nothing moved of the timers and the polls. -/
structure Still (s s' : Scheduler) : Prop where
  timers : s'.timers = s.timers
  inFlight : s'.inFlight = s.inFlight
  running : s'.running = s.running
  live : s'.live = s.live
  polls : s'.polls = s.polls
  issued : s'.issued = s.issued
  stops : s'.stops = s.stops

/-- Nor did the outside, and no lease came. -/
structure Calm (s s' : Scheduler) : Prop extends Still s s' where
  looks : s'.looks = s.looks
  leases : s'.leases.entries ⊆ s.leases.entries

theorem Still.trans {s s' s'' : Scheduler} (h : Still s s') (h' : Still s' s'') : Still s s'' :=
  ⟨h'.timers.trans h.timers, h'.inFlight.trans h.inFlight, h'.running.trans h.running,
    h'.live.trans h.live, h'.polls.trans h.polls, h'.issued.trans h.issued,
    h'.stops.trans h.stops⟩

namespace Calm

theorem refl (s : Scheduler) : Calm s s :=
  ⟨⟨rfl, rfl, rfl, rfl, rfl, rfl, rfl⟩, rfl, List.Subset.refl _⟩

theorem trans {s s' s'' : Scheduler} (h : Calm s s') (h' : Calm s' s'') : Calm s s'' :=
  ⟨h.toStill.trans h'.toStill, h'.looks.trans h.looks, List.Subset.trans h'.leases h.leases⟩

end Calm

/-- There is no more demand where leases went. -/
theorem demand_mono {look : Look} {leases leases' : Dict Provider ℕ} {provider : Provider}
    (hsub : leases'.entries ⊆ leases.entries) (h : provider ∈ demand look leases') :
    provider ∈ demand look leases := by
  unfold demand at h ⊢
  cases hsessions : look.sessions with
  | error error =>
    rw [hsessions] at h
    cases h
  | ok sessions =>
    rw [hsessions] at h
    simp only [List.mem_eraseDups, List.mem_append] at h ⊢
    refine h.imp id ?_
    intro hlease
    obtain ⟨lease, hmem, rfl⟩ := List.mem_map.1 hlease
    have hkept := List.mem_filter.1 hmem
    exact List.mem_map_of_mem (List.mem_filter.2 ⟨hsub hkept.1, hkept.2⟩)

/-- What a look at the demand comes to: it throws, or it returns the demand. -/
theorem activeProviders_cases (s : Scheduler) :
    (∃ error s', activeProviders s = (.error (.thrown error), s') ∧ Calm s s') ∨
    ∃ s', activeProviders s = (.ok (demand (s.looks s.looked) s.leases), s') ∧ Calm s s' := by
  unfold activeProviders
  dsimp only
  cases (s.looks s.looked).sessions with
  | error error =>
    exact .inl ⟨error, _, rfl, ⟨⟨rfl, rfl, rfl, rfl, rfl, rfl, rfl⟩, rfl, List.Subset.refl _⟩⟩
  | ok sessions =>
    have hfewer : (s.leases.filter fun lease => (s.looks s.looked).now < lease.2).entries
        ⊆ s.leases.entries := fun _ h => (List.mem_filter.1 h).1
    exact .inr ⟨_, rfl, ⟨⟨rfl, rfl, rfl, rfl, rfl, rfl, rfl⟩, rfl, hfewer⟩⟩

/-- A look at the demand in front of a program. -/
theorem activeProviders_bind_cases {α : Type} (s : Scheduler) (rest : List Provider → Turn α) :
    (∃ error s', Calm s s' ∧ (activeProviders >>= rest) s = (.error (.thrown error), s')) ∨
    ∃ s', Calm s s' ∧
      (activeProviders >>= rest) s = rest (demand (s.looks s.looked) s.leases) s' := by
  rcases activeProviders_cases s with ⟨error, s', hrun, hcalm⟩ | ⟨s', hrun, hcalm⟩
  · exact .inl ⟨error, s', hcalm, bind_run_error hrun⟩
  · exact .inr ⟨s', hcalm, bind_run_ok hrun⟩

/-- **What `poll` does** until it waits: nothing, or it starts a poll. -/
theorem poll_cases (options : Options) (provider : Provider) (s : Scheduler) :
    Calm s (poll options provider s).2 ∨
      ∃ s', Calm s s' ∧ s.running = true ∧ s.inFlight.get provider = none ∧
        (poll options provider s).2 = s'.begin options provider := by
  have hrun : poll options provider s = if s.running then
      (activeProviders >>= fun active => (get : Turn Scheduler) >>= fun s =>
        if provider ∈ active ∧ s.inFlight.get provider = none ∧ provider ∈ options.adapters then
          (modify fun s => s.begin options provider : Turn Unit)
        else pure ()) s else (.ok (), s) := by
    unfold poll
    rw [bind_run, get_run]
    dsimp only
    cases s.running with
    | true => rfl
    | false => rfl
  rw [hrun]
  by_cases hrunning : s.running = true
  · rw [if_pos hrunning]
    rcases activeProviders_bind_cases s (fun active => (get : Turn Scheduler) >>= fun s =>
        if provider ∈ active ∧ s.inFlight.get provider = none ∧ provider ∈ options.adapters then
          (modify fun s => s.begin options provider : Turn Unit)
        else pure ()) with ⟨error, s', hcalm, hact⟩ | ⟨s', hcalm, hact⟩
    · rw [hact]
      exact .inl hcalm
    · rw [hact, bind_run, get_run]
      dsimp only
      split
      · rename_i hpoll
        exact .inr ⟨s', hcalm, hrunning, hcalm.inFlight ▸ hpoll.2.1, rfl⟩
      · exact .inl hcalm
  · rw [if_neg hrunning]
    exact .inl (Calm.refl s)

/-- **What `schedule` does**: nothing, or it arms a timer. -/
theorem schedule_cases (provider : Provider) (generation delayMs : ℕ) (s : Scheduler) :
    Calm s (schedule provider generation delayMs s).2 ∨
      ∃ s', Calm s s' ∧ s.running = true ∧
        schedule provider generation delayMs s = (.ok (), s'.arm provider generation delayMs) := by
  have hrun : schedule provider generation delayMs s = if s.running then
      (activeProviders >>= fun active => if provider ∈ active then
        (modify fun s => s.arm provider generation delayMs : Turn Unit) else pure ()) s
      else (.ok (), s) := by
    unfold schedule
    rw [bind_run, get_run]
    dsimp only
    cases s.running with
    | true => rfl
    | false => rfl
  rw [hrun]
  by_cases hrunning : s.running = true
  · rw [if_pos hrunning]
    rcases activeProviders_bind_cases s (fun active => if provider ∈ active then
        (modify fun s => s.arm provider generation delayMs : Turn Unit) else pure ()) with
      ⟨error, s', hcalm, hact⟩ | ⟨s', hcalm, hact⟩
    · rw [hact]
      exact .inl hcalm
    · rw [hact]
      split
      · exact .inr ⟨s', hcalm, hrunning, rfl⟩
      · exact .inl hcalm
  · rw [if_neg hrunning]
    exact .inl (Calm.refl s)

/-- Persisting in front of a program. -/
theorem persist_bind_cases {α : Type} (stored : Except JsError Unit) (rest : Unit → Turn α)
    (s : Scheduler) :
    (∃ error, (persist stored >>= rest) s = (.error (.thrown error), s)) ∨
      (persist stored >>= rest) s = rest () s := by
  cases stored with
  | ok u => exact .inr rfl
  | error error => exact .inl ⟨error, rfl⟩

theorem noteFailure_bind {α : Type} (provider : Provider) (rest : ℕ → Turn α) (s : Scheduler) :
    ∃ count s', Calm s s' ∧ (noteFailure provider >>= rest) s = rest count s' :=
  ⟨(s.failures.get provider).getD 0 + 1,
    { s with failures := s.failures.set provider ((s.failures.get provider).getD 0 + 1) },
    ⟨⟨rfl, rfl, rfl, rfl, rfl, rfl, rfl⟩, rfl, List.Subset.refl _⟩, rfl⟩

/-- **What a poll does with a snapshot**: it arms no timer, or it arms one and
returns, where it was still asked for. -/
theorem takeSnapshot_cases (p : Poll) (settlement : Settlement) (failed : Bool) (s : Scheduler) :
    Calm s (takeSnapshot p settlement failed s).2 ∨
      ∃ s' delayMs, Calm s s' ∧ s.running = true ∧
        p.provider ∈ demand (s.looks s.looked) s.leases ∧
        takeSnapshot p settlement failed s
          = (.ok (), s'.arm p.provider p.generation delayMs) := by
  by_cases hrunning : s.running = true
  · let store : Turn Unit := persist settlement.persisted >>= fun _ =>
      if failed then noteFailure p.provider >>= fun failureCount =>
        schedule p.provider p.generation (backoff failureCount)
      else (modify fun s => { s with failures := s.failures.delete p.provider } : Turn Unit) >>=
        fun _ => schedule p.provider p.generation successIntervalMs
    have hrun : takeSnapshot p settlement failed s = (activeProviders >>= fun active =>
        if p.provider ∈ active then store else pure ()) s := by
      unfold takeSnapshot
      rw [bind_run, get_run]
      dsimp only
      rw [if_pos hrunning]
    -- what is stored is followed by a call of `schedule`
    have hstore : ∀ s', Calm s' (store s').2 ∨ ∃ s'' delayMs, Calm s' s'' ∧
        store s' = (.ok (), s''.arm p.provider p.generation delayMs) := by
      intro s'
      have hsched : ∀ s₁ wait, Calm s' s₁ →
          Calm s' (schedule p.provider p.generation wait s₁).2 ∨ ∃ s'' delayMs, Calm s' s'' ∧
            schedule p.provider p.generation wait s₁
              = (.ok (), s''.arm p.provider p.generation delayMs) := by
        intro s₁ wait hcalm
        rcases schedule_cases p.provider p.generation wait s₁ with h | ⟨s₂, h, -, harm⟩
        · exact .inl (hcalm.trans h)
        · exact .inr ⟨s₂, wait, hcalm.trans h, harm⟩
      rcases persist_bind_cases settlement.persisted (fun _ =>
          if failed then noteFailure p.provider >>= fun failureCount =>
            schedule p.provider p.generation (backoff failureCount)
          else (modify fun s => { s with failures := s.failures.delete p.provider } : Turn Unit) >>=
            fun _ => schedule p.provider p.generation successIntervalMs) s' with ⟨error, h⟩ | h
      · left
        change Calm s' ((persist settlement.persisted >>= _) s').2
        rw [h]
        exact Calm.refl s'
      · change Calm s' ((persist settlement.persisted >>= _) s').2 ∨ ∃ s'' delayMs, Calm s' s'' ∧
          (persist settlement.persisted >>= _) s'
            = (.ok (), s''.arm p.provider p.generation delayMs)
        rw [h]
        cases failed with
        | true =>
          rw [if_pos rfl]
          obtain ⟨count, s₁, hcalm, hnote⟩ := noteFailure_bind p.provider
            (fun count => schedule p.provider p.generation (backoff count)) s'
          rw [hnote]
          exact hsched s₁ _ hcalm
        | false =>
          rw [if_neg (by decide), bind_run, modify_run]
          dsimp only
          exact hsched _ _ ⟨⟨rfl, rfl, rfl, rfl, rfl, rfl, rfl⟩, rfl, List.Subset.refl _⟩
    rw [hrun]
    rcases activeProviders_bind_cases s (fun active =>
        if p.provider ∈ active then store else pure ()) with
      ⟨error, s', hcalm, hact⟩ | ⟨s', hcalm, hact⟩
    · rw [hact]
      exact .inl hcalm
    · rw [hact]
      by_cases hdemand : p.provider ∈ demand (s.looks s.looked) s.leases
      · rw [if_pos hdemand]
        rcases hstore s' with h | ⟨s'', delayMs, h, harm⟩
        · exact .inl (hcalm.trans h)
        · exact .inr ⟨s'', delayMs, hcalm.trans h, hrunning, hdemand, harm⟩
      · rw [if_neg hdemand]
        exact .inl hcalm
  · left
    unfold takeSnapshot
    rw [bind_run, get_run]
    dsimp only
    rw [if_neg hrunning]
    exact Calm.refl s

/-- **What the handler of a poll does**: it arms no timer, or it arms one for a poll
that was still asked for and was not aborted, or whose time was up. -/
theorem takeFailure_cases (p : Poll) (settlement : Settlement) (s : Scheduler) :
    Calm s (takeFailure p settlement s).2 ∨
      ∃ s' delayMs, Calm s s' ∧ s.running = true ∧
        p.provider ∈ demand (s.looks s.looked) s.leases ∧
        (p.timedOut = true ∨ p.aborted = false) ∧
        (takeFailure p settlement s).2 = s'.arm p.provider p.generation delayMs := by
  by_cases hrunning : s.running = true
  · have hrun : takeFailure p settlement s = (activeProviders >>= fun active =>
        if p.provider ∈ active ∧ (p.timedOut ∨ ¬ p.aborted) then
          persist settlement.failurePersisted >>= fun _ =>
            noteFailure p.provider >>= fun failureCount =>
              schedule p.provider p.generation (backoff failureCount)
        else pure ()) s := by
      unfold takeFailure
      rw [bind_run, get_run]
      dsimp only
      rw [if_pos hrunning]
    rw [hrun]
    rcases activeProviders_bind_cases s (fun active =>
        if p.provider ∈ active ∧ (p.timedOut ∨ ¬ p.aborted) then
          persist settlement.failurePersisted >>= fun _ =>
            noteFailure p.provider >>= fun failureCount =>
              schedule p.provider p.generation (backoff failureCount)
        else pure ()) with ⟨error, s', hcalm, hact⟩ | ⟨s', hcalm, hact⟩
    · rw [hact]
      exact .inl hcalm
    · rw [hact]
      by_cases hfail : p.provider ∈ demand (s.looks s.looked) s.leases ∧
          (p.timedOut ∨ ¬ p.aborted)
      · rw [if_pos hfail]
        rcases persist_bind_cases settlement.failurePersisted (fun _ =>
            noteFailure p.provider >>= fun failureCount =>
              schedule p.provider p.generation (backoff failureCount)) s' with ⟨error, h⟩ | h
        · rw [h]
          exact .inl hcalm
        · rw [h]
          obtain ⟨count, s₁, hcalm', hnote⟩ := noteFailure_bind p.provider
            (fun count => schedule p.provider p.generation (backoff count)) s'
          rw [hnote]
          rcases schedule_cases p.provider p.generation (backoff count) s₁ with
            h | ⟨s₂, h, -, harm⟩
          · exact .inl ((hcalm.trans hcalm').trans h)
          · exact .inr ⟨s₂, _, (hcalm.trans hcalm').trans h, hrunning, hfail.1,
              by simpa using hfail.2, by rw [harm]⟩
      · rw [if_neg hfail]
        exact .inl hcalm
  · left
    unfold takeFailure
    rw [bind_run, get_run]
    dsimp only
    rw [if_neg hrunning]
    exact Calm.refl s

/-- **How a poll comes to its end**: without a timer for the next one, or with one. It
arms one only where it was still asked for, because it has a snapshot, because its
time was up or because nobody aborted it. -/
theorem settlePoll_cases (p : Poll) (settlement : Settlement) (s : Scheduler) :
    (∃ s', Calm s s' ∧ (settlePoll p settlement s).2 = s'.finish p) ∨
      ∃ s' delayMs, Calm s s' ∧ s.running = true ∧
        ((settlement.fetched.toBool = true ∧
            p.provider ∈ demand (s.looks s.looked) s.leases) ∨
          (∃ k, p.provider ∈ demand (s.looks k) s.leases) ∧
            (p.timedOut = true ∨ p.aborted = false)) ∧
        (settlePoll p settlement s).2 = (s'.arm p.provider p.generation delayMs).finish p := by
  have hfailure : ∀ s₁, Calm s s₁ →
      (∃ s', Calm s s' ∧ (takeFailure p settlement s₁).2 = s') ∨
      ∃ s' delayMs, Calm s s' ∧ s.running = true ∧
        ((∃ k, p.provider ∈ demand (s.looks k) s.leases) ∧
          (p.timedOut = true ∨ p.aborted = false)) ∧
        (takeFailure p settlement s₁).2 = s'.arm p.provider p.generation delayMs := by
    intro s₁ hcalm
    rcases takeFailure_cases p settlement s₁ with h | ⟨s', delayMs, h, hrun, hdemand, hwhy, harm⟩
    · exact .inl ⟨_, hcalm.trans h, rfl⟩
    · refine .inr ⟨s', delayMs, hcalm.trans h, hcalm.running ▸ hrun, ⟨⟨s₁.looked, ?_⟩, hwhy⟩, harm⟩
      rw [hcalm.looks] at hdemand
      exact demand_mono hcalm.leases hdemand
  unfold settlePoll finallyDo
  dsimp only
  cases hfetched : settlement.fetched with
  | error error =>
    dsimp only
    rw [tryCatch_run, throw_run]
    dsimp only
    rcases hfailure s (Calm.refl s) with ⟨s', hcalm, h⟩ | ⟨s', delayMs, hcalm, hrun, hwhy, h⟩
    · exact .inl ⟨s', hcalm, by rw [h]⟩
    · exact .inr ⟨s', delayMs, hcalm, hrun, .inr hwhy, by rw [h]⟩
  | ok failed =>
    dsimp only
    rcases takeSnapshot_cases p settlement failed s with
      hcalm | ⟨s', delayMs, hcalm, hrun, hdemand, h⟩
    · rcases hsnap : takeSnapshot p settlement failed s with ⟨(error | _) | u, s₁⟩
      · rw [hsnap] at hcalm
        rw [tryCatch_run_thrown hsnap]
        rcases hfailure s₁ hcalm with ⟨s', hcalm, h⟩ | ⟨s', delayMs, hcalm, hrun, hwhy, h⟩
        · exact .inl ⟨s', hcalm, by rw [h]⟩
        · exact .inr ⟨s', delayMs, hcalm, hrun, .inr hwhy, by rw [h]⟩
      · rw [hsnap] at hcalm
        rw [tryCatch_run_crashed hsnap]
        exact .inl ⟨s₁, hcalm, rfl⟩
      · rw [hsnap] at hcalm
        rw [tryCatch_run_ok hsnap]
        exact .inl ⟨s₁, hcalm, rfl⟩
    · rw [tryCatch_run_ok h]
      exact .inr ⟨s', delayMs, hcalm, hrun, .inl ⟨rfl, hdemand⟩, rfl⟩

/-! ## The invariant -/

/-- The scheduler knows its timers, and of its polls those it has started since it was
last stopped. No provider has two polls, or a poll and a timer. -/
structure Coherent (s : Scheduler) : Prop where
  armed : ∀ timer ∈ s.live, ∀ provider generation, timer.purpose = .poll provider generation →
    s.timers.get provider = some timer.handle ∧ generation = s.stops ∧ s.running = true
  handles : (s.live.map Timer.handle).Nodup
  issued : ∀ timer ∈ s.live, timer.handle < s.issued
  timeouts : ∀ p ∈ s.polls, p.timeoutHandle < s.issued
  generations : ∀ p ∈ s.polls, p.generation ≤ s.stops
  current : ∀ p ∈ s.polls, p.generation = s.stops →
    s.inFlight.get p.provider = some p.controller ∧ s.running = true
  aborted : ∀ p ∈ s.polls, p.generation ≠ s.stops → p.aborted = true
  once : (s.polls.map Poll.provider).Nodup
  apart : ∀ p ∈ s.polls, s.timers.get p.provider = none

/-- No poll the scheduler has let go of is for one of the providers. -/
def NoneLate (s : Scheduler) (active : List Provider) : Prop :=
  ∀ p ∈ s.polls, p.generation ≠ s.stops → p.provider ∉ active

theorem NoneLate.congr {s s' : Scheduler} {active : List Provider} (h : NoneLate s active)
    (hpolls : s'.polls = s.polls) (hstops : s'.stops = s.stops) : NoneLate s' active := by
  intro p hp hgen
  rw [hpolls] at hp
  rw [hstops] at hgen
  exact h p hp hgen

namespace Coherent

variable {s s' : Scheduler}

theorem still (h : Coherent s) (hcalm : Still s s') : Coherent s' where
  armed := by
    rw [hcalm.live, hcalm.timers, hcalm.stops, hcalm.running]
    exact h.armed
  handles := hcalm.live ▸ h.handles
  issued := by
    rw [hcalm.live, hcalm.issued]
    exact h.issued
  timeouts := by
    rw [hcalm.polls, hcalm.issued]
    exact h.timeouts
  generations := by
    rw [hcalm.polls, hcalm.stops]
    exact h.generations
  current := by
    rw [hcalm.polls, hcalm.stops, hcalm.inFlight, hcalm.running]
    exact h.current
  aborted := by
    rw [hcalm.polls, hcalm.stops]
    exact h.aborted
  once := hcalm.polls ▸ h.once
  apart := by
    rw [hcalm.polls, hcalm.timers]
    exact h.apart

theorem calm (h : Coherent s) (hcalm : Calm s s') : Coherent s' := h.still hcalm.toStill

/-- Timers of the clock may go. -/
theorem clear (h : Coherent s) (keep : Timer → Bool) :
    Coherent { s with live := s.live.filter keep } :=
  { h with
    armed := fun timer ht => h.armed timer (List.mem_filter.1 ht).1
    handles := h.handles.sublist (List.filter_sublist.map _)
    issued := fun timer ht => h.issued timer (List.mem_filter.1 ht).1 }

/-- A timer comes under a handle that was not given out. -/
theorem handles_concat (h : Coherent s) {timer : Timer} (hnew : s.issued ≤ timer.handle) :
    ((s.live ++ [timer]).map Timer.handle).Nodup := by
  rw [List.map_append, List.nodup_append]
  refine ⟨h.handles, by simp, ?_⟩
  intro handle hhandle other hother
  obtain ⟨old, hold, rfl⟩ := List.mem_map.1 hhandle
  rw [List.map_singleton, List.mem_singleton] at hother
  have hissued := h.issued old hold
  omega

/-- Timers that are for no poll may come. -/
theorem add (h : Coherent s) (purpose : Purpose) (delayMs : ℕ)
    (hpurpose : ∀ provider generation, purpose ≠ .poll provider generation) (more : ℕ) :
    Coherent { s with
      live := s.live ++ [⟨s.issued + more, purpose, delayMs⟩], issued := s.issued + more + 1 } where
  armed timer ht provider generation hp := by
    rcases List.mem_append.1 ht with ht | ht
    · exact h.armed timer ht provider generation hp
    · rw [List.mem_singleton] at ht
      rw [ht] at hp
      exact absurd hp (hpurpose provider generation)
  handles := h.handles_concat (Nat.le_add_right _ _)
  issued timer ht := by
    rcases List.mem_append.1 ht with ht | ht
    · have := h.issued timer ht
      dsimp only
      omega
    · rw [List.mem_singleton] at ht
      rw [ht]
      dsimp only
      omega
  timeouts p hp := by
    have := h.timeouts p hp
    dsimp only
    omega
  generations := h.generations
  current := h.current
  aborted := h.aborted
  once := h.once
  apart := h.apart

/-- Polls may be aborted. -/
theorem abort (h : Coherent s) (f : Poll → Poll)
    (hf : ∀ p, (f p).provider = p.provider ∧ (f p).controller = p.controller ∧
      (f p).timeoutHandle = p.timeoutHandle ∧ (f p).generation = p.generation ∧
      (p.aborted = true → (f p).aborted = true)) :
    Coherent { s with polls := s.polls.map f } :=
  { h with
    timeouts := by
      intro q hq
      obtain ⟨p, hp, rfl⟩ := List.mem_map.1 hq
      rw [(hf p).2.2.1]
      exact h.timeouts p hp
    generations := by
      intro q hq
      obtain ⟨p, hp, rfl⟩ := List.mem_map.1 hq
      rw [(hf p).2.2.2.1]
      exact h.generations p hp
    current := by
      intro q hq hgen
      obtain ⟨p, hp, rfl⟩ := List.mem_map.1 hq
      rw [(hf p).1, (hf p).2.1]
      rw [(hf p).2.2.2.1] at hgen
      exact h.current p hp hgen
    aborted := by
      intro q hq hgen
      obtain ⟨p, hp, rfl⟩ := List.mem_map.1 hq
      rw [(hf p).2.2.2.1] at hgen
      exact (hf p).2.2.2.2 (h.aborted p hp hgen)
    once := by
      have hmap : (s.polls.map f).map Poll.provider = s.polls.map Poll.provider := by
        rw [List.map_map]
        exact List.map_congr_left fun p _ => (hf p).1
      rw [hmap]
      exact h.once
    apart := by
      intro q hq
      obtain ⟨p, hp, rfl⟩ := List.mem_map.1 hq
      rw [(hf p).1]
      exact h.apart p hp }

/-- Two polls of one provider are one poll. -/
theorem poll_eq (h : Coherent s) {p q : Poll} (hp : p ∈ s.polls) (hq : q ∈ s.polls)
    (hprovider : p.provider = q.provider) : p = q :=
  List.inj_on_of_nodup_map h.once hp hq hprovider

/-- A poll is started for a provider that has neither a poll nor a timer. -/
theorem begin (h : Coherent s) (options : Options) {provider : Provider}
    (hrunning : s.running = true) (hpolls : ∀ p ∈ s.polls, p.provider ≠ provider)
    (htimers : s.timers.get provider = none) : Coherent (s.begin options provider) where
  armed := (h.add (.timeout s.issued) options.pollTimeoutMs
    (fun _ _ => Purpose.noConfusion) 1).armed
  handles := (h.add (.timeout s.issued) options.pollTimeoutMs
    (fun _ _ => Purpose.noConfusion) 1).handles
  issued := (h.add (.timeout s.issued) options.pollTimeoutMs
    (fun _ _ => Purpose.noConfusion) 1).issued
  timeouts p hp := by
    change p.timeoutHandle < s.issued + 2
    rcases List.mem_append.1 hp with hp | hp
    · have := h.timeouts p hp
      omega
    · rw [List.mem_singleton.1 hp]
      dsimp only
      omega
  generations p hp := by
    rcases List.mem_append.1 hp with hp | hp
    · exact h.generations p hp
    · rw [List.mem_singleton.1 hp]
      exact le_rfl
  current p hp hgen := by
    change (s.inFlight.set provider s.issued).get p.provider = some p.controller ∧ _
    rw [Dict.get_set]
    rcases List.mem_append.1 hp with hp | hp
    · rw [if_neg (hpolls p hp)]
      exact h.current p hp hgen
    · rw [List.mem_singleton.1 hp]
      exact ⟨if_pos rfl, hrunning⟩
  aborted p hp hgen := by
    rcases List.mem_append.1 hp with hp | hp
    · exact h.aborted p hp hgen
    · rw [List.mem_singleton.1 hp] at hgen
      exact absurd rfl hgen
  once := by
    change ((s.polls ++ [_]).map Poll.provider).Nodup
    rw [List.map_append, List.nodup_append]
    refine ⟨h.once, by simp, ?_⟩
    intro other hother new hnew
    obtain ⟨p, hp, rfl⟩ := List.mem_map.1 hother
    rw [List.map_singleton, List.mem_singleton] at hnew
    rw [hnew]
    exact hpolls p hp
  apart p hp := by
    rcases List.mem_append.1 hp with hp | hp
    · exact h.apart p hp
    · rw [List.mem_singleton.1 hp]
      exact htimers

/-- A timer is armed for a provider that has neither a poll nor a timer. -/
theorem arm (h : Coherent s) {provider : Provider} {generation : ℕ} (delayMs : ℕ)
    (hrunning : s.running = true) (hgen : generation = s.stops)
    (hpolls : ∀ p ∈ s.polls, p.provider ≠ provider) (htimers : s.timers.get provider = none) :
    Coherent (s.arm provider generation delayMs) where
  armed timer ht provider' generation' hp := by
    change (s.timers.set provider s.issued).get provider' = _ ∧ _
    rw [Dict.get_set]
    rcases List.mem_append.1 ht with ht | ht
    · have harmed := h.armed timer ht provider' generation' hp
      have hne : provider' ≠ provider := by
        rintro rfl
        rw [htimers] at harmed
        cases harmed.1
      rw [if_neg hne]
      exact harmed
    · rw [List.mem_singleton] at ht
      rw [ht] at hp ⊢
      obtain ⟨rfl, rfl⟩ := Purpose.poll.inj hp
      exact ⟨if_pos rfl, hgen, hrunning⟩
  handles := h.handles_concat (le_refl _)
  issued timer ht := by
    change timer.handle < s.issued + 1
    rcases List.mem_append.1 ht with ht | ht
    · have := h.issued timer ht
      omega
    · rw [List.mem_singleton.1 ht]
      dsimp only
      omega
  timeouts p hp := by
    have := h.timeouts p hp
    change p.timeoutHandle < s.issued + 1
    omega
  generations := h.generations
  current := h.current
  aborted := h.aborted
  once := h.once
  apart p hp := by
    change (s.timers.set provider s.issued).get p.provider = none
    rw [Dict.get_set, if_neg (hpolls p hp)]
    exact h.apart p hp

/-- A poll comes to its end. -/
theorem finish (h : Coherent s) {p : Poll} (hp : p ∈ s.polls) : Coherent (s.finish p) :=
  { h.clear fun timer => timer.handle ≠ p.timeoutHandle with
    timeouts := fun q hq => h.timeouts q (List.mem_filter.1 hq).1
    generations := fun q hq => h.generations q (List.mem_filter.1 hq).1
    current := by
      intro q hq hgen
      obtain ⟨hq, hother⟩ := List.mem_filter.1 hq
      have hne : q.provider ≠ p.provider := by
        intro heq
        rw [h.poll_eq hq hp heq] at hother
        simp at hother
      change (s.inFlight.delete p.provider).get q.provider = _ ∧ _
      rw [Dict.get_delete, if_neg hne]
      exact h.current q hq hgen
    aborted := fun q hq => h.aborted q (List.mem_filter.1 hq).1
    once := h.once.sublist (List.filter_sublist.map _)
    apart := fun q hq => h.apart q (List.mem_filter.1 hq).1 }

/-- Of the provider of a poll that has come to its end there is no poll left. -/
theorem finish_polls (h : Coherent s) {p : Poll} (hp : p ∈ s.polls) :
    ∀ q ∈ (s.finish p).polls, q.provider ≠ p.provider := by
  intro q hq heq
  obtain ⟨hq, hother⟩ := List.mem_filter.1 hq
  rw [h.poll_eq hq hp heq] at hother
  simp at hother

end Coherent

/-! ## What the functions preserve -/

section functions

variable (options : Options)

/-- A poll of a provider nobody polls for and no timer is there for. -/
theorem Coherent.poll {s : Scheduler} (h : Coherent s) {provider : Provider}
    (hlate : ∀ p ∈ s.polls, p.generation ≠ s.stops → p.provider ≠ provider)
    (htimers : s.timers.get provider = none) :
    Coherent (QuotaScheduler.poll options provider s).2 ∧
      ∀ active, NoneLate s active → NoneLate (QuotaScheduler.poll options provider s).2 active := by
  rcases poll_cases options provider s with hcalm | ⟨s', hcalm, hrunning, hflight, hbegin⟩
  · exact ⟨h.calm hcalm, fun active hl => hl.congr hcalm.polls hcalm.stops⟩
  · have hpolls : ∀ p ∈ s'.polls, p.provider ≠ provider := by
      rw [hcalm.polls]
      rintro p hp rfl
      -- a poll of this generation would be in flight
      by_cases hgen : p.generation = s.stops
      · have hcurrent := (h.current p hp hgen).1
        rw [hflight] at hcurrent
        cases hcurrent
      · exact hlate p hp hgen rfl
    rw [hbegin]
    refine ⟨(h.calm hcalm).begin options (hcalm.running ▸ hrunning) hpolls
      (hcalm.timers ▸ htimers), ?_⟩
    intro active hl p hp hgen
    rcases List.mem_append.1 hp with hp | hp
    · exact (hl.congr hcalm.polls hcalm.stops) p hp hgen
    · rw [List.mem_singleton.1 hp] at hgen
      exact absurd rfl hgen

theorem Coherent.pollAll {s : Scheduler} (h : Coherent s) {active : List Provider}
    (hlate : NoneLate s active) : Coherent (QuotaScheduler.pollAll options active s).2 := by
  induction active generalizing s with
  | nil => exact h
  | cons provider active ih =>
    have hrest : NoneLate s active := fun p hp hgen hmem =>
      hlate p hp hgen (List.mem_cons_of_mem _ hmem)
    have hrun : QuotaScheduler.pollAll options (provider :: active) s
        = QuotaScheduler.pollAll options active
            (if s.timers.get provider = none ∧ s.inFlight.get provider = none then
              (QuotaScheduler.poll options provider s).2 else s) := by
      rw [QuotaScheduler.pollAll, bind_run, get_run]
      dsimp only
      split
      · rfl
      · rfl
    rw [hrun]
    split
    · rename_i hfree
      obtain ⟨hpoll, hkeeps⟩ := h.poll options
        (fun p hp hgen heq => hlate p hp hgen (heq ▸ List.mem_cons_self ..)) hfree.1
      exact ih hpoll (hkeeps active hrest)
    · exact ih h hrest

/-- Clearing the timers without demand keeps what is known of the others. -/
theorem Coherent.dropOthers {s : Scheduler} (h : Coherent s) (active : List Provider) :
    Coherent (s.dropOthers active) := by
  have hcleared := h.clear fun timer =>
    timer.handle ∉ (s.timers.filter fun entry => entry.1 ∉ active).entries.map Prod.snd
  refine { hcleared with armed := ?_, apart := ?_ }
  · intro timer ht provider generation hp
    obtain ⟨ht, hkept⟩ := List.mem_filter.1 ht
    obtain ⟨hget, hgen, hrunning⟩ := h.armed timer ht provider generation hp
    refine ⟨?_, hgen, hrunning⟩
    change (s.timers.filter fun entry => entry.1 ∈ active).get provider = _
    rw [Dict.get_filter, hget]
    by_cases hactive : provider ∈ active
    · simp [hactive]
    · -- the timer of another provider was cleared
      rw [decide_eq_true_eq] at hkept
      refine absurd (List.mem_map.2 ⟨(provider, timer.handle), ?_, rfl⟩) hkept
      exact List.mem_filter.2 ⟨Dict.mem_iff.2 hget, by simpa using hactive⟩
  · intro p hp
    change (s.timers.filter fun entry => entry.1 ∈ active).get p.provider = none
    rw [Dict.get_filter, h.apart p hp]
    rfl

/-- **Reconciling.** -/
theorem Coherent.reconcile {s : Scheduler} (h : Coherent s)
    (hlate : s.running = true → NoneLate s (demand (s.looks s.looked) s.leases)) :
    Coherent (QuotaScheduler.reconcile options s).2 := by
  by_cases hrunning : s.running = true
  · have hrun : QuotaScheduler.reconcile options s = (activeProviders >>= fun active =>
        (modify fun s => (s.abortOthers active).dropOthers active : Turn Unit) >>= fun _ =>
          QuotaScheduler.pollAll options active) s := by
      unfold QuotaScheduler.reconcile
      rw [bind_run, get_run]
      dsimp only
      rw [if_pos hrunning]
    rw [hrun]
    rcases activeProviders_bind_cases s (fun active =>
        (modify fun s => (s.abortOthers active).dropOthers active : Turn Unit) >>= fun _ =>
          QuotaScheduler.pollAll options active) with ⟨error, s', hcalm, hact⟩ | ⟨s', hcalm, hact⟩
    · rw [hact]
      exact h.calm hcalm
    · rw [hact, bind_run, modify_run]
      dsimp only
      set active := demand (s.looks s.looked) s.leases with hactive
      have habort : Coherent (s'.abortOthers active) :=
        (h.calm hcalm).abort _ (Poll.abortBy_spec _)
      refine (habort.dropOthers active).pollAll options ?_
      intro q hq hgen
      obtain ⟨p, hp, rfl⟩ := List.mem_map.1 hq
      obtain ⟨hprovider, -, -, hgeneration, -⟩ := Poll.abortBy_spec
        ((s'.inFlight.filter fun entry => entry.1 ∉ active).entries.map Prod.snd) p
      rw [hprovider]
      rw [hgeneration] at hgen
      exact ((hlate hrunning).congr hcalm.polls hcalm.stops) p hp hgen
  · unfold QuotaScheduler.reconcile
    rw [bind_run, get_run]
    dsimp only
    rw [if_neg hrunning]
    exact h

theorem Coherent.scheduleReconcile {s : Scheduler} (h : Coherent s) :
    Coherent (QuotaScheduler.scheduleReconcile s).2 := by
  unfold QuotaScheduler.scheduleReconcile
  rw [modify_run]
  dsimp only
  split
  · have hadd := h.add .reconcile reconcileIntervalMs (fun _ _ => Purpose.noConfusion) 0
    exact { hadd with }
  · exact h

/-- **Stopping.** Every poll there is is let go of, and no timer is left. -/
theorem Coherent.stop {s : Scheduler} (h : Coherent s) : Coherent (QuotaScheduler.stop s).2 := by
  have hpolls : ∀ q ∈ (QuotaScheduler.stop s).2.polls, ∃ p ∈ s.polls,
      q.provider = p.provider ∧ q.timeoutHandle = p.timeoutHandle ∧
        q.generation = p.generation ∧ q.aborted = true := by
    intro q hq
    obtain ⟨p, hp, rfl⟩ := List.mem_map.1 hq
    refine ⟨p, hp, ?_⟩
    unfold Poll.abortBy
    split
    · exact ⟨rfl, rfl, rfl, rfl⟩
    · rename_i hkept
      refine ⟨rfl, rfl, rfl, h.aborted p hp ?_⟩
      intro hgen
      have hflight := Dict.mem_iff.2 (h.current p hp hgen).1
      exact hkept (List.mem_map.2 ⟨_, hflight, rfl⟩)
  refine ⟨?_, h.handles.sublist (List.filter_sublist.map _),
    fun timer ht => h.issued timer (List.mem_filter.1 ht).1, ?_, ?_, ?_, ?_, ?_, ?_⟩
  · intro timer ht provider generation hp
    obtain ⟨ht, hkept⟩ := List.mem_filter.1 ht
    have hget := Dict.mem_iff.2 (h.armed timer ht provider generation hp).1
    rw [decide_eq_true_eq] at hkept
    exact absurd (List.mem_append_left _ (List.mem_map.2 ⟨_, hget, rfl⟩)) hkept
  · intro q hq
    obtain ⟨p, hp, -, htimeout, -, -⟩ := hpolls q hq
    rw [htimeout]
    exact h.timeouts p hp
  · intro q hq
    obtain ⟨p, hp, -, -, hgen, -⟩ := hpolls q hq
    have hle := h.generations p hp
    change q.generation ≤ s.stops + 1
    omega
  · intro q hq hcurrent
    obtain ⟨p, hp, -, -, hgen, -⟩ := hpolls q hq
    have hle := h.generations p hp
    change q.generation = s.stops + 1 at hcurrent
    omega
  · intro q hq _
    obtain ⟨p, hp, -, -, -, haborted⟩ := hpolls q hq
    exact haborted
  · have hmap : (QuotaScheduler.stop s).2.polls.map Poll.provider
        = s.polls.map Poll.provider := by
      change (s.polls.map _).map Poll.provider = _
      rw [List.map_map]
      exact List.map_congr_left fun p _ => (Poll.abortBy_spec _ p).1
    rw [hmap]
    exact h.once
  · intro q _
    rfl

/-- **Leasing.** -/
theorem leaseAll_still (now expiresAt : ℕ) (providers : List Provider)
    (s : Scheduler) :
    Still s (leaseAll options now expiresAt providers s).2 ∧
      (leaseAll options now expiresAt providers s).2.looks = s.looks ∧
      (leaseAll options now expiresAt providers s).2.looked = s.looked := by
  induction providers generalizing s with
  | nil => exact ⟨(Calm.refl s).toStill, rfl, rfl⟩
  | cons provider providers ih =>
    unfold leaseAll
    cases hlease : s.lease options now expiresAt provider with
    | none => exact ih s
    | some leased =>
      obtain ⟨actual, s₁⟩ := leased
      have hone : Still s s₁ ∧ s₁.looks = s.looks ∧ s₁.looked = s.looked := by
        unfold Scheduler.lease at hlease
        split at hlease
        · cases hlease
        · simp only [Option.some.injEq, Prod.mk.injEq] at hlease
          rw [← hlease.2]
          exact ⟨⟨rfl, rfl, rfl, rfl, rfl, rfl, rfl⟩, rfl, rfl⟩
      obtain ⟨hstill, hlooks, hlooked⟩ := ih s₁
      exact ⟨hone.1.trans hstill, hlooks.trans hone.2.1, hlooked.trans hone.2.2⟩

/-- The accepted requests of a call, and the state with their leases. -/
def leased (options : Options) (providers : List Provider) (ttlMs : JsNumber) (s : Scheduler) :
    List (Provider × ℕ) × Scheduler :=
  let now := (s.looks s.looked).now
  let result := leaseAll options now (now + boundedTtl ttlMs) providers.eraseDups
    { s with looked := s.looked + 1 }
  (result.1.1, result.2)

theorem Coherent.requestProbeLease {s : Scheduler} (h : Coherent s) (providers : List Provider)
    (ttlMs : JsNumber)
    (hlate : s.running = true → (leased options providers ttlMs s).1 ≠ [] →
      NoneLate s (demand (s.looks (s.looked + 1)) (leased options providers ttlMs s).2.leases)) :
    Coherent (QuotaScheduler.requestProbeLease options providers ttlMs s).2 := by
  have hlook : Still s { s with looked := s.looked + 1 } := ⟨rfl, rfl, rfl, rfl, rfl, rfl, rfl⟩
  obtain ⟨hstill, hlooks, hlooked⟩ := leaseAll_still options (s.looks s.looked).now
    ((s.looks s.looked).now + boundedTtl ttlMs) providers.eraseDups
    { s with looked := s.looked + 1 }
  have hleased := h.still (hlook.trans hstill)
  unfold QuotaScheduler.requestProbeLease
  dsimp only
  split
  · rename_i hrunning
    split
    · rename_i haccepted
      refine hleased.reconcile options fun _ => ?_
      rw [hlooks, hlooked]
      exact (hlate hrunning haccepted).congr (hlook.trans hstill).polls (hlook.trans hstill).stops
    · exact hleased
  · exact h.still hlook

theorem leaseState_still (provider : Provider) (s : Scheduler) :
    Still s (leaseState provider s).2 := by
  unfold leaseState
  cases s.leases.get provider with
  | none => exact (Calm.refl s).toStill
  | some expiresAt =>
    dsimp only
    split
    · exact ⟨rfl, rfl, rfl, rfl, rfl, rfl, rfl⟩
    · exact ⟨rfl, rfl, rfl, rfl, rfl, rfl, rfl⟩

/-- What a call leaves does not depend on its result being used. -/
theorem discard_snd {α : Type} (p : Turn α) (s : Scheduler) :
    ((p >>= fun _ => (pure () : Turn Unit)) s).2 = (p s).2 := by
  rw [bind_run]
  rcases p s with ⟨fault | a, s'⟩
  · rfl
  · rfl

/-- **Starting.** -/
theorem Coherent.start {s : Scheduler} (h : Coherent s)
    (hlate : s.running = false → NoneLate s (demand (s.looks s.looked) s.leases)) :
    Coherent (QuotaScheduler.start options s).2 := by
  by_cases hstopped : s.running = false
  · have hrun : QuotaScheduler.start options s
        = (QuotaScheduler.reconcile options >>= fun _ => QuotaScheduler.scheduleReconcile)
            { s with running := true } := by
      unfold QuotaScheduler.start
      rw [bind_run, get_run]
      dsimp only
      rw [if_pos hstopped]
      rfl
    have hrunning : Coherent { s with running := true } :=
      { h with
        armed := fun timer ht provider generation hp =>
          ⟨(h.armed timer ht provider generation hp).1,
            (h.armed timer ht provider generation hp).2.1, rfl⟩
        current := fun p hp hgen => ⟨(h.current p hp hgen).1, rfl⟩ }
    have hreconcile := hrunning.reconcile options fun _ => hlate hstopped
    rw [hrun, bind_run]
    rcases hres : QuotaScheduler.reconcile options { s with running := true } with ⟨fault | u, s'⟩
    · rw [hres] at hreconcile
      exact hreconcile
    · rw [hres] at hreconcile
      exact hreconcile.scheduleReconcile
  · unfold QuotaScheduler.start
    rw [bind_run, get_run]
    dsimp only
    rw [if_neg hstopped]
    exact h

/-- A timer fires: what is left of the clock, and of the timers it was one of. -/
theorem Coherent.fired {s : Scheduler} (h : Coherent s) {timer : Timer} (ht : timer ∈ s.live)
    {provider : Provider} {generation : ℕ} (hp : timer.purpose = .poll provider generation) :
    Coherent { s with
      live := s.live.filter fun other => other.handle ≠ timer.handle
      timers := s.timers.delete provider } := by
  have hcleared := h.clear fun other => other.handle ≠ timer.handle
  have hget := (h.armed timer ht provider generation hp).1
  refine { hcleared with armed := ?_, apart := ?_ }
  · intro other hother provider' generation' hp'
    obtain ⟨hother, hne⟩ := List.mem_filter.1 hother
    obtain ⟨hget', hgen, hrunning⟩ := h.armed other hother provider' generation' hp'
    refine ⟨?_, hgen, hrunning⟩
    change (s.timers.delete provider).get provider' = _
    have hprovider : provider' ≠ provider := by
      rintro rfl
      rw [decide_eq_true_eq] at hne
      exact hne (Option.some.inj (hget'.symm.trans hget))
    rw [Dict.get_delete, if_neg hprovider]
    exact hget'
  · intro p hpoll
    change (s.timers.delete provider).get p.provider = none
    rw [Dict.get_delete, h.apart p hpoll, ite_self]

/-- **A timer fires.** -/
theorem Coherent.callback {s : Scheduler} (h : Coherent s) {timer : Timer} (ht : timer ∈ s.live)
    (hlate : timer.purpose = .reconcile → s.running = true →
      NoneLate s (demand (s.looks s.looked) s.leases)) :
    Coherent (QuotaScheduler.callback options timer.purpose
      { s with live := s.live.filter fun other => other.handle ≠ timer.handle }).2 := by
  have hcleared := h.clear fun other => other.handle ≠ timer.handle
  cases hpurpose : timer.purpose with
  | reconcile =>
    have hnone : Coherent { s with
        live := s.live.filter fun other => other.handle ≠ timer.handle
        reconcileTimer := none } := { hcleared with }
    have hreconcile := hnone.reconcile options fun hr => hlate hpurpose hr
    change Coherent ((QuotaScheduler.reconcile options >>= fun _ =>
      QuotaScheduler.scheduleReconcile) _).2
    rw [bind_run]
    split
    · rename_i hres
      rw [hres] at hreconcile
      exact hreconcile.scheduleReconcile
    · rename_i hres
      rw [hres] at hreconcile
      exact hreconcile
  | poll provider generation =>
    refine ((h.fired ht hpurpose).poll options ?_ ?_).1
    · -- a provider with a timer has no poll
      intro p hp _ heq
      have hapart := h.apart p hp
      rw [heq, (h.armed timer ht provider generation hpurpose).1] at hapart
      cases hapart
    · change (s.timers.delete provider).get provider = none
      rw [Dict.get_delete, if_pos rfl]
  | timeout controller =>
    refine hcleared.abort _ ?_
    intro p
    split
    · exact ⟨rfl, rfl, rfl, rfl, fun _ => rfl⟩
    · exact ⟨rfl, rfl, rfl, rfl, id⟩

/-- **A poll goes on.** -/
theorem Coherent.settlePoll {s : Scheduler} (h : Coherent s) {p : Poll} (hp : p ∈ s.polls)
    (settlement : Settlement)
    (hlate : p.generation ≠ s.stops → s.running = true →
      (settlement.fetched.toBool = true → p.provider ∉ demand (s.looks s.looked) s.leases) ∧
      (p.timedOut = true → ∀ k, p.provider ∉ demand (s.looks k) s.leases)) :
    Coherent (QuotaScheduler.settlePoll p settlement s).2 := by
  rcases settlePoll_cases p settlement s with
    ⟨s', hcalm, hend⟩ | ⟨s', delayMs, hcalm, hrunning, hwhy, hend⟩
  · rw [hend]
    exact (h.calm hcalm).finish (hcalm.polls ▸ hp)
  · have hcoherent := h.calm hcalm
    have hmem : p ∈ s'.polls := hcalm.polls ▸ hp
    -- a poll that was let go of arms nothing
    have hgen : p.generation = s.stops := by
      by_contra hgen
      obtain ⟨hfetched, htimeout⟩ := hlate hgen hrunning
      rcases hwhy with ⟨hok, hdemand⟩ | ⟨⟨k, hdemand⟩, htimed | hkept⟩
      · exact hfetched hok hdemand
      · exact htimeout htimed k hdemand
      · rw [h.aborted p hp hgen] at hkept
        cases hkept
    have hcommute : (s'.arm p.provider p.generation delayMs).finish p
        = (s'.finish p).arm p.provider p.generation delayMs := by
      have hfresh : s'.issued ≠ p.timeoutHandle := by
        have := hcoherent.timeouts p hmem
        omega
      unfold Scheduler.arm Scheduler.finish
      simp [List.filter_append, hfresh]
    rw [hend, hcommute]
    refine (hcoherent.finish hmem).arm delayMs (hcalm.running ▸ hrunning)
      (hgen.trans hcalm.stops.symm) (hcoherent.finish_polls hmem) ?_
    exact hcoherent.apart p hmem

end functions

/-! ## Runs -/

/-- The turn comes in time for every poll the scheduler has let go of: where it looks
at the demand to start polls, none of them is for a provider there is demand for, and
where one of them goes on, its provider is not in demand any more, or the poll was
lost to its abort. -/
def Timely (options : Options) (s : Scheduler) (event : Event) (looks : ℕ → Look) : Prop :=
  match event with
  | .start => s.running = false → NoneLate s (demand (looks 0) s.leases)
  | .reconcileDemand => s.running = true → NoneLate s (demand (looks 0) s.leases)
  | .fire handle =>
    (∃ timer ∈ s.live, timer.handle = handle ∧ timer.purpose = .reconcile) → s.running = true →
      NoneLate s (demand (looks 0) s.leases)
  | .requestProbeLease providers ttlMs =>
    let given := leased options providers ttlMs { s with looks := looks, looked := 0 }
    s.running = true → given.1 ≠ [] → NoneLate s (demand (looks 1) given.2.leases)
  | .settle controller settlement =>
    ∀ p ∈ s.polls, p.controller = controller → p.generation ≠ s.stops → s.running = true →
      (settlement.fetched.toBool = true → p.provider ∉ demand (looks 0) s.leases) ∧
      (p.timedOut = true → ∀ k, p.provider ∉ demand (looks k) s.leases)
  | .stop | .leaseState _ => True

/-- **The step.** -/
theorem Coherent.turn {options : Options} {s : Scheduler} (h : Coherent s) {event : Event}
    {looks : ℕ → Look}
    (htimely : Timely options s event looks) :
    Coherent (QuotaScheduler.turn options s event looks) := by
  have hlooks : Coherent { s with looks := looks, looked := 0 } :=
    h.still ⟨rfl, rfl, rfl, rfl, rfl, rfl, rfl⟩
  unfold QuotaScheduler.turn
  cases event with
  | start => exact hlooks.start options htimely
  | stop => exact hlooks.stop
  | reconcileDemand => exact hlooks.reconcile options htimely
  | requestProbeLease providers ttlMs =>
    have hlease := hlooks.requestProbeLease options providers ttlMs htimely
    change Coherent ((QuotaScheduler.requestProbeLease options providers ttlMs >>= fun _ =>
      (pure () : Turn Unit)) _).2
    rw [discard_snd]
    exact hlease
  | leaseState provider =>
    change Coherent ((leaseState provider >>= fun _ => (pure () : Turn Unit)) _).2
    rw [discard_snd]
    exact hlooks.still (leaseState_still provider _)
  | fire handle =>
    change Coherent (((get : Turn Scheduler) >>= fun s => _) _).2
    rw [bind_run, get_run]
    dsimp only
    cases hfind : s.live.find? (fun timer => timer.handle = handle) with
    | none => exact hlooks
    | some timer =>
      have ht := List.mem_of_find?_eq_some hfind
      have hhandle : timer.handle = handle := by simpa using List.find?_some hfind
      subst hhandle
      exact hlooks.callback options ht fun hpurpose => htimely ⟨timer, ht, rfl, hpurpose⟩
  | settle controller settlement =>
    change Coherent (((get : Turn Scheduler) >>= fun s => _) _).2
    rw [bind_run, get_run]
    dsimp only
    cases hfind : s.polls.find? (fun p => p.controller = controller) with
    | none => exact hlooks
    | some p =>
      have hp := List.mem_of_find?_eq_some hfind
      have hcontroller : p.controller = controller := by simpa using List.find?_some hfind
      exact hlooks.settlePoll hp settlement (htimely p hp hcontroller)

/-- The states a scheduler reaches in turns that come in time. -/
inductive Reaches (options : Options) : Scheduler → Prop where
  | initial : Reaches options initial
  | turn {s : Scheduler} (event : Event) (looks : ℕ → Look) (before : Reaches options s)
      (htimely : Timely options s event looks) :
      Reaches options (QuotaScheduler.turn options s event looks)

/-- **The run.** -/
theorem Reaches.coherent {options : Options} {s : Scheduler} (h : Reaches options s) :
    Coherent s := by
  induction h with
  | initial =>
    constructor
    · intro timer ht
      cases ht
    · exact List.nodup_nil
    · intro timer ht
      cases ht
    · intro p hp
      cases hp
    · intro p hp
      cases hp
    · intro p hp
      cases hp
    · intro p hp
      cases hp
    · exact List.nodup_nil
    · intro p hp
      cases hp
  | turn event looks before htimely ih => exact ih.turn htimely

/-- The provider a timer is for the next poll of. -/
def Timer.provider? (timer : Timer) : Option Provider :=
  match timer.purpose with
  | .poll provider _ => some provider
  | _ => none

/-- A provider has at most one poll that has not come to its end and at most one
timer that is live. A timer is live only while the scheduler runs, and it was armed by
a poll that was started after the last stop. -/
structure Exclusive (s : Scheduler) : Prop where
  polls : (s.polls.map Poll.provider).Nodup
  timers : (s.live.filterMap Timer.provider?).Nodup
  fresh : ∀ timer ∈ s.live, ∀ provider generation, timer.purpose = .poll provider generation →
    generation = s.stops ∧ s.running = true

theorem Coherent.exclusive {s : Scheduler} (h : Coherent s) : Exclusive s where
  polls := h.once
  timers := by
    unfold List.Nodup
    rw [List.pairwise_filterMap]
    have hhandles := h.handles
    unfold List.Nodup at hhandles
    rw [List.pairwise_map] at hhandles
    refine hhandles.imp_of_mem ?_
    intro timer other ht ho hne provider hprovider provider' hprovider' heq
    subst heq
    have hpurpose : ∀ t : Timer, t.provider? = some provider →
        ∃ generation, t.purpose = .poll provider generation := by
      intro t hsome
      unfold Timer.provider? at hsome
      split at hsome
      · rename_i hp
        rw [Option.some.inj hsome] at hp
        exact ⟨_, hp⟩
      · cases hsome
    obtain ⟨generation, hp⟩ := hpurpose timer hprovider
    obtain ⟨generation', hp'⟩ := hpurpose other hprovider'
    -- both are the timer the scheduler has for the provider
    have hget := (h.armed timer ht provider generation hp).1
    have hget' := (h.armed other ho provider generation' hp').1
    exact hne (Option.some.inj (hget.symm.trans hget'))
  fresh timer ht provider generation hp := (h.armed timer ht provider generation hp).2

/-- **Exclusivity.** In every run of turns that come in time, whatever the calls, the
timers that fire, the order in which polls come to their end and what the outside
says, a provider has one poll and one timer at most, and no poll from before a stop
has armed a timer after it. -/
theorem scheduler_exclusive {options : Options} {s : Scheduler} (h : Reaches options s) :
    Exclusive s :=
  h.coherent.exclusive

/-- **A provider is polled or waits**: it has no timer while a poll for it is out. And a poll that is
out is the one the scheduler knows of, while it runs, or it was told to end. -/
theorem polls_and_timers_apart {options : Options} {s : Scheduler} (h : Reaches options s) :
    (∀ p ∈ s.polls, ∀ timer ∈ s.live, timer.provider? ≠ some p.provider) ∧
      ∀ p ∈ s.polls, p.aborted = true ∨
        s.running = true ∧ s.inFlight.get p.provider = some p.controller := by
  have hcoherent := h.coherent
  refine ⟨fun p hp timer htimer hprovider => ?_, fun p hp => ?_⟩
  · unfold Timer.provider? at hprovider
    split at hprovider
    · rename_i provider generation hpurpose
      have harmed := (hcoherent.armed timer htimer _ _ hpurpose).1
      rw [Option.some.inj hprovider, hcoherent.apart p hp] at harmed
      cases harmed
    · cases hprovider
  · by_cases hlast : p.generation = s.stops
    · obtain ⟨hknown, hrunning⟩ := hcoherent.current p hp hlast
      exact .inr ⟨hrunning, hknown⟩
    · exact .inl (hcoherent.aborted p hp hlast)

/-! ## A scheduler that is restarted while a poll is out -/

def sampleProvider : Provider := js "codex"
def sampleQuotaOptions : Options := ⟨[sampleProvider], [sampleProvider], 30000⟩
def sampleLooks : ℕ → Look := fun _ => ⟨0, .ok [⟨sampleProvider, true, none⟩]⟩
def sampleSnapshot : Settlement := ⟨.ok false, .ok (), .ok ()⟩

/-- A scheduler after some events that all see the one active session. -/
def sampleRun (events : List Event) : Scheduler :=
  events.foldl (fun s event => turn sampleQuotaOptions s event sampleLooks) initial

/-- A poll that is out when the scheduler is stopped and started is out beside the one
the second start makes, and when both have a snapshot there are two timers. -/
theorem restarted_scheduler_polls_twice :
    ((sampleRun [.start, .stop, .start]).polls.map Poll.provider
        = [sampleProvider, sampleProvider]) ∧
      (sampleRun [.start, .stop, .start, .settle 0 sampleSnapshot,
          .settle 3 sampleSnapshot]).live.filterMap Timer.provider?
        = [sampleProvider, sampleProvider] ∧
      ¬ Exclusive (sampleRun [.start, .stop, .start]) := by
  have hpolls : (sampleRun [.start, .stop, .start]).polls.map Poll.provider
      = [sampleProvider, sampleProvider] := by decide +kernel
  refine ⟨hpolls, by decide +kernel, ?_⟩
  intro h
  have hnodup := h.polls
  rw [hpolls] at hnodup
  exact absurd hnodup (by decide)

/-- A start, and a poll that comes to its end. -/
theorem scheduler_exclusive_sample :
    Exclusive (sampleRun [.start, .settle 0 sampleSnapshot]) ∧
      (sampleRun [.start, .settle 0 sampleSnapshot]).live.filterMap Timer.provider?
        = [sampleProvider] := by
  have hstart : Timely sampleQuotaOptions initial .start sampleLooks := by
    intro _ p hp
    cases hp
  have hsettle : Timely sampleQuotaOptions (sampleRun [.start]) (.settle 0 sampleSnapshot)
      sampleLooks := by
    intro p hp _ hgen
    have hall : ∀ q ∈ (sampleRun [.start]).polls, q.generation = (sampleRun [.start]).stops := by
      decide +kernel
    exact absurd (hall p hp) hgen
  exact ⟨scheduler_exclusive
    (.turn (.settle 0 sampleSnapshot) sampleLooks (.turn .start sampleLooks .initial hstart)
      hsettle), by decide +kernel⟩

theorem polls_and_timers_apart_sample : ∃ p ∈ (sampleRun [.start]).polls, p.aborted = true ∨
    (sampleRun [.start]).inFlight.get p.provider = some p.controller := by
  have hstart : Timely sampleQuotaOptions initial .start sampleLooks := by
    intro _ p hp
    cases hp
  obtain ⟨p, hp⟩ := List.exists_mem_of_ne_nil (sampleRun [.start]).polls (by decide +kernel)
  have hpoll := (polls_and_timers_apart (.turn .start sampleLooks .initial hstart)).2 p hp
  exact ⟨p, hp, hpoll.imp_right (·.2)⟩

end Autopilot.QuotaScheduler
