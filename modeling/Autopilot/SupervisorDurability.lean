/-
What a call of the queue leaves behind when it throws.

A new process reads exactly what the memory of the old one held: that is the
lock step of memory and file, which no outcome of a write breaks, since the file
is written first. What is left to say is what a call changes when it throws.

Nearly always nothing, since there is one write and it comes last. Two calls do
more than one thing. A claim first gives up the attempts whose time is over, in
a write of its own. And a dispatch that threw is recorded as a failed attempt
before the exception goes on to the caller.
-/
import Autopilot.SupervisorHistories

set_option autoImplicit false

namespace Autopilot

open Prog Keyed SupervisorQueue

variable {options : SupervisorQueueOptions} {h h' : Machine (SupervisorQueue options)} {α : Type}

/-! ## Operations with one write -/

/-- An operation that throws leaves the queue as it was. -/
def Atomic (p : Proc (SupervisorQueue options) α) : Prop :=
  ∀ h fault, (p h).1 = .error fault → (p h).2.store = h.store

theorem kept_of_refuses {result : Except (Fault JsError) α × Machine (SupervisorQueue options)}
    (hr : h.Refuses result) : result.2.store = h.store := by
  obtain ⟨e, rfl⟩ := hr
  rfl

/-- A publication that throws was no publication. -/
theorem Publishes.kept {state : SupervisorState options} {a : α}
    {result : Except (Fault JsError) α × Machine (SupervisorQueue options)}
    (hp : Publishes h state a result) {fault : Fault JsError} (he : result.1 = .error fault) :
    result.2.store = h.store := by
  rcases hp with ⟨ws, -, rfl⟩ | ⟨fault, ws, -, -, rfl⟩
  · cases he
  · rfl

theorem Rewrites.kept {task : SupervisorTask}
    {result : Except (Fault JsError) SupervisorTask × Machine (SupervisorQueue options)}
    (hr : Rewrites h task result) {fault : Fault JsError} (he : result.1 = .error fault) :
    result.2.store = h.store := by
  obtain ⟨state, -, hp⟩ := hr
  exact hp.kept he

theorem enqueue_atomic (input : EnqueueSupervisorTaskInput) :
    Atomic (enqueue input : Proc (SupervisorQueue options) SupervisorTask) := by
  rintro h fault he
  rcases enqueue_cases (h := h) input with hr | ⟨_, _, _, _, -, -, -, hp⟩
  · exact kept_of_refuses hr
  · exact hp.kept he

theorem approve_atomic (taskId : JsString) (now : Option ℕ) :
    Atomic (approve taskId now : Proc (SupervisorQueue options) SupervisorTask) := by
  rintro h fault he
  rcases approve_cases (h := h) taskId now with hr | ⟨_, _, -, -, -, -, hr⟩
  · exact kept_of_refuses hr
  · exact hr.kept he

theorem complete_atomic (taskId : JsString) (now : Option ℕ) :
    Atomic (complete taskId now : Proc (SupervisorQueue options) SupervisorTask) := by
  rintro h fault he
  rcases complete_cases (h := h) taskId now with hr | ⟨_, _, -, -, hr⟩
  · exact kept_of_refuses hr
  · exact hr.kept he

theorem fail_atomic (taskId reason : JsString) (now : Option ℕ) (attemptDelta : Option JsString) :
    Atomic (fail taskId reason now attemptDelta :
      Proc (SupervisorQueue options) SupervisorTask) := by
  rintro h fault he
  rcases fail_cases (h := h) taskId reason now attemptDelta with
    hr | ⟨_, _, -, -, -, ⟨-, _, hr⟩ | ⟨-, hr⟩⟩
  · exact kept_of_refuses hr
  · exact hr.kept he
  · exact hr.kept he

theorem retry_atomic (taskId reason : JsString) (now : Option ℕ) (attemptDelta : Option JsString) :
    Atomic (retry taskId reason now attemptDelta :
      Proc (SupervisorQueue options) SupervisorTask) := by
  rintro h fault he
  rcases retry_cases (h := h) taskId reason now attemptDelta with
    hr | ⟨_, _, -, -, -, ⟨-, _, hr⟩ | ⟨-, hr⟩⟩
  · exact kept_of_refuses hr
  · exact hr.kept he
  · exact hr.kept he

theorem cancel_atomic (taskId reason : JsString) (now : Option ℕ) :
    Atomic (cancel taskId reason now : Proc (SupervisorQueue options) SupervisorTask) := by
  rintro h fault he
  rcases cancel_cases (h := h) taskId reason now with hr | ⟨_, _, -, -, -, hr⟩
  · exact kept_of_refuses hr
  · exact hr.kept he

theorem recover_atomic (now : Option ℕ) :
    Atomic (recover now : Proc (SupervisorQueue options) (List SupervisorTask)) := by
  rintro h fault he
  cases now with
  | none => rfl
  | some now => exact (recover_publishes now).kept he

theorem reconcile_atomic (now : Option ℕ) :
    Atomic (reconcile now : Proc (SupervisorQueue options) Unit) := by
  rintro h fault he
  cases now with
  | none => rfl
  | some now =>
    rcases reconcile_cases (h := h) now with ⟨-, hr⟩ | ⟨-, hp⟩
    · rw [hr]
    · exact hp.kept he

theorem peekClaimable_atomic (now : Option ℕ) :
    Atomic (peekClaimable now : Proc (SupervisorQueue options) (Option SupervisorTask)) := by
  rintro h fault he
  cases now with
  | none => rfl
  | some now =>
    rcases peekClaimable_cases (h := h) now with ⟨_, _, -, -, hr⟩ | ⟨h', -, hr⟩
    · rw [hr]
    · rw [hr] at he
      cases he

/-! ## The two operations with more -/

/-- A claim that throws leaves the queue as it was, or has given up the attempts
whose time is over. -/
theorem claim_kept {now : Option ℕ} {fault : Fault JsError} (he : (claim now h).1 = .error fault) :
    (claim now h).2.store = h.store ∨
      ∃ instant, now = some instant ∧
        (claim now h).2.store.state = h.store.state.reconciled instant := by
  cases now with
  | none => exact .inl rfl
  | some now =>
    rcases claim_cases (h := h) now with ⟨_, _, -, -, hr⟩ | ⟨h', hrec, ⟨-, hr⟩ |
      ⟨_, _, -, -, hp⟩⟩
    · rw [hr]
      exact .inl rfl
    · rw [hr] at he
      cases he
    · refine .inr ⟨now, rfl, ?_⟩
      rw [hp.kept he]
      exact hrec.1

/-- What `fail` made of a task, after an exception of its dispatch. -/
def FailedDispatch (taskId : JsString) (now : Option ℕ) (h h' : Machine (SupervisorQueue options)) :
    Prop :=
  ∃ (error : JsError) (before : Machine (SupervisorQueue options)) (task : SupervisorTask),
    before.store = h.store ∧
      fail taskId (error.message?.getD (js "dispatch_failed")) now
        (some (js "retry_after_dispatch_exception")) before = (.ok task, h')

theorem dispatchThrew_kept (taskId : JsString) (now : Option ℕ) (error : JsError) :
    (SupervisorQueue.dispatchThrew taskId now error h).2.store = h.store ∨
      FailedDispatch taskId now h (SupervisorQueue.dispatchThrew taskId now error h).2 := by
  unfold SupervisorQueue.dispatchThrew
  rw [bind_run]
  rcases hr : fail taskId (error.message?.getD (js "dispatch_failed")) now
    (some (js "retry_after_dispatch_exception")) h with ⟨e | task, h'⟩
  · have hkept := fail_atomic _ _ _ _ h e (congrArg Prod.fst hr)
    rw [hr] at hkept
    exact .inl hkept
  · exact .inr ⟨error, h, task, rfl, hr⟩

theorem dispatchAnswered_atomic (taskId : JsString) (now : Option ℕ) (outcome : DispatchOutcome) :
    Atomic (SupervisorQueue.dispatchAnswered taskId now outcome :
      Proc (SupervisorQueue options) DispatchResult) := by
  rintro h fault he
  rcases outcome with e | reason | worker
  · rfl
  · have hrun : SupervisorQueue.dispatchAnswered taskId now (.ok (.refused reason)) h
        = (fail taskId reason.text now (some (js "retry_after_refusal:" ++ reason.text)) >>=
            fun _ => pure (.refused reason)) h := rfl
    rw [hrun, bind_run] at he ⊢
    rcases hr : fail taskId reason.text now (some (js "retry_after_refusal:" ++ reason.text)) h with
      ⟨e | task, h'⟩
    · have hkept := fail_atomic _ _ _ _ h e (congrArg Prod.fst hr)
      rwa [hr] at hkept
    · rw [hr] at he
      cases he
  · have hrun : SupervisorQueue.dispatchAnswered taskId now (.ok (.accepted worker)) h
        = (complete taskId now >>= fun _ => pure (.accepted worker)) h := rfl
    rw [hrun, bind_run] at he ⊢
    rcases hr : complete taskId now h with ⟨e | task, h'⟩
    · have hkept := complete_atomic _ _ h e (congrArg Prod.fst hr)
      rwa [hr] at hkept
    · rw [hr] at he
      cases he

/-- A dispatch that throws leaves the queue as it was, or has recorded the failed
attempt. -/
theorem dispatchEnded_kept {taskId : JsString} {now : Option ℕ} {outcome : DispatchOutcome}
    {fault : Fault JsError}
    (he : (SupervisorQueue.dispatchEnded taskId now outcome h).1 = .error fault) :
    (SupervisorQueue.dispatchEnded taskId now outcome h).2.store = h.store ∨
      FailedDispatch taskId now h (SupervisorQueue.dispatchEnded taskId now outcome h).2 := by
  have hanswer := dispatchAnswered_atomic taskId now outcome h
  unfold SupervisorQueue.dispatchEnded at he ⊢
  rw [tryCatch_run] at he ⊢
  rcases hr : SupervisorQueue.dispatchAnswered taskId now outcome h with ⟨(e | _) | a, h'⟩ <;>
    rw [hr] at he hanswer
  · have hkept : h'.store = h.store := hanswer _ rfl
    dsimp only
    rcases dispatchThrew_kept (h := h') taskId now e with hsame | ⟨error, before, task, hb, hf⟩
    · exact .inl (hsame.trans hkept)
    · exact .inr ⟨error, before, task, hb.trans hkept, hf⟩
  · exact .inl (hanswer _ rfl)
  · cases he

/-! ## Histories -/

/-- What a call threw. A crash is no throw: there is nobody left to catch it. -/
def thrownBy {β : Type} : Except (Fault JsError) β → Option JsError
  | .error (.thrown e) => some e
  | _ => none

theorem thrownBy_eq_some {β : Type} {result : Except (Fault JsError) β} {e : JsError}
    (h : thrownBy result = some e) : result = .error (.thrown e) := by
  rcases result with (e' | _) | a
  · obtain rfl := Option.some.inj h
    rfl
  · cases h
  · cases h

/-- What an event threw. A restart throws nothing, as the file is accepted. -/
def QueueEvent.threw (s : Scene options) : QueueEvent → Option JsError
  | .call (.enqueue input) => thrownBy (SupervisorQueue.enqueue input s.machine).1
  | .call (.approve taskId now) => thrownBy (SupervisorQueue.approve taskId now s.machine).1
  | .call (.claim now) => thrownBy (SupervisorQueue.claim now s.machine).1
  | .call (.complete taskId now) => thrownBy (SupervisorQueue.complete taskId now s.machine).1
  | .call (.fail taskId reason now delta) =>
    thrownBy (SupervisorQueue.fail taskId reason now delta s.machine).1
  | .call (.retry taskId reason now delta) =>
    thrownBy (SupervisorQueue.retry taskId reason now delta s.machine).1
  | .call (.cancel taskId reason now) =>
    thrownBy (SupervisorQueue.cancel taskId reason now s.machine).1
  | .call (.recover now) => thrownBy (SupervisorQueue.recover now s.machine).1
  | .call (.reconcile now) => thrownBy (SupervisorQueue.reconcile now s.machine).1
  | .call (.dispatchClaimed taskId) =>
    thrownBy (SupervisorQueue.dispatchClaimed taskId s.machine).1
  | .call (.dispatchEnded flight now outcome) =>
    if flight ∈ s.flights then
      thrownBy (SupervisorQueue.dispatchEnded flight.taskId now outcome s.machine).1
    else none
  | .peekClaimable now => thrownBy (SupervisorQueue.peekClaimable now s.machine).1
  | .restart => none

/-- What an event that threw has done all the same. -/
inductive LeftBehind (s : Scene options) (e : QueueEvent) : Prop where
  | nothing (h : (e.run s).machine.store = s.machine.store)
  | reconciled (now : ℕ) (hcall : e = .call (.claim (some now)))
      (h : (e.run s).machine.store.state = s.machine.store.state.reconciled now)
  | failed (flight : Flight) (now : Option ℕ) (outcome : DispatchOutcome)
      (hcall : e = .call (.dispatchEnded flight now outcome))
      (h : FailedDispatch flight.taskId now s.machine (e.run s).machine)

theorem QueueEvent.leftBehind {s : Scene options} {e : QueueEvent} {error : JsError}
    (h : e.threw s = some error) : LeftBehind s e := by
  cases e with
  | restart => cases h
  | peekClaimable now =>
    exact .nothing (peekClaimable_atomic now s.machine _ (thrownBy_eq_some h))
  | call c =>
    cases c with
    | enqueue input => exact .nothing (enqueue_atomic input s.machine _ (thrownBy_eq_some h))
    | approve taskId now =>
      exact .nothing (approve_atomic taskId now s.machine _ (thrownBy_eq_some h))
    | complete taskId now =>
      exact .nothing (complete_atomic taskId now s.machine _ (thrownBy_eq_some h))
    | fail taskId reason now delta =>
      exact .nothing (fail_atomic taskId reason now delta s.machine _ (thrownBy_eq_some h))
    | retry taskId reason now delta =>
      exact .nothing (retry_atomic taskId reason now delta s.machine _ (thrownBy_eq_some h))
    | cancel taskId reason now =>
      exact .nothing (cancel_atomic taskId reason now s.machine _ (thrownBy_eq_some h))
    | recover now => exact .nothing (recover_atomic now s.machine _ (thrownBy_eq_some h))
    | reconcile now => exact .nothing (reconcile_atomic now s.machine _ (thrownBy_eq_some h))
    | claim now =>
      rcases claim_kept (thrownBy_eq_some h) with hsame | ⟨instant, rfl, hrec⟩
      · exact .nothing hsame
      · exact .reconciled instant rfl hrec
    | dispatchClaimed taskId =>
      apply LeftBehind.nothing
      have hthrown := thrownBy_eq_some h
      have hkept := dispatchClaimed_keeps taskId s.machine
      unfold QueueEvent.run QueueCall.run
      dsimp only
      rcases hr : SupervisorQueue.dispatchClaimed taskId s.machine with ⟨e | task, h'⟩
      · rw [hr] at hkept
        exact congrArg Host.store hkept
      · rw [hr] at hthrown
        cases hthrown
    | dispatchEnded flight now outcome =>
      have h' : (if flight ∈ s.flights then
          thrownBy (SupervisorQueue.dispatchEnded flight.taskId now outcome s.machine).1
        else none) = some error := h
      split at h'
      · rename_i hin
        have hrun : ((QueueCall.dispatchEnded flight now outcome).run s).machine
            = (SupervisorQueue.dispatchEnded flight.taskId now outcome s.machine).2 := by
          unfold QueueCall.run
          dsimp only
          rw [if_pos hin]
        rcases dispatchEnded_kept (thrownBy_eq_some h') with hsame | hfailed
        · exact .nothing ((congrArg Host.store hrun).trans hsame)
        · refine .failed flight now outcome rfl ?_
          change FailedDispatch _ _ _ ((QueueCall.dispatchEnded flight now outcome).run s).machine
          rw [hrun]
          exact hfailed
      · cases h'

/-- After every event a new process would read what the memory holds. -/
structure Durable (s : Scene options) (events : List QueueEvent) : Prop where
  synced : ∀ before rest, events = before ++ rest →
    (s.through before).machine.store.load = (s.through before).machine.store ∧
      isSupervisorState options (s.through before).machine.store.file.tasks = true
  threw : ∀ before e rest error, events = before ++ e :: rest →
    e.threw (s.through before) = some error → LeftBehind (s.through before) e

end Autopilot
