/-
The lock of a state directory.

Processes take a lease on a state directory by making a directory in it and
writing an owner record there. A process that finds the directory there already
looks whether its owner is dead, and if so takes the directory down: it puts up a
reclaim mark, makes sure that the owner is still the one it saw, and removes the
record, the mark and the directory. This module is `stateMaintenanceLock.ts` as a
program of any number of processes, with one step for each access to the file
system. A process may die before any step.

A process is one that never comes back under its number, and the probe of a
process says whether it is dead. Inside of a process calls do not overlap, and
only the outermost lease touches the directory. An owner record is written as a
whole or not at all.
-/
import Autopilot.Js
import Autopilot.Lib.Interleaving

set_option autoImplicit false

namespace Autopilot.MaintenanceLock

open Parallel

/-! ## The program -/

/-- `StateMaintenanceOwner`, without its version. -/
structure StateMaintenanceOwner (ι : Type) where
  token : JsString
  pid : ι
  hostname : JsString
  acquiredAt : ℕ
  deriving DecidableEq

/-- The lock directory: its owner record and its reclaim mark. -/
structure LockDirectory (ι : Type) where
  owner : Option (StateMaintenanceOwner ι)
  reclaim : Bool
  deriving DecidableEq

/-- Where a process is in the code of the lock, before an access to the file
system. -/
inductive LockPoint (ι : Type) where
  | idle
  /-- `mkdirSync(lockPath)`. -/
  | making (token : JsString)
  /-- `writeOwner`. -/
  | writing (token : JsString)
  /-- `removeIncompleteLock`: the record, and the directory. -/
  | discardingOwner
  | discardingDirectory
  /-- `reclaimDeadOwner`: the owner is read, probed, marked and read again. -/
  | reading
  | probing (seen : StateMaintenanceOwner ι)
  | marking (seen : StateMaintenanceOwner ι)
  | confirming (seen : StateMaintenanceOwner ι)
  /-- The record, the mark and the directory are removed. -/
  | removingOwner (seen : StateMaintenanceOwner ι)
  | removingMark
  | removingDirectory
  /-- The owner is another one: the own mark is removed. -/
  | withdrawing
  /-- A removal threw: the mark is removed. -/
  | catching
  /-- Time is up, or the loop begins anew. -/
  | waiting
  /-- There are `depth` leases on the lock. -/
  | holding (token : JsString) (depth : ℕ)
  /-- `releaseOwnedLock`: the owner is read, the record and the directory are
  removed. -/
  | releasing (token : JsString)
  | releasingOwner (token : JsString)
  | releasingDirectory
  | dead
  deriving DecidableEq

/-- What decides how a process goes on. -/
inductive LockAction where
  /-- The lock is asked for, with the token that was drawn. -/
  | acquire (token : JsString)
  /-- The access to the file system that is next, at that time. -/
  | proceed (now : ℕ)
  /-- The access fails for a reason of the outside. -/
  | fail
  | timeout
  | release
  | crash

section program

variable {ι : Type} [DecidableEq ι]

/-- The lock directory, which may be missing, and where the processes are. -/
abbrev LockSystem (ι : Type) := Parallel ι (LockPoint ι) (Option (LockDirectory ι))

/-- `rmdirSync`, which throws unless the directory is empty. -/
def rmdir : Option (LockDirectory ι) → Option (LockDirectory ι)
  | some ⟨none, false⟩ => none
  | other => other

/-- The record in the directory. -/
def ownerOf (directory : Option (LockDirectory ι)) : Option (StateMaintenanceOwner ι) :=
  directory.bind (·.owner)

/-- `acquireStateMaintenanceLock` and `release`, step by step. -/
def lockProgram (hostname : ι → JsString) :
    Program ι (LockPoint ι) (Option (LockDirectory ι)) LockAction := fun p action s =>
  match s.point p, action with
  | .dead, _ => none
  | _, .crash => some (.dead, s.shared)
  | .idle, .acquire token | .waiting, .acquire token => some (.making token, s.shared)
  | .waiting, .timeout => some (.idle, s.shared)
  | .making token, .proceed _ =>
    match s.shared with
    | none => some (.writing token, some ⟨none, false⟩)
    | some _ => some (.reading, s.shared)
  | .making _, .fail => some (.idle, s.shared)
  | .writing token, .proceed now =>
    match s.shared with
    | some ⟨none, mark⟩ =>
      some (.holding token 1, some ⟨some ⟨token, p, hostname p, now⟩, mark⟩)
    | _ => some (.discardingOwner, s.shared)
  | .writing _, .fail => some (.discardingOwner, s.shared)
  | .discardingOwner, .proceed _ =>
    some (.discardingDirectory, s.shared.map fun directory => { directory with owner := none })
  | .discardingDirectory, .proceed _ => some (.idle, rmdir s.shared)
  | .reading, .proceed _ =>
    match ownerOf s.shared with
    | none => some (.waiting, s.shared)
    | some seen => some (.probing seen, s.shared)
  | .probing seen, .proceed _ =>
    if seen.hostname = hostname p ∧ s.point seen.pid = .dead then some (.marking seen, s.shared)
    else some (.waiting, s.shared)
  | .marking seen, .proceed _ =>
    match s.shared with
    | some ⟨owner, false⟩ => some (.confirming seen, some ⟨owner, true⟩)
    | _ => some (.waiting, s.shared)
  | .confirming seen, .proceed _ =>
    if ownerOf s.shared = some seen then some (.removingOwner seen, s.shared)
    else some (.withdrawing, s.shared)
  | .removingOwner _, .proceed _ =>
    match s.shared with
    | some ⟨some _, mark⟩ => some (.removingMark, some ⟨none, mark⟩)
    | _ => some (.catching, s.shared)
  | .removingMark, .proceed _ =>
    match s.shared with
    | some ⟨owner, true⟩ => some (.removingDirectory, some ⟨owner, false⟩)
    | _ => some (.catching, s.shared)
  | .removingDirectory, .proceed _ =>
    match s.shared with
    | some ⟨none, false⟩ => some (.waiting, none)
    | _ => some (.catching, s.shared)
  | .withdrawing, .proceed _ | .catching, .proceed _ =>
    some (.waiting, s.shared.map fun directory => { directory with reclaim := false })
  | .holding token depth, .acquire _ => some (.holding token (depth + 1), s.shared)
  | .holding token depth, .release =>
    if 1 < depth then some (.holding token (depth - 1), s.shared)
    else some (.releasing token, s.shared)
  | .releasing token, .proceed _ =>
    match ownerOf s.shared with
    | some owner =>
      if owner.token = token then some (.releasingOwner token, s.shared)
      else some (.idle, s.shared)
    | none => some (.idle, s.shared)
  | .releasingOwner _, .proceed _ =>
    match s.shared with
    | some ⟨some _, mark⟩ => some (.releasingDirectory, some ⟨none, mark⟩)
    | _ => some (.idle, s.shared)
  | .releasingDirectory, .proceed _ => some (.idle, rmdir s.shared)
  | _, _ => none

/-- Nobody is at the lock, and there is none. -/
def LockSystem.initial : LockSystem ι := ⟨fun _ => .idle, none⟩

/-- The process has a lease. -/
def Holds (s : LockSystem ι) (p : ι) : Prop := ∃ token depth, s.point p = .holding token depth

end program

/-! ## What the directory stands for -/

/-- Whose the lock directory is. A process that has made it, or is about to remove
it, has claimed it; an abandoned one is there for good. -/
inductive LockPhase (ι : Type) where
  | absent
  | claimed (by_ : ι)
  | owned (owner : StateMaintenanceOwner ι)
  | abandoned

/-- The phase of the directory, and whose the reclaim mark is. -/
structure LockView (ι : Type) where
  phase : LockPhase ι
  marker : Option ι

section view

variable {ι : Type} {view view' : LockView ι} {p q : ι}

/-- The directory looks as its phase says. -/
def Shows (view : LockView ι) (directory : Option (LockDirectory ι)) : Prop :=
  match view.phase, directory with
  | .absent, none => view.marker = none
  | .claimed _, some ⟨none, mark⟩ => view.marker ≠ none → mark = true
  | .owned owner, some ⟨some owner', mark⟩ =>
    owner' = owner ∧ (view.marker ≠ none → mark = true)
  | .abandoned, some ⟨none, _⟩ => True
  | _, _ => False

/-- The point of a process goes with the phase. -/
def Fits (view : LockView ι) (p : ι) : LockPoint ι → Prop
  | .writing _ | .discardingOwner | .discardingDirectory | .removingDirectory
  | .releasingDirectory => view.phase = .claimed p
  | .removingMark => view.phase = .claimed p ∧ view.marker = some p
  | .holding token _ | .releasing token | .releasingOwner token =>
    ∃ owner, view.phase = .owned owner ∧ owner.pid = p ∧ owner.token = token
  | .confirming _ | .withdrawing => view.phase = .abandoned ∨ view.marker = some p
  | .removingOwner seen => view.phase = .owned seen ∧ view.marker = some p
  | .catching => view.phase = .abandoned
  | .idle | .making _ | .reading | .probing _ | .marking _ | .waiting | .dead => True

/-- The owner a process has found dead. -/
def LockPoint.condemned : LockPoint ι → Option (StateMaintenanceOwner ι)
  | .marking seen | .confirming seen | .removingOwner seen => some seen
  | _ => none

/-- The process has claimed the directory. -/
def LockPoint.claims : LockPoint ι → Bool
  | .writing _ | .discardingOwner | .discardingDirectory | .removingMark | .removingDirectory
  | .releasingDirectory => true
  | _ => false

/-- The process has put up the reclaim mark. -/
def LockPoint.marks : LockPoint ι → Bool
  | .confirming _ | .removingOwner _ | .removingMark | .withdrawing => true
  | _ => false

/-- The process has its record in the directory. -/
def LockPoint.records : LockPoint ι → Bool
  | .holding .. | .releasing _ | .releasingOwner _ => true
  | _ => false

theorem shows_absent {directory : Option (LockDirectory ι)} (hs : Shows view directory)
    (hd : directory = none) : view.phase = .absent ∧ view.marker = none := by
  subst hd
  unfold Shows at hs
  split at hs
  all_goals simp_all

theorem shows_claimed {directory : Option (LockDirectory ι)} (hs : Shows view directory)
    (hp : view.phase = .claimed p) :
    ∃ mark, directory = some ⟨none, mark⟩ ∧ (view.marker ≠ none → mark = true) := by
  unfold Shows at hs
  rw [hp] at hs
  match directory, hs with
  | some ⟨none, mark⟩, hs => exact ⟨mark, rfl, hs⟩

theorem shows_owned {directory : Option (LockDirectory ι)} (hs : Shows view directory)
    {owner : StateMaintenanceOwner ι} (hp : view.phase = .owned owner) :
    ∃ mark, directory = some ⟨some owner, mark⟩ ∧ (view.marker ≠ none → mark = true) := by
  unfold Shows at hs
  rw [hp] at hs
  match directory, hs with
  | some ⟨some _, mark⟩, ⟨rfl, hmark⟩ => exact ⟨mark, rfl, hmark⟩

theorem shows_abandoned {directory : Option (LockDirectory ι)} (hs : Shows view directory)
    (hp : view.phase = .abandoned) : ∃ mark, directory = some ⟨none, mark⟩ := by
  unfold Shows at hs
  rw [hp] at hs
  match directory, hs with
  | some ⟨none, mark⟩, _ => exact ⟨mark, rfl⟩

/-- A record in the directory is the one of its owner. -/
theorem shows_owner {directory : Option (LockDirectory ι)} (hs : Shows view directory)
    {owner : StateMaintenanceOwner ι} (ho : ownerOf directory = some owner) :
    view.phase = .owned owner := by
  cases hphase : view.phase with
  | absent =>
    unfold Shows at hs
    rw [hphase] at hs
    split at hs
    all_goals simp_all [ownerOf]
  | claimed q =>
    obtain ⟨mark, rfl, -⟩ := shows_claimed hs hphase
    cases ho
  | owned owner' =>
    obtain ⟨mark, rfl, -⟩ := shows_owned hs hphase
    rw [Option.some.inj ho]
  | abandoned =>
    obtain ⟨mark, rfl⟩ := shows_abandoned hs hphase
    cases ho

/-- Whoever has a mark up has put it in the directory. -/
theorem shows_marked {directory : Option (LockDirectory ι)} (hs : Shows view directory)
    (hphase : view.phase ≠ .abandoned) (hm : view.marker = some p) :
    ∃ owner, directory = some ⟨owner, true⟩ := by
  have hne : view.marker ≠ none := by simp [hm]
  cases hp : view.phase with
  | absent =>
    unfold Shows at hs
    rw [hp] at hs
    match directory, hs with
    | none, hnone => exact absurd hnone hne
  | claimed q =>
    obtain ⟨mark, rfl, hmark⟩ := shows_claimed hs hp
    exact ⟨none, by rw [hmark hne]⟩
  | owned owner =>
    obtain ⟨mark, rfl, hmark⟩ := shows_owned hs hp
    exact ⟨some owner, by rw [hmark hne]⟩
  | abandoned => exact absurd hp hphase

/-- Another process does not mind a change of the phase that is none of its own. -/
theorem Fits.of_phase {point : LockPoint ι} (hf : Fits view q point)
    (hclaimed : view.phase ≠ .claimed q)
    (howned : ∀ owner, view.phase = .owned owner → owner.pid = q → point.records = false)
    (hremoving : ∀ seen, point = .removingOwner seen → view.marker ≠ some q)
    (habandoned : view.phase = .abandoned → view'.phase = .abandoned)
    (hmarker : view.marker = some q → view'.marker = some q) : Fits view' q point := by
  cases point with
  | writing | discardingOwner | discardingDirectory | removingDirectory | releasingDirectory =>
    exact absurd hf hclaimed
  | removingMark => exact absurd hf.1 hclaimed
  | holding | releasing | releasingOwner =>
    obtain ⟨owner, hphase, hpid, -⟩ := hf
    exact absurd (howned owner hphase hpid) (by simp [LockPoint.records])
  | removingOwner seen => exact absurd hf.2 (hremoving seen rfl)
  | catching => exact habandoned hf
  | confirming | withdrawing => exact hf.imp habandoned hmarker
  | idle | making | reading | probing | marking | waiting | dead => trivial

/-- Another process does not mind a change of a mark that is not its own. -/
theorem Fits.of_marker {point : LockPoint ι} (hf : Fits view q point)
    (hphase : view'.phase = view.phase)
    (hmarker : view.marker = some q → view'.marker = some q) : Fits view' q point := by
  cases point with
  | writing | discardingOwner | discardingDirectory | removingDirectory | releasingDirectory
  | catching => exact hphase.trans hf
  | removingMark => exact ⟨hphase.trans hf.1, hmarker hf.2⟩
  | holding | releasing | releasingOwner =>
    obtain ⟨owner, howned, hpid⟩ := hf
    exact ⟨owner, hphase.trans howned, hpid⟩
  | removingOwner seen => exact ⟨hphase.trans hf.1, hmarker hf.2⟩
  | confirming | withdrawing => exact hf.imp hphase.trans hmarker
  | idle | making | reading | probing | marking | waiting | dead => trivial

end view

/-! ## The invariant -/

section invariant

variable {ι : Type} [DecidableEq ι] {hostname : ι → JsString} {careful : Prop}
variable {s : LockSystem ι} {view view' : LockView ι} {p : ι}
variable {next : LockPoint ι × Option (LockDirectory ι)} {action : LockAction}

/-- What a directory nobody takes care of looks like. -/
structure Kept (s : LockSystem ι) (view : LockView ι) : Prop where
  phase : view.phase ≠ .abandoned
  claimed : ∀ q, view.phase = .claimed q → (s.point q).claims = true
  owned : ∀ owner, view.phase = .owned owner →
    s.point owner.pid = .dead ∨ (s.point owner.pid).records = true
  marked : ∀ directory, s.shared = some directory → directory.reclaim = true → view.marker ≠ none
  marker : ∀ q, view.marker = some q → (s.point q).marks = true

/-- The directory and the points of all processes go with the phase. -/
structure Consistent (careful : Prop) (s : LockSystem ι) (view : LockView ι) : Prop where
  shows : Shows view s.shared
  fits : ∀ q, Fits view q (s.point q)
  condemned : ∀ q seen, (s.point q).condemned = some seen → s.point seen.pid = .dead
  kept : careful → Kept s view

/-- A step that does not leave the directory to itself: nobody dies at work in it,
and it is not removed while a reclaim mark is up. -/
def Careful (s : LockSystem ι) (p : ι) : LockAction → Prop
  | .crash => (s.point p).claims = false ∧ (s.point p).marks = false
  | .proceed _ =>
    s.point p = .discardingDirectory ∨ s.point p = .removingDirectory ∨
      s.point p = .releasingDirectory → ∀ directory, s.shared = some directory →
        directory.reclaim = false
  | _ => True

omit [DecidableEq ι] in
theorem consistent_initial :
    Consistent careful (LockSystem.initial : LockSystem ι) ⟨.absent, none⟩ := by
  refine ⟨rfl, fun q => trivial, ?_, fun _ => ⟨?_, ?_, ?_, ?_, ?_⟩⟩
  all_goals simp [LockSystem.initial, LockPoint.condemned]

/-- A process has moved, and the others do not mind. -/
theorem Consistent.move (hc : Consistent careful s view) (hlive : s.point p ≠ .dead)
    (hshows : Shows view' next.2) (hfits : Fits view' p next.1)
    (hothers : ∀ q, q ≠ p → Fits view q (s.point q) → Fits view' q (s.point q))
    (hcondemned : ∀ seen, next.1.condemned = some seen → s.point seen.pid = .dead)
    (hkept : careful → Kept s view → Kept (s.move p next) view') :
    Consistent careful (s.move p next) view' := by
  -- the dead stay dead
  have hdead : ∀ q, s.point q = .dead → (s.move p next).point q = .dead := by
    intro q hq
    have hne : q ≠ p := by
      rintro rfl
      exact hlive hq
    rw [move_point_of_ne _ _ hne]
    exact hq
  refine ⟨hshows, fun q => ?_, fun q seen hseen => ?_, fun hcareful => hkept hcareful (hc.kept hcareful)⟩
  · by_cases hq : q = p
    · subst hq
      rw [move_point_self]
      exact hfits
    · rw [move_point_of_ne _ _ hq]
      exact hothers q hq (hc.fits q)
  · by_cases hq : q = p
    · subst hq
      rw [move_point_self] at hseen
      exact hdead _ (hcondemned seen hseen)
    · rw [move_point_of_ne _ _ hq] at hseen
      exact hdead _ (hc.condemned q seen hseen)

/-- What is kept when a process has moved: each part for the process itself, and
for the others. -/
theorem Kept.move (hk : Kept s view) (hphase : view'.phase ≠ .abandoned)
    (hclaimed : ∀ q, view'.phase = .claimed q →
      q = p ∧ next.1.claims = true ∨ q ≠ p ∧ view.phase = .claimed q)
    (howned : ∀ owner, view'.phase = .owned owner →
      owner.pid = p ∧ (next.1 = .dead ∨ next.1.records = true) ∨
        owner.pid ≠ p ∧ view.phase = .owned owner)
    (hmarked : ∀ directory, next.2 = some directory → directory.reclaim = true →
      view'.marker ≠ none)
    (hmarker : ∀ q, view'.marker = some q →
      q = p ∧ next.1.marks = true ∨ q ≠ p ∧ view.marker = some q) :
    Kept (s.move p next) view' := by
  refine ⟨hphase, fun q hq => ?_, fun owner ho => ?_, hmarked, fun q hq => ?_⟩
  · rcases hclaimed q hq with ⟨rfl, hclaims⟩ | ⟨hne, hold⟩
    · rwa [move_point_self]
    · rw [move_point_of_ne _ _ hne]
      exact hk.claimed q hold
  · rcases howned owner ho with ⟨hpid, hrecords⟩ | ⟨hne, hold⟩
    · rw [hpid, move_point_self]
      exact hrecords
    · rw [move_point_of_ne _ _ hne]
      exact hk.owned owner hold
  · rcases hmarker q hq with ⟨rfl, hmarks⟩ | ⟨hne, hold⟩
    · rwa [move_point_self]
    · rw [move_point_of_ne _ _ hne]
      exact hk.marker q hold

/-- A process has moved without touching the directory, and stands for as much as
before. -/
theorem Consistent.stay (hc : Consistent careful s view) {point : LockPoint ι}
    (hlive : s.point p ≠ .dead) (hfits : Fits view p point)
    (hcondemned : ∀ seen, point.condemned = some seen → s.point seen.pid = .dead)
    (hclaims : (s.point p).claims = true → point.claims = true)
    (hrecords : (s.point p).records = true → point.records = true)
    (hmarks : (s.point p).marks = true → point.marks = true) :
    Consistent careful (s.move p (point, s.shared)) view := by
  refine hc.move hlive hc.shows hfits (fun q _ hq => hq) hcondemned fun _ hk => ?_
  refine hk.move hk.phase (fun q hq => ?_) (fun owner ho => ?_) hk.marked fun q hq => ?_
  · by_cases hqp : q = p
    · subst hqp
      exact .inl ⟨rfl, hclaims (hk.claimed q hq)⟩
    · exact .inr ⟨hqp, hq⟩
  · by_cases hqp : owner.pid = p
    · refine .inl ⟨hqp, .inr (hrecords ?_)⟩
      rcases hk.owned owner ho with hdead | hrec
      · exact absurd (hqp ▸ hdead) hlive
      · exact hqp ▸ hrec
    · exact .inr ⟨hqp, ho⟩
  · by_cases hqp : q = p
    · subst hqp
      exact .inl ⟨rfl, hmarks (hk.marker q hq)⟩
    · exact .inr ⟨hqp, hq⟩

/-! ## Steps on the directory -/

/-- Where the directory is as good as left, it stays so. -/
def StaysAbandoned (view view' : LockView ι) : Prop :=
  view.phase = .abandoned → view'.phase = .abandoned

omit [DecidableEq ι] in
theorem stays_of_phase {phase : LockPhase ι} (hp : view.phase = phase)
    (hne : phase ≠ .abandoned) : StaysAbandoned view view' :=
  fun habandoned => (hne (hp.symm.trans habandoned)).elim

/-- A process dies. -/
theorem Consistent.crash (hc : Consistent careful s view) (hlive : s.point p ≠ .dead)
    (hcareful : careful → (s.point p).claims = false ∧ (s.point p).marks = false) :
    ∃ view', Consistent careful (s.move p (.dead, s.shared)) view' ∧ StaysAbandoned view view' := by
  classical
  refine ⟨⟨if view.phase = .claimed p then .abandoned else view.phase,
    if view.marker = some p then none else view.marker⟩, hc.move hlive ?_ trivial ?_ ?_ ?_, ?_⟩
  · -- what the dead process had claimed nobody takes care of
    have hshows := hc.shows
    by_cases hp : view.phase = .claimed p
    · obtain ⟨mark, hd, -⟩ := shows_claimed hshows hp
      simp [Shows, hp, hd]
    · unfold Shows at hshows ⊢
      simp only [hp, if_false]
      split at hshows
      all_goals simp_all
  · intro q hq hf
    by_cases hp : view.phase = .claimed p
    · refine hf.of_phase ?_ ?_ ?_ ?_ ?_
      · rw [hp]
        rintro ⟨⟩
        exact hq rfl
      · intro owner ho
        rw [hp] at ho
        cases ho
      · intro seen hseen
        rw [hseen, Fits, hp] at hf
        cases hf.1
      · simp [hp]
      · intro hm
        simp [hm, hq]
    · refine hf.of_marker (by simp [hp]) fun hm => ?_
      simp [hm, hq]
  · intro seen hseen
    cases hseen
  · intro hcare hk
    obtain ⟨hclaims, hmarks⟩ := hcareful hcare
    have hphase : view.phase ≠ .claimed p := by
      intro hp
      rw [hk.claimed p hp] at hclaims
      cases hclaims
    have hmarker : view.marker ≠ some p := by
      intro hm
      rw [hk.marker p hm] at hmarks
      cases hmarks
    simp only [hphase, hmarker, if_false]
    refine hk.move hk.phase (fun q hq => .inr ⟨?_, hq⟩) (fun owner ho => ?_) hk.marked
      (fun q hq => .inr ⟨?_, hq⟩)
    · rintro rfl
      exact hphase hq
    · by_cases hpid : owner.pid = p
      · exact .inl ⟨hpid, .inl rfl⟩
      · exact .inr ⟨hpid, ho⟩
    · rintro rfl
      exact hmarker hq
  · intro habandoned
    simp [habandoned]

/-- The directory is made. -/
theorem Consistent.make (hc : Consistent careful s view) {token : JsString}
    (hp : s.point p = .making token) (hd : s.shared = none) :
    Consistent careful (s.move p (.writing token, some ⟨none, false⟩)) ⟨.claimed p, none⟩ := by
  obtain ⟨hphase, hmarker⟩ := shows_absent hc.shows hd
  refine hc.move (by simp [hp]) ?_ rfl ?_ ?_ ?_
  · intro hne
    exact absurd rfl hne
  · intro q _ hf
    exact hf.of_phase (by simp [hphase]) (by simp [hphase]) (by simp [hmarker]) (by simp [hphase])
      (by simp [hmarker])
  · intro seen hseen
    cases hseen
  · intro _ hk
    refine hk.move (by simp) (fun q hq => .inl ⟨?_, rfl⟩) (by simp) ?_ (by simp)
    · exact (LockPhase.claimed.inj hq).symm
    · rintro directory ⟨rfl⟩ hreclaim
      cases hreclaim

/-- The owner record is written. -/
theorem Consistent.write (hc : Consistent careful s view) {token : JsString}
    (hp : s.point p = .writing token) {mark : Bool} (hd : s.shared = some ⟨none, mark⟩)
    (owner : StateMaintenanceOwner ι) (hpid : owner.pid = p) (htoken : owner.token = token) :
    Consistent careful (s.move p (.holding token 1, some ⟨some owner, mark⟩))
      ⟨.owned owner, view.marker⟩ := by
  have hphase : view.phase = .claimed p := by
    have hf := hc.fits p
    rwa [hp] at hf
  obtain ⟨mark', hd', hmark⟩ := shows_claimed hc.shows hphase
  obtain rfl : mark = mark' := by
    rw [hd] at hd'
    cases hd'
    rfl
  refine hc.move (by simp [hp]) ⟨rfl, hmark⟩ ⟨owner, rfl, hpid, htoken⟩ ?_ ?_ ?_
  · intro q hq hf
    refine hf.of_phase ?_ (by simp [hphase]) ?_ (by simp [hphase]) id
    · rw [hphase]
      rintro ⟨⟩
      exact hq rfl
    · intro seen hseen
      rw [hseen, Fits, hphase] at hf
      cases hf.1
  · intro seen hseen
    cases hseen
  · intro _ hk
    refine hk.move (by simp) (by simp) ?_ ?_ ?_
    · rintro _ ⟨rfl⟩
      exact .inl ⟨hpid, .inr rfl⟩
    · rintro directory ⟨rfl⟩ hreclaim
      exact hk.marked _ hd hreclaim
    · intro q hq
      refine .inr ⟨?_, hq⟩
      rintro rfl
      have hmarks := hk.marker q hq
      rw [hp] at hmarks
      cases hmarks

/-- A directory that was claimed is removed. -/
theorem Consistent.remove (hc : Consistent careful s view) (hlive : s.point p ≠ .dead)
    (hphase : view.phase = .claimed p) (hd : s.shared = some ⟨none, false⟩)
    {point : LockPoint ι} (hpoint : point = .idle ∨ point = .waiting) :
    Consistent careful (s.move p (point, none)) ⟨.absent, none⟩ := by
  obtain ⟨mark, hd', hmark⟩ := shows_claimed hc.shows hphase
  have hmarker : view.marker = none := by
    by_contra hne
    rw [hd, hmark hne] at hd'
    cases hd'
  refine hc.move hlive rfl ?_ ?_ ?_ ?_
  · rcases hpoint with rfl | rfl
    · trivial
    · trivial
  · intro q hq hf
    refine hf.of_phase ?_ (by simp [hphase]) (by simp [hmarker]) (by simp [hphase])
      (by simp [hmarker])
    rw [hphase]
    rintro ⟨⟩
    exact hq rfl
  · intro seen hseen
    rcases hpoint with rfl | rfl
    · cases hseen
    · cases hseen
  · intro _ hk
    exact hk.move (by simp) (by simp) (by simp) (by simp) (by simp)

/-- A directory that was claimed cannot be removed, for a mark is up. -/
theorem Consistent.abandon (hc : Consistent careful s view) (hlive : s.point p ≠ .dead)
    (hphase : view.phase = .claimed p) (hcareless : ¬ careful)
    {point : LockPoint ι} (hpoint : point = .idle ∨ point = .catching) :
    Consistent careful (s.move p (point, s.shared)) ⟨.abandoned, view.marker⟩ := by
  obtain ⟨mark, hd, -⟩ := shows_claimed hc.shows hphase
  refine hc.move hlive ?_ ?_ ?_ ?_ (fun hcareful => absurd hcareful hcareless)
  · rw [hd]
    trivial
  · rcases hpoint with rfl | rfl
    · trivial
    · rfl
  · intro q hq hf
    refine hf.of_phase ?_ (by simp [hphase]) ?_ (fun _ => rfl) id
    · rw [hphase]
      rintro ⟨⟩
      exact hq rfl
    · intro seen hseen
      rw [hseen, Fits, hphase] at hf
      cases hf.1
  · intro seen hseen
    rcases hpoint with rfl | rfl
    · cases hseen
    · cases hseen

/-- A reclaim mark is put up. -/
theorem Consistent.mark (hc : Consistent careful s view) {seen : StateMaintenanceOwner ι}
    (hp : s.point p = .marking seen) {owner : Option (StateMaintenanceOwner ι)}
    (hd : s.shared = some ⟨owner, false⟩) :
    ∃ view', Consistent careful (s.move p (.confirming seen, some ⟨owner, true⟩)) view' ∧
      StaysAbandoned view view' := by
  by_cases hphase : view.phase = .abandoned
  · -- nobody takes care of the directory, with or without a mark
    obtain ⟨mark, hd'⟩ := shows_abandoned hc.shows hphase
    obtain rfl : owner = none := by
      rw [hd] at hd'
      cases hd'
      rfl
    refine ⟨view, hc.move (by simp [hp]) ?_ (.inl hphase) (fun _ _ hf => hf) ?_ ?_, id⟩
    · unfold Shows
      rw [hphase]
      trivial
    · intro seen' hseen
      exact hc.condemned p seen' (by rw [hp]; exact hseen)
    · intro _ hk
      exact absurd hphase hk.phase
  · have hmarker : view.marker = none := by
      cases hm : view.marker with
      | none => rfl
      | some q =>
        obtain ⟨owner', hd'⟩ := shows_marked hc.shows hphase hm
        rw [hd] at hd'
        cases hd'
    refine ⟨⟨view.phase, some p⟩, hc.move (by simp [hp]) ?_ (.inr rfl) ?_ ?_ ?_, id⟩
    · have hshows := hc.shows
      rw [hd] at hshows
      unfold Shows at hshows ⊢
      split at hshows
      all_goals simp_all
    · intro q _ hf
      exact hf.of_marker rfl (by simp [hmarker])
    · intro seen' hseen
      exact hc.condemned p seen' (by rw [hp]; exact hseen)
    · intro _ hk
      refine hk.move hphase (fun q hq => .inr ⟨?_, hq⟩) (fun o ho => .inr ⟨?_, ho⟩) (by simp) ?_
      · rintro rfl
        have hclaims := hk.claimed q hq
        rw [hp] at hclaims
        cases hclaims
      · intro hpid
        rcases hk.owned o ho with hdead | hrecords
        · rw [hpid, hp] at hdead
          cases hdead
        · rw [hpid, hp] at hrecords
          cases hrecords
      · rintro q ⟨rfl⟩
        exact .inl ⟨rfl, rfl⟩

/-- The owner record is removed, by its owner or after the owner's death. -/
theorem Consistent.clearOwner (hc : Consistent careful s view) (hlive : s.point p ≠ .dead)
    {owner : StateMaintenanceOwner ι} (hphase : view.phase = .owned owner) {mark : Bool}
    (hd : s.shared = some ⟨some owner, mark⟩)
    (hby : owner.pid = p ∨ s.point owner.pid = .dead ∧ view.marker = some p)
    {point : LockPoint ι} (hfits : Fits ⟨.claimed p, view.marker⟩ p point)
    (hcondemned : point.condemned = none) (hclaims : point.claims = true)
    (hmarks : (s.point p).marks = true → point.marks = true) :
    Consistent careful (s.move p (point, some ⟨none, mark⟩)) ⟨.claimed p, view.marker⟩ := by
  obtain ⟨mark', hd', hmark⟩ := shows_owned hc.shows hphase
  obtain rfl : mark = mark' := by
    rw [hd] at hd'
    cases hd'
    rfl
  refine hc.move hlive hmark hfits ?_ ?_ ?_
  · intro q hq hf
    refine hf.of_phase (by simp [hphase]) ?_ ?_ (by simp [hphase]) id
    · intro o ho hpid
      obtain rfl : owner = o := by
        rw [hphase] at ho
        exact LockPhase.owned.inj ho
      rcases hby with hby | ⟨hdead, -⟩
      · exact absurd (hpid.symm.trans hby) hq
      · rw [hpid] at hdead
        rw [hdead]
        rfl
    · intro seen hseen hm
      have hpoint := hc.fits q
      rw [hseen, Fits, hphase] at hpoint
      obtain rfl : owner = seen := LockPhase.owned.inj hpoint.1
      rcases hby with hby | ⟨-, hmarker⟩
      · have hdead := hc.condemned q owner (by rw [hseen]; rfl)
        rw [hby] at hdead
        exact hlive hdead
      · rw [hmarker] at hm
        exact hq (Option.some.inj hm).symm
  · intro seen hseen
    rw [hcondemned] at hseen
    cases hseen
  · intro _ hk
    refine hk.move (by simp) (fun q hq => .inl ⟨?_, hclaims⟩) (by simp) ?_ fun q hq => ?_
    · exact (LockPhase.claimed.inj hq).symm
    · rintro directory ⟨rfl⟩ hreclaim
      exact hk.marked _ hd hreclaim
    · by_cases hqp : q = p
      · subst hqp
        exact .inl ⟨rfl, hmarks (hk.marker q hq)⟩
      · exact .inr ⟨hqp, hq⟩

/-- A process takes its own mark away. -/
theorem Consistent.unmark (hc : Consistent careful s view) (hlive : s.point p ≠ .dead)
    (hphase : view.phase ≠ .abandoned) (hm : view.marker = some p)
    {owner : Option (StateMaintenanceOwner ι)} (hd : s.shared = some ⟨owner, true⟩)
    {point : LockPoint ι} (hfits : Fits ⟨view.phase, none⟩ p point)
    (hcondemned : point.condemned = none)
    (hclaims : (s.point p).claims = true → point.claims = true)
    (hrecords : (s.point p).records = false) :
    Consistent careful (s.move p (point, some ⟨owner, false⟩)) ⟨view.phase, none⟩ := by
  refine hc.move hlive ?_ hfits ?_ ?_ ?_
  · have hshows := hc.shows
    rw [hd] at hshows
    unfold Shows at hshows ⊢
    split at hshows
    all_goals simp_all
  · intro q hq hf
    refine hf.of_marker rfl fun hmq => ?_
    rw [hm] at hmq
    exact absurd (Option.some.inj hmq).symm hq
  · intro seen hseen
    rw [hcondemned] at hseen
    cases hseen
  · intro _ hk
    refine hk.move hphase (fun q hq => ?_) (fun o ho => .inr ⟨?_, ho⟩) ?_ (by simp)
    · by_cases hqp : q = p
      · subst hqp
        exact .inl ⟨rfl, hclaims (hk.claimed q hq)⟩
      · exact .inr ⟨hqp, hq⟩
    · rintro rfl
      rcases hk.owned o ho with hdead | hrec
      · exact hlive hdead
      · rw [hrecords] at hrec
        cases hrec
    · rintro directory ⟨rfl⟩ hreclaim
      cases hreclaim

/-- A mark is taken away from a directory nobody takes care of. -/
theorem Consistent.unmarkAbandoned (hc : Consistent careful s view) (hlive : s.point p ≠ .dead)
    (hphase : view.phase = .abandoned) :
    Consistent careful
      (s.move p (.waiting, s.shared.map fun directory => { directory with reclaim := false }))
      view := by
  obtain ⟨mark, hd⟩ := shows_abandoned hc.shows hphase
  refine hc.move hlive ?_ trivial (fun _ _ hf => hf) ?_ ?_
  · rw [hd]
    unfold Shows
    rw [hphase]
    trivial
  · intro seen hseen
    cases hseen
  · intro _ hk
    exact absurd hphase hk.phase

/-! ## Every step -/

/-- A directory that was claimed is removed, or is left with a mark. -/
theorem Consistent.rmdir (hc : Consistent careful s view) (hlive : s.point p ≠ .dead)
    (hphase : view.phase = .claimed p)
    (hcareful : careful → ∀ directory, s.shared = some directory → directory.reclaim = false) :
    ∃ view', Consistent careful (s.move p (.idle, rmdir s.shared)) view' ∧
      StaysAbandoned view view' := by
  obtain ⟨mark, hd, -⟩ := shows_claimed hc.shows hphase
  cases mark with
  | false =>
    rw [hd]
    exact ⟨_, hc.remove hlive hphase hd (.inl rfl), stays_of_phase hphase nofun⟩
  | true =>
    have hcareless : ¬ careful := by
      intro hcare
      cases hcareful hcare _ hd
    have hsame : MaintenanceLock.rmdir s.shared = s.shared := by
      rw [hd]
      rfl
    rw [hsame]
    exact ⟨_, hc.abandon hlive hphase hcareless (.inl rfl), stays_of_phase hphase nofun⟩

/-- What one point stands for another one stands for, too. -/
def StandsFor (point point' : LockPoint ι) : Prop :=
  (point.claims = true → point'.claims = true) ∧ (point.records = true → point'.records = true) ∧
    (point.marks = true → point'.marks = true)

/-- A step between two points that leaves the directory alone. -/
theorem Consistent.goes (hc : Consistent careful s view) {point point' : LockPoint ι}
    (hp : s.point p = point) (hlive : point ≠ .dead)
    (hfits : Fits view p point → Fits view p point')
    (hcondemned : ∀ seen, point'.condemned = some seen → s.point seen.pid = .dead)
    (hstands : StandsFor point point') :
    ∃ view', Consistent careful (s.move p (point', s.shared)) view' ∧ StaysAbandoned view view' := by
  obtain ⟨hclaims, hrecords, hmarks⟩ := hstands
  subst hp
  exact ⟨view, hc.stay hlive (hfits (hc.fits p)) hcondemned hclaims hrecords hmarks, id⟩

/-- **The step lemma.** Every step keeps the directory and the processes in line
with a phase, and an abandoned directory abandoned. -/
theorem Consistent.step (hc : Consistent careful s view)
    (hcareful : careful → Careful s p action) (hstep : lockProgram hostname p action s = some next) :
    ∃ view', Consistent careful (s.move p next) view' ∧ StaysAbandoned view view' := by
  have hfits := hc.fits p
  unfold lockProgram at hstep
  split at hstep
  · cases hstep
  · -- any point, `crash`
    rename_i hlive
    cases hstep
    exact hc.crash hlive hcareful
  · -- `idle`, `acquire`
    rename_i hp
    cases hstep
    exact hc.goes hp (by simp) (fun _ => trivial) (by simp [LockPoint.condemned]) ⟨id, id, id⟩
  · -- `waiting`, `acquire`
    rename_i hp
    cases hstep
    exact hc.goes hp (by simp) (fun _ => trivial) (by simp [LockPoint.condemned]) ⟨id, id, id⟩
  · -- `waiting`, `timeout`
    rename_i hp
    cases hstep
    exact hc.goes hp (by simp) (fun _ => trivial) (by simp [LockPoint.condemned]) ⟨id, id, id⟩
  · -- `making`: the directory is made, or it is there
    rename_i hp
    split at hstep
    · rename_i hd
      cases hstep
      exact ⟨_, hc.make hp hd, stays_of_phase (shows_absent hc.shows hd).1 nofun⟩
    · cases hstep
      exact hc.goes hp (by simp) (fun _ => trivial) (by simp [LockPoint.condemned]) ⟨id, id, id⟩
  · -- `making`, `fail`
    rename_i hp
    cases hstep
    exact hc.goes hp (by simp) (fun _ => trivial) (by simp [LockPoint.condemned]) ⟨id, id, id⟩
  · -- `writing`: the directory is still there, and has no record
    rename_i hp
    rw [hp] at hfits
    obtain ⟨mark, hd, -⟩ := shows_claimed hc.shows hfits
    rw [hd] at hstep
    cases hstep
    exact ⟨_, hc.write hp hd _ rfl rfl, stays_of_phase hfits nofun⟩
  · -- `writing`, `fail`
    rename_i hp
    cases hstep
    exact hc.goes hp (by simp) id (by simp [LockPoint.condemned]) ⟨id, id, id⟩
  · -- `discardingOwner`: no record was written
    rename_i hp
    rw [hp] at hfits
    obtain ⟨mark, hd, -⟩ := shows_claimed hc.shows hfits
    have hsame : (s.shared.map fun directory => { directory with owner := none }) = s.shared := by
      rw [hd]
      rfl
    rw [hsame] at hstep
    cases hstep
    exact hc.goes hp (by simp) id (by simp [LockPoint.condemned]) ⟨id, id, id⟩
  · -- `discardingDirectory`
    rename_i hp
    rw [hp] at hfits
    cases hstep
    exact hc.rmdir (by simp [hp]) hfits fun hcare => hcareful hcare (.inl hp)
  · -- `reading`
    rename_i hp
    split at hstep
    · cases hstep
      exact hc.goes hp (by simp) (fun _ => trivial) (by simp [LockPoint.condemned]) ⟨id, id, id⟩
    · cases hstep
      exact hc.goes hp (by simp) (fun _ => trivial) (by simp [LockPoint.condemned]) ⟨id, id, id⟩
  · -- `probing`: only a dead owner is condemned
    rename_i hp
    split at hstep
    · rename_i hdead
      cases hstep
      refine hc.goes hp (by simp) (fun _ => trivial) (fun seen hseen => ?_) ⟨id, id, id⟩
      obtain rfl := Option.some.inj hseen
      exact hdead.2
    · cases hstep
      exact hc.goes hp (by simp) (fun _ => trivial) (by simp [LockPoint.condemned]) ⟨id, id, id⟩
  · -- `marking`
    rename_i hp
    split at hstep
    · rename_i hd
      cases hstep
      exact hc.mark hp hd
    · cases hstep
      exact hc.goes hp (by simp) (fun _ => trivial) (by simp [LockPoint.condemned]) ⟨id, id, id⟩
  · -- `confirming`: the owner is the one that was seen, or it is not
    rename_i seen _ hp
    rw [hp] at hfits
    split at hstep
    · rename_i howner
      cases hstep
      refine hc.goes hp (by simp) (fun _ => ?_) (fun seen' hseen => ?_) ⟨id, id, id⟩
      · have hphase := shows_owner hc.shows howner
        rcases hfits with habandoned | hmarker
        · rw [hphase] at habandoned
          cases habandoned
        · exact ⟨hphase, hmarker⟩
      · exact hc.condemned p seen' (by rw [hp]; exact hseen)
    · cases hstep
      exact hc.goes hp (by simp) id (by simp [LockPoint.condemned]) ⟨id, id, id⟩
  · -- `removingOwner`: the record is the one that was seen
    rename_i seen _ hp
    rw [hp] at hfits
    obtain ⟨mark, hd, -⟩ := shows_owned hc.shows hfits.1
    rw [hd] at hstep
    cases hstep
    have hdead : s.point seen.pid = .dead := hc.condemned p seen (by rw [hp]; rfl)
    exact ⟨_, hc.clearOwner (by simp [hp]) hfits.1 hd (.inr ⟨hdead, hfits.2⟩) ⟨rfl, hfits.2⟩ rfl
      rfl (fun _ => rfl), stays_of_phase hfits.1 nofun⟩
  · -- `removingMark`: the mark is still the own one
    rename_i hp
    rw [hp] at hfits
    have hphase : view.phase ≠ .abandoned := by simp [hfits.1]
    obtain ⟨owner, hd⟩ := shows_marked hc.shows hphase hfits.2
    rw [hd] at hstep
    cases hstep
    refine ⟨_, hc.unmark (by simp [hp]) hphase hfits.2 hd hfits.1 rfl (fun _ => rfl)
      (by rw [hp]; rfl), fun habandoned => absurd habandoned hphase⟩
  · -- `removingDirectory`
    rename_i hp
    rw [hp] at hfits
    obtain ⟨mark, hd, -⟩ := shows_claimed hc.shows hfits
    rw [hd] at hstep
    cases mark with
    | false =>
      cases hstep
      exact ⟨_, hc.remove (by simp [hp]) hfits hd (.inr rfl), stays_of_phase hfits nofun⟩
    | true =>
      cases hstep
      have hcareless : ¬ careful := by
        intro hcare
        cases hcareful hcare (.inr (.inl hp)) _ hd
      rw [← hd]
      exact ⟨_, hc.abandon (by simp [hp]) hfits hcareless (.inr rfl), stays_of_phase hfits nofun⟩
  · -- `withdrawing`: the own mark, unless the directory is abandoned
    rename_i hp
    rw [hp] at hfits
    cases hstep
    by_cases hphase : view.phase = .abandoned
    · exact ⟨view, hc.unmarkAbandoned (by simp [hp]) hphase, id⟩
    · have hmarker := hfits.resolve_left hphase
      obtain ⟨owner, hd⟩ := shows_marked hc.shows hphase hmarker
      rw [hd]
      refine ⟨_, hc.unmark (by simp [hp]) hphase hmarker hd trivial rfl ?_ (by rw [hp]; rfl),
        fun habandoned => absurd habandoned hphase⟩
      simp [hp, LockPoint.claims]
  · -- `catching`
    rename_i hp
    rw [hp] at hfits
    cases hstep
    exact ⟨view, hc.unmarkAbandoned (by simp [hp]) hfits, id⟩
  · -- `holding`, `acquire`
    rename_i hp
    cases hstep
    exact hc.goes hp (by simp) id (by simp [LockPoint.condemned]) ⟨id, id, id⟩
  · -- `holding`, `release`
    rename_i hp
    split at hstep
    · cases hstep
      exact hc.goes hp (by simp) id (by simp [LockPoint.condemned]) ⟨id, id, id⟩
    · cases hstep
      exact hc.goes hp (by simp) id (by simp [LockPoint.condemned]) ⟨id, id, id⟩
  · -- `releasing`: the record is the own one
    rename_i token _ hp
    rw [hp] at hfits
    obtain ⟨owner, hphase, -, htoken⟩ := hfits
    obtain ⟨mark, hd, -⟩ := shows_owned hc.shows hphase
    have howner : ownerOf s.shared = some owner := by
      rw [hd]
      rfl
    simp only [howner, htoken, if_true] at hstep
    cases hstep
    exact hc.goes hp (by simp) id (by simp [LockPoint.condemned]) ⟨id, id, id⟩
  · -- `releasingOwner`
    rename_i hp
    rw [hp] at hfits
    obtain ⟨owner, hphase, hpid, -⟩ := hfits
    obtain ⟨mark, hd, -⟩ := shows_owned hc.shows hphase
    rw [hd] at hstep
    cases hstep
    exact ⟨_, hc.clearOwner (by simp [hp]) hphase hd (.inl hpid) rfl rfl rfl
      (by simp [hp, LockPoint.marks]), stays_of_phase hphase nofun⟩
  · -- `releasingDirectory`
    rename_i hp
    rw [hp] at hfits
    cases hstep
    exact hc.rmdir (by simp [hp]) hfits fun hcare => hcareful hcare (.inr (.inr hp))
  · cases hstep

/-! ## Runs -/

/-- Every run keeps the directory in line with a phase. -/
theorem consistent_of_run {allowed : LockSystem ι → ι → LockAction → Prop}
    (hallowed : careful → ∀ s p action, allowed s p action → Careful s p action)
    (hr : Run (lockProgram hostname) allowed LockSystem.initial s) :
    ∃ view, Consistent careful s view := by
  refine hr.invariant (P := fun s => ∃ view, Consistent careful s view) ?_ ⟨_, consistent_initial⟩
  rintro s p action next ⟨view, hc⟩ hstep hnext
  obtain ⟨view', hc', -⟩ := hc.step (fun hcare => hallowed hcare s p action hstep) hnext
  exact ⟨view', hc'⟩

omit [DecidableEq ι] in
/-- Whoever has a lease has its record in the directory. -/
theorem Consistent.holder (hc : Consistent careful s view) (hp : Holds s p) :
    ∃ owner, view.phase = .owned owner ∧ owner.pid = p := by
  obtain ⟨token, depth, hpoint⟩ := hp
  have hfits := hc.fits p
  rw [hpoint] at hfits
  obtain ⟨owner, hphase, hpid, -⟩ := hfits
  exact ⟨owner, hphase, hpid⟩

/-- **Mutual exclusion.** Under every interleaving, and wherever processes die, no
two processes have a lease on the directory. -/
theorem lock_excludes (hostname : ι → JsString)
    (hr : Run (lockProgram hostname) (fun _ _ _ => True) LockSystem.initial s) {q : ι}
    (hp : Holds s p) (hq : Holds s q) : p = q := by
  have hview : ∃ view, Consistent False s view := consistent_of_run False.elim hr
  obtain ⟨view, hc⟩ := hview
  obtain ⟨owner, hphase, rfl⟩ := hc.holder hp
  obtain ⟨owner', hphase', rfl⟩ := hc.holder hq
  rw [hphase] at hphase'
  rw [LockPhase.owned.inj hphase']

/-! ## What is left behind -/

/-- Nobody has a lease, or is inside of a call. -/
def Quiet (s : LockSystem ι) : Prop := ∀ p, s.point p = .idle ∨ s.point p = .dead

/-- The lock can be had: there is no directory, or every process on the host of its
owner, when it asks for the lock and nobody interferes, gets it. -/
def Recoverable (hostname : ι → JsString) (s : LockSystem ι) : Prop :=
  s.shared = none ∨ ∃ owner, ownerOf s.shared = some owner ∧
    ∀ p, s.point p = .idle → hostname p = owner.hostname →
      ∃ s', Run (lockProgram hostname) (fun _ q _ => q = p) s s' ∧ Holds s' p

/-- A process that is alone takes the directory of a dead owner down, and gets the
lock. -/
theorem reclaims (hp : s.point p = .idle) {owner : StateMaintenanceOwner ι}
    (hd : s.shared = some ⟨some owner, false⟩) (hdead : s.point owner.pid = .dead)
    (hhost : hostname p = owner.hostname) :
    ∃ s', Run (lockProgram hostname) (fun _ q _ => q = p) s s' ∧ Holds s' p := by
  have hne : owner.pid ≠ p := by
    rintro rfl
    rw [hp] at hdead
    cases hdead
  have hprobe : ∀ next, (s.move p next).point owner.pid = .dead := by
    intro next
    rw [move_point_of_ne _ _ hne]
    exact hdead
  have hasked : Run (lockProgram hostname) (fun _ q _ => q = p) s
      (s.move p (.making [], s.shared)) := by
    refine Run.step .refl p (.acquire []) rfl ?_
    simp [lockProgram, hp]
  have hread : Run (lockProgram hostname) (fun _ q _ => q = p) s
      (s.move p (.reading, s.shared)) := by
    refine hasked.go (.proceed 0) rfl ?_
    simp [lockProgram, hd]
  have hprobing : Run (lockProgram hostname) (fun _ q _ => q = p) s
      (s.move p (.probing owner, s.shared)) := by
    refine hread.go (.proceed 0) rfl ?_
    simp [lockProgram, hd, ownerOf]
  have hmarking : Run (lockProgram hostname) (fun _ q _ => q = p) s
      (s.move p (.marking owner, s.shared)) := by
    refine hprobing.go (.proceed 0) rfl ?_
    simp [lockProgram, hprobe, hhost]
  have hconfirming : Run (lockProgram hostname) (fun _ q _ => q = p) s
      (s.move p (.confirming owner, some ⟨some owner, true⟩)) := by
    refine hmarking.go (.proceed 0) rfl ?_
    simp [lockProgram, hd]
  have hremoving : Run (lockProgram hostname) (fun _ q _ => q = p) s
      (s.move p (.removingOwner owner, some ⟨some owner, true⟩)) := by
    refine hconfirming.go (.proceed 0) rfl ?_
    simp [lockProgram, ownerOf]
  have hunmarking : Run (lockProgram hostname) (fun _ q _ => q = p) s
      (s.move p (.removingMark, some ⟨none, true⟩)) := by
    refine hremoving.go (.proceed 0) rfl ?_
    simp [lockProgram]
  have hempty : Run (lockProgram hostname) (fun _ q _ => q = p) s
      (s.move p (.removingDirectory, some ⟨none, false⟩)) := by
    refine hunmarking.go (.proceed 0) rfl ?_
    simp [lockProgram]
  have hgone : Run (lockProgram hostname) (fun _ q _ => q = p) s (s.move p (.waiting, none)) := by
    refine hempty.go (.proceed 0) rfl ?_
    simp [lockProgram]
  -- the loop begins anew, and now there is no directory
  have hmaking : Run (lockProgram hostname) (fun _ q _ => q = p) s (s.move p (.making [], none)) := by
    refine hgone.go (.acquire []) rfl ?_
    simp [lockProgram]
  have hwriting : Run (lockProgram hostname) (fun _ q _ => q = p) s
      (s.move p (.writing [], some ⟨none, false⟩)) := by
    refine hmaking.go (.proceed 0) rfl ?_
    simp [lockProgram]
  have hholding : Run (lockProgram hostname) (fun _ q _ => q = p) s
      (s.move p (.holding [] 1, some ⟨some ⟨[], p, hostname p, 0⟩, false⟩)) := by
    refine hwriting.go (.proceed 0) rfl ?_
    simp [lockProgram]
  exact ⟨_, hholding, [], 1, move_point_self ..⟩

omit [DecidableEq ι] in
/-- A quiet directory somebody takes care of is gone, or has the record of a dead
owner and no mark. -/
theorem Consistent.quiet (hc : Consistent careful s view) (hk : Kept s view) (hq : Quiet s) :
    s.shared = none ∨ ∃ owner, s.shared = some ⟨some owner, false⟩ ∧ s.point owner.pid = .dead := by
  have hidle : ∀ q, (s.point q).claims = false ∧ (s.point q).marks = false ∧
      (s.point q).records = false := by
    intro q
    rcases hq q with hpoint | hpoint
    · rw [hpoint]
      exact ⟨rfl, rfl, rfl⟩
    · rw [hpoint]
      exact ⟨rfl, rfl, rfl⟩
  cases hphase : view.phase with
  | absent =>
    have hshows := hc.shows
    unfold Shows at hshows
    rw [hphase] at hshows
    split at hshows
    all_goals simp_all
  | claimed q =>
    have hclaims := hk.claimed q hphase
    rw [(hidle q).1] at hclaims
    cases hclaims
  | owned owner =>
    obtain ⟨mark, hd, -⟩ := shows_owned hc.shows hphase
    have hunmarked : mark = false := by
      by_contra hmark
      have hmarker := hk.marked _ hd (by simpa using hmark)
      obtain ⟨q, hq⟩ := Option.ne_none_iff_exists'.1 hmarker
      have hmarks := hk.marker q hq
      rw [(hidle q).2.1] at hmarks
      cases hmarks
    refine .inr ⟨owner, by rw [hd, hunmarked], ?_⟩
    rcases hk.owned owner hphase with hdead | hrecords
    · exact hdead
    · rw [(hidle owner.pid).2.2] at hrecords
      cases hrecords
  | abandoned => exact absurd hphase hk.phase

omit [DecidableEq ι] in
/-- Where nobody is at the lock, a directory without a record is abandoned. -/
theorem consistent_of_quiet (hq : Quiet s) {mark : Bool} (hd : s.shared = some ⟨none, mark⟩) :
    Consistent False s ⟨.abandoned, none⟩ := by
  refine ⟨?_, fun q => ?_, fun q seen hseen => ?_, False.elim⟩
  · rw [hd]
    trivial
  · rcases hq q with hpoint | hpoint
    · rw [hpoint]
      trivial
    · rw [hpoint]
      trivial
  · rcases hq q with hpoint | hpoint
    · rw [hpoint] at hseen
      cases hseen
    · rw [hpoint] at hseen
      cases hseen

/-- An abandoned directory is never had again. -/
theorem Consistent.wedged (hc : Consistent False s view) (habandoned : view.phase = .abandoned)
    {s' : LockSystem ι} (hr : Run (lockProgram hostname) (fun _ _ _ => True) s s') :
    ¬ Holds s' p := by
  have hlasts : ∃ view', Consistent False s' view' ∧ view'.phase = .abandoned := by
    refine hr.invariant (P := fun s => ∃ view', Consistent False s view' ∧
      view'.phase = .abandoned) ?_ ⟨view, hc, habandoned⟩
    rintro s p action next ⟨view, hc, habandoned⟩ - hnext
    obtain ⟨view', hc', hstays⟩ := hc.step False.elim hnext
    exact ⟨view', hc', hstays habandoned⟩
  obtain ⟨view', hc', hphase⟩ := hlasts
  intro hp
  obtain ⟨owner, howned, -⟩ := hc'.holder hp
  rw [hphase] at howned
  cases howned

end invariant

/-! Three processes on one host. The first dies with the lock. The second finds it
dead, and is slow. The third takes the directory down and gets the lock; while it
has it, the second puts up its mark. -/

section sample

def sampleHost : Fin 3 → JsString := fun _ => js "host"

def sampleGo (p : Fin 3) (n : ℕ) : List (Fin 3 × LockAction) := List.replicate n (p, .proceed 0)

/-- The first gets the lock and dies. -/
def sampleDeath : List (Fin 3 × LockAction) :=
  (0, .acquire (js "a")) :: sampleGo 0 2 ++ [(0, .crash)]

/-- The third has the lock. -/
def sampleReclaimed : List (Fin 3 × LockAction) :=
  sampleDeath ++ (1, .acquire (js "b")) :: sampleGo 1 3 ++ (2, .acquire (js "c")) :: sampleGo 2 8 ++
    (2, .acquire (js "d")) :: sampleGo 2 2

/-- The third releases the lock under the mark of the second. -/
def sampleWedged : List (Fin 3 × LockAction) :=
  sampleReclaimed ++ sampleGo 1 1 ++ (2, .release) :: sampleGo 2 3 ++ sampleGo 1 2 ++
    [(1, .timeout)]

def sampleAfter (actions : List (Fin 3 × LockAction)) : LockSystem (Fin 3) :=
  (execute (lockProgram sampleHost) actions LockSystem.initial).getD LockSystem.initial

theorem sampleAfter_run (actions : List (Fin 3 × LockAction))
    (h : (execute (lockProgram sampleHost) actions LockSystem.initial).isSome = true) :
    Run (lockProgram sampleHost) (fun _ _ _ => True) LockSystem.initial (sampleAfter actions) := by
  refine run_of_execute (?_ : execute _ actions _ = _)
  unfold sampleAfter
  rw [← Option.get_eq_getD, Option.some_get]
  exact h

theorem lock_excludes_sample :
    Holds (sampleAfter sampleReclaimed) 2 ∧ ∀ q, Holds (sampleAfter sampleReclaimed) q → 2 = q := by
  have hholds : Holds (sampleAfter sampleReclaimed) 2 := ⟨js "d", 1, by decide⟩
  have hrun := sampleAfter_run sampleReclaimed (by decide)
  exact ⟨hholds, fun q hq => lock_excludes sampleHost hrun hholds hq⟩

end sample

end Autopilot.MaintenanceLock
