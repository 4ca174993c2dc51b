/-
The worker lock and its two implementations.

The hooks take it for an agent (`createWorkerLock` and `releaseWorkerLock` of
`autopilot-hook.mjs`), with an access to the file system at each step: they make the file,
and write their record into it afterwards. The supervisor takes it for a worker run
(`acquireWorkerLock` and `releaseWorkerLock` of `cliWorker.ts`), each in one step, since
both hold the lock of the state directory and put a whole file in place.

The shared state is the file and the clock. Beside them stands who has acquired the lock
and not released it, which no step reads.
-/
import Autopilot.Js
import Autopilot.Lib.Interleaving
import Mathlib.Data.Rat.Defs
import Mathlib.Tactic.Linarith

set_option autoImplicit false

namespace Autopilot.WorkerLocks

open Parallel

/-! ## The lock file -/

/-- `WORKER_LOCK_STALE_MS`. -/
def workerLockStaleMs : ℤ := 2 * 60 * 60 * 1000

/-- `WORKER_LOCK_TTL_MINUTES`. -/
def workerLockTtlMinutes : ℚ := 30

/-- `WorkerLockRecord`, as far as it is read: a time or a number that is not finite is
none. -/
structure WorkerLockRecord where
  workerRunId : JsString
  startedAt : Option ℤ
  ttlMinutes : Option ℚ
  deriving DecidableEq

/-- The text of a lock file. A text that is no JSON, or says `null`, is unreadable. -/
inductive LockText where
  | unreadable
  | hook (lockedBy : JsString) (lockedAt : ℤ)
  | supervisor (record : WorkerLockRecord)
  deriving DecidableEq

namespace LockText

def lockedBy : LockText → Option JsString
  | hook lockedBy _ => some lockedBy
  | _ => none

/-- `Date.parse(lock.lockedAt)`. -/
def lockedAt : LockText → Option ℤ
  | hook _ lockedAt => some lockedAt
  | _ => none

def workerRunId : LockText → Option JsString
  | supervisor record => some record.workerRunId
  | _ => none

/-- `new Date(lock.started_at).getTime()`. -/
def startedAt : LockText → Option ℤ
  | supervisor record => record.startedAt
  | _ => none

def ttlMinutes : LockText → Option ℚ
  | supervisor record => record.ttlMinutes
  | _ => none

end LockText

/-- A file, and when it was last written. Files are told apart by their inodes. -/
structure LockFile where
  inode : ℕ
  text : LockText
  mtimeMs : ℤ
  deriving DecidableEq

def getWorkerLockTimestamp (lock : LockText) (mtimeMs : ℤ) : ℤ := lock.lockedAt.getD mtimeMs

def isWorkerLockStale (now : ℤ) (lock : LockText) : Bool :=
  match lock.startedAt, lock.ttlMinutes with
  | some startedMs, some ttlMinutes =>
    let ttlMs := ttlMinutes * 60 * 1000
    if ttlMs ≤ 0 then true else ttlMs < ((now - startedMs : ℤ) : ℚ)
  | _, _ => true

/-- Who takes the lock: an agent, or a worker run. -/
inductive LockOwner where
  | agent (agentId : JsString)
  | workerRun (workerRunId : JsString)
  deriving DecidableEq

/-- The file of the lock, the clock, how many files there have been, and the record of
each worker that has acquired the lock and not released it. -/
structure LockDisk where
  file : Option LockFile
  now : ℤ
  made : ℕ
  acquired : LockOwner → Option LockText

/-! ## The calls -/

inductive LockStatus where
  | acquired
  | acquiredSupervisorSpawn
  | staleReplaced
  | alreadyLocked
  | missingAgentId
  | failed
  deriving DecidableEq

/-- Where a call is, before an access. The flag of `createWorkerLock` is its
`allowStaleReplacement`. -/
inductive LockPoint where
  /-- `open` of a file that must not be there. -/
  | opening (agentId : JsString) (allowStaleReplacement : Bool)
  /-- `new Date()`, with the file that was made. -/
  | dating (agentId : JsString) (allowStaleReplacement : Bool) (inode : ℕ)
  | writing (agentId : JsString) (allowStaleReplacement : Bool) (inode : ℕ) (lockedAt : ℤ)
  /-- `removeStaleWorkerLock`, for that agent. -/
  | looking (agentId : JsString)
  | reading (agentId : JsString) (mtimeMs : ℤ)
  | judging (agentId : JsString) (mtimeMs : ℤ) (lock : LockText)
  | unlinking (agentId : JsString)
  /-- `releaseWorkerLock` of the hooks. -/
  | finding (agentId : JsString)
  | releasing (agentId : JsString)
  /-- `acquireWorkerLock`, and `releaseWorkerLock` of the supervisor. -/
  | acquiring (record : WorkerLockRecord)
  | ending (workerRunId : JsString)
  | returned (status : Option LockStatus)
  | threw
  | dead
  deriving DecidableEq

/-- The file that was made, and is still to be written. -/
def LockPoint.unwritten : LockPoint → Option ℕ
  | dating _ _ inode => some inode
  | writing _ _ inode _ => some inode
  | _ => none

inductive LockCall where
  | createWorkerLock (agentId : Option JsString)
  | releaseHookLock (agentId : Option JsString)
  | acquireWorkerLock (record : WorkerLockRecord)
  | releaseWorkerLock (workerRunId : JsString)

/-- Where a call begins. An agent without an id is told so. -/
def LockCall.start : LockCall → LockPoint
  | createWorkerLock agentId =>
    if agentId.getD [] = [] then .returned (some .missingAgentId)
    else .opening (agentId.getD []) true
  | releaseHookLock agentId =>
    if agentId.getD [] = [] then .returned none else .finding (agentId.getD [])
  | acquireWorkerLock record => .acquiring record
  | releaseWorkerLock workerRunId => .ending workerRunId

inductive LockAction where
  | proceed
  /-- The access throws. -/
  | fail
  | die
  /-- Time goes by. -/
  | wait (ms : ℕ)
  deriving DecidableEq

/-- What `createWorkerLock` returns after making the lock. -/
def createdStatus (allowStaleReplacement : Bool) : LockStatus :=
  if allowStaleReplacement then .acquired else .staleReplaced

namespace LockDisk

variable (disk : LockDisk)

/-- A new file is put under the name of the lock. -/
def put (text : LockText) : LockDisk :=
  { disk with file := some ⟨disk.made, text, disk.now⟩, made := disk.made + 1 }

/-- The file with that inode is written, if it still has the name. -/
def write (inode : ℕ) (text : LockText) : LockDisk :=
  { disk with
    file := disk.file.map fun f => if f.inode = inode then ⟨inode, text, disk.now⟩ else f }

def remove : LockDisk := { disk with file := none }

/-- A worker has acquired the lock. -/
def grant (owner : LockOwner) (text : LockText) : LockDisk :=
  { disk with acquired := Function.update disk.acquired owner (some text) }

/-- A worker has released the lock. -/
def free (owner : LockOwner) : LockDisk :=
  { disk with acquired := Function.update disk.acquired owner none }

end LockDisk

/-- An access of a call. -/
def lockAccess (disk : LockDisk) : LockPoint → Option (LockPoint × LockDisk)
  | .opening agentId allow =>
    match disk.file with
    | none => some (.dating agentId allow disk.made, disk.put .unreadable)
    | some _ => some (if allow then .looking agentId else .returned (some .alreadyLocked), disk)
  | .dating agentId allow inode => some (.writing agentId allow inode disk.now, disk)
  | .writing agentId allow inode lockedAt =>
    some (.returned (some (createdStatus allow)),
      (disk.write inode (.hook agentId lockedAt)).grant (.agent agentId) (.hook agentId lockedAt))
  | .looking agentId =>
    match disk.file with
    | none => some (.returned (some .alreadyLocked), disk)
    | some f => some (.reading agentId f.mtimeMs, disk)
  | .reading agentId mtimeMs =>
    -- a file that is gone is one without a record
    some (.judging agentId mtimeMs ((disk.file.map (·.text)).getD .unreadable), disk)
  | .judging agentId mtimeMs lock =>
    if disk.now - getWorkerLockTimestamp lock mtimeMs ≤ workerLockStaleMs then
      some (.returned (some .alreadyLocked), disk)
    else some (.unlinking agentId, disk)
  | .unlinking agentId =>
    match disk.file with
    | none => some (.returned (some .alreadyLocked), disk)
    | some _ => some (.opening agentId false, disk.remove)
  | .finding agentId =>
    if disk.file.bind (·.text.lockedBy) = some agentId then some (.releasing agentId, disk)
    else some (.returned none, disk.free (.agent agentId))
  | .releasing agentId => some (.returned none, disk.remove.free (.agent agentId))
  | .acquiring record =>
    let taken := (disk.put (.supervisor record)).grant (.workerRun record.workerRunId)
      (.supervisor record)
    match (disk.file.map (·.text)).getD .unreadable with
    | .unreadable => some (.returned (some .acquiredSupervisorSpawn), taken)
    | existing =>
      if isWorkerLockStale disk.now existing then
        some (.returned (some .staleReplaced), taken)
      else some (.returned (some .alreadyLocked), disk)
  | .ending workerRunId =>
    if disk.file.bind (·.text.workerRunId) = some workerRunId then
      some (.returned none, disk.remove.free (.workerRun workerRunId))
    else some (.returned none, disk.free (.workerRun workerRunId))
  | .returned _ | .threw | .dead => none

/-- Where a call goes when an access throws. -/
def lockFailure : LockPoint → Option LockPoint
  | .opening .. | .writing .. => some (.returned (some .failed))
  | .reading agentId mtimeMs => some (.judging agentId mtimeMs .unreadable)
  | .looking _ | .unlinking _ => some (.returned (some .alreadyLocked))
  | .finding _ | .releasing _ => some (.returned none)
  | .acquiring _ | .ending _ => some .threw
  | .dating .. | .judging .. | .returned _ | .threw | .dead => none

/-- The calls on one session-state directory. -/
def lockProgram {ι : Type} : Program ι LockPoint LockDisk LockAction := fun i action s =>
  match action with
  | .proceed => lockAccess s.shared (s.point i)
  | .fail => (lockFailure (s.point i)).map fun point => (point, s.shared)
  | .die => some (.dead, s.shared)
  | .wait ms => some (s.point i, { s.shared with now := s.shared.now + ms })

/-- The calls are about to begin, on a directory with at most a lock file from before. -/
def LockStart {ι : Type} (calls : ι → LockCall) (file : Option (LockText × ℤ)) (now : ℤ) :
    Parallel ι LockPoint LockDisk :=
  ⟨fun i => (calls i).start, ⟨file.map fun f => ⟨0, f.1, f.2⟩, now, 1, fun _ => none⟩⟩

/-! ## Live locks -/

namespace LockText

/-- The lock is within its validity period: two hours for a hook, and the time to live of
its record for a supervisor. -/
def Live (now : ℤ) : LockText → Prop
  | unreadable => False
  | hook _ lockedAt => now - lockedAt ≤ workerLockStaleMs
  | supervisor record => isWorkerLockStale now (supervisor record) = false

/-- Whose lock it is. -/
def owner : LockText → Option LockOwner
  | unreadable => none
  | hook lockedBy _ => some (.agent lockedBy)
  | supervisor record => some (.workerRun record.workerRunId)

variable {now later : ℤ}

/-- A record that is not stale, by its two numbers. -/
theorem live_supervisor {record : WorkerLockRecord} :
    (supervisor record).Live now ↔ ∃ startedMs ∈ record.startedAt, ∃ ttl ∈ record.ttlMinutes,
      0 < ttl * 60 * 1000 ∧ ((now - startedMs : ℤ) : ℚ) ≤ ttl * 60 * 1000 := by
  obtain ⟨workerRunId, startedAt, ttlMinutes⟩ := record
  cases startedAt with
  | none => simp [Live, isWorkerLockStale, LockText.startedAt]
  | some startedMs =>
    cases ttlMinutes with
    | none => simp [Live, isWorkerLockStale, LockText.startedAt, LockText.ttlMinutes]
    | some ttl =>
      show (if ttl * 60 * 1000 ≤ 0 then true
        else decide (ttl * 60 * 1000 < ((now - startedMs : ℤ) : ℚ))) = false ↔ _
      by_cases hpos : ttl * 60 * 1000 ≤ 0
      · rw [if_pos hpos]
        refine ⟨nofun, fun h => ?_⟩
        obtain ⟨started, -, other, hother, hpos', -⟩ := h
        obtain rfl := Option.some.inj hother
        exact absurd hpos hpos'.not_ge
      · rw [if_neg hpos, decide_eq_false_iff_not, not_lt]
        refine ⟨fun h => ⟨_, rfl, _, rfl, not_le.1 hpos, h⟩, fun h => ?_⟩
        obtain ⟨started, hstarted, other, hother, -, hin⟩ := h
        obtain rfl := Option.some.inj hstarted
        obtain rfl := Option.some.inj hother
        exact hin

/-- A lock that is live was live before. -/
theorem Live.earlier {text : LockText} (h : text.Live later) (hle : now ≤ later) :
    text.Live now := by
  cases text with
  | unreadable => exact h
  | hook lockedBy lockedAt =>
    have hlater : later - lockedAt ≤ workerLockStaleMs := h
    show now - lockedAt ≤ workerLockStaleMs
    omega
  | supervisor record =>
    obtain ⟨startedMs, hs, ttl, ht, hpos, hlater⟩ := live_supervisor.1 h
    refine live_supervisor.2 ⟨startedMs, hs, ttl, ht, hpos, le_trans ?_ hlater⟩
    exact_mod_cast Int.sub_le_sub_right hle startedMs

end LockText

/-- The rule of the hooks finds the lock stale. -/
def HookStale (now : ℤ) (file : LockFile) : Prop :=
  workerLockStaleMs < now - getWorkerLockTimestamp file.text file.mtimeMs

/-- No lock that is held is live. -/
def LockDisk.Idle (disk : LockDisk) : Prop :=
  ∀ owner text, disk.acquired owner = some text → ¬text.Live disk.now

/-! ## Where the lock excludes -/

/-- The accesses that leave a live lock alone. -/
def CarefulAccess (disk : LockDisk) : LockPoint → Prop
  -- the file that was made has its name still
  | .writing _ _ inode _ => ∃ f ∈ disk.file, f.inode = inode
  -- the file that is removed is stale still
  | .unlinking _ => ∀ f ∈ disk.file, HookStale disk.now f
  -- the file that is removed is a record of the agent still
  | .releasing agentId => ∀ f ∈ disk.file, f.text.lockedBy = some agentId
  -- there is no lock of a hook that is live, and the record does not outlive the two hours
  -- that the hooks give to a file
  | .acquiring record =>
    (∀ f ∈ disk.file, ∀ lockedAt ∈ f.text.lockedAt, workerLockStaleMs < disk.now - lockedAt) ∧
    ∀ later, workerLockStaleMs < later - disk.now → ¬(LockText.supervisor record).Live later
  | _ => True

def Careful {ι : Type} (s : Parallel ι LockPoint LockDisk) (i : ι) (action : LockAction) : Prop :=
  action = .proceed → CarefulAccess s.shared (s.point i)

/-! ## What the steps keep -/

/-- A live lock has its record in the file, and the hooks do not find the file stale before
the lock has run out. -/
structure DiskOk (disk : LockDisk) : Prop where
  held : ∀ owner text, disk.acquired owner = some text → text.Live disk.now →
    ∃ f ∈ disk.file, f.text = text ∧ ∀ later, HookStale later f → ¬text.Live later
  owner : ∀ owner text, disk.acquired owner = some text → text.owner = some owner
  fresh : ∀ f ∈ disk.file, f.inode < disk.made

section disk

variable {disk : LockDisk}

/-- Who has the lock after a worker has released it. -/
theorem acquired_of_free {owner other : LockOwner} {text : LockText}
    (h : (disk.free owner).acquired other = some text) :
    other ≠ owner ∧ disk.acquired other = some text := by
  have hupdate : Function.update disk.acquired owner none other = some text := h
  by_cases hother : other = owner
  · rw [hother, Function.update_self] at hupdate
    exact absurd hupdate.symm (Option.some_ne_none text)
  · rw [Function.update_of_ne hother] at hupdate
    exact ⟨hother, hupdate⟩

/-- Who has the lock after a worker has acquired it. -/
theorem acquired_of_grant {owner other : LockOwner} {text given : LockText}
    (h : (disk.grant owner given).acquired other = some text) :
    other = owner ∧ text = given ∨ disk.acquired other = some text := by
  have hupdate : Function.update disk.acquired owner (some given) other = some text := h
  by_cases hother : other = owner
  · rw [hother, Function.update_self] at hupdate
    exact .inl ⟨hother, (Option.some.inj hupdate).symm⟩
  · rw [Function.update_of_ne hother] at hupdate
    exact .inr hupdate

variable (h : DiskOk disk)
include h

/-- A live lock is of one worker. -/
theorem DiskOk.unique {owner owner' : LockOwner} {text text' : LockText}
    (ha : disk.acquired owner = some text) (hl : text.Live disk.now)
    (ha' : disk.acquired owner' = some text') (hl' : text'.Live disk.now) : owner = owner' := by
  obtain ⟨f, hf, hft, -⟩ := h.held owner text ha hl
  obtain ⟨f', hf', hft', -⟩ := h.held owner' text' ha' hl'
  have hfile : f = f' := Option.mem_unique hf hf'
  have htext : text = text' := by rw [← hft, ← hft', hfile]
  have howner := h.owner owner text ha
  rw [htext, h.owner owner' text' ha'] at howner
  exact (Option.some.inj howner).symm

/-- Where a lock is live, the file is its record. -/
theorem DiskOk.idle (hfile : ∀ f ∈ disk.file, f.text.Live disk.now →
    HookStale disk.now f ∨ f.text.owner = none) : disk.Idle := by
  intro owner text ha hl
  obtain ⟨f, hf, rfl, hstale⟩ := h.held owner text ha hl
  rcases hfile f hf hl with hs | hn
  · exact hstale disk.now hs hl
  · rw [h.owner owner _ ha] at hn
    exact absurd hn (Option.some_ne_none owner)

theorem DiskOk.wait (ms : ℕ) : DiskOk { disk with now := disk.now + ms } where
  held owner text ha hl := h.held owner text ha (hl.earlier (Int.le_add_of_nonneg_right ms.cast_nonneg))
  owner := h.owner
  fresh := h.fresh

theorem DiskOk.free (owner : LockOwner) : DiskOk (disk.free owner) where
  held other text ha hl := h.held other text (acquired_of_free ha).2 hl
  owner other text ha := h.owner other text (acquired_of_free ha).2
  fresh := h.fresh

/-- The file is removed where only the lock of that worker may be live, and the worker
gives it up. -/
theorem DiskOk.release {owner : LockOwner} (honly : ∀ other text,
    disk.acquired other = some text → text.Live disk.now → other = owner) :
    DiskOk (disk.remove.free owner) where
  held other text ha hl := by
    obtain ⟨hother, hacquired⟩ := acquired_of_free ha
    exact absurd (honly other text hacquired hl) hother
  owner other text ha := h.owner other text (acquired_of_free ha).2
  fresh f hf := absurd hf (Option.not_mem_none f)

variable (hidle : disk.Idle)
include hidle

/-- The file is removed. -/
theorem DiskOk.remove : DiskOk disk.remove where
  held owner text ha hl := absurd hl (hidle owner text ha)
  owner := h.owner
  fresh f hf := absurd hf (Option.not_mem_none f)

/-- Another file is put in its place. -/
theorem DiskOk.put (text : LockText) : DiskOk (disk.put text) where
  held owner text ha hl := absurd hl (hidle owner text ha)
  owner := h.owner
  fresh f hf := by
    obtain rfl := Option.some.inj hf
    exact Nat.lt_succ_self disk.made

/-- The lock is acquired by the worker whose record the file is. -/
theorem DiskOk.grant {owner : LockOwner} {text : LockText} {file : LockFile}
    (howner : text.owner = some owner) (hf : file ∈ disk.file) (htext : file.text = text)
    (hstale : ∀ later, HookStale later file → ¬text.Live later) :
    DiskOk (disk.grant owner text) where
  held other text' ha hl := by
    rcases acquired_of_grant ha with ⟨-, rfl⟩ | hacquired
    · exact ⟨file, hf, htext, hstale⟩
    · exact absurd hl (hidle other text' hacquired)
  owner other text' ha := by
    rcases acquired_of_grant ha with ⟨rfl, rfl⟩ | hacquired
    · exact howner
    · exact h.owner other text' hacquired
  fresh := h.fresh

/-- The file that is there is written. -/
theorem DiskOk.write (inode : ℕ) (text : LockText) : DiskOk (disk.write inode text) where
  held owner text ha hl := absurd hl (hidle owner text ha)
  owner := h.owner
  fresh f hf := by
    obtain ⟨f', hf', rfl⟩ := Option.map_eq_some_iff.1 hf
    have hfresh := h.fresh f' hf'
    by_cases hinode : f'.inode = inode
    · rw [if_pos hinode, ← hinode]
      exact hfresh
    · rw [if_neg hinode]
      exact hfresh

end disk

/-! ## What a step can do -/

/-- What a careful access comes to. -/
inductive LockEffect (disk : LockDisk) (point : LockPoint) : LockPoint × LockDisk → Prop where
  | looked {next : LockPoint}
      (hkept : next.unwritten = none ∨ next.unwritten = point.unwritten) :
      LockEffect disk point (next, disk)
  | freed {next : LockPoint} (owner : LockOwner) (hnone : next.unwritten = none) :
      LockEffect disk point (next, disk.free owner)
  | made {next : LockPoint} (hidle : disk.Idle) (hnew : next.unwritten = some disk.made) :
      LockEffect disk point (next, disk.put .unreadable)
  | wrote {next : LockPoint} {inode : ℕ} (agentId : JsString) (lockedAt : ℤ) (hidle : disk.Idle)
      (hnone : next.unwritten = none) (hpoint : point.unwritten = some inode)
      (hnamed : ∃ f ∈ disk.file, f.inode = inode) :
      LockEffect disk point (next,
        (disk.write inode (.hook agentId lockedAt)).grant (.agent agentId) (.hook agentId lockedAt))
  | removed {next : LockPoint} (hidle : disk.Idle) (hnone : next.unwritten = none) :
      LockEffect disk point (next, disk.remove)
  | released {next : LockPoint} {owner : LockOwner} (honly : ∀ other text,
        disk.acquired other = some text → text.Live disk.now → other = owner)
      (hnone : next.unwritten = none) :
      LockEffect disk point (next, disk.remove.free owner)
  | took {next : LockPoint} {record : WorkerLockRecord} (hidle : disk.Idle)
      (hnone : next.unwritten = none) (houtlived : ∀ later, workerLockStaleMs < later - disk.now →
        ¬(LockText.supervisor record).Live later) :
      LockEffect disk point (next, (disk.put (.supervisor record)).grant
        (.workerRun record.workerRunId) (.supervisor record))

section effect

variable {disk : LockDisk} {point : LockPoint} {next : LockPoint × LockDisk}

/-- A record of an agent is the lock of no other worker. -/
theorem DiskOk.only_agent (h : DiskOk disk) {agentId : JsString}
    (hfile : ∀ f ∈ disk.file, f.text.lockedBy = some agentId) {other : LockOwner}
    {text : LockText} (ha : disk.acquired other = some text) (hl : text.Live disk.now) :
    other = .agent agentId := by
  obtain ⟨f, hf, rfl, -⟩ := h.held other text ha hl
  have howner := h.owner other f.text ha
  have hagent := hfile f hf
  cases ht : f.text with
  | hook lockedBy lockedAt =>
    rw [ht] at howner hagent
    rw [← Option.some.inj howner, Option.some.inj hagent]
  | unreadable | supervisor =>
    rw [ht] at hagent
    cases hagent

/-- A record of a worker run is the lock of no other worker. -/
theorem DiskOk.only_workerRun (h : DiskOk disk) {workerRunId : JsString}
    (hfile : disk.file.bind (·.text.workerRunId) = some workerRunId) {other : LockOwner}
    {text : LockText} (ha : disk.acquired other = some text) (hl : text.Live disk.now) :
    other = .workerRun workerRunId := by
  obtain ⟨f, hf, rfl, -⟩ := h.held other text ha hl
  have howner := h.owner other f.text ha
  rw [Option.mem_def.1 hf, Option.bind_some] at hfile
  cases ht : f.text with
  | supervisor record =>
    rw [ht] at howner hfile
    rw [← Option.some.inj howner, ← Option.some.inj hfile]
  | unreadable | hook =>
    rw [ht] at hfile
    cases hfile

/-- Where a supervisor may put its record, no lock is live. -/
theorem DiskOk.idle_of_stale (h : DiskOk disk)
    (hhooks : ∀ f ∈ disk.file, ∀ lockedAt ∈ f.text.lockedAt,
      workerLockStaleMs < disk.now - lockedAt)
    (hstale : ∀ f ∈ disk.file, f.text ≠ .unreadable → isWorkerLockStale disk.now f.text = true) :
    disk.Idle := by
  intro owner text ha hl
  obtain ⟨f, hf, rfl, -⟩ := h.held owner text ha hl
  have hhook := hhooks f hf
  have hsupervisor := hstale f hf
  cases ht : f.text with
  | unreadable =>
    rw [ht] at hl
    exact hl
  | hook lockedBy lockedAt =>
    rw [ht] at hl hhook
    exact absurd hl (not_le_of_gt (hhook lockedAt rfl))
  | supervisor record =>
    rw [ht] at hl hsupervisor
    have hfalse : isWorkerLockStale disk.now (.supervisor record) = false := hl
    rw [hsupervisor nofun] at hfalse
    cases hfalse

/-- **What an access can do**, where it is careful and nobody has written the file that it
is about to write. -/
theorem lockAccess_effect (h : DiskOk disk) (hcareful : CarefulAccess disk point)
    (hunwritten : ∀ inode, point.unwritten = some inode → ∀ f ∈ disk.file, f.inode = inode →
      f.text = .unreadable)
    (hnext : lockAccess disk point = some next) : LockEffect disk point next := by
  cases point with
  | opening agentId allow =>
    rw [lockAccess] at hnext
    cases hfile : disk.file with
    | none =>
      rw [hfile] at hnext
      obtain rfl := Option.some.inj hnext
      refine .made (h.idle fun f hf => ?_) rfl
      rw [hfile] at hf
      exact absurd hf (Option.not_mem_none f)
    | some f =>
      rw [hfile] at hnext
      obtain rfl := Option.some.inj hnext
      cases allow <;> exact .looked (.inl rfl)
  | dating agentId allow inode =>
    obtain rfl := Option.some.inj hnext
    exact .looked (.inr rfl)
  | writing agentId allow inode lockedAt =>
    obtain rfl := Option.some.inj hnext
    refine .wrote agentId lockedAt (h.idle fun f hf _ => .inr ?_) rfl rfl hcareful
    -- the file that is there is the one that was made
    obtain ⟨f', hf', hinode⟩ := hcareful
    rw [Option.mem_unique hf hf', hunwritten inode rfl f' hf' hinode]
    rfl
  | looking agentId =>
    rw [lockAccess] at hnext
    cases hfile : disk.file <;> rw [hfile] at hnext <;> obtain rfl := Option.some.inj hnext <;>
      exact .looked (.inl rfl)
  | reading agentId mtimeMs =>
    obtain rfl := Option.some.inj hnext
    exact .looked (.inl rfl)
  | judging agentId mtimeMs lock =>
    rw [lockAccess] at hnext
    split at hnext <;> obtain rfl := Option.some.inj hnext <;> exact .looked (.inl rfl)
  | unlinking agentId =>
    rw [lockAccess] at hnext
    cases hfile : disk.file with
    | none =>
      rw [hfile] at hnext
      obtain rfl := Option.some.inj hnext
      exact .looked (.inl rfl)
    | some f =>
      rw [hfile] at hnext
      obtain rfl := Option.some.inj hnext
      exact .removed (h.idle fun f hf _ => .inl (hcareful f hf)) rfl
  | finding agentId =>
    rw [lockAccess] at hnext
    split at hnext
    · obtain rfl := Option.some.inj hnext
      exact .looked (.inl rfl)
    · obtain rfl := Option.some.inj hnext
      exact .freed _ rfl
  | releasing agentId =>
    obtain rfl := Option.some.inj hnext
    exact .released (fun other text => h.only_agent hcareful) rfl
  | acquiring record =>
    obtain ⟨hhooks, houtlived⟩ := hcareful
    have htook : (∀ f ∈ disk.file, f.text ≠ .unreadable →
        isWorkerLockStale disk.now f.text = true) → ∀ status : LockStatus,
        LockEffect disk (.acquiring record) (.returned (some status),
          (disk.put (.supervisor record)).grant (.workerRun record.workerRunId)
            (.supervisor record)) :=
      fun hstale status => .took (h.idle_of_stale hhooks hstale) rfl houtlived
    -- what the supervisor read of the file
    have hread : ∀ f ∈ disk.file, (disk.file.map (·.text)).getD .unreadable = f.text := by
      intro f hf
      rw [Option.mem_def.1 hf, Option.map_some, Option.getD_some]
    rw [lockAccess] at hnext
    split at hnext
    · rename_i htext
      obtain rfl := Option.some.inj hnext
      refine htook (fun f hf hreadable => absurd ?_ hreadable) _
      rw [← hread f hf, htext]
    · by_cases hstale :
          isWorkerLockStale disk.now ((disk.file.map (·.text)).getD .unreadable) = true
      · rw [if_pos hstale] at hnext
        obtain rfl := Option.some.inj hnext
        refine htook (fun f hf _ => ?_) _
        rw [← hread f hf, hstale]
      · rw [if_neg hstale] at hnext
        obtain rfl := Option.some.inj hnext
        exact .looked (.inl rfl)
  | ending workerRunId =>
    rw [lockAccess] at hnext
    split at hnext
    · rename_i hfile
      obtain rfl := Option.some.inj hnext
      exact .released (fun other text => h.only_workerRun hfile) rfl
    · obtain rfl := Option.some.inj hnext
      exact .freed _ rfl
  | returned | threw | dead => cases hnext

/-- The lock stays sound. -/
theorem LockEffect.diskOk (he : LockEffect disk point next) (h : DiskOk disk) :
    DiskOk next.2 := by
  cases he with
  | looked => exact h
  | freed owner => exact h.free owner
  | made hidle => exact h.put hidle _
  | wrote agentId lockedAt hidle hnone hpoint hnamed =>
    obtain ⟨f, hf, hinode⟩ := hnamed
    refine (h.write hidle _ _).grant hidle rfl (Option.mem_map_of_mem _ hf) ?_ ?_
    · rw [if_pos hinode]
    · intro later hstale
      rw [if_pos hinode] at hstale
      exact not_le_of_gt hstale
  | removed hidle => exact h.remove hidle
  | released honly => exact h.release honly
  | took hidle hnone houtlived =>
    exact (h.put hidle _).grant hidle rfl rfl rfl fun later hstale => houtlived later hstale

/-- A live lock stays as it is, or its worker gives it up. -/
theorem LockEffect.keeps (he : LockEffect disk point next) {owner : LockOwner} {text : LockText}
    (ha : disk.acquired owner = some text) (hl : text.Live disk.now) :
    next.2.file = disk.file ∨ next.2.acquired owner = none := by
  cases he with
  | looked | freed => exact .inl rfl
  | made hidle | wrote _ _ hidle | removed hidle | took hidle =>
    exact absurd hl (hidle owner text ha)
  | released honly =>
    rw [honly owner text ha hl]
    exact .inr (Function.update_self ..)

end effect

/-! ## Runs -/

/-- The lock is sound, and nobody but its maker writes a file that is still to be
written. -/
structure Guarded {ι : Type} (s : Parallel ι LockPoint LockDisk) : Prop where
  disk : DiskOk s.shared
  unwritten : ∀ i inode, (s.point i).unwritten = some inode → inode < s.shared.made ∧
    ∀ f ∈ s.shared.file, f.inode = inode → f.text = .unreadable
  distinct : ∀ i j inode, (s.point i).unwritten = some inode →
    (s.point j).unwritten = some inode → i = j

section runs

variable {ι : Type} {s : Parallel ι LockPoint LockDisk}

/-- What becomes of a file that is still to be written by another. -/
theorem LockEffect.unwritten {disk : LockDisk} {point : LockPoint}
    {next : LockPoint × LockDisk} (he : LockEffect disk point next) {inode : ℕ}
    (h : inode < disk.made ∧ ∀ f ∈ disk.file, f.inode = inode → f.text = .unreadable)
    (hother : point.unwritten ≠ some inode) :
    inode < next.2.made ∧ ∀ f ∈ next.2.file, f.inode = inode → f.text = .unreadable := by
  obtain ⟨hlt, hfile⟩ := h
  cases he with
  | looked | freed => exact ⟨hlt, hfile⟩
  | made =>
    refine ⟨Nat.lt_succ_of_lt hlt, fun f hf _ => ?_⟩
    obtain rfl := Option.some.inj hf
    rfl
  | wrote agentId lockedAt hidle hnone hpoint =>
    refine ⟨hlt, fun f hf hinode => ?_⟩
    obtain ⟨f', hf', rfl⟩ := Option.map_eq_some_iff.1 hf
    split at hinode
    · exact absurd (hinode ▸ hpoint) hother
    · rename_i hne
      rw [if_neg hne]
      exact hfile f' hf' hinode
  | removed | released => exact ⟨hlt, fun f hf => absurd hf (Option.not_mem_none f)⟩
  | took =>
    refine ⟨Nat.lt_succ_of_lt hlt, fun f hf hinode => ?_⟩
    obtain rfl := Option.some.inj hf
    exact absurd hinode (Nat.ne_of_gt hlt)

variable [DecidableEq ι]

/-- The file that a call is still to write after a step is the one before, or new. -/
theorem LockEffect.own {disk : LockDisk} {point : LockPoint} {next : LockPoint × LockDisk}
    (he : LockEffect disk point next) {inode : ℕ} (hnext : next.1.unwritten = some inode) :
    point.unwritten = some inode ∧ next.2 = disk ∨
      inode = disk.made ∧ next.2 = disk.put .unreadable := by
  cases he with
  | looked hkept =>
    rcases hkept with hnone | hsame
    · rw [hnext] at hnone
      cases hnone
    · exact .inl ⟨hsame ▸ hnext, rfl⟩
  | made hidle hnew => exact .inr ⟨Option.some.inj (hnext.symm.trans hnew), rfl⟩
  | freed owner hnone | wrote _ _ _ hnone | removed _ hnone | released _ hnone | took _ hnone =>
    rw [hnext] at hnone
    cases hnone

/-- **The step.** -/
theorem Guarded.access (h : Guarded s) {i : ι} {next : LockPoint × LockDisk}
    (he : LockEffect s.shared (s.point i) next) : Guarded (s.move i next) where
  disk := he.diskOk h.disk
  unwritten j inode hj := by
    rw [move_shared]
    by_cases hmoved : j = i
    · subst hmoved
      rw [move_point_self] at hj
      rcases he.own hj with ⟨hsame, hdisk⟩ | ⟨rfl, hdisk⟩
      · rw [hdisk]
        exact h.unwritten j inode hsame
      · rw [hdisk]
        refine ⟨Nat.lt_succ_self _, fun f hf _ => ?_⟩
        obtain rfl := Option.some.inj hf
        rfl
    · rw [move_point_of_ne s _ hmoved] at hj
      exact he.unwritten (h.unwritten j inode hj) fun hi => hmoved (h.distinct j i inode hj hi)
  distinct j k inode hj hk := by
    -- the file of one that has not moved is not new
    have hold : ∀ other, other ≠ i → (s.point other).unwritten = some inode →
        next.1.unwritten = some inode → other = i := by
      intro other hne hother hi
      rcases he.own hi with ⟨hsame, -⟩ | ⟨rfl, -⟩
      · exact h.distinct other i inode hother hsame
      · exact absurd (h.unwritten other _ hother).1 (Nat.lt_irrefl _)
    by_cases hmovedj : j = i
    · by_cases hmovedk : k = i
      · rw [hmovedj, hmovedk]
      · subst hmovedj
        rw [move_point_self] at hj
        rw [move_point_of_ne s _ hmovedk] at hk
        exact (hold k hmovedk hk hj).symm
    · rw [move_point_of_ne s _ hmovedj] at hj
      by_cases hmovedk : k = i
      · subst hmovedk
        rw [move_point_self] at hk
        exact hold j hmovedj hj hk
      · rw [move_point_of_ne s _ hmovedk] at hk
        exact h.distinct j k inode hj hk

omit [DecidableEq ι] in
/-- Time goes by. -/
theorem Guarded.wait (h : Guarded s) (ms : ℕ) :
    Guarded ⟨s.point, { s.shared with now := s.shared.now + ms }⟩ :=
  ⟨h.disk.wait ms, h.unwritten, h.distinct⟩

/-- An access that throws leaves nothing to be written. -/
theorem lockFailure_unwritten {point next : LockPoint} (h : lockFailure point = some next) :
    next.unwritten = none := by
  cases point <;> first | cases h; done | (obtain rfl := Option.some.inj h; rfl)

omit [DecidableEq ι] in
/-- **What a step can do.** -/
theorem lockProgram_effect (h : Guarded s) {i : ι} {action : LockAction}
    {next : LockPoint × LockDisk} (hcareful : Careful s i action)
    (hnext : lockProgram i action s = some next) :
    (∃ ms : ℕ, next = (s.point i, { s.shared with now := s.shared.now + ms })) ∨
      LockEffect s.shared (s.point i) next := by
  cases action with
  | proceed =>
    exact .inr (lockAccess_effect h.disk (hcareful rfl) (fun inode hi => (h.unwritten i inode hi).2)
      hnext)
  | fail =>
    obtain ⟨point, hpoint, rfl⟩ := Option.map_eq_some_iff.1 hnext
    exact .inr (.looked (.inl (lockFailure_unwritten hpoint)))
  | die =>
    obtain rfl := Option.some.inj hnext
    exact .inr (.looked (.inl rfl))
  | wait ms => exact .inl ⟨ms, (Option.some.inj hnext).symm⟩

theorem Guarded.step (h : Guarded s) {i : ι} {action : LockAction}
    {next : LockPoint × LockDisk} (hcareful : Careful s i action)
    (hnext : lockProgram i action s = some next) : Guarded (s.move i next) := by
  rcases lockProgram_effect h hcareful hnext with ⟨ms, rfl⟩ | he
  · have hsame : s.move i (s.point i, { s.shared with now := s.shared.now + ms }) =
        ⟨s.point, { s.shared with now := s.shared.now + ms }⟩ := by
      unfold Parallel.move
      rw [Function.update_eq_self]
    rw [hsame]
    exact h.wait ms
  · exact h.access he

omit [DecidableEq ι] in
/-- No call has begun to write. -/
theorem guarded_start (calls : ι → LockCall) (file : Option (LockText × ℤ)) (now : ℤ) :
    Guarded (LockStart calls file now) := by
  have hnone : ∀ i, (calls i).start.unwritten = none := by
    intro i
    cases calls i with
    | createWorkerLock agentId | releaseHookLock agentId =>
      rw [LockCall.start]
      split <;> rfl
    | acquireWorkerLock | releaseWorkerLock => rfl
  have hunwritten : ∀ i inode, (calls i).start.unwritten ≠ some inode := by
    intro i inode hi
    rw [hnone i] at hi
    cases hi
  refine ⟨⟨nofun, nofun, fun f hf => ?_⟩, fun i inode hi => absurd hi (hunwritten i inode),
    fun i j inode hi => absurd hi (hunwritten i inode)⟩
  obtain ⟨f', -, rfl⟩ := Option.map_eq_some_iff.1 hf
  exact Nat.zero_lt_one

/-- The worker has acquired the lock, has not released it, and is within its validity. -/
def LockDisk.Holds (disk : LockDisk) (owner : LockOwner) (text : LockText) : Prop :=
  disk.acquired owner = some text ∧ text.Live disk.now

/-- **The worker lock is exclusive** while the steps are careful: at most one worker holds
it, the file is its record, and no step replaces or removes that but the release of this
worker. -/
theorem worker_lock_exclusive {calls : ι → LockCall} {file : Option (LockText × ℤ)} {now : ℤ}
    (hr : Run lockProgram Careful (LockStart calls file now) s) :
    (∀ owner owner' text text', s.shared.Holds owner text → s.shared.Holds owner' text' →
      owner = owner') ∧
    ∀ owner text, s.shared.Holds owner text → (∃ f ∈ s.shared.file, f.text = text) ∧
      ∀ i action next, Careful s i action → lockProgram i action s = some next →
        next.2.file = s.shared.file ∨ next.2.acquired owner = none := by
  have hguarded : Guarded s :=
    hr.invariant (fun s i action next h hcareful hnext => h.step hcareful hnext)
      (guarded_start calls file now)
  refine ⟨fun owner owner' text text' h h' => hguarded.disk.unique h.1 h.2 h'.1 h'.2,
    fun owner text h => ⟨?_, fun i action next hcareful hnext => ?_⟩⟩
  · obtain ⟨f, hf, htext, -⟩ := hguarded.disk.held owner text h.1 h.2
    exact ⟨f, hf, htext⟩
  · rcases lockProgram_effect hguarded hcareful hnext with ⟨ms, rfl⟩ | he
    · exact .inl rfl
    · exact he.keeps h.1 h.2

end runs

/-- A record of `runCliWorker` does not outlive the two hours. -/
theorem runCliWorker_not_outlived {workerRunId : JsString} {startedMs now : ℤ}
    (hstarted : startedMs ≤ now) (later : ℤ) (hlater : workerLockStaleMs < later - now) :
    ¬(LockText.supervisor ⟨workerRunId, some startedMs, some workerLockTtlMinutes⟩).Live later := by
  intro hlive
  obtain ⟨started, hs, ttl, ht, -, hin⟩ := LockText.live_supervisor.1 hlive
  obtain rfl := Option.some.inj hs
  obtain rfl := Option.some.inj ht
  have hlong : workerLockStaleMs < later - startedMs := by omega
  have hshort : (workerLockTtlMinutes * 60 * 1000 : ℚ) < (workerLockStaleMs : ℤ) := by
    unfold workerLockTtlMinutes workerLockStaleMs
    norm_num
  have hlong' : ((workerLockStaleMs : ℤ) : ℚ) < ((later - startedMs : ℤ) : ℚ) := by
    exact_mod_cast hlong
  linarith

/-! ## A hook and a supervisor -/

section sample

/-- A worker run of the supervisor. -/
def sampleRecord : WorkerLockRecord := ⟨js "cli-codex-hp-a-20260101T0000", some 0, some 30⟩

theorem sampleRecord_live : (LockText.supervisor sampleRecord).Live 0 := by
  refine LockText.live_supervisor.2 ⟨0, rfl, 30, rfl, ?_, ?_⟩ <;> norm_num

theorem sampleAgent_live : (LockText.hook (js "agent") 0).Live 0 := by
  show (0 : ℤ) - 0 ≤ workerLockStaleMs
  decide

/-- An agent takes the lock, the lock of that agent is released, and the supervisor takes
it. -/
def sampleCalls : Fin 3 → LockCall
  | 0 => .createWorkerLock (some (js "agent"))
  | 1 => .releaseHookLock (some (js "agent"))
  | 2 => .acquireWorkerLock sampleRecord

theorem worker_lock_exclusive_sample : ∃ s : Parallel (Fin 3) LockPoint LockDisk,
    s.point 0 = .returned (some .acquired) ∧
      s.point 2 = .returned (some .acquiredSupervisorSpawn) ∧
      ∀ owner text, s.shared.Holds owner text → owner = .workerRun sampleRecord.workerRunId := by
  have hstart : Run lockProgram Careful (LockStart sampleCalls none 0)
      (LockStart sampleCalls none 0) := .refl
  have hopened := hstart.step 0 .proceed (fun _ => trivial) rfl
  have hdated := hopened.step 0 .proceed (fun _ => trivial) rfl
  have hwritten := hdated.step 0 .proceed (fun _ => ⟨_, rfl, rfl⟩) rfl
  have hfound := hwritten.step 1 .proceed (fun _ => trivial) rfl
  have hreleased := hfound.step 1 .proceed (fun _ f hf => by cases hf; rfl) rfl
  have htaken := hreleased.step 2 .proceed (fun _ => ⟨nofun, runCliWorker_not_outlived le_rfl⟩) rfl
  have honly := (worker_lock_exclusive htaken).1
  refine ⟨_, ?_, ?_, fun owner text hholds => honly owner _ text (.supervisor sampleRecord) hholds
    ⟨rfl, sampleRecord_live⟩⟩
  · rfl
  · rfl

/-- **The supervisor replaces the lock of an agent.** It reads no time in the record, and
takes it for stale. -/
theorem supervisor_replaces_live_lock :
    ¬∀ (calls : Fin 3 → LockCall) (now : ℤ) (s : Parallel (Fin 3) LockPoint LockDisk),
      Run lockProgram (fun _ _ _ => True) (LockStart calls none now) s →
      ∀ owner owner' text text', s.shared.Holds owner text → s.shared.Holds owner' text' →
        owner = owner' := by
  intro hclaim
  have hrun : execute lockProgram [(0, .proceed), (0, .proceed), (0, .proceed), (2, .proceed)]
      (LockStart sampleCalls none 0) = some _ := rfl
  have hsame := hclaim sampleCalls 0 _ (run_of_execute hrun) (.agent (js "agent"))
    (.workerRun sampleRecord.workerRunId) (.hook (js "agent") 0) (.supervisor sampleRecord)
    ⟨rfl, sampleAgent_live⟩ ⟨rfl, sampleRecord_live⟩
  cases hsame

end sample

end Autopilot.WorkerLocks
