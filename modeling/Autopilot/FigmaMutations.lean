/-
The store of the mutations of a Figma file.

A worker submits a proposal, and the owner approves it or rejects it. An approval issues a lease,
which the plugin that executes the mutation claims once, while it is not expired. The plugin then
reports a result, and an independent look at the file verifies it.

This module is `FigmaMutationStore` (`figmaMutationStore.ts`) and `validateProposalGovernance`
(`figmaMutation.ts`). A proposal is a parsed value, whose objects have one entry a name. `String` of
a value, and the digest of a lease, are parameters; the random bytes that a call draws are given
with it. Each call runs under the maintenance lock as a whole; the lock, the reading and the writing
may fail, and nothing is written then. A time is in milliseconds.
-/
import Autopilot.Js
import Autopilot.Lib.JsonReader

set_option autoImplicit false

namespace Autopilot
namespace FigmaMutations

open JsonText (Value member)

/-! ## Proposals -/

/-- `ALLOWED_OPS`. -/
def allowedOps : List JsString :=
  ["createFrame", "applyTokens", "setText", "addComment", "createVariant", "verificationFrame",
    "placeImage"].map js

/-- `OP_REQUIRED_ARGS`. -/
def opRequiredArgs : List (JsString × List JsString) :=
  [("createFrame", ["name"]), ("applyTokens", ["tokens"]), ("setText", ["text"]),
    ("addComment", ["text"]), ("createVariant", ["component"]), ("verificationFrame", ["label"]),
    ("placeImage", ["assetRef"])].map fun op => (js op.1, op.2.map js)

/-- `OPS_NEEDING_TARGET`. -/
def opsNeedingTarget : List JsString := ["applyTokens", "setText"].map js

/-- `isRecord`, with the entries. -/
def isRecord : Option Value → Option (List (JsString × Value))
  | some (.object entries) => some entries
  | _ => none

/-- `typeof value === "string"`, with the text. -/
def isString : Option Value → Option JsString
  | some (.string text) => some text
  | _ => none

/-- `value === text`. -/
def isText (value : Option Value) (text : String) : Bool := isString value = some (js text)

/-- `typeof value === "string" && value.length > 0`. -/
def isFilled (value : Option Value) : Bool := (isString value).any fun text => 0 < text.length

/-- `/^[a-f0-9]{64}$/` -/
def isSha256Hex (text : JsString) : Bool :=
  text.length = 64 && text.all fun c => (97 ≤ c && c ≤ 102) || (48 ≤ c && c ≤ 57)

section governance

variable (string : Option Value → JsString)

/-- The issues of one operation. -/
def opIssues (op : Value) (index : ℕ) : List JsString :=
  let at' : JsString := js "ops[" ++ decimal index ++ js "]"
  match op with
  | .object entries =>
    let name := member entries (js "op")
    match isString name with
    | none => [at' ++ js ": op \"" ++ string name ++ js "\" is outside the allowlist"]
    | some opName =>
      if opName ∉ allowedOps then
        [at' ++ js ": op \"" ++ string name ++ js "\" is outside the allowlist"]
      else
        let args := (isRecord (member entries (js "args"))).getD []
        let required := ((opRequiredArgs.find? (·.1 = opName)).map (·.2)).getD []
        (required.filter fun arg => (member args arg).isNone).map (fun arg =>
          at' ++ js " (" ++ opName ++ js "): missing args." ++ arg) ++
        if opName ∈ opsNeedingTarget ∧ (isString (member entries (js "target"))).isNone then
          [at' ++ js " (" ++ opName ++ js "): requires a target node id"]
        else []
  | _ => [at' ++ js " must be an object"]

/-- `validateProposalGovernance`. -/
def validateProposalGovernance (proposal : Value) : List JsString :=
  match proposal with
  | .object entries =>
    let issueUnless (kept : Bool) (issue : String) : List JsString :=
      if kept then [] else [js issue]
    let source := isRecord (member entries (js "source"))
    let rollback := isRecord (member entries (js "rollbackPlan"))
    issueUnless (isText (member entries (js "schemaVersion")) "autopilot.figma-mutation/1")
        "schemaVersion must be autopilot.figma-mutation/1" ++
      issueUnless (source.any fun source => isText (member source (js "provider")) "figma" &&
          isFilled (member source (js "fileKey")))
        "source must be \x7b provider: 'figma', fileKey \x7d" ++
      issueUnless ((isString (member entries (js "briefHash"))).any isSha256Hex)
        "briefHash must be a sha256 hex string" ++
      issueUnless (isFilled (member entries (js "expectedVersion")))
        "expectedVersion is required" ++
      issueUnless (rollback.any fun rollback =>
          match member rollback (js "versionCheckpoint") with
          | some (.bool true) => true
          | _ => false)
        "rollbackPlan.versionCheckpoint must be true" ++
      match member entries (js "ops") with
      | some (.array (op :: ops)) =>
        ((op :: ops).zipIdx.map fun (op, index) => opIssues string op index).flatten
      | _ => [js "ops must be a non-empty array"]
  | _ => [js "proposal must be an object"]

end governance

/-- `proposal.source.fileKey`. -/
def fileKeyOf : Value → Option JsString
  | .object entries =>
    (isRecord (member entries (js "source"))).bind fun source =>
      isString (member source (js "fileKey"))
  | _ => none

/-- `proposal.ops`. -/
def opsOf : Value → Option Value
  | .object entries => member entries (js "ops")
  | _ => none

/-! ## Records -/

/-- `MutationStatus`. -/
inductive MutationStatus where
  | pending | approved | rejected | executed | failed | verified | drift
  deriving DecidableEq, Repr

/-- `MutationLease`. -/
structure MutationLease where
  digest : JsString
  expiresAt : ℕ
  used : Bool
  deriving DecidableEq

/-- `MutationResult`. -/
structure MutationResult where
  nodeIds : Option (List JsString) := none
  digest : Option JsString := none
  error : Option JsString := none
  diff : Option JsString := none
  deriving DecidableEq

/-- `MutationRecord`. -/
structure MutationRecord where
  id : JsString
  proposal : Value
  status : MutationStatus
  createdAt : ℕ
  updatedAt : ℕ
  decidedBy : Option JsString := none
  decidedAt : Option ℕ := none
  reason : Option JsString := none
  lease : Option MutationLease := none
  result : Option MutationResult := none

/-- What a call returns. -/
inductive StoreAnswer where
  | record (record : MutationRecord)
  | approved (record : MutationRecord) (lease : JsString)
  | claimed (record : MutationRecord) (ops : Option Value)

/-! ## Calls -/

/-- `LEASE_TTL_MS`. -/
def leaseTtlMs : ℕ := 10 * 60 * 1000

/-- What the store is given: `String`, and `sha256`. -/
structure StoreHost where
  string : Option Value → JsString
  sha256 : JsString → JsString

/-- A change of the record at a place, when there is one and it may be changed. -/
def changeRecord (records : List MutationRecord) (place : Option ℕ)
    (allowed : MutationRecord → Bool) (refused : String)
    (update : MutationRecord → MutationRecord) :
    Except JsError (List MutationRecord × MutationRecord) :=
  match place with
  | none => .error (.new refused)
  | some index =>
    match records[index]? with
    | none => .error (.new refused)
    | some current =>
      if allowed current then .ok (records.set index (update current), update current)
      else .error (.new refused)

/-- `records.findIndex((candidate) => candidate.id === id)`. -/
def placeOf (records : List MutationRecord) (id : JsString) : Option ℕ :=
  records.findIdx? (·.id = id)

/-- What goes wrong around a change: the lock or the reading fails, or the writing does. -/
structure Faults where
  before : Option JsError := none
  after : Option JsError := none

/-- `mutate`. -/
def mutate {α : Type} (faults : Faults) (change : Except JsError (List MutationRecord × α)) :
    Except JsError (List MutationRecord × α) :=
  match faults.before with
  | some error => .error error
  | none =>
    match change with
    | .error error => .error error
    | .ok changed =>
      match faults.after with
      | some error => .error error
      | none => .ok changed

abbrev Change := Except JsError (List MutationRecord × StoreAnswer)

section calls

variable (host : StoreHost) (faults : Faults) (records : List MutationRecord) (now : ℕ)

/-- `submit`, with the id that is drawn. -/
def submit (proposal : Value) (id : JsString) : Change :=
  let issues := validateProposalGovernance host.string proposal
  if issues ≠ [] then
    .error (.error (js "Error") (js "invalid_mutation_proposal: " ++
      (issues.intersperse (js "; ")).flatten))
  else
    let record : MutationRecord :=
      { id, proposal, status := .pending, createdAt := now, updatedAt := now }
    mutate faults (.ok (records ++ [record], .record record))

/-- `approve`, with the lease that is drawn. -/
def approve (id approver lease : JsString) : Change :=
  (mutate faults <| changeRecord records (placeOf records id) (·.status = .pending)
    "mutation_not_pending" fun current =>
      { current with
        status := .approved
        decidedBy := some approver
        decidedAt := some now
        updatedAt := now
        lease := some ⟨host.sha256 lease, now + leaseTtlMs, false⟩ }).map fun changed =>
    (changed.1, .approved changed.2 lease)

/-- `reject`. -/
def reject (id approver : JsString) (reason : Option JsString) : Change :=
  (mutate faults <| changeRecord records (placeOf records id) (·.status = .pending)
    "mutation_not_pending" fun current =>
      { current with
        status := .rejected
        decidedBy := some approver
        decidedAt := some now
        updatedAt := now
        reason := reason.or current.reason }).map fun changed => (changed.1, .record changed.2)

/-- The record is approved for the file, and the lease is its own, unused and not expired. -/
def isClaimable (fileKey leaseRaw : JsString) (candidate : MutationRecord) : Bool :=
  candidate.status = .approved && fileKeyOf candidate.proposal = some fileKey &&
    candidate.lease.any fun lease =>
      !lease.used && now < lease.expiresAt && lease.digest = host.sha256 leaseRaw

/-- `claim`. -/
def claim (fileKey leaseRaw : JsString) : Change :=
  (mutate faults <| changeRecord records
    (records.findIdx? (isClaimable host now fileKey leaseRaw)) (·.lease.isSome)
    "invalid_or_expired_lease" fun current =>
      { current with
        updatedAt := now
        lease := current.lease.map fun lease => { lease with used := true } }).map fun changed =>
    (changed.1, .claimed changed.2 (opsOf changed.2.proposal))

/-- `recordResult`. An empty error is no error. -/
def recordResult (id : JsString) (result : MutationResult) : Change :=
  (mutate faults <| changeRecord records (placeOf records id) (·.status = .approved)
    "mutation_not_claimable" fun current =>
      { current with
        status := if result.error.any (· ≠ []) then .failed else .executed
        updatedAt := now
        result := some result }).map fun changed => (changed.1, .record changed.2)

/-- `verify`. -/
def verify (id : JsString) (ok : Bool) (diff : Option JsString) : Change :=
  (mutate faults <| changeRecord records (placeOf records id) (·.status = .executed)
    "mutation_not_executed" fun current =>
      let result := current.result.getD {}
      { current with
        status := if ok then .verified else .drift
        updatedAt := now
        result := some { result with diff := diff.or result.diff } }).map fun changed =>
    (changed.1, .record changed.2)

end calls

/-- A call of the store. -/
inductive StoreCall where
  | submit (proposal : Value) (id : JsString)
  | approve (id approver lease : JsString)
  | reject (id approver : JsString) (reason : Option JsString)
  | claim (fileKey leaseRaw : JsString)
  | recordResult (id : JsString) (result : MutationResult)
  | verify (id : JsString) (ok : Bool) (diff : Option JsString)

/-- A call at a time, with what goes wrong around it. -/
structure TimedCall where
  call : StoreCall
  now : ℕ
  faults : Faults := {}

section runs

variable (host : StoreHost)

/-- What a call changes and returns. -/
def TimedCall.perform (timed : TimedCall) (records : List MutationRecord) : Change :=
  match timed.call with
  | .submit proposal id => submit host timed.faults records timed.now proposal id
  | .approve id approver lease => approve host timed.faults records timed.now id approver lease
  | .reject id approver reason => reject timed.faults records timed.now id approver reason
  | .claim fileKey leaseRaw => claim host timed.faults records timed.now fileKey leaseRaw
  | .recordResult id result => recordResult timed.faults records timed.now id result
  | .verify id ok diff => verify timed.faults records timed.now id ok diff

/-- The records after a call. -/
def TimedCall.after (timed : TimedCall) (records : List MutationRecord) : List MutationRecord :=
  match timed.perform host records with
  | .ok (records', _) => records'
  | .error _ => records

/-- A call, with the records it has found. -/
structure Event where
  timed : TimedCall
  before : List MutationRecord

/-- The events of a run from some records on. -/
def historyFrom (records : List MutationRecord) : List TimedCall → List Event
  | [] => []
  | timed :: calls => ⟨timed, records⟩ :: historyFrom (timed.after host records) calls

/-- The records after a run. -/
def recordsFrom (records : List MutationRecord) (calls : List TimedCall) : List MutationRecord :=
  calls.foldl (fun records timed => timed.after host records) records

/-- The place of the record that the event has claimed, if it is a claim that was granted. -/
def Event.claimedPlace (event : Event) : Option ℕ :=
  match event.timed.call, event.timed.perform host event.before with
  | .claim fileKey leaseRaw, .ok _ =>
    event.before.findIdx? (isClaimable host event.timed.now fileKey leaseRaw)
  | _, _ => none

/-- The granted claims of the record at a place. -/
def claimsOf (events : List Event) (place : ℕ) : List Event :=
  events.filter fun event => event.claimedPlace host = some place

end runs

/-! ## What a call does -/

section moves

variable {host : StoreHost}

/-- A change of one record, at its place. -/
inductive Move (host : StoreHost) (timed : TimedCall) (records : List MutationRecord) (place : ℕ)
    (current next : MutationRecord) : Prop
  | approved (lease : MutationLease)
      (hcall : ∃ id approver raw, timed.call = .approve id approver raw)
      (hfrom : current.status = .pending)
      (hto : next.status = .approved) (hlease : next.lease = some lease)
      (hunused : lease.used = false)
  | rejected (hcall : ∃ id approver reason, timed.call = .reject id approver reason)
      (hfrom : current.status = .pending) (hto : next.status = .rejected)
      (hlease : next.lease = current.lease)
  | claimed (lease : MutationLease) (fileKey leaseRaw : JsString)
      (hcall : timed.call = .claim fileKey leaseRaw)
      (hplace : records.findIdx? (isClaimable host timed.now fileKey leaseRaw) = some place)
      (hfrom : current.status = .approved) (hto : next.status = .approved)
      (hheld : current.lease = some lease) (hunused : lease.used = false)
      (hunexpired : timed.now < lease.expiresAt)
      (hlease : next.lease = some { lease with used := true })
  | recorded (id : JsString) (result : MutationResult)
      (hcall : timed.call = .recordResult id result) (hplace : placeOf records id = some place)
      (hfrom : current.status = .approved) (hto : next.status = .executed ∨ next.status = .failed)
      (hlease : next.lease = current.lease)
  | verified (hcall : ∃ id ok diff, timed.call = .verify id ok diff)
      (hfrom : current.status = .executed) (hto : next.status = .verified ∨ next.status = .drift)
      (hlease : next.lease = current.lease)

/-- What a call that is not refused does to the records. -/
inductive Changed (host : StoreHost) (timed : TimedCall) (records : List MutationRecord) :
    List MutationRecord → Prop
  | submitted (record : MutationRecord) (hcall : ∃ proposal id, timed.call = .submit proposal id)
      (hstatus : record.status = .pending) (hlease : record.lease = none) :
      Changed host timed records (records ++ [record])
  | moved (place : ℕ) (current next : MutationRecord) (hcurrent : records[place]? = some current)
      (hmove : Move host timed records place current next) :
      Changed host timed records (records.set place next)

theorem mutate_ok {α : Type} {faults : Faults}
    {change : Except JsError (List MutationRecord × α)} {changed : List MutationRecord × α}
    (h : mutate faults change = .ok changed) : change = .ok changed := by
  unfold mutate at h
  split at h
  · cases h
  · split at h
    · cases h
    · split at h
      · cases h
      · rw [Except.ok.inj h]

/-- A record that is changed stands at the place and may be changed. -/
theorem changeRecord_ok {records : List MutationRecord} {place : Option ℕ}
    {allowed : MutationRecord → Bool} {refused : String}
    {update : MutationRecord → MutationRecord} {changed : List MutationRecord × MutationRecord}
    (h : changeRecord records place allowed refused update = .ok changed) :
    ∃ index current, place = some index ∧ records[index]? = some current ∧
      allowed current = true ∧ changed.1 = records.set index (update current) := by
  unfold changeRecord at h
  split at h
  · cases h
  rename_i index
  split at h
  · cases h
  rename_i current hcurrent
  split at h
  · rename_i hallowed
    obtain rfl := Except.ok.inj h
    exact ⟨index, current, rfl, hcurrent, hallowed, rfl⟩
  · cases h

/-- A call that changes one record changes it as its update says. -/
theorem mutated {faults : Faults} {records records' : List MutationRecord} {place : Option ℕ}
    {allowed : MutationRecord → Bool} {refused : String}
    {update : MutationRecord → MutationRecord} {answer : StoreAnswer}
    {answers : List MutationRecord × MutationRecord → StoreAnswer}
    (h : (mutate faults (changeRecord records place allowed refused update)).map
      (fun changed => (changed.1, answers changed)) = .ok (records', answer)) :
    ∃ index current, place = some index ∧ records[index]? = some current ∧
      allowed current = true ∧ records' = records.set index (update current) := by
  cases hchanged : mutate faults (changeRecord records place allowed refused update) with
  | error e =>
    rw [hchanged] at h
    cases h
  | ok changed =>
    rw [hchanged] at h
    obtain ⟨rfl, -⟩ := Prod.mk.inj (Except.ok.inj h)
    exact changeRecord_ok (mutate_ok hchanged)

theorem isClaimable_iff {now : ℕ} {fileKey leaseRaw : JsString} {candidate : MutationRecord}
    (h : isClaimable host now fileKey leaseRaw candidate = true) :
    candidate.status = .approved ∧
      ∃ lease, candidate.lease = some lease ∧ lease.used = false ∧ now < lease.expiresAt := by
  unfold isClaimable at h
  simp only [Bool.and_eq_true, decide_eq_true_eq] at h
  obtain ⟨⟨hstatus, -⟩, hlease⟩ := h
  cases hheld : candidate.lease with
  | none =>
    rw [hheld] at hlease
    cases hlease
  | some lease =>
    rw [hheld, Option.any_some] at hlease
    simp only [Bool.and_eq_true, decide_eq_true_eq, Bool.not_eq_true'] at hlease
    exact ⟨hstatus, lease, rfl, hlease.1.1, hlease.1.2⟩

/-- **What every call does.** -/
theorem perform_changed {timed : TimedCall} {records records' : List MutationRecord}
    {answer : StoreAnswer} (h : timed.perform host records = .ok (records', answer)) :
    Changed host timed records records' := by
  unfold TimedCall.perform at h
  cases hcall : timed.call with
  | submit proposal id =>
    rw [hcall] at h
    dsimp only [submit] at h
    split at h
    · cases h
    · obtain ⟨rfl, -⟩ := Prod.mk.inj (Except.ok.inj (mutate_ok h))
      exact .submitted _ ⟨_, _, hcall⟩ rfl rfl
  | approve id approver lease =>
    rw [hcall] at h
    obtain ⟨index, current, -, hcurrent, hallowed, rfl⟩ := mutated h
    exact .moved index current _ hcurrent
      (.approved _ ⟨_, _, _, hcall⟩ (of_decide_eq_true hallowed) rfl rfl rfl)
  | reject id approver reason =>
    rw [hcall] at h
    obtain ⟨index, current, -, hcurrent, hallowed, rfl⟩ := mutated h
    exact .moved index current _ hcurrent
      (.rejected ⟨_, _, _, hcall⟩ (of_decide_eq_true hallowed) rfl rfl)
  | claim fileKey leaseRaw =>
    rw [hcall] at h
    obtain ⟨index, current, hplace, hcurrent, -, rfl⟩ := mutated h
    obtain ⟨hlt, hclaimable, -⟩ := List.findIdx?_eq_some_iff_getElem.1 hplace
    obtain rfl : records[index] = current := by
      rw [List.getElem?_eq_getElem hlt] at hcurrent
      exact Option.some.inj hcurrent
    obtain ⟨hstatus, lease, hheld, hunused, hunexpired⟩ := isClaimable_iff hclaimable
    refine .moved index _ _ hcurrent (.claimed lease fileKey leaseRaw hcall hplace hstatus hstatus
      hheld hunused hunexpired ?_)
    show records[index].lease.map _ = _
    rw [hheld, Option.map_some]
  | recordResult id result =>
    rw [hcall] at h
    obtain ⟨index, current, hplace, hcurrent, hallowed, rfl⟩ := mutated h
    refine .moved index current _ hcurrent
      (.recorded id result hcall hplace (of_decide_eq_true hallowed) ?_ rfl)
    show (if _ then _ else _) = _ ∨ (if _ then _ else _) = _
    split
    · exact .inr rfl
    · exact .inl rfl
  | verify id ok diff =>
    rw [hcall] at h
    obtain ⟨index, current, -, hcurrent, hallowed, rfl⟩ := mutated h
    refine .moved index current _ hcurrent
      (.verified ⟨_, _, _, hcall⟩ (of_decide_eq_true hallowed) ?_ rfl)
    show (if _ then _ else _) = _ ∨ (if _ then _ else _) = _
    split
    · exact .inl rfl
    · exact .inr rfl

end moves

/-! ## Leases over a run -/

section leases

variable (host : StoreHost)

/-- The mutation is done, or was tried. -/
def MutationStatus.IsDone (status : MutationStatus) : Prop :=
  status = .executed ∨ status = .failed ∨ status = .verified ∨ status = .drift

/-- The event has found, at the place, an approved record with a lease that was neither used nor
expired. -/
def Event.IsLeased (event : Event) (place : ℕ) : Prop :=
  ∃ record lease, event.before[place]? = some record ∧ record.status = .approved ∧
    record.lease = some lease ∧ lease.used = false ∧ event.timed.now < lease.expiresAt

/-- Exactly one claim of the record was granted, on an approved and unexpired lease. -/
def Earned (events : List Event) (place : ℕ) : Prop :=
  ∃ event, claimsOf host events place = [event] ∧ event.IsLeased place

/-- The lease of the record at a place is used. -/
def leaseUsed (records : List MutationRecord) (place : ℕ) : Bool :=
  (records[place]?.bind (·.lease)).any (·.used)

/-- Mutations have run only under a lease, and nothing but a claim has used one. -/
structure UnderLease (events : List Event) (records : List MutationRecord) : Prop where
  earned : ∀ place record, records[place]? = some record → record.status.IsDone →
    Earned host events place
  consumed : ∀ event ∈ events, ∀ place, leaseUsed event.before place = false →
    leaseUsed (event.timed.after host event.before) place = true →
      event.claimedPlace host = some place

/-- A result that is taken for an approved record is taken for one whose lease was claimed. -/
def Event.Careful (event : Event) : Prop :=
  ∀ id result place record, event.timed.call = .recordResult id result →
    (∃ changed, event.timed.perform host event.before = .ok changed) →
      placeOf event.before id = some place → event.before[place]? = some record →
        leaseUsed event.before place = true

/-- What the events say of the record at a place, as far as its status tells. -/
def RecordSound (events : List Event) (place : ℕ) : Option MutationRecord → Prop
  | none => claimsOf host events place = []
  | some record =>
    match record.status with
    | .pending | .rejected => record.lease = none ∧ claimsOf host events place = []
    | .approved => ∃ lease, record.lease = some lease ∧
        if lease.used then Earned host events place else claimsOf host events place = []
    | _ => (∀ event ∈ events, event.Careful host) → Earned host events place

def Sound (events : List Event) (records : List MutationRecord) : Prop :=
  ∀ place, RecordSound host events place records[place]?

variable {host} {events : List Event} {records : List MutationRecord} {timed : TimedCall}

theorem claimsOf_concat (event : Event) (place : ℕ) :
    claimsOf host (events ++ [event]) place =
      claimsOf host events place ++
        if event.claimedPlace host = some place then [event] else [] := by
  unfold claimsOf
  rw [List.filter_append]
  by_cases h : event.claimedPlace host = some place
  · rw [if_pos h]
    simp [h]
  · rw [if_neg h]
    simp [h]

theorem claimsOf_concat_of_ne {event : Event} {place : ℕ}
    (h : event.claimedPlace host ≠ some place) :
    claimsOf host (events ++ [event]) place = claimsOf host events place := by
  rw [claimsOf_concat, if_neg h, List.append_nil]

/-- An event that does not claim a record leaves what is known of it. -/
theorem RecordSound.concat {event : Event} {place : ℕ} {record : Option MutationRecord}
    (h : RecordSound host events place record) (hne : event.claimedPlace host ≠ some place) :
    RecordSound host (events ++ [event]) place record := by
  have hearned (hearned : Earned host events place) : Earned host (events ++ [event]) place := by
    obtain ⟨claimed, hclaims, hleased⟩ := hearned
    exact ⟨claimed, by rw [claimsOf_concat_of_ne hne, hclaims], hleased⟩
  cases record with
  | none => exact (claimsOf_concat_of_ne hne).trans h
  | some record =>
    unfold RecordSound at h ⊢
    dsimp only at h ⊢
    rw [claimsOf_concat_of_ne hne]
    split at h
    · exact h
    · exact h
    · obtain ⟨lease, hlease, hused⟩ := h
      refine ⟨lease, hlease, ?_⟩
      split at hused
      · rename_i h'
        rw [if_pos h']
        exact hearned hused
      · rename_i h'
        rw [if_neg h']
        exact hused
    · exact fun hcareful => hearned (h fun event hevent =>
        hcareful event (List.mem_append_left _ hevent))

/-- A call that is refused claims nothing. -/
theorem claimedPlace_of_error {event : Event} {e : JsError}
    (h : event.timed.perform host event.before = .error e) : event.claimedPlace host = none := by
  unfold Event.claimedPlace
  rw [h]
  split
  · rename_i hok
    cases hok
  · rfl

/-- Only a claim claims. -/
theorem claimedPlace_of_call {event : Event}
    (h : ∀ fileKey leaseRaw, event.timed.call ≠ .claim fileKey leaseRaw) :
    event.claimedPlace host = none := by
  unfold Event.claimedPlace
  split
  · rename_i hcall _
    exact absurd hcall (h _ _)
  · rfl

/-- A move of a record claims it or claims nothing. -/
theorem claimedPlace_of_move {place : ℕ} {current next : MutationRecord}
    {changed : List MutationRecord × StoreAnswer}
    (hok : timed.perform host records = .ok changed)
    (h : Move host timed records place current next) :
    Event.claimedPlace host ⟨timed, records⟩ = some place ∨
      Event.claimedPlace host ⟨timed, records⟩ = none := by
  cases h with
  | claimed lease fileKey leaseRaw hcall hplace =>
    refine .inl ?_
    unfold Event.claimedPlace
    dsimp only
    rw [hcall, hok]
    exact hplace
  | approved lease hcall =>
    obtain ⟨_, _, _, hcall⟩ := hcall
    exact .inr (claimedPlace_of_call (by simp [hcall]))
  | rejected hcall =>
    obtain ⟨_, _, _, hcall⟩ := hcall
    exact .inr (claimedPlace_of_call (by simp [hcall]))
  | recorded id result hcall => exact .inr (claimedPlace_of_call (by simp [hcall]))
  | verified hcall =>
    obtain ⟨_, _, _, hcall⟩ := hcall
    exact .inr (claimedPlace_of_call (by simp [hcall]))

/-- What is known of a record that is moved, after the move. -/
theorem recordSound_of_move {place : ℕ} {current next : MutationRecord}
    {changed : List MutationRecord × StoreAnswer}
    (hok : timed.perform host records = .ok changed) (hcurrent : records[place]? = some current)
    (hmove : Move host timed records place current next)
    (h : RecordSound host events place (some current)) :
    RecordSound host (events ++ [⟨timed, records⟩]) place (some next) := by
  have hclaims (hcall : ∀ fileKey leaseRaw, timed.call ≠ .claim fileKey leaseRaw) :
      claimsOf host (events ++ [⟨timed, records⟩]) place = claimsOf host events place := by
    refine claimsOf_concat_of_ne ?_
    rw [claimedPlace_of_call hcall]
    exact (Option.some_ne_none _).symm
  have hkept (hcall : ∀ fileKey leaseRaw, timed.call ≠ .claim fileKey leaseRaw)
      (hearned : Earned host events place) :
      Earned host (events ++ [⟨timed, records⟩]) place := by
    obtain ⟨claimed, hclaimed, hleased⟩ := hearned
    exact ⟨claimed, by rw [hclaims hcall, hclaimed], hleased⟩
  unfold RecordSound at h ⊢
  dsimp only at h ⊢
  cases hmove with
  | approved lease hcall hfrom hto hlease hunused =>
    obtain ⟨_, _, _, hcall⟩ := hcall
    rw [hfrom] at h
    rw [hto]
    refine ⟨lease, hlease, ?_⟩
    rw [if_neg (by simp [hunused]), hclaims (by simp [hcall])]
    exact h.2
  | rejected hcall hfrom hto hlease =>
    obtain ⟨_, _, _, hcall⟩ := hcall
    rw [hfrom] at h
    rw [hto]
    exact ⟨hlease.trans h.1, (hclaims (by simp [hcall])).trans h.2⟩
  | claimed lease fileKey leaseRaw hcall hplace hfrom hto hheld hunused hunexpired hlease =>
    rw [hfrom] at h
    rw [hto]
    obtain ⟨held, hheld', hnone⟩ := h
    obtain rfl : lease = held := Option.some.inj (hheld.symm.trans hheld')
    rw [if_neg (by simp [hunused])] at hnone
    refine ⟨_, hlease, ?_⟩
    rw [if_pos rfl]
    -- this is the first claim of the record
    have hclaimed : Event.claimedPlace host ⟨timed, records⟩ = some place := by
      unfold Event.claimedPlace
      dsimp only
      rw [hcall, hok]
      exact hplace
    refine ⟨⟨timed, records⟩, ?_, current, lease, hcurrent, hfrom, hheld, hunused, hunexpired⟩
    rw [claimsOf_concat, hnone, if_pos hclaimed, List.nil_append]
  | recorded id result hcall hplace hfrom hto hlease =>
    rw [hfrom] at h
    obtain ⟨lease, hheld, hused⟩ := h
    have hdone : (∀ event ∈ events ++ [⟨timed, records⟩], event.Careful host) →
        Earned host (events ++ [⟨timed, records⟩]) place := by
      intro hcareful
      have hthis := hcareful ⟨timed, records⟩ (List.mem_append_right _ List.mem_cons_self)
        id result place current hcall ⟨_, hok⟩ hplace hcurrent
      unfold leaseUsed at hthis
      rw [hcurrent, Option.bind_some, hheld, Option.any_some] at hthis
      rw [if_pos hthis] at hused
      exact hkept (by simp [hcall]) hused
    rcases hto with hto | hto
    · rw [hto]
      exact hdone
    · rw [hto]
      exact hdone
  | verified hcall hfrom hto hlease =>
    obtain ⟨_, _, _, hcall⟩ := hcall
    rw [hfrom] at h
    have hdone : (∀ event ∈ events ++ [⟨timed, records⟩], event.Careful host) →
        Earned host (events ++ [⟨timed, records⟩]) place := fun hcareful =>
      hkept (by simp [hcall]) (h fun event hevent =>
        hcareful event (List.mem_append_left _ hevent))
    rcases hto with hto | hto
    · rw [hto]
      exact hdone
    · rw [hto]
      exact hdone

/-- **What one call preserves.** -/
theorem Sound.concat (h : Sound host events records) (timed : TimedCall) :
    Sound host (events ++ [⟨timed, records⟩]) (timed.after host records) := by
  intro place
  unfold TimedCall.after
  cases hok : timed.perform host records with
  | error e =>
    refine (h place).concat ?_
    rw [claimedPlace_of_error hok]
    exact (Option.some_ne_none _).symm
  | ok changed =>
    obtain ⟨records', answer⟩ := changed
    dsimp only
    cases perform_changed hok with
    | submitted record hcall hstatus hlease =>
      obtain ⟨proposal, id, hcall⟩ := hcall
      have hnot : Event.claimedPlace host ⟨timed, records⟩ ≠ some place := by
        rw [claimedPlace_of_call (by simp [hcall])]
        exact (Option.some_ne_none _).symm
      rcases lt_trichotomy place records.length with hlt | rfl | hgt
      · rw [List.getElem?_append_left hlt]
        exact (h place).concat hnot
      · have hnone := h records.length
        rw [List.getElem?_eq_none le_rfl] at hnone
        rw [List.getElem?_append_right le_rfl, Nat.sub_self]
        unfold RecordSound
        dsimp only [List.getElem?_cons_zero]
        rw [hstatus]
        exact ⟨hlease, (claimsOf_concat_of_ne hnot).trans hnone⟩
      · have hnone := h place
        rw [List.getElem?_eq_none (by omega)] at hnone
        rw [List.getElem?_eq_none (by simp; omega)]
        exact hnone.concat hnot
    | moved index current next hcurrent hmove =>
      by_cases hplace : index = place
      · subst hplace
        have hlt := (List.getElem?_eq_some_iff.1 hcurrent).1
        rw [List.getElem?_set_self hlt]
        have hrecord := h index
        rw [hcurrent] at hrecord
        exact recordSound_of_move hok hcurrent hmove hrecord
      · rw [List.getElem?_set_ne hplace]
        refine (h place).concat ?_
        rcases claimedPlace_of_move hok hmove with hclaimed | hclaimed
        · rw [hclaimed]
          exact fun heq => hplace (Option.some.inj heq)
        · rw [hclaimed]
          exact (Option.some_ne_none _).symm

/-- **Only a claim uses a lease.** -/
theorem consumed_of_event (event : Event) {place : ℕ}
    (hbefore : leaseUsed event.before place = false)
    (hafter : leaseUsed (event.timed.after host event.before) place = true) :
    event.claimedPlace host = some place := by
  obtain ⟨timed, records⟩ := event
  dsimp only at hbefore hafter ⊢
  unfold TimedCall.after at hafter
  cases hok : timed.perform host records with
  | error e =>
    rw [hok] at hafter
    rw [hbefore] at hafter
    cases hafter
  | ok changed =>
    obtain ⟨records', answer⟩ := changed
    rw [hok] at hafter
    dsimp only at hafter
    cases perform_changed hok with
    | submitted record hcall hstatus hlease =>
      unfold leaseUsed at hbefore hafter
      rcases lt_trichotomy place records.length with hlt | rfl | hgt
      · rw [List.getElem?_append_left hlt, hbefore] at hafter
        cases hafter
      · rw [List.getElem?_append_right le_rfl, Nat.sub_self, List.getElem?_cons_zero,
          Option.bind_some, hlease] at hafter
        cases hafter
      · rw [List.getElem?_eq_none (by simp; omega)] at hafter
        cases hafter
    | moved index current next hcurrent hmove =>
      by_cases hplace : index = place
      · subst hplace
        have hlt := (List.getElem?_eq_some_iff.1 hcurrent).1
        unfold leaseUsed at hbefore hafter
        rw [hcurrent, Option.bind_some] at hbefore
        rw [List.getElem?_set_self hlt, Option.bind_some] at hafter
        cases hmove with
        | approved lease hcall hfrom hto hlease hunused =>
          rw [hlease, Option.any_some, hunused] at hafter
          cases hafter
        | claimed lease fileKey leaseRaw hcall hclaimed =>
          unfold Event.claimedPlace
          dsimp only
          rw [hcall, hok]
          exact hclaimed
        | rejected hcall hfrom hto hlease =>
          rw [hlease, hbefore] at hafter
          cases hafter
        | recorded id result hcall hfound hfrom hto hlease =>
          rw [hlease, hbefore] at hafter
          cases hafter
        | verified hcall hfrom hto hlease =>
          rw [hlease, hbefore] at hafter
          cases hafter
      · unfold leaseUsed at hbefore hafter
        rw [List.getElem?_set_ne hplace, hbefore] at hafter
        cases hafter

/-! ### Runs -/

theorem mem_historyFrom {calls : List TimedCall} {event : Event} :
    event ∈ historyFrom host records calls ↔
      ∃ past timed rest, calls = past ++ timed :: rest ∧
        event = ⟨timed, recordsFrom host records past⟩ := by
  induction calls generalizing records with
  | nil =>
    rw [historyFrom]
    simp
  | cons first calls ih =>
    rw [historyFrom, List.mem_cons, ih]
    constructor
    · rintro (rfl | ⟨past, timed, rest, rfl, rfl⟩)
      · exact ⟨[], first, calls, rfl, rfl⟩
      · exact ⟨first :: past, timed, rest, rfl, rfl⟩
    · rintro ⟨past, timed, rest, hsplit, rfl⟩
      cases past with
      | nil =>
        obtain ⟨rfl, -⟩ := List.cons.inj hsplit
        exact .inl rfl
      | cons _ past =>
        obtain ⟨rfl, rfl⟩ := List.cons.inj hsplit
        exact .inr ⟨past, timed, rest, rfl, rfl⟩

theorem historyFrom_concat (calls : List TimedCall) (timed : TimedCall) :
    historyFrom host records (calls ++ [timed]) =
      historyFrom host records calls ++ [⟨timed, recordsFrom host records calls⟩] := by
  induction calls generalizing records with
  | nil => rfl
  | cons first calls ih =>
    rw [List.cons_append, historyFrom, ih]
    rfl

theorem recordsFrom_concat (calls : List TimedCall) (timed : TimedCall) :
    recordsFrom host records (calls ++ [timed]) =
      timed.after host (recordsFrom host records calls) := by
  unfold recordsFrom
  rw [List.foldl_append]
  rfl

/-- **What a whole run keeps.** -/
theorem sound_run (calls : List TimedCall) :
    Sound host (historyFrom host [] calls) (recordsFrom host [] calls) := by
  induction calls using List.reverseRecOn with
  | nil => exact fun place => rfl
  | append_singleton calls timed ih =>
    rw [historyFrom_concat, recordsFrom_concat]
    exact ih.concat timed

/-- A result that is taken leaves its record done. -/
theorem done_of_recordResult {id : JsString} {result : MutationResult} {place : ℕ}
    {changed : List MutationRecord × StoreAnswer} (hcall : timed.call = .recordResult id result)
    (hok : timed.perform host records = .ok changed) (hplace : placeOf records id = some place) :
    ∃ current next, records[place]? = some current ∧ current.status = .approved ∧
      (timed.after host records)[place]? = some next ∧ next.status.IsDone := by
  have hafter : timed.after host records = changed.1 := by
    unfold TimedCall.after
    rw [hok]
  rw [hafter]
  generalize hrecords : changed.1 = records'
  have hchanged : Changed host timed records records' := by
    obtain ⟨first, answer⟩ := changed
    rw [← hrecords]
    exact perform_changed hok
  cases hchanged with
  | submitted record hsubmit =>
    obtain ⟨_, _, hsubmit⟩ := hsubmit
    rw [hcall] at hsubmit
    cases hsubmit
  | moved index current next hcurrent hmove =>
    have hlt := (List.getElem?_eq_some_iff.1 hcurrent).1
    cases hmove with
    | recorded id' result' hcall' hfound hfrom hto hlease =>
      rw [hcall] at hcall'
      obtain ⟨rfl, rfl⟩ := StoreCall.recordResult.inj hcall'
      obtain rfl : place = index := Option.some.inj (hplace.symm.trans hfound)
      refine ⟨current, next, hcurrent, hfrom, List.getElem?_set_self hlt, ?_⟩
      rcases hto with hto | hto
      · exact .inl hto
      · exact .inr (.inl hto)
    | approved _ hother =>
      obtain ⟨_, _, _, hother⟩ := hother
      rw [hcall] at hother
      cases hother
    | rejected hother =>
      obtain ⟨_, _, _, hother⟩ := hother
      rw [hcall] at hother
      cases hother
    | claimed _ _ _ hother =>
      rw [hcall] at hother
      cases hother
    | verified hother =>
      obtain ⟨_, _, _, hother⟩ := hother
      rw [hcall] at hother
      cases hother

end leases

/-- **When Figma mutations run only under a lease.** In every state of a run, each mutation that
was tried has had exactly one granted claim, of an approved and unexpired lease, and nothing but a
claim has used a lease, if and only if every result that was taken for an approved mutation was
taken after its lease was claimed. -/
theorem underLease_iff (host : StoreHost) (calls : List TimedCall) :
    (∀ past, past <+: calls →
      UnderLease host (historyFrom host [] past) (recordsFrom host [] past)) ↔
    ∀ event ∈ historyFrom host [] calls, event.Careful host := by
  constructor
  · intro hunder event hevent id result place record hcall hok hplace hrecord
    obtain ⟨past, timed, rest, rfl, rfl⟩ := mem_historyFrom.1 hevent
    obtain ⟨changed, hok⟩ := hok
    obtain ⟨current, next, hcurrent, hstatus, hnext, hdone⟩ :=
      done_of_recordResult hcall hok hplace
    by_contra hunused
    have hbefore : RecordSound host (historyFrom host [] past) place
        (recordsFrom host [] past)[place]? := sound_run past place
    rw [hcurrent] at hbefore
    unfold RecordSound at hbefore
    dsimp only at hbefore
    rw [hstatus] at hbefore
    obtain ⟨lease, hlease, hclaims⟩ := hbefore
    unfold leaseUsed at hunused
    rw [hcurrent, Option.bind_some, hlease, Option.any_some] at hunused
    rw [if_neg hunused] at hclaims
    -- the mutation is done now, and was never claimed
    have hnow := (hunder (past ++ [timed]) ⟨rest, by simp⟩).earned place next
      (by rw [recordsFrom_concat]; exact hnext) hdone
    obtain ⟨claimed, hclaimed, -⟩ := hnow
    rw [historyFrom_concat, claimsOf_concat_of_ne, hclaims] at hclaimed
    · cases hclaimed
    · have hcall' : timed.call = .recordResult id result := hcall
      rw [claimedPlace_of_call (by simp [hcall'])]
      exact (Option.some_ne_none _).symm
  · rintro hcareful past ⟨rest, rfl⟩
    refine ⟨fun place record hrecord hdone => ?_, fun event _ place => consumed_of_event event⟩
    have hsound : RecordSound host (historyFrom host [] past) place
        (recordsFrom host [] past)[place]? := sound_run past place
    rw [hrecord] at hsound
    unfold RecordSound at hsound
    dsimp only at hsound
    have hall : ∀ event ∈ historyFrom host [] past, event.Careful host := by
      intro event hevent
      obtain ⟨before, timed, after, rfl, rfl⟩ := mem_historyFrom.1 hevent
      refine hcareful _ (mem_historyFrom.2 ⟨before, timed, after ++ rest, by simp, rfl⟩)
    rcases hdone with hstatus | hstatus | hstatus | hstatus
    all_goals
      rw [hstatus] at hsound
      exact hsound hall

def sampleProposal : Value :=
  .object [(js "schemaVersion", .string (js "autopilot.figma-mutation/1")),
    (js "source",
      .object [(js "provider", .string (js "figma")), (js "fileKey", .string (js "k"))]),
    (js "briefHash", .string (List.replicate 64 97)), (js "expectedVersion", .string (js "1")),
    (js "rollbackPlan", .object [(js "versionCheckpoint", .bool true)]),
    (js "ops", .array [.object [(js "op", .string (js "createFrame")),
      (js "args", .object [(js "name", .string (js "n"))])]])]

/-- A mutation that is approved, and whose result is recorded without a claim. -/
def sampleCalls : List TimedCall :=
  [⟨.submit sampleProposal (js "fm"), 0, {}⟩, ⟨.approve (js "fm") (js "owner") (js "l"), 1, {}⟩,
    ⟨.recordResult (js "fm") {}, 2, {}⟩]

def sampleHost : StoreHost := ⟨fun _ => [], id⟩

theorem underLease_counterexample :
    ¬∀ (host : StoreHost) (calls : List TimedCall),
      UnderLease host (historyFrom host [] calls) (recordsFrom host [] calls) := by
  intro hall
  have hexecuted : (recordsFrom sampleHost [] sampleCalls)[0]?.map (·.status) = some .executed := by
    decide +kernel
  have hunclaimed :
      (claimsOf sampleHost (historyFrom sampleHost [] sampleCalls) 0).length = 0 := by
    decide +kernel
  obtain ⟨record, hrecord, hstatus⟩ := Option.map_eq_some_iff.1 hexecuted
  obtain ⟨event, hclaims, -⟩ :=
    (hall sampleHost sampleCalls).earned 0 record hrecord (.inl hstatus)
  rw [hclaims] at hunclaimed
  cases hunclaimed

end FigmaMutations
end Autopilot
