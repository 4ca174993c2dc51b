/-
Many writers on one brainstorm store.

Every call holds the lock of the state directory from reading the document to
writing it back, so what any number of clients do is one list of calls. What each
client read before it called is in the arguments of its call: the revision it
expects, or the whole record it puts in place.

One lemma for each call says what it needs and what it writes. The store is then
an instance of `Versioned`, and the rest follows from that.
-/
import Autopilot.BrainstormStore
import Autopilot.Lib.Versioned

set_option autoImplicit false

namespace Autopilot

open Prog Keyed BrainstormStore

/-! ## What a call does -/

/-- What never changes of a brainstorm. -/
structure SamePlan (existing replacement : BrainstormRecord) : Prop where
  brainstormId : replacement.brainstormId = existing.brainstormId
  projectId : replacement.projectId = existing.projectId
  brief : replacement.brief = existing.brief
  routes : replacement.routes = existing.routes
  synthesizerRoute : replacement.synthesizerRoute = existing.synthesizerRoute
  arbitrationRoute : replacement.arbitrationRoute = existing.arbitrationRoute
  tokenEnvelope : replacement.tokenEnvelope = existing.tokenEnvelope
  slots : replacement.slots.map (·.plan) = existing.slots.map (·.plan)
  createdAt : replacement.createdAt = existing.createdAt

theorem SamePlan.refl (record : BrainstormRecord) : SamePlan record record :=
  ⟨rfl, rfl, rfl, rfl, rfl, rfl, rfl, rfl, rfl⟩

theorem SamePlan.trans {a b c : BrainstormRecord} (hab : SamePlan a b) (hbc : SamePlan b c) :
    SamePlan a c where
  brainstormId := hbc.brainstormId.trans hab.brainstormId
  projectId := hbc.projectId.trans hab.projectId
  brief := hbc.brief.trans hab.brief
  routes := hbc.routes.trans hab.routes
  synthesizerRoute := hbc.synthesizerRoute.trans hab.synthesizerRoute
  arbitrationRoute := hbc.arbitrationRoute.trans hab.arbitrationRoute
  tokenEnvelope := hbc.tokenEnvelope.trans hab.tokenEnvelope
  slots := hbc.slots.trans hab.slots
  createdAt := hbc.createdAt.trans hab.createdAt

/-- The comparison of the source compares all of it. -/
theorem samePlan_of_sameImmutableFields {existing replacement : BrainstormRecord}
    (h : sameImmutableFields existing replacement = true) : SamePlan existing replacement := by
  simp only [sameImmutableFields, Bool.and_eq_true, decide_eq_true_eq] at h
  obtain ⟨⟨⟨⟨⟨⟨⟨⟨hid, hproject⟩, hbrief⟩, hroutes⟩, hsynth⟩, harb⟩, henvelope⟩, hslots⟩,
    hcreated⟩ := h
  exact ⟨hid.symm, hproject.symm, hbrief.symm, hroutes.symm, hsynth.symm, harb.symm,
    henvelope.symm, hslots.symm, hcreated.symm⟩

section calls

variable {h : Machine BrainstormStore}

/-- The call threw, or died, and the store is what it was. -/
def Rejected (h : Machine BrainstormStore)
    (result : Except (Fault JsError) BrainstormRecord × Machine BrainstormStore) : Prop :=
  ∃ fault, result.1 = .error fault ∧ result.2.store = h.store

/-- The call wrote these brainstorms and returned the record. -/
def Wrote (record : BrainstormRecord) (next : List BrainstormRecord)
    (result : Except (Fault JsError) BrainstormRecord × Machine BrainstormStore) : Prop :=
  result.1 = .ok record ∧ result.2.store.brainstorms = next

theorem brainstorm_ids_nodup (store : BrainstormStore) :
    (store.brainstorms.map BrainstormRecord.brainstormId).Nodup := by
  have hv := store.valid
  simp only [isBrainstormStoreDocument, Bool.and_eq_true, decide_eq_true_eq] at hv
  exact hv.2

/-- Finding a brainstorm in front of a program. -/
theorem get_bind_run {α : Type} (brainstormId : JsString)
    (rest : BrainstormRecord → Proc BrainstormStore α) :
    (BrainstormStore.get brainstormId >>= rest) h
      = match lookup BrainstormRecord.brainstormId h.store.brainstorms brainstormId with
        | some record => rest record h
        | none => (.error (.thrown (JsError.new "brainstorm_not_found")), h) := by
  unfold BrainstormStore.get
  rw [bind_run, bind_run, Host.read_run]
  dsimp only
  cases lookup BrainstormRecord.brainstormId h.store.brainstorms brainstormId <;> rfl

/-- Writing a document and returning the record it was written for. -/
theorem write_pure_cases (next : List BrainstormRecord) (record : BrainstormRecord) :
    Rejected h ((BrainstormStore.write next >>= fun _ => pure record) h) ∨
      Wrote record next ((BrainstormStore.write next >>= fun _ => pure record) h) := by
  unfold BrainstormStore.write
  by_cases hv : isBrainstormStoreDocument next = true
  · rw [dif_pos hv]
    rcases Host.write_cases (fun _ => (⟨next, hv⟩ : BrainstormStore)) h with
      ⟨ws, hrun, -⟩ | ⟨fault, ws, hrun, -⟩
    · rw [bind_run_ok hrun]
      exact .inr ⟨rfl, rfl⟩
    · rw [bind_run_error hrun]
      exact .inl ⟨fault, rfl, rfl⟩
  · rw [dif_neg hv]
    exact .inl ⟨_, rfl, rfl⟩

/-- **What `createBrainstorm` does**: it adds a brainstorm, of revision 1. -/
theorem createBrainstorm_cases (input : BrainstormCreateInput) (createdAt : Option ℕ) :
    Rejected h (createBrainstorm input createdAt h) ∨
      ∃ createdAt' id, Wrote (newBrainstorm input createdAt' id)
        (h.store.brainstorms ++ [newBrainstorm input createdAt' id])
        (createBrainstorm input createdAt h) := by
  unfold createBrainstorm
  cases createInputRefusal input with
  | some error => exact .inl ⟨_, rfl, rfl⟩
  | none =>
    cases createdAt with
    | none => exact .inl ⟨_, rfl, rfl⟩
    | some createdAt =>
      dsimp only
      rw [bind_run, Host.read_run]
      dsimp only
      rw [throwIf_bind_run]
      split
      · exact .inl ⟨_, rfl, rfl⟩
      rw [randomUUID_bind_run]
      rcases h.supply.next with _ | ⟨id, supply⟩
      · exact .inl ⟨_, rfl, rfl⟩
      -- drawing the identifier leaves the store as it is
      rcases write_pure_cases (h := { h with supply := supply })
        (h.store.brainstorms ++ [newBrainstorm input createdAt id])
        (newBrainstorm input createdAt id) with hrej | hwrote
      · exact .inl hrej
      · exact .inr ⟨createdAt, id, hwrote⟩

/-- **What `replaceBrainstorm` does**: it puts the next revision of a brainstorm in
place of the stored one. -/
theorem replaceBrainstorm_cases (record : BrainstormRecord) :
    Rejected h (replaceBrainstorm record h) ∨
      ∃ existing, lookup BrainstormRecord.brainstormId h.store.brainstorms record.brainstormId
          = some existing ∧
        SamePlan existing record ∧ record.revision = existing.revision + 1 ∧
        Wrote record (h.store.brainstorms.map (put BrainstormRecord.brainstormId record))
          (replaceBrainstorm record h) := by
  unfold replaceBrainstorm
  rw [throwIf_bind_run]
  split
  · exact .inl ⟨_, rfl, rfl⟩
  rw [get_bind_run]
  cases hl : lookup BrainstormRecord.brainstormId h.store.brainstorms record.brainstormId with
  | none => exact .inl ⟨_, rfl, rfl⟩
  | some existing =>
    dsimp only
    rw [throwIf_bind_run]
    split
    · exact .inl ⟨_, rfl, rfl⟩
    rename_i hsame
    rw [throwIf_bind_run]
    split
    · exact .inl ⟨_, rfl, rfl⟩
    rename_i hrevision
    rw [bind_run, Host.read_run]
    dsimp only
    rcases write_pure_cases (h := h)
      (h.store.brainstorms.map (put BrainstormRecord.brainstormId record)) record with hrej | hwrote
    · exact .inl hrej
    · refine .inr ⟨existing, rfl, samePlan_of_sameImmutableFields ?_, not_not.1 hrevision, hwrote⟩
      simpa using hsame

/-- **What `compareAndSwapBrainstorm` does**: it puts the next revision of a
brainstorm in place of the one the caller expected, as the function of the caller makes it. -/
theorem compareAndSwapBrainstorm_cases (brainstormId : JsString) (expectedRevision : JsNumber)
    (mutate : BrainstormRecord → Except JsError BrainstormRecord) :
    Rejected h (compareAndSwapBrainstorm brainstormId expectedRevision mutate h) ∨
      ∃ current replacement,
        lookup BrainstormRecord.brainstormId h.store.brainstorms brainstormId = some current ∧
        expectedRevision.isNat current.revision = true ∧ SamePlan current replacement ∧
        (∃ proposed, mutate current = .ok proposed ∧
          replacement = { proposed with revision := current.revision + 1 }) ∧
        Wrote replacement (h.store.brainstorms.map (put BrainstormRecord.brainstormId replacement))
          (compareAndSwapBrainstorm brainstormId expectedRevision mutate h) := by
  unfold compareAndSwapBrainstorm
  rw [get_bind_run]
  cases hl : lookup BrainstormRecord.brainstormId h.store.brainstorms brainstormId with
  | none => exact .inl ⟨_, rfl, rfl⟩
  | some current =>
    dsimp only
    rw [throwIf_bind_run]
    split
    · exact .inl ⟨_, rfl, rfl⟩
    rename_i hexpected
    rw [ofExcept_bind_run]
    cases hmutate : mutate current with
    | error e => exact .inl ⟨_, rfl, rfl⟩
    | ok proposed =>
      dsimp only
      set replacement := { proposed with revision := current.revision + 1 } with hreplacement
      rw [throwIf_bind_run]
      split
      · exact .inl ⟨_, rfl, rfl⟩
      rw [throwIf_bind_run]
      split
      · exact .inl ⟨_, rfl, rfl⟩
      rename_i hsame
      rw [bind_run, Host.read_run]
      dsimp only
      rcases write_pure_cases (h := h)
        (h.store.brainstorms.map (put BrainstormRecord.brainstormId replacement)) replacement with
        hrej | hwrote
      · exact .inl hrej
      · refine .inr ⟨current, replacement, rfl, ?_, samePlan_of_sameImmutableFields ?_,
          ⟨proposed, hmutate, hreplacement⟩, hwrote⟩
        · simpa using hexpected
        · simpa using hsame

end calls

/-! ## Calls of any number of clients -/

/-- One call of one client. -/
inductive BrainstormCall where
  | create (input : BrainstormCreateInput) (createdAt : Option ℕ)
  | replace (record : BrainstormRecord)
  | compareAndSwap (brainstormId : JsString) (expectedRevision : JsNumber)
      (mutate : BrainstormRecord → Except JsError BrainstormRecord)

namespace BrainstormCall

/-- What a call returns, and the store after it. -/
def outcome (h : Machine BrainstormStore) :
    BrainstormCall → Except (Fault JsError) BrainstormRecord × Machine BrainstormStore
  | .create input createdAt => createBrainstorm input createdAt h
  | .replace record => replaceBrainstorm record h
  | .compareAndSwap brainstormId expectedRevision mutate =>
    compareAndSwapBrainstorm brainstormId expectedRevision mutate h

/-- The brainstorm a call writes, when it gets through. -/
def writes (h : Machine BrainstormStore) (c : BrainstormCall) : Option JsString :=
  match (c.outcome h).1 with
  | .ok record => some record.brainstormId
  | .error _ => none

/-- The caller read this revision of this brainstorm: it expects it, or passes the
record that comes next. -/
def basedOn : BrainstormCall → JsString → ℕ → Bool
  | .create _ _, _, _ => false
  | .replace record, brainstormId, revision =>
    record.brainstormId = brainstormId && record.revision = revision + 1
  | .compareAndSwap id expectedRevision _, brainstormId, revision =>
    id = brainstormId && expectedRevision.isNat revision

end BrainstormCall

/-- The revision of a brainstorm, which is 0 before there is one. -/
def revisionOf (h : Machine BrainstormStore) (brainstormId : JsString) : ℕ :=
  ((lookup BrainstormRecord.brainstormId h.store.brainstorms brainstormId).map (·.revision)).getD 0

section spec

variable {h : Machine BrainstormStore} {c : BrainstormCall} {record : BrainstormRecord}

/-- What a call that gets through has done to the brainstorms. -/
inductive Written (h : Machine BrainstormStore) (c : BrainstormCall) (record : BrainstormRecord) :
    Prop where
  | created (hfresh : ∀ other ∈ h.store.brainstorms, other.brainstormId ≠ record.brainstormId)
      (hrevision : record.revision = 1) (hbase : ∀ id n, c.basedOn id n = false)
      (hstore : (c.outcome h).2.store.brainstorms = h.store.brainstorms ++ [record])
  | replaced (existing : BrainstormRecord)
      (hl : lookup BrainstormRecord.brainstormId h.store.brainstorms record.brainstormId
        = some existing)
      (hplan : SamePlan existing record) (hrevision : record.revision = existing.revision + 1)
      (hbase : ∀ id n, c.basedOn id n = true → id = record.brainstormId ∧ n = existing.revision)
      (hstore : (c.outcome h).2.store.brainstorms
        = h.store.brainstorms.map (put BrainstormRecord.brainstormId record))

theorem isNat_unique {x : JsNumber} {m n : ℕ} (hm : x.isNat m = true) (hn : x.isNat n = true) :
    m = n := by
  cases x with
  | finite a k =>
    simp only [JsNumber.isNat, decide_eq_true_eq] at hm hn
    have hpos : (2 : ℤ) ^ k ≠ 0 := by positivity
    have := mul_right_cancel₀ hpos (hm.symm.trans hn)
    exact_mod_cast this
  | nan => cases hm
  | posInf => cases hm
  | negInf => cases hm

/-- **A call is rejected, or has written one brainstorm.** -/
theorem BrainstormCall.outcome_cases (c : BrainstormCall) (h : Machine BrainstormStore) :
    Rejected h (c.outcome h) ∨ ∃ record, (c.outcome h).1 = .ok record ∧ Written h c record := by
  cases c with
  | create input createdAt =>
    rcases createBrainstorm_cases (h := h) input createdAt with hrej | ⟨time, id, hok, hstore⟩
    · exact .inl hrej
    · refine .inr ⟨_, hok, .created ?_ rfl (fun _ _ => rfl) hstore⟩
      -- the document that was written has every identifier once
      have hnd := brainstorm_ids_nodup (createBrainstorm input createdAt h).2.store
      rw [hstore, List.map_append, List.nodup_append] at hnd
      rintro other hother heq
      exact hnd.2.2 _ (List.mem_map_of_mem hother) _ (List.mem_singleton_self _) heq
  | replace record =>
    rcases replaceBrainstorm_cases (h := h) record with
      hrej | ⟨existing, hl, hplan, hrev, hok, hstore⟩
    · exact .inl hrej
    · refine .inr ⟨record, hok, .replaced existing hl hplan hrev (fun id n hbase => ?_) hstore⟩
      simp only [BrainstormCall.basedOn, Bool.and_eq_true, decide_eq_true_eq] at hbase
      exact ⟨hbase.1.symm, by omega⟩
  | compareAndSwap brainstormId expectedRevision mutate =>
    rcases compareAndSwapBrainstorm_cases (h := h) brainstormId expectedRevision mutate with
      hrej | ⟨current, replacement, hl, hexpected, hplan, ⟨proposed, -, rfl⟩, hok, hstore⟩
    · exact .inl hrej
    · set replacement := { proposed with revision := current.revision + 1 } with hreplacement
      have hrev : replacement.revision = current.revision + 1 := rfl
      have hid : replacement.brainstormId = brainstormId :=
        hplan.brainstormId.trans (lookup_mem hl).2
      refine .inr ⟨replacement, hok, .replaced current (hid ▸ hl) hplan hrev (fun id n hbase => ?_)
        hstore⟩
      simp only [BrainstormCall.basedOn, Bool.and_eq_true, decide_eq_true_eq] at hbase
      exact ⟨(hid.trans hbase.1).symm, isNat_unique hbase.2 hexpected⟩

theorem Written.lookup (hw : Written h c record) (id : JsString) :
    lookup BrainstormRecord.brainstormId (c.outcome h).2.store.brainstorms id
      = if id = record.brainstormId then some record
        else Keyed.lookup BrainstormRecord.brainstormId h.store.brainstorms id := by
  cases hw with
  | created hfresh hrevision hbase hstore =>
    rw [hstore]
    exact lookup_append hfresh id
  | replaced existing hl hplan hrevision hbase hstore =>
    rw [hstore, lookup_put]
    split
    · rename_i hid
      rw [hid, hl]
      rfl
    · rfl

theorem writes_eq_some {id : JsString} (hw : c.writes h = some id) :
    ∃ record, record.brainstormId = id ∧ (c.outcome h).1 = .ok record ∧ Written h c record := by
  unfold BrainstormCall.writes at hw
  rcases c.outcome_cases h with ⟨fault, hr, -⟩ | ⟨record, hr, hwritten⟩
  · rw [hr] at hw
    cases hw
  · rw [hr] at hw
    exact ⟨record, Option.some.inj hw, hr, hwritten⟩

theorem revisionOf_written (hw : Written h c record) :
    revisionOf (c.outcome h).2 record.brainstormId = revisionOf h record.brainstormId + 1 := by
  unfold revisionOf
  rw [hw.lookup, if_pos rfl]
  cases hw with
  | created hfresh hrevision hbase hstore =>
    rw [lookup_eq_none.2 hfresh]
    exact hrevision
  | replaced existing hl hplan hrevision hbase hstore =>
    rw [hl]
    exact hrevision

theorem revisionOf_other {id : JsString} (hw : c.writes h ≠ some id) :
    revisionOf (c.outcome h).2 id = revisionOf h id := by
  unfold revisionOf
  rcases c.outcome_cases h with ⟨fault, -, hstore⟩ | ⟨record, hr, hwritten⟩
  · rw [hstore]
  · rw [hwritten.lookup, if_neg]
    rintro rfl
    unfold BrainstormCall.writes at hw
    rw [hr] at hw
    exact hw rfl

/-- The brainstorm store under its calls. -/
def brainstormVersions : Versioned (Machine BrainstormStore) JsString BrainstormCall where
  version := revisionOf
  run h c := (c.outcome h).2
  writes h c := c.writes h
  basedOn := BrainstormCall.basedOn
  grows h c id hw := by
    obtain ⟨record, rfl, -, hwritten⟩ := writes_eq_some hw
    exact revisionOf_written hwritten
  others h c id hw := revisionOf_other hw
  current h c id id' n hw hbase := by
    obtain ⟨record, rfl, -, hwritten⟩ := writes_eq_some hw
    cases hwritten with
    | created hfresh hrevision hnone hstore =>
      rw [hnone] at hbase
      cases hbase
    | replaced existing hl hplan hrevision hcurrent hstore =>
      obtain ⟨rfl, rfl⟩ := hcurrent id' n hbase
      refine ⟨rfl, ?_⟩
      unfold revisionOf
      rw [hl]
      rfl

end spec

/-! ## What any number of writers can rely on -/

/-- The store after a list of calls. -/
abbrev afterCalls (h : Machine BrainstormStore) (calls : List BrainstormCall) :
    Machine BrainstormStore := brainstormVersions.through h calls

/-- What a client that knows how the others write can rely on. -/
structure WritersAgree (h : Machine BrainstormStore) (calls : List BrainstormCall) : Prop where
  /-- The revision counts the writes that got through, between any two moments. -/
  counts : ∀ before between rest id, calls = before ++ between ++ rest →
    revisionOf (afterCalls h (before ++ between)) id
      = revisionOf (afterCalls h before) id
        + brainstormVersions.writeCount id (afterCalls h before) between
  /-- Of the writers that read one revision at most one gets through. -/
  once : ∀ before rest id revision, calls = before ++ rest →
    brainstormVersions.winners id revision (afterCalls h before) rest ≤ 1
  /-- A brainstorm stays, with the plan it was created with. -/
  immutable : ∀ before between rest, calls = before ++ between ++ rest →
    ∀ record ∈ (afterCalls h before).store.brainstorms,
      ∃ record' ∈ (afterCalls h (before ++ between)).store.brainstorms, SamePlan record record'
  /-- A call that is rejected leaves the store as it was. -/
  rejected : ∀ before c rest fault, calls = before ++ c :: rest →
    (c.outcome (afterCalls h before)).1 = .error fault →
    (afterCalls h (before ++ [c])).store = (afterCalls h before).store

theorem BrainstormCall.keepsPlans (c : BrainstormCall) (h : Machine BrainstormStore)
    {record : BrainstormRecord} (hmem : record ∈ h.store.brainstorms) :
    ∃ record' ∈ (c.outcome h).2.store.brainstorms, SamePlan record record' := by
  rcases c.outcome_cases h with ⟨fault, -, hstore⟩ | ⟨written, hr, hwritten⟩
  · rw [hstore]
    exact ⟨record, hmem, .refl record⟩
  · cases hwritten with
    | created hfresh hrevision hbase hstore =>
      rw [hstore]
      exact ⟨record, List.mem_append_left _ hmem, .refl record⟩
    | replaced existing hl hplan hrevision hbase hstore =>
      rw [hstore]
      refine ⟨put BrainstormRecord.brainstormId written record, List.mem_map_of_mem hmem, ?_⟩
      unfold put
      split
      · rename_i hid
        -- it is the record that was replaced
        have hfound := lookup_of_mem (brainstorm_ids_nodup h.store) hmem
        rw [hid, hl] at hfound
        exact Option.some.inj hfound ▸ hplan
      · exact .refl record

theorem afterCalls_keepsPlans (h : Machine BrainstormStore) (calls : List BrainstormCall)
    {record : BrainstormRecord} (hmem : record ∈ h.store.brainstorms) :
    ∃ record' ∈ (afterCalls h calls).store.brainstorms, SamePlan record record' := by
  induction calls generalizing h record with
  | nil => exact ⟨record, hmem, .refl record⟩
  | cons c rest ih =>
    obtain ⟨next, hnext, hplan⟩ := c.keepsPlans h hmem
    obtain ⟨last, hlast, hplan'⟩ := ih (c.outcome h).2 hnext
    exact ⟨last, hlast, hplan.trans hplan'⟩

/-- **Writers agree** on any store, under any interleaving of their calls and any
outcome of the writes. -/
theorem brainstorm_writers_agree (store : BrainstormStore) (writes : List (WriteOutcome JsError))
    (supply : Supply Uuid) (calls : List BrainstormCall) :
    WritersAgree ⟨store, writes, supply⟩ calls where
  counts := by
    rintro before between rest id -
    rw [afterCalls, Versioned.through_append]
    exact brainstormVersions.version_through _ id between
  once := by
    rintro before rest id revision -
    exact brainstormVersions.winners_le_one _ id revision rest
  immutable := by
    rintro before between rest - record hmem
    rw [afterCalls, Versioned.through_append]
    exact afterCalls_keepsPlans _ between hmem
  rejected := by
    rintro before c rest fault - hfault
    rw [afterCalls, Versioned.through_append]
    rcases c.outcome_cases (afterCalls ⟨store, writes, supply⟩ before) with
      ⟨-, -, hstore⟩ | ⟨record, hr, -⟩
    · exact hstore
    · rw [hr] at hfault
      cases hfault

end Autopilot
