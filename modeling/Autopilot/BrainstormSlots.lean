/-
A slot of a brainstorm keeps the run it is bound to.

`child_run_ids` is written again with every binding, and the coordinator reads an answer with the
list that is there then, long after the prompt was made. Whoever writes in between, the list is
that of the runs of the slots, and the consolidator is only asked when every slot has its run.
-/
import Autopilot.BrainstormCoordinator
import Autopilot.Lib.Collected

set_option autoImplicit false

namespace Autopilot
namespace Coordinator

open Prog Keyed BrainstormStore

/-! ## What a write keeps -/

/-- A slot stays the slot it is, with the run it has. -/
structure SlotKept (slot slot' : BrainstormSlot) : Prop where
  plan : slot'.plan = slot.plan
  run : ∀ runId, slot.runId = some runId → slot'.runId = some runId

theorem SlotKept.refl (slot : BrainstormSlot) : SlotKept slot slot := ⟨rfl, fun _ h => h⟩

theorem SlotKept.trans {a b c : BrainstormSlot} (hab : SlotKept a b) (hbc : SlotKept b c) :
    SlotKept a c :=
  ⟨hbc.plan.trans hab.plan, fun runId h => hbc.run runId (hab.run runId h)⟩

theorem SlotKept.stage {slot slot' : BrainstormSlot} (h : SlotKept slot slot') :
    slot'.stage = slot.stage := congrArg (·.2.1) h.plan

/-- All slots are kept, in their places. -/
abbrev Kept (slots slots' : List BrainstormSlot) : Prop := List.Forall₂ SlotKept slots slots'

theorem kept_refl (slots : List BrainstormSlot) : Kept slots slots :=
  List.forall₂_same.2 fun slot _ => .refl slot

theorem Kept.trans {a b c : List BrainstormSlot} (hab : Kept a b) (hbc : Kept b c) : Kept a c := by
  induction hab generalizing c with
  | nil => exact hbc
  | cons hhead htail ih =>
    cases hbc with
    | cons hhead' htail' => exact .cons (hhead.trans hhead') (ih htail')

/-- A change that keeps each slot keeps them all. -/
theorem kept_map {slots : List BrainstormSlot} {f : BrainstormSlot → BrainstormSlot}
    (h : ∀ slot ∈ slots, SlotKept slot (f slot)) : Kept slots (slots.map f) := by
  unfold Kept
  rw [List.forall₂_map_right_iff, List.forall₂_same]
  exact h

/-- The fanout slots of slots that are kept. -/
theorem Kept.fanout {slots slots' : List BrainstormSlot} (h : Kept slots slots') :
    Kept (slots.filter (·.stage = .fanout)) (slots'.filter (·.stage = .fanout)) := by
  induction h with
  | nil => exact .nil
  | cons hhead htail ih =>
    rename_i slot slot' slots slots'
    rw [List.filter_cons, List.filter_cons, hhead.stage]
    split
    · exact .cons hhead ih
    · exact ih

theorem kept_withTerminal (stage : BrainstormStage) (slots : List BrainstormSlot) :
    Kept slots (withTerminal stage slots) := by
  apply kept_map
  intro slot _
  split
  · exact ⟨rfl, fun _ h => h⟩
  · exact .refl slot

/-- Being done with does not change which runs there are. -/
theorem boundRunIds_withTerminal (stage : BrainstormStage) (slots : List BrainstormSlot) :
    boundRunIds (withTerminal stage slots) = boundRunIds slots := by
  unfold boundRunIds withTerminal
  induction slots with
  | nil => rfl
  | cons slot slots ih =>
    have hstage : (if slot.stage = stage then { slot with state := .terminal } else slot).stage =
        slot.stage := by
      split <;> rfl
    have hrun : (if slot.stage = stage then { slot with state := .terminal } else slot).runId =
        slot.runId := by
      split <;> rfl
    rw [List.map_cons, List.filter_cons, List.filter_cons, hstage]
    split
    · rw [List.filterMap_cons, List.filterMap_cons, hrun, ih]
    · exact ih

/-- The identifiers of planned slots are distinct. -/
theorem plannedSlots_nodup (routeCount : ℕ) (hasArbitration : Bool) :
    ((plannedSlots routeCount hasArbitration).map (·.slotId)).Nodup := by
  have hfanout : ((List.range routeCount).map fun index => js "fanout-" ++ decimal index).Nodup :=
    List.nodup_range.map fun _ _ h => decimal_injective (List.append_cancel_left h)
  have hlater (name : JsString) (hname : name.head? ≠ some 102) :
      ∀ index, js "fanout-" ++ decimal index ≠ name := by
    rintro index rfl
    exact hname rfl
  unfold plannedSlots
  rw [List.map_append, List.map_append, List.map_map]
  cases hasArbitration with
  | false =>
    simp only [Bool.false_eq_true, if_false, List.map_nil, List.append_nil, List.map_cons]
    refine List.nodup_append.2 ⟨hfanout, List.nodup_singleton _, ?_⟩
    intro name hname other hother
    obtain ⟨index, -, rfl⟩ := List.mem_map.1 hname
    rw [List.mem_singleton] at hother
    exact hother ▸ hlater _ (by decide) index
  | true =>
    simp only [if_true, List.map_nil, List.map_cons, List.append_assoc, List.singleton_append]
    refine List.nodup_append.2 ⟨hfanout, by decide, ?_⟩
    intro name hname other hother
    obtain ⟨index, -, rfl⟩ := List.mem_map.1 hname
    have hhead : other.head? ≠ some 102 := by
      rcases List.mem_cons.1 hother with rfl | hother
      · decide
      · rw [List.mem_singleton] at hother
        rw [hother]
        decide
    exact hlater other hhead index

/-- Binding a slot keeps the others, and the run of this one. -/
theorem kept_withRun {slots : List BrainstormSlot} (hnd : (slots.map (·.slotId)).Nodup)
    {slotId runId : JsString} {slot : BrainstormSlot}
    (hslot : slots.find? (·.slotId = slotId) = some slot)
    (hfree : slot.runId.any (· ≠ runId) = false) : Kept slots (withRun slotId runId slots) := by
  apply kept_map
  intro item hitem
  split
  · rename_i hid
    refine ⟨rfl, fun run hrun => ?_⟩
    -- there is one slot of this name
    have hsame : lookup BrainstormSlot.slotId slots item.slotId = some item :=
      lookup_of_mem hnd hitem
    unfold lookup at hsame
    rw [hid, hslot] at hsame
    obtain rfl := Option.some.inj hsame
    rw [hrun, Option.any_some] at hfree
    rw [of_not_not (of_decide_eq_false hfree)]
  · exact .refl item

/-! ### Records -/

/-- What a record of the coordinator can be relied on for. -/
structure Sound (record : BrainstormRecord) : Prop where
  valid : isBrainstormRecord record = true
  childRunIds : record.childRunIds = boundRunIds record.slots
  /-- The consolidator is asked when every slot has its run. -/
  bound : record.status = .consolidating → ∀ slot ∈ fanoutSlots record, slot.runId.isSome = true

/-- What a valid record says of its slots and of its runs. -/
theorem isBrainstormRecord_slots {record : BrainstormRecord}
    (h : isBrainstormRecord record = true) : record.slots.map (·.plan) =
        (plannedSlots record.routes.length record.arbitrationRoute.isSome).map (·.plan) ∧
      record.childRunIds.Nodup ∧ record.routes.length ≤ 4 := by
  unfold isBrainstormRecord validSlots at h
  simp only [Bool.and_eq_true, decide_eq_true_eq] at h
  tauto

theorem Sound.slotIds {record : BrainstormRecord} (h : Sound record) :
    (record.slots.map (·.slotId)).Nodup := by
  have hids (slots : List BrainstormSlot) :
      slots.map (·.slotId) = (slots.map (·.plan)).map (·.1) := by
    rw [List.map_map]
    rfl
  rw [hids, (isBrainstormRecord_slots h.valid).1, ← hids]
  exact plannedSlots_nodup _ _

/-- There are as many fanout slots as routes. -/
theorem Sound.length_fanoutSlots {record : BrainstormRecord} (h : Sound record) :
    (fanoutSlots record).length = record.routes.length := by
  have hcount (slots : List BrainstormSlot) : (slots.filter (·.stage = .fanout)).length =
      ((slots.map (·.plan)).filter (·.2.1 = .fanout)).length := by
    rw [List.filter_map, List.length_map]
    rfl
  unfold fanoutSlots
  rw [hcount, (isBrainstormRecord_slots h.valid).1, ← hcount]
  unfold plannedSlots
  rw [List.filter_append, List.filter_append, List.length_append, List.length_append,
    List.filter_eq_self.2 (by simp), List.length_map, List.length_range]
  split <;> rfl

/-- A run that passes as the run of a slot is one of the runs, and the slot is bound to it. -/
theorem assertBoundRun_ok {record : BrainstormRecord} {slot : BrainstormSlot}
    {runs : List RunRecord} {run : RunRecord}
    (h : assertBoundRun record slot (runOf runs slot) = .ok run) :
    run ∈ runs ∧ slot.runId = some run.runId := by
  unfold assertBoundRun at h
  cases hroute : routeForSlot record slot with
  | error e =>
    rw [hroute] at h
    cases h
  | ok route =>
    rw [hroute] at h
    dsimp only [bind, Except.bind] at h
    cases hrun : runOf runs slot with
    | none =>
      rw [hrun] at h
      cases h
    | some found =>
      rw [hrun] at h
      dsimp only at h
      split at h
      · obtain rfl := Except.ok.inj h
        refine ⟨List.mem_of_find?_eq_some hrun, ?_⟩
        have hsame := List.find?_some hrun
        exact (of_decide_eq_true hsame).symm
      · cases h

/-- The slot is bound to one of the runs, and this is the output of the run. -/
def Gave (runs : List RunRecord) (slot : BrainstormSlot) (output : JsString) : Prop :=
  ∃ run ∈ runs, slot.runId = some run.runId ∧ terminalText run = some output

/-- **The outputs are those of the runs of the fanout slots, in the order of the slots.** -/
theorem fanoutStage_done {record : BrainstormRecord} {runs : List RunRecord}
    {outputs : List JsString} (h : fanoutStage record runs = .ok (.done outputs)) :
    List.Forall₂ (Gave runs) (fanoutSlots record) outputs := by
  unfold fanoutStage at h
  cases hchildren : (fanoutSlots record).mapM fun slot =>
      assertBoundRun record slot (runOf runs slot) with
  | error e =>
    rw [hchildren] at h
    cases h
  | ok children =>
    rw [hchildren] at h
    dsimp only [bind, Except.bind] at h
    split at h
    · cases h
    rename_i hgoing
    split at h
    · rename_i texts htexts
      obtain rfl : texts = outputs := by
        injection h with h
        injection h
      have hbound := Collected.mapM_eq_ok.1 hchildren
      have hgiven := Collected.mapM_eq_some.1 htexts
      clear h hgoing htexts hchildren
      generalize fanoutSlots record = slots at hbound
      induction hbound generalizing texts with
      | nil =>
        cases hgiven
        exact .nil
      | cons hslot _ ih =>
        cases hgiven with
        | cons htext hrest =>
          obtain ⟨hrun, hid⟩ := assertBoundRun_ok hslot
          exact .cons ⟨_, hrun, hid, htext⟩ (ih _ hrest)
    · cases h

/-- The slots of a record whose fanout is completed have their runs. -/
theorem bound_of_fanoutStage {record : BrainstormRecord} {runs : List RunRecord}
    {outputs : List JsString} (h : fanoutStage record runs = .ok (.done outputs)) :
    ∀ slot ∈ fanoutSlots record, slot.runId.isSome = true := by
  have hgave := fanoutStage_done h
  clear h
  generalize fanoutSlots record = slots at hgave ⊢
  induction hgave with
  | nil => simp
  | cons hslot _ ih =>
    obtain ⟨run, -, hrun, -⟩ := hslot
    intro slot hmem
    rcases List.mem_cons.1 hmem with rfl | hmem
    · rw [hrun]
      rfl
    · exact ih slot hmem

/-- Slots that are kept stay bound. -/
theorem bound_kept {slots slots' : List BrainstormSlot} (hkept : Kept slots slots')
    (h : ∀ slot ∈ slots.filter (·.stage = .fanout), slot.runId.isSome = true) :
    ∀ slot ∈ slots'.filter (·.stage = .fanout), slot.runId.isSome = true := by
  have hfanout := hkept.fanout
  generalize slots.filter (·.stage = .fanout) = fanout at h hfanout
  generalize slots'.filter (·.stage = .fanout) = fanout' at hfanout ⊢
  induction hfanout with
  | nil => exact h
  | cons hhead _ ih =>
    rw [List.forall_mem_cons] at h ⊢
    refine ⟨?_, ih h.2⟩
    obtain ⟨runId, hrun⟩ := Option.isSome_iff_exists.1 h.1
    rw [hhead.run runId hrun]
    rfl

/-! ### One write -/

/-- What a write has made of a record. -/
structure Advanced (write : CoordinatorWrite) (record record' : BrainstormRecord) : Prop where
  slots : Kept record.slots record'.slots
  childRunIds : record.childRunIds = boundRunIds record.slots →
    record'.childRunIds = boundRunIds record'.slots
  consolidating : record'.status = .consolidating → record.status = .consolidating ∨
    ∃ asked ∈ write.asked?, ∃ runs outputs, fanoutStage asked runs = .ok (.done outputs)

variable {sha256 : JsString → JsString}

/-- **A write of the coordinator keeps the runs of the slots**, and lists them. -/
theorem mutate_advanced {write : CoordinatorWrite} {record current : BrainstormRecord}
    {mutate : BrainstormRecord → BrainstormRecord} (hslots : record.slots = current.slots)
    (hids : (record.slots.map (·.slotId)).Nodup)
    (h : write.mutate sha256 record = some mutate) :
    Advanced write current (mutate current) := by
  cases write with
  | approve groupId operator =>
    simp only [CoordinatorWrite.mutate, Option.ite_none_right_eq_some, Option.some.injEq] at h
    obtain ⟨-, rfl⟩ := h
    exact ⟨kept_refl _, id, (nomatch ·)⟩
  | reserve =>
    simp only [CoordinatorWrite.mutate, Option.ite_none_right_eq_some, Option.some.injEq] at h
    obtain ⟨-, rfl⟩ := h
    exact ⟨kept_refl _, id, .inl⟩
  | bind slotId runId =>
    replace h : bindSlot record slotId runId = some mutate := h
    unfold bindSlot at h
    cases hslot : record.slots.find? (·.slotId = slotId) with
    | none =>
      rw [hslot] at h
      cases h
    | some slot =>
      rw [hslot] at h
      dsimp only [bind, Option.bind] at h
      split at h
      · cases h
      rename_i hfree
      split at h
      · cases h
      obtain rfl := Option.some.inj h
      refine ⟨?_, fun _ => rfl, .inl⟩
      rw [hslots] at hslot hids
      exact kept_withRun hids hslot (by simpa using hfree)
  | setStatus status =>
    simp only [CoordinatorWrite.mutate, Option.ite_none_right_eq_some, Option.some.injEq] at h
    obtain ⟨⟨hstatus, -⟩, rfl⟩ := h
    refine ⟨kept_refl _, id, fun hconsolidating => ?_⟩
    rw [show status = .consolidating from hconsolidating] at hstatus
    exact absurd hstatus (by decide)
  | finishFanout runs =>
    unfold CoordinatorWrite.mutate at h
    dsimp only at h
    split at h
    · simp only [Option.ite_none_right_eq_some, Option.some.injEq] at h
      obtain ⟨-, rfl⟩ := h
      exact ⟨kept_withTerminal _ _, fun h => h.trans (boundRunIds_withTerminal _ _).symm, .inl⟩
    · cases h
  | consolidate asked runs =>
    unfold CoordinatorWrite.mutate at h
    dsimp only at h
    split at h
    · rename_i outputs hstage
      simp only [Option.ite_none_right_eq_some, Option.some.injEq] at h
      obtain ⟨-, rfl⟩ := h
      exact ⟨kept_refl _, id, fun _ => .inr ⟨asked, rfl, runs, outputs, hstage⟩⟩
    · cases h
  | finishConsolidation runs =>
    unfold CoordinatorWrite.mutate at h
    dsimp only at h
    split at h
    · simp only [Option.ite_none_right_eq_some, Option.some.injEq] at h
      obtain ⟨-, rfl⟩ := h
      refine ⟨kept_withTerminal _ _, fun h => h.trans (boundRunIds_withTerminal _ _).symm, ?_⟩
      intro hconsolidating
      unfold consolidated at hconsolidating
      dsimp only at hconsolidating
      split at hconsolidating
      · cases hconsolidating
      · split at hconsolidating <;> cases hconsolidating
    · cases h
  | finishArbitration resolution =>
    simp only [CoordinatorWrite.mutate, Option.ite_none_right_eq_some, Option.some.injEq] at h
    obtain ⟨-, rfl⟩ := h
    exact ⟨kept_withTerminal _ _, fun h => h.trans (boundRunIds_withTerminal _ _).symm,
      (nomatch ·)⟩

/-! ### Runs of writes -/

/-- Of two records of one brainstorm that a store has held, the later one keeps the runs of the
other, and there is one of each revision. -/
structure Earlier (record record' : BrainstormRecord) : Prop where
  slots : Kept record.slots record'.slots
  same : record.revision = record'.revision → record = record'

/-- What the coordinator can rely on, whoever else writes. -/
structure Consistent (system : System) : Prop where
  present : ∀ record ∈ system.machine.store.brainstorms, record ∈ system.held
  latest : ∀ record ∈ system.held, ∃ current ∈ system.machine.store.brainstorms,
    current.brainstormId = record.brainstormId ∧ record.revision ≤ current.revision
  ordered : ∀ record ∈ system.held, ∀ record' ∈ system.held,
    record.brainstormId = record'.brainstormId → record.revision ≤ record'.revision →
      Earlier record record'
  sound : ∀ record ∈ system.held, Sound record

theorem Consistent.initial (writes : List (WriteOutcome JsError)) (supply : Supply Uuid) :
    Consistent (.initial writes supply) where
  present := fun _ h => h
  latest := fun _ h => absurd h List.not_mem_nil
  ordered := fun _ h => absurd h List.not_mem_nil
  sound := fun _ h => absurd h List.not_mem_nil

/-- A record that takes the place of the latest one, or is the first. -/
theorem Consistent.append {system : System} (h : Consistent system) {record : BrainstormRecord}
    {machine : Machine BrainstormStore} (hsound : Sound record)
    (hlookup : ∀ id, lookup BrainstormRecord.brainstormId machine.store.brainstorms id =
      if id = record.brainstormId then some record
      else lookup BrainstormRecord.brainstormId system.machine.store.brainstorms id)
    (hnext : ∀ current ∈ system.machine.store.brainstorms,
      current.brainstormId = record.brainstormId →
        current.revision < record.revision ∧ Kept current.slots record.slots) :
    Consistent ⟨machine, system.held ++ [record]⟩ := by
  have hfind (other : BrainstormRecord) (hother : other ∈ system.machine.store.brainstorms) :=
    lookup_of_mem (brainstorm_ids_nodup system.machine.store) hother
  have hrecord : record ∈ machine.store.brainstorms :=
    (lookup_mem ((hlookup record.brainstormId).trans (if_pos rfl))).1
  -- everything that was held of this brainstorm is behind the record
  have hbehind : ∀ other ∈ system.held, other.brainstormId = record.brainstormId →
      other.revision < record.revision ∧ Kept other.slots record.slots := by
    intro other hother hid
    obtain ⟨current, hcurrent, hsame, hle⟩ := h.latest other hother
    obtain ⟨hlt, hkept⟩ := hnext current hcurrent (hsame.trans hid)
    have hearlier := h.ordered other hother current (h.present current hcurrent) hsame.symm hle
    exact ⟨Nat.lt_of_le_of_lt hle hlt, hearlier.slots.trans hkept⟩
  refine ⟨?_, ?_, ?_, ?_⟩
  · intro other hother
    have hfound := (hlookup other.brainstormId).symm.trans
      (lookup_of_mem (brainstorm_ids_nodup machine.store) hother)
    split at hfound
    · exact List.mem_append_right _ (List.mem_singleton.2 (Option.some.inj hfound).symm)
    · exact List.mem_append_left _ (h.present other (lookup_mem hfound).1)
  · intro other hother
    rcases List.mem_append.1 hother with hother | hother
    · by_cases hid : other.brainstormId = record.brainstormId
      · exact ⟨record, hrecord, hid.symm, (hbehind other hother hid).1.le⟩
      · obtain ⟨current, hcurrent, hsame, hle⟩ := h.latest other hother
        have hstays := (hlookup current.brainstormId).trans
          (if_neg fun heq => hid (hsame.symm.trans heq))
        exact ⟨current, (lookup_mem (hstays.trans (hfind current hcurrent))).1, hsame, hle⟩
    · rw [List.mem_singleton] at hother
      exact ⟨record, hrecord, hother ▸ rfl, hother ▸ le_rfl⟩
  · intro first hfirst second hsecond hid hle
    rw [List.mem_append, List.mem_singleton] at hfirst hsecond
    rcases hfirst with hfirst | rfl
    · rcases hsecond with hsecond | rfl
      · exact h.ordered first hfirst second hsecond hid hle
      · obtain ⟨hlt, hkept⟩ := hbehind first hfirst hid
        exact ⟨hkept, fun heq => absurd heq hlt.ne⟩
    · rcases hsecond with hsecond | rfl
      · exact absurd hle (Nat.not_le.2 (hbehind second hsecond hid.symm).1)
      · exact ⟨kept_refl _, fun _ => rfl⟩
  · intro other hother
    rcases List.mem_append.1 hother with hother | hother
    · exact h.sound other hother
    · exact List.mem_singleton.1 hother ▸ hsound

/-- A new brainstorm has no runs. -/
theorem sound_newBrainstorm {input : BrainstormCreateInput} {createdAt : ℕ} {id : Uuid}
    (hvalid : isBrainstormRecord (newBrainstorm input createdAt id) = true) :
    Sound (newBrainstorm input createdAt id) where
  valid := hvalid
  childRunIds := by
    unfold newBrainstorm boundRunIds
    dsimp only
    rw [eq_comm, List.filterMap_eq_nil_iff]
    intro slot hslot
    have hplanned := List.mem_of_mem_filter hslot
    unfold plannedSlots at hplanned
    rw [List.mem_append, List.mem_append, List.mem_map] at hplanned
    rcases hplanned with (⟨index, -, rfl⟩ | hslot) | hslot
    · rfl
    · rw [List.mem_singleton] at hslot
      rw [hslot]
    · split at hslot
      · rw [List.mem_singleton] at hslot
        rw [hslot]
      · cases hslot
  bound := (nomatch ·)

/-- A record that is stored is valid. -/
theorem valid_of_mem {store : BrainstormStore} {record : BrainstormRecord}
    (h : record ∈ store.brainstorms) : isBrainstormRecord record = true := by
  have hvalid := store.valid
  unfold isBrainstormStoreDocument at hvalid
  simp only [Bool.and_eq_true, List.all_eq_true] at hvalid
  exact hvalid.1.2 record h

/-- What is held does not change while the store does not. -/
theorem Consistent.of_store {system : System} (h : Consistent system)
    {machine : Machine BrainstormStore} (hstore : machine.store = system.machine.store) :
    Consistent ⟨machine, system.held⟩ where
  present := fun record hrecord => h.present record (hstore ▸ hrecord)
  latest := fun record hrecord => by
    rw [hstore]
    exact h.latest record hrecord
  ordered := h.ordered
  sound := h.sound

/-- A call that was rejected, or has written a record that goes on from the latest one. -/
theorem Consistent.call {system : System} (h : Consistent system) (call : BrainstormCall)
    (hnext : ∀ record, (call.outcome system.machine).1 = .ok record →
      Written system.machine call record → isBrainstormRecord record = true → Sound record ∧
        ∀ current ∈ system.machine.store.brainstorms, current.brainstormId = record.brainstormId →
          current.revision < record.revision ∧ Kept current.slots record.slots) :
    Consistent (match call.outcome system.machine with
      | (.ok record, machine) => ⟨machine, system.held ++ [record]⟩
      | (.error _, machine) => ⟨machine, system.held⟩) := by
  rcases call.outcome_cases system.machine with ⟨fault, hresult, hstore⟩ | ⟨record, hok, hwritten⟩
  · split
    · rename_i houtcome
      rw [houtcome] at hresult
      cases hresult
    · rename_i houtcome
      rw [houtcome] at hstore
      exact h.of_store hstore
  · split
    · rename_i machine houtcome
      have hlookup := hwritten.lookup
      rw [houtcome] at hok hlookup
      obtain rfl := Except.ok.inj hok
      have hvalid := valid_of_mem (lookup_mem ((hlookup _).trans (if_pos rfl))).1
      obtain ⟨hsound, hbehind⟩ := hnext _ (by rw [houtcome]) hwritten hvalid
      exact h.append hsound hlookup hbehind
    · rename_i houtcome
      rw [houtcome] at hok
      cases hok

/-- A brainstorm is created. -/
theorem Consistent.create {system : System} (h : Consistent system) (input : BrainstormCreateInput)
    (createdAt : Option ℕ) : Consistent (system.after sha256 (.create input createdAt)) := by
  apply h.call
  intro record hok hwritten hvalid
  obtain ⟨time, id, rfl⟩ : ∃ time id, record = newBrainstorm input time id := by
    rcases createBrainstorm_cases (h := system.machine) input createdAt with
      ⟨fault, hfault, -⟩ | ⟨time, id, hnew, -⟩
    · exact absurd (hok.symm.trans hfault) (nomatch ·)
    · exact ⟨time, id, Except.ok.inj (hok.symm.trans hnew)⟩
  refine ⟨sound_newBrainstorm hvalid, fun current hcurrent hid => ?_⟩
  cases hwritten with
  | created hfresh hrevision hbase hstore => exact absurd hid (hfresh current hcurrent)
  | replaced existing hl hplan hrevision hbase hstore =>
    -- a stored record has a revision, so the first one replaces none
    have hexisting := valid_of_mem (lookup_mem hl).1
    unfold isBrainstormRecord at hexisting
    simp only [Bool.and_eq_true, decide_eq_true_eq] at hexisting
    have hone : 1 = existing.revision + 1 := hrevision
    omega

/-- A call of the coordinator writes. -/
theorem Consistent.update {system : System} (h : Consistent system) (record : BrainstormRecord)
    (now : ℕ) (write : CoordinatorWrite) :
    Consistent (system.after sha256 (.update record now write)) := by
  unfold System.after Step.call
  dsimp only
  by_cases hheld : record ∈ system.held ∧
      write.asked?.all (fun asked => asked ∈ system.held ∧
        asked.brainstormId = record.brainstormId) = true
  swap
  · rw [if_neg hheld]
    exact h
  rw [if_pos hheld]
  cases hmutate : write.mutate sha256 record with
  | none => exact h
  | some mutate =>
    apply h.call
    intro next hok _ hvalid
    rcases compareAndSwapBrainstorm_cases (h := system.machine) record.brainstormId
        (.ofNat record.revision) fun current => .ok (mutate { current with updatedAt := now }) with
      ⟨fault, hfault, -⟩ |
        ⟨current, next', hl, hexpected, hplan, ⟨proposed, hproposed, rfl⟩, hnext, -⟩
    · exact absurd (hok.symm.trans hfault) (nomatch ·)
    obtain rfl := Except.ok.inj (hok.symm.trans hnext)
    obtain rfl := Except.ok.inj hproposed
    -- the record that is held is the one that is there
    obtain ⟨hcurrent, hid⟩ := lookup_mem hl
    have hrevision : record.revision = current.revision :=
      isNat_unique (by simp [JsNumber.ofNat, JsNumber.isNat]) hexpected
    obtain rfl := (h.ordered record hheld.1 current (h.present current hcurrent) hid.symm
      hrevision.le).same hrevision
    have hsound := h.sound record hheld.1
    have hadvanced : Advanced write { record with updatedAt := now }
        (mutate { record with updatedAt := now }) :=
      mutate_advanced rfl hsound.slotIds hmutate
    have honly : ∀ other ∈ system.machine.store.brainstorms,
        other.brainstormId = record.brainstormId → other = record := by
      intro other hother hsame
      have hfound := lookup_of_mem (brainstorm_ids_nodup system.machine.store) hother
      rw [hsame, hl] at hfound
      exact (Option.some.inj hfound).symm
    refine ⟨⟨hvalid, hadvanced.childRunIds hsound.childRunIds, ?_⟩, ?_⟩
    · intro hstatus
      rcases hadvanced.consolidating hstatus with hbefore | ⟨asked, hasked, runs, outputs, hstage⟩
      · exact bound_kept hadvanced.slots (hsound.bound hbefore)
      · -- the record that was asked about has kept its runs since
        obtain ⟨hmem, hsame⟩ : asked ∈ system.held ∧ asked.brainstormId = record.brainstormId := by
          have hall := hheld.2
          rw [Option.mem_def.1 hasked, Option.all_some] at hall
          exact of_decide_eq_true hall
        obtain ⟨latest, hlatest, hid', hle⟩ := h.latest asked hmem
        obtain rfl := honly latest hlatest (hid'.trans hsame)
        have hearlier := h.ordered asked hmem latest hheld.1 hsame hle
        exact bound_kept (hearlier.slots.trans hadvanced.slots) (bound_of_fanoutStage hstage)
    · intro other hother hsame
      obtain rfl := honly other hother (hsame.trans hplan.brainstormId)
      exact ⟨Nat.lt_succ_self _, hadvanced.slots⟩

/-- **Every step keeps the runs of the slots.** -/
theorem Consistent.after {system : System} (h : Consistent system) (step : Step) :
    Consistent (system.after sha256 step) := by
  cases step with
  | create input createdAt => exact h.create input createdAt
  | update record now write => exact h.update record now write

/-- **So does every run**, whatever the order of the calls. -/
theorem Consistent.afterAll {system : System} (h : Consistent system) (steps : List Step) :
    Consistent (system.afterAll sha256 steps) := by
  induction steps generalizing system with
  | nil => exact h
  | cons step steps ih => exact ih (h.after step)

/-- The records that a store has held after some steps. -/
def heldAfter (sha256 : JsString → JsString) (writes : List (WriteOutcome JsError))
    (supply : Supply Uuid) (steps : List Step) : List BrainstormRecord :=
  ((System.initial writes supply).afterAll sha256 steps).held

/-- **A slot keeps its run.** Over any steps of any calls, whatever becomes of their writes: of two
records of one brainstorm the later one has the slots of the other, with the runs these were bound
to, and no two have one revision. The child runs are those of the slots, and a consolidation is asked
for only when every slot of the fanout has its run. -/
theorem slots_keep_their_runs (writes : List (WriteOutcome JsError)) (supply : Supply Uuid)
    (steps : List Step) :
    (∀ record ∈ heldAfter sha256 writes supply steps,
      ∀ record' ∈ heldAfter sha256 writes supply steps,
        record.brainstormId = record'.brainstormId → record.revision ≤ record'.revision →
          Kept record.slots record'.slots ∧
            (record.revision = record'.revision → record = record')) ∧
      ∀ record ∈ heldAfter sha256 writes supply steps,
        record.childRunIds = boundRunIds record.slots ∧ (record.status = .consolidating →
          ∀ slot ∈ fanoutSlots record, slot.runId.isSome = true) := by
  have hconsistent : Consistent ((System.initial writes supply).afterAll sha256 steps) :=
    (Consistent.initial writes supply).afterAll steps
  refine ⟨fun record hrecord record' hrecord' hid hle => ?_, fun record hrecord => ?_⟩
  · have hearlier := hconsistent.ordered record hrecord record' hrecord' hid hle
    exact ⟨hearlier.slots, hearlier.same⟩
  · have hsound := hconsistent.sound record hrecord
    exact ⟨hsound.childRunIds, hsound.bound⟩

end Coordinator
end Autopilot
