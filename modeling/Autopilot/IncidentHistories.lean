/-
What the incident store writes, and what it reads.

A writer checks the size of a document; the reader checks every text of it. So a text
can get into the file that the reader refuses, and from then on the file is refused as
a whole. A text that is redacted and cut is of the right length, but redacting it once
more may change it: a value that was replaced may stand next to a unit that the next
replacement takes as well. A key of the correlation ids may be empty, and an identity
that is given may be that of an incident that is kept.

A call is sound when none of this happens. Sound calls keep the file readable, and any
other call that gets to the file makes it unreadable.
-/
import Autopilot.IncidentStore

set_option autoImplicit false

namespace Autopilot

namespace Incidents

open Prog Keyed Redaction

/-! ## What is sound -/

/-- The reader accepts the file. -/
def Readable (file : IncidentFile) : Prop := (readIncidentStore file).isOk = true

instance (file : IncidentFile) : Decidable (Readable file) :=
  inferInstanceAs (Decidable ((readIncidentStore file).isOk = true))

/-- The text that is stored stays as it is when it is redacted again. -/
def settles (value : JsString) (chars : ℕ) : Bool := isRedacted (boundedText value chars)

/-- All texts of an incident settle, and no key is empty. -/
def Settled (input : AutopilotIncidentInput) : Bool :=
  settles input.stage maxIdChars && settles input.summary maxSummaryChars &&
    settles input.impact maxTextChars &&
    ((boundedCorrelationIds input.correlationIds).entries.all fun (key, item) =>
      0 < key.length && isRedacted key && isRedacted item) &&
    (input.eventRefs.take maxEventRefs).all (settles · maxIdChars)

/-- A call of the store. -/
inductive IncidentCall where
  | record (input : AutopilotIncidentInput) (identity : Option AutopilotIncidentIdentity)
      (now : IsoTimestamp)
  | acknowledge (incidentId owner : JsString) (now : IsoTimestamp)

/-- The file after a call. -/
def IncidentCall.run (h : Machine IncidentFile) : IncidentCall → Machine IncidentFile
  | .record input identity now => (recordAutopilotIncident input identity now h).2
  | .acknowledge incidentId owner now => (acknowledgeIncident incidentId owner now h).2

/-- The incidents of the file. -/
def stored (h : Machine IncidentFile) : List AutopilotIncident := h.store.getD []

/-- The identifier of the incident that is recorded. -/
def nextId (h : Machine IncidentFile) (identity : Option AutopilotIncidentIdentity) :
    Option JsString :=
  match identity with
  | some identity => some identity.incidentId
  | none => h.supply.next.map fun drawn => drawn.1.text

/-- The incidents that are kept beside a new one. -/
def keptBeside (incidents : List AutopilotIncident) : List AutopilotIncident :=
  incidents.drop (incidents.length + 1 - maxIncidents)

/-- A call that leaves the file readable. -/
def IncidentCall.Sound (h : Machine IncidentFile) : IncidentCall → Prop
  | .record input identity _ => Settled input = true ∧ ∀ incidentId,
      nextId h identity = some incidentId →
        ∀ incident ∈ keptBeside (stored h), incident.incidentId ≠ incidentId
  | .acknowledge incidentId owner _ => ∀ current,
      lookup AutopilotIncident.incidentId (stored h) incidentId = some current →
        current.acknowledgedBy = none → settles owner maxIdChars = true

/-! ## Texts that are stored -/

theorem redactTelemetryText_length (value : JsString) (chars : ℕ) :
    (redactTelemetryText value (.ofNat chars)).length ≤ chars := by
  unfold redactTelemetryText
  rw [boundedMax_ofNat]
  exact List.length_take_le chars (replaced value)

theorem boundedText_length (value : JsString) (chars : ℕ) :
    (boundedText value chars).length ≤ chars := by
  have hlength := redactTelemetryText_length value chars
  unfold boundedText
  dsimp only
  split
  · exact hlength
  · exact (List.length_take_le' _ _).trans hlength

theorem boundedString_boundedText (value : JsString) (chars : ℕ) :
    boundedString (boundedText value chars) chars = true :=
  decide_eq_true (boundedText_length value chars)

/-- A plain text is redacted. -/
theorem isRedacted_of_plain {value : JsString} (hplain : value.all isPlainUnit = true) :
    isRedacted value = true := by
  unfold isRedacted redactTelemetryText
  rw [replaced_eq_self hplain, boundedMax_ofNat, List.take_length]
  exact decide_eq_true rfl

theorem fits_all {pattern : List (UInt16 → Bool)} {q : UInt16 → Bool}
    (hq : ∀ p ∈ pattern, ∀ c, p c = true → q c = true) {value : JsString}
    (h : fits pattern value = true) : value.all q = true := by
  induction pattern generalizing value with
  | nil =>
    cases value with
    | nil => rfl
    | cons c rest => cases h
  | cons p ps ih =>
    cases value with
    | nil => cases h
    | cons c rest =>
      rw [fits, Bool.and_eq_true] at h
      rw [List.all_cons, Bool.and_eq_true]
      have hrest : ∀ p' ∈ ps, ∀ c, p' c = true → q c = true :=
        fun p' hp' => hq p' (List.mem_cons_of_mem p hp')
      exact ⟨hq p List.mem_cons_self c h.1, ih hrest h.2⟩

theorem isPlainUnit_of_isDigit {c : UInt16} (h : isDigit c = true) : isPlainUnit c = true := by
  unfold isDigit at h
  unfold isPlainUnit
  rw [h]
  rfl

/-- The letters of a hexadecimal text are plain, in either case. -/
theorem isPlainUnit_of_lowered {c : UInt16} (hlow : 97 ≤ lowered c) (hhigh : lowered c ≤ 102) :
    isPlainUnit c = true := by
  unfold lowered at hlow hhigh
  unfold isPlainUnit
  rw [UInt16.le_iff_toNat_le] at hlow hhigh
  simp only [Bool.or_eq_true, Bool.and_eq_true, decide_eq_true_eq, UInt16.le_iff_toNat_le]
  split at hlow
  · rename_i hupper
    rw [if_pos hupper] at hhigh
    rw [UInt16.le_iff_toNat_le, UInt16.le_iff_toNat_le] at hupper
    rw [UInt16.toNat_add] at hlow hhigh
    simp only [UInt16.reduceToNat] at *
    omega
  · rename_i hupper
    rw [if_neg hupper] at hhigh
    simp only [UInt16.reduceToNat] at *
    omega

theorem isPlainUnit_of_isHex {c : UInt16} (h : isHex c = true) : isPlainUnit c = true := by
  unfold isHex at h
  simp only [Bool.or_eq_true, Bool.and_eq_true, decide_eq_true_eq] at h
  rcases h with h | h
  · exact isPlainUnit_of_isDigit h
  · exact isPlainUnit_of_lowered h.1 h.2

theorem isPlainUnit_of_unit {c d : UInt16} (hd : isPlainUnit d = true) (h : unit d c = true) :
    isPlainUnit c = true := by
  rwa [of_decide_eq_true h]

/-- An identifier is a plain text. -/
theorem plain_incidentId {value : JsString} (h : fits incidentIdPattern value = true) :
    value.all isPlainUnit = true := by
  apply fits_all ?_ h
  intro p hp c hc
  simp only [incidentIdPattern, List.mem_append, List.mem_replicate, List.mem_cons,
    List.not_mem_nil, or_false] at hp
  have hhex : p = isHex → isPlainUnit c = true := by
    intro hisHex
    rw [hisHex] at hc
    exact isPlainUnit_of_isHex hc
  have hhyphen : p = unit 45 → isPlainUnit c = true := by
    intro hunit
    rw [hunit] at hc
    exact isPlainUnit_of_unit (by decide) hc
  have hversion : p = (fun c => decide (49 ≤ c) && decide (c ≤ 53)) → isPlainUnit c = true := by
    intro hdigits
    rw [hdigits, Bool.and_eq_true, decide_eq_true_eq, decide_eq_true_eq] at hc
    apply isPlainUnit_of_isDigit
    unfold isDigit
    rw [Bool.and_eq_true, decide_eq_true_eq, decide_eq_true_eq]
    exact ⟨UInt16.le_trans (by decide) hc.1, UInt16.le_trans hc.2 (by decide)⟩
  have hvariant : p = (fun c => decide (c = 56) || decide (c = 57) || decide (lowered c = 97) ||
      decide (lowered c = 98)) → isPlainUnit c = true := by
    intro hunits
    rw [hunits] at hc
    simp only [Bool.or_eq_true, decide_eq_true_eq] at hc
    rcases hc with ((h | h) | h) | h
    · rw [h]
      rfl
    · rw [h]
      rfl
    · exact isPlainUnit_of_lowered (UInt16.le_of_eq h.symm) (h ▸ by decide)
    · exact isPlainUnit_of_lowered (h ▸ by decide) (h ▸ by decide)
  rcases hp with ((((((((hp | hp) | hp) | hp) | hp) | hp) | hp) | hp) | hp)
  · exact hhex hp.2
  · exact hhyphen hp
  · exact hhex hp.2
  · exact hp.elim hhyphen hversion
  · exact hhex hp.2
  · exact hp.elim hhyphen hvariant
  · exact hhex hp.2
  · exact hhyphen hp
  · exact hhex hp.2

/-- A timestamp is a plain text. -/
theorem plain_isoTimestamp {value : JsString} (h : isIsoTimestamp value = true) :
    value.all isPlainUnit = true := by
  unfold isIsoTimestamp at h
  rw [Bool.and_eq_true] at h
  apply fits_all ?_ h.1
  intro p hp c hc
  have hkind : p = isDigit ∨ ∃ d, isPlainUnit d = true ∧ p = unit d := by
    simp only [isoTimestampPattern, List.mem_append, List.mem_replicate, List.mem_cons,
      List.not_mem_nil, or_false] at hp
    rcases hp with ((((((((((((hp | hp) | hp) | hp) | hp) | hp) | hp) | hp) | hp) | hp) | hp) |
      hp) | hp) | hp
    · exact .inl hp.2
    · exact .inr ⟨45, by decide, hp⟩
    · exact .inl hp.2
    · exact .inr ⟨45, by decide, hp⟩
    · exact .inl hp.2
    · exact .inr ⟨84, by decide, hp⟩
    · exact .inl hp.2
    · exact .inr ⟨58, by decide, hp⟩
    · exact .inl hp.2
    · exact .inr ⟨58, by decide, hp⟩
    · exact .inl hp.2
    · exact .inr ⟨46, by decide, hp⟩
    · exact .inl hp.2
    · exact .inr ⟨90, by decide, hp⟩
  rcases hkind with hdigit | ⟨d, hd, hunit⟩
  · rw [hdigit] at hc
    exact isPlainUnit_of_isDigit hc
  · rw [hunit] at hc
    exact isPlainUnit_of_unit hd hc

theorem boundedString_of_fits {pattern : List (UInt16 → Bool)} {value : JsString}
    (h : fits pattern value = true) (hlength : pattern.length ≤ maxIdChars) :
    boundedString value maxIdChars = true := by
  unfold boundedString
  rw [fits_length h]
  exact decide_eq_true hlength

theorem boundedString_incidentId {value : JsString} (h : fits incidentIdPattern value = true) :
    boundedString value maxIdChars = true := boundedString_of_fits h (by decide)

theorem boundedString_isoTimestamp {value : JsString} (h : isIsoTimestamp value = true) :
    boundedString value maxIdChars = true := by
  unfold isIsoTimestamp at h
  rw [Bool.and_eq_true] at h
  exact boundedString_of_fits h.1 (by decide)

/-! ## Correlation ids -/

theorem length_setEntries (d : Dict JsString JsString) (entry : JsString × JsString) :
    (d.setEntries entry).length ≤ d.entries.length + 1 := by
  unfold Dict.setEntries
  split
  · rw [List.length_map]
    exact Nat.le_succ _
  · rw [List.length_append, List.length_singleton]

theorem mem_setEntries {d : Dict JsString JsString} {entry other : JsString × JsString}
    (h : other ∈ d.setEntries entry) : other = entry ∨ other ∈ d.entries := by
  unfold Dict.setEntries at h
  split at h
  · rcases mem_put h with heq | ⟨hin, -⟩
    · exact .inl heq
    · exact .inr hin
  · rw [List.mem_append, List.mem_singleton] at h
    exact h.symm

/-- The entries of a record that is put together are the given ones. -/
theorem fromEntries_spec (entries : List (JsString × JsString)) (d : Dict JsString JsString) :
    (entries.foldl (fun record entry => record.set entry.1 entry.2) d).entries.length
        ≤ d.entries.length + entries.length ∧
      ∀ entry ∈ (entries.foldl (fun record entry => record.set entry.1 entry.2) d).entries,
        entry ∈ entries ∨ entry ∈ d.entries := by
  induction entries generalizing d with
  | nil => exact ⟨Nat.le_refl _, fun entry hentry => .inr hentry⟩
  | cons first rest ih =>
    rw [List.foldl_cons, List.length_cons]
    have hstep := ih (d.set first.1 first.2)
    have hlength : (d.set first.1 first.2).entries.length ≤ d.entries.length + 1 :=
      length_setEntries d (first.1, first.2)
    refine ⟨by omega, ?_⟩
    intro entry hentry
    rcases hstep.2 entry hentry with hin | hin
    · exact .inl (List.mem_cons_of_mem first hin)
    · rcases mem_setEntries hin with heq | hin
      · exact .inl (List.mem_cons.2 (.inl heq))
      · exact .inr hin

theorem boundedCorrelationIds_spec (value : Dict JsString JsString) :
    (boundedCorrelationIds value).entries.length ≤ maxCorrelationIds ∧
      ∀ entry ∈ (boundedCorrelationIds value).entries,
        entry.1.length ≤ maxIdChars ∧ entry.2.length ≤ maxIdChars := by
  have hspec := fromEntries_spec ((value.entries.take maxCorrelationIds).map fun (key, item) =>
    (boundedText key maxIdChars, boundedText item maxIdChars)) Dict.empty
  refine ⟨?_, ?_⟩
  · have hlength := hspec.1
    rw [List.length_map, show (Dict.empty : Dict JsString JsString).entries.length = 0 from rfl,
      Nat.zero_add] at hlength
    exact hlength.trans (List.length_take_le _ _)
  · intro entry hentry
    rcases hspec.2 entry hentry with hin | hin
    · obtain ⟨given, -, heq⟩ := List.mem_map.1 hin
      rw [← heq]
      dsimp only
      exact ⟨boundedText_length given.1 maxIdChars, boundedText_length given.2 maxIdChars⟩
    · cases hin

/-- What the reader asks of the correlation ids of a new incident. -/
theorem isBoundedStringRecord_new (value : Dict JsString JsString) :
    isBoundedStringRecord (boundedCorrelationIds value) =
      (boundedCorrelationIds value).entries.all fun (key, item) =>
        0 < key.length && isRedacted key && isRedacted item := by
  have hspec := boundedCorrelationIds_spec value
  unfold isBoundedStringRecord boundedString
  rw [decide_eq_true hspec.1, Bool.true_and]
  rw [Bool.eq_iff_iff, List.all_eq_true, List.all_eq_true]
  apply forall₂_congr
  rintro ⟨key, item⟩ hentry
  have hlength := hspec.2 (key, item) hentry
  dsimp only at hlength ⊢
  rw [decide_eq_true hlength.1, decide_eq_true hlength.2, Bool.and_true, Bool.and_true]

theorem isBoundedStringList_new (value : List JsString) :
    isBoundedStringList (boundedTextList value maxEventRefs maxIdChars) maxEventRefs maxIdChars =
      (value.take maxEventRefs).all (settles · maxIdChars) := by
  have hlength : (boundedTextList value maxEventRefs maxIdChars).length ≤ maxEventRefs := by
    unfold boundedTextList
    rw [List.length_map]
    exact List.length_take_le _ _
  have hitem : ∀ item, (boundedString (boundedText item maxIdChars) maxIdChars &&
      isRedacted (boundedText item maxIdChars)) = settles item maxIdChars := by
    intro item
    rw [boundedString_boundedText, Bool.true_and, settles]
  unfold isBoundedStringList
  rw [decide_eq_true hlength, Bool.true_and, boundedTextList, List.all_map]
  simp only [Function.comp_def, hitem]

/-- **A new incident** is one the reader accepts exactly when its texts settle. -/
theorem isIncident_new {incidentId recordedAt : JsString} {retryCount : ℕ}
    (hid : fits incidentIdPattern incidentId = true) (htime : isIsoTimestamp recordedAt = true)
    (hretry : retryCount ≤ 1000) (input : AutopilotIncidentInput) :
    isIncident (newIncident incidentId recordedAt retryCount input) = Settled input := by
  unfold isIncident newIncident acknowledgementFits Settled
  dsimp only
  rw [boundedString_incidentId hid, hid, isRedacted_of_plain (plain_incidentId hid),
    boundedString_isoTimestamp htime, htime, isRedacted_of_plain (plain_isoTimestamp htime),
    decide_eq_true hretry, isBoundedStringRecord_new, isBoundedStringList_new]
  simp only [boundedString_boundedText, Bool.true_and, Bool.and_true, List.all_cons, List.all_nil,
    Option.all_none, decide_true, Bool.and_assoc]
  rfl

/-- What an accepted incident says of its acknowledgement. -/
structure Acknowledgeable (current : AutopilotIncident) : Prop where
  time : ∀ time, current.acknowledgedAt = some time →
    (boundedString time maxIdChars && isIsoTimestamp time && isRedacted time) = true
  owner : ∀ owner, current.acknowledgedBy = some owner →
    (boundedString owner maxIdChars && isRedacted owner) = true

theorem acknowledgeable_of_isIncident {current : AutopilotIncident}
    (h : isIncident current = true) : Acknowledgeable current := by
  unfold isIncident at h
  simp only [Bool.and_eq_true] at h
  obtain ⟨⟨⟨⟨⟨-, htime⟩, howner⟩, -⟩, -⟩, -⟩ := h
  refine ⟨?_, ?_⟩
  · intro time hsome
    rwa [hsome, Option.all_some] at htime
  · intro owner hsome
    rwa [hsome, Option.all_some] at howner

/-- **An acknowledged incident** is one the reader accepts exactly when the owner it did not
have before settles. -/
theorem isIncident_acknowledged {current : AutopilotIncident} (h : isIncident current = true)
    (owner : JsString) (now : IsoTimestamp) :
    isIncident (acknowledgedBy current owner now) = true ↔
      (current.acknowledgedBy = none → settles owner maxIdChars = true) := by
  have hcurrent := acknowledgeable_of_isIncident h
  have htime : (fun time => boundedString time maxIdChars && isIsoTimestamp time &&
      isRedacted time) (current.acknowledgedAt.getD now.text) = true := by
    cases hsome : current.acknowledgedAt with
    | none =>
      dsimp only [Option.getD_none]
      rw [boundedString_isoTimestamp now.iso, now.iso,
        isRedacted_of_plain (plain_isoTimestamp now.iso)]
      rfl
    | some time => exact hcurrent.time time hsome
  have howner : (fun owner => boundedString owner maxIdChars && isRedacted owner)
      (current.acknowledgedBy.getD (boundedText owner maxIdChars)) = true ↔
        (current.acknowledgedBy = none → settles owner maxIdChars = true) := by
    cases hsome : current.acknowledgedBy with
    | none =>
      dsimp only [Option.getD_none]
      rw [boundedString_boundedText, Bool.true_and]
      exact ⟨fun hsettles _ => hsettles, fun hsettles => hsettles rfl⟩
    | some owner =>
      refine ⟨?_, fun _ => hcurrent.owner owner hsome⟩
      intro _ hnone
      cases hnone
  unfold isIncident at h
  unfold isIncident acknowledgedBy acknowledgementFits
  simp only [Bool.and_eq_true, Option.all_some] at h htime howner ⊢
  rw [← howner]
  constructor
  · intro hall
    exact hall.1.1.1.2
  · intro hboth
    obtain ⟨⟨⟨⟨⟨hrest, -⟩, -⟩, -⟩, hrecord⟩, hlist⟩ := h
    exact ⟨⟨⟨⟨⟨hrest, htime⟩, hboth⟩, by simp⟩, hrecord⟩, hlist⟩

/-! ## Documents -/

/-- What the reader asks of a document. -/
structure Valid (incidents : List AutopilotIncident) : Prop where
  length : incidents.length ≤ maxIncidents
  each : ∀ incident ∈ incidents, isIncident incident = true
  unique : (incidents.map AutopilotIncident.incidentId).Nodup

theorem validateDocument_iff {incidents : List AutopilotIncident} :
    validateDocument incidents = true ↔ Valid incidents := by
  unfold validateDocument
  rw [Bool.and_eq_true, Bool.and_eq_true, decide_eq_true_eq, decide_eq_true_eq, List.all_eq_true]
  exact ⟨fun h => ⟨h.1.1, h.1.2, h.2⟩, fun h => ⟨⟨h.length, h.each⟩, h.unique⟩⟩

/-- A file whose size was checked is accepted when its document is. -/
theorem readable_some {incidents : List AutopilotIncident}
    (hsize : documentBytes incidents ≤ maxStoreBytes) :
    Readable (some incidents) ↔ Valid incidents := by
  rw [← validateDocument_iff]
  unfold Readable readIncidentStore
  dsimp only
  by_cases hvalid : validateDocument incidents = true
  · rw [if_pos ⟨hsize, hvalid⟩]
    exact ⟨fun _ => hvalid, fun _ => rfl⟩
  · rw [if_neg fun h => hvalid h.2]
    refine ⟨fun h => ?_, fun h => absurd h hvalid⟩
    cases h

theorem Readable.read {h : Machine IncidentFile} (hr : Readable h.store) :
    readIncidentStore h.store = .ok (stored h) ∧ Valid (stored h) := by
  unfold stored
  cases hfile : h.store with
  | none =>
    refine ⟨rfl, ?_, ?_, ?_⟩
    · exact Nat.zero_le _
    · intro incident hincident
      cases hincident
    · exact List.nodup_nil
  | some incidents =>
    rw [hfile] at hr
    unfold Readable readIncidentStore at hr
    unfold readIncidentStore
    dsimp only at hr ⊢
    split at hr
    · rename_i haccepted
      rw [if_pos haccepted]
      exact ⟨rfl, validateDocument_iff.1 haccepted.2⟩
    · cases hr

/-- What is left when an incident is added. -/
theorem recent_append (incidents : List AutopilotIncident) (incident : AutopilotIncident) :
    recent (incidents ++ [incident]) = keptBeside incidents ++ [incident] := by
  have hlimit : 0 < maxIncidents := by decide
  unfold recent keptBeside
  rw [List.length_append, List.length_singleton, List.drop_append_of_le_length (by omega)]

/-- **A document with a new incident** is one the reader accepts when the incident is, and
its identifier is not in use. -/
theorem valid_recent {incidents : List AutopilotIncident} (hv : Valid incidents)
    (incident : AutopilotIncident) :
    Valid (recent (incidents ++ [incident])) ↔ isIncident incident = true ∧
      ∀ other ∈ keptBeside incidents, other.incidentId ≠ incident.incidentId := by
  rw [recent_append]
  constructor
  · intro hnew
    refine ⟨hnew.each incident (List.mem_append_right _ List.mem_cons_self), ?_⟩
    intro other hother heq
    have hunique := hnew.unique
    rw [List.map_append, List.nodup_append] at hunique
    exact hunique.2.2 _ (List.mem_map_of_mem hother) _ List.mem_cons_self heq
  · intro hnew
    refine ⟨?_, ?_, ?_⟩
    · have hlength := hv.length
      unfold keptBeside maxIncidents at *
      rw [List.length_append, List.length_drop, List.length_singleton]
      omega
    · intro other hother
      rw [List.mem_append, List.mem_singleton] at hother
      rcases hother with hin | heq
      · exact hv.each other (List.mem_of_mem_drop hin)
      · rw [heq]
        exact hnew.1
    · rw [List.map_append, List.nodup_append]
      refine ⟨hv.unique.sublist ((List.drop_sublist _ _).map _), by simp, ?_⟩
      intro incidentId hkept newId hid
      obtain ⟨other, hother, heq⟩ := List.mem_map.1 hkept
      rw [List.map_singleton, List.mem_singleton] at hid
      rw [← heq, hid]
      exact hnew.2 other hother

/-- **A document with an acknowledged incident** is accepted when the incident is. -/
theorem valid_put {incidents : List AutopilotIncident} (hv : Valid incidents)
    {current acknowledged : AutopilotIncident} (hmem : current ∈ incidents)
    (hid : acknowledged.incidentId = current.incidentId) :
    Valid (incidents.map (put AutopilotIncident.incidentId acknowledged)) ↔
      isIncident acknowledged = true := by
  constructor
  · intro hnew
    apply hnew.each
    refine List.mem_map.2 ⟨current, hmem, ?_⟩
    unfold put
    rw [if_pos hid.symm]
  · intro haccepted
    refine ⟨?_, ?_, ?_⟩
    · rw [List.length_map]
      exact hv.length
    · intro incident hincident
      rcases mem_put hincident with heq | ⟨hin, -⟩
      · rw [heq]
        exact haccepted
      · exact hv.each incident hin
    · rw [map_key_put]
      exact hv.unique

/-! ## Calls -/

/-- The file after a call: as before, or with a document whose size was checked. -/
theorem writeIncidentStore_cases (incidents : List AutopilotIncident) (h : Machine IncidentFile) :
    (writeIncidentStore incidents h).2.store = h.store ∨
      documentBytes incidents ≤ maxStoreBytes ∧
        (writeIncidentStore incidents h).2.store = some incidents := by
  unfold writeIncidentStore
  split
  · exact .inl rfl
  · rename_i hsize
    rcases Host.write_writes (fun _ => (some incidents : IncidentFile)) h with
      ⟨ws, -, hrun⟩ | ⟨fault, ws, -, -, hrun⟩
    · rw [hrun]
      exact .inr ⟨Nat.not_lt.1 hsize, rfl⟩
    · rw [hrun]
      exact .inl rfl

/-- The same with a result behind the write. -/
theorem write_then_cases {α : Type} (incidents : List AutopilotIncident) (a : α)
    (h : Machine IncidentFile) :
    ((writeIncidentStore incidents >>= fun _ => (pure a : Proc IncidentFile α)) h).2.store
        = h.store ∨
      documentBytes incidents ≤ maxStoreBytes ∧
        ((writeIncidentStore incidents >>= fun _ => (pure a : Proc IncidentFile α)) h).2.store
          = some incidents := by
  have hwrite := writeIncidentStore_cases incidents h
  rw [bind_run]
  split <;> rename_i hrun <;> rw [hrun] at hwrite <;> exact hwrite

/-- An identifier is the next one, and taking it leaves the file alone. -/
theorem identify_cases (identity : Option AutopilotIncidentIdentity)
    (h : Machine IncidentFile) :
    (∃ fault, identify identity h = (.error fault, h)) ∨
      ∃ incidentId h', identify identity h = (.ok incidentId, h') ∧ h'.store = h.store ∧
        nextId h identity = some incidentId := by
  unfold identify nextId
  cases identity with
  | some identity => exact .inr ⟨identity.incidentId, h, rfl, rfl, rfl⟩
  | none =>
    dsimp only
    rw [randomUUID_bind_run]
    cases h.supply.next with
    | none => exact .inl ⟨_, rfl⟩
    | some drawn => exact .inr ⟨drawn.1.text, _, rfl, rfl, rfl⟩

theorem requireIncidentId_ok {value incidentId : JsString}
    (h : requireIncidentId value = .ok incidentId) :
    incidentId = value ∧ fits incidentIdPattern incidentId = true := by
  unfold requireIncidentId at h
  split at h
  · rename_i hfits
    cases h
    exact ⟨rfl, hfits⟩
  · cases h

theorem requireRecordedAt_ok {value recordedAt : JsString}
    (h : requireRecordedAt value = .ok recordedAt) : isIsoTimestamp recordedAt = true := by
  unfold requireRecordedAt at h
  split at h
  · rename_i hiso
    cases h
    exact hiso
  · cases h

theorem boundedRetryCount_ok {value : JsNumber} {retryCount : ℕ}
    (h : boundedRetryCount value = .ok retryCount) : retryCount ≤ 1000 := by
  unfold boundedRetryCount at h
  split at h
  · split at h
    · cases h
      exact Nat.min_le_right _ _
    · cases h
  · cases h

/-- The file after a record: as before, or with the document of a new incident. -/
inductive Recorded (h : Machine IncidentFile) (input : AutopilotIncidentInput)
    (identity : Option AutopilotIncidentIdentity) (file : IncidentFile) : Prop
  | refused (hfile : file = h.store)
  | written (incidentId recordedAt : JsString) (retryCount : ℕ)
      (hid : nextId h identity = some incidentId)
      (hfits : fits incidentIdPattern incidentId = true)
      (htime : isIsoTimestamp recordedAt = true) (hretry : retryCount ≤ 1000)
      (hsize : documentBytes (recent (stored h ++
        [newIncident incidentId recordedAt retryCount input])) ≤ maxStoreBytes)
      (hfile : file = some (recent (stored h ++
        [newIncident incidentId recordedAt retryCount input])))

theorem recorded_recordAutopilotIncident {h : Machine IncidentFile} (hr : Readable h.store)
    (input : AutopilotIncidentInput) (identity : Option AutopilotIncidentIdentity)
    (now : IsoTimestamp) :
    Recorded h input identity (recordAutopilotIncident input identity now h).2.store := by
  unfold recordAutopilotIncident
  rw [bind_run, Host.read_run]
  dsimp only
  rw [ofExcept_bind_run, hr.read.1]
  dsimp only
  rw [bind_run]
  rcases identify_cases identity h with ⟨fault, hrun⟩ | ⟨drawnId, h', hrun, hsame, hnext⟩
  · rw [hrun]
    exact .refused rfl
  · rw [hrun]
    dsimp only
    rw [ofExcept_bind_run]
    cases hid : requireIncidentId drawnId with
    | error error => exact .refused hsame
    | ok incidentId =>
      have hchecked := requireIncidentId_ok hid
      dsimp only
      rw [ofExcept_bind_run]
      cases htime : requireRecordedAt ((identity.map (·.recordedAt)).getD now.text) with
      | error error => exact .refused hsame
      | ok recordedAt =>
        dsimp only
        rw [ofExcept_bind_run]
        cases hretry : boundedRetryCount input.retryCount with
        | error error => exact .refused hsame
        | ok retryCount =>
          dsimp only
          have hwrite := write_then_cases (recent (stored h ++
            [newIncident incidentId recordedAt retryCount input]))
            (newIncident incidentId recordedAt retryCount input) h'
          rw [hsame] at hwrite
          rcases hwrite with hrefused | ⟨hsize, hwritten⟩
          · exact .refused hrefused
          · rw [← hchecked.1] at hnext
            exact .written incidentId recordedAt retryCount hnext hchecked.2
              (requireRecordedAt_ok htime) (boundedRetryCount_ok hretry) hsize hwritten

/-- The file after an acknowledgement: as before, or with the incident acknowledged. -/
inductive Acknowledged (h : Machine IncidentFile) (incidentId owner : JsString)
    (now : IsoTimestamp) (file : IncidentFile) : Prop
  | refused (hfile : file = h.store)
  | written (current : AutopilotIncident)
      (hfound : lookup AutopilotIncident.incidentId (stored h) incidentId = some current)
      (hsize : documentBytes ((stored h).map
        (put AutopilotIncident.incidentId (acknowledgedBy current owner now))) ≤ maxStoreBytes)
      (hfile : file = some ((stored h).map
        (put AutopilotIncident.incidentId (acknowledgedBy current owner now))))

theorem acknowledged_acknowledgeIncident {h : Machine IncidentFile} (hr : Readable h.store)
    (incidentId owner : JsString) (now : IsoTimestamp) :
    Acknowledged h incidentId owner now (acknowledgeIncident incidentId owner now h).2.store := by
  unfold acknowledgeIncident
  rw [bind_run, Host.read_run]
  dsimp only
  rw [ofExcept_bind_run, hr.read.1]
  dsimp only
  cases hfound : lookup AutopilotIncident.incidentId (stored h) incidentId with
  | none => exact .refused rfl
  | some current =>
    dsimp only
    rcases write_then_cases ((stored h).map
      (put AutopilotIncident.incidentId (acknowledgedBy current owner now)))
      (acknowledgedBy current owner now) h with hrefused | ⟨hsize, hwritten⟩
    · exact .refused hrefused
    · exact .written current hfound hsize hwritten

/-! ## Runs -/

/-- **A call** leaves a readable file readable exactly when it is sound, or leaves the file
as it is. -/
theorem IncidentCall.readable_iff {h : Machine IncidentFile} (hr : Readable h.store)
    (c : IncidentCall) :
    Readable (c.run h).store ↔ c.Sound h ∨ (c.run h).store = h.store := by
  have hvalid := hr.read.2
  have hunchanged : (c.run h).store = h.store →
      (Readable (c.run h).store ↔ c.Sound h ∨ (c.run h).store = h.store) := by
    intro hfile
    rw [hfile]
    exact ⟨fun _ => .inr rfl, fun _ => hr⟩
  cases c with
  | record input identity now =>
    rcases recorded_recordAutopilotIncident hr input identity now with hfile |
      ⟨incidentId, recordedAt, retryCount, hid, hfits, htime, hretry, hsize, hfile⟩
    · exact hunchanged hfile
    · replace hfile : (IncidentCall.run h (.record input identity now)).store = _ := hfile
      have hdocument := (readable_some hsize).trans (valid_recent hvalid _)
      rw [isIncident_new hfits htime hretry] at hdocument
      have hsound : IncidentCall.Sound h (.record input identity now) ↔
          Settled input = true ∧
            ∀ other ∈ keptBeside (stored h), other.incidentId ≠ incidentId := by
        refine and_congr_right fun _ => ⟨fun hfresh => hfresh incidentId hid, ?_⟩
        intro hfresh other hother
        rw [hid] at hother
        rwa [← Option.some.inj hother]
      rw [hsound]
      constructor
      · intro hreadable
        rw [hfile] at hreadable
        exact .inl (hdocument.1 hreadable)
      · rintro (hboth | hsame)
        · rw [hfile]
          exact hdocument.2 hboth
        · rw [hsame]
          exact hr
  | acknowledge incidentId owner now =>
    rcases acknowledged_acknowledgeIncident hr incidentId owner now with hfile |
      ⟨current, hfound, hsize, hfile⟩
    · exact hunchanged hfile
    · replace hfile : (IncidentCall.run h (.acknowledge incidentId owner now)).store = _ := hfile
      have hmem := (lookup_mem hfound).1
      have hid : (acknowledgedBy current owner now).incidentId = current.incidentId := rfl
      have hdocument := (readable_some hsize).trans ((valid_put hvalid hmem hid).trans
        (isIncident_acknowledged (hvalid.each current hmem) owner now))
      have hsound : IncidentCall.Sound h (.acknowledge incidentId owner now) ↔
          (current.acknowledgedBy = none → settles owner maxIdChars = true) := by
        refine ⟨fun hsound => hsound current hfound, ?_⟩
        intro hsettles other hother
        rw [hfound] at hother
        rwa [← Option.some.inj hother]
      rw [hsound]
      constructor
      · intro hreadable
        rw [hfile] at hreadable
        exact .inl (hdocument.1 hreadable)
      · rintro (hsettles | hsame)
        · rw [hfile]
          exact hdocument.2 hsettles
        · rw [hsame]
          exact hr

/-- The states that sound calls lead to from a readable file. -/
inductive SoundRun : Machine IncidentFile → Prop
  | start (h : Machine IncidentFile) (hr : Readable h.store) : SoundRun h
  | call {h : Machine IncidentFile} (hrun : SoundRun h) (c : IncidentCall) (hsound : c.Sound h) :
      SoundRun (c.run h)

theorem SoundRun.readable {h : Machine IncidentFile} (hrun : SoundRun h) :
    Readable h.store := by
  induction hrun with
  | start h hr => exact hr
  | call hrun c hsound ih => exact (c.readable_iff ih).2 (.inl hsound)

/-- **The incident store reads what it has written** along every run of sound calls, and the
first other call that changes the file makes it unreadable. -/
theorem incident_store_readable_iff {h : Machine IncidentFile} (hrun : SoundRun h) :
    Readable h.store ∧ ∀ c : IncidentCall,
      (Readable (c.run h).store ↔ c.Sound h ∨ (c.run h).store = h.store) :=
  ⟨hrun.readable, fun c => c.readable_iff hrun.readable⟩

/-! A call that is sound, and three that are not. -/

section sample

def incidentTime : IsoTimestamp := ⟨js "2024-02-29T10:00:00.000Z", by decide +kernel⟩

def incidentInput (summary : String) (key : String) : AutopilotIncidentInput where
  severity := .high
  stage := js "run"
  summary := js summary
  correlationIds := Dict.empty.set (js key) (js "1")
  impact := []
  retryCount := .ofNat 0
  eventRefs := []

def incidentIdentity : AutopilotIncidentIdentity :=
  ⟨js "00000000-0000-4000-8000-000000000001", incidentTime.text⟩

/-- The call that records an incident under the one identity. -/
def recordCall (summary key : String) : IncidentCall :=
  .record (incidentInput summary key) (some incidentIdentity) incidentTime

def noIncidents : Machine IncidentFile := ⟨none, [], .fresh [] (by decide)⟩

def oneIncident : Machine IncidentFile :=
  (recordCall "passwd=\"a\"" "id").run noIncidents

theorem oneIncident_sound : SoundRun oneIncident := by
  refine (SoundRun.start noIncidents (by decide)).call _ ⟨by decide +kernel, ?_⟩
  intro incidentId _ incident hincident
  cases hincident

theorem incident_store_readable_iff_sample :
    (stored oneIncident).map (·.incidentId) = [incidentIdentity.incidentId] ∧
      Readable oneIncident.store :=
  ⟨by decide +kernel, (incident_store_readable_iff oneIncident_sound).1⟩

/-- A text whose redaction is redacted once more, an empty key and an identifier that is in
use each get into the file, and the file is refused from then on. -/
theorem written_incidents_are_refused :
    ¬ Readable ((recordCall "passwd=\"a\"b" "id").run noIncidents).store ∧
      ¬ Readable ((recordCall "other" "").run noIncidents).store ∧
      ¬ Readable ((recordCall "other" "id").run oneIncident).store := by
  refine ⟨?_, ?_, ?_⟩
  · decide +kernel
  · decide +kernel
  · decide +kernel

end sample

end Incidents

end Autopilot
