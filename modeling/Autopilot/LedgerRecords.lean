/-
The records the program appends to a ledger, read back by the migration.

A record is a flat object whose members the validator asks for, so the line it makes is
a valid one. A ledger that ends with a line break therefore stays a sound ledger when a
record is appended, as long as neither its bytes nor its records become too many.
-/
import Autopilot.OpenRouterLedgers
import Mathlib.Data.List.TakeWhile

set_option autoImplicit false

namespace Autopilot.OpenRouterLedgers

open JsonText

/-! ## Records -/

section records

variable {dateParse : JsString → Option ℤ}

theorem OpenRouterMode.isOpenRouterMode_text (mode : OpenRouterMode) :
    isOpenRouterMode (some (.string mode.text)) = true := by
  cases mode <;> decide

theorem OpenRouterWorkerConfig.model_length (config : OpenRouterWorkerConfig) :
    config.model.length > 0 := by
  have hallowed := config.modelAllowed
  cases hmode : config.openrouterMode with
  | qwen3CodeDraft =>
    rw [hmode] at hallowed
    rcases List.mem_pair.1 hallowed with h | h <;> rw [h] <;> decide
  | nemotronPlanning =>
    rw [hmode] at hallowed
    rw [List.mem_singleton.1 hallowed]
    decide

theorem Incidents.IsoTimestamp.text_length (time : Incidents.IsoTimestamp) :
    time.text.length > 0 := by
  have hiso := time.iso
  cases htext : time.text with
  | nil =>
    rw [htext] at hiso
    exact absurd hiso (by decide)
  | cons c rest => exact Nat.succ_pos _

theorem nonEmptyString_text {text : JsString} (h : text.length > 0) :
    nonEmptyString? (some (.string text)) = some text := if_pos h

/-- A record that is appended is one the validator accepts. -/
theorem LedgerRecord.isValid
    (hdate : ∀ time : Incidents.IsoTimestamp, (dateParse time.text).isSome)
    (record : LedgerRecord) :
    isValidLedgerRecord dateParse record.kind (.object (values record.members)) = true := by
  have hv1 : isText (some (.string (js "v1"))) (js "v1") = true := by decide
  cases record with
  | attempt recordedAt config =>
    have hversion : member (values (attempt recordedAt config).members) (js "schema_version") =
        some (.string (js "v1")) := by rfl
    have htime : member (values (attempt recordedAt config).members) (js "recorded_at") =
        some (.string recordedAt.text) := by rfl
    have hmodel : member (values (attempt recordedAt config).members) (js "model") =
        some (.string config.model) := by rfl
    have hmode : member (values (attempt recordedAt config).members) (js "openrouter_mode") =
        some (.string config.openrouterMode.text) := by rfl
    have hprovider : member (values (attempt recordedAt config).members) (js "provider") =
        some (.string (js "openrouter")) := by rfl
    have href : member (values (attempt recordedAt config).members) (js "task_packet_ref") =
        some (.string config.taskPacketRef) := by rfl
    have hopenrouter : isText (some (.string (js "openrouter"))) (js "openrouter") = true := by
      decide
    unfold isValidLedgerRecord kind
    dsimp only
    rw [hversion, htime, hmodel, hmode, hprovider, href, hv1, hopenrouter,
      nonEmptyString_text (Incidents.IsoTimestamp.text_length recordedAt),
      nonEmptyString_text config.model_length,
      nonEmptyString_text (List.length_pos_of_ne_nil config.taskPacketRefGiven),
      config.openrouterMode.isOpenRouterMode_text, Option.any_some, hdate recordedAt]
    rfl
  | spend recordedAt config costUsd =>
    have hversion : member (values (spend recordedAt config costUsd).members)
        (js "schema_version") = some (.string (js "v1")) := by rfl
    have htime : member (values (spend recordedAt config costUsd).members) (js "recorded_at") =
        some (.string recordedAt.text) := by rfl
    have hmodel : member (values (spend recordedAt config costUsd).members) (js "model") =
        some (.string config.model) := by rfl
    have hmode : member (values (spend recordedAt config costUsd).members)
        (js "openrouter_mode") = some (.string config.openrouterMode.text) := by rfl
    have hcost : member (values (spend recordedAt config costUsd).members) (js "cost_usd") =
        some (.number costUsd.numeral.decimal) := by rfl
    have hsign : isNonNegative costUsd.numeral.decimal = true := by rfl
    unfold isValidLedgerRecord kind
    dsimp only
    rw [hversion, htime, hmodel, hmode, hcost, hv1,
      nonEmptyString_text (Incidents.IsoTimestamp.text_length recordedAt),
      nonEmptyString_text config.model_length, config.openrouterMode.isOpenRouterMode_text,
      Option.any_some, hdate recordedAt]
    dsimp only
    rw [costUsd.finite, hsign]
    rfl

end records

/-! ## The text of a record -/

section texts

/-- The text can be written to a file and has no line break. -/
structure Printed (text : JsString) : Prop where
  paired : Utf8.Paired text
  visible : ∀ c ∈ text, 32 ≤ c

theorem Printed.append {a b : JsString} (ha : Printed a) (hb : Printed b) : Printed (a ++ b) := by
  refine ⟨ha.paired.append hb.paired, fun c hc => ?_⟩
  rcases List.mem_append.1 hc with h | h
  · exact ha.visible c h
  · exact hb.visible c h

/-- A unit of ASCII that is no control. -/
theorem printed_unit {c : UInt16} (hlow : 32 ≤ c) (hhigh : c < 128) : Printed [c] := by
  rw [UInt16.lt_iff_toNat_lt] at hhigh
  have h128 : (128 : UInt16).toNat = 128 := by decide
  refine ⟨.unit ?_ ?_ .nil, fun d hd => ?_⟩
  · rw [Bool.eq_false_iff, Ne, Utf8.isHigh_iff]
    omega
  · rw [Bool.eq_false_iff, Ne, Utf8.isLow_iff]
    omega
  · rw [List.mem_singleton.1 hd]
    exact hlow

/-- A text of such units. -/
theorem printed_ascii {text : JsString} (h : ∀ c ∈ text, 32 ≤ c ∧ c < 128) : Printed text := by
  induction text with
  | nil => exact ⟨.nil, fun c hc => absurd hc List.not_mem_nil⟩
  | cons c rest ih =>
    have hc := h c List.mem_cons_self
    have hunit := printed_unit hc.1 hc.2
    exact hunit.append (ih fun d hd => h d (List.mem_cons_of_mem c hd))

theorem hexDigit_ascii {n : ℕ} (h : n < 16) : 32 ≤ hexDigit n ∧ hexDigit n < 128 := by
  interval_cases n <;> decide

theorem printed_digits (c : UInt16) : Printed ([92, 117] ++ hexDigits c) := by
  have hc := c.toNat_lt
  refine printed_ascii fun d hd => ?_
  simp only [hexDigits, List.cons_append, List.nil_append, List.mem_cons, List.not_mem_nil,
    or_false] at hd
  rcases hd with rfl | rfl | rfl | rfl | rfl | rfl
  · decide
  · decide
  · exact hexDigit_ascii (by omega)
  · exact hexDigit_ascii (by omega)
  · exact hexDigit_ascii (by omega)
  · exact hexDigit_ascii (by omega)

/-- A unit that is no half of a pair. -/
theorem printed_unitText {c : UInt16} (hhigh : isHigh c = false) (hlow : isLow c = false) :
    Printed (unitText c) := by
  unfold unitText
  cases hshort : shortEscape c with
  | some letter =>
    refine printed_ascii fun d hd => ?_
    have hmem := shortEscape_some hshort
    simp only [List.mem_cons, Prod.mk.injEq, List.not_mem_nil, or_false] at hmem hd
    rcases hd with rfl | rfl
    · decide
    · rcases hmem with h | h | h | h | h | h | h <;> rw [h.2] <;> decide
  | none =>
    dsimp only
    by_cases hcontrol : c < 32
    · rw [if_pos hcontrol]
      exact printed_digits c
    · rw [if_neg hcontrol]
      refine ⟨.unit hhigh hlow .nil, fun d hd => ?_⟩
      rw [List.mem_singleton.1 hd]
      exact UInt16.not_lt.1 hcontrol

theorem printed_escaped (s : JsString) : Printed (escaped s) := by
  have hhalves : ∀ c : UInt16, ¬(isHigh c || isLow c) = true →
      isHigh c = false ∧ isLow c = false := by
    intro c hc
    rw [Bool.or_eq_true, not_or, Bool.not_eq_true, Bool.not_eq_true] at hc
    exact hc
  induction s using escaped.induct with
  | case1 => exact printed_ascii fun c hc => absurd hc List.not_mem_nil
  | case2 c hhalf =>
    rw [escaped, if_pos hhalf]
    exact printed_digits c
  | case3 c hhalf =>
    rw [escaped, if_neg hhalf]
    exact printed_unitText (hhalves c hhalf).1 (hhalves c hhalf).2
  | case4 c d rest hpair ih =>
    have hboth := Bool.and_eq_true_iff.1 hpair
    have h32 : (32 : UInt16).toNat = 32 := by decide
    rw [escaped, if_pos hpair]
    refine ⟨.pair hboth.1 hboth.2 ih.paired, fun e he => ?_⟩
    rw [UInt16.le_iff_toNat_le, h32]
    rcases List.mem_cons.1 he with rfl | he
    · have := Utf8.isHigh_iff.1 hboth.1
      omega
    · rcases List.mem_cons.1 he with rfl | he
      · have := Utf8.isLow_iff.1 hboth.2
        omega
      · have := ih.visible e he
        rwa [UInt16.le_iff_toNat_le, h32] at this
  | case5 c d rest hpair hhalf ih =>
    rw [escaped, if_neg hpair, if_pos hhalf]
    exact (printed_digits c).append ih
  | case6 c d rest hpair hhalf ih =>
    rw [escaped, if_neg hpair, if_neg hhalf]
    exact (printed_unitText (hhalves c hhalf).1 (hhalves c hhalf).2).append ih

theorem printed_quoted (s : JsString) : Printed (quoted s) := by
  have hquote := printed_unit (c := 34) (by decide) (by decide)
  exact (hquote.append (printed_escaped s)).append hquote

theorem isDigit_ascii {c : UInt16} (h : JsonText.isDigit c = true) : 32 ≤ c ∧ c < 128 := by
  have hc := isDigit_toNat h
  have h32 : (32 : UInt16).toNat = 32 := by decide
  have h128 : (128 : UInt16).toNat = 128 := by decide
  rw [UInt16.le_iff_toNat_le, UInt16.lt_iff_toNat_lt, h32, h128]
  omega

theorem printed_numeral (n : Numeral) : Printed n.text := by
  have hwhole : Printed n.whole := by
    refine printed_ascii fun c hc => ?_
    rcases n.wholeDigits with hzero | ⟨-, -, hdigits⟩
    · rw [hzero] at hc
      rw [List.mem_singleton.1 hc]
      decide
    · exact isDigit_ascii (hdigits c hc)
  have hfraction : Printed n.fractionText := by
    unfold Numeral.fractionText
    cases hf : n.fraction with
    | nil => exact printed_ascii fun c hc => absurd hc List.not_mem_nil
    | cons digit digits =>
      have hdigits := n.fractionDigits
      rw [hf] at hdigits
      have hpoint := printed_unit (c := 46) (by decide) (by decide)
      exact hpoint.append (printed_ascii fun c hc => isDigit_ascii (hdigits c hc))
  have hexponent : Printed n.exponentText := by
    unfold Numeral.exponentText
    cases he : n.exponent with
    | none => exact printed_ascii fun c hc => absurd hc List.not_mem_nil
    | some exponent =>
      have hdigits := (n.exponentDigits exponent he).2
      have hmark := printed_unit (c := 101) (by decide) (by decide)
      have hsign : Printed [if exponent.1 then (45 : UInt16) else 43] := by
        cases exponent.1 <;> exact printed_unit (by decide) (by decide)
      exact hmark.append (hsign.append (printed_ascii fun c hc => isDigit_ascii (hdigits c hc)))
  exact (hwhole.append hfraction).append hexponent

theorem printed_scalar (scalar : Scalar) : Printed scalar.text := by
  cases scalar with
  | string s => exact printed_quoted s
  | number n => exact printed_numeral n

theorem printed_membersText (members : List (JsString × Scalar)) :
    Printed (membersText members) := by
  have hcolon := printed_unit (c := 58) (by decide) (by decide)
  have hcomma := printed_unit (c := 44) (by decide) (by decide)
  have hbrace := printed_unit (c := 125) (by decide) (by decide)
  induction members using membersText.induct with
  | case1 => exact hbrace
  | case2 m =>
    exact (printed_quoted m.1).append (hcolon.append ((printed_scalar m.2).append hbrace))
  | case3 m next rest ih =>
    exact (printed_quoted m.1).append
      (hcolon.append ((printed_scalar m.2).append (hcomma.append ih)))

theorem LedgerRecord.printed (record : LedgerRecord) : Printed record.text := by
  have hopen := printed_unit (c := 123) (by decide) (by decide)
  exact hopen.append (printed_membersText record.members)

end texts

/-! ## Lines -/

section lines

/-- All lines of a text. -/
def linesOf (text : JsString) : List JsString := (splitLines text).1 :: (splitLines text).2

/-- The text has no line that was begun. -/
def EndsLine (text : JsString) : Prop := text = [] ∨ text.getLast? = some 10

/-- How many records the validator finds. -/
def recordCount (lines : List JsString) : ℕ := (lines.filter fun line => trim line ≠ []).length

theorem splitLines_cons {c d : UInt16} {rest : JsString} (hc : c ≠ 10) (hd : c = 13 → d ≠ 10) :
    splitLines (c :: d :: rest) =
      (c :: (splitLines (d :: rest)).1, (splitLines (d :: rest)).2) := by
  rw [splitLines.eq_def]
  split
  · rename_i heq
    cases heq
  · rename_i heq
    exact absurd (List.cons.inj heq).1 hc
  · rename_i heq
    have hboth := List.cons.inj heq
    exact absurd (List.cons.inj hboth.2).1 (hd hboth.1)
  · rename_i heq
    have hboth := List.cons.inj heq
    rw [← hboth.1, ← hboth.2]

/-- A text without line breaks is the first line of what it begins. -/
theorem splitLines_visible {text : JsString} (h : ∀ c ∈ text, 32 ≤ c) (rest : JsString) :
    splitLines (text ++ 10 :: rest) = (text, linesOf rest) := by
  induction text with
  | nil => rfl
  | cons c text ih =>
    have hc := h c List.mem_cons_self
    have hten : c ≠ 10 := by
      rintro rfl
      exact absurd hc (by decide)
    have hthirteen : c ≠ 13 := by
      rintro rfl
      exact absurd hc (by decide)
    have hrest := ih fun d hd => h d (List.mem_cons_of_mem c hd)
    cases text with
    | nil =>
      rw [List.nil_append] at hrest
      rw [List.cons_append, List.nil_append,
        splitLines_cons hten fun h13 => absurd h13 hthirteen, hrest]
    | cons d text =>
      rw [List.cons_append] at hrest
      rw [List.cons_append, List.cons_append,
        splitLines_cons hten fun h13 => absurd h13 hthirteen, hrest]

theorem EndsLine.tail {c d : UInt16} {rest : JsString} (h : EndsLine (c :: d :: rest)) :
    EndsLine (d :: rest) := by
  rcases h with hnil | hlast
  · cases hnil
  · rw [List.getLast?_cons_cons] at hlast
    exact .inr hlast

/-- What follows a text without a line begun makes lines of its own. -/
theorem linesOf_append {text : JsString} (h : EndsLine text) :
    ∃ lines, (text ≠ [] → lines ≠ []) ∧ linesOf text = lines ++ [[]] ∧
      ∀ more, linesOf (text ++ more) = lines ++ linesOf more := by
  induction text using splitLines.induct with
  | case1 => exact ⟨[], fun hne => absurd rfl hne, rfl, fun _ => rfl⟩
  | case2 rest ih =>
    have hrest : EndsLine rest := by
      cases rest with
      | nil => exact .inl rfl
      | cons d rest => exact h.tail
    obtain ⟨lines, -, hlines, happend⟩ := ih hrest
    refine ⟨[] :: lines, fun _ => List.cons_ne_nil _ _, ?_, fun more => ?_⟩
    · rw [List.cons_append, ← hlines]
      rfl
    · rw [List.cons_append, List.cons_append, ← happend more]
      rfl
  | case3 rest ih =>
    have hrest : EndsLine rest := by
      cases rest with
      | nil => exact .inl rfl
      | cons d rest => exact h.tail.tail
    obtain ⟨lines, -, hlines, happend⟩ := ih hrest
    refine ⟨[] :: lines, fun _ => List.cons_ne_nil _ _, ?_, fun more => ?_⟩
    · rw [List.cons_append, ← hlines]
      rfl
    · rw [List.cons_append, List.cons_append, List.cons_append, ← happend more]
      rfl
  | case4 c rest hten hpair ih =>
    cases rest with
    | nil =>
      rcases h with hnil | hlast
      · cases hnil
      · exact absurd (Option.some.inj hlast) hten
    | cons d rest =>
      have hthirteen : c = 13 → d ≠ 10 := fun h13 hd => hpair rest h13 (by rw [hd])
      obtain ⟨lines, hne, hlines, happend⟩ := ih h.tail
      cases lines with
      | nil => exact absurd rfl (hne (List.cons_ne_nil d rest))
      | cons first others =>
        refine ⟨(c :: first) :: others, fun _ => List.cons_ne_nil _ _, ?_, fun more => ?_⟩
        · have hboth := List.cons.inj hlines
          unfold linesOf
          rw [splitLines_cons hten hthirteen, hboth.1, hboth.2]
          rfl
        · have hboth := List.cons.inj (happend more)
          rw [List.cons_append] at hboth
          unfold linesOf
          rw [List.cons_append, List.cons_append, splitLines_cons hten hthirteen, hboth.1, hboth.2]
          rfl

variable {dateParse : JsString → Option ℤ} {kind : OpenRouterLedgerKind}

/-- The validator goes through lines one after the other. -/
theorem validateLines_append (lines more : List JsString) (count : ℕ) :
    validateLines dateParse kind count (lines ++ more) =
      (validateLines dateParse kind count lines).bind fun _ =>
        validateLines dateParse kind (count + recordCount lines) more := by
  induction lines generalizing count with
  | nil => rfl
  | cons line lines ih =>
    rw [List.cons_append, validateLines, validateLines]
    by_cases hblank : (trim line).length = 0
    · have hcount : recordCount (line :: lines) = recordCount lines := by
        unfold recordCount
        rw [List.filter_cons_of_neg (by simpa using List.length_eq_zero_iff.1 hblank)]
      rw [if_pos hblank, if_pos hblank, ih, hcount]
    · have hcount : recordCount (line :: lines) = recordCount lines + 1 := by
        have hkept : trim line ≠ [] := fun hnil => hblank (by rw [hnil]; rfl)
        unfold recordCount
        rw [List.filter_cons_of_pos (by simpa using hkept), List.length_cons]
      rw [if_neg hblank, if_neg hblank]
      by_cases hmany : count + 1 > openrouterLedgerMaxRecords
      · rw [if_pos hmany, if_pos hmany]
        rfl
      · rw [if_neg hmany, if_neg hmany]
        cases hparse : parse line with
        | none => rfl
        | some value =>
          dsimp only
          by_cases hvalid : isValidLedgerRecord dateParse kind value = true
          · rw [if_pos hvalid, if_pos hvalid, ih, hcount, Nat.add_assoc,
              Nat.add_comm 1 (recordCount lines)]
          · rw [if_neg hvalid, if_neg hvalid]
            rfl

/-- The text of a record is no blank line. -/
theorem LedgerRecord.trim_ne (record : LedgerRecord) : trim record.text ≠ [] := by
  intro h
  have hbrace : isWhitespace 123 = true := by
    unfold trim at h
    rw [List.reverse_eq_nil_iff, List.dropWhile_eq_nil_iff] at h
    refine h 123 ?_
    rw [List.mem_reverse]
    unfold text objectText
    rw [List.dropWhile_cons_of_neg (by decide)]
    exact List.mem_cons_self
  exact absurd hbrace (by decide)

/-- The line of a record is accepted while there is room for a record. -/
theorem LedgerRecord.validateLines
    (hdate : ∀ time : Incidents.IsoTimestamp, (dateParse time.text).isSome)
    (record : LedgerRecord) {count : ℕ} (h : count < openrouterLedgerMaxRecords) :
    validateLines dateParse record.kind count [record.text, []] = .ok () := by
  have hlength : ¬(trim record.text).length = 0 := fun hzero =>
    record.trim_ne (List.length_eq_zero_iff.1 hzero)
  have hparse : parse record.text = some (.object (values record.members)) :=
    parse_objectText record.members
  rw [OpenRouterLedgers.validateLines, if_neg hlength, if_neg (by omega), hparse]
  dsimp only
  rw [if_pos (record.isValid hdate)]
  rfl

theorem validateJsonl_nil : validateJsonl dateParse kind [] = .ok () := by
  unfold validateJsonl
  rw [if_neg (by decide), Utf8.decode_nil]
  rfl

/-- **A valid ledger stays valid when a record is appended** behind its last line, while
there is room for a record. -/
theorem validateJsonl_append
    (hdate : ∀ time : Incidents.IsoTimestamp, (dateParse time.text).isSome)
    (record : LedgerRecord) {bytes : List UInt8} {text : JsString}
    (hvalid : validateJsonl dateParse record.kind bytes = .ok ())
    (htext : Utf8.decode bytes = some text) (hends : EndsLine text)
    (hroom : recordCount (linesOf text) < openrouterLedgerMaxRecords) :
    validateJsonl dateParse record.kind (bytes ++ record.lineBytes) = .ok () := by
  have hprinted := record.printed
  have hbreak : Utf8.Paired ([10] : JsString) := .unit (by decide) (by decide) .nil
  have hdecode := Utf8.decode_append htext (hprinted.paired.append hbreak)
  unfold validateJsonl at hvalid ⊢
  rw [htext] at hvalid
  -- the mark at the beginning would be one of the ledger before
  have hmark : ¬[0xef, 0xbb, 0xbf] <+: bytes := by
    intro hmark
    rw [if_pos hmark] at hvalid
    cases hvalid
  have hmark' : ¬[0xef, 0xbb, 0xbf] <+: bytes ++ record.lineBytes := by
    intro hmark'
    have hhead := (Utf8.mark_prefix_iff hdecode).1 hmark'
    cases htext' : text with
    | nil =>
      rw [htext'] at hhead
      exact absurd (Option.some.inj hhead) (by decide)
    | cons c rest =>
      rw [htext'] at hhead htext
      exact hmark ((Utf8.mark_prefix_iff htext).2 hhead)
  rw [if_neg hmark] at hvalid
  rw [if_neg hmark', LedgerRecord.lineBytes, hdecode]
  obtain ⟨lines, -, hlines, happend⟩ := linesOf_append hends
  have hrecord : linesOf (record.text ++ [10]) = [record.text, []] := by
    unfold linesOf
    rw [splitLines_visible hprinted.visible []]
    rfl
  have hcount : recordCount (linesOf text) = recordCount lines := by
    unfold recordCount
    rw [hlines, List.filter_append, List.length_append]
    rfl
  have hbefore : OpenRouterLedgers.validateLines dateParse record.kind 0 lines = .ok () := by
    have hall : OpenRouterLedgers.validateLines dateParse record.kind 0 (linesOf text) =
        .ok () := hvalid
    rw [hlines, validateLines_append] at hall
    cases hlines' : OpenRouterLedgers.validateLines dateParse record.kind 0 lines with
    | error flaw =>
      rw [hlines'] at hall
      cases hall
    | ok _ => rfl
  show OpenRouterLedgers.validateLines dateParse record.kind 0
    (linesOf (text ++ (record.text ++ [10]))) = .ok ()
  rw [happend, hrecord, validateLines_append, hbefore, Nat.zero_add, ← hcount]
  exact record.validateLines hdate hroom

end lines

/-! ## A ledger of one record -/

def sampleTime : Incidents.IsoTimestamp := ⟨js "2026-07-13T10:00:00.000Z", by decide +kernel⟩

/-- `Date.parse` of that time. -/
def sampleDateParse : JsString → Option ℤ := fun _ => some 1783936800000

/-- Digests of bytes that are few enough to be their own. -/
def sampleDigest : List UInt8 → JsString := fun bytes => bytes.map (·.toUInt16)

def sampleAttempt : LedgerRecord :=
  .attempt sampleTime ⟨.qwen3CodeDraft, js "qwen/qwen3-coder:free", js "packet-existing",
    List.mem_cons_self, by decide⟩

def sampleLedger : LedgerFile := ⟨true, sampleAttempt.lineBytes⟩

theorem sampleLedger_sound : SoundLedger sampleDateParse .attempt sampleLedger := by
  have hvalid := @validateJsonl_append sampleDateParse (fun _ => rfl) sampleAttempt _ _
    validateJsonl_nil Utf8.decode_nil (.inl rfl) (by decide)
  exact ⟨rfl, by decide +kernel, hvalid⟩

/-- A legacy ledger of the attempts, and nothing else. -/
def onlyAttempts (file : LedgerFile) : LedgerFiles where
  legacy
    | .attempt => some file
    | .spend => none
  managed _ := none

theorem onlyAttempts_migratable :
    Migratable sampleDateParse sampleDigest (onlyAttempts sampleLedger) := by
  refine ⟨fun kind file hfile => ?_, fun _ f hf => absurd hf (Option.not_mem_none f),
    fun _ _ _ f hf => absurd hf (Option.not_mem_none f)⟩
  cases kind with
  | attempt =>
    obtain rfl := Option.some.inj hfile
    exact sampleLedger_sound
  | spend => cases hfile

end Autopilot.OpenRouterLedgers
