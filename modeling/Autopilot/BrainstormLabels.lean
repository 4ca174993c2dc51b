/-
The labels of a consolidation name the runs whose outputs they stand in front of.

A prompt is made from the record as it is when the fanout is completed, an answer is read with the
record as it is then. What is read is stated by a schema of its own: an answer in it is decoded,
any other is refused. The labels of both go through the slots, which keep their runs.
-/
import Autopilot.BrainstormSlots
import Mathlib.Data.List.GetD

set_option autoImplicit false

namespace Autopilot
namespace Coordinator

open JsonText (Decimal Value member)

variable {sha256 : JsString → JsString}

/-! ## The schema of an answer -/

/-- A conflict, with the numbers of the outputs it names. -/
structure ConflictAnswer where
  outputs : ℕ × ℕ
  summary : JsString
  material : Bool

/-- An answer of the consolidator. -/
structure ConsolidationAnswer where
  consensus : List JsString
  conflicts : List ConflictAnswer
  confidence : Decimal
  final : JsString

/-- The value is an object with these members, and has just these names. -/
structure IsObject (value : Value) (names : List JsString) (members : List (JsString × Value)) :
    Prop where
  object : value = .object members
  names : ∀ name, (member members name).isSome = true ↔ name ∈ names

/-- The value is this conflict, as the prompt asks for it. -/
structure ConflictAnswer.Spelled (conflict : ConflictAnswer) (value : Value)
    (members : List (JsString × Value)) : Prop where
  object : IsObject value [js "output_labels", js "summary", js "material"] members
  labels : member members (js "output_labels") = some (.array
    [.string [outputLabel conflict.outputs.1], .string [outputLabel conflict.outputs.2]])
  summary : member members (js "summary") = some (.string conflict.summary)
  material : member members (js "material") = some (.bool conflict.material)

/-- The bounds of a conflict: two outputs out of so many, and out of four. -/
structure ConflictAnswer.Strict (count : ℕ) (conflict : ConflictAnswer) : Prop where
  first : conflict.outputs.1 < 4 ∧ conflict.outputs.1 < count
  second : conflict.outputs.2 < 4 ∧ conflict.outputs.2 < count
  distinct : conflict.outputs.1 ≠ conflict.outputs.2
  summary : conflict.summary.length ≤ maxItemChars ∧ 0 < conflict.summary.length

/-- The value is this answer, as the prompt asks for it. -/
structure ConsolidationAnswer.Spelled (answer : ConsolidationAnswer) (value : Value)
    (members : List (JsString × Value)) (items : List Value) : Prop where
  object : IsObject value [js "consensus", js "conflicts", js "confidence", js "final"] members
  consensus : member members (js "consensus") = some (.array (answer.consensus.map .string))
  conflicts : member members (js "conflicts") = some (.array items)
  items : List.Forall₂ (fun item conflict => ∃ members, conflict.Spelled item members) items
    answer.conflicts
  confidence : member members (js "confidence") = some (.number answer.confidence)
  final : member members (js "final") = some (.string answer.final)

/-- The bounds of an answer. -/
structure ConsolidationAnswer.Strict (count : ℕ) (answer : ConsolidationAnswer) : Prop where
  consensus : answer.consensus.length ≤ maxConsensus
  consensusItems : ∀ item ∈ answer.consensus, item.length ≤ maxItemChars ∧ 0 < item.length
  conflicts : answer.conflicts.length ≤ maxConflicts
  conflictItems : ∀ conflict ∈ answer.conflicts, conflict.Strict count
  confidence : isConfidence (some (.number answer.confidence)) = true
  final : answer.final.length ≤ maxFinalChars

/-- The text is an answer in the schema, about so many outputs. -/
def InSchema (count : ℕ) (text : JsString) (answer : ConsolidationAnswer) : Prop :=
  utf8Length text ≤ maxResultBytes ∧ (∃ value members items, JsonText.parse text = some value ∧
    answer.Spelled value members items) ∧ answer.Strict count

/-- A conflict, with the runs of the outputs. -/
def ConflictAnswer.decode (sha256 : JsString → JsString) (childRunIds : List JsString)
    (conflict : ConflictAnswer) (index : ℕ) : BrainstormConflict :=
  let ids := (childRunIds.getD conflict.outputs.1 [], childRunIds.getD conflict.outputs.2 [])
  { conflictId := conflictId sha256 index ids conflict.summary
    outputRunIds := ids
    summary := conflict.summary
    material := conflict.material }

/-- An answer, with the runs of the outputs. -/
def ConsolidationAnswer.decode (sha256 : JsString → JsString) (childRunIds : List JsString)
    (answer : ConsolidationAnswer) : Consolidation where
  conflicts := answer.conflicts.zipIdx.map fun (conflict, index) =>
    conflict.decode sha256 childRunIds index
  final := answer.final
  material := answer.conflicts.any (·.material)

/-! ### Reading the parts -/

theorem member_isSome {members : List (JsString × Value)} {name : JsString} :
    (member members name).isSome = true ↔ name ∈ members.map (·.1) := by
  unfold member
  rw [Option.isSome_map, List.find?_isSome]
  simp [eq_comm]

theorem exactObject_eq_some {value : Value} {names : List JsString} (hnames : names.Nodup)
    {members : List (JsString × Value)} :
    exactObject value names = some members ↔ IsObject value names members := by
  have hperm (members : List (JsString × Value)) :
      (members.map (·.1)).dedup.Perm names ↔
        ∀ name, (member members name).isSome = true ↔ name ∈ names := by
    rw [List.perm_ext_iff_of_nodup (List.nodup_dedup _) hnames]
    simp only [List.mem_dedup, member_isSome]
  constructor
  · intro h
    unfold exactObject at h
    split at h
    · split at h
      · rename_i hsame
        obtain rfl := Option.some.inj h
        exact ⟨rfl, (hperm _).1 hsame⟩
      · cases h
    · cases h
  · rintro ⟨rfl, h⟩
    exact if_pos ((hperm members).2 h)

theorem boundedText_eq_some {value : Option Value} {maximum : ℕ} {allowEmpty : Bool}
    {text : JsString} : boundedText value maximum allowEmpty = some text ↔
      value = some (.string text) ∧ text.length ≤ maximum ∧
        (allowEmpty = true ∨ 0 < text.length) := by
  constructor
  · intro h
    unfold boundedText at h
    split at h
    · split at h
      · rename_i hbounds
        obtain rfl := Option.some.inj h
        simp only [Bool.and_eq_true, Bool.or_eq_true, decide_eq_true_eq] at hbounds
        exact ⟨rfl, hbounds⟩
      · cases h
    · cases h
  · rintro ⟨rfl, hbounds⟩
    have hcheck : (text.length ≤ maximum && (allowEmpty || 0 < text.length)) = true := by
      simpa only [Bool.and_eq_true, Bool.or_eq_true, decide_eq_true_eq] using hbounds
    exact if_pos hcheck

/-- A label names the output that stands under it in the prompt. -/
theorem labelIndex_eq_some {count i : ℕ} {value : Value} :
    labelIndex count value = some i ↔ value = .string [outputLabel i] ∧ i < 4 ∧ i < count := by
  constructor
  · intro h
    unfold labelIndex at h
    split at h
    · rename_i c
      simp only [Option.ite_none_right_eq_some, Option.some.injEq] at h
      obtain ⟨⟨hlow, hhigh, hcount⟩, rfl⟩ := h
      have hlow' : 65 ≤ c.toNat := hlow
      have hhigh' : c.toNat ≤ 68 := hhigh
      have hlabel : outputLabel (c.toNat - 65) = c := by
        rw [← UInt16.toNat_inj, outputLabel_toNat (by omega)]
        omega
      exact ⟨by rw [hlabel], by omega, hcount⟩
    · cases h
  · rintro ⟨rfl, hfour, hcount⟩
    have hlabel : (outputLabel i).toNat = 65 + i := outputLabel_toNat (by omega)
    have hlow : (65 : UInt16) ≤ outputLabel i := by
      show 65 ≤ (outputLabel i).toNat
      omega
    have hhigh : outputLabel i ≤ 68 := by
      show (outputLabel i).toNat ≤ 68
      omega
    unfold labelIndex
    dsimp only
    rw [hlabel, Nat.add_sub_cancel_left, if_pos ⟨hlow, hhigh, hcount⟩]

theorem labelPair_eq_some {count : ℕ} {value : Option Value} {outputs : ℕ × ℕ} :
    labelPair count value = some outputs ↔
      value = some (.array [.string [outputLabel outputs.1], .string [outputLabel outputs.2]]) ∧
        (outputs.1 < 4 ∧ outputs.1 < count) ∧ (outputs.2 < 4 ∧ outputs.2 < count) ∧
          outputs.1 ≠ outputs.2 := by
  constructor
  · intro h
    unfold labelPair at h
    split at h
    · split at h
      · rename_i i j hi hj
        simp only [Option.ite_none_right_eq_some, Option.some.injEq] at h
        obtain ⟨hne, rfl⟩ := h
        obtain ⟨rfl, hfirst⟩ := labelIndex_eq_some.1 hi
        obtain ⟨rfl, hsecond⟩ := labelIndex_eq_some.1 hj
        exact ⟨rfl, hfirst, hsecond, hne⟩
      · cases h
    · cases h
  · rintro ⟨rfl, hfirst, hsecond, hne⟩
    unfold labelPair
    dsimp only
    rw [labelIndex_eq_some.2 ⟨rfl, hfirst⟩, labelIndex_eq_some.2 ⟨rfl, hsecond⟩]
    exact if_pos hne

/-- **A conflict is read when it is in the schema**, and then its labels are decoded. -/
theorem parseConflict_eq_some {childRunIds : List JsString} {item : Value} {index : ℕ}
    {conflict : BrainstormConflict} :
    parseConflict sha256 childRunIds item index = some conflict ↔
      ∃ answer : ConflictAnswer, (∃ members, answer.Spelled item members) ∧
        answer.Strict childRunIds.length ∧
        conflict = answer.decode sha256 childRunIds index := by
  have hnames : [js "output_labels", js "summary", js "material"].Nodup := by decide
  constructor
  · intro h
    unfold parseConflict at h
    obtain ⟨members, hobject, h⟩ := Option.bind_eq_some_iff.1 h
    obtain ⟨outputs, hlabels, h⟩ := Option.bind_eq_some_iff.1 h
    obtain ⟨summary, hsummary, h⟩ := Option.bind_eq_some_iff.1 h
    obtain ⟨hlabels, hfirst, hsecond, hne⟩ := labelPair_eq_some.1 hlabels
    obtain ⟨hsummary, hlong, hshort⟩ := boundedText_eq_some.1 hsummary
    split at h
    · rename_i material hmaterial
      obtain rfl := Option.some.inj h
      exact ⟨⟨outputs, summary, material⟩, ⟨members, (exactObject_eq_some hnames).1 hobject,
        hlabels, hsummary, hmaterial⟩, ⟨hfirst, hsecond, hne, hlong,
          hshort.resolve_left Bool.false_ne_true⟩, rfl⟩
    · cases h
  · rintro ⟨answer, ⟨members, hspelled⟩, hstrict, rfl⟩
    unfold parseConflict
    refine Option.bind_eq_some_iff.2 ⟨members, (exactObject_eq_some hnames).2 hspelled.object, ?_⟩
    refine Option.bind_eq_some_iff.2 ⟨answer.outputs, labelPair_eq_some.2
      ⟨hspelled.labels, hstrict.first, hstrict.second, hstrict.distinct⟩, ?_⟩
    refine Option.bind_eq_some_iff.2 ⟨answer.summary, boundedText_eq_some.2
      ⟨hspelled.summary, hstrict.summary.1, .inr hstrict.summary.2⟩, ?_⟩
    rw [hspelled.material]
    rfl

/-- All conflicts are read when all are in the schema. -/
theorem mapM_parseConflict {childRunIds : List JsString} {items : List Value}
    {conflicts : List BrainstormConflict} (from' : ℕ) :
    ((items.zipIdx from').mapM fun (item, index) =>
        parseConflict sha256 childRunIds item index) = some conflicts ↔
      ∃ answers : List ConflictAnswer,
        List.Forall₂ (fun item answer => ∃ members, answer.Spelled item members) items answers ∧
        (∀ answer ∈ answers, answer.Strict childRunIds.length) ∧
        conflicts = (answers.zipIdx from').map fun (answer, index) =>
          answer.decode sha256 childRunIds index := by
  rw [Collected.mapM_eq_some]
  induction items generalizing conflicts from' with
  | nil =>
    rw [List.zipIdx_nil, List.forall₂_nil_left_iff]
    constructor
    · rintro rfl
      exact ⟨[], .nil, by simp, rfl⟩
    · rintro ⟨answers, hspelled, -, rfl⟩
      cases hspelled
      rfl
  | cons item items ih =>
    rw [List.zipIdx_cons, List.forall₂_cons_left_iff]
    constructor
    · rintro ⟨conflict, rest, hhead, hrest, rfl⟩
      obtain ⟨answer, hspelled, hstrict, rfl⟩ := parseConflict_eq_some.1 hhead
      obtain ⟨answers, hitems, hall, rfl⟩ := (ih (from' + 1)).1 hrest
      exact ⟨answer :: answers, .cons hspelled hitems, List.forall_mem_cons.2 ⟨hstrict, hall⟩, rfl⟩
    · rintro ⟨answers, hspelled, hall, rfl⟩
      cases hspelled with
      | cons hhead hitems =>
        rename_i answer answers
        rw [List.forall_mem_cons] at hall
        exact ⟨_, _, parseConflict_eq_some.2 ⟨answer, hhead, hall.1, rfl⟩,
          (ih (from' + 1)).2 ⟨answers, hitems, hall.2, rfl⟩, rfl⟩

/-- Values that are all texts within the bound. -/
theorem all_boundedText {values : List Value} {maximum : ℕ} :
    (values.all fun item => (boundedText (some item) maximum).isSome) = true ↔
      ∃ texts : List JsString, values = texts.map .string ∧
        ∀ text ∈ texts, text.length ≤ maximum ∧ 0 < text.length := by
  induction values with
  | nil => exact ⟨fun _ => ⟨[], rfl, by simp⟩, fun _ => rfl⟩
  | cons value values ih =>
    rw [List.all_cons, Bool.and_eq_true, ih, Option.isSome_iff_exists]
    constructor
    · rintro ⟨⟨text, htext⟩, texts, rfl, hall⟩
      obtain ⟨hvalue, hlong, hshort⟩ := boundedText_eq_some.1 htext
      obtain rfl := Option.some.inj hvalue
      exact ⟨text :: texts, rfl, List.forall_mem_cons.2
        ⟨⟨hlong, hshort.resolve_left Bool.false_ne_true⟩, hall⟩⟩
    · rintro ⟨texts, htexts, hall⟩
      cases texts with
      | nil => cases htexts
      | cons text texts =>
        rw [List.map_cons, List.cons.injEq] at htexts
        rw [List.forall_mem_cons] at hall
        exact ⟨⟨text, boundedText_eq_some.2 ⟨by rw [htexts.1], hall.1.1, .inr hall.1.2⟩⟩, texts,
          htexts.2, hall.2⟩

theorem number_of_isConfidence {value : Option Value} (h : isConfidence value = true) :
    ∃ n, value = some (.number n) := by
  unfold isConfidence at h
  split at h
  · exact ⟨_, rfl⟩
  · cases h

/-- **An answer is read exactly when it is in the schema**, and then its labels are decoded. -/
theorem parseConsolidation_eq_some {text : JsString} {childRunIds : List JsString}
    {parsed : Consolidation} : parseConsolidation sha256 text childRunIds = some parsed ↔
      ∃ answer, InSchema childRunIds.length text answer ∧
        parsed = answer.decode sha256 childRunIds := by
  have hnames : [js "consensus", js "conflicts", js "confidence", js "final"].Nodup := by decide
  have hmaterial (answers : List ConflictAnswer) :
      ((answers.zipIdx.map fun (answer, index) =>
        answer.decode sha256 childRunIds index).any (·.material)) = answers.any (·.material) := by
    rw [List.any_map]
    have hzip : answers.any (·.material) = (answers.zipIdx.map Prod.fst).any (·.material) := by
      rw [List.zipIdx_map_fst]
    rw [hzip, List.any_map]
    rfl
  constructor
  · intro h
    unfold parseConsolidation at h
    split at h
    · cases h
    rename_i hsize
    obtain ⟨value, hvalue, h⟩ := Option.bind_eq_some_iff.1 h
    obtain ⟨members, hobject, h⟩ := Option.bind_eq_some_iff.1 h
    split at h
    · rename_i consensus items hconsensus hitems
      split at h
      · cases h
      rename_i hbounds
      simp only [Bool.or_eq_true, decide_eq_true_eq, Bool.not_eq_true', not_or,
        Bool.not_eq_false, Nat.not_lt] at hbounds
      obtain ⟨⟨⟨hcount, hall⟩, hconflicts⟩, hconfidence⟩ := hbounds
      obtain ⟨final, hfinal, h⟩ := Option.bind_eq_some_iff.1 h
      obtain ⟨conflicts, hread, h⟩ := Option.bind_eq_some_iff.1 h
      obtain rfl := Option.some.inj h
      obtain ⟨texts, rfl, htexts⟩ := all_boundedText.1 hall
      obtain ⟨hfinal, hlong, -⟩ := boundedText_eq_some.1 hfinal
      obtain ⟨answers, hspelled, hstrict, rfl⟩ := (mapM_parseConflict 0).1 hread
      obtain ⟨confidence, hnumber⟩ := number_of_isConfidence hconfidence
      rw [hnumber] at hconfidence
      refine ⟨⟨texts, answers, confidence, final⟩, ⟨Nat.not_lt.1 hsize, ⟨value, members, items,
        hvalue, ⟨(exactObject_eq_some hnames).1 hobject, hconsensus, hitems, hspelled, hnumber,
          hfinal⟩⟩, ⟨?_, htexts, ?_, hstrict, hconfidence, hlong⟩⟩, ?_⟩
      · rwa [List.length_map] at hcount
      · rwa [← hspelled.length_eq]
      · unfold ConsolidationAnswer.decode
        rw [hmaterial]
    · cases h
  · rintro ⟨answer, ⟨hsize, ⟨value, members, items, hvalue, hspelled⟩, hstrict⟩, rfl⟩
    unfold parseConsolidation
    rw [if_neg (Nat.not_lt.2 hsize)]
    refine Option.bind_eq_some_iff.2 ⟨value, hvalue, ?_⟩
    refine Option.bind_eq_some_iff.2 ⟨members, (exactObject_eq_some hnames).2 hspelled.object, ?_⟩
    rw [hspelled.consensus, hspelled.conflicts]
    dsimp only
    rw [if_neg]
    · refine Option.bind_eq_some_iff.2 ⟨answer.final, boundedText_eq_some.2
        ⟨hspelled.final, hstrict.final, .inl rfl⟩, ?_⟩
      refine Option.bind_eq_some_iff.2 ⟨_, (mapM_parseConflict 0).2
        ⟨answer.conflicts, hspelled.items, hstrict.conflictItems, rfl⟩, ?_⟩
      unfold ConsolidationAnswer.decode
      rw [hmaterial]
      rfl
    · simp only [Bool.or_eq_true, decide_eq_true_eq, Bool.not_eq_true', not_or,
        Bool.not_eq_false, Nat.not_lt]
      refine ⟨⟨⟨?_, all_boundedText.2 ⟨answer.consensus, rfl, hstrict.consensusItems⟩⟩, ?_⟩, ?_⟩
      · rw [List.length_map]
        exact hstrict.consensus
      · rw [hspelled.items.length_eq]
        exact hstrict.conflicts
      · rw [hspelled.confidence]
        exact hstrict.confidence

/-! ## Labels and runs -/

/-- The text stands between the two delimiters with the label of this output. -/
def Encloses (prompt nonce : JsString) (index : ℕ) (text : JsString) : Prop :=
  ∃ before after, prompt = before ++ (outputDelimiter nonce index (js "_BEGIN") ++ newline ::
    (text ++ newline :: outputDelimiter nonce index (js "_END"))) ++ after

/-- The outputs are those of the runs of the fanout slots, and each stands under the label of its
slot: in its place, and, unless the brief holds the nonce, in no other place. -/
structure PromptLabels (asked : BrainstormRecord) (runs : List RunRecord)
    (outputs : List JsString) : Prop where
  gave : List.Forall₂ (Gave runs) (fanoutSlots asked) outputs
  encloses : ∀ nonce prompt, consolidationPrompt nonce asked.brief outputs = .ok prompt →
    ∀ index output, outputs[index]? = some output → Encloses prompt nonce index
      (escapeExactDelimiter output (consolidationDelimiters nonce outputs.length))
  framed : ∀ nonce prompt, ¬ nonce <:+: asked.brief →
    consolidationPrompt nonce asked.brief outputs = .ok prompt →
      Framing.Framed newline (consolidationDelimiters nonce outputs.length)
        (outputs.map (escapeExactDelimiter · (consolidationDelimiters nonce outputs.length))) prompt

/-- The conflict is about the runs of the two slots that the labels name. -/
structure Names (slots : List BrainstormSlot) (answer : ConflictAnswer)
    (conflict : BrainstormConflict) : Prop where
  first : ∃ slot, slots[answer.outputs.1]? = some slot ∧
    slot.runId = some conflict.outputRunIds.1
  second : ∃ slot, slots[answer.outputs.2]? = some slot ∧
    slot.runId = some conflict.outputRunIds.2
  distinct : conflict.outputRunIds.1 ≠ conflict.outputRunIds.2
  summary : conflict.summary = answer.summary
  material : conflict.material = answer.material

/-- An answer in the schema is read as what it says of the runs, any other is refused. -/
structure AnswerLabels (sha256 : JsString → JsString) (answered : BrainstormRecord) : Prop where
  accepted : ∀ text parsed, parseConsolidation sha256 text answered.childRunIds = some parsed →
    ∃ answer, InSchema (fanoutSlots answered).length text answer ∧ parsed.final = answer.final ∧
      List.Forall₂ (Names (fanoutSlots answered)) answer.conflicts parsed.conflicts
  refused : ∀ text, (∀ answer, ¬ InSchema (fanoutSlots answered).length text answer) →
    parseConsolidation sha256 text answered.childRunIds = none

/-- The labels of a prompt and the labels of an answer are the same. -/
structure LabelsMatch (sha256 : JsString → JsString) (system : System) : Prop where
  prompt : ∀ asked ∈ system.held, ∀ runs outputs,
    fanoutStage asked runs = .ok (.done outputs) → PromptLabels asked runs outputs
  answer : ∀ answered ∈ system.held, answered.status = .consolidating →
    AnswerLabels sha256 answered
  /-- A slot has the run it had when its output was put into the prompt. -/
  credited : ∀ asked ∈ system.held, ∀ answered ∈ system.held,
    asked.brainstormId = answered.brainstormId → ∀ runs outputs,
      fanoutStage asked runs = .ok (.done outputs) → answered.status = .consolidating →
        (fanoutSlots answered).map (·.runId) = (fanoutSlots asked).map (·.runId)

/-- The lines of a document stand in it. -/
theorem infix_document {lines : List (Framing.Line UInt16)} {line : Framing.Line UInt16}
    (h : line ∈ lines) : line.text newline <:+: Framing.document newline lines := by
  induction lines with
  | nil => cases h
  | cons first rest ih =>
    cases rest with
    | nil =>
      rw [List.mem_singleton] at h
      exact h ▸ List.infix_rfl
    | cons next rest =>
      rw [Framing.document_cons]
      rcases List.mem_cons.1 h with rfl | h
      · exact (List.prefix_append _ _).isInfix
      · exact ((ih h).trans (List.suffix_cons _ _).isInfix).trans (List.suffix_append _ _).isInfix

theorem promptLabels {asked : BrainstormRecord} {runs : List RunRecord} {outputs : List JsString}
    (hsound : Sound asked) (h : fanoutStage asked runs = .ok (.done outputs)) :
    PromptLabels asked runs outputs where
  gave := fanoutStage_done h
  encloses nonce prompt hprompt index output houtput := by
    obtain ⟨-, rfl⟩ := consolidationPrompt_eq hprompt
    have hblock : Framing.Line.block (outputDelimiter nonce index (js "_BEGIN"))
        (escapeExactDelimiter output (consolidationDelimiters nonce outputs.length))
        (outputDelimiter nonce index (js "_END")) ∈
        consolidationBlocks nonce (consolidationDelimiters nonce outputs.length) outputs :=
      List.mem_map.2 ⟨(output, index), List.mk_mem_zipIdx_iff_getElem?.2 houtput, rfl⟩
    obtain ⟨before, after, hparts⟩ := infix_document (List.mem_append_right
      ((consolidationHead asked.brief).map Framing.Line.plain) hblock)
    exact ⟨before, after, hparts.symm⟩
  framed nonce prompt hbrief hprompt := by
    have hcount : outputs.length ≤ 65471 := by
      have hfew := (isBrainstormRecord_slots hsound.valid).2.2
      have hlength := (fanoutStage_done h).length_eq
      rw [hsound.length_fanoutSlots] at hlength
      omega
    exact consolidationPrompt_framed hbrief hcount hprompt

/-- The listed runs of slots that are all bound are those of the slots one by one. -/
theorem map_some_runIds {slots : List BrainstormSlot}
    (h : ∀ slot ∈ slots, slot.runId.isSome = true) :
    (slots.filterMap (·.runId)).map some = slots.map (·.runId) := by
  induction slots with
  | nil => rfl
  | cons slot slots ih =>
    rw [List.forall_mem_cons] at h
    obtain ⟨runId, hrun⟩ := Option.isSome_iff_exists.1 h.1
    rw [List.filterMap_cons, hrun, List.map_cons, List.map_cons, ih h.2, hrun]

/-- The number of an output finds the run of its slot. -/
theorem slot_of_lt {slots : List BrainstormSlot} {childRunIds : List JsString}
    (h : childRunIds.map some = slots.map (·.runId)) {i : ℕ} (hi : i < childRunIds.length) :
    ∃ slot, slots[i]? = some slot ∧ slot.runId = some (childRunIds.getD i []) := by
  have hget := congrArg (·[i]?) h
  rw [List.getElem?_map, List.getElem?_map, List.getElem?_eq_getElem hi, Option.map_some,
    eq_comm, Option.map_eq_some_iff] at hget
  obtain ⟨slot, hslot, hrun⟩ := hget
  refine ⟨slot, hslot, hrun.trans ?_⟩
  rw [List.getD_eq_getElem _ _ hi]

theorem answerLabels {answered : BrainstormRecord} (hsound : Sound answered)
    (hstatus : answered.status = .consolidating) : AnswerLabels sha256 answered := by
  have hruns : answered.childRunIds.map some = (fanoutSlots answered).map (·.runId) := by
    rw [hsound.childRunIds]
    exact map_some_runIds (hsound.bound hstatus)
  have hcount : answered.childRunIds.length = (fanoutSlots answered).length := by
    have hlength := congrArg List.length hruns
    rwa [List.length_map, List.length_map] at hlength
  constructor
  · intro text parsed h
    obtain ⟨answer, hschema, rfl⟩ := parseConsolidation_eq_some.1 h
    refine ⟨answer, hcount ▸ hschema, rfl, ?_⟩
    unfold ConsolidationAnswer.decode
    dsimp only
    rw [List.forall₂_map_right_iff]
    have hstrict := hschema.2.2.conflictItems
    generalize answer.conflicts = conflicts at hstrict ⊢
    generalize 0 = index
    induction conflicts generalizing index with
    | nil => exact .nil
    | cons conflict conflicts ih =>
      rw [List.forall_mem_cons] at hstrict
      rw [List.zipIdx_cons]
      refine .cons ?_ (ih hstrict.2 _)
      obtain ⟨hfirst, hsecond, hne, -⟩ := hstrict.1
      have hdistinct := (isBrainstormRecord_slots hsound.valid).2.1
      refine ⟨slot_of_lt hruns hfirst.2, slot_of_lt hruns hsecond.2, ?_, rfl, rfl⟩
      unfold ConflictAnswer.decode
      dsimp only
      rw [List.getD_eq_getElem _ _ hfirst.2, List.getD_eq_getElem _ _ hsecond.2]
      exact fun heq => hne ((hdistinct.getElem_inj_iff).1 heq)
  · intro text h
    cases hparse : parseConsolidation sha256 text answered.childRunIds with
    | none => rfl
    | some parsed =>
      obtain ⟨answer, hschema, -⟩ := parseConsolidation_eq_some.1 hparse
      exact absurd (hcount ▸ hschema) (h answer)

/-- Slots that are kept have the runs they had, when they had them all. -/
theorem runIds_kept {slots slots' : List BrainstormSlot} (hkept : Kept slots slots')
    (h : ∀ slot ∈ slots, slot.runId.isSome = true) :
    slots'.map (·.runId) = slots.map (·.runId) := by
  induction hkept with
  | nil => rfl
  | cons hhead _ ih =>
    rw [List.forall_mem_cons] at h
    obtain ⟨runId, hrun⟩ := Option.isSome_iff_exists.1 h.1
    rw [List.map_cons, List.map_cons, ih h.2, hrun, hhead.run runId hrun]

/-- **Whatever the calls of the coordinator and their order**, the output of a slot is put into the
prompt under the label of the slot, and an answer in the schema is read as one about the runs of
the slots that its labels name, two distinct ones in each conflict; any other answer is refused. -/
theorem labels_match (sha256 : JsString → JsString) (writes : List (WriteOutcome JsError))
    (supply : Supply Uuid) (steps : List Step) :
    LabelsMatch sha256 ((System.initial writes supply).afterAll sha256 steps) := by
  have hconsistent : Consistent ((System.initial writes supply).afterAll sha256 steps) :=
    (Consistent.initial writes supply).afterAll steps
  generalize (System.initial writes supply).afterAll sha256 steps = system at hconsistent
  refine ⟨fun asked hasked runs outputs h => promptLabels (hconsistent.sound asked hasked) h,
    fun answered hanswered hstatus => answerLabels (hconsistent.sound answered hanswered) hstatus,
    ?_⟩
  intro asked hasked answered hanswered hid runs outputs h hstatus
  have hbound := bound_of_fanoutStage h
  have hbound' := (hconsistent.sound answered hanswered).bound hstatus
  rcases Nat.le_total asked.revision answered.revision with hle | hle
  · have hearlier := hconsistent.ordered asked hasked answered hanswered hid hle
    exact runIds_kept hearlier.slots.fanout hbound
  · have hearlier := hconsistent.ordered answered hanswered asked hasked hid.symm hle
    exact (runIds_kept hearlier.slots.fanout hbound').symm

end Coordinator
end Autopilot
