/-
The logs of what subagents have done.

Two logs are kept as files with a record of JSON on each line, one of the handoffs that agents were
matched with and one of the evidence of their work. An append is trimmed behind: when the file has
more lines than allowed, or more bytes, it is written anew with its last lines. That leaves at most
the allowed number of lines, but not of bytes.

This module is the part of `subagentEvidence.ts` that reads and writes. Appends hold the state lock,
so they come one after the other. A crash may break an append off after some units.
-/
import Autopilot.AttemptBudget
import Autopilot.Lib.JsonBytes
import Autopilot.Lib.JsonTree
import Autopilot.Lib.Framing
import Mathlib.Data.List.DropRight

set_option autoImplicit false

namespace Autopilot
namespace SubagentEvidence

open JsonText (Tree Value parse parse_text)
open OpenRouterLedgers (Printed linesOf linesOf_plain printed_ascii printed_numeral printed_quoted
  printed_unit splitLines_visible)

/-! ## The code -/

/-- `MAX_JSONL_ENTRIES`. -/
def maxJsonlEntries : ℕ := 200

/-- `MAX_JSONL_BYTES`. -/
def maxJsonlBytes : ℕ := 256 * 1024

/-- `statSync(path).size`. -/
def byteSize (text : JsString) : ℕ := (Utf8.encode text).length

/-- `content.split(/\r?\n/).filter(Boolean)`. -/
def filledLines (content : JsString) : List JsString := (linesOf content).filter (· ≠ [])

/-- `trimJsonlIfNeeded`, of a file that exists. -/
def trimJsonlIfNeeded (content : JsString) : JsString :=
  let lines := filledLines content
  if lines.length ≤ maxJsonlEntries ∧ byteSize content ≤ maxJsonlBytes then content
  else Framing.join [10] (lines.rtake maxJsonlEntries) ++ [10]

/-- The line of a record. -/
def recordLine (record : Tree) : JsString := record.text ++ [10]

/-- `appendJsonl`. -/
def appendJsonl (file : Option JsString) (record : Tree) : JsString :=
  trimJsonlIfNeeded (file.getD [] ++ recordLine record)

/-- `readJsonl`. -/
def readJsonl (file : Option JsString) : List Value :=
  match file with
  | none => []
  | some text =>
    let content := trim text
    if content = [] then [] else ((filledLines content).mapM parse).getD []

/-- The two logs. -/
inductive Log where
  | handoffIndex
  | evidence
  deriving DecidableEq

/-- A call of `writeCorrelationEntry` or `writeSubagentEvidence`, with the fields of the entry. A
crash may end it when some units of the line are written, and the log is not trimmed then. -/
structure LogCall where
  log : Log
  entry : List (JsString × Tree)
  brokenOff : Option ℕ

/-- The record of an entry. -/
def LogCall.record (call : LogCall) : Tree :=
  .object ((js "schema_version", .string (js "v1")) :: call.entry)

abbrev LogFiles := Log → Option JsString

/-- What a call leaves behind. -/
def LogCall.write (files : LogFiles) (call : LogCall) : LogFiles :=
  let file := files call.log
  Function.update files call.log <| some <|
    match call.brokenOff with
    | none => appendJsonl file call.record
    | some units => file.getD [] ++ (recordLine call.record).take units

/-- The files after some calls, from none. -/
def written (calls : List LogCall) : LogFiles := calls.foldl LogCall.write fun _ => none

/-! ## What is promised -/

/-- The line of the call is in the file. -/
def LogCall.appends (call : LogCall) : Bool :=
  call.brokenOff.all fun units => (recordLine call.record).length ≤ units

/-- The records that were appended to a log. -/
def appended (calls : List LogCall) (log : Log) : List Tree :=
  (calls.filter fun call => call.log = log ∧ call.appends).map LogCall.record

/-- The lines of a log. -/
def entriesOf (file : Option JsString) : List JsString := filledLines (file.getD [])

/-- A log is bounded, and what it holds is the end of its history, with the newest record. -/
structure Bounded (file : Option JsString) (history : List Tree) : Prop where
  entries : (entriesOf file).length ≤ maxJsonlEntries
  bytes : byteSize (file.getD []) ≤ maxJsonlBytes
  newest : ∃ kept, kept <:+ history ∧ (history ≠ [] → kept ≠ []) ∧
    entriesOf file = kept.map Tree.text

/-- Every record that is whole is read. -/
def ReadsIntact (file : Option JsString) : Prop :=
  ∀ line ∈ entriesOf file, ∀ value, parse line = some value → value ∈ readJsonl file

/-- The last call on a log was not broken off. -/
def Finished (calls : List LogCall) (log : Log) : Prop :=
  ∀ call ∈ (calls.filter (·.log = log)).getLast?, call.brokenOff = none

/-- After each append a log is bounded, and whenever it is read no record is lost. -/
def LogsKept (calls : List LogCall) : Prop :=
  ∀ log, (Finished calls log → Bounded (written calls log) (appended calls log)) ∧
    ReadsIntact (written calls log)

/-- A crash leaves no beginning of a line. -/
def LogCall.Untorn (call : LogCall) : Prop :=
  ∀ units ∈ call.brokenOff, units = 0 ∨ call.appends

/-- The lines of the newest records fit into the limit. -/
def NewestFit (history : List Tree) : Prop :=
  ((history.rtake maxJsonlEntries).map fun record => byteSize (recordLine record)).sum ≤
    maxJsonlBytes

/-! ## Lines of records -/

theorem printed_of_all {text : JsString} (h : text.all (fun c => 32 ≤ c && c < 128) = true) :
    Printed text :=
  printed_ascii fun c hc => by
    have hboth := Bool.and_eq_true_iff.1 (List.all_eq_true.1 h c hc)
    exact ⟨of_decide_eq_true hboth.1, of_decide_eq_true hboth.2⟩

mutual

/-- A text of JSON has no line break. -/
theorem printed_text : ∀ d : Tree, Printed d.text
  | .null => printed_of_all (by rw [Tree.text]; decide)
  | .bool true => printed_of_all (by rw [Tree.text]; decide)
  | .bool false => printed_of_all (by rw [Tree.text]; decide)
  | .number true n => by
    have hminus := printed_unit (c := 45) (by decide) (by decide)
    rw [Tree.text]
    exact hminus.append (printed_numeral n)
  | .number false n => by
    rw [Tree.text]
    exact printed_numeral n
  | .string s => by
    rw [Tree.text]
    exact printed_quoted s
  | .array [] => printed_of_all (by rw [Tree.text]; decide)
  | .array (d :: rest) => by
    have hopen := printed_unit (c := 91) (by decide) (by decide)
    rw [Tree.text]
    exact hopen.append ((printed_text d).append (printed_treesTail rest))
  | .object [] => printed_of_all (by rw [Tree.text]; decide)
  | .object ((name, d) :: rest) => by
    have hopen := printed_unit (c := 123) (by decide) (by decide)
    have hcolon := printed_unit (c := 58) (by decide) (by decide)
    have hvalue := hcolon.append ((printed_text d).append (printed_entriesTail rest))
    rw [Tree.text]
    exact hopen.append ((printed_quoted name).append hvalue)

theorem printed_treesTail : ∀ elements : List Tree, Printed (JsonText.treesTail elements)
  | [] => printed_of_all (by rw [JsonText.treesTail]; decide)
  | d :: rest => by
    have hcomma := printed_unit (c := 44) (by decide) (by decide)
    rw [JsonText.treesTail]
    exact hcomma.append ((printed_text d).append (printed_treesTail rest))

theorem printed_entriesTail : ∀ members : List (JsString × Tree),
    Printed (JsonText.entriesTail members)
  | [] => printed_of_all (by rw [JsonText.entriesTail]; decide)
  | (name, d) :: rest => by
    have hcomma := printed_unit (c := 44) (by decide) (by decide)
    have hcolon := printed_unit (c := 58) (by decide) (by decide)
    have hvalue := hcolon.append ((printed_text d).append (printed_entriesTail rest))
    rw [JsonText.entriesTail]
    exact hcomma.append ((printed_quoted name).append hvalue)

end

theorem linesOf_recordLine (record : Tree) (rest : JsString) :
    linesOf (recordLine record ++ rest) = record.text :: linesOf rest := by
  have hlines := splitLines_visible (printed_text record).visible rest
  rw [recordLine, List.append_assoc, List.singleton_append, linesOf, hlines]

theorem filledLines_cons (record : Tree) (rest : JsString) :
    filledLines (recordLine record ++ rest) = record.text :: filledLines rest := by
  obtain ⟨c, tail, htext, -⟩ := record.text_head
  have hfilled : record.text ≠ [] := by
    rw [htext]
    exact List.cons_ne_nil c tail
  rw [filledLines, linesOf_recordLine]
  exact List.filter_cons_of_pos (by simpa using hfilled)

/-- A file of records has a line for each. -/
theorem filledLines_records (records : List Tree) :
    filledLines (records.flatMap recordLine) = records.map Tree.text := by
  induction records with
  | nil => rfl
  | cons record rest ih => rw [List.flatMap_cons, filledLines_cons, ih, List.map_cons]

theorem join_records {records : List Tree} (h : records ≠ []) :
    Framing.join [10] (records.map Tree.text) ++ [10] = records.flatMap recordLine := by
  induction records with
  | nil => exact absurd rfl h
  | cons record rest ih =>
    cases rest with
    | nil => rw [List.flatMap_cons, List.flatMap_nil, List.append_nil]; rfl
    | cons next rest =>
      rw [List.map_cons, List.map_cons, Framing.join_cons, List.append_assoc, ← List.map_cons,
        ih (List.cons_ne_nil next rest), List.flatMap_cons]
      rfl

theorem paired_recordLine (record : Tree) : Utf8.Paired (recordLine record) :=
  (printed_text record).paired.append (.unit (by decide) (by decide) .nil)

theorem byteSize_records (records : List Tree) :
    byteSize (records.flatMap recordLine) =
      (records.map fun record => byteSize (recordLine record)).sum := by
  induction records with
  | nil => rfl
  | cons record rest ih =>
    have hencode := @Utf8.encode_append _ (rest.flatMap recordLine) (paired_recordLine record)
    rw [List.flatMap_cons, byteSize, hencode, List.length_append, List.map_cons, List.sum_cons,
      ← ih]
    rfl

/-! ## Trimming -/

theorem rtake_map {α β : Type} (f : α → β) (l : List α) (n : ℕ) :
    (l.map f).rtake n = (l.rtake n).map f := by
  rw [List.rtake, List.rtake, List.map_drop, List.length_map]

theorem rtake_eq_self {α : Type} {l : List α} {n : ℕ} (h : l.length ≤ n) : l.rtake n = l := by
  rw [List.rtake, Nat.sub_eq_zero_of_le h, List.drop_zero]

theorem rtake_suffix {α : Type} (l : List α) (n : ℕ) : l.rtake n <:+ l := List.drop_suffix _ l

theorem length_rtake_le {α : Type} (l : List α) (n : ℕ) : (l.rtake n).length ≤ n := by
  rw [List.rtake, List.length_drop]
  omega

theorem rtake_ne_nil {α : Type} {l : List α} {n : ℕ} (hn : 0 < n) (h : l ≠ []) :
    l.rtake n ≠ [] := by
  have hpos := List.length_pos_of_ne_nil h
  refine List.ne_nil_of_length_pos ?_
  rw [List.rtake, List.length_drop]
  omega

/-- The last elements of a list are those of any end of it that has them. -/
theorem rtake_of_suffix {α : Type} {kept l : List α} {n : ℕ} (hlast : l.rtake n <:+ kept)
    (hend : kept <:+ l) : kept.rtake n = l.rtake n := by
  have hle := hlast.length_le
  have hlength := hend.length_le
  refine List.IsSuffix.eq_of_length (List.suffix_of_suffix_length_le
    ((rtake_suffix kept n).trans hend) (rtake_suffix l n) ?_) ?_
  · rw [List.rtake, List.rtake, List.length_drop, List.length_drop]
    omega
  · rw [List.rtake, List.length_drop] at hle
    rw [List.rtake, List.rtake, List.length_drop, List.length_drop]
    omega

/-- Trimming keeps the newest records. -/
theorem trimJsonlIfNeeded_records (records : List Tree) :
    trimJsonlIfNeeded (records.flatMap recordLine) =
      (records.rtake maxJsonlEntries).flatMap recordLine := by
  unfold trimJsonlIfNeeded
  dsimp only
  rw [filledLines_records, rtake_map, List.length_map]
  split
  · rename_i hfits
    rw [rtake_eq_self hfits.1]
  · rename_i hover
    refine join_records (rtake_ne_nil (by decide) ?_)
    rintro rfl
    exact hover ⟨Nat.zero_le _, by decide⟩

/-! ## Runs -/

/-- The file holds the end of the history, the newest records among it. -/
def Stands (file : Option JsString) (history : List Tree) : Prop :=
  ∃ kept, history.rtake maxJsonlEntries <:+ kept ∧ kept <:+ history ∧
    file.getD [] = kept.flatMap recordLine

theorem suffix_concat {α : Type} {a b : List α} (h : a <:+ b) (x : α) : a ++ [x] <:+ b ++ [x] := by
  obtain ⟨front, rfl⟩ := h
  exact ⟨front, by rw [List.append_assoc]⟩

/-- The newest records are still there when one is added. -/
theorem rtake_concat_suffix {history kept : List Tree}
    (h : history.rtake maxJsonlEntries <:+ kept) (record : Tree) :
    (history ++ [record]).rtake maxJsonlEntries <:+ kept ++ [record] := by
  have hfewer : history.rtake 199 <:+ history.rtake maxJsonlEntries :=
    List.suffix_of_suffix_length_le (rtake_suffix history 199) (rtake_suffix history _) (by
      rw [List.rtake, List.rtake, List.length_drop, List.length_drop, maxJsonlEntries]
      omega)
  have hlast : (history ++ [record]).rtake maxJsonlEntries = history.rtake 199 ++ [record] :=
    List.rtake_concat_succ history 199 record
  rw [hlast]
  exact suffix_concat (hfewer.trans h) record

/-- An append that is not broken off leaves the newest records. -/
theorem Stands.appendJsonl {file : Option JsString} {history : List Tree}
    (h : Stands file history) (record : Tree) :
    SubagentEvidence.appendJsonl file record =
      ((history ++ [record]).rtake maxJsonlEntries).flatMap recordLine := by
  obtain ⟨kept, hnewest, hend, hfile⟩ := h
  have hadded : file.getD [] ++ recordLine record = (kept ++ [record]).flatMap recordLine := by
    rw [hfile, List.flatMap_append, List.flatMap_singleton]
  have hlast := rtake_concat_suffix hnewest record
  rw [SubagentEvidence.appendJsonl, hadded, trimJsonlIfNeeded_records,
    rtake_of_suffix hlast (suffix_concat hend record)]

theorem appended_concat (calls : List LogCall) (call : LogCall) (log : Log) :
    appended (calls ++ [call]) log =
      appended calls log ++ if call.log = log ∧ call.appends then [call.record] else [] := by
  rw [appended, List.filter_append, List.map_append, appended]
  by_cases h : call.log = log ∧ call.appends
  · simp [h]
  · simp [h]

theorem written_concat (calls : List LogCall) (call : LogCall) :
    written (calls ++ [call]) = call.write (written calls) := by
  rw [written, List.foldl_append]
  rfl

theorem write_other {files : LogFiles} {call : LogCall} {log : Log} (h : call.log ≠ log) :
    call.write files log = files log := Function.update_of_ne (Ne.symm h) _ _

theorem write_same (files : LogFiles) (call : LogCall) :
    call.write files call.log = some (match call.brokenOff with
      | none => appendJsonl (files call.log) call.record
      | some units => (files call.log).getD [] ++ (recordLine call.record).take units) :=
  Function.update_self _ _ _

/-- A call that leaves no beginning of a line keeps a log an end of its history. -/
theorem Stands.write {files : LogFiles} {call : LogCall} {history : List Tree}
    (hcall : call.Untorn) (h : Stands (files call.log) history) :
    Stands (call.write files call.log)
      (history ++ if call.appends then [call.record] else []) := by
  rw [write_same]
  cases hbroken : call.brokenOff with
  | none =>
    have happends : call.appends = true := by rw [LogCall.appends, hbroken]; rfl
    rw [if_pos happends]
    exact ⟨_, List.suffix_rfl, rtake_suffix _ _, h.appendJsonl call.record⟩
  | some units =>
    obtain ⟨kept, hnewest, hend, hfile⟩ := h
    dsimp only
    by_cases happends : call.appends = true
    · have hlength : (recordLine call.record).length ≤ units := by
        rw [LogCall.appends, hbroken] at happends
        exact of_decide_eq_true happends
      rw [if_pos happends, List.take_of_length_le hlength]
      refine ⟨kept ++ [call.record], rtake_concat_suffix hnewest _, suffix_concat hend _, ?_⟩
      rw [Option.getD_some, hfile, List.flatMap_append, List.flatMap_singleton]
    · have hnothing : units = 0 := (hcall units hbroken).resolve_right happends
      rw [if_neg happends, hnothing, List.take_zero, List.append_nil, List.append_nil]
      exact ⟨kept, hnewest, hend, hfile⟩

theorem stands_written {calls : List LogCall} (h : ∀ call ∈ calls, call.Untorn) (log : Log) :
    Stands (written calls log) (appended calls log) := by
  induction calls using List.reverseRecOn with
  | nil =>
    have hnone : appended [] log = [] := rfl
    rw [hnone, Stands, List.rtake_nil]
    exact ⟨[], List.suffix_rfl, List.suffix_rfl, rfl⟩
  | append_singleton calls call ih =>
    have hbefore := ih fun earlier hearlier => h earlier (List.mem_append_left _ hearlier)
    rw [written_concat, appended_concat]
    by_cases hlog : call.log = log
    · subst hlog
      have hafter := hbefore.write (h call List.mem_concat_self)
      simpa only [true_and] using hafter
    · rw [write_other hlog, if_neg fun hboth => hlog hboth.1, List.append_nil]
      exact hbefore

/-- After an append a log holds the newest records. -/
theorem written_finished {calls : List LogCall} (h : ∀ call ∈ calls, call.Untorn) {log : Log}
    (hfinished : Finished calls log) :
    (written calls log).getD [] =
      ((appended calls log).rtake maxJsonlEntries).flatMap recordLine := by
  induction calls using List.reverseRecOn with
  | nil =>
    have hnone : appended [] log = [] := rfl
    rw [hnone, List.rtake_nil]
    rfl
  | append_singleton calls call ih =>
    have hcalls : ∀ earlier ∈ calls, earlier.Untorn := fun earlier hearlier =>
      h earlier (List.mem_append_left _ hearlier)
    rw [Finished, List.filter_append] at hfinished
    rw [written_concat, appended_concat]
    by_cases hlog : call.log = log
    · subst hlog
      have hbroken : call.brokenOff = none := hfinished call (by simp)
      have happends : call.appends = true := by rw [LogCall.appends, hbroken]; rfl
      rw [write_same, hbroken, if_pos ⟨rfl, happends⟩]
      exact (stands_written hcalls call.log).appendJsonl call.record
    · rw [write_other hlog, if_neg fun hboth => hlog hboth.1, List.append_nil]
      refine ih hcalls fun earlier hearlier => hfinished earlier ?_
      rw [List.filter_cons_of_neg (by simpa using hlog), List.filter_nil, List.append_nil]
      exact hearlier

/-! ## Reading -/

/-- The records of a log are objects. -/
def IsObject : Tree → Prop
  | .object _ => True
  | _ => False

theorem isObject_of_mem {calls : List LogCall} {log : Log} {record : Tree}
    (h : record ∈ appended calls log) : IsObject record := by
  obtain ⟨call, -, rfl⟩ := List.mem_map.1 h
  trivial

/-- The lines of objects stand in braces. -/
theorem join_objects {records : List Tree} (hne : records ≠ [])
    (h : ∀ record ∈ records, IsObject record) :
    ∃ middle, Framing.join [10] (records.map Tree.text) = 123 :: (middle ++ [125]) := by
  induction records with
  | nil => exact absurd rfl hne
  | cons record rest ih =>
    obtain ⟨middle, hmiddle⟩ : ∃ middle, record.text = 123 :: (middle ++ [125]) := by
      cases record with
      | object members => exact JsonText.text_object members
      | _ => exact (h _ List.mem_cons_self).elim
    cases rest with
    | nil => exact ⟨middle, hmiddle⟩
    | cons next rest =>
      obtain ⟨later, hlater⟩ := ih (List.cons_ne_nil next rest) fun r hr =>
        h r (List.mem_cons_of_mem record hr)
      refine ⟨middle ++ 125 :: 10 :: 123 :: later, ?_⟩
      rw [List.map_cons, List.map_cons, Framing.join_cons, ← List.map_cons, hlater, hmiddle]
      simp

/-- The newline at the end is taken away, and nothing else. -/
theorem trim_braces (middle : JsString) :
    trim (123 :: (middle ++ [125]) ++ [10]) = 123 :: (middle ++ [125]) := by
  have hopen : isWhitespace 123 = false := by decide
  have hclose : isWhitespace 125 = false := by decide
  have hnewline : isWhitespace 10 = true := by decide
  rw [trim, List.cons_append, List.dropWhile_cons_of_neg (by simp [hopen])]
  simp [hclose, hnewline]

theorem filledLines_join {records : List Tree} (hne : records ≠ []) :
    filledLines (Framing.join [10] (records.map Tree.text)) = records.map Tree.text := by
  induction records with
  | nil => exact absurd rfl hne
  | cons record rest ih =>
    cases rest with
    | nil =>
      obtain ⟨c, tail, htext, -⟩ := record.text_head
      have hline : linesOf record.text = [record.text] :=
        linesOf_plain fun h10 => absurd ((printed_text record).visible 10 h10) (by decide)
      have hfilled : record.text ≠ [] := by
        rw [htext]
        exact List.cons_ne_nil c tail
      rw [List.map_singleton, Framing.join, filledLines, hline,
        List.filter_cons_of_pos (by simpa using hfilled), List.filter_nil]
    | cons next rest =>
      rw [List.map_cons, List.map_cons, Framing.join_cons, ← List.map_cons, ← recordLine,
        filledLines_cons, ih (List.cons_ne_nil next rest)]

theorem mapM_parse (records : List Tree) :
    (records.map Tree.text).mapM parse = some (records.map Tree.value) := by
  induction records with
  | nil => rfl
  | cons record rest ih =>
    rw [List.map_cons, List.mapM_cons, parse_text, ih]
    rfl

/-- A file of records that are objects is read as their values. -/
theorem readJsonl_records {records : List Tree} (h : ∀ record ∈ records, IsObject record) :
    readJsonl (some (records.flatMap recordLine)) = records.map Tree.value := by
  by_cases hne : records = []
  · subst hne
    rfl
  · obtain ⟨middle, hmiddle⟩ := join_objects hne h
    have htrim : trim (records.flatMap recordLine) =
        Framing.join [10] (records.map Tree.text) := by
      rw [← join_records hne, hmiddle]
      exact trim_braces middle
    have hfilled : Framing.join [10] (records.map Tree.text) ≠ [] := by
      rw [hmiddle]
      exact List.cons_ne_nil _ _
    rw [readJsonl]
    rw [htrim, if_neg hfilled, filledLines_join hne, mapM_parse, Option.getD_some]

theorem readJsonl_getD (file : Option JsString) :
    readJsonl file = readJsonl (some (file.getD [])) := by
  cases file with
  | none => rfl
  | some text => rfl

theorem Stands.readsIntact {file : Option JsString} {history : List Tree}
    (hobjects : ∀ record ∈ history, IsObject record) (h : Stands file history) :
    ReadsIntact file := by
  obtain ⟨kept, -, hend, hfile⟩ := h
  intro line hline value hvalue
  rw [entriesOf, hfile, filledLines_records] at hline
  obtain ⟨record, hrecord, rfl⟩ := List.mem_map.1 hline
  rw [readJsonl_getD, hfile, readJsonl_records fun r hr => hobjects r (hend.subset hr)]
  rw [parse_text] at hvalue
  rw [← Option.some.inj hvalue]
  exact List.mem_map_of_mem hrecord

/-! ## The logs of a run -/

theorem byteSize_finished {calls : List LogCall} (h : ∀ call ∈ calls, call.Untorn) {log : Log}
    (hfinished : Finished calls log) : byteSize ((written calls log).getD []) =
      (((appended calls log).rtake maxJsonlEntries).map fun record =>
        byteSize (recordLine record)).sum := by
  rw [written_finished h hfinished, byteSize_records]

theorem LogsKept.newestFit {calls : List LogCall} (hkept : LogsKept calls)
    (h : ∀ call ∈ calls, call.Untorn) {log : Log} (hfinished : Finished calls log) :
    NewestFit (appended calls log) := by
  have hbytes := ((hkept log).1 hfinished).bytes
  rwa [byteSize_finished h hfinished] at hbytes

/-- Where no crash tears a line, the logs are kept exactly when after each append the newest
records fit into the limit of bytes. -/
theorem logsKept_iff {calls : List LogCall} (h : ∀ call ∈ calls, call.Untorn) :
    LogsKept calls ↔ ∀ log, Finished calls log → NewestFit (appended calls log) := by
  refine ⟨fun hkept log hfinished => hkept.newestFit h hfinished, fun hfit log => ⟨?_, ?_⟩⟩
  · intro hfinished
    have hentries : entriesOf (written calls log) =
        ((appended calls log).rtake maxJsonlEntries).map Tree.text := by
      rw [entriesOf, written_finished h hfinished, filledLines_records]
    refine ⟨?_, ?_, _, rtake_suffix _ maxJsonlEntries, ?_, hentries⟩
    · rw [hentries, List.length_map]
      exact length_rtake_le _ _
    · rw [byteSize_finished h hfinished]
      exact hfit log hfinished
    · exact rtake_ne_nil (by decide)
  · exact (stands_written h log).readsIntact fun record hrecord => isObject_of_mem hrecord

/-- The theorem for an entry of each log. -/
theorem logsKept_iff_sample :
    LogsKept [⟨.evidence, [(js "agent", .string (js "a1"))], none⟩,
        ⟨.handoffIndex, [], some 0⟩] ↔
      ∀ log, Finished [⟨.evidence, [(js "agent", .string (js "a1"))], none⟩,
          ⟨.handoffIndex, [], some 0⟩] log →
        NewestFit (appended [⟨.evidence, [(js "agent", .string (js "a1"))], none⟩,
          ⟨.handoffIndex, [], some 0⟩] log) :=
  logsKept_iff (by simp [LogCall.Untorn])

/-- An entry with notes. -/
def noted (length : ℕ) : LogCall :=
  ⟨.evidence, [(js "notes", .string (List.replicate length 97))], none⟩

theorem byteSize_noted (length : ℕ) : length ≤ byteSize (recordLine (noted length).record) := by
  have hplain : ∀ c ∈ List.replicate length (97 : UInt16), JsonText.Plain c := by
    intro c hc
    rw [List.eq_of_mem_replicate hc]
    exact ⟨by decide, by decide, by decide, by decide⟩
  have hline : recordLine (noted length).record = js "\x7b\"schema_version\":\"v1\",\"notes\":" ++
      (JsonText.quoted (List.replicate length 97) ++ js "\x7d\n") := by
    have hends : JsonText.entriesTail [] = [125] := by rw [JsonText.entriesTail]
    rw [recordLine, LogCall.record, noted, Tree.text, JsonText.entriesTail, Tree.text, Tree.text,
      hends]
    simp only [List.cons_append, List.append_assoc]
    rfl
  rw [hline, byteSize, Utf8.encode_append (JsonText.paired_of_ascii
    (JsonText.ascii_of_all (by decide))), Utf8.encode_append (JsonText.paired_quoted _),
    List.length_append, List.length_append, JsonText.length_encode_quoted_plain hplain,
    List.length_replicate]
  omega

/-- Two entries with long notes are too large for a log. -/
theorem noted_not_kept {length : ℕ} (hlength : 131072 < length) :
    ¬ LogsKept [noted length, noted length] := by
  intro h
  have huntorn : ∀ call ∈ [noted length, noted length], call.Untorn := by
    simp [LogCall.Untorn, noted]
  have hfit : NewestFit (appended _ .evidence) := h.newestFit huntorn (by simp [Finished, noted])
  have happended : appended [noted length, noted length] .evidence =
      [(noted length).record, (noted length).record] := by
    simp [appended, LogCall.appends, noted]
  have hsize := byteSize_noted length
  rw [NewestFit, happended, rtake_eq_self (by simp [maxJsonlEntries])] at hfit
  simp only [List.map_cons, List.map_nil, List.sum_cons, List.sum_nil, maxJsonlBytes] at hfit
  omega

/-- A line that is torn hides the records of its log, and two records can be too large for it. -/
theorem logs_not_kept : ¬ LogsKept [⟨.evidence, [], none⟩, ⟨.evidence, [], some 5⟩] ∧
    ¬ LogsKept [noted 150000, noted 150000] := by
  refine ⟨fun h => ?_, noted_not_kept (by omega)⟩
  have hnone : readJsonl (written [⟨.evidence, [], none⟩, ⟨.evidence, [], some 5⟩] .evidence) =
      [] := by rfl
  have hread := (h .evidence).2 (js "\x7b\"schema_version\":\"v1\"\x7d") (by decide)
    (.object [(js "schema_version", .string (js "v1"))]) (by rfl)
  rw [hnone] at hread
  exact List.not_mem_nil hread

end SubagentEvidence
end Autopilot
