/-
The attempt budget of the OpenRouter lane (`cliWorkerCapture.ts`).

A worker appends its attempt to the attempt ledger, under the lock of the state directory,
and then reads the ledger without the lock and counts the attempts of its day and of its
minute. A line that is no JSON record is passed over, and a ledger that cannot be read has
no lines. Appending and counting are steps of their own, and other workers may come between
them.

An append may break off, and then it leaves a beginning of its line.
-/
import Autopilot.LedgerRecords
import Autopilot.Lib.Admission
import Autopilot.Lib.Interleaving

set_option autoImplicit false

namespace Autopilot.OpenRouterLedgers

open JsonText

/-! ## The counters -/

/-- `OPENROUTER_FREE_DAILY_ATTEMPT_LIMIT`. -/
def openrouterFreeDailyAttemptLimit : ℕ := 1000

/-- `OPENROUTER_FREE_MINUTE_ATTEMPT_LIMIT`. -/
def openrouterFreeMinuteAttemptLimit : ℕ := 20

/-- `OpenRouterAttemptCounts`. -/
structure OpenRouterAttemptCounts where
  day : ℕ
  minute : ℕ
  dayLimit : ℕ
  minuteLimit : ℕ
  deriving DecidableEq

/-- `readJsonlLines`, of a ledger that could be read. -/
def readJsonlLines (text : JsString) : List JsString :=
  (linesOf text).filter fun line => trim line ≠ []

/-- `readRecordedAt`. -/
def readRecordedAt (line : JsString) : Option JsString :=
  match parse line with
  | some (.object members) =>
    match member members (js "recorded_at") with
    | some (.string timestamp) => some timestamp
    | _ => none
  | _ => none

/-- What the loop of `countOpenRouterAttempts` does with a line. -/
def countAttempt (dayKey minuteKey : JsString) (counts : OpenRouterAttemptCounts)
    (line : JsString) : OpenRouterAttemptCounts :=
  match readRecordedAt line with
  | none => counts
  | some timestamp =>
    if timestamp.length = 0 then counts
    else
      let counts := if timestamp.take 10 = dayKey then { counts with day := counts.day + 1 }
        else counts
      if timestamp.take 16 = minuteKey then { counts with minute := counts.minute + 1 }
      else counts

/-- `countOpenRouterAttempts`, on the lines of the ledger. -/
def countOpenRouterAttempts (lines : List JsString) (recordedAt : JsString) :
    OpenRouterAttemptCounts :=
  lines.foldl (countAttempt (recordedAt.take 10) (recordedAt.take 16))
    ⟨0, 0, openrouterFreeDailyAttemptLimit, openrouterFreeMinuteAttemptLimit⟩

/-- The counts are refused. -/
def OpenRouterAttemptCounts.exceeded (counts : OpenRouterAttemptCounts) : Prop :=
  counts.day > openrouterFreeDailyAttemptLimit ∨ counts.minute > openrouterFreeMinuteAttemptLimit

instance (counts : OpenRouterAttemptCounts) : Decidable counts.exceeded :=
  inferInstanceAs (Decidable (_ ∨ _))

/-! ## A call -/

/-- The input of `incrementOpenRouterAttemptBudget`. -/
structure AttemptInput where
  openrouterMode : OpenRouterMode
  model : JsString
  taskPacketRef : JsString
  now : Incidents.IsoTimestamp

namespace AttemptInput

/-- The members of the record that is appended. -/
def members (input : AttemptInput) : List (JsString × Scalar) :=
  [(js "schema_version", .string (js "v1")), (js "recorded_at", .string input.now.text),
    (js "provider", .string (js "openrouter")),
    (js "openrouter_mode", .string input.openrouterMode.text),
    (js "model", .string input.model), (js "task_packet_ref", .string input.taskPacketRef)]

/-- The line that is appended. -/
def line (input : AttemptInput) : JsString := objectText input.members ++ [10]

/-- The day and the minute of the attempt. -/
def day (input : AttemptInput) : JsString := input.now.text.take 10

def minute (input : AttemptInput) : JsString := input.now.text.take 16

end AttemptInput

/-- The points of a call. -/
inductive AttemptPoint where
  | appending
  | counting
  | returned (counts : OpenRouterAttemptCounts)
  /-- `OpenRouterBudgetError`. -/
  | refused (counts : OpenRouterAttemptCounts)
  /-- The error of the append. -/
  | failed
  deriving DecidableEq

/-- What a call does next. -/
inductive AttemptAction where
  | append
  /-- The append ends with an error behind this many units. -/
  | breakOff (written : ℕ)
  /-- The ledger is counted. Reading it may fail. -/
  | count (readable : Bool)

/-- The attempt ledger, with the calls whose append was completed, in order. -/
structure AttemptLedger (ι : Type) where
  text : JsString
  appended : List ι

section calls

variable {ι : Type} (inputs : ι → AttemptInput)

/-- `incrementOpenRouterAttemptBudget`, step by step. -/
def attemptProgram : Parallel.Program ι AttemptPoint (AttemptLedger ι) AttemptAction :=
  fun i action s =>
    match s.point i, action with
    | .appending, .append =>
      some (.counting, ⟨s.shared.text ++ (inputs i).line, s.shared.appended ++ [i]⟩)
    | .appending, .breakOff written =>
      some (.failed, { s.shared with text := s.shared.text ++ (inputs i).line.take written })
    | .counting, .count readable =>
      let counts := countOpenRouterAttempts (if readable then readJsonlLines s.shared.text else [])
        (inputs i).now.text
      some (if counts.exceeded then .refused counts else .returned counts, s.shared)
    | _, _ => none

/-- The calls before any of them has begun, on a ledger with a text. -/
def attemptStart (text : JsString) : Parallel ι AttemptPoint (AttemptLedger ι) :=
  ⟨fun _ => .appending, ⟨text, []⟩⟩

/-- No append breaks off within its line, and no reading of the ledger fails. -/
def Unbroken (_ : Parallel ι AttemptPoint (AttemptLedger ι)) (i : ι) : AttemptAction → Prop
  | .append => True
  | .breakOff written => written = 0 ∨ (inputs i).line.length ≤ written
  | .count readable => readable = true

end calls

/-- Behind its last newline the ledger has only blanks. -/
def Settled (text : JsString) : Prop :=
  ∃ front last, text = front ++ last ∧ EndsLine front ∧ ∀ c ∈ last, isBlank c = true ∧ c ≠ 10

/-! ## What is counted -/

/-- The line is an attempt whose timestamp begins with the key. -/
def isAttemptOf (length : ℕ) (key line : JsString) : Bool :=
  (readRecordedAt line).any fun timestamp => timestamp.length ≠ 0 && timestamp.take length = key

/-- The attempts of a key. -/
def attemptsOf (length : ℕ) (key : JsString) (lines : List JsString) : ℕ :=
  lines.countP (isAttemptOf length key)

theorem countAttempt_eq (dayKey minuteKey : JsString) (counts : OpenRouterAttemptCounts)
    (line : JsString) :
    countAttempt dayKey minuteKey counts line =
      { counts with
        day := counts.day + if isAttemptOf 10 dayKey line then 1 else 0
        minute := counts.minute + if isAttemptOf 16 minuteKey line then 1 else 0 } := by
  rw [countAttempt, isAttemptOf, isAttemptOf]
  cases readRecordedAt line with
  | none => rfl
  | some timestamp =>
    rw [Option.any_some, Option.any_some]
    by_cases hempty : timestamp.length = 0
    · simp [hempty]
    · by_cases hday : timestamp.take 10 = dayKey
      · by_cases hminute : timestamp.take 16 = minuteKey
        · simp [hempty, hday, hminute]
        · simp [hempty, hday, hminute]
      · by_cases hminute : timestamp.take 16 = minuteKey
        · simp [hempty, hday, hminute]
        · simp [hempty, hday, hminute]

/-- The loop counts the lines of the day and the lines of the minute. -/
theorem countOpenRouterAttempts_eq (lines : List JsString) (recordedAt : JsString) :
    countOpenRouterAttempts lines recordedAt =
      ⟨attemptsOf 10 (recordedAt.take 10) lines, attemptsOf 16 (recordedAt.take 16) lines,
        openrouterFreeDailyAttemptLimit, openrouterFreeMinuteAttemptLimit⟩ := by
  rw [countOpenRouterAttempts]
  have hloop (lines : List JsString) (counts : OpenRouterAttemptCounts) :
      lines.foldl (countAttempt (recordedAt.take 10) (recordedAt.take 16)) counts =
        { counts with
          day := counts.day + attemptsOf 10 (recordedAt.take 10) lines
          minute := counts.minute + attemptsOf 16 (recordedAt.take 16) lines } := by
    induction lines generalizing counts with
    | nil => rfl
    | cons line lines ih =>
      rw [List.foldl_cons, ih, countAttempt_eq, attemptsOf, attemptsOf, attemptsOf, attemptsOf,
        List.countP_cons, List.countP_cons]
      simp only [OpenRouterAttemptCounts.mk.injEq, and_true]
      omega
  rw [hloop]
  simp only [Nat.zero_add]

/-! ## Appending a line -/

theorem splitLines_line {text : JsString} (hplain : 10 ∉ text) (hlast : text.getLast? ≠ some 13)
    (rest : JsString) : splitLines (text ++ 10 :: rest) = (text, linesOf rest) := by
  induction text with
  | nil => rfl
  | cons c text ih =>
    rw [List.mem_cons, not_or] at hplain
    cases text with
    | nil =>
      have hreturn : c ≠ 13 := fun h => hlast (by rw [h]; rfl)
      rw [List.cons_append, List.nil_append,
        splitLines_cons (Ne.symm hplain.1) fun h => absurd h hreturn]
      rfl
    | cons d text =>
      rw [List.getLast?_cons_cons] at hlast
      have hd : d ≠ 10 := fun h => hplain.2 (h ▸ List.mem_cons_self)
      have hrest := ih hplain.2 hlast
      rw [List.cons_append] at hrest
      rw [List.cons_append, List.cons_append, splitLines_cons (Ne.symm hplain.1) fun _ => hd, hrest]

/-- A text without a newline is one line. -/
theorem linesOf_plain {text : JsString} (hplain : 10 ∉ text) : linesOf text = [text] := by
  induction text with
  | nil => rfl
  | cons c text ih =>
    rw [List.mem_cons, not_or] at hplain
    have hrest := ih hplain.2
    cases text with
    | nil =>
      rw [linesOf, splitLines.eq_def]
      split
      · rename_i heq
        cases heq
      · rename_i heq
        exact absurd (List.cons.inj heq).1.symm hplain.1
      · rename_i heq
        cases (List.cons.inj heq).2
      · rename_i heq
        obtain ⟨rfl, rfl⟩ := List.cons.inj heq
        rfl
    | cons d text =>
      have hd : d ≠ 10 := fun h => hplain.2 (h ▸ List.mem_cons_self)
      rw [linesOf, splitLines_cons (Ne.symm hplain.1) fun _ => hd]
      have hboth := List.cons.inj hrest
      rw [hboth.1, hboth.2]

theorem isWhitespace_of_isBlank {c : UInt16} (h : isBlank c = true) : isWhitespace c = true := by
  unfold isBlank at h
  simp only [Bool.or_eq_true, decide_eq_true_eq] at h
  rcases h with ((rfl | rfl) | rfl) | rfl
  · decide
  · decide
  · decide
  · decide

theorem trim_blanks {text : JsString} (h : ∀ c ∈ text, isBlank c = true) : trim text = [] := by
  have hfront : text.dropWhile isWhitespace = [] :=
    List.dropWhile_eq_nil_iff.2 fun c hc => isWhitespace_of_isBlank (h c hc)
  rw [trim, hfront]
  rfl

theorem trim_ne_nil {text : JsString} {c : UInt16} (hc : c ∈ text)
    (hvisible : isWhitespace c = false) : trim text ≠ [] := by
  intro h
  rw [trim, List.reverse_eq_nil_iff, List.dropWhile_eq_nil_iff] at h
  by_cases hfront : c ∈ text.dropWhile isWhitespace
  · rw [h c (List.mem_reverse.2 hfront)] at hvisible
    cases hvisible
  · have hwhile : c ∈ text.takeWhile isWhitespace := by
      rw [← List.takeWhile_append_dropWhile (p := isWhitespace) (l := text)] at hc
      exact (List.mem_append.1 hc).resolve_right hfront
    rw [List.mem_takeWhile_imp hwhile] at hvisible
    cases hvisible

/-- The lines of a ledger without a line begun, when a text is appended. -/
theorem readJsonlLines_append {front : JsString} (h : EndsLine front) (more : JsString) :
    readJsonlLines (front ++ more) = readJsonlLines front ++ readJsonlLines more := by
  obtain ⟨lines, -, hlines, happend⟩ := linesOf_append h
  have hempty : ¬ trim ([] : JsString) ≠ [] := by decide
  rw [readJsonlLines, readJsonlLines, readJsonlLines, happend, hlines, List.filter_append,
    List.filter_append, List.filter_cons_of_neg (by simpa using hempty), List.filter_nil,
    List.append_nil]

theorem AttemptInput.text_printed (input : AttemptInput) : Printed (objectText input.members) :=
  (printed_unit (c := 123) (by decide) (by decide)).append (printed_membersText input.members)

/-- The last unit of the record of an attempt is no carriage return. -/
theorem AttemptInput.text_getLast (input : AttemptInput) (blanks : JsString) :
    (blanks ++ objectText input.members).getLast? ≠ some 13 := by
  intro h
  have hne : objectText input.members ≠ [] := by
    unfold objectText
    exact List.cons_ne_nil _ _
  rw [List.getLast?_append_of_ne_nil _ hne] at h
  exact absurd (input.text_printed.visible 13 (List.mem_of_getLast? h)) (by decide)

/-- The record of an attempt behind blanks is read as such. -/
theorem AttemptInput.isAttemptOf_text (input : AttemptInput) {blanks : JsString}
    (h : ∀ c ∈ blanks, isBlank c = true) (length : ℕ) (key : JsString) :
    isAttemptOf length key (blanks ++ objectText input.members) =
      decide (input.now.text.take length = key) := by
  have hparse := parse_blanks_objectText h input.members
  have hmember : member (values input.members) (js "recorded_at") =
      some (.string input.now.text) := by rfl
  have hne : input.now.text ≠ [] :=
    List.ne_nil_of_length_pos (Incidents.IsoTimestamp.text_length input.now)
  rw [isAttemptOf, readRecordedAt, hparse]
  dsimp only
  rw [hmember]
  simp [hne]

/-- The line of an attempt is one more line, and it is counted under its own keys only. -/
theorem attemptsOf_append {text : JsString} (h : Settled text) (input : AttemptInput)
    (length : ℕ) (key : JsString) :
    attemptsOf length key (readJsonlLines (text ++ input.line)) =
      attemptsOf length key (readJsonlLines text) +
        if input.now.text.take length = key then 1 else 0 := by
  obtain ⟨front, last, rfl, hfront, hlast⟩ := h
  have hblank : ∀ c ∈ last, isBlank c = true := fun c hc => (hlast c hc).1
  have hbegun : readJsonlLines last = [] := by
    rw [readJsonlLines, linesOf_plain fun h10 => (hlast 10 h10).2 rfl,
      List.filter_cons_of_neg (by simpa using trim_blanks hblank), List.filter_nil]
  have hplain : 10 ∉ last ++ objectText input.members := by
    rw [List.mem_append, not_or]
    refine ⟨fun h10 => (hlast 10 h10).2 rfl, fun h10 => ?_⟩
    exact absurd (input.text_printed.visible 10 h10) (by decide)
  have hvisible : trim (last ++ objectText input.members) ≠ [] :=
    trim_ne_nil (c := 123) (List.mem_append_right _ List.mem_cons_self) (by decide)
  have hline : readJsonlLines (last ++ input.line) = [last ++ objectText input.members] := by
    have hlines : linesOf (last ++ input.line) = [last ++ objectText input.members, []] := by
      rw [AttemptInput.line, ← List.append_assoc, linesOf,
        splitLines_line hplain (input.text_getLast last)]
      rfl
    have hempty : ¬ trim ([] : JsString) ≠ [] := by decide
    rw [readJsonlLines, hlines, List.filter_cons_of_pos (by simpa using hvisible),
      List.filter_cons_of_neg (by simpa using hempty), List.filter_nil]
  rw [List.append_assoc, readJsonlLines_append hfront, readJsonlLines_append hfront, hline, hbegun,
    List.append_nil, attemptsOf, List.countP_append, List.countP_singleton,
    input.isAttemptOf_text hblank]
  simp only [decide_eq_true_eq]
  rfl

/-- Behind the line of an attempt the ledger has no line begun. -/
theorem settled_append (text : JsString) (input : AttemptInput) : Settled (text ++ input.line) := by
  refine ⟨text ++ input.line, [], (List.append_nil _).symm, .inr ?_, fun c hc => ?_⟩
  · rw [AttemptInput.line, ← List.append_assoc]
    exact List.getLast?_concat
  · exact absurd hc List.not_mem_nil

/-! ## Any number of calls -/

section runs

open Parallel Admission

variable {ι : Type} {inputs : ι → AttemptInput} {s s' : Parallel ι AttemptPoint (AttemptLedger ι)}

/-- The call is one of a key. -/
def ofKey (inputs : ι → AttemptInput) (length : ℕ) (key : JsString) (i : ι) : Bool :=
  (inputs i).now.text.take length = key

/-- What holds while the calls append and count. -/
structure Budgeted (inputs : ι → AttemptInput)
    (s : Parallel ι AttemptPoint (AttemptLedger ι)) : Prop where
  settled : Settled s.shared.text
  /-- Every completed append is counted. -/
  counted : ∀ length key, (s.shared.appended.filter (ofKey inputs length key)).length ≤
    attemptsOf length key (readJsonlLines s.shared.text)
  nodup : s.shared.appended.Nodup
  appended : ∀ i, s.point i = .counting → i ∈ s.shared.appended
  appending : ∀ i, s.point i = .appending → i ∉ s.shared.appended
  returned : ∀ i counts, s.point i = .returned counts →
    i ∈ s.shared.appended ∧
      Within s.shared.appended (ofKey inputs 10 (inputs i).day)
        openrouterFreeDailyAttemptLimit i ∧
      Within s.shared.appended (ofKey inputs 16 (inputs i).minute)
        openrouterFreeMinuteAttemptLimit i

theorem budgeted_start {text : JsString} (h : Settled text) :
    Budgeted inputs (attemptStart text) where
  settled := h
  counted _ _ := Nat.zero_le _
  nodup := List.nodup_nil
  appended i hi := by cases hi
  appending i _ := List.not_mem_nil
  returned i counts hi := by cases hi

/-- What a step of a call is. -/
theorem attemptProgram_cases {i : ι} {action : AttemptAction}
    {next : AttemptPoint × AttemptLedger ι} (h : attemptProgram inputs i action s = some next) :
    (s.point i = .appending ∧ action = .append ∧
        next = (.counting, ⟨s.shared.text ++ (inputs i).line, s.shared.appended ++ [i]⟩)) ∨
      (s.point i = .appending ∧ ∃ written, action = .breakOff written ∧
        next = (.failed,
          { s.shared with text := s.shared.text ++ (inputs i).line.take written })) ∨
      (s.point i = .counting ∧ ∃ readable counts, action = .count readable ∧
        counts = countOpenRouterAttempts
          (if readable then readJsonlLines s.shared.text else []) (inputs i).now.text ∧
        next = (if counts.exceeded then .refused counts else .returned counts, s.shared)) := by
  unfold attemptProgram at h
  split at h
  · exact .inl ⟨‹_›, rfl, (Option.some.inj h).symm⟩
  · exact .inr (.inl ⟨‹_›, _, rfl, (Option.some.inj h).symm⟩)
  · exact .inr (.inr ⟨‹_›, _, _, rfl, rfl, (Option.some.inj h).symm⟩)
  · cases h

variable [DecidableEq ι]

/-- An append that is completed. -/
theorem Budgeted.append (h : Budgeted inputs s) {i : ι} (hi : s.point i = .appending) :
    Budgeted inputs (s.move i
      (.counting, ⟨s.shared.text ++ (inputs i).line, s.shared.appended ++ [i]⟩)) where
  settled := settled_append ..
  counted length key := by
    rw [move_shared]
    dsimp only
    rw [attemptsOf_append h.settled, List.filter_append, List.length_append]
    have hcounted := h.counted length key
    by_cases hkey : (inputs i).now.text.take length = key
    · have hone : ([i].filter (ofKey inputs length key)).length ≤ 1 :=
        (List.filter_sublist).length_le
      rw [if_pos hkey]
      omega
    · have hnone : [i].filter (ofKey inputs length key) = [] :=
        List.filter_cons_of_neg (by simpa [ofKey] using hkey)
      rw [if_neg hkey, hnone]
      simpa using hcounted
  nodup := by
    rw [move_shared, List.nodup_append]
    refine ⟨h.nodup, List.nodup_singleton i, ?_⟩
    rintro a ha b hb rfl
    exact h.appending i hi (List.mem_singleton.1 hb ▸ ha)
  appended j hj := by
    rw [move_shared]
    by_cases hmoved : j = i
    · exact List.mem_append_right _ (List.mem_singleton.2 hmoved)
    · rw [move_point_of_ne s _ hmoved] at hj
      exact List.mem_append_left _ (h.appended j hj)
  appending j hj := by
    by_cases hmoved : j = i
    · rw [hmoved, move_point_self] at hj
      cases hj
    · rw [move_point_of_ne s _ hmoved] at hj
      rw [move_shared, List.mem_append, not_or, List.mem_singleton]
      exact ⟨h.appending j hj, hmoved⟩
  returned j counts hj := by
    by_cases hmoved : j = i
    · rw [hmoved, move_point_self] at hj
      cases hj
    · rw [move_point_of_ne s _ hmoved] at hj
      obtain ⟨hmem, hday, hminute⟩ := h.returned j counts hj
      rw [move_shared]
      exact ⟨List.mem_append_left _ hmem, hday.mono [i], hminute.mono [i]⟩

/-- A step that neither appends a call nor lets one return. -/
theorem Budgeted.move (h : Budgeted inputs s) {i : ι} {point : AttemptPoint} {text : JsString}
    (hpoint : point ≠ .appending ∧ point ≠ .counting ∧ ∀ counts, point ≠ .returned counts)
    (hsettled : Settled text)
    (hcounted : ∀ length key, attemptsOf length key (readJsonlLines s.shared.text) ≤
      attemptsOf length key (readJsonlLines text)) :
    Budgeted inputs (s.move i (point, { s.shared with text := text })) where
  settled := hsettled
  counted length key := (h.counted length key).trans (hcounted length key)
  nodup := h.nodup
  appended j hj := by
    by_cases hmoved : j = i
    · rw [hmoved, move_point_self] at hj
      exact absurd hj hpoint.2.1
    · rw [move_point_of_ne s _ hmoved] at hj
      exact h.appended j hj
  appending j hj := by
    by_cases hmoved : j = i
    · rw [hmoved, move_point_self] at hj
      exact absurd hj hpoint.1
    · rw [move_point_of_ne s _ hmoved] at hj
      exact h.appending j hj
  returned j counts hj := by
    by_cases hmoved : j = i
    · rw [hmoved, move_point_self] at hj
      exact absurd hj (hpoint.2.2 counts)
    · rw [move_point_of_ne s _ hmoved] at hj
      exact h.returned j counts hj

/-- A call that returns has counted its own day and minute within the limits. -/
theorem Budgeted.return (h : Budgeted inputs s) {i : ι} (hi : s.point i = .counting)
    {counts : OpenRouterAttemptCounts}
    (hcounts : counts = countOpenRouterAttempts (readJsonlLines s.shared.text) (inputs i).now.text)
    (hwithin : ¬ counts.exceeded) :
    Budgeted inputs (s.move i (.returned counts, s.shared)) where
  settled := h.settled
  counted := h.counted
  nodup := h.nodup
  appended j hj := by
    by_cases hmoved : j = i
    · rw [hmoved, move_point_self] at hj
      cases hj
    · rw [move_point_of_ne s _ hmoved] at hj
      exact h.appended j hj
  appending j hj := by
    by_cases hmoved : j = i
    · rw [hmoved, move_point_self] at hj
      cases hj
    · rw [move_point_of_ne s _ hmoved] at hj
      exact h.appending j hj
  returned j counts' hj := by
    by_cases hmoved : j = i
    · rw [hmoved, move_shared]
      have hmem := h.appended i hi
      rw [countOpenRouterAttempts_eq] at hcounts
      rw [hcounts, OpenRouterAttemptCounts.exceeded, not_or, Nat.not_lt, Nat.not_lt] at hwithin
      exact ⟨hmem, within_of_count hmem (h.counted 10 _) hwithin.1,
        within_of_count hmem (h.counted 16 _) hwithin.2⟩
    · rw [move_point_of_ne s _ hmoved] at hj
      exact h.returned j counts' hj

/-- Every unbroken step keeps the calls within the budget. -/
theorem Budgeted.step (h : Budgeted inputs s) {i : ι} {action : AttemptAction}
    {next : AttemptPoint × AttemptLedger ι} (hallowed : Unbroken inputs s i action)
    (hnext : attemptProgram inputs i action s = some next) : Budgeted inputs (s.move i next) := by
  rcases attemptProgram_cases hnext with ⟨hi, -, rfl⟩ | ⟨hi, written, rfl, rfl⟩ |
    ⟨hi, readable, counts, rfl, hcounts, rfl⟩
  · exact h.append hi
  · have hfailed : AttemptPoint.failed ≠ .appending ∧ AttemptPoint.failed ≠ .counting ∧
        ∀ counts, AttemptPoint.failed ≠ .returned counts := by simp
    rcases hallowed with hnothing | hall
    · rw [hnothing, List.take_zero, List.append_nil]
      exact h.move hfailed h.settled fun _ _ => le_rfl
    · rw [List.take_of_length_le hall]
      refine h.move hfailed (settled_append ..) fun length key => ?_
      rw [attemptsOf_append h.settled]
      exact Nat.le_add_right ..
  · obtain rfl : readable = true := hallowed
    rw [if_pos rfl] at hcounts
    by_cases hexceeded : counts.exceeded
    · rw [if_pos hexceeded]
      exact h.move (by simp) h.settled fun _ _ => le_rfl
    · rw [if_neg hexceeded]
      exact h.return hi hcounts hexceeded

/-- **The budget is kept.** When the ledger has no line begun and no append or reading breaks
off, however the calls are mixed, no more of them return than the limits of a day and of a
minute. -/
theorem attempt_budget_kept (inputs : ι → AttemptInput) (text : JsString) (hsettled : Settled text)
    (s : Parallel ι AttemptPoint (AttemptLedger ι))
    (hr : Run (attemptProgram inputs) (Unbroken inputs) (attemptStart text) s)
    (calls : List ι) (hcalls : calls.Nodup)
    (hreturned : ∀ i ∈ calls, ∃ counts, s.point i = .returned counts) :
    (∀ day, (∀ i ∈ calls, (inputs i).day = day) →
        calls.length ≤ openrouterFreeDailyAttemptLimit) ∧
      ∀ minute, (∀ i ∈ calls, (inputs i).minute = minute) →
        calls.length ≤ openrouterFreeMinuteAttemptLimit := by
  have h : Budgeted inputs s := hr.invariant
    (fun _ _ _ _ hs hallowed hnext => Budgeted.step hs hallowed hnext) (budgeted_start hsettled)
  refine ⟨fun day hday => ?_, fun minute hminute => ?_⟩
  · refine Admission.length_le (ofKey inputs 10 day) h.nodup hcalls fun i hi => ?_
    obtain ⟨counts, hpoint⟩ := hreturned i hi
    obtain ⟨hmem, hwithin, -⟩ := h.returned i counts hpoint
    rw [hday i hi] at hwithin
    exact ⟨hmem, decide_eq_true (hday i hi), hwithin⟩
  · refine Admission.length_le (ofKey inputs 16 minute) h.nodup hcalls fun i hi => ?_
    obtain ⟨counts, hpoint⟩ := hreturned i hi
    obtain ⟨hmem, -, hwithin⟩ := h.returned i counts hpoint
    rw [hminute i hi] at hwithin
    exact ⟨hmem, decide_eq_true (hminute i hi), hwithin⟩

end runs

/-! ### Calls one after the other -/

section turns

open Parallel

variable {ι : Type} [DecidableEq ι] (inputs : ι → AttemptInput)

/-- A call alone: it appends and counts. -/
theorem run_of_call {s : Parallel ι AttemptPoint (AttemptLedger ι)} {i : ι} (hi : s.point i = .appending)
    {counts : OpenRouterAttemptCounts}
    (hcounts : countOpenRouterAttempts (readJsonlLines (s.shared.text ++ (inputs i).line))
      (inputs i).now.text = counts)
    (hwithin : ¬ counts.exceeded) :
    Run (attemptProgram inputs) (Unbroken inputs) s (s.move i
      (.returned counts, ⟨s.shared.text ++ (inputs i).line, s.shared.appended ++ [i]⟩)) := by
  have hfirst : attemptProgram inputs i .append s = some (.counting,
      ⟨s.shared.text ++ (inputs i).line, s.shared.appended ++ [i]⟩) := by
    unfold attemptProgram
    rw [hi]
  refine (Run.step .refl i .append trivial hfirst).go (.count true) rfl ?_
  unfold attemptProgram
  rw [move_point_self]
  dsimp only
  rw [move_shared, if_pos rfl]
  dsimp only
  rw [hcounts, if_neg hwithin]

/-- Calls of one time that come one after the other all return while there is room. -/
theorem return_in_turn (now : Incidents.IsoTimestamp) (calls : List ι) (hcalls : calls.Nodup)
    (hnow : ∀ i ∈ calls, (inputs i).now = now)
    (s : Parallel ι AttemptPoint (AttemptLedger ι)) (hsettled : Settled s.shared.text)
    (hpoints : ∀ i ∈ calls, s.point i = .appending)
    (hday : attemptsOf 10 (now.text.take 10) (readJsonlLines s.shared.text) + calls.length ≤
      openrouterFreeDailyAttemptLimit)
    (hminute : attemptsOf 16 (now.text.take 16) (readJsonlLines s.shared.text) + calls.length ≤
      openrouterFreeMinuteAttemptLimit) :
    ∃ s', Run (attemptProgram inputs) (Unbroken inputs) s s' ∧
      (∀ i ∈ calls, ∃ counts, s'.point i = .returned counts) ∧
      ∀ j, j ∉ calls → s'.point j = s.point j := by
  induction calls generalizing s with
  | nil => exact ⟨s, .refl, fun i hi => absurd hi List.not_mem_nil, fun _ _ => rfl⟩
  | cons i calls ih =>
    rw [List.nodup_cons] at hcalls
    have hi : i ∈ i :: calls := List.mem_cons_self
    rw [List.length_cons] at hday hminute
    have happended (length : ℕ) := attemptsOf_append hsettled (inputs i) length
      (now.text.take length)
    rw [hnow i hi] at happended
    simp only [if_true] at happended
    have hwithin : ¬ (countOpenRouterAttempts (readJsonlLines (s.shared.text ++ (inputs i).line))
        (inputs i).now.text).exceeded := by
      rw [countOpenRouterAttempts_eq, hnow i hi, OpenRouterAttemptCounts.exceeded, happended 10,
        happended 16]
      dsimp only
      omega
    obtain ⟨counts, hcounts⟩ : ∃ counts, countOpenRouterAttempts
        (readJsonlLines (s.shared.text ++ (inputs i).line)) (inputs i).now.text = counts :=
      ⟨_, rfl⟩
    rw [hcounts] at hwithin
    have hfirst := run_of_call inputs (hpoints i hi) hcounts hwithin
    have hne {j : ι} (hj : j ∈ calls) : j ≠ i := by
      rintro rfl
      exact hcalls.1 hj
    obtain ⟨s', hrest, hreturned, hothers⟩ := ih hcalls.2
      (fun j hj => hnow j (List.mem_cons_of_mem i hj)) (s.move i (.returned counts,
        ⟨s.shared.text ++ (inputs i).line, s.shared.appended ++ [i]⟩)) (settled_append ..)
      (fun j hj => (move_point_of_ne s _ (hne hj)).trans (hpoints j (List.mem_cons_of_mem i hj)))
      (by rw [move_shared, happended 10]; omega) (by rw [move_shared, happended 16]; omega)
    refine ⟨s', hfirst.trans hrest, fun j hj => ?_, fun j hj => ?_⟩
    · rcases List.mem_cons.1 hj with rfl | hj
      · exact ⟨_, (hothers j hcalls.1).trans (move_point_self ..)⟩
      · exact hreturned j hj
    · rw [List.mem_cons, not_or] at hj
      rw [hothers j hj.2, move_point_of_ne s _ hj.1]

end turns

/-! ### A ledger that ends within a record -/

/-- An attempt of a worker. -/
def sampleInput : AttemptInput :=
  ⟨.qwen3CodeDraft, js "m", js "t", sampleTime⟩

/-- On a new ledger a call may return, and it is one call of its day and of its minute. -/
theorem attempt_budget_kept_sample :
    (∃ s : Parallel ℕ AttemptPoint (AttemptLedger ℕ),
      Parallel.Run (attemptProgram fun _ => sampleInput) (Unbroken fun _ => sampleInput)
          (attemptStart []) s ∧
        (∃ counts, s.point 0 = .returned counts)) ∧
      [0].length ≤ openrouterFreeMinuteAttemptLimit := by
  have hsettled : Settled [] := ⟨[], [], rfl, .inl rfl, fun c hc => absurd hc List.not_mem_nil⟩
  obtain ⟨s, hrun, hreturned, -⟩ := return_in_turn (fun _ => sampleInput) sampleInput.now [0]
    (List.nodup_singleton 0) (fun _ _ => rfl) (attemptStart []) hsettled (fun _ _ => rfl)
    (by decide) (by decide)
  refine ⟨⟨s, hrun, hreturned 0 List.mem_cons_self⟩, ?_⟩
  exact (attempt_budget_kept (fun _ => sampleInput) [] hsettled s hrun [0]
    (List.nodup_singleton 0) hreturned).2 sampleInput.minute fun _ _ => rfl

/-- The first attempt behind a record that breaks off is not counted, so that one more call
returns than the limit of a minute. -/
theorem attempt_budget_exceeded :
    ¬ ∀ (inputs : ℕ → AttemptInput) (text : JsString)
      (s : Parallel ℕ AttemptPoint (AttemptLedger ℕ)),
      Parallel.Run (attemptProgram inputs) (Unbroken inputs) (attemptStart text) s →
      ∀ calls : List ℕ, calls.Nodup → (∀ i ∈ calls, ∃ counts, s.point i = .returned counts) →
        (∀ day, (∀ i ∈ calls, (inputs i).day = day) →
          calls.length ≤ openrouterFreeDailyAttemptLimit) ∧
        ∀ minute, (∀ i ∈ calls, (inputs i).minute = minute) →
          calls.length ≤ openrouterFreeMinuteAttemptLimit := by
  intro h
  have hday : attemptsOf 10 (sampleInput.now.text.take 10)
      (readJsonlLines (js "\x7b" ++ sampleInput.line)) = 0 := by decide +kernel
  have hminute : attemptsOf 16 (sampleInput.now.text.take 16)
      (readJsonlLines (js "\x7b" ++ sampleInput.line)) = 0 := by decide +kernel
  have hcounts : countOpenRouterAttempts (readJsonlLines (js "\x7b" ++ sampleInput.line))
      sampleInput.now.text = ⟨0, 0, 1000, 20⟩ := by
    rw [countOpenRouterAttempts_eq, hday, hminute]
    rfl
  obtain ⟨start, hstart⟩ : ∃ start : Parallel ℕ AttemptPoint (AttemptLedger ℕ),
      start = attemptStart (js "\x7b") := ⟨_, rfl⟩
  have hfirst : Parallel.Run (attemptProgram fun _ => sampleInput) (Unbroken fun _ => sampleInput)
      start (start.move 0 (.returned ⟨0, 0, 1000, 20⟩,
        ⟨js "\x7b" ++ sampleInput.line, [0]⟩)) := by
    rw [hstart]
    exact run_of_call (fun _ => sampleInput) rfl hcounts (by decide)
  have hothers {i : ℕ} (hi : i ∈ List.range' 1 20) : i ≠ 0 := by
    have hpos := (List.mem_range'_1.1 hi).1
    omega
  obtain ⟨s, hrest, hreturned, hfirst'⟩ := return_in_turn (fun _ => sampleInput) sampleInput.now
    (List.range' 1 20) List.nodup_range' (fun _ _ => rfl)
    (start.move 0 (.returned ⟨0, 0, 1000, 20⟩, ⟨js "\x7b" ++ sampleInput.line, [0]⟩))
    (settled_append (js "\x7b") sampleInput)
    (fun i hi => (Parallel.move_point_of_ne start _ (hothers hi)).trans (by rw [hstart]; rfl))
    (by rw [Parallel.move_shared, hday]; decide) (by rw [Parallel.move_shared, hminute]; decide)
  have hnot : 0 ∉ List.range' 1 20 := fun hi => hothers hi rfl
  rw [hstart] at hfirst hrest
  have hbound := (h (fun _ => sampleInput) (js "\x7b") s (hfirst.trans hrest)
    (0 :: List.range' 1 20) (List.nodup_cons.2 ⟨hnot, List.nodup_range'⟩) fun i hi => ?_).2
    sampleInput.minute fun _ _ => rfl
  · exact absurd hbound (by decide)
  · rcases List.mem_cons.1 hi with rfl | hi
    · exact ⟨_, (hfirst' 0 hnot).trans (Parallel.move_point_self ..)⟩
    · exact hreturned i hi

end Autopilot.OpenRouterLedgers
