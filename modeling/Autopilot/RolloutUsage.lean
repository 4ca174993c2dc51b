/-
What a rollout log of Codex says of the tokens and the tools of a run.

A log has one event a line. The events of earlier turns are replayed at its head; what the run
itself has used begins at the first context of a turn. The counters of tokens are cumulative, so
what is counted is how far they move from the last replayed one. Calls of tools are counted in an
object, a property for each name.

This module is `summarizeCodexRolloutJsonl` (`codexRolloutEfficiency.ts`). Which number a decimal
is rounded to, the reading of times and their printing are parameters. A counter is the exact whole
number that the log has, as a double holds it up to 2^53.
-/
import Autopilot.LedgerRecords
import Autopilot.Lib.Readings
import Autopilot.Lib.Record
import Mathlib.Algebra.BigOperators.Group.List.Lemmas
import Mathlib.Data.List.Sort

set_option autoImplicit false

namespace Autopilot
namespace RolloutUsage

open JsonText (Decimal Value member)
open OpenRouterLedgers (EndsLine linesOf linesOf_append)
open Readings (sumDeltas)

/-! ## Usage -/

/-- `TokenUsage`. -/
@[ext] structure TokenUsage where
  inputTokens : ℕ
  cachedInputTokens : ℕ
  outputTokens : ℕ
  reasoningOutputTokens : ℕ
  deriving DecidableEq

namespace TokenUsage

/-- `ZERO_USAGE`. -/
instance : Zero TokenUsage := ⟨⟨0, 0, 0, 0⟩⟩

/-- `addUsage`. -/
instance : Add TokenUsage :=
  ⟨fun left right => ⟨left.inputTokens + right.inputTokens,
    left.cachedInputTokens + right.cachedInputTokens, left.outputTokens + right.outputTokens,
    left.reasoningOutputTokens + right.reasoningOutputTokens⟩⟩

/-- No field is greater. -/
instance : LE TokenUsage :=
  ⟨fun left right => left.inputTokens ≤ right.inputTokens ∧
    left.cachedInputTokens ≤ right.cachedInputTokens ∧ left.outputTokens ≤ right.outputTokens ∧
    left.reasoningOutputTokens ≤ right.reasoningOutputTokens⟩

/-- Field by field. -/
instance : Sub TokenUsage :=
  ⟨fun left right => ⟨left.inputTokens - right.inputTokens,
    left.cachedInputTokens - right.cachedInputTokens, left.outputTokens - right.outputTokens,
    left.reasoningOutputTokens - right.reasoningOutputTokens⟩⟩

instance : AddCommMonoid TokenUsage where
  add_assoc a b c := TokenUsage.ext (Nat.add_assoc _ _ _) (Nat.add_assoc _ _ _)
    (Nat.add_assoc _ _ _) (Nat.add_assoc _ _ _)
  zero_add a := TokenUsage.ext (Nat.zero_add _) (Nat.zero_add _) (Nat.zero_add _) (Nat.zero_add _)
  add_zero a := rfl
  add_comm a b := TokenUsage.ext (Nat.add_comm _ _) (Nat.add_comm _ _) (Nat.add_comm _ _)
    (Nat.add_comm _ _)
  nsmul := nsmulRec

end TokenUsage

/-- `counterDelta`. -/
def counterDelta (before after : ℕ) : ℕ := if before ≤ after then after - before else after

/-- `positiveDelta`. -/
def positiveDelta (before after : TokenUsage) : TokenUsage where
  inputTokens := counterDelta before.inputTokens after.inputTokens
  cachedInputTokens := counterDelta before.cachedInputTokens after.cachedInputTokens
  outputTokens := counterDelta before.outputTokens after.outputTokens
  reasoningOutputTokens := counterDelta before.reasoningOutputTokens after.reasoningOutputTokens

/-! ## Counts by name -/

/-- What a property of the counts holds: a number, or a text that something was appended to. -/
inductive CountValue where
  | number (n : ℕ)
  | text (s : JsString)
  deriving DecidableEq

abbrev ToolCallCounts := Record JsString CountValue

def protoName : JsString := js "__proto__"

/-- The functions that an object has without holding them. -/
def inheritedFunctions : List JsString :=
  ["constructor", "__defineGetter__", "__defineSetter__", "hasOwnProperty", "__lookupGetter__",
    "__lookupSetter__", "isPrototypeOf", "propertyIsEnumerable", "toString", "valueOf",
    "toLocaleString"].map js

/-- The property that an object has without holding it, as a text. -/
def inheritedText (name : JsString) : Option JsString :=
  if name = protoName then some (js "[object Object]")
  else if name ∈ inheritedFunctions then
    some (js "function " ++ (if name = js "constructor" then js "Object" else name) ++
      js "() \x7b [native code] \x7d")
  else none

/-- `(value ?? 0) + 1`, of what the object holds under the name or else has without holding it. -/
def incremented (counts : ToolCallCounts) (name : JsString) : CountValue :=
  match counts.get? name with
  | some (.number n) => .number (n + 1)
  | some (.text s) => .text (s ++ js "1")
  | none =>
    match inheritedText name with
    | some s => .text (s ++ js "1")
    | none => .number 1

/-- `toolCallCounts[name] = (toolCallCounts[name] ?? 0) + 1`: the prototype takes no text. -/
def countCall (counts : ToolCallCounts) (name : JsString) : ToolCallCounts :=
  if name = protoName then counts else counts.set name (incremented counts name)

/-- The index that a name is, if it is one: such names come first among the properties. -/
def arrayIndex? (name : JsString) : Option ℕ :=
  if name ≠ [] ∧ name.all JsonText.isDigit ∧ (name.head? = some 48 → name.length = 1) then
    let n := JsonText.digitsValue name
    if n < 2 ^ 32 - 1 then some n else none
  else none

/-- `Object.values`. -/
def objectValues (counts : ToolCallCounts) : List CountValue :=
  ((counts.entries.filterMap fun e => (arrayIndex? e.1).map fun n => (n, e.2)).insertionSort
    fun a b => a.1 ≤ b.1).map (·.2) ++
  (counts.entries.filter fun e => (arrayIndex? e.1).isNone).map (·.2)

/-- `sum + count`. -/
def addCount : CountValue → CountValue → CountValue
  | .number m, .number n => .number (m + n)
  | .number m, .text s => .text (decimal m ++ s)
  | .text s, .number n => .text (s ++ decimal n)
  | .text s, .text s' => .text (s ++ s')

/-- `sumCounts`. -/
def sumCounts (counts : ToolCallCounts) : CountValue :=
  (objectValues counts).foldl addCount (.number 0)

/-- `counts[name] ?? 0`. -/
def countOf (counts : ToolCallCounts) (name : JsString) : CountValue :=
  match counts.get? name with
  | some count => count
  | none => ((inheritedText name).map .text).getD (.number 0)

/-- `sumNamedCounts`. -/
def sumNamedCounts (counts : ToolCallCounts) (names : List JsString) : CountValue :=
  names.foldl (fun sum name => addCount sum (countOf counts name)) (.number 0)

/-! ## Events -/

/-- The number that a decimal is rounded to, and how times are read and printed. -/
structure RolloutHost where
  number : Decimal → JsNumber
  dateParse : JsString → Option ℤ
  isoText : ℤ → JsString

abbrev Members := List (JsString × Value)

/-- `ParsedEvent`. -/
structure ParsedEvent where
  index : ℕ
  value : Members

/-- `UsageCounter`. -/
structure UsageCounter where
  index : ℕ
  usage : TokenUsage

/-- The loop over the lines, from one of them on: the events, and how many lines are none. -/
def readEvents : ℕ → List JsString → List ParsedEvent × ℕ
  | _, [] => ([], 0)
  | index, line :: lines =>
    let rest := readEvents (index + 1) lines
    if trim line = [] then rest
    else
      match JsonText.parse line with
      | some (.object value) => (⟨index, value⟩ :: rest.1, rest.2)
      | _ => (rest.1, rest.2 + 1)

/-- `recordValue`. -/
def recordValue : Option Value → Option Members
  | some (.object members) => some members
  | _ => none

/-- The text that stands under a name. -/
def textOf (value : Members) (name : String) : Option JsString :=
  match member value (js name) with
  | some (.string text) => some text
  | _ => none

/-- `value.type === name`. -/
def isType (value : Members) (name : String) : Bool := textOf value "type" = some (js name)

def payloadOf (value : Members) : Option Members := recordValue (member value (js "payload"))

/-- `payload?.type === name`. -/
def isPayloadType (value : Members) (name : String) : Bool :=
  (payloadOf value).any fun payload => isType payload name

/-- The event is the context of a turn. -/
def isTurn (value : Members) : Bool := isType value "turn_context"

/-- The name of the tool that the event calls, if it is such a call. -/
def calledTool (value : Members) : Option JsString :=
  if !isType value "response_item" || !isPayloadType value "function_call" then none
  else
    match (payloadOf value).bind fun payload => textOf payload "name" with
    | some name => if name.length ≤ 128 then some name else some (js "unknown")
    | none => some (js "unknown")

section events

variable (host : RolloutHost)

/-- `nonNegativeInteger`. -/
def nonNegativeInteger : Option Value → ℕ
  | some (.number n) => safeCount (host.number n)
  | _ => 0

/-- `tokenUsage`. -/
def tokenUsage (value : Members) : TokenUsage where
  inputTokens := nonNegativeInteger host (member value (js "input_tokens"))
  cachedInputTokens := nonNegativeInteger host (member value (js "cached_input_tokens"))
  outputTokens := nonNegativeInteger host (member value (js "output_tokens"))
  reasoningOutputTokens := nonNegativeInteger host (member value (js "reasoning_output_tokens"))

/-- The counter that an event reads, if it reads one. -/
def counterOf (value : Members) : Option TokenUsage :=
  if !isType value "event_msg" || !isPayloadType value "token_count" then none
  else
    ((payloadOf value).bind fun payload =>
      (recordValue (member payload (js "info"))).bind fun info =>
        recordValue (member info (js "total_token_usage"))).map (tokenUsage host)

/-- `counters`. -/
def countersOf (events : List ParsedEvent) : List UsageCounter :=
  events.filterMap fun event => (counterOf host event.value).map fun usage => ⟨event.index, usage⟩

end events

/-- `firstTurnIndex`. -/
def firstTurnIndex (events : List ParsedEvent) : Option ℕ :=
  (events.find? fun event => isTurn event.value).map (·.index)

/-- `index < currentStart`: there is no start behind which something could lie. -/
def isReplayed (start : Option ℕ) (index : ℕ) : Bool := start.all fun start => index < start

/-- `index > currentStart`. -/
def isBehind (start : Option ℕ) (index : ℕ) : Bool := start.any fun start => start < index

/-- `sumPositiveCounterDeltas`. -/
def sumPositiveCounterDeltas (baseline : TokenUsage) (counters : List UsageCounter) : TokenUsage :=
  (counters.foldl
    (fun state counter => (counter.usage, state.2 + positiveDelta state.1 counter.usage))
    (baseline, 0)).2

section counters

variable (host : RolloutHost)

def replayCounters (events : List ParsedEvent) : List UsageCounter :=
  (countersOf host events).filter fun counter => isReplayed (firstTurnIndex events) counter.index

def currentCounters (events : List ParsedEvent) : List UsageCounter :=
  (countersOf host events).filter fun counter => isBehind (firstTurnIndex events) counter.index

/-- `baseline`. -/
def baselineOf (events : List ParsedEvent) : TokenUsage :=
  ((replayCounters host events).getLast?.map (·.usage)).getD 0

/-- `measured`. -/
def measuredUsage (events : List ParsedEvent) : TokenUsage :=
  sumPositiveCounterDeltas (baselineOf host events) (currentCounters host events)

end counters

/-- `currentEvents`. -/
def currentEvents (events : List ParsedEvent) : List ParsedEvent :=
  events.filter fun event => (firstTurnIndex events).any fun start => start ≤ event.index

/-- The tools that are called, call by call. -/
def calledTools (events : List ParsedEvent) : List JsString :=
  (currentEvents events).filterMap fun event => calledTool event.value

/-- `coverage`. -/
inductive Coverage where
  | estimated | insufficientEvidence
  deriving DecidableEq

/-- `RolloutEfficiencyEstimate`. -/
structure RolloutEfficiencyEstimate where
  source : JsString
  rootSessionId : Option JsString
  threadSource : JsString
  usage : TokenUsage
  tokenEvents : ℕ
  turnCount : ℕ
  toolCalls : CountValue
  toolCallCounts : ToolCallCounts
  subagentCalls : CountValue
  pollCalls : CountValue
  compactions : ℕ
  startedAt : Option JsString
  endedAt : Option JsString
  totalWallMs : Option ℤ
  replayEventsExcluded : ℕ
  parseErrors : ℕ
  coverage : Coverage

/-- The events of a log. -/
def eventsOf (text : JsString) : List ParsedEvent := (readEvents 0 (linesOf text)).1

/-- `summarizeCodexRolloutJsonl`. -/
def summarizeCodexRolloutJsonl (host : RolloutHost) (text source : JsString) :
    RolloutEfficiencyEstimate :=
  let events := eventsOf text
  let sessionPayload :=
    (events.find? fun event => isType event.value "session_meta").bind fun event =>
      payloadOf event.value
  let sessionText (name : String) := sessionPayload.bind fun payload => textOf payload name
  let currentCounters := currentCounters host events
  let currentEvents := currentEvents events
  let toolCallCounts := (calledTools events).foldl countCall .empty
  let timestamps := (events.filterMap fun event =>
    (textOf event.value "timestamp").bind host.dateParse).insertionSort (· ≤ ·)
  { source
    rootSessionId := (sessionText "session_id").or (sessionText "id")
    threadSource := ((sessionText "thread_source").or (sessionText "source")).getD (js "unknown")
    usage := measuredUsage host events
    tokenEvents := currentCounters.length
    turnCount := (currentEvents.filter fun event => isTurn event.value).length
    toolCalls := sumCounts toolCallCounts
    toolCallCounts
    subagentCalls := sumNamedCounts toolCallCounts [js "spawn_agent", js "followup_task"]
    pollCalls := sumNamedCounts toolCallCounts [js "wait", js "wait_agent", js "write_stdin"]
    compactions := (currentEvents.filter fun event => isType event.value "compacted" ||
      (isType event.value "event_msg" && isPayloadType event.value "context_compacted")).length
    startedAt := timestamps.head?.map host.isoText
    endedAt := timestamps.getLast?.map host.isoText
    totalWallMs :=
      match timestamps.head?, timestamps.getLast? with
      | some startedAt, some endedAt =>
        if timestamps.length < 2 then none else some (endedAt - startedAt)
      | _, _ => none
    replayEventsExcluded := (replayCounters host events).length
    parseErrors := (readEvents 0 (linesOf text)).2
    coverage :=
      if (firstTurnIndex events).isSome ∧ 0 < currentCounters.length then .estimated
      else .insufficientEvidence }

/-! ## The meter -/

/-- What is known behind some events: whether the run has begun, the last counter, and what the run
has used. -/
structure Meter where
  started : Bool
  last : TokenUsage
  total : TokenUsage

namespace Meter

/-- A meter that has seen nothing. -/
def fresh : Meter := ⟨false, 0, 0⟩

/-- The same place in a log, with nothing used so far. -/
def reset (m : Meter) : Meter := ⟨m.started, m.last, 0⟩

/-- What one event changes. -/
def observe (host : RolloutHost) (m : Meter) (value : Members) : Meter :=
  match counterOf host value with
  | some usage =>
    { m with
      last := usage
      total := if m.started then m.total + positiveDelta m.last usage else m.total }
  | none => if isTurn value then { m with started := true } else m

end Meter

section meter

variable {host : RolloutHost}

/-- The counters that some events read. -/
def usagesOf (host : RolloutHost) (values : List Members) : List TokenUsage :=
  values.filterMap (counterOf host)

theorem usagesOf_none {value : Members} (h : counterOf host value = none) (values : List Members) :
    usagesOf host (value :: values) = usagesOf host values := List.filterMap_cons_none h

theorem usagesOf_some {value : Members} {usage : TokenUsage}
    (h : counterOf host value = some usage) (values : List Members) :
    usagesOf host (value :: values) = usage :: usagesOf host values := List.filterMap_cons_some h

/-- The context of a turn reads no counter. -/
theorem counterOf_turn {value : Members} (h : isTurn value = true) :
    counterOf host value = none := by
  have hother : isType value "event_msg" = false := by
    unfold isTurn isType at h
    unfold isType
    rw [of_decide_eq_true h]
    decide
  unfold counterOf
  rw [hother]
  rfl

/-- A run that has begun adds up the differences of its counters. -/
theorem observe_started {m : Meter} (hstarted : m.started = true) (values : List Members) :
    values.foldl (Meter.observe host) m =
      ⟨true, (usagesOf host values).getLastD m.last,
        m.total + sumDeltas positiveDelta m.last (usagesOf host values)⟩ := by
  induction values generalizing m with
  | nil =>
    rw [List.foldl_nil, usagesOf, List.filterMap_nil, sumDeltas, add_zero, List.getLastD_nil,
      ← hstarted]
  | cons value values ih =>
    rw [List.foldl_cons]
    cases hcounter : counterOf host value with
    | none =>
      have hsame : m.observe host value = m := by
        unfold Meter.observe
        rw [hcounter]
        dsimp only
        split
        · rw [← hstarted]
        · rfl
      rw [hsame, ih hstarted, usagesOf_none hcounter]
    | some usage =>
      have hnext : m.observe host value = ⟨true, usage, m.total + positiveDelta m.last usage⟩ := by
        unfold Meter.observe
        rw [hcounter]
        dsimp only
        rw [hstarted, if_pos rfl]
      rw [hnext, ih rfl, usagesOf_some hcounter, List.getLastD_cons, sumDeltas, add_assoc]

/-- Before the run begins, only the last counter is kept. -/
theorem observe_replayed {m : Meter} (hstarted : m.started = false) {values : List Members}
    (hturns : ∀ value ∈ values, isTurn value = false) :
    values.foldl (Meter.observe host) m =
      ⟨false, (usagesOf host values).getLastD m.last, m.total⟩ := by
  induction values generalizing m with
  | nil => rw [List.foldl_nil, usagesOf, List.filterMap_nil, List.getLastD_nil, ← hstarted]
  | cons value values ih =>
    have hvalues := fun other hother => hturns other (List.mem_cons_of_mem value hother)
    rw [List.foldl_cons]
    cases hcounter : counterOf host value with
    | none =>
      have hsame : m.observe host value = m := by
        unfold Meter.observe
        rw [hcounter]
        dsimp only
        rw [hturns value List.mem_cons_self, if_neg Bool.false_ne_true]
      rw [hsame, ih hstarted hvalues, usagesOf_none hcounter]
    | some usage =>
      have hnext : m.observe host value = ⟨false, usage, m.total⟩ := by
        unfold Meter.observe
        rw [hcounter]
        dsimp only
        rw [hstarted, if_neg Bool.false_ne_true]
      rw [hnext, ih rfl hvalues, usagesOf_some hcounter, List.getLastD_cons]

/-- What a run adds does not depend on what was used before. -/
theorem observe_total (m : Meter) (values : List Members) :
    (values.foldl (Meter.observe host) m).total =
      m.total + (values.foldl (Meter.observe host) m.reset).total := by
  induction values generalizing m with
  | nil => exact (add_zero _).symm
  | cons value values ih =>
    rw [List.foldl_cons, List.foldl_cons, ih (m.observe host value)]
    unfold Meter.observe Meter.reset
    cases counterOf host value with
    | none =>
      dsimp only
      split
      · rfl
      · rfl
    | some usage =>
      dsimp only
      cases m.started with
      | false =>
        rw [if_neg Bool.false_ne_true, if_neg Bool.false_ne_true]
      | true =>
        rw [if_pos rfl, if_pos rfl, zero_add, add_assoc]
        congr 1
        exact (ih ⟨true, usage, positiveDelta m.last usage⟩).symm

/-! ### The lines and the events -/

theorem le_index {lines : List JsString} {index : ℕ} {event : ParsedEvent}
    (h : event ∈ (readEvents index lines).1) : index ≤ event.index := by
  induction lines generalizing index with
  | nil => cases h
  | cons line lines ih =>
    rw [readEvents] at h
    split at h
    · exact (Nat.le_succ index).trans (ih h)
    · split at h
      · rcases List.mem_cons.1 h with rfl | h
        · exact le_rfl
        · exact (Nat.le_succ index).trans (ih h)
      · exact (Nat.le_succ index).trans (ih h)

/-- The events stand in the order of their lines. -/
theorem events_ordered (index : ℕ) (lines : List JsString) :
    (readEvents index lines).1.Pairwise fun a b => a.index < b.index := by
  induction lines generalizing index with
  | nil => exact .nil
  | cons line lines ih =>
    rw [readEvents]
    split
    · exact ih _
    · split
      · exact List.pairwise_cons.2 ⟨fun event hevent => le_index hevent, ih _⟩
      · exact ih _

/-- What an event says does not depend on the number of its line. -/
theorem values_readEvents (index : ℕ) (lines : List JsString) :
    (readEvents index lines).1.map (·.value) = (readEvents 0 lines).1.map (·.value) := by
  induction lines generalizing index with
  | nil => rfl
  | cons line lines ih =>
    rw [readEvents, readEvents]
    split
    · rw [ih, ih (0 + 1)]
    · split
      · rw [List.map_cons, List.map_cons, ih, ih (0 + 1)]
      · rw [ih, ih (0 + 1)]

theorem readEvents_append (index : ℕ) (lines more : List JsString) :
    (readEvents index (lines ++ more)).1 =
      (readEvents index lines).1 ++ (readEvents (index + lines.length) more).1 := by
  induction lines generalizing index with
  | nil => rfl
  | cons line lines ih =>
    have hnext : index + (line :: lines).length = index + 1 + lines.length := by
      rw [List.length_cons]
      omega
    rw [List.cons_append, readEvents, readEvents, hnext]
    split
    · exact ih _
    · split
      · rw [List.cons_append, ih]
      · exact ih _

/-! ### The source and the meter -/

/-- The values of the events of a log. -/
def valuesOf (text : JsString) : List Members := (eventsOf text).map (·.value)

/-- Where a log leaves the meter. -/
def meterOf (host : RolloutHost) (text : JsString) : Meter :=
  (valuesOf text).foldl (Meter.observe host) .fresh

theorem usages_countersOf (events : List ParsedEvent) :
    (countersOf host events).map (·.usage) = usagesOf host (events.map (·.value)) := by
  unfold countersOf usagesOf
  rw [List.map_filterMap, List.filterMap_map]
  congr 1
  funext event
  show ((counterOf host event.value).map _).map _ = counterOf host event.value
  cases counterOf host event.value with
  | none => rfl
  | some usage => rfl

theorem sumPositiveCounterDeltas_eq (baseline : TokenUsage) (counters : List UsageCounter) :
    sumPositiveCounterDeltas baseline counters =
      sumDeltas positiveDelta baseline (counters.map (·.usage)) := by
  have hloop := Readings.foldl_deltas positiveDelta baseline 0 (counters.map (·.usage))
  rw [List.foldl_map] at hloop
  unfold sumPositiveCounterDeltas
  rw [hloop, zero_add]

theorem mem_countersOf {events : List ParsedEvent} {counter : UsageCounter}
    (h : counter ∈ countersOf host events) : ∃ event ∈ events, counter.index = event.index := by
  obtain ⟨event, hevent, hcounter⟩ := List.mem_filterMap.1 h
  obtain ⟨usage, -, rfl⟩ := Option.map_eq_some_iff.1 hcounter
  exact ⟨event, hevent, rfl⟩

/-- **The source reads what the meter shows.** -/
theorem counters_of_events {events : List ParsedEvent}
    (hordered : events.Pairwise fun a b => a.index < b.index) :
    let m := (events.map (·.value)).foldl (Meter.observe host) .fresh
    measuredUsage host events = m.total ∧
      m.last = ((currentCounters host events).map (·.usage)).getLastD (baselineOf host events) := by
  intro m
  have hbaseline (counters : List UsageCounter) :
      (counters.getLast?.map (·.usage)).getD 0 = (counters.map (·.usage)).getLastD 0 := by
    rw [List.getLastD_eq_getLast?, List.getLast?_map]
  cases hturn : events.find? fun event => isTurn event.value with
  | none =>
    have hfirst : firstTurnIndex events = none := by
      unfold firstTurnIndex
      rw [hturn]
      rfl
    have hturns : ∀ value ∈ events.map (·.value), isTurn value = false := by
      intro value hvalue
      obtain ⟨event, hevent, rfl⟩ := List.mem_map.1 hvalue
      exact Bool.eq_false_iff.2 (List.find?_eq_none.1 hturn event hevent)
    have hmeter : m = ⟨false, (usagesOf host (events.map (·.value))).getLastD 0, 0⟩ :=
      observe_replayed rfl hturns
    have hcurrent : currentCounters host events = [] := by
      unfold currentCounters
      rw [hfirst]
      exact List.filter_eq_nil_iff.2 fun counter _ => Bool.false_ne_true
    have hreplay : replayCounters host events = countersOf host events := by
      unfold replayCounters
      rw [hfirst]
      exact List.filter_eq_self.2 fun counter _ => rfl
    rw [hmeter]
    unfold measuredUsage baselineOf
    rw [hcurrent, hreplay, sumPositiveCounterDeltas_eq, hbaseline, usages_countersOf]
    exact ⟨rfl, rfl⟩
  | some turn =>
    obtain ⟨hisTurn, pre, post, rfl, hpre⟩ := List.find?_eq_some_iff_append.1 hturn
    have hfirst : firstTurnIndex (pre ++ turn :: post) = some turn.index := by
      unfold firstTurnIndex
      rw [hturn]
      rfl
    obtain ⟨-, hpost, hbefore⟩ := List.pairwise_append.1 hordered
    have hbehind := (List.pairwise_cons.1 hpost).1
    have hsplit : countersOf host (pre ++ turn :: post) =
        countersOf host pre ++ countersOf host post := by
      unfold countersOf
      rw [List.filterMap_append, List.filterMap_cons_none]
      rw [counterOf_turn hisTurn]
      rfl
    have hcurrent : currentCounters host (pre ++ turn :: post) = countersOf host post := by
      unfold currentCounters
      rw [hfirst, hsplit, List.filter_append, List.filter_eq_nil_iff.2, List.filter_eq_self.2,
        List.nil_append]
      · intro counter hcounter
        obtain ⟨event, hevent, hindex⟩ := mem_countersOf hcounter
        exact decide_eq_true (hindex ▸ hbehind event hevent)
      · intro counter hcounter
        obtain ⟨event, hevent, hindex⟩ := mem_countersOf hcounter
        have hlt := hbefore event hevent turn List.mem_cons_self
        show ¬decide (turn.index < counter.index) = true
        rw [decide_eq_true_eq]
        omega
    have hreplay : replayCounters host (pre ++ turn :: post) = countersOf host pre := by
      unfold replayCounters
      rw [hfirst, hsplit, List.filter_append, List.filter_eq_self.2, List.filter_eq_nil_iff.2,
        List.append_nil]
      · intro counter hcounter
        obtain ⟨event, hevent, hindex⟩ := mem_countersOf hcounter
        have hlt := hbehind event hevent
        show ¬decide (counter.index < turn.index) = true
        rw [decide_eq_true_eq]
        omega
      · intro counter hcounter
        obtain ⟨event, hevent, hindex⟩ := mem_countersOf hcounter
        exact decide_eq_true (hindex ▸ hbefore event hevent turn List.mem_cons_self)
    have hturns : ∀ value ∈ pre.map (·.value), isTurn value = false := by
      intro value hvalue
      obtain ⟨event, hevent, rfl⟩ := List.mem_map.1 hvalue
      simpa using hpre event hevent
    have hmeter : m = ⟨true, (usagesOf host (post.map (·.value))).getLastD
        ((usagesOf host (pre.map (·.value))).getLastD 0),
        0 + sumDeltas positiveDelta ((usagesOf host (pre.map (·.value))).getLastD 0)
          (usagesOf host (post.map (·.value)))⟩ := by
      have hstart : (Meter.mk false ((usagesOf host (pre.map (·.value))).getLastD 0) 0).observe host
          turn.value = ⟨true, (usagesOf host (pre.map (·.value))).getLastD 0, 0⟩ := by
        unfold Meter.observe
        rw [counterOf_turn hisTurn]
        dsimp only
        rw [if_pos hisTurn]
      show List.foldl _ _ _ = _
      rw [List.map_append, List.foldl_append, List.map_cons, List.foldl_cons,
        observe_replayed rfl hturns]
      show List.foldl _ ((Meter.mk false ((usagesOf host (pre.map (·.value))).getLastD 0) 0).observe
        host turn.value) _ = _
      rw [hstart, observe_started rfl]
    rw [hmeter]
    unfold measuredUsage baselineOf
    rw [hcurrent, hreplay, sumPositiveCounterDeltas_eq, hbaseline, usages_countersOf,
      usages_countersOf]
    exact ⟨(zero_add _).symm, rfl⟩

end meter

/-! ## What the usage is -/

section usage

variable {host : RolloutHost} {text : JsString}

/-- The last counter of a log. -/
def lastCounter (host : RolloutHost) (events : List ParsedEvent) : TokenUsage :=
  ((countersOf host events).getLast?.map (·.usage)).getD 0

/-- From the last replayed counter on, the counters never decrease. -/
def NeverDecreases (host : RolloutHost) (events : List ParsedEvent) : Prop :=
  (baselineOf host events :: (currentCounters host events).map (·.usage)).IsChain (· ≤ ·)

/-- What further lines of a log use, measured from where the log stands. -/
def furtherUsage (host : RolloutHost) (text more : JsString) : TokenUsage :=
  ((valuesOf more).foldl (Meter.observe host) (meterOf host text).reset).total

theorem observe_last (m : Meter) (values : List Members) :
    (values.foldl (Meter.observe host) m).last = (usagesOf host values).getLastD m.last := by
  induction values generalizing m with
  | nil => rfl
  | cons value values ih =>
    rw [List.foldl_cons, ih]
    unfold Meter.observe
    cases hcounter : counterOf host value with
    | none =>
      rw [usagesOf_none hcounter]
      dsimp only
      split
      · rfl
      · rfl
    | some usage => rw [usagesOf_some hcounter, List.getLastD_cons]

theorem counterDelta_le {before after : ℕ} (h : before ≤ after) :
    before + counterDelta before after = after := by
  unfold counterDelta
  rw [if_pos h]
  omega

theorem positiveDelta_le (before after : TokenUsage) (h : before ≤ after) :
    before + positiveDelta before after = after :=
  TokenUsage.ext (counterDelta_le h.1) (counterDelta_le h.2.1) (counterDelta_le h.2.2.1)
    (counterDelta_le h.2.2.2)

theorem TokenUsage.eq_sub {a b c : TokenUsage} (h : a + b = c) : b = c - a := by
  subst h
  exact TokenUsage.ext (Nat.add_sub_cancel_left ..).symm (Nat.add_sub_cancel_left ..).symm
    (Nat.add_sub_cancel_left ..).symm (Nat.add_sub_cancel_left ..).symm

/-- The last counter is the last one of the run, or else the last replayed one. -/
theorem lastCounter_eq {events : List ParsedEvent}
    (hordered : events.Pairwise fun a b => a.index < b.index) :
    ((currentCounters host events).map (·.usage)).getLastD (baselineOf host events) =
      lastCounter host events := by
  have hmeter : ((events.map (·.value)).foldl (Meter.observe host) .fresh).last = _ :=
    observe_last .fresh (events.map (·.value))
  rw [(counters_of_events hordered).2, ← usages_countersOf] at hmeter
  unfold lastCounter
  rw [hmeter, List.getLastD_eq_getLast?, List.getLast?_map]
  rfl

/-- **The usage telescopes.** -/
theorem usage_telescopes (source : JsString) (h : NeverDecreases host (eventsOf text)) :
    (summarizeCodexRolloutJsonl host text source).usage =
      lastCounter host (eventsOf text) - baselineOf host (eventsOf text) := by
  have htelescope := Readings.add_sumDeltas positiveDelta positiveDelta_le h
  have hordered : (eventsOf text).Pairwise fun a b => a.index < b.index := events_ordered 0 _
  rw [lastCounter_eq hordered] at htelescope
  show measuredUsage host (eventsOf text) = _
  unfold measuredUsage
  rw [sumPositiveCounterDeltas_eq]
  exact TokenUsage.eq_sub htelescope

theorem valuesOf_append (h : EndsLine text) (more : JsString) :
    valuesOf (text ++ more) = valuesOf text ++ valuesOf more := by
  obtain ⟨lines, -, hlines, happend⟩ := linesOf_append h
  have hblank (index : ℕ) : (readEvents index [[]]).1 = [] := rfl
  unfold valuesOf eventsOf
  rw [happend, hlines, readEvents_append, readEvents_append, hblank, List.append_nil,
    List.map_append, values_readEvents (0 + lines.length)]

/-- **What further lines add.** -/
theorem usage_append (h : EndsLine text) (more source : JsString) :
    (summarizeCodexRolloutJsonl host (text ++ more) source).usage =
      (summarizeCodexRolloutJsonl host text source).usage + furtherUsage host text more := by
  have hmeasured (log : JsString) : measuredUsage host (eventsOf log) = (meterOf host log).total :=
    (counters_of_events (events_ordered 0 (linesOf log))).1
  show measuredUsage host (eventsOf (text ++ more)) = measuredUsage host (eventsOf text) + _
  rw [hmeasured, hmeasured]
  unfold meterOf furtherUsage
  rw [valuesOf_append h, List.foldl_append]
  exact observe_total _ _

end usage

/-! ## What the counts are -/

section counts

/-- The name is that of a property that every object has without holding it. -/
def isInherited (name : JsString) : Bool := (inheritedText name).isSome

def CountValue.isText : CountValue → Bool
  | .number _ => false
  | .text _ => true

/-- The number that a count is, and zero for a text. -/
def CountValue.amount : CountValue → ℕ
  | .number n => n
  | .text _ => 0

/-- What the counts hold behind some calls. -/
structure Counts (names : List JsString) (counts : ToolCallCounts) : Prop where
  kind : ∀ name count, counts.get? name = some count → count.isText = isInherited name
  held : ∀ name ∈ names, name ≠ protoName → ∃ count, counts.get? name = some count
  called : ∀ name count, counts.get? name = some count → name ∈ names
  total : counts.sum CountValue.amount = (names.filter fun name => !isInherited name).length

theorem isInherited_proto : isInherited protoName = true := by
  unfold isInherited inheritedText
  rw [if_pos rfl]
  rfl

variable {names : List JsString} {counts : ToolCallCounts}

theorem incremented_isText (h : Counts names counts) (name : JsString) :
    (incremented counts name).isText = isInherited name := by
  unfold incremented
  cases hget : counts.get? name with
  | none =>
    dsimp only
    unfold isInherited
    cases inheritedText name with
    | none => rfl
    | some s => rfl
  | some count =>
    rw [← h.kind name count hget]
    cases count with
    | number n => rfl
    | text s => rfl

/-- A call adds one to the numbers, unless its name is inherited. -/
theorem sum_countCall (h : Counts names counts) (name : JsString) :
    (counts.set name (incremented counts name)).sum CountValue.amount =
      counts.sum CountValue.amount + if isInherited name then 0 else 1 := by
  rw [Record.sum_set]
  have hkind := incremented_isText h name
  cases hget : counts.get? name with
  | none =>
    rw [Record.erase_of_get?_none hget]
    unfold incremented at hkind ⊢
    rw [hget] at hkind ⊢
    dsimp only at hkind ⊢
    rw [← hkind]
    cases inheritedText name with
    | none => exact Nat.add_comm _ _
    | some s => exact Nat.add_comm _ _
  | some count =>
    rw [Record.sum_eq_add_erase hget]
    unfold incremented at hkind ⊢
    rw [hget] at hkind ⊢
    cases count with
    | number n =>
      dsimp only at hkind ⊢
      rw [← hkind]
      show n + 1 + _ = n + _ + 1
      omega
    | text s =>
      dsimp only at hkind ⊢
      rw [← hkind]
      rfl

/-- **What one call of a tool does to the counts.** -/
theorem Counts.countCall (h : Counts names counts) (name : JsString) :
    Counts (names ++ [name]) (countCall counts name) := by
  unfold RolloutUsage.countCall
  have hfilter : ((names ++ [name]).filter fun other => !isInherited other).length =
      (names.filter fun other => !isInherited other).length +
        if isInherited name then 0 else 1 := by
    rw [List.filter_append, List.length_append]
    cases hinherited : isInherited name with
    | false =>
      rw [List.filter_cons_of_pos (by rw [hinherited]; rfl)]
      rfl
    | true =>
      rw [List.filter_cons_of_neg (by rw [hinherited]; exact Bool.false_ne_true)]
      rfl
  by_cases hname : name = protoName
  · rw [if_pos hname]
    refine ⟨h.kind, fun other hother hne => ?_, fun other count hcount => ?_, ?_⟩
    · rcases List.mem_append.1 hother with hother | hother
      · exact h.held other hother hne
      · exact absurd ((List.mem_singleton.1 hother).trans hname) hne
    · exact List.mem_append_left _ (h.called other count hcount)
    · rw [hfilter, hname, isInherited_proto, if_pos rfl]
      exact h.total
  · rw [if_neg hname]
    refine ⟨fun other count hcount => ?_, fun other hother hne => ?_,
      fun other count hcount => ?_, ?_⟩
    · rcases Record.get?_set_cases hcount with ⟨rfl, rfl⟩ | hcount
      · exact incremented_isText h _
      · exact h.kind other count hcount
    · rw [Record.get?_set]
      split
      · exact ⟨_, rfl⟩
      · rename_i hother'
        rcases List.mem_append.1 hother with hother | hother
        · exact h.held other hother hne
        · exact absurd (List.mem_singleton.1 hother) hother'
    · rcases Record.get?_set_cases hcount with ⟨rfl, -⟩ | hcount
      · exact List.mem_append_right _ List.mem_cons_self
      · exact List.mem_append_left _ (h.called other count hcount)
    · rw [sum_countCall h name, h.total, hfilter]

theorem counts_run (names : List JsString) : Counts names (names.foldl countCall .empty) := by
  induction names using List.reverseRecOn with
  | nil =>
    refine ⟨fun name count h => ?_, fun name h => ?_, fun name count h => ?_, rfl⟩
    · cases h
    · cases h
    · cases h
  | append_singleton names name ih =>
    rw [List.foldl_append]
    exact ih.countCall name

/-! ### Their sum -/

theorem objectValues_perm (counts : ToolCallCounts) :
    (objectValues counts).Perm counts.values := by
  have hindexed : (counts.entries.filterMap fun e => (arrayIndex? e.1).map fun n => (n, e.2)).map
      (·.2) = (counts.entries.filter fun e => (arrayIndex? e.1).isSome).map (·.2) := by
    induction counts.entries with
    | nil => rfl
    | cons e entries ih =>
      rw [List.filterMap_cons, List.filter_cons]
      cases hindex : arrayIndex? e.1 with
      | none => simpa [hindex] using ih
      | some n => simpa [hindex] using ih
  have hparts := (List.filter_append_perm (fun e => (arrayIndex? e.1).isSome)
    counts.entries).map (·.2)
  unfold objectValues Record.values
  have hsorted := (List.perm_insertionSort (fun a b : ℕ × CountValue => a.1 ≤ b.1)
    (counts.entries.filterMap fun e => (arrayIndex? e.1).map fun n => (n, e.2))).map Prod.snd
  refine (hsorted.append_right _).trans ?_
  rw [hindexed, ← List.map_append]
  refine List.Perm.trans ?_ hparts
  rw [show (fun e : JsString × CountValue => (arrayIndex? e.1).isNone) =
    fun e => !(arrayIndex? e.1).isSome from funext fun e => by cases arrayIndex? e.1 <;> rfl]

theorem foldl_addCount_numbers {values : List CountValue} (h : ∀ v ∈ values, v.isText = false)
    (n : ℕ) : values.foldl addCount (.number n) =
      .number (n + (values.map CountValue.amount).sum) := by
  induction values generalizing n with
  | nil => rfl
  | cons v values ih =>
    have hv := h v List.mem_cons_self
    have ih := ih fun w hw => h w (List.mem_cons_of_mem _ hw)
    cases v with
    | number m =>
      rw [List.foldl_cons, addCount, ih, List.map_cons, List.sum_cons, Nat.add_assoc]
      rfl
    | text s => cases hv

/-- A sum with a text in it is a text. -/
theorem foldl_addCount_text {values : List CountValue} {sum : CountValue}
    (h : sum.isText = true ∨ ∃ v ∈ values, v.isText = true) :
    (values.foldl addCount sum).isText = true := by
  induction values generalizing sum with
  | nil =>
    rcases h with h | ⟨v, hv, -⟩
    · exact h
    · cases hv
  | cons v values ih =>
    rw [List.foldl_cons]
    have hsum (h : sum.isText = true ∨ v.isText = true) : (addCount sum v).isText = true := by
      cases sum with
      | number m =>
        cases v with
        | number n => exact h.elim id id
        | text s => rfl
      | text s =>
        cases v with
        | number n => rfl
        | text s' => rfl
    rcases h with h | ⟨w, hw, htext⟩
    · exact ih (.inl (hsum (.inl h)))
    · rcases List.mem_cons.1 hw with rfl | hw
      · exact ih (.inl (hsum (.inr htext)))
      · exact ih (.inr ⟨w, hw, htext⟩)

/-- **When the sum of the counts is the number of calls.** -/
theorem sumCounts_iff (names : List JsString) :
    sumCounts (names.foldl countCall .empty) = .number names.length ↔
      ∀ name ∈ names, isInherited name = false := by
  have hcounts := counts_run names
  have hperm := objectValues_perm (names.foldl countCall .empty)
  unfold sumCounts
  constructor
  · intro hsum name hname
    by_contra hinherited
    rw [Bool.not_eq_false] at hinherited
    by_cases htexts : ∃ v ∈ objectValues (names.foldl countCall .empty), v.isText = true
    · have htext : (List.foldl addCount (.number 0) _).isText = true :=
        foldl_addCount_text (.inr htexts)
      rw [hsum] at htext
      cases htext
    -- no text is held, so the prototype was called, and its calls are lost
    · have hnumbers : ∀ v ∈ objectValues (names.foldl countCall .empty), v.isText = false :=
        fun v hv => Bool.eq_false_iff.2 fun htext => htexts ⟨v, hv, htext⟩
      rw [foldl_addCount_numbers hnumbers, CountValue.number.injEq, Nat.zero_add,
        (hperm.map CountValue.amount).sum_eq] at hsum
      have htotal := hcounts.total
      unfold Record.sum at htotal
      rw [hsum] at htotal
      have hall := List.length_filter_eq_length_iff.1 htotal.symm name hname
      rw [hinherited] at hall
      cases hall
  · intro hplain
    have hnumbers : ∀ v ∈ objectValues (names.foldl countCall .empty), v.isText = false := by
      intro v hv
      obtain ⟨name, hget⟩ := (Record.mem_values_iff _ v).1 (hperm.mem_iff.1 hv)
      rw [hcounts.kind name v hget]
      exact hplain name (hcounts.called name v hget)
    have htotal := hcounts.total
    unfold Record.sum at htotal
    rw [foldl_addCount_numbers hnumbers, Nat.zero_add, (hperm.map CountValue.amount).sum_eq,
      htotal, List.filter_eq_self.2 fun name hname => by rw [hplain name hname]; rfl]

/-- How often each name is called, taken together, is how many calls there are. -/
theorem sum_counts (names : List JsString) :
    (names.dedup.map fun name => names.count name).sum = names.length := by
  have hbeq : (List.instBEq : BEq JsString) = instBEqOfDecidableEq :=
    lawful_beq_subsingleton _ _
  have hsum := List.sum_map_count_dedup_eq_length names
  rwa [← hbeq] at hsum

end counts

/-- **What a summary says of a rollout.** The usage of a log telescopes, and further lines add what
they use; and the number of calls is the sum of how often each tool is called if and only if no
tool has the name of a property that every object has. -/
theorem summary_iff (host : RolloutHost) (text source : JsString) :
    ((NeverDecreases host (eventsOf text) →
        (summarizeCodexRolloutJsonl host text source).usage =
          lastCounter host (eventsOf text) - baselineOf host (eventsOf text)) ∧
      (EndsLine text → ∀ more, (summarizeCodexRolloutJsonl host (text ++ more) source).usage =
        (summarizeCodexRolloutJsonl host text source).usage + furtherUsage host text more) ∧
      (summarizeCodexRolloutJsonl host text source).toolCalls =
        .number ((calledTools (eventsOf text)).dedup.map fun name =>
          (calledTools (eventsOf text)).count name).sum) ↔
    ∀ name ∈ calledTools (eventsOf text), isInherited name = false := by
  rw [sum_counts]
  have hcalls : (summarizeCodexRolloutJsonl host text source).toolCalls =
      sumCounts ((calledTools (eventsOf text)).foldl countCall .empty) := rfl
  rw [hcalls, sumCounts_iff]
  constructor
  · exact fun h => h.2.2
  · exact fun h => ⟨usage_telescopes source, fun hends more => usage_append hends more source, h⟩

def sampleHost : RolloutHost := ⟨fun _ => .ofNat 0, fun _ => none, fun _ => []⟩

/-- A turn with a call of the tool `valueOf`. -/
def sampleLog : JsString :=
  js "\x7b\"type\":\"turn_context\"\x7d\n" ++
    js "\x7b\"type\":\"response_item\",\"payload\":" ++
    js "\x7b\"type\":\"function_call\",\"name\":\"valueOf\"\x7d\x7d"

/-- The number of calls is a text. -/
theorem toolCalls_counterexample :
    ¬∀ (host : RolloutHost) (text source : JsString),
      (summarizeCodexRolloutJsonl host text source).toolCalls =
        .number ((calledTools (eventsOf text)).dedup.map fun name =>
          (calledTools (eventsOf text)).count name).sum := by
  intro hall
  have htext : (summarizeCodexRolloutJsonl sampleHost sampleLog []).toolCalls.isText = true := by
    decide +kernel
  rw [hall sampleHost sampleLog []] at htext
  cases htext

end RolloutUsage
end Autopilot
