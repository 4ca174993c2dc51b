/-
The ledgers of the hooks: `autopilot-hook.mjs`.

A hook appends a line to a ledger and then looks at its size. Where the ledger is too
large the hook reads it, keeps the newest records, and puts a file with them in its
place. Nothing keeps another hook from appending between the two. The event ledger,
the investigation queue and the agent registry go through the same steps.

The shared state is the ledger, with the order of the appends that completed beside it,
which no step reads.
-/
import Autopilot.Js
import Autopilot.Lib.Interleaving
import Autopilot.Lib.Recent

set_option autoImplicit false

namespace Autopilot.HookLedgers

open Parallel

def maxLedgerEntries : ℕ := 200
def maxLedgerBytes : ℕ := 256 * 1024

/-- A line with the JSON text of a record. -/
structure LedgerLine where
  text : JsString
  nonempty : text ≠ []

/-- The bytes of a file of lines. -/
def ledgerSize (lines : List JsString) : ℕ := (lines.map fun line => utf8Length line + 1).sum

/-- The lines of a file that are not empty. -/
def filled (lines : List JsString) : List JsString := lines.filter (· ≠ [])

/-- The lines `trimJsonlIfNeeded` keeps. -/
def trimmed (lines : List JsString) : List JsString :=
  (filled lines).drop ((filled lines).length - maxLedgerEntries)

/-- Where a hook is with its record. -/
inductive LedgerPoint where
  | appending
  /-- The record is in the ledger, and its size is looked at. -/
  | checking
  | reading
  /-- The lines that were read, and how many records had been appended then. -/
  | replacing (read : List JsString) (appended : ℕ)
  | returned
  | failed

inductive LedgerAction where
  | proceed
  /-- The access to the file fails, or the process dies. -/
  | fail

/-- A ledger, and who has appended to it so far. -/
structure Ledger (ι : Type) where
  lines : List JsString
  appended : List ι

section program

variable {ι : Type} (records : ι → LedgerLine)

/-- `record`, `recordInvestigation` and `appendAgentRegistryEntry`, each with
`trimJsonlIfNeeded` after its append. -/
def ledgerProgram : Program ι LedgerPoint (Ledger ι) LedgerAction := fun i action s =>
  match s.point i, action with
  | .appending, .proceed =>
    some (.checking, ⟨s.shared.lines ++ [(records i).text], s.shared.appended ++ [i]⟩)
  | .checking, .proceed =>
    if ledgerSize s.shared.lines ≤ maxLedgerBytes then some (.returned, s.shared)
    else some (.reading, s.shared)
  | .reading, .proceed =>
    some (.replacing s.shared.lines s.shared.appended.length, s.shared)
  | .replacing read _, .proceed => some (.returned, { s.shared with lines := trimmed read })
  | .appending, .fail | .checking, .fail | .reading, .fail | .replacing .., .fail =>
    some (.failed, s.shared)
  | _, _ => none

/-- Nothing was appended since the ledger was read, where the ledger is replaced. -/
def Unappended (s : Parallel ι LedgerPoint (Ledger ι)) (i : ι) (_ : LedgerAction) : Prop :=
  ∀ read appended, s.point i = .replacing read appended → s.shared.appended.length = appended

/-- Every record there ever was in the ledger, from the oldest to the newest. -/
def everything (start : List JsString) (order : List ι) : List JsString :=
  filled start ++ order.map fun i => (records i).text

/-- The ledger has the end of everything, and so has what a hook has read of it. -/
structure Ends (start : List JsString) (s : Parallel ι LedgerPoint (Ledger ι)) : Prop where
  ledger : Recent maxLedgerEntries (everything records start s.shared.appended)
    (filled s.shared.lines)
  read : ∀ i read appended, s.point i = .replacing read appended →
    appended ≤ s.shared.appended.length ∧
      Recent maxLedgerEntries (everything records start (s.shared.appended.take appended))
        (filled read)
  /-- A hook that has appended is in the order. -/
  appended : ∀ i, i ∈ s.shared.appended ∨ s.point i = .appending ∨ s.point i = .failed

variable {start : List JsString} {s : Parallel ι LedgerPoint (Ledger ι)}

theorem filled_append (lines : List JsString) (i : ι) :
    filled (lines ++ [(records i).text]) = filled lines ++ [(records i).text] := by
  unfold filled
  rw [List.filter_append, List.filter_singleton]
  simp [(records i).nonempty]

theorem filled_trimmed (lines : List JsString) : filled (trimmed lines) = trimmed lines := by
  unfold filled trimmed
  rw [List.filter_eq_self]
  intro line hline
  exact (List.mem_filter.1 (List.mem_of_mem_drop hline)).2

theorem everything_append (order : List ι) (i : ι) :
    everything records start (order ++ [i])
      = everything records start order ++ [(records i).text] := by
  unfold everything
  rw [List.map_append, ← List.append_assoc]
  rfl

/-- A hook that is past its append is in the order. -/
theorem Ends.ordered (he : Ends records start s) {i : ι} (happending : s.point i ≠ .appending)
    (hfailed : s.point i ≠ .failed) : i ∈ s.shared.appended := by
  rcases he.appended i with h | h | h
  · exact h
  · exact absurd h happending
  · exact absurd h hfailed

variable [DecidableEq ι]

/-- A step that leaves the ledger alone, and reads nothing. -/
theorem Ends.look (he : Ends records start s) {i : ι} {point : LedgerPoint}
    (hpoint : ∀ read appended, point ≠ .replacing read appended)
    (happended : i ∈ s.shared.appended ∨ point = .failed) :
    Ends records start (s.move i (point, s.shared)) where
  ledger := he.ledger
  read j read appended hj := by
    by_cases hmoved : j = i
    · subst hmoved
      rw [move_point_self] at hj
      exact absurd hj (hpoint read appended)
    · rw [move_point_of_ne s _ hmoved] at hj
      exact he.read j read appended hj
  appended j := by
    by_cases hmoved : j = i
    · subst hmoved
      rw [move_point_self]
      exact happended.imp_right .inr
    · rw [move_point_of_ne s _ hmoved]
      exact he.appended j

/-- A record is appended. -/
theorem Ends.append (he : Ends records start s) (i : ι) :
    Ends records start (s.move i (.checking,
      ⟨s.shared.lines ++ [(records i).text], s.shared.appended ++ [i]⟩)) where
  ledger := by
    rw [move_shared, filled_append, everything_append]
    exact he.ledger.append _
  read j read appended hj := by
    by_cases hmoved : j = i
    · subst hmoved
      rw [move_point_self] at hj
      cases hj
    · rw [move_point_of_ne s _ hmoved] at hj
      obtain ⟨hle, hread⟩ := he.read j read appended hj
      rw [move_shared]
      refine ⟨?_, ?_⟩
      · rw [List.length_append]
        omega
      · rwa [List.take_append_of_le_length hle]
  appended j := by
    by_cases hmoved : j = i
    · subst hmoved
      exact .inl (List.mem_append_right _ (List.mem_singleton.2 rfl))
    · rw [move_point_of_ne s _ hmoved]
      exact (he.appended j).imp_left fun h => List.mem_append_left _ h

/-- The ledger is read. -/
theorem Ends.reads (he : Ends records start s) {i : ι} (hi : s.point i = .reading) :
    Ends records start (s.move i
      (.replacing s.shared.lines s.shared.appended.length, s.shared)) where
  ledger := he.ledger
  read j read appended hj := by
    by_cases hmoved : j = i
    · subst hmoved
      rw [move_point_self] at hj
      obtain ⟨rfl, rfl⟩ := LedgerPoint.replacing.inj hj
      refine ⟨le_rfl, ?_⟩
      rw [move_shared, List.take_length]
      exact he.ledger
    · rw [move_point_of_ne s _ hmoved] at hj
      exact he.read j read appended hj
  appended j := by
    by_cases hmoved : j = i
    · subst hmoved
      exact .inl (he.ordered records (by rw [hi]; simp) (by rw [hi]; simp))
    · rw [move_point_of_ne s _ hmoved]
      exact he.appended j

/-- The newest records take the place of the ledger they were read from. -/
theorem Ends.replace (he : Ends records start s) {i : ι} {read : List JsString}
    (hi : s.point i = .replacing read s.shared.appended.length) :
    Ends records start (s.move i (.returned, { s.shared with lines := trimmed read })) where
  ledger := by
    obtain ⟨-, hread⟩ := he.read i read _ hi
    rw [List.take_length] at hread
    rw [move_shared, filled_trimmed]
    exact hread.cut
  read j read appended hj := by
    by_cases hmoved : j = i
    · subst hmoved
      rw [move_point_self] at hj
      cases hj
    · rw [move_point_of_ne s _ hmoved] at hj
      rw [move_shared]
      exact he.read j read appended hj
  appended j := by
    rw [move_shared]
    by_cases hmoved : j = i
    · subst hmoved
      exact .inl (he.ordered records (by rw [hi]; simp) (by rw [hi]; simp))
    · rw [move_point_of_ne s _ hmoved]
      exact he.appended j

/-- **The step.** -/
theorem Ends.step (he : Ends records start s) {i : ι} {action : LedgerAction}
    {next : LedgerPoint × Ledger ι} (hunappended : Unappended s i action)
    (hnext : ledgerProgram records i action s = some next) :
    Ends records start (s.move i next) := by
  unfold ledgerProgram at hnext
  split at hnext
  · cases hnext
    exact he.append records i
  · rename_i hi
    have happended := he.ordered records (i := i) (by rw [hi]; simp) (by rw [hi]; simp)
    split at hnext
    · cases hnext
      exact he.look records (by simp) (.inl happended)
    · cases hnext
      exact he.look records (by simp) (.inl happended)
  · rename_i hi
    cases hnext
    exact he.reads records hi
  · rename_i read appended hi
    cases hnext
    refine he.replace records ?_
    rw [hi, hunappended read appended hi]
  · cases hnext
    exact he.look records (by simp) (.inr rfl)
  · cases hnext
    exact he.look records (by simp) (.inr rfl)
  · cases hnext
    exact he.look records (by simp) (.inr rfl)
  · cases hnext
    exact he.look records (by simp) (.inr rfl)
  · cases hnext

/-- Every hook is about to append to a ledger of these lines. -/
def LedgerStart (start : List JsString) : Parallel ι LedgerPoint (Ledger ι) :=
  ⟨fun _ => .appending, ⟨start, []⟩⟩

/-- **A ledger loses only old records**, in any interleaving of the hooks where no ledger is
replaced after an append that the hook has not read: a hook that has appended has its
place in the order, and its record is in the ledger at any moment, as long as fewer
records than the ledger is cut to were appended after it. -/
theorem recent_records_kept (start : List JsString)
    (hr : Run (ledgerProgram records) Unappended (LedgerStart start) s) :
    (∀ i, s.point i ≠ .appending → s.point i ≠ .failed → i ∈ s.shared.appended) ∧
      ∀ before i after, s.shared.appended = before ++ i :: after →
        after.length < maxLedgerEntries → (records i).text ∈ s.shared.lines := by
  have hends : Ends records start s := by
    refine hr.invariant (fun s i action next he hunappended hnext => ?_) ?_
    · exact he.step records hunappended hnext
    · refine ⟨?_, fun i read appended hi => LedgerPoint.noConfusion hi, fun i => .inr (.inl rfl)⟩
      show Recent _ (filled start ++ []) (filled start)
      rw [List.append_nil]
      exact Recent.refl _ _
  refine ⟨fun i => hends.ordered records, fun before i after horder hafter => ?_⟩
  · have hall : everything records start s.shared.appended
        = (filled start ++ before.map fun i => (records i).text) ++ (records i).text ::
          after.map fun i => (records i).text := by
      unfold everything
      rw [horder, List.map_append, List.map_cons, List.append_assoc]
    have hkept := hends.ledger.mem hall (by rwa [List.length_map])
    exact (List.mem_filter.1 hkept).1

end program

/-! Two hooks on a ledger that is too large. -/

section sample

theorem utf8Length_replicate (n : ℕ) : utf8Length (List.replicate n 97) = n := by
  induction n with
  | zero => rfl
  | succ n ih =>
    cases n with
    | zero => rfl
    | succ n =>
      show (if (97 : UInt16) < 0x80 then 1 + utf8Length (List.replicate (n + 1) 97) else _) = _
      rw [if_pos (by decide), ih]
      omega

/-- One line of as many bytes as a ledger may have. -/
def sampleLedger : List JsString := [List.replicate maxLedgerBytes 97]

def sampleRecords : Fin 2 → LedgerLine
  | 0 => ⟨js "first", by decide⟩
  | 1 => ⟨js "second", by decide⟩

theorem sampleLedger_large (line : JsString) :
    ¬ ledgerSize (sampleLedger ++ [line]) ≤ maxLedgerBytes := by
  have hsize : ledgerSize (sampleLedger ++ [line])
      = maxLedgerBytes + 1 + (utf8Length line + 1) := by
    simp [ledgerSize, sampleLedger, utf8Length_replicate]
  omega

section lines

variable (lines : List JsString)

/-- The ledger after the first hook has appended to it, and read it. -/
def sampleRead : Parallel (Fin 2) LedgerPoint (Ledger (Fin 2)) :=
  (LedgerStart lines).move 0 (.replacing (lines ++ [js "first"]) 1, ⟨lines ++ [js "first"], [0]⟩)

theorem sampleRead_run (hlarge : ¬ ledgerSize (lines ++ [js "first"]) ≤ maxLedgerBytes) :
    Run (ledgerProgram sampleRecords) Unappended (LedgerStart lines) (sampleRead lines) := by
  have hstart : Run (ledgerProgram sampleRecords) Unappended (LedgerStart lines)
      (LedgerStart lines) := .refl
  have happended := hstart.step 0 .proceed (fun read appended hi => by cases hi) rfl
  have hchecked := happended.step 0 .proceed (fun read appended hi => by cases hi)
    (if_neg hlarge)
  have hread := hchecked.step 0 .proceed (fun read appended hi => by cases hi) rfl
  rw [move_move, move_move] at hread
  exact hread

/-- The second hook has appended then, and the first has replaced the ledger. -/
def sampleCut : Parallel (Fin 2) LedgerPoint (Ledger (Fin 2)) :=
  ((sampleRead lines).move 1 (.checking,
    ⟨lines ++ [js "first"] ++ [js "second"], [0, 1]⟩)).move 0 (.returned,
      ⟨trimmed (lines ++ [js "first"]), [0, 1]⟩)

theorem sampleCut_run (hlarge : ¬ ledgerSize (lines ++ [js "first"]) ≤ maxLedgerBytes) :
    Run (ledgerProgram sampleRecords) (fun _ _ _ => True) (LedgerStart lines)
      (sampleCut lines) := by
  have hread := (sampleRead_run lines hlarge).mono fun _ _ _ _ => trivial
  have happended := hread.step 1 .proceed trivial rfl
  exact happended.step 0 .proceed trivial rfl

end lines

/-- The second hook appends after the first has read, and before it replaces the ledger. -/
theorem append_between_is_lost : ∃ s : Parallel (Fin 2) LedgerPoint (Ledger (Fin 2)),
    Run (ledgerProgram sampleRecords) (fun _ _ _ => True) (LedgerStart sampleLedger) s ∧
      s.point 1 = .checking ∧ s.shared.appended = [0] ++ 1 :: [] ∧
      (sampleRecords 1).text ∉ s.shared.lines := by
  refine ⟨sampleCut sampleLedger, sampleCut_run _ (sampleLedger_large _), rfl, rfl, ?_⟩
  intro hmem
  have hread : js "second" ∈ sampleLedger ++ [js "first"] :=
    (List.mem_filter.1 (List.mem_of_mem_drop hmem)).1
  rcases List.mem_append.1 hread with hold | hfirst
  · have hlength := congrArg List.length (List.mem_singleton.1 hold)
    rw [List.length_replicate] at hlength
    exact absurd hlength (by decide)
  · exact absurd (List.mem_singleton.1 hfirst) (by decide)

theorem recent_records_kept_sample : ∃ s : Parallel (Fin 2) LedgerPoint (Ledger (Fin 2)),
    s.point 0 = .returned ∧ (sampleRecords 0).text ∈ s.shared.lines := by
  have hread := sampleRead_run sampleLedger (sampleLedger_large _)
  have hreplaced := hread.step 0 .proceed (fun read appended hi => by cases hi; rfl) rfl
  exact ⟨_, rfl, (recent_records_kept sampleRecords sampleLedger hreplaced).2 [] 0 [] rfl
    (by decide)⟩

end sample

end Autopilot.HookLedgers
