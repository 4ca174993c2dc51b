/-
The rotation of the state logs (`stateMaintenance.ts`).

A log over the limit keeps its last whole lines, and the whole lines in front of them go to
an archive beside it. Both parts are read through a window of the file: the window's
beginning of a line is cut off, unless the window begins with the file. Afterwards the
archives of the log that are too many are deleted, the oldest names first.
-/
import Autopilot.IncidentStore
import Autopilot.GovernedDispatch
import Autopilot.Lib.Lines
import Autopilot.Lib.Record

set_option autoImplicit false

namespace Autopilot
namespace StateLogs

open Lines (EndsLine Cut)
open Incidents (IsoTimestamp)
open GovernedDispatch (sorted)

abbrev Bytes := List UInt8

def newline : UInt8 := 0x0a

/-! ## The two parts of a log -/

/-- `readRange`. -/
def readRange (content : Bytes) (start length : ℕ) : Bytes := (content.drop start).take length

/-- `window.indexOf(0x0a) + 1`. -/
def afterNewline (window : Bytes) : ℕ :=
  match window.idxOf? newline with
  | none => 0
  | some i => i + 1

/-- Where the first whole line of a window begins. -/
def linesStart (windowStart : ℕ) (window : Bytes) : ℕ :=
  if windowStart = 0 then 0 else afterNewline window

/-- The window without the line it begins within. -/
def windowLines (windowStart : ℕ) (window : Bytes) : Bytes :=
  if 0 < linesStart windowStart window then window.drop (linesStart windowStart window)
  else if windowStart = 0 then window
  else []

/-- `currentStart`: where the lines that stay in the log begin. -/
def currentStart (maxBytes : ℕ) (content : Bytes) : ℕ :=
  let tailWindowStart := content.length - maxBytes
  let tailWindow := readRange content tailWindowStart (content.length - tailWindowStart)
  tailWindowStart + linesStart tailWindowStart tailWindow

/-- `current`: what stays in the log. -/
def current (maxBytes : ℕ) (content : Bytes) : Bytes :=
  let tailWindowStart := content.length - maxBytes
  windowLines tailWindowStart
    (readRange content tailWindowStart (content.length - tailWindowStart))

/-- `archived`: what goes to the archive. -/
def archived (maxBytes : ℕ) (content : Bytes) : Bytes :=
  let archiveWindowStart := currentStart maxBytes content - maxBytes
  windowLines archiveWindowStart
    (readRange content archiveWindowStart (currentStart maxBytes content - archiveWindowStart))

/-! ## The directory of the logs -/

/-- The regular files of the state directory. -/
abbrev Directory := Record JsString Bytes

/-- `iso.replace(/[:.]/g, "-")`. -/
def stamp (iso : IsoTimestamp) : JsString := iso.text.map fun c => if c = 58 ∨ c = 46 then 45 else c

/-- The name of an archive of a log. -/
def archiveName (name : JsString) (now : IsoTimestamp) (index : ℕ) : JsString :=
  name ++ js "." ++ stamp now ++ js "." ++ decimal index ++ js ".archive"

/-- `nextArchivePath`: the first index whose name is free. One of as many indices as there are
files, and one more, is. -/
def nextArchiveName (dir : Directory) (name : JsString) (now : IsoTimestamp) : JsString :=
  archiveName name now (((List.range (dir.size + 1)).find? fun index =>
    archiveName name now index ∉ dir.keys).getD 0)

/-- ``entry.startsWith(`${name}.`) && entry.endsWith(".archive")``. -/
def isArchiveOf (name entry : JsString) : Bool :=
  (name ++ js ".").isPrefixOf entry && (js ".archive").isSuffixOf entry

/-- `archives`: the archives of a log, the newest name first. -/
def archives (dir : Directory) (name : JsString) : List JsString :=
  (sorted (dir.keys.filter (isArchiveOf name))).reverse

/-- The archive is written when there is something to archive. -/
def withArchive (now : IsoTimestamp) (archived : Bytes) (dir : Directory) (name : JsString) :
    Directory :=
  if 0 < archived.length then dir.set (nextArchiveName dir name now) archived else dir

/-- What one turn of the loop does with a log. -/
def rotateLog (now : IsoTimestamp) (maxBytes keepArchives : ℕ) (dir : Directory)
    (name : JsString) : Directory :=
  match dir.get? name with
  | none => dir
  | some content =>
    if content.length ≤ maxBytes then dir
    else
      let dir := (withArchive now (archived maxBytes content) dir name).set name
        (current maxBytes content)
      ((archives dir name).drop keepArchives).foldl Record.erase dir

/-- The names the loop goes through. -/
def logNames (dir : Directory) : List JsString :=
  sorted (dir.keys.filter (js ".jsonl").isSuffixOf)

/-- The directory after the turns of some logs, each at its own time. -/
def afterTurns (clock : JsString → IsoTimestamp) (maxBytes keepArchives : ℕ) (dir : Directory)
    (names : List JsString) : Directory :=
  names.foldl (fun dir name => rotateLog (clock name) maxBytes keepArchives dir name) dir

/-- `rotateStateLogs`. -/
def rotateStateLogs (clock : JsString → IsoTimestamp) (maxBytes keepArchives : ℕ)
    (dir : Directory) : Directory :=
  afterTurns clock maxBytes keepArchives dir (logNames dir)

/-! ## Windows -/

theorem afterNewline_of_notMem {window : Bytes} (h : newline ∉ window) :
    afterNewline window = 0 := by
  rw [afterNewline, List.idxOf?_eq_none_iff.2 h]

theorem afterNewline_append {begun : Bytes} (h : newline ∉ begun) (rest : Bytes) :
    afterNewline (begun ++ [newline] ++ rest) = begun.length + 1 := by
  have hfirst : (begun ++ [newline] ++ rest).idxOf? newline = some begun.length := by
    rw [List.append_assoc, List.idxOf?_eq_some_iff]
    refine ⟨by simp, by simp, ?_⟩
    intro j hj heq
    rw [List.getElem_append_left hj] at heq
    exact h (heq ▸ List.getElem_mem hj)
  rw [afterNewline, hfirst]

theorem windowLines_zero (window : Bytes) : windowLines 0 window = window := rfl

/-- A window within the text without a newline has no whole line. -/
theorem windowLines_of_notMem {start : ℕ} (hstart : 0 < start) {window : Bytes}
    (h : newline ∉ window) : linesStart start window = 0 ∧ windowLines start window = [] := by
  have hzero : linesStart start window = 0 := by
    rw [linesStart, if_neg (by omega), afterNewline_of_notMem h]
  refine ⟨hzero, ?_⟩
  rw [windowLines, hzero, if_neg (by omega), if_neg (by omega)]

/-- The line a window begins within is cut off. -/
theorem windowLines_append {start : ℕ} (hstart : 0 < start) {begun : Bytes}
    (h : newline ∉ begun) (rest : Bytes) :
    linesStart start (begun ++ [newline] ++ rest) = begun.length + 1 ∧
      windowLines start (begun ++ [newline] ++ rest) = rest := by
  have hlines : linesStart start (begun ++ [newline] ++ rest) = begun.length + 1 := by
    rw [linesStart, if_neg (by omega), afterNewline_append h]
  refine ⟨hlines, ?_⟩
  rw [windowLines, hlines, if_pos (by omega)]
  have hlength : begun.length + 1 = (begun ++ [newline]).length := by simp
  rw [hlength, List.drop_left]

/-- A window up to the end of a text. -/
theorem readRange_to_end (content : Bytes) {start : ℕ} :
    readRange content start (content.length - start) = content.drop start := by
  rw [readRange]
  exact List.take_of_length_le (by simp)

/-- A window up to a place within a text. -/
theorem readRange_append (front back : Bytes) {start : ℕ} (h : start ≤ front.length) :
    readRange (front ++ back) start (front.length - start) = front.drop start := by
  rw [readRange, List.drop_append_of_le_length h]
  exact List.take_left' (by simp)

/-! ## The line the limit falls in -/

/-- The line of a text that a position is in, with the newline that ends it. -/
structure LineAt (content : Bytes) (position : ℕ) (before line after : Bytes) : Prop where
  text : content = before ++ line ++ after
  begins : EndsLine newline before
  ends : ∃ body, line = body ++ [newline] ∧ newline ∉ body
  from_le : before.length ≤ position
  lt_until : position < before.length + line.length

/-- A newline behind a position ends the line the position is in. -/
theorem exists_lineAt {content : Bytes} {position : ℕ} (h : newline ∈ content.drop position) :
    ∃ before line after, LineAt content position before line after := by
  obtain ⟨before, begun, htake, hbegins, hbegun⟩ :=
    Lines.exists_lastLine newline (content.take position)
  obtain ⟨rest, after, hdrop, hrest⟩ := List.eq_append_cons_of_mem h
  have hposition : position ≤ content.length := by
    by_contra hlt
    rw [List.drop_eq_nil_of_le (by omega)] at h
    cases h
  have hlength : before.length + begun.length = position := by
    rw [← List.length_append, ← htake, List.length_take, Nat.min_eq_left hposition]
  refine ⟨before, begun ++ rest ++ [newline], after, ?_, hbegins, ⟨begun ++ rest, rfl, ?_⟩, ?_, ?_⟩
  · rw [← List.take_append_drop position content, htake, hdrop]
    simp
  · simp [hbegun, hrest]
  · omega
  · simp only [List.length_append, List.length_singleton]
    omega

namespace LineAt

variable {content before line after : Bytes} {position : ℕ}

/-- What a window from the position on begins with. -/
theorem exists_window (h : LineAt content position before line after) :
    ∃ begun, newline ∉ begun ∧ content.drop position = begun ++ [newline] ++ after ∧
      position + begun.length + 1 = before.length + line.length := by
  obtain ⟨body, hline, hbody⟩ := h.ends
  have hfrom := h.from_le
  have hlt := h.lt_until
  have hlength : line.length = body.length + 1 := by rw [hline]; simp
  refine ⟨body.drop (position - before.length), fun hmem => hbody (List.mem_of_mem_drop hmem),
    ?_, ?_⟩
  · rw [h.text, hline, List.append_assoc, List.append_assoc, List.drop_append,
      List.drop_eq_nil_of_le hfrom, List.nil_append, List.drop_append_of_le_length (by omega),
      List.append_assoc]
  · rw [List.length_drop]
    omega

end LineAt

/-! ## What a rotation keeps -/

theorem windowLines_suffix (start : ℕ) (window : Bytes) : windowLines start window <:+ window := by
  rw [windowLines]
  split_ifs
  · exact List.drop_suffix ..
  · exact List.suffix_rfl
  · exact List.nil_suffix

variable {maxBytes : ℕ} {content before line after : Bytes}

theorem current_eq : current maxBytes content = windowLines (content.length - maxBytes)
    (content.drop (content.length - maxBytes)) := by
  rw [current, readRange_to_end]

theorem currentStart_eq : currentStart maxBytes content = content.length - maxBytes +
    linesStart (content.length - maxBytes) (content.drop (content.length - maxBytes)) := by
  rw [currentStart, readRange_to_end]

/-- Without a newline in its window a log is emptied, and the archive ends where the window
begins. -/
theorem current_of_notMem (hover : maxBytes < content.length)
    (h : newline ∉ content.drop (content.length - maxBytes)) :
    current maxBytes content = [] ∧
      currentStart maxBytes content = content.length - maxBytes := by
  have hpos : 0 < content.length - maxBytes := by omega
  obtain ⟨hstart, hlines⟩ := windowLines_of_notMem hpos h
  rw [current_eq, currentStart_eq, hlines, hstart]
  exact ⟨rfl, rfl⟩

/-- What is behind the line the limit falls in stays in the log. -/
theorem current_of_lineAt (hover : maxBytes < content.length)
    (h : LineAt content (content.length - maxBytes) before line after) :
    current maxBytes content = after ∧
      currentStart maxBytes content = (before ++ line).length := by
  obtain ⟨begun, hbegun, hdrop, hlength⟩ := h.exists_window
  have hpos : 0 < content.length - maxBytes := by omega
  obtain ⟨hstart, hlines⟩ := windowLines_append hpos hbegun after
  rw [current_eq, currentStart_eq, hdrop, hlines, hstart, List.length_append]
  exact ⟨rfl, by omega⟩

/-- A log over the limit never keeps all of its last bytes. -/
theorem current_length_lt (hpos : 0 < maxBytes) (hover : maxBytes < content.length) :
    (current maxBytes content).length < maxBytes := by
  by_cases h : newline ∈ content.drop (content.length - maxBytes)
  · obtain ⟨before, line, after, hline⟩ := exists_lineAt h
    have hlength := congrArg List.length hline.text
    have hlast := hline.lt_until
    rw [(current_of_lineAt hover hline).1]
    simp only [List.length_append] at hlength
    omega
  · rw [(current_of_notMem hover h).1]
    exact hpos

/-- What is archived, when the lines that stay follow a text. -/
theorem archived_eq {front back : Bytes} (htext : content = front ++ back)
    (hstart : currentStart maxBytes content = front.length) :
    archived maxBytes content = windowLines (front.length - maxBytes)
      (front.drop (front.length - maxBytes)) := by
  rw [archived, hstart, htext, readRange_append _ _ (Nat.sub_le ..)]

/-- The newest archive and the log are neighbouring whole lines of the text and its end, and
the lines in front of them end before the last `maxBytes` bytes. -/
def KeepsTail (maxBytes : ℕ) (content archived current : Bytes) : Prop :=
  ∃ k j, archived = (((Lines.lines newline content).drop k).take j).flatten ∧
    current = ((Lines.lines newline content).drop (k + j)).flatten ∧
    ((Lines.lines newline content).take k).flatten.length ≤ content.length - maxBytes

theorem keepsTail_iff {archived current : Bytes} :
    KeepsTail maxBytes content archived current ↔
      ∃ front, content = front ++ archived ++ current ∧ Cut newline content front ∧
        Cut newline content (front ++ archived) ∧ front.length ≤ content.length - maxBytes :=
  Lines.exists_parts_iff

/-- The text cut behind some whole lines. -/
theorem cut_of_endsLine {front : Bytes} (h : EndsLine newline front) (back : Bytes) :
    Cut newline (front ++ back) front := ⟨List.prefix_append .., .inl h⟩

/-- The log alone does not keep the tail. -/
theorem not_keepsTail_nil (hpos : 0 < maxBytes) (hover : maxBytes < content.length) :
    ¬ KeepsTail maxBytes content [] (current maxBytes content) := by
  intro h
  obtain ⟨front, htext, -, -, hfront⟩ := keepsTail_iff.1 h
  have hlength := congrArg List.length htext
  have hlt := current_length_lt hpos hover
  simp only [List.append_nil, List.length_append] at hlength
  omega

/-- A log whose last bytes are within one line loses them. -/
theorem not_keepsTail_of_notMem (hpos : 0 < maxBytes) (hover : maxBytes < content.length)
    (h : newline ∉ content.drop (content.length - maxBytes)) :
    ¬ KeepsTail maxBytes content (archived maxBytes content) (current maxBytes content) := by
  intro hkeeps
  obtain ⟨front, htext, hcut, -, hfront⟩ := keepsTail_iff.1 hkeeps
  obtain ⟨hcurrent, hstart⟩ := current_of_notMem hover h
  rw [hcurrent, List.append_nil] at htext
  have htake : (content.take (content.length - maxBytes)).length = content.length - maxBytes := by
    rw [List.length_take]
    omega
  have harchived := archived_eq (List.take_append_drop (content.length - maxBytes) content).symm
    (hstart.trans htake.symm)
  have hsuffix : archived maxBytes content <:+
      content.take (content.length - maxBytes) := by
    rw [harchived]
    exact (windowLines_suffix ..).trans (List.drop_suffix ..)
  have hlength := congrArg List.length htext
  rw [List.length_append] at hlength
  have hshort : (archived maxBytes content).length ≤ maxBytes := by
    rw [harchived]
    refine (windowLines_suffix ..).length_le.trans ?_
    rw [List.length_drop]
    omega
  -- the archive would be what the window holds, and what is in front of it ends alike
  have hparts : front = content.take (content.length - maxBytes) ∧
      archived maxBytes content = content.drop (content.length - maxBytes) := by
    refine List.append_inj ?_ (by omega)
    rw [← htext, List.take_append_drop]
  have hnewline : newline ∉ archived maxBytes content := hparts.2 ▸ h
  rcases hcut.2 with (hnil | ⟨body, hbody⟩) | hall
  · rw [hnil, List.length_nil] at hlength
    omega
  · obtain ⟨begun, hbegun⟩ := hsuffix
    rw [← hparts.1, hbody] at hbegun
    have hne : archived maxBytes content ≠ [] := by
      rintro hnil
      rw [hnil, List.length_nil] at hlength
      omega
    rw [← List.dropLast_append_getLast hne, ← List.append_assoc] at hbegun
    have hlast : (archived maxBytes content).getLast hne = newline := by
      simpa using (List.append_inj' hbegun rfl).2
    exact hnewline (hlast ▸ List.getLast_mem hne)
  · rw [hparts.1] at hall
    have hwhole := congrArg List.length hall
    omega

/-- Where the limit falls in a line, the tail is kept when the log is short up to the end of the
line, or the line is shorter than the limit. -/
theorem keepsTail_of_lineAt (hover : maxBytes < content.length)
    (h : LineAt content (content.length - maxBytes) before line after)
    (hfits : before.length + line.length ≤ maxBytes ∨ line.length < maxBytes) :
    KeepsTail maxBytes content (archived maxBytes content) (current maxBytes content) := by
  obtain ⟨hcurrent, hstart⟩ := current_of_lineAt hover h
  have harchived := archived_eq h.text hstart
  obtain ⟨body, hbody, -⟩ := h.ends
  have hline : EndsLine newline (before ++ line) := by
    rw [hbody, ← List.append_assoc]
    exact .snoc _
  refine keepsTail_iff.2 ?_
  rw [hcurrent, harchived]
  by_cases hshort : before.length + line.length ≤ maxBytes
  · have hzero : (before ++ line).length - maxBytes = 0 := by
      rw [List.length_append]
      omega
    rw [hzero, List.drop_zero, windowLines_zero]
    refine ⟨[], h.text, ⟨List.nil_prefix, .inl .nil⟩, ?_, Nat.zero_le _⟩
    have hcut := cut_of_endsLine hline after
    rw [← h.text] at hcut
    exact hcut
  · -- the archive's window begins in front of the line, and the line before it ends there
    have hlt := hfits.resolve_left hshort
    have hpos : 0 < (before ++ line).length - maxBytes := by
      rw [List.length_append]
      omega
    have hwithin : (before ++ line).length - maxBytes < before.length := by
      rw [List.length_append]
      omega
    have hnewline : newline ∈ before.drop ((before ++ line).length - maxBytes) := by
      obtain ⟨front, hfront⟩ := h.begins.resolve_left (by rintro rfl; simp at hwithin)
      have hlength := congrArg List.length hfront
      rw [List.length_append, List.length_singleton] at hlength
      generalize (before ++ line).length - maxBytes = start at hwithin
      rw [hfront, List.drop_append_of_le_length (by omega)]
      simp
    obtain ⟨before', line', after', h'⟩ := exists_lineAt hnewline
    obtain ⟨begun, hbegun, hdrop, -⟩ := h'.exists_window
    have hwindow : (before ++ line).drop ((before ++ line).length - maxBytes) =
        begun ++ [newline] ++ (after' ++ line) := by
      rw [List.drop_append_of_le_length hwithin.le, hdrop, List.append_assoc _ after']
    rw [hwindow, (windowLines_append hpos hbegun _).2]
    obtain ⟨body', hbody', -⟩ := h'.ends
    have htext : content = before' ++ line' ++ (after' ++ line) ++ after := by
      rw [h.text]
      simp only [h'.text, List.append_assoc]
    refine ⟨before' ++ line', htext, ?_, ?_, ?_⟩
    · have hends : EndsLine newline (before' ++ line') := by
        rw [hbody', ← List.append_assoc]
        exact .snoc _
      have hcut := cut_of_endsLine hends (after' ++ line ++ after)
      rw [← List.append_assoc, ← htext] at hcut
      exact hcut
    · have hcut := cut_of_endsLine hline after
      rw [← h.text] at hcut
      rw [← List.append_assoc, ← h'.text]
      exact hcut
    · refine Nat.le_trans ?_ h.from_le
      rw [h'.text]
      exact (List.prefix_append ..).length_le

/-- A line as long as the limit is lost when the limit falls in it. -/
theorem archived_of_long_line (hover : maxBytes < content.length)
    (h : LineAt content (content.length - maxBytes) before line after)
    (hlong : maxBytes < before.length + line.length) (hline : maxBytes ≤ line.length)
    (hpos : 0 < maxBytes) :
    archived maxBytes content = [] := by
  obtain ⟨-, hstart⟩ := current_of_lineAt hover h
  rw [archived_eq h.text hstart]
  obtain ⟨body, hbody, hplain⟩ := h.ends
  have hlength : line.length = body.length + 1 := by rw [hbody]; simp
  have hwindow : (before ++ line).drop ((before ++ line).length - maxBytes) =
      body.drop (line.length - maxBytes) ++ [newline] ++ [] := by
    rw [List.drop_append, List.drop_eq_nil_of_le (by rw [List.length_append]; omega),
      List.nil_append, List.length_append]
    have hsub : before.length + line.length - maxBytes - before.length =
        line.length - maxBytes := by omega
    rw [hsub, hbody, List.drop_append_of_le_length, List.append_nil]
    rw [← hbody]
    omega
  rw [hwindow, (windowLines_append (by rw [List.length_append]; omega)
    (fun hmem => hplain (List.mem_of_mem_drop hmem)) _).2]

/-- The line the limit falls in is terminated, and it is short or not far from the log's
beginning. -/
def LineFits (maxBytes : ℕ) (content : Bytes) : Prop :=
  ∃ before line after, LineAt content (content.length - maxBytes) before line after ∧
    (before.length + line.length ≤ maxBytes ∨ line.length < maxBytes)

theorem keepsTail_parts_iff (hpos : 0 < maxBytes) (hover : maxBytes < content.length) :
    KeepsTail maxBytes content (archived maxBytes content) (current maxBytes content) ↔
      LineFits maxBytes content := by
  constructor
  · intro hkeeps
    by_cases h : newline ∈ content.drop (content.length - maxBytes)
    · obtain ⟨before, line, after, hline⟩ := exists_lineAt h
      refine ⟨before, line, after, hline, ?_⟩
      by_contra hlong
      rw [not_or] at hlong
      rw [archived_of_long_line hover hline (by omega) (by omega) hpos] at hkeeps
      exact not_keepsTail_nil hpos hover hkeeps
    · exact absurd hkeeps (not_keepsTail_of_notMem hpos hover h)
  · rintro ⟨before, line, after, hline, hfits⟩
    exact keepsTail_of_lineAt hover hline hfits

/-! ## Names in order -/

/-- The names in front of one of them, the name, and the names behind it. -/
theorem sorted_split {names : List JsString} (hnodup : names.Nodup) {name : JsString}
    (h : name ∈ names) :
    sorted names = (sorted names).filter (· < name) ++
      name :: (sorted names).filter (name < ·) := by
  have hperm : (sorted names).Perm names := List.perm_insertionSort _ names
  have hsorted : (sorted names).Pairwise (· < ·) := by
    have hle : (sorted names).Pairwise (· ≤ ·) := List.pairwise_insertionSort (· ≤ ·) names
    refine (hle.and (hperm.nodup_iff.2 hnodup)).imp ?_
    rintro a b ⟨hab, hne⟩
    exact (List.le_iff_lt_or_eq.1 hab).resolve_right hne
  obtain ⟨front, back, hsplit⟩ := List.append_of_mem (hperm.mem_iff.2 h)
  rw [hsplit, List.pairwise_append, List.pairwise_cons] at hsorted
  obtain ⟨-, ⟨hback, -⟩, hfront⟩ := hsorted
  have hbefore : ∀ a ∈ front, a < name := fun a ha => hfront a ha name List.mem_cons_self
  rw [hsplit]
  have hself : decide (name < name) = false := decide_eq_false (List.lt_irrefl name)
  simp only [List.filter_append, List.filter_cons, hself]
  have h1 : front.filter (fun a => decide (a < name)) = front :=
    List.filter_eq_self.2 fun a ha => decide_eq_true (hbefore a ha)
  have h2 : back.filter (fun a => decide (a < name)) = [] :=
    List.filter_eq_nil_iff.2 fun a ha => by simpa using List.lt_asymm (hback a ha)
  have h3 : front.filter (fun a => decide (name < a)) = [] :=
    List.filter_eq_nil_iff.2 fun a ha => by simpa using List.lt_asymm (hbefore a ha)
  have h4 : back.filter (fun a => decide (name < a)) = back :=
    List.filter_eq_self.2 fun a ha => decide_eq_true (hback a ha)
  rw [h1, h2, h3, h4]
  simp

/-- Of the names in reverse order, one is among the first when few names sort behind it. -/
theorem mem_drop_reverse_sorted_iff {names : List JsString} (hnodup : names.Nodup)
    {name : JsString} (h : name ∈ names) (keep : ℕ) :
    name ∈ (sorted names).reverse.drop keep ↔ keep ≤ (names.filter (name < ·)).length := by
  have hperm : (sorted names).Perm names := List.perm_insertionSort _ names
  have hcount : ((sorted names).filter (name < ·)).length = (names.filter (name < ·)).length :=
    (hperm.filter _).length_eq
  have hsplit := sorted_split hnodup h
  rw [← hcount]
  generalize (sorted names).filter (name < ·) = back at hsplit
  generalize (sorted names).filter (· < name) = front at hsplit
  have hnodup' : (front ++ name :: back).Nodup := hsplit ▸ hperm.nodup_iff.2 hnodup
  rw [List.nodup_append, List.nodup_cons] at hnodup'
  obtain ⟨-, ⟨hback, -⟩, hfront⟩ := hnodup'
  rw [hsplit, List.reverse_append, List.reverse_cons, List.append_assoc]
  by_cases hkeep : keep ≤ back.length
  · rw [List.drop_append_of_le_length (by simpa using hkeep)]
    simp [hkeep]
  · -- more names are kept than sort behind the name
    simp only [hkeep, iff_false]
    intro hmem
    rw [List.drop_append, List.drop_eq_nil_of_le (by simp; omega), List.nil_append,
      List.length_reverse] at hmem
    obtain ⟨n, hn⟩ := Nat.exists_eq_add_of_lt (Nat.lt_of_not_le hkeep)
    have hdrop : keep - back.length = n + 1 := by omega
    rw [hdrop, List.singleton_append, List.drop_succ_cons] at hmem
    exact hfront name (List.mem_reverse.1 (List.mem_of_mem_drop hmem)) name
      List.mem_cons_self rfl

/-! ## One turn -/

theorem isArchiveOf_iff {name entry : JsString} :
    isArchiveOf name entry = true ↔ name ++ js "." <+: entry ∧ js ".archive" <:+ entry := by
  rw [isArchiveOf, Bool.and_eq_true, List.isPrefixOf_iff_prefix, List.isSuffixOf_iff_suffix]

theorem archiveName_isArchiveOf (name : JsString) (now : IsoTimestamp) (index : ℕ) :
    isArchiveOf name (archiveName name now index) = true := by
  rw [isArchiveOf_iff, archiveName]
  refine ⟨?_, List.suffix_append ..⟩
  simp only [List.append_assoc, List.prefix_append_right_inj]
  exact List.prefix_append ..

theorem archiveName_injective {name : JsString} {now : IsoTimestamp} {index index' : ℕ}
    (h : archiveName name now index = archiveName name now index') : index = index' :=
  decimal_injective (List.append_cancel_left (List.append_cancel_right h))

/-- The name of the next archive is free. -/
theorem nextArchiveName_spec (dir : Directory) (name : JsString) (now : IsoTimestamp) :
    (∃ index, nextArchiveName dir name now = archiveName name now index) ∧
      nextArchiveName dir name now ∉ dir.keys := by
  rw [nextArchiveName]
  cases hfind : (List.range (dir.size + 1)).find? fun index =>
      archiveName name now index ∉ dir.keys with
  | some index =>
    have hfree := List.find?_some hfind
    exact ⟨⟨index, rfl⟩, by simpa using hfree⟩
  | none =>
    -- more names than files cannot all be taken
    exfalso
    have htaken : (List.range (dir.size + 1)).map (archiveName name now) ⊆ dir.keys := by
      intro entry hentry
      obtain ⟨index, hindex, rfl⟩ := List.mem_map.1 hentry
      simpa using List.find?_eq_none.1 hfind index hindex
    have hnodup : ((List.range (dir.size + 1)).map (archiveName name now)).Nodup :=
      List.nodup_range.map fun _ _ h => archiveName_injective h
    have hlength := (hnodup.subperm htaken).length_le
    rw [List.length_map, List.length_range, Record.keys, List.length_map] at hlength
    exact absurd hlength (by simp [Record.size])

/-- A log is none of its archives. -/
theorem not_isArchiveOf_self (name : JsString) : ¬ isArchiveOf name name = true := by
  intro h
  have hlength := (isArchiveOf_iff.1 h).1.length_le
  rw [List.length_append] at hlength
  have hdot : (js ".").length = 1 := by decide
  omega

theorem isArchiveOf_of_mem_drop {dir : Directory} {name entry : JsString} {keep : ℕ}
    (h : entry ∈ (archives dir name).drop keep) : isArchiveOf name entry = true := by
  have hperm : (sorted (dir.keys.filter (isArchiveOf name))).Perm _ := List.perm_insertionSort ..
  have hmem := List.mem_reverse.1 (List.mem_of_mem_drop h)
  exact (List.mem_filter.1 (hperm.mem_iff.1 hmem)).2

/-- A turn leaves alone what is neither the log nor one of its archives. -/
theorem rotateLog_get?_of_ne (now : IsoTimestamp) (maxBytes keepArchives : ℕ) (dir : Directory)
    {name entry : JsString} (hne : entry ≠ name) (harchive : ¬ isArchiveOf name entry = true) :
    (rotateLog now maxBytes keepArchives dir name).get? entry = dir.get? entry := by
  rw [rotateLog]
  cases dir.get? name with
  | none => rfl
  | some content =>
    dsimp only
    by_cases hsize : content.length ≤ maxBytes
    · rw [if_pos hsize]
    · rw [if_neg hsize, Record.get?_foldl_erase,
        if_neg fun hmem => harchive (isArchiveOf_of_mem_drop hmem),
        Record.get?_set_of_ne _ hne, withArchive]
      by_cases harchived : 0 < (archived maxBytes content).length
      · obtain ⟨index, hindex⟩ := (nextArchiveName_spec dir name now).1
        have hne' : entry ≠ archiveName name now index := by
          rintro rfl
          exact harchive (archiveName_isArchiveOf ..)
        rw [if_pos harchived, hindex, Record.get?_set_of_ne _ hne']
      · rw [if_neg harchived]

/-- A log within the limit is left as it is. -/
theorem rotateLog_of_le {now : IsoTimestamp} {maxBytes keepArchives : ℕ} {dir : Directory}
    {name : JsString} {content : Bytes} (hlog : dir.get? name = some content)
    (hsize : content.length ≤ maxBytes) :
    rotateLog now maxBytes keepArchives dir name = dir := by
  rw [rotateLog, hlog]
  exact if_pos hsize

/-- The archive a turn writes is among the last names of the log's archives. -/
def Kept (keepArchives : ℕ) (dir : Directory) (name archive : JsString) : Prop :=
  (dir.keys.filter fun entry => isArchiveOf name entry ∧ archive < entry).length < keepArchives

instance (keepArchives : ℕ) (dir : Directory) (name archive : JsString) :
    Decidable (Kept keepArchives dir name archive) :=
  inferInstanceAs (Decidable (_ < _))

/-- The archive that was written is deleted again when too many names sort behind it. -/
theorem mem_drop_archives_iff {dir : Directory} {name archive : JsString}
    (hself : isArchiveOf name archive = true) {keepArchives : ℕ} {after : Directory}
    (hkeys : after.keys = dir.keys ++ [archive]) :
    archive ∈ (archives after name).drop keepArchives ↔
      ¬ Kept keepArchives dir name archive := by
  have hnodup : (after.keys.filter (isArchiveOf name)).Nodup := after.nodup.filter _
  have hmem : archive ∈ after.keys.filter (isArchiveOf name) := by
    rw [List.mem_filter, hkeys]
    exact ⟨by simp, hself⟩
  have hcount : (after.keys.filter (isArchiveOf name)).filter (archive < ·) =
      dir.keys.filter fun entry => isArchiveOf name entry ∧ archive < entry := by
    have hirrefl : ¬ archive < archive := List.lt_irrefl archive
    rw [List.filter_filter, hkeys, List.filter_append]
    simp [hirrefl, Bool.and_comm]
  rw [archives, mem_drop_reverse_sorted_iff hnodup hmem, hcount, Kept, Nat.not_lt]

/-- The log and its newest archive behind the turn of a log over the limit. -/
theorem rotateLog_get? (now : IsoTimestamp) {maxBytes : ℕ} (keepArchives : ℕ) {dir : Directory}
    {name : JsString} {content : Bytes} (hlog : dir.get? name = some content)
    (hover : maxBytes < content.length) :
    (rotateLog now maxBytes keepArchives dir name).get? name = some (current maxBytes content) ∧
      ((rotateLog now maxBytes keepArchives dir name).get?
          (nextArchiveName dir name now)).getD [] =
        if Kept keepArchives dir name (nextArchiveName dir name now) then
          archived maxBytes content
        else [] := by
  obtain ⟨⟨index, hindex⟩, hfree⟩ := nextArchiveName_spec dir name now
  have hkey : name ∈ dir.keys := (dir.mem_keys_iff name).2 ⟨content, hlog⟩
  have hne : nextArchiveName dir name now ≠ name := by
    intro h
    rw [h] at hfree
    exact hfree hkey
  have hself : isArchiveOf name (nextArchiveName dir name now) = true :=
    hindex ▸ archiveName_isArchiveOf name now index
  rw [rotateLog, hlog]
  dsimp only
  rw [if_neg (Nat.not_le_of_lt hover), Record.get?_foldl_erase, Record.get?_foldl_erase]
  refine ⟨?_, ?_⟩
  · rw [if_neg fun hmem => not_isArchiveOf_self name (isArchiveOf_of_mem_drop hmem),
      Record.get?_set, if_pos rfl]
  · by_cases harchived : 0 < (archived maxBytes content).length
    · have hkeys : ((withArchive now (archived maxBytes content) dir name).set name
          (current maxBytes content)).keys = dir.keys ++ [nextArchiveName dir name now] := by
        rw [withArchive, if_pos harchived, Record.keys_set_of_mem,
          Record.keys_set_of_notMem _ hfree]
        rw [Record.keys_set_of_notMem _ hfree]
        exact List.mem_append_left _ hkey
      have hget : ((withArchive now (archived maxBytes content) dir name).set name
          (current maxBytes content)).get? (nextArchiveName dir name now) =
          some (archived maxBytes content) := by
        rw [Record.get?_set_of_ne _ hne, withArchive, if_pos harchived, Record.get?_set,
          if_pos rfl]
      have hdrop : _ ↔ ¬ Kept keepArchives dir name _ := mem_drop_archives_iff hself hkeys
      by_cases hkept : Kept keepArchives dir name (nextArchiveName dir name now)
      · rw [if_neg fun hmem => hdrop.1 hmem hkept, if_pos hkept, hget, Option.getD_some]
      · rw [if_pos (hdrop.2 hkept), if_neg hkept, Option.getD_none]
    · have hnil : archived maxBytes content = [] :=
        List.eq_nil_of_length_eq_zero (by omega)
      have hnone : dir.get? (nextArchiveName dir name now) = none :=
        (dir.get?_eq_none_iff _).2 hfree
      rw [Record.get?_set_of_ne _ hne, withArchive, if_neg harchived, hnone, hnil]
      simp

/-! ## All the turns -/

theorem fits_units {patterns : List (UInt16 → Bool)} {value : JsString}
    (h : Incidents.fits patterns value = true) {c : UInt16} (hc : c ∈ value) :
    ∃ p ∈ patterns, p c = true := by
  induction patterns generalizing value with
  | nil =>
    cases value with
    | nil => cases hc
    | cons d rest => cases h
  | cons p patterns ih =>
    cases value with
    | nil => cases hc
    | cons d rest =>
      rw [Incidents.fits, Bool.and_eq_true] at h
      rcases List.mem_cons.1 hc with rfl | hrest
      · exact ⟨p, List.mem_cons_self, h.1⟩
      · obtain ⟨q, hq, hqc⟩ := ih h.2 hrest
        exact ⟨q, List.mem_cons_of_mem _ hq, hqc⟩

/-- There is no `l` behind the log's name in the name of an archive. -/
theorem notMem_archive_rest (now : IsoTimestamp) (index : ℕ) :
    108 ∉ stamp now ++ js "." ++ decimal index ++ js ".archive" := by
  have htime : 108 ∉ stamp now := by
    intro h
    obtain ⟨c, hc, heq⟩ := List.mem_map.1 h
    have hiso := now.iso
    rw [Incidents.isIsoTimestamp, Bool.and_eq_true] at hiso
    obtain ⟨p, hp, hpc⟩ := fits_units hiso.1 hc
    split_ifs at heq
    · exact absurd heq (by decide)
    · rw [heq] at hpc
      have hnone : (Incidents.isoTimestampPattern.all fun p => !p 108) = true := by decide
      have hnot := List.all_eq_true.1 hnone p hp
      rw [hpc] at hnot
      cases hnot
  have hdigits : 108 ∉ decimal index := fun h =>
    absurd (decimalDigits_units h).2 (by decide)
  have hdot : 108 ∉ js "." := by decide
  have hends : 108 ∉ js ".archive" := by decide
  simp only [List.mem_append, not_or]
  exact ⟨⟨⟨htime, hdot⟩, hdigits⟩, hends⟩

/-- The names of logs and of archives end differently. -/
theorem ne_of_ends {log archive : JsString} (hlog : js ".jsonl" <:+ log)
    (harchive : js ".archive" <:+ archive) : archive ≠ log := by
  rintro rfl
  obtain ⟨front, hfront⟩ := hlog
  obtain ⟨front', hfront'⟩ := harchive
  have hlog' : js ".jsonl" = js ".json" ++ [108] := by decide
  have harchive' : js ".archive" = js ".archiv" ++ [101] := by decide
  rw [← hfront, hlog', harchive', ← List.append_assoc, ← List.append_assoc] at hfront'
  exact absurd (List.append_inj' hfront' rfl).2 (by decide)

/-- An archive of a log is no archive of a log whose name comes later. -/
theorem not_isArchiveOf_later {name other : JsString} (hother : js ".jsonl" <:+ other)
    (hlt : name < other) (now : IsoTimestamp) (index : ℕ) :
    ¬ isArchiveOf other (archiveName name now index) = true := by
  intro h
  obtain ⟨hbegins, -⟩ := isArchiveOf_iff.1 h
  obtain ⟨hself, -⟩ := isArchiveOf_iff.1 (archiveName_isArchiveOf name now index)
  rcases List.prefix_or_prefix_of_prefix hbegins hself with hshort | hlong
  · -- a beginning of the name comes before it
    have hlength := hshort.length_le
    simp only [List.length_append, Nat.add_le_add_iff_right] at hlength
    have hprior : other <+: name := List.prefix_of_prefix_length_le
      ((List.prefix_append ..).trans hshort) (List.prefix_append ..) hlength
    exact hprior.le hlt
  · obtain ⟨more, hmore⟩ := hlong
    obtain ⟨rest, hrest⟩ := hbegins
    have hcover : more ++ rest = stamp now ++ js "." ++ decimal index ++ js ".archive" := by
      rw [archiveName, ← hmore] at hrest
      simp only [List.append_assoc, List.append_cancel_left_eq] at hrest
      simpa only [List.append_assoc] using hrest
    obtain ⟨front, hfront⟩ := hother
    have hends : js ".jsonl" = js ".json" ++ [108] := by decide
    rw [hends, ← List.append_assoc] at hfront
    cases more using List.reverseRecOn with
    | nil =>
      rw [List.append_nil] at hmore
      exact List.lt_irrefl name ((List.append_cancel_right hmore) ▸ hlt)
    | append_singleton more last =>
      have hdot : js "." = [46] := by decide
      rw [← List.append_assoc, hdot] at hmore
      have hname : name ++ [46] ++ more = other := (List.append_inj' hmore rfl).1
      cases more using List.reverseRecOn with
      | nil =>
        rw [List.append_nil, ← hfront] at hname
        exact absurd (List.append_inj' hname rfl).2 (by decide)
      | append_singleton more unit =>
        rw [← List.append_assoc, ← hfront] at hname
        have hunit : unit = 108 := by simpa using (List.append_inj' hname rfl).2
        refine notMem_archive_rest now index (hcover ▸ ?_)
        simp [hunit]

theorem afterTurns_get? {clock : JsString → IsoTimestamp} {maxBytes keepArchives : ℕ}
    {names : List JsString} {entry : JsString}
    (h : ∀ name ∈ names, entry ≠ name ∧ ¬ isArchiveOf name entry = true) (dir : Directory) :
    (afterTurns clock maxBytes keepArchives dir names).get? entry = dir.get? entry := by
  rw [afterTurns]
  induction names generalizing dir with
  | nil => rfl
  | cons name names ih =>
    have hfirst := h name List.mem_cons_self
    rw [List.foldl_cons, ih fun other hother => h other (List.mem_cons_of_mem _ hother),
      rotateLog_get?_of_ne _ _ _ _ hfirst.1 hfirst.2]

/-- The directory when the turn of a log comes. -/
def directoryAtTurn (clock : JsString → IsoTimestamp) (maxBytes keepArchives : ℕ)
    (dir : Directory) (name : JsString) : Directory :=
  afterTurns clock maxBytes keepArchives dir ((logNames dir).filter (· < name))

section Turn

variable {dir : Directory} {name : JsString}

theorem mem_logNames : name ∈ logNames dir ↔ name ∈ dir.keys ∧ js ".jsonl" <:+ name := by
  have hperm : (logNames dir).Perm _ := List.perm_insertionSort ..
  rw [hperm.mem_iff, List.mem_filter, List.isSuffixOf_iff_suffix]

/-- Neither a log nor its newest archive is touched in the turns of other logs, the archive in
those that come later. -/
theorem rotateStateLogs_get? (clock : JsString → IsoTimestamp) (maxBytes keepArchives : ℕ)
    (hlog : name ∈ dir.keys) (hname : js ".jsonl" <:+ name) :
    (directoryAtTurn clock maxBytes keepArchives dir name).get? name = dir.get? name ∧
      ∀ entry, entry = name ∨ (∃ index, entry = archiveName name (clock name) index) →
        (rotateStateLogs clock maxBytes keepArchives dir).get? entry =
          (rotateLog (clock name) maxBytes keepArchives
            (directoryAtTurn clock maxBytes keepArchives dir name) name).get? entry := by
  have hother {other : JsString} (hother : other ∈ logNames dir) :
      ¬ isArchiveOf other name = true := by
    intro h
    exact ne_of_ends hname (isArchiveOf_iff.1 h).2 rfl
  have hnodup : (dir.keys.filter (js ".jsonl").isSuffixOf).Nodup := dir.nodup.filter _
  have hsplit := sorted_split hnodup (List.mem_filter.2 ⟨hlog, List.isSuffixOf_iff_suffix.2 hname⟩)
  refine ⟨afterTurns_get? (fun other hmem => ?_) dir, fun entry hentry => ?_⟩
  · obtain ⟨hmem, hlt⟩ := List.mem_filter.1 hmem
    refine ⟨?_, hother hmem⟩
    rintro rfl
    exact List.lt_irrefl _ (of_decide_eq_true hlt)
  · rw [rotateStateLogs, afterTurns, logNames, hsplit, List.foldl_append, List.foldl_cons]
    refine afterTurns_get? (fun other hmem => ?_) _
    obtain ⟨hmem, hlt⟩ := List.mem_filter.1 hmem
    have hends := (mem_logNames.1 hmem).2
    rcases hentry with heq | ⟨index, rfl⟩
    · rw [heq]
      refine ⟨?_, hother hmem⟩
      rintro rfl
      exact List.lt_irrefl _ (of_decide_eq_true hlt)
    · exact ⟨ne_of_ends hends (List.suffix_append ..),
        not_isArchiveOf_later hends (of_decide_eq_true hlt) _ _⟩

end Turn

/-! ## The tail of a log -/

/-- A log's newest archive and the log are a tail of the log exactly when the log is within the
limit, or nothing is to be kept, or the archive is kept and the limit falls in a line that fits. -/
theorem rotateStateLogs_keepsTail_iff (clock : JsString → IsoTimestamp)
    (maxBytes keepArchives : ℕ) (dir : Directory) (name : JsString) (content : Bytes)
    (hlog : dir.get? name = some content) (hname : js ".jsonl" <:+ name) :
    KeepsTail maxBytes content
        (((rotateStateLogs clock maxBytes keepArchives dir).get? (nextArchiveName
          (directoryAtTurn clock maxBytes keepArchives dir name) name (clock name))).getD [])
        (((rotateStateLogs clock maxBytes keepArchives dir).get? name).getD []) ↔
      content.length ≤ maxBytes ∨ maxBytes = 0 ∨
        (Kept keepArchives (directoryAtTurn clock maxBytes keepArchives dir name) name
            (nextArchiveName (directoryAtTurn clock maxBytes keepArchives dir name) name
              (clock name)) ∧
          LineFits maxBytes content) := by
  have hkey : name ∈ dir.keys := (dir.mem_keys_iff name).2 ⟨content, hlog⟩
  obtain ⟨hturn, hlater⟩ := rotateStateLogs_get? clock maxBytes keepArchives hkey hname
  rw [hlog] at hturn
  generalize directoryAtTurn clock maxBytes keepArchives dir name = turn at hturn hlater
  obtain ⟨hindex, hfree⟩ := nextArchiveName_spec turn name (clock name)
  rw [hlater _ (.inr hindex), hlater _ (.inl rfl)]
  by_cases hsize : content.length ≤ maxBytes
  · have hnone : turn.get? (nextArchiveName turn name (clock name)) = none :=
      (turn.get?_eq_none_iff _).2 hfree
    rw [rotateLog_of_le hturn hsize, hturn, hnone]
    simp only [hsize, true_or, iff_true, Option.getD_none, Option.getD_some]
    exact ⟨0, 0, rfl, by simp, Nat.zero_le _⟩
  · obtain ⟨hcurrent, harchive⟩ := rotateLog_get? (clock name) keepArchives hturn
      (Nat.lt_of_not_le hsize)
    rw [hcurrent, harchive, Option.getD_some]
    have hover := Nat.lt_of_not_le hsize
    rcases Nat.eq_zero_or_pos maxBytes with rfl | hpos
    · -- nothing is to be kept, and nothing is
      simp only [true_or, or_true, iff_true]
      have hnil : current 0 content = [] ∧ archived 0 content = [] := by
        have hdrop : content.drop (content.length - 0) = [] := by simp
        have hnotMem : newline ∉ content.drop (content.length - 0) := by rw [hdrop]; simp
        obtain ⟨hcur, hstart⟩ := current_of_notMem hover hnotMem
        refine ⟨hcur, ?_⟩
        rw [archived, hstart, readRange, Nat.sub_zero, Nat.sub_zero, Nat.sub_self, List.take_zero]
        exact (windowLines_of_notMem hover (by simp)).2
      refine ⟨(Lines.lines newline content).length, 0, ?_, ?_, ?_⟩
      · rw [hnil.2]
        simp
      · rw [hnil.1]
        simp
      · simp
    · have hzero : maxBytes ≠ 0 := by omega
      simp only [hsize, hzero, false_or]
      by_cases hkept : Kept keepArchives turn name (nextArchiveName turn name (clock name))
      · simp only [hkept, if_true, true_and]
        exact keepsTail_parts_iff hpos hover
      · simp only [hkept, if_false, false_and, iff_false]
        exact not_keepsTail_nil hpos hover

/-! ### Two logs -/

/-- A state directory with one log. -/
def sampleDirectory (content : Bytes) : Directory where
  entries := [(js "a.jsonl", content)]
  nodup := List.nodup_singleton _

theorem sampleTime_iso : Incidents.isIsoTimestamp (js "2026-07-13T10:00:00.000Z") = true := by
  decide +kernel

def sampleTime : IsoTimestamp := ⟨js "2026-07-13T10:00:00.000Z", sampleTime_iso⟩

/-- Of the lines `a`, `bb` and `c` the last two overlap the last four bytes. -/
theorem rotateStateLogs_keepsTail_sample :
    KeepsTail 4 [97, 10, 98, 98, 10, 99, 10]
        (((rotateStateLogs (fun _ => sampleTime) 4 5
          (sampleDirectory [97, 10, 98, 98, 10, 99, 10])).get? (nextArchiveName
            (directoryAtTurn (fun _ => sampleTime) 4 5
              (sampleDirectory [97, 10, 98, 98, 10, 99, 10]) (js "a.jsonl")) (js "a.jsonl")
            sampleTime)).getD [])
        (((rotateStateLogs (fun _ => sampleTime) 4 5
          (sampleDirectory [97, 10, 98, 98, 10, 99, 10])).get? (js "a.jsonl")).getD []) := by
  refine (rotateStateLogs_keepsTail_iff (fun _ => sampleTime) 4 5
    (sampleDirectory [97, 10, 98, 98, 10, 99, 10]) (js "a.jsonl") [97, 10, 98, 98, 10, 99, 10]
    (by decide +kernel) ⟨js "a", by decide⟩).2 (.inr (.inr ⟨by decide +kernel, ?_⟩))
  exact ⟨[97, 10], [98, 98, 10], [99, 10],
    ⟨rfl, .inr ⟨[97], rfl⟩, ⟨[98, 98], rfl, by decide⟩, by decide, by decide⟩, .inr (by decide)⟩

/-- A log that ends within a line longer than the limit is emptied, and nothing is archived. -/
theorem rotateStateLogs_loses_tail :
    ¬ ∀ (clock : JsString → IsoTimestamp) (maxBytes keepArchives : ℕ) (dir : Directory)
      (name : JsString) (content : Bytes), dir.get? name = some content → js ".jsonl" <:+ name →
      KeepsTail maxBytes content
        (((rotateStateLogs clock maxBytes keepArchives dir).get? (nextArchiveName
          (directoryAtTurn clock maxBytes keepArchives dir name) name (clock name))).getD [])
        (((rotateStateLogs clock maxBytes keepArchives dir).get? name).getD []) := by
  intro h
  have hsample := h (fun _ => sampleTime) 2 5 (sampleDirectory [97, 10, 98, 98, 98, 98])
    (js "a.jsonl") [97, 10, 98, 98, 98, 98] (by decide +kernel) ⟨js "a", by decide⟩
  have hlog : (rotateStateLogs (fun _ => sampleTime) 2 5
      (sampleDirectory [97, 10, 98, 98, 98, 98])).get? (js "a.jsonl") = some [] := by
    decide +kernel
  have harchive : (rotateStateLogs (fun _ => sampleTime) 2 5
      (sampleDirectory [97, 10, 98, 98, 98, 98])).get? (nextArchiveName
        (directoryAtTurn (fun _ => sampleTime) 2 5 (sampleDirectory [97, 10, 98, 98, 98, 98])
          (js "a.jsonl")) (js "a.jsonl") sampleTime) = none := by
    decide +kernel
  rw [hlog, harchive] at hsample
  obtain ⟨front, htext, -, -, hfront⟩ := keepsTail_iff.1 hsample
  have hlength := congrArg List.length htext
  simp at hlength hfront
  omega

end StateLogs
end Autopilot
