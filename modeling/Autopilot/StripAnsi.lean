/-
Taking the escape sequences out of the output of a terminal, `stripAnsi` of `cliWorkerCapture.ts`.

Four patterns are taken out, one after the other: control sequences, operating system commands with
their end, those without one up to the end of the line, and sequences of two characters. Then the ends
of the lines are made line feeds, and the text is trimmed.

What starts with an escape and is no sequence stays. The text behind it may be a sequence that is taken
out, and then what follows that comes to stand behind the escape.
-/
import Autopilot.Lib.Erasure
import Autopilot.PatternComponents

set_option autoImplicit false

namespace Autopilot

namespace Ansi

open Erasure
open PatternComponents (trim_sublist trim_trim length_trim_le)

/-! ## Units -/

/-- `\x1b`. -/
def esc : UInt16 := 27

/-- `[\x30-\x3f]`. -/
def isParameter (c : UInt16) : Bool := 0x30 ≤ c && c ≤ 0x3f

/-- `[\x20-\x2f]`. -/
def isIntermediate (c : UInt16) : Bool := 0x20 ≤ c && c ≤ 0x2f

/-- `[\x40-\x7e]`. -/
def isFinal (c : UInt16) : Bool := 0x40 ≤ c && c ≤ 0x7e

/-- `[@-Z\\-_]`. -/
def isSecond (c : UInt16) : Bool := (64 ≤ c && c ≤ 90) || (92 ≤ c && c ≤ 95)

/-- `[^\x07\x1b]`. -/
def isBody (c : UInt16) : Bool := c ≠ 7 && c ≠ esc

/-- `[^\r\n]`. -/
def isInLine (c : UInt16) : Bool := c ≠ 13 && c ≠ 10

/-! ## The patterns -/

/-- `/\x1b\[[\x30-\x3f]*[\x20-\x2f]*[\x40-\x7e]/`. No unit is in two of the classes, so no repetition
has to give a unit back. -/
def cutCsi : JsString → Option JsString
  | c :: d :: text =>
    if c = esc ∧ d = 91 then
      match (text.dropWhile isParameter).dropWhile isIntermediate with
      | last :: rest => if isFinal last then some rest else none
      | [] => none
    else none
  | _ => none

/-- `/\x1b\][^\x07\x1b]*(?:\x07|\x1b\\)/`. -/
def cutOsc : JsString → Option JsString
  | c :: d :: text =>
    if c = esc ∧ d = 93 then
      match text.dropWhile isBody with
      | [] => none
      | last :: rest =>
        if last = 7 then some rest
        else if rest.head? = some 92 then some rest.tail else none
    else none
  | _ => none

/-- `/\x1b\][^\r\n]*/`. -/
def cutOpenOsc : JsString → Option JsString
  | c :: d :: text => if c = esc ∧ d = 93 then some (text.dropWhile isInLine) else none
  | _ => none

/-- `/\x1b[@-Z\\-_]/`. -/
def cutTwo : JsString → Option JsString
  | c :: d :: text => if c = esc ∧ isSecond d then some text else none
  | _ => none

/-! ### Sequences -/

/-- What stands behind the escape of a control sequence. -/
def CsiTail (tail : JsString) : Prop :=
  ∃ parameters intermediates : JsString, ∃ last, (∀ c ∈ parameters, isParameter c = true) ∧
    (∀ c ∈ intermediates, isIntermediate c = true) ∧ isFinal last = true ∧
    tail = 91 :: (parameters ++ (intermediates ++ [last]))

def IsCsi (g : JsString) : Prop := ∃ tail, CsiTail tail ∧ g = esc :: tail

def IsOsc (g : JsString) : Prop :=
  ∃ body : JsString, (∀ c ∈ body, isBody c = true) ∧
    (g = esc :: 93 :: (body ++ [7]) ∨ g = esc :: 93 :: (body ++ [esc, 92]))

def IsOpenOsc (g : JsString) : Prop :=
  ∃ body : JsString, (∀ c ∈ body, isInLine c = true) ∧ g = esc :: 93 :: body

def IsTwo (g : JsString) : Prop := ∃ c, isSecond c = true ∧ g = [esc, c]

/-- The classes have no unit in common. -/
theorem not_class_of_final {c : UInt16} (h : isFinal c = true) :
    isParameter c = false ∧ isIntermediate c = false := by
  unfold isFinal isParameter isIntermediate at *
  simp only [Bool.and_eq_true, decide_eq_true_eq, UInt16.le_iff_toNat_le] at h
  simp only [Bool.and_eq_false_iff, decide_eq_false_iff_not, UInt16.le_iff_toNat_le]
  have h40 : (0x40 : UInt16).toNat = 0x40 := rfl
  have h3f : (0x3f : UInt16).toNat = 0x3f := rfl
  have h2f : (0x2f : UInt16).toNat = 0x2f := rfl
  omega

theorem not_parameter_of_intermediate {c : UInt16} (h : isIntermediate c = true) :
    isParameter c = false := by
  unfold isParameter isIntermediate at *
  simp only [Bool.and_eq_true, decide_eq_true_eq, UInt16.le_iff_toNat_le] at h
  simp only [Bool.and_eq_false_iff, decide_eq_false_iff_not, UInt16.le_iff_toNat_le]
  have h30 : (0x30 : UInt16).toNat = 0x30 := rfl
  have h2f : (0x2f : UInt16).toNat = 0x2f := rfl
  omega

/-- A run of a class ends where the class does. -/
theorem dropWhile_run {p : UInt16 → Bool} {run : JsString} (hrun : ∀ c ∈ run, p c = true)
    {c : UInt16} (hc : p c = false) (rest : JsString) :
    (run ++ c :: rest).dropWhile p = c :: rest := by
  rw [List.dropWhile_append_of_pos hrun,
    List.dropWhile_cons_of_neg (by rw [hc]; exact Bool.false_ne_true)]

theorem cutCsi_of_isCsi {g : JsString} (h : IsCsi g) (rest : JsString) :
    cutCsi (g ++ rest) = some rest := by
  obtain ⟨tail, ⟨parameters, intermediates, last, hp, hi, hlast, rfl⟩, rfl⟩ := h
  have hclasses := not_class_of_final hlast
  have htext : (parameters ++ (intermediates ++ [last]) ++ rest).dropWhile isParameter =
      intermediates ++ last :: rest := by
    rw [List.append_assoc, List.append_assoc, List.singleton_append]
    cases intermediates with
    | nil => exact dropWhile_run hp hclasses.1 rest
    | cons c intermediates =>
      exact dropWhile_run hp (not_parameter_of_intermediate (hi c List.mem_cons_self)) _
  unfold cutCsi
  rw [List.cons_append, List.cons_append]
  dsimp only
  rw [if_pos ⟨rfl, rfl⟩, htext, dropWhile_run hi hclasses.2 rest]
  dsimp only
  rw [if_pos hlast]

theorem isCsi_of_cutCsi {text rest : JsString} (h : cutCsi text = some rest) :
    ∃ g, IsCsi g ∧ text = g ++ rest := by
  unfold cutCsi at h
  split at h
  · rename_i c d text
    split at h
    · rename_i hstart
      obtain ⟨rfl, rfl⟩ := hstart
      split at h
      · rename_i last behind hbehind
        split at h
        · rename_i hlast
          obtain rfl := Option.some.inj h
          have hsplit := List.takeWhile_append_dropWhile (p := isParameter) (l := text)
          have hsplit' := List.takeWhile_append_dropWhile (p := isIntermediate)
            (l := text.dropWhile isParameter)
          rw [hbehind] at hsplit'
          refine ⟨_, ⟨_, ⟨text.takeWhile isParameter,
            (text.dropWhile isParameter).takeWhile isIntermediate, last, ?_, ?_, hlast, rfl⟩,
            rfl⟩, ?_⟩
          · exact fun c hc => List.mem_takeWhile_imp hc
          · exact fun c hc => List.mem_takeWhile_imp hc
          · simp only [List.cons_append, List.append_assoc, List.nil_append]
            rw [hsplit', hsplit]
        · cases h
      · cases h
    · cases h
  · cases h

theorem cutOsc_of_isOsc {g : JsString} (h : IsOsc g) (rest : JsString) :
    cutOsc (g ++ rest) = some rest := by
  obtain ⟨body, hbody, rfl | rfl⟩ := h
  · unfold cutOsc
    rw [List.cons_append, List.cons_append]
    dsimp only
    rw [if_pos ⟨rfl, rfl⟩, List.append_assoc, List.singleton_append,
      dropWhile_run hbody (c := 7) rfl]
    rfl
  · unfold cutOsc
    rw [List.cons_append, List.cons_append]
    dsimp only
    rw [if_pos ⟨rfl, rfl⟩, List.append_assoc]
    show (match (body ++ esc :: 92 :: rest).dropWhile isBody with
      | [] => none
      | last :: rest => if last = 7 then some rest
        else if rest.head? = some 92 then some rest.tail else none) = _
    rw [dropWhile_run hbody (c := esc) rfl]
    rfl

theorem isOsc_of_cutOsc {text rest : JsString} (h : cutOsc text = some rest) :
    ∃ g, IsOsc g ∧ text = g ++ rest := by
  unfold cutOsc at h
  split at h
  · rename_i c d text
    split at h
    · rename_i hstart
      obtain ⟨rfl, rfl⟩ := hstart
      have hsplit := List.takeWhile_append_dropWhile (p := isBody) (l := text)
      have hbody : ∀ c ∈ text.takeWhile isBody, isBody c = true :=
        fun c hc => List.mem_takeWhile_imp hc
      have hlast? := List.head?_dropWhile_not isBody text
      generalize text.takeWhile isBody = body at hsplit hbody
      split at h
      · cases h
      · rename_i last behind hbehind
        rw [hbehind] at hsplit hlast?
        split at h
        · rename_i hlast
          obtain rfl := Option.some.inj h
          refine ⟨_, ⟨body, hbody, .inl rfl⟩, ?_⟩
          rw [← hsplit, hlast]
          simp
        · rename_i hlast
          split at h
          · rename_i hhead
            obtain rfl := Option.some.inj h
            have hesc : last = esc := by
              have hnot : isBody last = false := hlast?
              unfold isBody at hnot
              simpa [hlast] using hnot
            obtain ⟨tail, rfl⟩ := List.head?_eq_some_iff.1 hhead
            refine ⟨_, ⟨body, hbody, .inr rfl⟩, ?_⟩
            rw [← hsplit, hesc]
            simp
          · cases h
    · cases h
  · cases h

theorem cutOpenOsc_of_start (text : JsString) :
    cutOpenOsc (esc :: 93 :: text) = some (text.dropWhile isInLine) := by
  unfold cutOpenOsc
  exact if_pos ⟨rfl, rfl⟩

theorem exists_of_cutOpenOsc {text rest : JsString} (h : cutOpenOsc text = some rest) :
    ∃ line, text = esc :: 93 :: line ∧ rest = line.dropWhile isInLine := by
  unfold cutOpenOsc at h
  split at h
  · split at h
    · rename_i line hstart
      obtain ⟨rfl, rfl⟩ := hstart
      exact ⟨line, rfl, (Option.some.inj h).symm⟩
    · cases h
  · cases h

theorem isOpenOsc_of_cutOpenOsc {text rest : JsString} (h : cutOpenOsc text = some rest) :
    ∃ g, IsOpenOsc g ∧ text = g ++ rest := by
  obtain ⟨line, rfl, rfl⟩ := exists_of_cutOpenOsc h
  refine ⟨_, ⟨line.takeWhile isInLine, fun c hc => List.mem_takeWhile_imp hc, rfl⟩, ?_⟩
  rw [List.cons_append, List.cons_append, List.takeWhile_append_dropWhile]

theorem cutTwo_of_isTwo {g : JsString} (h : IsTwo g) (rest : JsString) :
    cutTwo (g ++ rest) = some rest := by
  obtain ⟨c, hc, rfl⟩ := h
  exact if_pos ⟨rfl, hc⟩

theorem isTwo_of_cutTwo {text rest : JsString} (h : cutTwo text = some rest) :
    ∃ g, IsTwo g ∧ text = g ++ rest := by
  unfold cutTwo at h
  split at h
  · rename_i c d text
    split at h
    · rename_i hstart
      obtain ⟨rfl, hd⟩ := hstart
      obtain rfl := Option.some.inj h
      exact ⟨_, ⟨d, hd, rfl⟩, rfl⟩
    · cases h
  · cases h

/-! ## What the program does -/

/-- `.replace(/…/g, "")` for the control sequences. -/
def csi : Cutter esc where
  cut := cutCsi
  starts h := by
    obtain ⟨g, ⟨tail, -, rfl⟩, htext⟩ := isCsi_of_cutCsi h
    exact ⟨tail, htext⟩

/-- The same for the commands with their end. -/
def osc : Cutter esc where
  cut := cutOsc
  starts h := by
    obtain ⟨g, ⟨body, -, rfl | rfl⟩, htext⟩ := isOsc_of_cutOsc h <;> exact ⟨_, htext⟩

/-- The same for the commands without one. -/
def openOsc : Cutter esc where
  cut := cutOpenOsc
  starts h := by
    obtain ⟨g, ⟨body, -, rfl⟩, htext⟩ := isOpenOsc_of_cutOpenOsc h
    exact ⟨_, htext⟩

/-- The same for the sequences of two characters. -/
def twoChar : Cutter esc where
  cut := cutTwo
  starts h := by
    obtain ⟨g, ⟨c, -, rfl⟩, htext⟩ := isTwo_of_cutTwo h
    exact ⟨_, htext⟩

/-- `.replace(/\r\n/g, "\n")`: a carriage return in front of a line feed goes. -/
def crlf : JsString → JsString
  | [] => []
  | c :: rest => if c = 13 ∧ rest.head? = some 10 then crlf rest else c :: crlf rest

/-- `.replace(/\r/g, "\n")`. -/
def cr (text : JsString) : JsString := text.map fun c => if c = 13 then 10 else c

/-- `stripAnsi`. -/
def stripAnsi (raw : JsString) : JsString :=
  trim (cr (crlf (twoChar.erase (openOsc.erase (osc.erase (csi.erase raw))))))

example : stripAnsi (js "\x1b]0;title\x07\x1b[1mok\x1b[0m\r\n") = js "ok" := by decide

/-! ## Doing it again -/

/-- What one of the patterns finds. -/
def Recognised (g : JsString) : Prop :=
  IsCsi g ∨ IsOsc g ∨ IsOpenOsc g ∨ IsTwo g ∨ g = [13, 10] ∨ g = [13]

/-- A part of the text is what a pattern finds. -/
def HasRecognised (text : JsString) : Prop := ∃ g, g <:+: text ∧ Recognised g

theorem crlf_sublist (text : JsString) : (crlf text).Sublist text := by
  induction text with
  | nil => exact List.Sublist.refl []
  | cons c rest ih =>
    rw [crlf]
    split
    · exact ih.trans (List.sublist_cons_self c rest)
    · exact ih.cons_cons c

theorem crlf_eq_self {text : JsString} (h : 13 ∉ text) : crlf text = text := by
  induction text with
  | nil => rfl
  | cons c rest ih =>
    rw [List.mem_cons, not_or] at h
    rw [crlf, if_neg fun hc => h.1 hc.1.symm, ih h.2]

theorem length_cr (text : JsString) : (cr text).length = text.length := List.length_map ..

theorem cr_eq_self {text : JsString} (h : 13 ∉ text) : cr text = text := by
  unfold cr
  conv_rhs => rw [← List.map_id text]
  refine List.map_congr_left fun c hc => if_neg fun hcr => h ?_
  rw [← hcr]
  exact hc

theorem notMem_cr (text : JsString) : 13 ∉ cr text := by
  intro h
  obtain ⟨c, -, hc⟩ := List.mem_map.1 h
  by_cases hcr : c = 13
  · rw [if_pos hcr] at hc
    exact absurd hc (by decide)
  · rw [if_neg hcr] at hc
    exact hcr hc

theorem notMem_stripAnsi (raw : JsString) : 13 ∉ stripAnsi raw :=
  fun h => notMem_cr _ ((trim_sublist _).subset h)

/-- A pass leaves a text as it is when it holds no sequence of the kind. -/
theorem erase_eq_self {k : Cutter esc} {seq : JsString → Prop}
    (hcut : ∀ text rest, k.cut text = some rest → ∃ g, seq g ∧ text = g ++ rest) {text : JsString}
    (h : ∀ g, g <:+: text → ¬seq g) : k.erase text = text := by
  refine (k.erase_eq_self_iff text).2 fun before behind htext => ?_
  cases hbehind : k.cut behind with
  | none => rfl
  | some rest =>
    obtain ⟨g, hg, rfl⟩ := hcut _ _ hbehind
    exact absurd hg (h g ⟨before, rest, by rw [htext, List.append_assoc]⟩)

/-- A text that a pass leaves as it is holds no sequence of the kind. -/
theorem not_seq_of_erase_eq {k : Cutter esc} {text g : JsString} (h : k.erase text = text)
    (hcut : ∀ rest, (k.cut (g ++ rest)).isSome) : ¬g <:+: text := by
  rintro ⟨before, behind, rfl⟩
  have hnone := (k.erase_eq_self_iff _).1 h before (g ++ behind) (List.append_assoc ..)
  have hsome := hcut behind
  rw [hnone] at hsome
  cases hsome

/-- **To do it again** changes nothing when nothing is left that a pattern finds, and only then. -/
theorem stripAnsi_stripAnsi_iff (raw : JsString) :
    stripAnsi (stripAnsi raw) = stripAnsi raw ↔ ¬HasRecognised (stripAnsi raw) := by
  have hcr := notMem_stripAnsi raw
  have htrim : trim (stripAnsi raw) = stripAnsi raw := trim_trim _
  generalize stripAnsi raw = text at *
  constructor
  · rintro h ⟨g, hin, hg⟩
    -- no pass has made the text shorter, so each has left it as it is
    have hlast : text.length ≤
        (twoChar.erase (openOsc.erase (osc.erase (csi.erase text)))).length := by
      calc text.length = (stripAnsi text).length := by rw [h]
        _ ≤ (cr (crlf _)).length := length_trim_le _
        _ = (crlf _).length := length_cr _
        _ ≤ _ := (crlf_sublist _).length_le
    have htwo := twoChar.length_erase_le (openOsc.erase (osc.erase (csi.erase text)))
    have hopen := openOsc.length_erase_le (osc.erase (csi.erase text))
    have hosc := osc.length_erase_le (csi.erase text)
    have hcsi : csi.erase text = text :=
      (csi.erase_sublist text).eq_of_length_le (by omega)
    rw [hcsi] at htwo hopen hosc hlast
    have hosc' : osc.erase text = text := (osc.erase_sublist text).eq_of_length_le (by omega)
    rw [hosc'] at htwo hopen hlast
    have hopen' : openOsc.erase text = text :=
      (openOsc.erase_sublist text).eq_of_length_le (by omega)
    rw [hopen'] at htwo hlast
    have htwo' : twoChar.erase text = text :=
      (twoChar.erase_sublist text).eq_of_length_le hlast
    rcases hg with hg | hg | ⟨body, -, rfl⟩ | hg | rfl | rfl
    · exact not_seq_of_erase_eq hcsi (fun rest => Option.isSome_of_mem (cutCsi_of_isCsi hg rest)) hin
    · exact not_seq_of_erase_eq hosc' (fun rest => Option.isSome_of_mem (cutOsc_of_isOsc hg rest)) hin
    · exact not_seq_of_erase_eq hopen'
        (fun rest => Option.isSome_of_mem (cutOpenOsc_of_start (body ++ rest))) hin
    · exact not_seq_of_erase_eq htwo' (fun rest => Option.isSome_of_mem (cutTwo_of_isTwo hg rest)) hin
    · exact hcr (hin.subset List.mem_cons_self)
    · exact hcr (hin.subset List.mem_cons_self)
  · intro h
    have hnone : ∀ g, g <:+: text → ¬Recognised g := fun g hin hg => h ⟨g, hin, hg⟩
    unfold stripAnsi
    rw [erase_eq_self (k := csi) (fun _ _ => isCsi_of_cutCsi) fun g hin hg =>
        hnone g hin (.inl hg),
      erase_eq_self (k := osc) (fun _ _ => isOsc_of_cutOsc) fun g hin hg =>
        hnone g hin (.inr (.inl hg)),
      erase_eq_self (k := openOsc) (fun _ _ => isOpenOsc_of_cutOpenOsc) fun g hin hg =>
        hnone g hin (.inr (.inr (.inl hg))),
      erase_eq_self (k := twoChar) (fun _ _ => isTwo_of_cutTwo) fun g hin hg =>
        hnone g hin (.inr (.inr (.inr (.inl hg)))),
      crlf_eq_self hcr, cr_eq_self hcr, htrim]

end Ansi

end Autopilot
