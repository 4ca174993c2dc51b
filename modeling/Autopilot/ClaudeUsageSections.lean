/-
Which section the usage figures of a screen come from.

A screen is made of sections, and each section has a body of lines. A figure should come from the
body of its own section. It does exactly where no section with a figure stands behind one that
lacks it: the search for a percentage goes on until there is one. The time of a reset is looked for
behind blanks, and these do not end with the body either.
-/
import Autopilot.ClaudeUsage

set_option autoImplicit false

namespace Autopilot
namespace ClaudeUsage

open Searches

/-! ## Screens -/

/-- There is no heading in the text. -/
def headingFree (text : JsString) : Bool :=
  text.tails.all fun part => (word "Current session" part).isNone &&
    (word "Current week (" part).isNone

/-- The lines behind a heading. -/
structure Body where
  text : JsString
  lines : text.getLast? = some 10
  free : headingFree text = true

/-- A name that a family has in its heading. -/
def isFamilyLabel (name : JsString) : Bool :=
  name.head?.any PatternComponents.isLetter && name.length ≤ 41 && name.all isLabelUnit &&
    word "all models" name ≠ some ((), [])

/-- A family and the lines behind its heading. -/
structure Family where
  name : JsString
  isLabel : isFamilyLabel name = true
  body : Body

/-- The headed sections of a screen, and what stands in front of them. -/
structure Screen where
  preamble : JsString
  free : headingFree preamble = true
  session : Body
  week : Body
  families : List Family

/-- The heading of a week. -/
def weekHeading (name : JsString) : JsString := js "Current week (" ++ (name ++ [41])

/-- The sections of the weeks. -/
def weeksText : List (JsString × Body) → JsString
  | [] => []
  | (name, body) :: rest => weekHeading name ++ (body.text ++ weeksText rest)

def Family.section (family : Family) : JsString × Body := (family.name, family.body)

namespace Screen

variable (screen : Screen)

/-- The weeks, of which the first one is that of all models. -/
def weeks : List (JsString × Body) :=
  (js "all models", screen.week) :: screen.families.map Family.section

def text : JsString :=
  screen.preamble ++
    (js "Current session" ++ (screen.session.text ++ weeksText screen.weeks))

end Screen

/-! ## Own figures -/

/-- The window that a body tells of. -/
def Body.figure (body : Body) : Option (JsString × JsString) :=
  (search ClaudeUsage.figure body.text).map fun found => found.2.1

/-- The percentage that a body tells of. -/
def Body.percent (body : Body) : Option JsString :=
  (search percentUsed body.text).map fun found => found.2.1

/-- The families that have a percentage in their own bodies, each with the place of its heading. -/
def ownFamilies : List Family → List (ℕ × JsString × JsString)
  | [] => []
  | family :: rest =>
    match family.body.percent with
    | some percent =>
      ((weeksText ((family :: rest).map Family.section)).length, family.name, percent) ::
        ownFamilies rest
    | none => ownFamilies rest

/-- What each section of a screen tells of itself. -/
def Screen.own (screen : Screen) : Matches where
  session := screen.session.figure
  week := screen.week.figure
  families := ownFamilies screen.families

/-! ## The condition -/

/-- A percentage, `Resets`, and all blanks behind it. -/
def resetting : Reader UInt16 JsString :=
  percentResets.andThen fun percent => blanks.andThen fun _ => fun rest => some (percent, rest)

/-- There is no percentage with a reset. -/
def Body.Lacks (body : Body) : Prop := search resetting body.text = none

/-- There is a percentage with a reset, and behind the first one there is more than blanks. -/
def Body.Holds (body : Body) : Prop :=
  ∃ found, search resetting body.text = some found ∧ found.2.2 ≠ []

/-- A body, or one behind it, has what reads as a window. -/
def Shows : List Body → Prop
  | [] => False
  | [body] => body.figure ≠ none
  | body :: rest => ¬body.Lacks ∨ Shows rest

/-- No section with a figure stands behind one that lacks it, and no reset is left open. -/
structure Screen.Settled (screen : Screen) : Prop where
  session : screen.session.Holds ∨
    screen.session.Lacks ∧ ¬Shows (screen.week :: screen.families.map Family.body)
  week : screen.families = [] ∨ screen.week.Holds ∨
    screen.week.Lacks ∧ ¬Shows (screen.families.map Family.body)
  families : screen.families.Pairwise fun family later =>
    later.body.percent ≠ none → family.body.percent ≠ none

/-! ## Readers on a body -/

theorem local_word {stop : UInt16} {s : String}
    (h : ((js s).all fun c => !sameLetter c stop) = true) : Local stop (word s) :=
  local_literal fun c hc => by simpa using List.all_eq_true.1 h c hc

theorem local_fraction {stop : UInt16} (hdigit : JsonText.isDigit stop = false)
    (hdot : stop ≠ 46) : Local stop fraction := by
  intro text more hmore
  cases text with
  | nil =>
    cases more with
    | nil => rfl
    | cons c more =>
      obtain rfl : c = stop := hmore c rfl
      show fraction (c :: more) = some ([], c :: more)
      rw [fraction, if_neg hdot]
  | cons c text =>
    rw [List.cons_append, fraction, fraction]
    split
    · have hdigits := local_taken hdigit text more hmore
      unfold digits
      rw [hdigits]
      cases taken JsonText.isDigit text <;> rfl
    · rfl

/-- A unit that neither a percentage nor a word behind it has. -/
structure Stops (stop : UInt16) : Prop where
  digit : JsonText.isDigit stop = false
  dot : stop ≠ 46
  blank : isWhitespace stop = false
  percent : ((js "%").all fun c => !sameLetter c stop) = true
  used : ((js "used").all fun c => !sameLetter c stop) = true

theorem local_percentUsed {stop : UInt16} (h : Stops stop) : Local stop percentUsed := by
  unfold percentUsed
  refine (local_taken h.digit).andThen fun whole => ?_
  refine (local_fraction h.digit h.dot).andThen fun part => ?_
  refine (local_word h.percent).andThen fun _ => ?_
  refine (local_taken h.blank).andThen fun _ => ?_
  exact (local_word h.used).andThen fun _ => local_some _

theorem stops_c : Stops 67 := ⟨by decide, by decide, by decide, by decide, by decide⟩

theorem stops_bracket : Stops 41 := ⟨by decide, by decide, by decide, by decide, by decide⟩

theorem local_percentResets : Local 67 percentResets := by
  unfold percentResets
  refine (local_percentUsed stops_c).andThen fun percent => ?_
  refine (local_taken stops_c.blank).andThen fun _ => ?_
  exact (local_word (by decide)).andThen fun _ => local_some _

theorem percentUsed_nil : percentUsed [] = none := rfl

theorem shrinks_fraction : Shrinks fraction := by
  intro text r h
  cases text with
  | nil =>
    obtain rfl := Option.some.inj h
    exact List.suffix_refl _
  | cons c text =>
    rw [fraction] at h
    split at h
    · split at h
      · obtain rfl := Option.some.inj h
        rename_i hdigits
        exact (shrinks_taken _ _ _ hdigits).trans (List.suffix_cons c text)
      · obtain rfl := Option.some.inj h
        exact List.suffix_refl _
    · obtain rfl := Option.some.inj h
      exact List.suffix_refl _

theorem shrinks_percentUsed : Shrinks percentUsed := by
  unfold percentUsed
  refine (shrinks_taken _).andThen fun whole => shrinks_fraction.andThen fun part => ?_
  refine (shrinks_literal _ _).andThen fun _ => (shrinks_taken _).andThen fun _ => ?_
  exact (shrinks_literal _ _).andThen fun _ => shrinks_some _

theorem shrinks_percentResets : Shrinks percentResets := by
  unfold percentResets
  refine shrinks_percentUsed.andThen fun percent => (shrinks_taken _).andThen fun _ => ?_
  exact (shrinks_literal _ _).andThen fun _ => shrinks_some _

/-! ## Where a window is found -/

/-- Nothing of the text ends without the end of a line. -/
def EndsLines (text : JsString) : Prop := ∀ part, part ≠ [] → part <:+ text → 10 ∈ part

theorem endsLines_of_getLast {text : JsString} (h : text.getLast? = some 10) : EndsLines text := by
  rintro part hne ⟨front, rfl⟩
  rw [List.getLast?_append_of_ne_nil _ hne] at h
  exact List.mem_of_getLast? h

/-- With all blanks taken, what is left of the line is read. -/
theorem behindBlanks_of_restOfLine (text : JsString) {r : JsString × JsString}
    (hblanks : text.takeWhile isWhitespace ≠ [])
    (h : restOfLine (text.dropWhile isWhitespace) = some r) : behindBlanks text = some r := by
  obtain ⟨count, hcount⟩ := Nat.exists_eq_add_one.2 (List.length_pos_iff.2 hblanks)
  have hdrop : text.drop (1 + count) = text.dropWhile isWhitespace := by
    conv_lhs => rw [← List.takeWhile_append_dropWhile (p := isWhitespace) (l := text)]
    rw [List.drop_append_of_le_length (by omega), List.drop_eq_nil_of_le (by omega),
      List.nil_append]
  unfold behindBlanks
  rw [hcount, List.range'_1_concat, List.reverse_append, List.reverse_singleton,
    List.singleton_append, List.findSome?_cons, hdrop, h]

theorem isInLine_of_not_blank {c : UInt16} (h : isWhitespace c = false) : isInLine c = true := by
  unfold isInLine
  rw [Bool.and_eq_true]
  constructor
  · refine decide_eq_true fun heq => ?_
    rw [heq] at h
    exact absurd h (by decide)
  · refine decide_eq_true fun heq => ?_
    rw [heq] at h
    exact absurd h (by decide)

section place

variable {text more : JsString}

/-- Where no percentage with a reset is read, no window is, whatever stands behind. -/
theorem figure_of_resetting_none (h : resetting text = none) (hmore : ∀ c ∈ more.head?, c = 67) :
    figure (text ++ more) = none := by
  unfold resetting Reader.andThen at h
  unfold figure Reader.andThen
  rw [local_percentResets text more hmore]
  cases hread : percentResets text with
  | none => rfl
  | some r =>
    rw [hread, Option.bind_some] at h
    have hblanks : blanks r.2 = none := by
      cases hb : blanks r.2 with
      | none => rfl
      | some b =>
        dsimp only at h
        rw [hb] at h
        cases h
    have htake : r.2.takeWhile isWhitespace = [] := by
      by_contra hne
      unfold blanks taken at hblanks
      rw [if_neg hne] at hblanks
      cases hblanks
    have hrange : behindBlanks (r.2 ++ more) = none := by
      unfold behindBlanks
      rw [(takeWhile_append_stop stops_c.blank r.2 hmore).1, htake]
      rfl
    rw [Option.map_some, Option.bind_some]
    dsimp only
    rw [hrange]
    rfl

/-- What `resetting` says of the text behind the word. -/
theorem resetting_eq_some {percent left : JsString} (h : resetting text = some (percent, left)) :
    ∃ rest, percentResets text = some (percent, rest) ∧ rest.takeWhile isWhitespace ≠ [] ∧
      rest.dropWhile isWhitespace = left := by
  unfold resetting Reader.andThen at h
  obtain ⟨r, hr, h⟩ := Option.bind_eq_some_iff.1 h
  obtain ⟨b, hb, h⟩ := Option.bind_eq_some_iff.1 h
  unfold blanks taken at hb
  split at hb
  · cases hb
  · obtain rfl := Option.some.inj hb
    obtain ⟨rfl, rfl⟩ := Prod.ext_iff.1 (Option.some.inj h)
    exact ⟨r.2, hr, ‹_›, rfl⟩

/-- Where there is more than blanks behind the word, the window is read, whatever stands behind. -/
theorem figure_of_holds {percent left : JsString} (hlines : EndsLines text)
    (h : resetting text = some (percent, left)) (hleft : left ≠ []) :
    ∃ line rest, ∀ more : JsString, (∀ c ∈ more.head?, c = 67) →
      figure (text ++ more) = some ((percent, line), rest ++ more) := by
  obtain ⟨behind, hread, hblanks, hdrop⟩ := resetting_eq_some h
  have hmem : 10 ∈ left := by
    refine hlines left hleft ?_
    rw [← hdrop]
    exact (List.dropWhile_suffix _).trans (shrinks_percentResets _ _ hread)
  obtain ⟨c, left', hc⟩ := List.exists_cons_of_ne_nil hleft
  have hnot : isWhitespace c = false := by
    have hhead := List.head_dropWhile_not isWhitespace (l := behind) (by rw [hdrop]; exact hleft)
    simpa [hdrop, hc] using hhead
  have hline := taken_cons (isInLine_of_not_blank hnot) left'
  rw [← hc] at hline
  refine ⟨c :: left'.takeWhile isInLine, left'.dropWhile isInLine, fun more hmore => ?_⟩
  have hruns := takeWhile_append_stop stops_c.blank behind hmore
  have hbehind := behindBlanks_of_restOfLine (behind ++ more) (by rwa [hruns.1])
    (by rw [hruns.2, hdrop, restOfLine, taken_append_of_mem (by decide) hmem, hline]; rfl)
  unfold figure Reader.andThen
  rw [local_percentResets text more hmore, hread, Option.map_some, Option.bind_some]
  dsimp only
  rw [hbehind]
  rfl

/-- Where only blanks are left behind the word, the heading behind them is read as a time. -/
theorem figure_of_open {percent : JsString} (h : resetting text = some (percent, []))
    (more : JsString) : ∃ line rest,
      figure (text ++ 67 :: more) = some ((percent, line), rest) ∧
        restOfLine (67 :: more) = some (line, rest) := by
  obtain ⟨behind, hread, hblanks, hdrop⟩ := resetting_eq_some h
  have hmore : ∀ c ∈ (67 :: more).head?, c = 67 := fun c hc => (Option.some.inj hc).symm
  have hline := taken_cons (isInLine_of_not_blank stops_c.blank) more
  have hruns := takeWhile_append_stop stops_c.blank behind hmore
  have hbehind := behindBlanks_of_restOfLine (behind ++ 67 :: more) (by rwa [hruns.1])
    (by rw [hruns.2, hdrop]; exact hline)
  refine ⟨_, _, ?_, hline⟩
  unfold figure Reader.andThen
  rw [local_percentResets text _ hmore, hread, Option.map_some, Option.bind_some]
  dsimp only
  rw [hbehind]
  rfl

end place

/-! ## The first window of a body -/

section body

variable {text : JsString}

/-- A body that lacks a reset is passed over. -/
theorem search_figure_of_lacks (h : search resetting text = none) {more : JsString}
    (hmore : ∀ c ∈ more.head?, c = 67) : search figure (text ++ more) = search figure more :=
  search_append_of_none fun part _ hpart =>
    figure_of_resetting_none (search_eq_none_iff.1 h part hpart) hmore

/-- A body that holds a reset is where the search ends. -/
theorem search_figure_of_holds (hlines : EndsLines text) {found : ℕ × JsString × JsString}
    (h : search resetting text = some found) (hleft : found.2.2 ≠ []) :
    ∃ place value rest, ∀ more : JsString, (∀ c ∈ more.head?, c = 67) →
      search figure (text ++ more) = some (place + more.length, value, rest ++ more) := by
  induction text with
  | nil => cases h
  | cons c text ih =>
    cases hread : resetting (c :: text) with
    | some r =>
      obtain ⟨percent, left⟩ := r
      rw [search_of_some hread] at h
      obtain rfl := Option.some.inj h
      obtain ⟨line, rest, hfigure⟩ := figure_of_holds hlines hread hleft
      refine ⟨(c :: text).length, (percent, line), rest, fun more hmore => ?_⟩
      rw [search_of_some (hfigure more hmore), List.length_append]
    | none =>
      rw [search_cons_of_none hread] at h
      have hrest : EndsLines text := fun part hne hpart =>
        hlines part hne (hpart.trans (List.suffix_cons c text))
      obtain ⟨place, value, rest, hsearch⟩ := ih hrest h
      refine ⟨place, value, rest, fun more hmore => ?_⟩
      rw [List.cons_append, search_cons_of_none, hsearch more hmore]
      exact figure_of_resetting_none hread hmore

/-- Where a reset is left open, the search takes the heading behind the body for its time. -/
theorem search_figure_of_open {place : ℕ} {percent : JsString}
    (h : search resetting text = some (place, percent, [])) (more : JsString) :
    ∃ place' line rest, search figure (text ++ 67 :: more) = some (place', (percent, line), rest) ∧
      restOfLine (67 :: more) = some (line, rest) := by
  have hmore : ∀ c ∈ (67 :: more).head?, c = 67 := fun c hc => (Option.some.inj hc).symm
  induction text with
  | nil => cases h
  | cons c text ih =>
    cases hread : resetting (c :: text) with
    | some r =>
      rw [search_of_some hread] at h
      obtain rfl : r = (percent, []) := congrArg Prod.snd (Option.some.inj h)
      obtain ⟨line, rest, hfigure, hline⟩ := figure_of_open hread more
      exact ⟨_, line, rest, search_of_some hfigure, hline⟩
    | none =>
      rw [search_cons_of_none hread] at h
      obtain ⟨place', line, rest, hsearch, hline⟩ := ih h
      refine ⟨place', line, rest, ?_, hline⟩
      have hnone := figure_of_resetting_none hread hmore
      rw [List.cons_append] at hnone
      rw [List.cons_append, search_cons_of_none hnone, hsearch]

/-- The time that is read is a part of the text. -/
theorem figure_line {percent line rest : JsString} (h : figure text = some ((percent, line), rest)) :
    line ++ rest <:+ text := by
  unfold figure Reader.andThen at h
  obtain ⟨r, hr, h⟩ := Option.bind_eq_some_iff.1 h
  obtain ⟨b, hb, h⟩ := Option.bind_eq_some_iff.1 h
  obtain ⟨hvalue, rfl⟩ := Prod.ext_iff.1 (Option.some.inj h)
  obtain ⟨-, rfl⟩ := Prod.ext_iff.1 hvalue
  obtain ⟨count, -, hline⟩ := List.exists_of_findSome?_eq_some hb
  unfold restOfLine taken at hline
  split at hline
  · cases hline
  · obtain rfl := Option.some.inj hline
    rw [List.takeWhile_append_dropWhile]
    exact (List.drop_suffix _ _).trans (shrinks_percentResets _ _ hr)

end body

/-! ## Headings -/

theorem sameLetter_refl (c : UInt16) : sameLetter c c = true := decide_eq_true rfl

theorem word_self (s : String) (rest : JsString) : word s (js s ++ rest) = some ((), rest) :=
  literal_self sameLetter_refl (js s) rest

theorem headingFree_part {text part : JsString} (h : headingFree text = true)
    (hpart : part <:+ text) :
    word "Current session" part = none ∧ word "Current week (" part = none := by
  have hall := List.all_eq_true.1 h part ((List.mem_tails _ _).2 hpart)
  rwa [Bool.and_eq_true, Option.isNone_iff_eq_none, Option.isNone_iff_eq_none] at hall

/-- **The window that is found is the body's own** exactly where the body holds one, or lacks one
and none is behind it. -/
theorem figure_eq_own_iff (body : Body) (more : JsString) :
    (search figure (body.text ++ (js "Current week (" ++ more))).map (fun found => found.2.1) =
        body.figure ↔
      body.Holds ∨ body.Lacks ∧ search figure (js "Current week (" ++ more) = none := by
  have hmore : ∀ c ∈ (js "Current week (" ++ more).head?, c = 67 :=
    fun c hc => (Option.some.inj hc).symm
  have hnil : ∀ c ∈ ([] : JsString).head?, c = 67 := fun c hc => (nomatch hc)
  have hlines := endsLines_of_getLast body.lines
  unfold Body.figure Body.Holds Body.Lacks
  cases hfound : search resetting body.text with
  | none =>
    have hown := search_figure_of_lacks hfound hnil
    rw [List.append_nil] at hown
    rw [search_figure_of_lacks hfound hmore, hown]
    show Option.map _ (search figure (js "Current week (" ++ more)) = none ↔ _
    rw [Option.map_eq_none_iff]
    constructor
    · exact fun h => .inr ⟨rfl, h⟩
    · rintro (⟨found, h, -⟩ | ⟨-, h⟩)
      · cases h
      · exact h
  | some found =>
    obtain ⟨place, percent, left⟩ := found
    by_cases hleft : left = []
    · subst hleft
      obtain ⟨place', line, rest, hsearch, hline⟩ :=
        search_figure_of_open hfound (js "urrent week (" ++ more)
      have hheading : js "Current week (" ++ more.takeWhile isInLine = line := by
        unfold restOfLine taken at hline
        split at hline
        · cases hline
        · have hfst := congrArg Prod.fst (Option.some.inj hline)
          refine Eq.trans (Eq.symm ?_) hfst
          exact List.takeWhile_append_of_pos
            (show ∀ c ∈ js "Current week (", isInLine c = true from
              List.all_eq_true.1 (by decide))
      refine iff_of_false (fun heq => ?_) ?_
      · -- the heading would stand in the body
        rw [show js "Current week (" ++ more = 67 :: (js "urrent week (" ++ more) from rfl, hsearch,
          Option.map_some] at heq
        obtain ⟨⟨place'', own, rest'⟩, hown, rfl⟩ := Option.map_eq_some_iff.1 heq.symm
        obtain ⟨part, hpart, hfigure⟩ := exists_of_search hown
        have hword := (headingFree_part body.free ((figure_line hfigure).trans hpart)).2
        rw [← hheading, List.append_assoc, word_self] at hword
        cases hword
      · rintro (⟨found, h, hne⟩ | ⟨h, -⟩)
        · obtain rfl := Option.some.inj h
          exact hne rfl
        · cases h
    · obtain ⟨place', value, rest, hsearch⟩ := search_figure_of_holds hlines hfound hleft
      have hown := hsearch [] hnil
      rw [List.append_nil] at hown
      rw [hsearch _ hmore, hown]
      exact ⟨fun _ => .inl ⟨_, rfl, hleft⟩, fun _ => rfl⟩

/-! ## Behind a heading -/

/-- A heading of a week has units of a name in its brackets. -/
def NameUnits (name : JsString) : Prop := ∀ c ∈ name, isLabelUnit c = true

theorem nameUnits_allModels : NameUnits (js "all models") := List.all_eq_true.1 (by decide)

theorem Family.nameUnits (family : Family) : NameUnits family.name := by
  have hlabel := family.isLabel
  unfold isFamilyLabel at hlabel
  rw [Bool.and_eq_true, Bool.and_eq_true] at hlabel
  exact List.all_eq_true.1 hlabel.1.2

theorem eq_of_sameLetter {c d : UInt16} (hc : c.toNat < 65) (h : sameLetter c d = true) :
    d = c := by
  have hlower := of_decide_eq_true h
  unfold Redaction.lowered at hlower
  rw [if_neg (fun hle => absurd (UInt16.le_iff_toNat_le.1 hle.1) (Nat.not_le.2 hc))] at hlower
  split at hlower
  · rename_i hd
    have hlow := UInt16.le_iff_toNat_le.1 hd.1
    have hhigh := UInt16.le_iff_toNat_le.1 hd.2
    have hsum := congrArg UInt16.toNat hlower
    rw [UInt16.toNat_add] at hsum
    change 65 ≤ d.toNat at hlow
    change d.toNat ≤ 90 at hhigh
    change c.toNat = (d.toNat + 32) % 65536 at hsum
    omega
  · exact hlower.symm

theorem percentUsed_mem {text : JsString} {r : JsString × JsString}
    (h : percentUsed text = some r) : 37 ∈ text := by
  unfold percentUsed Reader.andThen at h
  obtain ⟨whole, hwhole, h⟩ := Option.bind_eq_some_iff.1 h
  obtain ⟨part, hpart, h⟩ := Option.bind_eq_some_iff.1 h
  obtain ⟨sign, hsign, -⟩ := Option.bind_eq_some_iff.1 h
  obtain ⟨d, hd, hsame⟩ := mem_of_literal hsign 37 (by decide)
  rw [eq_of_sameLetter (by decide) hsame] at hd
  exact (shrinks_taken _ _ _ hwhole).subset ((shrinks_fraction _ _ hpart).subset hd)

/-- There is no percentage in a heading. -/
theorem percentUsed_heading {name part : JsString} (hname : NameUnits name) (hne : part ≠ [])
    (hpart : part <:+ weekHeading name) (more : JsString) : percentUsed (part ++ more) = none := by
  unfold weekHeading at hpart
  rw [← List.append_assoc] at hpart
  obtain ⟨part', rfl, hpart'⟩ := (List.suffix_concat_iff.1 hpart).resolve_left hne
  have hnone : percentUsed part' = none := by
    cases hread : percentUsed part' with
    | none => rfl
    | some r =>
      have hmem := hpart'.subset (percentUsed_mem hread)
      rcases List.mem_append.1 hmem with hmem | hmem
      · exact absurd hmem (by decide)
      · exact absurd (hname 37 hmem) (by decide)
  have hlocal := local_percentUsed stops_bracket part' (41 :: more)
    (fun c hc => (Option.some.inj hc).symm)
  rw [List.append_assoc, List.singleton_append, hlocal, hnone]
  rfl

theorem figure_of_percentUsed_none {text : JsString} (h : percentUsed text = none) :
    figure text = none := by
  unfold figure percentResets Reader.andThen
  rw [h]
  rfl

theorem search_percent_heading {name : JsString} (hname : NameUnits name) (more : JsString) :
    search percentUsed (weekHeading name ++ more) = search percentUsed more :=
  search_append_of_none fun _ hne hpart => percentUsed_heading hname hne hpart more

theorem search_figure_heading {name : JsString} (hname : NameUnits name) (more : JsString) :
    search figure (weekHeading name ++ more) = search figure more :=
  search_append_of_none fun _ hne hpart =>
    figure_of_percentUsed_none (percentUsed_heading hname hne hpart more)

/-! ## Behind the bodies -/

theorem weeksText_head (weeks : List (JsString × Body)) :
    ∀ c ∈ (weeksText weeks).head?, c = 67 := by
  intro c hc
  cases weeks with
  | nil => cases hc
  | cons week rest => exact (Option.some.inj hc).symm

/-- **A window is found behind a heading** exactly where the bodies show one. -/
theorem search_figure_weeks {weeks : List (JsString × Body)}
    (hnames : ∀ week ∈ weeks, NameUnits week.1) :
    search figure (weeksText weeks) = none ↔ ¬Shows (weeks.map Prod.snd) := by
  induction weeks with
  | nil => exact iff_of_true rfl (fun h => h)
  | cons week rest ih =>
    rw [List.forall_mem_cons] at hnames
    rw [weeksText, search_figure_heading hnames.1]
    cases rest with
    | nil =>
      rw [weeksText, List.append_nil]
      show _ ↔ ¬(week.2.figure ≠ none)
      unfold Body.figure
      rw [not_ne_iff, Option.map_eq_none_iff]
    | cons next rest =>
      have hmore := weeksText_head (next :: rest)
      show _ ↔ ¬(¬week.2.Lacks ∨ Shows ((next :: rest).map Prod.snd))
      rw [not_or, not_not, ← ih hnames.2]
      cases hfound : search resetting week.2.text with
      | none =>
        rw [search_figure_of_lacks hfound hmore]
        exact ⟨fun h => ⟨hfound, h⟩, fun h => h.2⟩
      | some found =>
        refine iff_of_false (fun hnone => ?_) (fun h => ?_)
        · by_cases hleft : found.2.2 = []
          · obtain ⟨place, percent, left⟩ := found
            obtain rfl : left = [] := hleft
            obtain ⟨_, _, _, hsearch, -⟩ := search_figure_of_open hfound
              (js "urrent week (" ++ (next.1 ++ [41]) ++ (next.2.text ++ weeksText rest))
            exact absurd (hsearch.symm.trans hnone) (fun h => nomatch h)
          · obtain ⟨_, _, _, hsearch⟩ := search_figure_of_holds
              (endsLines_of_getLast week.2.lines) hfound hleft
            rw [hsearch _ hmore] at hnone
            cases hnone
        · unfold Body.Lacks at h
          rw [hfound] at h
          cases h.1

/-- A percentage is found behind a heading exactly where a body has one. -/
theorem search_percent_weeks {weeks : List (JsString × Body)}
    (hnames : ∀ week ∈ weeks, NameUnits week.1) :
    search percentUsed (weeksText weeks) = none ↔ ∀ week ∈ weeks, week.2.percent = none := by
  induction weeks with
  | nil => exact iff_of_true rfl (fun _ h => absurd h List.not_mem_nil)
  | cons week rest ih =>
    rw [List.forall_mem_cons] at hnames
    rw [weeksText, search_percent_heading hnames.1,
      search_append (local_percentUsed stops_c) percentUsed_nil _ (weeksText_head rest),
      List.forall_mem_cons, ← ih hnames.2]
    unfold Body.percent
    rw [Option.map_eq_none_iff]
    cases search percentUsed week.2.text with
    | none => exact ⟨fun h => ⟨rfl, h⟩, fun h => h.2⟩
    | some found => exact iff_of_false (fun h => nomatch h) (fun h => nomatch h.1)

/-! ## In front of a heading -/

/-- A heading starts with a letter that it has only there. -/
theorem word_of_head {s : String} {c : UInt16} {tail : JsString} (hs : js s = 67 :: tail)
    (hc : sameLetter 67 c = false) (text : JsString) : word s (c :: text) = none := by
  unfold word
  rw [hs, literal, hc]
  rfl

/-- A heading that does not stand in a text does not start in it. -/
theorem word_append {s : String} {tail part more : JsString} (hs : js s = 67 :: tail)
    (htail : (tail.all fun c => !sameLetter c 67) = true) (hnone : word s part = none)
    (hne : part ≠ []) (hmore : ∀ c ∈ more.head?, c = 67) : word s (part ++ more) = none := by
  have htail' : ∀ d ∈ tail, sameLetter d 67 = false := fun d hd => by
    simpa using List.all_eq_true.1 htail d hd
  have happend := literal_append (c := 67) htail' hne hmore
  unfold word at hnone ⊢
  rw [hs] at hnone ⊢
  rw [happend, hnone]
  rfl

section front

variable {β : Type} {p : Reader UInt16 β} {text more : JsString}

/-- A text without headings is passed over by what starts with the heading of the session. -/
theorem search_session_free (hp : ∀ part, word "Current session" part = none → p part = none)
    (hfree : headingFree text = true) (hmore : ∀ c ∈ more.head?, c = 67) :
    search p (text ++ more) = search p more :=
  search_append_of_none fun part hne hpart => hp _
    (word_append rfl (by decide) (headingFree_part hfree hpart).1 hne hmore)

/-- A text without headings is passed over by what starts with the heading of a week. -/
theorem search_week_free (hp : ∀ part, word "Current week (" part = none → p part = none)
    (hfree : headingFree text = true) (hmore : ∀ c ∈ more.head?, c = 67) :
    search p (text ++ more) = search p more :=
  search_append_of_none fun part hne hpart => hp _
    (word_append rfl (by decide) (headingFree_part hfree hpart).2 hne hmore)

/-- So is the heading of the session. -/
theorem search_week_session (hp : ∀ part, word "Current week (" part = none → p part = none)
    (more : JsString) : search p (js "Current session" ++ more) = search p more := by
  refine search_append_of_none fun part hne hpart => hp _ ?_
  rcases List.suffix_cons_iff.1
    (show part <:+ 67 :: js "urrent session" from hpart) with rfl | hpart
  · rfl
  · obtain ⟨c, part, rfl⟩ := List.exists_cons_of_ne_nil hne
    have hc : sameLetter 67 c = false := by
      simpa using List.all_eq_true.1
        (show ((js "urrent session").all fun c => !sameLetter 67 c) = true by decide) c
        (hpart.subset List.mem_cons_self)
    exact word_of_head rfl hc _

/-- What starts with the heading of a week starts with the heading, or behind it. -/
theorem search_week_heading (hp : ∀ part, word "Current week (" part = none → p part = none)
    {name : JsString} (hname : NameUnits name) (hnone : p (weekHeading name ++ more) = none) :
    search p (weekHeading name ++ more) = search p more := by
  refine search_append_of_none fun part hne hpart => ?_
  rcases List.suffix_cons_iff.1
    (show part <:+ 67 :: (js "urrent week (" ++ (name ++ [41])) from hpart) with rfl | hpart
  · exact hnone
  · refine hp _ ?_
    rw [← List.append_assoc] at hpart
    obtain ⟨part', rfl, hpart'⟩ := (List.suffix_concat_iff.1 hpart).resolve_left hne
    have hword : Local 41 (word "Current week (") := local_word (by decide)
    have hlocal := hword part' (41 :: more) (fun c hc => (Option.some.inj hc).symm)
    rw [List.append_assoc, List.singleton_append, hlocal, Option.map_eq_none_iff]
    cases hread : word "Current week (" part' with
    | none => rfl
    | some r =>
      exfalso
      -- the bracket of the word is in the part, and in front of it the first letter is not
      obtain ⟨d, hd, hsame⟩ := mem_of_literal hread 40 (by decide)
      obtain rfl := eq_of_sameLetter (by decide) hsame
      have hbracket : (40 : UInt16) ∉ name := fun hmem => absurd (hname 40 hmem) (by decide)
      rcases List.suffix_or_suffix_of_suffix hpart' (List.suffix_append _ name) with
        hpart' | ⟨front, rfl⟩
      · exact hbracket (hpart'.subset hd)
      · cases front with
        | nil => exact hbracket hd
        | cons c front =>
          have hfront := (List.suffix_append_self_iff.1 hpart').subset List.mem_cons_self
          have hc : sameLetter 67 c = false := by
            simpa using List.all_eq_true.1
              (show ((js "urrent week (").all fun c => !sameLetter 67 c) = true by decide) c hfront
          rw [List.cons_append, word_of_head rfl hc] at hread
          cases hread

end front

/-! ## The windows of a screen -/

theorem shrinks_word (s : String) : Shrinks (word s) := shrinks_literal _ _

theorem search_figure_session (more : JsString) :
    search figure (js "Current session" ++ more) = search figure more := by
  refine search_append_of_none fun part hne hpart => figure_of_percentUsed_none ?_
  obtain ⟨c, part, rfl⟩ := List.exists_cons_of_ne_nil hne
  have hc : ¬JsonText.isDigit c = true := by
    simpa using List.all_eq_true.1
      (show ((js "Current session").all fun c => !JsonText.isDigit c) = true by decide) c
      (hpart.subset List.mem_cons_self)
  unfold percentUsed Reader.andThen digits taken
  rw [List.cons_append, List.takeWhile_cons_of_neg hc]
  rfl

theorem sessionText_head (more : JsString) :
    ∀ c ∈ (js "Current session" ++ more).head?, c = 67 :=
  fun _ hc => (Option.some.inj hc).symm

namespace Screen

variable (screen : Screen)

theorem nameUnits_weeks : ∀ week ∈ screen.weeks, NameUnits week.1 := by
  unfold weeks
  rw [List.forall_mem_cons, List.forall_mem_map]
  exact ⟨nameUnits_allModels, fun family _ => family.nameUnits⟩

theorem nameUnits_families (families : List Family) :
    ∀ week ∈ families.map Family.section, NameUnits week.1 :=
  List.forall_mem_map.2 fun family _ => family.nameUnits

/-- The window of the session is the first one behind its heading. -/
theorem windowMatch_session : windowMatch "Current session" screen.text =
    (search figure (screen.session.text ++ weeksText screen.weeks)).map fun found => found.2.1 := by
  have hfree := search_session_free
    (p := (word "Current session").andThen fun _ => figure.later)
    (fun part h => by unfold Reader.andThen; rw [h]; rfl) screen.free
    (sessionText_head (screen.session.text ++ weeksText screen.weeks))
  have hlater := search_andThen_later (q := figure) (shrinks_word "Current session")
    (word_self "Current session" (screen.session.text ++ weeksText screen.weeks))
    (fun h => by rw [search_figure_session]; exact h)
  unfold windowMatch text
  rw [hfree]
  have hvalue := congrArg (Option.map Prod.fst) hlater
  rw [Option.map_map, Option.map_map] at hvalue
  exact hvalue

/-- What starts with the heading of a week is looked for from there on. -/
theorem search_week_text {β : Type} {p : Reader UInt16 β}
    (hp : ∀ part, word "Current week (" part = none → p part = none) :
    search p screen.text = search p (weeksText screen.weeks) := by
  unfold text
  rw [search_week_free hp screen.free (sessionText_head _), search_week_session hp, search_week_free hp screen.session.free (weeksText_head _)]

theorem windowMatch_week : windowMatch "Current week (all models)" screen.text =
    (search figure (screen.week.text ++ weeksText (screen.families.map Family.section))).map
      fun found => found.2.1 := by
  have hp : ∀ part, word "Current week (" part = none →
      ((word "Current week (all models)").andThen fun _ => figure.later) part = none := by
    intro part h
    have hword : word "Current week (all models)" part = none := by
      unfold word at h ⊢
      rw [show js "Current week (all models)" = js "Current week (" ++ js "all models)" from rfl,
        literal_append_word, h]
      rfl
    unfold Reader.andThen
    rw [hword]
    rfl
  have hlater := search_andThen_later (q := figure) (shrinks_word "Current week (all models)")
    (word_self "Current week (all models)"
      (screen.week.text ++ weeksText (screen.families.map Family.section)))
    (fun h => (search_figure_heading nameUnits_allModels _).trans h)
  unfold windowMatch
  rw [screen.search_week_text hp]
  have hvalue := congrArg (Option.map Prod.fst) hlater
  rw [Option.map_map, Option.map_map] at hvalue
  exact hvalue

end Screen

/-! ## The families of a screen -/

theorem familyUsage_of_word_none (part : JsString) (h : word "Current week (" part = none) :
    familyUsage part = none := by
  unfold familyUsage familyHeading Reader.andThen
  rw [h]
  rfl

/-- The week of all models is none of a family. -/
theorem familyUsage_allModels (more : JsString) :
    familyUsage (weekHeading (js "all models") ++ more) = none := rfl

/-- A name of a family is not that of all models. -/
theorem word_allModels (family : Family) (more : JsString) :
    word "all models)" (family.name ++ 41 :: more) = none := by
  have hword : Local 41 (word "all models") := local_word (by decide)
  have hlabel := family.isLabel
  unfold isFamilyLabel at hlabel
  rw [Bool.and_eq_true, decide_eq_true_eq] at hlabel
  have hfront := hword family.name (41 :: more) (fun c hc => (Option.some.inj hc).symm)
  unfold word at hfront hlabel ⊢
  rw [show js "all models)" = js "all models" ++ [41] from rfl, literal_append_word, hfront]
  cases hread : literal sameLetter (js "all models") family.name with
  | none => rfl
  | some r =>
    obtain ⟨⟨⟩, left⟩ := r
    rw [Option.map_some, Option.bind_some]
    cases left with
    | nil => exact absurd hread hlabel.2
    | cons c left =>
      have hc : c ∈ family.name := (shrinks_word "all models" _ _ hread).subset List.mem_cons_self
      have hunit := family.nameUnits c hc
      show (if sameLetter 41 c = true then _ else none) = none
      rw [if_neg]
      intro hsame
      rw [eq_of_sameLetter (by decide) hsame] at hunit
      exact absurd hunit (by decide)

/-- The heading of a family is read. -/
theorem familyHeading_family (family : Family) (more : JsString) :
    familyHeading (weekHeading family.name ++ more) = some (family.name, more) := by
  have hlabel := family.isLabel
  unfold isFamilyLabel at hlabel
  rw [Bool.and_eq_true, Bool.and_eq_true] at hlabel
  have hstop : isLabelUnit 41 = false := by decide
  have hhead : ∀ c ∈ (41 :: more).head?, c = 41 := fun c hc => (Option.some.inj hc).symm
  have hruns := takeWhile_append_stop hstop family.name hhead
  have htake : family.name.takeWhile isLabelUnit = family.name :=
    List.takeWhile_eq_self_iff.2 family.nameUnits
  have hdrop : family.name.dropWhile isLabelUnit = [] :=
    List.dropWhile_eq_nil_iff.2 family.nameUnits
  have hne : family.name ≠ [] := by
    intro hnil
    rw [hnil] at hlabel
    exact absurd hlabel.1.1 (by decide)
  have hread : label (family.name ++ 41 :: more) = some (family.name, more) := by
    unfold label taken
    rw [hruns.1, hruns.2, htake, hdrop, if_neg hne]
    exact if_pos hlabel.1.1
  unfold familyHeading Reader.andThen weekHeading
  rw [List.append_assoc, List.append_assoc, List.singleton_append, word_self, Option.bind_some]
  dsimp only
  rw [word_allModels, hread]
  rfl

/-- A family is found with the first percentage behind its heading. -/
theorem familyUsage_family (family : Family) (more : JsString) :
    familyUsage (weekHeading family.name ++ more) =
      (search percentUsed more).map fun found => ((family.name, found.2.1), found.2.2) := by
  unfold familyUsage Reader.andThen Reader.later
  rw [familyHeading_family, Option.bind_some]
  dsimp only
  cases search percentUsed more <;> rfl

theorem shrinks_familyHeading : Shrinks familyHeading := by
  unfold familyHeading
  refine (shrinks_word _).andThen fun _ text r h => ?_
  split at h
  · cases h
  · unfold label at h
    split at h
    · rename_i name rest htaken
      split at h
      · obtain rfl := Option.some.inj h
        exact (List.suffix_cons 41 rest).trans (shrinks_taken _ _ _ htaken)
      · cases h
    · cases h

/-- Where there is no percentage, no family is found. -/
theorem search_family_of_percent_none {text : JsString} (h : search percentUsed text = none) :
    search familyUsage text = none := by
  refine search_eq_none_iff.2 fun part hpart => ?_
  unfold familyUsage Reader.andThen Reader.later
  cases hread : familyHeading part with
  | none => rfl
  | some r =>
    have hnone : search percentUsed r.2 = none := search_eq_none_iff.2 fun part' hpart' =>
      search_eq_none_iff.1 h part'
        (hpart'.trans ((shrinks_familyHeading _ _ hread).trans hpart))
    rw [Option.bind_some]
    dsimp only
    rw [hnone]
    rfl

theorem ownFamilies_place (families : List Family) :
    ∀ found ∈ ownFamilies families, found.1 ≤ (weeksText (families.map Family.section)).length := by
  induction families with
  | nil => exact fun found h => absurd h List.not_mem_nil
  | cons family rest ih =>
    have hrest : ∀ found ∈ ownFamilies rest,
        found.1 ≤ (weeksText ((family :: rest).map Family.section)).length := by
      intro found hfound
      refine (ih found hfound).trans ?_
      rw [List.map_cons, Family.section, weeksText]
      simp only [List.length_append]
      omega
    unfold ownFamilies
    cases family.body.percent with
    | none => exact hrest
    | some percent => exact List.forall_mem_cons.2 ⟨Nat.le_refl _, hrest⟩

theorem headingFree_suffix {text part : JsString} (h : headingFree text = true)
    (hpart : part <:+ text) : headingFree part = true := by
  refine List.all_eq_true.2 fun part' hpart' => ?_
  have hsuffix := ((List.mem_tails _ _).1 hpart').trans hpart
  exact List.all_eq_true.1 h part' ((List.mem_tails _ _).2 hsuffix)

/-- Families without a percentage tell nothing. -/
theorem ownFamilies_eq_nil {families : List Family}
    (h : ∀ family ∈ families, family.body.percent = none) : ownFamilies families = [] := by
  induction families with
  | nil => rfl
  | cons family rest ih =>
    rw [List.forall_mem_cons] at h
    rw [ownFamilies, h.1]
    exact ih h.2

/-- **The families that are found are the ones with percentages of their own** exactly where none of
them stands behind a family without one. The induction is on the families; in front of the first
heading there may be what is left of a body. -/
theorem searchAll_families (families : List Family) (front : JsString)
    (hfree : headingFree front = true) (fuel : ℕ)
    (hfuel : (front ++ weeksText (families.map Family.section)).length ≤ fuel) :
    searchAll familyUsage fuel (front ++ weeksText (families.map Family.section)) =
        ownFamilies families ↔
      families.Pairwise fun family later =>
        later.body.percent ≠ none → family.body.percent ≠ none := by
  induction families generalizing front fuel with
  | nil =>
    have hnone := search_week_free familyUsage_of_word_none hfree (weeksText_head [])
    refine iff_of_true ?_ List.Pairwise.nil
    exact searchAll_of_none hnone fuel
  | cons family rest ih =>
    have hskip := search_week_free familyUsage_of_word_none hfree
      (weeksText_head ((family :: rest).map Family.section))
    have htext : weeksText ((family :: rest).map Family.section) = weekHeading family.name ++
        (family.body.text ++ weeksText (rest.map Family.section)) := rfl
    have hlength : (weeksText ((family :: rest).map Family.section)).length =
        14 + (family.name.length + 1) + (family.body.text.length +
          (weeksText (rest.map Family.section)).length) := by
      rw [htext, weekHeading]
      simp only [List.length_append, List.length_singleton]
      rfl
    rw [List.length_append] at hfuel
    have hrest := search_percent_weeks (Screen.nameUnits_families rest)
    rw [List.forall_mem_map] at hrest
    have hread := familyUsage_family family
      (family.body.text ++ weeksText (rest.map Family.section))
    rw [← htext] at hread
    rw [search_append (local_percentUsed stops_c) percentUsed_nil _ (weeksText_head _)] at hread
    obtain ⟨fuel, rfl⟩ := Nat.exists_eq_add_one.2 (show 0 < fuel by omega)
    rw [searchAll_congr hskip, List.pairwise_cons, ownFamilies]
    cases hown : search percentUsed family.body.text with
    | some found =>
      obtain ⟨place, percent, left⟩ := found
      have hpercent : family.body.percent = some percent := congrArg (Option.map _) hown
      have hleft := (search_suffix shrinks_percentUsed hown).1
      have hshorter := hleft.length_le
      have hnext := ih left (headingFree_suffix family.body.free hleft) fuel (by
        rw [List.length_append]
        omega)
      rw [hown] at hread
      rw [searchAll, search_of_some hread, hpercent]
      dsimp only
      rw [List.cons.injEq, hnext]
      exact ⟨fun h => ⟨fun _ _ _ => Option.some_ne_none _, h.2⟩, fun h => ⟨rfl, h.2⟩⟩
    | none =>
      have hpercent : family.body.percent = none := congrArg (Option.map _) hown
      rw [hown] at hread
      rw [hpercent]
      dsimp only at hread ⊢
      by_cases hall : ∀ later ∈ rest, later.body.percent = none
      · have hnone : search percentUsed (weeksText ((family :: rest).map Family.section)) = none := by
          rw [htext, search_percent_heading family.nameUnits,
            search_append (local_percentUsed stops_c) percentUsed_nil _ (weeksText_head _), hown]
          exact hrest.2 hall
        rw [searchAll_of_none (search_family_of_percent_none hnone), ownFamilies_eq_nil hall]
        refine iff_of_true rfl ⟨fun later hlater h => absurd (hall later hlater) h, ?_⟩
        exact List.pairwise_of_forall_mem_list fun _ _ later hlater h =>
          absurd (hall later hlater) h
      · -- the percentage of a later family is taken
        cases hfound : search percentUsed (weeksText (rest.map Family.section)) with
        | none => exact absurd (hrest.1 hfound) hall
        | some found =>
          rw [hfound] at hread
          refine iff_of_false (fun heq => ?_) (fun h => hall fun later hlater => ?_)
          · rw [searchAll, search_of_some hread] at heq
            dsimp only at heq
            have hmem : ((weeksText ((family :: rest).map Family.section)).length, family.name,
                found.2.1) ∈ ownFamilies rest := by
              rw [← heq]
              exact List.mem_cons_self
            have hplace := ownFamilies_place rest _ hmem
            dsimp only at hplace
            omega
          · by_contra hne
            exact h.1 later hlater hne rfl

namespace Screen

variable (screen : Screen)

/-- **The figures of a screen are those of its own sections** exactly where no section with a figure
stands behind one that lacks it, and no reset is left open in front of a heading. -/
theorem claudeMatches_eq_own_iff : claudeMatches screen.text = screen.own ↔ screen.Settled := by
  have hsession : windowMatch "Current session" screen.text = screen.session.figure ↔
      screen.session.Holds ∨
        screen.session.Lacks ∧ ¬Shows (screen.week :: screen.families.map Family.body) := by
    have hshows := search_figure_weeks screen.nameUnits_weeks
    have hbodies : screen.weeks.map Prod.snd =
        screen.week :: screen.families.map Family.body := by
      unfold weeks
      rw [List.map_cons, List.map_map]
      rfl
    rw [hbodies] at hshows
    rw [windowMatch_session, ← hshows]
    exact figure_eq_own_iff screen.session _
  have hweek : windowMatch "Current week (all models)" screen.text = screen.week.figure ↔
      screen.families = [] ∨ screen.week.Holds ∨
        screen.week.Lacks ∧ ¬Shows (screen.families.map Family.body) := by
    have hshows := search_figure_weeks (nameUnits_families screen.families)
    rw [List.map_map] at hshows
    rw [windowMatch_week]
    cases hfamilies : screen.families with
    | nil =>
      rw [List.map_nil, weeksText, List.append_nil]
      exact iff_of_true rfl (.inl rfl)
    | cons family rest =>
      rw [hfamilies] at hshows
      rw [or_iff_right (List.cons_ne_nil _ _)]
      exact (figure_eq_own_iff screen.week _).trans (or_congr_right (and_congr_right fun _ => hshows))
  have hfamilies : searchAll familyUsage (screen.text.length + 1) screen.text =
      ownFamilies screen.families ↔ screen.families.Pairwise fun family later =>
        later.body.percent ≠ none → family.body.percent ≠ none := by
    have hskip := screen.search_week_text familyUsage_of_word_none
    have hall := search_week_heading familyUsage_of_word_none nameUnits_allModels
      (familyUsage_allModels (screen.week.text ++ weeksText (screen.families.map Family.section)))
    rw [searchAll_congr (hskip.trans hall)]
    refine searchAll_families screen.families screen.week.text screen.week.free _ ?_
    unfold text weeks
    rw [weeksText]
    simp only [List.length_append]
    omega
  unfold claudeMatches own
  rw [Matches.mk.injEq, hsession, hweek, hfamilies]
  exact ⟨fun h => ⟨h.1, h.2.1, h.2.2⟩, fun h => ⟨h.session, h.week, h.families⟩⟩

/-- **Usage figures come from their own sections** exactly on settled screens, and there the usage
is made of these. -/
theorem usage_own_iff_settled :
    (claudeMatches screen.text = screen.own ↔ screen.Settled) ∧
      ∀ raw, terminalText raw = screen.text → screen.Settled →
        parseClaudeUsage raw = claudeUsage screen.text screen.own := by
  refine ⟨screen.claudeMatches_eq_own_iff, fun raw hraw hsettled => ?_⟩
  unfold parseClaudeUsage
  rw [hraw, screen.claudeMatches_eq_own_iff.2 hsettled]

end Screen

/-- A screen whose session and first family have no percentage yet. -/
def loadingScreen : Screen where
  preamble := []
  free := rfl
  session := ⟨js "\nLoading\n", rfl, by decide⟩
  week := ⟨js "\n15% used\nResets Aug 14\n", rfl, by decide⟩
  families :=
    [⟨js "Fable", by decide, ⟨js "\nLoading\n", rfl, by decide⟩⟩,
      ⟨js "Opus", by decide, ⟨js "\n100% used\n", rfl, by decide⟩⟩]

/-- The session gets the window of the week, the first family the percentage of the second one, and
the second one is missing. -/
theorem loadingScreen_borrows :
    loadingScreen.session.figure = none ∧
      loadingScreen.own.families.map (fun family => family.2) = [(js "Opus", js "100")] ∧
      parseClaudeUsage loadingScreen.text = some
        { fiveHour := usedPercentWindow 15 (js "Aug 14")
          weekly := usedPercentWindow 15 (js "Aug 14")
          models := [(js "claude-fable-5", false)] } ∧
      ¬claudeMatches (terminalText loadingScreen.text) = loadingScreen.own := by
  refine ⟨?_, ?_, ?_, ?_⟩ <;> decide +kernel

end ClaudeUsage
end Autopilot
