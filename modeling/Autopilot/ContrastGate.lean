/-
What the contrast gate judges.

The gate reads the first `:root` block of the finished page, and the title stands before the
style sheet. `escapeHtml` leaves the braces of a title as they are, so a title that opens a
block is judged in the place of the style sheet, or along with it.
-/
import Autopilot.TokenReading
import Autopilot.RenderedLinks

set_option autoImplicit false

namespace Autopilot.RenderComposition

open PatternComponents TokenCss Search
open Collected (bind_ok)

/-! ## The document around a title -/

section document

theorem joinedBy_cons (separator value : JsString) (values : List JsString) :
    joinedBy separator (value :: values) = value ++ values.flatMap (separator ++ ·) := by
  unfold joinedBy
  induction values generalizing value with
  | nil => simp
  | cons next values ih =>
    rw [List.intersperse_cons_cons, List.flatten_cons, List.flatten_cons, ih, List.flatMap_cons,
      List.append_assoc]

/-- The style sheet is its lines in a block. -/
theorem rootCss_eq (declarations : List Declaration) :
    rootCss declarations = js ":root\x7b" ++ (lines declarations ++ js "\n\x7d") := by
  unfold rootCss lines
  rw [List.cons_append, joinedBy_cons, List.flatMap_append, List.flatMap_map]
  rfl

/-- Escaping puts no brace in. -/
theorem brace_not_mem_escapeHtml {value : JsString} (h : 123 ∉ value) : 123 ∉ escapeHtml value := by
  intro hmem
  obtain ⟨c, hc, hunit⟩ := List.mem_flatMap.1 hmem
  change 123 ∈ escapeUnit c at hunit
  unfold escapeUnit at hunit
  repeat' split at hunit
  all_goals first
    | exact absurd hunit (by decide)
    | exact h (List.mem_singleton.1 hunit ▸ hc)

/-- A literal without a brace. -/
theorem brace_not_mem_js {chars : List Char}
    (h : 123 ∉ chars.map (fun c => c.toNat.toUInt16)) : 123 ∉ js (String.ofList chars) := by
  rw [js_ofList]
  exact h

theorem brace_not_mem_of_all {p : UInt16 → Bool} {text : JsString} (h : ∀ c ∈ text, p c = true)
    (hbrace : p 123 = false) : 123 ∉ text := by
  intro hmem
  rw [h _ hmem] at hbrace
  cases hbrace

theorem brace_not_mem_joinedBy {separator : JsString} {values : List JsString}
    (hseparator : 123 ∉ separator) (h : ∀ value ∈ values, 123 ∉ value) :
    123 ∉ joinedBy separator values := by
  cases values with
  | nil => exact List.not_mem_nil
  | cons value values =>
    rw [List.forall_mem_cons] at h
    rw [joinedBy_cons, List.mem_append, not_or]
    refine ⟨h.1, fun hmem => ?_⟩
    obtain ⟨next, hnext, hmem⟩ := List.mem_flatMap.1 hmem
    rcases List.mem_append.1 hmem with hmem | hmem
    · exact hseparator hmem
    · exact h.2 next hnext hmem

theorem brace_not_mem_lang {lang : JsString} (h : htmlLangPattern lang = true) : 123 ∉ lang := by
  unfold htmlLangPattern at h
  split at h
  · cases h
  · rename_i language subtags hsplit
    simp only [Bool.and_eq_true] at h
    have hsubtags : ∀ subtag ∈ language :: subtags, 123 ∉ subtag := by
      intro subtag hsubtag
      rcases List.mem_cons.1 hsubtag with rfl | hsubtag
      · exact brace_not_mem_of_all (List.all_eq_true.1 h.1.1.1.1) (by decide)
      · have htag := List.all_eq_true.1 h.2 subtag hsubtag
        simp only [Bool.and_eq_true] at htag
        exact brace_not_mem_of_all (List.all_eq_true.1 htag.1.1) (by decide)
    have hjoined : joinedBy [45] (lang.splitOn 45) = lang := List.intercalate_splitOn 45
    rw [← hjoined, hsplit]
    exact brace_not_mem_joinedBy (by decide) hsubtags

theorem brace_not_mem_fontWeights {value weight : JsString}
    (h : weight ∈ normalizeGoogleFontWeights value) : 123 ∉ weight := by
  unfold normalizeGoogleFontWeights at h
  dsimp only at h
  split at h
  · rename_i hall
    have hweight := List.all_eq_true.1 hall weight h
    unfold isFontWeight at hweight
    split at hweight
    · rename_i c
      intro hmem
      simp only [List.mem_cons, List.not_mem_nil, or_false] at hmem
      rcases hmem with rfl | hmem | hmem
      · exact absurd hweight (by decide)
      · exact absurd hmem (by decide)
      · exact absurd hmem (by decide)
    · cases hweight
  · cases h

theorem brace_not_mem_fontLinks {tokenCss link : JsString}
    (h : link ∈ renderWebFontHeadLinks tokenCss) : 123 ∉ link := by
  unfold renderWebFontHeadLinks at h
  split at h
  · cases h
  · rename_i family _
    split at h
    · cases h
    · split at h
      · cases h
      · rename_i hfamily
        rw [not_not] at hfamily
        dsimp only at h
        split at h
        · cases h
        · simp only [List.mem_cons, List.not_mem_nil, or_false] at h
          rcases h with h | h | h
          · rw [h]
            exact brace_not_mem_js (by decide)
          · rw [h]
            exact brace_not_mem_js (by decide)
          · have hquery : 123 ∉ family.map fun c => if c = 32 then 43 else c := by
              intro hmem
              obtain ⟨c, hc, hunit⟩ := List.mem_map.1 hmem
              split at hunit
              · exact absurd hunit (by decide)
              · subst hunit
                exact absurd (List.all_eq_true.1 hfamily.1 _ hc) (by decide)
            have hweights : ∀ weights : JsString,
                123 ∉ joinedBy (js ";") (normalizeGoogleFontWeights weights) := fun weights =>
              brace_not_mem_joinedBy (by decide) fun _ hweight => brace_not_mem_fontWeights hweight
            rw [h]
            simp only [List.mem_append, not_or]
            refine ⟨⟨brace_not_mem_js (by decide), brace_not_mem_escapeHtml ?_⟩,
              brace_not_mem_js (by decide)⟩
            simp only [List.mem_append, not_or]
            exact ⟨⟨⟨⟨brace_not_mem_js (by decide), hquery⟩, brace_not_mem_js (by decide)⟩,
              hweights _⟩, brace_not_mem_js (by decide)⟩

theorem joinedBy_append {front : List JsString} (h : front ≠ []) (separator : JsString)
    (values : List JsString) :
    joinedBy separator (front ++ values) =
      joinedBy separator front ++ values.flatMap (separator ++ ·) := by
  obtain ⟨value, front, rfl⟩ := List.exists_cons_of_ne_nil h
  rw [List.cons_append, joinedBy_cons, joinedBy_cons, List.flatMap_append, List.append_assoc]

/-- What a document begins with. -/
def documentFront (lang tokenCss : JsString) : List JsString :=
  [js "<!doctype html>", js "<html lang=\"" ++ escapeHtml lang ++ js "\">", js "<head>",
    js "<meta charset=\"utf-8\">",
    js "<meta name=\"viewport\" content=\"width=device-width, initial-scale=1\">"] ++
  renderWebFontHeadLinks tokenCss

/-- No brace stands before the title. -/
theorem brace_not_mem_documentFront {lang : JsString} (hlang : htmlLangPattern lang = true)
    (tokenCss : JsString) : 123 ∉ joinedBy (js "\n") (documentFront lang tokenCss) := by
  refine brace_not_mem_joinedBy (by decide) fun line hline => ?_
  rcases List.mem_append.1 hline with hline | hline
  · simp only [List.mem_cons, List.not_mem_nil, or_false] at hline
    rcases hline with hline | hline | hline | hline | hline
    · rw [hline]
      exact brace_not_mem_js (by decide)
    · rw [hline]
      simp only [List.mem_append, not_or]
      exact ⟨⟨brace_not_mem_js (by decide),
        brace_not_mem_escapeHtml (brace_not_mem_lang hlang)⟩, brace_not_mem_js (by decide)⟩
    · rw [hline]
      exact brace_not_mem_js (by decide)
    · rw [hline]
      exact brace_not_mem_js (by decide)
    · rw [hline]
      exact brace_not_mem_js (by decide)
  · exact brace_not_mem_fontLinks hline

/-- **A document**, with its title and its style sheet. -/
theorem renderHtmlDocument_eq {lang : JsString} (hlang : htmlLangPattern lang = true)
    (title tokenCss componentCss body : JsString) : ∃ head rest, 123 ∉ head ∧
      renderHtmlDocument title lang tokenCss componentCss body =
        head ++ 62 :: (escapeHtml title ++
          60 :: (js "/title>\n<style>\n" ++ (tokenCss ++ 10 :: rest))) := by
  have hbefore : ∀ rest, js "\n" ++ (js "<title>" ++ rest) = js "\n<title" ++ 62 :: rest :=
    fun _ => rfl
  have hbehind : ∀ rest, js "</title>" ++ (js "\n" ++ (js "<style>" ++ (js "\n" ++ rest))) =
      60 :: (js "/title>\n<style>\n" ++ rest) := fun _ => rfl
  have hbreak : ∀ rest, js "\n" ++ rest = 10 :: rest := fun _ => rfl
  refine ⟨joinedBy (js "\n") (documentFront lang tokenCss) ++ js "\n<title",
    componentCss ++ ([js "</style>", js "</head>", js "<body>", body, js "</body>",
      js "</html>"]).flatMap (js "\n" ++ ·), ?_, ?_⟩
  · rw [List.mem_append, not_or]
    exact ⟨brace_not_mem_documentFront hlang tokenCss, by decide⟩
  · have hfront : documentFront lang tokenCss ≠ [] := List.cons_ne_nil _ _
    unfold renderHtmlDocument
    change joinedBy (js "\n") (documentFront lang tokenCss ++ _) = _
    rw [joinedBy_append hfront, List.flatMap_cons, List.flatMap_cons, List.flatMap_cons,
      List.flatMap_cons]
    simp only [List.append_assoc]
    rw [hbefore, hbehind, hbreak]

end document

/-! ## The block that is judged -/

section judged

/-- What stands in an escaped title behind the first block that it opens. -/
def openedBlock (title : JsString) : Option JsString :=
  ((escapeHtml title).dropInfix? (js ":root\x7b")).map (·.2)

/-- A text without closing braces ends at the first line that begins with one. -/
theorem dropInfix_closing {text : JsString} (h : 125 ∉ text) (rest : JsString) :
    (text ++ (js "\n\x7d" ++ rest)).dropInfix? (js "\n\x7d") = some (text, rest) := by
  have hbrace : ¬[125] <:+: text ++ [10] := by
    rintro ⟨before, behind, htext⟩
    have hmem : 125 ∈ text ++ [10] := by
      rw [← htext]
      simp
    rcases List.mem_append.1 hmem with hmem | hmem
    · exact h hmem
    · exact absurd hmem (by decide)
  rw [dropInfix_eq_some]
  refine ⟨by rw [List.append_assoc], fun before behind htext => ?_⟩
  by_contra hshort
  -- a line that ended earlier would have its brace in the text
  have hwhole : before ++ js "\n\x7d" <+: text ++ (js "\n\x7d" ++ rest) := ⟨behind, htext.symm⟩
  have hprefix : before ++ js "\n\x7d" <+: text ++ [10] := by
    refine List.prefix_of_prefix_length_le hwhole ⟨125 :: rest, by rw [List.append_assoc]; rfl⟩ ?_
    have hlength : (js "\n\x7d").length = 2 := rfl
    simp only [List.length_append, List.length_cons, List.length_nil, hlength]
    omega
  obtain ⟨behind, hbehind⟩ := hprefix
  exact hbrace ⟨before ++ [10], behind, by rw [← hbehind]; simp [js]⟩

variable {head title rest : JsString} {declarations : List Declaration}

/-- A page around its title and its style sheet. -/
def pageText (head title : JsString) (declarations : List Declaration) (rest : JsString) :
    JsString :=
  head ++ 62 :: (escapeHtml title ++
    60 :: (js "/title>\n<style>\n" ++ (rootCss declarations ++ 10 :: rest)))

/-- What stands between a title and the end of the style sheet. -/
def sheetText (declarations : List Declaration) : JsString :=
  js "/title>\n<style>\n:root\x7b" ++ lines declarations

theorem sheet_eq (declarations : List Declaration) (rest : JsString) :
    js "/title>\n<style>\n" ++ (rootCss declarations ++ 10 :: rest) =
      sheetText declarations ++ (js "\n\x7d" ++ 10 :: rest) := by
  rw [rootCss_eq]
  unfold sheetText
  simp only [List.append_assoc]
  rw [js_ofList, js_ofList, js_ofList]
  rfl

theorem rootBlock_page (hhead : 123 ∉ head) (hlines : 125 ∉ lines declarations) :
    rootBlock (pageText head title declarations rest) =
      match openedBlock title with
      | none => some (lines declarations)
      | some own =>
        match own.dropInfix? (js "\n\x7d") with
        | some block => some block.1
        | none => some (own ++ 60 :: sheetText declarations) := by
  have hnotHead : ∀ text : JsString, 123 ∉ text → ¬js ":root\x7b" <:+: text := by
    intro text hbrace hinside
    exact hbrace (hinside.subset (by decide))
  unfold rootBlock pageText openedBlock
  rw [sheet_eq, dropInfix_append_cons (by decide) (hnotHead head hhead)]
  cases hopened : (escapeHtml title).dropInfix? (js ":root\x7b") with
  | none =>
    have htitle := dropInfix_eq_none.1 hopened
    have hsheet : (sheetText declarations ++ (js "\n\x7d" ++ 10 :: rest)).dropInfix?
        (js ":root\x7b") = some (js "/title>\n<style>\n", lines declarations ++
          (js "\n\x7d" ++ 10 :: rest)) := by
      have hfirst : (js "/title>\n<style>\n:root\x7b").dropInfix? (js ":root\x7b") =
        some (js "/title>\n<style>\n", []) := by decide
      unfold sheetText
      rw [List.append_assoc, dropInfix_append hfirst]
      rfl
    rw [dropInfix_append_cons (by decide) htitle, hsheet]
    simp only [Option.map_some, Option.bind_some, Option.map_none]
    rw [dropInfix_closing hlines]
    rfl
  | some found =>
    rw [dropInfix_append hopened]
    simp only [Option.map_some, Option.bind_some]
    cases hclosed : found.2.dropInfix? (js "\n\x7d") with
    | some block =>
      rw [dropInfix_append hclosed]
      rfl
    | none =>
      have hsheet : 125 ∉ sheetText declarations := by
        unfold sheetText
        rw [List.mem_append, not_or]
        exact ⟨by decide, hlines⟩
      rw [dropInfix_append_cons (by decide) (dropInfix_eq_none.1 hclosed),
        dropInfix_closing hsheet]
      rfl

/-- The block that is judged behind a title. -/
def judgedBlock (title : JsString) (declarations : List Declaration) : JsString :=
  match openedBlock title with
  | none => lines declarations
  | some own =>
    match own.dropInfix? (js "\n\x7d") with
    | some block => block.1
    | none => own ++ 60 :: sheetText declarations

theorem extractRootCssVars_page (hhead : 123 ∉ head) (hlines : 125 ∉ lines declarations) :
    extractRootCssVars (pageText head title declarations rest) =
      some (lastValue (declarationsIn (judgedBlock title declarations))) := by
  unfold extractRootCssVars judgedBlock
  rw [rootBlock_page hhead hlines]
  cases openedBlock title with
  | none => rfl
  | some own =>
    dsimp only
    cases own.dropInfix? (js "\n\x7d") <;> rfl

/-! ### What it comes to -/

/-- The names that the style sheet declares. -/
def declaredNames (declarations : List Declaration) : List JsString :=
  declarations.map (·.property.1)

/-- The properties of the style sheet, the last of a name counting. -/
def shipped (declarations : List Declaration) : JsString → Option JsString :=
  lastValue (declarations.map Declaration.property)

/-- The gate reads the properties of the style sheet out of the page. -/
def JudgesShipped (html : JsString) (declarations : List Declaration) : Prop :=
  extractRootCssVars html = some (shipped declarations)

/-- A block that a title opens and leaves open does no harm: the style sheet declares what it
declares, and what a declaration that is left open takes in is declared once more. -/
def OpenBlockHarmless (own : JsString) (declarations : List Declaration) : Prop :=
  (∀ found ∈ declarationsIn own, found.1 ∈ declaredNames declarations) ∧
  match leftOpen own, declarations with
  | some name, first :: others =>
    name ∈ declaredNames others ∧ (first.property.1 ∈ declaredNames others ∨
      lastValue (declarationsIn own) first.property.1 = some first.value)
  | _, _ => True

/-- A title opens no block, or one that does no harm: it holds the properties of the style
sheet, or is left open and changes none of them. -/
def TitleHarmless (title : JsString) (declarations : List Declaration) : Prop :=
  match openedBlock title with
  | none => True
  | some own =>
    match own.dropInfix? (js "\n\x7d") with
    | some block => lastValue (declarationsIn block.1) = shipped declarations
    | none => OpenBlockHarmless own declarations

theorem lastValue_append (pairs pairs' : List (JsString × JsString)) (name : JsString) :
    lastValue (pairs ++ pairs') name = (lastValue pairs' name).or (lastValue pairs name) := by
  unfold lastValue
  rw [List.reverse_append, List.lookup_append]

theorem lastValue_eq_none {pairs : List (JsString × JsString)} {name : JsString} :
    lastValue pairs name = none ↔ ∀ pair ∈ pairs, pair.1 ≠ name := by
  unfold lastValue
  rw [List.lookup_eq_none_iff]
  constructor
  · intro h pair hpair heq
    have hne := h pair (List.mem_reverse.2 hpair)
    simp [heq] at hne
  · intro h pair hpair
    have hne := h pair (List.mem_reverse.1 hpair)
    simp [Ne.symm hne]

theorem shipped_eq_none {name : JsString} :
    shipped declarations name = none ↔ name ∉ declaredNames declarations := by
  unfold shipped declaredNames
  rw [lastValue_eq_none]
  simp

/-- Declarations in front change nothing where all their names are declared behind. -/
theorem lastValue_append_eq_shipped {pairs : List (JsString × JsString)} :
    lastValue (pairs ++ declarations.map Declaration.property) = shipped declarations ↔
      ∀ pair ∈ pairs, pair.1 ∈ declaredNames declarations := by
  have hvalue : ∀ name, lastValue (pairs ++ declarations.map Declaration.property) name =
      (shipped declarations name).or (lastValue pairs name) := fun name =>
    lastValue_append _ _ name
  constructor
  · intro h pair hpair
    by_contra hname
    have hnone := shipped_eq_none.2 hname
    have hsame := congrFun h pair.1
    rw [hvalue, hnone, Option.none_or] at hsame
    exact lastValue_eq_none.1 hsame pair hpair rfl
  · intro h
    funext name
    rw [hvalue]
    cases hshipped : shipped declarations name with
    | some value => rfl
    | none =>
      rw [Option.none_or, lastValue_eq_none]
      rintro pair hpair rfl
      exact shipped_eq_none.1 hshipped (h pair hpair)

theorem lastValue_cons_append (name : JsString) (pair : JsString × JsString)
    (others : List Declaration) (pairs : List (JsString × JsString)) :
    lastValue (pairs ++ pair :: others.map Declaration.property) name =
      (shipped others name).or (if pair.1 = name then some pair.2 else lastValue pairs name) := by
  rw [← List.singleton_append, ← List.append_assoc, lastValue_append, lastValue_append]
  unfold shipped
  congr 1
  by_cases h : pair.1 = name
  · subst h
    obtain ⟨name, value⟩ := pair
    simp [lastValue]
  · rw [if_neg h, lastValue_eq_none.2 (by simpa using h), Option.none_or]

theorem shipped_cons (first : Declaration) (others : List Declaration) (name : JsString) :
    shipped (first :: others) name =
      (shipped others name).or (if first.property.1 = name then some first.value else none) :=
  lastValue_cons_append name first.property others []

/-- A declaration that took the first line of the style sheet in does no harm where that line
is made up for. -/
theorem lastValue_open_eq_shipped {first : Declaration} {others : List Declaration}
    (hplain : first.Plain) {pairs : List (JsString × JsString)} {name value : JsString}
    (hvalue : 60 ∈ value) :
    lastValue (pairs ++ (name, value) :: others.map Declaration.property) =
        shipped (first :: others) ↔
      (∀ pair ∈ pairs, pair.1 ∈ declaredNames (first :: others)) ∧ name ∈ declaredNames others ∧
        (first.property.1 ∈ declaredNames others ∨
          lastValue pairs first.property.1 = some first.value) := by
  constructor
  · intro h
    have hat : ∀ property, (shipped others property).or
        (if name = property then some value else lastValue pairs property) =
          (shipped others property).or
            (if first.property.1 = property then some first.value else none) := fun property => by
      rw [← lastValue_cons_append property (name, value), ← shipped_cons, h]
    have hname : name ∈ declaredNames others := by
      by_contra hname
      have hsame := hat name
      rw [shipped_eq_none.2 hname, Option.none_or, Option.none_or, if_pos rfl] at hsame
      split at hsame
      · -- what was taken in holds a `<`, and no value of the style sheet does
        obtain rfl := Option.some.inj hsame
        exact hplain.value.not_mem (by decide) hvalue
      · cases hsame
    refine ⟨fun pair hpair => ?_, hname, ?_⟩
    · by_contra hpairName
      rw [declaredNames, List.map_cons, List.mem_cons, not_or] at hpairName
      have hne : name ≠ pair.1 := fun heq => hpairName.2 (heq ▸ hname)
      have hsame := hat pair.1
      rw [shipped_eq_none.2 hpairName.2, Option.none_or, Option.none_or, if_neg hne,
        if_neg (Ne.symm hpairName.1)] at hsame
      exact lastValue_eq_none.1 hsame pair hpair rfl
    · by_cases hfirst : first.property.1 ∈ declaredNames others
      · exact .inl hfirst
      · have hne : name ≠ first.property.1 := fun heq => hfirst (heq ▸ hname)
        have hsame := hat first.property.1
        rw [shipped_eq_none.2 hfirst, Option.none_or, Option.none_or, if_neg hne,
          if_pos rfl] at hsame
        exact .inr hsame
  · rintro ⟨hpairs, hname, hfirst⟩
    funext property
    rw [lastValue_cons_append, shipped_cons]
    cases hothers : shipped others property with
    | some value => rfl
    | none =>
      have hproperty := shipped_eq_none.1 hothers
      have hne : name ≠ property := fun heq => hproperty (heq ▸ hname)
      rw [Option.none_or, Option.none_or, if_neg hne]
      by_cases hat : first.property.1 = property
      · rw [if_pos hat]
        subst hat
        exact hfirst.resolve_left hproperty
      · rw [if_neg hat, lastValue_eq_none]
        rintro pair hpair rfl
        rcases List.mem_cons.1 (hpairs pair hpair) with h | h
        · exact hat h.symm
        · exact hproperty h

/-- What is read has names that can be read. -/
theorem JudgesShipped.namesRead {html : JsString} (h : JudgesShipped html declarations) :
    NamesRead declarations := by
  unfold JudgesShipped extractRootCssVars at h
  obtain ⟨block, -, hblock⟩ := Option.map_eq_some_iff.1 h
  intro d hd
  have hdeclared : d.property.1 ∈ declaredNames declarations := List.mem_map_of_mem hd
  by_contra hunits
  refine shipped_eq_none.1 ?_ hdeclared
  rw [← hblock]
  refine lastValue_eq_none.2 fun found hfound heq => hunits ?_
  rw [← heq]
  exact isNameUnit_of_mem_declarationsIn hfound

theorem declarationsIn_sheetText (hplain : ∀ d ∈ declarations, d.Plain)
    (hnames : NamesRead declarations) :
    declarationsIn (sheetText declarations) = declarations.map Declaration.property := by
  unfold sheetText
  rw [declarationsIn_append (by decide), declarationsIn_lines hplain hnames]

/-- The style sheet up to its first semicolon. -/
theorem sheetText_cons {first : Declaration} (hplain : first.Plain)
    (hname : ∀ c ∈ first.property.1, isNameUnit c = true) (others : List Declaration) :
    ∃ more, 59 ∉ more ∧ sheetText (first :: others) = more ++ 59 :: lines others := by
  refine ⟨js "/title>\n<style>\n:root\x7b" ++ (js "\n  " ++ (js "--" ++
    (first.property.1 ++ 58 :: (32 :: first.value)))), ?_, ?_⟩
  · have hproperty : 59 ∉ first.property.1 := fun hmem => absurd (hname _ hmem) (by decide)
    have hvalue : 59 ∉ first.value := hplain.value.not_mem (by decide)
    simp only [List.mem_append, List.mem_cons, not_or]
    exact ⟨by decide, by decide, by decide, hproperty, by decide, by decide, hvalue⟩
  · unfold sheetText
    rw [lines_cons, line_eq hplain]
    simp only [List.append_assoc, List.cons_append]

/-- What is read behind a block that a title leaves open. -/
theorem openBlockHarmless_iff (hplain : ∀ d ∈ declarations, d.Plain)
    (hnames : NamesRead declarations) (own : JsString) :
    lastValue (declarationsIn (own ++ 60 :: sheetText declarations)) = shipped declarations ↔
      OpenBlockHarmless own declarations := by
  unfold OpenBlockHarmless
  cases hopen : leftOpen own with
  | none =>
    rw [declarationsIn_append_of_closed hopen, declarationsIn_sheetText hplain hnames,
      lastValue_append_eq_shipped]
    exact (and_iff_left trivial).symm
  | some name =>
    cases declarations with
    | nil =>
      have hsheet : 59 ∉ sheetText [] := by decide
      rw [declarationsIn_append_of_not_mem hsheet, and_iff_left trivial,
        ← lastValue_append_eq_shipped, List.map_nil, List.append_nil]
    | cons first others =>
      have hfirst := hplain first List.mem_cons_self
      obtain ⟨more, hmore, hsheet⟩ := sheetText_cons hfirst
        (hnames first List.mem_cons_self) others
      obtain ⟨value, hvalue, hread⟩ := declarationsIn_append_of_open hopen hmore (lines others)
      rw [hsheet, hread, declarationsIn_lines (fun d hd => hplain d (List.mem_cons_of_mem _ hd))
        fun d hd => hnames d (List.mem_cons_of_mem _ hd)]
      exact lastValue_open_eq_shipped hfirst hvalue

/-- **The gate judges the style sheet** exactly where the title does no harm. -/
theorem judgesShipped_page (hhead : 123 ∉ head) (hplain : ∀ d ∈ declarations, d.Plain) :
    JudgesShipped (pageText head title declarations rest) declarations ↔
      NamesRead declarations ∧ TitleHarmless title declarations := by
  by_cases hnames : NamesRead declarations
  · rw [and_iff_right hnames]
    unfold JudgesShipped
    rw [extractRootCssVars_page hhead (brace_not_mem_lines hplain hnames), Option.some_inj]
    unfold judgedBlock TitleHarmless
    cases openedBlock title with
    | none =>
      refine iff_of_true ?_ trivial
      rw [declarationsIn_lines hplain hnames]
      rfl
    | some own =>
      dsimp only
      cases own.dropInfix? (js "\n\x7d") with
      | some block => exact Iff.rfl
      | none => exact openBlockHarmless_iff hplain hnames own
  · exact iff_of_false (fun h => hnames h.namesRead) fun h => hnames h.1

end judged

/-! ## The pages -/

section pages

variable {root : PdosRoot} {styles : Styles}

theorem htmlLangPattern_of_ok {value : Option JsString} {lang : JsString}
    (h : readCompositionLang value = .ok lang) : htmlLangPattern lang = true := by
  unfold readCompositionLang at h
  split at h
  · obtain rfl := Except.ok.inj h
    decide
  · split at h
    · rename_i hlang
      obtain rfl := Except.ok.inj h
      exact hlang
    · cases h

theorem htmlLangPattern_of_resolvePatternData {spec : SpecOrPattern} {data : RenderPatternData}
    (h : resolvePatternData root spec = .ok data) : htmlLangPattern data.lang = true := by
  unfold resolvePatternData at h
  split at h
  · obtain rfl := Except.ok.inj h
    decide
  · split at h
    · cases h
    · obtain ⟨lang, hlang, h⟩ := bind_ok h
      obtain rfl := Except.ok.inj h
      exact htmlLangPattern_of_ok hlang
  · obtain ⟨lang, hlang, h⟩ := bind_ok h
    dsimp only at h
    split at h
    · cases h
    · obtain rfl := Except.ok.inj h
      exact htmlLangPattern_of_ok hlang

/-- The name of a component opens no block. -/
theorem openedBlock_of_component {checks : RenderChecks} {patternId : JsString}
    {render : PatternRenderInput → Rendered}
    (h : getPatternComponent checks patternId = some render) : openedBlock patternId = none := by
  obtain ⟨before, behind, hentries, -⟩ := List.lookup_eq_some_iff.1 h
  have hmem : (patternId, render) ∈ patternComponents checks := by
    rw [hentries]
    exact List.mem_append_right _ List.mem_cons_self
  unfold patternComponents at hmem
  simp only [List.mem_cons, List.not_mem_nil, or_false, Prod.mk.injEq] at hmem
  rcases hmem with ⟨rfl, -⟩ | ⟨rfl, -⟩ | ⟨rfl, -⟩ | ⟨rfl, -⟩ | ⟨rfl, -⟩ | ⟨rfl, -⟩ <;>
    decide +kernel

/-- The text of the author that becomes the title of a rendered pattern. -/
def authorTitle (data : RenderPatternData) : Option JsString :=
  (data.props (js "headline")).or (data.props (js "outcome_statement"))

/-- The declarations that are written for the overrides of a specification. -/
def EmitsDeclarations (root : PdosRoot) (overrides : TokenOverrides)
    (declarations : List Declaration) : Prop :=
  tokenDeclarations root.toLowerCase root.angles root.tokenFiles overrides = .ok declarations

theorem mapTokensToCss_ok {overrides : TokenOverrides} {tokenCss : JsString}
    {declarations : List Declaration} (hemits : EmitsDeclarations root overrides declarations)
    (h : mapTokensToCss root overrides = .ok tokenCss) : tokenCss = rootCss declarations := by
  unfold mapTokensToCss at h
  rw [hemits] at h
  exact (Except.ok.inj h).symm

theorem titleHarmless_of_component {checks : RenderChecks} {patternId : JsString}
    {render : PatternRenderInput → Rendered}
    (h : getPatternComponent checks patternId = some render) (declarations : List Declaration) :
    TitleHarmless patternId declarations := by
  unfold TitleHarmless
  rw [openedBlock_of_component h]
  trivial

theorem component_of_renderPattern {patternId : JsString} {contract : ComponentContract}
    {props : PatternProps} {slots : JsString → Option (List ResolvedSlotTarget)}
    {fragment : Fragment} (h : renderPattern root patternId contract props slots = .ok fragment) :
    ∃ render, getPatternComponent root.checks patternId = some render := by
  unfold renderPattern at h
  cases hrender : getPatternComponent root.checks patternId with
  | none =>
    rw [hrender] at h
    cases h
  | some render => exact ⟨render, rfl⟩

/-- The gate passed what it judged. -/
theorem contrast_of_judgesShipped {html : JsString} {declarations : List Declaration}
    (hgate : assertTokenColorContrast root html = .ok ()) (h : JudgesShipped html declarations) :
    root.contrast (shipped declarations) = .ok () := by
  unfold assertTokenColorContrast at hgate
  rw [show extractRootCssVars html = _ from h] at hgate
  exact hgate

/-- What is judged of a document. -/
theorem judgesShipped_document {lang : JsString} (hlang : htmlLangPattern lang = true)
    {overrides : TokenOverrides} {declarations : List Declaration}
    (hemits : EmitsDeclarations root overrides declarations) (title componentCss body : JsString) :
    JudgesShipped (renderHtmlDocument title lang (rootCss declarations) componentCss body)
        declarations ↔ NamesRead declarations ∧ TitleHarmless title declarations := by
  obtain ⟨head, rest, hhead, hdocument⟩ :=
    renderHtmlDocument_eq hlang title (rootCss declarations) componentCss body
  rw [hdocument]
  exact judgesShipped_page hhead (plain_tokenDeclarations hemits)

/-- What the gate says of a document. -/
theorem assertTokenColorContrast_document {lang : JsString} (hlang : htmlLangPattern lang = true)
    {overrides : TokenOverrides} {declarations : List Declaration}
    (hemits : EmitsDeclarations root overrides declarations) (hnames : NamesRead declarations)
    (title componentCss body : JsString) :
    assertTokenColorContrast root
        (renderHtmlDocument title lang (rootCss declarations) componentCss body) =
      root.contrast (lastValue (declarationsIn (judgedBlock title declarations))) := by
  obtain ⟨head, rest, hhead, hdocument⟩ :=
    renderHtmlDocument_eq hlang title (rootCss declarations) componentCss body
  have hvars : extractRootCssVars (renderHtmlDocument title lang (rootCss declarations)
      componentCss body) = some (lastValue (declarationsIn (judgedBlock title declarations))) := by
    rw [hdocument]
    exact extractRootCssVars_page hhead
      (brace_not_mem_lines (plain_tokenDeclarations hemits) hnames)
  unfold assertTokenColorContrast
  rw [hvars]

/-- A title that the author need not give. -/
theorem titleHarmless_getD {title : Option JsString} {otherwise : JsString}
    {declarations : List Declaration} (hotherwise : TitleHarmless otherwise declarations) :
    TitleHarmless (title.getD otherwise) declarations ↔
      ∀ text, title = some text → TitleHarmless text declarations := by
  cases title with
  | none => exact iff_of_true hotherwise nofun
  | some text => exact ⟨fun h _ heq => Option.some.inj heq ▸ h, fun h => h text rfl⟩

theorem judgesShipped_composition {spec : SpecOrPattern} {page : RenderedPage}
    (h : renderComposition root styles spec = .ok page) {data : RenderPatternData}
    (hdata : resolvePatternData root spec = .ok data) {declarations : List Declaration}
    (hemits : EmitsDeclarations root data.overrides declarations) :
    assertTokenColorContrast root page.html = .ok () ∧
      (JudgesShipped page.html declarations ↔ NamesRead declarations ∧
        ∀ title, authorTitle data = some title → TitleHarmless title declarations) := by
  unfold renderComposition at h
  obtain ⟨data', hdata', h⟩ := bind_ok h
  obtain rfl := Except.ok.inj (hdata.symm.trans hdata')
  dsimp only at h
  split at h
  · cases h
  · obtain ⟨slots, -, h⟩ := bind_ok h
    obtain ⟨tokenCss, hcss, h⟩ := bind_ok h
    obtain ⟨fragment, hfragment, h⟩ := bind_ok h
    obtain ⟨⟨⟩, hgate, h⟩ := bind_ok h
    obtain rfl := Except.ok.inj h
    obtain rfl := mapTokensToCss_ok hemits hcss
    obtain ⟨render, hrender⟩ := component_of_renderPattern hfragment
    refine ⟨hgate, ?_⟩
    rw [judgesShipped_document (htmlLangPattern_of_resolvePatternData hdata) hemits,
      titleHarmless_getD (titleHarmless_of_component hrender declarations)]
    rfl

/-- A rendered section is one of a registered component. -/
theorem component_of_renderNode {spec : CompositionSpec} {node : CompositionNode} {index : ℕ}
    {rendered : RenderedSection} (h : renderNode root spec node index = .ok (.inl rendered)) :
    ∃ render, getPatternComponent root.checks rendered.patternId = some render := by
  unfold renderNode at h
  dsimp only at h
  split at h
  · cases Except.ok.inj h
  split at h
  · cases h
  split at h
  · cases h
  · split at h
    · cases Except.ok.inj h
    · cases h
    · cases h
    · obtain ⟨slots, -, h⟩ := bind_ok h
      obtain ⟨fragment, hfragment, h⟩ := bind_ok h
      obtain rfl := Sum.inl.inj (Except.ok.inj h)
      exact component_of_renderPattern hfragment

theorem component_of_renderNodes {spec : CompositionSpec} {nodes : List (CompositionNode × ℕ)}
    {results : List (RenderedSection ⊕ JsString × JsString)}
    (h : renderNodes root spec nodes = .ok results) :
    ∀ rendered, .inl rendered ∈ results →
      ∃ render, getPatternComponent root.checks rendered.patternId = some render := by
  induction nodes generalizing results with
  | nil =>
    obtain rfl := Except.ok.inj h
    nofun
  | cons node rest ih =>
    rw [renderNodes] at h
    obtain ⟨first, hfirst, h⟩ := bind_ok h
    obtain ⟨others, hothers, h⟩ := bind_ok h
    obtain rfl := Except.ok.inj h
    intro rendered hrendered
    rcases List.mem_cons.1 hrendered with rfl | hrendered
    · exact component_of_renderNode hfirst
    · exact ih hothers rendered hrendered

theorem judgesShipped_compositionPage {spec : CompositionSpec} {page : RenderedPage}
    (h : renderCompositionPage root styles spec = .ok page) {declarations : List Declaration}
    (hemits : EmitsDeclarations root (readTokenOverrides spec) declarations) :
    assertTokenColorContrast root page.html = .ok () ∧
      (JudgesShipped page.html declarations ↔ NamesRead declarations ∧
        ∀ id, spec.id = some id → TitleHarmless id declarations) := by
  unfold renderCompositionPage at h
  obtain ⟨lang, hlang, h⟩ := bind_ok h
  obtain ⟨tokenCss, hcss, h⟩ := bind_ok h
  obtain ⟨nodes, hnodes, h⟩ := bind_ok h
  dsimp only at h
  split at h
  · cases h
  · rename_i first rest hsections
    obtain ⟨⟨⟩, hgate, h⟩ := bind_ok h
    obtain rfl := Except.ok.inj h
    obtain rfl := mapTokensToCss_ok hemits hcss
    have hfirst : first ∈ nodes.filterMap Sum.getLeft? := hsections ▸ List.mem_cons_self
    obtain ⟨result, hresult, hleft⟩ := List.mem_filterMap.1 hfirst
    obtain ⟨render, hrender⟩ := component_of_renderNodes hnodes first
      (Sum.getLeft?_eq_some_iff.1 hleft ▸ hresult)
    refine ⟨hgate, ?_⟩
    rw [judgesShipped_document (htmlLangPattern_of_ok hlang) hemits,
      titleHarmless_getD (titleHarmless_of_component hrender declarations)]

/-! ### Pages that are accepted -/

theorem mapTokensToCss_eq {overrides : TokenOverrides} {declarations : List Declaration}
    (hemits : EmitsDeclarations root overrides declarations) :
    mapTokensToCss root overrides = .ok (rootCss declarations) := by
  unfold mapTokensToCss
  rw [hemits]

/-- A pattern whose component takes its input is rendered where the gate passes. -/
theorem renderComposition_ok (styles : Styles) {spec : SpecOrPattern} {data : RenderPatternData}
    (hdata : resolvePatternData root spec = .ok data) {contract : ComponentContract}
    (hcontract : findPatternContract root data.patternId = some contract)
    (hrendered : (resolveSlots root contract data.nodes data.slotFills >>=
      renderPattern root data.patternId contract data.props).toBool = true)
    {declarations : List Declaration}
    (hemits : EmitsDeclarations root data.overrides declarations) (hnames : NamesRead declarations)
    {title : JsString} (htitle : authorTitle data = some title)
    (hgate : root.contrast (lastValue (declarationsIn (judgedBlock title declarations))) =
      .ok ()) : ∃ page, renderComposition root styles spec = .ok page := by
  obtain ⟨fragment, hfragment⟩ := exists_of_toBool hrendered
  obtain ⟨slots, hslots, hfragment⟩ := bind_ok hfragment
  have hpassed := assertTokenColorContrast_document
    (htmlLangPattern_of_resolvePatternData hdata) hemits hnames title
    (styles.base ++ js "\n" ++ styles.component data.patternId) fragment.html
  rw [hgate] at hpassed
  have htitle' : ((data.props (js "headline")).or (data.props (js "outcome_statement"))).getD
      data.patternId = title := by
    rw [show (data.props (js "headline")).or _ = _ from htitle]
    rfl
  unfold renderComposition
  simp only [hdata, bind, Except.bind, hcontract, hslots, mapTokensToCss_eq hemits, hfragment,
    htitle', hpassed]
  exact ⟨_, rfl⟩

/-- A page with a section is rendered where the gate passes. -/
theorem renderCompositionPage_ok (styles : Styles) {spec : CompositionSpec} {lang : JsString}
    (hlang : readCompositionLang spec.lang = .ok lang)
    (hrendered : (renderNodes root spec spec.nodes.zipIdx).toOption.any (fun results =>
      !(results.filterMap Sum.getLeft?).isEmpty) = true) {declarations : List Declaration}
    (hemits : EmitsDeclarations root (readTokenOverrides spec) declarations)
    (hnames : NamesRead declarations) {id : JsString} (hid : spec.id = some id)
    (hgate : root.contrast (lastValue (declarationsIn (judgedBlock id declarations))) = .ok ()) :
    ∃ page, renderCompositionPage root styles spec = .ok page := by
  cases hnodes : renderNodes root spec spec.nodes.zipIdx with
  | error error =>
    rw [hnodes] at hrendered
    cases hrendered
  | ok results =>
    rw [hnodes] at hrendered
    change (!(results.filterMap Sum.getLeft?).isEmpty) = true at hrendered
    unfold renderCompositionPage
    simp only [hlang, mapTokensToCss_eq hemits, hnodes, bind, Except.bind]
    cases hsections : results.filterMap Sum.getLeft? with
    | nil =>
      rw [hsections] at hrendered
      cases hrendered
    | cons first rest =>
      have hpassed := assertTokenColorContrast_document (htmlLangPattern_of_ok hlang) hemits hnames
        id (styles.base ++ js "\n" ++ joinedBy (js "\n\n") (usedStyles styles (first :: rest)))
        (pageBody id (first :: rest))
      rw [hgate] at hpassed
      simp only [hid, Option.getD_some, hpassed]
      exact ⟨_, rfl⟩

/-- **The contrast gate judges the style sheet that is shipped** if and only if its names can be
read and the text that becomes the title opens no block that does harm; and then the colors
that are shipped passed. -/
theorem contrast_gate_judges_shipped_iff (root : PdosRoot) (styles : Styles) :
    (∀ spec page data declarations, renderComposition root styles spec = .ok page →
      resolvePatternData root spec = .ok data →
      EmitsDeclarations root data.overrides declarations →
      (JudgesShipped page.html declarations ↔ NamesRead declarations ∧
        ∀ title, authorTitle data = some title → TitleHarmless title declarations) ∧
      (JudgesShipped page.html declarations → root.contrast (shipped declarations) = .ok ())) ∧
    ∀ spec page declarations, renderCompositionPage root styles spec = .ok page →
      EmitsDeclarations root (readTokenOverrides spec) declarations →
      (JudgesShipped page.html declarations ↔ NamesRead declarations ∧
        ∀ id, spec.id = some id → TitleHarmless id declarations) ∧
      (JudgesShipped page.html declarations → root.contrast (shipped declarations) = .ok ()) := by
  constructor
  · intro spec page data declarations h hdata hemits
    obtain ⟨hgate, hjudges⟩ := judgesShipped_composition h hdata hemits
    exact ⟨hjudges, contrast_of_judgesShipped hgate⟩
  · intro spec page declarations h hemits
    obtain ⟨hgate, hjudges⟩ := judgesShipped_compositionPage h hemits
    exact ⟨hjudges, contrast_of_judgesShipped hgate⟩

end pages

/-! ## A page with colors of its own -/

section sample

/-- A closing section whose text has a color of its own. -/
def coloredSpec (id textColor : String) : CompositionSpec where
  id := js id
  nodes := [{
    targetKind := js "pattern"
    targetId := js "outcome-cta"
    props := some
      [{ name := js "outcome_statement", stringValue := js "Start today" },
        { name := js "cta_label", stringValue := js "Call" }]
    slotFills := [⟨js "proof_context",
      [{ targetKind := js "pattern", targetId := js "proof-led-section" }]⟩] }]
  overridesEnabled := true
  overrideValues := [⟨js "color.json", js "text", .string (js textColor)⟩]

def coloredDeclarations (id textColor : String) : Except (List TokenIssue) (List Declaration) :=
  tokenDeclarations outcomeCtaRoot.toLowerCase outcomeCtaRoot.angles outcomeCtaRoot.tokenFiles
    (readTokenOverrides (coloredSpec id textColor))

/-- What is written for a page with a color of its own, with names that can be read, and what
the gate says where a title is judged along. -/
theorem exists_coloredDeclarations (id textColor : String) (passed : Bool)
    (h : (coloredDeclarations id textColor).toOption.any (fun declarations =>
      (declarations.all fun d => d.property.1.all isNameUnit) &&
      (outcomeCtaRoot.contrast
        (lastValue (declarationsIn (judgedBlock (js id) declarations)))).toBool &&
      ((outcomeCtaRoot.contrast (shipped declarations)).toBool == passed)) = true) :
    ∃ declarations, coloredDeclarations id textColor = .ok declarations ∧ NamesRead declarations ∧
      outcomeCtaRoot.contrast
        (lastValue (declarationsIn (judgedBlock (js id) declarations))) = .ok () ∧
      (outcomeCtaRoot.contrast (shipped declarations)).toBool = passed := by
  cases hdeclarations : coloredDeclarations id textColor with
  | error issues =>
    rw [hdeclarations] at h
    cases h
  | ok declarations =>
    rw [hdeclarations] at h
    change (_ && _ && _) = true at h
    simp only [Bool.and_eq_true, beq_iff_eq] at h
    obtain ⟨⟨hnames, hgate⟩, hshipped⟩ := h
    obtain ⟨⟨⟩, hgate⟩ := exists_of_toBool hgate
    exact ⟨declarations, rfl, fun d hd => List.all_eq_true.1 (List.all_eq_true.1 hnames d hd),
      hgate, hshipped⟩

/-- Black text on white is judged as it is shipped. -/
theorem contrast_gate_judges_shipped_sample :
    ∃ declarations, EmitsDeclarations outcomeCtaRoot
        (readTokenOverrides (coloredSpec "Start today" "#000000")) declarations ∧
      (∃ page, renderComposition outcomeCtaRoot plainStyles
        (.composition (coloredSpec "Start today" "#000000")) = .ok page ∧
          JudgesShipped page.html declarations) ∧
      ∃ page, renderCompositionPage outcomeCtaRoot plainStyles
        (coloredSpec "Start today" "#000000") = .ok page ∧
          JudgesShipped page.html declarations := by
  obtain ⟨declarations, hemits, hnames, hgate, -⟩ :=
    exists_coloredDeclarations "Start today" "#000000" true (by decide +kernel)
  have hdata : resolvePatternData outcomeCtaRoot
      (.composition (coloredSpec "Start today" "#000000")) = .ok _ := rfl
  have hlang : readCompositionLang (coloredSpec "Start today" "#000000").lang = .ok _ := rfl
  obtain ⟨section', hsection⟩ := renderComposition_ok plainStyles hdata rfl (by decide +kernel)
    hemits hnames rfl hgate
  obtain ⟨page, hpage⟩ := renderCompositionPage_ok plainStyles hlang (by decide +kernel) hemits
    hnames rfl hgate
  have htitle : TitleHarmless (js "Start today") declarations := by
    have hopened : openedBlock (js "Start today") = none := by decide
    unfold TitleHarmless
    rw [hopened]
    trivial
  have hjudges := contrast_gate_judges_shipped_iff outcomeCtaRoot plainStyles
  refine ⟨declarations, hemits, ⟨section', hsection, ?_⟩, page, hpage, ?_⟩
  · refine (hjudges.1 _ _ _ declarations hsection rfl hemits).1.2 ⟨hnames, ?_⟩
    intro title h
    obtain rfl := Option.some.inj h
    exact htitle
  · refine (hjudges.2 _ _ declarations hpage hemits).1.2 ⟨hnames, ?_⟩
    intro title h
    obtain rfl := Option.some.inj h
    exact htitle

/-- A title that holds a block of its own, in black and white. -/
def blackOnWhiteTitle : String :=
  ":root\x7b--color-background:#ffffff;--color-surface:#ffffff;--color-text:#000000;" ++
    "--color-muted-text:#000000;--color-accent:#000000;--color-accent-secondary:#000000;" ++
    "--color-accent-text:#ffffff;\n\x7d"

/-- White text on white passes behind such a title. -/
theorem title_is_judged_for_the_style_sheet :
    ∃ declarations, EmitsDeclarations outcomeCtaRoot
        (readTokenOverrides (coloredSpec blackOnWhiteTitle "#ffffff")) declarations ∧
      outcomeCtaRoot.contrast (shipped declarations) ≠ .ok () ∧
      ∃ page, renderCompositionPage outcomeCtaRoot plainStyles
        (coloredSpec blackOnWhiteTitle "#ffffff") = .ok page ∧
          ¬JudgesShipped page.html declarations := by
  have hcolored := exists_coloredDeclarations blackOnWhiteTitle "#ffffff" false (by
    unfold blackOnWhiteTitle
    rw [js_append, js_append]
    repeat rw [js_ofList]
    decide +kernel)
  obtain ⟨declarations, hemits, hnames, hgate, hshipped⟩ := hcolored
  have hfails : outcomeCtaRoot.contrast (shipped declarations) ≠ .ok () := fun h => by
    rw [h] at hshipped
    cases hshipped
  have hlang : readCompositionLang (coloredSpec blackOnWhiteTitle "#ffffff").lang = .ok _ := rfl
  obtain ⟨page, hpage⟩ := renderCompositionPage_ok plainStyles hlang (by decide +kernel) hemits
    hnames rfl hgate
  refine ⟨declarations, hemits, hfails, page, hpage, fun h => hfails ?_⟩
  exact contrast_of_judgesShipped (judgesShipped_compositionPage hpage hemits).1 h

end sample

end Autopilot.RenderComposition
