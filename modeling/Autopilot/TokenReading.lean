/-
What is read of the custom properties that are written.

Every value that is written passed a normalizer, so it holds no semicolon and no brace, and
reading the lines gives the declarations back. The reader is also followed through text
that is not its own, up to the first `<`.
-/
import Autopilot.TokenCss

set_option autoImplicit false

namespace Autopilot.TokenCss

open PatternComponents

/-! ## The values -/

/-- A character that ends neither a value nor a block, and begins no tag. -/
def isPlainUnit (c : UInt16) : Bool := c ≠ 59 && c ≠ 60 && c ≠ 125

/-- A value that stands in its line as it is. -/
structure PlainValue (value : JsString) : Prop where
  nonempty : value ≠ []
  trimmed : trim value = value
  units : value.all isPlainUnit = true

theorem plain_of_test {value : JsString}
    (h : (value ≠ [] && trim value = value && value.all isPlainUnit) = true) :
    PlainValue value := by
  simp only [Bool.and_eq_true, decide_eq_true_eq] at h
  exact ⟨h.1.1, h.1.2, h.2⟩

theorem trim_of_all {value : JsString} (h : ∀ c ∈ value, isWhitespace c = false) :
    trim value = value := by
  have hfront : value.dropWhile isWhitespace = value := by
    cases value with
    | nil => rfl
    | cons c rest => exact List.dropWhile_cons_of_neg (by simp [h c])
  rw [trim_eq, hfront, List.rdropWhile_eq_self_iff]
  intro hne
  rw [h _ (List.getLast_mem hne)]
  exact Bool.false_ne_true

theorem isNumberUnit_plain {c : UInt16} (h : isNumberUnit c = true) :
    isWhitespace c = false ∧ isPlainUnit c = true := by
  simp only [isNumberUnit, isLetter, isDigitUnit, isWhitespace, isPlainUnit,
    UInt16.le_iff_toNat_le, ← UInt16.toNat_inj, Bool.or_eq_true, Bool.and_eq_true,
    decide_eq_true_eq, Bool.or_eq_false_iff, Bool.and_eq_false_iff, decide_eq_false_iff_not,
    UInt16.toNat_ofNat, ne_eq] at h ⊢
  simp at h ⊢
  omega

theorem NumberText.plain (number : NumberText) : PlainValue number.text where
  nonempty := number.nonempty
  trimmed := trim_of_all fun c hc => (isNumberUnit_plain (number.units c hc)).1
  units := List.all_eq_true.2 fun c hc => (isNumberUnit_plain (number.units c hc)).2

/-- Units of a number, with `deg` behind. -/
theorem NumberText.deg_units (number : NumberText) :
    ∀ c ∈ number.text ++ js "deg", isNumberUnit c = true := by
  intro c hc
  rcases List.mem_append.1 hc with hc | hc
  · exact number.units c hc
  · have hdeg : (js "deg").all isNumberUnit = true := by decide
    exact List.all_eq_true.1 hdeg c hc

theorem NumberText.plain_deg (number : NumberText) : PlainValue (number.text ++ js "deg") := by
  have hunits := number.deg_units
  refine ⟨by simp [number.nonempty], trim_of_all fun c hc => ?_, List.all_eq_true.2 fun c hc => ?_⟩
  · exact (isNumberUnit_plain (hunits c hc)).1
  · exact (isNumberUnit_plain (hunits c hc)).2

theorem plain_normalizeCssText {value safeValue : JsString}
    (h : normalizeCssText value = some safeValue) : PlainValue safeValue := by
  unfold normalizeCssText at h
  dsimp only at h
  by_cases hlength : trim value = [] ∨ (trim value).length > 240
  · rw [if_pos hlength] at h
    cases h
  rw [if_neg hlength] at h
  split at h
  · cases h
  split at h
  · cases h
  split at h
  · cases h
  rename_i hunits
  split at h
  · cases h
  obtain rfl := Option.some.inj h
  refine ⟨fun hempty => hlength (.inl hempty), trim_trim value, List.all_eq_true.2 fun c hc => ?_⟩
  have hc := List.all_eq_true.1 (not_not.1 hunits) c hc
  by_contra hspecial
  -- neither `;` nor `<` nor a closing brace may stand in a value
  unfold isPlainUnit at hspecial
  simp only [ne_eq, Bool.and_eq_true, decide_eq_true_eq, not_and, not_not] at hspecial
  by_cases hsemicolon : c = 59
  · subst hsemicolon
    exact absurd hc (by decide)
  by_cases htag : c = 60
  · subst htag
    exact absurd hc (by decide)
  obtain rfl := hspecial ⟨hsemicolon, htag⟩
  exact absurd hc (by decide)

/-- The values that are written as they stand in the source. -/
def fixedValues : List JsString :=
  styleTokenValues.flatMap (·.2) ++
    [js "8deg", js "999px", js "var(--radius-lg)", js "var(--radius-none)", js "0px", js "2px",
      js "3px", js "0", js "0.52", js "1", js "uppercase", js "none",
      surfaceBackground (js "flat"), surfaceBackground (js "gradient")]

/-- A property of every value that is made from the style tokens. -/
structure OfDerived (P : JsString → Prop) : Prop where
  degrees : ∀ number : NumberText, P (number.text ++ js "deg")
  fixed : ∀ value ∈ fixedValues, P value

/-- A property of every value that may be written. -/
structure OfValues (P : JsString → Prop) : Prop extends OfDerived P where
  checked : ∀ {value safeValue : JsString}, normalizeCssText value = some safeValue → P safeValue
  number : ∀ number : NumberText, P number.text

/-- The only long one of the fixed values. -/
theorem plain_gradient : PlainValue (surfaceBackground (js "gradient")) := by
  unfold surfaceBackground
  rw [if_neg (by decide)]
  repeat rw [js_ofList]
  exact plain_of_test (by decide +kernel)

theorem plain_fixedValues : ∀ value ∈ fixedValues, PlainValue value := by
  intro value hvalue
  have hlast : fixedValues = fixedValues.dropLast ++ [surfaceBackground (js "gradient")] := rfl
  rw [hlast, List.mem_append, List.mem_singleton] at hvalue
  rcases hvalue with hvalue | rfl
  · have hall : fixedValues.dropLast.all (fun value =>
        value ≠ [] && trim value = value && value.all isPlainUnit) = true := by decide +kernel
    exact plain_of_test (List.all_eq_true.1 hall value hvalue)
  · exact plain_gradient

theorem plain_ofValues : OfValues PlainValue where
  checked := plain_normalizeCssText
  number := NumberText.plain
  degrees := NumberText.plain_deg
  fixed := plain_fixedValues

/-- A property of every token's value. -/
def OfTokens (P : JsString → Prop) (tokens : Record JsString JsString) : Prop :=
  ∀ token ∈ tokens.entries, P token.2

theorem OfTokens.set {P : JsString → Prop} {tokens : Record JsString JsString}
    (h : OfTokens P tokens) {tokenKey value : JsString} (hvalue : P value) :
    OfTokens P (tokens.set tokenKey value) := by
  intro token htoken
  rw [(tokens.entries_set_perm tokenKey value).mem_iff, List.mem_cons] at htoken
  rcases htoken with rfl | hold
  · exact hvalue
  · exact h token (List.mem_of_mem_filter hold)

variable {toLowerCase : JsString → JsString} {angles : AngleNumbers}

namespace OfDerived

variable {P : JsString → Prop} (h : OfDerived P)

include h

theorem of_invertDegreeAngle (value : JsString) : P (invertDegreeAngle angles value) := by
  unfold invertDegreeAngle
  split
  · exact h.fixed _ (by decide +kernel)
  · exact h.degrees _

theorem of_surfaceBackground (value : JsString) : P (surfaceBackground value) := by
  by_cases hflat : value = js "flat"
  · rw [hflat]
    exact h.fixed _ (by simp [fixedValues])
  · have hgradient : surfaceBackground value = surfaceBackground (js "gradient") := by
      unfold surfaceBackground
      rw [if_neg hflat, if_neg (by decide)]
    rw [hgradient]
    exact h.fixed _ (by simp [fixedValues])

/-- The values that are made from the style tokens. -/
theorem of_styleDerivedDeclarations (styleTokens : Record JsString JsString) :
    ∀ d ∈ styleDerivedDeclarations angles styleTokens, P d.value := by
  unfold styleDerivedDeclarations
  dsimp only
  intro d hd
  simp only [List.mem_cons, List.not_mem_nil, or_false] at hd
  rcases hd with rfl | rfl | rfl | rfl | rfl | rfl
  · exact h.of_invertDegreeAngle _
  · unfold cornerRadiusForStyle
    repeat' split
    all_goals exact h.fixed _ (by decide +kernel)
  · unfold decorationBorderWidth
    repeat' split
    all_goals exact h.fixed _ (by decide +kernel)
  · unfold decorationOpacity
    repeat' split
    all_goals exact h.fixed _ (by decide +kernel)
  · dsimp only
    split <;> exact h.fixed _ (by decide +kernel)
  · exact h.of_surfaceBackground _

/-- The values of the style tokens that are chosen from a list. -/
theorem of_styleTokenValue {tokenKey value : JsString} {allowedValues : List JsString}
    (hallowed : styleTokenValues.lookup tokenKey = some allowedValues)
    (hvalue : value ∈ allowedValues) : P value := by
  obtain ⟨before, behind, hentries, -⟩ := List.lookup_eq_some_iff.1 hallowed
  refine h.fixed value (List.mem_append_left _ (List.mem_flatMap.2 ⟨(tokenKey, allowedValues), ?_,
    hvalue⟩))
  rw [hentries]
  exact List.mem_append_right _ List.mem_cons_self

end OfDerived

namespace OfValues

variable {P : JsString → Prop} (h : OfValues P)

include h

theorem of_normalizeCssTokenOverrideValue {value : TokenPrimitive} {safeValue : JsString}
    (hsafe : normalizeCssTokenOverrideValue value = some safeValue) : P safeValue := by
  cases value with
  | string value => exact h.checked hsafe
  | number finite text =>
    unfold normalizeCssTokenOverrideValue at hsafe
    dsimp only at hsafe
    split at hsafe
    · obtain rfl := Option.some.inj hsafe
      exact h.number text
    · cases hsafe
  | boolean value => cases hsafe

theorem of_normalizeTokenValueForCss {tokenFile tokenKey : JsString} {value : TokenPrimitive}
    {safeValue : JsString}
    (hsafe : normalizeTokenValueForCss angles tokenFile tokenKey value = some safeValue) :
    P safeValue := by
  unfold normalizeTokenValueForCss at hsafe
  split at hsafe
  · unfold normalizeStyleTokenOverrideValue at hsafe
    split at hsafe
    · obtain ⟨angle, -, hangle⟩ := Option.bind_eq_some_iff.1 hsafe
      exact h.checked hangle
    · split at hsafe
      · rename_i allowedValues text hallowed
        split at hsafe
        · rename_i hmem
          obtain rfl := Option.some.inj hsafe
          exact h.toOfDerived.of_styleTokenValue hallowed hmem
        · cases hsafe
      · cases hsafe
  · exact h.of_normalizeCssTokenOverrideValue (Option.filter_eq_some_iff.1 hsafe).1

/-! ## The tokens of a file -/

theorem of_normalizeFlattenedTokens (file : TokenFile) :
    OfTokens P (normalizeFlattenedTokens angles file).1 := by
  unfold normalizeFlattenedTokens
  dsimp only
  refine List.foldlRecOn _ _ (motive := fun tokens : _ × List TokenIssue => OfTokens P tokens.1)
    nofun fun tokens htokens token _ => ?_
  split
  · rename_i safeValue hsafe
    exact htokens.set (h.of_normalizeTokenValueForCss hsafe)
  · exact htokens

theorem of_overrideTokens {file : TokenFile} {tokens : Record JsString JsString}
    (htokens : OfTokens P tokens) (overrides : Record JsString TokenPrimitive) :
    OfTokens P (overrideTokens toLowerCase angles file tokens overrides).1 := by
  unfold overrideTokens
  dsimp only
  refine List.foldlRecOn _ _ (motive := fun tokens : _ × List TokenIssue => OfTokens P tokens.1)
    htokens fun tokens htokens override _ => ?_
  split
  · exact htokens
  · split
    · exact htokens
    · rename_i safeValue hsafe
      exact htokens.set (h.of_normalizeTokenValueForCss hsafe)

/-! ## The declarations -/

theorem of_fileDeclarations (overrides : TokenOverrides) (file : TokenFile) :
    ∀ d ∈ (fileDeclarations toLowerCase angles overrides file).1, P d.value := by
  intro d hd
  unfold fileDeclarations at hd
  dsimp only at hd
  rcases List.mem_append.1 hd with hd | hd
  · obtain ⟨token, htoken, rfl⟩ := List.mem_map.1 hd
    have htoken := (List.perm_insertionSort _ _).mem_iff.1 htoken
    exact h.of_overrideTokens (h.of_normalizeFlattenedTokens file) _ token htoken
  · split at hd
    · exact h.toOfDerived.of_styleDerivedDeclarations _ d hd
    · cases hd

end OfValues

/-- Where the declarations come from. -/
theorem tokenDeclarations_ok {files : List TokenFile} {overrides : TokenOverrides}
    {declarations : List Declaration}
    (h : tokenDeclarations toLowerCase angles files overrides = .ok declarations) :
    declarations = (files.insertionSort fun left right => tokenFileLe left.name right.name).flatMap
        (fun file =>
          (fileDeclarations toLowerCase angles (normalizeOverrideMap overrides) file).1) ∧
      ∀ file ∈ files,
        (fileDeclarations toLowerCase angles (normalizeOverrideMap overrides) file).2 = [] := by
  unfold tokenDeclarations at h
  dsimp only at h
  split at h
  · rename_i hissues
    rw [List.append_eq_nil_iff, List.flatMap_map, List.flatMap_eq_nil_iff] at hissues
    refine ⟨?_, fun file hfile =>
      hissues.2 file ((List.perm_insertionSort _ _).mem_iff.2 hfile)⟩
    rw [← Except.ok.inj h, List.flatMap_map]
  · cases h

/-- **A property of every value that is written.** -/
theorem OfValues.of_tokenDeclarations {P : JsString → Prop} (h : OfValues P)
    {files : List TokenFile} {overrides : TokenOverrides} {declarations : List Declaration}
    (hemits : tokenDeclarations toLowerCase angles files overrides = .ok declarations) :
    ∀ d ∈ declarations, P d.value := by
  intro d hd
  rw [(tokenDeclarations_ok hemits).1] at hd
  obtain ⟨file, -, hd⟩ := List.mem_flatMap.1 hd
  exact h.of_fileDeclarations _ file d hd

/-- A declaration is two hyphens with a name, and a value that passed. -/
structure Declaration.Plain (d : Declaration) : Prop where
  named : ∃ name, name ≠ [] ∧ d.name = js "--" ++ name
  value : PlainValue d.value

theorem named_cssCustomPropertyName (tokenPrefix rawTokenKey : JsString) :
    ∃ name, name ≠ [] ∧
      cssCustomPropertyName toLowerCase tokenPrefix rawTokenKey = js "--" ++ name := by
  unfold cssCustomPropertyName
  dsimp only
  rw [List.append_assoc, List.append_assoc]
  exact ⟨_, List.append_ne_nil_of_right_ne_nil _ (List.cons_ne_nil _ _), rfl⟩

/-- The names of what is made from the style tokens. -/
def styleDerivedNames : List JsString :=
  [js "--style-accent-angle-inverse-deg", js "--style-corner-radius",
    js "--style-decoration-border-width", js "--style-decoration-opacity",
    js "--style-heading-transform", js "--style-surface-background"]

theorem name_mem_styleDerivedNames {styleTokens : Record JsString JsString} {d : Declaration}
    (h : d ∈ styleDerivedDeclarations angles styleTokens) : d.name ∈ styleDerivedNames :=
  List.mem_map_of_mem (f := fun d => d.name) h

theorem named_styleDerivedDeclarations (styleTokens : Record JsString JsString) :
    ∀ d ∈ styleDerivedDeclarations angles styleTokens,
      ∃ name, name ≠ [] ∧ d.name = js "--" ++ name := by
  intro d hd
  have hall : styleDerivedNames.all (fun name => js "--" <+: name && name.length ≠ 2) = true := by
    unfold styleDerivedNames
    repeat rw [js_ofList]
    decide +kernel
  have hname := List.all_eq_true.1 hall _ (name_mem_styleDerivedNames hd)
  simp only [Bool.and_eq_true, decide_eq_true_eq] at hname
  obtain ⟨⟨text, htext⟩, hlength⟩ := hname
  exact ⟨text, fun hempty => hlength (by rw [← htext, hempty]; rfl), htext.symm⟩

theorem named_fileDeclarations (overrides : TokenOverrides) (file : TokenFile) :
    ∀ d ∈ (fileDeclarations toLowerCase angles overrides file).1,
      ∃ name, name ≠ [] ∧ d.name = js "--" ++ name := by
  intro d hd
  unfold fileDeclarations at hd
  dsimp only at hd
  rcases List.mem_append.1 hd with hd | hd
  · obtain ⟨token, -, rfl⟩ := List.mem_map.1 hd
    exact named_cssCustomPropertyName _ _
  · split at hd
    · exact named_styleDerivedDeclarations _ d hd
    · cases hd

/-- **What `mapTokensToCss` writes.** -/
theorem plain_tokenDeclarations {files : List TokenFile} {overrides : TokenOverrides}
    {declarations : List Declaration}
    (h : tokenDeclarations toLowerCase angles files overrides = .ok declarations) :
    ∀ d ∈ declarations, d.Plain := by
  intro d hd
  refine ⟨?_, plain_ofValues.of_tokenDeclarations h d hd⟩
  rw [(tokenDeclarations_ok h).1] at hd
  obtain ⟨file, -, hd⟩ := List.mem_flatMap.1 hd
  exact named_fileDeclarations _ file d hd

/-! ## The reader -/

/-- What is taken up to a character, and that character. -/
theorem takeWhile_eq_and_drop_eq {α : Type} (p : α → Bool) (text : List α) {taken rest : List α}
    {c : α} :
    text.takeWhile p = taken ∧ text.drop taken.length = c :: rest ↔
      text = taken ++ c :: rest ∧ (∀ d ∈ taken, p d = true) ∧ p c = false := by
  constructor
  · rintro ⟨rfl, hrest⟩
    have hdropped : text.dropWhile p = c :: rest := by
      have hleft : (text.takeWhile p ++ text.dropWhile p).drop (text.takeWhile p).length =
        text.dropWhile p := List.drop_left
      rwa [List.takeWhile_append_dropWhile, hrest, eq_comm] at hleft
    refine ⟨?_, fun _ => List.mem_takeWhile_imp, ?_⟩
    · rw [← hdropped, List.takeWhile_append_dropWhile]
    · have hfirst := List.head?_dropWhile_not p text
      rw [hdropped, List.head?_cons] at hfirst
      exact hfirst
  · rintro ⟨rfl, htaken, hc⟩
    rw [List.takeWhile_append_of_pos htaken, List.takeWhile_cons_of_neg (by simp [hc])]
    exact ⟨List.append_nil _, List.drop_left⟩

theorem drop_hyphens (text : JsString) : (js "--" ++ text).drop 2 = text := rfl

/-- **The pattern of a declaration**, at the beginning of a text. -/
theorem declarationAt_eq_some {text name value behind : JsString} :
    declarationAt text = some ((name, value), behind) ↔
      ∃ raw, text = js "--" ++ (name ++ 58 :: (raw ++ 59 :: behind)) ∧ name ≠ [] ∧
        (∀ c ∈ name, isNameUnit c = true) ∧ raw ≠ [] ∧ 59 ∉ raw ∧ value = trim raw := by
  constructor
  · intro h
    unfold declarationAt at h
    split at h
    · rename_i hhyphens
      obtain ⟨text, rfl⟩ := hhyphens
      rw [drop_hyphens] at h
      dsimp only at h
      split at h
      · rename_i rest hrest
        obtain ⟨hname, hunits, -⟩ := (takeWhile_eq_and_drop_eq _ _).1 ⟨rfl, hrest⟩
        split at h
        · rename_i c behind' hbehind
          obtain ⟨hraw, hsemicolon, hc⟩ := (takeWhile_eq_and_drop_eq _ _).1 ⟨rfl, hbehind⟩
          split at h
          · cases h
          · rename_i hfilled
            obtain ⟨hfound, rfl⟩ := Prod.mk.inj (Option.some.inj h)
            obtain ⟨rfl, rfl⟩ := Prod.mk.inj hfound
            obtain rfl : c = 59 := by simpa using hc
            refine ⟨_, ?_, ?_, hunits, ?_, ?_, rfl⟩
            · rw [← hraw, ← hname]
            · exact fun hempty => hfilled (.inl hempty)
            · exact fun hempty => hfilled (.inr hempty)
            · intro hmem
              simpa using hsemicolon _ hmem
        · cases h
      · cases h
    · cases h
  · rintro ⟨raw, rfl, hname, hunits, hraw, hsemicolon, rfl⟩
    have hname' := (takeWhile_eq_and_drop_eq isNameUnit
      (name ++ 58 :: (raw ++ 59 :: behind))).2 ⟨rfl, hunits, by decide⟩
    have hvalue := (takeWhile_eq_and_drop_eq (fun c : UInt16 => decide (c ≠ 59))
      (raw ++ 59 :: behind)).2
        ⟨rfl, fun c hc => decide_eq_true (ne_of_mem_of_not_mem hc hsemicolon), by decide⟩
    unfold declarationAt
    rw [if_pos (List.prefix_append _ _), drop_hyphens]
    dsimp only
    simp only [hname'.1, hname'.2, hvalue.1, hvalue.2]
    rw [if_neg (by simp [hname, hraw])]

theorem declarationAt_shorter {text behind : JsString} {found : JsString × JsString}
    (h : declarationAt text = some (found, behind)) : behind.length < text.length := by
  obtain ⟨raw, rfl, -⟩ := declarationAt_eq_some.1 h
  simp only [List.length_append, List.length_cons]
  omega

/-- A declaration begins with a hyphen. -/
theorem declarationAt_of_ne {c : UInt16} (hc : c ≠ 45) (rest : JsString) :
    declarationAt (c :: rest) = none := by
  cases h : declarationAt (c :: rest) with
  | none => rfl
  | some found =>
    obtain ⟨raw, htext, -⟩ := declarationAt_eq_some.1 h
    exact absurd (List.cons.inj htext).1 hc

/-- All declarations that are read of a text. -/
def declarationsIn (text : JsString) : List (JsString × JsString) :=
  readDeclarations text.length text

/-- The reader is done before its fuel is. -/
theorem readDeclarations_eq {fuel : ℕ} {text : JsString} (h : text.length ≤ fuel) :
    readDeclarations fuel text = declarationsIn text := by
  suffices hsame : ∀ fuel fuel' text, text.length ≤ fuel → text.length ≤ fuel' →
      readDeclarations fuel text = readDeclarations fuel' text from
    hsame fuel text.length text h le_rfl
  intro fuel
  induction fuel with
  | zero =>
    intro fuel' text hfuel _
    obtain rfl := List.length_eq_zero_iff.1 (Nat.le_zero.1 hfuel)
    cases fuel' <;> rfl
  | succ fuel ih =>
    intro fuel' text hfuel hfuel'
    cases fuel' with
    | zero =>
      obtain rfl := List.length_eq_zero_iff.1 (Nat.le_zero.1 hfuel')
      rfl
    | succ fuel' =>
      unfold readDeclarations
      cases hfound : declarationAt text with
      | some found =>
        have hshorter := declarationAt_shorter hfound
        dsimp only
        rw [ih fuel' found.2 (by omega) (by omega)]
      | none =>
        cases text with
        | nil => rfl
        | cons c rest =>
          rw [List.length_cons] at hfuel hfuel'
          exact ih fuel' rest (by omega) (by omega)

theorem declarationsIn_of_some {text behind : JsString} {found : JsString × JsString}
    (h : declarationAt text = some (found, behind)) :
    declarationsIn text = found :: declarationsIn behind := by
  have hshorter := declarationAt_shorter h
  obtain ⟨length, hlength⟩ := Nat.exists_eq_add_of_lt hshorter
  rw [declarationsIn, hlength, readDeclarations.eq_def]
  dsimp only
  rw [h]
  dsimp only
  rw [readDeclarations_eq (by omega)]

theorem declarationsIn_of_none {c : UInt16} {rest : JsString}
    (h : declarationAt (c :: rest) = none) : declarationsIn (c :: rest) = declarationsIn rest := by
  rw [declarationsIn, List.length_cons, readDeclarations.eq_def]
  dsimp only
  rw [h]
  rfl

/-- Text without hyphens is passed over. -/
theorem declarationsIn_append {before : JsString} (h : 45 ∉ before) (rest : JsString) :
    declarationsIn (before ++ rest) = declarationsIn rest := by
  induction before with
  | nil => rfl
  | cons c before ih =>
    rw [List.mem_cons, not_or] at h
    rw [List.cons_append, declarationsIn_of_none (declarationAt_of_ne (Ne.symm h.1) _), ih h.2]

/-- Without a semicolon there is no declaration. -/
theorem declarationsIn_of_not_mem {text : JsString} (h : 59 ∉ text) : declarationsIn text = [] := by
  induction text with
  | nil => rfl
  | cons c rest ih =>
    rw [declarationsIn_of_none, ih fun hmem => h (List.mem_cons_of_mem _ hmem)]
    cases hfound : declarationAt (c :: rest) with
    | none => rfl
    | some found =>
      obtain ⟨raw, htext, -⟩ := declarationAt_eq_some.1 hfound
      exact absurd (by simp [htext]) h

/-- The names that are read are names. -/
theorem isNameUnit_of_mem_declarationsIn {text : JsString} {found : JsString × JsString}
    (h : found ∈ declarationsIn text) : ∀ c ∈ found.1, isNameUnit c = true := by
  induction hlength : text.length using Nat.strong_induction_on generalizing text with
  | _ length ih =>
    subst hlength
    cases hfirst : declarationAt text with
    | some first =>
      rw [declarationsIn_of_some hfirst, List.mem_cons] at h
      rcases h with rfl | h
      · obtain ⟨raw, -, -, hunits, -⟩ := declarationAt_eq_some.1 hfirst
        exact hunits
      · exact ih _ (declarationAt_shorter hfirst) h rfl
    | none =>
      cases text with
      | nil => cases h
      | cons c rest =>
        rw [declarationsIn_of_none hfirst] at h
        exact ih _ (by simp) h rfl

/-! ## The lines of the declarations -/

/-- The name of a custom property without its hyphens, and the value. -/
def Declaration.property (d : Declaration) : JsString × JsString := (d.name.drop 2, d.value)

/-- The names of the declarations are ones that the pattern reads. -/
def NamesRead (declarations : List Declaration) : Prop :=
  ∀ d ∈ declarations, ∀ c ∈ d.property.1, isNameUnit c = true

/-- The lines of the declarations, each behind a line break. -/
def lines (declarations : List Declaration) : JsString :=
  declarations.flatMap fun d => js "\n" ++ d.line

theorem lines_cons (d : Declaration) (declarations : List Declaration) :
    lines (d :: declarations) = js "\n" ++ d.line ++ lines declarations := rfl

theorem trim_space (value : JsString) : trim (32 :: value) = trim value := by
  rw [trim_eq, trim_eq, List.dropWhile_cons_of_pos (by decide)]

theorem Declaration.Plain.name_eq {d : Declaration} (h : d.Plain) :
    d.name = js "--" ++ d.property.1 ∧ d.property.1 ≠ [] := by
  obtain ⟨name, hne, hname⟩ := h.named
  unfold Declaration.property
  rw [hname, drop_hyphens]
  exact ⟨rfl, hne⟩

/-- A line with what stands around it. -/
theorem line_eq {d : Declaration} (h : d.Plain) (rest : JsString) :
    js "\n" ++ d.line ++ rest =
      js "\n  " ++ (js "--" ++ (d.property.1 ++ 58 :: ((32 :: d.value) ++ 59 :: rest))) := by
  unfold Declaration.line
  rw [h.name_eq.1]
  simp only [List.append_assoc]
  rfl

theorem PlainValue.not_mem {value : JsString} (h : PlainValue value) {c : UInt16}
    (hc : isPlainUnit c = false) : c ∉ value := by
  intro hmem
  rw [List.all_eq_true.1 h.units c hmem] at hc
  cases hc

/-- What is read of a line, from its hyphens on. -/
theorem declarationAt_line {d : Declaration} (h : d.Plain)
    (hname : ∀ c ∈ d.property.1, isNameUnit c = true) (rest : JsString) :
    declarationAt (js "--" ++ (d.property.1 ++ 58 :: ((32 :: d.value) ++ 59 :: rest))) =
      some (d.property, rest) := by
  have hsemicolon : 59 ∉ 32 :: d.value := by
    rw [List.mem_cons, not_or]
    exact ⟨by decide, h.value.not_mem (by decide)⟩
  refine declarationAt_eq_some.2 ⟨32 :: d.value, rfl, h.name_eq.2, hname, List.cons_ne_nil _ _,
    hsemicolon, ?_⟩
  rw [trim_space, h.value.trimmed]

/-- **The lines are read as they were written.** -/
theorem declarationsIn_lines {declarations : List Declaration}
    (hplain : ∀ d ∈ declarations, d.Plain) (hnames : NamesRead declarations) :
    declarationsIn (lines declarations) = declarations.map Declaration.property := by
  induction declarations with
  | nil => rfl
  | cons d rest ih =>
    rw [List.forall_mem_cons] at hplain
    have hfound := declarationAt_line hplain.1 (hnames d List.mem_cons_self) (lines rest)
    rw [lines_cons, line_eq hplain.1, declarationsIn_append (by decide),
      declarationsIn_of_some hfound, ih hplain.2 fun e he => hnames e (List.mem_cons_of_mem _ he)]
    rfl

/-- No brace stands in the lines. -/
theorem brace_not_mem_lines {declarations : List Declaration} (hplain : ∀ d ∈ declarations, d.Plain)
    (hnames : NamesRead declarations) : 125 ∉ lines declarations := by
  intro hmem
  obtain ⟨d, hd, hmem⟩ := List.mem_flatMap.1 hmem
  have hline := line_eq (hplain d hd) []
  rw [List.append_nil] at hline
  have hname : 125 ∉ d.property.1 := fun hmem =>
    absurd (hnames d hd _ hmem) (by decide)
  have hvalue : 125 ∉ d.value := (hplain d hd).value.not_mem (by decide)
  have hmarks : 125 ∉ js "\n  " ∧ 125 ∉ js "--" := by decide
  rw [hline] at hmem
  simp only [List.mem_append, List.mem_cons, hname, hvalue, hmarks, false_or,
    List.not_mem_nil] at hmem
  exact absurd hmem (by decide)

/-! ## Text that is not the reader's own -/

/-- The name of a declaration that begins here and has no semicolon behind it. -/
def openNameAt (text : JsString) : Option JsString :=
  if js "--" <+: text then
    let name := (text.drop 2).takeWhile isNameUnit
    match (text.drop 2).drop name.length with
    | 58 :: rest => if name = [] ∨ 59 ∈ rest then none else some name
    | _ => none
  else none

/-- The name of the declaration that a text leaves open. -/
def leftOpen (text : JsString) : Option JsString := text.tails.findSome? openNameAt

theorem openNameAt_eq_some {text name : JsString} :
    openNameAt text = some name ↔ ∃ rest, text = js "--" ++ (name ++ 58 :: rest) ∧ name ≠ [] ∧
      (∀ c ∈ name, isNameUnit c = true) ∧ 59 ∉ rest := by
  constructor
  · intro h
    unfold openNameAt at h
    split at h
    · rename_i hhyphens
      obtain ⟨text, rfl⟩ := hhyphens
      rw [drop_hyphens] at h
      dsimp only at h
      split at h
      · rename_i rest hrest
        obtain ⟨hname, hunits, -⟩ := (takeWhile_eq_and_drop_eq _ _).1 ⟨rfl, hrest⟩
        split at h
        · cases h
        · rename_i hopen
          rw [not_or] at hopen
          obtain rfl := Option.some.inj h
          exact ⟨rest, by rw [← hname], hopen.1, hunits, hopen.2⟩
      · cases h
    · cases h
  · rintro ⟨rest, rfl, hname, hunits, hsemicolon⟩
    have hname' := (takeWhile_eq_and_drop_eq isNameUnit (name ++ 58 :: rest)).2
      ⟨rfl, hunits, by decide⟩
    unfold openNameAt
    rw [if_pos (List.prefix_append _ _), drop_hyphens]
    simp only [hname'.1, hname'.2]
    rw [if_neg (by simp [hname, hsemicolon])]

/-- What has a semicolon behind it is not open. -/
theorem openNameAt_of_mem {text : JsString} (h : 59 ∈ text) : openNameAt text = none := by
  cases hopen : openNameAt text with
  | none => rfl
  | some name =>
    obtain ⟨rest, rfl, -, hunits, hrest⟩ := openNameAt_eq_some.1 hopen
    have hname : 59 ∉ name := fun hmem => absurd (hunits _ hmem) (by decide)
    have hhyphens : 59 ∉ js "--" := by decide
    simp only [List.mem_append, List.mem_cons, hhyphens, hname, hrest, false_or, or_false] at h
    exact absurd h (by decide)

theorem leftOpen_of_none {c : UInt16} {rest : JsString} (h : openNameAt (c :: rest) = none) :
    leftOpen (c :: rest) = leftOpen rest := by
  unfold leftOpen
  rw [List.tails_cons, List.findSome?_cons, h]

theorem leftOpen_of_some {text name : JsString} (h : openNameAt text = some name) :
    leftOpen text = some name := by
  cases text with
  | nil => cases h
  | cons c rest =>
    unfold leftOpen
    rw [List.tails_cons, List.findSome?_cons, h]

/-- Only what stands behind the last semicolon can be open. -/
theorem leftOpen_append (before behind : JsString) :
    leftOpen (before ++ 59 :: behind) = leftOpen behind := by
  induction before with
  | nil => exact leftOpen_of_none (openNameAt_of_mem List.mem_cons_self)
  | cons c before ih =>
    rw [List.cons_append, leftOpen_of_none (openNameAt_of_mem (by simp)), ih]

/-- A declaration that is found in a text with more behind it begins in the text: it is one
of the text, or the one that is left open there. -/
theorem declarationAt_append {own rest behind : JsString} {found : JsString × JsString}
    (h : declarationAt (own ++ 60 :: rest) = some (found, behind)) :
    (∃ behind', declarationAt own = some (found, behind') ∧ behind = behind' ++ 60 :: rest) ∨
      openNameAt own = some found.1 := by
  obtain ⟨raw, htext, hname, hunits, hraw, hsemicolon, hvalue⟩ := declarationAt_eq_some.1 h
  -- the colon stands before the `<`
  have hcolon : ∃ own', own = js "--" ++ (found.1 ++ 58 :: own') ∧
      own' ++ 60 :: rest = raw ++ 59 :: behind := by
    have hhead : 60 ∉ js "--" ++ found.1 ++ [58] := by
      have hname : 60 ∉ found.1 := fun hmem => absurd (hunits _ hmem) (by decide)
      have hhyphens : 60 ∉ js "--" := by decide
      simp only [List.mem_append, hhyphens, hname, false_or]
      decide
    have hprefix : js "--" ++ found.1 ++ [58] <+: own ++ 60 :: rest :=
      ⟨raw ++ 59 :: behind, by rw [htext]; simp⟩
    obtain ⟨own', rfl⟩ := Search.prefix_of_prefix_append_cons hhead hprefix
    refine ⟨own', by simp, ?_⟩
    simpa using htext
  obtain ⟨own', rfl, hrest⟩ := hcolon
  rw [List.append_eq_append_iff] at hrest
  obtain ⟨between, rfl, hbehind⟩ | ⟨between, rfl, hbehind⟩ := hrest
  · -- the semicolon stands behind the `<`
    refine .inr (openNameAt_eq_some.2 ⟨own', rfl, hname, hunits, fun hmem => hsemicolon ?_⟩)
    exact List.mem_append_left _ hmem
  · cases between with
    | nil =>
      refine .inr (openNameAt_eq_some.2 ⟨raw ++ [], rfl, hname, hunits, ?_⟩)
      rwa [List.append_nil]
    | cons c between =>
      obtain ⟨rfl, hrest⟩ := List.cons.inj hbehind
      exact .inl ⟨between, declarationAt_eq_some.2
        ⟨raw, rfl, hname, hunits, hraw, hsemicolon, hvalue⟩, hrest⟩

theorem declarationAt_append_of_some {own behind : JsString} {found : JsString × JsString}
    (h : declarationAt own = some (found, behind)) (rest : JsString) :
    declarationAt (own ++ rest) = some (found, behind ++ rest) := by
  obtain ⟨raw, rfl, hfound⟩ := declarationAt_eq_some.1 h
  exact declarationAt_eq_some.2 ⟨raw, by simp, hfound⟩

theorem not_mem_of_openNameAt {text name : JsString} (h : openNameAt text = some name) :
    59 ∉ text := by
  intro hmem
  rw [openNameAt_of_mem hmem] at h
  cases h

/-- **The reader in a text that is not its own.** It reads the declarations of the text, and
goes on with the part that is left open. -/
theorem exists_last (own : JsString) : ∃ last,
    (∀ rest, declarationsIn (own ++ 60 :: rest) =
      declarationsIn own ++ declarationsIn (last ++ 60 :: rest)) ∧
    (leftOpen own = none ∧ last = [] ∨ ∃ name, leftOpen own = some name ∧
      openNameAt last = some name) := by
  induction hlength : own.length using Nat.strong_induction_on generalizing own with
  | _ length ih =>
    subst hlength
    cases hfound : declarationAt own with
    | some first =>
      obtain ⟨found, behind⟩ := first
      obtain ⟨last, hread, hlast⟩ := ih _ (declarationAt_shorter hfound) behind rfl
      refine ⟨last, fun rest => ?_, ?_⟩
      · rw [declarationsIn_of_some (declarationAt_append_of_some hfound _),
          declarationsIn_of_some hfound, hread]
        rfl
      · obtain ⟨raw, htext, -⟩ := declarationAt_eq_some.1 hfound
        have hown : own = (js "--" ++ found.1 ++ 58 :: raw) ++ 59 :: behind := by
          rw [htext]
          simp
        rwa [hown, leftOpen_append]
    | none =>
      cases hopen : openNameAt own with
      | some name =>
        refine ⟨own, fun rest => ?_, .inr ⟨name, leftOpen_of_some hopen, hopen⟩⟩
        rw [declarationsIn_of_not_mem (not_mem_of_openNameAt hopen)]
        rfl
      | none =>
        cases own with
        | nil => exact ⟨[], fun rest => rfl, .inl ⟨rfl, rfl⟩⟩
        | cons c own =>
          obtain ⟨last, hread, hlast⟩ := ih _ (by simp) own rfl
          refine ⟨last, fun rest => ?_, ?_⟩
          · have hnone : declarationAt (c :: (own ++ 60 :: rest)) = none := by
              cases hfirst : declarationAt (c :: (own ++ 60 :: rest)) with
              | none => rfl
              | some first =>
                rw [← List.cons_append] at hfirst
                rcases declarationAt_append hfirst with ⟨_, h, -⟩ | h
                · rw [hfound] at h
                  cases h
                · rw [hopen] at h
                  cases h
            rw [List.cons_append, declarationsIn_of_none hnone, declarationsIn_of_none hfound,
              hread]
          · rwa [leftOpen_of_none hopen]

theorem declarationsIn_append_of_closed {own : JsString} (h : leftOpen own = none)
    (rest : JsString) :
    declarationsIn (own ++ 60 :: rest) = declarationsIn own ++ declarationsIn rest := by
  obtain ⟨last, hread, ⟨-, rfl⟩ | ⟨name, hopen, -⟩⟩ := exists_last own
  · rw [hread, List.nil_append, declarationsIn_of_none (declarationAt_of_ne (by decide) _)]
  · rw [h] at hopen
    cases hopen

/-- Without a semicolon behind it what is left open stays so. -/
theorem declarationsIn_append_of_not_mem {rest : JsString} (h : 59 ∉ rest) (own : JsString) :
    declarationsIn (own ++ 60 :: rest) = declarationsIn own := by
  have hrest : 59 ∉ 60 :: rest := by
    rw [List.mem_cons, not_or]
    exact ⟨by decide, h⟩
  obtain ⟨last, hread, ⟨-, rfl⟩ | ⟨name, -, hopen⟩⟩ := exists_last own
  · rw [hread, List.nil_append, declarationsIn_of_not_mem hrest, List.append_nil]
  · have hlast : 59 ∉ last ++ 60 :: rest := by
      rw [List.mem_append, not_or]
      exact ⟨not_mem_of_openNameAt hopen, hrest⟩
    rw [hread, declarationsIn_of_not_mem hlast, List.append_nil]

theorem mem_trim {value : JsString} {c : UInt16} (hc : isWhitespace c = false) (h : c ∈ value) :
    c ∈ trim value := by
  have hdrop : ∀ text : JsString, c ∈ text → c ∈ text.dropWhile isWhitespace := by
    intro text hmem
    rw [← List.takeWhile_append_dropWhile (p := isWhitespace) (l := text)] at hmem
    refine (List.mem_append.1 hmem).resolve_left fun htaken => ?_
    rw [List.mem_takeWhile_imp htaken] at hc
    cases hc
  unfold trim
  exact List.mem_reverse.2 (hdrop _ (List.mem_reverse.2 (hdrop _ h)))

/-- What is left open takes in the text behind it, up to the first semicolon. -/
theorem declarationsIn_append_of_open {own name : JsString} (h : leftOpen own = some name)
    {more : JsString} (hmore : 59 ∉ more) (behind : JsString) :
    ∃ value, 60 ∈ value ∧ declarationsIn (own ++ 60 :: (more ++ 59 :: behind)) =
      declarationsIn own ++ (name, value) :: declarationsIn behind := by
  obtain ⟨last, hread, ⟨hclosed, -⟩ | ⟨name', hopen, hlast⟩⟩ := exists_last own
  · rw [h] at hclosed
    cases hclosed
  · obtain rfl := Option.some.inj (h.symm.trans hopen)
    obtain ⟨rest, rfl, hname, hunits, hsemicolon⟩ := openNameAt_eq_some.1 hlast
    refine ⟨trim (rest ++ 60 :: more), mem_trim (by decide) (by simp), ?_⟩
    have hraw : 59 ∉ rest ++ 60 :: more := by
      simp only [List.mem_append, List.mem_cons, hsemicolon, hmore, false_or, or_false]
      decide
    have hfound : declarationAt
        (js "--" ++ (name ++ 58 :: ((rest ++ 60 :: more) ++ 59 :: behind))) =
          some ((name, trim (rest ++ 60 :: more)), behind) :=
      declarationAt_eq_some.2 ⟨_, rfl, hname, hunits, by simp, hraw, rfl⟩
    rw [hread, ← declarationsIn_of_some hfound]
    simp

end Autopilot.TokenCss
