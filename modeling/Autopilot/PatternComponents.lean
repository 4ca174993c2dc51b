/-
The pattern components of the renderer, with `isSafeHref`.

Each component checks its input against the contract of its pattern, puts defaults in,
and writes a fragment. A fragment is its pieces, so that the attributes that are links can
be named. Left out are the style sheets and the engine scripts, which are the same for
every input; the inline SVG that goes through its own sanitizer is a parameter, and so is
what is asked of the payload of a point cloud.
-/
import Autopilot.SupervisorQueue
import Autopilot.Lib.Markup
import Mathlib.Data.List.DropRight

set_option autoImplicit false

namespace Autopilot.PatternComponents

open Markup

/-! ## Links -/

def isLetter (c : UInt16) : Bool := (97 ≤ c && c ≤ 122) || (65 ≤ c && c ≤ 90)

def isDigitUnit (c : UInt16) : Bool := 48 ≤ c && c ≤ 57

/-- `[a-z0-9+.-]`, in both cases. -/
def isSchemeUnit (c : UInt16) : Bool :=
  isLetter c || isDigitUnit c || c = 43 || c = 46 || c = 45

/-- `toLowerCase` of letters that are ASCII. -/
def asciiLower (text : JsString) : JsString :=
  text.map fun c => if 65 ≤ c ∧ c ≤ 90 then c + 32 else c

def safeAbsoluteHrefSchemes : List JsString := [js "https", js "http", js "mailto", js "tel"]

/-- What `/^([a-z][a-z0-9+.-]*):/i` finds. -/
def schemeOf (href : JsString) : Option JsString :=
  let scheme := href.takeWhile isSchemeUnit
  if scheme.head?.any isLetter ∧ (href.drop scheme.length).head? = some 58 then some scheme
  else none

def isSafeHref (rawHref : JsString) : Bool :=
  let href := trim rawHref
  if href = [] then false
  else if href.any fun c => c ≤ 0x1f || c = 0x7f || isWhitespace c then false
  else if js "#" <+: href ∨ js "./" <+: href ∨ js "../" <+: href then true
  else if js "/" <+: href then ¬js "//" <+: href
  else (schemeOf href).any fun scheme => asciiLower scheme ∈ safeAbsoluteHrefSchemes

/-- `trim`, from the front and then from the back. -/
theorem trim_eq (value : JsString) :
    trim value = (value.dropWhile isWhitespace).rdropWhile isWhitespace := rfl

/-- A trimmed text stays as it is. -/
theorem trim_trim (value : JsString) : trim (trim value) = trim value := by
  have hfront : (trim value).dropWhile isWhitespace = trim value := by
    obtain ⟨rest, hrest⟩ := List.rdropWhile_prefix isWhitespace (l := value.dropWhile isWhitespace)
    rw [← trim_eq] at hrest
    cases htrim : trim value with
    | nil => rfl
    | cons c kept =>
      -- what is left has the first character of what the front left
      have hfirst := List.head?_dropWhile_not isWhitespace value
      rw [← hrest, htrim, List.cons_append, List.head?_cons] at hfirst
      exact List.dropWhile_cons_of_neg (by rw [hfirst]; exact Bool.false_ne_true)
  rw [trim_eq (trim value), hfront, trim_eq value, List.rdropWhile_idempotent]

/-- What is left is the text without parts of it. -/
theorem trim_sublist (value : JsString) : (trim value).Sublist value := by
  rw [trim_eq]
  exact (List.rdropWhile_prefix isWhitespace _).sublist.trans
    (List.dropWhile_suffix isWhitespace).sublist

theorem length_trim_le (value : JsString) : (trim value).length ≤ value.length :=
  (trim_sublist value).length_le

/-- A link is trimmed before it is looked at. -/
theorem isSafeHref_trim (href : JsString) : isSafeHref (trim href) = isSafeHref href := by
  unfold isSafeHref
  rw [trim_trim]

/-! ## Markup -/

/-- The attributes whose values are inserted. -/
inductive AttributeName where
  | href
  | src
  | named (name : JsString)

def AttributeName.isLink : AttributeName → Bool
  | href | src => true
  | named _ => false

def AttributeName.text : AttributeName → JsString
  | href => js "href"
  | src => js "src"
  | named name => name

/-- `escapeHtml` of a character. -/
def escapeUnit (c : UInt16) : JsString :=
  if c = 38 then js "&amp;"
  else if c = 60 then js "&lt;"
  else if c = 62 then js "&gt;"
  else if c = 34 then js "&quot;"
  else if c = 39 then js "&#39;"
  else [c]

/-- How a fragment is written: `escapeHtml` of a text, and `escapeAttribute` of a value. -/
def htmlWriting : Writing AttributeName UInt16 where
  name := AttributeName.text
  escape := escapeUnit
  space := js " "
  opening := js "=\""
  closing := js "\""

def escapeHtml (value : JsString) : JsString := htmlWriting.escaped value

abbrev Fragment := List (Piece AttributeName UInt16)

/-- The text that a component returns. -/
def Fragment.html (fragment : Fragment) : JsString := htmlWriting.written fragment

/-- The values of the `href` and `src` attributes of a fragment. -/
def Fragment.links (fragment : Fragment) : List JsString :=
  attributes AttributeName.isLink fragment

/-- An inserted attribute that is no link. -/
def named (name : String) (value : JsString) : Piece AttributeName UInt16 :=
  .attribute (.named (js name)) value

/-! ## The input of a component -/

inductive TargetKind where
  | asset
  | pattern
  deriving DecidableEq

def TargetKind.text : TargetKind → JsString
  | asset => js "asset"
  | pattern => js "pattern"

structure ContractProp where
  name : JsString
  required : Bool
  minLength : Option ℕ

structure ContractSlot where
  name : JsString
  required : Bool
  minItems : Option ℕ
  maxItems : Option ℕ
  allowedAssetIds : List JsString
  allowedPatternIds : List JsString

structure ComponentContract where
  id : JsString
  targetKind : TargetKind
  targetId : JsString
  props : List ContractProp
  slots : List ContractSlot

structure ResolvedAsset where
  id : JsString
  source : JsString
  href : Option JsString := none
  inlineSvg : Option JsString := none
  alt : Option JsString := none
  inlineContent : Bool := false
  /-- `dataRef.inline`. -/
  inlineData : Option JsString := none

/-- `PatternPropMap`. -/
abbrev PatternProps := JsString → Option JsString

structure ResolvedPatternReference where
  id : JsString
  nodeId : Option JsString := none
  props : Option PatternProps := none

inductive ResolvedSlotTarget where
  | asset (asset : ResolvedAsset)
  | pattern (reference : ResolvedPatternReference)

namespace ResolvedSlotTarget

def id : ResolvedSlotTarget → JsString
  | .asset resolved => resolved.id
  | .pattern reference => reference.id

def targetKind : ResolvedSlotTarget → TargetKind
  | .asset _ => .asset
  | .pattern _ => .pattern

def asset? : ResolvedSlotTarget → Option ResolvedAsset
  | .asset resolved => some resolved
  | .pattern _ => none

def pattern? : ResolvedSlotTarget → Option ResolvedPatternReference
  | .asset _ => none
  | .pattern reference => some reference

end ResolvedSlotTarget

structure PatternRenderInput where
  props : PatternProps
  slots : JsString → Option (List ResolvedSlotTarget)
  contract : ComponentContract

structure ContractIssue where
  code : JsString
  prop : Option JsString := none
  message : JsString
  deriving DecidableEq

/-- A component throws the issues it found. -/
abbrev Rendered := Except (List ContractIssue) Fragment

/-- What is asked elsewhere. -/
structure RenderChecks where
  /-- `sanitizeInlineSvgAsset`, of an SVG, a class name and a label. -/
  sanitizeInlineSvgAsset : JsString → JsString → JsString → Option JsString
  /-- The points of a payload, none where it is no JSON object, and 0 where it does not say. -/
  pointCount : JsString → Option ℤ
  /-- `Number` of a text is finite and not negative. -/
  isGain : JsString → Bool
  /-- `assertSceneGate`, of a payload, the label of the static fallback, the parallax gain
  and the fragment. -/
  sceneGate : JsString → JsString → JsString → JsString → List ContractIssue

namespace PatternRenderInput

variable (input : PatternRenderInput)

/-- `props[name]?.trim() ?? ""`. -/
def trimmed (name : String) : JsString := ((input.props (js name)).map trim).getD []

/-- `props[name]?.trim() || otherwise`. -/
def trimmedOr (name : String) (otherwise : JsString) : JsString :=
  if input.trimmed name = [] then otherwise else input.trimmed name

def slot (name : String) : List ResolvedSlotTarget := (input.slots (js name)).getD []

/-- `firstAsset`. -/
def firstAsset (name : String) : Option ResolvedAsset :=
  ((input.slot name).filterMap (·.asset?)).head?

/-- `firstPattern`. -/
def firstPattern (name : String) : Option ResolvedPatternReference :=
  ((input.slot name).filterMap (·.pattern?)).head?

def contractProp (name : String) : Option ContractProp :=
  input.contract.props.find? fun prop => prop.name = js name

def contractSlot (name : String) : Option ContractSlot :=
  input.contract.slots.find? fun slot => slot.name = js name

end PatternRenderInput

/-- `firstNonEmpty`. -/
def firstNonEmpty (values : List (Option JsString)) : Option JsString :=
  (values.filterMap fun value => value.map trim).find? (· ≠ [])

/-- `values.join(", ")`. -/
def commaJoined (values : List JsString) : JsString := (values.intersperse (js ", ")).flatten

/-! ## Checks that the components share -/

section checks

variable (input : PatternRenderInput)

def validateContract (patternId : String) : List ContractIssue :=
  if input.contract.targetKind ≠ .pattern ∨ input.contract.targetId ≠ js patternId then
    [{ code := js "contract_mismatch"
       message := js "Expected pattern contract for " ++ js patternId ++ js ", received " ++
        input.contract.targetKind.text ++ js ":" ++ input.contract.targetId ++ js "." }]
  else []

/-- `validateRequiredTextProp`, of the trimmed value. -/
def validateTextValue (value : JsString) (propName invariantCode : String) :
    List ContractIssue :=
  let contractProp := input.contractProp propName
  let minLength := (contractProp.bind (·.minLength)).getD 1
  if contractProp.any (·.required) ∧ value = [] then
    [{ code := js invariantCode
       prop := js propName
       message := js propName ++ js " is required by " ++ input.contract.id ++ js "." }]
  else if value.length < minLength then
    [{ code := js invariantCode
       prop := js propName
       message := js propName ++ js " must be at least " ++ decimal minLength ++
        js " characters." }]
  else []

def validateRequiredTextProp (propName invariantCode : String) : List ContractIssue :=
  validateTextValue input (input.trimmed propName) propName invariantCode

def unsafeHrefIssue (propName : String) : ContractIssue where
  code := js "unsafe_href"
  prop := js propName
  message := js propName ++ js " must use #, /, ./, ../, http(s), mailto, or tel."

/-- A link prop that is not blank is safe. -/
def validateCtaHref : List ContractIssue :=
  match input.props (js "cta_href") with
  | none => []
  | some rawHref =>
    if trim rawHref = [] then []
    else if ¬isSafeHref rawHref then [unsafeHrefIssue "cta_href"]
    else []

/-- How many targets a slot has, as `validateRequiredAssetSlot` and
`validateRequiredPatternSlot` count them. -/
def validateSlotItems (slotName items : String) : List ContractIssue :=
  let contractSlot := input.contractSlot slotName
  let count := (input.slot slotName).length
  (match contractSlot.bind (·.minItems) with
    | some minItems =>
      if count < minItems then
        [{ code := js "slot_missing"
           message := js slotName ++ js " must include at least " ++ decimal minItems ++
            js " " ++ js items ++ js "(s)." }]
      else []
    | none => []) ++
  (match contractSlot.bind (·.maxItems) with
    | some maxItems =>
      if maxItems < count then
        [{ code := js "slot_overfilled"
           message := js slotName ++ js " must include no more than " ++ decimal maxItems ++
            js " " ++ js items ++ js "(s)." }]
      else []
    | none => [])

/-- The targets of a slot are of one kind. -/
def validateSlotKinds (slotName items : String) (kind : TargetKind) : List ContractIssue :=
  (input.slot slotName).filterMap fun target =>
    if target.targetKind ≠ kind then
      some
        { code := js "slot_target_kind_mismatch"
          message := js slotName ++ js " accepts " ++ js items ++ js "s, received " ++
            target.targetKind.text ++ js " " ++ target.id ++ js "." }
    else none

/-- A slot that the contract requires is not empty. -/
def slotMissing (slotName : String) : Bool :=
  (input.contractSlot slotName).any (·.required) && (input.slot slotName).isEmpty

def slotMissingIssue (slotName : String) : ContractIssue where
  code := js "slot_missing"
  message := js slotName ++ js " must be filled by " ++ input.contract.id ++ js "."

def rasterExtensions : List JsString :=
  [js ".png", js ".jpg", js ".jpeg", js ".webp", js ".gif", js ".avif"]

/-- `/\.(?:svg|png|jpe?g|webp|gif|avif)$/i`, of the source of an asset. -/
def isFileBackedAsset (asset : ResolvedAsset) : Bool :=
  (js ".svg" :: rasterExtensions).any fun extension => extension <:+ asciiLower asset.source

/-- A character that `.` stands for. -/
def isLineUnit (c : UInt16) : Bool := c ≠ 10 && c ≠ 13 && c ≠ 0x2028 && c ≠ 0x2029

/-- `/\.(?:png|jpe?g|webp|gif|avif)(?:[?#].*)?$/i`. -/
def isRasterImageHref (href : JsString) : Bool :=
  href.tails.any fun tail => rasterExtensions.any fun extension =>
    extension <+: asciiLower tail &&
      match tail.drop extension.length with
      | [] => true
      | c :: rest => (c = 63 || c = 35) && rest.all isLineUnit

/-- The checks of the assets of a slot, with what one component asks of each asset
besides. -/
def validateAssetSlot (slotName sourceMissing : String)
    (besides : ResolvedAsset → List ContractIssue) : List ContractIssue :=
  if slotMissing input slotName then [slotMissingIssue input slotName]
  else
    let assets := (input.slot slotName).filterMap (·.asset?)
    let allowedIds := ((input.contractSlot slotName).map (·.allowedAssetIds)).getD []
    validateSlotItems input slotName "asset" ++ validateSlotKinds input slotName "asset" .asset ++
    (if allowedIds = [] then []
      else assets.filterMap fun asset =>
        if asset.inlineContent = false ∧ asset.id ∉ allowedIds then
          some
            { code := js "slot_asset_not_allowed"
              message := js slotName ++ js " does not accept asset " ++ asset.id ++ js "." }
        else none) ++
    assets.flatMap fun asset =>
      besides asset ++
      (if asset.href.any fun href => !isSafeHref href then
        [{ code := js "slot_asset_unsafe_href"
           message := js slotName ++ js " asset " ++ asset.id ++ js " has an unsafe href." }]
        else []) ++
      (if isFileBackedAsset asset ∧ asset.href = none ∧ asset.inlineSvg = none then
        [{ code := js "slot_asset_source_missing"
           message := js slotName ++ js " asset " ++ asset.id ++ js sourceMissing }]
        else [])

end checks

/-- What a component writes where its input has no issues. -/
def rendered (issues : List ContractIssue) (fragment : Fragment) : Rendered :=
  if issues = [] then .ok fragment else .error issues

/-- `ctaClassName`, with `normalizeCtaVariant`. -/
def ctaClassName (variant : JsString) : JsString :=
  if asciiLower variant = js "secondary" then js "cta cta--secondary" else js "cta"

/-- The call to action of a section. -/
def ctaAnchor (className : JsString) (prop : String) (href label : JsString) : Fragment :=
  [.raw (js "<a class=\"" ++ className ++ js "\" data-contract-prop=\"" ++ js prop ++ js "\""),
    .attribute .href href, .raw (js ">"), .text label, .raw (js "</a>")]

/-- `renderResolvedSlotAssetMarkup`. -/
def renderResolvedSlotAssetMarkup (checks : RenderChecks) (asset : Option ResolvedAsset)
    (className alt : JsString) (fallback : Fragment) : Fragment :=
  let svg := asset.bind fun asset => asset.inlineSvg.bind fun inlineSvg =>
    checks.sanitizeInlineSvgAsset inlineSvg className
      ((firstNonEmpty [asset.alt, some alt, some asset.id]).getD (js "Resolved asset"))
  match svg with
  | some svg => [.raw svg]
  | none =>
    match asset.bind fun asset => asset.href.map fun href => (asset, href) with
    | some (asset, href) =>
      if isSafeHref href && isRasterImageHref href then
        [.raw (js "<img"), named "class" className, .attribute .src href,
          named "alt" ((firstNonEmpty [asset.alt, some alt]).getD []),
          .raw (js " loading=\"lazy\" decoding=\"async\">")]
      else fallback
    | none => fallback

/-! ## The components -/

section components

variable (checks : RenderChecks) (input : PatternRenderInput)

/-! ### sharp-positioning-hero -/

def validateSharpPositioningHeroInput : List ContractIssue :=
  validateContract input "sharp-positioning-hero" ++
  validateRequiredTextProp input "headline" "visible_h1" ++
  validateRequiredTextProp input "primary_cta" "dom_text_cta" ++
  validateRequiredTextProp input "trust_cue" "proof_adjacency" ++
  validateCtaHref input ++
  validateAssetSlot input "hero_asset" " is file-backed but has no resolved href." (fun _ => []) ++
  validateAssetSlot input "theme_background" " is file-backed but has no resolved href."
    (fun _ => [])

def renderNeutralHeroAssetFallback (asset : Option ResolvedAsset) : Fragment :=
  [.raw (js "<svg class=\"sharp-positioning-hero__asset\" viewBox=\"0 0 640 520\" role=\"img\""),
    named "aria-label" (match asset with
      | none => js "Neutral hero asset placeholder"
      | some asset => js "Neutral hero asset placeholder for " ++ asset.id),
    .raw (js " focusable=\"false\">\n  <rect class=\"sharp-positioning-hero__asset-placeholder\""),
    .raw (js " x=\"78\" y=\"76\" width=\"462\" height=\"352\" rx=\"0\"/>\n"),
    .raw (js "  <circle class=\"sharp-positioning-hero__asset-placeholder-mark\""),
    .raw (js " cx=\"214\" cy=\"190\" r=\"70\"/>\n"),
    .raw (js "  <path class=\"sharp-positioning-hero__asset-placeholder-mark\""),
    .raw (js " d=\"M392 116 512 236 392 356 272 236Z\"/>\n"),
    .raw (js "  <path class=\"sharp-positioning-hero__asset-placeholder-line\""),
    .raw (js " d=\"M120 398 514 98M126 118l388 282\"/>\n</svg>")]

def renderSharpPositioningHero : Rendered :=
  let heroAsset := input.firstAsset "hero_asset"
  let heroAssetId := (heroAsset.map (·.id)).getD []
  let themeBackground := input.firstAsset "theme_background"
  rendered (validateSharpPositioningHeroInput input)
    ([.raw (js "<section class=\"sharp-positioning-hero\""),
      .raw (js " data-pattern-id=\"sharp-positioning-hero\""),
      named "data-contract-id" input.contract.id, named "data-hero-asset-id" heroAssetId,
      named "data-theme-background-id" ((themeBackground.map (·.id)).getD []),
      .raw (js " aria-labelledby=\"sharp-positioning-hero-title\">\n"),
      .raw (js "  <div class=\"sharp-positioning-hero__layout\">\n"),
      .raw (js "    <div class=\"sharp-positioning-hero__copy\">\n"),
      .raw (js "      <div class=\"sharp-positioning-hero__eyebrow\""),
      .raw (js " data-contract-prop=\"eyebrow\">"),
      .text ((firstNonEmpty [input.props (js "eyebrow"), input.props (js "kicker")]).getD
        (js "Offer / proof / request")),
      .raw (js "</div>\n      <h1 id=\"sharp-positioning-hero-title\""),
      .raw (js " data-contract-prop=\"headline\">"), .text (input.trimmed "headline"),
      .raw (js "</h1>\n      <div class=\"sharp-positioning-hero__action-row\">\n        ")] ++
    ctaAnchor (ctaClassName (input.trimmed "cta_variant")) "primary_cta"
      (input.trimmedOr "cta_href" (js "#request")) (input.trimmed "primary_cta") ++
    [.raw (js "\n        <p class=\"sharp-positioning-hero__trust\""),
      .raw (js " data-contract-prop=\"trust_cue\">"), .text (input.trimmed "trust_cue"),
      .raw (js "</p>\n      </div>\n    </div>\n"),
      .raw (js "    <div class=\"sharp-positioning-hero__asset-wrap\""),
      named "data-asset-id" heroAssetId,
      named "data-asset-source" ((heroAsset.map (·.source)).getD []), .raw (js ">\n      ")] ++
    renderResolvedSlotAssetMarkup checks heroAsset (js "sharp-positioning-hero__asset")
      (input.trimmedOr "hero_asset_alt" (js "Editorial hero asset"))
      (renderNeutralHeroAssetFallback heroAsset) ++
    [.raw (js "\n    </div>\n  </div>\n</section>")])

/-! ### proof-led-section -/

def validateProofLedSectionInput : List ContractIssue :=
  validateContract input "proof-led-section" ++
  validateRequiredTextProp input "proof_item" "proof_adjacency" ++
  validateRequiredTextProp input "outcome_statement" "proof_adjacency" ++
  validateRequiredTextProp input "source_reference" "proof_adjacency" ++
  validateRequiredTextProp input "cta_label" "dom_text_cta" ++
  validateCtaHref input ++
  validateAssetSlot input "proof_asset"
    " is file-backed but has no resolved href or inline SVG." (fun asset =>
      if trim asset.source = [] then
        [{ code := js "slot_asset_source_missing"
           message := js "proof_asset asset " ++ asset.id ++ js " has no resolved source." }]
      else [])

def renderNeutralProofAssetFallback (asset : Option ResolvedAsset) : Fragment :=
  [.raw (js "<svg class=\"proof-led-section__asset\" viewBox=\"0 0 560 420\" role=\"img\""),
    named "aria-label" ((asset.map (·.id)).getD []),
    .raw (js " focusable=\"false\">\n  <rect class=\"proof-led-section__asset-bg\""),
    .raw (js " x=\"0\" y=\"0\" width=\"560\" height=\"420\"/>\n"),
    .raw (js "  <circle class=\"proof-led-section__asset-soft\""),
    .raw (js " cx=\"178\" cy=\"172\" r=\"72\"/>\n"),
    .raw (js "  <path class=\"proof-led-section__asset-accent\""),
    .raw (js " d=\"M348 92 470 214 348 336 226 214Z\"/>\n"),
    .raw (js "  <path class=\"proof-led-section__asset-line\""),
    .raw (js " d=\"M88 338h384M112 104l336 232M454 104 118 336\"/>\n</svg>")]

def renderProofAsset (asset : Option ResolvedAsset) (alt : JsString) : Fragment :=
  renderResolvedSlotAssetMarkup checks asset (js "proof-led-section__asset") alt
    (renderNeutralProofAssetFallback asset)

def renderProofLedSection : Rendered :=
  let proofAsset := input.firstAsset "proof_asset"
  let proofAssetId := (proofAsset.map (·.id)).getD []
  rendered (validateProofLedSectionInput input)
    ([.raw (js "<section class=\"proof-led-section\" data-pattern-id=\"proof-led-section\""),
      named "data-contract-id" input.contract.id, named "data-proof-asset-id" proofAssetId,
      .raw (js " aria-labelledby=\"proof-led-section-title\">\n"),
      .raw (js "  <div class=\"proof-led-section__inner\">\n"),
      .raw (js "    <div class=\"proof-led-section__asset-wrap\""),
      .raw (js " data-contract-slot=\"proof_asset\""), named "data-asset-id" proofAssetId,
      named "data-asset-source" ((proofAsset.map (·.source)).getD []), .raw (js ">\n      ")] ++
    renderProofAsset checks proofAsset
      (input.trimmedOr "proof_asset_alt" (js "Case-study proof asset")) ++
    [.raw (js "\n    </div>\n    <div class=\"proof-led-section__content\">\n"),
      .raw (js "      <div class=\"proof-led-section__statement\">\n"),
      .raw (js "        <h2 id=\"proof-led-section-title\""),
      .raw (js " data-contract-prop=\"outcome_statement\">"),
      .text (input.trimmed "outcome_statement"),
      .raw (js "</h2>\n        <p class=\"proof-led-section__proof\""),
      .raw (js " data-contract-prop=\"proof_item\">"), .text (input.trimmed "proof_item"),
      .raw (js "</p>\n        <p class=\"proof-led-section__source\""),
      .raw (js " data-contract-prop=\"source_reference\">"),
      .text (input.trimmed "source_reference"), .raw (js "</p>\n      </div>\n      ")] ++
    ctaAnchor (ctaClassName (js "primary")) "cta_label"
      (input.trimmedOr "cta_href" (js "#proof")) (input.trimmed "cta_label") ++
    [.raw (js "\n    </div>\n  </div>\n</section>")])

/-! ### outcome-cta -/

def validatePatternSlot (slotName : String) : List ContractIssue :=
  if slotMissing input slotName then [slotMissingIssue input slotName]
  else
    let allowedIds := ((input.contractSlot slotName).map (·.allowedPatternIds)).getD []
    validateSlotItems input slotName "pattern" ++
    validateSlotKinds input slotName "pattern" .pattern ++
    if allowedIds = [] then []
    else ((input.slot slotName).filterMap (·.pattern?)).filterMap fun reference =>
      if reference.id ∉ allowedIds then
        some
          { code := js "slot_pattern_not_allowed"
            message := js slotName ++ js " does not accept pattern " ++ reference.id ++ js "." }
      else none

def validateOutcomeCtaInput : List ContractIssue :=
  validateContract input "outcome-cta" ++
  validateRequiredTextProp input "outcome_statement" "proof_adjacency" ++
  validateRequiredTextProp input "cta_label" "dom_text_cta" ++
  validateCtaHref input ++
  validatePatternSlot input "proof_context"

/-- A paragraph that is left out where its text is empty. -/
def optionalParagraph (className prop : String) (text : JsString) : Fragment :=
  if text = [] then []
  else [.raw (js "<p class=\"" ++ js className ++ js "\" data-contract-prop=\"" ++ js prop ++ js "\">"),
    .text text, .raw (js "</p>")]

def renderContactBlock : Fragment :=
  if input.trimmed "contact_phone" = [] then []
  else
    [.raw (js "<div class=\"outcome-cta__contact\">\n  ")] ++
    optionalParagraph "outcome-cta__contact-heading" "contact_heading"
      (input.trimmed "contact_heading") ++
    [.raw (js "\n  ")] ++
    ctaAnchor (js "outcome-cta__phone") "contact_phone" (input.trimmed "contact_phone_href")
      (input.trimmed "contact_phone") ++
    [.raw (js "\n  ")] ++
    optionalParagraph "outcome-cta__contact-note" "contact_note" (input.trimmed "contact_note") ++
    [.raw (js "\n  <form class=\"outcome-cta__form\" action=\"mailto:"),
      .text (input.trimmed "contact_email"),
      .raw (js "\" method=\"post\" enctype=\"text/plain\">\n    <label>\n      Jméno\n"),
      .raw (js "      <input type=\"text\" name=\"name\" autocomplete=\"name\" required>\n"),
      .raw (js "    </label>\n    <label>\n      Telefon\n"),
      .raw (js "      <input type=\"tel\" name=\"phone\" autocomplete=\"tel\" required>\n"),
      .raw (js "    </label>\n    <label>\n      Zpráva\n"),
      .raw (js "      <textarea name=\"message\" rows=\"4\"></textarea>\n    </label>\n"),
      .raw (js "    <button class=\"cta\" type=\"submit\">Odeslat poptávku</button>\n"),
      .raw (js "  </form>\n</div>")]

def renderProofContext (proofContext : Option ResolvedPatternReference) : Fragment :=
  let prop := fun name => (proofContext.bind (·.props)).bind fun props => props (js name)
  match firstNonEmpty [prop "proof_item", prop "outcome_statement"] with
  | none => []
  | some proofText =>
    optionalParagraph "outcome-cta__proof-source" "source_reference"
      ((firstNonEmpty [prop "source_reference"]).getD []) ++
    (if firstNonEmpty [prop "source_reference"] = none then [] else [.raw (js "\n")]) ++
    optionalParagraph "outcome-cta__proof-text" "proof_item" proofText

def renderOutcomeCta : Rendered :=
  let proofContext := input.firstPattern "proof_context"
  let proofContextId := (proofContext.map fun reference =>
    reference.nodeId.getD reference.id).getD []
  rendered (validateOutcomeCtaInput input)
    ([.raw (js "<section id=\"kontakt\" class=\"outcome-cta\" data-pattern-id=\"outcome-cta\""),
      named "data-contract-id" input.contract.id,
      named "data-proof-context-id" proofContextId,
      .raw (js " aria-labelledby=\"outcome-cta-title\">\n  <div class=\"outcome-cta__inner\">\n"),
      .raw (js "    <div class=\"outcome-cta__copy\">\n"),
      .raw (js "      <div class=\"outcome-cta__proof-context\""),
      .raw (js " data-contract-slot=\"proof_context\" data-slot-target-kind=\"pattern\""),
      named "data-slot-target-id" proofContextId, .raw (js ">\n        ")] ++
    renderProofContext proofContext ++
    [.raw (js "\n      </div>\n      <h2 id=\"outcome-cta-title\""),
      .raw (js " data-contract-prop=\"outcome_statement\">"),
      .text (input.trimmed "outcome_statement"), .raw (js "</h2>\n      ")] ++
    ctaAnchor (ctaClassName (input.trimmed "cta_variant")) "cta_label"
      (input.trimmedOr "cta_href" (js "#request")) (input.trimmed "cta_label") ++
    [.raw (js "\n    </div>\n    ")] ++ renderContactBlock input ++
    [.raw (js "\n  </div>\n</section>")])

/-! ### dot-stage-hero -/

def dotStagePresets : List JsString :=
  [js "spotlight-hero", js "noise-to-order", js "playhead-process", js "lens-proof",
    js "shape-pricing"]

/-- `validateScenePreset`, with the presets that are allowed. -/
def validateScenePreset (presets : List JsString) : List ContractIssue :=
  let raw := input.trimmed "scene_preset"
  if (input.contractProp "scene_preset").any (·.required) ∧ raw = [] then
    [{ code := js "scene_preset_required"
       prop := js "scene_preset"
       message := js "scene_preset is required by " ++ input.contract.id ++ js "." }]
  else if raw ≠ [] ∧ raw ∉ presets then
    [{ code := js "scene_preset_not_allowed"
       prop := js "scene_preset"
       message := js "scene_preset must be one of: " ++ commaJoined presets ++ js "." }]
  else []

def validateMotionIntensity : List ContractIssue :=
  let raw := input.trimmed "motion_intensity"
  if (input.contractProp "motion_intensity").any (·.required) ∧ raw = [] then
    [{ code := js "motion_intensity_required"
       prop := js "motion_intensity"
       message := js "motion_intensity is required by " ++ input.contract.id ++ js "." }]
  else if raw ≠ [] ∧ ¬raw.all isDigitUnit then
    [{ code := js "motion_intensity_invalid"
       prop := js "motion_intensity"
       message := js "motion_intensity must be a non-negative integer (0-10 scale)." }]
  else []

def validateDotStageHeroInput : List ContractIssue :=
  validateContract input "dot-stage-hero" ++
  validateRequiredTextProp input "headline" "visible_h1" ++
  validateRequiredTextProp input "primary_cta" "dom_text_cta" ++
  validateRequiredTextProp input "trust_cue" "proof_adjacency" ++
  validateRequiredTextProp input "display_word" "canvas_text_dom_twin" ++
  validateRequiredTextProp input "static_fallback_label" "reduced_motion_fallback" ++
  validateScenePreset input dotStagePresets ++
  validateMotionIntensity input ++
  validateCtaHref input

def renderDotStageHero : Rendered :=
  let scenePreset := input.trimmedOr "scene_preset" (js "spotlight-hero")
  let displayWord := input.trimmed "display_word"
  rendered (validateDotStageHeroInput input)
    ([.raw (js "<section class=\"dot-stage-hero\" data-pattern-id=\"dot-stage-hero\""),
      named "data-contract-id" input.contract.id, named "data-scene-preset" scenePreset,
      .raw (js " data-motion-strategy=\"procedural\" aria-labelledby=\"dot-stage-hero-title\">\n"),
      .raw (js "  <canvas class=\"dot-stage-hero__canvas\" data-dot-stage"),
      named "data-scene-preset" scenePreset,
      .raw (js " aria-hidden=\"true\"></canvas>\n  <div class=\"dot-stage-hero__layout\">\n"),
      .raw (js "    <p class=\"dot-stage-hero__eyebrow\" aria-hidden=\"true\">"),
      .raw (js "V hlavní roli: vy</p>\n    <p class=\"dot-stage-hero__wordmark\""),
      named "data-dot-word" displayWord,
      .raw (js " aria-hidden=\"true\"></p>\n    <span class=\"dot-stage-hero__twin\""),
      named "data-dot-twin" displayWord, .raw (js ">"), .text displayWord,
      .raw (js "</span>\n    <h1 id=\"dot-stage-hero-title\" data-contract-prop=\"headline\">"),
      .text (input.trimmed "headline"),
      .raw (js "</h1>\n    <div class=\"dot-stage-hero__action-row\">\n      ")] ++
    ctaAnchor (js "cta") "primary_cta" (input.trimmedOr "cta_href" (js "#kontakt"))
      (input.trimmed "primary_cta") ++
    [.raw (js "\n      <p class=\"dot-stage-hero__trust\" data-contract-prop=\"trust_cue\">"),
      .text (input.trimmed "trust_cue"),
      .raw (js "</p>\n    </div>\n  </div>\n</section>")])

/-! ### point-cloud-background -/

/-- `POINT_CLOUD_SCENE_PRESETS`: topology, physics, density, color, relief and line. -/
def pointCloudScenePresets : List (JsString × List JsString) :=
  [(js "architectural-grid", ["grid", "crystalline", "sparse", "mono", "none", "off"].map js),
    (js "photographic-drift", ["edge", "floaty", "dense", "faithful", "none", "off"].map js),
    (js "wordmark-gather", ["gather", "magnetic", "medium", "duotone", "none", "off"].map js),
    (js "lens-bokeh", ["edge", "heavy", "dense", "faithful", "none", "off"].map js),
    (js "flow-field", ["flow", "floaty", "medium", "duotone", "none", "off"].map js),
    (js "aurora-drift", ["edge", "floaty", "medium", "aurora", "none", "off"].map js),
    (js "depth-field", ["edge", "heavy", "dense", "depth-temp", "none", "off"].map js),
    (js "pastel-bokeh", ["edge", "floaty", "dense", "pastel", "none", "off"].map js),
    (js "topographic-relief", ["edge", "heavy", "sparse", "mono", "topo", "off"].map js),
    (js "lowpoly-facet", ["edge", "floaty", "lowpoly", "faithful", "none", "off"].map js),
    (js "edge-wire", ["edge", "floaty", "sparse", "faithful", "none", "wire"].map js),
    (js "blueprint-ribs", ["grid", "crystalline", "medium", "mono", "none", "ribs"].map js)]

def knobNames : List String :=
  ["data-topology", "data-physics", "data-density", "data-color", "data-relief", "data-line"]

/-- `varietySeed`. -/
def varietySeed (text : JsString) : JsString :=
  decimal (text.foldl (fun hash c => (hash ^^^ c.toUInt32) * 16777619) (2166136261 : UInt32)).toNat

/-- `POINT_CLOUD_SCENE_BUDGETS.maxPoints`. -/
def pointCloudMaxPoints : ℕ := 24000

def validateParallaxGain : List ContractIssue :=
  let raw := input.trimmed "parallax_gain"
  if raw ≠ [] ∧ ¬checks.isGain raw then
    [{ code := js "parallax_gain_invalid"
       prop := js "parallax_gain"
       message := js "parallax_gain must be a finite, non-negative number." }]
  else []

def validateCloudPayload (inlineJson : Option JsString) : List ContractIssue :=
  match inlineJson.filter fun json => trim json ≠ [] with
  | none =>
    [{ code := js "point_cloud_slot_missing"
       message := js "point-cloud-background requires a point_cloud asset with an inline " ++
        js "dataRef (the EncodedPointCloud JSON)." }]
  | some json =>
    match checks.pointCount json with
    | none =>
      [{ code := js "point_cloud_payload_invalid"
         message := js "point_cloud dataRef is not valid JSON." }]
    | some pointCount =>
      if pointCount ≤ 0 then
        [{ code := js "point_cloud_payload_invalid"
           message := js "point_cloud payload has no points." }]
      else if pointCloudMaxPoints < pointCount then
        [{ code := js "cloud_pointcount_over_budget"
           message := js "point_cloud has " ++ decimal pointCount.toNat ++
            js " points, over the " ++ decimal pointCloudMaxPoints ++ js " inline budget." }]
      else []

def validatePointCloudInput (inlineJson : Option JsString) : List ContractIssue :=
  validateContract input "point-cloud-background" ++
  validateRequiredTextProp input "headline" "visible_h1" ++
  validateRequiredTextProp input "primary_cta" "dom_text_cta" ++
  validateRequiredTextProp input "trust_cue" "proof_adjacency" ++
  validateRequiredTextProp input "static_fallback_label" "reduced_motion_fallback" ++
  validateCtaHref input ++
  validateParallaxGain checks input ++
  validateScenePreset input (pointCloudScenePresets.map (·.1)) ++
  validateCloudPayload checks inlineJson

/-- `escapeScriptJson`. -/
def escapeScriptJson (json : JsString) : JsString :=
  json.flatMap fun c => if c = 60 then js "\\u003c" else [c]

def pointCloudFragment (inlineJson : JsString) : Fragment :=
  let scenePreset := input.trimmedOr "scene_preset" (js "photographic-drift")
  let knobs := ((pointCloudScenePresets.find? (·.1 = scenePreset)).map (·.2)).getD
    (["edge", "floaty", "dense", "faithful", "none", "off"].map js)
  [.raw (js "<section class=\"point-cloud-bg\" data-pattern-id=\"point-cloud-background\""),
    named "data-contract-id" input.contract.id, named "data-scene-preset" scenePreset,
    .raw (js " data-motion-strategy=\"procedural\" aria-labelledby=\"point-cloud-bg-title\">\n"),
    .raw (js "  <canvas class=\"point-cloud-bg__canvas\" data-point-cloud"),
    named "data-cloud-contract" input.contract.id, named "data-scene-preset" scenePreset] ++
  (knobNames.zip knobs).map (fun knob => named knob.1 knob.2) ++
  [named "data-parallax-gain" (input.trimmedOr "parallax_gain" (js "1")),
    named "data-seed" (varietySeed (input.trimmed "headline")),
    .raw (js " aria-hidden=\"true\"></canvas>\n"),
    .raw (js "  <script type=\"application/json\" data-dot-cloud>" ++
      escapeScriptJson inlineJson ++ js "</script>\n"),
    .raw (js "  <div class=\"point-cloud-bg__layout\">\n    ")] ++
  (if input.trimmed "eyebrow" = [] then []
    else [.raw (js "<p class=\"point-cloud-bg__eyebrow\">"), .text (input.trimmed "eyebrow"),
      .raw (js "</p>")]) ++
  [.raw (js "\n    <h1 id=\"point-cloud-bg-title\" data-contract-prop=\"headline\">"),
    .text (input.trimmed "headline"),
    .raw (js "</h1>\n    <div class=\"point-cloud-bg__action-row\">\n      ")] ++
  ctaAnchor (js "cta") "primary_cta" (input.trimmedOr "cta_href" (js "#kontakt"))
    (input.trimmed "primary_cta") ++
  [.raw (js "\n      <p class=\"point-cloud-bg__trust\" data-contract-prop=\"trust_cue\">"),
    .text (input.trimmed "trust_cue"), .raw (js "</p>\n    </div>\n  </div>\n</section>")]

/-- The fragment goes through the scene gate after it is written. -/
def renderPointCloudBackground : Rendered :=
  let inlineJson := (input.firstAsset "point_cloud").bind (·.inlineData)
  let fragment := pointCloudFragment input (inlineJson.getD [])
  let issues := validatePointCloudInput checks input inlineJson
  if issues = [] then
    rendered (checks.sceneGate (inlineJson.getD []) (input.trimmed "static_fallback_label")
      (input.trimmedOr "parallax_gain" (js "1")) fragment.html) fragment
  else .error issues

/-! ### tactile-shadow-hero -/

/-- The texts of `normalizeProps` with what stands for a blank one. -/
def tactileDefaults : List (String × JsString) :=
  [("eyebrow", js "Patinovaný stín"), ("headline", js "Poctivé zednické řemeslo z Polabí"),
    ("primary_cta", js "Získat kalkulaci zdarma"), ("trust_cue", js "18 let praxe, 124 staveb"),
    ("cta_href", js "#kontakt"), ("heritage_badge", js "Založeno na poctivé práci od r. 2004"),
    ("photo_caption", js "Foto: hrubě opracovaná pískovcová zeď"),
    ("static_fallback_label", js "Statický patinovaný stín bez pohybu")]

/-- A text of `normalizeProps`. -/
def tactileProp (name : String) : JsString :=
  input.trimmedOr name ((tactileDefaults.lookup name).getD [])

/-- `wall_image_href`, where it is not blank. -/
def wallImageHref : Option JsString :=
  if input.trimmed "wall_image_href" = [] then none else some (input.trimmed "wall_image_href")

/-- `validateRequiredTextProp` of this component looks at the normalized text. -/
def validateTactileTextProp (propName invariantCode : String) : List ContractIssue :=
  validateTextValue input (trim (tactileProp input propName)) propName invariantCode

def validateTactileCtaHref : List ContractIssue :=
  if ¬isSafeHref (tactileProp input "cta_href") then [unsafeHrefIssue "cta_href"] else []

def validateWallImageHref : List ContractIssue :=
  match wallImageHref input with
  | none => []
  | some href => if ¬isSafeHref href then [unsafeHrefIssue "wall_image_href"] else []

def validateTactileShadowHeroInput : List ContractIssue :=
  validateContract input "tactile-shadow-hero" ++
  validateTactileTextProp input "headline" "visible_h1" ++
  validateTactileTextProp input "primary_cta" "dom_text_cta" ++
  validateTactileTextProp input "trust_cue" "proof_adjacency" ++
  validateTactileTextProp input "heritage_badge" "proof_adjacency" ++
  validateTactileTextProp input "photo_caption" "no_primary_content_in_canvas" ++
  validateTactileTextProp input "static_fallback_label" "reduced_motion_fallback" ++
  validateTactileCtaHref input ++
  validateWallImageHref input

def renderWallLayer : Fragment :=
  let photoCaption := tactileProp input "photo_caption"
  match wallImageHref input with
  | some href =>
    [.raw (js "<figure class=\"tactile-shadow-hero__stone tactile-shadow-hero__stone--image\">\n"),
      .raw (js "    <img class=\"tactile-shadow-hero__wall-image\""), .attribute .src href,
      named "alt" photoCaption, .raw (js " decoding=\"async\" fetchpriority=\"high\">\n"),
      .raw (js "    <div class=\"tactile-shadow-hero__photo-scrim\" aria-hidden=\"true\"></div>\n"),
      .raw (js "    <figcaption class=\"tactile-shadow-hero__photo-caption\""),
      .raw (js " data-contract-prop=\"photo_caption\">"), .text photoCaption,
      .raw (js "</figcaption>\n  </figure>")]
  | none =>
    [.raw (js "<figure class=\"tactile-shadow-hero__stone\""), named "aria-label" photoCaption,
      .raw (js ">\n    <div class=\"tactile-shadow-hero__stone-surface\""),
      .raw (js " aria-hidden=\"true\"></div>\n"),
      .raw (js "    <figcaption class=\"tactile-shadow-hero__photo-caption\""),
      .raw (js " data-contract-prop=\"photo_caption\">"), .text photoCaption,
      .raw (js "</figcaption>\n  </figure>")]

def renderTactileShadowHero : Rendered :=
  rendered (validateTactileShadowHeroInput input)
    ([.raw (js "<section class=\"tactile-shadow-hero\" data-pattern-id=\"tactile-shadow-hero\""),
      named "data-contract-id" input.contract.id, .raw (js " data-motion-strategy=\"css-only\""),
      named "data-reduced-motion-fallback" (tactileProp input "static_fallback_label"),
      .raw (js " aria-labelledby=\"tactile-shadow-hero-title\">\n  ")] ++
    renderWallLayer input ++
    [.raw (js "\n  <div class=\"tactile-shadow-hero__layout\">\n"),
      .raw (js "    <div class=\"tactile-shadow-hero__copy tactile-shadow-hero__focus\">\n"),
      .raw (js "      <p class=\"tactile-shadow-hero__eyebrow\" data-contract-prop=\"eyebrow\">"),
      .text (tactileProp input "eyebrow"),
      .raw (js "</p>\n      <h1 id=\"tactile-shadow-hero-title\" data-contract-prop=\"headline\">"),
      .text (tactileProp input "headline"),
      .raw (js "</h1>\n    </div>\n    <div class=\"tactile-shadow-hero__bottom"),
      .raw (js " tactile-shadow-hero__focus tactile-shadow-hero__focus--late\">\n      ")] ++
    ctaAnchor (js "cta") "primary_cta" (tactileProp input "cta_href")
      (tactileProp input "primary_cta") ++
    [.raw (js "\n      <p class=\"tactile-shadow-hero__badge\">\n"),
      .raw (js "        <span data-contract-prop=\"trust_cue\">"),
      .text (tactileProp input "trust_cue"),
      .raw (js "</span>\n        <span class=\"tactile-shadow-hero__badge-separator\""),
      .raw (js " aria-hidden=\"true\"> / </span>\n"),
      .raw (js "        <span data-contract-prop=\"heritage_badge\">"),
      .text (tactileProp input "heritage_badge"),
      .raw (js "</span>\n      </p>\n    </div>\n  </div>\n</section>")])

end components

end Autopilot.PatternComponents
