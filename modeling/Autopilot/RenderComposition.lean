/-
Rendering a composition: `renderComposition` and `renderCompositionPage`.

A specification is typed here: what is refused for its shape alone is left out. The files
under the root of the renderer are a parameter, with what the file system says of a source,
and so is the arithmetic of the contrast checks, which only look at the custom properties
they read of the page.
-/
import Autopilot.TokenCss

set_option autoImplicit false

namespace Autopilot.RenderComposition

open PatternComponents TokenCss

/-! ## Specifications -/

/-- A prop of a node. A number is the text `String` gives it. -/
structure CompositionProp where
  name : JsString
  stringValue : Option JsString := none
  refValue : Option JsString := none
  integerValue : Option JsString := none
  numberValue : Option JsString := none
  booleanValue : Option Bool := none

structure InlineContentAsset where
  href : Option JsString := none
  inlineSvg : Option JsString := none
  alt : Option JsString := none
  sourceUrl : Option JsString := none

structure SlotFillTarget where
  targetKind : JsString
  targetId : Option JsString := none
  content : Option InlineContentAsset := none

structure SlotFill where
  slot : JsString
  fills : List SlotFillTarget

structure CompositionNode where
  nodeId : Option JsString := none
  targetKind : Option JsString := none
  targetId : Option JsString := none
  props : Option (List CompositionProp) := none
  slotFills : List SlotFill := []

structure TokenOverrideSpec where
  tokenFile : JsString
  tokenKey : JsString
  value : TokenPrimitive

structure CompositionSpec where
  id : Option JsString := none
  lang : Option JsString := none
  nodes : List CompositionNode
  overridesEnabled : Bool := false
  overrideValues : List TokenOverrideSpec := []

/-- What is given to `renderComposition`. -/
inductive SpecOrPattern where
  | absent
  | pattern (patternId : JsString) (lang : Option JsString) (props : List (JsString × JsString))
      (slotFills : List SlotFill)
  | composition (spec : CompositionSpec)

/-- What is thrown. -/
inductive RenderError where
  | spec (code : String) (message : JsString)
  | contract (issues : List ContractIssue)
  | tokens (issues : List TokenIssue)
  | error (message : JsString)

def compositionPropValue (prop : CompositionProp) : Option JsString :=
  prop.stringValue <|> prop.refValue <|> prop.integerValue <|> prop.numberValue <|>
    prop.booleanValue.map fun value => if value then js "true" else js "false"

/-- Values that are assigned one after the other. -/
def assigned (values : List (JsString × JsString)) : PatternProps := lastValue values

def readCompositionProps (props : Option (List CompositionProp)) : PatternProps :=
  assigned ((props.getD []).filterMap fun prop =>
    (compositionPropValue prop).map fun value => (prop.name, value))

def defaultCompositionLang : JsString := js "cs"

/-- `/^[A-Za-z]{2,3}(?:-[A-Za-z0-9]{2,8}){0,2}$/`. -/
def htmlLangPattern (value : JsString) : Bool :=
  match value.splitOn 45 with
  | [] => false
  | language :: subtags =>
    language.all isLetter && 2 ≤ language.length && language.length ≤ 3 &&
      subtags.length ≤ 2 && subtags.all fun subtag =>
        subtag.all (fun c => isLetter c || isDigitUnit c) && 2 ≤ subtag.length &&
          subtag.length ≤ 8

def readCompositionLang : Option JsString → Except RenderError JsString
  | none => .ok defaultCompositionLang
  | some value =>
    if htmlLangPattern value then .ok value
    else .error (.spec "malformed_lang" (js "Composition lang must be a short BCP 47 language tag."))

def readTokenOverrides (spec : CompositionSpec) : TokenOverrides :=
  if ¬spec.overridesEnabled then .empty
  else spec.overrideValues.foldl (fun overrides override =>
    overrides.set (withoutJson override.tokenFile)
      (((overrides.get? (withoutJson override.tokenFile)).getD .empty).set override.tokenKey
        override.value)) .empty

/-! ## Files -/

structure AssetManifestEntry where
  id : JsString
  type : JsString
  source : JsString
  provenanceStatus : Option JsString := none
  librarySourceId : Option JsString := none

structure CatalogSource where
  id : JsString
  status : Option JsString
  commercialUse : Option JsString

/-- What the file system says of a source. -/
inductive SourceState where
  | outside
  | uncheckable (message : JsString)
  | missing
  | unreadable (message : JsString)
  | notFile
  /-- Its text, or what reading it throws. -/
  | file (text : Except JsString JsString)

/-- The files of the renderer, and what is asked elsewhere. -/
structure PdosRoot where
  contracts : List ComponentContract
  assets : List AssetManifestEntry
  catalog : List CatalogSource
  sources : JsString → SourceState
  tokenFiles : List TokenFile
  toLowerCase : JsString → JsString
  angles : AngleNumbers
  checks : RenderChecks
  /-- The pair of colors that falls short, with its message, given the custom properties. -/
  contrast : (JsString → Option JsString) → Except RenderError Unit

def findPatternContract (root : PdosRoot) (patternId : JsString) : Option ComponentContract :=
  root.contracts.find? fun contract =>
    contract.targetKind = .pattern ∧ contract.targetId = patternId

/-! ## Slots -/

section slots

variable (root : PdosRoot)

def optionalTrimmed (value : Option JsString) : Option JsString :=
  (value.map trim).filter (· ≠ [])

/-- `assertPointCloudProvenance`. -/
def assertPointCloudProvenance (assetId : JsString) : Except RenderError Unit :=
  match root.assets.find? (·.id = assetId) with
  | none => .ok ()
  | some asset =>
    if asset.type ≠ js "point_cloud" then .ok ()
    else
      match optionalTrimmed asset.provenanceStatus with
      | none => .ok ()
      | some provenanceStatus =>
        if provenanceStatus = js "internal" then .ok ()
        else
          match optionalTrimmed asset.librarySourceId with
          | none => .error (.spec "cloud_source_unlicensed"
              (js "cloud_source_unlicensed: Point-cloud asset \"" ++ asset.id ++
                js "\" has provenance_status \"" ++ provenanceStatus ++
                js "\" but no library_source_id."))
          | some sourceId =>
            let source := root.catalog.find? (·.id = sourceId)
            if source.any fun source => source.status = some (js "approved_source") &&
                (source.commercialUse = some (js "allowed") ||
                  source.commercialUse = some (js "allowed_with_attribution")) then .ok ()
            else .error (.spec "cloud_source_unlicensed"
              (js "cloud_source_unlicensed: Point-cloud asset \"" ++ asset.id ++
                js "\" references unapproved or unlicensed source \"" ++ sourceId ++ js "\"."))

/-- `MAX_INLINE_POINT_CLOUD_CHARS`. -/
def maxInlinePointCloudChars : ℕ := 768 * 1024

/-- `handleUnresolvedAssetSource`. -/
def unresolvedAssetSource (asset : ResolvedAsset) (required : Bool) (code : String)
    (message : JsString) : Except RenderError ResolvedAsset :=
  if required then .error (.spec code message) else .ok asset

/-- `replace(/\\/g, "/")`. -/
def forwardSlashes (source : JsString) : JsString := source.map fun c => if c = 92 then 47 else c

def hasExtension (extension : String) (source : JsString) : Bool :=
  js extension <:+ asciiLower source

/-- `sourceMustResolveToFile`. -/
def sourceMustResolveToFile (entry : AssetManifestEntry) : Bool :=
  forwardSlashes entry.source ≠ js "product-design-os" || entry.type = js "background" ||
    isFileBackedAsset { id := entry.id, source := entry.source }

/-- `resolveAssetSource`, put into the asset. -/
def resolveAssetSource (entry : AssetManifestEntry) (asset : ResolvedAsset) (required : Bool)
    (slotName : JsString) : Except RenderError ResolvedAsset :=
  if trim entry.source = [] then
    unresolvedAssetSource asset required "asset_source_missing"
      (js "Asset " ++ entry.id ++ js " must include a source before it can fill slot \"" ++
        slotName ++ js "\".")
  else
    let source := forwardSlashes entry.source
    if source ≠ js "product-design-os" ∧ ¬js "product-design-os/" <+: source then .ok asset
    else
      match root.sources source with
      | .outside => unresolvedAssetSource asset required "asset_source_unsafe"
          (js "Asset source escapes product-design-os: " ++ source ++ js ".")
      | .uncheckable message => unresolvedAssetSource asset required "asset_source_unreadable"
          (js "Asset source could not be checked: " ++ source ++ js ". " ++ message)
      | .missing => unresolvedAssetSource asset required "asset_source_missing"
          (js "Asset source file does not exist: " ++ source ++ js ".")
      | .unreadable message => unresolvedAssetSource asset required "asset_source_unreadable"
          (js "Asset source could not be read: " ++ source ++ js ". " ++ message)
      | .notFile => unresolvedAssetSource asset (sourceMustResolveToFile entry && required)
          "asset_source_not_file"
          (js "Asset source must resolve to a file: " ++ source ++ js ".")
      | .file text =>
        if hasExtension ".svg" source then
          match text with
          | .ok svg => .ok { asset with inlineSvg := svg }
          | .error message => unresolvedAssetSource asset required "asset_source_unreadable"
              (js "Asset SVG source could not be read: " ++ source ++ js ". " ++ message)
        else if entry.type = js "point_cloud" ∧ hasExtension ".json" source then
          match text with
          | .ok raw =>
            if raw.length ≤ maxInlinePointCloudChars then .ok { asset with inlineData := raw }
            else .ok { asset with href := js "../../" ++ source }
          | .error message => unresolvedAssetSource asset required "asset_source_unreadable"
              (js "Asset point-cloud source could not be read: " ++ source ++ js ". " ++ message)
        else .ok { asset with href := js "../../" ++ source }

/-- `resolveAsset`. -/
def resolveAsset (assetId : JsString) (required : Bool) (slotName : JsString) :
    Except RenderError ResolvedAsset :=
  match root.assets.find? (·.id = assetId) with
  | none =>
    if required then
      .error (.spec "asset_manifest_entry_missing" (js "Required slot \"" ++ slotName ++
        js "\" references missing asset manifest entry " ++ assetId ++ js "."))
    else .ok { id := assetId, source := [] }
  | some entry =>
    resolveAssetSource root entry { id := entry.id, source := entry.source } required slotName

/-- `resolveInlineContentAsset`. -/
def resolveInlineContentAsset (content : InlineContentAsset) (slotName : JsString) :
    Except RenderError ResolvedAsset :=
  let href := optionalTrimmed content.href
  let inlineSvg := optionalTrimmed content.inlineSvg
  let sourceUrl := optionalTrimmed content.sourceUrl
  let refuse := fun (code : String) (message : String) =>
    (.error (.spec code (js "Inline asset content for \"" ++ slotName ++ js "\" " ++
      js message)) : Except RenderError ResolvedAsset)
  if href = none ∧ inlineSvg = none then
    refuse "inline_asset_source_missing" "requires href or inline_svg."
  else if href.any fun href => !isSafeHref href then
    refuse "unsafe_inline_asset_href" "has an unsafe href."
  else if href.any fun href => !isRasterImageHref href then
    refuse "inline_asset_href_not_raster" "must use a raster image href."
  else if sourceUrl.any fun sourceUrl => !isSafeHref sourceUrl then
    refuse "unsafe_inline_asset_source_url" "has an unsafe source_url."
  else .ok
    { id := js "inline:" ++ slotName
      source := href.getD (js "inline-svg")
      href := href
      inlineSvg := inlineSvg
      alt := optionalTrimmed content.alt
      inlineContent := true }

/-- `resolvedPatternReferenceFromNode`. -/
def resolvedPatternReferenceFromNode (referenceId : JsString) (node : CompositionNode) :
    Except RenderError ResolvedPatternReference :=
  match node.targetId.filter fun targetId => trim targetId ≠ [] with
  | none => .error (.spec "malformed_pattern_id" (js "Pattern slot reference " ++ referenceId ++
      js " resolves to a node without a string target_id."))
  | some targetId => .ok
    { id := targetId
      nodeId := node.nodeId
      props := node.props.map fun props => readCompositionProps (some props) }

/-- `resolvePatternReference`. -/
def resolvePatternReference (nodes : List CompositionNode) (referenceId : JsString) :
    Except RenderError ResolvedPatternReference :=
  let patterns := nodes.filter (·.targetKind = some (js "pattern"))
  match patterns.filter (·.nodeId = some referenceId) with
  | [node] => resolvedPatternReferenceFromNode referenceId node
  | _ :: _ :: _ => .error (.spec "ambiguous_pattern_node_id" (js "Pattern slot reference " ++
      referenceId ++ js " matched multiple composition node_id values."))
  | [] =>
    match patterns.filter (·.targetId = some referenceId) with
    | [node] => resolvedPatternReferenceFromNode referenceId node
    | [] => .ok { id := referenceId }
    | matches' => .error (.spec "ambiguous_pattern_target_id" (js "Pattern slot reference " ++
        referenceId ++ js " matched " ++ decimal matches'.length ++
        js " composition nodes by target_id; use a node_id target instead."))

/-- What fills a slot. -/
def resolveFill (contract : ComponentContract) (nodes : List CompositionNode)
    (contractSlot : ContractSlot) (fill : SlotFillTarget) :
    Except RenderError ResolvedSlotTarget :=
  let missing := fun (what : String) =>
    (.error (.spec "malformed_slot_fills" (js "slot_fills for \"" ++ contractSlot.name ++
      js what)) : Except RenderError ResolvedSlotTarget)
  if fill.targetKind = js "asset" then
    match fill.content, fill.targetId with
    | some content, _ => (resolveInlineContentAsset content contractSlot.name).map .asset
    | none, none => missing "\" require target_id or content for asset fills."
    | none, some targetId => do
      assertPointCloudProvenance root targetId
      (resolveAsset root targetId contractSlot.required contractSlot.name).map .asset
  else if fill.targetKind = js "pattern" then
    match fill.targetId with
    | none => missing "\" require target_id for pattern fills."
    | some targetId => (resolvePatternReference nodes targetId).map .pattern
  else .error (.spec "unsupported_slot_fill_target_kind" (js "Slot \"" ++ contractSlot.name ++
    js "\" on pattern " ++ contract.targetId ++ js " has unsupported fill target_kind " ++
    fill.targetKind ++ js "."))

/-- `resolveSlots`: the fills of a slot that is given again count. -/
def resolveSlots (contract : ComponentContract) (nodes : List CompositionNode) :
    List SlotFill → Except RenderError (JsString → Option (List ResolvedSlotTarget))
  | [] => .ok fun _ => none
  | slotFill :: rest =>
    match contract.slots.find? (·.name = slotFill.slot) with
    | none => .error (.spec "unknown_slot_name" (js "Pattern " ++ contract.targetId ++
        js " does not define slot \"" ++ slotFill.slot ++ js "\"."))
    | some contractSlot => do
      let resolved ← slotFill.fills.mapM (resolveFill root contract nodes contractSlot)
      let slots ← resolveSlots contract nodes rest
      return fun name => (slots name).or (if name = slotFill.slot then some resolved else none)

end slots

/-! ## Pages -/

/-- `patternComponentRegistry`. -/
def patternComponents (checks : RenderChecks) :
    List (JsString × (PatternRenderInput → Rendered)) :=
  [(js "sharp-positioning-hero", renderSharpPositioningHero checks),
    (js "proof-led-section", renderProofLedSection checks),
    (js "outcome-cta", renderOutcomeCta),
    (js "dot-stage-hero", renderDotStageHero),
    (js "point-cloud-background", renderPointCloudBackground checks),
    (js "tactile-shadow-hero", renderTactileShadowHero)]

def getPatternComponent (checks : RenderChecks) (patternId : JsString) :
    Option (PatternRenderInput → Rendered) :=
  (patternComponents checks).lookup patternId

def hasPatternComponent (root : PdosRoot) (patternId : JsString) : Bool :=
  (getPatternComponent root.checks patternId).isSome

/-- The custom property of the style sheet, as `cssRootVarValue` finds it. -/
def cssRootVarValue (css : JsString) (name : String) : Option JsString :=
  (rootBlock css).bind fun block =>
    (block.tails.findSome? fun tail =>
      let start := js "--" ++ js name ++ js ":"
      if start <+: tail then
        let value := (tail.drop start.length).takeWhile (· ≠ 59)
        if value = [] ∨ (tail.drop start.length).length = value.length then none
        else some (trim value)
      else none)

/-- `[1-9]00`. -/
def isFontWeight (weight : JsString) : Bool :=
  match weight with
  | [c, 48, 48] => 49 ≤ c && c ≤ 57
  | _ => false

def normalizeGoogleFontWeights (value : JsString) : List JsString :=
  let weights := ((value.splitOn 44).map trim).filter (· ≠ [])
  if weights.all isFontWeight then weights else []

def isFamilyUnit (c : UInt16) : Bool := isLetter c || isDigitUnit c || c = 32

def renderWebFontHeadLinks (tokenCss : JsString) : List JsString :=
  match cssRootVarValue tokenCss "type-web-font-family" with
  | none => []
  | some family =>
    if asciiLower family = js "none" then []
    else if ¬(family.all isFamilyUnit ∧ 1 ≤ family.length ∧ family.length ≤ 80) then []
    else
      let weights := normalizeGoogleFontWeights
        ((cssRootVarValue tokenCss "type-web-font-weights").getD (js "400,700"))
      let familyQuery := family.map fun c => if c = 32 then 43 else c
      let href := js "https://fonts.googleapis.com/css2?family=" ++ familyQuery ++ js ":wght@" ++
        joinedBy (js ";") weights ++ js "&display=swap"
      if weights = [] ∨ ¬isSafeHref href then []
      else
        [js "<link rel=\"preconnect\" href=\"https://fonts.googleapis.com\">",
          js "<link rel=\"preconnect\" href=\"https://fonts.gstatic.com\" crossorigin>",
          js "<link rel=\"stylesheet\" href=\"" ++ escapeHtml href ++ js "\">"]

/-- The lines of a document up to its style sheet, those of the style sheet, and the rest.
What stands behind the custom properties is given: the base style with the styles of the
components, and the body. -/
def renderHtmlDocument (title lang tokenCss : JsString) (componentCss body : JsString) :
    JsString :=
  joinedBy (js "\n")
    ([js "<!doctype html>", js "<html lang=\"" ++ escapeHtml lang ++ js "\">", js "<head>",
      js "<meta charset=\"utf-8\">",
      js "<meta name=\"viewport\" content=\"width=device-width, initial-scale=1\">"] ++
    renderWebFontHeadLinks tokenCss ++
    [js "<title>" ++ escapeHtml title ++ js "</title>", js "<style>", tokenCss, componentCss,
      js "</style>", js "</head>", js "<body>", body, js "</body>", js "</html>"])

/-- `assertTokenColorContrast`. -/
def assertTokenColorContrast (root : PdosRoot) (html : JsString) : Except RenderError Unit :=
  match extractRootCssVars html with
  | none => .error (.error (js "Rendered CSS does not contain a :root CSS block."))
  | some rootVars => root.contrast rootVars

/-- `mapTokensToCss`. -/
def mapTokensToCss (root : PdosRoot) (overrides : TokenOverrides) :
    Except RenderError JsString :=
  match tokenDeclarations root.toLowerCase root.angles root.tokenFiles overrides with
  | .error issues => .error (.tokens issues)
  | .ok declarations => .ok (rootCss declarations)

/-- A section with its fragment. -/
structure RenderedSection where
  nodeId : JsString
  patternId : JsString
  props : PatternProps
  fragment : Fragment

/-- `RenderPatternData`. -/
structure RenderPatternData where
  patternId : JsString
  lang : JsString
  props : PatternProps
  slotFills : List SlotFill
  overrides : TokenOverrides
  nodes : List CompositionNode

/-- `defaultHeroData`. -/
def defaultHeroData : RenderPatternData where
  patternId := js "sharp-positioning-hero"
  lang := defaultCompositionLang
  props := assigned
    [(js "headline", js "A premium launch page with clear proof before polish"),
      (js "primary_cta", js "Request a plan"), (js "trust_cue", js "Case-backed launch process")]
  slotFills :=
    [⟨js "hero_asset", [{ targetKind := js "asset", targetId := js "editorial-motion-hero" }]⟩,
      ⟨js "theme_background", [{ targetKind := js "asset", targetId := js "theme-calm-prism-grid" }]⟩]
  overrides := .empty
  nodes := []

section pages

variable (root : PdosRoot)

/-- `resolvePatternData`. -/
def resolvePatternData : SpecOrPattern → Except RenderError RenderPatternData
  | .absent => .ok defaultHeroData
  | .pattern patternId lang props slotFills =>
    if ¬hasPatternComponent root patternId then
      .error (.spec "unsupported_pattern_id"
        (js "No renderer registered for pattern " ++ patternId ++ js "."))
    else do
      let lang ← readCompositionLang lang
      return ⟨patternId, lang, assigned props, slotFills, .empty, []⟩
  | .composition spec => do
    let lang ← readCompositionLang spec.lang
    let patterns := spec.nodes.filter (·.targetKind = some (js "pattern"))
    match spec.nodes.find? fun node => node.targetKind = some (js "pattern") ∧
        node.targetId.any (hasPatternComponent root) with
    | none =>
      .error (.spec (if patterns = [] then "pattern_node_missing" else "unsupported_pattern_id")
        (js "Composition spec does not contain a registered renderable pattern node. " ++
          js "Pattern nodes: " ++ commaJoined (patterns.map fun node =>
            node.targetId.getD (js "<missing>")) ++ js "."))
    | some node =>
      return ⟨node.targetId.getD [], lang, readCompositionProps node.props, node.slotFills,
        readTokenOverrides spec, spec.nodes⟩

/-- A component renders a node. -/
def renderPattern (patternId : JsString) (contract : ComponentContract) (props : PatternProps)
    (slots : JsString → Option (List ResolvedSlotTarget)) : Except RenderError Fragment :=
  match getPatternComponent root.checks patternId with
  | none => .error (.error (js "No renderer registered for pattern " ++ patternId ++ js "."))
  | some render =>
    match render ⟨props, slots, contract⟩ with
    | .ok fragment => .ok fragment
    | .error issues => .error (.contract issues)

/-- The style of the document and of a component, behind the custom properties. -/
structure Styles where
  base : JsString
  component : JsString → JsString

/-- A page and the sections it was put together from. -/
structure RenderedPage where
  html : JsString
  sections : List RenderedSection
  skipped : List (JsString × JsString)

variable (styles : Styles)

def renderComposition (specOrPattern : SpecOrPattern) : Except RenderError RenderedPage := do
  let data ← resolvePatternData root specOrPattern
  match findPatternContract root data.patternId with
  | none => .error (.error (js "Missing contract for pattern " ++ data.patternId ++ js "."))
  | some contract =>
    let slots ← resolveSlots root contract data.nodes data.slotFills
    let tokenCss ← mapTokensToCss root data.overrides
    let fragment ← renderPattern root data.patternId contract data.props slots
    let title := ((data.props (js "headline")).or (data.props (js "outcome_statement"))).getD
      data.patternId
    let html := renderHtmlDocument title data.lang tokenCss
      (styles.base ++ js "\n" ++ styles.component data.patternId) fragment.html
    assertTokenColorContrast root html
    return ⟨html, [⟨[], data.patternId, data.props, fragment⟩], []⟩

/-- A node of a page is rendered, or skipped with a reason. Every registered pattern is one
of a section. -/
def renderNode (spec : CompositionSpec) (node : CompositionNode) (index : ℕ) :
    Except RenderError (RenderedSection ⊕ JsString × JsString) :=
  let nodeId := node.nodeId.getD (js "composition-node-" ++ decimal (index + 1))
  if node.targetKind = some (js "asset") then
    .ok (.inr (nodeId, js "Asset " ++ node.targetId.getD (js "<missing>") ++
      js " is slot-only and skipped during section rendering."))
  else if node.targetKind ≠ some (js "pattern") then
    .error (.spec "unsupported_target_kind" (js "Composition node " ++ nodeId ++
      js " has unsupported target_kind " ++ node.targetKind.getD (js "<missing>") ++ js "."))
  else
    match node.targetId.filter fun patternId => trim patternId ≠ [] with
    | none => .error (.spec "malformed_pattern_id" (js "Pattern node " ++ nodeId ++
        js " is missing a string target_id."))
    | some patternId =>
      match findPatternContract root patternId, hasPatternComponent root patternId with
      | some _, false => .ok (.inr (nodeId, js "Pattern " ++ patternId ++
          js " has a contract but no registered section renderer."))
      | none, false => .error (.spec "unsupported_pattern_id"
          (js "No renderer or contract registered for pattern " ++ patternId ++ js " on node " ++
            nodeId ++ js "."))
      | none, true => .error (.spec "contract_missing"
          (js "Missing contract for renderable pattern " ++ patternId ++ js "."))
      | some contract, true => do
        let props := readCompositionProps node.props
        let slots ← resolveSlots root contract spec.nodes node.slotFills
        let fragment ← renderPattern root patternId contract props slots
        return .inl ⟨nodeId, patternId, props, fragment⟩

/-- The nodes of a page, in their order. -/
def renderNodes (spec : CompositionSpec) :
    List (CompositionNode × ℕ) → Except RenderError (List (RenderedSection ⊕ JsString × JsString))
  | [] => .ok []
  | (node, index) :: rest => do
    let first ← renderNode root spec node index
    let others ← renderNodes spec rest
    return first :: others

/-- The styles of the components that were used, each once. -/
def usedStyles (sections : List RenderedSection) : List JsString :=
  (sections.foldl (fun used section' =>
    if styles.component section'.patternId ∈ used then used
    else used ++ [styles.component section'.patternId]) [])

/-- The body of a page. -/
def pageBody (title : JsString) (sections : List RenderedSection) : JsString :=
  js "<main class=\"pdos-page\" data-composition-id=\"" ++ escapeHtml title ++ js "\">\n" ++
    joinedBy (js "\n") (sections.map (·.fragment.html)) ++ js "\n</main>"

def renderCompositionPage (spec : CompositionSpec) : Except RenderError RenderedPage := do
  let lang ← readCompositionLang spec.lang
  let tokenCss ← mapTokensToCss root (readTokenOverrides spec)
  let nodes ← renderNodes root spec spec.nodes.zipIdx
  let sections := nodes.filterMap Sum.getLeft?
  let skipped := nodes.filterMap Sum.getRight?
  match sections with
  | [] =>
    let reasons := skipped.map fun node => node.1 ++ js " (" ++ node.2 ++ js ")"
    .error (.spec "pattern_node_missing"
      (js "Composition spec does not contain a renderable section pattern node. " ++
        js "Skipped nodes: " ++ (if reasons = [] then js "<none>" else joinedBy (js "; ") reasons) ++
        js "."))
  | first :: _ =>
    let title := spec.id.getD first.patternId
    let html := renderHtmlDocument title lang tokenCss
      (styles.base ++ js "\n" ++ joinedBy (js "\n\n") (usedStyles styles sections))
      (pageBody title sections)
    assertTokenColorContrast root html
    return ⟨html, sections, skipped⟩

end pages

end Autopilot.RenderComposition
