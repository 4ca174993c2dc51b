/-
The links of a rendered page.

Every component but one checks each link that it writes. The contact block of
`outcome-cta` writes `contact_phone_href` as it is given, so a page is safe exactly where
that one is.
-/
import Autopilot.RenderComposition
import Autopilot.Lib.Collected

set_option autoImplicit false

namespace Autopilot.RenderComposition

open Markup PatternComponents TokenCss
open Collected (bind_ok)

/-- Every `href` and `src` of the fragment is a safe link. -/
def LinksSafe (fragment : Fragment) : Prop := ∀ link ∈ fragment.links, isSafeHref link = true

/-! ## What the components write -/

section fragments

theorem rendered_ok {issues : List ContractIssue} {fragment written : Fragment}
    (h : rendered issues fragment = .ok written) : issues = [] ∧ written = fragment := by
  unfold rendered at h
  by_cases hissues : issues = []
  · rw [if_pos hissues] at h
    exact ⟨hissues, (Except.ok.inj h).symm⟩
  · rw [if_neg hissues] at h
    cases h

theorem linksSafe_append {fragment fragment' : Fragment} :
    LinksSafe (fragment ++ fragment') ↔ LinksSafe fragment ∧ LinksSafe fragment' := by
  unfold LinksSafe Fragment.links
  rw [attributes_append]
  exact List.forall_mem_append

/-- A fragment without inserted links. -/
theorem linksSafe_of_links_nil {fragment : Fragment} (h : fragment.links = []) :
    LinksSafe fragment := by
  intro link hlink
  rw [h] at hlink
  exact absurd hlink List.not_mem_nil

theorem links_ctaAnchor (className : JsString) (prop : String) (href label : JsString) :
    (ctaAnchor className prop href label).links = [href] := rfl

theorem linksSafe_ctaAnchor {className : JsString} {prop : String} {href label : JsString} :
    LinksSafe (ctaAnchor className prop href label) ↔ isSafeHref href = true := by
  unfold LinksSafe
  rw [links_ctaAnchor]
  exact List.forall_mem_singleton

variable {checks : RenderChecks} {input : PatternRenderInput}

/-- The link of a call to action is safe where the input passes its check. -/
theorem safe_of_validateCtaHref (h : validateCtaHref input = []) (otherwise : JsString)
    (hotherwise : isSafeHref otherwise = true) :
    isSafeHref (input.trimmedOr "cta_href" otherwise) = true := by
  unfold validateCtaHref at h
  unfold PatternRenderInput.trimmedOr PatternRenderInput.trimmed
  cases hhref : input.props (js "cta_href") with
  | none => exact hotherwise
  | some rawHref =>
    rw [hhref] at h
    dsimp only at h
    rw [Option.map_some, Option.getD_some]
    by_cases hblank : trim rawHref = []
    · rw [if_pos hblank]
      exact hotherwise
    · rw [if_neg hblank] at h ⊢
      rw [isSafeHref_trim]
      by_contra hunsafe
      rw [if_pos hunsafe] at h
      cases h

/-- An asset is written with a link that is safe. -/
theorem linksSafe_assetMarkup (asset : Option ResolvedAsset) (className alt : JsString)
    {fallback : Fragment} (hfallback : LinksSafe fallback) :
    LinksSafe (renderResolvedSlotAssetMarkup checks asset className alt fallback) := by
  unfold renderResolvedSlotAssetMarkup
  dsimp only
  split
  · exact linksSafe_of_links_nil rfl
  · split
    · rename_i asset href _
      by_cases hsafe : isSafeHref href = true ∧ isRasterImageHref href = true
      · rw [if_pos (by rw [hsafe.1, hsafe.2]; rfl)]
        intro link hlink
        rw [List.mem_singleton.1 hlink]
        exact hsafe.1
      · rw [if_neg (by rwa [Bool.and_eq_true])]
        exact hfallback
    · exact hfallback

theorem linksSafe_sharpPositioningHero {fragment : Fragment}
    (h : renderSharpPositioningHero checks input = .ok fragment) : LinksSafe fragment := by
  obtain ⟨hissues, rfl⟩ := rendered_ok h
  unfold validateSharpPositioningHeroInput at hissues
  simp only [List.append_eq_nil_iff] at hissues
  have hcta := safe_of_validateCtaHref hissues.1.1.2 (js "#request") (by decide)
  simp only [linksSafe_append, linksSafe_ctaAnchor]
  refine ⟨⟨⟨⟨linksSafe_of_links_nil rfl, hcta⟩, linksSafe_of_links_nil rfl⟩, ?_⟩,
    linksSafe_of_links_nil rfl⟩
  exact linksSafe_assetMarkup _ _ _ (linksSafe_of_links_nil rfl)

theorem linksSafe_proofLedSection {fragment : Fragment}
    (h : renderProofLedSection checks input = .ok fragment) : LinksSafe fragment := by
  obtain ⟨hissues, rfl⟩ := rendered_ok h
  unfold validateProofLedSectionInput at hissues
  simp only [List.append_eq_nil_iff] at hissues
  have hcta := safe_of_validateCtaHref hissues.1.2 (js "#proof") (by decide)
  simp only [linksSafe_append, linksSafe_ctaAnchor]
  refine ⟨⟨⟨⟨linksSafe_of_links_nil rfl, ?_⟩, linksSafe_of_links_nil rfl⟩, hcta⟩,
    linksSafe_of_links_nil rfl⟩
  exact linksSafe_assetMarkup _ _ _ (linksSafe_of_links_nil rfl)

theorem linksSafe_optionalParagraph (className prop : String) (text : JsString) :
    LinksSafe (optionalParagraph className prop text) := by
  unfold optionalParagraph
  split <;> exact linksSafe_of_links_nil rfl

theorem linksSafe_proofContext (proofContext : Option ResolvedPatternReference) :
    LinksSafe (renderProofContext proofContext) := by
  unfold renderProofContext
  dsimp only
  split
  · exact linksSafe_of_links_nil rfl
  · rw [linksSafe_append, linksSafe_append]
    refine ⟨⟨linksSafe_optionalParagraph _ _ _, ?_⟩, linksSafe_optionalParagraph _ _ _⟩
    split <;> exact linksSafe_of_links_nil rfl

/-- The contact block is left out, or its link is safe. -/
def ContactLinkSafe (props : PatternProps) : Prop :=
  ((props (js "contact_phone")).map trim).getD [] = [] ∨
    isSafeHref ((props (js "contact_phone_href")).getD []) = true

instance (props : PatternProps) : Decidable (ContactLinkSafe props) :=
  inferInstanceAs (Decidable (_ ∨ _))

theorem linksSafe_contactBlock :
    LinksSafe (renderContactBlock input) ↔ ContactLinkSafe input.props := by
  have hhref : isSafeHref (input.trimmed "contact_phone_href") =
      isSafeHref ((input.props (js "contact_phone_href")).getD []) := by
    unfold PatternRenderInput.trimmed
    cases input.props (js "contact_phone_href") with
    | none => rfl
    | some href => exact isSafeHref_trim href
  unfold renderContactBlock ContactLinkSafe
  by_cases hphone : input.trimmed "contact_phone" = []
  · rw [if_pos hphone]
    exact iff_of_true (linksSafe_of_links_nil rfl) (.inl hphone)
  · rw [if_neg hphone, ← hhref]
    simp only [linksSafe_append, linksSafe_ctaAnchor]
    constructor
    · rintro ⟨⟨⟨⟨-, hsafe⟩, -⟩, -⟩, -⟩
      exact .inr hsafe
    · intro hcontact
      have hsafe := hcontact.resolve_left hphone
      exact ⟨⟨⟨⟨⟨⟨linksSafe_of_links_nil rfl, linksSafe_optionalParagraph _ _ _⟩,
        linksSafe_of_links_nil rfl⟩, hsafe⟩, linksSafe_of_links_nil rfl⟩,
        linksSafe_optionalParagraph _ _ _⟩, linksSafe_of_links_nil rfl⟩

/-- **The links of `outcome-cta`.** -/
theorem linksSafe_outcomeCta {fragment : Fragment} (h : renderOutcomeCta input = .ok fragment) :
    LinksSafe fragment ↔ ContactLinkSafe input.props := by
  obtain ⟨hissues, rfl⟩ := rendered_ok h
  unfold validateOutcomeCtaInput at hissues
  simp only [List.append_eq_nil_iff] at hissues
  have hcta := safe_of_validateCtaHref hissues.1.2 (js "#request") (by decide)
  simp only [linksSafe_append, linksSafe_ctaAnchor, linksSafe_contactBlock]
  constructor
  · rintro ⟨⟨-, hcontact⟩, -⟩
    exact hcontact
  · intro hcontact
    exact ⟨⟨⟨⟨⟨⟨linksSafe_of_links_nil rfl, linksSafe_proofContext _⟩,
      linksSafe_of_links_nil rfl⟩, hcta⟩, linksSafe_of_links_nil rfl⟩, hcontact⟩,
      linksSafe_of_links_nil rfl⟩

theorem linksSafe_dotStageHero {fragment : Fragment} (h : renderDotStageHero input = .ok fragment) :
    LinksSafe fragment := by
  obtain ⟨hissues, rfl⟩ := rendered_ok h
  unfold validateDotStageHeroInput at hissues
  simp only [List.append_eq_nil_iff] at hissues
  have hcta := safe_of_validateCtaHref hissues.2 (js "#kontakt") (by decide)
  simp only [linksSafe_append, linksSafe_ctaAnchor]
  exact ⟨⟨linksSafe_of_links_nil rfl, hcta⟩, linksSafe_of_links_nil rfl⟩

theorem linksSafe_pointCloudFragment {inlineJson : JsString}
    (h : isSafeHref (input.trimmedOr "cta_href" (js "#kontakt")) = true) :
    LinksSafe (pointCloudFragment input inlineJson) := by
  unfold pointCloudFragment
  simp only [linksSafe_append, linksSafe_ctaAnchor]
  refine ⟨⟨⟨⟨⟨⟨linksSafe_of_links_nil rfl, ?_⟩, linksSafe_of_links_nil rfl⟩, ?_⟩,
    linksSafe_of_links_nil rfl⟩, h⟩, linksSafe_of_links_nil rfl⟩
  · -- the knobs are no links
    refine linksSafe_of_links_nil ?_
    unfold Fragment.links attributes
    rw [List.filterMap_map]
    exact List.filterMap_eq_nil_iff.2 fun _ _ => rfl
  · split <;> exact linksSafe_of_links_nil rfl

theorem linksSafe_pointCloudBackground {fragment : Fragment}
    (h : renderPointCloudBackground checks input = .ok fragment) : LinksSafe fragment := by
  unfold renderPointCloudBackground at h
  dsimp only at h
  split at h
  · rename_i hissues
    obtain ⟨-, rfl⟩ := rendered_ok h
    unfold validatePointCloudInput at hissues
    simp only [List.append_eq_nil_iff] at hissues
    exact linksSafe_pointCloudFragment
      (safe_of_validateCtaHref hissues.1.1.1.2 (js "#kontakt") (by decide))
  · cases h

theorem linksSafe_wallLayer (h : validateWallImageHref input = []) :
    LinksSafe (renderWallLayer input) := by
  unfold validateWallImageHref at h
  unfold renderWallLayer
  dsimp only
  cases hwall : wallImageHref input with
  | none => exact linksSafe_of_links_nil rfl
  | some href =>
    rw [hwall] at h
    dsimp only at h
    intro link hlink
    rw [List.mem_singleton.1 hlink]
    by_contra hunsafe
    rw [if_pos hunsafe] at h
    cases h

theorem linksSafe_tactileShadowHero {fragment : Fragment}
    (h : renderTactileShadowHero input = .ok fragment) : LinksSafe fragment := by
  obtain ⟨hissues, rfl⟩ := rendered_ok h
  unfold validateTactileShadowHeroInput at hissues
  simp only [List.append_eq_nil_iff] at hissues
  obtain ⟨⟨-, hcta⟩, hwall⟩ := hissues
  have hsafe : isSafeHref (tactileProp input "cta_href") = true := by
    unfold validateTactileCtaHref at hcta
    by_contra hunsafe
    rw [if_pos hunsafe] at hcta
    cases hcta
  simp only [linksSafe_append, linksSafe_ctaAnchor]
  exact ⟨⟨⟨⟨linksSafe_of_links_nil rfl, linksSafe_wallLayer hwall⟩, linksSafe_of_links_nil rfl⟩,
    hsafe⟩, linksSafe_of_links_nil rfl⟩

end fragments

/-! ## Pages -/

section pages

variable {root : PdosRoot} {styles : Styles} {fragment : Fragment}

/-- A component that checks all its links is not the one that does not. -/
theorem linksSafe_other {patternId : JsString} {name : String} {props : PatternProps}
    (hid : patternId = js name) (hname : js name ≠ js "outcome-cta") (hsafe : LinksSafe fragment) :
    LinksSafe fragment ↔ (patternId = js "outcome-cta" → ContactLinkSafe props) :=
  iff_of_true hsafe fun hcta => absurd (hid.symm.trans hcta) hname

/-- **The links of a component.** -/
theorem linksSafe_component {checks : RenderChecks} {patternId : JsString}
    {render : PatternRenderInput → Rendered} {input : PatternRenderInput}
    (hrender : getPatternComponent checks patternId = some render)
    (h : render input = .ok fragment) :
    LinksSafe fragment ↔ (patternId = js "outcome-cta" → ContactLinkSafe input.props) := by
  unfold getPatternComponent patternComponents at hrender
  simp only [List.lookup_cons, List.lookup_nil] at hrender
  split at hrender
  · rename_i hid
    obtain rfl := Option.some.inj hrender
    exact linksSafe_other (beq_iff_eq.1 hid) (by decide) (linksSafe_sharpPositioningHero h)
  split at hrender
  · rename_i hid
    obtain rfl := Option.some.inj hrender
    exact linksSafe_other (beq_iff_eq.1 hid) (by decide) (linksSafe_proofLedSection h)
  split at hrender
  · rename_i hid
    obtain rfl := Option.some.inj hrender
    rw [linksSafe_outcomeCta h]
    exact ⟨fun hcontact _ => hcontact, fun hcontact => hcontact (beq_iff_eq.1 hid)⟩
  split at hrender
  · rename_i hid
    obtain rfl := Option.some.inj hrender
    exact linksSafe_other (beq_iff_eq.1 hid) (by decide) (linksSafe_dotStageHero h)
  split at hrender
  · rename_i hid
    obtain rfl := Option.some.inj hrender
    exact linksSafe_other (beq_iff_eq.1 hid) (by decide) (linksSafe_pointCloudBackground h)
  split at hrender
  · rename_i hid
    obtain rfl := Option.some.inj hrender
    exact linksSafe_other (beq_iff_eq.1 hid) (by decide) (linksSafe_tactileShadowHero h)
  · cases hrender

theorem linksSafe_renderPattern {patternId : JsString} {contract : ComponentContract}
    {props : PatternProps} {slots : JsString → Option (List ResolvedSlotTarget)}
    (h : renderPattern root patternId contract props slots = .ok fragment) :
    LinksSafe fragment ↔ (patternId = js "outcome-cta" → ContactLinkSafe props) := by
  unfold renderPattern at h
  cases hrender : getPatternComponent root.checks patternId with
  | none =>
    rw [hrender] at h
    cases h
  | some render =>
    rw [hrender] at h
    dsimp only at h
    cases hfragment : render ⟨props, slots, contract⟩ with
    | error issues =>
      rw [hfragment] at h
      cases h
    | ok written =>
      rw [hfragment] at h
      obtain rfl := Except.ok.inj h
      exact linksSafe_component hrender hfragment

/-- Every link of the sections of a page is safe. -/
def RenderedPage.LinksSafe (page : RenderedPage) : Prop :=
  ∀ rendered ∈ page.sections, RenderComposition.LinksSafe rendered.fragment

/-- The page of one pattern. -/
theorem linksSafe_composition {spec : SpecOrPattern} {page : RenderedPage}
    (h : renderComposition root styles spec = .ok page) :
    page.LinksSafe ↔ ∀ data, resolvePatternData root spec = .ok data →
      data.patternId = js "outcome-cta" → ContactLinkSafe data.props := by
  unfold renderComposition at h
  obtain ⟨data, hdata, h⟩ := bind_ok h
  dsimp only at h
  split at h
  · cases h
  · obtain ⟨slots, -, h⟩ := bind_ok h
    obtain ⟨tokenCss, -, h⟩ := bind_ok h
    obtain ⟨fragment, hfragment, h⟩ := bind_ok h
    obtain ⟨-, -, h⟩ := bind_ok h
    obtain rfl := Except.ok.inj h
    have hlinks := linksSafe_renderPattern hfragment
    constructor
    · intro hsafe data' hdata'
      obtain rfl := Except.ok.inj (hdata.symm.trans hdata')
      exact hlinks.1 (hsafe _ (List.mem_singleton_self _))
    · intro hcontact rendered hrendered
      rw [List.mem_singleton.1 hrendered]
      exact hlinks.2 (hcontact data hdata)

/-- A node whose links decide is an `outcome-cta`. -/
def NodeContactSafe (node : CompositionNode) : Prop :=
  node.targetKind = some (js "pattern") → node.targetId = some (js "outcome-cta") →
    ContactLinkSafe (readCompositionProps node.props)

/-- What becomes of a node of a page. -/
theorem linksSafe_node {spec : CompositionSpec} {node : CompositionNode} {index : ℕ}
    {result : RenderedSection ⊕ JsString × JsString}
    (h : renderNode root spec node index = .ok result) :
    (∀ rendered ∈ result.getLeft?, LinksSafe rendered.fragment) ↔ NodeContactSafe node := by
  unfold renderNode at h
  dsimp only at h
  split at h
  · rename_i hasset
    obtain rfl := Except.ok.inj h
    refine iff_of_true nofun fun hpattern => ?_
    rw [hasset] at hpattern
    exact absurd hpattern (by decide)
  split at h
  · cases h
  rename_i hkind
  split at h
  · cases h
  · rename_i patternId hid
    have hpattern := (Option.filter_eq_some_iff.1 hid).1
    split at h
    · rename_i hunregistered
      obtain rfl := Except.ok.inj h
      refine iff_of_true nofun fun _ hcta => ?_
      rw [hpattern] at hcta
      have hregistered : hasPatternComponent root (js "outcome-cta") = true := rfl
      rw [Option.some.inj hcta, hregistered] at hunregistered
      cases hunregistered
    · cases h
    · cases h
    · obtain ⟨slots, -, h⟩ := bind_ok h
      obtain ⟨fragment, hfragment, h⟩ := bind_ok h
      obtain rfl := Except.ok.inj h
      have hlinks := linksSafe_renderPattern hfragment
      constructor
      · intro hsafe _ hcta
        exact hlinks.1 (hsafe _ rfl) (Option.some.inj (hpattern.symm.trans hcta))
      · intro hcontact rendered hrendered
        obtain rfl := Option.some.inj hrendered
        exact hlinks.2 fun hcta => hcontact (not_not.1 hkind) (by rw [hpattern, hcta])

/-- All nodes of a page. -/
theorem linksSafe_nodes {spec : CompositionSpec} {nodes : List (CompositionNode × ℕ)}
    {results : List (RenderedSection ⊕ JsString × JsString)}
    (h : renderNodes root spec nodes = .ok results) :
    (∀ rendered ∈ results.filterMap Sum.getLeft?, LinksSafe rendered.fragment) ↔
      ∀ node ∈ nodes, NodeContactSafe node.1 := by
  induction nodes generalizing results with
  | nil =>
    obtain rfl := Except.ok.inj h
    exact iff_of_true nofun nofun
  | cons node rest ih =>
    obtain ⟨node, index⟩ := node
    rw [renderNodes] at h
    obtain ⟨first, hfirst, h⟩ := bind_ok h
    obtain ⟨others, hothers, h⟩ := bind_ok h
    obtain rfl := Except.ok.inj h
    rw [List.forall_mem_cons, ← ih hothers, ← linksSafe_node hfirst]
    cases first with
    | inl rendered => simp
    | inr skipped => simp

/-- What holds of the nodes with their places holds of the nodes. -/
theorem forall_mem_zipIdx {α : Type} {P : α → Prop} (l : List α) :
    (∀ entry ∈ l.zipIdx, P entry.1) ↔ ∀ x ∈ l, P x := by
  constructor
  · intro h x hx
    obtain ⟨index, hindex⟩ := List.mem_iff_getElem?.1 hx
    refine h (x, index) (List.mem_iff_getElem?.2 ⟨index, ?_⟩)
    rw [List.getElem?_zipIdx, hindex, Option.map_some, Nat.zero_add]
  · intro h entry hentry
    exact h entry.1 (List.fst_mem_of_mem_zipIdx hentry)

/-- The page of all nodes. -/
theorem linksSafe_page {spec : CompositionSpec} {page : RenderedPage}
    (h : renderCompositionPage root styles spec = .ok page) :
    page.LinksSafe ↔ ∀ node ∈ spec.nodes, NodeContactSafe node := by
  unfold renderCompositionPage at h
  obtain ⟨lang, -, h⟩ := bind_ok h
  obtain ⟨tokenCss, -, h⟩ := bind_ok h
  obtain ⟨nodes, hnodes, h⟩ := bind_ok h
  dsimp only at h
  have hlinks := linksSafe_nodes hnodes
  split at h
  · cases h
  · rename_i first rest hsections
    obtain ⟨-, -, h⟩ := bind_ok h
    obtain rfl := Except.ok.inj h
    exact hlinks.trans (forall_mem_zipIdx spec.nodes)

/-- **Every rendered link is safe**, for each accepted specification, if and only if every
`outcome-cta` that is rendered with a contact phone has a safe `contact_phone_href`. -/
theorem rendered_links_safe_iff (root : PdosRoot) (styles : Styles) :
    (∀ spec page, renderComposition root styles spec = .ok page →
      (page.LinksSafe ↔ ∀ data, resolvePatternData root spec = .ok data →
        data.patternId = js "outcome-cta" → ContactLinkSafe data.props)) ∧
    ∀ spec page, renderCompositionPage root styles spec = .ok page →
      (page.LinksSafe ↔ ∀ node ∈ spec.nodes, NodeContactSafe node) :=
  ⟨fun _ _ h => linksSafe_composition h, fun _ _ h => linksSafe_page h⟩

end pages

/-! ## A closing section -/

section sample

/-- The color tokens of a page, in black and white. -/
def blackOnWhite : List (JsString × TokenTree) :=
  [("background", "#ffffff"), ("surface", "#ffffff"), ("text", "#000000"),
    ("muted_text", "#000000"), ("accent", "#000000"), ("accent_secondary", "#000000"),
    ("accent_text", "#ffffff")].map fun token =>
      (js token.1, .primitive (.string (js token.2)))

/-- The contrast gate, where every color is black or white. -/
def blackOnWhiteContrast (rootVars : JsString → Option JsString) : Except RenderError Unit :=
  if ["background", "surface", "accent-text"].all (fun name =>
      rootVars (js "color-" ++ js name) = some (js "#ffffff")) &&
    ["text", "muted-text", "accent", "accent-secondary"].all (fun name =>
      rootVars (js "color-" ++ js name) = some (js "#000000")) then .ok ()
  else .error (.spec "token_color_contrast_below_aa" (js "Rendered color pair is below 4.5."))

/-- The contract of `outcome-cta`. -/
def outcomeCtaContract : ComponentContract where
  id := js "pattern-outcome-cta"
  targetKind := .pattern
  targetId := js "outcome-cta"
  props := [⟨js "outcome_statement", true, some 8⟩, ⟨js "cta_label", true, some 3⟩,
    ⟨js "cta_variant", false, some 0⟩]
  slots := [⟨js "proof_context", true, some 1, some 1, [], [js "proof-led-section"]⟩]

def outcomeCtaRoot : PdosRoot where
  contracts := [outcomeCtaContract]
  assets := []
  catalog := []
  sources := fun _ => .missing
  tokenFiles := [⟨js "color", blackOnWhite⟩]
  toLowerCase := asciiLower
  angles := ⟨fun _ => none, fun text => ⟨js "0", by decide, List.all_eq_true.1 (by decide)⟩⟩
  checks := ⟨fun _ _ _ => none, fun _ => none, fun _ => false, fun _ _ _ _ => []⟩
  contrast := blackOnWhiteContrast

/-- A closing section with a contact phone and its link. -/
def closingSpec (phoneHref : String) : CompositionSpec where
  nodes := [{
    targetKind := js "pattern"
    targetId := js "outcome-cta"
    props := some
      [{ name := js "outcome_statement", stringValue := js "Start today" },
        { name := js "cta_label", stringValue := js "Call" },
        { name := js "contact_phone", stringValue := js "1" },
        { name := js "contact_phone_href", stringValue := js phoneHref }]
    slotFills := [⟨js "proof_context",
      [{ targetKind := js "pattern", targetId := js "proof-led-section" }]⟩] }]

def plainStyles : Styles := ⟨[], fun _ => []⟩

theorem exists_of_toBool {ε α : Type} {r : Except ε α} (h : r.toBool = true) :
    ∃ a, r = .ok a := by
  cases r with
  | error error => cases h
  | ok a => exact ⟨a, rfl⟩

/-- With a phone link the pages are rendered, with their links safe. -/
theorem rendered_links_safe_sample :
    (∃ page, renderComposition outcomeCtaRoot plainStyles
      (.composition (closingSpec "tel:+420123456789")) = .ok page ∧ page.LinksSafe) ∧
    ∃ page, renderCompositionPage outcomeCtaRoot plainStyles
      (closingSpec "tel:+420123456789") = .ok page ∧ page.LinksSafe := by
  obtain ⟨section', hsection⟩ := exists_of_toBool
    (r := renderComposition outcomeCtaRoot plainStyles
      (.composition (closingSpec "tel:+420123456789"))) (by decide +kernel)
  obtain ⟨page, hpage⟩ := exists_of_toBool
    (r := renderCompositionPage outcomeCtaRoot plainStyles
      (closingSpec "tel:+420123456789")) (by decide +kernel)
  have hsafe := rendered_links_safe_iff outcomeCtaRoot plainStyles
  refine ⟨⟨section', hsection, (hsafe.1 _ _ hsection).2 fun data hdata _ => ?_⟩,
    page, hpage, (hsafe.2 _ _ hpage).2 fun node hnode _ _ => ?_⟩
  · obtain rfl := Except.ok.inj hdata
    exact .inr (by decide)
  · rw [List.mem_singleton.1 hnode]
    exact .inr (by decide)

/-- The phone link of `outcome-cta` is written whatever it is. -/
theorem outcome_cta_writes_javascript_link :
    isSafeHref (js "javascript:alert(1)") = false ∧
    (∃ page, renderComposition outcomeCtaRoot plainStyles
      (.composition (closingSpec "javascript:alert(1)")) = .ok page ∧ ¬page.LinksSafe) ∧
    ∃ page, renderCompositionPage outcomeCtaRoot plainStyles
      (closingSpec "javascript:alert(1)") = .ok page ∧ ¬page.LinksSafe := by
  obtain ⟨section', hsection⟩ := exists_of_toBool
    (r := renderComposition outcomeCtaRoot plainStyles
      (.composition (closingSpec "javascript:alert(1)"))) (by decide +kernel)
  obtain ⟨page, hpage⟩ := exists_of_toBool
    (r := renderCompositionPage outcomeCtaRoot plainStyles
      (closingSpec "javascript:alert(1)")) (by decide +kernel)
  have hunsafe : ¬ContactLinkSafe (readCompositionProps
      ((closingSpec "javascript:alert(1)").nodes.head?.bind (·.props))) := by decide
  refine ⟨by decide, ⟨section', hsection, fun hsafe => hunsafe ?_⟩, page, hpage,
    fun hsafe => hunsafe ?_⟩
  · exact (linksSafe_composition hsection).1 hsafe _ rfl rfl
  · exact (linksSafe_page hpage).1 hsafe _ (List.mem_singleton_self _) rfl rfl

end sample

end Autopilot.RenderComposition
