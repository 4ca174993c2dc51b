/-
How recipes, patterns and assets are scored for a project.

Each candidate gets a score from the route of the project, the patterns also from the recipe that
comes first. The candidates of a kind are ranked, and as many as the limit says are selected. Where
it is enforced, only patterns that the first recipe allows are.

This module is `score-product-design-os.ts` behind the reading of the manifests. Ratings are
integers, the levels of a route rationals. How a number is printed is a parameter.
-/
import Autopilot.Lib.Keyed
import Autopilot.Lib.Ranking
import Autopilot.TokenCss
import Mathlib.Algebra.Order.Field.Rat
import Mathlib.Data.Rat.Floor

set_option autoImplicit false

namespace Autopilot
namespace ScoreReports

open Ranking (Before notBehind ranked)
open TokenCss (joinedBy)

/-! ## Candidates -/

/-- `PdosIntakeRoute`, the fields that are read. -/
structure IntakeRoute where
  projectType : JsString
  selectedRecipe : JsString
  logicPriority : ℚ
  designPriority : ℚ
  motionLevel : ℚ
  riskLevel : JsString
  stopConditions : List JsString

/-- `PdosRecipeCandidate`, the fields that are read. -/
structure RecipeCandidate where
  id : JsString
  projectTypes : List JsString
  logicPriority : ℤ
  designPriority : ℤ
  motionLevel : ℤ
  allowedPatterns : Option (List JsString)
  allowedPatternIds : Option (List JsString)
  stopConditions : Option (List JsString)

/-- `PdosPatternCandidate`, the fields that are read. -/
structure PatternCandidate where
  id : JsString
  type : JsString
  useCase : List JsString
  badFor : List JsString
  complexity : ℤ
  usability : ℤ
  mobileQuality : ℤ

/-- `PdosAssetCandidate`, the fields that are read. -/
structure AssetCandidate where
  id : JsString
  type : JsString
  style : List JsString
  useCase : List JsString
  creativity : ℤ
  trust : ℤ
  motionLevel : ℤ
  performanceCost : ℤ
  mobileSafe : Bool
  dependencyIds : Option (List JsString)
  dependencyTags : Option (List JsString)
  templateRisk : ℤ

/-- `PdosScoredItem`. -/
@[ext] structure ScoredItem where
  id : JsString
  score : ℚ
  selected : Bool
  reasons : List JsString
  penalties : List JsString
  deriving DecidableEq

/-- Items of the three kinds. -/
@[ext] structure ScoredKinds where
  recipes : List ScoredItem
  patterns : List ScoredItem
  assets : List ScoredItem

/-- `PdosScoreReport`. -/
structure ScoreReport where
  route : IntakeRoute
  selected : ScoredKinds
  rejected : ScoredKinds
  warnings : List JsString
  formula : JsString
  reportMarkdown : JsString

/-- `SCORE_FORMULA`. -/
def scoreFormula : JsString :=
  js "score = purpose_fit*3 + target_fit*3 + logic_fit*3 + usability*3 + taste_match*2 + " ++
    js "accessibility*2 + mobile_fit*2 - performance_cost*2 - implementation_complexity - " ++
    js "template_risk*4 - style_conflict*3"

/-- `ALLOWED_PATTERN_BONUS`. -/
def allowedPatternBonus : ℚ := 18

/-- `Math.round`: a half is rounded up. -/
def mathRound (x : ℚ) : ℚ := ⌊x + 1 / 2⌋

/-- `distanceFit`. -/
def distanceFit (candidate target : ℚ) : ℚ := max 0 (10 - |candidate - target|)

/-- `sharedCount`. -/
def sharedCount (first second : List JsString) : ℕ := (first.filter (· ∈ second)).length

/-- A text that is there under a condition. -/
def textIf (condition : Bool) (text : JsString) : List JsString := if condition then [text] else []

/-- `resolveAllowedPatternIds`. -/
def resolveAllowedPatternIds (recipe : RecipeCandidate) : List JsString :=
  let ids := recipe.allowedPatterns.getD [] ++ recipe.allowedPatternIds.getD []
  -- a set keeps the first of equal members
  ids.reverse.dedup.reverse

/-- `Number.isInteger(value)`, with the integer that it is. -/
def integer? : JsNumber → Option ℤ
  | .finite m k => if m % 2 ^ k = 0 then some (m / 2 ^ k) else none
  | _ => none

/-- `clampLimit`. -/
def clampLimit (value : Option JsNumber) : ℕ :=
  match value.bind integer? with
  | none => 3
  | some value => (max 1 (min 10 value)).toNat

/-! ## Scores -/

section scores

variable (numberText : ℚ → JsString) (route : IntakeRoute)

/-- `scoreRecipe`. -/
def scoreRecipe (recipe : RecipeCandidate) : ScoredItem :=
  let supported := decide (route.projectType ∈ recipe.projectTypes)
  let projectFit : ℚ := if supported then 10 else 2
  let logicFit := distanceFit recipe.logicPriority route.logicPriority
  let designFit := distanceFit recipe.designPriority route.designPriority
  let motionFit := distanceFit recipe.motionLevel route.motionLevel
  let stopPenalty : ℚ := sharedCount (recipe.stopConditions.getD []) route.stopConditions * 8
  { id := recipe.id
    score := projectFit * 4 + logicFit * 2 + designFit * 2 + motionFit * 2 - stopPenalty
    selected := false
    reasons :=
      [js "Project type " ++ route.projectType ++
          (if supported then js " is supported." else js " is not a primary fit."),
        js "Logic/design/motion fit: " ++ numberText logicFit ++ js "/" ++ numberText designFit ++
          js "/" ++ numberText motionFit ++ js "."]
    penalties := textIf (0 < stopPenalty)
      (js "Recipe stop conditions overlap with unresolved route stop conditions.") }

/-- `scoredRecipes[0]?.id ?? route.selected_recipe`. -/
def topRecipeId (scoredRecipes : List ScoredItem) : JsString :=
  (scoredRecipes.head?.map fun item => item.id).getD route.selectedRecipe

/-- The text that says what a candidate was compared with. -/
def comparedText (scoredRecipes : List ScoredItem) : JsString :=
  js "Compared against route " ++ route.projectType ++ js " and recipe " ++
    topRecipeId route scoredRecipes ++ js "."

/-- `scorePattern`. -/
def scorePattern (scoredRecipes : List ScoredItem) (allowedPatternIds : List JsString)
    (pattern : PatternCandidate) : ScoredItem :=
  let fits := decide (route.projectType ∈ pattern.useCase)
  let purposeFit : ℚ := if fits then 10 else 3
  let blockedByUseCase := decide (route.projectType ∈ pattern.badFor)
  let isMotion := decide (pattern.type = js "motion_pattern")
  let logicFit : ℚ := if 7 ≤ route.logicPriority ∧ !isMotion then 8 else 5
  let bonus := if pattern.id ∈ allowedPatternIds then allowedPatternBonus else 0
  let motionIntentBonus := if isMotion then mathRound (route.motionLevel * (3 / 2)) else 0
  let complexityRelief :=
    if 7 ≤ route.designPriority then mathRound (pattern.complexity * (1 / 2)) else 0
  { id := pattern.id
    score := purposeFit * 3 + logicFit * 3 + pattern.usability * 3 + pattern.mobileQuality * 2 -
      pattern.complexity - (if blockedByUseCase then 30 else 0) + bonus + motionIntentBonus +
      complexityRelief
    selected := false
    reasons :=
      [comparedText route scoredRecipes,
        if fits then js "Pattern use_case matches project type."
        else js "Pattern use_case is not an exact match.",
        js "Usability/mobile quality: " ++ numberText pattern.usability ++ js "/" ++
          numberText pattern.mobileQuality ++ js "."] ++
      textIf (0 < bonus) (js "Pattern is preferred by the top recipe.") ++
      textIf (0 < motionIntentBonus) (js "Motion intent prior applied.")
    penalties :=
      textIf blockedByUseCase (js "Pattern bad_for includes the route project type.") ++
      textIf (8 ≤ pattern.complexity) (js "High implementation complexity.") }

/-- `inferTasteMatch`. -/
def inferTasteMatch (asset : AssetCandidate) : ℚ :=
  let creative := asset.style.any (· ∈ [js "editorial", js "playful", js "motion", js "creative"])
  let generic := asset.style.any (· ∈ [js "generic", js "saas-gradient", js "dark-neon"])
  if generic then 1 else if 7 ≤ route.designPriority ∧ creative then 9 else 6

/-- `inferStyleConflict`. -/
def inferStyleConflict (asset : AssetCandidate) : ℚ :=
  if 8 ≤ route.logicPriority ∧ 7 ≤ asset.motionLevel then 5
  else if route.motionLevel ≤ 2 ∧ asset.type = js "3d" then 7
  else 0

/-- `inferImplementationComplexity`. -/
def inferImplementationComplexity (asset : AssetCandidate) : ℚ :=
  ((asset.dependencyIds.getD []).length + (asset.dependencyTags.getD []).length : ℕ) +
    (if asset.type = js "3d" then 5 else 0) + (if 7 ≤ asset.motionLevel then 2 else 0)

/-- `scoreAsset`. -/
def scoreAsset (scoredRecipes : List ScoredItem) (asset : AssetCandidate) : ScoredItem :=
  let fits := decide (route.projectType ∈ asset.useCase)
  let purposeFit : ℚ := if fits then 10 else 3
  let targetFit : ℚ := if 7 ≤ route.designPriority then asset.creativity else asset.trust
  let logicFit : ℚ := if 7 ≤ route.logicPriority ∧ asset.type = js "layout" then 8 else 5
  let usability : ℚ :=
    if 7 ≤ route.designPriority then max (asset.creativity : ℚ) asset.trust else asset.trust
  let tasteMatch := inferTasteMatch route asset
  let accessibility : ℚ := if asset.mobileSafe then 8 else 3
  let mobileFit : ℚ := if asset.mobileSafe then 10 else 2
  let styleConflict := inferStyleConflict route asset
  { id := asset.id
    score := purposeFit * 3 + targetFit * 3 + logicFit * 3 + usability * 3 + tasteMatch * 2 +
      accessibility * 2 + mobileFit * 2 - asset.performanceCost * 2 -
      inferImplementationComplexity asset - asset.templateRisk * 4 - styleConflict * 3
    selected := false
    reasons :=
      [comparedText route scoredRecipes,
        if fits then js "Asset use_case matches project type."
        else js "Asset use_case is not an exact match.",
        js "Creativity/trust/motion: " ++ numberText asset.creativity ++ js "/" ++
          numberText asset.trust ++ js "/" ++ numberText asset.motionLevel ++ js "."]
    penalties :=
      textIf (!asset.mobileSafe) (js "Asset is not mobile safe.") ++
      textIf (7 ≤ asset.performanceCost) (js "High performance cost.") ++
      textIf (6 ≤ asset.templateRisk) (js "High template-risk score.") ++
      textIf (0 < styleConflict) (js "Asset style conflicts with route priorities.") }

end scores

/-! ## Ranks -/

/-- The comparison of `rankItems`: by descending score, then by id. -/
def compareItems (first second : ScoredItem) : ℚ :=
  if second.score - first.score ≠ 0 then second.score - first.score
  else if first.id < second.id then -1
  else if second.id < first.id then 1
  else 0

/-- `{ ...item, selected: index === 0 }`. -/
def flagFirst (items : List ScoredItem) : List ScoredItem :=
  items.mapIdx fun index item => { item with selected := index == 0 }

/-- `rankItems`. -/
def rankItems (items : List ScoredItem) : List ScoredItem :=
  flagFirst (items.mergeSort fun first second => compareItems first second ≤ 0)

/-- `applyAllowedPatternGate`. -/
def applyAllowedPatternGate (rankedPatterns : List ScoredItem) (allowedIds : List JsString)
    (limit : ℕ) : List ScoredItem :=
  flagFirst ((rankedPatterns.filter (·.id ∈ allowedIds)).take limit)

/-! ## Markdown -/

section markdown

variable (numberText : ℚ → JsString)

/-- `formatItems`. -/
def formatItems (items : List ScoredItem) (fallback : JsString) : List JsString :=
  if items.length = 0 then [js "- " ++ fallback]
  else items.flatMap fun item =>
    [js "- " ++ item.id ++ js ": " ++ numberText item.score] ++
      (item.reasons.map fun reason => js "  - " ++ reason) ++
      item.penalties.map fun penalty => js "  - Penalty: " ++ penalty

/-- `formatWarnings`. -/
def formatWarnings (warnings : List JsString) : List JsString :=
  if warnings.length = 0 then [js "- None."] else warnings.map fun warning => js "- " ++ warning

/-- `buildScoreMarkdown`. -/
def buildScoreMarkdown (route : IntakeRoute) (selected rejected : ScoredKinds)
    (warnings : List JsString) : JsString :=
  joinedBy (js "\n")
    ([js "# Product & Design OS Score Report", [], js "## Route",
        js "- Project type: " ++ route.projectType,
        js "- Selected route recipe: " ++ route.selectedRecipe,
        js "- Logic/design/motion: " ++ numberText route.logicPriority ++ js "/" ++
          numberText route.designPriority ++ js "/" ++ numberText route.motionLevel,
        js "- Risk level: " ++ route.riskLevel, [], js "## Formula", js "- " ++ scoreFormula, [],
        js "## Selected Recipes"] ++
      formatItems numberText selected.recipes (js "None.") ++
      [js "## Rejected Recipes"] ++
      formatItems numberText rejected.recipes (js "No rejected recipe candidates.") ++
      [js "## Selected Patterns"] ++
      formatItems numberText selected.patterns
        (js "No pattern candidates are registered yet.") ++
      [js "## Rejected Patterns"] ++
      formatItems numberText rejected.patterns (js "No rejected pattern candidates.") ++
      [js "## Selected Assets"] ++
      formatItems numberText selected.assets (js "No asset candidates are registered yet.") ++
      [js "## Rejected Assets"] ++
      formatItems numberText rejected.assets (js "No rejected asset candidates.") ++
      [js "## Warnings"] ++ formatWarnings warnings)

end markdown

/-! ## Reports -/

/-- `PdosScoreInput`, with the manifests read, and whether `PDOS_ENFORCE_ALLOWED_PATTERNS` is on. -/
structure ScoreInput where
  route : IntakeRoute
  recipes : List RecipeCandidate
  patterns : List PatternCandidate
  assets : List AssetCandidate
  limit : Option JsNumber
  enforced : Bool

section report

variable (numberText : ℚ → JsString) (input : ScoreInput)

/-- `scoredRecipes`. -/
def scoredRecipes : List ScoredItem :=
  rankItems (input.recipes.map (scoreRecipe numberText input.route))

/-- `topRecipe`. -/
def topRecipe : Option RecipeCandidate :=
  input.recipes.find? fun recipe =>
    ((scoredRecipes numberText input).head?.map fun item => item.id) = some recipe.id

/-- `allowedPatternIds`. -/
def allowedPatternIds : List JsString :=
  ((topRecipe numberText input).map resolveAllowedPatternIds).getD []

/-- The patterns with their scores. -/
def patternItems : List ScoredItem :=
  input.patterns.map (scorePattern numberText input.route (scoredRecipes numberText input)
    (allowedPatternIds numberText input))

/-- `scoredPatterns`. -/
def scoredPatterns : List ScoredItem := rankItems (patternItems numberText input)

/-- The assets with their scores. -/
def assetItems : List ScoredItem :=
  input.assets.map (scoreAsset numberText input.route (scoredRecipes numberText input))

/-- `scoredAssets`. -/
def scoredAssets : List ScoredItem := rankItems (assetItems numberText input)

/-- `warnings`. -/
def warnings : List JsString :=
  textIf (input.patterns.length = 0) (js "pattern_manifest_empty") ++
    textIf (input.assets.length = 0) (js "asset_manifest_empty")

/-- The patterns that are selected and rejected: those of `buildAllowedPatternEnforcedReport` where
it is enforced. -/
def splitPatterns : List ScoredItem × List ScoredItem :=
  let scored := scoredPatterns numberText input
  let limit := clampLimit input.limit
  if input.enforced ∧ (topRecipe numberText input).isSome then
    let gated := applyAllowedPatternGate scored (allowedPatternIds numberText input) limit
    let gatedPatternIds := gated.map fun item => item.id
    (gated, (scored.filter fun item => item.id ∉ gatedPatternIds).map fun item =>
      { item with selected := false })
  else (scored.take limit, scored.drop limit)

/-- `scoreProductDesignOs`. -/
def scoreProductDesignOs : ScoreReport :=
  let limit := clampLimit input.limit
  let patterns := splitPatterns numberText input
  let selected : ScoredKinds :=
    ⟨(scoredRecipes numberText input).take limit, patterns.1,
      (scoredAssets numberText input).take limit⟩
  let rejected : ScoredKinds :=
    ⟨(scoredRecipes numberText input).drop limit, patterns.2,
      (scoredAssets numberText input).drop limit⟩
  { route := input.route
    selected
    rejected
    warnings := warnings input
    formula := scoreFormula
    reportMarkdown := buildScoreMarkdown numberText input.route selected rejected (warnings input) }

end report

/-! ## What a report holds -/

/-- An item without its mark. -/
def ScoredItem.unmarked (item : ScoredItem) : ScoredItem := { item with selected := false }

/-- Ranked before: the higher score, or the same and the smaller id. -/
abbrev RankedBefore : ScoredItem → ScoredItem → Prop :=
  Before (fun item => item.score) (fun item => item.id)

/-- No two candidates of a kind have one id. -/
structure ScoreInput.Distinct (input : ScoreInput) : Prop where
  recipes : (input.recipes.map fun recipe => recipe.id).Nodup
  patterns : (input.patterns.map fun pattern => pattern.id).Nodup
  assets : (input.assets.map fun asset => asset.id).Nodup

/-- The same input, with its candidates in another order. -/
structure ScoreInput.Reordered (input other : ScoreInput) : Prop where
  route : other.route = input.route
  recipes : input.recipes.Perm other.recipes
  patterns : input.patterns.Perm other.patterns
  assets : input.assets.Perm other.assets
  limit : other.limit = input.limit
  enforced : other.enforced = input.enforced

/-- The selected and the rejected items are the candidates, each of them once. -/
def Complete (candidates selected rejected : List ScoredItem) : Prop :=
  ((selected ++ rejected).map ScoredItem.unmarked).Perm candidates

/-- The recipe whose score is ranked before all others. -/
def IsTopRecipe (numberText : ℚ → JsString) (input : ScoreInput) (top : RecipeCandidate) : Prop :=
  top ∈ input.recipes ∧ ∀ recipe ∈ input.recipes, recipe = top ∨
    RankedBefore (scoreRecipe numberText input.route top)
      (scoreRecipe numberText input.route recipe)

section ranks

theorem compareItems_le_iff (first second : ScoredItem) :
    compareItems first second ≤ 0 ↔
      second.score < first.score ∨ (first.score = second.score ∧ first.id ≤ second.id) := by
  unfold compareItems
  by_cases hscore : second.score - first.score ≠ 0
  · have hne : first.score ≠ second.score := fun h => hscore (sub_eq_zero.2 h.symm)
    rw [if_pos hscore, sub_nonpos]
    exact ⟨fun h => .inl (lt_of_le_of_ne h hne.symm),
      fun h => h.elim le_of_lt fun heq => absurd heq.1 hne⟩
  · rw [not_not, sub_eq_zero] at hscore
    rw [if_neg (by rw [not_not, sub_eq_zero]; exact hscore)]
    have hid : ((if first.id < second.id then -1 else if second.id < first.id then 1 else 0 : ℚ)
        ≤ 0) ↔ first.id ≤ second.id := by
      split
      · rename_i h
        exact ⟨fun _ => Std.le_of_lt h, fun _ => by decide⟩
      · rename_i hnot
        split
        · rename_i h
          exact ⟨fun hle => absurd hle (by decide), fun hle => absurd h (Std.not_lt.2 hle)⟩
        · rename_i h
          exact ⟨fun _ => Std.not_lt.1 h, fun _ => le_rfl⟩
    rw [hid]
    exact ⟨fun h => .inr ⟨hscore.symm, h⟩,
      fun h => h.elim (fun hlt => absurd hlt (hscore ▸ lt_irrefl _)) And.right⟩

/-- The ranking of the code. -/
theorem rankItems_eq (items : List ScoredItem) :
    rankItems items = flagFirst (ranked (fun item => item.score) (fun item => item.id) items) := by
  have hcompare : (fun first second : ScoredItem => decide (compareItems first second ≤ 0)) =
      notBehind (fun item => item.score) (fun item => item.id) := by
    funext first second
    unfold notBehind
    exact decide_eq_decide.2 (compareItems_le_iff first second)
  unfold rankItems ranked
  rw [hcompare]

/-- The mark is all that `flagFirst` changes. -/
theorem map_flagFirst {α : Type} (f : ScoredItem → α)
    (hf : ∀ item selected, f { item with selected } = f item) (items : List ScoredItem) :
    (flagFirst items).map f = items.map f := by
  refine List.ext_getElem ?_ fun i h₁ h₂ => ?_
  · simp [flagFirst]
  · simp [flagFirst, hf]

theorem map_unmarked_flagFirst (items : List ScoredItem) :
    (flagFirst items).map ScoredItem.unmarked = items.map ScoredItem.unmarked :=
  map_flagFirst _ (fun _ _ => rfl) items

theorem map_id_flagFirst (items : List ScoredItem) :
    (flagFirst items).map (fun item => item.id) = items.map fun item => item.id :=
  map_flagFirst _ (fun _ _ => rfl) items

theorem pairwise_map_unmarked (items : List ScoredItem) :
    (items.map ScoredItem.unmarked).Pairwise RankedBefore ↔ items.Pairwise RankedBefore := by
  rw [List.pairwise_map]
  rfl

/-- Lists that are the same but for their marks are ordered alike. -/
theorem pairwise_of_map_unmarked {items others : List ScoredItem}
    (h : items.map ScoredItem.unmarked = others.map ScoredItem.unmarked)
    (hothers : others.Pairwise RankedBefore) : items.Pairwise RankedBefore := by
  rw [← pairwise_map_unmarked, h]
  exact (pairwise_map_unmarked others).2 hothers

section items

variable {items items' : List ScoredItem} (hnd : (items.map fun item => item.id).Nodup)

include hnd

theorem rankItems_pairwise : (rankItems items).Pairwise RankedBefore := by
  rw [rankItems_eq]
  exact pairwise_of_map_unmarked (map_unmarked_flagFirst _) (Ranking.ranked_pairwise hnd)

theorem rankItems_eq_of_perm (h : items.Perm items') : rankItems items = rankItems items' := by
  rw [rankItems_eq, rankItems_eq, Ranking.ranked_eq_of_perm hnd h]

theorem rankItems_nodup : ((rankItems items).map fun item => item.id).Nodup := by
  rw [rankItems_eq, map_id_flagFirst]
  exact ((Ranking.ranked_perm items).map _).nodup_iff.2 hnd

end items

/-- The ranked items are the items. -/
theorem map_unmarked_rankItems {items : List ScoredItem}
    (hunmarked : ∀ item ∈ items, item.selected = false) :
    ((rankItems items).map ScoredItem.unmarked).Perm items := by
  have hitems : items.map ScoredItem.unmarked = items := by
    conv_rhs => rw [← List.map_id items]
    refine List.map_congr_left fun item hitem => ?_
    exact ScoredItem.ext rfl rfl (hunmarked item hitem).symm rfl rfl
  rw [rankItems_eq, map_unmarked_flagFirst]
  conv_rhs => rw [← hitems]
  exact (Ranking.ranked_perm items).map _

/-- As many as the limit says, and the others. -/
theorem complete_take_drop {items : List ScoredItem}
    (hunmarked : ∀ item ∈ items, item.selected = false) (limit : ℕ) :
    Complete items ((rankItems items).take limit) ((rankItems items).drop limit) := by
  unfold Complete
  rw [List.take_append_drop]
  exact map_unmarked_rankItems hunmarked

end ranks

section report

variable {numberText : ℚ → JsString} {input other : ScoreInput}

/-- What is in a list of a report that was ranked. -/
theorem id_mem_of_mem_flagFirst {items : List ScoredItem} {item : ScoredItem}
    (h : item ∈ flagFirst items) : ∃ source ∈ items, source.id = item.id := by
  have hid : item.id ∈ (flagFirst items).map fun item => item.id := List.mem_map_of_mem h
  rw [map_id_flagFirst] at hid
  exact List.mem_map.1 hid

theorem topRecipe_eq (numberText : ℚ → JsString) (input : ScoreInput) :
    topRecipe numberText input =
      ((scoredRecipes numberText input).head?.map fun item => item.id).bind
        (Keyed.lookup (fun recipe => recipe.id) input.recipes) := by
  unfold topRecipe
  cases (scoredRecipes numberText input).head? with
  | none => exact List.find?_eq_none.2 fun recipe _ h => (nomatch of_decide_eq_true h)
  | some item =>
    rw [Option.map_some, Option.bind_some]
    unfold Keyed.lookup
    congr 1
    funext recipe
    exact decide_eq_decide.2 ⟨fun h => (Option.some.inj h).symm, fun h => congrArg some h.symm⟩

theorem recipeItems_nodup (h : input.Distinct) :
    ((input.recipes.map (scoreRecipe numberText input.route)).map fun item => item.id).Nodup := by
  rw [List.map_map]
  exact h.recipes

theorem patternItems_nodup (h : input.Distinct) :
    ((patternItems numberText input).map fun item => item.id).Nodup := by
  unfold patternItems
  rw [List.map_map]
  exact h.patterns

theorem assetItems_nodup (h : input.Distinct) :
    ((assetItems numberText input).map fun item => item.id).Nodup := by
  unfold assetItems
  rw [List.map_map]
  exact h.assets

/-- The top recipe of the report is the one whose score is ranked first. -/
theorem topRecipe_of_isTopRecipe (h : input.Distinct) {top : RecipeCandidate}
    (htop : IsTopRecipe numberText input top) : topRecipe numberText input = some top := by
  have hmem : scoreRecipe numberText input.route top ∈
      input.recipes.map (scoreRecipe numberText input.route) := List.mem_map_of_mem htop.1
  have hids : ((scoredRecipes numberText input).head?.map fun item => item.id) =
      ((ranked (fun item : ScoredItem => item.score) (fun item => item.id)
        (input.recipes.map (scoreRecipe numberText input.route))).head?.map fun item =>
          item.id) := by
    unfold scoredRecipes
    rw [rankItems_eq, ← List.head?_map, ← List.head?_map, map_id_flagFirst]
  have hfirst : (ranked (fun item : ScoredItem => item.score) (fun item => item.id)
      (input.recipes.map (scoreRecipe numberText input.route))).head? =
        some (scoreRecipe numberText input.route top) := by
    cases hhead : (ranked (fun item : ScoredItem => item.score) (fun item => item.id)
        (input.recipes.map (scoreRecipe numberText input.route))).head? with
    | none =>
      rw [List.head?_eq_none_iff] at hhead
      exact absurd (Ranking.mem_ranked.2 hmem) (by rw [hhead]; exact List.not_mem_nil)
    | some first =>
      obtain ⟨recipe, hrecipe, rfl⟩ :=
        List.mem_map.1 (Ranking.mem_ranked.1 (List.mem_of_head? hhead))
      rcases Ranking.before_of_head (recipeItems_nodup h) hhead hmem with heq | hbefore
      · rw [heq]
      · rcases htop.2 recipe hrecipe with rfl | hafter
        · rfl
        · exact absurd hbefore hafter.asymm
  rw [topRecipe_eq, hids, hfirst, Option.map_some, Option.bind_some]
  exact Keyed.lookup_of_mem h.recipes htop.1

/-- What the gate lets through is a part of the ranking. -/
theorem gated_sublist (numberText : ℚ → JsString) (input : ScoreInput) (limit : ℕ) :
    (((scoredPatterns numberText input).filter (·.id ∈ allowedPatternIds numberText input)).take
      limit).Sublist (scoredPatterns numberText input) :=
  (List.take_sublist _ _).trans List.filter_sublist

/-- The selected patterns and the rejected ones are the patterns. -/
theorem splitPatterns_complete (h : input.Distinct) :
    Complete (patternItems numberText input) (splitPatterns numberText input).1
      (splitPatterns numberText input).2 := by
  have hunmarked : ∀ item ∈ patternItems numberText input, item.selected = false := by
    intro item hitem
    obtain ⟨pattern, -, rfl⟩ := List.mem_map.1 hitem
    rfl
  unfold splitPatterns
  dsimp only
  split
  · have hgated := gated_sublist numberText input (clampLimit input.limit)
    unfold Complete applyAllowedPatternGate
    rw [map_id_flagFirst, List.map_append, map_unmarked_flagFirst, List.map_map]
    refine List.Perm.trans ?_ (map_unmarked_rankItems hunmarked)
    have hsplit := (Keyed.append_filter_keys_perm hgated
      (rankItems_nodup (patternItems_nodup h)) fun _ => decide_eq_true_iff).map ScoredItem.unmarked
    rw [List.map_append] at hsplit
    exact hsplit
  · exact complete_take_drop hunmarked _

/-- The items of a report are in their order. -/
structure ScoredKinds.Ordered (kinds : ScoredKinds) : Prop where
  recipes : kinds.recipes.Pairwise RankedBefore
  patterns : kinds.patterns.Pairwise RankedBefore
  assets : kinds.assets.Pairwise RankedBefore

theorem splitPatterns_ordered (numberText : ℚ → JsString) (h : input.Distinct) :
    (splitPatterns numberText input).1.Pairwise RankedBefore ∧
      (splitPatterns numberText input).2.Pairwise RankedBefore := by
  have hranked : (scoredPatterns numberText input).Pairwise RankedBefore :=
    rankItems_pairwise (patternItems_nodup h)
  unfold splitPatterns
  dsimp only
  split
  · constructor
    · exact pairwise_of_map_unmarked (map_unmarked_flagFirst _)
        (hranked.sublist (gated_sublist numberText input _))
    · exact (pairwise_map_unmarked _).2 (hranked.sublist List.filter_sublist)
  · exact ⟨hranked.sublist (List.take_sublist _ _), hranked.sublist (List.drop_sublist _ _)⟩

/-- Where it is enforced, a selected pattern is one that the top recipe allows. -/
theorem splitPatterns_allowed (h : input.Distinct) (henforced : input.enforced = true)
    {top : RecipeCandidate} (htop : IsTopRecipe numberText input top) {item : ScoredItem}
    (hitem : item ∈ (splitPatterns numberText input).1) :
    item.id ∈ resolveAllowedPatternIds top := by
  have hrecipe := topRecipe_of_isTopRecipe h htop
  have hallowed : allowedPatternIds numberText input = resolveAllowedPatternIds top := by
    unfold allowedPatternIds
    rw [hrecipe]
    rfl
  unfold splitPatterns at hitem
  dsimp only at hitem
  rw [if_pos ⟨henforced, by rw [hrecipe]; rfl⟩, hallowed] at hitem
  obtain ⟨source, hsource, hid⟩ := id_mem_of_mem_flagFirst hitem
  rw [← hid]
  exact of_decide_eq_true (List.mem_filter.1 (List.mem_of_mem_take hsource)).2

/-- The order of the candidates does not matter. -/
theorem scoreProductDesignOs_reordered (numberText : ℚ → JsString) (h : input.Distinct)
    (hreordered : input.Reordered other) :
    scoreProductDesignOs numberText other = scoreProductDesignOs numberText input := by
  have hrecipes : scoredRecipes numberText other = scoredRecipes numberText input := by
    unfold scoredRecipes
    rw [hreordered.route]
    exact (rankItems_eq_of_perm (recipeItems_nodup h) (hreordered.recipes.map _)).symm
  have htop : topRecipe numberText other = topRecipe numberText input := by
    rw [topRecipe_eq, topRecipe_eq, hrecipes]
    exact congrArg _ (funext fun id => (Keyed.lookup_perm hreordered.recipes h.recipes id).symm)
  have hallowed : allowedPatternIds numberText other = allowedPatternIds numberText input := by
    unfold allowedPatternIds
    rw [htop]
  have hpatterns : scoredPatterns numberText other = scoredPatterns numberText input := by
    have hitems : (patternItems numberText input).Perm (patternItems numberText other) := by
      unfold patternItems
      rw [hrecipes, hallowed, hreordered.route]
      exact hreordered.patterns.map _
    exact (rankItems_eq_of_perm (patternItems_nodup h) hitems).symm
  have hassets : scoredAssets numberText other = scoredAssets numberText input := by
    have hitems : (assetItems numberText input).Perm (assetItems numberText other) := by
      unfold assetItems
      rw [hrecipes, hreordered.route]
      exact hreordered.assets.map _
    exact (rankItems_eq_of_perm (assetItems_nodup h) hitems).symm
  have hsplit : splitPatterns numberText other = splitPatterns numberText input := by
    unfold splitPatterns
    rw [hpatterns, htop, hallowed, hreordered.limit, hreordered.enforced]
  have hwarnings : warnings other = warnings input := by
    unfold warnings
    rw [hreordered.patterns.length_eq, hreordered.assets.length_eq]
  unfold scoreProductDesignOs
  rw [hrecipes, hassets, hsplit, hwarnings, hreordered.limit, hreordered.route]

end report

/-- What a report holds of each kind. -/
structure ReportsAll (numberText : ℚ → JsString) (input : ScoreInput) (report : ScoreReport) :
    Prop where
  recipes : Complete (input.recipes.map (scoreRecipe numberText input.route))
    report.selected.recipes report.rejected.recipes
  patterns : Complete (patternItems numberText input) report.selected.patterns
    report.rejected.patterns
  assets : Complete (assetItems numberText input) report.selected.assets report.rejected.assets
  selected : report.selected.Ordered
  rejected : report.rejected.Ordered
  allowed : input.enforced = true → ∀ top, IsTopRecipe numberText input top →
    ∀ item ∈ report.selected.patterns, item.id ∈ resolveAllowedPatternIds top

/-- **The report of distinct candidates** is the same in whatever order they come, and it holds
each of them once and in order, with no selected pattern that the top recipe does not allow where
that is enforced. -/
theorem scoreProductDesignOs_spec (numberText : ℚ → JsString) {input : ScoreInput}
    (h : input.Distinct) :
    (∀ other, input.Reordered other →
      scoreProductDesignOs numberText other = scoreProductDesignOs numberText input) ∧
    ReportsAll numberText input (scoreProductDesignOs numberText input) := by
  refine ⟨fun other => scoreProductDesignOs_reordered numberText h, ?_⟩
  have hrecipes : (scoredRecipes numberText input).Pairwise RankedBefore :=
    rankItems_pairwise (recipeItems_nodup h)
  have hassets : (scoredAssets numberText input).Pairwise RankedBefore :=
    rankItems_pairwise (assetItems_nodup h)
  have hpatterns := splitPatterns_ordered numberText h
  refine ⟨complete_take_drop ?_ _, splitPatterns_complete h, complete_take_drop ?_ _,
    ⟨hrecipes.sublist (List.take_sublist _ _), hpatterns.1,
      hassets.sublist (List.take_sublist _ _)⟩,
    ⟨hrecipes.sublist (List.drop_sublist _ _), hpatterns.2,
      hassets.sublist (List.drop_sublist _ _)⟩,
    fun henforced top htop item hitem => splitPatterns_allowed h henforced htop hitem⟩
  · intro item hitem
    obtain ⟨recipe, -, rfl⟩ := List.mem_map.1 hitem
    rfl
  · intro item hitem
    obtain ⟨asset, -, rfl⟩ := List.mem_map.1 hitem
    rfl

/-! ## A small input -/

/-- Two recipes of one score, two patterns and an asset. -/
def sampleInput (recipes : List RecipeCandidate) : ScoreInput where
  route := ⟨js "landing_page", js "default", 5, 5, 5, js "low", []⟩
  recipes
  patterns := [⟨js "hero", js "section", [js "landing_page"], [], 2, 8, 8⟩,
    ⟨js "grid", js "section", [], [], 2, 8, 8⟩]
  assets := [⟨js "photo", js "image", [], [], 5, 5, 1, 2, true, none, none, 1⟩]
  limit := none
  enforced := true

def sampleRecipe (id : JsString) (allowed : List JsString) : RecipeCandidate :=
  ⟨id, [js "landing_page"], 5, 5, 5, some allowed, none, none⟩

/-- The order of the two recipes does not matter, and there is a report. -/
theorem sampleInput_report :
    scoreProductDesignOs (fun _ => [])
        (sampleInput [sampleRecipe (js "b") [], sampleRecipe (js "a") [js "grid"]]) =
      scoreProductDesignOs (fun _ => [])
        (sampleInput [sampleRecipe (js "a") [js "grid"], sampleRecipe (js "b") []]) ∧
    ReportsAll (fun _ => [])
      (sampleInput [sampleRecipe (js "a") [js "grid"], sampleRecipe (js "b") []])
      (scoreProductDesignOs (fun _ => [])
        (sampleInput [sampleRecipe (js "a") [js "grid"], sampleRecipe (js "b") []])) := by
  have hspec := scoreProductDesignOs_spec (fun _ => [])
    (⟨by decide, by decide, by decide⟩ : (sampleInput
      [sampleRecipe (js "a") [js "grid"], sampleRecipe (js "b") []]).Distinct)
  exact ⟨hspec.1 _ ⟨rfl, List.Perm.swap _ _ _, List.Perm.refl _, List.Perm.refl _, rfl, rfl⟩,
    hspec.2⟩

end ScoreReports
end Autopilot
