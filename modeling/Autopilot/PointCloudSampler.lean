/-
Sampling an image (`sampler.ts`).

The pixels of an image are visited row by row, with a step. A pixel is masked, outside of the
shapes, thinned out by the weight of its region, or a candidate. Of the candidates those of the
lowest priority value are taken, until the target is reached, as long as no region they lie in has
used up its quota. The points that are taken are put back into the order of the rows.

Numbers are those of any type with the operations, so nothing here depends on how they are rounded.
-/
import Autopilot.PointCloudCodec
import Mathlib.Data.List.Sort

set_option autoImplicit false

namespace Autopilot
namespace PointClouds

open Collected (refuseIf)

/-! ## The options -/

/-- An integer that was checked. -/
abbrev Between (min max : ℕ) : Type := {n : ℕ // min ≤ n ∧ n ≤ max}

/-- `PointCloudRegion`, with numbers of a type and integers of another. -/
structure PointCloudRegion (K I : Type) where
  x : K
  y : K
  width : K
  height : K
  weight : Option K
  quota : Option I
  pointSize : Option I

/-- `PointCloudShapeMode`. -/
inductive PointCloudShapeMode where
  | include
  | exclude
  deriving DecidableEq

/-- `PointCloudShape`. -/
inductive PointCloudShape (K : Type) where
  | rect (mode : Option PointCloudShapeMode) (x y width height : K)
  | circle (mode : Option PointCloudShapeMode) (cx cy radius : K)

/-- `RgbaImage`. -/
structure RgbaImage where
  width : ℕ
  height : ℕ
  data : List UInt8

/-- `MAX_DEPTH_AMP`. -/
def maxDepthAmp : ℕ := 64

/-- `POINT_CLOUD_FACET_CEILING`. -/
abbrev pointCloudFacetCeiling : ℕ := 4000

/-- `POINT_CLOUD_EDGE_CEILING`. -/
abbrev pointCloudEdgeCeiling : ℕ := 18000

/-- `ImageToPointCloudOptions`, what the sampler reads of them. -/
structure ImageToPointCloudOptions (K : Type) where
  sampleStep : Option K
  alphaThreshold : Option K
  brightnessFloor : Option K
  depthAmp : Option K
  seed : Option JsString
  targetCount : Option K
  includeSizes : Option Bool
  facetCount : Option K
  edgeNeighbors : Option K
  maxEdges : Option K
  basePointSize : Option K
  histogramBuckets : Option K
  regions : Option (List (PointCloudRegion K K))
  shapes : Option (List (PointCloudShape K))

/-- `NormalizedOptions`. -/
structure NormalizedOptions (K : Type) where
  sampleStep : Between 1 maxSafeInteger
  alphaThreshold : K
  brightnessFloor : K
  depthAmp : K
  seed : JsString
  targetCount : Option (Between 0 maxSafeInteger)
  facetCount : Option (Between 1 pointCloudFacetCeiling)
  edgeNeighbors : Option (Between 0 3)
  maxEdges : Option (Between 0 pointCloudEdgeCeiling)
  includeSizes : Bool
  basePointSize : Between 1 255
  histogramBuckets : Between 1 256
  regions : List (PointCloudRegion K ℕ)
  shapes : List (PointCloudShape K)

section numbers

variable {K : Type} [Add K] [Sub K] [Mul K] [Div K] [LT K] [DecidableLT K] [LE K]
  [DecidableLE K] [Max K] [NatCast K] [OfScientific K]

section options

variable (integerOf : K → Option ℤ) (isFinite : K → Bool)

/-- `assertInteger`. -/
def assertInteger (name : JsString) (value : K) (min max : ℕ) : Except JsString (Between min max) :=
  let error := name ++ js " must be an integer between " ++ numberText min ++ js " and " ++
    numberText max
  match integerOf value with
  | none => .error error
  | some n => if h : (min : ℤ) ≤ n ∧ n ≤ max then .ok ⟨n.toNat, by omega⟩ else .error error

/-- `assertFiniteNumber`. -/
def assertFiniteNumber (name : JsString) (value : K) (min : ℕ) : Except JsString K := do
  refuseIf (!isFinite value || value < (min : K))
    (name ++ js " must be a finite number >= " ++ numberText min)
  return value

/-- `assertNumberRange`. -/
def assertNumberRange (name : JsString) (value : K) (min max : ℕ) : Except JsString K := do
  refuseIf (!isFinite value || value < (min : K) || (max : K) < value)
    (name ++ js " must be a finite number between " ++ numberText min ++ js " and " ++
      numberText max)
  return value

/-- `assertUnitRange`. -/
def assertUnitRange (name : JsString) (value : K) : Except JsString K :=
  assertNumberRange isFinite name value 0 1

/-- `validateRegions`, for the region at an index. -/
def validateRegion (index : ℕ) (region : PointCloudRegion K K) :
    Except JsString (PointCloudRegion K ℕ) := do
  let name := js "regions[" ++ numberText index ++ js "]"
  let x ← assertUnitRange isFinite (name ++ js ".x") region.x
  let y ← assertUnitRange isFinite (name ++ js ".y") region.y
  let width ← assertNumberRange isFinite (name ++ js ".width") region.width 0 1
  let height ← assertNumberRange isFinite (name ++ js ".height") region.height 0 1
  refuseIf (((1 : ℕ) : K) < x + width || ((1 : ℕ) : K) < y + height)
    (name ++ js " must fit within normalized image bounds")
  let weight ← region.weight.mapM fun weight =>
    assertFiniteNumber isFinite (name ++ js ".weight") weight 0
  let quota ← region.quota.mapM fun quota =>
    assertInteger integerOf (name ++ js ".quota") quota 0 maxSafeInteger
  let pointSize ← region.pointSize.mapM fun pointSize =>
    assertInteger integerOf (name ++ js ".pointSize") pointSize 1 255
  return { x, y, width, height, weight, quota := quota.map (·.1), pointSize := pointSize.map (·.1) }

/-- `validateShapes`, for the shape at an index. -/
def validateShape (index : ℕ) (shape : PointCloudShape K) :
    Except JsString (PointCloudShape K) := do
  let name := js "shapes[" ++ numberText index ++ js "]"
  match shape with
  | .rect _ x y width height =>
    let x ← assertUnitRange isFinite (name ++ js ".x") x
    let y ← assertUnitRange isFinite (name ++ js ".y") y
    let width ← assertNumberRange isFinite (name ++ js ".width") width 0 1
    let height ← assertNumberRange isFinite (name ++ js ".height") height 0 1
    refuseIf (((1 : ℕ) : K) < x + width || ((1 : ℕ) : K) < y + height)
      (name ++ js " must fit within normalized image bounds")
  | .circle _ cx cy radius =>
    let _ ← assertUnitRange isFinite (name ++ js ".cx") cx
    let _ ← assertUnitRange isFinite (name ++ js ".cy") cy
    let _ ← assertNumberRange isFinite (name ++ js ".radius") radius 0 1
  return shape

/-- `normalizeOptions`. -/
def normalizeOptions (options : ImageToPointCloudOptions K) :
    Except JsString (NormalizedOptions K) := do
  let natural (n : ℕ) : K := n
  let sampleStep ← assertInteger integerOf (js "sampleStep")
    (options.sampleStep.getD (natural 1)) 1 maxSafeInteger
  let alphaThreshold ← assertNumberRange isFinite (js "alphaThreshold")
    (options.alphaThreshold.getD (natural 1)) 0 255
  let brightnessFloor ← assertNumberRange isFinite (js "brightnessFloor")
    (options.brightnessFloor.getD (natural 0)) 0 1
  let depthAmp ← assertNumberRange isFinite (js "depthAmp")
    (options.depthAmp.getD (natural 1)) 0 maxDepthAmp
  let basePointSize ← assertInteger integerOf (js "basePointSize")
    (options.basePointSize.getD (natural 1)) 1 255
  let histogramBuckets ← assertInteger integerOf (js "histogramBuckets")
    (options.histogramBuckets.getD (natural 16)) 1 256
  let targetCount ← options.targetCount.mapM fun targetCount =>
    assertInteger integerOf (js "targetCount") targetCount 0 maxSafeInteger
  let facetCount ← options.facetCount.mapM fun facetCount =>
    assertInteger integerOf (js "facetCount") facetCount 1 pointCloudFacetCeiling
  let edgeNeighbors ← options.edgeNeighbors.mapM fun edgeNeighbors =>
    assertInteger integerOf (js "edgeNeighbors") edgeNeighbors 0 3
  let maxEdges ← options.maxEdges.mapM fun maxEdges =>
    assertInteger integerOf (js "maxEdges") maxEdges 0 pointCloudEdgeCeiling
  let regions ← (options.regions.getD []).zipIdx.mapM fun region =>
    validateRegion integerOf isFinite region.2 region.1
  let shapes ← (options.shapes.getD []).zipIdx.mapM fun shape =>
    validateShape isFinite shape.2 shape.1
  return {
    sampleStep, alphaThreshold, brightnessFloor, depthAmp,
    seed := options.seed.getD (js "image-point-cloud"),
    targetCount, facetCount, edgeNeighbors, maxEdges,
    includeSizes := options.includeSizes.getD false,
    basePointSize, histogramBuckets, regions, shapes
  }

end options

/-! ## The scan -/

/-- `CandidatePoint`. -/
structure CandidatePoint (K : Type) where
  pixelX : ℕ
  pixelY : ℕ
  positionX : K
  positionY : K
  positionZ : K
  red : UInt8
  green : UInt8
  blue : UInt8
  luma : K
  pointSize : ℕ
  hash : UInt32
  priority : K
  regionIndexes : List ℕ

/-- The place of a point among the pixels. -/
def CandidatePoint.place (candidate : CandidatePoint K) : ℕ × ℕ :=
  (candidate.pixelX, candidate.pixelY)

/-- One pixel comes before another in the order of the rows. -/
def Precedes (a b : ℕ × ℕ) : Prop := a.2 < b.2 ∨ a.2 = b.2 ∧ a.1 < b.1

structure Pixel where
  red : UInt8
  green : UInt8
  blue : UInt8
  alpha : UInt8

/-- `readPixel`. -/
def readPixel (image : RgbaImage) (pixelX pixelY : ℕ) : Pixel :=
  let offset := (pixelY * image.width + pixelX) * 4
  { red := image.data.getD offset 0
    green := image.data.getD (offset + 1) 0
    blue := image.data.getD (offset + 2) 0
    alpha := image.data.getD (offset + 3) 0 }

/-- The number of a byte. -/
def byteNumber (b : UInt8) : K := (b.toNat : K)

/-- `getLuma`. -/
def getLuma (red green blue : UInt8) : K :=
  (0.2126 * byteNumber red + 0.7152 * byteNumber green + 0.0722 * byteNumber blue) /
    ((255 : ℕ) : K)

/-- The point lies in a rectangle. -/
def containsRect (x y width height normalizedX normalizedY : K) : Bool :=
  x ≤ normalizedX && normalizedX ≤ x + width && y ≤ normalizedY && normalizedY ≤ y + height

/-- `containsShape`. -/
def containsShape (normalizedX normalizedY : K) : PointCloudShape K → Bool
  | .rect _ x y width height => containsRect x y width height normalizedX normalizedY
  | .circle _ cx cy radius =>
    let dx := normalizedX - cx
    let dy := normalizedY - cy
    dx * dx + dy * dy ≤ radius * radius

def PointCloudShape.mode : PointCloudShape K → PointCloudShapeMode
  | .rect mode .. | .circle mode .. => mode.getD .include

/-- `matchesShapes`. -/
def matchesShapes (shapes : List (PointCloudShape K)) (normalizedX normalizedY : K) : Bool :=
  let includeShapes := shapes.filter fun shape => shape.mode = .include
  let excludeShapes := shapes.filter fun shape => shape.mode = .exclude
  (includeShapes.isEmpty || includeShapes.any (containsShape normalizedX normalizedY)) &&
    !excludeShapes.any (containsShape normalizedX normalizedY)

/-- `hashPoint`. -/
def hashPoint (seed : JsString) (pixelX pixelY : ℕ) : UInt32 :=
  let text := seed ++ js ":" ++ numberText pixelX ++ js ":" ++ numberText pixelY
  text.foldl (fun hash c => (hash ^^^ c.toUInt32) * 16777619) 2166136261

/-- `hashToUnit`. -/
def hashToUnit (hash : UInt32) : K :=
  ((hash.toNat : K) + ((1 : ℕ) : K)) / ((4294967297 : ℕ) : K)

/-- `getRegionIndexes`. -/
def getRegionIndexes (regions : List (PointCloudRegion K ℕ)) (normalizedX normalizedY : K) :
    List ℕ :=
  (List.range regions.length).filter fun index => regions[index]?.any fun region =>
    containsRect region.x region.y region.width region.height normalizedX normalizedY

/-- The regions that the middle of a pixel lies in. -/
def regionIndexesAt (image : RgbaImage) (regions : List (PointCloudRegion K ℕ)) (pixel : ℕ × ℕ) :
    List ℕ :=
  getRegionIndexes regions (((pixel.1 : K) + 0.5) / (image.width : K))
    (((pixel.2 : K) + 0.5) / (image.height : K))

/-- `getCandidateWeight`. -/
def getCandidateWeight (regions : List (PointCloudRegion K ℕ)) (regionIndexes : List ℕ) : K :=
  let step (weight : Option K) (index : ℕ) : Option K :=
    match regions[index]?.bind (·.weight) with
    | some regionWeight => some (max (weight.getD ((0 : ℕ) : K)) regionWeight)
    | none => weight
  (regionIndexes.foldl step none).getD ((1 : ℕ) : K)

/-- `getCandidatePointSize`. -/
def getCandidatePointSize (options : NormalizedOptions K) (regionIndexes : List ℕ) : ℕ :=
  let step (pointSize : ℕ) (index : ℕ) : ℕ :=
    match options.regions[index]?.bind (·.pointSize) with
    | some regionSize => max pointSize regionSize
    | none => pointSize
  regionIndexes.foldl step options.basePointSize.1

/-- `hasRegionalWeightThinning`. -/
def hasRegionalWeightThinning (regions : List (PointCloudRegion K ℕ)) : Bool :=
  regions.any fun region =>
    region.weight.any fun weight => ((0 : ℕ) : K) ≤ weight && weight < ((1 : ℕ) : K)

/-- The counters of the scan, and the candidates in the order they were found. -/
structure Scan (K : Type) where
  sampledPixelCount : ℕ
  maskedPixelCount : ℕ
  shapeExcludedCount : ℕ
  weightThinnedCount : ℕ
  candidates : List (CandidatePoint K)

/-- The candidate at a pixel, of a weight. -/
def candidateAt (image : RgbaImage) (options : NormalizedOptions K) (pixelX pixelY : ℕ)
    (regionIndexes : List ℕ) (weight : K) : CandidatePoint K :=
  let maxDimension : K := (max image.width image.height : ℕ)
  let pixel := readPixel image pixelX pixelY
  let luma : K := getLuma pixel.red pixel.green pixel.blue
  let hash := hashPoint options.seed pixelX pixelY
  { pixelX, pixelY
    positionX := ((pixelX : K) - ((image.width : K) - ((1 : ℕ) : K)) / ((2 : ℕ) : K)) / maxDimension
    positionY :=
      (((image.height : K) - ((1 : ℕ) : K)) / ((2 : ℕ) : K) - (pixelY : K)) / maxDimension
    positionZ := (luma - 0.5) * options.depthAmp
    red := pixel.red, green := pixel.green, blue := pixel.blue
    luma
    pointSize := getCandidatePointSize options regionIndexes
    hash
    priority := hashToUnit hash / weight
    regionIndexes }

/-- The body of the loops of the scan. -/
def scanPixel (image : RgbaImage) (options : NormalizedOptions K) (scan : Scan K)
    (pixelX pixelY : ℕ) : Scan K :=
  let scan := { scan with sampledPixelCount := scan.sampledPixelCount + 1 }
  let pixel := readPixel image pixelX pixelY
  let luma : K := getLuma pixel.red pixel.green pixel.blue
  if byteNumber pixel.alpha < options.alphaThreshold ∨ luma < options.brightnessFloor then
    { scan with maskedPixelCount := scan.maskedPixelCount + 1 }
  else
    let normalizedX : K := ((pixelX : K) + 0.5) / (image.width : K)
    let normalizedY : K := ((pixelY : K) + 0.5) / (image.height : K)
    if !matchesShapes options.shapes normalizedX normalizedY then
      { scan with shapeExcludedCount := scan.shapeExcludedCount + 1 }
    else
      let hashUnit : K := hashToUnit (hashPoint options.seed pixelX pixelY)
      let regionIndexes := getRegionIndexes options.regions normalizedX normalizedY
      let weight := getCandidateWeight options.regions regionIndexes
      if weight ≤ ((0 : ℕ) : K) ∨
          hasRegionalWeightThinning options.regions ∧ weight < hashUnit then
        { scan with weightThinnedCount := scan.weightThinnedCount + 1 }
      else
        { scan with
          candidates := scan.candidates ++
            [candidateAt image options pixelX pixelY regionIndexes weight] }

/-- The values of a loop variable, from zero with a step. -/
def steps (limit step : ℕ) : List ℕ := List.range' 0 ((limit + step - 1) / step) step

/-- The pixels in the order of the loops. -/
def sampledPixels (image : RgbaImage) (step : ℕ) : List (ℕ × ℕ) :=
  (steps image.height step).flatMap fun pixelY =>
    (steps image.width step).map fun pixelX => (pixelX, pixelY)

/-- The scan of an image. -/
def scanImage (image : RgbaImage) (options : NormalizedOptions K) : Scan K :=
  (sampledPixels image options.sampleStep.1).foldl
    (fun scan pixel => scanPixel image options scan pixel.1 pixel.2) ⟨0, 0, 0, 0, []⟩

/-! ## The scan accounts for every pixel -/

/-- The pixels of the scan are masked, excluded, thinned out or candidates. -/
def Scan.Accounted (scan : Scan K) : Prop :=
  scan.sampledPixelCount = scan.maskedPixelCount + scan.shapeExcludedCount +
    scan.weightThinnedCount + scan.candidates.length

/-- A pixel is counted, and is a candidate or not. -/
theorem scanPixel_spec (image : RgbaImage) (options : NormalizedOptions K) {scan : Scan K}
    (h : scan.Accounted) (pixelX pixelY : ℕ) :
    (scanPixel image options scan pixelX pixelY).Accounted ∧
      (scanPixel image options scan pixelX pixelY).sampledPixelCount =
        scan.sampledPixelCount + 1 ∧
      ((scanPixel image options scan pixelX pixelY).candidates = scan.candidates ∨
        ∃ weight, (scanPixel image options scan pixelX pixelY).candidates =
          scan.candidates ++ [candidateAt image options pixelX pixelY
            (regionIndexesAt image options.regions (pixelX, pixelY)) weight]) := by
  unfold Scan.Accounted at h ⊢
  unfold scanPixel
  dsimp only
  split_ifs
  · exact ⟨by dsimp only; omega, rfl, .inl rfl⟩
  · exact ⟨by dsimp only; omega, rfl, .inl rfl⟩
  · exact ⟨by dsimp only; omega, rfl, .inl rfl⟩
  · refine ⟨?_, rfl, .inr ⟨_, rfl⟩⟩
    dsimp only
    rw [List.length_append, List.length_singleton]
    omega

/-- What holds of a scan that has visited some pixels. -/
structure Scan.Sound (image : RgbaImage) (options : NormalizedOptions K) (scan : Scan K)
    (pixels : List (ℕ × ℕ)) : Prop where
  accounted : scan.Accounted
  sampled : scan.sampledPixelCount = pixels.length
  places : (scan.candidates.map CandidatePoint.place).Sublist pixels
  made : ∀ candidate ∈ scan.candidates, ∃ weight, candidate =
    candidateAt image options candidate.pixelX candidate.pixelY
      (regionIndexesAt image options.regions candidate.place) weight

theorem Scan.Sound.step {image : RgbaImage} {options : NormalizedOptions K} {scan : Scan K}
    {pixels : List (ℕ × ℕ)} (h : scan.Sound image options pixels) (pixel : ℕ × ℕ) :
    (scanPixel image options scan pixel.1 pixel.2).Sound image options (pixels ++ [pixel]) := by
  obtain ⟨haccounted, hsampled, hcandidates⟩ :=
    scanPixel_spec image options h.accounted pixel.1 pixel.2
  refine ⟨haccounted, ?_, ?_, ?_⟩
  · rw [hsampled, h.sampled, List.length_append, List.length_singleton]
  · rcases hcandidates with hsame | ⟨weight, hmore⟩
    · rw [hsame]
      exact h.places.trans (List.sublist_append_left pixels [pixel])
    · rw [hmore, List.map_append]
      exact h.places.append (List.Sublist.refl [pixel])
  · rcases hcandidates with hsame | ⟨weight, hmore⟩
    · rw [hsame]
      exact h.made
    · rw [hmore]
      intro candidate hcandidate
      rcases List.mem_append.1 hcandidate with hold | hnew
      · exact h.made candidate hold
      · rw [List.mem_singleton.1 hnew]
        exact ⟨weight, rfl⟩

theorem scan_sound (image : RgbaImage) (options : NormalizedOptions K) :
    (scanImage image options).Sound image options
      (sampledPixels image options.sampleStep.1) := by
  unfold scanImage
  induction sampledPixels image options.sampleStep.1 using List.reverseRecOn with
  | nil => exact ⟨rfl, rfl, List.Sublist.refl [], fun _ h => absurd h List.not_mem_nil⟩
  | append_singleton pixels pixel ih =>
    rw [List.foldl_append]
    exact ih.step pixel

/-- The loops visit the pixels row by row. -/
theorem sampledPixels_precede (image : RgbaImage) {step : ℕ} (hstep : 1 ≤ step) :
    (sampledPixels image step).Pairwise Precedes := by
  have hsteps : ∀ limit, (steps limit step).Pairwise (· < ·) := fun limit =>
    List.pairwise_lt_range' step hstep
  unfold sampledPixels
  rw [List.pairwise_flatMap]
  constructor
  · intro pixelY _
    rw [List.pairwise_map]
    exact (hsteps image.width).imp fun hlt => .inr ⟨rfl, hlt⟩
  · refine (hsteps image.height).imp fun hlt a ha b hb => ?_
    obtain ⟨_, -, rfl⟩ := List.mem_map.1 ha
    obtain ⟨_, -, rfl⟩ := List.mem_map.1 hb
    exact .inl hlt

/-- The candidates stand in the order of the rows. -/
theorem candidates_precede (image : RgbaImage) (options : NormalizedOptions K) :
    (scanImage image options).candidates.Pairwise fun a b => Precedes a.place b.place :=
  List.pairwise_map.1 ((sampledPixels_precede image options.sampleStep.2.1).sublist
    (scan_sound image options).places)

/-- A candidate lies in the regions of its pixel. -/
theorem regionIndexes_eq {image : RgbaImage} {options : NormalizedOptions K}
    {candidate : CandidatePoint K} (h : candidate ∈ (scanImage image options).candidates) :
    candidate.regionIndexes = regionIndexesAt image options.regions candidate.place := by
  obtain ⟨weight, hmade⟩ := (scan_sound image options).made candidate h
  exact congrArg CandidatePoint.regionIndexes hmade

theorem mem_steps {limit step x : ℕ} (hstep : 1 ≤ step) (h : x ∈ steps limit step) : x < limit := by
  obtain ⟨i, hi, rfl⟩ := List.mem_range'.1 h
  have hle := (Nat.le_div_iff_mul_le hstep).1 (Nat.succ_le_of_lt hi)
  rw [Nat.succ_mul, Nat.mul_comm] at hle
  omega

/-- A candidate is made at a pixel of the image. -/
theorem candidate_inside {image : RgbaImage} {options : NormalizedOptions K}
    {candidate : CandidatePoint K} (h : candidate ∈ (scanImage image options).candidates) :
    candidate.pixelX < image.width ∧ candidate.pixelY < image.height := by
  have hplace := (scan_sound image options).places.subset (List.mem_map_of_mem h)
  obtain ⟨pixelY, hY, hmem⟩ := List.mem_flatMap.1 hplace
  obtain ⟨pixelX, hX, heq⟩ := List.mem_map.1 hmem
  obtain ⟨rfl, rfl⟩ := Prod.mk.inj heq
  exact ⟨mem_steps options.sampleStep.2.1 hX, mem_steps options.sampleStep.2.1 hY⟩

theorem regionIndexes_nodup {image : RgbaImage} {options : NormalizedOptions K}
    {candidate : CandidatePoint K} (h : candidate ∈ (scanImage image options).candidates) :
    candidate.regionIndexes.Nodup := by
  rw [regionIndexes_eq h]
  exact List.nodup_range.filter _

end numbers

/-! ## The selection -/

section selection

variable {K : Type}

/-- `CandidateSelection`. -/
structure CandidateSelection (K : Type) where
  selected : List (CandidatePoint K)
  quotaSkippedCount : ℕ
  targetThinnedCount : ℕ

/-- The order by rows, and in a row from the left. -/
def rowMajor (left right : CandidatePoint K) : Bool :=
  left.pixelY < right.pixelY || (left.pixelY = right.pixelY && left.pixelX ≤ right.pixelX)

/-- `withinRegionQuotas`. -/
def withinRegionQuotas (candidate : CandidatePoint K) (regions : List (PointCloudRegion K ℕ))
    (usedByRegion : ℕ → ℕ) : Bool :=
  candidate.regionIndexes.all fun regionIndex =>
    (regions[regionIndex]?.bind (·.quota)).all fun quota => usedByRegion regionIndex < quota

/-- What the selection loop has done. A region that is not in the map has used none. -/
structure Selecting (K : Type) where
  selected : List (CandidatePoint K)
  usedByRegion : ℕ → ℕ
  quotaSkippedCount : ℕ

/-- The regions of a candidate that is taken use up one of their quotas. -/
def useRegions (regions : List (PointCloudRegion K ℕ)) (regionIndexes : List ℕ)
    (usedByRegion : ℕ → ℕ) : ℕ → ℕ :=
  regionIndexes.foldl (fun used index =>
    if (regions[index]?.bind (·.quota)).isSome then
      Function.update used index (used index + 1)
    else used) usedByRegion

/-- The loop of `selectCandidates`. -/
def selectLoop (options : NormalizedOptions K) :
    List (CandidatePoint K) → Selecting K → Selecting K
  | [], s => s
  | candidate :: rest, s =>
    if options.targetCount.any fun target => target.1 ≤ s.selected.length then s
    else if !withinRegionQuotas candidate options.regions s.usedByRegion then
      selectLoop options rest { s with quotaSkippedCount := s.quotaSkippedCount + 1 }
    else
      selectLoop options rest
        { s with
          selected := s.selected ++ [candidate]
          usedByRegion := useRegions options.regions candidate.regionIndexes s.usedByRegion }

/-- The order in which candidates are taken: the comparison is not positive. -/
def takenBefore [Sub K] [BEq K] [LT K] [DecidableLT K] [NatCast K]
    (left right : CandidatePoint K) : Bool :=
  let priorityDelta := left.priority - right.priority
  if priorityDelta != ((0 : ℕ) : K) then !(((0 : ℕ) : K) < priorityDelta)
  else if left.hash ≠ right.hash then left.hash < right.hash
  else rowMajor left right

/-- `selectCandidates`. -/
def selectCandidates [Sub K] [BEq K] [LT K] [DecidableLT K] [NatCast K]
    (candidates : List (CandidatePoint K)) (options : NormalizedOptions K) :
    CandidateSelection K :=
  let hasQuota := options.regions.any (·.quota.isSome)
  if options.targetCount.isNone && !hasQuota then ⟨candidates, 0, 0⟩
  else
    let s := selectLoop options (candidates.mergeSort takenBefore) ⟨[], fun _ => 0, 0⟩
    { selected := s.selected.mergeSort rowMajor
      quotaSkippedCount := s.quotaSkippedCount
      targetThinnedCount :=
        if options.targetCount.isNone then 0
        else candidates.length - s.selected.length - s.quotaSkippedCount }

/-! ## The selection keeps the quotas -/

/-- `regions[index]?.quota`. -/
def quotaOf (regions : List (PointCloudRegion K ℕ)) (index : ℕ) : Option ℕ :=
  regions[index]?.bind (·.quota)

/-- How many of the points lie in a region. -/
def countIn (index : ℕ) (points : List (CandidatePoint K)) : ℕ :=
  points.countP fun point => index ∈ point.regionIndexes

/-- A region with a quota uses up one of it. -/
theorem useRegions_eq (regions : List (PointCloudRegion K ℕ)) {indexes : List ℕ}
    (hnodup : indexes.Nodup) (used : ℕ → ℕ) {index : ℕ} (h : (quotaOf regions index).isSome) :
    useRegions regions indexes used index = used index + if index ∈ indexes then 1 else 0 := by
  unfold useRegions
  induction indexes generalizing used with
  | nil => rfl
  | cons first rest ih =>
    obtain ⟨hfirst, hrest⟩ := List.nodup_cons.1 hnodup
    rw [List.foldl_cons, ih hrest]
    by_cases heq : index = first
    · subst heq
      have hquota : (regions[index]?.bind (·.quota)).isSome := h
      rw [if_pos hquota, Function.update_self, if_neg hfirst, if_pos List.mem_cons_self]
    · have hother : (if (regions[first]?.bind (·.quota)).isSome then
          Function.update used first (used first + 1) else used) index = used index := by
        split
        · exact Function.update_of_ne heq _ _
        · rfl
      rw [hother]
      simp only [List.mem_cons, heq, false_or]

/-- The map of the loop counts the points in the regions, and no quota is exceeded. -/
def Selecting.Kept (regions : List (PointCloudRegion K ℕ)) (s : Selecting K) : Prop :=
  ∀ index quota, quotaOf regions index = some quota →
    s.usedByRegion index = countIn index s.selected ∧ countIn index s.selected ≤ quota

/-- A candidate within the quotas of its regions can be taken. -/
theorem Selecting.Kept.take {regions : List (PointCloudRegion K ℕ)} {s : Selecting K}
    (h : s.Kept regions) {candidate : CandidatePoint K} (hnodup : candidate.regionIndexes.Nodup)
    (hwithin : withinRegionQuotas candidate regions s.usedByRegion = true) :
    Selecting.Kept regions { s with
      selected := s.selected ++ [candidate]
      usedByRegion := useRegions regions candidate.regionIndexes s.usedByRegion } := by
  intro index quota hquota
  obtain ⟨hused, hle⟩ := h index quota hquota
  have hsome : (quotaOf regions index).isSome := by rw [hquota]; rfl
  have hcount : countIn index (s.selected ++ [candidate]) =
      countIn index s.selected + if index ∈ candidate.regionIndexes then 1 else 0 := by
    rw [countIn, List.countP_append, List.countP_singleton, countIn]
    simp only [decide_eq_true_eq]
  dsimp only
  rw [useRegions_eq regions hnodup _ hsome, hused, hcount]
  refine ⟨rfl, ?_⟩
  by_cases hin : index ∈ candidate.regionIndexes
  · have hbind : regions[index]?.bind (·.quota) = some quota := hquota
    have hroom := List.all_eq_true.1 hwithin index hin
    rw [hbind, Option.all_some, decide_eq_true_eq] at hroom
    rw [if_pos hin]
    omega
  · rw [if_neg hin]
    omega

/-- What the loop does with the candidates it is given. -/
structure Loop (options : NormalizedOptions K) (candidates : List (CandidatePoint K))
    (s r : Selecting K) : Prop where
  kept : r.Kept options.regions
  taken : ∃ taken, taken.Sublist candidates ∧ r.selected = s.selected ++ taken
  counted : r.selected.length + r.quotaSkippedCount ≤
    s.selected.length + s.quotaSkippedCount + candidates.length
  all : options.targetCount = none → r.selected.length + r.quotaSkippedCount =
    s.selected.length + s.quotaSkippedCount + candidates.length
  target : ∀ target ∈ options.targetCount, s.selected.length ≤ target.1 →
    r.selected.length ≤ target.1

theorem selectLoop_spec (options : NormalizedOptions K) {candidates : List (CandidatePoint K)}
    (hnodup : ∀ candidate ∈ candidates, candidate.regionIndexes.Nodup) {s : Selecting K}
    (h : s.Kept options.regions) : Loop options candidates s (selectLoop options candidates s) := by
  induction candidates generalizing s with
  | nil =>
    exact ⟨h, ⟨[], List.Sublist.refl [], (List.append_nil _).symm⟩, le_refl _, fun _ => rfl,
      fun _ _ hle => hle⟩
  | cons candidate rest ih =>
    have hrest := fun c hc => hnodup c (List.mem_cons_of_mem candidate hc)
    rw [selectLoop]
    by_cases hreached : (options.targetCount.any fun target => target.1 ≤ s.selected.length) = true
    · rw [if_pos hreached]
      refine ⟨h, ⟨[], List.nil_sublist _, (List.append_nil _).symm⟩, Nat.le_add_right _ _, ?_,
        fun _ _ hle => hle⟩
      intro hnone
      rw [hnone] at hreached
      cases hreached
    · rw [if_neg hreached]
      cases hwithin : withinRegionQuotas candidate options.regions s.usedByRegion with
      | false =>
        have hloop := ih hrest
          (s := { s with quotaSkippedCount := s.quotaSkippedCount + 1 }) h
        obtain ⟨taken, hsub, hselected⟩ := hloop.taken
        have hcounted := hloop.counted
        refine ⟨hloop.kept, ⟨taken, hsub.cons candidate, hselected⟩, ?_, fun hnone => ?_,
          hloop.target⟩
        · rw [List.length_cons]
          dsimp only at hcounted
          simp only [Bool.not_false, if_true]
          omega
        · have hall := hloop.all hnone
          rw [List.length_cons]
          dsimp only at hall
          simp only [Bool.not_false, if_true]
          omega
      | true =>
        have hloop := ih hrest (h.take (hnodup candidate List.mem_cons_self) hwithin)
        obtain ⟨taken, hsub, hselected⟩ := hloop.taken
        have hcounted := hloop.counted
        dsimp only at hcounted
        rw [List.length_append, List.length_singleton] at hcounted
        refine ⟨hloop.kept, ⟨candidate :: taken, hsub.cons_cons candidate, ?_⟩, ?_,
          fun hnone => ?_, fun target htarget _ => ?_⟩
        · rw [← List.append_cons] at hselected
          exact hselected
        · rw [List.length_cons]
          simp only [Bool.not_true, Bool.false_eq_true, if_false]
          omega
        · have hall := hloop.all hnone
          dsimp only at hall
          rw [List.length_append, List.length_singleton] at hall
          rw [List.length_cons]
          simp only [Bool.not_true, Bool.false_eq_true, if_false]
          omega
        · refine hloop.target target htarget ?_
          have hnot : ¬ target.1 ≤ s.selected.length := by
            intro hle
            refine hreached ?_
            rw [htarget, Option.any_some]
            exact decide_eq_true hle
          rw [List.length_append, List.length_singleton]
          omega

/-! ## The selected points -/

theorem Precedes.asymm {a b : ℕ × ℕ} (h : Precedes a b) (h' : Precedes b a) : False := by
  unfold Precedes at h h'
  omega

/-- Sorting points at different places puts them into the order of the rows. -/
theorem mergeSort_precede {points : List (CandidatePoint K)}
    (h : points.Pairwise fun a b => a.place ≠ b.place) :
    (points.mergeSort rowMajor).Pairwise fun a b => Precedes a.place b.place := by
  have htrans (a b c : CandidatePoint K) (hab : rowMajor a b = true)
      (hbc : rowMajor b c = true) : rowMajor a c = true := by
    simp only [rowMajor, Bool.or_eq_true, Bool.and_eq_true, decide_eq_true_eq] at hab hbc ⊢
    omega
  have htotal (a b : CandidatePoint K) : (rowMajor a b || rowMajor b a) = true := by
    simp only [rowMajor, Bool.or_eq_true, Bool.and_eq_true, decide_eq_true_eq]
    omega
  have hsorted := List.pairwise_mergeSort htrans htotal points
  have happart := (List.mergeSort_perm points rowMajor).symm.pairwise h Ne.symm
  refine hsorted.imp₂ (fun a b hle hne => ?_) happart
  simp only [rowMajor, Bool.or_eq_true, Bool.and_eq_true, decide_eq_true_eq] at hle
  simp only [CandidatePoint.place, ne_eq, Prod.mk.injEq] at hne
  unfold Precedes CandidatePoint.place
  omega

/-- What holds of a selection of candidates. -/
structure CandidateSelection.Sound (options : NormalizedOptions K)
    (candidates : List (CandidatePoint K)) (selection : CandidateSelection K) : Prop where
  accounted : candidates.length =
    selection.selected.length + selection.quotaSkippedCount + selection.targetThinnedCount
  quotas : ∀ index quota, quotaOf options.regions index = some quota →
    countIn index selection.selected ≤ quota
  target : ∀ target ∈ options.targetCount, selection.selected.length ≤ target.1
  chosen : selection.selected.Sublist candidates

theorem selectCandidates_sound [Sub K] [BEq K] [LT K] [DecidableLT K] [NatCast K]
    (options : NormalizedOptions K) {candidates : List (CandidatePoint K)}
    (hnodup : ∀ candidate ∈ candidates, candidate.regionIndexes.Nodup)
    (hplaces : candidates.Pairwise fun a b => Precedes a.place b.place) :
    (selectCandidates candidates options).Sound options candidates := by
  unfold selectCandidates
  dsimp only
  by_cases hnone : (options.targetCount.isNone && !options.regions.any (·.quota.isSome)) = true
  · obtain ⟨htarget, hquotas⟩ := Bool.and_eq_true_iff.1 hnone
    rw [if_pos hnone]
    refine ⟨rfl, fun index quota hquota => ?_, fun target ht => ?_, List.Sublist.refl _⟩
    · obtain ⟨region, hregion, hsome⟩ := Option.bind_eq_some_iff.1 hquota
      rw [Bool.not_eq_true', List.any_eq_false] at hquotas
      refine absurd ?_ (hquotas region (List.mem_of_getElem? hregion))
      rw [hsome]
      rfl
    · rw [ht] at htarget
      cases htarget
  · rw [if_neg hnone]
    have hsorted := List.mergeSort_perm candidates takenBefore
    have hstart : (⟨[], fun _ => 0, 0⟩ : Selecting K).Kept options.regions :=
      fun _ _ _ => ⟨rfl, Nat.zero_le _⟩
    have hloop := selectLoop_spec options
      (fun candidate hc => hnodup candidate (hsorted.mem_iff.1 hc)) hstart
    generalize selectLoop options (candidates.mergeSort takenBefore) ⟨[], fun _ => 0, 0⟩ = r
      at hloop
    obtain ⟨taken, htaken, hselected⟩ := hloop.taken
    rw [List.nil_append] at hselected
    have hsubperm : List.Subperm r.selected candidates := by
      rw [hselected]
      exact htaken.subperm.trans hsorted.subperm
    have happart : r.selected.Pairwise fun a b => a.place ≠ b.place := by
      obtain ⟨same, hperm, hsub⟩ := hsubperm
      refine hperm.pairwise ((hplaces.sublist hsub).imp fun h heq => ?_) Ne.symm
      rw [heq] at h
      exact h.asymm h
    have hperm := List.mergeSort_perm r.selected rowMajor
    have hcounted := hloop.counted
    rw [hsorted.length_eq] at hcounted
    refine ⟨?_, fun index quota hquota => ?_, fun target ht => ?_, ?_⟩
    · dsimp only at hcounted ⊢
      rw [hperm.length_eq]
      by_cases htarget : options.targetCount.isNone = true
      · have hall := hloop.all (Option.isNone_iff_eq_none.1 htarget)
        rw [hsorted.length_eq] at hall
        dsimp only at hall
        rw [if_pos htarget]
        simp only [List.length_nil] at hall
        omega
      · rw [if_neg htarget]
        simp only [List.length_nil] at hcounted
        omega
    · dsimp only
      rw [countIn, hperm.countP_eq]
      exact (hloop.kept index quota hquota).2
    · dsimp only
      rw [hperm.length_eq]
      exact hloop.target target ht (Nat.zero_le _)
    · have : Std.Antisymm fun a b : CandidatePoint K => Precedes a.place b.place :=
        ⟨fun _ _ h h' => (h.asymm h').elim⟩
      exact List.sublist_of_subperm_of_pairwise (hperm.subperm.trans hsubperm)
        (mergeSort_precede happart) hplaces

end selection

end PointClouds
end Autopilot
