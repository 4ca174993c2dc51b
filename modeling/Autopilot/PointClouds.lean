/-
Point clouds from images (`imageToPointCloud`).

The points that were selected from the candidates of a scan become a cloud: coordinates, colours and
sizes as texts of bytes, facets and edges where they were asked for, and statistics of what was
done. Every pixel that was visited is accounted for in the statistics. A cloud is decoded again as
it was, as long as it has no more points than the decoder takes.
-/
import Autopilot.PointCloudFacets

set_option autoImplicit false

namespace Autopilot
namespace PointClouds

open Collected (refuseIf_ok bind_ok bind_ok_iff)

/-! ## The code -/

section code

variable {K : Type} [Add K] [Sub K] [Mul K] [Div K] [BEq K] [LT K] [DecidableLT K] [LE K]
  [DecidableLE K] [Min K] [Max K] [NatCast K] [IntCast K] [OfScientific K]
  (ops : NumberFunctions K)

/-- `getBounds`. -/
def getBounds (positions : List UInt32) : PointCloudBounds K :=
  let points := (List.range (positions.length / 3)).map fun i =>
    (⟨coordinate ops positions (i * 3), coordinate ops positions (i * 3 + 1),
      coordinate ops positions (i * 3 + 2)⟩ : Vector3 K)
  match points with
  | [] =>
    let zero : Vector3 K := ⟨((0 : ℕ) : K), ((0 : ℕ) : K), ((0 : ℕ) : K)⟩
    ⟨zero, zero⟩
  | first :: rest =>
    rest.foldl (fun bounds p =>
      { min := ⟨min bounds.min.x p.x, min bounds.min.y p.y, min bounds.min.z p.z⟩
        max := ⟨max bounds.max.x p.x, max bounds.max.y p.y, max bounds.max.z p.z⟩ })
      ⟨first, first⟩

/-- `getBucketValue`. -/
def getBucketValue (value bucketSize : ℕ) : ℕ :=
  min 255 (value / bucketSize * bucketSize + bucketSize / 2)

/-- The comparison of `compareRgb` is not positive. -/
def rgbNotAfter (left right : ℕ × ℕ × ℕ) : Bool :=
  left.1 < right.1 || (left.1 = right.1 &&
    (left.2.1 < right.2.1 || (left.2.1 = right.2.1 && left.2.2 ≤ right.2.2)))

/-- `getColorHistogram`. -/
def getColorHistogram (colors : List UInt8) (pointCount bucketCount : ℕ) :
    ColorHistogramSummary K :=
  let bucketSize := (256 + bucketCount - 1) / bucketCount
  if pointCount = 0 then ⟨bucketSize, 0, []⟩
  else
    let rgbs := (List.range pointCount).map fun i =>
      (getBucketValue (colors.getD (i * 3) 0).toNat bucketSize,
        getBucketValue (colors.getD (i * 3 + 1) 0).toNat bucketSize,
        getBucketValue (colors.getD (i * 3 + 2) 0).toNat bucketSize)
    let counts := rgbs.reverse.dedup.reverse.map fun rgb => (rgb, rgbs.count rgb)
    let top := (counts.mergeSort fun left right =>
      right.2 < left.2 || (left.2 = right.2 && rgbNotAfter left.1 right.1)).take 8
    { bucketSize
      bucketCount := counts.length
      top := top.map fun bucket =>
        { rgb := bucket.1, count := bucket.2, ratio := (bucket.2 : K) / (pointCount : K) } }

/-- `getOptionsSummary`. -/
def getOptionsSummary (options : NormalizedOptions K) : PointCloudOptionsSummary K where
  sampleStep := options.sampleStep.1
  alphaThreshold := options.alphaThreshold
  brightnessFloor := options.brightnessFloor
  depthAmp := options.depthAmp
  includeSizes := options.includeSizes
  basePointSize := options.basePointSize.1
  histogramBuckets := options.histogramBuckets.1
  regionCount := options.regions.length
  shapeCount := options.shapes.length
  targetCount := options.targetCount.map fun target => (target.1 : ℤ)

/-- The positions of the points, as floats. -/
def positionsOf (selected : List (CandidatePoint K)) : List UInt32 :=
  selected.flatMap fun point => [ops.toFloat32 point.positionX, ops.toFloat32 point.positionY,
    ops.toFloat32 point.positionZ]

omit [Add K] [Sub K] [Mul K] [Div K] [BEq K] [LT K] [DecidableLT K] [LE K] [DecidableLE K]
  [Min K] [Max K] [NatCast K] [IntCast K] [OfScientific K] in
/-- The colours of the points. -/
def colorsOf (selected : List (CandidatePoint K)) : List UInt8 :=
  selected.flatMap fun point => [point.red, point.green, point.blue]

/-- The sizes of the points. -/
def sizesOf (selected : List (CandidatePoint K)) : List UInt8 :=
  selected.map fun point => clampByte ops (point.pointSize : K)

/-- `stats`. -/
def statsOf (image : RgbaImage) (options : NormalizedOptions K) (scan : Scan K)
    (selection : CandidateSelection K) : PointCloudStats K :=
  let selected := selection.selected
  let thinnedCount :=
    scan.weightThinnedCount + selection.quotaSkippedCount + selection.targetThinnedCount
  let eligiblePixelCount : ℤ :=
    scan.sampledPixelCount - scan.maskedPixelCount - scan.shapeExcludedCount
  let zero : K := ((0 : ℕ) : K)
  { pointCount := selected.length
    candidateCount := scan.candidates.length
    sampledPixelCount := scan.sampledPixelCount
    maskedPixelCount := scan.maskedPixelCount
    shapeExcludedCount := scan.shapeExcludedCount
    thinnedCount
    weightThinnedCount := scan.weightThinnedCount
    quotaSkippedCount := selection.quotaSkippedCount
    targetThinnedCount := selection.targetThinnedCount
    maskedRatio := if scan.sampledPixelCount = 0 then zero
      else (scan.maskedPixelCount : K) / (scan.sampledPixelCount : K)
    thinnedRatio := if eligiblePixelCount = 0 then zero
      else (thinnedCount : K) / (eligiblePixelCount : K)
    aspectRatio := (image.width : K) / (image.height : K)
    averageLuma := if selected.length = 0 then zero
      else total (selected.map (·.luma)) / (selected.length : K)
    seed := options.seed
    optionsSummary := getOptionsSummary options
    bbox := getBounds ops (positionsOf ops selected)
    dims := ⟨image.width, image.height⟩
    sampleStep := options.sampleStep.1
    colorHistogram := getColorHistogram (colorsOf selected) selected.length
      options.histogramBuckets.1 }

/-- The edges of a cloud, where they were asked for. -/
def edgesOf (options : NormalizedOptions K) (selected : List (CandidatePoint K)) :
    Option (List UInt16) :=
  match options.edgeNeighbors with
  | some k =>
    if 0 < k.1 then
      some (buildCappedEdges ops (positionsOf ops selected) selected.length k.1
        ((options.maxEdges.map (·.1)).getD pointCloudEdgeCeiling))
    else none
  | none => none

/-- `imageToPointCloudFromImage`. -/
def imageToPointCloudFromImage (image : RgbaImage) (options : NormalizedOptions K) :
    EncodedPointCloud K :=
  let scan := scanImage image options
  let selection := selectCandidates scan.candidates options
  let selected := selection.selected
  let sizes := if options.includeSizes then some (sizesOf ops selected) else none
  let facets := options.facetCount.bind fun facetCount => bakeFacets ops selected facetCount.1
  let edges := (edgesOf ops options selected).filter fun edges => 0 < edges.length
  { schemaVersion := 1
    encoding :=
      { positions := js "base64:f32le"
        colors := js "base64:u8"
        sizes := sizes.map fun _ => js "base64:u8"
        facetPositions := facets.map fun _ => js "base64:f32le"
        facetColors := facets.map fun _ => js "base64:u8"
        edges := edges.map fun _ => js "base64:u16le" }
    pointCount := selected.length
    dims := ⟨image.width, image.height⟩
    sampleStep := options.sampleStep.1
    positions := encodeFloat32Base64 (positionsOf ops selected)
    colors := encodeUint8Base64 (colorsOf selected)
    sizes := sizes.map encodeUint8Base64
    facetCount := facets.map fun facets => (facets.facetCount : ℤ)
    facetPositions := facets.map (·.facetPositions)
    facetColors := facets.map (·.facetColors)
    edgeCount := edges.map fun edges => ((edges.length / 2 : ℕ) : ℤ)
    edges := edges.map encodeUint16Base64
    stats := statsOf ops image options scan selection }

/-- `imageToPointCloud`, of an image that was read. -/
def imageToPointCloud (integerOf : K → Option ℤ) (isFinite : K → Bool) (image : RgbaImage)
    (options : ImageToPointCloudOptions K) : Except JsString (EncodedPointCloud K) := do
  let options ← normalizeOptions integerOf isFinite options
  return imageToPointCloudFromImage ops image options

end code

/-! ## Every pixel is accounted for -/

section accounting

variable {K : Type} [Add K] [Sub K] [Mul K] [Div K] [BEq K] [LT K] [DecidableLT K] [LE K]
  [DecidableLE K] [Min K] [Max K] [NatCast K] [IntCast K] [OfScientific K]
  (ops : NumberFunctions K) (image : RgbaImage) (options : NormalizedOptions K)

/-- The points of a cloud. -/
def selectedPoints : List (CandidatePoint K) :=
  (selectCandidates (scanImage image options).candidates options).selected

omit [Min K] [IntCast K] in
theorem selection_sound : (selectCandidates (scanImage image options).candidates options).Sound
    options (scanImage image options).candidates :=
  selectCandidates_sound options (fun _ h => regionIndexes_nodup h)
    (candidates_precede image options)

/-- The counts of a cloud add up, no region has more points than its quota, there are no more
points than the target, and the points are candidates, in the order of the rows. -/
theorem sampling_accounted :
    let stats := (imageToPointCloudFromImage ops image options).stats
    let selected := selectedPoints image options
    stats.sampledPixelCount = (sampledPixels image options.sampleStep.1).length ∧
      stats.sampledPixelCount = stats.maskedPixelCount + stats.shapeExcludedCount +
        stats.weightThinnedCount + stats.candidateCount ∧
      stats.candidateCount = stats.pointCount + stats.quotaSkippedCount +
        stats.targetThinnedCount ∧
      (∀ index quota, quotaOf options.regions index = some quota →
        selected.countP (fun point =>
          index ∈ regionIndexesAt image options.regions point.place) ≤ quota) ∧
      (∀ target ∈ options.targetCount, stats.pointCount ≤ target.1) ∧
      stats.pointCount = selected.length ∧
      selected.Sublist (scanImage image options).candidates ∧
      selected.Pairwise fun a b => Precedes a.place b.place := by
  have hscan := scan_sound image options
  have hselection := selection_sound image options
  have haccounted := hscan.accounted
  have hcandidates := hselection.accounted
  unfold Scan.Accounted at haccounted
  dsimp only
  refine ⟨?_, ?_, ?_, fun index quota hquota => ?_, fun target ht => ?_, rfl, hselection.chosen,
    (candidates_precede image options).sublist hselection.chosen⟩
  · exact congrArg Int.ofNat hscan.sampled
  · show (((scanImage image options).sampledPixelCount : ℕ) : ℤ) = _
    rw [haccounted]
    push_cast
    rfl
  · show (((scanImage image options).candidates.length : ℕ) : ℤ) = _
    rw [hcandidates]
    push_cast
    rfl
  · have hquotas := hselection.quotas index quota hquota
    rw [countIn] at hquotas
    refine le_of_eq_of_le (List.countP_congr fun point hpoint => ?_) hquotas
    rw [regionIndexes_eq (hselection.chosen.subset hpoint)]
  · exact Int.ofNat_le.2 (hselection.target target ht)

end accounting

/-! ## A cloud is decoded -/

section decoding

variable {K : Type} [Add K] [Sub K] [Mul K] [Div K] [BEq K] [LT K] [DecidableLT K] [LE K]
  [DecidableLE K] [Min K] [Max K] [NatCast K] [IntCast K] [OfScientific K]
  (ops : NumberFunctions K) (image : RgbaImage) (options : NormalizedOptions K)

theorem length_triples {α β : Type} (l : List α) (f g h : α → β) :
    (l.flatMap fun a => [f a, g a, h a]).length = l.length * 3 := by
  induction l with
  | nil => rfl
  | cons a l ih =>
    rw [List.flatMap_cons, List.length_append, ih, List.length_cons, List.length_cons,
      List.length_cons, List.length_cons, List.length_nil]
    omega

/-- The sizes of the points of a cloud, where they were asked for. -/
def cloudSizes : Option (List UInt8) :=
  if options.includeSizes then some (sizesOf ops (selectedPoints image options)) else none

omit [Min K] [IntCast K] in
theorem cloudSizes_length {sizes : List UInt8} (h : sizes ∈ cloudSizes ops image options) :
    sizes.length = (selectedPoints image options).length := by
  unfold cloudSizes at h
  split at h
  · rw [← Option.some.inj h, sizesOf, List.length_map]
  · cases h

/-- The metadata of a cloud fits to it. -/
theorem validateEncodedMetadata_cloud :
    validateEncodedMetadata (imageToPointCloudFromImage ops image options)
      (selectedPoints image options).length = .ok () := by
  have hsizes : (imageToPointCloudFromImage ops image options).sizes =
      (cloudSizes ops image options).map encodeUint8Base64 := rfl
  have hencoding : (imageToPointCloudFromImage ops image options).encoding.sizes =
      (cloudSizes ops image options).map fun _ => js "base64:u8" := rfl
  have hincluded : (cloudSizes ops image options).isSome = options.includeSizes := by
    unfold cloudSizes
    cases options.includeSizes <;> rfl
  unfold validateEncodedMetadata
  rw [hsizes, hencoding]
  refine bind_ok_iff.2 ⟨(), refuseIf_ok.2 (decide_eq_false (fun h => h rfl)), ?_⟩
  refine bind_ok_iff.2 ⟨(), refuseIf_ok.2 ?_, ?_⟩
  · exact Bool.or_eq_false_iff.2
      ⟨decide_eq_false (fun h => h rfl), decide_eq_false (fun h => h rfl)⟩
  refine bind_ok_iff.2 ⟨(), refuseIf_ok.2 (decide_eq_false (fun h => h rfl)), ?_⟩
  refine bind_ok_iff.2 ⟨(), refuseIf_ok.2 ?_, ?_⟩
  · rw [Option.isSome_map, Option.isSome_map]
    exact decide_eq_false (fun h => h rfl)
  refine bind_ok_iff.2 ⟨(), refuseIf_ok.2 ?_, refuseIf_ok.2 ?_⟩
  · cases cloudSizes ops image options with
    | none => rfl
    | some sizes => simp
  · rw [Option.isSome_map, hincluded]
    exact decide_eq_false (fun h => h rfl)

/-- A cloud is decoded to the positions, colours and sizes it was made from, as long as it has no
more points than the decoder takes. -/
theorem decodePointCloud_cloud :
    decodePointCloud (imageToPointCloudFromImage ops image options) = .ok
        { pointCount := (selectedPoints image options).length
          dims := ⟨image.width, image.height⟩
          positions := positionsOf ops (selectedPoints image options)
          colors := colorsOf (selectedPoints image options)
          sizes := cloudSizes ops image options
          stats := (imageToPointCloudFromImage ops image options).stats } ↔
      (selectedPoints image options).length ≤ maxPointCloudPoints := by
  have hpoints : (imageToPointCloudFromImage ops image options).pointCount =
      (selectedPoints image options).length := rfl
  have hmetadata := validateEncodedMetadata_cloud ops image options
  have hpositions : (positionsOf ops (selectedPoints image options)).length =
      (selectedPoints image options).length * 3 := length_triples _ _ _ _
  have hcolors : (colorsOf (selectedPoints image options)).length =
      (selectedPoints image options).length * 3 := length_triples _ _ _ _
  have hsizes : ∀ sizes ∈ cloudSizes ops image options,
      sizes.length = (selectedPoints image options).length :=
    fun _ h => cloudSizes_length ops image options h
  constructor
  · intro h
    obtain ⟨_, -, h⟩ := bind_ok h
    obtain ⟨_, -, h⟩ := bind_ok h
    obtain ⟨count, hcount, -⟩ := bind_ok h
    obtain ⟨_, hrefused, -⟩ := bind_ok hcount
    rw [refuseIf_ok, hpoints, Bool.or_eq_false_iff] at hrefused
    have hlimit := of_decide_eq_false hrefused.2
    omega
  · intro hlimit
    exact decodePointCloud_of rfl ⟨rfl, rfl⟩ hpoints hlimit hmetadata ⟨rfl, hpositions⟩
      ⟨rfl, hcolors⟩ ⟨rfl, hsizes⟩

/-- **The codec is exact.** The byte decoder takes the texts that the encoder writes for lists of
bytes up to the limit, and gives the bytes. A cloud of an image is decoded to what it was made from,
up to the limit of points. -/
theorem pointCloudCodec_exact :
    (∀ (value label : JsString) (expected : Option ℕ) (bytes : List UInt8),
      decodeBase64ToBytes value label expected = .ok bytes ↔
        encodeBytesBase64 bytes = value ∧ (∀ count ∈ expected, bytes.length = count) ∧
          bytes.length ≤ maxDecodedPointCloudBytes) ∧
      (decodePointCloud (imageToPointCloudFromImage ops image options) = .ok
          { pointCount := (selectedPoints image options).length
            dims := ⟨image.width, image.height⟩
            positions := positionsOf ops (selectedPoints image options)
            colors := colorsOf (selectedPoints image options)
            sizes := cloudSizes ops image options
            stats := (imageToPointCloudFromImage ops image options).stats } ↔
        (selectedPoints image options).length ≤ maxPointCloudPoints) :=
  ⟨fun _ _ _ _ => decodeBase64ToBytes_ok, decodePointCloud_cloud ops image options⟩

end decoding

theorem encoded_over_limit {bytes : List UInt8} (h : maxDecodedPointCloudBytes < bytes.length) :
    ¬ ∃ decoded, decodeBase64ToBytes (encodeBytesBase64 bytes) (js "u8") none = .ok decoded := by
  rintro ⟨decoded, hdecoded⟩
  obtain ⟨hsame, -, hlimit⟩ := decodeBase64ToBytes_ok.1 hdecoded
  have hlength := congrArg getDecodedBase64ByteLength hsame
  rw [encodeBytesBase64_eq, encodeBytesBase64_eq, getDecodedBase64ByteLength_encode,
    getDecodedBase64ByteLength_encode] at hlength
  omega

/-- The text of one byte more than the limit is refused. -/
theorem zeros_over_limit :
    ¬ ∃ decoded, decodeBase64ToBytes
      (encodeBytesBase64 (List.replicate (256 * 1024 * 1024 + 1) 0)) (js "u8") none =
        .ok decoded :=
  encoded_over_limit (by rw [List.length_replicate, maxDecodedPointCloudBytes]; omega)

/-! ## Exact arithmetic -/

/-- The integer that a number is. -/
def integerOf (q : ℚ) : Option ℤ := if q.den = 1 then some q.num else none

/-- The functions of the library on rational numbers, with a square root. -/
def exactFunctions (sqrt : ℚ → ℚ) : NumberFunctions ℚ where
  floor := Int.floor
  round q := ⌊q + 1 / 2⌋
  sqrt
  toFloat32 := Binary32.ofRat
  ofFloat32 bits := (Binary32.value bits).getD 0

/-! ## Small images -/

/-- An image of opaque white pixels. -/
def whiteImage (width height : ℕ) : RgbaImage :=
  ⟨width, height, List.replicate (width * height * 4) 255⟩

/-- Options that ask for facets. -/
def facetOptions (facetCount : ℚ) : ImageToPointCloudOptions ℚ where
  sampleStep := none
  alphaThreshold := none
  brightnessFloor := none
  depthAmp := none
  seed := none
  targetCount := none
  includeSizes := none
  facetCount := some facetCount
  edgeNeighbors := none
  maxEdges := none
  basePointSize := none
  histogramBuckets := none
  regions := none
  shapes := none

/-- What these options become. -/
def normalizedFacetOptions (target : Between 1 pointCloudFacetCeiling) : NormalizedOptions ℚ where
  sampleStep := ⟨1, by decide⟩
  alphaThreshold := 1
  brightnessFloor := 0
  depthAmp := 1
  seed := js "image-point-cloud"
  targetCount := none
  facetCount := some target
  edgeNeighbors := none
  maxEdges := none
  includeSizes := false
  basePointSize := ⟨1, by decide⟩
  histogramBuckets := ⟨16, by decide⟩
  regions := []
  shapes := []

/-- The square roots of one and, in part, of three. -/
def sampleSqrt (q : ℚ) : ℚ := if q = 3 then 433 / 250 else q

end PointClouds
end Autopilot
