/-
Baked facets and the gate.

In exact arithmetic a facet is the mean of the points of its cell, so it lies between points of the
cloud, and so does the float it is stored as. What the gate asks besides is that there are fewer
facets than points, and that is not so for every cloud: where each point has a cell of its own there
are as many facets as points.
-/
import Autopilot.PointCloudGate
import Mathlib.Algebra.Order.BigOperators.Group.List

set_option autoImplicit false

namespace Autopilot
namespace PointClouds

open Collected (bind_ok refuseIf_ok)

/-! ## Where the points are -/

theorem assertNumberRange_ok {name : JsString} {value result : ℚ} {min max : ℕ}
    (h : assertNumberRange (fun _ => true) name value min max = .ok result) :
    (min : ℚ) ≤ result ∧ result ≤ max := by
  obtain ⟨_, hrefused, h⟩ := bind_ok h
  obtain rfl : value = result := Except.ok.inj h
  simpa using refuseIf_ok.1 hrefused

theorem depthAmp_range {raw : ImageToPointCloudOptions ℚ} {options : NormalizedOptions ℚ}
    (h : normalizeOptions integerOf (fun _ => true) raw = .ok options) :
    0 ≤ options.depthAmp ∧ options.depthAmp ≤ 64 := by
  obtain ⟨sampleStep, -, h⟩ := bind_ok h
  obtain ⟨alphaThreshold, -, h⟩ := bind_ok h
  obtain ⟨brightnessFloor, -, h⟩ := bind_ok h
  obtain ⟨depthAmp, hdepth, h⟩ := bind_ok h
  obtain ⟨basePointSize, -, h⟩ := bind_ok h
  obtain ⟨histogramBuckets, -, h⟩ := bind_ok h
  obtain ⟨targetCount, -, h⟩ := bind_ok h
  obtain ⟨facetCount, -, h⟩ := bind_ok h
  obtain ⟨edgeNeighbors, -, h⟩ := bind_ok h
  obtain ⟨maxEdges, -, h⟩ := bind_ok h
  obtain ⟨regions, -, h⟩ := bind_ok h
  obtain ⟨shapes, -, h⟩ := bind_ok h
  rw [← Except.ok.inj h]
  have hrange := assertNumberRange_ok hdepth
  unfold maxDepthAmp at hrange
  norm_num at hrange
  exact hrange

theorem luma_range (red green blue : UInt8) :
    0 ≤ (getLuma red green blue : ℚ) ∧ (getLuma red green blue : ℚ) ≤ 1 := by
  have hbyte (b : UInt8) : (0 : ℚ) ≤ byteNumber b ∧ (byteNumber b : ℚ) ≤ 255 := by
    have hb := b.toNat_lt
    unfold byteNumber
    exact ⟨Nat.cast_nonneg _, by exact_mod_cast (by omega : b.toNat ≤ 255)⟩
  obtain ⟨hred, hred'⟩ := hbyte red
  obtain ⟨hgreen, hgreen'⟩ := hbyte green
  obtain ⟨hblue, hblue'⟩ := hbyte blue
  unfold getLuma
  push_cast
  constructor
  · positivity
  · rw [div_le_one (by norm_num)]
    norm_num
    linarith

/-- The coordinates of a candidate are small. -/
theorem candidate_small {image : RgbaImage} {options : NormalizedOptions ℚ}
    (hdepth : 0 ≤ options.depthAmp ∧ options.depthAmp ≤ 64) {candidate : CandidatePoint ℚ}
    (h : candidate ∈ (scanImage image options).candidates) :
    |candidate.positionX| ≤ 32 ∧ |candidate.positionY| ≤ 32 ∧ |candidate.positionZ| ≤ 32 := by
  obtain ⟨hX, hY⟩ := candidate_inside h
  obtain ⟨weight, hmade⟩ := (scan_sound image options).made candidate h
  have hmax : (0 : ℚ) < (max image.width image.height : ℕ) := by
    exact_mod_cast (by omega : 0 < max image.width image.height)
  have hwidth : (image.width : ℚ) ≤ (max image.width image.height : ℕ) := by
    exact_mod_cast le_max_left _ _
  have hheight : (image.height : ℚ) ≤ (max image.width image.height : ℕ) := by
    exact_mod_cast le_max_right _ _
  have hx : (candidate.pixelX : ℚ) + 1 ≤ image.width := by exact_mod_cast hX
  have hy : (candidate.pixelY : ℚ) + 1 ≤ image.height := by exact_mod_cast hY
  have hx0 : (0 : ℚ) ≤ candidate.pixelX := Nat.cast_nonneg _
  have hy0 : (0 : ℚ) ≤ candidate.pixelY := Nat.cast_nonneg _
  rw [hmade]
  unfold candidateAt
  dsimp only
  push_cast at hmax hwidth hheight ⊢
  refine ⟨?_, ?_, ?_⟩
  · rw [abs_div, abs_of_pos hmax, div_le_iff₀ hmax, abs_le]
    constructor <;> linarith
  · rw [abs_div, abs_of_pos hmax, div_le_iff₀ hmax, abs_le]
    constructor <;> linarith
  · generalize hpixel : readPixel image candidate.pixelX candidate.pixelY = pixel
    obtain ⟨hluma, hluma'⟩ := luma_range pixel.red pixel.green pixel.blue
    have hhalf : |(getLuma pixel.red pixel.green pixel.blue : ℚ) - 0.5| ≤ 1 / 2 := by
      rw [abs_le]
      norm_num
      constructor <;> linarith
    rw [abs_mul, abs_of_nonneg hdepth.1]
    calc |(getLuma pixel.red pixel.green pixel.blue : ℚ) - 0.5| * options.depthAmp
        ≤ 1 / 2 * options.depthAmp := mul_le_mul_of_nonneg_right hhalf hdepth.1
      _ ≤ 32 := by linarith

/-! ## Means -/

theorem total_eq_sum (values : List ℚ) : total values = values.sum := by
  rw [total, List.sum_eq_foldl, Nat.cast_zero]

/-- The mean of a coordinate. -/
def mean (coordinate : CandidatePoint ℚ → ℚ) (points : List (CandidatePoint ℚ)) : ℚ :=
  (points.map coordinate).sum / points.length

/-- The mean lies between two of the points. -/
theorem mean_between (coordinate : CandidatePoint ℚ → ℚ) {points : List (CandidatePoint ℚ)}
    (hne : points ≠ []) :
    (∃ p ∈ points, coordinate p ≤ mean coordinate points) ∧
      ∃ p ∈ points, mean coordinate points ≤ coordinate p := by
  have hlength : (0 : ℚ) < points.length := by exact_mod_cast List.length_pos_of_ne_nil hne
  have hsum : (points.map coordinate).sum =
      (points.map fun _ => mean coordinate points).sum := by
    rw [List.map_const', List.sum_replicate, nsmul_eq_mul, mean, mul_div_cancel₀ _ hlength.ne']
  constructor
  · exact List.exists_le_of_sum_le hne _ _ hsum.le
  · exact List.exists_le_of_sum_le hne _ _ hsum.ge

/-! ## Parts -/

/-- A list divided by the values of a function. -/
theorem flatMap_filter_perm {α β : Type} [DecidableEq β] (f : α → β) {keys : List β}
    (hkeys : keys.Nodup) (l : List α) :
    (keys.flatMap fun key => l.filter fun a => f a = key).Perm
      (l.filter fun a => f a ∈ keys) := by
  induction keys with
  | nil => simp
  | cons key rest ih =>
    obtain ⟨hkey, hrest⟩ := List.nodup_cons.1 hkeys
    rw [List.flatMap_cons]
    refine ((ih hrest).append_left _).trans ?_
    clear ih
    induction l with
    | nil => exact List.Perm.refl _
    | cons a l ih =>
      by_cases hfirst : f a = key
      · have hother : f a ∉ rest := hfirst ▸ hkey
        rw [List.filter_cons_of_pos (by simpa using hfirst),
          List.filter_cons_of_neg (by simpa using hother),
          List.filter_cons_of_pos (by simp [hfirst]), List.cons_append]
        exact ih.cons a
      · by_cases hother : f a ∈ rest
        · rw [List.filter_cons_of_neg (by simpa using hfirst),
            List.filter_cons_of_pos (by simpa using hother),
            List.filter_cons_of_pos (by simp [hother])]
          exact List.perm_middle.trans (ih.cons a)
        · rw [List.filter_cons_of_neg (by simpa using hfirst),
            List.filter_cons_of_neg (by simpa using hother),
            List.filter_cons_of_neg (by simp [hfirst, hother])]
          exact ih

section facets

variable (sqrt : ℚ → ℚ) (selected : List (CandidatePoint ℚ)) (targetFacets : ℕ)

/-- The cells of the points. -/
def facetCells : List ℤ :=
  selected.map
    (facetKey (exactFunctions sqrt) (facetGrid (exactFunctions sqrt) selected targetFacets))

theorem facetKeys_perm : (facetKeys (exactFunctions sqrt) selected targetFacets).Perm
    (facetCells sqrt selected targetFacets).dedup := List.mergeSort_perm _ _

theorem mem_facetKeys {key : ℤ} : key ∈ facetKeys (exactFunctions sqrt) selected targetFacets ↔
    key ∈ facetCells sqrt selected targetFacets := by
  rw [(facetKeys_perm sqrt selected targetFacets).mem_iff, List.mem_dedup]

/-- The points are divided into the parts. -/
theorem facetParts_perm :
    (facetParts (exactFunctions sqrt) selected targetFacets).flatten.Perm selected := by
  have hnodup := (facetKeys_perm sqrt selected targetFacets).nodup_iff.2 (List.nodup_dedup _)
  have hperm := flatMap_filter_perm (facetKey (exactFunctions sqrt)
    (facetGrid (exactFunctions sqrt) selected targetFacets)) hnodup selected
  rw [facetParts, ← List.flatMap_def]
  refine hperm.trans (List.Perm.of_eq (List.filter_eq_self.2 fun point hpoint => ?_))
  exact decide_eq_true ((mem_facetKeys sqrt selected targetFacets).2 (List.mem_map_of_mem hpoint))

/-- Each part has a point. -/
theorem facetParts_ne_nil {part : List (CandidatePoint ℚ)}
    (h : part ∈ facetParts (exactFunctions sqrt) selected targetFacets) :
    part ≠ [] ∧ part ⊆ selected := by
  obtain ⟨key, hkey, rfl⟩ := List.mem_map.1 h
  obtain ⟨point, hpoint, hcell⟩ :=
    List.mem_map.1 ((mem_facetKeys sqrt selected targetFacets).1 hkey)
  refine ⟨List.ne_nil_of_mem (List.mem_filter.2 ⟨hpoint, decide_eq_true hcell⟩), ?_⟩
  exact fun point hmem => (List.mem_filter.1 hmem).1

theorem length_facetParts : (facetParts (exactFunctions sqrt) selected targetFacets).length =
    (facetCells sqrt selected targetFacets).dedup.length := by
  rw [facetParts, List.length_map, (facetKeys_perm sqrt selected targetFacets).length_eq]

/-- There are fewer cells than points when two points share one. -/
theorem dedup_length_lt_iff {α : Type} [DecidableEq α] (l : List α) :
    l.dedup.length < l.length ↔ ¬ l.Nodup := by
  constructor
  · intro hlt hnodup
    rw [List.dedup_eq_self.2 hnodup] at hlt
    exact lt_irrefl _ hlt
  · intro hnot
    refine lt_of_le_of_ne (List.dedup_sublist l).length_le fun heq => hnot ?_
    rw [← (List.dedup_sublist l).eq_of_length heq]
    exact List.nodup_dedup l

end facets

/-! ## Floats of points -/

/-- An element of a list of blocks of one length. -/
theorem getElem?_blocks {α β : Type} {f : α → List β} {n : ℕ} (hf : ∀ a, (f a).length = n)
    {l : List α} {i r : ℕ} {a : α} (hi : l[i]? = some a) (hr : r < n) :
    (l.flatMap f)[i * n + r]? = (f a)[r]? := by
  induction l generalizing i with
  | nil => cases hi
  | cons b l ih =>
    rw [List.flatMap_cons]
    cases i with
    | zero =>
      obtain rfl := Option.some.inj hi
      rw [List.getElem?_append_left (by rw [hf]; omega), Nat.zero_mul, Nat.zero_add]
    | succ i =>
      have hskip : (i + 1) * n + r = n + (i * n + r) := by ring
      rw [List.getElem?_append_right (by rw [hf, hskip]; omega), hf, hskip, Nat.add_sub_cancel_left]
      exact ih hi

theorem getD_triples {α : Type} (l : List α) (f g h : α → UInt32) {i : ℕ} {a : α}
    (hi : l[i]? = some a) :
    (l.flatMap fun a => [f a, g a, h a]).getD (i * 3) 0 = f a ∧
      (l.flatMap fun a => [f a, g a, h a]).getD (i * 3 + 1) 0 = g a ∧
      (l.flatMap fun a => [f a, g a, h a]).getD (i * 3 + 2) 0 = h a := by
  have hblock {r : ℕ} (hr : r < 3) := getElem?_blocks (f := fun a => [f a, g a, h a])
    (fun _ => rfl) hi hr
  simp only [List.getD_eq_getElem?_getD]
  refine ⟨?_, ?_, ?_⟩
  · rw [← Nat.add_zero (i * 3), hblock (by decide)]
    rfl
  · rw [hblock (by decide)]
    rfl
  · rw [hblock (by decide)]
    rfl

theorem value_small {q : ℚ} (h : |q| ≤ 32) :
    Binary32.value (Binary32.ofRat q) = some (Binary32.rounded q) := by
  obtain ⟨hlow, hhigh⟩ := abs_le.1 h
  exact Binary32.value_ofRat (by linarith) (by linarith)

/-- What is stored of small coordinates is a point. -/
theorem pointAt_floats {α : Type} (l : List α) (x y z : α → ℚ) {i : ℕ} {a : α}
    (hi : l[i]? = some a) (hsmall : |x a| ≤ 32 ∧ |y a| ≤ 32 ∧ |z a| ≤ 32) :
    pointAt (l.flatMap fun a => [Binary32.ofRat (x a), Binary32.ofRat (y a),
        Binary32.ofRat (z a)]) i =
      some ⟨Binary32.rounded (x a), Binary32.rounded (y a), Binary32.rounded (z a)⟩ := by
  obtain ⟨hx, hy, hz⟩ := getD_triples l (fun a => Binary32.ofRat (x a))
    (fun a => Binary32.ofRat (y a)) (fun a => Binary32.ofRat (z a)) hi
  rw [pointAt, hx, hy, hz, value_small hsmall.1, value_small hsmall.2.1, value_small hsmall.2.2]
  rfl

theorem mem_pointsAt {α : Type} {l : List α} (x y z : α → ℚ) {a : α} (ha : a ∈ l)
    (hsmall : |x a| ≤ 32 ∧ |y a| ≤ 32 ∧ |z a| ≤ 32) :
    (⟨Binary32.rounded (x a), Binary32.rounded (y a), Binary32.rounded (z a)⟩ : Point) ∈
      (List.range l.length).filterMap (pointAt (l.flatMap fun a =>
        [Binary32.ofRat (x a), Binary32.ofRat (y a), Binary32.ofRat (z a)])) := by
  obtain ⟨i, hi⟩ := List.getElem?_of_mem ha
  have hlt := (List.getElem?_eq_some_iff.1 hi).1
  exact List.mem_filterMap.2 ⟨i, List.mem_range.2 hlt, pointAt_floats l x y z hi hsmall⟩

/-! ## The facets of a cloud -/

section cloud

variable (sqrt : ℚ → ℚ) (image : RgbaImage) (options : NormalizedOptions ℚ)

/-- The parts that the points of a cloud are divided into. -/
def cloudParts (targetFacets : ℕ) : List (List (CandidatePoint ℚ)) :=
  facetParts (exactFunctions sqrt) (selectedPoints image options) targetFacets

/-- The floats of the means of the parts. -/
def partFloats (parts : List (List (CandidatePoint ℚ))) : List UInt32 :=
  parts.flatMap fun part => [Binary32.ofRat (mean (·.positionX) part),
    Binary32.ofRat (mean (·.positionY) part), Binary32.ofRat (mean (·.positionZ) part)]

/-- The colours of the facets of the parts. -/
def partColors (parts : List (List (CandidatePoint ℚ))) : List UInt8 :=
  (parts.map (facetOf (exactFunctions sqrt))).flatMap fun facet =>
    [facet.red, facet.green, facet.blue]

theorem floats_of_parts (parts : List (List (CandidatePoint ℚ))) :
    ((parts.map (facetOf (exactFunctions sqrt))).flatMap fun facet =>
      [(exactFunctions sqrt).toFloat32 facet.x, (exactFunctions sqrt).toFloat32 facet.y,
        (exactFunctions sqrt).toFloat32 facet.z]) = partFloats parts := by
  rw [List.flatMap_map, partFloats]
  refine List.flatMap_congr fun part _ => ?_
  simp only [facetOf, total_eq_sum, mean, exactFunctions]

/-- What a cloud has of facets. -/
theorem cloud_facets {target : Between 1 pointCloudFacetCeiling}
    (htarget : options.facetCount = some target) (hpoints : selectedPoints image options ≠ []) :
    let cloud := imageToPointCloudFromImage (exactFunctions sqrt) image options
    let parts := cloudParts sqrt image options target.1
    cloud.facetCount = some (parts.length : ℤ) ∧
      cloud.facetPositions = some (encodeFloat32Base64 (partFloats parts)) ∧
      cloud.facetColors = some (encodeUint8Base64 (partColors sqrt parts)) ∧
      cloud.encoding.facetPositions = some (js "base64:f32le") ∧
      cloud.encoding.facetColors = some (js "base64:u8") := by
  have hbaked : options.facetCount.bind (fun facetCount =>
      bakeFacets (exactFunctions sqrt) (selectedPoints image options) facetCount.1) = some
        ⟨(cloudParts sqrt image options target.1).length,
          encodeFloat32Base64 (partFloats (cloudParts sqrt image options target.1)),
          encodeUint8Base64 (partColors sqrt (cloudParts sqrt image options target.1))⟩ := by
    have hlength := List.length_pos_of_ne_nil hpoints
    have hone := target.2.1
    rw [htarget, Option.bind_some, bakeFacets, if_neg (by omega)]
    dsimp only
    rw [floats_of_parts, List.length_map]
    rfl
  dsimp only [imageToPointCloudFromImage]
  rw [← selectedPoints, hbaked]
  exact ⟨rfl, rfl, rfl, rfl, rfl⟩

theorem cloud_facets_none (hpoints : selectedPoints image options = []) :
    (imageToPointCloudFromImage (exactFunctions sqrt) image options).facetCount = none := by
  dsimp only [imageToPointCloudFromImage]
  rw [← selectedPoints, hpoints]
  cases options.facetCount with
  | none => rfl
  | some target =>
    rw [Option.bind_some, bakeFacets, if_pos (.inr rfl)]
    rfl

/-- The geometry that is measured of a cloud is that of its points. -/
theorem cloud_geometry (numbers : GateNumbers) {geometry : CloudGeometry}
    (h : (checkGeometry numbers
      (imageToPointCloudFromImage (exactFunctions sqrt) image options)).1 = some geometry)
    (hsmall : ∀ p ∈ selectedPoints image options,
      |p.positionX| ≤ 32 ∧ |p.positionY| ≤ 32 ∧ |p.positionZ| ≤ 32)
    {p : CandidatePoint ℚ} (hp : p ∈ selectedPoints image options) :
    ∃ box, geometry.box = some box ∧ ∀ q ∈ selectedPoints image options,
      Between3 box ⟨Binary32.rounded q.positionX, Binary32.rounded q.positionY,
        Binary32.rounded q.positionZ⟩ := by
  unfold checkGeometry at h
  cases hdecoded : decodeFloat32Base64 (imageToPointCloudFromImage (exactFunctions sqrt) image
      options).positions none with
  | error message =>
    rw [hdecoded] at h
    cases h
  | ok positions =>
    have hpositions : positions = (selectedPoints image options).flatMap fun p =>
        [Binary32.ofRat p.positionX, Binary32.ofRat p.positionY, Binary32.ofRat p.positionZ] :=
      encodeFloat32Base64_injective ((@decodeFloat32Base64_ok _ none _).1 hdecoded).1
    rw [hdecoded] at h
    dsimp only at h
    split at h
    · cases h
    · split at h
      · cases h
      · rw [← Option.some.inj h]
        have hmem : ∀ q ∈ selectedPoints image options,
            (⟨Binary32.rounded q.positionX, Binary32.rounded q.positionY,
              Binary32.rounded q.positionZ⟩ : Point) ∈
              (List.range (selectedPoints image options).length).filterMap (pointAt positions) := by
          intro q hq
          have hpoint := mem_pointsAt (fun p : CandidatePoint ℚ => p.positionX)
            (fun p => p.positionY) (fun p => p.positionZ) hq (hsmall q hq)
          rwa [← hpositions] at hpoint
        obtain ⟨box, hbox, hall⟩ := boxOf_mem (hmem p hp)
        exact ⟨box, hbox, fun q hq => hall _ (hmem q hq)⟩

/-- The facets of a cloud are as they should be: no more than the target, fewer than the points, the
means of the parts of a division of the points, between points of the cloud in each coordinate, and
the gate finds nothing in them. -/
structure FacetsPass (numbers : GateNumbers) (lowpoly : Bool)
    (textAt : List UInt32 → ℕ → JsString) (target : ℕ) (count : ℤ) : Prop where
  limited : count ≤ target
  fewer : count < (imageToPointCloudFromImage (exactFunctions sqrt) image options).pointCount
  means : ∃ parts : List (List (CandidatePoint ℚ)),
    parts.flatten.Perm (selectedPoints image options) ∧ (∀ part ∈ parts, part ≠ []) ∧
      (parts.length : ℤ) = count ∧
      (∃ text, (imageToPointCloudFromImage (exactFunctions sqrt) image options).facetPositions =
        some text ∧ decodeFloat32Base64 text (some (count * 3)) = .ok (partFloats parts)) ∧
      ∀ part ∈ parts, ∀ coordinate ∈ [CandidatePoint.positionX, CandidatePoint.positionY,
        CandidatePoint.positionZ],
        (∃ p ∈ selectedPoints image options, coordinate p ≤ mean coordinate part) ∧
          ∃ p ∈ selectedPoints image options, mean coordinate part ≤ coordinate p
  passed : checkFacets numbers (imageToPointCloudFromImage (exactFunctions sqrt) image options)
    (checkGeometry numbers
      (imageToPointCloudFromImage (exactFunctions sqrt) image options)).1 lowpoly textAt = []

/-- The means of the parts are between points. -/
theorem part_between (coordinate : CandidatePoint ℚ → ℚ) {target : ℕ}
    {part : List (CandidatePoint ℚ)} (hpart : part ∈ cloudParts sqrt image options target) :
    (∃ p ∈ selectedPoints image options, coordinate p ≤ mean coordinate part) ∧
      ∃ p ∈ selectedPoints image options, mean coordinate part ≤ coordinate p := by
  obtain ⟨hne, hsubset⟩ := facetParts_ne_nil sqrt (selectedPoints image options) target hpart
  obtain ⟨⟨p, hp, hlow⟩, q, hq, hhigh⟩ := mean_between coordinate hne
  exact ⟨⟨p, hsubset hp, hlow⟩, q, hsubset hq, hhigh⟩

theorem mean_small {coordinate : CandidatePoint ℚ → ℚ} {target : ℕ}
    {part : List (CandidatePoint ℚ)} (hpart : part ∈ cloudParts sqrt image options target)
    (hsmall : ∀ p ∈ selectedPoints image options, |coordinate p| ≤ 32) :
    |mean coordinate part| ≤ 32 := by
  obtain ⟨⟨p, hp, hlow⟩, q, hq, hhigh⟩ := part_between sqrt image options coordinate hpart
  exact abs_le.2 ⟨(abs_le.1 (hsmall p hp)).1.trans hlow, hhigh.trans (abs_le.1 (hsmall q hq)).2⟩

/-- The float of a mean is inside of the bounds of the floats. -/
theorem rounded_mean_between {coordinate : CandidatePoint ℚ → ℚ} {target : ℕ} {low high : ℚ}
    {part : List (CandidatePoint ℚ)} (hpart : part ∈ cloudParts sqrt image options target)
    (hbox : ∀ p ∈ selectedPoints image options, low ≤ Binary32.rounded (coordinate p) ∧
      Binary32.rounded (coordinate p) ≤ high) :
    low ≤ Binary32.rounded (mean coordinate part) ∧
      Binary32.rounded (mean coordinate part) ≤ high := by
  obtain ⟨⟨p, hp, hlow⟩, q, hq, hhigh⟩ := part_between sqrt image options coordinate hpart
  exact ⟨(hbox p hp).1.trans (Binary32.rounded_mono hlow),
    (Binary32.rounded_mono hhigh).trans (hbox q hq).2⟩

theorem length_partFloats (parts : List (List (CandidatePoint ℚ))) :
    (partFloats parts).length = parts.length * 3 := length_triples _ _ _ _

theorem length_partColors (parts : List (List (CandidatePoint ℚ))) :
    (partColors sqrt parts).length = parts.length * 3 := by
  rw [partColors, length_triples, List.length_map]

omit image options in
theorem insideBox_of_between (hypot : ℚ → ℚ → ℚ) (toFixed : ℚ → ℕ → JsString)
    (text : ℚ → JsString) {box : Box} {p : Point} (h : Between3 box p) :
    insideBox (exactNumbers sqrt hypot toFixed text) (some box) p = true := by
  obtain ⟨⟨hx, hx'⟩, ⟨hy, hy'⟩, hz, hz'⟩ := h
  have hlow {a b : ℚ} (h : a ≤ b) : decide (a - 1 / 1000 ≤ b) = true :=
    decide_eq_true (by linarith)
  have hhigh {a b : ℚ} (h : a ≤ b) : decide (a ≤ b + 1 / 1000) = true :=
    decide_eq_true (by linarith)
  rw [insideBox, Option.any_some]
  change (((((decide (box.min.x - 1 / 1000 ≤ p.x) && decide (p.x ≤ box.max.x + 1 / 1000)) &&
    decide (box.min.y - 1 / 1000 ≤ p.y)) && decide (p.y ≤ box.max.y + 1 / 1000)) &&
    decide (box.min.z - 1 / 1000 ≤ p.z)) && decide (p.z ≤ box.max.z + 1 / 1000)) = true
  rw [hlow hx, hhigh hx', hlow hy, hhigh hy', hlow hz, hhigh hz']
  rfl

/-- The facets lie inside of the box that the gate measures. -/
theorem facets_inside (hypot : ℚ → ℚ → ℚ) (toFixed : ℚ → ℕ → JsString) (text : ℚ → JsString)
    {target : ℕ} {geometry : CloudGeometry}
    (h : (checkGeometry (exactNumbers sqrt hypot toFixed text)
      (imageToPointCloudFromImage (exactFunctions sqrt) image options)).1 = some geometry)
    (hsmall : ∀ p ∈ selectedPoints image options,
      |p.positionX| ≤ 32 ∧ |p.positionY| ≤ 32 ∧ |p.positionZ| ≤ 32)
    {i : ℕ} (hi : i < (cloudParts sqrt image options target).length) :
    (pointAt (partFloats (cloudParts sqrt image options target)) i).any
      (insideBox (exactNumbers sqrt hypot toFixed text) geometry.box) = true := by
  have hpart := List.getElem_mem hi
  have hfloats := pointAt_floats (cloudParts sqrt image options target)
    (fun part => mean (·.positionX) part) (fun part => mean (·.positionY) part)
    (fun part => mean (·.positionZ) part) (List.getElem?_eq_getElem hi)
    ⟨mean_small sqrt image options hpart fun p hp => (hsmall p hp).1,
      mean_small sqrt image options hpart fun p hp => (hsmall p hp).2.1,
      mean_small sqrt image options hpart fun p hp => (hsmall p hp).2.2⟩
  rw [partFloats, hfloats, Option.any_some]
  have hnonempty := (facetParts_ne_nil sqrt (selectedPoints image options) target hpart)
  obtain ⟨p, hp⟩ := List.exists_mem_of_ne_nil _ hnonempty.1
  obtain ⟨box, hbox, hall⟩ := cloud_geometry sqrt image options _ h hsmall (hnonempty.2 hp)
  have hx := rounded_mean_between sqrt image options hpart fun q hq => (hall q hq).1
  have hy := rounded_mean_between sqrt image options hpart fun q hq => (hall q hq).2.1
  have hz := rounded_mean_between sqrt image options hpart fun q hq => (hall q hq).2.2
  rw [hbox]
  exact insideBox_of_between sqrt hypot toFixed text ⟨hx, hy, hz⟩

/-- The gate finds nothing in the facets when there are no more than the target and fewer than the
points. -/
theorem facets_gate (hypot : ℚ → ℚ → ℚ) (toFixed : ℚ → ℕ → JsString) (text : ℚ → JsString)
    (lowpoly : Bool) (textAt : List UInt32 → ℕ → JsString)
    {target : Between 1 pointCloudFacetCeiling} (htarget : options.facetCount = some target)
    (hsmall : ∀ p ∈ selectedPoints image options,
      |p.positionX| ≤ 32 ∧ |p.positionY| ≤ 32 ∧ |p.positionZ| ≤ 32)
    (hpoints : selectedPoints image options ≠ [])
    (hlimit : (cloudParts sqrt image options target.1).length ≤ target.1)
    (hfewer : (cloudParts sqrt image options target.1).length <
      (selectedPoints image options).length) :
    checkFacets (exactNumbers sqrt hypot toFixed text)
      (imageToPointCloudFromImage (exactFunctions sqrt) image options)
      (checkGeometry (exactNumbers sqrt hypot toFixed text)
        (imageToPointCloudFromImage (exactFunctions sqrt) image options)).1 lowpoly textAt =
          [] := by
  obtain ⟨hcount, hpositions, hcolors, hxyz, hrgb⟩ :=
    cloud_facets sqrt image options htarget hpoints
  have hceiling : target.1 ≤ 4000 := target.2.2
  have hparts : 1 ≤ (cloudParts sqrt image options target.1).length := by
    refine List.length_pos_of_ne_nil fun hnil => hpoints ?_
    have hperm := facetParts_perm sqrt (selectedPoints image options) target.1
    rw [← cloudParts, hnil] at hperm
    exact hperm.nil_eq.symm
  generalize hgeometry : (checkGeometry (exactNumbers sqrt hypot toFixed text)
    (imageToPointCloudFromImage (exactFunctions sqrt) image options)).1 = geometry
  have hroom : 4000 * 3 * 4 ≤ maxDecodedPointCloudBytes := by decide
  have hdecoded : decodeFloat32Base64
      (encodeFloat32Base64 (partFloats (cloudParts sqrt image options target.1))) none =
        .ok (partFloats (cloudParts sqrt image options target.1)) :=
    (@decodeFloat32Base64_ok _ none _).2
      ⟨rfl, fun _ h => (nomatch h), by rw [length_partFloats]; omega⟩
  have hdecodedColors : decodeUint8Base64
      (encodeUint8Base64 (partColors sqrt (cloudParts sqrt image options target.1))) none
        (js "facetColors") = .ok (partColors sqrt (cloudParts sqrt image options target.1)) :=
    (@decodeUint8Base64_ok _ _ none _).2
      ⟨rfl, fun _ h => (nomatch h), by rw [length_partColors]; omega⟩
  have hmaxFacets : pointCloudSceneBudgets.maxFacets = 4000 := rfl
  have hpointCount : (imageToPointCloudFromImage (exactFunctions sqrt) image options).pointCount =
    (selectedPoints image options).length := rfl
  rw [checkFacets, hcount, hpositions, hcolors, hxyz, hrgb]
  dsimp only
  rw [if_neg (by omega), hmaxFacets, hpointCount, errorIf,
    if_neg (by rw [decide_eq_true_iff]; omega), errorIf,
    if_neg (by rw [decide_eq_true_iff]; omega), if_neg (by simp), facetPayloadIssues, hdecoded,
    hdecodedColors]
  dsimp only
  rw [if_neg (by rw [length_partFloats, length_partColors]; push_cast; omega)]
  cases geometry with
  | none => rfl
  | some geometry =>
    have hnone : (List.range ((cloudParts sqrt image options target.1).length : ℤ).toNat).find?
        (fun i => !(pointAt (partFloats (cloudParts sqrt image options target.1)) i).any
          (insideBox (exactNumbers sqrt hypot toFixed text) geometry.box)) = none := by
      refine List.find?_eq_none.2 fun i hi => ?_
      rw [facets_inside sqrt image options hypot toFixed text hgeometry hsmall
        (List.mem_range.1 hi)]
      decide
    dsimp only
    rw [hnone]
    rfl

/-- No more cells than facets that were asked for have points, and two points share a cell. -/
def FacetsFit (selected : List (CandidatePoint ℚ)) (targetFacets : ℕ) : Prop :=
  (facetCells sqrt selected targetFacets).dedup.length ≤ targetFacets ∧
    ¬ (facetCells sqrt selected targetFacets).Nodup

/-- The facets of a cloud pass only when the cells are so. -/
theorem FacetsPass.cells {numbers : GateNumbers} {lowpoly : Bool}
    {textAt : List UInt32 → ℕ → JsString} {target : Between 1 pointCloudFacetCeiling}
    (htarget : options.facetCount = some target) (hpoints : selectedPoints image options ≠ [])
    (h : ∀ count ∈ (imageToPointCloudFromImage (exactFunctions sqrt) image options).facetCount,
      FacetsPass sqrt image options numbers lowpoly textAt target.1 count) :
    FacetsFit sqrt (selectedPoints image options) target.1 := by
  have hpass := h _ (cloud_facets sqrt image options htarget hpoints).1
  have hlength : (cloudParts sqrt image options target.1).length =
      (facetCells sqrt (selectedPoints image options) target.1).dedup.length :=
    length_facetParts sqrt _ _
  refine ⟨?_, (dedup_length_lt_iff _).1 ?_⟩
  · rw [← hlength]
    exact Int.ofNat_le.1 hpass.limited
  · rw [← hlength, facetCells, List.length_map]
    exact Int.ofNat_lt.1 hpass.fewer

/-- The facets of a cloud pass the gate, as the means of fewer parts of its points than there are
points, exactly when there are no points, or no more of the cells of the grid than facets that were
asked for have points and two points share a cell. -/
theorem facetsPass_iff (hypot : ℚ → ℚ → ℚ) (toFixed : ℚ → ℕ → JsString) (text : ℚ → JsString)
    (lowpoly : Bool) (textAt : List UInt32 → ℕ → JsString) {raw : ImageToPointCloudOptions ℚ}
    (hoptions : normalizeOptions integerOf (fun _ => true) raw = .ok options)
    {target : Between 1 pointCloudFacetCeiling} (htarget : options.facetCount = some target) :
    (∀ count ∈ (imageToPointCloudFromImage (exactFunctions sqrt) image options).facetCount,
      FacetsPass sqrt image options (exactNumbers sqrt hypot toFixed text) lowpoly textAt target.1
        count) ↔
      selectedPoints image options = [] ∨
        FacetsFit sqrt (selectedPoints image options) target.1 := by
  by_cases hpoints : selectedPoints image options = []
  · refine iff_of_true (fun count hcount => ?_) (.inl hpoints)
    rw [cloud_facets_none sqrt image options hpoints] at hcount
    exact (nomatch hcount)
  · refine ⟨fun h => .inr (FacetsPass.cells sqrt image options htarget hpoints h), fun h => ?_⟩
    obtain ⟨hlimit, hshared⟩ := h.resolve_left hpoints
    have hlength : (cloudParts sqrt image options target.1).length =
        (facetCells sqrt (selectedPoints image options) target.1).dedup.length :=
      length_facetParts sqrt _ _
    have hfewer : (cloudParts sqrt image options target.1).length <
        (selectedPoints image options).length := by
      have hlt := (dedup_length_lt_iff _).2 hshared
      rwa [← hlength, facetCells, List.length_map] at hlt
    rw [← hlength] at hlimit
    have hsmall : ∀ p ∈ selectedPoints image options,
        |p.positionX| ≤ 32 ∧ |p.positionY| ≤ 32 ∧ |p.positionZ| ≤ 32 := fun p hp =>
      candidate_small (depthAmp_range hoptions) ((selection_sound image options).chosen.subset hp)
    obtain ⟨hcount, hpositions, -⟩ := cloud_facets sqrt image options htarget hpoints
    intro count hmem
    obtain rfl : ((cloudParts sqrt image options target.1).length : ℤ) = count := by
      rw [hcount] at hmem
      exact Option.some.inj hmem
    have hceiling : target.1 ≤ 4000 := target.2.2
    have hroom : 4000 * 3 * 4 ≤ maxDecodedPointCloudBytes := by decide
    refine ⟨Int.ofNat_le.2 hlimit, Int.ofNat_lt.2 hfewer, ⟨cloudParts sqrt image options target.1,
      facetParts_perm sqrt _ _, fun part hpart => (facetParts_ne_nil sqrt _ _ hpart).1, rfl,
      ⟨_, hpositions, ?_⟩,
      fun part hpart coordinate _ => part_between sqrt image options coordinate hpart⟩,
      facets_gate sqrt image options hypot toFixed text lowpoly textAt htarget hsmall hpoints
        hlimit hfewer⟩
    refine (@decodeFloat32Base64_ok _
      (some ((cloudParts sqrt image options target.1).length * 3)) _).2 ⟨rfl, ?_, ?_⟩
    · rintro _ ⟨⟩
      exact length_partFloats _
    · rw [length_partFloats]
      omega

end cloud

/-! ## Small clouds -/

instance (sqrt : ℚ → ℚ) (selected : List (CandidatePoint ℚ)) (targetFacets : ℕ) :
    Decidable (FacetsFit sqrt selected targetFacets) := inferInstanceAs (Decidable (_ ∧ _))

/-- The facet of two pixels passes. -/
theorem facetsPass_two_pixels :
    normalizeOptions integerOf (fun _ => true) (facetOptions 1) =
        .ok (normalizedFacetOptions ⟨1, by decide⟩) ∧
      ∀ count ∈ (imageToPointCloudFromImage (exactFunctions sampleSqrt) (whiteImage 2 1)
          (normalizedFacetOptions ⟨1, by decide⟩)).facetCount,
        FacetsPass sampleSqrt (whiteImage 2 1) (normalizedFacetOptions ⟨1, by decide⟩) sampleNumbers
          true (fun _ _ => []) 1 count :=
  ⟨rfl, (facetsPass_iff sampleSqrt (whiteImage 2 1) (normalizedFacetOptions ⟨1, by decide⟩) _ _ _
    true (fun _ _ => [])
    (show normalizeOptions integerOf (fun _ => true) (facetOptions 1) = _ from rfl)
    (show _ = some (⟨1, by decide⟩ : Between 1 pointCloudFacetCeiling) from rfl)).2
      (.inr (by decide +kernel))⟩

/-- The facet of a single pixel does not, because there are as many facets as points, and of six
pixels there are four facets where three were asked for. -/
theorem facets_not_passed :
    (normalizeOptions integerOf (fun _ => true) (facetOptions 1) =
        .ok (normalizedFacetOptions ⟨1, by decide⟩) ∧
      ¬ ∀ count ∈ (imageToPointCloudFromImage (exactFunctions sampleSqrt) (whiteImage 1 1)
          (normalizedFacetOptions ⟨1, by decide⟩)).facetCount,
        FacetsPass sampleSqrt (whiteImage 1 1) (normalizedFacetOptions ⟨1, by decide⟩) sampleNumbers
          true (fun _ _ => []) 1 count) ∧
    normalizeOptions integerOf (fun _ => true) (facetOptions 3) =
        .ok (normalizedFacetOptions ⟨3, by decide⟩) ∧
      ¬ ∀ count ∈ (imageToPointCloudFromImage (exactFunctions sampleSqrt) (whiteImage 3 2)
          (normalizedFacetOptions ⟨3, by decide⟩)).facetCount,
        FacetsPass sampleSqrt (whiteImage 3 2) (normalizedFacetOptions ⟨3, by decide⟩) sampleNumbers
          true (fun _ _ => []) 3 count := by
  have hpoints {image : RgbaImage} {options : NormalizedOptions ℚ}
      (h : (selectedPoints image options).length ≠ 0) : selectedPoints image options ≠ [] :=
    fun hnil => h (by rw [hnil]; rfl)
  have htarget (target : Between 1 pointCloudFacetCeiling) :
      (normalizedFacetOptions target).facetCount = some target := rfl
  refine ⟨⟨rfl, fun h => ?_⟩, rfl, fun h => ?_⟩
  · have hfit := FacetsPass.cells sampleSqrt _ (normalizedFacetOptions ⟨1, by decide⟩)
      (htarget ⟨1, by decide⟩) (hpoints (by decide +kernel)) h
    revert hfit
    decide +kernel
  · have hfit := FacetsPass.cells sampleSqrt _ (normalizedFacetOptions ⟨3, by decide⟩)
      (htarget ⟨3, by decide⟩) (hpoints (by decide +kernel)) h
    revert hfit
    decide +kernel

end PointClouds
end Autopilot
