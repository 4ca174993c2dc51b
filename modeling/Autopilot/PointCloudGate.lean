/-
The gate for the scenes of point clouds (`check-point-cloud-scene.ts`).

A stored cloud is not trusted: its positions, facets and edges are decoded and measured. The colours
and the sizes of the points are counted by the length of their text only. What is measured are
floats of 32 bits, so their values are known, and what is computed from them is rounded.

The checks of the page, of the source of the image and of the texts are left to others.
-/
import Autopilot.PointClouds

set_option autoImplicit false

namespace Autopilot
namespace PointClouds

/-! ## The code -/

/-- `POINT_CLOUD_SCENE_BUDGETS`. -/
structure PointCloudSceneBudgets where
  maxPoints : ℕ := 24000
  maxFacets : ℕ := 4000
  maxEdges : ℕ := 18000
  maxPayloadBytes : ℕ := 384 * 1024
  maxSourcePixels : ℕ := 4000000
  maxDepthAmp : ℕ := 4
  maxEffectiveDepth : ℕ := 6
  glyphPointFloor : ℕ := 1500

def pointCloudSceneBudgets : PointCloudSceneBudgets := {}

/-- `RenderContractIssue`, of the severity of an error. -/
structure RenderContractIssue where
  code : JsString
  message : JsString
  deriving DecidableEq

/-- The functions on numbers. `round` gives the double that a result is rounded to. -/
structure GateNumbers where
  round : ℚ → ℚ
  sqrt : ℚ → ℚ
  hypot : ℚ → ℚ → ℚ
  toFixed : ℚ → ℕ → JsString
  text : ℚ → JsString

/-- What the gate reads of the declaration of a scene. -/
structure PointCloudSceneDeclaration where
  role : JsString
  ariaHidden : Bool
  parallaxGain : Option ℚ

/-- The issues of the checks that are left to others, and `data-density="lowpoly"` on the page. -/
structure ScenePage where
  issues : List RenderContractIssue
  lowpoly : Bool

/-- A point that was decoded. -/
abbrev Point := Vector3 ℚ

/-- The box around the points. A cloud without points has none, and nothing is inside of it. -/
abbrev Box := PointCloudBounds ℚ

/-- `CloudGeometry`. -/
structure CloudGeometry where
  positions : List UInt32
  box : Option Box

/-- A point, if its coordinates are finite. -/
def pointAt (positions : List UInt32) (i : ℕ) : Option Point := do
  let x ← Binary32.value (positions.getD (i * 3) 0)
  let y ← Binary32.value (positions.getD (i * 3 + 1) 0)
  let z ← Binary32.value (positions.getD (i * 3 + 2) 0)
  return ⟨x, y, z⟩

/-- The box around a list of points. -/
def boxOf : List Point → Option Box
  | [] => none
  | p :: rest => some
    { min := ⟨lowest p.x (rest.map (·.x)), lowest p.y (rest.map (·.y)), lowest p.z (rest.map (·.z))⟩
      max := ⟨highest p.x (rest.map (·.x)), highest p.y (rest.map (·.y)),
        highest p.z (rest.map (·.z))⟩ }

def errorIf (condition : Bool) (code : String) (message : JsString) : List RenderContractIssue :=
  if condition then [⟨js code, message⟩] else []

section gate

variable (numbers : GateNumbers)

/-- The xy range of a cloud is not inside of the hull. -/
def outsideHull (box : Box) : Bool :=
  box.min.x < -1 || 1 < box.max.x || box.min.y < -1 || 1 < box.max.y

/-- What `checkGeometry` says about the box. -/
def boxIssues (box : Option Box) : List RenderContractIssue :=
  match box with
  | none => []
  | some box =>
    let zRange := numbers.round (box.max.z - box.min.z)
    errorIf (outsideHull box) "cloud_geometry_invalid"
      (js "positions xy range [" ++ numbers.toFixed box.min.x 2 ++ js "," ++
        numbers.toFixed box.max.x 2 ++ js "]×[" ++ numbers.toFixed box.min.y 2 ++ js "," ++
        numbers.toFixed box.max.y 2 ++ js "] is outside the normalized [-1,1] hull.") ++
    errorIf (pointCloudSceneBudgets.maxEffectiveDepth < zRange) "cloud_geometry_invalid"
      (js "actual positions z-range " ++ numbers.toFixed zRange 2 ++ js " is over the " ++
        numberText pointCloudSceneBudgets.maxEffectiveDepth ++
        js " depth budget (the real buffer is measured, not the declared stats).")

/-- `checkGeometry`, with the issues. -/
def checkGeometry (encoded : EncodedPointCloud ℚ) :
    Option CloudGeometry × List RenderContractIssue :=
  match decodeFloat32Base64 encoded.positions none with
  | .error _ => (none, [⟨js "cloud_geometry_invalid",
      js "positions payload is not decodable base64:f32le."⟩])
  | .ok positions =>
    if (positions.length : ℤ) ≠ encoded.pointCount * 3 then
      (none, [⟨js "cloud_geometry_invalid",
        js "declared pointCount " ++ numberText encoded.pointCount ++
          js " but positions decode to " ++ numberText (positions.length / 3 : ℕ) ++
          js " points — declared count and buffer disagree."⟩])
    else
      let indexes := List.range encoded.pointCount.toNat
      match indexes.find? fun i => (pointAt positions i).isNone with
      | some i => (none, [⟨js "cloud_geometry_invalid",
          js "positions contain a non-finite coordinate at point " ++ numberText i ++
            js " (NaN/Infinity)."⟩])
      | none =>
        let box := boxOf (indexes.filterMap (pointAt positions))
        (some ⟨positions, box⟩, boxIssues numbers box)

/-- What is wrong with an edge, if something is. -/
def edgeIssue (pointCount : ℤ) (geometry : Option CloudGeometry) (e : ℕ) (pair : ℕ × ℕ) :
    Option RenderContractIssue :=
  let span := ((geometry.bind (·.box)).map fun box =>
    orOne (numbers.hypot (numbers.round (box.max.x - box.min.x))
      (numbers.round (box.max.y - box.min.y)))).getD 0
  let maxEdgeLen :=
    numbers.round (numbers.round (span / numbers.sqrt (max 1 pointCount : ℤ)) * 12)
  if pointCount ≤ pair.1 ∨ pointCount ≤ pair.2 then
    some ⟨js "cloud_edges_invalid",
      js "edge index " ++ numberText (max pair.1 pair.2 : ℕ) ++
        js " references a point outside the " ++ numberText pointCount ++
        js "-point cloud (dangling endpoint)."⟩
  else if pair.1 = pair.2 then
    some ⟨js "cloud_edges_invalid",
      js "edge " ++ numberText e ++ js " is a self-loop (index " ++ numberText pair.1 ++
        js " to itself); edges must connect two distinct points."⟩
  else
    match geometry with
    | none => none
    | some geometry =>
      let number (index : ℕ) : ℚ := (Binary32.value (geometry.positions.getD index 0)).getD 0
      let length := numbers.hypot
        (numbers.round (number (pair.1 * 3) - number (pair.2 * 3)))
        (numbers.round (number (pair.1 * 3 + 1) - number (pair.2 * 3 + 1)))
      if maxEdgeLen < length then
        some ⟨js "cloud_edges_invalid",
          js "edge " ++ numberText e ++ js " spans " ++ numbers.toFixed length 3 ++
            js " units, over the " ++ numbers.toFixed maxEdgeLen 3 ++
            js " k-NN length bound — long edges can wire a sparse subset into legible text."⟩
      else none

/-- What `checkEdges` says about the payload of the edges. -/
def edgePayloadIssues (encoded : EncodedPointCloud ℚ) (geometry : Option CloudGeometry)
    (edgeCount : ℤ) (edges : JsString) : List RenderContractIssue :=
  match decodeUint16Base64 edges (js "edges") with
  | .error _ =>
    [⟨js "cloud_edges_invalid", js "edges payload is not decodable base64:u16le."⟩]
  | .ok decoded =>
    if (decoded.length : ℤ) ≠ edgeCount * 2 then
      [⟨js "cloud_edges_invalid",
        js "edges payload has " ++ numberText decoded.length ++ js " indices, expected " ++
          numberText (edgeCount * 2) ++
          js " (2 per declared edge) — declared count and payload disagree."⟩]
    else
      ((pairsOf decoded).zipIdx.findSome? fun edge =>
        edgeIssue numbers encoded.pointCount geometry edge.2 edge.1).toList

/-- `checkEdges`. -/
def checkEdges (encoded : EncodedPointCloud ℚ) (geometry : Option CloudGeometry) :
    List RenderContractIssue :=
  match encoded.edgeCount, encoded.edges with
  | none, none => []
  | some edgeCount, some edges =>
    if edgeCount < 1 then
      [⟨js "cloud_edges_invalid",
        js "edgeCount must be a positive integer; got " ++ numberText edgeCount ++ js "."⟩]
    else
      errorIf (encoded.pointCount < pointCloudSceneBudgets.glyphPointFloor) "cloud_edges_invalid"
        (js "Edges require a cloud of at least " ++
          numberText pointCloudSceneBudgets.glyphPointFloor ++
          js " points (a sparse wireframe could otherwise form legible glyphs); cloud has " ++
          numberText encoded.pointCount ++ js ".") ++
      errorIf (pointCloudSceneBudgets.maxEdges < edgeCount) "cloud_edges_invalid"
        (js "edgeCount " ++ numberText edgeCount ++ js " is over the " ++
          numberText pointCloudSceneBudgets.maxEdges ++ js " edge ceiling.") ++
      if encoded.encoding.edges ≠ some (js "base64:u16le") then
        [⟨js "cloud_edges_invalid",
          js "edges must be encoded base64:u16le; got " ++
            encoded.encoding.edges.getD (js "undefined") ++ js "."⟩]
      else edgePayloadIssues numbers encoded geometry edgeCount edges
  | _, _ =>
    [⟨js "cloud_edges_invalid", js "Edge list must declare edgeCount and edges together; " ++
      js "a partial edge payload is rejected."⟩]

/-- A facet lies inside of the box, with a tolerance. -/
def insideBox (box : Option Box) (p : Point) : Bool :=
  let eps := numbers.round (1 / 1000)
  box.any fun box =>
    numbers.round (box.min.x - eps) ≤ p.x && p.x ≤ numbers.round (box.max.x + eps) &&
      numbers.round (box.min.y - eps) ≤ p.y && p.y ≤ numbers.round (box.max.y + eps) &&
      numbers.round (box.min.z - eps) ≤ p.z && p.z ≤ numbers.round (box.max.z + eps)

/-- What `checkFacets` says about the payloads of the facets. -/
def facetPayloadIssues (geometry : Option CloudGeometry) (facetCount : ℤ)
    (facetPositions facetColors : JsString) (textAt : List UInt32 → ℕ → JsString) :
    List RenderContractIssue :=
  match decodeFloat32Base64 facetPositions none,
      decodeUint8Base64 facetColors none (js "facetColors") with
  | .ok facetXyz, .ok facetRgb =>
    if (facetXyz.length : ℤ) ≠ facetCount * 3 ∨ (facetRgb.length : ℤ) ≠ facetCount * 3 then
      [⟨js "cloud_facets_invalid",
        js "facet payload decodes to " ++ numbers.text (facetXyz.length / 3) ++
          js " position / " ++ numbers.text (facetRgb.length / 3) ++
          js " colour facets, not the declared " ++ numberText facetCount ++ js "."⟩]
    else
      match geometry with
      | none => []
      | some geometry =>
        match (List.range facetCount.toNat).find? fun i =>
            !(pointAt facetXyz i).any (insideBox numbers geometry.box) with
        | some i => [⟨js "cloud_facets_invalid",
            js "facet " ++ numberText i ++ js " at " ++ textAt facetXyz i ++
              js " lies outside the cloud bbox — facets must be a centroid decimation of the " ++
              js "SAME image, not new geometry."⟩]
        | none => []
  | _, _ => [⟨js "cloud_facets_invalid",
      js "facet payload is not decodable (facetPositions f32le / facetColors u8)."⟩]

/-- `checkFacets`. The text of a facet that is outside is given. -/
def checkFacets (encoded : EncodedPointCloud ℚ) (geometry : Option CloudGeometry) (lowpoly : Bool)
    (textAt : List UInt32 → ℕ → JsString) : List RenderContractIssue :=
  match encoded.facetCount, encoded.facetPositions, encoded.facetColors with
  | none, none, none =>
    errorIf lowpoly "cloud_facets_invalid"
      (js "scene declares data-density=\"lowpoly\" but the asset carries no facet bake; " ++
        js "the engine would silently render the full cloud.")
  | some facetCount, some facetPositions, some facetColors =>
    if facetCount < 1 then
      [⟨js "cloud_facets_invalid",
        js "facetCount must be a positive integer; got " ++ numberText facetCount ++ js "."⟩]
    else
      errorIf (pointCloudSceneBudgets.maxFacets < facetCount) "cloud_facets_invalid"
        (js "facetCount " ++ numberText facetCount ++ js " is over the " ++
          numberText pointCloudSceneBudgets.maxFacets ++ js " lowpoly-facet ceiling.") ++
      errorIf (encoded.pointCount ≤ facetCount) "cloud_facets_invalid"
        (js "Lowpoly facets (" ++ numberText facetCount ++
          js ") must be a strict decimation of the " ++ numberText encoded.pointCount ++
          js "-point cloud (fewer points), not an equal or larger set.") ++
      if encoded.encoding.facetPositions ≠ some (js "base64:f32le") ∨
          encoded.encoding.facetColors ≠ some (js "base64:u8") then
        [⟨js "cloud_facets_invalid",
          js "facets must declare encoding.facetPositions=\"base64:f32le\" and " ++
            js "encoding.facetColors=\"base64:u8\"; got " ++
            encoded.encoding.facetPositions.getD (js "undefined") ++ js "/" ++
            encoded.encoding.facetColors.getD (js "undefined") ++ js "."⟩]
      else facetPayloadIssues numbers geometry facetCount facetPositions facetColors textAt
  | _, _, _ =>
    [⟨js "cloud_facets_invalid",
      js "Lowpoly facets must declare facetCount, facetPositions and facetColors together; " ++
        js "a partial facet payload is rejected."⟩]

/-- `checkDecorative`. -/
def checkDecorative (declaration : PointCloudSceneDeclaration) : List RenderContractIssue :=
  errorIf (declaration.role ≠ js "decorative") "cloud_not_decorative"
    (js "Point-cloud scene role must be \"decorative\" (never the sole representation of " ++
      js "content); got \"" ++ declaration.role ++ js "\".") ++
  errorIf (!declaration.ariaHidden) "cloud_not_decorative"
    (js "Point-cloud canvas must be aria-hidden so it is not read as primary content.")

/-- `checkBudgets`. -/
def checkBudgets (encoded : EncodedPointCloud ℚ) : List RenderContractIssue :=
  let length (payload : Option JsString) : ℕ := (payload.map List.length).getD 0
  let payloadBytes := encoded.positions.length + encoded.colors.length + length encoded.sizes +
    length encoded.facetPositions + length encoded.facetColors + length encoded.edges
  let sourcePixels := encoded.stats.dims.width * encoded.stats.dims.height
  errorIf (pointCloudSceneBudgets.maxPoints < encoded.pointCount) "cloud_pointcount_over_budget"
    (js "Point cloud has " ++ numberText encoded.pointCount ++ js " points, over the " ++
      numberText pointCloudSceneBudgets.maxPoints ++ js " hero budget.") ++
  errorIf (pointCloudSceneBudgets.maxPayloadBytes < payloadBytes) "cloud_payload_over_budget"
    (js "Inline cloud payload is " ++ numberText payloadBytes ++ js " base64 chars, over the " ++
      numberText pointCloudSceneBudgets.maxPayloadBytes ++ js "-byte budget.") ++
  errorIf (pointCloudSceneBudgets.maxSourcePixels < sourcePixels) "cloud_payload_over_budget"
    (js "Source image is " ++ numberText sourcePixels ++ js "px (" ++
      numberText encoded.stats.dims.width ++ js "x" ++ numberText encoded.stats.dims.height ++
      js "), over the " ++ numberText pointCloudSceneBudgets.maxSourcePixels ++ js "px budget.")

/-- `checkDepth`. -/
def checkDepth (encoded : EncodedPointCloud ℚ) (declaration : PointCloudSceneDeclaration) :
    List RenderContractIssue :=
  let depthAmp := encoded.stats.optionsSummary.depthAmp
  let gain := declaration.parallaxGain.getD 1
  let effective := numbers.round (depthAmp * gain)
  let zRange := numbers.round (encoded.stats.bbox.max.z - encoded.stats.bbox.min.z)
  let budget : ℚ := pointCloudSceneBudgets.maxEffectiveDepth
  let budgetText := numberText pointCloudSceneBudgets.maxEffectiveDepth
  errorIf (pointCloudSceneBudgets.maxDepthAmp < depthAmp) "cloud_depth_over_budget"
    (js "depthAmp " ++ numbers.text depthAmp ++ js " is over the " ++
      numberText pointCloudSceneBudgets.maxDepthAmp ++
      js " budget (luma-driven z would exceed the xy normalization).") ++
  (if gain < 0 then
    [⟨js "cloud_depth_over_budget",
      js "parallax_gain must be a finite, non-negative number; got " ++ numbers.text gain ++
        js "."⟩]
  else errorIf (budget < effective) "cloud_depth_over_budget"
    (js "Effective depth depthAmp×parallax_gain = " ++ numbers.text effective ++
      js " is over the " ++ budgetText ++ js " budget.")) ++
  errorIf (budget < zRange) "cloud_depth_over_budget"
    (js "Point-cloud z-range " ++ numbers.text zRange ++ js " is over the " ++ budgetText ++
      js " budget.")

/-- `validatePointCloudScene`, the errors. -/
def validatePointCloudScene (encoded : EncodedPointCloud ℚ)
    (declaration : PointCloudSceneDeclaration) (page : ScenePage)
    (textAt : List UInt32 → ℕ → JsString) : List RenderContractIssue :=
  let geometry := checkGeometry numbers encoded
  checkDecorative declaration ++ checkBudgets encoded ++ checkDepth numbers encoded declaration ++
    page.issues ++ geometry.2 ++ checkFacets numbers encoded geometry.1 page.lowpoly textAt ++
    checkEdges numbers encoded geometry.1

end gate

/-! ## Exact arithmetic -/

/-- The functions of the gate, without rounding. -/
def exactNumbers (sqrt : ℚ → ℚ) (hypot : ℚ → ℚ → ℚ) (toFixed : ℚ → ℕ → JsString)
    (text : ℚ → JsString) : GateNumbers where
  round := id
  sqrt
  hypot
  toFixed
  text

/-- The functions of the gate on the small clouds. -/
def sampleNumbers : GateNumbers :=
  exactNumbers sampleSqrt (fun x y => sampleSqrt (x * x + y * y)) (fun q _ => numberText ⌊q⌋)
    fun q => numberText ⌊q⌋

/-! ## Boxes -/

/-- What is picked from a list, one by one, is related to all that was picked from. -/
theorem foldl_pick {r : ℚ → ℚ → Prop} (hrefl : ∀ x, r x x)
    (htrans : ∀ {x y z}, r x y → r y z → r x z) {pick : ℚ → ℚ → ℚ} (hleft : ∀ m y, r (pick m y) m)
    (hright : ∀ m y, r (pick m y) y) (m : ℚ) (l : List ℚ) :
    ∀ x ∈ m :: l, r (l.foldl pick m) x := by
  induction l generalizing m with
  | nil =>
    intro x hx
    rw [List.mem_singleton.1 hx]
    exact hrefl m
  | cons y l ih =>
    have hfirst := ih (pick m y) _ List.mem_cons_self
    rw [List.forall_mem_cons, List.forall_mem_cons]
    exact ⟨htrans hfirst (hleft m y), htrans hfirst (hright m y),
      fun x hx => ih _ x (List.mem_cons_of_mem _ hx)⟩

theorem lowest_le (m : ℚ) (l : List ℚ) : ∀ x ∈ m :: l, lowest m l ≤ x := by
  refine foldl_pick le_refl le_trans (fun m y => ?_) (fun m y => ?_) m l
  all_goals split
  · exact le_of_lt ‹_›
  · exact le_refl _
  · exact le_refl _
  · exact not_lt.1 ‹_›

theorem le_highest (m : ℚ) (l : List ℚ) : ∀ x ∈ m :: l, x ≤ highest m l := by
  refine foldl_pick (r := (· ≥ ·)) le_refl (fun h h' => h'.trans h) (fun m y => ?_)
    (fun m y => ?_) m l
  all_goals split
  · exact le_of_lt ‹_›
  · exact le_refl _
  · exact le_refl _
  · exact not_lt.1 ‹_›

/-- One point lies between two others in each direction. -/
def Between3 (box : Box) (p : Point) : Prop :=
  (box.min.x ≤ p.x ∧ p.x ≤ box.max.x) ∧ (box.min.y ≤ p.y ∧ p.y ≤ box.max.y) ∧
    box.min.z ≤ p.z ∧ p.z ≤ box.max.z

/-- The points lie in their box. -/
theorem boxOf_mem {points : List Point} {p : Point} (h : p ∈ points) :
    ∃ box, boxOf points = some box ∧ ∀ q ∈ points, Between3 box q := by
  cases points with
  | nil => exact absurd h List.not_mem_nil
  | cons first rest =>
    refine ⟨_, rfl, fun q hq => ?_⟩
    have hcoordinate (f : Point → ℚ) : f q ∈ f first :: rest.map f := by
      rw [← List.map_cons]
      exact List.mem_map_of_mem hq
    exact ⟨⟨lowest_le _ _ _ (hcoordinate (·.x)), le_highest _ _ _ (hcoordinate (·.x))⟩,
      ⟨lowest_le _ _ _ (hcoordinate (·.y)), le_highest _ _ _ (hcoordinate (·.y))⟩,
      lowest_le _ _ _ (hcoordinate (·.z)), le_highest _ _ _ (hcoordinate (·.z))⟩

/-! ## What the gate accepts -/

section accepted

variable {numbers : GateNumbers} {encoded : EncodedPointCloud ℚ}

theorem errorIf_nil {condition : Bool} {code : String} {message : JsString} :
    errorIf condition code message = [] ↔ condition = false := by
  unfold errorIf
  cases condition
  · simp
  · simp

/-- The points that positions give. -/
def pointsOf (encoded : EncodedPointCloud ℚ) (positions : List UInt32) : List Point :=
  (List.range encoded.pointCount.toNat).filterMap (pointAt positions)

/-- The positions are those of the points of the cloud, finite, in the hull and not too deep. -/
structure PositionsSound (numbers : GateNumbers) (encoded : EncodedPointCloud ℚ)
    (positions : List UInt32) : Prop where
  counted : (positions.length : ℤ) = encoded.pointCount * 3
  decoded : decodeFloat32Base64 encoded.positions (some (encoded.pointCount * 3)) = .ok positions
  finite : ∀ i < encoded.pointCount.toNat, ∃ p, pointAt positions i = some p
  hull : ∀ p ∈ pointsOf encoded positions, (-1 ≤ p.x ∧ p.x ≤ 1) ∧ -1 ≤ p.y ∧ p.y ≤ 1
  depth : ∀ box ∈ boxOf (pointsOf encoded positions),
    numbers.round (box.max.z - box.min.z) ≤ pointCloudSceneBudgets.maxEffectiveDepth

/-- The facets are fewer than the points, finite and inside of the box of the points, with the
tolerance of the gate. -/
def FacetsSound (numbers : GateNumbers) (encoded : EncodedPointCloud ℚ)
    (positions : List UInt32) : Prop :=
  (encoded.facetCount = none ∧ encoded.facetPositions = none ∧ encoded.facetColors = none) ∨
    ∃ facetCount facetPositions facetColors facetXyz facetRgb,
      encoded.facetCount = some facetCount ∧ encoded.facetPositions = some facetPositions ∧
        encoded.facetColors = some facetColors ∧ 1 ≤ facetCount ∧
        facetCount < encoded.pointCount ∧
        decodeFloat32Base64 facetPositions none = .ok facetXyz ∧
        decodeUint8Base64 facetColors none (js "facetColors") = .ok facetRgb ∧
        (facetXyz.length : ℤ) = facetCount * 3 ∧ (facetRgb.length : ℤ) = facetCount * 3 ∧
        ∀ i < facetCount.toNat, ∃ p, pointAt facetXyz i = some p ∧
          insideBox numbers (boxOf (pointsOf encoded positions)) p = true

/-- The edges join two distinct points of the cloud. -/
def EdgesSound (encoded : EncodedPointCloud ℚ) : Prop :=
  (encoded.edgeCount = none ∧ encoded.edges = none) ∨
    ∃ edgeCount edges decoded, encoded.edgeCount = some edgeCount ∧ encoded.edges = some edges ∧
      1 ≤ edgeCount ∧ decodeUint16Base64 edges (js "edges") = .ok decoded ∧
      (decoded.length : ℤ) = edgeCount * 2 ∧
      ∀ pair ∈ pairsOf decoded, pair.1 ≠ pair.2 ∧ (pair.1 : ℤ) < encoded.pointCount ∧
        (pair.2 : ℤ) < encoded.pointCount

theorem box_inside {points : List Point}
    (h : boxIssues numbers (boxOf points) = []) :
    (∀ p ∈ points, (-1 ≤ p.x ∧ p.x ≤ 1) ∧ -1 ≤ p.y ∧ p.y ≤ 1) ∧
      ∀ box ∈ boxOf points,
        numbers.round (box.max.z - box.min.z) ≤ pointCloudSceneBudgets.maxEffectiveDepth := by
  cases hbox : boxOf points with
  | none =>
    refine ⟨fun p hp => ?_, fun _ h => (nomatch h)⟩
    obtain ⟨box, hsome, -⟩ := boxOf_mem hp
    rw [hbox] at hsome
    cases hsome
  | some box =>
    rw [hbox, boxIssues] at h
    obtain ⟨hhull, hdepth⟩ := List.append_eq_nil_iff.1 h
    have hinside := errorIf_nil.1 hhull
    simp only [outsideHull, Bool.or_eq_false_iff, decide_eq_false_iff_not, not_lt] at hinside
    obtain ⟨⟨⟨hminX, hmaxX⟩, hminY⟩, hmaxY⟩ := hinside
    constructor
    · intro p hp
      obtain ⟨same, hsame, hall⟩ := boxOf_mem hp
      obtain rfl : box = same := Option.some.inj (hbox ▸ hsame)
      obtain ⟨⟨hx, hx'⟩, ⟨hy, hy'⟩, -⟩ := hall p hp
      exact ⟨⟨hminX.trans hx, hx'.trans hmaxX⟩, hminY.trans hy, hy'.trans hmaxY⟩
    · intro same hsame
      obtain rfl : box = same := Option.some.inj hsame
      exact not_lt.1 (of_decide_eq_false (errorIf_nil.1 hdepth))

/-- `checkGeometry` measures the box of the positions, if it finds nothing. -/
theorem checkGeometry_sound (h : (checkGeometry numbers encoded).2 = []) :
    ∃ positions, PositionsSound numbers encoded positions ∧
      (checkGeometry numbers encoded).1 = some ⟨positions, boxOf (pointsOf encoded positions)⟩ := by
  unfold checkGeometry at h ⊢
  cases hdecoded : decodeFloat32Base64 encoded.positions none with
  | error message =>
    rw [hdecoded] at h
    exact absurd h (List.cons_ne_nil _ _)
  | ok positions =>
    rw [hdecoded] at h
    dsimp only at h ⊢
    by_cases hlength : (positions.length : ℤ) ≠ encoded.pointCount * 3
    · rw [if_pos hlength] at h
      exact absurd h (List.cons_ne_nil _ _)
    rw [if_neg hlength] at h ⊢
    cases hfound : (List.range encoded.pointCount.toNat).find? fun i =>
        (pointAt positions i).isNone with
    | some i =>
      rw [hfound] at h
      exact absurd h (List.cons_ne_nil _ _)
    | none =>
      rw [hfound] at h
      obtain ⟨hhull, hdepth⟩ := box_inside h
      obtain ⟨hencoded, -, hlimit⟩ := (@decodeFloat32Base64_ok _ none _).1 hdecoded
      have hcount : encoded.pointCount * 3 = ((positions.length : ℕ) : ℤ) :=
        (not_not.1 hlength).symm
      refine ⟨positions, ⟨hcount.symm, ?_, fun i hi => ?_, hhull, hdepth⟩, rfl⟩
      · rw [hcount]
        exact (@decodeFloat32Base64_ok _ (some positions.length) _).2
          ⟨hencoded, fun n hn => Option.some.inj hn, hlimit⟩
      · have hsome := List.find?_eq_none.1 hfound i (List.mem_range.2 hi)
        rwa [Option.isNone_iff_eq_none, ← ne_eq, Option.ne_none_iff_exists'] at hsome

/-- The facets are sound if `checkFacets` finds nothing. -/
theorem checkFacets_sound {positions : List UInt32} {lowpoly : Bool}
    {textAt : List UInt32 → ℕ → JsString}
    (h : checkFacets numbers encoded (some ⟨positions, boxOf (pointsOf encoded positions)⟩) lowpoly
      textAt = []) : FacetsSound numbers encoded positions := by
  unfold checkFacets at h
  split at h
  · rename_i hcount hpositions hcolors
    exact .inl ⟨hcount, hpositions, hcolors⟩
  · rename_i facetCount facetPositions facetColors hcount hpositions hcolors
    split at h
    · exact absurd h (List.cons_ne_nil _ _)
    rename_i hpositive
    obtain ⟨hissues, hrest⟩ := List.append_eq_nil_iff.1 h
    obtain ⟨-, hfewer⟩ := List.append_eq_nil_iff.1 hissues
    have hlt := not_le.1 (of_decide_eq_false (errorIf_nil.1 hfewer))
    split at hrest
    · exact absurd hrest (List.cons_ne_nil _ _)
    unfold facetPayloadIssues at hrest
    split at hrest
    · rename_i facetXyz facetRgb hxyz hrgb
      split at hrest
      · exact absurd hrest (List.cons_ne_nil _ _)
      rename_i hlengths
      obtain ⟨hxyzLength, hrgbLength⟩ := not_or.1 hlengths
      refine .inr ⟨facetCount, facetPositions, facetColors, facetXyz, facetRgb, hcount, hpositions,
        hcolors, not_lt.1 hpositive, hlt, hxyz, hrgb, not_not.1 hxyzLength, not_not.1 hrgbLength,
        fun i hi => ?_⟩
      dsimp only at hrest
      split at hrest
      · exact absurd hrest (List.cons_ne_nil _ _)
      · rename_i hfound
        have hinside := List.find?_eq_none.1 hfound i (List.mem_range.2 hi)
        rw [Bool.not_eq_true', Bool.not_eq_false, Option.any_eq_true] at hinside
        exact hinside
    · exact absurd hrest (List.cons_ne_nil _ _)
  · exact absurd h (List.cons_ne_nil _ _)

/-- The edges are sound if `checkEdges` finds nothing. -/
theorem checkEdges_sound {geometry : Option CloudGeometry}
    (h : checkEdges numbers encoded geometry = []) : EdgesSound encoded := by
  unfold checkEdges at h
  split at h
  · rename_i hcount hedges
    exact .inl ⟨hcount, hedges⟩
  · rename_i edgeCount edges hcount hedges
    split at h
    · exact absurd h (List.cons_ne_nil _ _)
    rename_i hpositive
    obtain ⟨-, hrest⟩ := List.append_eq_nil_iff.1 h
    split at hrest
    · exact absurd hrest (List.cons_ne_nil _ _)
    unfold edgePayloadIssues at hrest
    split at hrest
    · exact absurd hrest (List.cons_ne_nil _ _)
    rename_i decoded hdecoded
    split at hrest
    · exact absurd hrest (List.cons_ne_nil _ _)
    rename_i hlength
    refine .inr ⟨edgeCount, edges, decoded, hcount, hedges, not_lt.1 hpositive, hdecoded,
      not_not.1 hlength, fun pair hpair => ?_⟩
    have hnone := List.findSome?_eq_none_iff.1 (Option.toList_eq_nil_iff.1 hrest)
    obtain ⟨e, he⟩ := List.getElem?_of_mem hpair
    have hissue := hnone (pair, e) (List.mem_zipIdx_iff_getElem?.2 he)
    unfold edgeIssue at hissue
    dsimp only at hissue
    split at hissue
    · cases hissue
    rename_i hinside
    split at hissue
    · cases hissue
    rename_i hdistinct
    obtain ⟨ha, hb⟩ := not_or.1 hinside
    exact ⟨hdistinct, not_le.1 ha, not_le.1 hb⟩
  · exact absurd h (List.cons_ne_nil _ _)

/-- What the decoder gives of a cloud whose positions, colours and sizes are decoded. -/
theorem decodePointCloud_sound {positions : List UInt32} {colors : List UInt8}
    {sizes : Option (List UInt8)} (hsound : PositionsSound numbers encoded positions)
    (hlimit : encoded.pointCount ≤ maxPointCloudPoints) (hversion : encoded.schemaVersion = 1)
    (hencoding : encoded.encoding.positions = js "base64:f32le" ∧
      encoded.encoding.colors = js "base64:u8")
    (hmetadata : validateEncodedMetadata encoded encoded.pointCount = .ok ())
    (hcolors : decodeUint8Base64 encoded.colors (some (encoded.pointCount * 3)) (js "colors") =
      .ok colors)
    (hsizes : encoded.sizes.mapM (fun sizes =>
      decodeUint8Base64 sizes (some encoded.pointCount) (js "sizes")) = .ok sizes) :
    decodePointCloud encoded = .ok
        { pointCount := encoded.pointCount, dims := encoded.dims, positions, colors, sizes
          stats := encoded.stats } ∧
      (colors.length : ℤ) = encoded.pointCount * 3 ∧
      ∀ s ∈ sizes, (s.length : ℤ) = encoded.pointCount := by
  obtain ⟨hcounted, hdecoded, -, -, -⟩ := hsound
  obtain ⟨n, hn⟩ : ∃ n : ℕ, encoded.pointCount = n := ⟨encoded.pointCount.toNat, by omega⟩
  have htriple : encoded.pointCount * 3 = ((n * 3 : ℕ) : ℤ) := by
    rw [hn]
    push_cast
    rfl
  rw [htriple] at hdecoded hcolors
  obtain ⟨hpositions, hpositionsLength, -⟩ :=
    (@decodeFloat32Base64_ok _ (some (n * 3)) _).1 hdecoded
  obtain ⟨hcolors, hcolorsLength, -⟩ := (@decodeUint8Base64_ok _ _ (some (n * 3)) _).1 hcolors
  have hsizesText : sizes.map encodeUint8Base64 = encoded.sizes ∧ ∀ s ∈ sizes, s.length = n := by
    rw [hn] at hsizes
    cases hpayload : encoded.sizes with
    | none =>
      rw [hpayload] at hsizes
      obtain rfl := Except.ok.inj hsizes
      exact ⟨rfl, fun _ h => (nomatch h)⟩
    | some text =>
      rw [hpayload] at hsizes
      change (some <$> decodeUint8Base64 text (some (n : ℤ)) (js "sizes")) = _ at hsizes
      cases htext : decodeUint8Base64 text (some (n : ℤ)) (js "sizes") with
      | error message =>
        rw [htext] at hsizes
        cases hsizes
      | ok bytes =>
        rw [htext] at hsizes
        obtain rfl := Except.ok.inj hsizes
        obtain ⟨hencoded, hlength, -⟩ := (@decodeUint8Base64_ok _ _ (some n) _).1 htext
        exact ⟨congrArg some hencoded, fun s hs => Option.some.inj hs ▸ hlength n rfl⟩
  rw [hn] at hmetadata hlimit
  refine ⟨?_, ?_, fun s hs => ?_⟩
  · rw [hn]
    exact decodePointCloud_of hversion hencoding hn (by omega) hmetadata
      ⟨hpositions, hpositionsLength _ rfl⟩ ⟨hcolors, hcolorsLength _ rfl⟩ hsizesText
  · rw [hcolorsLength _ rfl, htriple]
  · rw [hsizesText.2 s hs, hn]

/-- The gate accepts a scene only when its cloud is sound: the positions are those of the points,
finite, in the hull and within the depth budget, the facets are fewer than the points and inside of
their box up to the tolerance, and the edges join two distinct points. When the other payloads are
decoded too, the decoder gives the cloud with these positions. -/
theorem scene_sound {declaration : PointCloudSceneDeclaration} {page : ScenePage}
    {textAt : List UInt32 → ℕ → JsString}
    (h : validatePointCloudScene numbers encoded declaration page textAt = []) :
    ∃ positions, PositionsSound numbers encoded positions ∧
      FacetsSound numbers encoded positions ∧ EdgesSound encoded ∧
      (encoded.schemaVersion = 1 →
        encoded.encoding.positions = js "base64:f32le" ∧
          encoded.encoding.colors = js "base64:u8" →
        validateEncodedMetadata encoded encoded.pointCount = .ok () →
        ∀ colors sizes,
          decodeUint8Base64 encoded.colors (some (encoded.pointCount * 3)) (js "colors") =
            .ok colors →
          encoded.sizes.mapM (fun sizes =>
            decodeUint8Base64 sizes (some encoded.pointCount) (js "sizes")) = .ok sizes →
          decodePointCloud encoded = .ok
              { pointCount := encoded.pointCount, dims := encoded.dims, positions, colors, sizes
                stats := encoded.stats } ∧
            (colors.length : ℤ) = encoded.pointCount * 3 ∧
            ∀ s ∈ sizes, (s.length : ℤ) = encoded.pointCount) := by
  unfold validatePointCloudScene at h
  simp only [List.append_eq_nil_iff] at h
  obtain ⟨⟨⟨⟨⟨⟨-, hbudgets⟩, -⟩, -⟩, hgeometry⟩, hfacets⟩, hedges⟩ := h
  obtain ⟨positions, hsound, hmeasured⟩ := checkGeometry_sound hgeometry
  rw [hmeasured] at hfacets hedges
  unfold checkBudgets at hbudgets
  simp only [List.append_eq_nil_iff, errorIf_nil, decide_eq_false_iff_not, not_lt] at hbudgets
  have hbudget : encoded.pointCount ≤ 24000 := hbudgets.1.1
  have hmost : (24000 : ℤ) ≤ maxPointCloudPoints := by decide
  exact ⟨positions, hsound, checkFacets_sound hfacets, checkEdges_sound hedges,
    fun hversion hencoding hmetadata colors sizes hcolors hsizes =>
      decodePointCloud_sound hsound (hbudget.trans hmost) hversion hencoding hmetadata hcolors
        hsizes⟩

end accepted

/-- The cloud of two white pixels, with a facet. -/
def twoPixels : EncodedPointCloud ℚ :=
  imageToPointCloudFromImage (exactFunctions sampleSqrt) (whiteImage 2 1)
    (normalizedFacetOptions ⟨1, by decide⟩)

def decorative : PointCloudSceneDeclaration := ⟨js "decorative", true, none⟩

/-- The scene of the two pixels is accepted, so it is sound. -/
theorem scene_sound_two_pixels :
    ∃ positions, PositionsSound sampleNumbers twoPixels positions ∧
      FacetsSound sampleNumbers twoPixels positions ∧ EdgesSound twoPixels :=
  have ⟨positions, hpositions, hfacets, hedges, _⟩ :=
    @scene_sound sampleNumbers twoPixels decorative ⟨[], true⟩ (fun _ _ => []) (by decide +kernel)
  ⟨positions, hpositions, hfacets, hedges⟩

/-- The two pixels without their colours. -/
def colourless : EncodedPointCloud ℚ := { twoPixels with colors := [] }

/-- The facet of the two pixels, moved a little to the left of them. -/
def movedFacet : List UInt32 := [Binary32.ofRat (-513 / 2048), 0, Binary32.ofRat (1 / 2)]

def movedPixels : EncodedPointCloud ℚ :=
  { twoPixels with facetPositions := some (encodeFloat32Base64 movedFacet) }

/-- The gate accepts a cloud that the decoder refuses, because it does not decode the colours, and
one with a facet outside of the box of the points, because of its tolerance. -/
theorem unsound_accepted :
    (validatePointCloudScene sampleNumbers colourless decorative ⟨[], true⟩ (fun _ _ => []) = [] ∧
      validateEncodedMetadata colourless colourless.pointCount = .ok () ∧
      ¬ ∃ decoded, decodePointCloud colourless = .ok decoded) ∧
    validatePointCloudScene sampleNumbers movedPixels decorative ⟨[], true⟩ (fun _ _ => []) = [] ∧
      validateEncodedMetadata movedPixels movedPixels.pointCount = .ok () ∧
      ∃ positions box p, decodeFloat32Base64 movedPixels.positions
          (some (movedPixels.pointCount * 3)) = .ok positions ∧
        boxOf (pointsOf movedPixels positions) = some box ∧
        movedPixels.facetPositions = some (encodeFloat32Base64 movedFacet) ∧
        pointAt movedFacet 0 = some p ∧ ¬ Between3 box p := by
  have hmetadata := validateEncodedMetadata_cloud (exactFunctions sampleSqrt) (whiteImage 2 1)
    (normalizedFacetOptions ⟨1, by decide⟩)
  unfold validateEncodedMetadata at hmetadata ⊢
  refine ⟨⟨by decide +kernel, hmetadata, ?_⟩, by decide +kernel, hmetadata, ?_⟩
  · rintro ⟨decoded, hdecoded⟩
    have hrefused : (decodePointCloud colourless).toBool = false := by decide +kernel
    rw [hdecoded] at hrefused
    cases hrefused
  · obtain ⟨positions, hsound, hmeasured⟩ := @checkGeometry_sound sampleNumbers movedPixels
      (by decide +kernel)
    have hbox : (checkGeometry sampleNumbers movedPixels).1.bind (·.box) =
        some ⟨⟨-1 / 4, 0, 1 / 2⟩, ⟨1 / 4, 0, 1 / 2⟩⟩ := by decide +kernel
    rw [hmeasured] at hbox
    refine ⟨positions, _, ⟨-513 / 2048, 0, 1 / 2⟩, hsound.decoded, hbox, rfl, by decide +kernel,
      fun h => ?_⟩
    have hleft := h.1.1
    norm_num at hleft

end PointClouds
end Autopilot
