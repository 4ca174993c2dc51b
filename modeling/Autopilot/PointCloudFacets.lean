/-
The facets of a point cloud (`bakeFacets`).

The points are put into the cells of a square grid, and each cell with points in it makes one facet,
the mean of its points. So the points are divided into parts, and the facets are the means of these
parts. There are as many facets as cells with points, and nothing else bounds them.
-/
import Autopilot.Lib.Binary32
import Autopilot.PointCloudEdges

set_option autoImplicit false

namespace Autopilot
namespace PointClouds

/-! ## The code -/

section code

variable {K : Type} [Add K] [Sub K] [Mul K] [Div K] [BEq K] [LT K] [DecidableLT K] [Max K]
  [NatCast K] (ops : NumberFunctions K)

/-- `clampByte`. -/
def clampByte (value : K) : UInt8 := (min 255 (max 0 (ops.round value))).toNat.toUInt8

/-- The grid of the facets: where it starts, its extent and how many cells it has on a side. -/
structure FacetGrid (K : Type) where
  minX : K
  minY : K
  spanX : K
  spanY : K
  grid : ℤ

/-- The grid that the points are put into. -/
def facetGrid (selected : List (CandidatePoint K)) (targetFacets : ℕ) : FacetGrid K :=
  let xs := selected.map (·.positionX)
  let ys := selected.map (·.positionY)
  let minX := lowest (xs.headD ((0 : ℕ) : K)) xs
  let maxX := highest (xs.headD ((0 : ℕ) : K)) xs
  let minY := lowest (ys.headD ((0 : ℕ) : K)) ys
  let maxY := highest (ys.headD ((0 : ℕ) : K)) ys
  { minX, minY
    spanX := orOne (maxX - minX)
    spanY := orOne (maxY - minY)
    grid := max 1 (ops.round (ops.sqrt (targetFacets : K))) }

/-- The key of the cell of a point. -/
def facetKey [IntCast K] (grid : FacetGrid K) (point : CandidatePoint K) : ℤ :=
  let gx := min (grid.grid - 1)
    (ops.floor ((point.positionX - grid.minX) / grid.spanX * (grid.grid : K)))
  let gy := min (grid.grid - 1)
    (ops.floor ((point.positionY - grid.minY) / grid.spanY * (grid.grid : K)))
  gy * grid.grid + gx

/-- The sum of the numbers of a list. -/
def total (values : List K) : K := values.foldl (· + ·) ((0 : ℕ) : K)

/-- A facet. -/
structure Facet (K : Type) where
  x : K
  y : K
  z : K
  red : UInt8
  green : UInt8
  blue : UInt8

/-- The mean of the points of a cell. -/
def facetOf (points : List (CandidatePoint K)) : Facet K :=
  let n : K := points.length
  { x := total (points.map (·.positionX)) / n
    y := total (points.map (·.positionY)) / n
    z := total (points.map (·.positionZ)) / n
    red := clampByte ops (total (points.map fun point => byteNumber point.red) / n)
    green := clampByte ops (total (points.map fun point => byteNumber point.green) / n)
    blue := clampByte ops (total (points.map fun point => byteNumber point.blue) / n) }

/-- The keys of the cells with points, in order. -/
def facetKeys [IntCast K] (selected : List (CandidatePoint K)) (targetFacets : ℕ) : List ℤ :=
  (selected.map (facetKey ops (facetGrid ops selected targetFacets))).dedup.mergeSort (· ≤ ·)

/-- The points of the cells. -/
def facetParts [IntCast K] (selected : List (CandidatePoint K)) (targetFacets : ℕ) :
    List (List (CandidatePoint K)) :=
  (facetKeys ops selected targetFacets).map fun key =>
    selected.filter fun point => facetKey ops (facetGrid ops selected targetFacets) point = key

/-- What `bakeFacets` returns. -/
structure BakedFacets where
  facetCount : ℕ
  facetPositions : JsString
  facetColors : JsString
  deriving DecidableEq

/-- `bakeFacets`. -/
def bakeFacets [IntCast K] (selected : List (CandidatePoint K)) (targetFacets : ℕ) :
    Option BakedFacets :=
  if targetFacets < 1 ∨ selected.length = 0 then none
  else
    let facets := (facetParts ops selected targetFacets).map (facetOf ops)
    some
      { facetCount := facets.length
        facetPositions := encodeFloat32Base64 <| facets.flatMap fun facet =>
          [ops.toFloat32 facet.x, ops.toFloat32 facet.y, ops.toFloat32 facet.z]
        facetColors := encodeUint8Base64 <| facets.flatMap fun facet =>
          [facet.red, facet.green, facet.blue] }

end code

end PointClouds
end Autopilot
