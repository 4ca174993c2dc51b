/-
Baked edges.

The edges of a cloud are stored as numbers of 16 bits. They are the pairs that were kept only where
the points of the shortest pairs are among the first 65536. A point behind them is possible: a
column of pixels, every other one visible and the last two both, has its shortest pair at its end.
-/
import Autopilot.PointCloudBake

set_option autoImplicit false

namespace Autopilot
namespace PointClouds

open Collected (bind_ok refuseIf_ok)

/-! ## The edges of a cloud -/

section edges

variable {K : Type} [LinearOrder K] [Add K] [Sub K] [Mul K] [Div K] [BEq K] [NatCast K]
  [IntCast K] [OfScientific K] (ops : NumberFunctions K) (image : RgbaImage)
  (options : NormalizedOptions K)

/-- How many edges a cloud may have. -/
def edgeLimit : ℕ := (options.maxEdges.map (·.1)).getD pointCloudEdgeCeiling

/-- The edges that are kept for a cloud. -/
def selectedEdges (k : ℕ) : List (EdgeCandidate K) :=
  keptEdges ops (positionsOf ops (selectedPoints image options))
    (selectedPoints image options).length k (edgeLimit options)

/-- The edges of a cloud are decoded to pairs: no more than allowed, distinct, of points of the
cloud, in order, and the ones that were kept. -/
structure EdgesReal (cloud : EncodedPointCloud K) (text : JsString) (limit : ℕ)
    (kept : List (ℕ × ℕ)) (decoded : List UInt16) : Prop where
  accepted : decodeUint16Base64 text (js "edges") = .ok decoded
  counted : cloud.edgeCount = some ((pairsOf decoded).length : ℤ)
  limited : (pairsOf decoded).length ≤ limit
  distinct : (pairsOf decoded).Nodup
  ordered : ∀ pair ∈ pairsOf decoded, pair.1 < pair.2 ∧ (pair.2 : ℤ) < cloud.pointCount
  selected : pairsOf decoded = kept

omit [LinearOrder K] [Add K] [Sub K] [Mul K] [Div K] [BEq K] [NatCast K] [IntCast K]
  [OfScientific K] in
theorem edgeLimit_le : edgeLimit options ≤ pointCloudEdgeCeiling := by
  unfold edgeLimit
  cases options.maxEdges with
  | none => exact le_refl _
  | some maxEdges => exact maxEdges.2.2

/-- A cloud has edges when some were kept, and they are those numbers. -/
theorem cloud_edges {k : Between 0 3} (hk : options.edgeNeighbors = some k) :
    (imageToPointCloudFromImage ops image options).edges =
        (if selectedEdges ops image options k.1 = [] then none
          else some (encodeUint16Base64 ((selectedEdges ops image options k.1).flatMap fun pair =>
            [pair.a.toUInt16, pair.b.toUInt16]))) ∧
      (imageToPointCloudFromImage ops image options).edgeCount =
        if selectedEdges ops image options k.1 = [] then none
          else some ((selectedEdges ops image options k.1).length : ℤ) := by
  have hedges : edgesOf ops options (selectedPoints image options) =
      if 0 < k.1 then some (buildCappedEdges ops (positionsOf ops (selectedPoints image options))
        (selectedPoints image options).length k.1 (edgeLimit options)) else none := by
    rw [edgesOf, hk]
    rfl
  have hfields : (imageToPointCloudFromImage ops image options).edges =
        ((edgesOf ops options (selectedPoints image options)).filter fun edges =>
          0 < edges.length).map encodeUint16Base64 ∧
      (imageToPointCloudFromImage ops image options).edgeCount =
        ((edgesOf ops options (selectedPoints image options)).filter fun edges =>
          0 < edges.length).map fun edges => ((edges.length / 2 : ℕ) : ℤ) := ⟨rfl, rfl⟩
  rw [hfields.1, hfields.2, hedges]
  by_cases hpos : 0 < k.1
  · rw [if_pos hpos, buildCappedEdges]
    change _ = (if selectedEdges ops image options k.1 = [] then _ else _) ∧ _
    rw [← selectedEdges]
    generalize selectedEdges ops image options k.1 = kept
    by_cases hnone : kept = []
    · subst hnone
      exact ⟨rfl, rfl⟩
    · have hsome : 0 < (kept.flatMap fun pair => [pair.a.toUInt16, pair.b.toUInt16]).length := by
        have := List.length_pos_of_ne_nil hnone
        rw [length_stored]
        omega
      rw [if_neg hnone, if_neg hnone, Option.filter_some, if_pos (decide_eq_true hsome),
        Option.map_some, Option.map_some, length_stored, Nat.mul_div_cancel_left _ (by decide)]
      exact ⟨rfl, rfl⟩
  · have hnone : selectedEdges ops image options k.1 = [] := by
      rw [selectedEdges, keptEdges, if_pos (.inl (by omega))]
    rw [if_neg hpos, hnone]
    exact ⟨rfl, rfl⟩

/-- The edges of a cloud name the points that were selected, if it has any. -/
def EdgesBaked (k : ℕ) : Prop :=
  let cloud := imageToPointCloudFromImage ops image options
  let kept := (selectedEdges ops image options k).map EdgeCandidate.ends
  (cloud.edges = none ∧ kept = []) ∨ ∃ text decoded, cloud.edges = some text ∧
    EdgesReal cloud text (edgeLimit options) kept decoded

/-- The edges of a cloud are the pairs that were kept exactly when these have points among the first
65536. -/
theorem edgesBaked_iff_kept {k : Between 0 3} (hk : options.edgeNeighbors = some k) :
    EdgesBaked ops image options k.1 ↔
      ∀ pair ∈ selectedEdges ops image options k.1, pair.b < 65536 := by
  obtain ⟨hedges, hcount⟩ := cloud_edges ops image options hk
  obtain ⟨hordered, hdistinct, hlimit⟩ := keptEdges_sound ops
    (positionsOf ops (selectedPoints image options)) (selectedPoints image options).length k.1
    (edgeLimit options)
  rw [← selectedEdges] at hordered hdistinct hlimit
  have hlimits := hlimit.trans (edgeLimit_le options)
  have hroom : ((selectedEdges ops image options k.1).flatMap fun pair =>
      [pair.a.toUInt16, pair.b.toUInt16]).length * 2 ≤ maxDecodedPointCloudBytes := by
    have hceiling : pointCloudEdgeCeiling * 4 ≤ maxDecodedPointCloudBytes := by decide
    rw [length_stored]
    omega
  rw [EdgesBaked, hedges]
  by_cases hnone : selectedEdges ops image options k.1 = []
  · rw [if_pos hnone, hnone]
    exact ⟨fun _ _ h => absurd h List.not_mem_nil, fun _ => .inl ⟨rfl, rfl⟩⟩
  · rw [if_neg hnone] at hcount ⊢
    rw [← stored_iff fun pair hpair => (hordered pair hpair).1, ← pairsOf_flatMap]
    constructor
    · rintro (⟨h, -⟩ | ⟨text, decoded, htext, hreal⟩)
      · cases h
      · have haccepted := hreal.accepted
        rw [← Option.some.inj htext, decodeUint16Base64_ok.2 ⟨rfl, hroom⟩] at haccepted
        rw [Except.ok.inj haccepted]
        exact hreal.selected
    · intro hsame
      refine .inr ⟨_, _, rfl, ⟨decodeUint16Base64_ok.2 ⟨rfl, hroom⟩, ?_, ?_, ?_, ?_, hsame⟩⟩
      · rw [hsame, List.length_map, hcount]
      · rw [hsame, List.length_map]
        exact hlimit
      · rw [hsame]
        exact hdistinct
      · rw [hsame]
        intro ends hends
        obtain ⟨pair, hpair, rfl⟩ := List.mem_map.1 hends
        obtain ⟨hlt, hpoints⟩ := hordered pair hpair
        exact ⟨hlt, Int.ofNat_lt.2 hpoints⟩

end edges

/-! ## What the search finds -/

section search

variable {K : Type} [LinearOrder K] [Add K] [Sub K] [Mul K] [Div K] [BEq K] [NatCast K]
  (ops : NumberFunctions K) (positions : List UInt32)

/-- The neighbours of the points, in the order in which they are offered. -/
def offers (pointCount k : ℕ) : List (ℕ × Neighbour K) :=
  (List.range pointCount).flatMap fun i =>
    (nearest ops positions pointCount (edgeGrid ops positions pointCount) k i).map fun neighbour =>
      (i, neighbour)

theorem neighbourPairs_eq (pointCount k : ℕ) : neighbourPairs ops positions pointCount k =
    ((offers ops positions pointCount k).foldl
      (fun search offer => addNeighbour pointCount offer.1 search offer.2)
      ⟨[], []⟩).candidates := by
  rw [neighbourPairs, offers, List.foldl_flatMap]
  simp only [List.foldl_map]

/-- The pair of an offer. -/
def offerEnds (offer : ℕ × Neighbour K) : ℕ × ℕ := (min offer.1 offer.2.j, max offer.1 offer.2.j)

/-- The number of a pair names it. -/
theorem pairId_injective {n a b c d : ℕ} (hb : b < n) (hd : d < n) (h : a * n + b = c * n + d) :
    a = c ∧ b = d := by
  have hhigh : b = d := by
    have hmod := congrArg (· % n) h
    simpa only [Nat.mul_add_mod_of_lt hb, Nat.mul_add_mod_of_lt hd] using hmod
  subst hhigh
  exact ⟨Nat.eq_of_mul_eq_mul_right (by omega) (Nat.add_right_cancel h), rfl⟩

/-- The candidates are the pairs that were offered, each once. -/
structure EdgeSearch.Found (pointCount : ℕ) (search : EdgeSearch K)
    (offered : List (ℕ × Neighbour K)) : Prop where
  made : ∀ pair ∈ search.candidates, ∃ offer ∈ offered,
    pair = ⟨(offerEnds offer).1, (offerEnds offer).2, offer.2.d2⟩
  found : ∀ offer ∈ offered, offerEnds offer ∈ search.candidates.map EdgeCandidate.ends
  seen : ∀ id ∈ search.seen, ∃ offer ∈ offered,
    id = (offerEnds offer).1 * pointCount + (offerEnds offer).2

omit [LinearOrder K] [Add K] [Sub K] [Mul K] [Div K] [BEq K] [NatCast K] in
theorem EdgeSearch.Found.add {pointCount : ℕ} {search : EdgeSearch K}
    {offered : List (ℕ × Neighbour K)} {offer : ℕ × Neighbour K}
    (h : search.Found pointCount offered)
    (hpoints : ∀ o ∈ offer :: offered, o.1 < pointCount ∧ o.2.j < pointCount) :
    (addNeighbour pointCount offer.1 search offer.2).Found pointCount (offered ++ [offer]) := by
  have hbound (o : ℕ × Neighbour K) (ho : o ∈ offer :: offered) : (offerEnds o).2 < pointCount := by
    obtain ⟨hi, hj⟩ := hpoints o ho
    exact max_lt hi hj
  unfold addNeighbour
  dsimp only
  split
  · -- the pair was offered before
    rename_i hseen
    refine ⟨fun pair hpair => ?_, fun o ho => ?_, fun id hid => ?_⟩
    · obtain ⟨o, ho, heq⟩ := h.made pair hpair
      exact ⟨o, List.mem_append_left _ ho, heq⟩
    · rcases List.mem_append.1 ho with hold | hnew
      · exact h.found o hold
      · obtain rfl := List.mem_singleton.1 hnew
        obtain ⟨same, hsame, hid⟩ := h.seen _ hseen
        have hthis := hbound o List.mem_cons_self
        have hthat := hbound same (List.mem_cons_of_mem _ hsame)
        have hends : offerEnds o = offerEnds same := by
          obtain ⟨hlow, hhigh⟩ := pairId_injective hthis hthat hid
          exact Prod.ext hlow hhigh
        rw [hends]
        exact h.found same hsame
    · obtain ⟨o, ho, heq⟩ := h.seen id hid
      exact ⟨o, List.mem_append_left _ ho, heq⟩
  · refine ⟨fun pair hpair => ?_, fun o ho => ?_, fun id hid => ?_⟩
    · rcases List.mem_append.1 hpair with hold | hnew
      · obtain ⟨o, ho, heq⟩ := h.made pair hold
        exact ⟨o, List.mem_append_left _ ho, heq⟩
      · exact ⟨offer, List.mem_append_right _ List.mem_cons_self, List.mem_singleton.1 hnew⟩
    · rw [List.map_append, List.mem_append]
      rcases List.mem_append.1 ho with hold | hnew
      · exact .inl (h.found o hold)
      · rw [List.mem_singleton.1 hnew]
        exact .inr List.mem_cons_self
    · rcases List.mem_cons.1 hid with rfl | hid
      · exact ⟨offer, List.mem_append_right _ List.mem_cons_self, rfl⟩
      · obtain ⟨o, ho, heq⟩ := h.seen id hid
        exact ⟨o, List.mem_append_left _ ho, heq⟩

/-- The square of the distance of two points. -/
def squaredDistance (i j : ℕ) : K :=
  let dx := coordinate ops positions (i * 3) - coordinate ops positions (j * 3)
  let dy := coordinate ops positions (i * 3 + 1) - coordinate ops positions (j * 3 + 1)
  dx * dx + dy * dy

omit [LinearOrder K] [BEq K] in
/-- The neighbours of a point are the other points of the buckets around it. -/
theorem mem_near {pointCount i : ℕ} {grid : EdgeGrid K} {neighbour : Neighbour K} :
    neighbour ∈ near ops positions pointCount grid i ↔
      neighbour.j < pointCount ∧ neighbour.j ≠ i ∧
        neighbour.d2 = squaredDistance ops positions i neighbour.j ∧
        ∃ ox ∈ ([-1, 0, 1] : List ℤ), ∃ oy ∈ ([-1, 0, 1] : List ℤ),
          cellKey (cellOf ops positions grid neighbour.j).1
              (cellOf ops positions grid neighbour.j).2 =
            cellKey ((cellOf ops positions grid i).1 + ox)
              ((cellOf ops positions grid i).2 + oy) := by
  unfold near bucket
  constructor
  · intro h
    obtain ⟨ox, hox, h⟩ := List.mem_flatMap.1 h
    obtain ⟨oy, hoy, h⟩ := List.mem_flatMap.1 h
    obtain ⟨j, hj, rfl⟩ := List.mem_map.1 h
    obtain ⟨hbucket, hne⟩ := List.mem_filter.1 hj
    obtain ⟨hlt, hkey⟩ := List.mem_filter.1 hbucket
    exact ⟨List.mem_range.1 hlt, of_decide_eq_true hne, rfl, ox, hox, oy, hoy,
      of_decide_eq_true hkey⟩
  · rintro ⟨hlt, hne, hd2, ox, hox, oy, hoy, hkey⟩
    refine List.mem_flatMap.2 ⟨ox, hox, List.mem_flatMap.2 ⟨oy, hoy, List.mem_map.2
      ⟨neighbour.j, List.mem_filter.2 ⟨List.mem_filter.2 ⟨List.mem_range.2 hlt,
        decide_eq_true hkey⟩, decide_eq_true hne⟩, ?_⟩⟩⟩
    obtain ⟨j, d2⟩ := neighbour
    obtain rfl : d2 = squaredDistance ops positions i j := hd2
    rfl

theorem mem_offers {pointCount k : ℕ} {offer : ℕ × Neighbour K} :
    offer ∈ offers ops positions pointCount k ↔ offer.1 < pointCount ∧
      offer.2 ∈ nearest ops positions pointCount (edgeGrid ops positions pointCount) k offer.1 := by
  obtain ⟨i, neighbour⟩ := offer
  simp only [offers, List.mem_flatMap, List.mem_range, List.mem_map, Prod.mk.injEq]
  constructor
  · rintro ⟨i', hi, neighbour', hneighbour, rfl, rfl⟩
    exact ⟨hi, hneighbour⟩
  · rintro ⟨hi, hneighbour⟩
    exact ⟨i, hi, neighbour, hneighbour, rfl, rfl⟩

/-- The pairs of neighbours are the pairs that are offered. -/
theorem neighbourPairs_found (pointCount k : ℕ) :
    (∀ pair ∈ neighbourPairs ops positions pointCount k,
      ∃ offer ∈ offers ops positions pointCount k,
        pair = ⟨(offerEnds offer).1, (offerEnds offer).2, offer.2.d2⟩) ∧
      ∀ offer ∈ offers ops positions pointCount k,
        offerEnds offer ∈ (neighbourPairs ops positions pointCount k).map EdgeCandidate.ends := by
  have hpoints (offer : ℕ × Neighbour K) (h : offer ∈ offers ops positions pointCount k) :
      offer.1 < pointCount ∧ offer.2.j < pointCount := by
    obtain ⟨hi, hnear⟩ := (mem_offers ops positions).1 h
    exact ⟨hi, (nearest_mem ops hnear).1⟩
  rw [neighbourPairs_eq]
  generalize offers ops positions pointCount k = offered at hpoints ⊢
  have hfound : (offered.foldl (fun search offer => addNeighbour pointCount offer.1 search offer.2)
      (⟨[], []⟩ : EdgeSearch K)).Found pointCount offered := by
    induction offered using List.reverseRecOn with
    | nil => exact ⟨fun _ h => absurd h List.not_mem_nil, fun _ h => absurd h List.not_mem_nil,
        fun _ h => absurd h List.not_mem_nil⟩
    | append_singleton offered offer ih =>
      rw [List.foldl_append]
      refine (ih fun o ho => hpoints o (List.mem_append_left _ ho)).add fun o ho => ?_
      rcases List.mem_cons.1 ho with rfl | hold
      · exact hpoints o (List.mem_append_right _ List.mem_cons_self)
      · exact hpoints o (List.mem_append_left _ hold)
  exact ⟨hfound.made, hfound.found⟩

omit [BEq K] in
/-- The nearest neighbour is the one that is nearer than all others. -/
theorem nearest_one (hsign : SignOfDifference K) {pointCount i : ℕ} {grid : EdgeGrid K}
    {neighbour : Neighbour K} (h : neighbour ∈ near ops positions pointCount grid i)
    (hleast : ∀ other ∈ near ops positions pointCount grid i, other.j ≠ neighbour.j →
      neighbour.d2 < other.d2) :
    ∃ first ∈ nearest ops positions pointCount grid 1 i, first.j = neighbour.j := by
  have htrans (p q r : Neighbour K) (hpq : notGreater p.d2 q.d2 (p.j ≤ q.j) = true)
      (hqr : notGreater q.d2 r.d2 (q.j ≤ r.j) = true) :
      notGreater p.d2 r.d2 (p.j ≤ r.j) = true := by
    simp only [notGreater_iff hsign, decide_eq_true_eq] at hpq hqr ⊢
    rcases hpq with hpq | ⟨hpq, hj⟩
    · rcases hqr with hqr | ⟨hqr, -⟩
      · exact .inl (hpq.trans hqr)
      · exact .inl (hqr ▸ hpq)
    · rcases hqr with hqr | ⟨hqr, hj'⟩
      · exact .inl (hpq ▸ hqr)
      · exact .inr ⟨hpq.trans hqr, hj.trans hj'⟩
  have htotal (p q : Neighbour K) : (notGreater p.d2 q.d2 (p.j ≤ q.j) ||
      notGreater q.d2 p.d2 (q.j ≤ p.j)) = true := by
    simp only [Bool.or_eq_true, notGreater_iff hsign, decide_eq_true_eq]
    rcases lt_trichotomy p.d2 q.d2 with hlt | heq | hgt
    · exact .inl (.inl hlt)
    · rcases le_total p.j q.j with hle | hle
      · exact .inl (.inr ⟨heq, hle⟩)
      · exact .inr (.inr ⟨heq.symm, hle⟩)
    · exact .inr (.inl hgt)
  have hsorted := List.pairwise_mergeSort htrans htotal (near ops positions pointCount grid i)
  have hperm := List.mergeSort_perm (near ops positions pointCount grid i)
    fun p q => notGreater p.d2 q.d2 (p.j ≤ q.j)
  unfold nearest
  generalize (near ops positions pointCount grid i).mergeSort
    (fun p q => notGreater p.d2 q.d2 (p.j ≤ q.j)) = sorted at hsorted hperm ⊢
  cases sorted with
  | nil => exact absurd (hperm.mem_iff.2 h) List.not_mem_nil
  | cons first rest =>
    refine ⟨first, List.mem_cons_self, ?_⟩
    by_contra hne
    have hlt := hleast first (hperm.mem_iff.1 List.mem_cons_self) hne
    rcases List.mem_cons.1 (hperm.mem_iff.2 h) with rfl | hrest
    · exact hne rfl
    · have hle := (List.pairwise_cons.1 hsorted).1 neighbour hrest
      rw [notGreater_iff hsign] at hle
      rcases hle with hle | ⟨hle, -⟩
      · exact lt_asymm hlt hle
      · exact hlt.ne' hle

end search

/-! ## A column of pixels -/

section plain

variable {image : RgbaImage} {options : NormalizedOptions ℚ}

/-- Options without regions, shapes and a target, that keep dark pixels. -/
structure PlainOptions (options : NormalizedOptions ℚ) : Prop where
  regions : options.regions = []
  shapes : options.shapes = []
  target : options.targetCount = none
  floor : options.brightnessFloor ≤ 0

/-- A pixel is visible. -/
def visible (image : RgbaImage) (options : NormalizedOptions ℚ) (pixel : ℕ × ℕ) : Bool :=
  options.alphaThreshold ≤ byteNumber (readPixel image pixel.1 pixel.2).alpha

theorem scanPixel_plain (h : PlainOptions options) (scan : Scan ℚ) (pixelX pixelY : ℕ) :
    (scanPixel image options scan pixelX pixelY).candidates = scan.candidates ++
      if visible image options (pixelX, pixelY) then
        [candidateAt image options pixelX pixelY [] 1] else [] := by
  have hluma := (luma_range (readPixel image pixelX pixelY).red
    (readPixel image pixelX pixelY).green (readPixel image pixelX pixelY).blue).1
  have hbright := not_lt.2 (h.floor.trans hluma)
  have hmatches (x y : ℚ) : matchesShapes options.shapes x y = true := by
    rw [h.shapes]
    rfl
  have hthinning : hasRegionalWeightThinning options.regions = false := by
    rw [h.regions]
    rfl
  have hindexes (x y : ℚ) : getRegionIndexes options.regions x y = [] := by
    rw [h.regions]
    rfl
  have hweight : (getCandidateWeight options.regions [] : ℚ) = 1 := by
    rw [getCandidateWeight, List.foldl_nil, Option.getD_none, Nat.cast_one]
  unfold scanPixel visible
  dsimp only
  by_cases hvisible : options.alphaThreshold ≤ byteNumber (readPixel image pixelX pixelY).alpha
  · rw [if_neg (not_or.2 ⟨not_lt.2 hvisible, hbright⟩), hmatches, hindexes, hweight, hthinning,
      if_neg (by simp), if_neg (by simp), if_pos (decide_eq_true hvisible)]
  · rw [if_pos (.inl (not_le.1 hvisible)), if_neg (by simpa using hvisible), List.append_nil]

/-- The points of an image are the pixels that are visible. -/
theorem selectedPoints_plain (h : PlainOptions options) : selectedPoints image options =
    ((sampledPixels image options.sampleStep.1).filter (visible image options)).map fun pixel =>
      candidateAt image options pixel.1 pixel.2 [] 1 := by
  have hscan : (scanImage image options).candidates =
      ((sampledPixels image options.sampleStep.1).filter (visible image options)).map fun pixel =>
        candidateAt image options pixel.1 pixel.2 [] 1 := by
    unfold scanImage
    induction sampledPixels image options.sampleStep.1 using List.reverseRecOn with
    | nil => rfl
    | append_singleton pixels pixel ih =>
      rw [List.foldl_append, List.foldl_cons, List.foldl_nil, scanPixel_plain h, ih,
        List.filter_append, List.map_append]
      congr 1
      by_cases hvisible : visible image options pixel = true
      · rw [if_pos hvisible, List.filter_cons_of_pos hvisible]
        rfl
      · rw [if_neg hvisible, List.filter_cons_of_neg hvisible]
        rfl
  rw [selectedPoints, selectCandidates, h.target, h.regions]
  exact hscan

end plain

section column

variable (m : ℕ)

/-- Every other row is visible, and the last one. -/
def rowVisible (y : ℕ) : Bool := y % 2 = 0 || y + 1 = 2 * m

/-- A column of white pixels, visible or not. -/
def columnImage : RgbaImage where
  width := 1
  height := 2 * m
  data := (List.range (2 * m)).flatMap fun y => [255, 255, 255, if rowVisible m y then 255 else 0]

/-- The rows that are visible. -/
def visibleRows : List ℕ := (List.range m).map (2 * ·) ++ [2 * m - 1]

/-- The row of a point. -/
def rowAt (i : ℕ) : ℕ := min (2 * i) (2 * m - 1)

/-- Options that ask for edges. -/
def edgeOptions : ImageToPointCloudOptions ℚ :=
  { facetOptions 1 with facetCount := none, edgeNeighbors := some 1 }

/-- What these options become. -/
theorem one_facet : 1 ≤ 1 ∧ 1 ≤ pointCloudFacetCeiling := by decide

def normalizedEdgeOptions : NormalizedOptions ℚ :=
  { normalizedFacetOptions ⟨1, one_facet⟩ with
    facetCount := none, edgeNeighbors := some ⟨1, by decide⟩ }

theorem visibleRows_eq (hm : 0 < m) :
    (List.range (2 * m)).filter (rowVisible m) = visibleRows m := by
  have hrange : ((List.range (2 * m)).filter (rowVisible m)).Pairwise (· < ·) :=
    List.pairwise_lt_range.filter _
  have hrows : (visibleRows m).Pairwise (· < ·) := by
    refine List.pairwise_append.2 ⟨?_, List.pairwise_singleton _ _, fun a ha b hb => ?_⟩
    · rw [List.pairwise_map]
      exact List.pairwise_lt_range.imp fun h => by omega
    · obtain ⟨i, hi, rfl⟩ := List.mem_map.1 ha
      rw [List.mem_singleton.1 hb]
      have := List.mem_range.1 hi
      omega
  refine hrange.eq_of_mem_iff hrows fun y => ?_
  simp only [rowVisible, visibleRows, List.mem_filter, List.mem_range, Bool.or_eq_true,
    decide_eq_true_eq, List.mem_append, List.mem_map, List.mem_singleton]
  constructor
  · rintro ⟨hlt, heven | hlast⟩
    · exact .inl ⟨y / 2, by omega, by omega⟩
    · exact .inr (by omega)
  · rintro (⟨i, hi, rfl⟩ | rfl)
    · exact ⟨by omega, .inl (by omega)⟩
    · exact ⟨by omega, .inr (by omega)⟩

theorem visibleRows_getElem? {i : ℕ} (hi : i ≤ m) : (visibleRows m)[i]? = some (rowAt m i) := by
  unfold visibleRows rowAt
  rcases hi.lt_or_eq with hlt | rfl
  · rw [List.getElem?_append_left (by simpa using hlt), List.getElem?_map,
      List.getElem?_range hlt, Option.map_some, min_eq_left (by omega)]
  · rw [List.getElem?_append_right (by simp), List.length_map, List.length_range, Nat.sub_self,
      min_eq_right (by omega)]
    rfl

/-- The points of the column are its visible rows. -/
theorem selectedPoints_column (hm : 0 < m) :
    selectedPoints (columnImage m) normalizedEdgeOptions = (visibleRows m).map fun y =>
      candidateAt (columnImage m) normalizedEdgeOptions 0 y [] 1 := by
  have hplain : PlainOptions normalizedEdgeOptions := ⟨rfl, rfl, rfl, le_refl 0⟩
  have hpixels : sampledPixels (columnImage m) normalizedEdgeOptions.sampleStep.1 =
      (List.range (2 * m)).map fun y => (0, y) := by
    have hsteps (limit : ℕ) : steps limit 1 = List.range limit := by
      rw [steps, Nat.add_sub_cancel, Nat.div_one, ← List.range_eq_range']
    change sampledPixels (columnImage m) 1 = _
    rw [sampledPixels, hsteps, hsteps]
    change (List.range (2 * m)).flatMap (fun y => [(0, y)]) = _
    exact List.map_eq_flatMap.symm
  have hvisible (y : ℕ) (hy : y ∈ List.range (2 * m)) :
      visible (columnImage m) normalizedEdgeOptions (0, y) = rowVisible m y := by
    have hrow : (List.range (2 * m))[y]? = some y := List.getElem?_range (List.mem_range.1 hy)
    have hbyte := getElem?_blocks
      (f := fun y => [(255 : UInt8), 255, 255, if rowVisible m y then 255 else 0])
      (fun _ => rfl) hrow (by decide : 3 < 4)
    have halpha : (readPixel (columnImage m) 0 y).alpha = if rowVisible m y then 255 else 0 := by
      rw [readPixel]
      dsimp only [columnImage]
      rw [Nat.mul_one, List.getD_eq_getElem?_getD]
      exact congrArg (·.getD 0) hbyte
    rw [visible, halpha]
    cases rowVisible m y <;> rfl
  have hrows : (List.range (2 * m)).filter (visible (columnImage m) normalizedEdgeOptions ∘
      fun y => (0, y)) = visibleRows m := by
    rw [← visibleRows_eq m hm]
    exact List.filter_congr hvisible
  rw [selectedPoints_plain hplain, hpixels, List.filter_map, List.map_map, hrows]
  rfl

/-- The floats of the points of the column. -/
def columnPositions (sqrt : ℚ → ℚ) : List UInt32 :=
  positionsOf (exactFunctions sqrt) (selectedPoints (columnImage m) normalizedEdgeOptions)

/-- How far up a point of the column is. -/
def heightAt (i : ℕ) : ℚ := ((2 ^ 17 - 1 - 2 * (rowAt m i : ℤ) : ℤ) : ℚ) * 2 ^ (-18 : ℤ)

variable {m}

/-- The coordinates of the points are not rounded. -/
theorem coordinate_column (sqrt : ℚ → ℚ) (hm : 2 * m = 2 ^ 17) {i : ℕ} (hi : i ≤ m) :
    coordinate (exactFunctions sqrt) (columnPositions m sqrt) (i * 3) = 0 ∧
      coordinate (exactFunctions sqrt) (columnPositions m sqrt) (i * 3 + 1) = heightAt m i := by
  have hpos : 0 < m := by omega
  have hpoint : (selectedPoints (columnImage m) normalizedEdgeOptions)[i]? = some
      (candidateAt (columnImage m) normalizedEdgeOptions 0 (rowAt m i) [] 1) := by
    rw [selectedPoints_column m hpos, List.getElem?_map, visibleRows_getElem? m hi]
    rfl
  have hblock {r : ℕ} (hr : r < 3) := getElem?_blocks
    (f := fun point : CandidatePoint ℚ => [(exactFunctions sqrt).toFloat32 point.positionX,
      (exactFunctions sqrt).toFloat32 point.positionY,
      (exactFunctions sqrt).toFloat32 point.positionZ]) (fun _ => rfl) hpoint hr
  have hstored {q : ℚ} (hsmall : |q| ≤ 32) :
      (exactFunctions sqrt).ofFloat32 ((exactFunctions sqrt).toFloat32 q) = Binary32.rounded q := by
    change (Binary32.value (Binary32.ofRat q)).getD 0 = _
    rw [value_small hsmall]
    rfl
  have hwide : ((max 1 (2 * m) : ℕ) : ℚ) = 2 ^ 17 := by
    rw [hm]
    norm_num
  have htall : ((2 * m : ℕ) : ℚ) = 2 ^ 17 := by
    rw [hm]
    norm_num
  have hX : (candidateAt (columnImage m) normalizedEdgeOptions 0 (rowAt m i) [] 1).positionX =
      (0 : ℤ) * 2 ^ (-18 : ℤ) := by
    simp [candidateAt, columnImage]
  have hY : (candidateAt (columnImage m) normalizedEdgeOptions 0 (rowAt m i) [] 1).positionY =
      heightAt m i := by
    simp only [candidateAt, columnImage, hwide, htall, heightAt]
    push_cast
    rw [zpow_neg]
    ring
  have hrow : rowAt m i < 2 ^ 17 := by
    unfold rowAt
    omega
  have hsmall : |heightAt m i| ≤ 32 := by
    have hlow : (0 : ℚ) ≤ rowAt m i := Nat.cast_nonneg _
    have hhigh : (rowAt m i : ℚ) ≤ 131072 := by exact_mod_cast hrow.le
    unfold heightAt
    push_cast
    rw [zpow_neg, abs_le]
    norm_num
    constructor <;> linarith
  have hexact : Binary32.rounded (heightAt m i) = heightAt m i := by
    unfold heightAt
    exact Binary32.rounded_exact (abs_lt.2 ⟨by omega, by omega⟩) (by decide) (by decide)
  constructor
  · rw [coordinate, columnPositions, positionsOf, ← Nat.add_zero (i * 3), hblock (by decide)]
    change (exactFunctions sqrt).ofFloat32 ((exactFunctions sqrt).toFloat32 _) = 0
    rw [hX, hstored (by simp), Binary32.rounded_exact (by decide) (by decide) (by decide)]
    simp
  · rw [coordinate, columnPositions, positionsOf, hblock (by decide)]
    change (exactFunctions sqrt).ofFloat32 ((exactFunctions sqrt).toFloat32 _) = _
    rw [hY, hstored hsmall, hexact]

/-- Two points are as far apart as their rows. -/
theorem squaredDistance_column (sqrt : ℚ → ℚ) (hm : 2 * m = 2 ^ 17) {i j : ℕ} (hi : i ≤ m)
    (hj : j ≤ m) : squaredDistance (exactFunctions sqrt) (columnPositions m sqrt) i j =
      ((rowAt m i : ℚ) - rowAt m j) ^ 2 * 2 ^ (-34 : ℤ) := by
  obtain ⟨hx, hy⟩ := coordinate_column sqrt hm hi
  obtain ⟨hx', hy'⟩ := coordinate_column sqrt hm hj
  unfold squaredDistance
  rw [hx, hy, hx', hy', heightAt, heightAt]
  push_cast
  rw [zpow_neg, zpow_neg]
  ring

/-- All pairs but the last are at least two rows apart. -/
theorem rowAt_far {i j : ℕ} (hij : i < j) (hj : j ≤ m) (hne : ¬ (i = m - 1 ∧ j = m)) :
    rowAt m i + 2 ≤ rowAt m j := by
  unfold rowAt
  omega

theorem rowAt_last (hm : 0 < m) : rowAt m (m - 1) + 1 = rowAt m m := by
  unfold rowAt
  omega

theorem far_pair (sqrt : ℚ → ℚ) (hm : 2 * m = 2 ^ 17) {i j : ℕ} (hij : i < j) (hj : j ≤ m)
    (hne : ¬ (i = m - 1 ∧ j = m)) : (2 ^ (-34 : ℤ) : ℚ) <
      squaredDistance (exactFunctions sqrt) (columnPositions m sqrt) j i := by
  have hfar : (rowAt m i : ℚ) + 2 ≤ rowAt m j := by exact_mod_cast rowAt_far hij hj hne
  have hunit : (0 : ℚ) < 2 ^ (-34 : ℤ) := by positivity
  rw [squaredDistance_column sqrt hm hj (by omega)]
  have hsquare : (1 : ℚ) < ((rowAt m j : ℚ) - rowAt m i) ^ 2 := by nlinarith
  exact lt_mul_of_one_lt_left hunit hsquare

theorem squaredDistance_comm (sqrt : ℚ → ℚ) (hm : 2 * m = 2 ^ 17) {i j : ℕ} (hi : i ≤ m)
    (hj : j ≤ m) : squaredDistance (exactFunctions sqrt) (columnPositions m sqrt) i j =
      squaredDistance (exactFunctions sqrt) (columnPositions m sqrt) j i := by
  rw [squaredDistance_column sqrt hm hi hj, squaredDistance_column sqrt hm hj hi]
  ring

theorem last_pair (sqrt : ℚ → ℚ) (hm : 2 * m = 2 ^ 17) :
    squaredDistance (exactFunctions sqrt) (columnPositions m sqrt) m (m - 1) = 2 ^ (-34 : ℤ) := by
  have hlast : (rowAt m (m - 1) : ℚ) + 1 = rowAt m m := by exact_mod_cast rowAt_last (by omega)
  rw [squaredDistance_column sqrt hm le_rfl (Nat.sub_le _ _), ← hlast]
  ring

/-- The cells are at least as high as a row. -/
theorem le_cell (sqrt : ℚ → ℚ) (hm : 2 * m = 2 ^ 17)
    (hsqrt : sqrt ((m + 1 : ℕ) : ℚ) ≤ 2 ^ 17 - 1) : (2 ^ (-17 : ℤ) : ℚ) ≤
      (edgeGrid (exactFunctions sqrt) (columnPositions m sqrt) (m + 1)).cell := by
  obtain ⟨-, htop⟩ := coordinate_column sqrt hm (Nat.zero_le m)
  obtain ⟨-, hbottom⟩ := coordinate_column sqrt hm (le_refl m)
  have hmem {i : ℕ} (hi : i ≤ m) :
      coordinate (exactFunctions sqrt) (columnPositions m sqrt) (i * 3 + 1) ∈
        (List.range (m + 1)).map fun i =>
          coordinate (exactFunctions sqrt) (columnPositions m sqrt) (i * 3 + 1) :=
    List.mem_map_of_mem (List.mem_range.2 (Nat.lt_succ_of_le hi))
  unfold edgeGrid
  dsimp only
  generalize (List.range (m + 1)).map (fun i =>
    coordinate (exactFunctions sqrt) (columnPositions m sqrt) (i * 3 + 1)) = ys at hmem
  generalize (List.range (m + 1)).map (fun i =>
    coordinate (exactFunctions sqrt) (columnPositions m sqrt) (i * 3)) = xs
  have hmost := le_highest (ys.headD ((0 : ℕ) : ℚ)) ys _
    (List.mem_cons_of_mem _ (hmem (Nat.zero_le m)))
  have hleast := lowest_le (ys.headD ((0 : ℕ) : ℚ)) ys _ (List.mem_cons_of_mem _ (hmem le_rfl))
  rw [htop] at hmost
  rw [hbottom] at hleast
  have hheights : heightAt m 0 - heightAt m m = (2 ^ 17 - 1) * 2 ^ (-17 : ℤ) := by
    have hrows : rowAt m m = 2 ^ 17 - 1 := by
      unfold rowAt
      omega
    have hrow : rowAt m 0 = 0 := by
      unfold rowAt
      omega
    rw [heightAt, heightAt, hrow, hrows]
    norm_num
  have hspan := le_max_right (highest (xs.headD ((0 : ℕ) : ℚ)) xs -
    lowest (xs.headD ((0 : ℕ) : ℚ)) xs)
    (highest (ys.headD ((0 : ℕ) : ℚ)) ys - lowest (ys.headD ((0 : ℕ) : ℚ)) ys)
  generalize max (highest (xs.headD ((0 : ℕ) : ℚ)) xs - lowest (xs.headD ((0 : ℕ) : ℚ)) xs)
    (highest (ys.headD ((0 : ℕ) : ℚ)) ys - lowest (ys.headD ((0 : ℕ) : ℚ)) ys) = span at hspan ⊢
  have hunit : (0 : ℚ) < 2 ^ (-17 : ℤ) := by positivity
  have hlarge : (2 ^ 17 - 1) * 2 ^ (-17 : ℤ) ≤ span := by linarith
  have hpos : 0 < span := lt_of_lt_of_le (mul_pos (by norm_num) hunit) hlarge
  have hroot : max ((1 : ℕ) : ℚ) ((exactFunctions sqrt).sqrt ((m + 1 : ℕ) : ℚ)) ≤ 2 ^ 17 - 1 :=
    max_le (by norm_num) hsqrt
  have hrootpos : 0 < max ((1 : ℕ) : ℚ) ((exactFunctions sqrt).sqrt ((m + 1 : ℕ) : ℚ)) :=
    lt_of_lt_of_le (by norm_num) (le_max_left _ _)
  rw [orOne, if_neg (by simpa using hpos.ne'), le_div_iff₀ hrootpos]
  calc (2 ^ (-17 : ℤ) : ℚ) * max ((1 : ℕ) : ℚ) ((exactFunctions sqrt).sqrt ((m + 1 : ℕ) : ℚ))
      ≤ 2 ^ (-17 : ℤ) * (2 ^ 17 - 1) := mul_le_mul_of_nonneg_left hroot hunit.le
    _ = (2 ^ 17 - 1) * 2 ^ (-17 : ℤ) := mul_comm _ _
    _ ≤ span := hlarge

/-- The last two points lie in neighbouring cells. -/
theorem near_last (sqrt : ℚ → ℚ) (hm : 2 * m = 2 ^ 17)
    (hsqrt : sqrt ((m + 1 : ℕ) : ℚ) ≤ 2 ^ 17 - 1) :
    (⟨m - 1, 2 ^ (-34 : ℤ)⟩ : Neighbour ℚ) ∈ near (exactFunctions sqrt) (columnPositions m sqrt)
      (m + 1) (edgeGrid (exactFunctions sqrt) (columnPositions m sqrt) (m + 1)) m := by
  have hcell := le_cell sqrt hm hsqrt
  generalize edgeGrid (exactFunctions sqrt) (columnPositions m sqrt) (m + 1) = grid at hcell ⊢
  obtain ⟨hx, hy⟩ := coordinate_column sqrt hm (le_refl m)
  obtain ⟨hx', hy'⟩ := coordinate_column sqrt hm (Nat.sub_le m 1)
  have hunit : (0 : ℚ) < 2 ^ (-17 : ℤ) := by positivity
  have hpos : 0 < grid.cell := hunit.trans_le hcell
  have hheights : heightAt m (m - 1) = heightAt m m + 2 ^ (-17 : ℤ) := by
    rw [heightAt, heightAt, ← rowAt_last (by omega)]
    push_cast
    rw [zpow_neg, zpow_neg]
    ring
  have hcells : (heightAt m (m - 1) - grid.minY) / grid.cell =
      (heightAt m m - grid.minY) / grid.cell + 2 ^ (-17 : ℤ) / grid.cell := by
    rw [hheights]
    ring
  have hstep : 0 < 2 ^ (-17 : ℤ) / grid.cell ∧ 2 ^ (-17 : ℤ) / grid.cell ≤ 1 :=
    ⟨div_pos hunit hpos, (div_le_one hpos).2 hcell⟩
  have hlow : ⌊(heightAt m m - grid.minY) / grid.cell⌋ ≤
      ⌊(heightAt m (m - 1) - grid.minY) / grid.cell⌋ := Int.floor_le_floor (by linarith)
  have hhigh : ⌊(heightAt m (m - 1) - grid.minY) / grid.cell⌋ ≤
      ⌊(heightAt m m - grid.minY) / grid.cell⌋ + 1 := by
    rw [← Int.floor_add_one]
    exact Int.floor_le_floor (by linarith)
  refine (mem_near _ _).2 ⟨show m - 1 < m + 1 by omega, show m - 1 ≠ m by omega,
    (last_pair sqrt hm).symm, 0, by decide,
    ⌊(heightAt m (m - 1) - grid.minY) / grid.cell⌋ - ⌊(heightAt m m - grid.minY) / grid.cell⌋,
    ?_, ?_⟩
  · simp only [List.mem_cons, List.not_mem_nil, or_false]
    omega
  · unfold cellOf
    dsimp only
    rw [hx, hy, hx', hy', add_zero]
    congr 2
    change _ = ⌊(heightAt m m - grid.minY) / grid.cell⌋ + _
    rw [add_sub_cancel]
    rfl

/-- The length of a pair of neighbours is the distance of its ends. -/
theorem pair_distance (sqrt : ℚ → ℚ) (hm : 2 * m = 2 ^ 17) {k : ℕ} {pair : EdgeCandidate ℚ}
    (h : pair ∈ neighbourPairs (exactFunctions sqrt) (columnPositions m sqrt) (m + 1) k) :
    pair.d2 = squaredDistance (exactFunctions sqrt) (columnPositions m sqrt) pair.b pair.a := by
  obtain ⟨⟨i, neighbour⟩, hoffer, rfl⟩ :=
    (neighbourPairs_found (exactFunctions sqrt) (columnPositions m sqrt) (m + 1) k).1 pair h
  obtain ⟨hi, hnearest⟩ := (mem_offers _ _).1 hoffer
  have hnear := (List.mergeSort_perm _ _).mem_iff.1 (List.mem_of_mem_take hnearest)
  obtain ⟨hj, hne, hd2, -⟩ := (mem_near _ _).1 hnear
  dsimp only [offerEnds] at hi hj hne hd2 ⊢
  rw [hd2]
  rcases le_total i neighbour.j with hle | hle
  · rw [min_eq_left hle, max_eq_right hle]
    exact squaredDistance_comm sqrt hm (by omega) (by omega)
  · rw [min_eq_right hle, max_eq_left hle]

theorem signOfDifference : SignOfDifference ℚ where
  positive x y := by rw [Nat.cast_zero, sub_pos]
  negative x y := by rw [Nat.cast_zero, sub_neg]

/-- The shortest pair of the column is the last one. -/
theorem not_edgesFit_column (sqrt : ℚ → ℚ) (hm : 2 * m = 2 ^ 17)
    (hsqrt : sqrt ((m + 1 : ℕ) : ℚ) ≤ 2 ^ 17 - 1) {maxEdges : ℕ} (hmax : 0 < maxEdges) :
    ¬ EdgesFit (exactFunctions sqrt) (columnPositions m sqrt) (m + 1) 1 maxEdges := by
  have hnear := near_last sqrt hm hsqrt
  obtain ⟨first, hfirst, hj⟩ := nearest_one _ _ signOfDifference hnear (by
    intro other hother hne
    obtain ⟨hlt, hnot, hd2, -⟩ := (mem_near _ _).1 hother
    dsimp only at hne
    rw [hd2]
    exact far_pair sqrt hm (by omega) le_rfl (by omega))
  have hoffer : (m, first) ∈ offers (exactFunctions sqrt) (columnPositions m sqrt) (m + 1) 1 :=
    (mem_offers _ _).2 ⟨Nat.lt_succ_self m, hfirst⟩
  obtain ⟨pair, hpair, hends⟩ := List.mem_map.1
    ((neighbourPairs_found (exactFunctions sqrt) (columnPositions m sqrt) (m + 1) 1).2 _ hoffer)
  have hboth := Prod.ext_iff.1 hends
  have ha : pair.a = min m first.j := hboth.1
  have hb : pair.b = max m first.j := hboth.2
  rw [hj] at ha hb
  dsimp only at ha hb
  have hlast : pair.a = m - 1 ∧ pair.b = m := by omega
  have hd2 : pair.d2 = 2 ^ (-34 : ℤ) := by
    rw [pair_distance sqrt hm hpair, hlast.1, hlast.2, last_pair sqrt hm]
  intro hfit
  have hnone : (neighbourPairs (exactFunctions sqrt) (columnPositions m sqrt) (m + 1) 1).countP
      (before · pair) = 0 := by
    refine List.countP_eq_zero.2 fun other hother hbefore => ?_
    obtain ⟨hshorter, hne⟩ := Bool.and_eq_true_iff.1 hbefore
    obtain ⟨hordered, -⟩ := neighbourPairs_sound (exactFunctions sqrt) (columnPositions m sqrt)
      (m + 1) 1
    obtain ⟨hlt, hbound⟩ := hordered other hother
    have hother' : ¬ (other.a = m - 1 ∧ other.b = m) := by
      intro hsame
      refine of_decide_eq_true hne ?_
      rw [EdgeCandidate.ends, EdgeCandidate.ends, hsame.1, hsame.2, hlast.1, hlast.2]
    have hfar := far_pair sqrt hm hlt (by omega) hother'
    rw [← pair_distance sqrt hm hother, ← hd2] at hfar
    rcases (shorter_iff signOfDifference other pair).1 hshorter with hle | ⟨heq, -⟩
    · exact lt_asymm hfar hle
    · exact hfar.ne' heq
  have hsmall := hfit pair hpair (by rwa [hnone])
  omega

end column

/-! ## Which clouds keep their edges -/

section baked

variable {K : Type} [LinearOrder K] [Add K] [Sub K] [Mul K] [Div K] [BEq K] [NatCast K]
  [IntCast K] [OfScientific K] (ops : NumberFunctions K) (image : RgbaImage)
  (options : NormalizedOptions K)

omit [IntCast K] [OfScientific K] in
theorem edgesFit_of_few (positions : List UInt32) {pointCount : ℕ} (h : pointCount ≤ 65536)
    (k maxEdges : ℕ) : EdgesFit ops positions pointCount k maxEdges := by
  intro pair hpair _
  have hb := ((neighbourPairs_sound ops positions pointCount k).1 pair hpair).2
  omega

/-- The edges of a cloud are the pairs that were kept exactly when the points of the shortest pairs
of neighbours are among the first 65536. -/
theorem edgesBaked_iff (hsign : SignOfDifference K) {k : Between 0 3}
    (hk : options.edgeNeighbors = some k) :
    EdgesBaked ops image options k.1 ↔
      EdgesFit ops (positionsOf ops (selectedPoints image options))
        (selectedPoints image options).length k.1 (edgeLimit options) := by
  rw [edgesBaked_iff_kept ops image options hk, selectedEdges, keptEdges_lt_iff ops hsign]

end baked

/-- The edge of two pixels is kept. -/
theorem edgesBaked_two_pixels :
    EdgesBaked (exactFunctions sampleSqrt) (whiteImage 2 1) normalizedEdgeOptions 1 :=
  (edgesBaked_iff (exactFunctions sampleSqrt) (whiteImage 2 1) normalizedEdgeOptions
    signOfDifference (show _ = some (⟨1, by decide⟩ : Between 0 3) from rfl)).2
    (edgesFit_of_few _ _ (by decide +kernel) _ _)

/-- The square root to six decimals. -/
def decimalSqrt (q : ℚ) : ℚ := (Nat.sqrt ⌊q * 10 ^ 12⌋.toNat : ℚ) / 10 ^ 6

theorem decimalSqrt_small : decimalSqrt ((65536 + 1 : ℕ) : ℚ) ≤ 2 ^ 17 - 1 := by
  have hfloor : ⌊((65536 + 1 : ℕ) : ℚ) * 10 ^ 12⌋ = 65537 * 10 ^ 12 := by
    rw [Int.floor_eq_iff]
    norm_num
  have hroot : Nat.sqrt (65537 * 10 ^ 12 : ℤ).toNat < 131071 * 10 ^ 6 :=
    Nat.sqrt_lt'.2 (by norm_num)
  rw [decimalSqrt, hfloor, div_le_iff₀ (by norm_num)]
  generalize Nat.sqrt (65537 * 10 ^ 12 : ℤ).toNat = root at hroot ⊢
  have hcast : (root : ℚ) ≤ 131071 * 10 ^ 6 := by exact_mod_cast hroot.le
  linarith

/-- The column of 65537 points loses its shortest edge, of the last two points. -/
theorem column_edge_lost :
    normalizeOptions integerOf (fun _ => true) edgeOptions = .ok normalizedEdgeOptions ∧
      ¬ EdgesBaked (exactFunctions decimalSqrt) (columnImage 65536) normalizedEdgeOptions 1 := by
  refine ⟨rfl, fun h => ?_⟩
  have hk : normalizedEdgeOptions.edgeNeighbors = some ⟨1, by decide⟩ := rfl
  have hlength : (selectedPoints (columnImage 65536) normalizedEdgeOptions).length = 65536 + 1 := by
    rw [selectedPoints_column 65536 (by norm_num), List.length_map, visibleRows, List.length_append,
      List.length_map, List.length_range, List.length_singleton]
  have hkept := (edgesBaked_iff_kept (exactFunctions decimalSqrt) (columnImage 65536)
    normalizedEdgeOptions hk).1 h
  rw [selectedEdges, keptEdges_lt_iff _ signOfDifference, hlength] at hkept
  exact not_edgesFit_column decimalSqrt (by norm_num) decimalSqrt_small (by decide) hkept

end PointClouds
end Autopilot
