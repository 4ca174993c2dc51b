/-
The edges of a point cloud (`buildCappedEdges`).

The points are put into the cells of a grid, whose keys are hashes. Each point has its nearest
neighbours in the cells around its own, each pair of neighbours is one candidate, and the shortest
candidates are kept. What is stored of a pair are two numbers of sixteen bits, so a pair with a
point behind the first 65536 is stored as another pair.
-/
import Autopilot.PointCloudSampler

set_option autoImplicit false

namespace Autopilot
namespace PointClouds

/-! ## The code -/

/-- The operations on numbers that are functions of the library. Floats are given by their bits. -/
structure NumberFunctions (K : Type) where
  floor : K → ℤ
  round : K → ℤ
  sqrt : K → K
  toFloat32 : K → UInt32
  ofFloat32 : UInt32 → K

/-- A neighbour of a point, at a squared distance. -/
structure Neighbour (K : Type) where
  j : ℕ
  d2 : K

/-- A pair of points, at a squared distance. -/
structure EdgeCandidate (K : Type) where
  a : ℕ
  b : ℕ
  d2 : K

/-- The ends of the edge. -/
def EdgeCandidate.ends {K : Type} (candidate : EdgeCandidate K) : ℕ × ℕ :=
  (candidate.a, candidate.b)

section numbers

variable {K : Type} [Sub K] [LT K] [DecidableLT K]

/-- `difference || next <= 0`, for the comparison of two numbers. -/
def notGreater [NatCast K] (x y : K) (next : Bool) : Bool :=
  if ((0 : ℕ) : K) < x - y then false else if x - y < ((0 : ℕ) : K) then true else next

/-- The least and the greatest of the numbers of a list. -/
def lowest : K → List K → K := List.foldl fun least x => if x < least then x else least

def highest : K → List K → K := List.foldl fun greatest x => if greatest < x then x else greatest

section points

variable [Add K] [Mul K] [Div K] [BEq K] [Max K] [NatCast K] (ops : NumberFunctions K)

/-- `positions[index] ?? 0`, as a number. -/
def coordinate (positions : List UInt32) (index : ℕ) : K :=
  match positions[index]? with
  | some bits => ops.ofFloat32 bits
  | none => ((0 : ℕ) : K)

/-- `value || 1`. -/
def orOne (value : K) : K := if value == ((0 : ℕ) : K) then ((1 : ℕ) : K) else value

/-- `cellKey`. -/
def cellKey (gx gy : ℤ) : BitVec 32 :=
  BitVec.ofInt 32 (gx * 73856093) ^^^ BitVec.ofInt 32 (gy * 19349663)

/-- The grid of a cloud: where it starts, and how wide its cells are. -/
structure EdgeGrid (K : Type) where
  minX : K
  minY : K
  cell : K

/-- The grid that the points are put into. -/
def edgeGrid (positions : List UInt32) (pointCount : ℕ) : EdgeGrid K :=
  let xs := (List.range pointCount).map fun i => coordinate ops positions (i * 3)
  let ys := (List.range pointCount).map fun i => coordinate ops positions (i * 3 + 1)
  let minX := lowest (xs.headD ((0 : ℕ) : K)) xs
  let maxX := highest (xs.headD ((0 : ℕ) : K)) xs
  let minY := lowest (ys.headD ((0 : ℕ) : K)) ys
  let maxY := highest (ys.headD ((0 : ℕ) : K)) ys
  let span := orOne (max (maxX - minX) (maxY - minY))
  { minX, minY, cell := span / max ((1 : ℕ) : K) (ops.sqrt (pointCount : K)) }

/-- The cell of a point. -/
def cellOf (positions : List UInt32) (grid : EdgeGrid K) (i : ℕ) : ℤ × ℤ :=
  (ops.floor ((coordinate ops positions (i * 3) - grid.minX) / grid.cell),
    ops.floor ((coordinate ops positions (i * 3 + 1) - grid.minY) / grid.cell))

/-- The points of a bucket of the grid, in order. -/
def bucket (positions : List UInt32) (pointCount : ℕ) (grid : EdgeGrid K) (key : BitVec 32) :
    List ℕ :=
  (List.range pointCount).filter fun i =>
    cellKey (cellOf ops positions grid i).1 (cellOf ops positions grid i).2 = key

/-- What is near to a point, in the order in which it is found. -/
def near (positions : List UInt32) (pointCount : ℕ) (grid : EdgeGrid K) (i : ℕ) :
    List (Neighbour K) :=
  let x := coordinate ops positions (i * 3)
  let y := coordinate ops positions (i * 3 + 1)
  let gx := (cellOf ops positions grid i).1
  let gy := (cellOf ops positions grid i).2
  ([-1, 0, 1] : List ℤ).flatMap fun ox => ([-1, 0, 1] : List ℤ).flatMap fun oy =>
    ((bucket ops positions pointCount grid (cellKey (gx + ox) (gy + oy))).filter (· ≠ i)).map
      fun j =>
        let dx := x - coordinate ops positions (j * 3)
        let dy := y - coordinate ops positions (j * 3 + 1)
        ⟨j, dx * dx + dy * dy⟩

/-- The `k` nearest. -/
def nearest (positions : List UInt32) (pointCount : ℕ) (grid : EdgeGrid K) (k i : ℕ) :
    List (Neighbour K) :=
  ((near ops positions pointCount grid i).mergeSort fun p q =>
    notGreater p.d2 q.d2 (p.j ≤ q.j)).take k

/-- The candidates so far, and the pairs that were seen. -/
structure EdgeSearch (K : Type) where
  seen : List ℕ
  candidates : List (EdgeCandidate K)

/-- A neighbour of a point is a candidate, unless its pair was seen. -/
def addNeighbour (pointCount i : ℕ) (search : EdgeSearch K) (neighbour : Neighbour K) :
    EdgeSearch K :=
  let lo := min i neighbour.j
  let hi := max i neighbour.j
  let id := lo * pointCount + hi
  if id ∈ search.seen then search
  else ⟨id :: search.seen, search.candidates ++ [⟨lo, hi, neighbour.d2⟩]⟩

/-- The pairs of neighbours. -/
def neighbourPairs (positions : List UInt32) (pointCount k : ℕ) : List (EdgeCandidate K) :=
  let grid := edgeGrid ops positions pointCount
  ((List.range pointCount).foldl (fun search i =>
    (nearest ops positions pointCount grid k i).foldl (addNeighbour pointCount i) search)
    ⟨[], []⟩).candidates

/-- The order of the candidates, the shortest first. -/
def shorter (p q : EdgeCandidate K) : Bool :=
  notGreater p.d2 q.d2 (p.a < q.a || (p.a = q.a && p.b ≤ q.b))

/-- The candidates that are kept. -/
def keptEdges (positions : List UInt32) (pointCount k maxEdges : ℕ) : List (EdgeCandidate K) :=
  if k < 1 ∨ pointCount < 2 ∨ maxEdges < 1 then []
  else ((neighbourPairs ops positions pointCount k).mergeSort shorter).take maxEdges

/-- `buildCappedEdges`. -/
def buildCappedEdges (positions : List UInt32) (pointCount k maxEdges : ℕ) : List UInt16 :=
  (keptEdges ops positions pointCount k maxEdges).flatMap fun pair =>
    [pair.a.toUInt16, pair.b.toUInt16]

/-! ## The pairs are distinct -/

/-- What holds of the candidates in every step of the search. -/
structure EdgeSearch.Sound (pointCount : ℕ) (search : EdgeSearch K) : Prop where
  ordered : ∀ pair ∈ search.candidates, pair.a < pair.b ∧ pair.b < pointCount
  distinct : (search.candidates.map EdgeCandidate.ends).Nodup
  seen : ∀ pair ∈ search.candidates, pair.a * pointCount + pair.b ∈ search.seen

omit [LT K] [DecidableLT K] [Sub K] [Add K] [Mul K] [Div K] [BEq K] [Max K] [NatCast K] in
theorem EdgeSearch.Sound.add {pointCount i : ℕ} {search : EdgeSearch K}
    (h : search.Sound pointCount) (hi : i < pointCount) {neighbour : Neighbour K}
    (hj : neighbour.j < pointCount) (hne : neighbour.j ≠ i) :
    (addNeighbour pointCount i search neighbour).Sound pointCount := by
  unfold addNeighbour
  dsimp only
  split
  · exact h
  · rename_i hnew
    refine ⟨?_, ?_, ?_⟩
    · intro pair hpair
      rcases List.mem_append.1 hpair with hold | hlast
      · exact h.ordered pair hold
      · rw [List.mem_singleton.1 hlast]
        dsimp only
        omega
    · rw [List.map_append, List.nodup_append]
      refine ⟨h.distinct, List.nodup_singleton _, ?_⟩
      intro ends hends other hother heq
      obtain ⟨pair, hpair, rfl⟩ := List.mem_map.1 hends
      rw [List.map_singleton, List.mem_singleton] at hother
      rw [hother] at heq
      have hboth := Prod.ext_iff.1 heq
      have ha : pair.a = min i neighbour.j := hboth.1
      have hb : pair.b = max i neighbour.j := hboth.2
      have hseen := h.seen pair hpair
      rw [ha, hb] at hseen
      exact hnew hseen
    · intro pair hpair
      rcases List.mem_append.1 hpair with hold | hlast
      · exact List.mem_cons_of_mem _ (h.seen pair hold)
      · rw [List.mem_singleton.1 hlast]
        exact List.mem_cons_self

omit [BEq K] [Max K] in
theorem nearest_mem {positions : List UInt32} {pointCount k i : ℕ} {grid : EdgeGrid K}
    {neighbour : Neighbour K} (h : neighbour ∈ nearest ops positions pointCount grid k i) :
    neighbour.j < pointCount ∧ neighbour.j ≠ i := by
  have hnear := (List.mergeSort_perm _ _).mem_iff.1 (List.mem_of_mem_take h)
  unfold near at hnear
  simp only [List.mem_flatMap, List.mem_map] at hnear
  obtain ⟨ox, -, oy, -, j, hj, rfl⟩ := hnear
  obtain ⟨hbucket, hne⟩ := List.mem_filter.1 hj
  exact ⟨List.mem_range.1 (List.mem_filter.1 hbucket).1, of_decide_eq_true hne⟩

/-- The pairs of neighbours are distinct pairs of points, in order. -/
theorem neighbourPairs_sound (positions : List UInt32) (pointCount k : ℕ) :
    (∀ pair ∈ neighbourPairs ops positions pointCount k, pair.a < pair.b ∧ pair.b < pointCount) ∧
      ((neighbourPairs ops positions pointCount k).map EdgeCandidate.ends).Nodup := by
  have hinner (i : ℕ) (hi : i < pointCount) (neighbours : List (Neighbour K))
      (hmem : ∀ neighbour ∈ neighbours, neighbour.j < pointCount ∧ neighbour.j ≠ i)
      (search : EdgeSearch K) (h : search.Sound pointCount) :
      (neighbours.foldl (addNeighbour pointCount i) search).Sound pointCount := by
    induction neighbours generalizing search with
    | nil => exact h
    | cons neighbour rest ih =>
      obtain ⟨hj, hne⟩ := hmem neighbour List.mem_cons_self
      exact ih (fun n hn => hmem n (List.mem_cons_of_mem neighbour hn)) _ (h.add hi hj hne)
  have houter (points : List ℕ) (hpoints : ∀ i ∈ points, i < pointCount)
      (search : EdgeSearch K) (h : search.Sound pointCount) :
      (points.foldl (fun search i =>
        (nearest ops positions pointCount (edgeGrid ops positions pointCount) k i).foldl
          (addNeighbour pointCount i) search) search).Sound pointCount := by
    induction points generalizing search with
    | nil => exact h
    | cons i rest ih =>
      exact ih (fun j hj => hpoints j (List.mem_cons_of_mem i hj)) _
        (hinner i (hpoints i List.mem_cons_self) _ (fun n hn => nearest_mem ops hn) search h)
  have hstart : (⟨[], []⟩ : EdgeSearch K).Sound pointCount :=
    ⟨fun _ h => absurd h List.not_mem_nil, List.nodup_nil, fun _ h => absurd h List.not_mem_nil⟩
  have hend := houter (List.range pointCount) (fun i hi => List.mem_range.1 hi) _ hstart
  exact ⟨hend.ordered, hend.distinct⟩

theorem foldl_self {α β : Type} (l : List α) (s : β) : l.foldl (fun s _ => s) s = s := by
  induction l with
  | nil => rfl
  | cons a l ih => exact ih

theorem neighbourPairs_zero (positions : List UInt32) (pointCount : ℕ) :
    neighbourPairs ops positions pointCount 0 = [] := by
  unfold neighbourPairs nearest
  simp only [List.take_zero, List.foldl_nil]
  rw [foldl_self]

/-- The pairs that are kept are pairs of neighbours, no more than allowed. -/
theorem keptEdges_sound (positions : List UInt32) (pointCount k maxEdges : ℕ) :
    (∀ pair ∈ keptEdges ops positions pointCount k maxEdges,
        pair.a < pair.b ∧ pair.b < pointCount) ∧
      ((keptEdges ops positions pointCount k maxEdges).map EdgeCandidate.ends).Nodup ∧
      (keptEdges ops positions pointCount k maxEdges).length ≤ maxEdges := by
  unfold keptEdges
  split
  · exact ⟨fun _ h => absurd h List.not_mem_nil, List.nodup_nil, Nat.zero_le _⟩
  · obtain ⟨hordered, hdistinct⟩ := neighbourPairs_sound ops positions pointCount k
    have hperm := List.mergeSort_perm (neighbourPairs ops positions pointCount k) shorter
    refine ⟨fun pair hpair => ?_, ?_, List.length_take_le _ _⟩
    · exact hordered pair (hperm.mem_iff.1 (List.mem_of_mem_take hpair))
    · rw [List.map_take]
      exact ((hperm.map _).nodup_iff.2 hdistinct).sublist (List.take_sublist _ _)

end points

end numbers

/-! ## What is stored -/

/-- The pairs of a list of numbers. -/
def pairsOf : List UInt16 → List (ℕ × ℕ)
  | a :: b :: rest => (a.toNat, b.toNat) :: pairsOf rest
  | _ => []

theorem pairsOf_flatMap {K : Type} (pairs : List (EdgeCandidate K)) :
    pairsOf (pairs.flatMap fun pair => [pair.a.toUInt16, pair.b.toUInt16]) =
      pairs.map fun pair => (pair.a % 65536, pair.b % 65536) := by
  induction pairs with
  | nil => rfl
  | cons pair rest ih =>
    have ha : pair.a.toUInt16.toNat = pair.a % 65536 := UInt16.toNat_ofNat'
    have hb : pair.b.toUInt16.toNat = pair.b % 65536 := UInt16.toNat_ofNat'
    rw [List.flatMap_cons, List.map_cons, ← ih, ← ha, ← hb]
    rfl

theorem length_stored {K : Type} (pairs : List (EdgeCandidate K)) :
    (pairs.flatMap fun pair => [pair.a.toUInt16, pair.b.toUInt16]).length = 2 * pairs.length := by
  induction pairs with
  | nil => rfl
  | cons pair rest ih =>
    rw [List.flatMap_cons, List.length_append, ih, List.length_cons, List.length_cons,
      List.length_cons, List.length_nil]
    omega

/-- What is stored are the pairs when their points are among the first 65536. -/
theorem stored_iff {K : Type} {pairs : List (EdgeCandidate K)}
    (h : ∀ pair ∈ pairs, pair.a < pair.b) :
    pairs.map (fun pair => (pair.a % 65536, pair.b % 65536)) = pairs.map EdgeCandidate.ends ↔
      ∀ pair ∈ pairs, pair.b < 65536 := by
  rw [List.map_inj_left]
  refine forall₂_congr fun pair hpair => ?_
  have hlt := h pair hpair
  rw [EdgeCandidate.ends, Prod.mk.injEq]
  omega

/-! ## Which pairs are kept -/

/-- Of a list in a strict order the first are those with few before them. -/
theorem mem_take_iff_countP {α : Type} {r : α → α → Bool} {l : List α}
    (hasymm : ∀ x y, r x y = true → r y x = false) (h : l.Pairwise fun x y => r x y = true)
    (m : ℕ) (x : α) : x ∈ l.take m ↔ x ∈ l ∧ l.countP (r · x) < m := by
  have hirrefl (y : α) : r y y = false := by
    rw [Bool.eq_false_iff]
    intro hyy
    rw [hasymm y y hyy] at hyy
    cases hyy
  induction l generalizing m with
  | nil => simp
  | cons y rest ih =>
    obtain ⟨hy, hrest⟩ := List.pairwise_cons.1 h
    have hself : (y :: rest).countP (r · y) = 0 := by
      rw [List.countP_eq_zero]
      intro z hz
      rcases List.mem_cons.1 hz with rfl | hz
      · rw [hirrefl z]
        exact Bool.false_ne_true
      · rw [hasymm y z (hy z hz)]
        exact Bool.false_ne_true
    cases m with
    | zero => simp
    | succ m =>
      have hlater := ih hrest m
      have hcount (hx : x ∈ rest) : (y :: rest).countP (r · x) = rest.countP (r · x) + 1 :=
        List.countP_cons_of_pos (p := (r · x)) (hy x hx)
      rw [List.take_succ_cons, List.mem_cons, List.mem_cons]
      constructor
      · rintro (rfl | htake)
        · exact ⟨.inl rfl, by omega⟩
        · obtain ⟨hx, hlt⟩ := hlater.1 htake
          exact ⟨.inr hx, by rw [hcount hx]; omega⟩
      · rintro ⟨rfl | hx, hlt⟩
        · exact .inl rfl
        · rw [hcount hx] at hlt
          exact .inr (hlater.2 ⟨hx, by omega⟩)

section order

variable {K : Type} [LinearOrder K] [Sub K] [NatCast K]

/-- The sign of a difference tells which number is greater. -/
structure SignOfDifference (K : Type) [LT K] [Sub K] [NatCast K] : Prop where
  positive : ∀ x y : K, ((0 : ℕ) : K) < x - y ↔ y < x
  negative : ∀ x y : K, x - y < ((0 : ℕ) : K) ↔ x < y

theorem notGreater_iff (hsign : SignOfDifference K) (x y : K) (next : Bool) :
    notGreater x y next = true ↔ x < y ∨ x = y ∧ next = true := by
  unfold notGreater
  simp only [hsign.positive, hsign.negative]
  rcases lt_trichotomy x y with hlt | heq | hgt
  · simp [hlt, lt_asymm hlt]
  · simp [heq]
  · simp [hgt, lt_asymm hgt, hgt.ne']

theorem shorter_iff (hsign : SignOfDifference K) (p q : EdgeCandidate K) :
    shorter p q = true ↔ p.d2 < q.d2 ∨ p.d2 = q.d2 ∧ (p.a < q.a ∨ p.a = q.a ∧ p.b ≤ q.b) := by
  rw [shorter, notGreater_iff hsign]
  simp only [Bool.or_eq_true, Bool.and_eq_true, decide_eq_true_eq]

theorem shorter_trans (hsign : SignOfDifference K) (p q r : EdgeCandidate K)
    (hpq : shorter p q = true) (hqr : shorter q r = true) : shorter p r = true := by
  rw [shorter_iff hsign] at hpq hqr ⊢
  rcases hpq with hpq | ⟨hpq, hends⟩
  · rcases hqr with hqr | ⟨hqr, -⟩
    · exact .inl (hpq.trans hqr)
    · exact .inl (hqr ▸ hpq)
  · rcases hqr with hqr | ⟨hqr, hends'⟩
    · exact .inl (hpq ▸ hqr)
    · exact .inr ⟨hpq.trans hqr, by omega⟩

theorem shorter_total (hsign : SignOfDifference K) (p q : EdgeCandidate K) :
    (shorter p q || shorter q p) = true := by
  rw [Bool.or_eq_true, shorter_iff hsign, shorter_iff hsign]
  rcases lt_trichotomy p.d2 q.d2 with hlt | heq | hgt
  · exact .inl (.inl hlt)
  · by_cases hends : p.a < q.a ∨ p.a = q.a ∧ p.b ≤ q.b
    · exact .inl (.inr ⟨heq, hends⟩)
    · exact .inr (.inr ⟨heq.symm, by omega⟩)
  · exact .inr (.inl hgt)

/-- One candidate comes before another one. -/
def before (p q : EdgeCandidate K) : Bool := shorter p q && p.ends ≠ q.ends

theorem before_asymm (hsign : SignOfDifference K) (p q : EdgeCandidate K)
    (h : before p q = true) : before q p = false := by
  obtain ⟨hpq, hne⟩ := Bool.and_eq_true_iff.1 h
  rw [before, Bool.and_eq_false_imp]
  intro hqp
  refine absurd ?_ (of_decide_eq_true hne)
  rw [shorter_iff hsign] at hpq hqp
  rcases hpq with hpq | ⟨heq, hends⟩
  · rcases hqp with hqp | ⟨heq, -⟩
    · exact absurd hqp (lt_asymm hpq)
    · exact absurd heq hpq.ne'
  · rcases hqp with hqp | ⟨-, hends'⟩
    · exact absurd heq hqp.ne'
    · rw [EdgeCandidate.ends, EdgeCandidate.ends, Prod.mk.injEq]
      omega

variable [Add K] [Mul K] [Div K] [BEq K] (ops : NumberFunctions K)

/-- No pair of neighbours that has few before it has a point behind the first 65536. -/
def EdgesFit (positions : List UInt32) (pointCount k maxEdges : ℕ) : Prop :=
  ∀ pair ∈ neighbourPairs ops positions pointCount k,
    (neighbourPairs ops positions pointCount k).countP (before · pair) < maxEdges → pair.b < 65536

/-- The pairs that are kept have points among the first 65536 when the shortest ones do. -/
theorem keptEdges_lt_iff (hsign : SignOfDifference K) (positions : List UInt32)
    (pointCount k maxEdges : ℕ) :
    (∀ pair ∈ keptEdges ops positions pointCount k maxEdges, pair.b < 65536) ↔
      EdgesFit ops positions pointCount k maxEdges := by
  obtain ⟨hordered, hdistinct⟩ := neighbourPairs_sound ops positions pointCount k
  have hnone : k < 1 → neighbourPairs ops positions pointCount k = [] := by
    intro hk
    rw [Nat.lt_one_iff.1 hk, neighbourPairs_zero]
  unfold keptEdges EdgesFit
  generalize neighbourPairs ops positions pointCount k = pairs at hordered hdistinct hnone ⊢
  split
  · rename_i hearly
    refine ⟨fun _ pair hpair hrank => ?_, fun _ _ h => absurd h List.not_mem_nil⟩
    have hb := (hordered pair hpair).2
    rcases hearly with hk | hpoints
    · rw [hnone hk] at hpair
      exact absurd hpair List.not_mem_nil
    · omega
  · have hperm := List.mergeSort_perm pairs shorter
    have hsorted : (pairs.mergeSort shorter).Pairwise fun p q => before p q = true := by
      have happart := (hperm.map EdgeCandidate.ends).nodup_iff.2 hdistinct
      rw [List.Nodup, List.pairwise_map] at happart
      refine (List.pairwise_mergeSort (shorter_trans hsign)
        (shorter_total hsign) pairs).imp₂ (fun p q hle hne => ?_) happart
      rw [before, hle, decide_eq_true hne]
      rfl
    have hrank := mem_take_iff_countP (before_asymm hsign) hsorted maxEdges
    constructor
    · intro h pair hpair hfew
      refine h pair ((hrank pair).2 ⟨hperm.mem_iff.2 hpair, ?_⟩)
      rwa [hperm.countP_eq]
    · intro h pair hpair
      obtain ⟨hmem, hfew⟩ := (hrank pair).1 hpair
      rw [hperm.countP_eq] at hfew
      exact h pair (hperm.mem_iff.1 hmem) hfew

end order

end PointClouds
end Autopilot
