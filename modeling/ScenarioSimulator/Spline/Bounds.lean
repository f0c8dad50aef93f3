/-
The offset queries of the spline (catmull_rom_spline.cpp: getPoint(s, offset), getRightBounds, getLeftBounds,
getPolygon): a point moved sideways by `offset` along the heading θ = atan2 of the normal at s, and the two bounds of a
band of a given width, sampled at num_points + 1 arc lengths and raised by z_offset.

num_points is a size_t, modelled as `UInt64`: the loop bound num_points + 1 of the bounds and the bound
left_bounds.size() - 1 of the polygon are computed in it and wrap. At num_points = 0 the step size divides by zero and
the first sample, at s = NaN, throws "failed to calculate curve index" (`sampleBounds`).

Results:
- `getPointWithOffset_spec`: on a spline with curves and consistent tables, getPoint(s, offset) keeps the z of
  getPoint(s) and moves (x, y) by offset (cos θ, sin θ): |offset| away in the plane, along the normal when the normal
  is nonzero.
- `bounds_eq`: for 1 ≤ num_points < 2^64 - 1, the i-th right and left bounds are getPoint(s_i, width/2) and
  getPoint(s_i, -width/2) raised by z_offset at s_i = i · getLength() / num_points; they are width apart and their
  midpoint is getPoint(s_i) raised by z_offset.
- `getPolygon_eq`: for 1 ≤ num_points < 2^64 - 1 the polygon is num_points rounds of the two triangles
  (R_i, L_i, R_{i+1}) and (L_i, L_{i+1}, R_{i+1}), every read in range: 6 · num_points points.
- `bounds_sizeMax_empty`: at num_points = 2^64 - 1 the loop bound num_points + 1 wraps to 0 and both bounds are empty.
- `getPolygon_num_points_wrap`: at num_points = 0 the bounds and the polygon throw; at num_points = 2^64 - 1 the
  polygon's bound left_bounds.size() - 1 wraps too and its first read of right_bounds is out of range.
-/
import ScenarioSimulator.Spline.Resolution

namespace ScenarioSimulator.Geometry

variable {R : Type} [LinearOrderedField R]

/-! ## A point moved along a heading -/

/-- p moved in the plane by d along the heading θ = atan2 n.y n.x of n -/
def Point.shift (m : Libm R) (p n : Point R) (d : R) : Point R :=
  ⟨p.x + d * m.cos (m.atan2 n.y n.x), p.y + d * m.sin (m.atan2 n.y n.x), p.z⟩

/-- a shift moves by |d| in the plane -/
theorem Point.dist2Sq_shift {m : Libm R} (hm : m.Lawful) (p n : Point R) (d : R) :
    dist2Sq (p.shift m n d) p = d ^ 2 := by
  have h := hm.cos_sq_add_sin_sq (m.atan2 n.y n.x)
  simp only [dist2Sq, shift, add_sub_cancel_left]
  linear_combination d ^ 2 * h

/-- a shift moves along n: by d / |n| times n -/
theorem Point.shift_along {m : Libm R} (hm : m.Lawful) (p n : Point R) (d : R) (hn : n.x ≠ 0 ∨ n.y ≠ 0) :
    m.sqrt (n.x ^ 2 + n.y ^ 2) * ((p.shift m n d).x - p.x) = d * n.x ∧
      m.sqrt (n.x ^ 2 + n.y ^ 2) * ((p.shift m n d).y - p.y) = d * n.y := by
  simp only [shift, add_sub_cancel_left]
  constructor
  · rw [mul_left_comm, hm.cos_atan2 _ _ hn]
  · rw [mul_left_comm, hm.sin_atan2]

/-- two opposite shifts raised by z are |2d| apart -/
theorem Point.distSq_shift_neg {m : Libm R} (hm : m.Lawful) (p n : Point R) (d z : R) :
    distSq (p.shift m n d + ⟨0, 0, z⟩) (p.shift m n (-d) + ⟨0, 0, z⟩) = (2 * d) ^ 2 := by
  have h := hm.cos_sq_add_sin_sq (m.atan2 n.y n.x)
  simp only [distSq, shift, add_x, add_y, add_z]
  linear_combination (2 * d) ^ 2 * h

/-- two opposite shifts raised by z have the raised point as their midpoint -/
theorem Point.midpoint_shift_neg (m : Libm R) (p n : Point R) (d z : R) :
    (1 / 2 : R) • (p.shift m n d + ⟨0, 0, z⟩ + (p.shift m n (-d) + ⟨0, 0, z⟩)) = p + ⟨0, 0, z⟩ := by
  ext <;> simp only [shift, add_x, add_y, add_z, smul_x, smul_y, smul_z] <;> ring

namespace CatmullRomSpline

/-! ## getPoint(s, offset) -/

/-- CatmullRomSpline::getPoint(s, offset) -/
def getPointWithOffset (m : Libm R) (sp : CatmullRomSpline R) (s offset : R) : Except Error (Point R) := do
  let vec ← sp.getNormalVector s
  let theta := m.atan2 vec.y vec.x
  let p ← sp.getPoint s
  pure ⟨p.x + offset * m.cos theta, p.y + offset * m.sin theta, p.z⟩

/-- getPoint(s) and getNormalVector(s) return -/
theorem getPoint_ok {sp : CatmullRomSpline R} (hb : sp.Bookkeeping) (hne : sp.curves ≠ []) (s : R) :
    ∃ p n, sp.getPoint s = .ok p ∧ sp.getNormalVector s = .ok n := by
  obtain ⟨i, v, e, hi, -⟩ := getCurveIndexAndS_roundTrip hb hne s
  exact ⟨_, _, atS_eq e hi _, atS_eq e hi _⟩

theorem getPointWithOffset_eq {m : Libm R} {sp : CatmullRomSpline R} {s : R} {p n : Point R}
    (hp : sp.getPoint s = .ok p) (hn : sp.getNormalVector s = .ok n) (offset : R) :
    sp.getPointWithOffset m s offset = .ok (p.shift m n offset) := by
  simp [getPointWithOffset, hp, hn, bind, Except.bind, pure, Except.pure, Point.shift]

/-- getPoint(s, offset) is getPoint(s) moved by offset along the heading of the normal -/
theorem getPointWithOffset_spec {m : Libm R} (hm : m.Lawful) {sp : CatmullRomSpline R} (hb : sp.Bookkeeping)
    (hne : sp.curves ≠ []) (s offset : R) :
    ∃ p n q, sp.getPoint s = .ok p ∧ sp.getNormalVector s = .ok n ∧ sp.getPointWithOffset m s offset = .ok q ∧
      q.z = p.z ∧ q.x - p.x = offset * m.cos (m.atan2 n.y n.x) ∧ q.y - p.y = offset * m.sin (m.atan2 n.y n.x) ∧
      Point.dist2Sq q p = offset ^ 2 ∧
      (n.x ≠ 0 ∨ n.y ≠ 0 →
        m.sqrt (n.x ^ 2 + n.y ^ 2) * (q.x - p.x) = offset * n.x ∧
        m.sqrt (n.x ^ 2 + n.y ^ 2) * (q.y - p.y) = offset * n.y) := by
  obtain ⟨p, n, hp, hn⟩ := getPoint_ok hb hne s
  exact ⟨p, n, _, hp, hn, getPointWithOffset_eq hp hn offset, rfl, add_sub_cancel_left _ _,
    add_sub_cancel_left _ _, Point.dist2Sq_shift hm p n offset, Point.shift_along hm p n offset⟩

/-! ## Bounds and polygon -/

/-- Modelled from the spec: CatmullRomSpline::getLength, declared in catmull_rom_spline.hpp, returns total_length_ -/
def getLength (sp : CatmullRomSpline R) : R := sp.totalLength

/-- the loop of getRightBounds and getLeftBounds: the lambda `bound` at s = step_size · i with
step_size = getLength() / num_points, for every i below num_points + 1 computed in size_t. At num_points = 0 the
division gives inf (NaN for a zero length) and the first sample is s = NaN: both lambdas start with
getNormalVector(NaN), whose getCurveIndexAndS accepts NaN in none of its comparisons and throws. -/
def sampleBounds (sp : CatmullRomSpline R) (num_points : UInt64) (bound : R → Except Error (Point R)) :
    Except Error (List (Point R)) :=
  if num_points = 0 then .error (.simulation "failed to calculate curve index")
  else
    let step_size := sp.getLength / (num_points.toNat : R)
    (List.range (num_points + 1).toNat).mapM fun (i : ℕ) => bound (step_size * i)

/-- the lambda of getRightBounds: the point at s moved by width / 2 along the normal's heading, raised by z_offset -/
def rightBound (m : Libm R) (sp : CatmullRomSpline R) (width s z_offset : R) : Except Error (Point R) := do
  let vec ← sp.getNormalVector s
  let theta := m.atan2 vec.y vec.x
  let p ← sp.getPoint s
  pure ⟨p.x + 0.5 * width * m.cos theta, p.y + 0.5 * width * m.sin theta, p.z + z_offset⟩

/-- the lambda of getLeftBounds: the point at s moved by width / 2 against the normal's heading, raised by z_offset -/
def leftBound (m : Libm R) (sp : CatmullRomSpline R) (width s z_offset : R) : Except Error (Point R) := do
  let vec ← sp.getNormalVector s
  let theta := m.atan2 vec.y vec.x
  let p ← sp.getPoint s
  pure ⟨p.x - 0.5 * width * m.cos theta, p.y - 0.5 * width * m.sin theta, p.z + z_offset⟩

/-- CatmullRomSpline::getRightBounds(width, num_points, z_offset) -/
def getRightBounds (m : Libm R) (sp : CatmullRomSpline R) (width : R) (num_points : UInt64) (z_offset : R) :
    Except Error (List (Point R)) :=
  sp.sampleBounds num_points fun s => sp.rightBound m width s z_offset

/-- CatmullRomSpline::getLeftBounds(width, num_points, z_offset) -/
def getLeftBounds (m : Libm R) (sp : CatmullRomSpline R) (width : R) (num_points : UInt64) (z_offset : R) :
    Except Error (List (Point R)) :=
  sp.sampleBounds num_points fun s => sp.leftBound m width s z_offset

/-- xs[i]; a read out of range is an error -/
def readAt {α : Type} (xs : List α) (i : ℕ) : Except Error α :=
  match xs[i]? with
  | none => .error .outOfRange
  | some x => .ok x

/-- CatmullRomSpline::getPolygon(width, num_points, z_offset): two triangles per pair of consecutive samples, for i
below left_bounds.size() - 1 computed in size_t -/
def getPolygon (m : Libm R) (sp : CatmullRomSpline R) (width : R) (num_points : UInt64) (z_offset : R) :
    Except Error (List (Point R)) := do
  let left_bounds ← sp.getLeftBounds m width num_points z_offset
  let right_bounds ← sp.getRightBounds m width num_points z_offset
  let triangles ← (List.range (left_bounds.length.toUInt64 - 1).toNat).mapM fun i => do
    let pr_0 ← readAt right_bounds i
    let pl_0 ← readAt left_bounds i
    let pr_1 ← readAt right_bounds (i + 1)
    let pl_1 ← readAt left_bounds (i + 1)
    pure [pr_0, pl_0, pr_1, pl_0, pl_1, pr_1]
  pure triangles.flatten

theorem mapM_eq_ok {α β : Type} {f : α → Except Error β} {g : α → β} :
    ∀ {xs : List α}, (∀ x ∈ xs, f x = .ok (g x)) → xs.mapM f = .ok (xs.map g)
  | [], _ => rfl
  | x :: xs, h => by
    rw [List.mapM_cons, h x (List.mem_cons_self x xs), mapM_eq_ok fun y hy => h y (List.mem_cons_of_mem x hy)]
    rfl

/-- below the wrap, the sampling loop runs num_points + 1 times -/
theorem sampleBounds_eq {sp : CatmullRomSpline R} {num_points : UInt64} {bound : R → Except Error (Point R)}
    {g : ℕ → Point R} (h1 : 1 ≤ num_points.toNat) (hN : num_points.toNat < 2 ^ 64 - 1)
    (h : ∀ i : ℕ, bound (sp.getLength / (num_points.toNat : R) * i) = .ok (g i)) :
    sp.sampleBounds num_points bound = .ok ((List.range (num_points.toNat + 1)).map g) := by
  have hw : (num_points + 1).toNat = (num_points.toNat + 1) % 2 ^ 64 := rfl
  rw [Nat.mod_eq_of_lt (by omega)] at hw
  rw [sampleBounds, if_neg fun h => by simp [h] at h1, hw]
  exact mapM_eq_ok fun i _ => h i

theorem rightBound_eq {m : Libm R} {sp : CatmullRomSpline R} {s : R} {p n : Point R}
    (hp : sp.getPoint s = .ok p) (hn : sp.getNormalVector s = .ok n) (width z_offset : R) :
    sp.rightBound m width s z_offset = .ok (p.shift m n (width / 2) + ⟨0, 0, z_offset⟩) := by
  simp only [rightBound, hp, hn, bind, Except.bind, pure, Except.pure, Except.ok.injEq]
  ext <;> simp only [Point.shift, Point.add_x, Point.add_y, Point.add_z] <;> ring

theorem leftBound_eq {m : Libm R} {sp : CatmullRomSpline R} {s : R} {p n : Point R}
    (hp : sp.getPoint s = .ok p) (hn : sp.getNormalVector s = .ok n) (width z_offset : R) :
    sp.leftBound m width s z_offset = .ok (p.shift m n (-(width / 2)) + ⟨0, 0, z_offset⟩) := by
  simp only [leftBound, hp, hn, bind, Except.bind, pure, Except.pure, Except.ok.injEq]
  ext <;> simp only [Point.shift, Point.add_x, Point.add_y, Point.add_z] <;> ring

/-- the bounds sample getPoint(s_i, ±width/2), width apart around getPoint(s_i), all raised by z_offset -/
theorem bounds_eq {m : Libm R} (hm : m.Lawful) {sp : CatmullRomSpline R} (hb : sp.Bookkeeping) (hne : sp.curves ≠ [])
    (width z_offset : R) (num_points : UInt64) (h1 : 1 ≤ num_points.toNat) (hN : num_points.toNat < 2 ^ 64 - 1) :
    ∃ rights lefts, sp.getRightBounds m width num_points z_offset = .ok rights ∧
      sp.getLeftBounds m width num_points z_offset = .ok lefts ∧
      rights.length = num_points.toNat + 1 ∧ lefts.length = num_points.toNat + 1 ∧
      ∀ i ≤ num_points.toNat, ∃ p r l, sp.getPoint (i * sp.getLength / num_points.toNat) = .ok p ∧
        sp.getPointWithOffset m (i * sp.getLength / num_points.toNat) (width / 2) = .ok r ∧
        sp.getPointWithOffset m (i * sp.getLength / num_points.toNat) (-(width / 2)) = .ok l ∧
        rights[i]? = some (r + ⟨0, 0, z_offset⟩) ∧ lefts[i]? = some (l + ⟨0, 0, z_offset⟩) ∧
        Point.distSq (r + ⟨0, 0, z_offset⟩) (l + ⟨0, 0, z_offset⟩) = width ^ 2 ∧
        (1 / 2 : R) • (r + ⟨0, 0, z_offset⟩ + (l + ⟨0, 0, z_offset⟩)) = p + ⟨0, 0, z_offset⟩ := by
  choose p n hpn using getPoint_ok hb hne
  have hs : ∀ i : ℕ, sp.getLength / (num_points.toNat : R) * i = i * sp.getLength / num_points.toNat := fun i => by
    ring
  refine ⟨_, _, sampleBounds_eq h1 hN fun i => rightBound_eq (hpn _).1 (hpn _).2 width z_offset,
    sampleBounds_eq h1 hN fun i => leftBound_eq (hpn _).1 (hpn _).2 width z_offset, by simp, by simp,
    fun i hi => ?_⟩
  set s := i * sp.getLength / num_points.toNat
  refine ⟨p s, _, _, (hpn s).1, getPointWithOffset_eq (hpn s).1 (hpn s).2 _,
    getPointWithOffset_eq (hpn s).1 (hpn s).2 _, ?_, ?_, ?_, Point.midpoint_shift_neg m (p s) (n s) _ _⟩
  · simp [List.getElem?_map, List.getElem?_range (Nat.lt_succ_of_le hi), hs, s]
  · simp [List.getElem?_map, List.getElem?_range (Nat.lt_succ_of_le hi), hs, s]
  · rw [Point.distSq_shift_neg hm]; ring

theorem readAt_of_lt {α : Type} {xs : List α} {i : ℕ} (h : i < xs.length) (d : α) : readAt xs i = .ok (xs.getD i d) := by
  rw [readAt, List.getElem?_eq_getElem h, List.getD_eq_getElem _ _ h]

/-- for 1 ≤ num_points < 2^64 - 1 the polygon's loop runs num_points times, reads both bounds in range and emits the
triangles (R_i, L_i, R_{i+1}) and (L_i, L_{i+1}, R_{i+1}): 6 · num_points points -/
theorem getPolygon_eq {m : Libm R} (hm : m.Lawful) {sp : CatmullRomSpline R} (hb : sp.Bookkeeping)
    (hne : sp.curves ≠ []) (width z_offset : R) (num_points : UInt64) (h1 : 1 ≤ num_points.toNat)
    (hN : num_points.toNat < 2 ^ 64 - 1) :
    ∃ (rights lefts : List (Point R)) (triangles : List (List (Point R))), sp.getRightBounds m width num_points z_offset = .ok rights ∧
      sp.getLeftBounds m width num_points z_offset = .ok lefts ∧
      rights.length = num_points.toNat + 1 ∧ lefts.length = num_points.toNat + 1 ∧
      sp.getPolygon m width num_points z_offset = .ok triangles.flatten ∧ triangles.length = num_points.toNat ∧
      triangles.flatten.length = 6 * num_points.toNat ∧
      ∀ i < num_points.toNat, ∃ r0 l0 r1 l1, rights[i]? = some r0 ∧ lefts[i]? = some l0 ∧
        rights[i + 1]? = some r1 ∧ lefts[i + 1]? = some l1 ∧ triangles[i]? = some [r0, l0, r1, l0, l1, r1] := by
  obtain ⟨rights, lefts, hr, hl, hrl, hll, -⟩ := bounds_eq hm hb hne width z_offset num_points h1 hN
  set N := num_points.toNat
  have hloop : (lefts.length.toUInt64 - 1).toNat = N := by
    have ha : (N + 1).toUInt64.toNat = N + 1 := UInt64.toNat_ofNat_of_lt (by simp only [UInt64.size]; omega)
    have hle : (1 : UInt64) ≤ (N + 1).toUInt64 :=
      UInt64.le_def.mpr (BitVec.le_def.mpr (show 1 ≤ (N + 1).toUInt64.toNat by omega))
    rw [hll, UInt64.toNat_sub_of_le _ _ hle, ha]
    rfl
  let g := fun i => [rights.getD i 0, lefts.getD i 0, rights.getD (i + 1) 0, lefts.getD i 0, lefts.getD (i + 1) 0,
    rights.getD (i + 1) 0]
  have htri : ∀ i ∈ List.range N, (do
      let pr_0 ← readAt rights i
      let pl_0 ← readAt lefts i
      let pr_1 ← readAt rights (i + 1)
      let pl_1 ← readAt lefts (i + 1)
      pure [pr_0, pl_0, pr_1, pl_0, pl_1, pr_1] : Except Error (List (Point R))) = .ok (g i) := fun i hi => by
    have hi := List.mem_range.mp hi
    rw [readAt_of_lt (by omega) 0, readAt_of_lt (by omega) 0, readAt_of_lt (by omega) 0, readAt_of_lt (by omega) 0]
    rfl
  refine ⟨rights, lefts, (List.range N).map g, hr, hl, hrl, hll, ?_, by simp, ?_, fun i hi => ?_⟩
  · rw [getPolygon, show sp.getLeftBounds m width num_points z_offset = pure lefts from hl,
      show sp.getRightBounds m width num_points z_offset = pure rights from hr, pure_bind, pure_bind, hloop,
      mapM_eq_ok htri]
    rfl
  · rw [List.length_flatten, List.map_map, show List.length ∘ g = fun _ => 6 from rfl, List.map_const',
      List.sum_replicate, List.length_range, smul_eq_mul, mul_comm]
  · refine ⟨_, _, _, _, List.getElem?_eq_getElem (by omega), List.getElem?_eq_getElem (by omega),
      List.getElem?_eq_getElem (by omega), List.getElem?_eq_getElem (by omega), ?_⟩
    simp [g, List.getElem?_map, List.getElem?_range hi, List.getElem?_eq_getElem (show i < rights.length by omega),
      List.getElem?_eq_getElem (show i < lefts.length by omega),
      List.getElem?_eq_getElem (show i + 1 < rights.length by omega),
      List.getElem?_eq_getElem (show i + 1 < lefts.length by omega)]

/-- the spline through three points on the x axis, at num_points 4: 24 points, two triangles a step -/
theorem getPolygon_eq_threePoints :
    ∃ sp, new (Measure.chords Libm.real Libm.real_lawful 1 Nat.one_pos) threePoints = .ok sp ∧
      ∃ triangles : List (List (Point ℝ)), sp.getPolygon Libm.real 2 4 0 = .ok triangles.flatten ∧
        triangles.flatten.length = 6 * (4 : UInt64).toNat := by
  obtain ⟨curves, -, -, -, -, hnew⟩ := new_eq_ofCurves (Measure.chords Libm.real Libm.real_lawful 1 Nat.one_pos)
    (show 3 ≤ (threePoints : List (Point ℝ)).length by decide)
  have hne : _ ≠ [] := List.ne_nil_of_length_pos (by rw [new_curves_length (by decide) hnew]; decide)
  obtain ⟨-, -, triangles, -, -, -, -, hpoly, -, hlen, -⟩ :=
    getPolygon_eq Libm.real_lawful (new_bookkeeping hnew) hne 2 0 4 (by decide) (by decide)
  exact ⟨_, hnew, triangles, hpoly, hlen⟩

/-- the polygon's loop stops at the first read of right_bounds when it fails -/
theorem getPolygon_first_read {m : Libm R} {sp : CatmullRomSpline R} {width z_offset : R} {num_points : UInt64}
    {rights lefts : List (Point R)} (hr : sp.getRightBounds m width num_points z_offset = .ok rights)
    (hl : sp.getLeftBounds m width num_points z_offset = .ok lefts) {n : ℕ}
    (hn : (lefts.length.toUInt64 - 1).toNat = n + 1) {e : Error} (h0 : readAt rights 0 = .error e) :
    sp.getPolygon m width num_points z_offset = .error e := by
  simp only [getPolygon, hr, hl, bind, Except.bind, hn]
  rw [List.range_succ_eq_map, List.mapM_cons, h0]
  rfl

/-- at num_points = 2^64 - 1 the loop bound num_points + 1 wraps to 0: both bounds are empty -/
theorem bounds_sizeMax_empty (m : Libm R) (sp : CatmullRomSpline R) (width z_offset : R) :
    sp.getRightBounds m width 18446744073709551615 z_offset = .ok [] ∧
      sp.getLeftBounds m width 18446744073709551615 z_offset = .ok [] :=
  ⟨rfl, rfl⟩

/-- at num_points = 0 the step size divides by zero and the first sample throws, in both bounds and so in the
polygon; at num_points = 2^64 - 1 both bounds are empty, left_bounds.size() - 1 wraps to 2^64 - 1 and the polygon's
first round reads right_bounds[0] out of range -/
theorem getPolygon_num_points_wrap (m : Libm R) (sp : CatmullRomSpline R) (width z_offset : R) :
    sp.getRightBounds m width 0 z_offset = .error (.simulation "failed to calculate curve index") ∧
      sp.getLeftBounds m width 0 z_offset = .error (.simulation "failed to calculate curve index") ∧
      sp.getPolygon m width 0 z_offset = .error (.simulation "failed to calculate curve index") ∧
      sp.getPolygon m width 18446744073709551615 z_offset = .error .outOfRange := by
  have hr : sp.getRightBounds m width 18446744073709551615 z_offset = .ok [] := rfl
  have hl : sp.getLeftBounds m width 18446744073709551615 z_offset = .ok [] := rfl
  exact ⟨rfl, rfl, rfl, getPolygon_first_read hr hl (n := 18446744073709551614) rfl rfl⟩

end CatmullRomSpline

end ScenarioSimulator.Geometry
