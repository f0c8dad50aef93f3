/-
One cubic segment of a spline. The curve's code, hermite_curve.cpp, is modelled from the spec (4.2) and from the calls
that catmull_rom_spline.cpp makes into it.

- `Cubic`: the four coefficients of one axis, evaluated as a t³ + b t² + c t + d (`Cubic.eval`), derivative
  `Cubic.deriv`.
- `HermiteCurve`: three cubics and what the constructor caches, the arc length and the maximum 2D curvature. The
  structure carries the two laws of an arc length: it is never negative, and it is zero only when the ends meet.
- `Measure`: the numeric part of the missing constructor (a parameter of the model, with those two laws);
  `HermiteCurve.new` caches its values. `Measure.chords` is the spec's computation: a sum of chord lengths between
  evenly spaced samples.
- `HermiteCurve.getPoint t autoscale`: the point at t, or at t / length when autoscale is set. The spline passes arc
  lengths with the flag set (getPoint(s)) and raw parameters with it cleared (checkConnection). A division by a zero
  length gives t = 0 here, where the C++ gets an infinity or a NaN.
- The crossing search over a segment (HermiteCurve::getCollisionPointIn2D(point0, point1, searchBackward)) is a
  parameter of the spline's collision queries; `HermiteCurve.IsCrossingResult` is its spec: the least crossing
  parameter in [0, 1] forward, the greatest backward, none when the segment is not crossed. The polygon search is
  modelled on top of it (`getCollisionPointIn2DPolygon`: the least, or greatest, hit over the polygon's edges).
-/
import ScenarioSimulator.Geometry.LineSegment

namespace ScenarioSimulator.Geometry

variable {R : Type} [LinearOrderedField R]

/-! ## Cubics -/

/-- the coefficients of one axis of a HermiteCurve (ax, bx, cx, dx for x) -/
structure Cubic (R : Type) where
  a : R
  b : R
  c : R
  d : R
deriving DecidableEq, Repr

namespace Cubic

def eval (q : Cubic R) (t : R) : R := q.a * t ^ 3 + q.b * t ^ 2 + q.c * t + q.d

def deriv (q : Cubic R) (t : R) : R := 3 * q.a * t ^ 2 + 2 * q.b * t + q.c

def deriv2 (q : Cubic R) (t : R) : R := 6 * q.a * t + 2 * q.b

end Cubic

/-- the point of three axis cubics at t -/
def sample (x y z : Cubic R) (t : R) : Point R := ⟨x.eval t, y.eval t, z.eval t⟩

/-! ## Curves -/

/-- a HermiteCurve: its coefficients and the two values its constructor caches -/
structure HermiteCurve (R : Type) [LinearOrderedField R] where
  x : Cubic R
  y : Cubic R
  z : Cubic R
  length : R
  maximum2DCurvature : R
  length_nonneg : 0 ≤ length
  ends_of_length_eq_zero : length = 0 → sample x y z 0 = sample x y z 1

/-- Modelled from the spec: the numeric part of the HermiteCurve constructor, with the laws of an arc length -/
structure Measure (R : Type) [LinearOrderedField R] where
  getLength : Cubic R → Cubic R → Cubic R → R
  getMaximum2DCurvature : Cubic R → Cubic R → Cubic R → R
  getLength_nonneg : ∀ x y z, 0 ≤ getLength x y z
  getLength_eq_zero : ∀ x y z, getLength x y z = 0 → sample x y z 0 = sample x y z 1

/-- Modelled from the spec: HermiteCurve::getLength, the sum of the chords between numPoints + 1 evenly spaced
samples of t ∈ [0, 1] -/
def chordLength (m : Libm R) (numPoints : ℕ) (x y z : Cubic R) : R :=
  ∑ k in Finset.range numPoints,
    m.sqrt (Point.distSq (sample x y z ((k + 1 : ℕ) / numPoints)) (sample x y z (k / numPoints)))

/-- Modelled from the spec: HermiteCurve::getMaximum2DCurvature, the largest sampled |x'y″ − y'x″| / (x'² + y'²)^1.5 -/
def sampledMaximum2DCurvature (m : Libm R) (numPoints : ℕ) (x y _z : Cubic R) : R :=
  ((List.range (numPoints + 1)).map fun k =>
    let t : R := k / numPoints
    |x.deriv t * y.deriv2 t - y.deriv t * x.deriv2 t| / m.sqrt (x.deriv t ^ 2 + y.deriv t ^ 2) ^ 3).foldr max 0

/-- chords that sum to zero join samples that all coincide -/
theorem sample_eq_of_chordLength_eq_zero {m : Libm R} (hm : m.Lawful) {numPoints : ℕ} {x y z : Cubic R}
    (h : chordLength m numPoints x y z = 0) :
    ∀ k ≤ numPoints, sample x y z (k / numPoints) = sample x y z 0 := by
  have hk := (Finset.sum_eq_zero_iff_of_nonneg fun k _ => hm.sqrt_nonneg _).mp h
  intro k hk'
  induction k with
  | zero => simp
  | succ k ih =>
    rw [← ih (by omega)]
    exact Point.eq_of_distSq_eq_zero
      (hm.eq_zero_of_sqrt_eq_zero (Point.distSq_nonneg _ _) (hk k (Finset.mem_range.mpr hk')))

/-- the spec's length, with `numPoints` chords -/
def Measure.chords (m : Libm R) (hm : m.Lawful) (numPoints : ℕ) (hn : 0 < numPoints) : Measure R where
  getLength := chordLength m numPoints
  getMaximum2DCurvature := sampledMaximum2DCurvature m numPoints
  getLength_nonneg _ _ _ := Finset.sum_nonneg fun _ _ => hm.sqrt_nonneg _
  getLength_eq_zero x y z h := by
    have := sample_eq_of_chordLength_eq_zero hm h numPoints le_rfl
    rwa [div_self (by exact_mod_cast hn.ne'), eq_comm] at this

/-- Modelled from the spec: HermiteCurve(ax, bx, cx, dx, ay, ..., dz) -/
def HermiteCurve.new (μ : Measure R) (x y z : Cubic R) : HermiteCurve R :=
  ⟨x, y, z, μ.getLength x y z, μ.getMaximum2DCurvature x y z, μ.getLength_nonneg x y z, μ.getLength_eq_zero x y z⟩

namespace HermiteCurve

@[simp] theorem new_x (μ : Measure R) (x y z : Cubic R) : (new μ x y z).x = x := rfl
@[simp] theorem new_y (μ : Measure R) (x y z : Cubic R) : (new μ x y z).y = y := rfl
@[simp] theorem new_z (μ : Measure R) (x y z : Cubic R) : (new μ x y z).z = z := rfl
@[simp] theorem new_length (μ : Measure R) (x y z : Cubic R) : (new μ x y z).length = μ.getLength x y z := rfl

/-- Modelled from the spec: HermiteCurve::getPoint(t, autoscale), the cubics at t, or at t / length with autoscale -/
def getPoint (c : HermiteCurve R) (t : R) (autoscale : Bool) : Point R :=
  sample c.x c.y c.z (if autoscale then t / c.length else t)

/-- Modelled from the spec: HermiteCurve::getTangentVector(t, autoscale), the derivative in t -/
def getTangentVector (c : HermiteCurve R) (t : R) (autoscale : Bool) : Point R :=
  let t := if autoscale then t / c.length else t
  ⟨c.x.deriv t, c.y.deriv t, c.z.deriv t⟩

/-- Modelled from the spec: HermiteCurve::getNormalVector(t, autoscale), the tangent turned by +90° in the xy-plane -/
def getNormalVector (c : HermiteCurve R) (t : R) (autoscale : Bool) : Point R :=
  let v := c.getTangentVector t autoscale
  ⟨-v.y, v.x, 0⟩

/-- Modelled from the spec: HermiteCurve::getSquaredDistanceIn2D(point, t, autoscale) -/
def getSquaredDistanceIn2D (c : HermiteCurve R) (p : Point R) (t : R) (autoscale : Bool) : R :=
  Point.dist2Sq p (c.getPoint t autoscale)

@[simp] theorem getPoint_false (c : HermiteCurve R) (t : R) :
    c.getPoint t false = ⟨c.x.eval t, c.y.eval t, c.z.eval t⟩ := rfl

@[simp] theorem getTangentVector_false (c : HermiteCurve R) (t : R) :
    c.getTangentVector t false = ⟨c.x.deriv t, c.y.deriv t, c.z.deriv t⟩ := rfl

theorem getPoint_true (c : HermiteCurve R) (v : R) : c.getPoint v true = c.getPoint (v / c.length) false := rfl

/-- at local arc length equal to its length the autoscaled point is the end point -/
theorem getPoint_length (c : HermiteCurve R) : c.getPoint c.length true = c.getPoint 1 false := by
  rcases eq_or_ne c.length 0 with h | h
  · rw [getPoint_true, h, div_zero]; exact c.ends_of_length_eq_zero h
  · rw [getPoint_true, div_self h]

/-! ## Crossing search -/

/-- p lies on the segment from a to b, in the xy-plane -/
def OnSegment2D (p a b : Point R) : Prop :=
  ∃ u : R, 0 ≤ u ∧ u ≤ 1 ∧ p.x = a.x + u * (b.x - a.x) ∧ p.y = a.y + u * (b.y - a.y)

/-- the parameters in [0, 1] at which the curve meets the segment from a to b -/
def crossings (c : HermiteCurve R) (a b : Point R) : Set R :=
  {t | 0 ≤ t ∧ t ≤ 1 ∧ OnSegment2D (c.getPoint t false) a b}

/-- the spec of HermiteCurve::getCollisionPointIn2D(a, b, searchBackward) for the result r -/
def IsCrossingResult (c : HermiteCurve R) (a b : Point R) (searchBackward : Bool) : Option R → Prop
  | none => c.crossings a b = ∅
  | some t => if searchBackward then IsGreatest (c.crossings a b) t else IsLeast (c.crossings a b) t

/-- Modelled from the spec: HermiteCurve::getCollisionPointIn2D(polygon, searchBackward), the least (greatest)
hit of the segment search over the polygon's edges -/
def getCollisionPointIn2DPolygon (search : HermiteCurve R → Point R → Point R → Bool → Option R)
    (c : HermiteCurve R) (polygon : List (Point R)) (searchBackward : Bool) : Option R :=
  let hits := (getLineSegments polygon).filterMap fun l => search c l.startPoint l.endPoint searchBackward
  if searchBackward then hits.max? else hits.min?

theorem OnSegment2D.symm {p a b : Point R} (h : OnSegment2D p a b) : OnSegment2D p b a := by
  obtain ⟨u, h0, h1, hx, hy⟩ := h
  exact ⟨1 - u, by linarith, by linarith, by rw [hx]; ring, by rw [hy]; ring⟩

theorem crossings_symm (c : HermiteCurve R) (a b : Point R) : c.crossings b a = c.crossings a b := by
  ext t
  exact ⟨fun ⟨h0, h1, h⟩ => ⟨h0, h1, h.symm⟩, fun ⟨h0, h1, h⟩ => ⟨h0, h1, h.symm⟩⟩

/-- the spec fixes the result of a crossing search -/
theorem IsCrossingResult.unique {c : HermiteCurve R} {a b : Point R} {sb : Bool} {r r' : Option R}
    (h : c.IsCrossingResult a b sb r) (h' : c.IsCrossingResult a b sb r') : r = r' := by
  match r, r', h, h' with
  | none, none, _, _ => rfl
  | none, some t, h, h' =>
    cases sb <;> simp only [IsCrossingResult, Bool.false_eq_true, ite_false, ite_true] at h' <;>
      exact absurd (h ▸ h'.1) (Set.not_mem_empty t)
  | some t, none, h, h' =>
    cases sb <;> simp only [IsCrossingResult, Bool.false_eq_true, ite_false, ite_true] at h <;>
      exact absurd (h' ▸ h.1) (Set.not_mem_empty t)
  | some t, some t', h, h' =>
    cases sb <;> simp only [IsCrossingResult, Bool.false_eq_true, ite_false, ite_true] at h h'
    · exact congrArg some (h.unique h')
    · exact congrArg some (h.unique h')

/-- a search that meets the spec for both orders of the ends returns the same for both -/
theorem IsCrossingResult.swap {c : HermiteCurve R} {a b : Point R} {sb : Bool} {r r' : Option R}
    (h : c.IsCrossingResult a b sb r) (h' : c.IsCrossingResult b a sb r') : r = r' := by
  refine h.unique ?_
  match r', h' with
  | none, h' => simpa only [IsCrossingResult, crossings_symm] using h'
  | some t, h' => simpa only [IsCrossingResult, crossings_symm] using h'

end HermiteCurve

end ScenarioSimulator.Geometry
