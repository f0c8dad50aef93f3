/-
The Catmull-Rom spline and its constructor (catmull_rom_spline.cpp: CatmullRomSpline::CatmullRomSpline,
checkConnection, equals).

- `CatmullRomSpline`: the members of the C++ object (control_points, line_segments_, curves_, length_list_,
  maximum_2d_curvatures_, total_length_).
- `CatmullRomSpline.new μ controlPoints`: the constructor. No point throws; one or two points give a point or a line
  spline without curves (total_length_ is left 0); from three points on, the lambda builds curve i of n - 1 with the
  first, interior or last coefficient branch (`Cubic.first`, `Cubic.interior`, `Cubic.last`, each axis alike and
  halved), reading control_points through [k]? (an out-of-range read is `Error.outOfRange`), caches lengths and
  curvatures, sums total_length_ and runs `checkConnection`.

Results:
- `new_connects`: from three points on, every read is in range, there are n - 1 curves, curve i starts at control
  point i and ends at control point i + 1 exactly, and checkConnection returns true, so none of its throws is
  reachable.
- `new_tangents`: at every interior joint j the two curves have the derivative (P_{j+1} - P_{j-1}) / 2; the end curves
  have no cubic term and the one-sided end tangents.
- `buildCurve_evenly`: from evenly spaced control points a + k • d, curve i runs along the line as a + (i + t) • d.
-/
import ScenarioSimulator.Geometry.HermiteCurve

namespace ScenarioSimulator.Geometry

variable {R : Type} [LinearOrderedField R]

/-- what the code throws, with the C++ messages; an out-of-range vector read (undefined behaviour in the C++) is
`outOfRange` -/
inductive Error where
  | semantic (msg : String)
  | simulation (msg : String)
  | outOfRange
deriving DecidableEq, Repr

instance : Zero (Point R) := ⟨⟨0, 0, 0⟩⟩

@[simp] theorem Point.zero_x : (0 : Point R).x = 0 := rfl
@[simp] theorem Point.zero_y : (0 : Point R).y = 0 := rfl
@[simp] theorem Point.zero_z : (0 : Point R).z = 0 := rfl

/-! ## Coefficient branches -/

namespace Cubic

/-- every coefficient multiplied by 0.5 -/
def half (q : Cubic R) : Cubic R := ⟨q.a * 0.5, q.b * 0.5, q.c * 0.5, q.d * 0.5⟩

/-- the branch i == 0, from one axis of control points 0, 1, 2 -/
def first (p0 p1 p2 : R) : Cubic R := half ⟨0, p0 - 2 * p1 + p2, -3 * p0 + 4 * p1 - p2, 2 * p0⟩

/-- the branch i == n - 1, from one axis of control points i - 1, i, i + 1 -/
def last (p0 p1 p2 : R) : Cubic R := half ⟨0, p0 - 2 * p1 + p2, -1 * p0 + p2, 2 * p1⟩

/-- the interior branch, from one axis of control points i - 1, i, i + 1, i + 2 -/
def interior (p0 p1 p2 p3 : R) : Cubic R :=
  half ⟨-1 * p0 + 3 * p1 - 3 * p2 + p3, 2 * p0 - 5 * p1 + 4 * p2 - p3, -p0 + p2, 2 * p1⟩

@[simp] theorem first_a (p0 p1 p2 : R) : (first p0 p1 p2).a = 0 := by simp [first, half]
@[simp] theorem last_a (p0 p1 p2 : R) : (last p0 p1 p2).a = 0 := by simp [last, half]

theorem half_eval (q : Cubic R) (t : R) : q.half.eval t = q.eval t / 2 := by
  simp only [half, eval]; ring

theorem half_deriv (q : Cubic R) (t : R) : q.half.deriv t = q.deriv t / 2 := by
  simp only [half, deriv]; ring

@[simp] theorem first_eval_zero (p0 p1 p2 : R) : (first p0 p1 p2).eval 0 = p0 := by
  rw [first, half_eval]; simp only [eval]; ring
@[simp] theorem first_eval_one (p0 p1 p2 : R) : (first p0 p1 p2).eval 1 = p1 := by
  rw [first, half_eval]; simp only [eval]; ring
@[simp] theorem last_eval_zero (p0 p1 p2 : R) : (last p0 p1 p2).eval 0 = p1 := by
  rw [last, half_eval]; simp only [eval]; ring
@[simp] theorem last_eval_one (p0 p1 p2 : R) : (last p0 p1 p2).eval 1 = p2 := by
  rw [last, half_eval]; simp only [eval]; ring
@[simp] theorem interior_eval_zero (p0 p1 p2 p3 : R) : (interior p0 p1 p2 p3).eval 0 = p1 := by
  rw [interior, half_eval]; simp only [eval]; ring
@[simp] theorem interior_eval_one (p0 p1 p2 p3 : R) : (interior p0 p1 p2 p3).eval 1 = p2 := by
  rw [interior, half_eval]; simp only [eval]; ring

@[simp] theorem first_deriv_zero (p0 p1 p2 : R) : (first p0 p1 p2).deriv 0 = 1 / 2 * (-3 * p0 + 4 * p1 - p2) := by
  rw [first, half_deriv]; simp only [deriv]; ring
@[simp] theorem first_deriv_one (p0 p1 p2 : R) : (first p0 p1 p2).deriv 1 = 1 / 2 * (p2 - p0) := by
  rw [first, half_deriv]; simp only [deriv]; ring
@[simp] theorem last_deriv_zero (p0 p1 p2 : R) : (last p0 p1 p2).deriv 0 = 1 / 2 * (p2 - p0) := by
  rw [last, half_deriv]; simp only [deriv]; ring
@[simp] theorem last_deriv_one (p0 p1 p2 : R) : (last p0 p1 p2).deriv 1 = 1 / 2 * (p0 - 4 * p1 + 3 * p2) := by
  rw [last, half_deriv]; simp only [deriv]; ring
@[simp] theorem interior_deriv_zero (p0 p1 p2 p3 : R) : (interior p0 p1 p2 p3).deriv 0 = 1 / 2 * (p2 - p0) := by
  rw [interior, half_deriv]; simp only [deriv]; ring
@[simp] theorem interior_deriv_one (p0 p1 p2 p3 : R) : (interior p0 p1 p2 p3).deriv 1 = 1 / 2 * (p3 - p1) := by
  rw [interior, half_deriv]; simp only [deriv]; ring

/-- each branch reproduces evenly spaced values a + k d: the curve runs along them as a + (u + t) d -/
theorem first_evenly (a d t : R) : (first (a + 0 * d) (a + 1 * d) (a + 2 * d)).eval t = a + (0 + t) * d := by
  rw [first, half_eval]; simp only [eval]; ring
theorem last_evenly (a d u t : R) :
    (last (a + (u - 1) * d) (a + u * d) (a + (u + 1) * d)).eval t = a + (u + t) * d := by
  rw [last, half_eval]; simp only [eval]; ring
theorem interior_evenly (a d u t : R) :
    (interior (a + (u - 1) * d) (a + u * d) (a + (u + 1) * d) (a + (u + 2) * d)).eval t = a + (u + t) * d := by
  rw [interior, half_eval]; simp only [eval]; ring

end Cubic

/-- a loop in the Option monad that fails at no step returns one value per step, in order -/
theorem mapM_range_eq_some {β : Type} {f : ℕ → Option β} : ∀ {n : ℕ}, (∀ i < n, (f i).isSome) →
    ∃ l : List β, (List.range n).mapM f = some l ∧ l.length = n ∧ ∀ i (hi : i < l.length), f i = some l[i]
  | 0, _ => ⟨[], rfl, rfl, fun i hi => absurd hi (Nat.not_lt_zero i)⟩
  | n + 1, h => by
    obtain ⟨l, hl, hlen, hf⟩ := mapM_range_eq_some fun i hi => h i (Nat.lt_succ_of_lt hi)
    obtain ⟨b, hb⟩ := Option.isSome_iff_exists.mp (h n (Nat.lt_succ_self n))
    refine ⟨l ++ [b], by rw [List.range_succ, List.mapM_append, hl, List.mapM_cons, hb]; rfl, by simp [hlen],
      fun i hi => ?_⟩
    rcases Nat.lt_or_ge i l.length with hi' | hi'
    · rw [List.getElem_append_left hi']; exact hf i hi'
    · have : i = l.length := by simp at hi; omega
      subst this
      simp [hlen, hb]

namespace CatmullRomSpline

/-- the curve whose three axes are built by the same formula `f` from the axis projection -/
def curveOf (μ : Measure R) (f : (Point R → R) → Cubic R) : HermiteCurve R :=
  HermiteCurve.new μ (f Point.x) (f Point.y) (f Point.z)

/-- the body of the constructor's loop: curve i of n = control_points.size() - 1 -/
def buildCurve (μ : Measure R) (cp : List (Point R)) (n i : ℕ) : Option (HermiteCurve R) :=
  if i = 0 then do
    let p0 ← cp[0]?
    let p1 ← cp[1]?
    let p2 ← cp[2]?
    pure (curveOf μ fun ax => Cubic.first (ax p0) (ax p1) (ax p2))
  else if i = n - 1 then do
    let p0 ← cp[i - 1]?
    let p1 ← cp[i]?
    let p2 ← cp[i + 1]?
    pure (curveOf μ fun ax => Cubic.last (ax p0) (ax p1) (ax p2))
  else do
    let p0 ← cp[i - 1]?
    let p1 ← cp[i]?
    let p2 ← cp[i + 1]?
    let p3 ← cp[i + 2]?
    pure (curveOf μ fun ax => Cubic.interior (ax p0) (ax p1) (ax p2) (ax p3))

/-- the constructor's loop: one curve per pair of neighbours, in order -/
def buildCurves (μ : Measure R) (cp : List (Point R)) : Option (List (HermiteCurve R)) :=
  (List.range (cp.length - 1)).mapM (buildCurve μ cp (cp.length - 1))

/-! ## The spline -/

end CatmullRomSpline

/-- the members of a CatmullRomSpline -/
structure CatmullRomSpline (R : Type) [LinearOrderedField R] where
  controlPoints : List (Point R)
  lineSegments : List (LineSegment R)
  curves : List (HermiteCurve R)
  lengthList : List R
  maximum2dCurvatures : List R
  totalLength : R

/-- std::numeric_limits of float, epsilon: 2^-23 -/
def floatEpsilon : R := 1 / 8388608

namespace CatmullRomSpline

/-- CatmullRomSpline::equals: the points agree on each axis up to the float epsilon -/
def equals (p0 p1 : Point R) : Bool :=
  if |p0.x - p1.x| > floatEpsilon then false
  else if |p0.y - p1.y| > floatEpsilon then false
  else if |p0.z - p1.z| > floatEpsilon then false
  else true

/-- the loop of checkConnection from curve i on -/
def checkCurves (cps : List (Point R)) : ℕ → List (HermiteCurve R) → Except Error Unit
  | _, [] => .ok ()
  | i, c :: cs =>
    match cps[i]?, cps[i + 1]? with
    | some cp0, some cp1 =>
      let p0 := c.getPoint 0 false
      let p1 := c.getPoint 1 false
      if equals cp0 p0 && equals cp1 p1 then checkCurves cps (i + 1) cs
      else if !equals cp0 p0 then .error (.simulation s!"start point of the curve number {i} does not match")
      else if !equals cp1 p1 then .error (.simulation s!"end point of the curve number {i} does not match")
      else checkCurves cps (i + 1) cs
    | _, _ => .error .outOfRange

/-- CatmullRomSpline::checkConnection -/
def checkConnection (sp : CatmullRomSpline R) : Except Error Bool :=
  if sp.controlPoints.length ≠ sp.curves.length + 1 then
    .error (.simulation "number of control points and curves does not match.")
  else do
    checkCurves sp.controlPoints 0 sp.curves
    if sp.curves.isEmpty then .error (.simulation "curve size should not be zero") else pure true

/-- the spline the default branch of the constructor stores before checkConnection -/
def ofCurves (cp : List (Point R)) (curves : List (HermiteCurve R)) : CatmullRomSpline R :=
  let lengths := curves.map (·.length)
  ⟨cp, getLineSegments cp, curves, lengths, curves.map (·.maximum2DCurvature), lengths.foldl (· + ·) 0⟩

/-- the constructor CatmullRomSpline(control_points) -/
def new (μ : Measure R) (cp : List (Point R)) : Except Error (CatmullRomSpline R) :=
  match cp.length with
  | 0 => .error (.semantic "Control points are empty. We cannot determine the shape of the curve.")
  | 1 | 2 => .ok ⟨cp, getLineSegments cp, [], [], [], 0⟩
  | _ =>
    match buildCurves μ cp with
    | none => .error .outOfRange
    | some curves => do
      let sp := ofCurves cp curves
      let _ ← sp.checkConnection
      pure sp

/-! ## The loop of the constructor -/

theorem buildCurve_eq_some {μ : Measure R} {cp : List (Point R)} {n i : ℕ} {c : HermiteCurve R}
    (h : buildCurve μ cp n i = some c) :
    (i = 0 ∧ ∃ p0 p1 p2, cp[0]? = some p0 ∧ cp[1]? = some p1 ∧ cp[2]? = some p2 ∧
      c = curveOf μ fun ax => Cubic.first (ax p0) (ax p1) (ax p2)) ∨
    (i ≠ 0 ∧ i = n - 1 ∧ ∃ p0 p1 p2, cp[i - 1]? = some p0 ∧ cp[i]? = some p1 ∧ cp[i + 1]? = some p2 ∧
      c = curveOf μ fun ax => Cubic.last (ax p0) (ax p1) (ax p2)) ∨
    (i ≠ 0 ∧ i ≠ n - 1 ∧ ∃ p0 p1 p2 p3, cp[i - 1]? = some p0 ∧ cp[i]? = some p1 ∧ cp[i + 1]? = some p2 ∧
      cp[i + 2]? = some p3 ∧ c = curveOf μ fun ax => Cubic.interior (ax p0) (ax p1) (ax p2) (ax p3)) := by
  unfold buildCurve at h
  split_ifs at h with h0 h1
  · simp only [bind, Option.bind_eq_some, pure, Option.some.injEq] at h
    obtain ⟨p0, e0, p1, e1, p2, e2, rfl⟩ := h
    exact .inl ⟨h0, p0, p1, p2, e0, e1, e2, rfl⟩
  · simp only [bind, Option.bind_eq_some, pure, Option.some.injEq] at h
    obtain ⟨p0, e0, p1, e1, p2, e2, rfl⟩ := h
    exact .inr (.inl ⟨h0, h1, p0, p1, p2, e0, e1, e2, rfl⟩)
  · simp only [bind, Option.bind_eq_some, pure, Option.some.injEq] at h
    obtain ⟨p0, e0, p1, e1, p2, e2, p3, e3, rfl⟩ := h
    exact .inr (.inr ⟨h0, h1, p0, p1, p2, p3, e0, e1, e2, e3, rfl⟩)

theorem buildCurve_isSome (μ : Measure R) {cp : List (Point R)} {i : ℕ} (h : 3 ≤ cp.length)
    (hi : i < cp.length - 1) : (buildCurve μ cp (cp.length - 1) i).isSome := by
  unfold buildCurve
  split_ifs <;> simp (disch := omega) [List.getElem?_eq_getElem]

/-- the tangent the curves interpolate at control point j: central difference inside, one-sided at both ends -/
def catmullRomTangent (cp : List (Point R)) (j : ℕ) : Point R :=
  if j = 0 then (1 / 2 : R) • ((-3 : R) • cp.getD 0 0 + (4 : R) • cp.getD 1 0 - cp.getD 2 0)
  else if j + 1 = cp.length then
    (1 / 2 : R) • (cp.getD (j - 2) 0 - (4 : R) • cp.getD (j - 1) 0 + (3 : R) • cp.getD j 0)
  else (1 / 2 : R) • (cp.getD (j + 1) 0 - cp.getD (j - 1) 0)

theorem getD_eq_of_getElem? {cp : List (Point R)} {k : ℕ} {p : Point R} (h : cp[k]? = some p) : cp.getD k 0 = p := by
  rw [List.getD_eq_getElem?_getD, h, Option.getD_some]

section Tangent

variable {cp : List (Point R)} {j : ℕ} {p0 p1 p2 : Point R}

theorem catmullRomTangent_start (e0 : cp[0]? = some p0) (e1 : cp[1]? = some p1) (e2 : cp[2]? = some p2) :
    catmullRomTangent cp 0 = (1 / 2 : R) • ((-3 : R) • p0 + (4 : R) • p1 - p2) := by
  rw [catmullRomTangent, if_pos rfl, getD_eq_of_getElem? e0, getD_eq_of_getElem? e1, getD_eq_of_getElem? e2]

theorem catmullRomTangent_inner (h0 : j ≠ 0) (hj : j + 1 ≠ cp.length) (e0 : cp[j - 1]? = some p0)
    (e2 : cp[j + 1]? = some p2) : catmullRomTangent cp j = (1 / 2 : R) • (p2 - p0) := by
  rw [catmullRomTangent, if_neg h0, if_neg hj, getD_eq_of_getElem? e0, getD_eq_of_getElem? e2]

theorem catmullRomTangent_end (h0 : j ≠ 0) (hj : j + 1 = cp.length) (e0 : cp[j - 2]? = some p0)
    (e1 : cp[j - 1]? = some p1) (e2 : cp[j]? = some p2) :
    catmullRomTangent cp j = (1 / 2 : R) • (p0 - (4 : R) • p1 + (3 : R) • p2) := by
  rw [catmullRomTangent, if_neg h0, if_pos hj, getD_eq_of_getElem? e0, getD_eq_of_getElem? e1,
    getD_eq_of_getElem? e2]

end Tangent

/-- curve i of the loop runs from control point i to control point i + 1 with the Catmull-Rom tangents at both ends,
and the end curves have no cubic term -/
theorem buildCurve_spec {μ : Measure R} {cp : List (Point R)} {i : ℕ} {c : HermiteCurve R} (h3 : 3 ≤ cp.length)
    (hi : i < cp.length - 1) (h : buildCurve μ cp (cp.length - 1) i = some c) :
    cp[i]? = some (c.getPoint 0 false) ∧ cp[i + 1]? = some (c.getPoint 1 false) ∧
    c.getTangentVector 0 false = catmullRomTangent cp i ∧ c.getTangentVector 1 false = catmullRomTangent cp (i + 1) ∧
    (i = 0 ∨ i = cp.length - 2 → c.x.a = 0 ∧ c.y.a = 0 ∧ c.z.a = 0) := by
  rcases buildCurve_eq_some h with ⟨rfl, p0, p1, p2, e0, e1, e2, rfl⟩ | ⟨h0, h1, p0, p1, p2, e0, e1, e2, rfl⟩ |
      ⟨h0, h1, p0, p1, p2, p3, e0, e1, e2, e3, rfl⟩
  · refine ⟨by simp [e0, curveOf], by simp [e1, curveOf], ?_, ?_, fun _ => by simp [curveOf]⟩
    · rw [catmullRomTangent_start e0 e1 e2]
      ext <;> simp only [curveOf, HermiteCurve.getTangentVector_false, HermiteCurve.new_x, HermiteCurve.new_y,
        HermiteCurve.new_z, Cubic.first_deriv_zero, Point.smul_x, Point.smul_y, Point.smul_z, Point.add_x,
        Point.add_y, Point.add_z, Point.sub_x, Point.sub_y, Point.sub_z]
    · rw [Nat.zero_add, catmullRomTangent_inner one_ne_zero (by omega) e0 e2]; ext <;> simp [curveOf]
  · refine ⟨by simp [e1, curveOf], by simp [e2, curveOf], ?_, ?_, fun _ => by simp [curveOf]⟩
    · rw [catmullRomTangent_inner h0 (by omega) e0 e2]; ext <;> simp [curveOf]
    · rw [catmullRomTangent_end (by omega) (by omega) (by rwa [show i + 1 - 2 = i - 1 by omega]) e1 e2]
      ext <;> simp [curveOf]
  · refine ⟨by simp [e1, curveOf], by simp [e2, curveOf], ?_, ?_, fun h => absurd h (by omega)⟩
    · rw [catmullRomTangent_inner h0 (by omega) e0 e2]; ext <;> simp [curveOf]
    · rw [catmullRomTangent_inner (by omega) (by omega) e1 e3]; ext <;> simp [curveOf]

/-- the constructor reproduces straight lines: from evenly spaced control points a + k • d, curve i is
a + (i + t) • d -/
theorem buildCurve_evenly {μ : Measure R} {cp : List (Point R)} {a d : Point R} {n i : ℕ} {c : HermiteCurve R}
    (hcp : ∀ (k : ℕ) p, cp[k]? = some p → p = a + (k : R) • d) (h : buildCurve μ cp n i = some c) (t : R) :
    c.getPoint t false = a + ((i : R) + t) • d := by
  have hi : i ≠ 0 → ((i - 1 : ℕ) : R) = i - 1 := fun h0 => by rw [Nat.cast_sub (by omega), Nat.cast_one]
  rcases buildCurve_eq_some h with ⟨rfl, p0, p1, p2, e0, e1, e2, rfl⟩ | ⟨h0, -, p0, p1, p2, e0, e1, e2, rfl⟩ |
      ⟨h0, -, p0, p1, p2, p3, e0, e1, e2, e3, rfl⟩
  · rw [hcp _ _ e0, hcp _ _ e1, hcp _ _ e2]
    ext <;> simp only [curveOf, HermiteCurve.getPoint_false, HermiteCurve.new_x, HermiteCurve.new_y,
      HermiteCurve.new_z, Point.add_x, Point.add_y, Point.add_z, Point.smul_x, Point.smul_y, Point.smul_z,
      Nat.cast_zero, Nat.cast_one, Nat.cast_ofNat, Cubic.first_evenly]
  · rw [hcp _ _ e0, hcp _ _ e1, hcp _ _ e2, hi h0]
    ext <;> simp only [curveOf, HermiteCurve.getPoint_false, HermiteCurve.new_x, HermiteCurve.new_y,
      HermiteCurve.new_z, Point.add_x, Point.add_y, Point.add_z, Point.smul_x, Point.smul_y, Point.smul_z,
      Nat.cast_add, Nat.cast_one, Cubic.last_evenly]
  · rw [hcp _ _ e0, hcp _ _ e1, hcp _ _ e2, hcp _ _ e3, hi h0]
    ext <;> simp only [curveOf, HermiteCurve.getPoint_false, HermiteCurve.new_x, HermiteCurve.new_y,
      HermiteCurve.new_z, Point.add_x, Point.add_y, Point.add_z, Point.smul_x, Point.smul_y, Point.smul_z,
      Nat.cast_add, Nat.cast_one, Nat.cast_ofNat, Cubic.interior_evenly]

/-- a built curve caches the measure of its own cubics -/
theorem buildCurve_length {μ : Measure R} {cp : List (Point R)} {n i : ℕ} {c : HermiteCurve R}
    (h : buildCurve μ cp n i = some c) : c.length = μ.getLength c.x c.y c.z := by
  rcases buildCurve_eq_some h with ⟨-, -, -, -, -, -, -, rfl⟩ | ⟨-, -, -, -, -, -, -, -, rfl⟩ |
      ⟨-, -, -, -, -, -, -, -, -, -, rfl⟩ <;> rfl

/-! ## Connectivity and tangents -/

theorem equals_self (p : Point R) : equals p p = true := by simp [equals, floatEpsilon]

/-- checkConnection's loop passes curves whose ends are the control points -/
theorem checkCurves_ok {cps : List (Point R)} : ∀ {i : ℕ} {cs : List (HermiteCurve R)},
    (∀ k (hk : k < cs.length), cps[i + k]? = some (cs[k].getPoint 0 false) ∧
      cps[i + k + 1]? = some (cs[k].getPoint 1 false)) → checkCurves cps i cs = .ok ()
  | _, [], _ => rfl
  | i, c :: cs, h => by
    obtain ⟨h0, h1⟩ := h 0 (Nat.zero_lt_succ _)
    simp only [Nat.add_zero, List.getElem_cons_zero] at h0 h1
    rw [checkCurves, h0, h1]
    simp only [equals_self, Bool.and_self, ite_true]
    refine checkCurves_ok fun k hk => ?_
    rw [show i + 1 + k = i + (k + 1) by omega]
    simpa using h (k + 1) (by simpa using hk)

/-- from three points on, the constructor's loop reads only in range and the spline stores its curves -/
theorem new_eq_ofCurves (μ : Measure R) {cp : List (Point R)} (h : 3 ≤ cp.length) :
    ∃ curves, buildCurves μ cp = some curves ∧ curves.length = cp.length - 1 ∧
      (∀ i (hi : i < curves.length), buildCurve μ cp (cp.length - 1) i = some curves[i]) ∧
      (ofCurves cp curves).checkConnection = .ok true ∧ new μ cp = .ok (ofCurves cp curves) := by
  obtain ⟨curves, hb, hlen, hf⟩ := mapM_range_eq_some fun i hi => buildCurve_isSome μ (i := i) h hi
  have hc : (ofCurves cp curves).checkConnection = .ok true := by
    have ends := fun i (hi : i < curves.length) => buildCurve_spec h (by omega) (hf i hi)
    have hne : curves ≠ [] := by intro e; simp [e] at hlen; omega
    simp only [checkConnection, ofCurves, show cp.length = curves.length + 1 by omega, ne_eq, not_true_eq_false,
      ite_false]
    rw [checkCurves_ok fun k hk => by simpa using And.intro (ends k hk).1 (ends k hk).2.1]
    simp [hne]
  refine ⟨curves, hb, hlen, hf, hc, ?_⟩
  unfold new
  split
  · omega
  · omega
  · omega
  · rw [show buildCurves μ cp = some curves from hb]
    simp only
    rw [hc]
    rfl

theorem new_connects (μ : Measure R) (cp : List (Point R)) (h : 3 ≤ cp.length) :
    ∃ sp, new μ cp = .ok sp ∧ buildCurves μ cp = some sp.curves ∧ sp.curves.length = cp.length - 1 ∧
      (∀ i (hi : i < sp.curves.length),
        cp[i]? = some (sp.curves[i].getPoint 0 false) ∧ cp[i + 1]? = some (sp.curves[i].getPoint 1 false)) ∧
      sp.checkConnection = .ok true := by
  obtain ⟨curves, hb, hlen, hf, hc, hnew⟩ := new_eq_ofCurves μ h
  refine ⟨_, hnew, hb, hlen, fun i hi => ?_, hc⟩
  have := buildCurve_spec h (by simp [ofCurves] at hi; omega) (hf i hi)
  exact ⟨this.1, this.2.1⟩

/-- the three collinear points (0,0,0), (1,0,0), (2,0,0) -/
def threePoints : List (Point R) := [⟨0, 0, 0⟩, ⟨1, 0, 0⟩, ⟨2, 0, 0⟩]

theorem new_connects_threePoints :
    3 ≤ (threePoints : List (Point ℝ)).length ∧
      ∃ sp, new (Measure.chords Libm.real Libm.real_lawful 1 Nat.one_pos) threePoints = .ok sp ∧
        sp.curves.length = 2 ∧ sp.checkConnection = .ok true := by
  obtain ⟨sp, hnew, -, hlen, -, hc⟩ := new_connects (Measure.chords Libm.real Libm.real_lawful 1 Nat.one_pos)
    (threePoints : List (Point ℝ)) (by decide)
  exact ⟨by decide, sp, hnew, hlen, hc⟩

theorem new_tangents (μ : Measure R) (cp : List (Point R)) (h : 3 ≤ cp.length) :
    ∃ sp, new μ cp = .ok sp ∧ sp.curves.length = cp.length - 1 ∧
      (∀ j (hj : j < sp.curves.length) (h0 : 0 < j),
        sp.curves[j - 1].getTangentVector 1 false = (1 / 2 : R) • (cp.getD (j + 1) 0 - cp.getD (j - 1) 0) ∧
        sp.curves[j].getTangentVector 0 false = (1 / 2 : R) • (cp.getD (j + 1) 0 - cp.getD (j - 1) 0)) ∧
      ∀ hn : 0 < sp.curves.length,
        (sp.curves[0].x.a = 0 ∧ sp.curves[0].y.a = 0 ∧ sp.curves[0].z.a = 0) ∧
        sp.curves[0].getTangentVector 0 false =
          (1 / 2 : R) • ((-3 : R) • cp.getD 0 0 + (4 : R) • cp.getD 1 0 - cp.getD 2 0) ∧
        (sp.curves[sp.curves.length - 1].x.a = 0 ∧ sp.curves[sp.curves.length - 1].y.a = 0 ∧
          sp.curves[sp.curves.length - 1].z.a = 0) ∧
        sp.curves[sp.curves.length - 1].getTangentVector 1 false = (1 / 2 : R) •
          (cp.getD (cp.length - 3) 0 - (4 : R) • cp.getD (cp.length - 2) 0 +
            (3 : R) • cp.getD (cp.length - 1) 0) := by
  obtain ⟨curves, -, hlen, hf, -, hnew⟩ := new_eq_ofCurves μ h
  have spec := fun i (hi : i < curves.length) => buildCurve_spec h (by omega) (hf i hi)
  refine ⟨_, hnew, hlen, fun j hj h0 => ?_, fun hn => ?_⟩
  · simp only [ofCurves] at hj ⊢
    have hc : catmullRomTangent cp j = (1 / 2 : R) • (cp.getD (j + 1) 0 - cp.getD (j - 1) 0) := by
      rw [catmullRomTangent, if_neg (by omega), if_neg (by omega)]
    have h1 := (spec (j - 1) (by omega)).2.2.2.1
    rw [Nat.sub_add_cancel h0] at h1
    exact ⟨h1.trans hc, (spec j hj).2.2.1.trans hc⟩
  · simp only [ofCurves] at hn ⊢
    obtain ⟨-, -, t0, -, a0⟩ := spec 0 hn
    obtain ⟨-, -, -, t1, a1⟩ := spec (curves.length - 1) (by omega)
    refine ⟨a0 (.inl rfl), t0.trans (by rw [catmullRomTangent, if_pos rfl]), a1 (.inr (by omega)), t1.trans ?_⟩
    rw [show curves.length - 1 + 1 = cp.length - 1 by omega, catmullRomTangent, if_neg (by omega),
      if_pos (by omega), show cp.length - 1 - 2 = cp.length - 3 by omega,
      show cp.length - 1 - 1 = cp.length - 2 by omega]

/-- the spline through (0,0,0), (1,0,0), (2,0,0) has two curves, which meet at (1,0,0) with the tangent (1,0,0) -/
theorem new_tangents_threePoints :
    3 ≤ (threePoints : List (Point ℝ)).length ∧
      ∃ sp, new (Measure.chords Libm.real Libm.real_lawful 1 Nat.one_pos) threePoints = .ok sp ∧
        sp.curves.length = 2 ∧ ∀ h1 : 1 < sp.curves.length,
          sp.curves[0].getTangentVector 1 false = ⟨1, 0, 0⟩ ∧ sp.curves[1].getTangentVector 0 false = ⟨1, 0, 0⟩ := by
  obtain ⟨sp, hnew, hlen, hjoint, -⟩ := new_tangents (Measure.chords Libm.real Libm.real_lawful 1 Nat.one_pos)
    (threePoints : List (Point ℝ)) (by decide)
  refine ⟨by decide, sp, hnew, hlen, fun h1 => ?_⟩
  obtain ⟨t0, t1⟩ := hjoint 1 h1 one_pos
  have hc : (1 / 2 : ℝ) • ((threePoints : List (Point ℝ)).getD (1 + 1) 0 - threePoints.getD (1 - 1) 0) = ⟨1, 0, 0⟩ := by
    ext <;> norm_num [threePoints]
  exact ⟨t0.trans hc, t1.trans hc⟩

/-- what a successful construction stores: a point or line spline without curves, or the curves of the loop -/
theorem new_eq_ok {μ : Measure R} {cp : List (Point R)} {sp : CatmullRomSpline R} (h : new μ cp = .ok sp) :
    ((cp.length = 1 ∨ cp.length = 2) ∧ sp = ⟨cp, getLineSegments cp, [], [], [], 0⟩) ∨
    (3 ≤ cp.length ∧ ∃ curves, buildCurves μ cp = some curves ∧ sp = ofCurves cp curves) := by
  unfold new at h
  split at h
  · cases h
  · cases h; exact .inl ⟨.inl ‹_›, rfl⟩
  · cases h; exact .inl ⟨.inr ‹_›, rfl⟩
  · rename_i h0 h1 h2
    have h3 : 3 ≤ cp.length := by simp only [imp_false] at h0 h1 h2; omega
    split at h
    · cases h
    · rename_i curves hb
      simp only at h
      cases hc : (ofCurves cp curves).checkConnection with
      | error e => rw [hc] at h; cases h
      | ok b => rw [hc] at h; cases h; exact .inr ⟨h3, curves, hb, rfl⟩

end CatmullRomSpline

end ScenarioSimulator.Geometry
