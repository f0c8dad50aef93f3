/-
Collision queries of the spline (catmull_rom_spline.cpp: getCollisionPointIn2D(polygon, search_backward) and
getCollisionPointIn2D(point0, point1, search_backward)).

The curves' own crossing searches (hermite_curve.cpp) are a parameter `search`; their spec is
`HermiteCurve.IsCrossingResult`, a parameter t ∈ [0, 1] of the curve.
- `scanCollision`: the early-exit loop over curves_, forward or in reverse, that translates the first hit by
  getSInSplineCurve. It is the polygon overload's lambda get_collision_point_2d_with_curve and the whole segment
  overload.
- `collisionWithLine`: the lambda get_collision_point_2d_with_line, line_segments_[0] against each polygon edge.

Results:
- `scanCollision_eq`: the scan returns S_i + t for the first curve i of its order whose search returns t.
- `collision_overloads_agree`: with searches that meet their spec, the two overloads agree on a two-vertex polygon
  for every spline that is not a line spline.
- `lineSpline_collision`: on the line spline from (0,0,0) to (10,0,0), the polygon overload meets the segment
  (5,-5,0)-(5,5,0) at 1/2 and the segment overload, which has no line case, finds nothing.
- `collinear_collision`: on the spec's collinear spline (0,0,0), (10,0,0), (20,0,0), (30,0,0) with chord lengths,
  every search that meets its spec makes the segment overload return 10.5 for the segment (15,-5,0)-(15,5,0), while
  getPoint(s) meets that segment at s = 15 only: the curve's parameter 1/2 is added to L_0 as an arc length.
-/
import ScenarioSimulator.Spline.Bounds

namespace ScenarioSimulator.Geometry

variable {R : Type} [LinearOrderedField R]

/-- on a two-vertex polygon a curve's polygon search returns its segment search, when that meets its spec in both
directions -/
theorem HermiteCurve.getCollisionPointIn2DPolygon_pair
    {search : HermiteCurve R → Point R → Point R → Bool → Option R} {c : HermiteCurve R} {a b : Point R} {sb : Bool}
    (hab : c.IsCrossingResult a b sb (search c a b sb)) (hba : c.IsCrossingResult b a sb (search c b a sb)) :
    c.getCollisionPointIn2DPolygon search [a, b] sb = search c a b sb := by
  rw [getCollisionPointIn2DPolygon, getLineSegments_pair]
  simp only [List.filterMap_cons, List.filterMap_nil, ← hab.swap hba]
  cases search c a b sb <;> cases sb <;> simp

namespace CatmullRomSpline

/-! ## The queries -/

/-- the early-exit loop over curves_ in the order `order`: a hit s of curves_[i]'s search ends it with
getSInSplineCurve(i, s) -/
def scanCollision (sp : CatmullRomSpline R) (hit : HermiteCurve R → Option R) : List ℕ → Except Error (Option R)
  | [] => .ok none
  | i :: is =>
    match sp.curves[i]? with
    | none => .error .outOfRange
    | some c =>
      match hit c with
      | some s => (sp.getSInSplineCurve i s).map some
      | none => sp.scanCollision hit is

/-- the loops' order over n curves: curves_[i] forward, curves_[n - 1 - i] backward, for i = 0, ..., n - 1 -/
def scanOrder (n : ℕ) (search_backward : Bool) : List ℕ :=
  if search_backward then (List.range n).map fun i => n - 1 - i else List.range n

/-- CatmullRomSpline::getCollisionPointIn2D(point0, point1, search_backward), with `search` the curves'
HermiteCurve::getCollisionPointIn2D(point0, point1, search_backward) -/
def getCollisionPointIn2D (search : HermiteCurve R → Point R → Point R → Bool → Option R) (sp : CatmullRomSpline R)
    (point0 point1 : Point R) (search_backward : Bool) : Except Error (Option R) :=
  sp.scanCollision (fun c => search c point0 point1 search_backward) (scanOrder sp.curves.length search_backward)

/-- the lambda get_collision_point_2d_with_line: the least (greatest) parameter at which line_segments_[0] meets an
edge of the polygon -/
def collisionWithLine (sp : CatmullRomSpline R) (polygon : List (Point R)) (search_backward : Bool) :
    Except Error (Option R) := do
  let s_value_candidates ← (getLineSegments polygon).filterMapM fun line => do
    let l0 ← readAt sp.lineSegments 0
    pure (l0.getIntersection2DSValue line)
  pure (if search_backward then s_value_candidates.max? else s_value_candidates.min?)

/-- CatmullRomSpline::getCollisionPointIn2D(polygon, search_backward), with `search` as above; the curve case asks each
curve's polygon search HermiteCurve::getCollisionPointIn2D(polygon, search_backward) -/
def getCollisionPointIn2DPolygon (search : HermiteCurve R → Point R → Point R → Bool → Option R)
    (sp : CatmullRomSpline R) (polygon : List (Point R)) (search_backward : Bool) : Except Error (Option R) :=
  match sp.controlPoints.length with
  | 0 => .error (.semantic "Control points are empty. We cannot determine the shape of the curve.")
  | 1 => .ok none
  | 2 => sp.collisionWithLine polygon search_backward
  | _ => sp.scanCollision (fun c => c.getCollisionPointIn2DPolygon search polygon search_backward)
      (scanOrder sp.curves.length search_backward)

/-! ## The scan -/

/-- the scan returns S_i + s for the first curve i of its order whose search returns s -/
theorem scanCollision_eq (sp : CatmullRomSpline R) (hit : HermiteCurve R → Option R) :
    ∀ {order : List ℕ}, (∀ i ∈ order, i < sp.curves.length) →
      sp.scanCollision hit order =
        .ok (order.findSome? fun i => (sp.curves[i]?.bind hit).map (sp.prefixLength i + ·))
  | [], _ => rfl
  | i :: is, h => by
    have hi := h i (List.mem_cons_self i is)
    rw [scanCollision, List.findSome?_cons]
    simp only [List.getElem?_eq_getElem hi, Option.some_bind]
    cases hit sp.curves[i] with
    | none => exact scanCollision_eq sp hit fun j hj => h j (List.mem_cons_of_mem i hj)
    | some s => simp [getSInSplineCurve_eq sp hi, Except.map]

/-- searches that agree on the curves give the same scan -/
theorem scanCollision_congr {sp : CatmullRomSpline R} {hit hit' : HermiteCurve R → Option R}
    (h : ∀ c ∈ sp.curves, hit c = hit' c) : ∀ order, sp.scanCollision hit order = sp.scanCollision hit' order
  | [] => rfl
  | i :: is => by
    rw [scanCollision, scanCollision]
    cases hc : sp.curves[i]? with
    | none => rfl
    | some c => simp only [h c (List.getElem?_mem hc), scanCollision_congr h is]

theorem lt_of_mem_scanOrder {n i : ℕ} {sb : Bool} (h : i ∈ scanOrder n sb) : i < n := by
  cases sb <;> simp [scanOrder] at h
  · exact h
  · omega

/-- the segment overload returns S_i + t for the first curve i, in the search direction, that the segment crosses -/
theorem getCollisionPointIn2D_eq (search : HermiteCurve R → Point R → Point R → Bool → Option R)
    (sp : CatmullRomSpline R) (a b : Point R) (sb : Bool) :
    sp.getCollisionPointIn2D search a b sb = .ok ((scanOrder sp.curves.length sb).findSome? fun i =>
      (sp.curves[i]?.bind fun c => search c a b sb).map (sp.prefixLength i + ·)) :=
  scanCollision_eq sp _ fun _ => lt_of_mem_scanOrder

/-- from three control points on, the polygon overload returns for every polygon: its curve scan reads only curves
that exist -/
theorem getCollisionPointIn2DPolygon_ok {sp : CatmullRomSpline R} (h3 : 3 ≤ sp.controlPoints.length)
    (search : HermiteCurve R → Point R → Point R → Bool → Option R) (polygon : List (Point R)) (sb : Bool) :
    ∃ s, sp.getCollisionPointIn2DPolygon search polygon sb = .ok s := by
  obtain ⟨n, hn⟩ : ∃ n, sp.controlPoints.length = n + 3 := ⟨_, (Nat.sub_add_cancel h3).symm⟩
  rw [getCollisionPointIn2DPolygon, hn]
  exact ⟨_, scanCollision_eq sp _ fun _ => lt_of_mem_scanOrder⟩

/-! ## The two overloads on a two-vertex polygon -/

/-- with curve searches that meet their spec, the polygon overload on {a, b} is the segment overload on a-b, for the
point spline and for every curve spline -/
theorem collision_overloads_agree {search : HermiteCurve R → Point R → Point R → Bool → Option R} {μ : Measure R}
    {cp : List (Point R)} {sp : CatmullRomSpline R} (hsp : new μ cp = .ok sp) (h2 : cp.length ≠ 2) (a b : Point R)
    (sb : Bool)
    (hsearch : ∀ c ∈ sp.curves, c.IsCrossingResult a b sb (search c a b sb) ∧
      c.IsCrossingResult b a sb (search c b a sb)) :
    sp.getCollisionPointIn2DPolygon search [a, b] sb = sp.getCollisionPointIn2D search a b sb := by
  rcases new_eq_ok hsp with ⟨h12, rfl⟩ | ⟨h3, curves, -, rfl⟩
  · have h1 : cp.length = 1 := by omega
    simp [getCollisionPointIn2DPolygon, getCollisionPointIn2D, h1, scanOrder, scanCollision]
  · have hlen : (ofCurves cp curves).controlPoints.length = cp.length - 3 + 3 := by simp [ofCurves]; omega
    rw [getCollisionPointIn2DPolygon, hlen, getCollisionPointIn2D]
    exact scanCollision_congr (fun c hc => HermiteCurve.getCollisionPointIn2DPolygon_pair (hsearch c hc).1
      (hsearch c hc).2) _

/-- the line spline from (0,0,0) to (10,0,0): the polygon overload meets (5,-5,0)-(5,5,0) at 1/2 in either direction,
the segment overload scans the empty curves_ -/
theorem lineSpline_collision (μ : Measure R) (search : HermiteCurve R → Point R → Point R → Bool → Option R)
    (sb : Bool) :
    ∃ sp, new μ [⟨0, 0, 0⟩, ⟨10, 0, 0⟩] = .ok sp ∧
      sp.getCollisionPointIn2DPolygon search [⟨5, -5, 0⟩, ⟨5, 5, 0⟩] sb = .ok (some (1 / 2)) ∧
      sp.getCollisionPointIn2D search ⟨5, -5, 0⟩ ⟨5, 5, 0⟩ sb = .ok none := by
  refine ⟨_, rfl, ?_, by cases sb <;> rfl⟩
  cases sb <;> norm_num [getCollisionPointIn2DPolygon, collisionWithLine, getLineSegments_pair, getLineSegments,
    readAt, LineSegment.getIntersection2DSValue, cross2, List.filterMapM, List.filterMapM.loop, bind, Except.bind,
    pure, Except.pure]

/-! ## The spec's collinear scenario -/

/-- the control points of the spec's collinear scenario, 10 apart along the x-axis -/
def collinearPoints : List (Point R) := [⟨0, 0, 0⟩, ⟨10, 0, 0⟩, ⟨20, 0, 0⟩, ⟨30, 0, 0⟩]

theorem collinearPoints_evenly :
    ∀ (k : ℕ) (p : Point R), (collinearPoints : List (Point R))[k]? = some p → p = ⟨0, 0, 0⟩ + (k : R) • ⟨10, 0, 0⟩
  | 0, p, h | 1, p, h | 2, p, h | 3, p, h => by
    simp only [collinearPoints, List.getElem?_cons_succ, List.getElem?_cons_zero, Option.some.injEq] at h
    subst h; ext <;> norm_num
  | _ + 4, _, h => by simp [collinearPoints] at h

/-- one chord measures the distance between the ends -/
theorem chordLength_one (m : Libm R) (x y z : Cubic R) :
    chordLength m 1 x y z = m.sqrt (Point.distSq (sample x y z 1) (sample x y z 0)) := by
  simp [chordLength]

/-- the constructor on the collinear points, with one chord per curve: three curves of length 10 along the x-axis -/
theorem collinear_spline :
    ∃ sp, new (Measure.chords Libm.real Libm.real_lawful 1 Nat.one_pos) collinearPoints = .ok sp ∧
      sp.Bookkeeping ∧ sp.curves.length = 3 ∧ ∀ i (hi : i < sp.curves.length),
        (∀ t, sp.curves[i].getPoint t false = ⟨10 * (i + t), 0, 0⟩) ∧ sp.curves[i].length = 10 := by
  obtain ⟨curves, -, hlen, hf, -, hnew⟩ := new_eq_ofCurves (Measure.chords Libm.real Libm.real_lawful 1 Nat.one_pos)
    (show 3 ≤ (collinearPoints : List (Point ℝ)).length by decide)
  refine ⟨_, hnew, new_bookkeeping hnew, hlen, fun i hi => ?_⟩
  show (∀ t, curves[i].getPoint t false = ⟨10 * (i + t), 0, 0⟩) ∧ curves[i].length = 10
  have hpt : ∀ t, curves[i].getPoint t false = ⟨10 * (i + t), 0, 0⟩ := fun t => by
    rw [buildCurve_evenly collinearPoints_evenly (hf i hi) t]
    ext <;> simp
    ring
  refine ⟨hpt, ?_⟩
  rw [buildCurve_length (hf i hi)]
  show chordLength Libm.real 1 _ _ _ = 10
  rw [chordLength_one]
  change Libm.real.sqrt (Point.distSq (curves[i].getPoint 1 false) (curves[i].getPoint 0 false)) = 10
  rw [hpt, hpt]
  norm_num [Point.distSq, Libm.real]
  ring

section Collinear

variable {sp : CatmullRomSpline ℝ} (hb : sp.Bookkeeping) (hlen : sp.curves.length = 3)
  (hc : ∀ i (hi : i < sp.curves.length),
    (∀ t, sp.curves[i].getPoint t false = ⟨10 * (i + t), 0, 0⟩) ∧ sp.curves[i].length = 10)
include hc

theorem collinear_prefixLength : ∀ i ≤ sp.curves.length, sp.prefixLength i = 10 * i
  | 0, _ => by simp [prefixLength]
  | i + 1, hi => by
    rw [prefixLength_succ sp (by omega), collinear_prefixLength i (by omega), (hc i (by omega)).2]
    push_cast; ring

include hb hlen in
/-- on the collinear spline getPoint(s) is (s, 0, 0), for every real s -/
theorem collinear_getPoint (s : ℝ) : sp.getPoint s = .ok ⟨s, 0, 0⟩ := by
  obtain ⟨i, v, e, hi, hs⟩ := getCurveIndexAndS_roundTrip hb (List.ne_nil_of_length_pos (by omega)) s
  rw [getSInSplineCurve_eq sp hi, collinear_prefixLength hc i hi.le, Except.ok.injEq] at hs
  rw [getPoint, atS_eq e hi, HermiteCurve.getPoint_true, (hc i hi).2, (hc i hi).1, ← hs]
  congr 2
  ring

end Collinear

/-- (x, 0) lies on the segment (15,-5)-(15,5) exactly when x = 15 -/
theorem onSegment2D_vertical (x y : R) :
    HermiteCurve.OnSegment2D ⟨x, 0, y⟩ ⟨15, -5, 0⟩ ⟨15, 5, 0⟩ ↔ x = 15 := by
  constructor
  · rintro ⟨u, -, -, hx, -⟩
    simpa using hx
  · rintro rfl
    exact ⟨1 / 2, by norm_num, by norm_num, by norm_num, by norm_num⟩

/-- curve i of the collinear spline crosses (15,-5,0)-(15,5,0) only if i = 1, at t = 1/2 -/
theorem collinear_crossing {c : HermiteCurve ℝ} {i : ℕ} (hc : ∀ t, c.getPoint t false = ⟨10 * (i + t), 0, 0⟩)
    (hi : i < 3) : c.IsCrossingResult ⟨15, -5, 0⟩ ⟨15, 5, 0⟩ false (if i = 1 then some (1 / 2) else none) := by
  have hx : c.crossings ⟨15, -5, 0⟩ ⟨15, 5, 0⟩ = {t : ℝ | 0 ≤ t ∧ t ≤ 1 ∧ 10 * (i + t) = 15} := by
    ext t
    simp only [HermiteCurve.crossings, Set.mem_setOf_eq, hc, onSegment2D_vertical]
  interval_cases i
  · simp only [HermiteCurve.IsCrossingResult, hx]
    exact Set.eq_empty_of_forall_not_mem fun t ⟨_, h1, h⟩ => by norm_num at h; linarith
  · simp only [HermiteCurve.IsCrossingResult, hx, if_true, Bool.false_eq_true, ite_false]
    exact ⟨⟨by norm_num, by norm_num, by norm_num⟩, fun t ⟨_, _, h⟩ => by norm_num at h; linarith⟩
  · simp only [HermiteCurve.IsCrossingResult, hx]
    exact Set.eq_empty_of_forall_not_mem fun t ⟨h0, _, h⟩ => by norm_num at h; linarith

/-- the spec's collision scenario: every curve search that meets its spec makes the segment overload return
L_0 + 1/2 = 10.5, where getPoint is (10.5, 0, 0); getPoint(s) meets the segment at s = 15 and nowhere else -/
theorem collinear_collision :
    ∃ sp, new (Measure.chords Libm.real Libm.real_lawful 1 Nat.one_pos) collinearPoints = .ok sp ∧
      (∃ search : HermiteCurve ℝ → Point ℝ → Point ℝ → Bool → Option ℝ, ∀ c ∈ sp.curves,
        c.IsCrossingResult ⟨15, -5, 0⟩ ⟨15, 5, 0⟩ false (search c ⟨15, -5, 0⟩ ⟨15, 5, 0⟩ false)) ∧
      (∀ search : HermiteCurve ℝ → Point ℝ → Point ℝ → Bool → Option ℝ, (∀ c ∈ sp.curves,
          c.IsCrossingResult ⟨15, -5, 0⟩ ⟨15, 5, 0⟩ false (search c ⟨15, -5, 0⟩ ⟨15, 5, 0⟩ false)) →
        sp.getCollisionPointIn2D search ⟨15, -5, 0⟩ ⟨15, 5, 0⟩ false = .ok (some (21 / 2))) ∧
      sp.getPoint (21 / 2) = .ok ⟨21 / 2, 0, 0⟩ ∧
      IsLeast {s | 0 ≤ s ∧ s ≤ sp.getLength ∧
        ∃ p, sp.getPoint s = .ok p ∧ HermiteCurve.OnSegment2D p ⟨15, -5, 0⟩ ⟨15, 5, 0⟩} 15 := by
  obtain ⟨sp, hnew, hb, hlen, hc⟩ := collinear_spline
  have hpt := collinear_getPoint hb hlen hc
  have hcross : ∀ i (hi : i < sp.curves.length),
      sp.curves[i].IsCrossingResult ⟨15, -5, 0⟩ ⟨15, 5, 0⟩ false (if i = 1 then some (1 / 2) else none) :=
    fun i hi => collinear_crossing (hc i hi).1 (by omega)
  refine ⟨sp, hnew, ⟨fun c _ _ _ => if c.x.eval (1 / 2) = 15 then some (1 / 2) else none, fun c hmem => ?_⟩,
    fun search hsearch => ?_, hpt _, ⟨by norm_num, ?_, _, hpt 15, (onSegment2D_vertical 15 0).mpr rfl⟩, ?_⟩
  · -- a search meeting the spec: the parameter 1/2 on the curve through x = 15 there
    obtain ⟨i, hi, rfl⟩ := List.getElem_of_mem hmem
    have hx : sp.curves[i].x.eval (1 / 2) = 10 * (i + 1 / 2) := congrArg Point.x ((hc i hi).1 (1 / 2))
    have hiff : sp.curves[i].x.eval (1 / 2) = 15 ↔ i = 1 := by
      rw [hx]
      constructor
      · intro h; exact_mod_cast (by linarith : (i : ℝ) = 1)
      · rintro rfl; norm_num
    simp only [hiff]
    exact hcross i hi
  · -- every search meeting the spec misses curve 0 and hits curve 1 at 1/2
    have hs : ∀ i (hi : i < sp.curves.length),
        search sp.curves[i] ⟨15, -5, 0⟩ ⟨15, 5, 0⟩ false = if i = 1 then some (1 / 2) else none :=
      fun i hi => (hsearch _ (List.getElem_mem hi)).unique (hcross i hi)
    have h0 : (sp.curves[0]?.bind fun c => search c ⟨15, -5, 0⟩ ⟨15, 5, 0⟩ false) = none := by
      rw [List.getElem?_eq_getElem (by omega), Option.some_bind, hs 0 (by omega)]; rfl
    have h1 : (sp.curves[1]?.bind fun c => search c ⟨15, -5, 0⟩ ⟨15, 5, 0⟩ false) = some (1 / 2) := by
      rw [List.getElem?_eq_getElem (by omega), Option.some_bind, hs 1 (by omega)]; rfl
    rw [getCollisionPointIn2D_eq, hlen, show scanOrder 3 false = [0, 1, 2] from rfl]
    simp only [List.findSome?_cons, h0, h1, Option.map_some', collinear_prefixLength hc 1 (by omega)]
    norm_num
  · rw [getLength, hb.totalLength_eq, ← prefixLength_length, collinear_prefixLength hc _ le_rfl, hlen]
    norm_num
  · rintro s ⟨-, -, p, hp, hon⟩
    rw [hpt s, Except.ok.injEq] at hp
    subst hp
    exact ((onSegment2D_vertical s 0).mp hon).ge

end CatmullRomSpline

end ScenarioSimulator.Geometry
