/-
Arc-length bookkeeping of the spline (catmull_rom_spline.cpp: getCurveIndexAndS, getSInSplineCurve, getSValue) and
the queries that go through it (getPoint, getNormalVector, getTangentVector, getSquaredDistanceIn2D,
getMaximum2DCurvature).

Writing L_i for the cached length of curve i and S_i = L_0 + ... + L_{i-1} (`prefixLength`):
- `getCurveIndexAndS s` is (0, s) below 0 and (last, s - (total_length_ - L_last)) from total_length_ on, with no
  clamping; in between it scans length_list_ for the curve with prev_s ≤ s < current_s.
- `getSInSplineCurve i s` is S_i + s, summed from curves_[i].getLength() (not from length_list_).
- `getSValue` adds the lengths of the curves before the first one whose projection succeeds.
A constructed spline keeps its tables in step with its curves (`Bookkeeping`, `new_bookkeeping`).

Results:
- `getCurveIndexAndS_inside`: on [0, total_length_) the scan returns the unique curve with S_i ≤ s < S_{i+1} and the
  offset s - S_i; the throw is unreachable. `getCurveIndexAndS_spec`: for every real s, the curve it resolves to has
  passed every end before it and, unless it is the last, not its own. `getCurveIndexAndS_roundTrip`: for every real
  s, translating back gives s. `getSValue_eq_some`: getSValue's running sum is getSInSplineCurve of the first
  projection hit. (`arcLength_bookkeeping` assembles the three.)
- `getCurveIndexAndS_lt`: from three points on, every s resolves to a curve in range, so getPoint and the other
  queries return without a throw, and so does getMaximum2DCurvature. `pointSpline_getCurveIndexAndS`: a point spline
  has no curves, resolves s = -1 to curve 0 all the same, and getMaximum2DCurvature throws.
-/
import ScenarioSimulator.Spline.Construction

namespace ScenarioSimulator.Geometry

variable {R : Type} [LinearOrderedField R]

namespace CatmullRomSpline

/-! ## Queries -/

/-- the loop of getCurveIndexAndS over the curves from i on, with current_s the arc length before curve i -/
def scanCurveIndex (lengthList : List R) (s : R) : ℕ → R → List (HermiteCurve R) → Except Error (ℕ × R)
  | _, _, [] => .error (.simulation "failed to calculate curve index")
  | i, current_s, _ :: cs =>
    match lengthList[i]? with
    | none => .error .outOfRange
    | some l =>
      if current_s ≤ s ∧ s < current_s + l then .ok (i, s - current_s)
      else scanCurveIndex lengthList s (i + 1) (current_s + l) cs

/-- CatmullRomSpline::getCurveIndexAndS -/
def getCurveIndexAndS (sp : CatmullRomSpline R) (s : R) : Except Error (ℕ × R) :=
  if s < 0 then .ok (0, s)
  else if s ≥ sp.totalLength then
    match sp.curves.getLast? with
    | none => .error .outOfRange
    | some c => .ok (sp.curves.length - 1, s - (sp.totalLength - c.length))
  else scanCurveIndex sp.lengthList s 0 0 sp.curves

/-- the loop of getSInSplineCurve from curve i on, with ret the length of the curves before it -/
def sumCurveLengths (curve_index : ℕ) (s : R) : ℕ → R → List (HermiteCurve R) → Except Error R
  | _, _, [] => .error (.semantic "curve index does not match")
  | i, ret, c :: cs =>
    if i = curve_index then .ok (ret + s) else sumCurveLengths curve_index s (i + 1) (ret + c.length) cs

/-- CatmullRomSpline::getSInSplineCurve -/
def getSInSplineCurve (sp : CatmullRomSpline R) (curve_index : ℕ) (s : R) : Except Error R :=
  sumCurveLengths curve_index s 0 0 sp.curves

/-- the loop of getSValue from the curve list on, with s the length of the curves before it -/
def projectFrom (project : HermiteCurve R → Option R) : R → List (HermiteCurve R) → Option R
  | _, [] => none
  | s, c :: cs =>
    match project c with
    | some v => some (s + v)
    | none => projectFrom project (s + c.length) cs

/-- CatmullRomSpline::getSValue(pose, threshold_distance), with `project` the curves' own projection
HermiteCurve::getSValue(pose, threshold_distance, true) -/
def getSValue (sp : CatmullRomSpline R) (project : HermiteCurve R → Option R) : Option R :=
  projectFrom project 0 sp.curves

/-- curves_[i] -/
def curveAt (sp : CatmullRomSpline R) (i : ℕ) : Except Error (HermiteCurve R) :=
  match sp.curves[i]? with
  | none => .error .outOfRange
  | some c => .ok c

/-- resolve s, then ask the curve it falls on -/
def atS {α : Type} (sp : CatmullRomSpline R) (s : R) (f : HermiteCurve R → R → α) : Except Error α := do
  let (i, v) ← sp.getCurveIndexAndS s
  let c ← sp.curveAt i
  pure (f c v)

/-- CatmullRomSpline::getPoint(s) -/
def getPoint (sp : CatmullRomSpline R) (s : R) : Except Error (Point R) := sp.atS s fun c v => c.getPoint v true

/-- CatmullRomSpline::getNormalVector(s) -/
def getNormalVector (sp : CatmullRomSpline R) (s : R) : Except Error (Point R) :=
  sp.atS s fun c v => c.getNormalVector v true

/-- CatmullRomSpline::getTangentVector(s) -/
def getTangentVector (sp : CatmullRomSpline R) (s : R) : Except Error (Point R) :=
  sp.atS s fun c v => c.getTangentVector v true

/-- CatmullRomSpline::getSquaredDistanceIn2D(point, s) -/
def getSquaredDistanceIn2D (sp : CatmullRomSpline R) (p : Point R) (s : R) : Except Error R :=
  sp.atS s fun c v => c.getSquaredDistanceIn2D p v true

/-- CatmullRomSpline::getMaximum2DCurvature -/
def getMaximum2DCurvature (sp : CatmullRomSpline R) : Except Error R :=
  match sp.maximum2dCurvatures with
  | [] => .error (.simulation "maximum 2D curvature vector size is 0.")
  | k :: ks => .ok (ks.foldl max k)

/-! ## Bookkeeping -/

/-- the tables a constructed spline keeps in step with its curves -/
structure Bookkeeping (sp : CatmullRomSpline R) : Prop where
  lengthList_eq : sp.lengthList = sp.curves.map (·.length)
  totalLength_eq : sp.totalLength = (sp.curves.map (·.length)).sum
  maximum2dCurvatures_length : sp.maximum2dCurvatures.length = sp.curves.length

/-- S_i: the length of the curves before curve i -/
def prefixLength (sp : CatmullRomSpline R) (i : ℕ) : R := ((sp.curves.take i).map (·.length)).sum

theorem new_bookkeeping {μ : Measure R} {cp : List (Point R)} {sp : CatmullRomSpline R} (h : new μ cp = .ok sp) :
    sp.Bookkeeping := by
  rcases new_eq_ok h with ⟨-, rfl⟩ | ⟨-, curves, -, rfl⟩
  · exact ⟨rfl, rfl, rfl⟩
  · exact ⟨rfl, List.sum_eq_foldl.symm, by simp [ofCurves]⟩


theorem new_curves_length {μ : Measure R} {cp : List (Point R)} {sp : CatmullRomSpline R} (h3 : 3 ≤ cp.length)
    (hsp : new μ cp = .ok sp) : sp.curves.length = cp.length - 1 := by
  obtain ⟨curves, -, hlen, -, -, hnew⟩ := new_eq_ofCurves μ h3
  rw [hsp] at hnew
  cases hnew
  exact hlen

theorem prefixLength_succ (sp : CatmullRomSpline R) {i : ℕ} (hi : i < sp.curves.length) :
    sp.prefixLength (i + 1) = sp.prefixLength i + sp.curves[i].length := by
  rw [prefixLength, prefixLength, List.take_succ, List.getElem?_eq_getElem hi, List.map_append, List.sum_append]
  simp

theorem prefixLength_mono (sp : CatmullRomSpline R) {i j : ℕ} (h : i ≤ j) : sp.prefixLength i ≤ sp.prefixLength j := by
  unfold prefixLength
  rw [← List.take_append_drop i (sp.curves.take j), List.take_take, min_eq_left h, List.map_append, List.sum_append]
  exact le_add_of_nonneg_right (List.sum_nonneg fun l hl => by
    obtain ⟨c, -, rfl⟩ := List.mem_map.mp hl; exact c.length_nonneg)

theorem prefixLength_length (sp : CatmullRomSpline R) :
    sp.prefixLength sp.curves.length = (sp.curves.map (·.length)).sum := by
  simp [prefixLength]

/-! ## Resolution and its inverse -/

/-- the scan finds the curve s falls on, reading the lengths of the curves it passes -/
theorem scanCurveIndex_eq {lengthList : List R} {s : R} : ∀ {cs : List (HermiteCurve R)} {i : ℕ} {cur : R},
    (∀ k (hk : k < cs.length), lengthList[i + k]? = some cs[k].length) →
    cur ≤ s → s < cur + (cs.map (·.length)).sum →
    ∃ k < cs.length, scanCurveIndex lengthList s i cur cs =
      .ok (i + k, s - (cur + ((cs.take k).map (·.length)).sum)) ∧
      cur + ((cs.take k).map (·.length)).sum ≤ s ∧ s < cur + ((cs.take (k + 1)).map (·.length)).sum
  | [], _, _, _, h0, h1 => absurd h1 (by simpa using h0)
  | c :: cs, i, cur, hL, h0, h1 => by
    have hl : lengthList[i]? = some c.length := by simpa using hL 0 (by simp)
    by_cases hin : cur ≤ s ∧ s < cur + c.length
    · exact ⟨0, by simp, by simp [scanCurveIndex, hl, hin], by simpa using hin.1, by simpa using hin.2⟩
    · have h0' : cur + c.length ≤ s := le_of_not_lt fun h => hin ⟨h0, h⟩
      obtain ⟨k, hk, e, lo, hi⟩ := @scanCurveIndex_eq lengthList s cs (i + 1) (cur + c.length)
        (fun k hk => by simpa [Nat.add_assoc, Nat.add_comm 1 k] using hL (k + 1) (by simpa using hk)) h0'
        (by simp at h1; linarith)
      refine ⟨k + 1, by simpa using hk, ?_, ?_, ?_⟩ <;>
        simp only [scanCurveIndex, hl, hin, ite_false, e, List.take_succ_cons, List.map_cons, List.sum_cons]
      · congr 2 <;> ring
      · linarith
      · linarith


/-- on [0, total_length_) getCurveIndexAndS scans to the curve s falls on -/
theorem getCurveIndexAndS_inside {sp : CatmullRomSpline R} (hb : sp.Bookkeeping) {s : R} (h0 : 0 ≤ s)
    (h1 : s < sp.totalLength) : ∃ i < sp.curves.length, sp.getCurveIndexAndS s = .ok (i, s - sp.prefixLength i) ∧
      sp.prefixLength i ≤ s ∧ s < sp.prefixLength (i + 1) := by
  have hL : ∀ k (hk : k < sp.curves.length), sp.lengthList[0 + k]? = some sp.curves[k].length := by
    intro k hk; simp [hb.lengthList_eq, hk]
  obtain ⟨k, hk, e, lo, hi⟩ := scanCurveIndex_eq hL (by simpa using h0) (by simpa [← hb.totalLength_eq] using h1)
  refine ⟨k, hk, ?_, by simpa [prefixLength] using lo, by simpa [prefixLength] using hi⟩
  simp only [zero_add] at e
  rw [getCurveIndexAndS, if_neg (not_lt.mpr h0), if_neg (not_le.mpr h1), e, prefixLength]

/-- with curve lengths never negative, at most one curve has S_i ≤ s < S_{i+1} -/
theorem prefixLength_unique (sp : CatmullRomSpline R) {s : R} {i j : ℕ}
    (hi : sp.prefixLength i ≤ s ∧ s < sp.prefixLength (i + 1))
    (hj : sp.prefixLength j ≤ s ∧ s < sp.prefixLength (j + 1)) : i = j := by
  rcases lt_trichotomy i j with h | h | h
  · have := sp.prefixLength_mono (Nat.succ_le_of_lt h); linarith
  · exact h
  · have := sp.prefixLength_mono (Nat.succ_le_of_lt h); linarith

theorem sumCurveLengths_eq {idx : ℕ} {s : R} : ∀ {cs : List (HermiteCurve R)} {i : ℕ} {ret : R},
    i ≤ idx → idx < i + cs.length →
    sumCurveLengths idx s i ret cs = .ok (ret + ((cs.take (idx - i)).map (·.length)).sum + s)
  | [], _, _, _, h1 => absurd h1 (by simp; omega)
  | c :: cs, i, ret, h0, h1 => by
    by_cases h : i = idx
    · subst h; simp [sumCurveLengths]
    · obtain ⟨k, hk⟩ : ∃ k, idx - i = k + 1 := ⟨idx - i - 1, by omega⟩
      rw [sumCurveLengths, if_neg h, sumCurveLengths_eq (by omega) (by simp at h1; omega), hk,
        show idx - (i + 1) = k by omega]
      simp [add_assoc]

/-- getSInSplineCurve i v is S_i + v -/
theorem getSInSplineCurve_eq (sp : CatmullRomSpline R) {i : ℕ} (hi : i < sp.curves.length) (v : R) :
    sp.getSInSplineCurve i v = .ok (sp.prefixLength i + v) := by
  simpa [getSInSplineCurve, prefixLength] using
    @sumCurveLengths_eq _ _ i v sp.curves 0 0 (Nat.zero_le i) (by simpa using hi)

/-- every s resolves to a curve i in range with the offset s - S_i: s has passed the ends of the curves before i, and
the end of curve i too only if i is the last; s ≥ S_i unless i = 0 -/
theorem getCurveIndexAndS_spec {sp : CatmullRomSpline R} (hb : sp.Bookkeeping) (hne : sp.curves ≠ []) (s : R) :
    ∃ i < sp.curves.length, sp.getCurveIndexAndS s = .ok (i, s - sp.prefixLength i) ∧
      (∀ j < i, sp.prefixLength (j + 1) ≤ s) ∧ (s < sp.prefixLength (i + 1) ∨ i + 1 = sp.curves.length) ∧
      (i ≠ 0 → sp.prefixLength i ≤ s) := by
  have hpos : 0 < sp.curves.length := List.length_pos.mpr hne
  have htot : sp.totalLength = sp.prefixLength sp.curves.length := by rw [prefixLength_length, hb.totalLength_eq]
  by_cases h0 : s < 0
  · refine ⟨0, hpos, by simp [getCurveIndexAndS, h0, prefixLength], fun j hj => absurd hj (Nat.not_lt_zero j),
      .inl ?_, fun h => absurd rfl h⟩
    rw [prefixLength_succ sp hpos]
    simp only [prefixLength, List.take_zero, List.map_nil, List.sum_nil, zero_add]
    linarith [sp.curves[0].length_nonneg]
  by_cases h1 : s ≥ sp.totalLength
  · have hlast : sp.curves.getLast? = some sp.curves[sp.curves.length - 1] := by
      rw [List.getLast?_eq_getElem?, List.getElem?_eq_getElem]
    have hL : sp.totalLength - sp.curves[sp.curves.length - 1].length = sp.prefixLength (sp.curves.length - 1) := by
      have e := prefixLength_succ sp (Nat.sub_lt hpos Nat.one_pos)
      rw [Nat.sub_add_cancel hpos] at e
      rw [htot, e, add_sub_cancel_right]
    refine ⟨sp.curves.length - 1, by omega, by simp [getCurveIndexAndS, h0, h1, hlast, hL], fun j hj => ?_,
      .inr (by omega), fun _ => ?_⟩
    · exact (sp.prefixLength_mono (by omega)).trans (htot ▸ h1)
    · exact (sp.prefixLength_mono (by omega)).trans (htot ▸ h1)
  obtain ⟨i, hi, e, lo, up⟩ := getCurveIndexAndS_inside hb (not_lt.mp h0) (not_le.mp h1)
  exact ⟨i, hi, e, fun j hj => (sp.prefixLength_mono (by omega)).trans lo, .inl up, fun _ => lo⟩

/-- every s resolves to a curve in range, and translating back gives s -/
theorem getCurveIndexAndS_roundTrip {sp : CatmullRomSpline R} (hb : sp.Bookkeeping) (hne : sp.curves ≠ [])
    (s : R) : ∃ i v, sp.getCurveIndexAndS s = .ok (i, v) ∧ i < sp.curves.length ∧
      sp.getSInSplineCurve i v = .ok s := by
  obtain ⟨i, hi, e, -⟩ := getCurveIndexAndS_spec hb hne s
  exact ⟨i, _, e, hi, by rw [getSInSplineCurve_eq sp hi, add_sub_cancel]⟩

/-- getSValue's running sum from curve list cs on -/
theorem projectFrom_eq_some {project : HermiteCurve R → Option R} {w : R} :
    ∀ {cs : List (HermiteCurve R)} {s : R}, projectFrom project s cs = some w ↔
      ∃ k, ∃ hk : k < cs.length, ∃ v, project cs[k] = some v ∧ (∀ j (hj : j < k), project cs[j] = none) ∧
        w = s + ((cs.take k).map (·.length)).sum + v
  | [], _ => by simp [projectFrom]
  | c :: cs, s => by
    cases hc : project c with
    | some v =>
      simp only [projectFrom, hc, Option.some.injEq]
      constructor
      · rintro rfl; exact ⟨0, by simp, v, hc, fun j hj => absurd hj (Nat.not_lt_zero j), by simp⟩
      · rintro ⟨k, hk, v', hv, hbefore, rfl⟩
        cases k with
        | zero => simp_all
        | succ k => exact absurd (hbefore 0 (Nat.zero_lt_succ k)) (by simp [hc])
    | none =>
      simp only [projectFrom, hc]
      rw [projectFrom_eq_some]
      constructor
      · rintro ⟨k, hk, v, hv, hbefore, rfl⟩
        refine ⟨k + 1, by simpa using hk, v, hv, fun j hj => ?_, by simp [add_assoc]⟩
        cases j with
        | zero => exact hc
        | succ j => exact hbefore j (by omega)
      · rintro ⟨k, hk, v, hv, hbefore, rfl⟩
        cases k with
        | zero => simp [hc] at hv
        | succ k => exact ⟨k, by simpa using hk, v, hv, fun j hj => hbefore (j + 1) (by omega), by simp [add_assoc]⟩

/-- getSValue returns getSInSplineCurve i v for the first curve i whose projection hits, at v -/
theorem getSValue_eq_some (sp : CatmullRomSpline R) (project : HermiteCurve R → Option R) (w : R) :
    sp.getSValue project = some w ↔ ∃ i, ∃ hi : i < sp.curves.length, ∃ v, project sp.curves[i] = some v ∧
      (∀ j (hj : j < i), project sp.curves[j] = none) ∧ sp.getSInSplineCurve i v = .ok w := by
  rw [getSValue, projectFrom_eq_some]
  refine exists_congr fun i => exists_congr fun hi => exists_congr fun v => and_congr_right fun _ =>
    and_congr_right fun _ => ?_
  rw [getSInSplineCurve_eq sp hi, prefixLength, zero_add]
  exact ⟨fun h => by rw [h], fun h => (Except.ok.inj h).symm⟩


theorem arcLength_bookkeeping (μ : Measure R) (cp : List (Point R)) (sp : CatmullRomSpline R)
    (h3 : 3 ≤ cp.length) (hsp : new μ cp = .ok sp) :
    ((∀ i (hi : i < sp.curves.length), sp.lengthList[i]? = some sp.curves[i].length ∧ 0 ≤ sp.curves[i].length) ∧
      sp.totalLength = sp.prefixLength sp.curves.length) ∧
    (∀ s, 0 ≤ s → s < sp.totalLength → ∃ i, ∃ hi : i < sp.curves.length, i + 2 ≤ cp.length ∧
      sp.getCurveIndexAndS s = .ok (i, s - sp.prefixLength i) ∧
      0 ≤ s - sp.prefixLength i ∧ s - sp.prefixLength i < sp.curves[i].length ∧
      ∀ j, sp.prefixLength j ≤ s → s < sp.prefixLength (j + 1) → j = i) ∧
    (∀ s, ∃ i v, sp.getCurveIndexAndS s = .ok (i, v) ∧ sp.getSInSplineCurve i v = .ok s) ∧
    (∀ project w, sp.getSValue project = some w ↔ ∃ i, ∃ hi : i < sp.curves.length, ∃ v,
      project sp.curves[i] = some v ∧ (∀ j (hj : j < i), project sp.curves[j] = none) ∧
      sp.getSInSplineCurve i v = .ok w) := by
  have hb := new_bookkeeping hsp
  have hlen := new_curves_length h3 hsp
  refine ⟨⟨fun i hi => ⟨by simp [hb.lengthList_eq, hi], sp.curves[i].length_nonneg⟩, by
    rw [prefixLength_length, hb.totalLength_eq]⟩, fun s h0 h1 => ?_, fun s => ?_, getSValue_eq_some sp⟩
  · obtain ⟨i, hi, e, lo, up⟩ := getCurveIndexAndS_inside hb h0 h1
    rw [prefixLength_succ sp hi] at up
    exact ⟨i, hi, by omega, e, by linarith, by linarith,
      fun j hj hj' => sp.prefixLength_unique ⟨hj, hj'⟩ ⟨lo, by rw [prefixLength_succ sp hi]; exact up⟩⟩
  · obtain ⟨i, v, e, -, h⟩ := getCurveIndexAndS_roundTrip hb (List.ne_nil_of_length_pos (by omega)) s
    exact ⟨i, v, e, h⟩

theorem arcLength_bookkeeping_threePoints :
    ∃ sp, new (Measure.chords Libm.real Libm.real_lawful 1 Nat.one_pos) threePoints = .ok sp ∧
      ∀ s, ∃ i v, sp.getCurveIndexAndS s = .ok (i, v) ∧ sp.getSInSplineCurve i v = .ok s := by
  obtain ⟨curves, -, -, -, -, hnew⟩ := new_eq_ofCurves (Measure.chords Libm.real Libm.real_lawful 1 Nat.one_pos)
    (show 3 ≤ (threePoints : List (Point ℝ)).length by decide)
  exact ⟨_, hnew, (arcLength_bookkeeping _ threePoints _ (by decide) hnew).2.2.1⟩

/-! ## Queries stay in range -/

theorem atS_eq {α : Type} {sp : CatmullRomSpline R} {s v : R} {i : ℕ} (e : sp.getCurveIndexAndS s = .ok (i, v))
    (hi : i < sp.curves.length) (f : HermiteCurve R → R → α) : sp.atS s f = .ok (f sp.curves[i] v) := by
  simp [atS, e, curveAt, hi, bind, Except.bind, pure, Except.pure]

/-- from three points on no query indexes curves_ out of range or throws; below three points there are no curves -/
theorem getCurveIndexAndS_lt (μ : Measure R) (cp : List (Point R)) (sp : CatmullRomSpline R)
    (hsp : new μ cp = .ok sp) :
    (3 ≤ cp.length →
      (∀ s, ∃ i v, sp.getCurveIndexAndS s = .ok (i, v) ∧ ∃ hi : i < sp.curves.length,
        sp.getPoint s = .ok (sp.curves[i].getPoint v true) ∧
        sp.getNormalVector s = .ok (sp.curves[i].getNormalVector v true) ∧
        sp.getTangentVector s = .ok (sp.curves[i].getTangentVector v true) ∧
        ∀ p, sp.getSquaredDistanceIn2D p s = .ok (sp.curves[i].getSquaredDistanceIn2D p v true)) ∧
      ∃ k, sp.getMaximum2DCurvature = .ok k) ∧
    (cp.length ≤ 2 → sp.curves = [] ∧
      sp.getMaximum2DCurvature = .error (.simulation "maximum 2D curvature vector size is 0.")) := by
  have hb := new_bookkeeping hsp
  refine ⟨fun h3 => ⟨fun s => ?_, ?_⟩, fun h2 => ?_⟩
  · have hlen := new_curves_length h3 hsp
    obtain ⟨i, v, e, hi, -⟩ := getCurveIndexAndS_roundTrip hb (List.ne_nil_of_length_pos (by omega)) s
    exact ⟨i, v, e, hi, atS_eq e hi _, atS_eq e hi _, atS_eq e hi _, fun p => atS_eq e hi _⟩
  · have hm := hb.maximum2dCurvatures_length
    rw [new_curves_length h3 hsp] at hm
    unfold getMaximum2DCurvature
    split
    · rename_i h; rw [h] at hm; simp at hm; omega
    · exact ⟨_, rfl⟩
  · rcases new_eq_ok hsp with ⟨-, rfl⟩ | ⟨h3, -⟩
    · exact ⟨rfl, rfl⟩
    · omega

theorem getCurveIndexAndS_lt_threePoints :
    ∃ sp, new (Measure.chords Libm.real Libm.real_lawful 1 Nat.one_pos) threePoints = .ok sp ∧
      ∃ k, sp.getMaximum2DCurvature = .ok k := by
  obtain ⟨curves, -, -, -, -, hnew⟩ := new_eq_ofCurves (Measure.chords Libm.real Libm.real_lawful 1 Nat.one_pos)
    (show 3 ≤ (threePoints : List (Point ℝ)).length by decide)
  exact ⟨_, hnew, ((getCurveIndexAndS_lt _ threePoints _ hnew).1 (by decide)).2⟩

theorem pointSpline_getCurveIndexAndS :
    ∃ sp, new (Measure.chords Libm.real Libm.real_lawful 1 Nat.one_pos) [0] = .ok sp ∧
      sp.getCurveIndexAndS (-1) = .ok (0, -1) ∧ sp.curves.length = 0 ∧ sp.getPoint (-1) = .error .outOfRange ∧
      sp.getMaximum2DCurvature = .error (.simulation "maximum 2D curvature vector size is 0.") :=
  ⟨_, rfl, by simp [getCurveIndexAndS], rfl,
    by simp [getPoint, atS, getCurveIndexAndS, curveAt, bind, Except.bind], rfl⟩

end CatmullRomSpline

end ScenarioSimulator.Geometry
