/-
The trajectory query of the spline (catmull_rom_spline.cpp: CatmullRomSpline::getTrajectory): getPoint(s, offset)
at s = start_s, start_s ± |resolution|, ... while s is short of end_s, then at end_s itself.

Both while loops run in `trajectoryLoop`, given a number of rounds (`fuel`); `none` means the rounds ran out before
the loop ended.

Results:
- `trajectoryLoop_eq`: a loop whose test holds at the first k positions and fails at the next one ends after k
  emissions, with the accumulated points in order.
- `sampleCount_spec`: with d > 0 and x ≥ 0, K = ⌈x / d⌉ is the first k with k · d ≥ x.
- `getTrajectory_samples`: for every spline built from three control points or more and every resolution r ≠ 0, the
  loop ends after K = ⌈|end_s - start_s| / |r|⌉ rounds; the trajectory has K + 1 points, the k-th at
  start_s ± k |r| strictly before end_s, the last at end_s.
- `getTrajectory_resolution_zero`: with resolution 0 and start_s ≠ end_s, s stays at start_s and the loop never
  ends, whatever the number of rounds (`trajectoryLoop_stuck`); nothing rejects resolution 0.
-/
import ScenarioSimulator.Spline.Bounds

namespace ScenarioSimulator.Geometry

namespace CatmullRomSpline

variable {R : Type}

/-! ## The while loop -/

/-- the while loop of getTrajectory for at most `fuel` rounds: while `more s`, append `emit s` to ret and step s to
`next s` -/
def trajectoryLoop (emit : R → Except Error (Point R)) (more : R → Bool) (next : R → R) :
    ℕ → R → List (Point R) → Option (Except Error (List (Point R)))
  | 0, _, _ => none
  | fuel + 1, s, ret =>
    if more s then
      match emit s with
      | .error e => some (.error e)
      | .ok p => trajectoryLoop emit more next fuel (next s) (ret ++ [p])
    else some (.ok ret)

/-- a loop through positions pos 0, pos 1, ... whose test holds at the first k of them ends after k emissions -/
theorem trajectoryLoop_eq {emit : R → Except Error (Point R)} {g : R → Point R} (hemit : ∀ s, emit s = .ok (g s))
    (more : R → Bool) (next : R → R) :
    ∀ (k fuel : ℕ) (pos : ℕ → R) (ret : List (Point R)), k < fuel → (∀ j, next (pos j) = pos (j + 1)) →
      (∀ j < k, more (pos j) = true) → more (pos k) = false →
      trajectoryLoop emit more next fuel (pos 0) ret = some (.ok (ret ++ (List.range k).map (g ∘ pos)))
  | k, 0, _, _, hk, _, _, _ => absurd hk (Nat.not_lt_zero k)
  | 0, fuel + 1, pos, ret, _, _, _, hstop => by simp [trajectoryLoop, hstop]
  | k + 1, fuel + 1, pos, ret, hk, hnext, hmore, hstop => by
    have ih := trajectoryLoop_eq hemit more next k fuel (fun j => pos (j + 1)) (ret ++ [g (pos 0)]) (by omega)
      (fun j => hnext (j + 1)) (fun j hj => hmore (j + 1) (by omega)) hstop
    simp only [trajectoryLoop, if_pos (hmore 0 k.succ_pos), hemit, hnext, zero_add] at ih ⊢
    rw [ih, List.range_succ_eq_map]
    simp

/-- a loop whose test holds at s and whose step leaves s where it is runs out of every number of rounds -/
theorem trajectoryLoop_stuck {emit : R → Except Error (Point R)} {more : R → Bool} {next : R → R} {s : R}
    {p : Point R} (hmore : more s = true) (hnext : next s = s) (hemit : emit s = .ok p) :
    ∀ fuel ret, trajectoryLoop emit more next fuel s ret = none
  | 0, _ => rfl
  | fuel + 1, ret => by
    rw [trajectoryLoop, if_pos hmore, hemit]
    dsimp only
    rw [hnext]
    exact trajectoryLoop_stuck hmore hnext hemit fuel _

variable [LinearOrderedField R]

/-- CatmullRomSpline::getTrajectory(start_s, end_s, resolution, offset), its while loop given `fuel` rounds -/
def getTrajectory (m : Libm R) (sp : CatmullRomSpline R) (start_s end_s resolution offset : R) (fuel : ℕ) :
    Option (Except Error (List (Point R))) :=
  let emit := fun s => sp.getPointWithOffset m s offset
  let finish := fun (ret : List (Point R)) => do
    let p ← emit end_s
    pure (ret ++ [p])
  if start_s > end_s then
    (trajectoryLoop emit (fun s => decide (s > end_s)) (fun s => s - |resolution|) fuel start_s []).map
      (· >>= finish)
  else
    (trajectoryLoop emit (fun s => decide (s < end_s)) (fun s => s + |resolution|) fuel start_s []).map
      (· >>= finish)

/-- the k-th sample: start_s moved by k |resolution| toward end_s -/
def sampleAt (start_s end_s resolution : R) (k : ℕ) : R :=
  if start_s ≤ end_s then start_s + k * |resolution| else start_s - k * |resolution|

@[simp] theorem sampleAt_zero (start_s end_s resolution : R) : sampleAt start_s end_s resolution 0 = start_s := by
  simp [sampleAt]

/-- with resolution 0 and start_s ≠ end_s the loop's s never moves: on a spline from three control points, where
getPoint(s, offset) succeeds, getTrajectory runs out of every number of rounds -/
theorem getTrajectory_resolution_zero (m : Libm R) (μ : Measure R) (cp : List (Point R)) (sp : CatmullRomSpline R)
    (h3 : 3 ≤ cp.length) (hsp : new μ cp = .ok sp) (start_s end_s offset : R) (hne : start_s ≠ end_s) (fuel : ℕ) :
    sp.getTrajectory m start_s end_s 0 offset fuel = none := by
  have hne' : sp.curves ≠ [] := List.ne_nil_of_length_pos (by rw [new_curves_length h3 hsp]; omega)
  obtain ⟨p, n, hp, hn⟩ := getPoint_ok (new_bookkeeping hsp) hne' start_s
  have hemit := getPointWithOffset_eq (m := m) hp hn offset
  unfold getTrajectory
  dsimp only
  split_ifs with h
  · rw [@trajectoryLoop_stuck _ (fun s => sp.getPointWithOffset m s offset) _ _ start_s _ (by simpa using h)
      (by simp) hemit]
    rfl
  · rw [@trajectoryLoop_stuck _ (fun s => sp.getPointWithOffset m s offset) _ _ start_s _
      (by simpa using lt_of_le_of_ne (not_lt.mp h) hne) (by simp) hemit]
    rfl

theorem getTrajectory_resolution_zero_threePoints :
    ∃ sp, new (Measure.chords Libm.real Libm.real_lawful 1 Nat.one_pos) threePoints = .ok sp ∧ (0 : ℝ) ≠ 1 ∧
      ∀ fuel, sp.getTrajectory Libm.real 0 1 0 0 fuel = none := by
  obtain ⟨curves, -, -, -, -, hnew⟩ := new_eq_ofCurves (Measure.chords Libm.real Libm.real_lawful 1 Nat.one_pos)
    (show 3 ≤ (threePoints : List (Point ℝ)).length by decide)
  exact ⟨_, hnew, zero_ne_one, fun fuel =>
    getTrajectory_resolution_zero Libm.real _ threePoints _ (by decide) hnew 0 1 0 zero_ne_one fuel⟩

/-! ## The number of rounds -/

variable [FloorRing R]

/-- K = ⌈|end_s - start_s| / |resolution|⌉: the number of samples before end_s -/
def sampleCount (start_s end_s resolution : R) : ℕ := ⌈|end_s - start_s| / |resolution|⌉.toNat

/-- with steps d > 0 over a distance x ≥ 0, the first ⌈x / d⌉ steps stay short of x and the next one reaches it -/
theorem sampleCount_spec {d x : R} (hd : 0 < d) (hx : 0 ≤ x) :
    (∀ j < ⌈x / d⌉.toNat, (j : R) * d < x) ∧ x ≤ (⌈x / d⌉.toNat : R) * d := by
  have hc : (0 : ℤ) ≤ ⌈x / d⌉ := Int.ceil_nonneg (div_nonneg hx hd.le)
  constructor
  · intro j hj
    have hj' : ((j : ℤ) : R) < x / d := Int.lt_ceil.mp (by omega)
    rw [Int.cast_natCast] at hj'
    exact (lt_div_iff₀ hd).mp hj'
  · have hK : ((⌈x / d⌉.toNat : ℤ) : R) = (⌈x / d⌉ : R) := by rw [Int.toNat_of_nonneg hc]
    rw [Int.cast_natCast] at hK
    rw [hK]
    exact (div_le_iff₀ hd).mp (Int.le_ceil _)

/-- a loop that goes on while the distance travelled, j steps of d > 0, is below x ≥ 0 ends after ⌈x / d⌉ emissions -/
theorem trajectoryLoop_count {emit : R → Except Error (Point R)} {g : R → Point R} (hemit : ∀ s, emit s = .ok (g s))
    (more : R → Bool) (next : R → R) {d x : R} (hd : 0 < d) (hx : 0 ≤ x) (pos : ℕ → R)
    (hnext : ∀ j, next (pos j) = pos (j + 1)) (hmore : ∀ j : ℕ, more (pos j) = decide ((j : R) * d < x)) (fuel : ℕ)
    (hfuel : ⌈x / d⌉.toNat < fuel) :
    trajectoryLoop emit more next fuel (pos 0) [] = some (.ok ((List.range ⌈x / d⌉.toNat).map (g ∘ pos))) := by
  obtain ⟨hlt, hge⟩ := sampleCount_spec hd hx
  simpa using trajectoryLoop_eq hemit more next _ fuel pos [] hfuel hnext
    (fun j hj => by rw [hmore, decide_eq_true_eq]; exact hlt j hj)
    (by rw [hmore, decide_eq_false_iff_not, not_lt]; exact hge)

/-- from three control points on, getTrajectory with r ≠ 0 ends after K rounds with K + 1 points: the samples
start_s ± k |r| short of end_s, then end_s -/
theorem getTrajectory_samples (m : Libm R) (μ : Measure R) (cp : List (Point R)) (sp : CatmullRomSpline R)
    (h3 : 3 ≤ cp.length) (hsp : new μ cp = .ok sp) (start_s end_s resolution offset : R) (hr : resolution ≠ 0) :
    ∃ pts, (∀ fuel, sampleCount start_s end_s resolution < fuel →
        sp.getTrajectory m start_s end_s resolution offset fuel = some (.ok pts)) ∧
      pts.length = sampleCount start_s end_s resolution + 1 ∧
      (∀ k < sampleCount start_s end_s resolution,
        (start_s ≤ end_s → sampleAt start_s end_s resolution k < end_s) ∧
        (end_s < start_s → end_s < sampleAt start_s end_s resolution k) ∧
        ∃ q, sp.getPointWithOffset m (sampleAt start_s end_s resolution k) offset = .ok q ∧ pts[k]? = some q) ∧
      ∃ q, sp.getPointWithOffset m end_s offset = .ok q ∧ pts[sampleCount start_s end_s resolution]? = some q := by
  have hne : sp.curves ≠ [] := List.ne_nil_of_length_pos (by rw [new_curves_length h3 hsp]; omega)
  choose p n hpn using getPoint_ok (new_bookkeeping hsp) hne
  have hemit : ∀ s, sp.getPointWithOffset m s offset = .ok ((p s).shift m (n s) offset) := fun s =>
    getPointWithOffset_eq (hpn s).1 (hpn s).2 offset
  have hd : 0 < |resolution| := abs_pos.mpr hr
  have hx := abs_nonneg (end_s - start_s)
  set g := fun s => (p s).shift m (n s) offset
  set K := sampleCount start_s end_s resolution
  have hpts : ∀ fuel, K < fuel → sp.getTrajectory m start_s end_s resolution offset fuel =
      some (.ok ((List.range K).map (g ∘ sampleAt start_s end_s resolution) ++ [g end_s])) := by
    intro fuel hfuel
    by_cases hdir : start_s ≤ end_s
    · have hloop := trajectoryLoop_count hemit (fun s => decide (s < end_s)) (fun s => s + |resolution|) hd hx
        (sampleAt start_s end_s resolution) (fun j => by simp only [sampleAt, if_pos hdir]; push_cast; ring)
        (fun j => by
          rw [abs_of_nonneg (sub_nonneg.mpr hdir)]
          simp only [sampleAt, if_pos hdir, decide_eq_decide]
          constructor <;> intro <;> linarith) fuel hfuel
      rw [sampleAt_zero] at hloop
      simp only [getTrajectory, gt_iff_lt, not_lt.mpr hdir, if_false, hloop, Option.map_some']
      simp [hemit, bind, Except.bind, pure, Except.pure, g, K, sampleCount]
    · have hloop := trajectoryLoop_count hemit (fun s => decide (s > end_s)) (fun s => s - |resolution|) hd hx
        (sampleAt start_s end_s resolution) (fun j => by simp only [sampleAt, if_neg hdir]; push_cast; ring)
        (fun j => by
          rw [abs_of_neg (sub_neg.mpr (lt_of_not_le hdir))]
          simp only [sampleAt, if_neg hdir, decide_eq_decide]
          constructor <;> intro <;> linarith) fuel hfuel
      rw [sampleAt_zero] at hloop
      simp only [getTrajectory, gt_iff_lt, lt_of_not_le hdir, if_true, hloop, Option.map_some']
      simp [hemit, bind, Except.bind, pure, Except.pure, g, K, sampleCount]
  refine ⟨_, hpts, by simp, fun k hk => ?_, _, hemit end_s, by simp⟩
  have hk' := (sampleCount_spec hd hx).1 k hk
  refine ⟨fun hdir => ?_, fun hdir => ?_, _, hemit _, ?_⟩
  · rw [abs_of_nonneg (sub_nonneg.mpr hdir)] at hk'
    simp only [sampleAt, if_pos hdir]; linarith
  · rw [abs_of_neg (sub_neg.mpr hdir)] at hk'
    simp only [sampleAt, if_neg (not_le.mpr hdir)]; linarith
  · rw [List.getElem?_append_left (by simpa using hk), List.getElem?_map, List.getElem?_range hk]
    rfl

theorem getTrajectory_samples_threePoints :
    ∃ sp, new (Measure.chords Libm.real Libm.real_lawful 1 Nat.one_pos) threePoints = .ok sp ∧
      ∃ pts, sp.getTrajectory Libm.real 0 2 1 0 3 = some (.ok pts) ∧ pts.length = 3 := by
  obtain ⟨curves, -, -, -, -, hnew⟩ := new_eq_ofCurves (Measure.chords Libm.real Libm.real_lawful 1 Nat.one_pos)
    (show 3 ≤ (threePoints : List (Point ℝ)).length by decide)
  have hK : sampleCount (0 : ℝ) 2 1 = 2 := by norm_num [sampleCount]; rfl
  obtain ⟨pts, hrun, hlen, -⟩ :=
    getTrajectory_samples Libm.real _ threePoints _ (by decide) hnew 0 2 1 0 one_ne_zero
  exact ⟨_, hnew, pts, hrun 3 (by rw [hK]; norm_num), by rw [hlen, hK]⟩

end CatmullRomSpline

end ScenarioSimulator.Geometry
