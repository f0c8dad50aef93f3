/-
Continuity of the spline's queries (catmull_rom_spline.cpp: CatmullRomSpline::getCurveIndexAndS and the queries
getPoint(s), getTangentVector(s), getPoint(s, offset) that read the curve it resolves).

A query of curve i at local arc length v, resolved through getCurveIndexAndS, is the query read off the curves laid end
to end (`piecewise`): each curve answers between the end of the one before it and its own end, the first one below 0
and the last one beyond total_length_. The curves of a constructed spline meet end to start in point and, when only a
curve that stays at one point has length zero (`Measure.ZeroOnlyForPoints`), in tangent; glued end to start, their
autoscaled queries are continuous.

Results:
- `atS_eq_piecewise`: every query through getCurveIndexAndS is the piecewise query over curves_.
- `getCurveIndexAndS_pos`: with end curves of positive length, no s resolves to a curve of length zero.
- `getPoint_continuous`: from three control points on, getPoint and getTangentVector are continuous on ℝ and pass
  through each control point with its Catmull-Rom tangent; the tangent's direction is continuous at every joint with a
  nonzero tangent, and the offset direction of getPoint(s, offset) at every joint whose tangent has a nonzero
  xy-part.
- `getPoint_discontinuous`: the control points (0,0,0), (1,0,1), (0,0,2) have the tangent (0,0,1) at the middle
  point; the offset direction is (0, 1) before that joint and, at it, the direction atan2 gives the zero normal,
  which is (±1, 0) for std::atan2 of signed zeros (±0 or ±π) and (1, 0) for `Libm.real`.

Premises: the arc length vanishes only on a curve that stays at one point (the arc length is HermiteCurve's, in
hermite_curve.cpp, modelled from the spec; `Measure.chords_zeroOnlyForPoints`: the spec's chord sum has this from
three chords on), and the first and the last curve have positive length: on a first curve of length 0 getPoint(s)
for s < 0 divides by 0, which gives NaN in double and which x / 0 = 0 does not represent. The theorems are over ℝ with
`Libm.real`.
-/
import ScenarioSimulator.Spline.Collision

namespace ScenarioSimulator.Geometry

/-! ## Curves of length zero -/

section ZeroLength

variable {R : Type} [LinearOrderedField R]

/-- the cubic does not depend on t -/
def Cubic.IsConst (q : Cubic R) : Prop := q.a = 0 ∧ q.b = 0 ∧ q.c = 0

/-- only a curve that stays at one point has length zero -/
def Measure.ZeroOnlyForPoints (μ : Measure R) : Prop :=
  ∀ x y z, μ.getLength x y z = 0 → x.IsConst ∧ y.IsConst ∧ z.IsConst

/-- a cubic with one value at 0, h, 2h and 3h, h ≠ 0, is constant -/
theorem Cubic.isConst_of_eval {q : Cubic R} {h : R} (hh : h ≠ 0) (e1 : q.eval (1 * h) = q.eval 0)
    (e2 : q.eval (2 * h) = q.eval 0) (e3 : q.eval (3 * h) = q.eval 0) : q.IsConst := by
  simp only [Cubic.eval] at e1 e2 e3
  have ha : q.a = 0 := by
    have : 6 * h ^ 3 * q.a = 0 := by linear_combination e3 - 3 * e2 + 3 * e1
    simpa [hh] using this
  have hb : q.b = 0 := by
    have : 2 * h ^ 2 * q.b = 0 := by linear_combination e2 - 2 * e1 - 6 * h ^ 3 * ha
    simpa [hh] using this
  have hc : q.c = 0 := by
    have : h * q.c = 0 := by linear_combination e1 - h ^ 3 * ha - h ^ 2 * hb
    simpa [hh] using this
  exact ⟨ha, hb, hc⟩

theorem Cubic.IsConst.deriv_eq_zero {q : Cubic R} (h : q.IsConst) (t : R) : q.deriv t = 0 := by
  simp [Cubic.deriv, h.1, h.2.1, h.2.2]

/-- with three chords or more, the spec's length is zero only for a curve that stays at one point -/
theorem Measure.chords_zeroOnlyForPoints {m : Libm R} (hm : m.Lawful) {numPoints : ℕ} (hn : 3 ≤ numPoints) :
    (Measure.chords m hm numPoints (by omega)).ZeroOnlyForPoints := by
  intro x y z h0
  have hs := sample_eq_of_chordLength_eq_zero hm h0
  have hh : (1 / numPoints : R) ≠ 0 := by positivity
  have e : ∀ k : ℕ, k ≤ 3 → sample x y z (k * (1 / numPoints)) = sample x y z 0 := fun k hk => by
    rw [← hs k (by omega), mul_one_div]
  have e1 := e 1 (by norm_num)
  have e2 := e 2 (by norm_num)
  have e3 := e 3 (by norm_num)
  simp only [Nat.cast_one, Nat.cast_ofNat] at e1 e2 e3
  exact ⟨Cubic.isConst_of_eval hh (congrArg Point.x e1) (congrArg Point.x e2) (congrArg Point.x e3),
    Cubic.isConst_of_eval hh (congrArg Point.y e1) (congrArg Point.y e2) (congrArg Point.y e3),
    Cubic.isConst_of_eval hh (congrArg Point.z e1) (congrArg Point.z e2) (congrArg Point.z e3)⟩

/-- at its length a curve of positive length, or a constant one, has its tangent at t = 1 -/
theorem HermiteCurve.getTangentVector_length {c : HermiteCurve R}
    (h : c.length = 0 → c.x.IsConst ∧ c.y.IsConst ∧ c.z.IsConst) :
    c.getTangentVector c.length true = c.getTangentVector 1 false := by
  rcases eq_or_ne c.length 0 with h0 | h0
  · obtain ⟨hx, hy, hz⟩ := h h0
    simp [HermiteCurve.getTangentVector, hx.deriv_eq_zero, hy.deriv_eq_zero, hz.deriv_eq_zero]
  · simp [HermiteCurve.getTangentVector, div_self h0]

end ZeroLength

namespace CatmullRomSpline

/-- a curve built between two different control points has positive length -/
theorem buildCurve_length_pos {R : Type} [LinearOrderedField R] {μ : Measure R} {cp : List (Point R)} {i : ℕ}
    {c : HermiteCurve R} (h3 : 3 ≤ cp.length) (hi : i < cp.length - 1) (h : buildCurve μ cp (cp.length - 1) i = some c)
    (hne : cp[i]? ≠ cp[i + 1]?) : 0 < c.length := by
  have e := buildCurve_spec h3 hi h
  refine c.length_nonneg.lt_of_ne fun h0 => hne ?_
  rw [e.1, e.2.1]
  exact congrArg some (c.ends_of_length_eq_zero h0.symm)

/-! ## Queries read off the curves laid end to end -/

/-- a per-curve query f read off the curves cs laid end to end from S on: on the first curve whose end lies beyond s,
on the last curve beyond every end -/
def piecewise {R α : Type} [LinearOrderedField R] (f : HermiteCurve R → R → α) (d : α) :
    List (HermiteCurve R) → R → R → α
  | [], _, _ => d
  | [c], S, s => f c (s - S)
  | c :: c' :: cs, S, s => if S + c.length ≤ s then piecewise f d (c' :: cs) (S + c.length) s else f c (s - S)

section Piecewise

variable {R α : Type} [LinearOrderedField R] {f : HermiteCurve R → R → α} {d : α}

/-- the piecewise query is curve k's, at s less the ends before it, when s has passed those ends and not the next -/
theorem piecewise_eq : ∀ {cs : List (HermiteCurve R)} {S s : R} {k : ℕ} (hk : k < cs.length),
    (∀ j < k, S + ((cs.take (j + 1)).map (·.length)).sum ≤ s) →
    (s < S + ((cs.take (k + 1)).map (·.length)).sum ∨ k + 1 = cs.length) →
    piecewise f d cs S s = f cs[k] (s - (S + ((cs.take k).map (·.length)).sum))
  | [], _, _, _, hk, _, _ => absurd hk (Nat.not_lt_zero _)
  | [c], S, s, 0, _, _, _ => by simp [piecewise]
  | [_], _, _, _ + 1, hk, _, _ => absurd hk (by simp)
  | c :: c' :: cs, S, s, 0, _, _, hlt => by
    have : ¬ S + c.length ≤ s := by simpa using hlt
    simp [piecewise, this]
  | c :: c' :: cs, S, s, k + 1, hk, hle, hlt => by
    have h0 : S + c.length ≤ s := by simpa using hle 0 (Nat.succ_pos k)
    rw [piecewise, if_pos h0, piecewise_eq (k := k) (by simpa using hk)
      (fun j hj => by simpa [add_assoc] using hle (j + 1) (by omega))
      (by simpa [add_assoc] using hlt)]
    simp [add_assoc]

/-- at the start of a chain of curves the piecewise query is the first curve's at 0 -/
theorem piecewise_start : ∀ {c : HermiteCurve R} {cs : List (HermiteCurve R)} (S : R),
    (c :: cs).Chain' (fun c c' => f c c.length = f c' 0) → piecewise f d (c :: cs) S S = f c 0
  | c, [], S, _ => by simp [piecewise]
  | c, c' :: cs, S, hc => by
    rcases c.length_nonneg.eq_or_lt with h | h
    · rw [piecewise, if_pos (by linarith), ← h, add_zero, piecewise_start S (List.chain'_cons.mp hc).2,
        ← (List.chain'_cons.mp hc).1, ← h]
    · rw [piecewise, if_neg (by linarith), sub_self]

/-- at the start of curve j of a chain the piecewise query is curve j's at 0 -/
theorem piecewise_joint : ∀ {cs : List (HermiteCurve R)} (S : R) {j : ℕ} (hj : j < cs.length),
    cs.Chain' (fun c c' => f c c.length = f c' 0) →
    piecewise f d cs S (S + ((cs.take j).map (·.length)).sum) = f cs[j] 0
  | [], _, _, hj, _ => absurd hj (Nat.not_lt_zero _)
  | c :: cs, S, 0, _, hc => by simpa using piecewise_start S hc
  | [_], _, _ + 1, hj, _ => absurd hj (by simp)
  | c :: c' :: cs, S, j + 1, hj, hc => by
    have hpre : 0 ≤ (((c' :: cs).take j).map (·.length)).sum :=
      List.sum_nonneg fun l hl => by obtain ⟨e, -, rfl⟩ := List.mem_map.mp hl; exact e.length_nonneg
    rw [List.take_succ_cons, List.map_cons, List.sum_cons, piecewise, if_pos (by linarith), ← add_assoc,
      piecewise_joint (S + c.length) (by simpa using hj) (List.chain'_cons.mp hc).2]
    rfl


/-- a function applied after the piecewise query is the piecewise query of the composites -/
theorem piecewise_map {β : Type} (g : α → β) (f : HermiteCurve R → R → α) (d : α) :
    ∀ (cs : List (HermiteCurve R)) (S s : R),
      piecewise (fun c v => g (f c v)) (g d) cs S s = g (piecewise f d cs S s)
  | [], _, _ => rfl
  | [_], _, _ => rfl
  | c :: c' :: cs, S, s => by
    simp only [piecewise]
    split_ifs
    · exact piecewise_map g f d (c' :: cs) _ s
    · rfl

end Piecewise

section Resolved

variable {R : Type} [LinearOrderedField R] {sp : CatmullRomSpline R} (hb : sp.Bookkeeping) (hne : sp.curves ≠ [])
include hb hne

/-- every query through getCurveIndexAndS is the piecewise query over curves_ from 0 -/
theorem atS_eq_piecewise {α : Type} (f : HermiteCurve R → R → α) (d : α) (s : R) :
    sp.atS s f = .ok (piecewise f d sp.curves 0 s) := by
  obtain ⟨i, hi, e, hbefore, hend, -⟩ := getCurveIndexAndS_spec hb hne s
  rw [atS_eq e hi, piecewise_eq hi (fun j hj => by simpa [prefixLength] using hbefore j hj)
    (by simpa [prefixLength] using hend)]
  simp [prefixLength]

/-- when the first and the last curve have positive length, getCurveIndexAndS resolves no s to a curve of length
zero -/
theorem getCurveIndexAndS_pos (hfirst : ∀ c ∈ sp.curves.head?, 0 < c.length)
    (hlast : ∀ c ∈ sp.curves.getLast?, 0 < c.length) (s : R) :
    ∃ i v, sp.getCurveIndexAndS s = .ok (i, v) ∧ ∃ hi : i < sp.curves.length, 0 < sp.curves[i].length := by
  obtain ⟨i, hi, e, -, hend, hstart⟩ := getCurveIndexAndS_spec hb hne s
  refine ⟨i, _, e, hi, ?_⟩
  rcases Nat.eq_zero_or_pos i with rfl | h0
  · exact hfirst _ (by rw [List.head?_eq_getElem?, List.getElem?_eq_getElem hi]; rfl)
  rcases hend with hlt | hl
  · have := hstart h0.ne'
    rw [prefixLength_succ sp hi] at hlt
    linarith
  · obtain rfl : i = sp.curves.length - 1 := by omega
    exact hlast _ (by rw [List.getLast?_eq_getElem?, List.getElem?_eq_getElem hi]; rfl)

end Resolved

end CatmullRomSpline

/-! ## Continuous paths -/

/-- a path in space, continuous in each coordinate -/
def IsContinuousPath (P : ℝ → Point ℝ) : Prop :=
  Continuous (fun s => (P s).x) ∧ Continuous (fun s => (P s).y) ∧ Continuous (fun s => (P s).z)

/-- a path in space, continuous at s in each coordinate -/
def IsContinuousPathAt (P : ℝ → Point ℝ) (s : ℝ) : Prop :=
  ContinuousAt (fun s => (P s).x) s ∧ ContinuousAt (fun s => (P s).y) s ∧ ContinuousAt (fun s => (P s).z) s

/-- the unit vector along v -/
def Point.unit {R : Type} [LinearOrderedField R] (m : Libm R) (v : Point R) : Point R :=
  (m.sqrt (v.x ^ 2 + v.y ^ 2 + v.z ^ 2))⁻¹ • v

/-- the direction getPoint(s, offset) moves along for the normal n: (cos θ, sin θ, 0) with θ = atan2 n.y n.x -/
def Point.heading {R : Type} [LinearOrderedField R] (m : Libm R) (n : Point R) : Point R :=
  ⟨m.cos (m.atan2 n.y n.x), m.sin (m.atan2 n.y n.x), 0⟩

theorem Point.shift_eq_heading {R : Type} [LinearOrderedField R] (m : Libm R) (p n : Point R) (d : R) :
    p.shift m n d = p + d • n.heading m := by
  ext <;> simp [shift, heading]

theorem Point.sq_pos_of_ne_zero {v : Point ℝ} (h : v ≠ 0) : 0 < v.x ^ 2 + v.y ^ 2 + v.z ^ 2 := by
  by_contra hle
  have hx := sq_nonneg v.x
  have hy := sq_nonneg v.y
  have hz := sq_nonneg v.z
  exact h (Point.ext (pow_eq_zero_iff two_ne_zero |>.mp (by linarith))
    (pow_eq_zero_iff two_ne_zero |>.mp (by linarith)) (pow_eq_zero_iff two_ne_zero |>.mp (by linarith)))

theorem Cubic.continuous_eval (q : Cubic ℝ) : Continuous q.eval := by
  unfold Cubic.eval; fun_prop

theorem Cubic.continuous_deriv (q : Cubic ℝ) : Continuous q.deriv := by
  unfold Cubic.deriv; fun_prop

theorem continuousAt_cos_arg {z : ℂ} (hz : z ≠ 0) : ContinuousAt (fun w : ℂ => Real.cos (Complex.arg w)) z :=
  (Complex.continuous_re.continuousAt.div Complex.continuous_abs.continuousAt (by simpa using hz)).congr
    ((eventually_ne_nhds hz).mono fun w hw => (Complex.cos_arg hw).symm)

theorem continuousAt_sin_arg {z : ℂ} (hz : z ≠ 0) : ContinuousAt (fun w : ℂ => Real.sin (Complex.arg w)) z := by
  simp only [Complex.sin_arg]
  exact Complex.continuous_im.continuousAt.div Complex.continuous_abs.continuousAt (by simpa using hz)

theorem continuous_complex_mk {a b : ℝ → ℝ} (ha : Continuous a) (hb : Continuous b) :
    Continuous fun s => (⟨a s, b s⟩ : ℂ) := by
  simp only [Complex.mk_eq_add_mul_I]
  fun_prop

/-- a continuous path has a continuous direction wherever it is nonzero -/
theorem IsContinuousPath.unit {T : ℝ → Point ℝ} (hT : IsContinuousPath T) {s : ℝ} (h : T s ≠ 0) :
    IsContinuousPathAt (fun s => (T s).unit Libm.real) s := by
  have hq : Continuous fun s => (T s).x ^ 2 + (T s).y ^ 2 + (T s).z ^ 2 :=
    ((hT.1.pow 2).add (hT.2.1.pow 2)).add (hT.2.2.pow 2)
  have hinv : ContinuousAt (fun s => (Real.sqrt ((T s).x ^ 2 + (T s).y ^ 2 + (T s).z ^ 2))⁻¹) s :=
    (Real.continuous_sqrt.comp hq).continuousAt.inv₀ (Real.sqrt_pos.mpr (Point.sq_pos_of_ne_zero h)).ne'
  exact ⟨hinv.mul hT.1.continuousAt, hinv.mul hT.2.1.continuousAt, hinv.mul hT.2.2.continuousAt⟩

/-- the offset direction for the normal of a continuous path is continuous wherever its xy-part is nonzero -/
theorem IsContinuousPath.heading {T : ℝ → Point ℝ} (hT : IsContinuousPath T) {s : ℝ}
    (h : (T s).x ≠ 0 ∨ (T s).y ≠ 0) :
    IsContinuousPathAt (fun s => Point.heading Libm.real ⟨-(T s).y, (T s).x, 0⟩) s := by
  have hz : (⟨-(T s).y, (T s).x⟩ : ℂ) ≠ 0 := fun h0 => by
    rcases h with h | h
    · exact h (by simpa using congrArg Complex.im h0)
    · exact h (by simpa using congrArg Complex.re h0)
  have hc := (continuous_complex_mk hT.2.1.neg hT.1).continuousAt (x := s)
  exact ⟨ContinuousAt.comp (g := fun w : ℂ => Real.cos w.arg) (continuousAt_cos_arg hz) hc,
    ContinuousAt.comp (g := fun w : ℂ => Real.sin w.arg) (continuousAt_sin_arg hz) hc, continuousAt_const⟩

theorem HermiteCurve.continuous_getPoint (c : HermiteCurve ℝ) : IsContinuousPath fun v => c.getPoint v true :=
  ⟨c.x.continuous_eval.comp (continuous_id.div_const _), c.y.continuous_eval.comp (continuous_id.div_const _),
    c.z.continuous_eval.comp (continuous_id.div_const _)⟩

theorem HermiteCurve.continuous_getTangentVector (c : HermiteCurve ℝ) :
    IsContinuousPath fun v => c.getTangentVector v true :=
  ⟨c.x.continuous_deriv.comp (continuous_id.div_const _), c.y.continuous_deriv.comp (continuous_id.div_const _),
    c.z.continuous_deriv.comp (continuous_id.div_const _)⟩

namespace CatmullRomSpline

/-- continuous pieces that agree where one ends and the next starts give a continuous function -/
theorem piecewise_continuous {f : HermiteCurve ℝ → ℝ → ℝ} {d : ℝ} : ∀ {cs : List (HermiteCurve ℝ)} (S : ℝ),
    (∀ c ∈ cs, Continuous (f c)) → cs.Chain' (fun c c' => f c c.length = f c' 0) →
    Continuous (piecewise f d cs S)
  | [], _, _, _ => continuous_const
  | [c], _, hf, _ => (hf c (List.mem_singleton_self c)).comp (continuous_id.sub continuous_const)
  | c :: c' :: cs, S, hf, hc => by
    have ih := piecewise_continuous (d := d) (S + c.length) (fun e he => hf e (List.mem_cons_of_mem c he))
      (List.chain'_cons.mp hc).2
    have hc0 := (hf c (List.mem_cons_self c _)).comp (continuous_id.sub (continuous_const (y := S)))
    refine Continuous.if_le ih hc0 continuous_const continuous_id fun s hs => ?_
    rw [← hs, piecewise_start _ (List.chain'_cons.mp hc).2, ← (List.chain'_cons.mp hc).1]
    simp

/-- continuous pieces that agree where one ends and the next starts give a continuous path -/
theorem piecewise_isContinuousPath {f : HermiteCurve ℝ → ℝ → Point ℝ} {cs : List (HermiteCurve ℝ)}
    (hf : ∀ c ∈ cs, IsContinuousPath (f c)) (hc : cs.Chain' fun c c' => f c c.length = f c' 0) (S : ℝ) :
    IsContinuousPath (piecewise f 0 cs S) :=
  ⟨(piecewise_continuous S (fun c h => (hf c h).1) (hc.imp fun _ _ h => congrArg Point.x h)).congr
      fun s => piecewise_map Point.x f 0 cs S s,
    (piecewise_continuous S (fun c h => (hf c h).2.1) (hc.imp fun _ _ h => congrArg Point.y h)).congr
      fun s => piecewise_map Point.y f 0 cs S s,
    (piecewise_continuous S (fun c h => (hf c h).2.2) (hc.imp fun _ _ h => congrArg Point.z h)).congr
      fun s => piecewise_map Point.z f 0 cs S s⟩

/-! ## The constructed spline -/

section Constructed

variable {R : Type} [LinearOrderedField R] {μ : Measure R} {cp : List (Point R)} {sp : CatmullRomSpline R}
  (h3 : 3 ≤ cp.length) (hsp : new μ cp = .ok sp)
include h3 hsp

/-- the curves of a constructed spline are the constructor loop's -/
theorem new_buildCurve (i : ℕ) (hi : i < sp.curves.length) :
    buildCurve μ cp (cp.length - 1) i = some sp.curves[i] := by
  obtain ⟨curves, -, -, hf, -, hnew⟩ := new_eq_ofCurves μ h3
  obtain rfl : ofCurves cp curves = sp := Except.ok.inj (hnew.symm.trans hsp)
  exact hf i hi

/-- each curve of a constructed spline ends where the next starts -/
theorem new_getPoint_chain : sp.curves.Chain' fun c c' => c.getPoint c.length true = c'.getPoint 0 true := by
  have hlen := new_curves_length h3 hsp
  refine List.chain'_iff_get.mpr fun i hi => ?_
  simp only [List.get_eq_getElem]
  have e1 := (buildCurve_spec h3 (by omega) (new_buildCurve h3 hsp i (by omega))).2.1
  have e2 := (buildCurve_spec h3 (by omega) (new_buildCurve h3 hsp (i + 1) (by omega))).1
  rw [HermiteCurve.getPoint_length, HermiteCurve.getPoint_true, zero_div]
  exact Option.some.inj (e1.symm.trans e2)

/-- each curve of a constructed spline ends with the tangent the next starts with, when only constant curves have
length zero -/
theorem new_getTangentVector_chain (hμ : μ.ZeroOnlyForPoints) :
    sp.curves.Chain' fun c c' => c.getTangentVector c.length true = c'.getTangentVector 0 true := by
  have hlen := new_curves_length h3 hsp
  refine List.chain'_iff_get.mpr fun i hi => ?_
  simp only [List.get_eq_getElem]
  have hb := new_buildCurve h3 hsp i (by omega)
  have e1 := (buildCurve_spec h3 (by omega) hb).2.2.2.1
  have e2 := (buildCurve_spec h3 (by omega) (new_buildCurve h3 hsp (i + 1) (by omega))).2.2.1
  rw [HermiteCurve.getTangentVector_length fun h0 => hμ _ _ _ ((buildCurve_length hb).symm.trans h0), e1, ← e2]
  simp [HermiteCurve.getTangentVector]

end Constructed

/-- from three control points on, when only constant curves have length zero and the end curves have positive length:
no query reads a curve of length zero; getPoint and getTangentVector are continuous on ℝ and meet each control point
P_j at its joint S_j (0 and total_length_ included) with the Catmull-Rom tangent; the tangent's direction is
continuous at each joint with a nonzero tangent, and the offset direction of getPoint(s, offset) at each joint whose
tangent has a nonzero xy-part -/
theorem getPoint_continuous (μ : Measure ℝ) (hμ : μ.ZeroOnlyForPoints) (cp : List (Point ℝ))
    (sp : CatmullRomSpline ℝ) (h3 : 3 ≤ cp.length) (hsp : new μ cp = .ok sp)
    (hfirst : ∀ c ∈ sp.curves.head?, 0 < c.length) (hlast : ∀ c ∈ sp.curves.getLast?, 0 < c.length) :
    (∀ s, ∃ i v, sp.getCurveIndexAndS s = .ok (i, v) ∧ ∃ hi : i < sp.curves.length, 0 < sp.curves[i].length) ∧
    ∃ P T : ℝ → Point ℝ, (∀ s, sp.getPoint s = .ok (P s) ∧ sp.getTangentVector s = .ok (T s) ∧
        ∀ offset, sp.getPointWithOffset Libm.real s offset =
          .ok (P s + offset • Point.heading Libm.real ⟨-(T s).y, (T s).x, 0⟩)) ∧
      IsContinuousPath P ∧ IsContinuousPath T ∧
      ∀ j (hj : j < cp.length), P (sp.prefixLength j) = cp[j] ∧ T (sp.prefixLength j) = catmullRomTangent cp j ∧
        (catmullRomTangent cp j ≠ 0 → IsContinuousPathAt (fun s => (T s).unit Libm.real) (sp.prefixLength j)) ∧
        ((catmullRomTangent cp j).x ≠ 0 ∨ (catmullRomTangent cp j).y ≠ 0 →
          IsContinuousPathAt (fun s => Point.heading Libm.real ⟨-(T s).y, (T s).x, 0⟩) (sp.prefixLength j)) := by
  have hb := new_bookkeeping hsp
  have hlen := new_curves_length h3 hsp
  have hne : sp.curves ≠ [] := List.ne_nil_of_length_pos (by omega)
  have hpch := new_getPoint_chain h3 hsp
  have htch := new_getTangentVector_chain h3 hsp hμ
  set P := piecewise (fun c v => c.getPoint v true) 0 sp.curves 0
  set T := piecewise (fun c v => c.getTangentVector v true) 0 sp.curves 0
  have hTc : IsContinuousPath T := piecewise_isContinuousPath (fun c _ => c.continuous_getTangentVector) htch 0
  have hN : ∀ s, sp.getNormalVector s = .ok ⟨-(T s).y, (T s).x, 0⟩ := fun s =>
    (atS_eq_piecewise hb hne _ ⟨-(0 : Point ℝ).y, (0 : Point ℝ).x, 0⟩ s).trans
      (congrArg Except.ok (piecewise_map (fun v : Point ℝ => (⟨-v.y, v.x, 0⟩ : Point ℝ)) _ 0 _ 0 s))
  -- the value at joint j: curve j at 0 below the last joint, the last curve at its length at the last
  have hjoint : ∀ j (hj : j < cp.length), P (sp.prefixLength j) = cp[j] ∧
      T (sp.prefixLength j) = catmullRomTangent cp j := by
    intro j hj
    rcases Nat.lt_or_ge j sp.curves.length with hjc | hjc
    · have e := buildCurve_spec h3 (by omega) (new_buildCurve h3 hsp j hjc)
      have eP := piecewise_joint (f := fun c v => c.getPoint v true) (d := 0) 0 hjc hpch
      have eT := piecewise_joint (f := fun c v => c.getTangentVector v true) (d := 0) 0 hjc htch
      rw [zero_add] at eP eT
      refine ⟨?_, ?_⟩
      · rw [show P (sp.prefixLength j) = _ from eP]
        simp only [HermiteCurve.getPoint_true, zero_div]
        exact Option.some.inj (e.1.symm.trans (List.getElem?_eq_getElem hj))
      · rw [show T (sp.prefixLength j) = _ from eT, ← e.2.2.1]
        simp [HermiteCurve.getTangentVector]
    · obtain rfl : j = sp.curves.length - 1 + 1 := by omega
      have hk : sp.curves.length - 1 < sp.curves.length := by omega
      have e := buildCurve_spec h3 (by omega) (new_buildCurve h3 hsp _ hk)
      have hend : ∀ {α : Type} (f : HermiteCurve ℝ → ℝ → α) (d : α),
          piecewise f d sp.curves 0 (sp.prefixLength (sp.curves.length - 1 + 1)) =
            f sp.curves[sp.curves.length - 1] sp.curves[sp.curves.length - 1].length := fun f d => by
        rw [piecewise_eq hk (fun i hi => by simpa [prefixLength] using sp.prefixLength_mono (by omega : i + 1 ≤ _))
          (.inr (by omega)), zero_add]
        congr 1
        rw [prefixLength_succ sp hk]
        simp [prefixLength]
      refine ⟨?_, ?_⟩
      · rw [show P _ = _ from hend _ _, HermiteCurve.getPoint_length]
        exact Option.some.inj (e.2.1.symm.trans (List.getElem?_eq_getElem hj))
      · rw [show T _ = _ from hend _ _, HermiteCurve.getTangentVector_length fun h0 =>
          hμ _ _ _ ((buildCurve_length (new_buildCurve h3 hsp _ hk)).symm.trans h0), e.2.2.2.1]
  refine ⟨getCurveIndexAndS_pos hb hne hfirst hlast, P, T, fun s => ⟨atS_eq_piecewise hb hne _ _ s,
    atS_eq_piecewise hb hne _ _ s, fun offset => ?_⟩,
    piecewise_isContinuousPath (fun c _ => c.continuous_getPoint) hpch 0, hTc, fun j hj => ⟨(hjoint j hj).1,
    (hjoint j hj).2, fun h => hTc.unit (by rwa [(hjoint j hj).2]), fun h => hTc.heading (by rwa [(hjoint j hj).2])⟩⟩
  rw [getPointWithOffset_eq (atS_eq_piecewise hb hne _ _ s) (hN s), Point.shift_eq_heading]

theorem getPoint_continuous_threePoints :
    ∃ sp, new (Measure.chords Libm.real Libm.real_lawful 3 (by norm_num)) threePoints = .ok sp ∧
      ∃ P T : ℝ → Point ℝ, (∀ s, sp.getPoint s = .ok (P s) ∧ sp.getTangentVector s = .ok (T s)) ∧
        IsContinuousPath P ∧ IsContinuousPath T := by
  have h3 : 3 ≤ (threePoints : List (Point ℝ)).length := by decide
  obtain ⟨curves, -, hlen, hf, -, hnew⟩ :=
    new_eq_ofCurves (Measure.chords Libm.real Libm.real_lawful 3 (by norm_num)) h3
  obtain ⟨c0, c1, rfl⟩ := List.length_eq_two.mp (hlen.trans rfl)
  have hpos : ∀ i (hi : i < 2), 0 < [c0, c1][i].length := fun i hi =>
    buildCurve_length_pos h3 (by simpa using hi) (hf i hi) (by interval_cases i <;> norm_num [threePoints])
  obtain ⟨-, P, T, hPT, hP, hT, -⟩ := getPoint_continuous _ (Measure.chords_zeroOnlyForPoints Libm.real_lawful le_rfl)
    threePoints _ h3 hnew (fun c hc => by cases hc; exact hpos 0 (by omega))
    (fun c hc => by cases hc; exact hpos 1 (by omega))
  exact ⟨_, hnew, P, T, fun s => ⟨(hPT s).1, (hPT s).2.1⟩, hP, hT⟩

end CatmullRomSpline

/-! ## Where continuity fails -/

theorem Point.heading_of_pos {a z : ℝ} (ha : 0 < a) : Point.heading Libm.real ⟨0, a, z⟩ = ⟨0, 1, 0⟩ := by
  have : Complex.arg ⟨0, a⟩ = Real.pi / 2 := Complex.arg_eq_pi_div_two_iff.mpr ⟨rfl, ha⟩
  simp [Point.heading, Libm.real, this]

namespace CatmullRomSpline

/-- the control points (0,0,0), (1,0,1), (0,0,2): in the xy-plane the spline runs out along the x-axis and back while
z rises, so its tangent at the middle point is vertical -/
def turnPoints {R : Type} [LinearOrderedField R] : List (Point R) := [⟨0, 0, 0⟩, ⟨1, 0, 1⟩, ⟨0, 0, 2⟩]

theorem getPoint_discontinuous :
    ∃ sp, new (Measure.chords Libm.real Libm.real_lawful 3 (by norm_num)) turnPoints = .ok sp ∧
      catmullRomTangent (turnPoints : List (Point ℝ)) 1 = ⟨0, 0, 1⟩ ∧
      (∀ s < sp.prefixLength 1, ∃ p, sp.getPoint s = .ok p ∧
        sp.getPointWithOffset Libm.real s 1 = .ok (p + ⟨0, 1, 0⟩)) ∧
      ∃ p, sp.getPoint (sp.prefixLength 1) = .ok p ∧ ∀ m : Libm ℝ,
        sp.getPointWithOffset m (sp.prefixLength 1) 1 = .ok (p + ⟨m.cos (m.atan2 0 0), m.sin (m.atan2 0 0), 0⟩) := by
  set μ := Measure.chords Libm.real Libm.real_lawful 3 (by norm_num)
  have h3 : 3 ≤ (turnPoints : List (Point ℝ)).length := by decide
  obtain ⟨curves, -, hlen, hf, -, hnew⟩ := new_eq_ofCurves μ h3
  obtain ⟨c0, c1, rfl⟩ := List.length_eq_two.mp (hlen.trans rfl)
  have e0 : some c0 = some (curveOf μ fun ax => Cubic.first (ax ⟨0, 0, 0⟩) (ax ⟨1, 0, 1⟩) (ax ⟨0, 0, 2⟩)) :=
    (hf 0 (by simp)).symm.trans rfl
  have e1 : some c1 = some (curveOf μ fun ax => Cubic.last (ax ⟨0, 0, 0⟩) (ax ⟨1, 0, 1⟩) (ax ⟨0, 0, 2⟩)) :=
    (hf 1 (by simp)).symm.trans rfl
  have hl0 : 0 < c0.length := buildCurve_length_pos h3 (by decide) (hf 0 (by simp)) (by norm_num [turnPoints])
  have hd0 : ∀ t, c0.x.deriv t = 2 - 2 * t ∧ c0.y.deriv t = 0 := fun t => by
    rw [Option.some.inj e0]
    simp only [curveOf, HermiteCurve.new_x, HermiteCurve.new_y, Cubic.first, Cubic.half_deriv]
    constructor <;> simp only [Cubic.deriv] <;> ring
  have hd1 : c1.x.deriv 0 = 0 ∧ c1.y.deriv 0 = 0 := by
    rw [Option.some.inj e1]
    simp only [curveOf, HermiteCurve.new_x, HermiteCurve.new_y, Cubic.last, Cubic.half_deriv]
    constructor <;> simp only [Cubic.deriv] <;> ring
  have hb := new_bookkeeping hnew
  have hne : (ofCurves turnPoints [c0, c1]).curves ≠ [] := List.cons_ne_nil _ _
  have hS : (ofCurves turnPoints [c0, c1]).prefixLength 1 = c0.length := by simp [prefixLength, ofCurves]
  refine ⟨_, hnew, ?_, fun s hs => ?_, ?_⟩
  · rw [catmullRomTangent_inner one_ne_zero (by decide)
      (show (turnPoints : List (Point ℝ))[0]? = some ⟨0, 0, 0⟩ from rfl)
      (show (turnPoints : List (Point ℝ))[2]? = some ⟨0, 0, 2⟩ from rfl)]
    ext <;> norm_num
  · -- before the joint curve 0 answers, with x' = 2 - 2t > 0 and y' = 0: the normal points along +y
    obtain ⟨i, hi, e, -, -, hpos⟩ := getCurveIndexAndS_spec hb hne s
    obtain rfl : i = 0 := by
      by_contra h0
      exact absurd (hpos h0) (not_le.mpr (by rwa [show i = 1 by simp [ofCurves] at hi; omega]))
    have hp := atS_eq e hi fun c v => c.getPoint v true
    have hn : (ofCurves turnPoints [c0, c1]).getNormalVector s = .ok ⟨0, 2 - 2 * (s / c0.length), 0⟩ := by
      rw [getNormalVector, atS_eq e hi]
      simp [HermiteCurve.getNormalVector, HermiteCurve.getTangentVector, ofCurves, prefixLength, hd0]
    have ht : s / c0.length < 1 := (div_lt_one hl0).mpr (hS ▸ hs)
    refine ⟨_, hp, ?_⟩
    rw [getPointWithOffset_eq hp hn, Point.shift_eq_heading, Point.heading_of_pos (by linarith)]
    congr 1; ext <;> simp
  · -- at the joint curve 1 answers at 0, where the tangent (0, 0, 1) has no xy-part and the normal is zero
    obtain ⟨i, hi, e, -, hlt, -⟩ := getCurveIndexAndS_spec hb hne ((ofCurves turnPoints [c0, c1]).prefixLength 1)
    obtain rfl : i = 1 := by
      by_contra h1
      have : i = 0 := by simp [ofCurves] at hi; omega
      subst this
      exact hlt.elim (lt_irrefl _) (by simp [ofCurves])
    have hp := atS_eq e hi fun c v => c.getPoint v true
    have hn : (ofCurves turnPoints [c0, c1]).getNormalVector ((ofCurves turnPoints [c0, c1]).prefixLength 1) =
        .ok ⟨0, 0, 0⟩ := by
      rw [getNormalVector, atS_eq e hi]
      simp [HermiteCurve.getNormalVector, HermiteCurve.getTangentVector, ofCurves, hd1]
    refine ⟨_, hp, fun m => ?_⟩
    rw [getPointWithOffset_eq hp hn, Point.shift_eq_heading]
    congr 1; ext <;> simp [Point.heading]

end CatmullRomSpline

end ScenarioSimulator.Geometry
