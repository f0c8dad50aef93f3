/-
Points of geometry_msgs and the functions of <cmath> that the geometry code calls.

A double is read as an element of a linearly ordered field R under exact arithmetic: every definition of the model is
generic in R, so it runs over ℚ, and its theorems are read over ℝ. The functions of <cmath> that no field has
(std::sqrt, std::atan2, std::cos, std::sin) are the fields of a `Libm`; `Libm.Lawful` lists the laws of the real
functions that the theorems use, and `Libm.real` (with `Libm.real_lawful`) is the real-number instance.
-/
import Mathlib

namespace ScenarioSimulator.Geometry

/-! ## Points -/

/-- geometry_msgs Point, also used for Vector3 (both are three doubles x, y, z) -/
@[ext] structure Point (R : Type) where
  x : R
  y : R
  z : R
deriving DecidableEq, Repr

namespace Point

variable {R : Type} [LinearOrderedField R]

instance : Add (Point R) := ⟨fun p q => ⟨p.x + q.x, p.y + q.y, p.z + q.z⟩⟩
instance : Sub (Point R) := ⟨fun p q => ⟨p.x - q.x, p.y - q.y, p.z - q.z⟩⟩
instance : SMul R (Point R) := ⟨fun k p => ⟨k * p.x, k * p.y, k * p.z⟩⟩

@[simp] theorem add_x (p q : Point R) : (p + q).x = p.x + q.x := rfl
@[simp] theorem add_y (p q : Point R) : (p + q).y = p.y + q.y := rfl
@[simp] theorem add_z (p q : Point R) : (p + q).z = p.z + q.z := rfl
@[simp] theorem sub_x (p q : Point R) : (p - q).x = p.x - q.x := rfl
@[simp] theorem sub_y (p q : Point R) : (p - q).y = p.y - q.y := rfl
@[simp] theorem sub_z (p q : Point R) : (p - q).z = p.z - q.z := rfl
@[simp] theorem smul_x (k : R) (p : Point R) : (k • p).x = k * p.x := rfl
@[simp] theorem smul_y (k : R) (p : Point R) : (k • p).y = k * p.y := rfl
@[simp] theorem smul_z (k : R) (p : Point R) : (k • p).z = k * p.z := rfl

/-- squared distance in the xy-plane -/
def dist2Sq (p q : Point R) : R := (p.x - q.x) ^ 2 + (p.y - q.y) ^ 2

/-- squared distance in space -/
def distSq (p q : Point R) : R := (p.x - q.x) ^ 2 + (p.y - q.y) ^ 2 + (p.z - q.z) ^ 2

theorem distSq_nonneg (p q : Point R) : 0 ≤ distSq p q := by unfold distSq; positivity

theorem eq_of_distSq_eq_zero {p q : Point R} (h : distSq p q = 0) : p = q := by
  unfold distSq at h
  have hx := sq_nonneg (p.x - q.x)
  have hy := sq_nonneg (p.y - q.y)
  have hz := sq_nonneg (p.z - q.z)
  ext
  · exact sub_eq_zero.mp ((pow_eq_zero_iff two_ne_zero).mp (by linarith))
  · exact sub_eq_zero.mp ((pow_eq_zero_iff two_ne_zero).mp (by linarith))
  · exact sub_eq_zero.mp ((pow_eq_zero_iff two_ne_zero).mp (by linarith))

end Point

/-! ## <cmath> -/

/-- the functions of <cmath> the code calls -/
structure Libm (R : Type) where
  sqrt : R → R
  atan2 : R → R → R
  cos : R → R
  sin : R → R

/-- the laws of the real std::sqrt, std::atan2, std::cos and std::sin that the theorems use -/
structure Libm.Lawful {R : Type} [LinearOrderedField R] (m : Libm R) : Prop where
  sqrt_nonneg : ∀ x, 0 ≤ m.sqrt x
  sqrt_mul_self : ∀ x, 0 ≤ x → m.sqrt (x * x) = x
  mul_self_sqrt : ∀ x, 0 ≤ x → m.sqrt x * m.sqrt x = x
  sqrt_le_sqrt : ∀ x y, x ≤ y → m.sqrt x ≤ m.sqrt y
  cos_sq_add_sin_sq : ∀ θ, m.cos θ ^ 2 + m.sin θ ^ 2 = 1
  /-- (cos θ, sin θ) at θ = atan2 y x is the direction of (x, y) -/
  cos_atan2 : ∀ x y, x ≠ 0 ∨ y ≠ 0 → m.sqrt (x ^ 2 + y ^ 2) * m.cos (m.atan2 y x) = x
  sin_atan2 : ∀ x y, m.sqrt (x ^ 2 + y ^ 2) * m.sin (m.atan2 y x) = y

theorem Libm.Lawful.eq_zero_of_sqrt_eq_zero {R : Type} [LinearOrderedField R] {m : Libm R} (hm : m.Lawful) {x : R}
    (hx : 0 ≤ x) (h : m.sqrt x = 0) : x = 0 := by
  rw [← hm.mul_self_sqrt x hx, h, mul_zero]

theorem Libm.Lawful.lt_sqrt {R : Type} [LinearOrderedField R] {m : Libm R} (hm : m.Lawful) {a x : R}
    (h : a * a < x) : a < m.sqrt x := by
  by_contra hle
  have hx : 0 ≤ x := (mul_self_nonneg a).trans h.le
  have := mul_self_le_mul_self (hm.sqrt_nonneg x) (not_lt.mp hle)
  rw [hm.mul_self_sqrt x hx] at this
  exact absurd h (not_lt.mpr this)

theorem Libm.Lawful.mul_self_lt_of_lt_sqrt {R : Type} [LinearOrderedField R] {m : Libm R} (hm : m.Lawful) {a x : R}
    (ha : 0 ≤ a) (hx : 0 ≤ x) (h : a < m.sqrt x) : a * a < x := by
  have := mul_self_lt_mul_self ha h
  rwa [hm.mul_self_sqrt x hx] at this

/-- the real functions; std::atan2 y x is the argument of x + iy, which is 0 at x = y = 0, where std::atan2 reads the
signs of the zeros and gives ±0 or ±π -/
noncomputable def Libm.real : Libm ℝ := ⟨Real.sqrt, fun y x => Complex.arg ⟨x, y⟩, Real.cos, Real.sin⟩

theorem abs_mk_eq_sqrt (x y : ℝ) : Complex.abs ⟨x, y⟩ = Real.sqrt (x ^ 2 + y ^ 2) := by
  rw [Complex.abs_apply, Complex.normSq_mk, sq, sq]

theorem Libm.real_lawful : Libm.real.Lawful where
  sqrt_nonneg := Real.sqrt_nonneg
  sqrt_mul_self _ h := Real.sqrt_mul_self h
  mul_self_sqrt _ h := Real.mul_self_sqrt h
  sqrt_le_sqrt _ _ h := Real.sqrt_le_sqrt h
  cos_sq_add_sin_sq θ := by simp only [Libm.real, Real.cos_sq_add_sin_sq]
  cos_atan2 x y h := by
    have hz : (⟨x, y⟩ : ℂ) ≠ 0 := fun h0 => by
      rcases h with h | h
      · exact h (congrArg Complex.re h0)
      · exact h (congrArg Complex.im h0)
    have hpos : (0 : ℝ) < Complex.abs ⟨x, y⟩ := Complex.abs.pos hz
    simp only [Libm.real]
    rw [Complex.cos_arg hz, ← abs_mk_eq_sqrt]
    field_simp
  sin_atan2 x y := by
    simp only [Libm.real]
    rw [Complex.sin_arg, ← abs_mk_eq_sqrt]
    rcases eq_or_ne (Complex.abs ⟨x, y⟩) 0 with h0 | h0
    · have : (⟨x, y⟩ : ℂ) = 0 := by simpa using h0
      rw [h0, zero_mul]
      exact (congrArg Complex.im this).symm
    · field_simp

end ScenarioSimulator.Geometry
