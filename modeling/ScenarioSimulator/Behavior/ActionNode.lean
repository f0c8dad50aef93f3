/-
The physics of the behavior-tree action node (action_node.cpp: ActionNode::calculateStopDistance, which
FollowLaneAction::tick compares with the distances to the front entity, the stop line and a conflicting entity, and
ActionNode::calculateEntityStatusUpdatedInWorldFrame, one step of the entity toward a target speed).

- `DynamicConstraints`: the four limits the node reads.
- `calculateStopDistance m v constraints`: the stop distance from the speed v = twist.linear.x. Forward motion reads
  the deceleration limits and backward motion the acceleration limits, through one formula (`jerkLimitedDistance`):
  t = sqrt(2 v) / rate; if t · rate ≤ limit then t³ / 6 · rate, else with t1 = limit / rate and v1 = v - t1 · rate,
  t1³ / 6 · rate + v1² / (2 |limit|). The result is a `Double`: finite, +inf or NaN, where std::sqrt of a negative
  speed, a zero rate or a zero limit leave IEEE arithmetic's special values, which C++ then compares.
- `calculateEntityStatusUpdatedInWorldFrame q current_time step_time entity_status target_speed constraints`: the
  acceleration (target_speed - v) / step_time moved one jerk step further and clamped (`targetAccel`), integrated
  over step_time into the twist, and the pose turned and moved by it through quaternion_operation `q` (a parameter,
  like <cmath>).

Results:
- `calculateStopDistance_jerk_phase`, `calculateStopDistance_braking_phase`: the two closed forms, (2v)^(3/2) / (6 r²)
  while sqrt(2v) ≤ D and D³ / (6 r²) + (v - D)² / (2 D) past it (D = max_deceleration, r = max_deceleration_rate).
- `calculateStopDistance_backward`: moving backward std::sqrt(2 v) is NaN, the comparison fails, and the stop
  distance is the braking formula of the acceleration limits at every speed.
- `calculateStopDistance_monotone_iff`: with D, r > 0 the stop distance is monotone in v ≥ 0 exactly when D ≥ 2,
  and it falls on D²/2 < v < v' ≤ D, an interval that is not empty exactly when D < 2: v1 = v - t1 · r subtracts an
  acceleration from a speed.
- `calculateStopDistance_half`: at v = 0.5, max_deceleration 1 and max_deceleration_rate 10 the stop distance is
  1/600, far below the 1/8 that braking at the full deceleration from the first instant needs.
- `targetAccel_speed_bounds`: for step_time > 0 and nonnegative limits and rates the new speed never moves away from
  target_speed but may pass it, by up to step_time² times the rate of its direction.
- `worldFrame_rest_chatters`: at rest with target 0, step_time 1 and all limits and rates 1, the speed runs
  0, 1, 0, 1, ... over every number of steps.
-/
import ScenarioSimulator.Geometry.Basic

namespace ScenarioSimulator.EntityBehavior

open ScenarioSimulator.Geometry

variable {R : Type} [LinearOrderedField R]

/-- traffic_simulator_msgs DynamicConstraints, the limits the action node reads -/
structure DynamicConstraints (R : Type) where
  maxAcceleration : R
  maxAccelerationRate : R
  maxDeceleration : R
  maxDecelerationRate : R
deriving DecidableEq, Repr

/-! ## The doubles of the stop distance -/

/-- a double as calculateStopDistance can leave it: a finite value, +inf (a positive value divided by 0) or NaN -/
inductive Double (R : Type) where
  | finite (x : R)
  | posInf
  | nan
deriving DecidableEq, Repr

namespace Double

/-- s + k for a finite k: +inf and NaN absorb it -/
def addFinite : Double R → R → Double R
  | finite x, k => finite (x + k)
  | posInf, _ => posInf
  | nan, _ => nan

instance : HAdd (Double R) R (Double R) := ⟨addFinite⟩
instance : HAdd R (Double R) (Double R) := ⟨fun k s => addFinite s k⟩

/-- the comparison a <= b of doubles: +inf is above every finite value, and NaN compares false -/
def ble : Double R → Double R → Bool
  | finite a, finite b => decide (a ≤ b)
  | finite _, posInf => true
  | posInf, posInf => true
  | _, _ => false

/-- the comparison a < b of doubles -/
def blt : Double R → Double R → Bool
  | finite a, finite b => decide (a < b)
  | finite _, posInf => true
  | _, _ => false

instance : LE (Double R) := ⟨fun a b => ble a b = true⟩
instance : LT (Double R) := ⟨fun a b => blt a b = true⟩
instance (a b : Double R) : Decidable (a ≤ b) := inferInstanceAs (Decidable (ble a b = true))
instance (a b : Double R) : Decidable (a < b) := inferInstanceAs (Decidable (blt a b = true))

@[simp] theorem finite_add (x k : R) : finite x + k = finite (x + k) := rfl
@[simp] theorem add_finite (k x : R) : k + finite x = finite (x + k) := rfl
@[simp] theorem posInf_add (k : R) : (posInf : Double R) + k = posInf := rfl
@[simp] theorem add_posInf (k : R) : k + (posInf : Double R) = posInf := rfl
@[simp] theorem nan_add (k : R) : (nan : Double R) + k = nan := rfl
@[simp] theorem finite_le_finite {a b : R} : finite a ≤ finite b ↔ a ≤ b := decide_eq_true_iff
@[simp] theorem finite_lt_finite {a b : R} : finite a < finite b ↔ a < b := decide_eq_true_iff
@[simp] theorem le_posInf_of_finite (a : R) : finite a ≤ posInf := rfl
@[simp] theorem lt_posInf_of_finite (a : R) : finite a < posInf := rfl

theorem le_iff_ble {a b : Double R} : a ≤ b ↔ ble a b = true := Iff.rfl
theorem lt_iff_blt {a b : Double R} : a < b ↔ blt a b = true := Iff.rfl

theorem le_trans {a b c : Double R} (hab : a ≤ b) (hbc : b ≤ c) : a ≤ c := by
  cases a <;> cases b <;> cases c <;>
    simp only [le_iff_ble, ble, decide_eq_true_eq, Bool.false_eq_true] at hab hbc ⊢
  exact hab.trans hbc

theorem lt_of_lt_of_le {a b c : Double R} (hab : a < b) (hbc : b ≤ c) : a < c := by
  cases a <;> cases b <;> cases c <;>
    simp only [le_iff_ble, lt_iff_blt, ble, blt, decide_eq_true_eq, Bool.false_eq_true] at hab hbc ⊢
  exact hab.trans_le hbc

theorem lt_irrefl (a : Double R) : ¬a < a := by
  cases a <;> simp [lt_iff_blt, blt]

theorem add_le_add_of_le {s s' : Double R} (h : s ≤ s') (k : R) : s + k ≤ s' + k := by
  cases s <;> cases s' <;>
    simp only [le_iff_ble, ble, finite_add, posInf_add, nan_add, decide_eq_true_eq, Bool.false_eq_true] at h ⊢
  linarith

theorem add_le_add_of_le' {s s' : Double R} (h : s ≤ s') (k : R) : k + s ≤ k + s' := add_le_add_of_le h k

end Double

/-! ## The stop distance -/

/-- one branch of calculateStopDistance, for a speed v, a jerk `rate` and an acceleration `limit`. std::sqrt of a
negative is NaN, and for rate = 0 so are t = sqrt(2 v) / rate (0 / 0, or ±inf) and t · rate: a comparison with NaN is
false, and the else branch is taken; there t1 = limit / 0 makes t1³ / 6 · 0 NaN, and at limit = 0 the last term
v1² / (2 |limit|) divides by 0 -/
def jerkLimitedDistance (m : Libm R) (v rate limit : R) : Double R :=
  let t := m.sqrt (2 * v) / rate
  if 0 ≤ 2 * v ∧ rate ≠ 0 ∧ t * rate ≤ limit then .finite (t * t * t / 6 * rate)
  else if rate = 0 then .nan
  else
    let t1 := limit / rate
    let v1 := v - t1 * rate
    if limit = 0 then (if v1 = 0 then .nan else .posInf)
    else .finite (t1 * t1 * t1 / 6 * rate + v1 * v1 / (2 * |limit|))

/-- ActionNode::calculateStopDistance(constraints), at v = entity_status.action_status.twist.linear.x -/
def calculateStopDistance (m : Libm R) (v : R) (constraints : DynamicConstraints R) : Double R :=
  if v ≥ 0 then jerkLimitedDistance m v constraints.maxDecelerationRate constraints.maxDeceleration
  else jerkLimitedDistance m v constraints.maxAccelerationRate constraints.maxAcceleration

/-- t³ / 6 · rate at t = a / rate -/
theorem cube_div_mul (a rate : R) (hr : rate ≠ 0) :
    a / rate * (a / rate) * (a / rate) / 6 * rate = a ^ 3 / (6 * rate ^ 2) := by
  linear_combination (a ^ 3 / 6 * rate⁻¹ ^ 2) * inv_mul_cancel₀ hr

/-- the else branch of jerkLimitedDistance with a nonzero rate and limit: t1³ / 6 · rate + (v - limit)² / (2 |limit|) -/
theorem jerkLimitedDistance_braking {m : Libm R} {v rate limit : R} (hr : rate ≠ 0) (hl : limit ≠ 0)
    (h : ¬ (0 ≤ 2 * v ∧ m.sqrt (2 * v) ≤ limit)) :
    jerkLimitedDistance m v rate limit =
      .finite (limit ^ 3 / (6 * rate ^ 2) + (v - limit) ^ 2 / (2 * |limit|)) := by
  rw [jerkLimitedDistance, if_neg fun ⟨h1, _, h3⟩ => h ⟨h1, by rwa [div_mul_cancel₀ _ hr] at h3⟩, if_neg hr]
  dsimp only
  rw [if_neg hl, div_mul_cancel₀ _ hr, cube_div_mul _ _ hr, ← sq]

/-- below the speed where the jerk phase reaches the deceleration limit, the stop distance is (2v)^(3/2) / (6 rate²) -/
theorem calculateStopDistance_jerk_phase {m : Libm R} {v : R} {c : DynamicConstraints R} (hv : 0 ≤ v)
    (hr : 0 < c.maxDecelerationRate) (hd : m.sqrt (2 * v) ≤ c.maxDeceleration) :
    calculateStopDistance m v c = .finite (m.sqrt (2 * v) ^ 3 / (6 * c.maxDecelerationRate ^ 2)) := by
  rw [calculateStopDistance, if_pos hv, jerkLimitedDistance,
    if_pos ⟨by linarith, hr.ne', by rwa [div_mul_cancel₀ _ hr.ne']⟩, cube_div_mul _ _ hr.ne']

/-- past the speed where the jerk phase reaches the deceleration limit D, the stop distance is
D³ / (6 rate²) + (v - D)² / (2 D) -/
theorem calculateStopDistance_braking_phase {m : Libm R} {v : R} {c : DynamicConstraints R} (hv : 0 ≤ v)
    (hr : 0 < c.maxDecelerationRate) (hD : 0 < c.maxDeceleration) (hd : c.maxDeceleration < m.sqrt (2 * v)) :
    calculateStopDistance m v c = .finite (c.maxDeceleration ^ 3 / (6 * c.maxDecelerationRate ^ 2) +
      (v - c.maxDeceleration) ^ 2 / (2 * c.maxDeceleration)) := by
  rw [calculateStopDistance, if_pos hv, jerkLimitedDistance_braking hr.ne' hD.ne' fun h => (not_le.mpr hd) h.2,
    abs_of_pos hD]

/-- moving backward, std::sqrt(2 v) is NaN and the stop distance is the braking formula of the acceleration limits,
A³ / (6 rate²) + (v - A)² / (2 A), whatever the speed -/
theorem calculateStopDistance_backward {m : Libm R} {v : R} {c : DynamicConstraints R} (hv : v < 0)
    (hr : 0 < c.maxAccelerationRate) (hA : 0 < c.maxAcceleration) :
    calculateStopDistance m v c = .finite (c.maxAcceleration ^ 3 / (6 * c.maxAccelerationRate ^ 2) +
      (v - c.maxAcceleration) ^ 2 / (2 * c.maxAcceleration)) := by
  rw [calculateStopDistance, if_neg (not_le.mpr hv), jerkLimitedDistance_braking hr.ne' hA.ne'
    fun h => (not_le.mpr (by linarith)) h.1, abs_of_pos hA]

/-- the stop distance at v = 0.5 with max_deceleration 1 and max_deceleration_rate 10 -/
theorem calculateStopDistance_half :
    calculateStopDistance Libm.real (1 / 2) ⟨0, 0, 1, 10⟩ = .finite (1 / 600) ∧
      (1 / 600 : ℝ) < (1 / 2) ^ 2 / (2 * 1) := by
  have hs : Libm.real.sqrt (2 * (1 / 2)) = 1 := by norm_num [Libm.real]
  refine ⟨?_, by norm_num⟩
  rw [calculateStopDistance_jerk_phase (by norm_num) (by norm_num) (by rw [hs]), hs]
  norm_num

/-! ## Monotonicity in the speed -/

section Lawful

variable {m : Libm R} (hm : m.Lawful)
include hm

/-- with D ≥ 2 the stop distance does not decrease with the speed: the jerk phase grows with v, the jump to the
braking formula at sqrt(2v) = D is upward, and the braking formula grows from v > D²/2 ≥ D on -/
theorem calculateStopDistance_mono {c : DynamicConstraints R} (hr : 0 < c.maxDecelerationRate)
    (hD : 2 ≤ c.maxDeceleration) {v v' : R} (hv : 0 ≤ v) (hvv : v ≤ v') :
    calculateStopDistance m v c ≤ calculateStopDistance m v' c := by
  have hD0 : 0 < c.maxDeceleration := zero_lt_two.trans_le hD
  have hs : m.sqrt (2 * v) ≤ m.sqrt (2 * v') := hm.sqrt_le_sqrt _ _ (mul_le_mul_of_nonneg_left hvv zero_le_two)
  have hv' : 0 ≤ v' := hv.trans hvv
  have hsq : 0 ≤ (v' - c.maxDeceleration) ^ 2 / (2 * c.maxDeceleration) := by positivity
  by_cases h : m.sqrt (2 * v) ≤ c.maxDeceleration
  · rw [calculateStopDistance_jerk_phase hv hr h]
    by_cases h' : m.sqrt (2 * v') ≤ c.maxDeceleration
    · rw [calculateStopDistance_jerk_phase hv' hr h', Double.finite_le_finite]
      gcongr
      exact hm.sqrt_nonneg _
    · rw [calculateStopDistance_braking_phase hv' hr hD0 (not_le.mp h'), Double.finite_le_finite]
      have : m.sqrt (2 * v) ^ 3 ≤ c.maxDeceleration ^ 3 := pow_le_pow_left₀ (hm.sqrt_nonneg _) h 3
      have : m.sqrt (2 * v) ^ 3 / (6 * c.maxDecelerationRate ^ 2) ≤
          c.maxDeceleration ^ 3 / (6 * c.maxDecelerationRate ^ 2) := by gcongr
      linarith
  · have h' : c.maxDeceleration < m.sqrt (2 * v') := (not_le.mp h).trans_le hs
    rw [calculateStopDistance_braking_phase hv hr hD0 (not_le.mp h),
      calculateStopDistance_braking_phase hv' hr hD0 h', Double.finite_le_finite]
    have h2v := hm.mul_self_lt_of_lt_sqrt hD0.le (by linarith) (not_le.mp h)
    have hvD : c.maxDeceleration ≤ v := by linarith [mul_le_mul_of_nonneg_right hD hD0.le]
    gcongr
    linarith

/-- on D²/2 < v < v' ≤ D the stop distance falls: both speeds are past the jerk phase, and the braking term
(v - D)² / (2 D) shrinks as v rises towards D -/
theorem calculateStopDistance_braking_anti {c : DynamicConstraints R} (hr : 0 < c.maxDecelerationRate)
    (hD : 0 < c.maxDeceleration) {v v' : R} (hv : c.maxDeceleration ^ 2 / 2 < v) (hvv : v < v')
    (hv' : v' ≤ c.maxDeceleration) :
    calculateStopDistance m v' c < calculateStopDistance m v c := by
  have hbrake : ∀ u, c.maxDeceleration ^ 2 / 2 < u → c.maxDeceleration < m.sqrt (2 * u) := fun u hu =>
    hm.lt_sqrt (by rw [← sq]; linarith)
  have h0 : 0 ≤ v := le_trans (by positivity) hv.le
  have hsq : (v' - c.maxDeceleration) ^ 2 < (v - c.maxDeceleration) ^ 2 := by
    rw [← sub_pos, show (v - c.maxDeceleration) ^ 2 - (v' - c.maxDeceleration) ^ 2 =
      (v' - v) * (2 * c.maxDeceleration - v - v') by ring]
    exact mul_pos (sub_pos.2 hvv) (by linarith)
  rw [calculateStopDistance_braking_phase (h0.trans hvv.le) hr hD (hbrake v' (hv.trans hvv)),
    calculateStopDistance_braking_phase h0 hr hD (hbrake v hv), Double.finite_lt_finite, add_lt_add_iff_left]
  exact div_lt_div_of_pos_right hsq (by positivity)

/-- with D, rate > 0, the stop distance is monotone in the speed exactly when D ≥ 2; on D²/2 < v < v' ≤ D, an interval
that is not empty exactly when D < 2, it falls -/
theorem calculateStopDistance_monotone_iff {c : DynamicConstraints R} (hr : 0 < c.maxDecelerationRate)
    (hD : 0 < c.maxDeceleration) :
    ((∀ v v', 0 ≤ v → v ≤ v' → calculateStopDistance m v c ≤ calculateStopDistance m v' c) ↔
      2 ≤ c.maxDeceleration) ∧
    ∀ v v', c.maxDeceleration ^ 2 / 2 < v → v < v' → v' ≤ c.maxDeceleration →
      calculateStopDistance m v' c < calculateStopDistance m v c := by
  refine ⟨⟨fun hmono => ?_, fun h2 v v' hv hvv => calculateStopDistance_mono hm hr h2 hv hvv⟩,
    fun v v' => calculateStopDistance_braking_anti hm hr hD⟩
  by_contra hlt
  set D := c.maxDeceleration
  have hD2 : D * D < 2 * D := mul_lt_mul_of_pos_right (not_le.mp hlt) hD
  -- at the midpoint of D²/2 and D the stop distance is above the one at D
  have hlow : D ^ 2 / 2 < D * (D + 2) / 4 := by linarith
  have hhigh : D * (D + 2) / 4 < D := by linarith
  exact Double.lt_irrefl _ (Double.lt_of_lt_of_le (calculateStopDistance_braking_anti hm hr hD hlow hhigh le_rfl)
    (hmono _ _ (by positivity) hhigh.le))

end Lawful

/-- with max_deceleration 1 and max_deceleration_rate 10 the stop distance is not monotone in the speed, and it is
lower at 0.9 than at 0.6 -/
theorem calculateStopDistance_monotone_iff_decel_one :
    (0 : ℝ) < 10 ∧ (0 : ℝ) < 1 ∧
      ((∀ v v' : ℝ, 0 ≤ v → v ≤ v' →
        calculateStopDistance Libm.real v ⟨0, 0, 1, 10⟩ ≤ calculateStopDistance Libm.real v' ⟨0, 0, 1, 10⟩) ↔
        (2 : ℝ) ≤ 1) ∧
      calculateStopDistance Libm.real (9 / 10) ⟨0, 0, 1, 10⟩ < calculateStopDistance Libm.real (3 / 5) ⟨0, 0, 1, 10⟩ :=
  have h := calculateStopDistance_monotone_iff Libm.real_lawful (c := ⟨0, 0, 1, 10⟩) (by norm_num) (by norm_num)
  ⟨by norm_num, by norm_num, h.1, h.2 _ _ (by norm_num) (by norm_num) (by norm_num)⟩

/-! ## The world-frame update -/

/-- geometry_msgs Twist -/
structure Twist (R : Type) where
  linear : Point R
  angular : Point R

/-- geometry_msgs Accel -/
structure Accel (R : Type) where
  linear : Point R
  angular : Point R

/-- geometry_msgs Pose, with the orientation a quaternion of type Q -/
structure Pose (R Q : Type) where
  position : Point R
  orientation : Q

/-- the quaternion_operation functions the update calls (quaternion_operation.h) -/
structure QuaternionOps (R Q : Type) where
  convertEulerAngleToQuaternion : Point R → Q
  rotation : Q → Q → Q
  /-- getRotationMatrix(q), applied to a vector -/
  getRotationMatrix : Q → Point R → Point R

/-- the fields of traffic_simulator_msgs EntityStatus the world-frame update reads or sets (twist and accel are
action_status.twist and action_status.accel) -/
structure EntityStatus (R Q : Type) where
  time : R
  pose : Pose R Q
  twist : Twist R
  accel : Accel R
  laneletPoseValid : Bool

/-- boost::algorithm::clamp(v, lo, hi) -/
def clamp (v lo hi : R) : R := if v < lo then lo else if hi < v then hi else v

/-- the acceleration the update takes toward target_speed from the speed v: the exact one, (target_speed - v) /
step_time, moved one jerk step further (max_deceleration_rate down, max_acceleration_rate up) and clamped to
[-max_deceleration, 0] when slowing, [0, max_acceleration] otherwise -/
def targetAccel (v target_speed step_time : R) (constraints : DynamicConstraints R) : R :=
  let target_accel := (target_speed - v) / step_time
  if v > target_speed then
    clamp (target_accel - step_time * constraints.maxDecelerationRate) (constraints.maxDeceleration * -1) 0
  else clamp (target_accel + step_time * constraints.maxAccelerationRate) 0 constraints.maxAcceleration

/-- ActionNode::calculateEntityStatusUpdatedInWorldFrame(target_speed, constraints), with the node's current_time,
step_time and entity_status -/
def calculateEntityStatusUpdatedInWorldFrame {Q : Type} (q : QuaternionOps R Q) (current_time step_time : R)
    (entity_status : EntityStatus R Q) (target_speed : R) (constraints : DynamicConstraints R) : EntityStatus R Q :=
  let twist := entity_status.twist
  let accel_new : Accel R := ⟨{ entity_status.accel.linear with
    x := targetAccel twist.linear.x target_speed step_time constraints }, entity_status.accel.angular⟩
  let twist_new : Twist R :=
    ⟨⟨twist.linear.x + accel_new.linear.x * step_time, twist.linear.y + accel_new.linear.y * step_time,
        twist.linear.z + accel_new.linear.z * step_time⟩,
      ⟨twist.angular.x + accel_new.angular.x * step_time, twist.angular.y + accel_new.angular.y * step_time,
        twist.angular.z + accel_new.angular.z * step_time⟩⟩
  let angular_trans_quat := q.convertEulerAngleToQuaternion ⟨0, 0, twist_new.angular.z * step_time⟩
  let orientation := q.rotation entity_status.pose.orientation angular_trans_quat
  let trans_vec := q.getRotationMatrix orientation ⟨twist_new.linear.x * step_time, twist_new.linear.y * step_time, 0⟩
  let position : Point R := ⟨trans_vec.x + entity_status.pose.position.x,
    trans_vec.y + entity_status.pose.position.y, trans_vec.z + entity_status.pose.position.z⟩
  ⟨current_time + step_time, ⟨position, orientation⟩, twist_new, accel_new, false⟩

/-- the new speed is the old one plus the target acceleration over one step -/
@[simp] theorem calculateEntityStatusUpdatedInWorldFrame_speed {Q : Type} (q : QuaternionOps R Q)
    (current_time step_time : R) (e : EntityStatus R Q) (target_speed : R) (c : DynamicConstraints R) :
    (calculateEntityStatusUpdatedInWorldFrame q current_time step_time e target_speed c).twist.linear.x =
      e.twist.linear.x + targetAccel e.twist.linear.x target_speed step_time c * step_time := rfl

theorem le_clamp {v lo hi : R} (h : lo ≤ hi) : lo ≤ clamp v lo hi := by
  unfold clamp; split_ifs <;> linarith

theorem clamp_le {v lo hi : R} (h : lo ≤ hi) : clamp v lo hi ≤ hi := by
  unfold clamp; split_ifs <;> linarith

theorem le_clamp_self {v lo hi : R} (h : v ≤ hi) : v ≤ clamp v lo hi := by
  unfold clamp; split_ifs <;> linarith

theorem clamp_le_self {v lo hi : R} (h : lo ≤ v) : clamp v lo hi ≤ v := by
  unfold clamp; split_ifs <;> linarith

/-- the new speed never moves away from target_speed, but passes it by up to step_time² times the jerk limit of its
direction: slowing down it lies in [target_speed - step_time² · max_deceleration_rate, v], speeding up in
[v, target_speed + step_time² · max_acceleration_rate] -/
theorem targetAccel_speed_bounds {v target_speed step_time : R} {c : DynamicConstraints R} (hdt : 0 < step_time)
    (hD : 0 ≤ c.maxDeceleration) (hA : 0 ≤ c.maxAcceleration) (hrd : 0 ≤ c.maxDecelerationRate)
    (hra : 0 ≤ c.maxAccelerationRate) :
    (target_speed < v → target_speed - step_time ^ 2 * c.maxDecelerationRate ≤
        v + targetAccel v target_speed step_time c * step_time ∧
      v + targetAccel v target_speed step_time c * step_time ≤ v) ∧
    (v ≤ target_speed → v ≤ v + targetAccel v target_speed step_time c * step_time ∧
      v + targetAccel v target_speed step_time c * step_time ≤
        target_speed + step_time ^ 2 * c.maxAccelerationRate) := by
  have hdt' := hdt.ne'
  constructor
  · intro h
    rw [targetAccel, if_pos h]
    set x := (target_speed - v) / step_time - step_time * c.maxDecelerationRate
    have hx : x ≤ 0 :=
      sub_nonpos.mpr ((div_neg_of_neg_of_pos (sub_neg.mpr h) hdt).le.trans (mul_nonneg hdt.le hrd))
    have hxdt : x * step_time = target_speed - v - step_time ^ 2 * c.maxDecelerationRate := by
      rw [sub_mul, div_mul_cancel₀ _ hdt']
      ring
    have h1 := mul_le_mul_of_nonneg_right (le_clamp_self hx : x ≤ clamp x (c.maxDeceleration * -1) 0) hdt.le
    have h2 := mul_nonpos_of_nonpos_of_nonneg
      (clamp_le (by linarith) : clamp x (c.maxDeceleration * -1) 0 ≤ 0) hdt.le
    constructor <;> linarith
  · intro h
    rw [targetAccel, if_neg (not_lt.mpr h)]
    set x := (target_speed - v) / step_time + step_time * c.maxAccelerationRate
    have hx : 0 ≤ x := add_nonneg (div_nonneg (sub_nonneg.mpr h) hdt.le) (mul_nonneg hdt.le hra)
    have hxdt : x * step_time = target_speed - v + step_time ^ 2 * c.maxAccelerationRate := by
      rw [add_mul, div_mul_cancel₀ _ hdt']
      ring
    have h1 := mul_le_mul_of_nonneg_right (clamp_le_self hx : clamp x 0 c.maxAcceleration ≤ x) hdt.le
    have h2 := mul_nonneg (le_clamp hA : 0 ≤ clamp x 0 c.maxAcceleration) hdt.le
    constructor <;> linarith

/-- from 1 toward 0 and from 0 toward 1 with one second steps and every limit and rate 1 -/
theorem targetAccel_speed_bounds_unit :
    (0 : ℚ) < 1 ∧ (0 : ℚ) ≤ 1 ∧
      ((0 : ℚ) < 1 → (0 : ℚ) - 1 ^ 2 * 1 ≤ 1 + targetAccel (1 : ℚ) 0 1 ⟨1, 1, 1, 1⟩ * 1 ∧
        1 + targetAccel (1 : ℚ) 0 1 ⟨1, 1, 1, 1⟩ * 1 ≤ 1) ∧
      ((1 : ℚ) ≤ 0 → (1 : ℚ) ≤ 1 + targetAccel (1 : ℚ) 0 1 ⟨1, 1, 1, 1⟩ * 1 ∧
        1 + targetAccel (1 : ℚ) 0 1 ⟨1, 1, 1, 1⟩ * 1 ≤ 0 + 1 ^ 2 * 1) :=
  ⟨by norm_num, by norm_num, targetAccel_speed_bounds (c := ⟨1, 1, 1, 1⟩) (by norm_num) (by norm_num) (by norm_num)
    (by norm_num) (by norm_num)⟩

/-- an entity at rest with target 0, one second steps and every limit and rate 1: the update speeds it up to 1, the
next one brings it back to 0, and so on for every number of steps -/
theorem worldFrame_rest_chatters {Q : Type} (q : QuaternionOps ℝ Q) (e : EntityStatus ℝ Q)
    (he : e.twist.linear.x = 0) (n : ℕ) :
    ((fun s => calculateEntityStatusUpdatedInWorldFrame q s.time 1 s 0 ⟨1, 1, 1, 1⟩)^[2 * n] e).twist.linear.x = 0 ∧
      ((fun s => calculateEntityStatusUpdatedInWorldFrame q s.time 1 s 0 ⟨1, 1, 1, 1⟩)^[2 * n + 1] e).twist.linear.x =
        1 := by
  have up : ∀ s : EntityStatus ℝ Q, s.twist.linear.x = 0 →
      (calculateEntityStatusUpdatedInWorldFrame q s.time 1 s 0 ⟨1, 1, 1, 1⟩).twist.linear.x = 1 := fun s hs => by
    rw [calculateEntityStatusUpdatedInWorldFrame_speed, hs, targetAccel]
    norm_num [clamp]
  have down : ∀ s : EntityStatus ℝ Q, s.twist.linear.x = 1 →
      (calculateEntityStatusUpdatedInWorldFrame q s.time 1 s 0 ⟨1, 1, 1, 1⟩).twist.linear.x = 0 := fun s hs => by
    rw [calculateEntityStatusUpdatedInWorldFrame_speed, hs, targetAccel]
    norm_num [clamp]
  induction n with
  | zero => exact ⟨he, up e he⟩
  | succ n ih =>
    have h0 := down _ ih.2
    rw [← Function.iterate_succ_apply' (fun s => calculateEntityStatusUpdatedInWorldFrame q s.time 1 s 0 _)] at h0
    exact ⟨h0, by rw [Function.iterate_succ_apply']; exact up _ h0⟩

/-- quaternion operations on a single orientation, for runs where only the speed matters -/
def QuaternionOps.trivial : QuaternionOps R Unit := ⟨fun _ => (), fun _ _ => (), fun _ p => p⟩

/-- an entity at rest at the origin at time 0 -/
def EntityStatus.atRest : EntityStatus R Unit :=
  ⟨0, ⟨⟨0, 0, 0⟩, ()⟩, ⟨⟨0, 0, 0⟩, ⟨0, 0, 0⟩⟩, ⟨⟨0, 0, 0⟩, ⟨0, 0, 0⟩⟩, true⟩

theorem worldFrame_rest_chatters_atRest :
    (EntityStatus.atRest : EntityStatus ℝ Unit).twist.linear.x = 0 ∧
      ((fun s => calculateEntityStatusUpdatedInWorldFrame QuaternionOps.trivial s.time 1 s 0 ⟨1, 1, 1, 1⟩)^[2 * 3 + 1]
        (EntityStatus.atRest : EntityStatus ℝ Unit)).twist.linear.x = 1 :=
  ⟨rfl, (worldFrame_rest_chatters QuaternionOps.trivial EntityStatus.atRest rfl 3).2⟩

end ScenarioSimulator.EntityBehavior
