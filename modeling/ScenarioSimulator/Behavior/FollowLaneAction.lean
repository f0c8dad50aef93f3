/-
FollowLaneAction::tick (follow_lane_action.cpp) up to the point where it plans: the request filter and, when the
driver model looks around, the yield checks that compare the distances the action node looks up with
calculateStopDistance() plus a margin. Either check fails the node; past them tick sets its outputs and runs.

- `FollowLaneInput`: what the checks read (the request, driver_model.see_around, the number of right-of-way
  entities, the three optional distances, bounding_box.dimensions.x); `FollowLaneAction.tickWithQueries` makes the
  queries that answer them.
- `FollowLaneAction.yieldCheck s i`: the four checks at stop distance s.
- `FollowLaneAction.tick m v constraints i`: FAILURE or RUNNING, with calculateStopDistance() read as
  calculateStopDistance(constraints) at the entity's speed v (the overload without arguments is declared in
  action_node.hpp), and its doubles compared as C++ compares them (`Double`).

Results:
- `yieldCheck_mono`: a check that fires at a stop distance fires at every larger one.
- `tick_failure_mono`: with max_deceleration ≥ 2 and a positive rate, a tick that fails at a speed v ≥ 0 fails at every
  higher speed with the same distances.
- `followLane_yield_not_monotone`: with max_deceleration 1 and max_deceleration_rate 10 the stop distance at 0.9 is
  below the one at 0.6, and a front entity 9.05 ahead of a 4 m long vehicle fails the tick at 0.6 but not at 0.9.
-/
import ScenarioSimulator.Behavior.ActionNode

namespace ScenarioSimulator.EntityBehavior

open ScenarioSimulator.Geometry

variable {R : Type} [LinearOrderedField R]

/-- BT::NodeStatus, the two results of FollowLaneAction::tick -/
inductive NodeStatus where
  | failure
  | running
deriving DecidableEq, Repr

/-- what FollowLaneAction::tick reads before it plans -/
structure FollowLaneInput (R : Type) where
  request : String
  seeAround : Bool
  rightOfWayEntities : ℕ
  distanceToFrontEntity : Option R
  distanceToStopLine : Option R
  distanceToConflictingEntity : Option R
  boundingBoxLength : R

namespace FollowLaneAction

/-- the checks under driver_model.see_around, each failing the node: a right-of-way entity, the front entity within
stop distance + length + 5, the stop line within stop distance + length / 2 + 5, a conflicting entity closer than
length + stop distance -/
def yieldCheck (stopDistance : Double R) (i : FollowLaneInput R) : Bool :=
  i.rightOfWayEntities ≠ 0 ||
    i.distanceToFrontEntity.any (fun d => .finite d ≤ stopDistance + i.boundingBoxLength + (5 : R)) ||
    i.distanceToStopLine.any (fun d => .finite d ≤ stopDistance + i.boundingBoxLength * 0.5 + (5 : R)) ||
    i.distanceToConflictingEntity.any (fun d => .finite d < i.boundingBoxLength + stopDistance)

/-- FollowLaneAction::tick at the entity's speed v -/
def tick (m : Libm R) (v : R) (constraints : DynamicConstraints R) (i : FollowLaneInput R) : NodeStatus :=
  if i.request ≠ "none" ∧ i.request ≠ "follow_lane" then .failure
  else if i.seeAround ∧ yieldCheck (calculateStopDistance m v constraints) i then .failure
  else .running

theorem option_any_mono {α : Type} {p q : α → Bool} (h : ∀ d, p d = true → q d = true) :
    ∀ o : Option α, o.any p = true → o.any q = true
  | none, h0 => h0
  | some d, h0 => h d h0

/-- a check that fires at a stop distance fires at every larger one -/
theorem yieldCheck_mono {s s' : Double R} (h : s ≤ s') (i : FollowLaneInput R) (hy : yieldCheck s i = true) :
    yieldCheck s' i = true := by
  simp only [yieldCheck, Bool.or_eq_true] at hy ⊢
  refine hy.imp (Or.imp (Or.imp id (option_any_mono ?_ _)) (option_any_mono ?_ _)) (option_any_mono ?_ _) <;>
    intro d hd <;> simp only [decide_eq_true_eq] at hd ⊢
  iterate 2 exact Double.le_trans hd (Double.add_le_add_of_le (Double.add_le_add_of_le h _) _)
  · exact Double.lt_of_lt_of_le hd (Double.add_le_add_of_le' h _)

/-- with max_deceleration ≥ 2, a tick that fails at a speed v ≥ 0 fails at every higher speed -/
theorem tick_failure_mono {m : Libm R} (hm : m.Lawful) {c : DynamicConstraints R} (hr : 0 < c.maxDecelerationRate)
    (hD : 2 ≤ c.maxDeceleration) {v v' : R} (hv : 0 ≤ v) (hvv : v ≤ v') (i : FollowLaneInput R)
    (h : tick m v c i = .failure) : tick m v' c i = .failure := by
  unfold tick at h ⊢
  by_cases h0 : i.request ≠ "none" ∧ i.request ≠ "follow_lane"
  · rw [if_pos h0]
  rw [if_neg h0] at h ⊢
  have h1 : i.seeAround = true ∧ yieldCheck (calculateStopDistance m v c) i = true := by
    by_contra h1
    rw [if_neg h1] at h
    cases h
  rw [if_pos ⟨h1.1, yieldCheck_mono (calculateStopDistance_mono hm hr hD hv hvv) i h1.2⟩]

/-- a front entity 6 ahead of a 4 m long vehicle that looks around, with max_deceleration 2 and rate 1: the tick fails
at rest and so at speed 1 -/
theorem tick_failure_mono_decel_two :
    (0 : ℝ) < 1 ∧ (2 : ℝ) ≤ 2 ∧ (0 : ℝ) ≤ 0 ∧ (0 : ℝ) ≤ 1 ∧
      tick Libm.real 0 ⟨0, 0, 2, 1⟩ (⟨"follow_lane", true, 0, some 6, none, none, 4⟩ : FollowLaneInput ℝ) = .failure ∧
      tick Libm.real 1 ⟨0, 0, 2, 1⟩ (⟨"follow_lane", true, 0, some 6, none, none, 4⟩ : FollowLaneInput ℝ) = .failure :=
  have hreq : ¬ ("follow_lane" ≠ "none" ∧ "follow_lane" ≠ "follow_lane") := by decide
  have hrest : tick Libm.real 0 ⟨0, 0, 2, 1⟩ (⟨"follow_lane", true, 0, some 6, none, none, 4⟩ : FollowLaneInput ℝ) =
      .failure := by
    have hstop : calculateStopDistance Libm.real 0 ⟨0, 0, 2, 1⟩ = .finite 0 := by
      rw [calculateStopDistance_jerk_phase le_rfl (by norm_num) (by simp [Libm.real])]
      simp [Libm.real]
    simp only [tick, hreq, if_false, hstop, yieldCheck]
    norm_num
  ⟨by norm_num, le_rfl, le_rfl, zero_le_one, hrest,
    tick_failure_mono Libm.real_lawful (by norm_num) le_rfl le_rfl zero_le_one _ hrest⟩

end FollowLaneAction

/-- a front entity 9.05 ahead of a 4 m long vehicle that looks around -/
def frontAt : FollowLaneInput R := ⟨"follow_lane", true, 0, some (181 / 20), none, none, 4⟩

/-- with max_deceleration 1 and max_deceleration_rate 10 the stop distance is smaller at 0.9 than at 0.6, and the front
entity of `frontAt` fails the tick at 0.6 only -/
theorem followLane_yield_not_monotone :
    calculateStopDistance Libm.real (9 / 10) ⟨0, 0, 1, 10⟩ < calculateStopDistance Libm.real (3 / 5) ⟨0, 0, 1, 10⟩ ∧
      FollowLaneAction.tick Libm.real (3 / 5) ⟨0, 0, 1, 10⟩ (frontAt : FollowLaneInput ℝ) = .failure ∧
      FollowLaneAction.tick Libm.real (9 / 10) ⟨0, 0, 1, 10⟩ (frontAt : FollowLaneInput ℝ) = .running := by
  have hbrake : ∀ v : ℝ, 1 / 2 < v →
      calculateStopDistance Libm.real v ⟨0, 0, 1, 10⟩ = .finite (1 / 600 + (v - 1) ^ 2 / 2) := fun v hv => by
    rw [calculateStopDistance_braking_phase (m := Libm.real) (v := v) (c := ⟨0, 0, 1, 10⟩) (by linarith)
      (by norm_num) (by norm_num) (Libm.real_lawful.lt_sqrt (by dsimp only; linarith))]
    norm_num
  have hslow := hbrake (3 / 5) (by norm_num)
  have hfast := hbrake (9 / 10) (by norm_num)
  have hreq : ¬ ("follow_lane" ≠ "none" ∧ "follow_lane" ≠ "follow_lane") := by decide
  refine ⟨by rw [hslow, hfast]; norm_num, ?_, ?_⟩
  · simp only [FollowLaneAction.tick, frontAt, hreq, if_false, hslow, FollowLaneAction.yieldCheck]
    norm_num
  · simp only [FollowLaneAction.tick, frontAt, hreq, if_false, hfast, FollowLaneAction.yieldCheck]
    norm_num

end ScenarioSimulator.EntityBehavior
