/-
FollowLaneAction::tick (follow_lane_action.cpp) past the checks of `FollowLaneAction.tick`. On an invalid lanelet pose
it outputs stopAtEndOfRoad() and runs; otherwise it outputs the status calculateEntityStatusUpdated plans at
target_speed (the route's speed limit when the blackboard has none) and the waypoints of calculateWaypoints(): the
spline through the route's centre points, sampled every 1.0 from the entity's s over the horizon ahead, or none at all
when the entity moves backward.

- `RouteMap`: the hdmap_utils queries of the update and the two more tick makes (getCenterPoints, getSpeedLimit).
- `TickError`: what tick throws, the errors of the code it calls or BehaviorTreeRuntimeError.
- `getHorizon`: ActionNode::getHorizon, clamp(5 v, 20, 50), which calculateWaypoints writes out again.
- `FollowLaneAction.calculateWaypoints`, `FollowLaneAction.plan` (tick past its checks) and
  `FollowLaneAction.tickOutput` (the tick with what it sets on its output ports, its checks made on the answers of the
  queries); getTrajectory's loop is given `fuel` rounds as in `Spline.Trajectory`.
- `FollowLaneAction.tickWithQueries`: the tick as one system, making the action node's queries (`EntityQueries`)
  itself, in the order tick makes them and only when it looks around.

Results:
- `tickOutput_no_behaviorTree_error`: tick looks at lanelet_pose_valid before it plans, so the BehaviorTreeRuntimeError
  "failed to assign lane" of calculateWaypoints is never thrown from it.
- `tickOutput_waypoints`: a tick that passes its checks on a valid pose at a speed v ≥ 0, on a route with three centre
  points or more, outputs the planned status and K + 1 waypoints, K = ⌈clamp(5 v, 20, 50)⌉ between 20 and 50: the
  centre line's points at s, s + 1, ..., s + K - 1, then at s + horizon. The count is that of exact arithmetic: in
  doubles the sums s + 1.0 + ... can stop short of s + horizon by a rounding and add a waypoint.
- `tickWithQueries_eq_tickOutput`: the tick with its queries is `tickOutput` on their answers; it throws only what
  getRightOfWayEntities throws, when it looks around on a request it accepts.
- `tickWithQueries_rightOfWay_failure`: looking around, the tick fails whenever another entity's lanelet_id is a
  right-of-way lanelet of a route lanelet, even when that entity's lanelet pose is invalid.
-/
import ScenarioSimulator.Behavior.FollowLaneAction
import ScenarioSimulator.Behavior.EntityQueries
import ScenarioSimulator.Spline.Trajectory

namespace ScenarioSimulator.EntityBehavior

open ScenarioSimulator.Geometry

variable {R Q : Type} [LinearOrderedField R]

/-- the hdmap_utils queries of FollowLaneAction::tick: those of the update, getCenterPoints(route_lanelets) and
getSpeedLimit(route_lanelets) -/
structure RouteMap (R Q : Type) extends HdMap R Q where
  getCenterPoints : List ℤ → List (Point R)
  getSpeedLimit : List ℤ → R

/-- what FollowLaneAction::tick throws: an error of the code it calls, or a BehaviorTreeRuntimeError -/
inductive TickError where
  | call (e : Error)
  | behaviorTree (msg : String)
deriving DecidableEq, Repr

/-- what tick sets on its output ports: updated_status, and waypoints when it plans (obstacle is always
calculateObstacle's boost::none) -/
structure TickOutput (R Q : Type) where
  status : NodeStatus
  updatedStatus : Option (LaneletEntityStatus R Q)
  waypoints : Option (List (Point R))

/-- ActionNode::getHorizon -/
def getHorizon (entity_status : LaneletEntityStatus R Q) : R := clamp (entity_status.twist.linear.x * 5) 20 50

namespace FollowLaneAction

/-- FollowLaneAction::calculateWaypoints, getTrajectory(s, s + horizon, 1.0) on the spline through the route's
centre points (the spline of simulation_api::math is the one of `Spline.Construction`, offset 0) -/
def calculateWaypoints (m : Libm R) (μ : Measure R) (map : RouteMap R Q) (route_lanelets : List ℤ)
    (entity_status : LaneletEntityStatus R Q) (fuel : ℕ) : Option (Except TickError (List (Point R))) :=
  if !entity_status.laneletPoseValid then some (.error (.behaviorTree "failed to assign lane"))
  else if entity_status.twist.linear.x ≥ 0 then
    let horizon := clamp (entity_status.twist.linear.x * 5) 20 50
    match CatmullRomSpline.new μ (map.getCenterPoints route_lanelets) with
    | .error e => some (.error (.call e))
    | .ok spline =>
      (spline.getTrajectory m entity_status.laneletPose.s (entity_status.laneletPose.s + horizon) 1.0 0 fuel).map
        (Except.mapError .call)
  else some (.ok [])

/-- FollowLaneAction::tick past its checks, with the node's target_speed and the constraints its one-argument
calculateEntityStatusUpdated passes on (that overload is declared in action_node.hpp) -/
def plan (m : Libm R) (μ : Measure R) (map : RouteMap R Q) (planner : SpeedPlanner R) (current_time step_time : R)
    (route_lanelets : List ℤ) (entity_status : LaneletEntityStatus R Q) (target_speed : Option R)
    (constraints : DynamicConstraints R) (fuel : ℕ) : Option (Except TickError (TickOutput R Q)) :=
  if !entity_status.laneletPoseValid then
    some (.ok ⟨.running, some (stopAtEndOfRoad current_time step_time entity_status), none⟩)
  else
    match calculateEntityStatusUpdated map.toHdMap planner current_time step_time route_lanelets entity_status
        (target_speed.getD (map.getSpeedLimit route_lanelets)) constraints with
    | .error e => some (.error (.call e))
    | .ok updated_status =>
      (calculateWaypoints m μ map route_lanelets entity_status fuel).map
        (Except.map fun waypoints => ⟨.running, some updated_status, some waypoints⟩)

/-- FollowLaneAction::tick with its outputs: the checks of `tick` at the entity's speed, then `plan` -/
def tickOutput (m : Libm R) (μ : Measure R) (map : RouteMap R Q) (planner : SpeedPlanner R)
    (current_time step_time : R) (route_lanelets : List ℤ) (entity_status : LaneletEntityStatus R Q)
    (target_speed : Option R) (constraints : DynamicConstraints R) (i : FollowLaneInput R) (fuel : ℕ) :
    Option (Except TickError (TickOutput R Q)) :=
  match tick m entity_status.twist.linear.x constraints i with
  | .failure => some (.ok ⟨.failure, none, none⟩)
  | .running =>
    plan m μ map planner current_time step_time route_lanelets entity_status target_speed constraints fuel

/-- FollowLaneAction::tick as one system: the request filter, then under driver_model.see_around the action node's
queries in the order tick makes them, each check failing the node as soon as it fires (the stop line and the
conflicting entity are both looked up before either is checked), then `plan`; request, see_around and
bounding_box.dimensions.x (`length`) are read from the blackboard -/
def tickWithQueries (m : Libm R) (μ : Measure R) (map : RouteMap R Q) (planner : SpeedPlanner R)
    (ctx : QueryContext R Q) (others : EntityMap R Q) (current_time step_time : R) (route_lanelets : List ℤ)
    (entity_status : LaneletEntityStatus R Q) (target_speed : Option R) (constraints : DynamicConstraints R)
    (request : String) (see_around : Bool) (length : R) (fuel : ℕ) : Option (Except TickError (TickOutput R Q)) :=
  let failure : Option (Except TickError (TickOutput R Q)) := some (.ok ⟨.failure, none, none⟩)
  let stop_distance := calculateStopDistance m entity_status.twist.linear.x constraints
  if request ≠ "none" ∧ request ≠ "follow_lane" then failure
  else if see_around then
    match getRightOfWayEntities ctx others route_lanelets with
    | .error e => some (.error (.call e))
    | .ok right_of_way_entities =>
      if right_of_way_entities.length ≠ 0 then failure
      else
        match getDistanceToFrontEntity ctx others entity_status with
        | .error e => some (.error (.call e))
        | .ok distance_to_front_entity =>
          if distance_to_front_entity.any (fun d => .finite d ≤ stop_distance + length + (5 : R)) then failure
          else
            let distance_to_stopline := ctx.getDistanceToStopLine route_lanelets
            let distance_to_conflicting_entity := getDistanceToConflictingEntity ctx others route_lanelets
            if distance_to_stopline.any (fun d => .finite d ≤ stop_distance + length * 0.5 + (5 : R)) then failure
            else if distance_to_conflicting_entity.any (fun d => .finite d < length + stop_distance) then failure
            else plan m μ map planner current_time step_time route_lanelets entity_status target_speed constraints fuel
  else plan m μ map planner current_time step_time route_lanelets entity_status target_speed constraints fuel

section Waypoints

variable {m : Libm R} {μ : Measure R} {map : RouteMap R Q} {route_lanelets : List ℤ}
  {entity_status : LaneletEntityStatus R Q} {fuel : ℕ}

theorem mapError_call_ne {α : Type} {msg : String} :
    ∀ r : Option (Except Error α), r.map (Except.mapError TickError.call) ≠ some (.error (.behaviorTree msg))
  | none => by simp
  | some (.error _) => by simp [Except.mapError]
  | some (.ok _) => by simp [Except.mapError]

/-- on a valid pose, calculateWaypoints throws only what the spline and its trajectory throw -/
theorem calculateWaypoints_ne_behaviorTree (hvalid : entity_status.laneletPoseValid = true) (msg : String) :
    calculateWaypoints m μ map route_lanelets entity_status fuel ≠ some (.error (.behaviorTree msg)) := by
  unfold calculateWaypoints
  simp only [hvalid, Bool.not_true, Bool.false_eq_true, if_false]
  split_ifs
  · split
    · simp
    · exact mapError_call_ne _
  · simp

/-- on a valid pose at a speed v ≥ 0, calculateWaypoints is the trajectory over the horizon -/
theorem calculateWaypoints_forward {sp : CatmullRomSpline R} (hvalid : entity_status.laneletPoseValid = true)
    (hv : 0 ≤ entity_status.twist.linear.x) (hsp : CatmullRomSpline.new μ (map.getCenterPoints route_lanelets) = .ok sp) :
    calculateWaypoints m μ map route_lanelets entity_status fuel =
      (sp.getTrajectory m entity_status.laneletPose.s (entity_status.laneletPose.s + getHorizon entity_status) 1 0
        fuel).map (Except.mapError .call) := by
  simp only [calculateWaypoints, hvalid, Bool.not_true, Bool.false_eq_true, if_false, ge_iff_le, if_pos hv, hsp,
    getHorizon]
  norm_num

/-- a tick past its checks on a valid pose outputs the planned status beside what calculateWaypoints returns -/
theorem plan_valid {planner : SpeedPlanner R} {current_time step_time : R} {target_speed : Option R}
    {constraints : DynamicConstraints R} {updated_status : LaneletEntityStatus R Q}
    (hvalid : entity_status.laneletPoseValid = true)
    (hupd : calculateEntityStatusUpdated map.toHdMap planner current_time step_time route_lanelets entity_status
      (target_speed.getD (map.getSpeedLimit route_lanelets)) constraints = .ok updated_status) :
    plan m μ map planner current_time step_time route_lanelets entity_status target_speed constraints fuel =
      (calculateWaypoints m μ map route_lanelets entity_status fuel).map
        (Except.map fun waypoints => ⟨.running, some updated_status, some waypoints⟩) := by
  simp only [plan, hvalid, Bool.not_true, Bool.false_eq_true, if_false, hupd]

theorem map_map_eq_error {α β : Type} {f : α → β} {e : TickError} :
    ∀ {r : Option (Except TickError α)}, r.map (Except.map f) = some (.error e) → r = some (.error e)
  | some (.error _), h => by simpa [Except.map] using h
  | some (.ok _), h => by simp [Except.map] at h
  | none, h => by simp at h

/-- tick checks lanelet_pose_valid before it plans, so it never throws calculateWaypoints' BehaviorTreeRuntimeError
"failed to assign lane", nor any other BehaviorTreeRuntimeError -/
theorem tickOutput_no_behaviorTree_error (planner : SpeedPlanner R) (current_time step_time : R)
    (target_speed : Option R) (constraints : DynamicConstraints R) (i : FollowLaneInput R) (msg : String) :
    tickOutput m μ map planner current_time step_time route_lanelets entity_status target_speed constraints i fuel ≠
      some (.error (.behaviorTree msg)) := by
  unfold tickOutput
  split
  · simp
  · rw [plan]
    split_ifs with hinvalid
    · simp
    · have hvalid : entity_status.laneletPoseValid = true := by simpa using hinvalid
      split
      · simp
      · exact fun h => calculateWaypoints_ne_behaviorTree hvalid msg (map_map_eq_error h)

theorem getPoint_of_getPointWithOffset_zero {sp : CatmullRomSpline R} (hb : sp.Bookkeeping) (hne : sp.curves ≠ [])
    {s : R} {q : Point R} (h : sp.getPointWithOffset m s 0 = .ok q) : sp.getPoint s = .ok q := by
  obtain ⟨p, n, hp, hn⟩ := CatmullRomSpline.getPoint_ok hb hne s
  rw [CatmullRomSpline.getPointWithOffset_eq hp hn, Except.ok.injEq] at h
  subst h
  simpa [Point.shift] using hp

/-- the horizon lies in [20, 50] -/
theorem getHorizon_mem (entity_status : LaneletEntityStatus R Q) :
    20 ≤ getHorizon entity_status ∧ getHorizon entity_status ≤ 50 :=
  ⟨le_clamp (by norm_num), clamp_le (by norm_num)⟩

variable [FloorRing R]

/-- a tick that passes its checks on a valid pose at a speed v ≥ 0, on a route with three centre points or more,
outputs the planned status and K + 1 waypoints, K = ⌈horizon⌉ ∈ [20, 50]: the centre line at s + k for k < K, then
at s + horizon -/
theorem tickOutput_waypoints {planner : SpeedPlanner R} {current_time step_time : R} {target_speed : Option R}
    {constraints : DynamicConstraints R} {i : FollowLaneInput R} {updated_status : LaneletEntityStatus R Q}
    {sp : CatmullRomSpline R} (hrun : tick m entity_status.twist.linear.x constraints i = .running)
    (hvalid : entity_status.laneletPoseValid = true) (hv : 0 ≤ entity_status.twist.linear.x)
    (hupd : calculateEntityStatusUpdated map.toHdMap planner current_time step_time route_lanelets entity_status
      (target_speed.getD (map.getSpeedLimit route_lanelets)) constraints = .ok updated_status)
    (h3 : 3 ≤ (map.getCenterPoints route_lanelets).length)
    (hsp : CatmullRomSpline.new μ (map.getCenterPoints route_lanelets) = .ok sp) :
    ∃ waypoints, (∀ fuel, ⌈getHorizon entity_status⌉.toNat < fuel →
        tickOutput m μ map planner current_time step_time route_lanelets entity_status target_speed constraints i
          fuel = some (.ok ⟨.running, some updated_status, some waypoints⟩)) ∧
      waypoints.length = ⌈getHorizon entity_status⌉.toNat + 1 ∧
      20 ≤ ⌈getHorizon entity_status⌉.toNat ∧ ⌈getHorizon entity_status⌉.toNat ≤ 50 ∧
      (∀ k < ⌈getHorizon entity_status⌉.toNat,
        ∃ p, sp.getPoint (entity_status.laneletPose.s + k) = .ok p ∧ waypoints[k]? = some p) ∧
      ∃ p, sp.getPoint (entity_status.laneletPose.s + getHorizon entity_status) = .ok p ∧
        waypoints[⌈getHorizon entity_status⌉.toNat]? = some p := by
  set s := entity_status.laneletPose.s
  set h := getHorizon entity_status
  obtain ⟨h20, h50⟩ := getHorizon_mem entity_status
  have h0 : (0 : R) ≤ h := le_trans (by norm_num) h20
  have hK : CatmullRomSpline.sampleCount s (s + h) 1 = ⌈h⌉.toNat := by
    simp [CatmullRomSpline.sampleCount, abs_of_nonneg h0]
  have hat : ∀ k : ℕ, CatmullRomSpline.sampleAt s (s + h) 1 k = s + k := fun k => by
    simp [CatmullRomSpline.sampleAt, h0]
  have hb := CatmullRomSpline.new_bookkeeping hsp
  have hne : sp.curves ≠ [] :=
    List.ne_nil_of_length_pos (by rw [CatmullRomSpline.new_curves_length h3 hsp]; omega)
  obtain ⟨pts, hpts, hlen, hk, q, hq, hlast⟩ :=
    CatmullRomSpline.getTrajectory_samples m μ _ sp h3 hsp s (s + h) 1 0 one_ne_zero
  rw [hK] at hpts hlen hk hlast
  refine ⟨pts, fun fuel hfuel => ?_, hlen, ?_, ?_, fun k hk' => ?_,
    q, getPoint_of_getPointWithOffset_zero hb hne hq, hlast⟩
  · rw [tickOutput, hrun]
    dsimp only
    rw [plan_valid hvalid hupd, calculateWaypoints_forward hvalid hv hsp, hpts fuel hfuel]
    rfl
  · have : (20 : ℤ) ≤ ⌈h⌉ := by simpa using Int.ceil_mono h20
    omega
  · exact Int.toNat_le.mpr (Int.ceil_le.mpr (by exact_mod_cast h50))
  · obtain ⟨-, -, p, hp, hpk⟩ := hk k hk'
    rw [hat] at hp
    exact ⟨p, getPoint_of_getPointWithOffset_zero hb hne hp, hpk⟩

end Waypoints

/-- one lanelet, 10 long, with no neighbours, whose centre line runs through `CatmullRomSpline.threePoints` and whose speed limit
is 4 -/
def straightRoad : RouteMap R Unit where
  getLaneletLength _ := 10
  getPreviousLaneletIds _ := []
  getNextLaneletIds _ := []
  toMapPose _ := ⟨0, ()⟩
  getCenterPoints _ := CatmullRomSpline.threePoints
  getSpeedLimit _ := 4

/-- a planner that keeps the current twist -/
def keepTwist : SpeedPlanner R := ⟨fun _ _ _ _ => 0, fun _ a _ => a, fun _ t _ => t, fun _ _ => ⟨0, 0⟩, fun _ _ => 0⟩

/-- an entity at rest at the start of lanelet 1, its lanelet pose valid -/
def atRouteStart : LaneletEntityStatus R Unit := ⟨0, ⟨0, ()⟩, ⟨0, 0⟩, ⟨0, 0⟩, 0, ⟨1, 0, 0, 0⟩, true⟩

/-- a follow_lane request from a driver model that does not look around -/
def followBlind : FollowLaneInput R := ⟨"follow_lane", false, 0, none, none, none, 4⟩

theorem tickOutput_waypoints_straightRoad :
    ∃ sp, CatmullRomSpline.new (Measure.chords Libm.real Libm.real_lawful 1 Nat.one_pos) CatmullRomSpline.threePoints = .ok sp ∧
      ∃ waypoints, (∀ fuel, ⌈getHorizon (atRouteStart : LaneletEntityStatus ℝ Unit)⌉.toNat < fuel →
        tickOutput Libm.real (Measure.chords Libm.real Libm.real_lawful 1 Nat.one_pos) straightRoad keepTwist 0 1 [1]
          atRouteStart none ⟨1, 1, 1, 1⟩ followBlind fuel =
            some (.ok ⟨.running, some (entityStatusUpdated straightRoad.toHdMap 0 1 atRouteStart ⟨⟨0, 0⟩, ⟨0, 0⟩, 0⟩ 1 0),
              some waypoints⟩)) ∧
        waypoints.length = ⌈getHorizon (atRouteStart : LaneletEntityStatus ℝ Unit)⌉.toNat + 1 := by
  obtain ⟨curves, -, -, -, -, hnew⟩ := CatmullRomSpline.new_eq_ofCurves
    (Measure.chords Libm.real Libm.real_lawful 1 Nat.one_pos) (show 3 ≤ (CatmullRomSpline.threePoints : List (Point ℝ)).length by decide)
  have hupd : calculateEntityStatusUpdated (straightRoad : RouteMap ℝ Unit).toHdMap keepTwist 0 1 [1] atRouteStart
      ((none : Option ℝ).getD 4) ⟨1, 1, 1, 1⟩ =
        .ok (entityStatusUpdated straightRoad.toHdMap 0 1 atRouteStart ⟨⟨0, 0⟩, ⟨0, 0⟩, 0⟩ 1 0) := by
    norm_num [calculateEntityStatusUpdated, moveAlongLanelets, planDynamicState, newS, routeLoop, keepTwist,
      atRouteStart, straightRoad]
  obtain ⟨waypoints, hout, hlen, -⟩ := tickOutput_waypoints (i := followBlind) rfl rfl le_rfl hupd
    (show 3 ≤ (CatmullRomSpline.threePoints : List (Point ℝ)).length by decide) hnew
  exact ⟨_, hnew, waypoints, hout, hlen⟩

/-! ## The tick with its queries -/

section Queries

variable (m : Libm R) (μ : Measure R) (map : RouteMap R Q) (planner : SpeedPlanner R) (ctx : QueryContext R Q)
  (others : EntityMap R Q) (current_time step_time : R) (route_lanelets : List ℤ)
  (entity_status : LaneletEntityStatus R Q) (target_speed : Option R) (constraints : DynamicConstraints R)
  (request : String) (see_around : Bool) (length : R) (fuel : ℕ)

/-- the tick with its queries is `tickOutput` on their answers: getDistanceToFrontEntity always answers, with the least
distance among the entities ahead, so the tick throws only what getRightOfWayEntities throws, and only when it looks
around on a request it accepts -/
theorem tickWithQueries_eq_tickOutput :
    (∀ row, (¬(request ≠ "none" ∧ request ≠ "follow_lane") → see_around = true →
        getRightOfWayEntities ctx others route_lanelets = .ok row) →
      tickWithQueries m μ map planner ctx others current_time step_time route_lanelets entity_status target_speed
          constraints request see_around length fuel =
        tickOutput m μ map planner current_time step_time route_lanelets entity_status target_speed constraints
          ⟨request, see_around, row.length,
            (others.entries.filterMap fun each => frontDistance ctx entity_status each.2).min?,
            ctx.getDistanceToStopLine route_lanelets, getDistanceToConflictingEntity ctx others route_lanelets,
            length⟩ fuel) ∧
    ∀ e, ¬(request ≠ "none" ∧ request ≠ "follow_lane") → see_around = true →
      getRightOfWayEntities ctx others route_lanelets = .error e →
      tickWithQueries m μ map planner ctx others current_time step_time route_lanelets entity_status target_speed
        constraints request see_around length fuel = some (.error (.call e)) := by
  refine ⟨fun row hrow => ?_, fun e hreq hsee he => by simp only [tickWithQueries, if_neg hreq, hsee, he, if_true]⟩
  unfold tickWithQueries tickOutput tick
  by_cases hreq : request ≠ "none" ∧ request ≠ "follow_lane"
  · simp only [if_pos hreq]
  cases hsee : see_around
  · simp only [if_neg hreq, Bool.false_eq_true, false_and, if_false]
  simp only [if_neg hreq, if_true, true_and, hrow hreq hsee, getDistanceToFrontEntity_ok, yieldCheck,
    Bool.or_eq_true, ite_or, ne_eq, decide_eq_true_eq]
  split_ifs <;> rfl

/-- looking around on a request it accepts, the tick fails whenever another entity stands, by its lanelet_id, on a
right-of-way lanelet of a route lanelet, whether its lanelet pose is valid or not -/
theorem tickWithQueries_rightOfWay_failure {ids : ℤ → List ℤ}
    (hreq : ¬(request ≠ "none" ∧ request ≠ "follow_lane")) (hsee : see_around = true)
    (hkeys : ∀ l ∈ route_lanelets, ctx.getRightOfWayLaneletIdsMap route_lanelets l = some (ids l))
    (hon : ∃ each ∈ others.entries, ∃ l ∈ route_lanelets, each.2.laneletPose.laneletId ∈ ids l) :
    tickWithQueries m μ map planner ctx others current_time step_time route_lanelets entity_status target_speed
      constraints request see_around length fuel = some (.ok ⟨.failure, none, none⟩) := by
  have hne : (others.entries.flatMap fun status => route_lanelets.flatMap fun l =>
      List.replicate ((ids l).count status.2.laneletPose.laneletId) status.2).length ≠ 0 := by
    obtain ⟨each, heach, l, hl, hid⟩ := hon
    simp only [ne_eq, List.length_eq_zero, List.flatMap_eq_nil_iff, List.replicate_eq_nil_iff, List.count_eq_zero,
      not_forall, not_not]
    exact ⟨each, heach, l, hl, hid⟩
  simp only [tickWithQueries, if_neg hreq, hsee, if_true, getRightOfWayEntities_eq hkeys, if_pos hne]

end Queries

/-- the world of `rightOfWayContext`, with one entity on lanelet 5 whose lanelet pose is invalid -/
theorem tickWithQueries_rightOfWay_failure_stale :
    (¬("follow_lane" ≠ "none" ∧ "follow_lane" ≠ "follow_lane")) ∧ true = true ∧
      (∀ l ∈ ([1] : List ℤ), (rightOfWayContext : QueryContext ℝ Unit).getRightOfWayLaneletIdsMap [1] l = some [5]) ∧
      (∃ each ∈ (staleEntityOn 5 : EntityMap ℝ Unit).entries, ∃ l ∈ ([1] : List ℤ),
        each.2.laneletPose.laneletId ∈ ([5] : List ℤ)) ∧
      tickWithQueries Libm.real (Measure.chords Libm.real Libm.real_lawful 1 Nat.one_pos) straightRoad keepTwist
        rightOfWayContext (staleEntityOn 5) 0 1 [1] atRouteStart none ⟨1, 1, 1, 1⟩ "follow_lane" true 4 0 =
          some (.ok ⟨.failure, none, none⟩) :=
  have hreq : ¬("follow_lane" ≠ "none" ∧ "follow_lane" ≠ "follow_lane") := by decide
  have hkeys : ∀ l ∈ ([1] : List ℤ),
      (rightOfWayContext : QueryContext ℝ Unit).getRightOfWayLaneletIdsMap [1] l = some ((fun _ => [5]) l) :=
    fun _ _ => rfl
  have hon : ∃ each ∈ (staleEntityOn 5 : EntityMap ℝ Unit).entries, ∃ l ∈ ([1] : List ℤ),
      each.2.laneletPose.laneletId ∈ (fun _ => ([5] : List ℤ)) l :=
    ⟨_, List.mem_singleton_self _, 1, List.mem_singleton_self _, List.mem_singleton_self _⟩
  ⟨hreq, rfl, hkeys, hon, tickWithQueries_rightOfWay_failure _ _ _ _ _ _ _ _ _ _ _ _ _ _ 4 0 hreq rfl hkeys hon⟩

end FollowLaneAction

end ScenarioSimulator.EntityBehavior
