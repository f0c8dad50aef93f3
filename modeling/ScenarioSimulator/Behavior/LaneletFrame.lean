/-
The lanelet-frame update of the action node (action_node.cpp: ActionNode::calculateEntityStatusUpdated, which
FollowLaneAction::tick runs while the entity's lanelet pose is valid, and ActionNode::stopAtEndOfRoad). The entity
stands at (lanelet_id, s) on the map; one update plans its twist toward target_speed, moves s by the trapezoid
(v_new + v) / 2 · step_time and carries what passes the lanelet's length into the next lanelet of route_lanelets, or
what falls below 0 back into the first previous lanelet of the map.

- `HdMap`, `SpeedPlanner`: the map queries and the planning functions (the members LongitudinalSpeedPlanner declares
  in longitudinal_speed_planning.hpp) the update calls, parameters of the model.
- `routeLoop`: the for loop over route_lanelets, ending in a `RouteLoopEnd`.
- `calculateEntityStatusUpdated`: the update, an `Except Error` for its throw; previous_lanelet_ids[0] of an empty
  vector is `Error.outOfRange`.
- `routeDistance map route p`: the abstract position, the lengths of the route's lanelets before p's lanelet plus s.

Results:
- `routeLoop_append_of_not_mem`, `routeLoop_stay`: what the loop returns, by where the entity's lanelet first stands
  in the route.
- `calculateEntityStatusUpdated_forward`: on a route without repeats, an update that neither backs over the start of
  the lanelet nor runs past the end of the route succeeds, keeps the entity on the route and moves its route distance
  by exactly (v_new + v) / 2 · step_time.
- `routeDistance_run`: over every run of such updates the route distance grows by the trapezoid sum of the speeds:
  the lanelet frame refines motion along one line.
- `calculateEntityStatusUpdated_backward`: backing over the start of a lanelet into its predecessor on the route
  loses 0.01 of route distance.
- `deadEnd_run`: on the last lanelet of a route with no next lanelet, no run of updates that do not back up takes s
  past the lanelet's length; the overshooting update is stopAtEndOfRoad(), which zeroes the speed and keeps s.
- `calculateEntityStatusUpdated_leaves_route`: past the end of a route whose last lanelet has a next lanelet off the
  route, the entity moves onto it, and from there every update that does not back up throws.
-/
import ScenarioSimulator.Behavior.ActionNode
import ScenarioSimulator.Spline.Construction

namespace ScenarioSimulator.EntityBehavior

open ScenarioSimulator.Geometry

variable {R Q : Type} [LinearOrderedField R]

/-! ## The update -/

/-- traffic_simulator_msgs LaneletPose -/
structure LaneletPose (R : Type) where
  laneletId : ℤ
  s : R
  offset : R
  rpy : Point R

/-- the fields of traffic_simulator_msgs EntityStatus the lanelet-frame update and the node's queries read or set
(twist, accel and linear_jerk are those of action_status) -/
structure LaneletEntityStatus (R Q : Type) where
  time : R
  pose : Pose R Q
  twist : Twist R
  accel : Accel R
  linearJerk : R
  laneletPose : LaneletPose R
  laneletPoseValid : Bool

/-- the hdmap_utils::HdMapUtils queries of the update (hdmap_utils.hpp) -/
structure HdMap (R Q : Type) where
  getLaneletLength : ℤ → R
  getPreviousLaneletIds : ℤ → List ℤ
  getNextLaneletIds : ℤ → List ℤ
  /-- toMapPose(lanelet_pose).pose -/
  toMapPose : LaneletPose R → Pose R Q

/-- the planning members of longitudinal_speed_planning::LongitudinalSpeedPlanner, which the update calls under the
same names on the node; longitudinal_speed_planning.hpp declares them -/
structure SpeedPlanner (R : Type) where
  /-- planLinearJerk(target_speed, constraints, current_twist, current_accel) -/
  planLinearJerk : R → DynamicConstraints R → Twist R → Accel R → R
  planAccel : R → Accel R → DynamicConstraints R → Accel R
  planTwist : Accel R → Twist R → DynamicConstraints R → Twist R
  /-- timeDerivative(before, after) of two twists -/
  twistDerivative : Twist R → Twist R → Accel R
  /-- timeDerivative(before, after) of two accelerations -/
  accelDerivative : Accel R → Accel R → R

/-- the twist, acceleration and linear jerk an update plans -/
structure DynamicState (R : Type) where
  twist : Twist R
  accel : Accel R
  linearJerk : R

/-- the first five lines of calculateEntityStatusUpdated: jerk, acceleration and twist planned toward target_speed
from the current twist and acceleration, then the acceleration and the jerk taken again as time derivatives -/
def planDynamicState (planner : SpeedPlanner R) (target_speed : R) (constraints : DynamicConstraints R)
    (twist : Twist R) (accel : Accel R) : DynamicState R :=
  let linear_jerk_new := planner.planLinearJerk target_speed constraints twist accel
  let accel_new := planner.planAccel linear_jerk_new accel constraints
  let twist_new := planner.planTwist accel_new twist constraints
  let accel_new := planner.twistDerivative twist_new twist
  ⟨twist_new, accel_new, planner.accelDerivative accel_new accel⟩

/-- ActionNode::stopAtEndOfRoad: the status one step later with zero twist and acceleration; the lanelet pose, the
map pose and the linear jerk stay -/
def stopAtEndOfRoad (current_time step_time : R) (entity_status : LaneletEntityStatus R Q) :
    LaneletEntityStatus R Q :=
  { entity_status with time := current_time + step_time, twist := ⟨0, 0⟩, accel := ⟨0, 0⟩ }

/-- how the for loop over route_lanelets ends: by returning stopAtEndOfRoad(), or with calculation_success,
new_lanelet_id and new_s after a break or its last index -/
inductive RouteLoopEnd (R : Type) where
  | stopAtEndOfRoad
  | finished (calculation_success : Bool) (new_lanelet_id : ℤ) (new_s : R)

/-- the for loop of calculateEntityStatusUpdated from index i on (rest = route_lanelets[i:]), for the entity's
lanelet_id: where route_lanelets[i] is lanelet_id it sets calculation_success, and if new_s passes the lanelet's
length it breaks to route_lanelets[i + 1], the head of the rest, or, at the last index, to the first next lanelet of
the map, returning stopAtEndOfRoad() when there is none -/
def routeLoop (map : HdMap R Q) (lanelet_id : ℤ) : List ℤ → Bool → ℤ → R → RouteLoopEnd R
  | [], calculation_success, new_lanelet_id, new_s => .finished calculation_success new_lanelet_id new_s
  | r :: rest, calculation_success, new_lanelet_id, new_s =>
    if r = lanelet_id then
      if map.getLaneletLength lanelet_id < new_s then
        match rest, map.getNextLaneletIds r with
        | r' :: _, _ => .finished true r' (new_s - map.getLaneletLength lanelet_id)
        | [], [] => .stopAtEndOfRoad
        | [], n :: _ => .finished true n (new_s - map.getLaneletLength lanelet_id)
      else routeLoop map lanelet_id rest true new_lanelet_id new_s
    else routeLoop map lanelet_id rest calculation_success new_lanelet_id new_s

/-- the EntityStatus the update fills at (new_lanelet_id, new_s): one step later, offset and rpy kept, the map pose of
the new lanelet pose and the planned state; lanelet_pose_valid keeps its default, false -/
def entityStatusUpdated (map : HdMap R Q) (current_time step_time : R) (entity_status : LaneletEntityStatus R Q)
    (state : DynamicState R) (new_lanelet_id : ℤ) (new_s : R) : LaneletEntityStatus R Q :=
  let lanelet_pose : LaneletPose R :=
    ⟨new_lanelet_id, new_s, entity_status.laneletPose.offset, entity_status.laneletPose.rpy⟩
  ⟨current_time + step_time, map.toMapPose lanelet_pose, state.twist, state.accel, state.linearJerk, lanelet_pose,
    false⟩

/-- new_s before the update looks at lanelet lengths: s moved by the trapezoid (v_new + v) / 2 · step_time -/
def newS (step_time : R) (entity_status : LaneletEntityStatus R Q) (twist_new : Twist R) : R :=
  entity_status.laneletPose.s + (twist_new.linear.x + entity_status.twist.linear.x) / 2 * step_time

/-- calculateEntityStatusUpdated from new_s on, for the planned state: below 0 the entity moves back onto the first
previous lanelet of the map, otherwise the loop over route_lanelets places it -/
def moveAlongLanelets (map : HdMap R Q) (current_time step_time : R) (route_lanelets : List ℤ)
    (entity_status : LaneletEntityStatus R Q) (state : DynamicState R) : Except Error (LaneletEntityStatus R Q) :=
  let lanelet_id := entity_status.laneletPose.laneletId
  let new_s := newS step_time entity_status state.twist
  if new_s < 0 then
    match map.getPreviousLaneletIds lanelet_id with
    | [] => .error .outOfRange
    | new_lanelet_id :: _ =>
      .ok (entityStatusUpdated map current_time step_time entity_status state new_lanelet_id
        (new_s + map.getLaneletLength new_lanelet_id - 0.01))
  else
    match routeLoop map lanelet_id route_lanelets false lanelet_id new_s with
    | .stopAtEndOfRoad => .ok (stopAtEndOfRoad current_time step_time entity_status)
    | .finished false _ _ =>
      .error (.simulation "failed to calculate next status calculateEntityStatusUpdated function")
    | .finished true new_lanelet_id new_s =>
      .ok (entityStatusUpdated map current_time step_time entity_status state new_lanelet_id new_s)

@[simp] theorem stopAtEndOfRoad_laneletPose (current_time step_time : R) (e : LaneletEntityStatus R Q) :
    (stopAtEndOfRoad current_time step_time e).laneletPose = e.laneletPose := rfl

@[simp] theorem stopAtEndOfRoad_twist (current_time step_time : R) (e : LaneletEntityStatus R Q) :
    (stopAtEndOfRoad current_time step_time e).twist = ⟨0, 0⟩ := rfl

@[simp] theorem entityStatusUpdated_laneletPose (map : HdMap R Q) (current_time step_time : R)
    (e : LaneletEntityStatus R Q) (state : DynamicState R) (new_lanelet_id : ℤ) (new_s : R) :
    (entityStatusUpdated map current_time step_time e state new_lanelet_id new_s).laneletPose =
      ⟨new_lanelet_id, new_s, e.laneletPose.offset, e.laneletPose.rpy⟩ := rfl

@[simp] theorem entityStatusUpdated_twist (map : HdMap R Q) (current_time step_time : R)
    (e : LaneletEntityStatus R Q) (state : DynamicState R) (new_lanelet_id : ℤ) (new_s : R) :
    (entityStatusUpdated map current_time step_time e state new_lanelet_id new_s).twist = state.twist := rfl

/-- ActionNode::calculateEntityStatusUpdated(target_speed, constraints), with the node's hdmap_utils, current_time,
step_time, route_lanelets and entity_status -/
def calculateEntityStatusUpdated (map : HdMap R Q) (planner : SpeedPlanner R) (current_time step_time : R)
    (route_lanelets : List ℤ) (entity_status : LaneletEntityStatus R Q) (target_speed : R)
    (constraints : DynamicConstraints R) : Except Error (LaneletEntityStatus R Q) :=
  moveAlongLanelets map current_time step_time route_lanelets entity_status
    (planDynamicState planner target_speed constraints entity_status.twist entity_status.accel)

/-- the position along route_lanelets: the lengths of the route's lanelets before the pose's lanelet, plus s -/
def routeDistance (map : HdMap R Q) (route_lanelets : List ℤ) (lanelet_pose : LaneletPose R) : R :=
  ((route_lanelets.takeWhile (fun l => l != lanelet_pose.laneletId)).map map.getLaneletLength).sum + lanelet_pose.s

/-- lanelets each 10 long, l + 1 following l except that 2 has no next lanelet, 1 preceding 2; every map pose is the
origin -/
def twoLanelets : HdMap ℚ Unit :=
  ⟨fun _ => 10, fun l => if l = 2 then [1] else [], fun l => if l = 2 then [] else [l + 1], fun _ => ⟨0, ()⟩⟩

/-- a planner whose twist is v forward, with zero acceleration and jerk -/
def constantTwist (v : ℚ) : SpeedPlanner ℚ :=
  ⟨fun _ _ _ _ => 0, fun _ a _ => a, fun _ _ _ => ⟨⟨v, 0, 0⟩, 0⟩, fun _ _ => ⟨0, 0⟩, fun _ _ => 0⟩

/-- unit limits and rates -/
def unitConstraints : DynamicConstraints ℚ := ⟨1, 1, 1, 1⟩

/-- an entity at rest at s on lanelet l, its lanelet pose valid -/
def restingAt (l : ℤ) (s : ℚ) : LaneletEntityStatus ℚ Unit := ⟨0, ⟨0, ()⟩, ⟨0, 0⟩, ⟨0, 0⟩, 0, ⟨l, s, 0, 0⟩, true⟩

/-- `restingAt 1 9` after one update at speed 4 over step_time 1: on lanelet 2, at 9 + 2 - 10 -/
def crossedOnce : LaneletEntityStatus ℚ Unit :=
  entityStatusUpdated twoLanelets 0 1 (restingAt 1 9) ⟨⟨⟨4, 0, 0⟩, 0⟩, ⟨0, 0⟩, 0⟩ 2
    (newS 1 (restingAt 1 9) ⟨⟨4, 0, 0⟩, 0⟩ - 10)

/-! ## The loop over the route -/

section Loop

variable {map : HdMap R Q} {lanelet_id : ℤ}

/-- the loop passes over route lanelets other than the entity's without a change -/
theorem routeLoop_append_of_not_mem {pre : List ℤ} (h : lanelet_id ∉ pre) (rest : List ℤ) (b : Bool) (n : ℤ)
    (new_s : R) : routeLoop map lanelet_id (pre ++ rest) b n new_s = routeLoop map lanelet_id rest b n new_s := by
  induction pre with
  | nil => rfl
  | cons r pre ih =>
    rw [List.mem_cons, not_or] at h
    rw [List.cons_append]
    simp only [routeLoop, if_neg (Ne.symm h.1)]
    exact ih h.2

/-- where new_s does not pass the lanelet's length the loop runs to the end and succeeds when it met the lanelet -/
theorem routeLoop_stay {new_s : R} (h : ¬ map.getLaneletLength lanelet_id < new_s) :
    ∀ (rest : List ℤ) (b : Bool) (n : ℤ),
      routeLoop map lanelet_id rest b n new_s = .finished (b || decide (lanelet_id ∈ rest)) n new_s
  | [], b, n => by simp [routeLoop]
  | r :: rest, b, n => by
    by_cases hr : r = lanelet_id
    · simp [routeLoop, hr, h, routeLoop_stay h rest]
    · simp [routeLoop, hr, routeLoop_stay h rest, Ne.symm hr]

end Loop

/-- in a route without repeats no lanelet stands before its own place -/
theorem not_mem_of_nodup_split {route pre post : List ℤ} {x : ℤ} (h : route.Nodup) (hroute : route = pre ++ x :: post) :
    x ∉ pre :=
  fun hx => List.disjoint_of_nodup_append (hroute ▸ h) hx (List.mem_cons_self x post)

/-! ## What one update does -/

section Update

variable {map : HdMap R Q} {current_time step_time : R} {route_lanelets : List ℤ} {e : LaneletEntityStatus R Q}
  {st : DynamicState R}

/-- below 0 the entity moves back onto the first previous lanelet, at its length less 0.01 plus new_s -/
theorem moveAlongLanelets_back {p : ℤ} {ps : List ℤ} (hs : newS step_time e st.twist < 0)
    (hp : map.getPreviousLaneletIds e.laneletPose.laneletId = p :: ps) :
    moveAlongLanelets map current_time step_time route_lanelets e st = .ok (entityStatusUpdated map current_time
      step_time e st p (newS step_time e st.twist + map.getLaneletLength p - 0.01)) := by
  simp only [moveAlongLanelets, if_pos hs, hp]

/-- short of the lanelet's length the entity stays on its lanelet, provided the route holds it -/
theorem moveAlongLanelets_within (h0 : 0 ≤ newS step_time e st.twist)
    (hL : newS step_time e st.twist ≤ map.getLaneletLength e.laneletPose.laneletId)
    (hmem : e.laneletPose.laneletId ∈ route_lanelets) :
    moveAlongLanelets map current_time step_time route_lanelets e st = .ok (entityStatusUpdated map current_time
      step_time e st e.laneletPose.laneletId (newS step_time e st.twist)) := by
  simp only [moveAlongLanelets, if_neg (not_lt.2 h0), routeLoop_stay (not_lt.2 hL), hmem, decide_True,
    Bool.or_true]

section Past

variable {pre : List ℤ} (hpre : e.laneletPose.laneletId ∉ pre) (h0 : 0 ≤ newS step_time e st.twist)
  (hL : map.getLaneletLength e.laneletPose.laneletId < newS step_time e st.twist)
include hpre h0 hL

/-- past the lanelet's length the entity moves onto the route lanelet after the first place of its own -/
theorem moveAlongLanelets_cross {post : List ℤ} {r : ℤ}
    (hroute : route_lanelets = pre ++ e.laneletPose.laneletId :: r :: post) :
    moveAlongLanelets map current_time step_time route_lanelets e st = .ok (entityStatusUpdated map current_time
      step_time e st r (newS step_time e st.twist - map.getLaneletLength e.laneletPose.laneletId)) := by
  simp only [moveAlongLanelets, if_neg (not_lt.2 h0), hroute, routeLoop_append_of_not_mem hpre, routeLoop,
    if_true, if_pos hL]

/-- past the length of the route's last lanelet, with no next lanelet on the map, the update is stopAtEndOfRoad() -/
theorem moveAlongLanelets_end_stop (hroute : route_lanelets = pre ++ [e.laneletPose.laneletId])
    (hn : map.getNextLaneletIds e.laneletPose.laneletId = []) :
    moveAlongLanelets map current_time step_time route_lanelets e st =
      .ok (stopAtEndOfRoad current_time step_time e) := by
  simp only [moveAlongLanelets, if_neg (not_lt.2 h0), hroute, routeLoop_append_of_not_mem hpre, routeLoop,
    if_true, if_pos hL, hn]

/-- past the length of the route's last lanelet the entity moves onto the first next lanelet of the map -/
theorem moveAlongLanelets_end_next {n : ℤ} {ns : List ℤ} (hroute : route_lanelets = pre ++ [e.laneletPose.laneletId])
    (hn : map.getNextLaneletIds e.laneletPose.laneletId = n :: ns) :
    moveAlongLanelets map current_time step_time route_lanelets e st = .ok (entityStatusUpdated map current_time
      step_time e st n (newS step_time e st.twist - map.getLaneletLength e.laneletPose.laneletId)) := by
  simp only [moveAlongLanelets, if_neg (not_lt.2 h0), hroute, routeLoop_append_of_not_mem hpre, routeLoop,
    if_true, if_pos hL, hn]

end Past

/-- from a lanelet off the route an update that does not back up throws -/
theorem moveAlongLanelets_off_route (hmem : e.laneletPose.laneletId ∉ route_lanelets)
    (h0 : 0 ≤ newS step_time e st.twist) : moveAlongLanelets map current_time step_time route_lanelets e st =
      .error (.simulation "failed to calculate next status calculateEntityStatusUpdated function") := by
  have hloop : routeLoop map _ (route_lanelets ++ []) false _ _ = _ :=
    routeLoop_append_of_not_mem hmem [] false e.laneletPose.laneletId (newS step_time e st.twist)
  rw [List.append_nil] at hloop
  simp only [moveAlongLanelets, if_neg (not_lt.2 h0), hloop, routeLoop]

/-- the route distance of a lanelet pose whose lanelet first stands in the route after pre -/
theorem routeDistance_eq {pre post : List ℤ} {p : LaneletPose R} (hpre : p.laneletId ∉ pre)
    (hroute : route_lanelets = pre ++ p.laneletId :: post) :
    routeDistance map route_lanelets p = (pre.map map.getLaneletLength).sum + p.s := by
  rw [routeDistance, hroute, List.takeWhile_append_of_pos (fun a ha => by simpa using ne_of_mem_of_not_mem ha hpre),
    List.takeWhile_cons_of_neg (by simp), List.append_nil]

end Update

/-! ## Refinement of motion along the route -/

/-- the planned twist neither takes new_s below 0 nor past the length of the route's last lanelet -/
def Forward (map : HdMap R Q) (route_lanelets : List ℤ) (step_time : R) (e : LaneletEntityStatus R Q)
    (twist_new : Twist R) : Prop :=
  0 ≤ newS step_time e twist_new ∧
    (newS step_time e twist_new ≤ map.getLaneletLength e.laneletPose.laneletId ∨
      route_lanelets.getLast? ≠ some e.laneletPose.laneletId)

/-- e' is an update of e, for some planner, time, target speed and constraints, whose planned twist is `Forward` -/
def RouteStep (map : HdMap R Q) (route_lanelets : List ℤ) (step_time : R) (e e' : LaneletEntityStatus R Q) : Prop :=
  ∃ planner current_time target_speed constraints,
    Forward map route_lanelets step_time e (planDynamicState planner target_speed constraints e.twist e.accel).twist ∧
      calculateEntityStatusUpdated map planner current_time step_time route_lanelets e target_speed constraints =
        .ok e'

/-- the distance the trapezoid rule gives over a run of statuses, (v_(k+1) + v_k) / 2 · step_time summed over each
consecutive pair -/
def trapezoidSum (step_time : R) : List (LaneletEntityStatus R Q) → R
  | e :: e' :: rest => (e'.twist.linear.x + e.twist.linear.x) / 2 * step_time + trapezoidSum step_time (e' :: rest)
  | _ => 0

section Refinement

variable {map : HdMap R Q} {current_time step_time : R} {route_lanelets : List ℤ} {e : LaneletEntityStatus R Q}
  {st : DynamicState R}

/-- the step of the refinement for a planned state: a `Forward` update succeeds, stays on the route and moves the
route distance by the trapezoid -/
theorem moveAlongLanelets_forward (hnodup : route_lanelets.Nodup) (hmem : e.laneletPose.laneletId ∈ route_lanelets)
    (hf : Forward map route_lanelets step_time e st.twist) :
    ∃ e', moveAlongLanelets map current_time step_time route_lanelets e st = .ok e' ∧ e'.twist = st.twist ∧
      e'.laneletPose.laneletId ∈ route_lanelets ∧
      routeDistance map route_lanelets e'.laneletPose =
        routeDistance map route_lanelets e.laneletPose + (st.twist.linear.x + e.twist.linear.x) / 2 * step_time := by
  obtain ⟨h0, hend⟩ := hf
  obtain ⟨pre, post, hpre, hroute, -⟩ := List.exists_erase_eq hmem
  have hd : routeDistance map _ _ = _ := routeDistance_eq hpre hroute
  by_cases hL : newS step_time e st.twist ≤ map.getLaneletLength e.laneletPose.laneletId
  case pos =>
    refine ⟨_, moveAlongLanelets_within h0 hL hmem, rfl, hmem, ?_⟩
    rw [entityStatusUpdated_laneletPose, routeDistance_eq (p := ⟨_, newS step_time e st.twist, _, _⟩) hpre hroute, hd,
      newS, add_assoc]
  case neg =>
    rcases post with _ | ⟨r, post⟩
    case nil => exact absurd (by simp [hroute]) (hend.resolve_left hL)
    case cons =>
      have hroute' : route_lanelets = (pre ++ [e.laneletPose.laneletId]) ++ r :: post := by simp [hroute]
      have hr := not_mem_of_nodup_split hnodup hroute'
      refine ⟨_, moveAlongLanelets_cross hpre h0 (not_le.1 hL) hroute, rfl, by simp [hroute], ?_⟩
      rw [entityStatusUpdated_laneletPose, routeDistance_eq (p := ⟨r, _, _, _⟩) hr hroute', hd, newS]
      simp only [List.map_append, List.sum_append, List.map_singleton, List.sum_singleton]
      ring

/-- on a route without repeats, an update of an entity on the route that neither backs over the start of its lanelet
nor runs past the end of the route succeeds, keeps the entity on the route and moves its route distance by exactly
(v_new + v) / 2 · step_time, v_new the planned speed -/
theorem calculateEntityStatusUpdated_forward {planner : SpeedPlanner R} {target_speed : R}
    {constraints : DynamicConstraints R} (hst : planDynamicState planner target_speed constraints e.twist e.accel = st)
    (hnodup : route_lanelets.Nodup) (hmem : e.laneletPose.laneletId ∈ route_lanelets)
    (hf : Forward map route_lanelets step_time e st.twist) :
    ∃ e', calculateEntityStatusUpdated map planner current_time step_time route_lanelets e target_speed constraints =
        .ok e' ∧ e'.twist = st.twist ∧ e'.laneletPose.laneletId ∈ route_lanelets ∧
      routeDistance map route_lanelets e'.laneletPose =
        routeDistance map route_lanelets e.laneletPose + (st.twist.linear.x + e.twist.linear.x) / 2 * step_time := by
  rw [calculateEntityStatusUpdated, hst]
  exact moveAlongLanelets_forward hnodup hmem hf

theorem calculateEntityStatusUpdated_forward_crossing :
    ∃ e', calculateEntityStatusUpdated twoLanelets (constantTwist 4) 0 1 [1, 2] (restingAt 1 9) 4 unitConstraints =
        .ok e' ∧ e'.twist = ⟨⟨4, 0, 0⟩, 0⟩ ∧ e'.laneletPose.laneletId ∈ [1, 2] ∧
      routeDistance twoLanelets [1, 2] e'.laneletPose =
        routeDistance twoLanelets [1, 2] (restingAt 1 9).laneletPose + (4 + 0) / 2 * 1 :=
  calculateEntityStatusUpdated_forward rfl (by decide) (by decide)
    ⟨by norm_num [newS, restingAt, planDynamicState, constantTwist], Or.inr (by decide)⟩

/-- one `RouteStep` keeps the entity on the route and adds its trapezoid to the route distance -/
theorem routeStep_distance (hnodup : route_lanelets.Nodup) (hmem : e.laneletPose.laneletId ∈ route_lanelets)
    {e' : LaneletEntityStatus R Q} (h : RouteStep map route_lanelets step_time e e') :
    e'.laneletPose.laneletId ∈ route_lanelets ∧ routeDistance map route_lanelets e'.laneletPose =
      routeDistance map route_lanelets e.laneletPose + (e'.twist.linear.x + e.twist.linear.x) / 2 * step_time := by
  obtain ⟨planner, current_time, target_speed, constraints, hf, hupd⟩ := h
  obtain ⟨e'', he'', htwist, hmem', hd⟩ := @moveAlongLanelets_forward _ _ _ _ current_time _ _ _ _ hnodup hmem hf
  rw [calculateEntityStatusUpdated, he'', Except.ok.injEq] at hupd
  subst hupd
  exact ⟨hmem', by rw [hd, htwist]⟩

/-- over every run of `RouteStep`s from a lanelet of a route without repeats, the entity stays on the route and its
route distance grows by the trapezoid sum of its speeds: the lanelet frame refines motion along one line -/
theorem routeDistance_run (hnodup : route_lanelets.Nodup) :
    ∀ (es : List (LaneletEntityStatus R Q)) (e : LaneletEntityStatus R Q),
      e.laneletPose.laneletId ∈ route_lanelets → List.Chain (RouteStep map route_lanelets step_time) e es →
      ((e :: es).getLast (List.cons_ne_nil e es)).laneletPose.laneletId ∈ route_lanelets ∧
        routeDistance map route_lanelets ((e :: es).getLast (List.cons_ne_nil e es)).laneletPose =
          routeDistance map route_lanelets e.laneletPose + trapezoidSum step_time (e :: es)
  | [], e, hmem, _ => ⟨hmem, by simp [trapezoidSum]⟩
  | e' :: es, e, hmem, hrun => by
    rw [List.chain_cons] at hrun
    obtain ⟨hmem', hd⟩ := routeStep_distance hnodup hmem hrun.1
    obtain ⟨hlast, hd'⟩ := routeDistance_run hnodup es e' hmem' hrun.2
    rw [List.getLast_cons (List.cons_ne_nil e' es)]
    refine ⟨hlast, ?_⟩
    rw [hd', hd, trapezoidSum, add_assoc]

theorem routeDistance_run_crossedOnce :
    ([restingAt 1 9, crossedOnce].getLast (List.cons_ne_nil _ _)).laneletPose.laneletId ∈ [1, 2] ∧
      routeDistance twoLanelets [1, 2] ([restingAt 1 9, crossedOnce].getLast (List.cons_ne_nil _ _)).laneletPose =
        routeDistance twoLanelets [1, 2] (restingAt 1 9).laneletPose + trapezoidSum 1 [restingAt 1 9, crossedOnce] :=
  have h0 : 0 ≤ newS 1 (restingAt 1 9) ⟨⟨4, 0, 0⟩, 0⟩ := by norm_num [newS, restingAt]
  have hL : (10 : ℚ) < newS 1 (restingAt 1 9) ⟨⟨4, 0, 0⟩, 0⟩ := by norm_num [newS, restingAt]
  routeDistance_run (by decide) [crossedOnce] (restingAt 1 9) (by decide)
    (.cons ⟨constantTwist 4, 0, 4, unitConstraints, ⟨h0, Or.inr (by decide)⟩,
      @moveAlongLanelets_cross ℚ Unit _ twoLanelets 0 1 [1, 2] (restingAt 1 9) ⟨⟨⟨4, 0, 0⟩, 0⟩, ⟨0, 0⟩, 0⟩ [] (by simp)
        h0 hL [] 2 rfl⟩ .nil)

end Refinement

/-! ## The ends of the route -/

/-- the entity stands within the last lanelet of the route, which has no next lanelet on the map -/
structure AtDeadEnd (map : HdMap R Q) (route_lanelets : List ℤ) (lanelet_pose : LaneletPose R) : Prop where
  last : route_lanelets.getLast? = some lanelet_pose.laneletId
  noNext : map.getNextLaneletIds lanelet_pose.laneletId = []
  within : lanelet_pose.s ≤ map.getLaneletLength lanelet_pose.laneletId

/-- e' is an update of e, for some planner, time, target speed and constraints, that does not back over the start of
e's lanelet -/
def ForwardStep (map : HdMap R Q) (route_lanelets : List ℤ) (step_time : R) (e e' : LaneletEntityStatus R Q) :
    Prop :=
  ∃ planner current_time target_speed constraints,
    0 ≤ newS step_time e (planDynamicState planner target_speed constraints e.twist e.accel).twist ∧
      calculateEntityStatusUpdated map planner current_time step_time route_lanelets e target_speed constraints =
        .ok e'

section Ends

variable {map : HdMap R Q} {current_time step_time : R} {route_lanelets : List ℤ} {e : LaneletEntityStatus R Q}
  {st : DynamicState R}

/-- one step of the dead-end invariant: an update that does not back up moves within the last lanelet, or
overshoots it and is stopAtEndOfRoad(), which keeps the lanelet pose -/
theorem forwardStep_atDeadEnd (hnodup : route_lanelets.Nodup) (hd : AtDeadEnd map route_lanelets e.laneletPose)
    {e' : LaneletEntityStatus R Q} (h : ForwardStep map route_lanelets step_time e e') :
    AtDeadEnd map route_lanelets e'.laneletPose := by
  obtain ⟨planner, current_time, target_speed, constraints, h0, hupd⟩ := h
  obtain ⟨pre, hroute⟩ := List.getLast?_eq_some_iff.1 hd.last
  have hpre := not_mem_of_nodup_split hnodup hroute
  rw [calculateEntityStatusUpdated] at hupd
  by_cases hL : newS step_time e (planDynamicState planner target_speed constraints e.twist e.accel).twist ≤
    map.getLaneletLength e.laneletPose.laneletId
  case pos =>
    rw [moveAlongLanelets_within h0 hL (by simp [hroute]), Except.ok.injEq] at hupd
    subst hupd
    exact ⟨hd.last, hd.noNext, hL⟩
  case neg =>
    rw [moveAlongLanelets_end_stop hpre h0 (not_le.1 hL) hroute hd.noNext, Except.ok.injEq] at hupd
    subst hupd
    simpa using hd

/-- on the last lanelet of a route without repeats, with no next lanelet on the map, no run of updates that do not
back up takes the entity off that lanelet or s past its length -/
theorem deadEnd_run (hnodup : route_lanelets.Nodup) (es : List (LaneletEntityStatus R Q))
    (hd : AtDeadEnd map route_lanelets e.laneletPose) (hrun : List.Chain (ForwardStep map route_lanelets step_time) e es) :
    ∀ e' ∈ es, AtDeadEnd map route_lanelets e'.laneletPose :=
  List.Chain.induction (fun e => AtDeadEnd map route_lanelets e.laneletPose) es hrun
    (fun _ _ h hd => forwardStep_atDeadEnd hnodup hd h) hd

theorem deadEnd_run_stopAtEndOfRoad :
    AtDeadEnd twoLanelets [1, 2] (stopAtEndOfRoad 0 1 (restingAt 2 5)).laneletPose :=
  have h0 : 0 ≤ newS 1 (restingAt 2 5) ⟨⟨20, 0, 0⟩, 0⟩ := by norm_num [newS, restingAt]
  have hL : (10 : ℚ) < newS 1 (restingAt 2 5) ⟨⟨20, 0, 0⟩, 0⟩ := by norm_num [newS, restingAt]
  deadEnd_run (by decide) _ ⟨by decide, by decide, by norm_num [restingAt, twoLanelets]⟩
    (.cons ⟨constantTwist 20, 0, 20, unitConstraints, h0,
      moveAlongLanelets_end_stop (by decide) h0 hL (show [1, 2] = [1] ++ [2] from rfl) (by decide)⟩ .nil)
    _ (List.mem_singleton_self _)

/-- past the end of a route without repeats whose last lanelet has a next lanelet n off the route, the update moves
the entity onto n, and from there every update that does not back up throws -/
theorem calculateEntityStatusUpdated_leaves_route {planner : SpeedPlanner R} {target_speed : R}
    {constraints : DynamicConstraints R} (hst : planDynamicState planner target_speed constraints e.twist e.accel = st)
    (hnodup : route_lanelets.Nodup) (hlast : route_lanelets.getLast? = some e.laneletPose.laneletId) {n : ℤ}
    {ns : List ℤ} (hnext : map.getNextLaneletIds e.laneletPose.laneletId = n :: ns) (hout : n ∉ route_lanelets)
    (h0 : 0 ≤ newS step_time e st.twist) (hL : map.getLaneletLength e.laneletPose.laneletId < newS step_time e st.twist) :
    ∃ e', calculateEntityStatusUpdated map planner current_time step_time route_lanelets e target_speed constraints =
        .ok e' ∧ e'.laneletPose.laneletId = n ∧
      ∀ planner' current_time' target_speed' constraints',
        0 ≤ newS step_time e' (planDynamicState planner' target_speed' constraints' e'.twist e'.accel).twist →
        calculateEntityStatusUpdated map planner' current_time' step_time route_lanelets e' target_speed' constraints' =
          .error (.simulation "failed to calculate next status calculateEntityStatusUpdated function") := by
  obtain ⟨pre, hroute⟩ := List.getLast?_eq_some_iff.1 hlast
  rw [calculateEntityStatusUpdated, hst,
    moveAlongLanelets_end_next (not_mem_of_nodup_split hnodup hroute) h0 hL hroute hnext]
  exact ⟨_, rfl, rfl, fun _ _ _ _ h0' => moveAlongLanelets_off_route hout h0'⟩

theorem calculateEntityStatusUpdated_leaves_route_twoLanelets :
    ∃ e', calculateEntityStatusUpdated twoLanelets (constantTwist 4) 0 1 [1] (restingAt 1 9) 4 unitConstraints =
        .ok e' ∧ e'.laneletPose.laneletId = 2 ∧
      ∀ planner' current_time' target_speed' constraints',
        0 ≤ newS 1 e' (planDynamicState planner' target_speed' constraints' e'.twist e'.accel).twist →
        calculateEntityStatusUpdated twoLanelets planner' current_time' 1 [1] e' target_speed' constraints' =
          .error (.simulation "failed to calculate next status calculateEntityStatusUpdated function") :=
  calculateEntityStatusUpdated_leaves_route rfl (by decide) (by decide) rfl (by decide)
    (by norm_num [newS, restingAt, planDynamicState, constantTwist])
    (by norm_num [newS, restingAt, planDynamicState, constantTwist, twoLanelets])

/-- backing over the start of a lanelet into the map's first previous lanelet, when that is the lanelet's predecessor
on a route without repeats, moves the route distance by the trapezoid less 0.01 -/
theorem calculateEntityStatusUpdated_backward {planner : SpeedPlanner R} {target_speed : R}
    {constraints : DynamicConstraints R} (hst : planDynamicState planner target_speed constraints e.twist e.accel = st)
    (hnodup : route_lanelets.Nodup) {pre post : List ℤ} {p : ℤ} {ps : List ℤ}
    (hroute : route_lanelets = pre ++ p :: e.laneletPose.laneletId :: post)
    (hprev : map.getPreviousLaneletIds e.laneletPose.laneletId = p :: ps) (hs : newS step_time e st.twist < 0) :
    ∃ e', calculateEntityStatusUpdated map planner current_time step_time route_lanelets e target_speed constraints =
        .ok e' ∧ e'.laneletPose.laneletId = p ∧
      routeDistance map route_lanelets e'.laneletPose = routeDistance map route_lanelets e.laneletPose +
        (st.twist.linear.x + e.twist.linear.x) / 2 * step_time - 0.01 := by
  rw [calculateEntityStatusUpdated, hst, moveAlongLanelets_back hs hprev]
  have hroute' : route_lanelets = (pre ++ [p]) ++ e.laneletPose.laneletId :: post := by simp [hroute]
  refine ⟨_, rfl, rfl, ?_⟩
  rw [entityStatusUpdated_laneletPose, routeDistance_eq (p := ⟨p, _, _, _⟩) (not_mem_of_nodup_split hnodup hroute)
    hroute, routeDistance_eq (not_mem_of_nodup_split hnodup hroute') hroute', newS]
  simp only [List.map_append, List.sum_append, List.map_singleton, List.sum_singleton]
  ring

theorem calculateEntityStatusUpdated_backward_twoLanelets :
    ∃ e', calculateEntityStatusUpdated twoLanelets (constantTwist (-4)) 0 1 [1, 2] (restingAt 2 1) (-4)
        unitConstraints = .ok e' ∧ e'.laneletPose.laneletId = 1 ∧
      routeDistance twoLanelets [1, 2] e'.laneletPose =
        routeDistance twoLanelets [1, 2] (restingAt 2 1).laneletPose + (-4 + 0) / 2 * 1 - 0.01 :=
  calculateEntityStatusUpdated_backward rfl (by decide) (show [1, 2] = [] ++ [1, 2] from rfl) rfl
    (by norm_num [newS, restingAt, planDynamicState, constantTwist])

end Ends

end ScenarioSimulator.EntityBehavior

